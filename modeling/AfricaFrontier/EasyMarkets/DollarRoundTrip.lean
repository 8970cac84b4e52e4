import AfricaFrontier.EasyMarkets.PortfolioValue

/-!
# Dollars and back (`DashboardService.convert_from_usd`)

Each of the two conversions rounds to cents of the currency it converts to.  The cents of a
currency that is worth less than a dollar are a finer grid than those of the dollar, and an amount
of dollars comes back from there as it was; an amount of the currency does not always come back
from dollars.  For the currencies that are worth more it is the other way round.  The dollar alone
has both (`dollars_return_iff`, `money_returns_iff`).

The context of 28 digits does not spoil it: before an amount is rounded to cents the error of the
division is at most half a cent where the amount is as large as can be quantized, and a tenth of
that for each digit it is shorter (`abs_inContext_sub_le`).

A round trip rounds three times, with the context of 28 digits: the first conversion to the
context and to cents, the way back to the context, and to cents again. `quantized_returns` puts
the bounds together for any rate; `rate_cases` leaves three kinds of rates of the table; and the
failing directions each have an amount, one cent of the finer unit, that comes to nothing
(`cent_lost`).
-/

namespace AfricaFrontier

open Python

/-! ## The conversion -/

/-- What `convert_from_usd` raises. -/
inductive FromUsdError
  | dashboard (error : DashboardError)
  /-- `ValueError`. -/
  | invalidRate (currency : String)
  deriving DecidableEq

/-- `convert_from_usd`: the quotient in the context, rounded half up to cents. A rate of zero is
refused before the division. -/
def convertFromUsd (amountUsd : ℚ) (targetCurrency : String) : Except FromUsdError ℚ :=
  match fxToUsd.lookup (upper targetCurrency) with
  | none => .error (.dashboard (.unknownCurrency (upper targetCurrency)))
  | some rate =>
      if rate.value = 0 then .error (.invalidRate (upper targetCurrency))
      else
        match quantizeHalfUp cents (inContext (amountUsd / rate.value)) with
        | none => .error (.dashboard .invalidOperation)
        | some value => .ok value

example : convertFromUsd 100 "xof" = .ok (6060606 / 100) ∧
    convertFromUsd 1 "JPY" = .error (.dashboard (.unknownCurrency "JPY")) := by
  decide +kernel

section Conversions

variable {currency : String} {rate : Numeral} {amount value : ℚ}

/-- What the conversion to dollars answers, at a rate of the table. -/
theorem convertToUsd_ok_iff (hrate : fxToUsd.lookup (upper currency) = some rate) :
    convertToUsd amount currency = .ok value ↔
      quantizeWith roundHalfUp cents (inContext (amount * rate.value)) = some value := by
  rw [← quantizeHalfUp_eq_with, convertToUsd, hrate]
  dsimp only
  cases quantizeHalfUp cents (inContext (amount * rate.value)) with
  | none => simp
  | some rounded => simp

/-- What the conversion from dollars answers. -/
theorem convertFromUsd_ok_iff (hrate : fxToUsd.lookup (upper currency) = some rate)
    (hpos : 0 < rate.value) :
    convertFromUsd amount currency = .ok value ↔
      quantizeWith roundHalfUp cents (inContext (amount / rate.value)) = some value := by
  rw [← quantizeHalfUp_eq_with, convertFromUsd, hrate]
  dsimp only
  rw [if_neg (ne_of_gt hpos)]
  cases quantizeHalfUp cents (inContext (amount / rate.value)) with
  | none => simp
  | some rounded => simp

/-- The rates: far less than a dollar, a dollar, and the two that are more. -/
theorem rate_cases (hrate : fxToUsd.lookup currency = some rate) :
    (0 < rate.value ∧ rate.value ≤ 66 / 1000) ∨ rate.value = 1 ∨
      rate.value = 108 / 100 ∨ rate.value = 127 / 100 := by
  have hall : ∀ entry ∈ fxToUsd, (0 < entry.2.value ∧ entry.2.value ≤ 66 / 1000) ∨
      entry.2.value = 1 ∨ entry.2.value = 108 / 100 ∨ entry.2.value = 127 / 100 := by
    decide +kernel
  obtain ⟨front, back, hsplit, -⟩ := List.lookup_eq_some_iff.mp hrate
  refine hall (currency, rate) ?_
  rw [hsplit]
  exact List.mem_append_right front List.mem_cons_self

/-- No rate of the table is zero. -/
theorem rate_pos (hrate : fxToUsd.lookup currency = some rate) : 0 < rate.value := by
  rcases rate_cases hrate with ⟨hpos, -⟩ | hone | heur | hgbp
  · exact hpos
  · rw [hone]
    norm_num
  · rw [heur]
    norm_num
  · rw [hgbp]
    norm_num

end Conversions

/-! ## The errors

Half a unit in the last place that is kept, for the context and for the cents. -/

section Errors

open Rounding

variable {x value : ℚ} {m : ℤ}

/-- What the context takes from a number with so many digits before its point. -/
theorem abs_inContext_sub_le {digits : ℕ} (h : |x| < 10 ^ digits) :
    |inContext x - x| ≤ 10 ^ digits / 10 ^ 28 / 2 := by
  have hsize : |x| < ((10 : ℕ) : ℚ) ^ (((digits : ℤ) - 1) + 1) := by
    rw [sub_add_cancel, zpow_natCast]
    exact_mod_cast h
  have hle := @abs_toDigits_sub_le_of_lt ℚ _ _ _ _ 10 28 roundHalfEven x roundHalfEven_nearest
    (by decide) _ hsize
  have hstep : ((10 : ℕ) : ℚ) ^ ((digits : ℤ) - 1 - ((28 : ℕ) - 1)) = 10 ^ digits / 10 ^ 28 := by
    have hexponent : (digits : ℤ) - 1 - ((28 : ℕ) - 1) = digits - (28 : ℕ) := by
      push_cast
      ring
    rw [hexponent, zpow_sub₀ (by norm_num), zpow_natCast, zpow_natCast]
    push_cast
    rfl
  rw [hstep] at hle
  exact hle

/-- What is quantized to cents after an operation has at most 26 digits before its point. -/
theorem abs_lt_of_quantized (h : quantizeWith roundHalfUp cents (inContext x) = some value) :
    |x| < 10 ^ 26 := by
  have hround := roundHalfUp_nearest.isRounding
  obtain ⟨hlow, hhigh⟩ := quantizeWith_size h
  rw [abs_lt]
  constructor
  · by_contra hle
    have hcut := inContext_le (fits28_pow 26).neg (not_lt.mp hle)
    have hbound : inContext x ≤ ((-10 ^ 28 : ℤ) : ℚ) / 10 ^ cents := by
      norm_num [cents] at hcut ⊢
      linarith
    have hvalue := quantizeWith_le hround h hbound
    norm_num [cents] at hvalue
    linarith
  · by_contra hge
    have hcut := le_inContext (fits28_pow 26) (not_lt.mp hge)
    have hbound : ((10 ^ 28 : ℤ) : ℚ) / 10 ^ cents ≤ inContext x := by
      norm_num [cents] at hcut ⊢
      linarith
    have hvalue := le_quantizeWith hround h hbound
    norm_num [cents] at hvalue
    linarith

/-- The cents of the answer are near the number. -/
theorem quantized_near (h : quantizeWith roundHalfUp cents (inContext x) = some value) :
    ∃ n : ℤ, value = n / 10 ^ cents ∧
      |(n : ℚ) - x * 10 ^ cents| ≤ 1 / 2 + |inContext x - x| * 10 ^ cents := by
  obtain ⟨-, rfl⟩ := quantizeWith_eq_some.mp h
  refine ⟨_, rfl, ?_⟩
  have hpow : (0 : ℚ) < 10 ^ cents := pow_places_pos cents
  calc |(roundHalfUp (inContext x * 10 ^ cents) : ℚ) - x * 10 ^ cents|
      = |((roundHalfUp (inContext x * 10 ^ cents) : ℚ) - inContext x * 10 ^ cents) +
          (inContext x - x) * 10 ^ cents| := by ring_nf
    _ ≤ |(roundHalfUp (inContext x * 10 ^ cents) : ℚ) - inContext x * 10 ^ cents| +
          |(inContext x - x) * 10 ^ cents| := abs_add_le _ _
    _ ≤ 1 / 2 + |inContext x - x| * 10 ^ cents := by
        rw [abs_mul, abs_of_pos hpow]
        have hnear := roundHalfUp_nearest (inContext x * 10 ^ cents)
        linarith

end Errors

/-! ## The round trips

An amount returns when what was added or lost on the way is less than half a cent of its own
unit. -/

/-- An amount that is rounded to cents of another unit, and back to cents of its own, is there
again, as long as the errors of both roundings come to less than half a cent. -/
theorem quantized_returns {k y : ℚ} {m : ℤ} {digits digits' : ℕ} (hk : 0 < k)
    (hthere : quantizeWith roundHalfUp cents (inContext ((m : ℚ) / 10 ^ cents / k)) = some y)
    (hsize : |(m : ℚ) / 10 ^ cents / k| < 10 ^ digits) (hsize' : |y * k| < 10 ^ digits')
    (hsmall : (1 / 2 + 10 ^ digits / 10 ^ 28 / 2 * 10 ^ cents) * k +
      10 ^ digits' / 10 ^ 28 / 2 * 10 ^ cents < 1 / 2)
    (hfits : m.natAbs < 10 ^ 28) :
    quantizeWith roundHalfUp cents (inContext (y * k)) = some ((m : ℚ) / 10 ^ cents) := by
  have hpow : (0 : ℚ) < 10 ^ cents := pow_places_pos cents
  obtain ⟨n, rfl, hnear⟩ := quantized_near hthere
  have hthere' : |(n : ℚ) - m / k| ≤ 1 / 2 + 10 ^ digits / 10 ^ 28 / 2 * 10 ^ cents := by
    have hcancel : (m : ℚ) / 10 ^ cents / k * 10 ^ cents = m / k := by
      rw [div_right_comm, div_mul_cancel₀ _ (ne_of_gt hpow)]
    rw [hcancel] at hnear
    have herror := mul_le_mul_of_nonneg_right (abs_inContext_sub_le hsize) (le_of_lt hpow)
    linarith
  have hback : |inContext ((n : ℚ) / 10 ^ cents * k) * 10 ^ cents - n * k| ≤
      10 ^ digits' / 10 ^ 28 / 2 * 10 ^ cents := by
    have hsplit : inContext ((n : ℚ) / 10 ^ cents * k) * 10 ^ cents - n * k =
        (inContext ((n : ℚ) / 10 ^ cents * k) - (n : ℚ) / 10 ^ cents * k) * 10 ^ cents := by
      have hcancel : (n : ℚ) / 10 ^ cents * k * 10 ^ cents = n * k := by
        rw [mul_right_comm, div_mul_cancel₀ _ (ne_of_gt hpow)]
      rw [sub_mul, hcancel]
    rw [hsplit, abs_mul, abs_of_pos hpow]
    exact mul_le_mul_of_nonneg_right (abs_inContext_sub_le hsize') (le_of_lt hpow)
  -- both errors together are less than half a cent
  have hreturns := roundHalfUp_nearest.returns hk hthere' hback hsmall
  rw [quantizeWith_eq_some, hreturns]
  exact ⟨hfits, rfl⟩

/-- Amounts of at most 26 digits before the point have at most 28 in cents. -/
theorem natAbs_lt_of_cents {m : ℤ} (h : |(m : ℚ) / 10 ^ cents| < 10 ^ 26) :
    m.natAbs < 10 ^ 28 := by
  have hlow := lt_cents_iff.mp (abs_lt.mp h).1
  have hhigh := cents_lt_iff.mp (abs_lt.mp h).2
  omega

/-- Whole cents are left alone. -/
theorem quantized_self {m : ℤ} {y : ℚ}
    (h : quantizeWith roundHalfUp cents (inContext ((m : ℚ) / 10 ^ cents)) = some y) :
    y = (m : ℚ) / 10 ^ cents := by
  have hwhole : WholeCents ((m : ℚ) / 10 ^ cents) := ⟨m, rfl⟩
  obtain ⟨hlow, hhigh⟩ := abs_lt.mp (abs_lt_of_quantized h)
  rw [inContext_eq_self (hwhole.fits28 hlow hhigh)] at h
  exact ((hwhole.quantizeWith_iff roundHalfUp_nearest.isRounding).mp h).2

section RoundTrips

variable {currency : String} {rate : Numeral}

/-- An amount of dollars comes back from a currency that is worth far less. -/
theorem dollars_return_of_small {m : ℤ} {money : ℚ} (hpos : 0 < rate.value)
    (hrate : rate.value ≤ 66 / 1000)
    (hthere : quantizeWith roundHalfUp cents (inContext ((m : ℚ) / 10 ^ cents / rate.value)) =
      some money) :
    quantizeWith roundHalfUp cents (inContext (money * rate.value)) =
      some ((m : ℚ) / 10 ^ cents) := by
  have hsize := abs_lt_of_quantized hthere
  have hmoney : |money| < 10 ^ 26 := abs_lt.mpr (quantizeWith_size hthere)
  -- back in dollars an amount has a digit less before the point
  have hless : ∀ x : ℚ, |x| < 10 ^ 26 → |x * rate.value| < 10 ^ 25 := by
    intro x hx
    rw [abs_mul, abs_of_pos hpos]
    calc |x| * rate.value ≤ |x| * (66 / 1000) := mul_le_mul_of_nonneg_left hrate (abs_nonneg x)
      _ < 10 ^ 26 * (66 / 1000) := mul_lt_mul_of_pos_right hx (by norm_num)
      _ < 10 ^ 25 := by norm_num
  refine quantized_returns hpos hthere hsize (hless money hmoney) ?_ ?_
  · norm_num [cents]
    linarith
  · have hm := hless _ hsize
    rw [div_mul_cancel₀ _ (ne_of_gt hpos)] at hm
    exact natAbs_lt_of_cents (hm.trans (by norm_num))

/-- An amount of money comes back from dollars where it is worth more. -/
theorem money_returns_of_large {m : ℤ} {usd : ℚ} (hlow : 108 / 100 ≤ rate.value)
    (hhigh : rate.value ≤ 127 / 100) (hm : |(m : ℚ) / 10 ^ cents| < 10 ^ 23)
    (hthere : quantizeWith roundHalfUp cents (inContext ((m : ℚ) / 10 ^ cents * rate.value)) =
      some usd) :
    quantizeWith roundHalfUp cents (inContext (usd / rate.value)) =
      some ((m : ℚ) / 10 ^ cents) := by
  have hpos : 0 < rate.value := lt_of_lt_of_le (by norm_num) hlow
  have hinverse : rate.value⁻¹ ≤ 100 / 108 := by
    rw [inv_le_comm₀ hpos (by norm_num)]
    norm_num
    linarith
  have hsize : |(m : ℚ) / 10 ^ cents * rate.value| < 10 ^ 23 * 2 := by
    rw [abs_mul, abs_of_pos hpos]
    calc |(m : ℚ) / 10 ^ cents| * rate.value ≤ |(m : ℚ) / 10 ^ cents| * 2 :=
          mul_le_mul_of_nonneg_left (by linarith) (abs_nonneg _)
      _ < 10 ^ 23 * 2 := mul_lt_mul_of_pos_right hm (by norm_num)
  -- the dollars are near the product, so that the way back fits the context as well
  have husd : |usd * rate.value⁻¹| < 10 ^ 24 := by
    have herror := @abs_inContext_sub_le _ 24 (hsize.trans (by norm_num))
    obtain ⟨n, rfl, hnear⟩ := quantized_near hthere
    have hcents : (10 : ℚ) ^ cents = 100 := by norm_num [cents]
    have hn : |(n : ℚ) / 10 ^ cents| < 10 ^ 24 := by
      rw [hcents] at hsize hnear herror ⊢
      obtain ⟨hxlow, hxhigh⟩ := abs_lt.mp hsize
      obtain ⟨hnlow, hnhigh⟩ := abs_le.mp hnear
      exact abs_lt.mpr ⟨by linarith, by linarith⟩
    rw [abs_mul, abs_of_pos (inv_pos.mpr hpos)]
    calc |(n : ℚ) / 10 ^ cents| * rate.value⁻¹ ≤ |(n : ℚ) / 10 ^ cents| * 1 :=
          mul_le_mul_of_nonneg_left (by linarith) (abs_nonneg _)
      _ < 10 ^ 24 := by rwa [mul_one]
  have hfits : m.natAbs < 10 ^ 28 := natAbs_lt_of_cents (hm.trans (by norm_num))
  rw [← div_inv_eq_mul] at hthere hsize
  rw [div_eq_mul_inv]
  refine @quantized_returns _ _ _ 24 24 (inv_pos.mpr hpos) hthere (hsize.trans (by norm_num)) husd
    ?_ hfits
  norm_num [cents]
  linarith

/-- A cent of a currency that is worth far less comes to no cent of a dollar. -/
theorem cent_lost (hpos : 0 < rate.value) (hrate : rate.value ≤ 66 / 1000) :
    quantizeWith roundHalfUp cents (inContext (1 / 100 * rate.value)) = some 0 := by
  have hbound : Fits28 (66 / 10 ^ 5) := by
    have hfits := @fits28_of_places 66 (by norm_num) 5
    rw [Int.cast_ofNat] at hfits
    exact hfits
  have hlow : 0 ≤ inContext (1 / 100 * rate.value) :=
    inContext_nonneg (mul_nonneg (by norm_num) (le_of_lt hpos))
  have hhigh : inContext (1 / 100 * rate.value) ≤ 66 / 10 ^ 5 :=
    inContext_le hbound (by norm_num; linarith)
  have hzero : roundHalfUp (inContext (1 / 100 * rate.value) * 10 ^ cents) = 0 := by
    refine roundHalfUp_nearest.eq_of_near ?_
    rw [Int.cast_zero, sub_zero, abs_of_nonneg (mul_nonneg hlow (le_of_lt (pow_places_pos cents)))]
    norm_num [cents] at hhigh ⊢
    linarith
  rw [quantizeWith_eq_some, hzero]
  norm_num

/-- **Dollars come back** from a currency, whatever the amount, if and only if it is worth no more
than a dollar. -/
theorem dollars_return_iff (hrate : fxToUsd.lookup (upper currency) = some rate) :
    (∀ amount money, WholeCents amount → convertFromUsd amount currency = .ok money →
      convertToUsd money currency = .ok amount) ↔ rate.value ≤ 1 := by
  have hpos := rate_pos hrate
  simp only [convertToUsd_ok_iff hrate, convertFromUsd_ok_iff hrate hpos]
  constructor
  · intro hreturns
    rcases rate_cases hrate with ⟨-, hsmall⟩ | hone | heur | hgbp
    · linarith
    · exact hone.le
    · rw [heur] at hreturns
      have hseven := hreturns (7 / 100) (6 / 100) ⟨7, by norm_num [cents]⟩ (by decide +kernel)
      exact absurd hseven (by decide +kernel)
    · rw [hgbp] at hreturns
      have htwo := hreturns (2 / 100) (2 / 100) ⟨2, by norm_num [cents]⟩ (by decide +kernel)
      exact absurd htwo (by decide +kernel)
  · rintro hle amount money ⟨m, rfl⟩ hthere
    rcases rate_cases hrate with ⟨-, hsmall⟩ | hone | heur | hgbp
    · exact dollars_return_of_small hpos hsmall hthere
    · rw [hone, div_one] at hthere
      obtain rfl := quantized_self hthere
      rw [hone, mul_one]
      exact hthere
    · rw [heur] at hle
      norm_num at hle
    · rw [hgbp] at hle
      norm_num at hle

/-- A hundred dollars in francs, and back. -/
theorem dollars_return_iff_xof : convertToUsd (6060606 / 100) "XOF" = .ok 100 := by
  have hrate : fxToUsd.lookup (upper "XOF") = some ⟨165, -5⟩ := by decide
  exact (dollars_return_iff hrate).mpr (by decide +kernel) 100 (6060606 / 100)
    ⟨10000, by norm_num [cents]⟩ (by decide +kernel)

/-- **Money comes back** from dollars, whatever the amount of at most 23 digits before the point,
if and only if it is worth no less than a dollar. -/
theorem money_returns_iff (hrate : fxToUsd.lookup (upper currency) = some rate) :
    (∀ amount usd, WholeCents amount → |amount| < 10 ^ 23 →
      convertToUsd amount currency = .ok usd → convertFromUsd usd currency = .ok amount) ↔
        1 ≤ rate.value := by
  have hpos := rate_pos hrate
  simp only [convertToUsd_ok_iff hrate, convertFromUsd_ok_iff hrate hpos]
  constructor
  · intro hreturns
    -- a rate below one, one itself, or one of the two above
    rcases rate_cases hrate with ⟨-, hsmall⟩ | hone | heur | hgbp
    · have hcent := hreturns (1 / 100) 0 ⟨1, by norm_num [cents]⟩ (by norm_num)
        (cent_lost hpos hsmall)
      rw [zero_div] at hcent
      exact absurd hcent (by decide +kernel)
    · exact hone.ge
    · rw [heur]
      norm_num
    · rw [hgbp]
      norm_num
  · rintro hge amount usd ⟨m, rfl⟩ hm hthere
    rcases rate_cases hrate with ⟨-, hsmall⟩ | hone | heur | hgbp
    · linarith
    · rw [hone, mul_one] at hthere
      obtain rfl := quantized_self hthere
      rw [hone, div_one]
      exact hthere
    · exact money_returns_of_large heur.ge (by rw [heur]; norm_num) hm hthere
    · exact money_returns_of_large (by rw [hgbp]; norm_num) hgbp.le hm hthere

/-- Seven cents of a euro in dollars, and back. -/
theorem money_returns_iff_eur : convertFromUsd (8 / 100) "EUR" = .ok (7 / 100) := by
  have hrate : fxToUsd.lookup (upper "EUR") = some ⟨108, -2⟩ := by decide
  exact (money_returns_iff hrate).mpr (by decide +kernel) (7 / 100) (8 / 100)
    ⟨7, by norm_num [cents]⟩ (by norm_num) (by decide +kernel)

end RoundTrips

end AfricaFrontier
