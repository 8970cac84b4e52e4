import AfricaFrontier.RevenueEngine.Fees

/-!
# Fees within the payment, and breakdowns that balance

The minimum fee does not depend on the amount, so that a small payment is charged more than
it is.  And the breakdown rounds the amount and the net amount half to even, each for itself:
a half cent goes the same way in both only if the fee is an even number of cents.  Cutting the
net amount to 28 digits can also make a half cent of an amount with more digits.

`fee_balances_iff` has these conditions on the amount, and beside them the sizes up to which
`quantize` answers, and says that there is no other.

There are two calculators and three roundings: the fee half up, the amount and the net amount half
to even. The equation gross = fee + net is settled by the last two, with the fee a number of
cents: a shift by a number of cents goes through the rounding except at a tie, where it must be
even (`roundHalfEven_add`). The cut to 28 digits is handled apart (`inContext_round_iff`), and
does nothing to an amount that a column can hold.
-/

namespace AfricaFrontier

open Python Rounding

/-! ## The condition

It is on the amount, the bounds in its currency, and the provider. -/

/-- The fee that is due: the commission, clamped and rounded half up to cents. -/
def FeeSettings.dueFee (settings : FeeSettings) (lo hi amount : ℚ) : ℚ :=
  roundHalfUp (clampFee lo hi (shareBps settings.afmCommissionBps amount) * 10 ^ cents) /
    10 ^ cents

/-- The estimate for the provider, rounded half to even to cents. -/
def duePspFee (bps : ℕ) (amount : ℚ) : ℚ :=
  roundHalfEven (shareBps bps amount * 10 ^ cents) / 10 ^ cents

/-- The amount is a number of cents and a half. -/
def HalfCent (amount : ℚ) : Prop := ∃ n : ℤ, amount * 10 ^ cents = n + 1 / 2

/-- The amount and what is left of it round to cents alike. -/
structure TiesAgree (amount fee : ℚ) : Prop where
  /-- A half cent is left alone by an even fee. -/
  half : HalfCent amount → ∃ m : ℤ, Even m ∧ fee = m / 10 ^ cents
  /-- Where 28 digits make a half cent of the rest, it goes to the side it came from. -/
  below : ∀ n : ℤ, inContext (amount - fee) * 10 ^ cents = n + 1 / 2 →
    amount - fee < inContext (amount - fee) → Even n
  above : ∀ n : ℤ, inContext (amount - fee) * 10 ^ cents = n + 1 / 2 →
    inContext (amount - fee) < amount - fee → Odd n

/-- The payment is at least the minimum fee, small enough to be quantized, and its half cents
agree. -/
structure FeeFits (settings : FeeSettings) (pspBps : ℕ) (lo hi amount : ℚ) : Prop where
  covers : lo ≤ amount
  size : amount < 10 ^ 26 - 1 / 200
  total : settings.dueFee lo hi amount + duePspFee pspBps amount < 10 ^ 26
  ties : TiesAgree amount (settings.dueFee lo hi amount)

/-! ## Rounding a shifted amount

When the roundings of an amount and of what is left of it differ by the fee. -/

/-- What is near an integer is no tie. -/
theorem near_ne_half {x : ℚ} {m : ℤ} (hm : |x - m| < 1 / 2) (n : ℤ) : x ≠ n + 1 / 2 := by
  rintro rfl
  obtain ⟨hlow, hhigh⟩ := abs_lt.mp hm
  have hlow : m ≤ n := int_le_of_lt_add_one (by linarith)
  have hhigh : n < m := Int.cast_lt.mp (by linarith : (n : ℚ) < m)
  omega

/-- No integer is a tie. -/
theorem intCast_ne_half (m n : ℤ) : (m : ℚ) ≠ n + 1 / 2 :=
  near_ne_half (m := m) (by simp) n

/-- A shift by a whole number of cents goes through the rounding, unless an odd one meets a
tie. -/
theorem roundHalfEven_add {x : ℚ} (k : ℤ) :
    roundHalfEven (x + k) = roundHalfEven x + k ↔ (∃ n : ℤ, x = n + 1 / 2) → Even k := by
  rcases half_or_near x with ⟨n, rfl⟩ | ⟨n, hn⟩
  · have hshift : ((n : ℚ) + 1 / 2) + k = ((n + k : ℤ) : ℚ) + 1 / 2 := by
      push_cast
      ring
    rw [hshift, roundHalfEven_half, roundHalfEven_half, Int.even_iff]
    constructor
    · intro hsame _
      omega
    · intro heven
      have hk := heven ⟨n, rfl⟩
      omega
  · have hshift : |x + k - ((n + k : ℤ) : ℚ)| < 1 / 2 := by
      have hsame : x + k - ((n + k : ℤ) : ℚ) = x - n := by
        push_cast
        ring
      rw [hsame]
      exact hn
    rw [roundHalfEven_nearest.eq_of_near hshift, roundHalfEven_nearest.eq_of_near hn]
    exact iff_of_true rfl fun ⟨m, hm⟩ => absurd hm (near_ne_half hn m)

/-- Half cents of up to 25 digits before the point have 28 digits at most. -/
theorem fits28_half {n : ℤ} (hlow : -10 ^ 27 ≤ n) (hhigh : n < 10 ^ 27) :
    Fits28 (((n : ℚ) + 1 / 2) / 10 ^ cents) := by
  have hunits : |10 * n + 5| < 10 ^ 28 := by
    rw [abs_lt]
    constructor <;> omega
  have hplaces : ((n : ℚ) + 1 / 2) / 10 ^ cents = ((10 * n + 5 : ℤ) : ℚ) / 10 ^ 3 := by
    push_cast
    norm_num [cents]
    ring
  rw [hplaces]
  exact fits28_of_places hunits 3

/-- Cutting to 28 digits does not cross a half cent. -/
theorem inContext_near {d : ℚ} (hd : 0 ≤ d) (hsize : d < 10 ^ 25) {m : ℤ}
    (hm : |d * 10 ^ cents - m| < 1 / 2) :
    (m : ℚ) - 1 / 2 ≤ inContext d * 10 ^ cents ∧ inContext d * 10 ^ cents ≤ m + 1 / 2 := by
  have hpos : (0 : ℚ) < 10 ^ cents := pow_places_pos cents
  obtain ⟨hlow, hhigh⟩ := abs_lt.mp hm
  have hmost : d * 10 ^ cents < 10 ^ 27 := by
    have hscaled := mul_lt_mul_of_pos_right hsize hpos
    norm_num [cents] at hscaled ⊢
    exact hscaled
  have hleast : 0 ≤ d * 10 ^ cents := mul_nonneg hd (le_of_lt hpos)
  have hm₀ : 0 ≤ m := int_le_of_lt_add_one (by push_cast; linarith)
  have hm₁ : m ≤ 10 ^ 27 := int_le_of_lt_add_one (by push_cast; linarith)
  constructor
  · have hfits : Fits28 ((((m - 1 : ℤ) : ℚ) + 1 / 2) / 10 ^ cents) :=
      fits28_half (by omega) (by omega)
    have hle : (((m - 1 : ℤ) : ℚ) + 1 / 2) / 10 ^ cents ≤ d := by
      rw [div_le_iff₀ hpos]
      push_cast
      linarith
    have hround := (div_le_iff₀ hpos).mp (le_inContext hfits hle)
    push_cast at hround
    linarith
  · rcases hm₁.lt_or_eq with hlt | rfl
    · have hle : d ≤ ((m : ℚ) + 1 / 2) / 10 ^ cents := by
        rw [le_div_iff₀ hpos]
        linarith
      exact (le_div_iff₀ hpos).mp (inContext_le (fits28_half (by omega) hlt) hle)
    · -- beyond the last half cent that fits there is only the power of ten
      have hround := inContext_le (fits28_pow 25) (le_of_lt hsize)
      have hscaled := mul_le_mul_of_nonneg_right hround (le_of_lt hpos)
      norm_num [cents] at hscaled ⊢
      linarith

/-- A tie is left alone, or has become whole cents on the side it would go to anyway. -/
theorem inContext_tie {d : ℚ} (hd : 0 ≤ d) (hsize : d < 10 ^ 26)
    (htie : ∃ n : ℤ, d * 10 ^ cents = n + 1 / 2) :
    roundHalfEven (inContext d * 10 ^ cents) = roundHalfEven (d * 10 ^ cents) ∧
      ∀ n : ℤ, inContext d * 10 ^ cents = n + 1 / 2 → inContext d = d := by
  have hpos : (0 : ℚ) < 10 ^ cents := pow_places_pos cents
  obtain ⟨n, hn⟩ := htie
  rcases lt_or_ge d (10 ^ 25) with hsmall | hlarge
  · have hself : inContext d = d := by
      have hplaces : d = ((n : ℚ) + 1 / 2) / 10 ^ cents := by
        rw [← hn, mul_div_cancel_right₀ _ (ne_of_gt hpos)]
      have hscaled := mul_lt_mul_of_pos_right hsmall hpos
      have hscaled₀ : 0 ≤ d * 10 ^ cents := mul_nonneg hd (le_of_lt hpos)
      rw [hn] at hscaled hscaled₀
      have hn₀ : 0 ≤ n := int_le_of_lt_add_one (by push_cast; linarith)
      have hn₁ : (n : ℚ) < 10 ^ 27 := by
        norm_num [cents] at hscaled ⊢
        linarith
      have hn₁ : n < 10 ^ 27 := by exact_mod_cast hn₁
      rw [hplaces]
      exact inContext_eq_self (fits28_half (by omega) hn₁)
    rw [hself]
    exact ⟨rfl, fun _ _ => rfl⟩
  · have hcents : inContext d * 10 ^ cents = roundHalfEven (d * 10 ^ cents) := by
      rw [inContext_eq_cents hlarge hsize, div_mul_cancel₀ _ (ne_of_gt hpos)]
    rw [hcents]
    refine ⟨roundHalfEven_nearest.isRounding.exact _, fun n' hn' => ?_⟩
    -- whole cents are no tie
    exact absurd hn' (intCast_ne_half _ _)

/-- What is not a tie rounds as it would have before the cut, unless the cut made a tie of it
and the even neighbour is on the other side. -/
theorem inContext_round_iff {d : ℚ} (hd : 0 ≤ d) (hsize : d < 10 ^ 26) {m : ℤ}
    (hm : |d * 10 ^ cents - m| < 1 / 2) :
    roundHalfEven (inContext d * 10 ^ cents) = m ↔
      ∀ n : ℤ, inContext d * 10 ^ cents = n + 1 / 2 →
        (d < inContext d → Even n) ∧ (inContext d < d → Odd n) := by
  have hpos : (0 : ℚ) < 10 ^ cents := pow_places_pos cents
  obtain ⟨hlow, hhigh⟩ := abs_lt.mp hm
  rcases lt_or_ge d (10 ^ 25) with hsmall | hlarge
  · obtain ⟨hleast, hmost⟩ := inContext_near hd hsmall hm
    rcases half_or_near (inContext d * 10 ^ cents) with ⟨n, hn⟩ | ⟨n, hn⟩
    · -- the cut is at a half cent next to it
      have hmost' : n ≤ m := int_le_of_lt_add_one (by linarith)
      have hleast' : m ≤ n + 1 := int_le_of_lt_add_one (by push_cast; linarith)
      have hbelow : d < inContext d ↔ n = m := by
        rw [← mul_lt_mul_iff_left₀ hpos, hn]
        constructor
        · intro hlt
          have hle : m ≤ n := int_le_of_lt_add_one (by linarith)
          exact le_antisymm hmost' hle
        · rintro rfl
          linarith
      have habove : inContext d < d ↔ n = m - 1 := by
        rw [← mul_lt_mul_iff_left₀ hpos, hn]
        constructor
        · intro hlt
          have hge : n < m := Int.cast_lt.mp (by linarith : (n : ℚ) < m)
          omega
        · rintro rfl
          push_cast
          linarith
      have honly : (∀ n' : ℤ, (n : ℚ) + 1 / 2 = n' + 1 / 2 →
          (d < inContext d → Even n') ∧ (inContext d < d → Odd n')) ↔
            (n = m → Even n) ∧ (n = m - 1 → Odd n) := by
        rw [hbelow, habove]
        constructor
        · exact fun h => h n rfl
        · intro h n' hn'
          have hsame : n = n' := by exact_mod_cast add_right_cancel hn'
          rw [← hsame]
          exact h
      rw [hn, roundHalfEven_half, honly, Int.even_iff, Int.odd_iff]
      omega
    · have hround : roundHalfEven (inContext d * 10 ^ cents) = n :=
        roundHalfEven_nearest.eq_of_near hn
      obtain ⟨hnlow, hnhigh⟩ := abs_lt.mp hn
      have hsame : n = m :=
        le_antisymm (int_le_of_lt_add_one (by linarith)) (int_le_of_lt_add_one (by linarith))
      exact iff_of_true (hround.trans hsame) fun n' hn' => absurd hn' (near_ne_half hn n')
  · have hcents : inContext d * 10 ^ cents = m := by
      rw [inContext_eq_cents hlarge hsize, div_mul_cancel₀ _ (ne_of_gt hpos),
        roundHalfEven_nearest.eq_of_near hm]
    rw [hcents]
    exact iff_of_true (roundHalfEven_nearest.isRounding.exact m)
      fun n' hn' => absurd hn' (intCast_ne_half _ _)

/-- **When a breakdown balances**: the amount and the rest of it, cut to 28 digits, round to
cents alike exactly if their ties agree. -/
theorem round_balances_iff {amount : ℚ} {k : ℤ} (hcovers : (k : ℚ) / 10 ^ cents ≤ amount)
    (hsize : amount < 10 ^ 26) (hk : 0 ≤ k) :
    roundHalfEven (amount * 10 ^ cents) =
        roundHalfEven (inContext (amount - k / 10 ^ cents) * 10 ^ cents) + k ↔
      TiesAgree amount (k / 10 ^ cents) := by
  have hpos : (0 : ℚ) < 10 ^ cents := pow_places_pos cents
  -- what is left of the amount, before it is cut
  obtain ⟨d, hdef⟩ : ∃ d, d = amount - (k : ℚ) / 10 ^ cents := ⟨_, rfl⟩
  have hd : 0 ≤ d := by
    rw [hdef]
    exact sub_nonneg.mpr hcovers
  have hd₁ : d < 10 ^ 26 := by
    have hfee : 0 ≤ (k : ℚ) / 10 ^ cents := div_nonneg (by exact_mod_cast hk) (le_of_lt hpos)
    linarith
  have hamount : amount * 10 ^ cents = d * 10 ^ cents + k := by
    rw [hdef, sub_mul, div_mul_cancel₀ _ (ne_of_gt hpos)]
    ring
  have heven : (∃ m : ℤ, Even m ∧ (k : ℚ) / 10 ^ cents = m / 10 ^ cents) ↔ Even k := by
    constructor
    · rintro ⟨m, hm, hsame⟩
      have hcast : (k : ℚ) = m := by
        rwa [div_left_inj' (ne_of_gt hpos)] at hsame
      have hcast : k = m := by exact_mod_cast hcast
      rwa [hcast]
    · exact fun h => ⟨k, h, rfl⟩
  have hhalf : HalfCent amount ↔ ∃ n : ℤ, d * 10 ^ cents = n + 1 / 2 := by
    unfold HalfCent
    rw [hamount]
    constructor
    · rintro ⟨n, hn⟩
      refine ⟨n - k, ?_⟩
      push_cast
      linarith
    · rintro ⟨n, hn⟩
      refine ⟨n + k, ?_⟩
      push_cast
      linarith
  -- the condition in terms of what is left
  have hties : TiesAgree amount (k / 10 ^ cents) ↔
      ((∃ n : ℤ, d * 10 ^ cents = n + 1 / 2) → Even k) ∧
        ∀ n : ℤ, inContext d * 10 ^ cents = n + 1 / 2 →
          (d < inContext d → Even n) ∧ (inContext d < d → Odd n) := by
    rw [hdef]
    constructor
    · intro h
      refine ⟨fun htie => heven.mp (h.half (hhalf.mpr (hdef ▸ htie))), fun n hn => ?_⟩
      exact ⟨h.below n hn, h.above n hn⟩
    · rintro ⟨htie, hcut⟩
      refine ⟨fun h => heven.mpr (htie (hdef ▸ hhalf.mp h)), ?_, ?_⟩
      · exact fun n hn => (hcut n hn).1
      · exact fun n hn => (hcut n hn).2
  rw [hties, ← hdef, hamount]
  -- a tie is left alone by the cut; anything else has its own nearest integer
  rcases half_or_near (d * 10 ^ cents) with htie | ⟨m, hm⟩
  · obtain ⟨hround, hself⟩ := inContext_tie hd hd₁ htie
    rw [hround, roundHalfEven_add]
    refine (and_iff_left fun n hn => ?_).symm
    rw [hself n hn]
    exact ⟨fun hlt => absurd hlt (lt_irrefl d), fun hlt => absurd hlt (lt_irrefl d)⟩
  · have hno : ¬ ∃ n : ℤ, d * 10 ^ cents = n + 1 / 2 := fun ⟨n, hn⟩ => near_ne_half hm n hn
    have hshift : roundHalfEven (d * 10 ^ cents + k) = roundHalfEven (d * 10 ^ cents) + k :=
      (roundHalfEven_add k).mpr fun htie => absurd htie hno
    rw [hshift, roundHalfEven_nearest.eq_of_near hm, add_left_inj, eq_comm,
      inContext_round_iff hd hd₁ hm]
    exact (and_iff_right fun htie => absurd htie hno).symm

/-- Where the rest of an amount has 28 digits at most, as with every amount a column can hold,
only half cents of the amount itself matter. -/
theorem tiesAgree_iff {amount fee : ℚ} (hfits : Fits28 (amount - fee)) :
    TiesAgree amount fee ↔ (HalfCent amount → ∃ m : ℤ, Even m ∧ fee = m / 10 ^ cents) := by
  refine ⟨TiesAgree.half, fun h => ⟨h, ?_, ?_⟩⟩
  · intro n _ hlt
    rw [inContext_eq_self hfits] at hlt
    exact absurd hlt (lt_irrefl _)
  · intro n _ hlt
    rw [inContext_eq_self hfits] at hlt
    exact absurd hlt (lt_irrefl _)

/-! ## The sizes that can be quantized

Up to which amounts `quantize` answers. -/

/-- Cents are found for an amount below the last half cent. -/
theorem round_fits_iff {amount : ℚ} (hpos : 0 ≤ amount) :
    (roundHalfEven (amount * 10 ^ cents)).natAbs < 10 ^ 28 ↔ amount < 10 ^ 26 - 1 / 200 := by
  have hround := roundHalfEven_nearest.isRounding
  have hscaled : 0 ≤ amount * 10 ^ cents := mul_nonneg hpos (le_of_lt (pow_places_pos cents))
  have hnonneg : 0 ≤ roundHalfEven (amount * 10 ^ cents) := roundHalfEven_nonneg hscaled
  constructor
  · intro hfits
    by_contra hlarge
    have htie : (((10 ^ 28 - 1 : ℤ) : ℚ)) + 1 / 2 ≤ amount * 10 ^ cents := by
      norm_num [cents] at hlarge ⊢
      linarith
    have hmono := hround.mono htie
    rw [roundHalfEven_half] at hmono
    omega
  · intro hsmall
    have hnear := (abs_le.mp (roundHalfEven_nearest (amount * 10 ^ cents))).2
    have hlt : (roundHalfEven (amount * 10 ^ cents) : ℚ) < ((10 ^ 28 : ℤ) : ℚ) := by
      norm_num [cents] at hnear hsmall ⊢
      linarith
    have hlt : roundHalfEven (amount * 10 ^ cents) < 10 ^ 28 := by exact_mod_cast hlt
    omega

/-- Cutting to 28 digits does not make an amount too large to be quantized. -/
theorem inContext_size {d : ℚ} (hd : 0 ≤ d) (hsize : d < 10 ^ 26 - 1 / 200) :
    inContext d < 10 ^ 26 - 1 / 200 := by
  rcases lt_or_ge d (10 ^ 25) with hsmall | hlarge
  · have hround := inContext_le (fits28_pow 25) (le_of_lt hsmall)
    linarith
  · have hround := (round_fits_iff hd).mpr hsize
    rw [inContext_eq_cents hlarge (by linarith), div_lt_iff₀ (pow_places_pos cents)]
    have hle : roundHalfEven (d * 10 ^ cents) ≤ 10 ^ 28 - 1 := by omega
    have hle : (roundHalfEven (d * 10 ^ cents) : ℚ) ≤ ((10 ^ 28 - 1 : ℤ) : ℚ) := Int.cast_le.mpr hle
    norm_num [cents] at hle ⊢
    linarith

/-- A sum of cents can be quantized where it is small enough. -/
theorem quantize_sum_iff {m n : ℤ} (hm : 0 ≤ m) (hn : 0 ≤ n) :
    (∃ total, quantize cents (inContext ((m : ℚ) / 10 ^ cents + n / 10 ^ cents)) = some total) ↔
      (m : ℚ) / 10 ^ cents + n / 10 ^ cents < 10 ^ 26 := by
  have hsum : (m : ℚ) / 10 ^ cents + n / 10 ^ cents = ((m + n : ℤ) : ℚ) / 10 ^ cents := by
    push_cast
    ring
  rw [quantize_eq_with]
  constructor
  · rintro ⟨total, htotal⟩
    exact lt_of_quantize_inContext htotal
  · intro hsmall
    rw [hsum] at hsmall ⊢
    have hsmall := cents_lt_iff.mp hsmall
    have habs : |m + n| < 10 ^ 28 := by
      rw [abs_of_nonneg (add_nonneg hm hn)]
      exact hsmall
    rw [inContext_eq_self (fits28_of_places habs cents)]
    exact ⟨_, quantizeWith_self roundHalfEven_nearest.isRounding (by omega)⟩

/-! ## The fee and the amount

Two inequalities, and the two directions of the result. -/

section Fee

variable {settings : FeeSettings} {lo hi amount : ℚ} {bps : ℕ} {currency psp : String}
  {lower : String → String}

/-- A commission takes no more than a tenth. -/
theorem shareBps_le_tenth (hbps : bps ≤ 500) (hpos : 0 ≤ amount) :
    shareBps bps amount ≤ amount / 10 := by
  have hcast : (bps : ℚ) ≤ 500 := by exact_mod_cast hbps
  have hproduct : 0 ≤ amount * bps := mul_nonneg hpos (Nat.cast_nonneg bps)
  have hmost : amount * bps ≤ amount * 500 := mul_le_mul_of_nonneg_left hcast hpos
  have hfirst : inContext (amount * bps) ≤ amount * bps * (1001 / 1000) :=
    inContext_le_mul hproduct
  have hsecond : shareBps bps amount ≤ inContext (amount * bps) / 10000 * (1001 / 1000) :=
    inContext_le_mul (div_nonneg (inContext_nonneg hproduct) (by norm_num))
  linarith

/-- The fee is the minimum at least. -/
theorem le_dueFee (hbounds : FeeBounds lo hi) : lo ≤ settings.dueFee lo hi amount := by
  obtain ⟨-, hordered, ⟨m, hm⟩, -⟩ := hbounds
  have hpos : (0 : ℚ) < 10 ^ cents := pow_places_pos cents
  have hround : m ≤
      roundHalfUp (clampFee lo hi (shareBps settings.afmCommissionBps amount) * 10 ^ cents) := by
    rw [← roundHalfUp_nearest.isRounding.exact m]
    refine roundHalfUp_nearest.isRounding.mono ((div_le_iff₀ hpos).mp ?_)
    rw [← hm]
    exact le_clampFee hordered
  calc lo = m / 10 ^ cents := hm
    _ ≤ settings.dueFee lo hi amount :=
        div_le_div_of_nonneg_right (Int.cast_le.mpr hround) (le_of_lt hpos)

/-- The fee stays within the payment exactly if the minimum does. -/
theorem dueFee_le_iff (hbounds : FeeBounds lo hi) (hamount : 0 < amount) :
    settings.dueFee lo hi amount ≤ amount ↔ lo ≤ amount := by
  refine ⟨(le_dueFee hbounds).trans, fun hcovers => ?_⟩
  obtain ⟨hnonneg, hordered, ⟨m, hm⟩, -⟩ := hbounds
  have hpos : (0 : ℚ) < 10 ^ cents := pow_places_pos cents
  have hshare₀ : 0 ≤ shareBps settings.afmCommissionBps amount :=
    shareBps_nonneg _ (le_of_lt hamount)
  have hshare : shareBps settings.afmCommissionBps amount ≤ amount / 10 :=
    shareBps_le_tenth settings.bps_le (le_of_lt hamount)
  rw [FeeSettings.dueFee, div_le_iff₀ hpos]
  rcases le_or_gt (shareBps settings.afmCommissionBps amount) lo with hlow | hhigh
  · -- the minimum is charged
    have hclamp : clampFee lo hi (shareBps settings.afmCommissionBps amount) = lo := by
      rw [clampFee, max_eq_right hlow, min_eq_left hordered]
    have hcents : lo * 10 ^ cents = m := by
      rw [hm, div_mul_cancel₀ _ (ne_of_gt hpos)]
    rw [hclamp, hcents, roundHalfUp_nearest.isRounding.exact, ← hcents]
    exact mul_le_mul_of_nonneg_right hcovers (le_of_lt hpos)
  · -- the commission, or the maximum below it, and rounding at most doubles that
    have hclamp : clampFee lo hi (shareBps settings.afmCommissionBps amount) ≤ amount / 10 := by
      refine (min_le_left _ _).trans ?_
      rw [max_eq_left (le_of_lt hhigh)]
      exact hshare
    have hclamp₀ : 0 ≤ clampFee lo hi (shareBps settings.afmCommissionBps amount) :=
      hnonneg.trans (le_clampFee hordered)
    generalize clampFee lo hi (shareBps settings.afmCommissionBps amount) = fee at *
    have hscaled₀ : 0 ≤ fee * 10 ^ cents := mul_nonneg hclamp₀ (le_of_lt hpos)
    have hscaled : fee * 10 ^ cents ≤ amount / 10 * 10 ^ cents :=
      mul_le_mul_of_nonneg_right hclamp (le_of_lt hpos)
    rcases lt_or_ge (fee * 10 ^ cents) (1 / 2) with hsmall | hlarge
    · have hzero : roundHalfUp (fee * 10 ^ cents) = 0 := by
        refine roundHalfUp_nearest.eq_of_near ?_
        rw [Int.cast_zero, sub_zero, abs_of_nonneg hscaled₀]
        exact hsmall
      rw [hzero, Int.cast_zero]
      exact mul_nonneg (le_of_lt hamount) (le_of_lt hpos)
    · have hnear := (abs_le.mp (roundHalfUp_nearest (fee * 10 ^ cents))).2
      have hamountScaled : 0 ≤ amount * 10 ^ cents :=
        mul_nonneg (le_of_lt hamount) (le_of_lt hpos)
      linarith

/-- What `_calculate_afm_fee` charges is the fee that is due. -/
theorem calculateAfmFee_dueFee {fee net : ℚ} (hbounds : settings.bounds currency = some (lo, hi))
    (h : calculateAfmFee settings amount currency = some (fee, net)) :
    fee = settings.dueFee lo hi amount ∧ net = inContext (amount - fee) := by
  obtain ⟨lo', hi', hsame, hfee, hnet⟩ := calculateAfmFee_eq_some.mp h
  obtain ⟨rfl, rfl⟩ := Prod.mk.inj (Option.some.inj (hbounds.symm.trans hsame))
  rw [quantizeHalfUp_eq_with] at hfee
  exact ⟨(quantizeWith_eq_some.mp hfee).2, hnet⟩

/-- It charges it wherever the amount covers the minimum and can be quantized. -/
theorem exists_afmFee (hbounds : settings.bounds currency = some (lo, hi)) (hamount : 0 < amount)
    (hcovers : lo ≤ amount) (hsize : amount < 10 ^ 26) :
    calculateAfmFee settings amount currency =
      some (settings.dueFee lo hi amount,
        inContext (amount - settings.dueFee lo hi amount)) := by
  have hspec : FeeBounds lo hi := FeeSettings.bounds_spec hbounds
  have hle : settings.dueFee lo hi amount ≤ amount := (dueFee_le_iff hspec hamount).mpr hcovers
  have hnonneg : 0 ≤ settings.dueFee lo hi amount := hspec.nonneg.trans (le_dueFee hspec)
  have hpos : (0 : ℚ) < 10 ^ cents := pow_places_pos cents
  refine calculateAfmFee_eq_some.mpr ⟨lo, hi, hbounds, ?_, rfl⟩
  rw [quantizeHalfUp_eq_with]
  refine quantizeWith_eq_some.mpr ⟨?_, rfl⟩
  have hlt : settings.dueFee lo hi amount < 10 ^ 26 := hle.trans_lt hsize
  rw [FeeSettings.dueFee, div_lt_iff₀ hpos] at hlt
  rw [FeeSettings.dueFee, le_div_iff₀ hpos, zero_mul] at hnonneg
  have hpow : (10 : ℚ) ^ 26 * 10 ^ cents = ((10 ^ 28 : ℤ) : ℚ) := by norm_num [cents]
  rw [hpow] at hlt
  have hlt := Int.cast_lt.mp hlt
  have hnonneg := Int.cast_nonneg_iff.mp hnonneg
  omega

/-- The breakdown has the fee within the payment, and balances. -/
structure Balanced (breakdown : FeeBreakdown) (amount net : ℚ) : Prop where
  fee_nonneg : 0 ≤ breakdown.afmFee
  fee_le : breakdown.afmFee ≤ amount
  net_nonneg : 0 ≤ net
  netAmount_nonneg : 0 ≤ breakdown.netAmount
  gross_eq : breakdown.grossAmount = breakdown.afmFee + breakdown.netAmount

/-- Both calculators answer, with one fee, and what they answer is balanced. -/
def FeeSettings.KeepsWithin (settings : FeeSettings) (lower : String → String)
    (amount : ℚ) (currency psp : String) : Prop :=
  ∃ breakdown net, calculateFee lower settings amount currency psp = some breakdown ∧
    calculateAfmFee settings amount currency = some (breakdown.afmFee, net) ∧
    Balanced breakdown amount net

/-- Answers that are right need the condition. -/
theorem FeeFits.of_keepsWithin (hamount : 0 < amount)
    (h : settings.KeepsWithin lower amount currency psp) :
    ∃ lo hi, settings.bounds currency = some (lo, hi) ∧
      FeeFits settings (pspFeeBps lower psp) lo hi amount := by
  obtain ⟨breakdown, net, hbreakdown, hfee, hbalanced⟩ := h
  have hbreaks := calculateFee_eq_some.mp hbreakdown
  obtain ⟨lo, hi, hbounds, -, -⟩ := calculateAfmFee_eq_some.mp hfee
  have hspec : FeeBounds lo hi := FeeSettings.bounds_spec hbounds
  have hdue : breakdown.afmFee = settings.dueFee lo hi amount :=
    (calculateAfmFee_dueFee hbounds hfee).1
  have hpos : (0 : ℚ) < 10 ^ cents := pow_places_pos cents
  -- what the breakdown says, one figure after the other
  have hle := hbalanced.fee_le
  have hnonneg := hbalanced.fee_nonneg
  have hgross := hbreaks.gross
  have hnet := hbreaks.net
  have htotal := hbreaks.total
  have hpsp := hbreaks.psp
  rw [quantize_eq_with, quantizeWith_eq_some] at hgross hnet hpsp
  have hsize : amount < 10 ^ 26 - 1 / 200 := (round_fits_iff (le_of_lt hamount)).mp hgross.1
  have hduePsp : breakdown.pspFee = duePspFee (pspFeeBps lower psp) amount := hpsp.2
  refine ⟨lo, hi, hbounds, (dueFee_le_iff hspec hamount).mp (hdue ▸ hle), hsize, ?_, ?_⟩
  · rw [hdue, hduePsp] at htotal
    refine (quantize_sum_iff ?_ ?_).mp ⟨_, htotal⟩
    · rw [hdue, FeeSettings.dueFee, le_div_iff₀ hpos, zero_mul] at hnonneg
      exact Int.cast_nonneg_iff.mp hnonneg
    · exact roundHalfEven_nonneg (mul_nonneg (shareBps_nonneg _ (le_of_lt hamount)) (le_of_lt hpos))
  · rw [hdue] at hle hnonneg hnet
    have hk : 0 ≤
        roundHalfUp (clampFee lo hi (shareBps settings.afmCommissionBps amount) * 10 ^ cents) := by
      rw [FeeSettings.dueFee, le_div_iff₀ hpos, zero_mul] at hnonneg
      exact Int.cast_nonneg_iff.mp hnonneg
    refine (round_balances_iff hle (by linarith) hk).mp ?_
    have hsum := hbalanced.gross_eq
    rw [hgross.2, hdue, hnet.2, FeeSettings.dueFee, ← add_div,
      div_left_inj' (ne_of_gt hpos)] at hsum
    rw [add_comm]
    exact_mod_cast hsum

/-- The condition gives right answers. -/
theorem FeeFits.keepsWithin (hamount : 0 < amount)
    (hbounds : settings.bounds currency = some (lo, hi))
    (h : FeeFits settings (pspFeeBps lower psp) lo hi amount) :
    settings.KeepsWithin lower amount currency psp := by
  have hspec : FeeBounds lo hi := FeeSettings.bounds_spec hbounds
  have hround := roundHalfEven_nearest.isRounding
  have hpos : (0 : ℚ) < 10 ^ cents := pow_places_pos cents
  have hsize : amount < 10 ^ 26 := h.size.trans (by norm_num)
  have hfee := exists_afmFee hbounds hamount h.covers hsize
  have hle : settings.dueFee lo hi amount ≤ amount := (dueFee_le_iff hspec hamount).mpr h.covers
  have hnonneg : 0 ≤ settings.dueFee lo hi amount := hspec.nonneg.trans (le_dueFee hspec)
  have hk : 0 ≤
      roundHalfUp (clampFee lo hi (shareBps settings.afmCommissionBps amount) * 10 ^ cents) := by
    rw [FeeSettings.dueFee, le_div_iff₀ hpos, zero_mul] at hnonneg
    exact Int.cast_nonneg_iff.mp hnonneg
  have hquantize : ∀ x, 0 ≤ x → x < 10 ^ 26 - 1 / 200 →
      quantize cents x = some ((roundHalfEven (x * 10 ^ cents) : ℚ) / 10 ^ cents) := by
    intro x hx hsmall
    rw [quantize_eq_with, quantizeWith_eq_some]
    exact ⟨(round_fits_iff hx).mpr hsmall, rfl⟩
  -- the estimate for the provider
  have hshare₀ : 0 ≤ shareBps (pspFeeBps lower psp) amount := shareBps_nonneg _ (le_of_lt hamount)
  have hshare : shareBps (pspFeeBps lower psp) amount ≤ amount / 10 :=
    shareBps_le_tenth ((pspFeeBps_le lower psp).trans (by norm_num)) (le_of_lt hamount)
  have hpsp : quantize cents (shareBps (pspFeeBps lower psp) amount) =
      some (duePspFee (pspFeeBps lower psp) amount) :=
    hquantize _ hshare₀ (by linarith [h.size])
  have hpsp₀ : 0 ≤ roundHalfEven (shareBps (pspFeeBps lower psp) amount * 10 ^ cents) :=
    roundHalfEven_nonneg (mul_nonneg hshare₀ (le_of_lt hpos))
  obtain ⟨total, htotal⟩ := (quantize_sum_iff hk hpsp₀).mpr h.total
  -- what is left of the amount
  have hrest : 0 ≤ amount - settings.dueFee lo hi amount := sub_nonneg.mpr hle
  have hnet : quantize cents (inContext (amount - settings.dueFee lo hi amount)) =
      some ((roundHalfEven (inContext (amount - settings.dueFee lo hi amount) * 10 ^ cents) : ℚ) /
        10 ^ cents) := by
    refine hquantize _ (inContext_nonneg hrest) (inContext_size hrest ?_)
    linarith [h.size]
  refine ⟨⟨(roundHalfEven (amount * 10 ^ cents) : ℚ) / 10 ^ cents, settings.dueFee lo hi amount,
    settings.afmCommissionBps, _, _, pspFeeBps lower psp, total⟩, _,
    calculateFee_eq_some.mpr ⟨rfl, rfl, hfee, hpsp, hquantize _ (le_of_lt hamount) h.size, hnet,
      htotal⟩, hfee, hnonneg, hle, inContext_nonneg hrest, ?_, ?_⟩
  · rw [quantize_eq_with] at hnet
    exact quantizeWith_nonneg hround hnet (inContext_nonneg hrest)
  · have hbalance := (round_balances_iff hle hsize hk).mpr h.ties
    dsimp only
    rw [hbalance, FeeSettings.dueFee, ← add_div]
    push_cast
    ring

/-- **Fees within the payment.**  Both calculators answer with a fee between zero and the
amount, and the breakdown balances, exactly for the amounts that cover the minimum fee, can be
quantized, and have half cents that agree. -/
theorem fee_balances_iff (lower : String → String) (settings : FeeSettings)
    (currency psp : String) {amount : ℚ} (hamount : 0 < amount) :
    settings.KeepsWithin lower amount currency psp ↔
      ∃ lo hi, settings.bounds currency = some (lo, hi) ∧
        FeeFits settings (pspFeeBps lower psp) lo hi amount :=
  ⟨FeeFits.of_keepsWithin hamount, fun ⟨_, _, hbounds, h⟩ => h.keepsWithin hamount hbounds⟩

end Fee

/-! ## A half cent and an odd fee -/

/-- The statement on a payment of 100 dollars. -/
theorem fee_balances_iff_hundred :
    deliveredFees.KeepsWithin (fun text => text) 100 "USD" "kora" ↔
      ∃ lo hi, deliveredFees.bounds "USD" = some (lo, hi) ∧
        FeeFits deliveredFees (pspFeeBps (fun text => text) "kora") lo hi 100 :=
  fee_balances_iff (fun text => text) deliveredFees "USD" "kora" (by norm_num)

/-- Of 50.505 dollars the fee is 1.01, the gross amount 50.50 and the net amount 49.50; and of
25 cents the fee is 50. -/
theorem not_keepsWithin :
    (calculateFee (fun text => text) deliveredFees (50505 / 1000) "USD" "kora").map
        (fun b => (b.grossAmount, b.afmFee, b.netAmount)) =
      some (5050 / 100, 101 / 100, 4950 / 100) ∧
    ¬ deliveredFees.KeepsWithin (fun text => text) (50505 / 1000) "USD" "kora" ∧
    (calculateFee (fun text => text) deliveredFees (25 / 100) "USD" "kora").map
        (fun b => (b.grossAmount, b.afmFee, b.netAmount)) =
      some (25 / 100, 50 / 100, -25 / 100) ∧
    ¬ deliveredFees.KeepsWithin (fun text => text) (25 / 100) "USD" "kora" := by
  have hhalf : (calculateFee (fun text => text) deliveredFees (50505 / 1000) "USD" "kora").map
      (fun b => (b.grossAmount, b.afmFee, b.netAmount)) =
        some (5050 / 100, 101 / 100, 4950 / 100) := by
    decide +kernel
  have hsmall : (calculateFee (fun text => text) deliveredFees (25 / 100) "USD" "kora").map
      (fun b => (b.grossAmount, b.afmFee, b.netAmount)) =
        some (25 / 100, 50 / 100, -25 / 100) := by
    decide +kernel
  refine ⟨hhalf, ?_, hsmall, ?_⟩
  -- 50.50 is not the sum of 1.01 and 49.50
  · rintro ⟨breakdown, net, hbreakdown, -, hbalanced⟩
    rw [hbreakdown] at hhalf
    obtain ⟨hgross, hfee, hnet⟩ := by simpa using hhalf
    have hsum := hbalanced.gross_eq
    rw [hgross, hfee, hnet] at hsum
    norm_num at hsum
  · rintro ⟨breakdown, net, hbreakdown, -, hbalanced⟩
    rw [hbreakdown] at hsmall
    obtain ⟨-, hfee, -⟩ := by simpa using hsmall
    have hle := hbalanced.fee_le
    rw [hfee] at hle
    norm_num at hle

end AfricaFrontier
