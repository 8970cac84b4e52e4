import AfricaFrontier.Python.Context

/-!
# The two fee calculators

`PaymentService._calculate_afm_fee` and `AFMRevenueEngine.calculate_fee` take the same
commission, clamp it between the same two bounds, which `convert_usd_bounds` brings into the
currency of the transaction, and round it half up to cents.  `fee_model` says what follows for
every amount a column can hold: one fee, whole cents, within the bounds, monotone.

The two part only where an amount has more digits than the context: `calculate_fee` quantizes
more than the other, and each `quantize` that cannot answer raises.  `fee_model` names a bound
below which neither does.

`calculate_fee` is written over an `Arithmetic`, because the monthly estimate is compared with it
in exact arithmetic too; the calculator as it runs is the instance of the default context.
-/

namespace AfricaFrontier

open Python Rounding

/-! ## Arithmetics

The operations of the calculators, as far as they round or fail. -/

/-- What becomes of the result of an operation, and of a number that is quantized. -/
structure Arithmetic where
  op : ℚ → ℚ
  quantize : (ℚ → ℤ) → ℕ → ℚ → Option ℚ

/-- The default context. -/
def Arithmetic.default : Arithmetic where
  op := inContext
  quantize := quantizeWith

/-- No result is rounded, and none is too long to be quantized. -/
def Arithmetic.exact : Arithmetic where
  op := id
  quantize r places x := some (r (x * 10 ^ places) / 10 ^ places)

/-! ## Currency conversion

The bounds are configured in dollars. -/

/-- `FX_RATES_TO_USD`. -/
def fxRatesToUsd : List (String × ℚ) :=
  [("XOF", 165 / 100000), ("XAF", 165 / 100000), ("NGN", 64 / 100000), ("KES", 77 / 10000),
    ("GHS", 66 / 1000), ("ZAR", 55 / 1000), ("USD", 1), ("EUR", 108 / 100), ("GBP", 127 / 100)]

/-- `convert_usd_bounds`; `none` where `quantize` raises. -/
def convertUsdBoundsIn (arithmetic : Arithmetic) (minUsd maxUsd : ℚ) (currency : String) :
    Option (ℚ × ℚ) :=
  if upper currency = "USD" then some (minUsd, maxUsd)
  else
    match fxRatesToUsd.lookup (upper currency) with
    | none => some (minUsd, maxUsd)
    | some rate => do
        let minLocal ← arithmetic.quantize roundHalfUp cents (arithmetic.op (minUsd / rate))
        let maxLocal ← arithmetic.quantize roundHalfUp cents (arithmetic.op (maxUsd / rate))
        some (minLocal, maxLocal)

/-- `convert_usd_bounds` as it runs. -/
def convertUsdBounds : ℚ → ℚ → String → Option (ℚ × ℚ) := convertUsdBoundsIn .default

/-- The settings the fee depends on: the commission, in hundredths of a percent, and its
bounds, as they are configured. -/
structure FeeSettings where
  afmCommissionBps : ℕ := 200
  afmMinFeeUsd : ℚ := 1 / 2
  afmMaxFeeUsd : ℚ := 50
  bps_le : afmCommissionBps ≤ 500
  min_nonneg : 0 ≤ afmMinFeeUsd
  min_le_max : afmMinFeeUsd ≤ afmMaxFeeUsd
  min_cents : WholeCents afmMinFeeUsd
  max_cents : WholeCents afmMaxFeeUsd

/-- The settings as they are delivered. -/
def deliveredFees : FeeSettings where
  bps_le := by decide
  min_nonneg := by norm_num
  min_le_max := by norm_num
  min_cents := ⟨50, by norm_num [cents]⟩
  max_cents := ⟨5000, by norm_num [cents]⟩

/-- The bounds in a currency. -/
def FeeSettings.bounds (settings : FeeSettings) (currency : String) : Option (ℚ × ℚ) :=
  convertUsdBounds settings.afmMinFeeUsd settings.afmMaxFeeUsd currency

/-! ## The calculators

Both, step by step. -/

/-- `amount * Decimal(bps) / Decimal("10000")`. -/
def shareBpsIn (arithmetic : Arithmetic) (bps : ℕ) (amount : ℚ) : ℚ :=
  arithmetic.op (arithmetic.op (amount * bps) / 10000)

/-- A share as it is computed. -/
def shareBps : ℕ → ℚ → ℚ := shareBpsIn .default

/-- The two operations of a share. -/
theorem shareBps_eq (bps : ℕ) (amount : ℚ) :
    shareBps bps amount = inContext (inContext (amount * bps) / 10000) :=
  rfl

/-- `min(max(fee, min_fee), max_fee)`. -/
def clampFee (minFee maxFee fee : ℚ) : ℚ := min (max fee minFee) maxFee

/-- `PaymentService._calculate_afm_fee`: the fee and the net amount. The fee is rounded half up;
the net amount is not rounded to cents. -/
def calculateAfmFee (settings : FeeSettings) (amount : ℚ) (currency : String) :
    Option (ℚ × ℚ) := do
  let bounds ← settings.bounds currency
  let fee ← quantizeHalfUp cents
    (clampFee bounds.1 bounds.2 (shareBps settings.afmCommissionBps amount))
  some (fee, inContext (amount - fee))

/-- What `calculate_fee` returns. -/
structure FeeBreakdown where
  grossAmount : ℚ
  afmFee : ℚ
  afmFeeBps : ℕ
  netAmount : ℚ
  pspFee : ℚ
  pspFeeBps : ℕ
  totalCostToMerchant : ℚ
  deriving DecidableEq

/-- `PSP_FEE_ESTIMATES`. -/
def pspFeeEstimates : List (String × ℕ) :=
  [("kora", 15), ("fincra", 20), ("flutterwave", 14), ("stripe", 29), ("mtn_momo", 10),
    ("orange_money", 10)]

/-- `PSP_FEE_ESTIMATES.get(psp.lower(), 20)`; `lower` is `str.lower`. -/
def pspFeeBps (lower : String → String) (psp : String) : ℕ :=
  (pspFeeEstimates.lookup (lower psp)).getD 20

/-- `AFMRevenueEngine.calculate_fee`, in an arithmetic: the decimal context of the program, or
exact numbers. -/
def calculateFeeIn (arithmetic : Arithmetic) (lower : String → String) (commissionBps : ℕ)
    (minFee maxFee amount : ℚ) (currency psp : String) : Option FeeBreakdown := do
  let bounds ← convertUsdBoundsIn arithmetic minFee maxFee currency
  let afmFee ← arithmetic.quantize roundHalfUp cents
    (clampFee bounds.1 bounds.2 (shareBpsIn arithmetic commissionBps amount))
  -- the net amount is taken from the amount as it came, and rounded below
  let netAmount := arithmetic.op (amount - afmFee)
  let pspFee ← arithmetic.quantize roundHalfEven cents
    (shareBpsIn arithmetic (pspFeeBps lower psp) amount)
  let totalCost := arithmetic.op (afmFee + pspFee)
  let grossAmount ← arithmetic.quantize roundHalfEven cents amount
  let netAmount ← arithmetic.quantize roundHalfEven cents netAmount
  let totalCostToMerchant ← arithmetic.quantize roundHalfEven cents totalCost
  some
    { grossAmount
      afmFee
      afmFeeBps := commissionBps
      netAmount
      pspFee
      pspFeeBps := pspFeeBps lower psp
      totalCostToMerchant }

/-- `AFMRevenueEngine.calculate_fee` as it runs. -/
def calculateFee (lower : String → String) (settings : FeeSettings) (amount : ℚ)
    (currency psp : String) : Option FeeBreakdown :=
  calculateFeeIn .default lower settings.afmCommissionBps settings.afmMinFeeUsd
    settings.afmMaxFeeUsd amount currency psp

/-! ## What the bounds are

They are whole cents, in order, and not negative. -/

/-- Two bounds as a fee is clamped between them. -/
structure FeeBounds (lo hi : ℚ) : Prop where
  nonneg : 0 ≤ lo
  ordered : lo ≤ hi
  lo_cents : WholeCents lo
  hi_cents : WholeCents hi

/-- Rates are positive. -/
theorem fxRate_pos {currency : String} {rate : ℚ}
    (h : fxRatesToUsd.lookup currency = some rate) : 0 < rate := by
  have hall : ∀ entry ∈ fxRatesToUsd, 0 < entry.2 := by
    simp only [fxRatesToUsd, List.forall_mem_cons, List.not_mem_nil, false_implies, implies_true,
      and_true]
    norm_num
  obtain ⟨front, back, hsplit, -⟩ := List.lookup_eq_some_iff.mp h
  refine hall (currency, rate) ?_
  rw [hsplit]
  exact List.mem_append_right front List.mem_cons_self

/-- The bounds in any currency are such. -/
theorem FeeSettings.bounds_spec {settings : FeeSettings} {currency : String} {lo hi : ℚ}
    (h : settings.bounds currency = some (lo, hi)) : FeeBounds lo hi := by
  have hasConfigured : some (settings.afmMinFeeUsd, settings.afmMaxFeeUsd) = some (lo, hi) →
      FeeBounds lo hi := by
    intro hsame
    cases hsame
    exact ⟨settings.min_nonneg, settings.min_le_max, settings.min_cents, settings.max_cents⟩
  unfold FeeSettings.bounds convertUsdBounds convertUsdBoundsIn at h
  split at h
  · exact hasConfigured h
  · split at h
    · exact hasConfigured h
    · rename_i rate hrate
      have hpos : 0 < rate := fxRate_pos hrate
      obtain ⟨lo', hlo, h⟩ := Option.bind_eq_some_iff.mp h
      obtain ⟨hi', hhi, h⟩ := Option.bind_eq_some_iff.mp h
      cases h
      have hround := roundHalfUp_nearest.isRounding
      refine ⟨?_, ?_, wholeCents_of_quantizeWith hlo, wholeCents_of_quantizeWith hhi⟩
      · refine quantizeWith_nonneg hround hlo (inContext_nonneg ?_)
        exact div_nonneg settings.min_nonneg (le_of_lt hpos)
      · refine quantizeWith_mono hround hlo hhi (inContext_mono ?_)
        exact div_le_div_of_nonneg_right settings.min_le_max (le_of_lt hpos)

/-! ## What the fee is

Clamping and rounding are monotone, and keep to bounds that are whole cents. -/

/-- A share grows with the amount. -/
theorem shareBps_mono (bps : ℕ) : Monotone (shareBps bps) := by
  intro amount amount' hle
  refine inContext_mono (div_le_div_of_nonneg_right (inContext_mono ?_) (by norm_num))
  exact mul_le_mul_of_nonneg_right hle (Nat.cast_nonneg bps)

/-- A share is not negative. -/
theorem shareBps_nonneg (bps : ℕ) {amount : ℚ} (h : 0 ≤ amount) : 0 ≤ shareBps bps amount :=
  inContext_nonneg (div_nonneg (inContext_nonneg (mul_nonneg h (Nat.cast_nonneg bps)))
    (by norm_num))

section Clamp

variable {lo hi fee fee' : ℚ}

/-- Clamping is monotone. -/
theorem clampFee_mono (h : fee ≤ fee') : clampFee lo hi fee ≤ clampFee lo hi fee' :=
  min_le_min_right hi (max_le_max_right lo h)

/-- A clamped fee is above the lower bound. -/
theorem le_clampFee (h : lo ≤ hi) : lo ≤ clampFee lo hi fee := le_min (le_max_right fee lo) h

/-- A clamped fee is below the upper bound. -/
theorem clampFee_le : clampFee lo hi fee ≤ hi := min_le_right _ _

end Clamp

section Fee

variable {settings : FeeSettings} {amount amount' : ℚ} {currency psp : String}
  {lower : String → String}

/-- `_calculate_afm_fee` returns where the bounds and the fee can be quantized. -/
theorem calculateAfmFee_eq_some {fee net : ℚ} :
    calculateAfmFee settings amount currency = some (fee, net) ↔
      ∃ lo hi, settings.bounds currency = some (lo, hi) ∧
        quantizeHalfUp cents (clampFee lo hi (shareBps settings.afmCommissionBps amount)) =
          some fee ∧
        net = inContext (amount - fee) := by
  unfold calculateAfmFee
  constructor
  · intro h
    obtain ⟨⟨lo, hi⟩, hbounds, h⟩ := Option.bind_eq_some_iff.mp h
    obtain ⟨fee', hfee, h⟩ := Option.bind_eq_some_iff.mp h
    cases h
    exact ⟨lo, hi, hbounds, hfee, rfl⟩
  · rintro ⟨lo, hi, hbounds, hfee, rfl⟩
    simp only [hbounds, hfee, Option.bind_eq_bind, Option.bind_some]

/-- What `calculate_fee` returns. -/
structure Breaks (lower : String → String) (settings : FeeSettings) (amount : ℚ)
    (currency psp : String) (breakdown : FeeBreakdown) : Prop where
  bps : breakdown.afmFeeBps = settings.afmCommissionBps
  pspBps : breakdown.pspFeeBps = pspFeeBps lower psp
  fee : calculateAfmFee settings amount currency =
    some (breakdown.afmFee, inContext (amount - breakdown.afmFee))
  psp : quantize cents (shareBps (pspFeeBps lower psp) amount) = some breakdown.pspFee
  gross : quantize cents amount = some breakdown.grossAmount
  net : quantize cents (inContext (amount - breakdown.afmFee)) = some breakdown.netAmount
  total : quantize cents (inContext (breakdown.afmFee + breakdown.pspFee)) =
    some breakdown.totalCostToMerchant

/-- It returns exactly these. -/
theorem calculateFee_eq_some {breakdown : FeeBreakdown} :
    calculateFee lower settings amount currency psp = some breakdown ↔
      Breaks lower settings amount currency psp breakdown := by
  unfold calculateFee calculateFeeIn
  constructor
  · intro h
    obtain ⟨⟨lo, hi⟩, hbounds, h⟩ := Option.bind_eq_some_iff.mp h
    obtain ⟨fee, hfee, h⟩ := Option.bind_eq_some_iff.mp h
    obtain ⟨pspFee, hpsp, h⟩ := Option.bind_eq_some_iff.mp h
    obtain ⟨gross, hgross, h⟩ := Option.bind_eq_some_iff.mp h
    obtain ⟨net, hnet, h⟩ := Option.bind_eq_some_iff.mp h
    obtain ⟨total, htotal, h⟩ := Option.bind_eq_some_iff.mp h
    cases h
    exact ⟨rfl, rfl, calculateAfmFee_eq_some.mpr ⟨lo, hi, hbounds, hfee, rfl⟩, hpsp, hgross, hnet,
      htotal⟩
  · rintro ⟨hbps, hpspBps, hfee, hpsp, hgross, hnet, htotal⟩
    obtain ⟨lo, hi, hbounds, hround, -⟩ := calculateAfmFee_eq_some.mp hfee
    obtain ⟨gross, fee, feeBps, net, pspFee, pspBps, total⟩ := breakdown
    dsimp only at hbps hpspBps hround hpsp hgross hnet htotal
    subst hbps hpspBps
    refine Option.bind_eq_some_iff.mpr ⟨(lo, hi), hbounds, ?_⟩
    refine Option.bind_eq_some_iff.mpr ⟨fee, hround, ?_⟩
    refine Option.bind_eq_some_iff.mpr ⟨pspFee, hpsp, ?_⟩
    refine Option.bind_eq_some_iff.mpr ⟨gross, hgross, ?_⟩
    refine Option.bind_eq_some_iff.mpr ⟨net, hnet, ?_⟩
    exact Option.bind_eq_some_iff.mpr ⟨total, htotal, rfl⟩

/-- The fee is within the bounds, and a whole number of cents. -/
theorem fee_within {fee net lo hi : ℚ} (hbounds : settings.bounds currency = some (lo, hi))
    (h : calculateAfmFee settings amount currency = some (fee, net)) :
    WholeCents fee ∧ lo ≤ fee ∧ fee ≤ hi := by
  obtain ⟨lo', hi', hsame, hfee, -⟩ := calculateAfmFee_eq_some.mp h
  obtain ⟨rfl, rfl⟩ := Prod.mk.inj (Option.some.inj (hbounds.symm.trans hsame))
  obtain ⟨-, hordered, ⟨m, hm⟩, n, hn⟩ := FeeSettings.bounds_spec hbounds
  rw [quantizeHalfUp_eq_with] at hfee
  have hround := roundHalfUp_nearest.isRounding
  refine ⟨wholeCents_of_quantizeWith hfee, ?_, ?_⟩
  · rw [hm]
    refine le_quantizeWith hround hfee ?_
    rw [← hm]
    exact le_clampFee hordered
  · rw [hn]
    refine quantizeWith_le hround hfee ?_
    rw [← hn]
    exact clampFee_le

/-- The fee grows with the amount. -/
theorem fee_mono {fee net fee' net' : ℚ} (hle : amount ≤ amount')
    (h : calculateAfmFee settings amount currency = some (fee, net))
    (h' : calculateAfmFee settings amount' currency = some (fee', net')) : fee ≤ fee' := by
  obtain ⟨lo, hi, hbounds, hfee, -⟩ := calculateAfmFee_eq_some.mp h
  obtain ⟨lo', hi', hbounds', hfee', -⟩ := calculateAfmFee_eq_some.mp h'
  obtain ⟨rfl, rfl⟩ := Prod.mk.inj (Option.some.inj (hbounds.symm.trans hbounds'))
  rw [quantizeHalfUp_eq_with] at hfee hfee'
  exact quantizeWith_mono roundHalfUp_nearest.isRounding hfee hfee'
    (clampFee_mono (shareBps_mono _ hle))

/-! ## That it is returned

Everything that is quantized is small. -/

/-- The amount is positive and fits a column of eleven digits before the point and eight
behind. -/
def InColumn (amount : ℚ) : Prop := 0 < amount ∧ ∃ n : ℤ, n < 10 ^ 19 ∧ amount = n / 10 ^ 8

/-- The largest amount a column holds. -/
theorem InColumn.le (h : InColumn amount) : amount ≤ 10 ^ 11 := by
  obtain ⟨-, n, hn, rfl⟩ := h
  have hcast : (n : ℚ) ≤ 10 ^ 19 := by exact_mod_cast le_of_lt hn
  rw [div_le_iff₀ (by norm_num)]
  linarith

/-- The largest share of an amount a column holds. -/
theorem shareBps_le {bps most : ℕ} (hbps : bps ≤ most) (hmost : most ≤ 10000)
    (hamount : InColumn amount) : shareBps bps amount ≤ most * 10 ^ 7 := by
  have hunits : |(most : ℤ)| < 10 ^ 28 := by
    rw [abs_of_nonneg (Int.natCast_nonneg most)]
    omega
  have hfirst : inContext (amount * bps) ≤ most * 10 ^ 11 := by
    refine inContext_le ?_ ?_
    · exact_mod_cast fits28_of_units hunits 11
    · rw [mul_comm]
      exact mul_le_mul (by exact_mod_cast hbps) hamount.le (le_of_lt hamount.1)
        (Nat.cast_nonneg most)
  rw [shareBps_eq]
  refine inContext_le ?_ ?_
  · exact_mod_cast fits28_of_units hunits 7
  · rw [div_le_iff₀ (by norm_num)]
    linarith

/-- No provider takes more than 29 hundredths of a percent. -/
theorem pspFeeBps_le (lower : String → String) (psp : String) : pspFeeBps lower psp ≤ 29 := by
  unfold pspFeeBps
  cases hlookup : pspFeeEstimates.lookup (lower psp) with
  | none => decide
  | some bps =>
      obtain ⟨front, back, hsplit, -⟩ := List.lookup_eq_some_iff.mp hlookup
      have hall : ∀ entry ∈ pspFeeEstimates, entry.2 ≤ 29 := by
        decide
      refine hall (lower psp, bps) ?_
      rw [hsplit]
      exact List.mem_append_right front List.mem_cons_self

/-- Where the lower bound leaves room for the other parts of the breakdown, all of it can be
quantized. -/
theorem exists_breakdown {lo hi : ℚ} (hbounds : settings.bounds currency = some (lo, hi))
    (hroom : lo + 10 ^ 9 ≤ 10 ^ 26) (hamount : InColumn amount) :
    ∃ breakdown, calculateFee lower settings amount currency psp = some breakdown := by
  obtain ⟨hnonneg, hordered, -, -⟩ := FeeSettings.bounds_spec hbounds
  have hup := roundHalfUp_nearest.isRounding
  have heven := roundHalfEven_nearest.isRounding
  have hpos : 0 < amount := hamount.1
  have hle : amount ≤ 10 ^ 11 := hamount.le
  -- the fee
  have hshare : shareBps settings.afmCommissionBps amount ≤ 500 * 10 ^ 7 := by
    exact_mod_cast shareBps_le settings.bps_le (by norm_num) hamount
  have hclamp : clampFee lo hi (shareBps settings.afmCommissionBps amount) ≤
      ((10 ^ 28 - 10 ^ 11 : ℤ) : ℚ) / 10 ^ cents := by
    refine (min_le_left _ _).trans (max_le ?_ ?_)
    · refine hshare.trans ?_
      norm_num [cents]
    · refine (le_sub_iff_add_le.mpr hroom).trans ?_
      norm_num [cents]
  have hclamp₀ : 0 ≤ clampFee lo hi (shareBps settings.afmCommissionBps amount) :=
    hnonneg.trans (le_clampFee hordered)
  obtain ⟨fee, hfee⟩ := exists_quantizeWith_nonneg hup (by norm_num) hclamp₀ hclamp
  have hfee₀ : 0 ≤ fee := quantizeWith_nonneg hup hfee hclamp₀
  have hfeeLe : fee ≤ 10 ^ 26 - 10 ^ 9 := by
    refine (quantizeWith_le hup hfee hclamp).trans ?_
    norm_num [cents]
  have hcalculated : calculateAfmFee settings amount currency =
      some (fee, inContext (amount - fee)) :=
    calculateAfmFee_eq_some.mpr ⟨lo, hi, hbounds, hfee, rfl⟩
  -- the estimate for the provider
  have hpspLe : shareBps (pspFeeBps lower psp) amount ≤ ((29 * 10 ^ 9 : ℤ) : ℚ) / 10 ^ cents := by
    have hshare' : shareBps (pspFeeBps lower psp) amount ≤ 29 * 10 ^ 7 := by
      exact_mod_cast shareBps_le (pspFeeBps_le lower psp) (by norm_num) hamount
    refine hshare'.trans ?_
    norm_num [cents]
  have hpsp₀ : 0 ≤ shareBps (pspFeeBps lower psp) amount := shareBps_nonneg _ (le_of_lt hpos)
  obtain ⟨pspFee, hpsp⟩ := exists_quantizeWith_nonneg heven (by norm_num) hpsp₀ hpspLe
  have hpspFee₀ : 0 ≤ pspFee := quantizeWith_nonneg heven hpsp hpsp₀
  have hpspFeeLe : pspFee ≤ 29 * 10 ^ 7 := by
    refine (quantizeWith_le heven hpsp hpspLe).trans ?_
    norm_num [cents]
  -- and the other amounts
  obtain ⟨gross, hgross⟩ : ∃ gross, quantizeWith roundHalfEven cents amount = some gross := by
    refine @exists_quantizeWith_nonneg _ cents amount heven (10 ^ 13) (by norm_num)
      (le_of_lt hpos) (hle.trans ?_)
    norm_num [cents]
  have hfits : ∀ n : ℤ, |n| < 10 ^ 28 → Fits28 ((n : ℚ) / 10 ^ cents) :=
    fun n hn => fits28_of_places hn cents
  obtain ⟨net, hnet⟩ : ∃ net,
      quantizeWith roundHalfEven cents (inContext (amount - fee)) = some net := by
    refine @exists_quantizeWith _ cents _ heven (10 ^ 28 - 10 ^ 11) (by norm_num) ?_ ?_
    · rw [← neg_div, ← Int.cast_neg]
      refine le_inContext (hfits _ (by norm_num)) ?_
      norm_num [cents]
      linarith
    · refine inContext_le (hfits _ (by norm_num)) ?_
      norm_num [cents]
      linarith
  obtain ⟨total, htotal⟩ : ∃ total,
      quantizeWith roundHalfEven cents (inContext (fee + pspFee)) = some total := by
    refine @exists_quantizeWith_nonneg _ cents _ heven (10 ^ 28 - 10 ^ 10) (by norm_num)
      (inContext_nonneg (add_nonneg hfee₀ hpspFee₀)) (inContext_le (hfits _ (by norm_num)) ?_)
    norm_num [cents]
    linarith
  exact ⟨⟨gross, fee, settings.afmCommissionBps, net, pspFee, pspFeeBps lower psp, total⟩,
    calculateFee_eq_some.mpr ⟨rfl, rfl, hcalculated, hpsp, hgross, hnet, htotal⟩⟩

end Fee

/-- **One fee model.**  Where `calculate_fee` answers, the other calculator has the same fee;
and where the lower bound leaves room, both answer for every amount a column can hold, with a
fee of whole cents that lies between the bounds and does not fall as the amount rises. -/
theorem fee_model (lower : String → String) (settings : FeeSettings) (currency psp : String) :
    (∀ amount breakdown, calculateFee lower settings amount currency psp = some breakdown →
      ∃ net, calculateAfmFee settings amount currency = some (breakdown.afmFee, net)) ∧
    ∀ lo hi, settings.bounds currency = some (lo, hi) → lo + 10 ^ 9 ≤ 10 ^ 26 →
      ∃ fee : ℚ → ℚ,
        (∀ amount, InColumn amount →
          (∃ net, calculateAfmFee settings amount currency = some (fee amount, net)) ∧
          (∃ breakdown, calculateFee lower settings amount currency psp = some breakdown ∧
            breakdown.afmFee = fee amount) ∧
          WholeCents (fee amount) ∧ lo ≤ fee amount ∧ fee amount ≤ hi) ∧
        ∀ amount amount', InColumn amount → InColumn amount' → amount ≤ amount' →
          fee amount ≤ fee amount' := by
  refine ⟨fun amount breakdown h => ⟨_, (calculateFee_eq_some.mp h).fee⟩, ?_⟩
  intro lo hi hbounds hroom
  have hanswers : ∀ amount, InColumn amount → ∃ breakdown,
      calculateFee lower settings amount currency psp = some breakdown :=
    fun amount hamount => exists_breakdown hbounds hroom hamount
  have hfee : ∀ amount breakdown,
      calculateFee lower settings amount currency psp = some breakdown →
      calculateAfmFee settings amount currency =
        some (breakdown.afmFee, inContext (amount - breakdown.afmFee)) :=
    fun amount breakdown h => (calculateFee_eq_some.mp h).fee
  refine ⟨fun amount =>
    ((calculateFee lower settings amount currency psp).map FeeBreakdown.afmFee).getD 0, ?_, ?_⟩
  · intro amount hamount
    obtain ⟨breakdown, hbreakdown⟩ := hanswers amount hamount
    simp only [hbreakdown, Option.map_some, Option.getD_some]
    exact ⟨⟨_, hfee amount breakdown hbreakdown⟩, ⟨breakdown, rfl, rfl⟩,
      fee_within hbounds (hfee amount breakdown hbreakdown)⟩
  · intro amount amount' hamount hamount' hle
    obtain ⟨breakdown, hbreakdown⟩ := hanswers amount hamount
    obtain ⟨breakdown', hbreakdown'⟩ := hanswers amount' hamount'
    simp only [hbreakdown, hbreakdown', Option.map_some, Option.getD_some]
    exact fee_mono hle (hfee _ _ hbreakdown) (hfee _ _ hbreakdown')

/-! ## A bound of 28 digits -/

/-- The largest amount with two places that the context can hold. -/
def hugeFee : ℚ := 9999999999999999999999999999 / 100

/-- Both bounds are that amount. -/
def hugeFees : FeeSettings where
  afmMinFeeUsd := hugeFee
  afmMaxFeeUsd := hugeFee
  bps_le := deliveredFees.bps_le
  min_nonneg := by norm_num [hugeFee]
  min_le_max := le_rfl
  min_cents := ⟨9999999999999999999999999999, by norm_num [hugeFee, cents]⟩
  max_cents := ⟨9999999999999999999999999999, by norm_num [hugeFee, cents]⟩

/-- The fee and the estimate for the provider add up to an amount that cannot be quantized, so
that one calculator answers and the other raises. -/
theorem not_one_fee :
    InColumn 100 ∧ calculateAfmFee hugeFees 100 "USD" = some (hugeFee, 100 - hugeFee) ∧
      calculateFee (fun text => text) hugeFees 100 "USD" "kora" = none ∧
      ¬ ∃ breakdown net, calculateAfmFee hugeFees 100 "USD" = some (breakdown.afmFee, net) ∧
        calculateFee (fun text => text) hugeFees 100 "USD" "kora" = some breakdown := by
  have hraises : calculateFee (fun text => text) hugeFees 100 "USD" "kora" = none := by
    decide +kernel
  refine ⟨⟨by norm_num, 10000000000, by norm_num, by norm_num⟩, by decide +kernel, hraises, ?_⟩
  rintro ⟨breakdown, net, -, hbreakdown⟩
  rw [hraises] at hbreakdown
  cases hbreakdown

end AfricaFrontier
