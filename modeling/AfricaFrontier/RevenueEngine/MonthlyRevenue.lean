import AfricaFrontier.RevenueEngine.Fees

/-!
# The monthly estimate

`calculate_monthly_revenue` takes the commission on the whole volume of a month and clamps it
between multiples of the two bounds, where `calculate_fee` clamps and rounds the commission on
each transaction.  Clamping is homogeneous (`clampFee_mul`), so that the two part by the
roundings alone: half a cent for each transaction, and half a cent for the estimate.

This is a statement about exact arithmetic.  Both calculators are therefore written over an
`Arithmetic`, of which the default context is one and exact arithmetic another;
`monthly_eq_exact` says when the two arithmetics agree, and `monthly_revenue_near_default`
what that leaves of the statement for the calculators as they run.
-/

namespace AfricaFrontier

open Python Rounding

/-! ## The estimate

The commission of the month, between so many times the bounds. -/

/-- What `calculate_monthly_revenue` returns. -/
structure MonthlyRevenue where
  monthlyTransactions : ℤ
  avgTransactionUsd : ℚ
  totalVolumeUsd : ℚ
  afmRevenueUsd : ℚ
  effectiveRateBps : ℕ
  takeRatePct : String
  deriving DecidableEq

/-- `int(x)`. -/
def truncated (x : ℚ) : ℤ := if 0 ≤ x then ⌊x⌋ else ⌈x⌉

/-- The commission in percent, with two digits behind the point. -/
def takeRate (bps : ℕ) : String :=
  digitsText (bps / 100) ++ "." ++ digitsText (bps % 100 / 10) ++ digitsText (bps % 10) ++ "%"

/-- `AFMRevenueEngine.calculate_monthly_revenue`. -/
def calculateMonthlyRevenueIn (arithmetic : Arithmetic) (commissionBps : ℕ)
    (minFee maxFee transactionVolume avgTransactionSize : ℚ) : Option MonthlyRevenue := do
  let totalVolume := arithmetic.op (transactionVolume * avgTransactionSize)
  let afmRevenue := shareBpsIn arithmetic commissionBps totalVolume
  let maxRevenue := arithmetic.op (transactionVolume * maxFee)
  let afmRevenue := min afmRevenue maxRevenue
  let minRevenue := arithmetic.op (transactionVolume * minFee)
  let afmRevenue := max afmRevenue minRevenue
  let totalVolumeUsd ← arithmetic.quantize roundHalfEven cents totalVolume
  let afmRevenueUsd ← arithmetic.quantize roundHalfEven cents afmRevenue
  some
    { monthlyTransactions := truncated transactionVolume
      avgTransactionUsd := avgTransactionSize
      totalVolumeUsd
      afmRevenueUsd
      effectiveRateBps := commissionBps
      takeRatePct := takeRate commissionBps }

example : (calculateMonthlyRevenueIn .default 200 (1 / 2) 50 1000 100).map
    MonthlyRevenue.afmRevenueUsd = some 2000 ∧ takeRate 200 = "2.00%" := by
  decide +kernel

/-! ## The agreement

In exact arithmetic the estimate is so many times an unrounded fee. -/

section Agreement

variable {lo hi x : ℚ}

/-- Clamping is homogeneous, whichever bound is applied first. -/
theorem clampFee_mul (hordered : lo ≤ hi) {n : ℚ} (hn : 0 ≤ n) :
    max (min (n * x) (n * hi)) (n * lo) = n * clampFee lo hi x := by
  rw [← mul_min_of_nonneg _ _ hn, ← mul_max_of_nonneg _ _ hn, max_min_distrib_right,
    max_eq_left hordered, clampFee]

/-- As many roundings as there are calls stay near one rounding of the total. -/
theorem roundings_near (n : ℕ) (x : ℚ) :
    |(roundHalfEven (n * x * 10 ^ cents) : ℚ) / 10 ^ cents -
        n * (roundHalfUp (x * 10 ^ cents) / 10 ^ cents)| ≤ n * (1 / 200) + 1 / 200 := by
  have hpos : (0 : ℚ) < 10 ^ cents := pow_places_pos cents
  have hmonth := roundHalfEven_nearest (n * x * 10 ^ cents)
  have heach := roundHalfUp_nearest (x * 10 ^ cents)
  have hsplit : (roundHalfEven (n * x * 10 ^ cents) : ℚ) / 10 ^ cents -
      n * (roundHalfUp (x * 10 ^ cents) / 10 ^ cents) =
        ((roundHalfEven (n * x * 10 ^ cents) - n * x * 10 ^ cents) -
          n * (roundHalfUp (x * 10 ^ cents) - x * 10 ^ cents)) / 10 ^ cents := by
    field_simp
    ring
  have hall : |(n : ℚ) * (roundHalfUp (x * 10 ^ cents) - x * 10 ^ cents)| ≤ n * (1 / 2) := by
    rw [abs_mul, abs_of_nonneg (Nat.cast_nonneg n)]
    exact mul_le_mul_of_nonneg_left heach (Nat.cast_nonneg n)
  rw [hsplit, abs_div, abs_of_pos hpos, div_le_iff₀ hpos]
  calc |(roundHalfEven (n * x * 10 ^ cents) - n * x * 10 ^ cents) -
          n * (roundHalfUp (x * 10 ^ cents) - x * 10 ^ cents)|
      ≤ |(roundHalfEven (n * x * 10 ^ cents) : ℚ) - n * x * 10 ^ cents| +
          |n * ((roundHalfUp (x * 10 ^ cents) : ℚ) - x * 10 ^ cents)| := abs_sub _ _
    _ ≤ 1 / 2 + n * (1 / 2) := add_le_add hmonth hall
    _ = (n * (1 / 200) + 1 / 200) * 10 ^ cents := by
        norm_num [cents]
        ring

end Agreement

/-- The estimate of so many transactions, and the fee of one. -/
theorem estimate_near {commissionBps : ℕ} {minFee maxFee : ℚ} (hordered : minFee ≤ maxFee)
    (n : ℕ) (size : ℚ) :
    |(roundHalfEven
          (max (min (shareBpsIn .exact commissionBps (n * size)) (n * maxFee)) (n * minFee) *
            10 ^ cents) : ℚ) / 10 ^ cents -
        n * (roundHalfUp
          (clampFee minFee maxFee (shareBpsIn .exact commissionBps size) * 10 ^ cents) /
            10 ^ cents)| ≤ n * (1 / 200) + 1 / 200 := by
  have hshare : shareBpsIn .exact commissionBps (n * size) =
      n * shareBpsIn .exact commissionBps size := by
    simp only [shareBpsIn, Arithmetic.exact, id_eq]
    ring
  rw [hshare, clampFee_mul hordered (Nat.cast_nonneg n)]
  exact roundings_near n (clampFee minFee maxFee (shareBpsIn .exact commissionBps size))

/-- **The estimate agrees with the fee**: in exact arithmetic it differs from so many fees by at
most half a cent for each transaction and half a cent. -/
theorem monthly_revenue_near (lower : String → String) (commissionBps : ℕ) {minFee maxFee : ℚ}
    (hordered : minFee ≤ maxFee) (n : ℕ) (size : ℚ) (psp : String) :
    ∃ monthly breakdown,
      calculateMonthlyRevenueIn .exact commissionBps minFee maxFee n size = some monthly ∧
      calculateFeeIn .exact lower commissionBps minFee maxFee size "USD" psp = some breakdown ∧
      |monthly.afmRevenueUsd - n * breakdown.afmFee| ≤ n * (1 / 200) + 1 / 200 :=
  ⟨_, _, rfl, rfl, estimate_near hordered n size⟩

/-- The statement on a month of three small transactions, which pay the minimum fee. -/
theorem monthly_revenue_near_three :
    ∃ monthly breakdown,
      calculateMonthlyRevenueIn .exact 200 (1 / 2) 50 (3 : ℕ) 10 = some monthly ∧
      calculateFeeIn .exact (fun text => text) 200 (1 / 2) 50 10 "USD" "kora" = some breakdown ∧
      |monthly.afmRevenueUsd - (3 : ℕ) * breakdown.afmFee| ≤ (3 : ℕ) * (1 / 200) + 1 / 200 :=
  monthly_revenue_near (fun text => text) 200 (by norm_num) 3 10 "kora"

/-! ## In the default context

The two arithmetics differ where a result has more than 28 digits, and nowhere else. -/

/-- The operations of the estimate have results of 28 digits at most. -/
structure MonthlyFits (commissionBps : ℕ) (minFee maxFee volume size : ℚ) : Prop where
  total : Fits28 (volume * size)
  product : Fits28 (volume * size * commissionBps)
  commission : Fits28 (volume * size * commissionBps / 10000)
  most : Fits28 (volume * maxFee)
  least : Fits28 (volume * minFee)

/-- What the context can quantize is quantized alike. -/
theorem quantize_exact {r : ℚ → ℤ} {places : ℕ} {x y : ℚ}
    (h : Arithmetic.default.quantize r places x = some y) :
    Arithmetic.exact.quantize r places x = some y := by
  obtain ⟨-, rfl⟩ := quantizeWith_eq_some.mp h
  rfl

/-- Shares that fit are alike in both contexts. -/
theorem shareBpsIn_eq_exact {bps : ℕ} {amount : ℚ} (hproduct : Fits28 (amount * bps))
    (hshare : Fits28 (amount * bps / 10000)) :
    shareBpsIn .default bps amount = shareBpsIn .exact bps amount := by
  show inContext (inContext (amount * bps) / 10000) = amount * bps / 10000
  rw [inContext_eq_self hproduct, inContext_eq_self hshare]

/-- Where the results fit, an estimate in the default context is the exact one. -/
theorem monthly_eq_exact {commissionBps : ℕ} {minFee maxFee volume size : ℚ}
    (hfits : MonthlyFits commissionBps minFee maxFee volume size) {monthly : MonthlyRevenue}
    (h : calculateMonthlyRevenueIn .default commissionBps minFee maxFee volume size =
      some monthly) :
    calculateMonthlyRevenueIn .exact commissionBps minFee maxFee volume size = some monthly := by
  have hvolume : Arithmetic.default.op (volume * size) = volume * size :=
    inContext_eq_self hfits.total
  have hmost : Arithmetic.default.op (volume * maxFee) = volume * maxFee :=
    inContext_eq_self hfits.most
  have hleast : Arithmetic.default.op (volume * minFee) = volume * minFee :=
    inContext_eq_self hfits.least
  unfold calculateMonthlyRevenueIn at h
  dsimp only at h
  rw [hvolume, hmost, hleast, shareBpsIn_eq_exact hfits.product hfits.commission] at h
  obtain ⟨total, htotal, h⟩ := Option.bind_eq_some_iff.mp h
  obtain ⟨revenue, hrevenue, h⟩ := Option.bind_eq_some_iff.mp h
  obtain rfl := Option.some.inj h
  unfold calculateMonthlyRevenueIn
  refine Option.bind_eq_some_iff.mpr ⟨total, quantize_exact htotal, ?_⟩
  exact Option.bind_eq_some_iff.mpr ⟨revenue, quantize_exact hrevenue, rfl⟩

/-- The estimate and the fee agree as they are computed in the default context as well. -/
theorem monthly_revenue_near_default {lower : String → String} {settings : FeeSettings} {n : ℕ}
    {size : ℚ} {psp : String} {monthly : MonthlyRevenue} {breakdown : FeeBreakdown}
    (hfits : MonthlyFits settings.afmCommissionBps settings.afmMinFeeUsd settings.afmMaxFeeUsd
      n size)
    (hproduct : Fits28 (size * settings.afmCommissionBps))
    (hshare : Fits28 (size * settings.afmCommissionBps / 10000))
    (hmonthly : calculateMonthlyRevenueIn .default settings.afmCommissionBps
      settings.afmMinFeeUsd settings.afmMaxFeeUsd n size = some monthly)
    (hfee : calculateFee lower settings size "USD" psp = some breakdown) :
    |monthly.afmRevenueUsd - n * breakdown.afmFee| ≤ n * (1 / 200) + 1 / 200 := by
  obtain rfl := Option.some.inj (monthly_eq_exact hfits hmonthly)
  obtain ⟨lo, hi, hbounds, hround, -⟩ :=
    calculateAfmFee_eq_some.mp (calculateFee_eq_some.mp hfee).fee
  -- in USD the bounds are the configured ones
  have husd : settings.bounds "USD" = some (settings.afmMinFeeUsd, settings.afmMaxFeeUsd) := by
    have hupper : upper "USD" = "USD" := by decide
    rw [FeeSettings.bounds, convertUsdBounds, convertUsdBoundsIn, if_pos hupper]
  obtain ⟨rfl, rfl⟩ := Prod.mk.inj (Option.some.inj (husd.symm.trans hbounds))
  have hexact : shareBps settings.afmCommissionBps size =
      shareBpsIn .exact settings.afmCommissionBps size := shareBpsIn_eq_exact hproduct hshare
  rw [hexact, quantizeHalfUp_eq_with] at hround
  rw [(quantizeWith_eq_some.mp hround).2]
  exact estimate_near settings.min_le_max n size

end AfricaFrontier
