import AfricaFrontier.RevenueEngine.Split

/-!
# The split is fair to the cent

With the shares as they are delivered, every amount of whole cents that the context can hold is
split: no recipient is more than a cent away from the exact product, and what the rounding of
the two others leaves goes to the creator.

The two others have their products rounded half up, except that the context has cut a product of
26 digits before the point to whole cents already, and half to even.  So half a cent is lost in
the amounts of this size that are 30 cents above a multiple of 40: `split_fair`.

Everything is counted in cents here: the gross amount is a number of cents, the two exact products
are hundredths of a cent, and what is returned are integers near them. That leaves statements
about integers.
-/

namespace AfricaFrontier

open Python

/-! ## What is fair

Two properties of a split: every recipient within a cent, and the two others half up. -/

/-- The share of a recipient, as it is configured. -/
def ShareSettings.rate (settings : ShareSettings) : Recipient → ℚ
  | .ads => settings.adsShare
  | .creator => settings.creatorShare
  | .platform => settings.platformShare

/-- What a recipient is returned. -/
def RevenueSplit.share (split : RevenueSplit) : Recipient → ℚ
  | .ads => split.ads
  | .creator => split.creator
  | .platform => split.platform

/-- What a recipient is entitled to: the exact product. -/
def entitlement (grossAmount : ℚ) (recipient : Recipient) : ℚ :=
  deliveredShares.rate recipient * grossAmount

/-- An amount rounded half up to cents. -/
def halfUpCents (x : ℚ) : ℚ := roundHalfUp (x * 10 ^ cents) / 10 ^ cents

/-- No share is negative, none is off by more than a cent, and the creator has what the others
leave. -/
structure WithinCent (grossAmount : ℚ) (split : RevenueSplit) : Prop where
  nonneg : ∀ recipient, 0 ≤ split.share recipient
  near : ∀ recipient, |split.share recipient - entitlement grossAmount recipient| ≤ 1 / 100
  rest : split.creator = grossAmount - (split.ads + split.platform)

/-- The shares of the two others are their products, rounded half up. -/
structure HalfUpShares (grossAmount : ℚ) (split : RevenueSplit) : Prop where
  ads : split.ads = halfUpCents (entitlement grossAmount .ads)
  platform : split.platform = halfUpCents (entitlement grossAmount .platform)

/-- The product for the ads has 26 digits before the point, and half a cent above an even
number of cents. -/
def CutTie (grossAmount : ℚ) : Prop :=
  ∃ n : ℤ, grossAmount = n / 10 ^ cents ∧ 10 ^ 29 ≤ 35 * n ∧ n % 40 = 30

/-! ## In cents

The products and their roundings as integers over a power of ten. -/

section Cents

variable {percent n : ℤ}

/-- The rounding errs by half a cent at most. -/
theorem dueCents_near (percent n : ℤ) :
    100 * dueCents percent n ≤ percent * n + 50 ∧ percent * n - 50 ≤ 100 * dueCents percent n := by
  unfold dueCents
  split
  · omega
  · omega

/-- A number of hundredths of a cent is at most a cent away from its share. -/
theorem near_of_cents {m a : ℤ} (hlow : a - 100 ≤ 100 * m) (hhigh : 100 * m ≤ a + 100) :
    |(m : ℚ) / 10 ^ cents - a / 10 ^ 4| ≤ 1 / 100 := by
  have hlow : ((a - 100 : ℤ) : ℚ) ≤ ((100 * m : ℤ) : ℚ) := Int.cast_le.mpr hlow
  have hhigh : ((100 * m : ℤ) : ℚ) ≤ ((a + 100 : ℤ) : ℚ) := Int.cast_le.mpr hhigh
  push_cast at hlow hhigh
  rw [abs_le]
  constructor
  · norm_num [cents]
    linarith
  · norm_num [cents]
    linarith

/-- Rounding half up, of so many percent of cents. -/
theorem halfUpCents_div (hn : 0 ≤ percent * n) :
    halfUpCents (((percent * n : ℤ) : ℚ) / 10 ^ 4) =
      (((percent * n + 50) / 100 : ℤ) : ℚ) / 10 ^ cents := by
  have hcents : ((percent * n : ℤ) : ℚ) / 10 ^ 4 * 10 ^ cents =
      ((percent * n : ℤ) : ℚ) / ((2 * 50 : ℕ) : ℚ) := by
    norm_num [cents]
    ring
  rw [halfUpCents, hcents, roundHalfUp_div hn (by norm_num)]
  norm_num

/-- The three exact products. -/
theorem entitlement_cents (n : ℤ) (recipient : Recipient) :
    entitlement ((n : ℚ) / 10 ^ cents) recipient =
      match recipient with
      | .ads => ((35 * n : ℤ) : ℚ) / 10 ^ 4
      | .creator => ((50 * n : ℤ) : ℚ) / 10 ^ 4
      | .platform => ((15 * n : ℤ) : ℚ) / 10 ^ 4 := by
  cases recipient with
  | ads =>
      push_cast
      norm_num [entitlement, ShareSettings.rate, deliveredShares, cents]
      ring
  | creator =>
      push_cast
      norm_num [entitlement, ShareSettings.rate, deliveredShares, cents]
      ring
  | platform =>
      push_cast
      norm_num [entitlement, ShareSettings.rate, deliveredShares, cents]
      ring

/-- A share is rounded half up exactly if its cents are. -/
theorem share_halfUp_iff (hn : 0 ≤ percent * n) :
    (dueCents percent n : ℚ) / 10 ^ cents = halfUpCents (((percent * n : ℤ) : ℚ) / 10 ^ 4) ↔
      ¬ (10 ^ 29 ≤ percent * n ∧ percent * n % 200 = 50) := by
  rw [halfUpCents_div hn, div_left_inj' (ne_of_gt (pow_places_pos cents)), Int.cast_inj, dueCents]
  split
  · omega
  · omega

end Cents

/-- **The split is fair to the cent.**  Every amount of whole cents with 28 digits at most is
split, with no share off by more than a cent and the residual with the creator; and the other
two shares are rounded half up, unless the context has cut a tie. -/
theorem split_fair {gross : ℚ} (hcents : WholeCents gross) (hlow : 0 ≤ gross)
    (hhigh : gross < 10 ^ 26) :
    ∃ split, calculateSplit deliveredShares gross = some split ∧ WithinCent gross split ∧
      (HalfUpShares gross split ↔ ¬ CutTie gross) := by
  obtain ⟨n, rfl⟩ := hcents
  have hn : 0 ≤ n := by
    have hscaled := (le_div_iff₀ (pow_places_pos cents)).mp hlow
    rw [zero_mul] at hscaled
    exact_mod_cast hscaled
  have hsize : n < 10 ^ 28 := cents_lt_iff.mp hhigh
  refine ⟨_, delivered_split hn hsize, ?_, ?_⟩
  -- two shares are near their products, and the creator has what is left
  · obtain ⟨hadsHigh, hadsLow⟩ := dueCents_near 35 n
    obtain ⟨hplatformHigh, hplatformLow⟩ := dueCents_near 15 n
    have hordered := (delivered_ordered hn).2.2
    have hnonneg : ∀ m : ℤ, 0 ≤ m → (0 : ℚ) ≤ (m : ℚ) / 10 ^ cents := fun m hm =>
      div_nonneg (by exact_mod_cast hm) (le_of_lt (pow_places_pos cents))
    refine ⟨?_, ?_, ?_⟩
    · intro recipient
      cases recipient with
      | ads => exact hnonneg _ (by omega)
      | creator => exact hnonneg _ (by omega)
      | platform => exact hnonneg _ (by omega)
    · intro recipient
      rw [entitlement_cents]
      cases recipient with
      | ads => exact near_of_cents (by omega) (by omega)
      | creator => exact near_of_cents (by omega) (by omega)
      | platform => exact near_of_cents (by omega) (by omega)
    · push_cast
      ring
  -- a share is its product rounded half up unless the context has cut a tie
  · have hads := @share_halfUp_iff 35 n (by omega)
    have hplatform := @share_halfUp_iff 15 n (by omega)
    have htie : CutTie ((n : ℚ) / 10 ^ cents) ↔ 10 ^ 29 ≤ 35 * n ∧ n % 40 = 30 := by
      constructor
      · rintro ⟨n', hsame, hlarge, hrest⟩
        rw [div_left_inj' (ne_of_gt (pow_places_pos cents)), Int.cast_inj] at hsame
        rw [hsame]
        exact ⟨hlarge, hrest⟩
      · exact fun h => ⟨n, rfl, h⟩
    rw [htie]
    constructor
    · intro hshares htied
      have hkept := hads.mp (hshares.ads.trans (congrArg halfUpCents (entitlement_cents n .ads)))
      omega
    · intro hfree
      refine ⟨?_, ?_⟩
      · exact (hads.mpr (by omega)).trans
          (congrArg halfUpCents (entitlement_cents n .ads)).symm
      · exact (hplatform.mpr (by omega)).trans
          (congrArg halfUpCents (entitlement_cents n .platform)).symm

/-- The statement on 10.01. -/
theorem split_fair_small :
    ∃ split, calculateSplit deliveredShares (1001 / 100) = some split ∧
      WithinCent (1001 / 100) split ∧ (HalfUpShares (1001 / 100) split ↔ ¬ CutTie (1001 / 100)) :=
  split_fair ⟨1001, by norm_num [cents]⟩ (by norm_num) (by norm_num)

/-- The first amount whose half cent is lost: the share of the ads is a cent below the one that
is rounded half up. -/
theorem not_half_up :
    WholeCents (2857142857142857142857142870 / 100) ∧
      calculateSplit deliveredShares (2857142857142857142857142870 / 100) = some
        { ads := 1000000000000000000000000004 / 100
          creator := 1428571428571428571428571435 / 100
          platform := 428571428571428571428571431 / 100
          total := 2857142857142857142857142870 / 100 } ∧
      ∀ split, calculateSplit deliveredShares (2857142857142857142857142870 / 100) = some split →
        ¬ HalfUpShares (2857142857142857142857142870 / 100) split := by
  have hsplit : calculateSplit deliveredShares (2857142857142857142857142870 / 100) = some
      { ads := 1000000000000000000000000004 / 100
        creator := 1428571428571428571428571435 / 100
        platform := 428571428571428571428571431 / 100
        total := 2857142857142857142857142870 / 100 } := by
    decide +kernel
  refine ⟨⟨2857142857142857142857142870, by norm_num [cents]⟩, hsplit, ?_⟩
  intro split hreturned hshares
  rw [hsplit] at hreturned
  obtain rfl := Option.some.inj hreturned
  have hdue : halfUpCents (entitlement (2857142857142857142857142870 / 100) .ads) =
      1000000000000000000000000005 / 100 := by
    decide +kernel
  have hads := hshares.ads
  rw [hdue] at hads
  norm_num at hads

end AfricaFrontier
