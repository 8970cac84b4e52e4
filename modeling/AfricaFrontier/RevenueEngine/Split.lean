import AfricaFrontier.Python.Context

/-!
# The revenue split

`RevenueEngine.calculate_split` rounds three shares of the gross amount to cents and adds what
they leave of it to the largest.  It then rounds all three again, half to even, while the
total it reports stays as it was given: an amount that is not a whole number of cents is never
split exactly.  Whole cents are, where the correction does not make the largest share negative
and the sums have no more digits than the context: `split_conserved_iff`.

The counters of the metrics refuse a negative amount, so that such a split raises.

The conditions of `SplitFits` are on what is due to each recipient, three products rounded half
up: these are inputs of the correction, not its result. The proof goes through the one share that
is corrected; the other two never change after the first rounding.
-/

namespace AfricaFrontier

open Python Rounding

/-! ## The shares

Three amounts, with a function from recipients to them, so that the three are treated alike. -/

/-- The configured shares, as `Decimal(str(share))`. Each is in the unit interval; that they add
up to one is checked by nobody. -/
structure ShareSettings where
  adsShare : ℚ := 35 / 100
  creatorShare : ℚ := 50 / 100
  platformShare : ℚ := 15 / 100
  ads_mem : 0 ≤ adsShare ∧ adsShare ≤ 1
  creator_mem : 0 ≤ creatorShare ∧ creatorShare ≤ 1
  platform_mem : 0 ≤ platformShare ∧ platformShare ≤ 1

/-- Who has a share. -/
inductive Recipient
  | ads
  | creator
  | platform
  deriving DecidableEq

/-- An amount for each recipient. -/
structure Shares where
  ads : ℚ
  creator : ℚ
  platform : ℚ
  deriving DecidableEq

namespace Shares

/-- The amount of a recipient. -/
def get (shares : Shares) : Recipient → ℚ
  | .ads => shares.ads
  | .creator => shares.creator
  | .platform => shares.platform

/-- The shares with another amount for a recipient. -/
def set (shares : Shares) (amount : ℚ) : Recipient → Shares
  | .ads => { shares with ads := amount }
  | .creator => { shares with creator := amount }
  | .platform => { shares with platform := amount }

/-- The recipient the correction goes to. -/
def largest (shares : Shares) : Recipient :=
  if shares.ads ≤ shares.creator ∧ shares.platform ≤ shares.creator then .creator
  else if shares.platform ≤ shares.ads then .ads
  else .platform

/-- `ads + creator + platform`. -/
def total (shares : Shares) : ℚ :=
  inContext (inContext (shares.ads + shares.creator) + shares.platform)

/-- The same without rounding. -/
def sum (shares : Shares) : ℚ := shares.ads + shares.creator + shares.platform

/-- What the other two recipients have. -/
def others (shares : Shares) (recipient : Recipient) : ℚ := shares.sum - shares.get recipient

/-- All three are quantized. -/
def quantized (r : ℚ → ℤ) (shares : Shares) : Option Shares := do
  let ads ← quantizeWith r cents shares.ads
  let creator ← quantizeWith r cents shares.creator
  let platform ← quantizeWith r cents shares.platform
  some ⟨ads, creator, platform⟩

/-- The difference to the gross amount is added to the largest share. -/
def corrected (shares : Shares) (grossAmount : ℚ) : Shares :=
  if shares.total = grossAmount then shares
  else
    shares.set
      (inContext (shares.get shares.largest + inContext (grossAmount - shares.total)))
      shares.largest

end Shares

/-- The products, rounded half up to cents. -/
def ShareSettings.rounded (settings : ShareSettings) (grossAmount : ℚ) : Option Shares :=
  Shares.quantized roundHalfUp
    { ads := inContext (grossAmount * settings.adsShare)
      creator := inContext (grossAmount * settings.creatorShare)
      platform := inContext (grossAmount * settings.platformShare) }

/-- What `calculate_split` returns. -/
structure RevenueSplit where
  ads : ℚ
  creator : ℚ
  platform : ℚ
  total : ℚ
  deriving DecidableEq

/-- `RevenueEngine.calculate_split`; `none` where `quantize` raises, or a counter, which takes no
negative number. -/
def calculateSplit (settings : ShareSettings) (grossAmount : ℚ) : Option RevenueSplit := do
  let shares ← settings.rounded grossAmount
  let shares := shares.corrected grossAmount
  if shares.ads < 0 ∨ shares.creator < 0 ∨ shares.platform < 0 then none
  else
    let shares ← shares.quantized roundHalfEven
    some
      { ads := shares.ads
        creator := shares.creator
        platform := shares.platform
        total := grossAmount }

/-! ## The property and its condition

The three amounts that are returned add up to the total that is returned. -/

/-- **The split conserves money**: it answers, the three shares are the total, and none of them is
negative. -/
def Conserved (settings : ShareSettings) (grossAmount : ℚ) : Prop :=
  ∃ split, calculateSplit settings grossAmount = some split ∧
    split.ads + split.creator + split.platform = split.total ∧
    0 ≤ split.ads ∧ 0 ≤ split.creator ∧ 0 ≤ split.platform

/-- What is due to each recipient: the product, rounded half up to cents. -/
def ShareSettings.due (settings : ShareSettings) (grossAmount : ℚ) : Shares where
  ads := roundHalfUp (inContext (grossAmount * settings.adsShare) * 10 ^ cents) / 10 ^ cents
  creator :=
    roundHalfUp (inContext (grossAmount * settings.creatorShare) * 10 ^ cents) / 10 ^ cents
  platform :=
    roundHalfUp (inContext (grossAmount * settings.platformShare) * 10 ^ cents) / 10 ^ cents

/-- The gross amount is whole cents, what is due can be quantized and added, and what is due to
the two others leaves an amount for the largest that can be quantized. -/
structure SplitFits (settings : ShareSettings) (grossAmount : ℚ) : Prop where
  cents : WholeCents grossAmount
  size : ∀ recipient, (settings.due grossAmount).get recipient < 10 ^ 26
  exact : (settings.due grossAmount).total = (settings.due grossAmount).sum
  covers : (settings.due grossAmount).others (settings.due grossAmount).largest ≤ grossAmount
  rest : grossAmount - (settings.due grossAmount).others (settings.due grossAmount).largest <
    10 ^ 26

/-! ## The correction

One share and one difference. -/

section Correction

variable {x others total gross : ℚ}

/-- The largest share after the correction. -/
def settled (x total gross : ℚ) : ℚ :=
  if total = gross then x else inContext (x + inContext (gross - total))

/-- A share that makes up the difference makes up all of it only where the total was exact. -/
theorem settled_exact (hx : WholeCents x) (hx₀ : 0 ≤ x) (hx₁ : x < 10 ^ 26)
    (htotal : WholeCents total) (hgross : WholeCents gross) (hnonneg : 0 ≤ settled x total gross)
    {y : ℚ} (hy : quantizeWith roundHalfEven cents (settled x total gross) = some y)
    (hsum : others + y = gross) : total = others + x := by
  have hround := roundHalfEven_nearest.isRounding
  unfold settled at hnonneg hy
  split at hy
  · rename_i hsame
    rw [hx.quantizeWith_self hround (by linarith) hx₁] at hy
    rw [hsame, ← hsum, Option.some.inj hy]
  · rename_i hdiffer
    rw [if_neg hdiffer] at hnonneg
    have hdiff : WholeCents (gross - total) := hgross.sub htotal
    have hsize : x + inContext (gross - total) < 10 ^ 26 := lt_of_quantize_inContext hy
    have hupper : gross - total < 10 ^ 26 := by
      by_contra hlarge
      have hcut := le_inContext (fits28_pow 26) (not_lt.mp hlarge)
      linarith
    have hlower : -10 ^ 26 < gross - total := by
      by_contra hlarge
      have hcut := inContext_le (fits28_pow 26).neg (not_lt.mp hlarge)
      -- so much cannot be taken from a share: a cent at least is missing
      have hcent : x ≤ 10 ^ 26 - 1 / 100 := hx.le_of_lt hx₁
      have hcentFits : Fits28 (-1 / 100) := by
        have hunit := fits28_of_places (n := -1) (by norm_num) 2
        norm_num at hunit ⊢
        exact hunit
      have hmissing : inContext (x + inContext (gross - total)) ≤ -1 / 100 := by
        refine inContext_le hcentFits ?_
        linarith
      linarith
    rw [inContext_eq_self (hdiff.fits28 hlower hupper)] at hy hnonneg hsize
    have hwhole : WholeCents (x + (gross - total)) := hx.add hdiff
    have hlow : -10 ^ 26 < x + (gross - total) := by linarith
    rw [inContext_eq_self (hwhole.fits28 hlow hsize),
      hwhole.quantizeWith_self hround hlow hsize] at hy
    have hexact := Option.some.inj hy
    linarith

/-- Where the total was exact, the share that makes up the difference leaves nothing. -/
theorem settled_eq (hx : WholeCents x) (hx₀ : 0 ≤ x) (hx₁ : x < 10 ^ 26)
    (htotal : total = others + x) (hwhole : WholeCents total) (hgross : WholeCents gross)
    (hrest₀ : 0 ≤ gross - others) (hrest₁ : gross - others < 10 ^ 26) :
    settled x total gross = gross - others := by
  unfold settled
  split
  · rename_i hsame
    linarith
  · have hdiff : WholeCents (gross - total) := hgross.sub hwhole
    have hfits : Fits28 (gross - total) := hdiff.fits28 (by linarith) (by linarith)
    have hrest : x + (gross - total) = gross - others := by linarith
    have hrestFits : Fits28 (x + (gross - total)) :=
      (hx.add hdiff).fits28 (by linarith) (by linarith)
    rw [inContext_eq_self hfits, inContext_eq_self hrestFits, hrest]

end Correction

/-! ## The three shares together

What the operations do to each recipient. -/

namespace Shares

variable {shares shares' : Shares} {r : ℚ → ℤ} {recipient recipient' : Recipient} {amount : ℚ}

/-- A recipient has what was set. -/
@[simp] theorem get_set_self : (shares.set amount recipient).get recipient = amount := by
  cases recipient with
  | ads => rfl
  | creator => rfl
  | platform => rfl

/-- The other recipients have what they had. -/
theorem get_set_of_ne (h : recipient' ≠ recipient) :
    (shares.set amount recipient).get recipient' = shares.get recipient' := by
  cases recipient <;> cases recipient' <;> first | rfl | exact absurd rfl h

/-- Shares are equal if they are for each recipient. -/
@[ext] theorem ext_get (h : ∀ recipient, shares.get recipient = shares'.get recipient) :
    shares = shares' := by
  obtain ⟨ads, creator, platform⟩ := shares
  obtain ⟨ads', creator', platform'⟩ := shares'
  have hads : ads = ads' := h .ads
  have hcreator : creator = creator' := h .creator
  have hplatform : platform = platform' := h .platform
  rw [hads, hcreator, hplatform]

/-- Quantizing goes by recipients. -/
theorem quantized_eq_some :
    shares.quantized r = some shares' ↔
      ∀ recipient, quantizeWith r cents (shares.get recipient) = some (shares'.get recipient) := by
  unfold quantized
  constructor
  · intro h
    obtain ⟨ads, hads, h⟩ := Option.bind_eq_some_iff.mp h
    obtain ⟨creator, hcreator, h⟩ := Option.bind_eq_some_iff.mp h
    obtain ⟨platform, hplatform, h⟩ := Option.bind_eq_some_iff.mp h
    cases h
    intro recipient
    cases recipient with
    | ads => exact hads
    | creator => exact hcreator
    | platform => exact hplatform
  · intro h
    have hads : quantizeWith r cents shares.ads = some shares'.ads := h .ads
    have hcreator : quantizeWith r cents shares.creator = some shares'.creator := h .creator
    have hplatform : quantizeWith r cents shares.platform = some shares'.platform := h .platform
    simp only [hads, hcreator, hplatform, Option.bind_eq_bind, Option.bind_some]

/-- The correction changes one share. -/
theorem corrected_eq (shares : Shares) (gross : ℚ) :
    shares.corrected gross =
      shares.set (settled (shares.get shares.largest) shares.total gross) shares.largest := by
  unfold corrected settled
  split
  · refine ext_get fun recipient => ?_
    by_cases hsame : recipient = shares.largest
    · rw [hsame, get_set_self]
    · rw [get_set_of_ne hsame]
  · rfl

/-- What the others have depends on the others only. -/
theorem others_congr (h : ∀ recipient', recipient' ≠ recipient →
    shares'.get recipient' = shares.get recipient') :
    shares'.sum = shares.others recipient + shares'.get recipient := by
  cases recipient with
  | ads =>
      have hcreator : shares'.creator = shares.creator := h .creator (by decide)
      have hplatform : shares'.platform = shares.platform := h .platform (by decide)
      simp only [others, sum, get, hcreator, hplatform]
      ring
  | creator =>
      have hads : shares'.ads = shares.ads := h .ads (by decide)
      have hplatform : shares'.platform = shares.platform := h .platform (by decide)
      simp only [others, sum, get, hads, hplatform]
      ring
  | platform =>
      have hads : shares'.ads = shares.ads := h .ads (by decide)
      have hcreator : shares'.creator = shares.creator := h .creator (by decide)
      simp only [others, sum, get, hads, hcreator]
      ring

/-- Shares as they come from rounding a product. -/
structure Rounded (shares : Shares) : Prop where
  cents : ∀ recipient, WholeCents (shares.get recipient)
  nonneg : ∀ recipient, 0 ≤ shares.get recipient
  size : ∀ recipient, shares.get recipient < 10 ^ 26

/-- The total of rounded shares is whole cents. -/
theorem Rounded.total_cents (h : shares.Rounded) : WholeCents shares.total := by
  have hads : WholeCents shares.ads := h.cents .ads
  have hcreator : WholeCents shares.creator := h.cents .creator
  have hplatform : WholeCents shares.platform := h.cents .platform
  exact ((hads.add hcreator).of_inContext.add hplatform).of_inContext

/-- What two of them have is whole cents. -/
theorem Rounded.others_cents (h : shares.Rounded) (recipient : Recipient) :
    WholeCents (shares.others recipient) := by
  have hads : WholeCents shares.ads := h.cents .ads
  have hcreator : WholeCents shares.creator := h.cents .creator
  have hplatform : WholeCents shares.platform := h.cents .platform
  exact ((hads.add hcreator).add hplatform).sub (h.cents recipient)

end Shares

/-- The products are such shares, once they are rounded. -/
theorem ShareSettings.rounded_spec {settings : ShareSettings} {gross : ℚ} {shares : Shares}
    (hgross : 0 ≤ gross) (h : settings.rounded gross = some shares) : shares.Rounded := by
  have hquantized := Shares.quantized_eq_some.mp h
  refine ⟨fun recipient => wholeCents_of_quantizeWith (hquantized recipient), ?_,
    fun recipient => (quantizeWith_size (hquantized recipient)).2⟩
  intro recipient
  refine quantizeWith_nonneg roundHalfUp_nearest.isRounding (hquantized recipient) ?_
  cases recipient with
  | ads => exact inContext_nonneg (mul_nonneg hgross settings.ads_mem.1)
  | creator => exact inContext_nonneg (mul_nonneg hgross settings.creator_mem.1)
  | platform => exact inContext_nonneg (mul_nonneg hgross settings.platform_mem.1)

/-- The shares that are rounded are those that are due, where these are small enough. -/
theorem ShareSettings.rounded_eq_some {settings : ShareSettings} {gross : ℚ} {shares : Shares}
    (hgross : 0 ≤ gross) :
    settings.rounded gross = some shares ↔
      shares = settings.due gross ∧ ∀ recipient, (settings.due gross).get recipient < 10 ^ 26 := by
  constructor
  · intro h
    have hdue : shares = settings.due gross := by
      refine Shares.ext_get fun recipient => ?_
      have hvalue := (quantizeWith_eq_some.mp (Shares.quantized_eq_some.mp h recipient)).2
      cases recipient with
      | ads => exact hvalue
      | creator => exact hvalue
      | platform => exact hvalue
    refine ⟨hdue, ?_⟩
    rw [← hdue]
    exact (settings.rounded_spec hgross h).size
  · rintro ⟨rfl, hsize⟩
    -- one share, its product already cut to the context
    have hquantized : ∀ x, 0 ≤ x →
        (roundHalfUp (x * 10 ^ cents) : ℚ) / 10 ^ cents < 10 ^ 26 →
        quantizeWith roundHalfUp cents x =
          some ((roundHalfUp (x * 10 ^ cents) : ℚ) / 10 ^ cents) := by
      intro x hx hlt
      have hnonneg : 0 ≤ roundHalfUp (x * 10 ^ cents) := by
        rw [← roundHalfUp_nearest.isRounding.exact 0]
        refine roundHalfUp_nearest.isRounding.mono ?_
        rw [Int.cast_zero]
        exact mul_nonneg hx (le_of_lt (pow_places_pos cents))
      have hfits : roundHalfUp (x * 10 ^ cents) < 10 ^ 28 := cents_lt_iff.mp hlt
      exact quantizeWith_eq_some.mpr ⟨by omega, rfl⟩
    refine Shares.quantized_eq_some.mpr fun recipient => ?_
    cases recipient with
    | ads =>
        exact hquantized _ (inContext_nonneg (mul_nonneg hgross settings.ads_mem.1)) (hsize .ads)
    | creator =>
        exact hquantized _ (inContext_nonneg (mul_nonneg hgross settings.creator_mem.1))
          (hsize .creator)
    | platform =>
        exact hquantized _ (inContext_nonneg (mul_nonneg hgross settings.platform_mem.1))
          (hsize .platform)

/-! ## The split

From a split that was returned to what it is, and back. -/

/-- What `calculate_split` returns. -/
theorem calculateSplit_eq_some {settings : ShareSettings} {gross : ℚ} {split : RevenueSplit} :
    calculateSplit settings gross = some split ↔
      ∃ shares, settings.rounded gross = some shares ∧
        (∀ recipient, 0 ≤ (shares.corrected gross).get recipient) ∧
        (shares.corrected gross).quantized roundHalfEven =
          some ⟨split.ads, split.creator, split.platform⟩ ∧
        split.total = gross := by
  -- the counters refuse a negative share of any recipient
  have hrefused : ∀ shares : Shares, ¬ (shares.ads < 0 ∨ shares.creator < 0 ∨
      shares.platform < 0) ↔ ∀ recipient, 0 ≤ shares.get recipient := by
    intro shares
    constructor
    · intro h recipient
      obtain ⟨hads, hcreator, hplatform⟩ : 0 ≤ shares.ads ∧ 0 ≤ shares.creator ∧
          0 ≤ shares.platform := by
        simpa only [not_or, not_lt] using h
      cases recipient with
      | ads => exact hads
      | creator => exact hcreator
      | platform => exact hplatform
    · rintro h (hads | hcreator | hplatform)
      · exact absurd (h .ads) (not_le.mpr hads)
      · exact absurd (h .creator) (not_le.mpr hcreator)
      · exact absurd (h .platform) (not_le.mpr hplatform)
  unfold calculateSplit
  constructor
  · intro h
    obtain ⟨shares, hshares, h⟩ := Option.bind_eq_some_iff.mp h
    dsimp only at h
    split at h
    · cases h
    · rename_i hcounted
      obtain ⟨shares', hquantized, h⟩ := Option.bind_eq_some_iff.mp h
      cases h
      exact ⟨shares, hshares, (hrefused _).mp hcounted, hquantized, rfl⟩
  · rintro ⟨shares, hshares, hcounted, hquantized, htotal⟩
    obtain ⟨ads, creator, platform, total⟩ := split
    dsimp only at hquantized htotal
    simp only [hshares, Option.bind_eq_bind, Option.bind_some, if_neg ((hrefused _).mpr hcounted),
      hquantized, htotal]

section Conserves

variable {settings : ShareSettings} {gross : ℚ}

/-- A conserved amount is whole cents, and the correction was exact. -/
theorem SplitFits.of_conserved (hgross : 0 ≤ gross) (h : Conserved settings gross) :
    SplitFits settings gross := by
  have hround := roundHalfEven_nearest.isRounding
  obtain ⟨split, hsplit, hsum, -, -, -⟩ := h
  obtain ⟨shares, hshares, hcounted, hquantized, htotal⟩ := calculateSplit_eq_some.mp hsplit
  have hrounded : shares.Rounded := settings.rounded_spec hgross hshares
  rw [Shares.corrected_eq] at hcounted hquantized
  have hquantized := Shares.quantized_eq_some.mp hquantized
  -- the shares that are not corrected are returned as they were rounded
  have hkept : ∀ recipient, recipient ≠ shares.largest →
      Shares.get ⟨split.ads, split.creator, split.platform⟩ recipient =
        shares.get recipient := by
    intro recipient hne
    have hsame := hquantized recipient
    have hnonneg := hrounded.nonneg recipient
    rw [Shares.get_set_of_ne hne, (hrounded.cents recipient).quantizeWith_self hround
      (by linarith) (hrounded.size recipient)] at hsame
    exact (Option.some.inj hsame).symm
  have hlargest := hquantized shares.largest
  have hnonneg := hcounted shares.largest
  rw [Shares.get_set_self] at hlargest hnonneg
  -- so that the largest is what the others leave of the gross amount
  have hmade : shares.others shares.largest +
      Shares.get ⟨split.ads, split.creator, split.platform⟩ shares.largest = gross := by
    rw [← Shares.others_congr hkept, ← htotal, ← hsum]
    rfl
  have hcents : WholeCents gross := by
    rw [← hmade]
    exact (hrounded.others_cents _).add (wholeCents_of_quantizeWith hlargest)
  have hrest : gross - shares.others shares.largest =
      Shares.get ⟨split.ads, split.creator, split.platform⟩ shares.largest := by
    linarith
  obtain ⟨rfl, hsize⟩ := (settings.rounded_eq_some hgross).mp hshares
  refine ⟨hcents, hsize, ?_, ?_, ?_⟩
  · have hexact := settled_exact (hrounded.cents _) (hrounded.nonneg _) (hrounded.size _)
      hrounded.total_cents hcents hnonneg hlargest hmade
    rw [hexact, Shares.others]
    ring
  · rw [← sub_nonneg, hrest]
    exact quantizeWith_nonneg hround hlargest hnonneg
  · rw [hrest]
    exact (quantizeWith_size hlargest).2

/-- The shares after an exact correction: the largest has what is due to the others less. -/
def ShareSettings.settledShares (settings : ShareSettings) (grossAmount : ℚ) : Shares :=
  let due := settings.due grossAmount
  due.set (grossAmount - due.others due.largest) due.largest

/-- They are what is returned. -/
theorem SplitFits.calculateSplit_eq (hgross : 0 ≤ gross) (h : SplitFits settings gross) :
    (∀ recipient, 0 ≤ (settings.settledShares gross).get recipient) ∧
      calculateSplit settings gross = some
        ⟨(settings.settledShares gross).ads, (settings.settledShares gross).creator,
          (settings.settledShares gross).platform, gross⟩ := by
  have hround := roundHalfEven_nearest.isRounding
  obtain ⟨hcents, hsize, htotal, hcovers, hrest₁⟩ := h
  obtain ⟨shares, hdue⟩ : ∃ shares, shares = settings.due gross := ⟨_, rfl⟩
  have hshares : settings.rounded gross = some shares :=
    (settings.rounded_eq_some hgross).mpr ⟨hdue, hsize⟩
  rw [← hdue] at htotal hcovers hrest₁
  have hrest₀ : 0 ≤ gross - shares.others shares.largest := sub_nonneg.mpr hcovers
  have hrounded : shares.Rounded := settings.rounded_spec hgross hshares
  have hexact : shares.total = shares.others shares.largest + shares.get shares.largest := by
    rw [htotal, Shares.others]
    ring
  have hsettled := settled_eq (hrounded.cents _) (hrounded.nonneg _) (hrounded.size _) hexact
    hrounded.total_cents hcents hrest₀ hrest₁
  obtain ⟨final, hfinal⟩ : ∃ final, final = settings.settledShares gross := ⟨_, rfl⟩
  have hcorrected : final = shares.corrected gross := by
    rw [hfinal, ShareSettings.settledShares, ← hdue, Shares.corrected_eq, hsettled]
  -- all three are whole cents of a size that can be quantized again
  have hget : ∀ recipient, WholeCents (final.get recipient) ∧ 0 ≤ final.get recipient ∧
      final.get recipient < 10 ^ 26 := by
    intro recipient
    rw [hcorrected, Shares.corrected_eq, hsettled]
    by_cases hsame : recipient = shares.largest
    · rw [hsame, Shares.get_set_self]
      exact ⟨hcents.sub (hrounded.others_cents _), hrest₀, hrest₁⟩
    · rw [Shares.get_set_of_ne hsame]
      exact ⟨hrounded.cents _, hrounded.nonneg _, hrounded.size _⟩
  have hquantized : final.quantized roundHalfEven = some final := by
    refine Shares.quantized_eq_some.mpr fun recipient => ?_
    obtain ⟨hwhole, hnonneg, hsize⟩ := hget recipient
    exact hwhole.quantizeWith_self hround (by linarith) hsize
  rw [← hfinal]
  refine ⟨fun recipient => (hget recipient).2.1,
    calculateSplit_eq_some.mpr ⟨shares, hshares, ?_, ?_, rfl⟩⟩
  · intro recipient
    rw [← hcorrected]
    exact (hget recipient).2.1
  · rw [← hcorrected]
    exact hquantized

/-- An exact correction conserves the gross amount. -/
theorem SplitFits.conserved (hgross : 0 ≤ gross) (h : SplitFits settings gross) :
    Conserved settings gross := by
  obtain ⟨hnonneg, hsplit⟩ := h.calculateSplit_eq hgross
  refine ⟨_, hsplit, ?_, hnonneg .ads, hnonneg .creator, hnonneg .platform⟩
  obtain ⟨due, hdue⟩ : ∃ due, due = settings.due gross := ⟨_, rfl⟩
  have hsettled : settings.settledShares gross =
      due.set (gross - due.others due.largest) due.largest := by
    rw [hdue]
    rfl
  have hkept : ∀ recipient, recipient ≠ due.largest →
      (settings.settledShares gross).get recipient = due.get recipient := by
    intro recipient hne
    rw [hsettled, Shares.get_set_of_ne hne]
  have hsum := Shares.others_congr hkept
  rw [hsettled, Shares.get_set_self, ← hsettled, add_sub_cancel] at hsum
  exact hsum

end Conserves

/-- **When the split conserves money.** -/
theorem split_conserved_iff (settings : ShareSettings) {gross : ℚ} (hgross : 0 ≤ gross) :
    Conserved settings gross ↔ SplitFits settings gross :=
  ⟨SplitFits.of_conserved hgross, SplitFits.conserved hgross⟩

/-! ## A tenth of a cent -/

/-- The settings as they are delivered. -/
def deliveredShares : ShareSettings where
  ads_mem := by norm_num
  creator_mem := by norm_num
  platform_mem := by norm_num

/-- What is due of `n` cents at so many percent, in cents.  The context leaves whole cents of a
product of 26 digits before the point, so that half a cent goes to the even one there. -/
def dueCents (percent n : ℤ) : ℤ :=
  if 10 ^ 29 ≤ percent * n ∧ percent * n % 200 = 50 then percent * n / 100
  else (percent * n + 50) / 100

/-- A share of whole cents as it is due, where the percentage is a multiple of five. -/
theorem due_cents {percent n : ℤ} (hnonneg : 0 ≤ percent * n) (hsize : percent * n < 10 ^ 30)
    (hfive : percent * n % 5 = 0) :
    roundHalfUp (inContext ((n : ℚ) / 10 ^ cents * ((percent : ℚ) / 100)) * 10 ^ cents) =
      dueCents percent n := by
  have hproduct : (n : ℚ) / 10 ^ cents * ((percent : ℚ) / 100) =
      ((percent * n : ℤ) : ℚ) / 10 ^ 4 := by
    push_cast
    norm_num [cents]
    ring
  rw [hproduct, dueCents]
  generalize percent * n = a at hnonneg hsize hfive
  have hsmaller : ∀ bound : ℤ, a < bound → (a : ℚ) < (bound : ℚ) :=
    fun bound h => Int.cast_lt.mpr h
  have hlarger : ∀ bound : ℤ, bound ≤ a → (bound : ℚ) ≤ (a : ℚ) :=
    fun bound h => Int.cast_le.mpr h
  rcases lt_or_ge a (10 ^ 28) with hsmall | hlarge
  · -- the product is exact
    have hexact := inContext_eq_self (fits28_of_places (abs_lt.mpr ⟨by linarith, hsmall⟩) 4)
    have hcents : (a : ℚ) / 10 ^ 4 * 10 ^ cents = (a : ℚ) / ((2 * 50 : ℕ) : ℚ) := by
      norm_num [cents]
      ring
    rw [hexact, hcents, roundHalfUp_div hnonneg (by norm_num), if_neg (by omega)]
    norm_num
  · rcases lt_or_ge a (10 ^ 29) with hmedium | hhuge
    · -- three places are left, and the last is a half at most
      have hlow := hlarger (10 ^ 28) hlarge
      have hhigh := hsmaller (10 ^ 29) hmedium
      obtain ⟨b, rfl⟩ : ∃ b, a = 5 * b := ⟨a / 5, by omega⟩
      have hplaces := @inContext_eq_places 3 (((5 * b : ℤ) : ℚ) / 10 ^ 4)
        (by push_cast at hlow ⊢; norm_num at hlow ⊢; linarith)
        (by push_cast at hhigh ⊢; norm_num at hhigh ⊢; linarith)
      have hhalves : ((5 * b : ℤ) : ℚ) / 10 ^ 4 * 10 ^ 3 = (b : ℚ) / ((2 * 1 : ℕ) : ℚ) := by
        push_cast
        ring
      have heven := roundHalfEven_div (a := b) (h := 1) (by omega) (by norm_num)
      rw [← hhalves] at heven
      obtain ⟨k, hk⟩ : ∃ k, roundHalfEven (((5 * b : ℤ) : ℚ) / 10 ^ 4 * 10 ^ 3) = k := ⟨_, rfl⟩
      rw [hk] at hplaces heven
      have hcents : (k : ℚ) / 10 ^ 3 * 10 ^ cents = (k : ℚ) / ((2 * 5 : ℕ) : ℚ) := by
        norm_num [cents]
        ring
      have hk₀ : 0 ≤ k := by
        split at heven <;> omega
      rw [hplaces, hcents, roundHalfUp_div hk₀ (by norm_num), if_neg (by omega)]
      split at heven <;> omega
    · -- and here none behind the cents
      have hlow := hlarger (10 ^ 29) hhuge
      have hhigh := hsmaller (10 ^ 30) hsize
      have hplaces := inContext_eq_cents (x := (a : ℚ) / 10 ^ 4)
        (by push_cast at hlow; linarith) (by push_cast at hhigh; linarith)
      have hcents : (a : ℚ) / 10 ^ 4 * 10 ^ cents = (a : ℚ) / ((2 * 50 : ℕ) : ℚ) := by
        norm_num [cents]
        ring
      rw [hplaces, div_mul_cancel₀ _ (ne_of_gt (pow_places_pos cents)),
        roundHalfUp_nearest.isRounding.exact, hcents, roundHalfEven_div hnonneg (by norm_num)]
      split
      · rename_i htie
        rw [if_pos (by omega)]
        norm_num
      · rename_i hno
        rw [if_neg (by omega)]
        norm_num

section Delivered

variable {n : ℤ}

/-- What is due with the shares as they are delivered. -/
theorem delivered_due (hn : 0 ≤ n) (hsize : n < 10 ^ 28) :
    deliveredShares.due ((n : ℚ) / 10 ^ cents) =
      ⟨(dueCents 35 n : ℚ) / 10 ^ cents, (dueCents 50 n : ℚ) / 10 ^ cents,
        (dueCents 15 n : ℚ) / 10 ^ cents⟩ := by
  rw [← @due_cents 35 n (by omega) (by omega) (by omega),
    ← @due_cents 50 n (by omega) (by omega) (by omega),
    ← @due_cents 15 n (by omega) (by omega) (by omega)]
  rfl

/-- The creator's share is the largest of the three. -/
theorem delivered_ordered (hn : 0 ≤ n) :
    dueCents 35 n ≤ dueCents 50 n ∧ dueCents 15 n ≤ dueCents 50 n ∧
      dueCents 35 n + dueCents 15 n ≤ n := by
  unfold dueCents
  refine ⟨?_, ?_, ?_⟩
  · split <;> split <;> omega
  · split <;> split <;> omega
  · rcases le_or_gt n 1 with hfew | hmany
    · obtain rfl | rfl : n = 0 ∨ n = 1 := by omega
      · decide
      · decide
    · split <;> split <;> omega

/-- The share of the creator is the one that is corrected. -/
theorem delivered_largest (hn : 0 ≤ n) (hsize : n < 10 ^ 28) :
    (deliveredShares.due ((n : ℚ) / 10 ^ cents)).largest = .creator := by
  have hpos : (0 : ℚ) < 10 ^ cents := pow_places_pos cents
  obtain ⟨hads, hplatform, -⟩ := delivered_ordered hn
  rw [delivered_due hn hsize]
  refine if_pos ⟨?_, ?_⟩
  · exact div_le_div_of_nonneg_right (Int.cast_le.mpr hads) (le_of_lt hpos)
  · exact div_le_div_of_nonneg_right (Int.cast_le.mpr hplatform) (le_of_lt hpos)

/-- The share of the creator is corrected by what the two others have. -/
theorem delivered_others (hn : 0 ≤ n) (hsize : n < 10 ^ 28) :
    (deliveredShares.due ((n : ℚ) / 10 ^ cents)).others .creator =
      ((dueCents 35 n + dueCents 15 n : ℤ) : ℚ) / 10 ^ cents := by
  rw [delivered_due hn hsize]
  simp only [Shares.others, Shares.sum, Shares.get]
  push_cast
  ring

/-- Whole cents that the context can hold are split. -/
theorem delivered_fits (hn : 0 ≤ n) (hsize : n < 10 ^ 28) :
    SplitFits deliveredShares ((n : ℚ) / 10 ^ cents) := by
  have hpos : (0 : ℚ) < 10 ^ cents := pow_places_pos cents
  have hle := (delivered_ordered hn).2.2
  refine ⟨⟨n, rfl⟩, ?_, ?_, ?_, ?_⟩
  · rw [delivered_due hn hsize]
    intro recipient
    cases recipient with
    | ads =>
        refine cents_lt_iff.mpr ?_
        unfold dueCents
        split <;> omega
    | creator =>
        refine cents_lt_iff.mpr ?_
        unfold dueCents
        split <;> omega
    | platform =>
        refine cents_lt_iff.mpr ?_
        unfold dueCents
        split <;> omega
  · rw [delivered_due hn hsize]
    have hfirst : (dueCents 35 n : ℚ) / 10 ^ cents + (dueCents 50 n : ℚ) / 10 ^ cents =
        ((dueCents 35 n + dueCents 50 n : ℤ) : ℚ) / 10 ^ cents := by
      push_cast
      ring
    have hall : ((dueCents 35 n + dueCents 50 n : ℤ) : ℚ) / 10 ^ cents +
        (dueCents 15 n : ℚ) / 10 ^ cents =
          ((dueCents 35 n + dueCents 50 n + dueCents 15 n : ℤ) : ℚ) / 10 ^ cents := by
      push_cast
      ring
    have hfirstFits : |dueCents 35 n + dueCents 50 n| < 10 ^ 28 := by
      rw [abs_lt]
      unfold dueCents
      split <;> split <;> omega
    have hallFits : Fits28 (((dueCents 35 n + dueCents 50 n + dueCents 15 n : ℤ) : ℚ) /
        10 ^ cents) := by
      have hbound : 0 ≤ dueCents 35 n + dueCents 50 n + dueCents 15 n ∧
          dueCents 35 n + dueCents 50 n + dueCents 15 n ≤ 10 ^ 28 := by
        unfold dueCents
        split <;> split <;> split <;> omega
      rcases hbound.2.lt_or_eq with hlt | heq
      · exact fits28_of_places (abs_lt.mpr ⟨by linarith, hlt⟩) cents
      · -- one more than the context can count, but a power of ten
        have hpower := fits28_pow 26
        rw [heq]
        norm_num [cents] at hpower ⊢
        exact hpower
    simp only [Shares.total, Shares.sum]
    rw [hfirst, inContext_eq_self (fits28_of_places hfirstFits cents), hall,
      inContext_eq_self hallFits]
  · rw [delivered_largest hn hsize, delivered_others hn hsize]
    exact div_le_div_of_nonneg_right (Int.cast_le.mpr hle) (le_of_lt hpos)
  · rw [delivered_largest hn hsize, delivered_others hn hsize]
    have hrest : (n : ℚ) / 10 ^ cents - ((dueCents 35 n + dueCents 15 n : ℤ) : ℚ) / 10 ^ cents =
        ((n - (dueCents 35 n + dueCents 15 n) : ℤ) : ℚ) / 10 ^ cents := by
      push_cast
      ring
    rw [hrest]
    refine cents_lt_iff.mpr ?_
    unfold dueCents
    split <;> split <;> omega

/-- The three shares of whole cents. -/
theorem delivered_split (hn : 0 ≤ n) (hsize : n < 10 ^ 28) :
    calculateSplit deliveredShares ((n : ℚ) / 10 ^ cents) = some
      { ads := dueCents 35 n / 10 ^ cents
        creator := (n - (dueCents 35 n + dueCents 15 n) : ℤ) / 10 ^ cents
        platform := dueCents 15 n / 10 ^ cents
        total := n / 10 ^ cents } := by
  have hgross : (0 : ℚ) ≤ (n : ℚ) / 10 ^ cents :=
    div_nonneg (by exact_mod_cast hn) (le_of_lt (pow_places_pos cents))
  obtain ⟨-, hsplit⟩ := (delivered_fits hn hsize).calculateSplit_eq hgross
  rw [hsplit, ShareSettings.settledShares, delivered_largest hn hsize,
    delivered_others hn hsize, delivered_due hn hsize, Option.some.injEq]
  simp only [Shares.set, RevenueSplit.mk.injEq, true_and, and_true]
  push_cast
  ring

end Delivered

/-- With the shares as they are delivered, every whole number of cents of 24 digits before the
point is conserved. -/
theorem delivered_conserved {gross : ℚ} (hcents : WholeCents gross) (hlow : 0 ≤ gross)
    (hhigh : gross < 10 ^ 24) : Conserved deliveredShares gross := by
  obtain ⟨n, rfl⟩ := hcents
  have hn : 0 ≤ n := by
    have hscaled := (le_div_iff₀ (pow_places_pos cents)).mp hlow
    rw [zero_mul] at hscaled
    exact_mod_cast hscaled
  have hsize : n < 10 ^ 28 := cents_lt_iff.mp (hhigh.trans (by norm_num))
  exact (delivered_fits hn hsize).conserved hlow

/-- The statement on 100. -/
theorem split_conserved_iff_hundred :
    Conserved deliveredShares 100 ↔ SplitFits deliveredShares 100 :=
  split_conserved_iff deliveredShares (by norm_num)

/-- Of a tenth of a cent nothing is left after the rounding, and the total is a tenth of a cent
still. -/
theorem not_conserved :
    calculateSplit deliveredShares (1 / 1000) = some ⟨0, 0, 0, 1 / 1000⟩ ∧
      ¬ Conserved deliveredShares (1 / 1000) := by
  have hsplit : calculateSplit deliveredShares (1 / 1000) = some ⟨0, 0, 0, 1 / 1000⟩ := by
    decide +kernel
  refine ⟨hsplit, ?_⟩
  rintro ⟨split, hreturned, hsum, -⟩
  rw [hsplit] at hreturned
  cases hreturned
  norm_num at hsum

end AfricaFrontier
