import AfricaFrontier.Lib.Rounding
import AfricaFrontier.Python.Decimal

/-!
# The default decimal context

The result of an operation on `Decimal`s is rounded half to even to 28 significant digits
(`inContext`).  The exponent is unbounded here; that of the amounts in this program stays far
from its limits.  `quantize` and its half-up form are one function of the rounding
(`quantizeWith`), which answers with a multiple of the quantum or not at all.

The two roundings of the program, half to even and half up, are instances of one notion
(`Rounding.IsRounding`), for which the lemmas on `quantizeWith` are stated; what parts them is at
the ties alone. Amounts in this program are cents, mostly, and cents below 10^26 are exact in
every operation and are left alone by `quantize`: that is the section on whole cents, and what the
equations on balances in other modules rest on.
-/

namespace Python

/-- Half to even is a rounding to a nearest integer. -/
theorem roundHalfEven_nearest : Rounding.Nearest roundHalfEven := by
  intro x
  have hlow : (⌊x⌋ : ℚ) ≤ x := Int.floor_le x
  have hhigh : x < ⌊x⌋ + 1 := Int.lt_floor_add_one x
  unfold roundHalfEven
  simp only
  split
  · rw [abs_le]
    constructor <;> linarith
  · split
    · rw [abs_le]
      push_cast
      constructor <;> linarith
    · have htie : x - ⌊x⌋ = 1 / 2 := by linarith
      split
      · rw [abs_le]
        constructor <;> linarith
      · rw [abs_le]
        push_cast
        constructor <;> linarith

/-- A tie goes to the even neighbour. -/
theorem roundHalfEven_half (n : ℤ) : roundHalfEven (n + 1 / 2) = n + n % 2 := by
  have hfloor : ⌊(n : ℚ) + 1 / 2⌋ = n := by
    rw [Int.floor_eq_iff]
    constructor <;> linarith
  have hrest : (n : ℚ) + 1 / 2 - n = 1 / 2 := by ring
  unfold roundHalfEven
  simp only [hfloor, hrest, lt_irrefl, if_false]
  split
  · omega
  · omega

/-- An integer below the next one is not above this one. -/
theorem int_le_of_lt_add_one {m n : ℤ} (h : (m : ℚ) < n + 1) : m ≤ n := by
  have hlt : m < n + 1 := by exact_mod_cast h
  omega

/-- A number is a tie, or near an integer. -/
theorem half_or_near (x : ℚ) : (∃ n : ℤ, x = n + 1 / 2) ∨ ∃ n : ℤ, |x - n| < 1 / 2 := by
  have hlow : (⌊x + 1 / 2⌋ : ℚ) ≤ x + 1 / 2 := Int.floor_le _
  have hhigh : x + 1 / 2 < ⌊x + 1 / 2⌋ + 1 := Int.lt_floor_add_one _
  rcases hlow.lt_or_eq with hlt | heq
  · refine Or.inr ⟨⌊x + 1 / 2⌋, ?_⟩
    rw [abs_lt]
    constructor <;> linarith
  · refine Or.inl ⟨⌊x + 1 / 2⌋ - 1, ?_⟩
    push_cast
    linarith

/-- Half up is a rounding to a nearest integer. -/
theorem roundHalfUp_nearest : Rounding.Nearest roundHalfUp := by
  intro x
  unfold roundHalfUp
  split
  · have hlow : (⌊x + 1 / 2⌋ : ℚ) ≤ x + 1 / 2 := Int.floor_le _
    have hhigh : x + 1 / 2 < ⌊x + 1 / 2⌋ + 1 := Int.lt_floor_add_one _
    rw [abs_le]
    constructor <;> linarith
  · have hlow : (⌊-x + 1 / 2⌋ : ℚ) ≤ -x + 1 / 2 := Int.floor_le _
    have hhigh : -x + 1 / 2 < ⌊-x + 1 / 2⌋ + 1 := Int.lt_floor_add_one _
    rw [abs_le]
    push_cast
    constructor <;> linarith

/-- Half up, of a fraction of whole numbers. -/
theorem roundHalfUp_div {a : ℤ} {h : ℕ} (ha : 0 ≤ a) (hh : 0 < h) :
    roundHalfUp ((a : ℚ) / ((2 * h : ℕ) : ℚ)) = (a + h) / ((2 * h : ℕ) : ℤ) := by
  have hpos : (0 : ℚ) < ((2 * h : ℕ) : ℚ) := by positivity
  have hnonneg : 0 ≤ (a : ℚ) / ((2 * h : ℕ) : ℚ) := div_nonneg (by exact_mod_cast ha) hpos.le
  have hhalf : (a : ℚ) / ((2 * h : ℕ) : ℚ) + 1 / 2 = ((a + h : ℤ) : ℚ) / ((2 * h : ℕ) : ℚ) := by
    have hne : (h : ℚ) ≠ 0 := by positivity
    push_cast
    field_simp
  rw [roundHalfUp, if_pos hnonneg, hhalf, Rat.floor_intCast_div_natCast]

/-- The two roundings of a number that is not negative part at the ties above an even number
only. -/
theorem roundHalfEven_eq_up {x : ℚ} (hx : 0 ≤ x) (hodd : ∀ n : ℤ, x = n + 1 / 2 → n % 2 = 1) :
    roundHalfEven x = roundHalfUp x := by
  rcases half_or_near x with ⟨n, hn⟩ | ⟨n, hn⟩
  · have hup : roundHalfUp x = n + 1 := by
      have hwhole : x + 1 / 2 = ((n + 1 : ℤ) : ℚ) := by
        rw [hn]
        push_cast
        ring
      rw [roundHalfUp, if_pos hx, hwhole, Int.floor_intCast]
    rw [hup, hn, roundHalfEven_half, hodd n hn]
  · rw [roundHalfEven_nearest.eq_of_near hn, roundHalfUp_nearest.eq_of_near hn]

/-- Half even, of a fraction of whole numbers. -/
theorem roundHalfEven_div {a : ℤ} {h : ℕ} (ha : 0 ≤ a) (hh : 0 < h) :
    roundHalfEven ((a : ℚ) / ((2 * h : ℕ) : ℚ)) =
      if a % ((4 * h : ℕ) : ℤ) = h then a / ((2 * h : ℕ) : ℤ)
      else (a + h) / ((2 * h : ℕ) : ℤ) := by
  have hpos : (0 : ℚ) < ((2 * h : ℕ) : ℚ) := by positivity
  have htie : ∀ n : ℤ, (a : ℚ) / ((2 * h : ℕ) : ℚ) = n + 1 / 2 ↔ a = (2 * n + 1) * h := by
    intro n
    rw [div_eq_iff (ne_of_gt hpos)]
    constructor
    · intro hsame
      have hcast : (a : ℚ) = (((2 * n + 1) * h : ℤ) : ℚ) := by
        rw [hsame]
        push_cast
        ring
      exact_mod_cast hcast
    · rintro rfl
      push_cast
      ring
  -- a tie goes down where the number below it is even
  split
  · rename_i hrest
    obtain ⟨k, hk⟩ : ∃ k, a / ((4 * h : ℕ) : ℤ) = k := ⟨_, rfl⟩
    have hsplit := Int.mul_ediv_add_emod a ((4 * h : ℕ) : ℤ)
    rw [hrest, hk] at hsplit
    have ha' : a = (2 * (2 * k) + 1) * h := by
      rw [← hsplit]
      push_cast
      ring
    have hfloor : a / ((2 * h : ℕ) : ℤ) = 2 * k := by
      rw [Int.ediv_eq_iff_of_pos (by positivity), ha']
      have hstep : (0 : ℤ) < h := by exact_mod_cast hh
      push_cast
      constructor <;> linarith
    rw [(htie (2 * k)).mpr ha', roundHalfEven_half, Int.mul_emod_right, add_zero, hfloor]
  · rename_i hrest
    rw [← roundHalfUp_div ha hh]
    refine roundHalfEven_eq_up (div_nonneg (by exact_mod_cast ha) hpos.le) fun n hn => ?_
    by_contra heven
    obtain ⟨k, rfl⟩ : ∃ k, n = 2 * k := ⟨n / 2, by omega⟩
    refine hrest ?_
    have hsplit : a = h + ((4 * h : ℕ) : ℤ) * k := by
      rw [(htie (2 * k)).mp hn]
      push_cast
      ring
    rw [hsplit, Int.add_mul_emod_self_left]
    refine Int.emod_eq_of_lt (Int.natCast_nonneg h) ?_
    exact_mod_cast (by omega : h < 4 * h)

/-- The result of an operation: rounded half to even to 28 significant digits. -/
def inContext (x : ℚ) : ℚ := Rounding.toDigits 10 28 roundHalfEven x

/-- The number can be written with 28 digits. -/
def Fits28 (x : ℚ) : Prop := Rounding.Fits 10 28 x

/-- Rounding to 28 digits is monotone. -/
theorem inContext_mono : Monotone inContext :=
  Rounding.toDigits_mono roundHalfEven_nearest.isRounding (by norm_num) (by norm_num)

/-- Rounding to 28 digits leaves alone what fits. -/
theorem inContext_eq_self {x : ℚ} (h : Fits28 x) : inContext x = x :=
  Rounding.toDigits_eq_self roundHalfEven_nearest.isRounding (by norm_num) h

/-- Rounding to 28 digits does not change signs. -/
theorem inContext_nonneg {x : ℚ} (h : 0 ≤ x) : 0 ≤ inContext x :=
  Rounding.toDigits_nonneg roundHalfEven_nearest.isRounding (by norm_num) h

/-- A number of few units of some decimal place fits. -/
theorem fits28_of_units {n : ℤ} (h : |n| < 10 ^ 28) (k : ℤ) : Fits28 (n * 10 ^ k) :=
  ⟨n, k, h, by norm_num⟩

/-- A whole number of 28 digits fits, whatever the place of its point. -/
theorem fits28_of_places {n : ℤ} (h : |n| < 10 ^ 28) (places : ℕ) :
    Fits28 ((n : ℚ) / 10 ^ places) := by
  have hpow : (n : ℚ) / 10 ^ places = n * 10 ^ (-(places : ℤ)) := by
    rw [zpow_neg, zpow_natCast, div_eq_mul_inv]
  rw [hpow]
  exact fits28_of_units h _

/-- A power of ten fits. -/
theorem fits28_pow (k : ℕ) : Fits28 (10 ^ k) := by
  have hunit := fits28_of_units (n := 1) (by norm_num) k
  rw [Int.cast_one, one_mul, zpow_natCast] at hunit
  exact hunit

/-- With a number its negative fits. -/
theorem Fits28.neg {x : ℚ} (h : Fits28 x) : Fits28 (-x) := by
  obtain ⟨n, k, hn, rfl⟩ := h
  refine ⟨-n, k, ?_, ?_⟩
  · rw [abs_neg]
    exact hn
  · push_cast
    ring

/-- What fits bounds the result from above. -/
theorem inContext_le {x y : ℚ} (hy : Fits28 y) (h : x ≤ y) : inContext x ≤ y := by
  rw [← inContext_eq_self hy]
  exact inContext_mono h

/-- What fits bounds the result from below. -/
theorem le_inContext {x y : ℚ} (hx : Fits28 x) (h : x ≤ y) : x ≤ inContext y := by
  rw [← inContext_eq_self hx]
  exact inContext_mono h

/-- Amounts of the same number of places are added up exactly, as far as 28 digits go. -/
theorem foldl_inContext {places : ℕ} {bound : ℤ} {xs : List ℚ}
    (hxs : ∀ x ∈ xs, ∃ n : ℤ, |n| ≤ bound ∧ x = n / 10 ^ places) {start : ℤ}
    (hroom : |start| + bound * xs.length < 10 ^ 28) :
    xs.foldl (fun total x => inContext (total + x)) (start / 10 ^ places) =
      start / 10 ^ places + xs.sum := by
  induction xs generalizing start with
  | nil => simp
  | cons x xs ih =>
      obtain ⟨n, hn, rfl⟩ := hxs x List.mem_cons_self
      have hbound : 0 ≤ bound * xs.length :=
        mul_nonneg ((abs_nonneg n).trans hn) (Int.natCast_nonneg _)
      have hnext : |start + n| + bound * xs.length < 10 ^ 28 := by
        rw [List.length_cons, Nat.cast_succ, mul_add, mul_one] at hroom
        have htriangle := abs_add_le start n
        linarith
      have hsum : (start : ℚ) / 10 ^ places + n / 10 ^ places =
          ((start + n : ℤ) : ℚ) / 10 ^ places := by
        rw [← add_div]
        push_cast
        rfl
      have hexact := inContext_eq_self
        (fits28_of_places (lt_of_le_of_lt (le_add_of_nonneg_right hbound) hnext) places)
      rw [List.foldl_cons, hsum, hexact, ih (fun x hx => hxs x (List.mem_cons_of_mem _ hx)) hnext,
        List.sum_cons, ← add_assoc, hsum]

/-- An operation on an amount that is not negative adds at most a thousandth. -/
theorem inContext_le_mul {x : ℚ} (h : 0 ≤ x) : inContext x ≤ x * (1001 / 1000) := by
  have herror := Rounding.abs_toDigits_sub_le (p := 28) roundHalfEven_nearest
    (by norm_num : 1 < 10) x
  rw [abs_of_nonneg h] at herror
  have hbound := (abs_le.mp herror).2
  have hsmall : x * ((10 : ℕ) : ℚ) ^ (1 - (28 : ℕ) : ℤ) / 2 ≤ x / 1000 := by
    norm_num
    linarith
  have hin : inContext x = Rounding.toDigits 10 28 roundHalfEven x := rfl
  linarith

/-- Of a number that uses all 28 digits, so many places are left. -/
theorem inContext_eq_places {places : ℕ} {x : ℚ} (hlow : (10 : ℚ) ^ (27 - places : ℤ) ≤ x)
    (hhigh : x < (10 : ℚ) ^ (28 - places : ℤ)) :
    inContext x = roundHalfEven (x * 10 ^ places) / 10 ^ places := by
  have hnext : (27 - places : ℤ) + 1 = 28 - places := by ring
  have hplace := Rounding.toDigits_eq_toMultiple (p := 28) (r := roundHalfEven)
    (k := 27 - (places : ℤ)) (by norm_num : 1 < 10) (x := x)
    (by push_cast; exact hlow) (by rw [hnext]; push_cast; exact hhigh)
  have hstep : (27 - places : ℤ) - ((28 : ℕ) - 1 : ℤ) = -(places : ℤ) := by
    push_cast
    ring
  rw [inContext, hplace, Rounding.toMultiple, hstep, zpow_neg, zpow_natCast, div_inv_eq_mul]
  push_cast
  rw [div_eq_mul_inv]

/-- Of an amount of 26 digits before the point, whole cents are left. -/
theorem inContext_eq_cents {x : ℚ} (hlow : 10 ^ 25 ≤ x) (hhigh : x < 10 ^ 26) :
    inContext x = roundHalfEven (x * 10 ^ cents) / 10 ^ cents :=
  @inContext_eq_places cents x (by exact_mod_cast hlow) (by exact_mod_cast hhigh)

/-! ## Quantizing

What is answered, when, and on which side of a bound it is. -/

/-- `x.quantize(Decimal(10) ** -places)` with a rounding. -/
def quantizeWith (r : ℚ → ℤ) (places : ℕ) (x : ℚ) : Option ℚ :=
  let n := r (x * 10 ^ places)
  if n.natAbs < 10 ^ 28 then some (n / 10 ^ places) else none

/-- `quantize` is the rounding half to even. -/
theorem quantize_eq_with : quantize = quantizeWith roundHalfEven := rfl

/-- `quantize` with `ROUND_HALF_UP` is the rounding half up. -/
theorem quantizeHalfUp_eq_with : quantizeHalfUp = quantizeWith roundHalfUp := rfl

section Quantize

open Rounding

variable {r : ℚ → ℤ} {places : ℕ} {x x' y y' : ℚ}

/-- The answer, when there is one. -/
theorem quantizeWith_eq_some :
    quantizeWith r places x = some y ↔
      (r (x * 10 ^ places)).natAbs < 10 ^ 28 ∧ y = r (x * 10 ^ places) / 10 ^ places := by
  unfold quantizeWith
  simp only
  split
  · rename_i hfits
    rw [Option.some.injEq, eq_comm]
    exact ⟨fun h => ⟨hfits, h⟩, fun h => h.2⟩
  · rename_i hlarge
    exact ⟨fun h => (Option.some_ne_none y h.symm).elim, fun h => absurd h.1 hlarge⟩

/-- The quantum is positive. -/
theorem pow_places_pos (places : ℕ) : (0 : ℚ) < 10 ^ places := by positivity

/-- Quantizing is monotone where it answers. -/
theorem quantizeWith_mono (hr : IsRounding r) (h : quantizeWith r places x = some y)
    (h' : quantizeWith r places x' = some y') (hle : x ≤ x') : y ≤ y' := by
  obtain ⟨-, rfl⟩ := quantizeWith_eq_some.mp h
  obtain ⟨-, rfl⟩ := quantizeWith_eq_some.mp h'
  have hround : r (x * 10 ^ places) ≤ r (x' * 10 ^ places) :=
    hr.mono (mul_le_mul_of_nonneg_right hle (le_of_lt (pow_places_pos places)))
  exact div_le_div_of_nonneg_right (by exact_mod_cast hround) (le_of_lt (pow_places_pos places))

/-- A multiple of the quantum that has few digits is left alone. -/
theorem quantizeWith_self (hr : IsRounding r) {n : ℤ} (h : n.natAbs < 10 ^ 28) :
    quantizeWith r places ((n : ℚ) / 10 ^ places) = some ((n : ℚ) / 10 ^ places) := by
  have hcancel : (n : ℚ) / 10 ^ places * 10 ^ places = n :=
    div_mul_cancel₀ _ (ne_of_gt (pow_places_pos places))
  rw [quantizeWith_eq_some, hcancel, hr.exact]
  exact ⟨h, rfl⟩

/-- The answer stays on the side of a multiple on which the number is. -/
theorem le_quantizeWith (hr : IsRounding r) (h : quantizeWith r places x = some y) {n : ℤ}
    (hle : (n : ℚ) / 10 ^ places ≤ x) : (n : ℚ) / 10 ^ places ≤ y := by
  obtain ⟨-, rfl⟩ := quantizeWith_eq_some.mp h
  have hround : n ≤ r (x * 10 ^ places) := by
    rw [← hr.exact n]
    exact hr.mono ((div_le_iff₀ (pow_places_pos places)).mp hle)
  exact div_le_div_of_nonneg_right (by exact_mod_cast hround) (le_of_lt (pow_places_pos places))

/-- The answer stays below a multiple that bounds the number. -/
theorem quantizeWith_le (hr : IsRounding r) (h : quantizeWith r places x = some y) {n : ℤ}
    (hle : x ≤ (n : ℚ) / 10 ^ places) : y ≤ (n : ℚ) / 10 ^ places := by
  obtain ⟨-, rfl⟩ := quantizeWith_eq_some.mp h
  have hround : r (x * 10 ^ places) ≤ n := by
    rw [← hr.exact n]
    exact hr.mono ((le_div_iff₀ (pow_places_pos places)).mp hle)
  exact div_le_div_of_nonneg_right (by exact_mod_cast hround) (le_of_lt (pow_places_pos places))

/-- It does not change signs. -/
theorem quantizeWith_nonneg (hr : IsRounding r) (h : quantizeWith r places x = some y)
    (hx : 0 ≤ x) : 0 ≤ y := by
  have hle := le_quantizeWith (n := 0) hr h (by simpa using hx)
  simpa using hle

/-- What is small enough is answered. -/
theorem exists_quantizeWith (hr : IsRounding r) {n : ℤ} (hn : n < 10 ^ 28)
    (hlow : -((n : ℚ) / 10 ^ places) ≤ x) (hhigh : x ≤ (n : ℚ) / 10 ^ places) :
    ∃ y, quantizeWith r places x = some y := by
  have hpos := pow_places_pos places
  have hrlow : -n ≤ r (x * 10 ^ places) := by
    rw [← hr.exact (-n)]
    refine hr.mono ((div_le_iff₀ hpos).mp ?_)
    rw [Int.cast_neg, neg_div]
    exact hlow
  have hrhigh : r (x * 10 ^ places) ≤ n := by
    rw [← hr.exact n]
    exact hr.mono ((le_div_iff₀ hpos).mp hhigh)
  exact ⟨_, quantizeWith_eq_some.mpr ⟨by omega, rfl⟩⟩

/-- The same for an amount that is not negative. -/
theorem exists_quantizeWith_nonneg (hr : IsRounding r) {n : ℤ} (hn : n < 10 ^ 28) (hx : 0 ≤ x)
    (hhigh : x ≤ (n : ℚ) / 10 ^ places) : ∃ y, quantizeWith r places x = some y := by
  refine exists_quantizeWith hr hn ?_ hhigh
  exact (neg_nonpos.mpr (hx.trans hhigh)).trans hx

end Quantize

/-! ## The sizes of cents

28 digits with two behind the point are 26 before it. -/

/-- An amount is below the limit if its cents have at most 28 digits. -/
theorem cents_lt_iff {n : ℤ} : (n : ℚ) / 10 ^ cents < 10 ^ 26 ↔ n < 10 ^ 28 := by
  have hpow : (10 : ℚ) ^ 26 * 10 ^ cents = ((10 ^ 28 : ℤ) : ℚ) := by norm_num [cents]
  rw [div_lt_iff₀ (pow_places_pos cents), hpow, Int.cast_lt]

/-- A debt is above the negative limit if its cents have at most 28 digits. -/
theorem lt_cents_iff {n : ℤ} : -10 ^ 26 < (n : ℚ) / 10 ^ cents ↔ -10 ^ 28 < n := by
  have hpow : (-10 ^ 26 : ℚ) * 10 ^ cents = ((-10 ^ 28 : ℤ) : ℚ) := by norm_num [cents]
  rw [lt_div_iff₀ (pow_places_pos cents), hpow, Int.cast_lt]

/-- What is answered with two places is small. -/
theorem quantizeWith_size {r : ℚ → ℤ} {x y : ℚ} (h : quantizeWith r cents x = some y) :
    -10 ^ 26 < y ∧ y < 10 ^ 26 := by
  obtain ⟨hfits, rfl⟩ := quantizeWith_eq_some.mp h
  rw [lt_cents_iff, cents_lt_iff]
  constructor <;> omega

/-- What is quantized after an operation was below the limit before it. -/
theorem lt_of_quantize_inContext {x y : ℚ}
    (h : quantizeWith roundHalfEven cents (inContext x) = some y) : x < 10 ^ 26 := by
  have hround := roundHalfEven_nearest.isRounding
  by_contra hlarge
  have hcut := le_inContext (fits28_pow 26) (not_lt.mp hlarge)
  obtain ⟨hfits, -⟩ := quantizeWith_eq_some.mp h
  have hscaled : ((10 ^ 28 : ℤ) : ℚ) ≤ inContext x * 10 ^ cents := by
    norm_num [cents] at hcut ⊢
    linarith
  have hmono := hround.mono hscaled
  rw [hround.exact] at hmono
  omega

/-- The amount is a whole number of cents. -/
def WholeCents (x : ℚ) : Prop := ∃ n : ℤ, x = n / 10 ^ cents

/-- An answer with two places is whole cents. -/
theorem wholeCents_of_quantizeWith {r : ℚ → ℤ} {x y : ℚ} (h : quantizeWith r cents x = some y) :
    WholeCents y :=
  ⟨_, (quantizeWith_eq_some.mp h).2⟩

/-! ## Whole cents

Closed under sums and differences, and exact. -/

section Cents

variable {x y : ℚ}

/-- Sums of whole cents are whole cents. -/
theorem WholeCents.add (hx : WholeCents x) (hy : WholeCents y) : WholeCents (x + y) := by
  obtain ⟨m, rfl⟩ := hx
  obtain ⟨n, rfl⟩ := hy
  refine ⟨m + n, ?_⟩
  push_cast
  ring

/-- Negatives of whole cents are whole cents. -/
theorem WholeCents.neg (hx : WholeCents x) : WholeCents (-x) := by
  obtain ⟨m, rfl⟩ := hx
  refine ⟨-m, ?_⟩
  push_cast
  ring

/-- Differences of whole cents are whole cents. -/
theorem WholeCents.sub (hx : WholeCents x) (hy : WholeCents y) : WholeCents (x - y) := by
  rw [sub_eq_add_neg]
  exact hx.add hy.neg

/-- Whole cents below the limit are exact in every operation. -/
theorem WholeCents.fits28 (hx : WholeCents x) (hlow : -10 ^ 26 < x) (hhigh : x < 10 ^ 26) :
    Fits28 x := by
  obtain ⟨n, rfl⟩ := hx
  exact fits28_of_places (abs_lt.mpr ⟨lt_cents_iff.mp hlow, cents_lt_iff.mp hhigh⟩) cents

/-- Quantizing leaves them alone. -/
theorem WholeCents.quantizeWith_self {r : ℚ → ℤ} (hr : Rounding.IsRounding r)
    (hx : WholeCents x) (hlow : -10 ^ 26 < x) (hhigh : x < 10 ^ 26) :
    quantizeWith r cents x = some x := by
  obtain ⟨n, rfl⟩ := hx
  have hlow := lt_cents_iff.mp hlow
  have hhigh := cents_lt_iff.mp hhigh
  exact Python.quantizeWith_self hr (by omega)

/-- What a rounding makes of cents is whole cents. -/
theorem wholeCents_round (r : ℚ → ℤ) (x : ℚ) : WholeCents ((r x : ℚ) / 10 ^ cents) := ⟨r x, rfl⟩

/-- Whole cents are quantized exactly if they are small enough. -/
theorem WholeCents.quantizeWith_iff {r : ℚ → ℤ} (hr : Rounding.IsRounding r)
    (hx : WholeCents x) : quantizeWith r cents x = some y ↔ |x| < 10 ^ 26 ∧ y = x := by
  constructor
  · intro h
    obtain ⟨n, rfl⟩ := hx
    have hcancel : (n : ℚ) / 10 ^ cents * 10 ^ cents = n :=
      div_mul_cancel₀ _ (ne_of_gt (pow_places_pos cents))
    obtain ⟨hsize, rfl⟩ := quantizeWith_eq_some.mp h
    rw [hcancel, hr.exact] at hsize ⊢
    refine ⟨abs_lt.mpr ⟨lt_cents_iff.mpr ?_, cents_lt_iff.mpr ?_⟩, rfl⟩
    · omega
    · omega
  · rintro ⟨hsize, rfl⟩
    obtain ⟨hlow, hhigh⟩ := abs_lt.mp hsize
    exact hx.quantizeWith_self hr hlow hhigh

/-- A cent at least is missing to the limit. -/
theorem WholeCents.le_of_lt (hx : WholeCents x) (hhigh : x < 10 ^ 26) :
    x ≤ 10 ^ 26 - 1 / 100 := by
  obtain ⟨n, rfl⟩ := hx
  have hle : n ≤ 10 ^ 28 - 1 := Int.le_sub_one_of_lt (cents_lt_iff.mp hhigh)
  have hle : (n : ℚ) ≤ ((10 ^ 28 - 1 : ℤ) : ℚ) := Int.cast_le.mpr hle
  norm_num [cents] at hle ⊢
  linarith

/-- Operations on whole cents have whole cents for a result. -/
theorem WholeCents.of_inContext (hx : WholeCents x) : WholeCents (inContext x) := by
  by_cases hsmall : |x| < 10 ^ 26
  · obtain ⟨hlow, hhigh⟩ := abs_lt.mp hsmall
    rw [inContext_eq_self (hx.fits28 hlow hhigh)]
    exact hx
  · -- the last of the 28 digits is before the cents
    have hlarge : ((10 : ℕ) : ℚ) ^ (26 : ℤ) ≤ |x| := by exact_mod_cast not_lt.mp hsmall
    have hpos : 0 < |x| := lt_of_lt_of_le (by norm_num) hlarge
    have hlog : 26 ≤ Int.log 10 |x| := (Int.zpow_le_iff_le_log (by norm_num) hpos).mp hlarge
    have hplace : -2 ≤ Rounding.lastPlace 10 28 x := by
      rw [Rounding.lastPlace]
      push_cast
      omega
    obtain ⟨m, hm⟩ := Rounding.pow_eq_mul_step (K := ℚ) (by norm_num : 1 < 10) hplace
    refine ⟨roundHalfEven (x / ((10 : ℕ) : ℚ) ^ Rounding.lastPlace 10 28 x) * m, ?_⟩
    rw [inContext, Rounding.toDigits, Rounding.toMultiple]
    nth_rewrite 2 [hm]
    push_cast
    rw [← mul_assoc, zpow_neg, div_eq_mul_inv]
    rfl

end Cents

/-! ## Half a cent

What rounding to cents makes of amounts that are smaller. -/

/-- Half a cent rounds to nothing. -/
theorem roundHalfEven_zero_half : roundHalfEven (1 / 2) = 0 := by
  have htie := roundHalfEven_half 0
  simpa using htie

/-- Half a cent of debt rounds to nothing. -/
theorem roundHalfEven_neg_half : roundHalfEven (-(1 / 2)) = 0 := by
  have htie := roundHalfEven_half (-1)
  norm_num at htie
  simpa using htie

/-- A rounded amount is something exactly if it was more than half a cent. -/
theorem quantize_pos_iff {x y : ℚ} (h : quantize cents x = some y) : 0 < y ↔ 1 / 200 < x := by
  rw [quantize_eq_with] at h
  obtain ⟨-, rfl⟩ := quantizeWith_eq_some.mp h
  rw [div_pos_iff_of_pos_right (pow_places_pos cents), Int.cast_pos]
  constructor
  · intro hsome
    by_contra hle
    have hscaled : x * 10 ^ cents ≤ 1 / 2 := by
      norm_num [cents] at hle ⊢
      linarith
    have hmono := roundHalfEven_nearest.isRounding.mono hscaled
    rw [roundHalfEven_zero_half] at hmono
    omega
  · intro hlarge
    have hnear := (abs_le.mp (roundHalfEven_nearest (x * 10 ^ cents))).1
    have hscaled : 1 / 2 < x * 10 ^ cents := by
      norm_num [cents]
      linarith
    have hcast : (0 : ℚ) < roundHalfEven (x * 10 ^ cents) := by linarith
    exact_mod_cast hcast

/-- A rounded amount is a debt exactly if it was a debt of more than half a cent. -/
theorem quantize_neg_iff {x y : ℚ} (h : quantize cents x = some y) : y < 0 ↔ x < -(1 / 200) := by
  rw [quantize_eq_with] at h
  obtain ⟨-, rfl⟩ := quantizeWith_eq_some.mp h
  rw [div_lt_iff₀ (pow_places_pos cents), zero_mul, Int.cast_lt_zero]
  constructor
  · intro hdebt
    by_contra hge
    have hscaled : -(1 / 2) ≤ x * 10 ^ cents := by
      norm_num [cents] at hge ⊢
      linarith
    have hmono := roundHalfEven_nearest.isRounding.mono hscaled
    rw [roundHalfEven_neg_half] at hmono
    omega
  · intro hlow
    have hnear := (abs_le.mp (roundHalfEven_nearest (x * 10 ^ cents))).2
    have hscaled : x * 10 ^ cents < -(1 / 2) := by
      norm_num [cents]
      linarith
    have hcast : (roundHalfEven (x * 10 ^ cents) : ℚ) < 0 := by linarith
    exact_mod_cast hcast

/-- An amount is left alone exactly if it is whole cents and small enough. -/
theorem quantize_self_iff {x : ℚ} (hx : 0 < x) :
    quantize cents x = some x ↔ WholeCents x ∧ x < 10 ^ 26 := by
  rw [quantize_eq_with]
  constructor
  · exact fun h => ⟨wholeCents_of_quantizeWith h, (quantizeWith_size h).2⟩
  · rintro ⟨hwhole, hsize⟩
    exact hwhole.quantizeWith_self roundHalfEven_nearest.isRounding (by linarith) hsize

/-- Rounding half to even goes to the integer that is nearer than one half, or half away and
even. -/
theorem roundHalfEven_eq_iff {x : ℚ} {n : ℤ} :
    roundHalfEven x = n ↔ |x - n| < 1 / 2 ∨ |x - n| = 1 / 2 ∧ n % 2 = 0 := by
  constructor
  · rintro rfl
    have hnear := roundHalfEven_nearest x
    rw [abs_sub_comm] at hnear
    rcases hnear.lt_or_eq with hlt | heq
    · exact Or.inl hlt
    · refine Or.inr ⟨heq, ?_⟩
      -- a tie, with the even neighbour above or below
      rcases abs_eq (by norm_num : (0 : ℚ) ≤ 1 / 2) |>.mp heq with habove | hbelow
      · have hx : x = (roundHalfEven x : ℚ) + 1 / 2 := by linarith
        have htie := roundHalfEven_half (roundHalfEven x)
        rw [← hx] at htie
        omega
      · have hx : x = ((roundHalfEven x - 1 : ℤ) : ℚ) + 1 / 2 := by
          push_cast
          linarith
        have htie := roundHalfEven_half (roundHalfEven x - 1)
        rw [← hx] at htie
        omega
  · rintro (hlt | ⟨heq, heven⟩)
    · exact roundHalfEven_nearest.eq_of_near hlt
    · rcases abs_eq (by norm_num : (0 : ℚ) ≤ 1 / 2) |>.mp heq with habove | hbelow
      · rw [show x = (n : ℚ) + 1 / 2 by linarith, roundHalfEven_half]
        omega
      · have hx : x = ((n - 1 : ℤ) : ℚ) + 1 / 2 := by
          push_cast
          linarith
        rw [hx, roundHalfEven_half]
        omega

/-- Cents can be rounded to: at 28 digits the last tie goes up, and out of the context. -/
def Quantizable (x : ℚ) : Prop := |x| < 10 ^ 26 - 1 / 200

/-- It is what `quantize` answers. -/
theorem quantizable_iff {x : ℚ} : Quantizable x ↔ ∃ y, quantize cents x = some y := by
  have hround := roundHalfEven_nearest.isRounding
  -- half a cent below the limit there is a tie, which goes to the limit itself
  have htop : roundHalfEven (10 ^ 28 - 1 / 2) = 10 ^ 28 := by
    have htie := roundHalfEven_half (10 ^ 28 - 1)
    norm_num at htie ⊢
    exact htie
  have hbottom : roundHalfEven (-(10 ^ 28 - 1 / 2)) = -10 ^ 28 := by
    have htie := roundHalfEven_half (-10 ^ 28)
    norm_num at htie ⊢
    exact htie
  have hscale : ∀ z : ℚ, z * 10 ^ cents = z * 100 := fun z => by norm_num [cents]
  have hanswered : (∃ y, quantize cents x = some y) ↔
      (roundHalfEven (x * 10 ^ cents)).natAbs < 10 ^ 28 := by
    rw [quantize_eq_with]
    constructor
    · rintro ⟨y, hy⟩
      exact (quantizeWith_eq_some.mp hy).1
    · exact fun h => ⟨_, quantizeWith_eq_some.mpr ⟨h, rfl⟩⟩
  rw [hanswered, Quantizable, abs_lt, hscale]
  have hnear := abs_le.mp (roundHalfEven_nearest (x * 100))
  constructor
  · rintro ⟨hlow, hhigh⟩
    have hlt : roundHalfEven (x * 100) < 10 ^ 28 := by
      have hcast : (roundHalfEven (x * 100) : ℚ) < ((10 ^ 28 : ℤ) : ℚ) := by
        push_cast
        linarith [hnear.2]
      exact_mod_cast hcast
    have hgt : -10 ^ 28 < roundHalfEven (x * 100) := by
      have hcast : ((-10 ^ 28 : ℤ) : ℚ) < roundHalfEven (x * 100) := by
        push_cast
        linarith [hnear.1]
      exact_mod_cast hcast
    omega
  · intro hfits
    constructor
    · by_contra hle
      have hmono := hround.mono (by linarith : x * 100 ≤ -(10 ^ 28 - 1 / 2))
      rw [hbottom] at hmono
      omega
    · by_contra hge
      have hmono := hround.mono (by linarith : (10 ^ 28 - 1 / 2 : ℚ) ≤ x * 100)
      rw [htop] at hmono
      omega

end Python
