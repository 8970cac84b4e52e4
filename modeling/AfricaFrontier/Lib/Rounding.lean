import Mathlib.Algebra.Order.Floor.Ring
import Mathlib.Data.Int.ConditionallyCompleteOrder
import Mathlib.Data.Int.Log
import Mathlib.Tactic.FieldSimp
import Mathlib.Tactic.Linarith
import Mathlib.Tactic.NormNum
import Mathlib.Tactic.Ring

/-!
# Rounding to multiples and to significant digits

A rounding of numbers to integers is monotone and leaves integers alone; which of its two
neighbours a number goes to does not matter here.  Scaled by a step it rounds to the multiples
of that step (`toMultiple`), which is how a number is brought to a fixed number of places.
With a step that depends on the size of the number it rounds to so many significant digits
(`toDigits`), which is how the result of a floating operation is brought back to the format.

Both are monotone and leave alone what has the form already.  For significant digits this
rests on powers of the base, which no rounding crosses (`pow_le_toDigits`, `toDigits_le_pow`).

A number that is brought from one grid to a finer one comes back from there (`Nearest.returns`).

The number line is any linearly ordered field with a floor. Signs are handled by mirroring: the
rounding of a negative number is the mirrored rounding of its absolute value (`toMultiple_neg`,
`toDigits_neg`), so that statements are proved for positive numbers and carried over.
-/

namespace Rounding

universe u

variable {K : Type u} [Field K] [LinearOrder K] [IsStrictOrderedRing K]

/-- A rounding to integers. -/
structure IsRounding (r : K → ℤ) : Prop where
  mono : Monotone r
  exact : ∀ n : ℤ, r n = n

/-- A rounding to a nearest integer. -/
def Nearest (r : K → ℤ) : Prop := ∀ x : K, |(r x : K) - x| ≤ 1 / 2

/-- Whichever way ties go, going to a nearest integer is a rounding. -/
theorem Nearest.isRounding {r : K → ℤ} (hr : Nearest r) : IsRounding r where
  mono := by
    intro x y hxy
    by_contra hlt
    have hstep : r y + 1 ≤ r x := by omega
    have hstep : (r y : K) + 1 ≤ r x := by exact_mod_cast hstep
    have hx : (r x : K) ≤ x + 1 / 2 := by linarith [(abs_le.mp (hr x)).2]
    have hy : y - 1 / 2 ≤ (r y : K) := by linarith [(abs_le.mp (hr y)).1]
    -- only where both are the same tie do the bounds meet
    have hsame : x = y := le_antisymm hxy (by linarith)
    rw [hsame] at hstep
    linarith
  exact := by
    intro n
    have hnear : |((r n - n : ℤ) : K)| ≤ 1 / 2 := by
      rw [Int.cast_sub]
      exact hr n
    have hlt : |r n - n| < 1 := by
      have hhalf : ((|r n - n| : ℤ) : K) < 1 := by
        rw [Int.cast_abs]
        linarith
      exact_mod_cast hhalf
    have hzero : r n - n = 0 := Int.abs_lt_one_iff.mp hlt
    omega

/-- A number less than half from an integer goes to it. -/
theorem Nearest.eq_of_near {r : K → ℤ} (hr : Nearest r) {x : K} {n : ℤ} (h : |x - n| < 1 / 2) :
    r x = n := by
  have hnear : |((r x - n : ℤ) : K)| < 1 := by
    rw [Int.cast_sub]
    calc |(r x : K) - n| = |((r x : K) - x) + (x - n)| := by ring_nf
      _ ≤ |(r x : K) - x| + |x - n| := abs_add_le _ _
      _ < 1 / 2 + 1 / 2 := add_lt_add_of_le_of_lt (hr x) h
      _ = 1 := by norm_num
  have hlt : |r x - n| < 1 := by
    rw [← Int.cast_abs] at hnear
    exact_mod_cast hnear
  have hzero : r x - n = 0 := Int.abs_lt_one_iff.mp hlt
  omega

/-- Round to a multiple of a step. -/
def toMultiple (r : K → ℤ) (step x : K) : K := r (x / step) * step

/-- The rounding that mirrors `r` at zero. -/
def mirror (r : K → ℤ) (x : K) : ℤ := -r (-x)

/-- The mirrored rounding is one. -/
theorem IsRounding.mirror {r : K → ℤ} (hr : IsRounding r) : IsRounding (mirror r) where
  mono := by
    intro x y hxy
    exact neg_le_neg (hr.mono (neg_le_neg hxy))
  exact := by
    intro n
    have hneg : r (-(n : K)) = -n := by
      rw [← Int.cast_neg]
      exact hr.exact (-n)
    rw [Rounding.mirror, hneg, neg_neg]

/-! ## Multiples of a step

The step is positive and fixed. -/

section Multiple

variable {r : K → ℤ} {step x y : K}

/-- **Rounding to multiples is monotone**. -/
theorem toMultiple_mono (hr : IsRounding r) (hstep : 0 < step) : Monotone (toMultiple r step) := by
  intro x y hxy
  refine mul_le_mul_of_nonneg_right ?_ (le_of_lt hstep)
  exact_mod_cast hr.mono (div_le_div_of_nonneg_right hxy (le_of_lt hstep))

omit [IsStrictOrderedRing K] in
/-- **Rounding to multiples leaves multiples alone.** -/
theorem toMultiple_mul (hr : IsRounding r) (hstep : 0 < step) (m : ℤ) :
    toMultiple r step (m * step) = m * step := by
  rw [toMultiple, mul_div_assoc, div_self (ne_of_gt hstep), mul_one, hr.exact]

/-- **Rounding to multiples does not cross a multiple from above.** -/
theorem le_toMultiple (hr : IsRounding r) (hstep : 0 < step) {m : ℤ} (h : m * step ≤ x) :
    m * step ≤ toMultiple r step x := by
  rw [← toMultiple_mul hr hstep m]
  exact toMultiple_mono hr hstep h

/-- **Rounding to multiples does not cross a multiple from below.** -/
theorem toMultiple_le (hr : IsRounding r) (hstep : 0 < step) {m : ℤ} (h : x ≤ m * step) :
    toMultiple r step x ≤ m * step := by
  rw [← toMultiple_mul hr hstep m]
  exact toMultiple_mono hr hstep h

/-- A nearest multiple is at most half a step away. -/
theorem abs_toMultiple_sub_le (hr : Nearest r) (hstep : 0 < step) :
    |toMultiple r step x - x| ≤ step / 2 := by
  have hscaled : toMultiple r step x - x = ((r (x / step) : K) - x / step) * step := by
    rw [toMultiple, sub_mul, div_mul_cancel₀ x (ne_of_gt hstep)]
  rw [hscaled, abs_mul, abs_of_pos hstep]
  calc |(r (x / step) : K) - x / step| * step ≤ 1 / 2 * step :=
        mul_le_mul_of_nonneg_right (hr (x / step)) (le_of_lt hstep)
    _ = step / 2 := by ring

omit [LinearOrder K] [IsStrictOrderedRing K] in
/-- Rounding on the other side of zero. -/
theorem toMultiple_neg (r : K → ℤ) (step x : K) :
    toMultiple r step (-x) = -toMultiple (mirror r) step x := by
  rw [toMultiple, toMultiple, mirror, neg_div]
  push_cast
  ring

end Multiple

/-! ## Significant digits

The step is a power of the base, and grows with the number. -/

variable [FloorRing K] {b p : ℕ} {r : K → ℤ} {x y : K}

/-- The place of the last of `p` significant digits in base `b`. -/
def lastPlace (b p : ℕ) (x : K) : ℤ := Int.log b |x| - (p - 1)

/-- Round to `p` significant digits in base `b`. -/
def toDigits (b p : ℕ) (r : K → ℤ) (x : K) : K := toMultiple r ((b : K) ^ lastPlace b p x) x

/-- The number has at most `p` significant digits. -/
def Fits (b p : ℕ) (x : K) : Prop := ∃ m k : ℤ, |m| < (b : ℤ) ^ p ∧ x = m * (b : K) ^ k

/-- A base is positive. -/
theorem base_pos (hb : 1 < b) : (0 : K) < b := by
  exact_mod_cast Nat.zero_lt_one.trans hb

/-- A step of the grid is positive. -/
theorem step_pos (hb : 1 < b) (k : ℤ) : (0 : K) < (b : K) ^ k := zpow_pos (base_pos hb) k

/-- A power of the base that is no smaller than the step is a multiple of it. -/
theorem pow_eq_mul_step (hb : 1 < b) {e k : ℤ} (h : e ≤ k) :
    ∃ m : ℤ, (b : K) ^ k = m * (b : K) ^ e := by
  refine ⟨(b : ℤ) ^ (k - e).toNat, ?_⟩
  have hexponent : ((k - e).toNat : ℤ) = k - e := Int.toNat_of_nonneg (by omega)
  have hpow : (((b : ℤ) ^ (k - e).toNat : ℤ) : K) = (b : K) ^ (k - e) := by
    rw [← hexponent, zpow_natCast]
    push_cast
    rfl
  rw [hpow, ← zpow_add₀ (ne_of_gt (base_pos hb)), sub_add_cancel]

omit [IsStrictOrderedRing K] in
/-- Rounding on the other side of zero. -/
theorem toDigits_neg (b p : ℕ) (r : K → ℤ) (x : K) :
    toDigits b p r (-x) = -toDigits b p (mirror r) x := by
  rw [toDigits, toDigits, lastPlace, lastPlace, abs_neg, toMultiple_neg]

/-- Rounding does not fall below a power of the base. -/
theorem pow_le_toDigits (hr : IsRounding r) (hb : 1 < b) (hp : 1 ≤ p) {k : ℤ}
    (h : (b : K) ^ k ≤ x) : (b : K) ^ k ≤ toDigits b p r x := by
  have hx : 0 < x := (step_pos hb k).trans_le h
  have hlog : k ≤ Int.log b x := (Int.zpow_le_iff_le_log hb hx).mp h
  -- the power of the first digit of `x` is a multiple of the step
  obtain ⟨m, hm⟩ : ∃ m : ℤ, (b : K) ^ Int.log b x = m * (b : K) ^ lastPlace b p x := by
    refine pow_eq_mul_step hb ?_
    rw [lastPlace, abs_of_pos hx]
    omega
  have hfirst : (b : K) ^ Int.log b x ≤ toDigits b p r x := by
    rw [hm]
    refine le_toMultiple hr (step_pos hb _) ?_
    rw [← hm]
    exact Int.zpow_log_le_self hb hx
  exact (zpow_le_zpow_right₀ (by exact_mod_cast le_of_lt hb) hlog).trans hfirst

/-- Rounding does not rise above a power of the base. -/
theorem toDigits_le_pow (hr : IsRounding r) (hb : 1 < b) (hx : 0 < x) {k : ℤ}
    (h : x < (b : K) ^ k) : toDigits b p r x ≤ (b : K) ^ k := by
  have hlog : Int.log b x + 1 ≤ k := (Int.lt_zpow_iff_log_lt hb hx).mp h
  obtain ⟨m, hm⟩ : ∃ m : ℤ, (b : K) ^ (Int.log b x + 1) = m * (b : K) ^ lastPlace b p x := by
    refine pow_eq_mul_step hb ?_
    rw [lastPlace, abs_of_pos hx]
    omega
  have hnext : toDigits b p r x ≤ (b : K) ^ (Int.log b x + 1) := by
    rw [hm]
    refine toMultiple_le hr (step_pos hb _) ?_
    rw [← hm]
    exact le_of_lt (Int.lt_zpow_succ_log_self hb x)
  exact hnext.trans (zpow_le_zpow_right₀ (by exact_mod_cast le_of_lt hb) hlog)

omit [IsStrictOrderedRing K] in
/-- Zero is left alone. -/
theorem toDigits_zero (hr : IsRounding r) : toDigits b p r 0 = 0 := by
  have hzero : r 0 = 0 := by simpa using hr.exact 0
  rw [toDigits, toMultiple, zero_div, hzero, Int.cast_zero, zero_mul]

/-- No sign is changed. -/
theorem toDigits_nonneg (hr : IsRounding r) (hb : 1 < b) (hx : 0 ≤ x) : 0 ≤ toDigits b p r x := by
  have hround : (0 : K) ≤ r (x / (b : K) ^ lastPlace b p x) := by
    have hmono := hr.mono (div_nonneg hx (le_of_lt (step_pos hb (lastPlace b p x))))
    have hzero : r 0 = 0 := by simpa using hr.exact 0
    rw [hzero] at hmono
    exact_mod_cast hmono
  exact mul_nonneg hround (le_of_lt (step_pos hb _))

/-- **Rounding to significant digits is monotone**, for positive numbers first. -/
theorem toDigits_mono_pos (hr : IsRounding r) (hb : 1 < b) (hp : 1 ≤ p) (hx : 0 < x)
    (hxy : x ≤ y) : toDigits b p r x ≤ toDigits b p r y := by
  have hlog : Int.log b x ≤ Int.log b y := Int.log_mono_right hx hxy
  have hy : 0 < y := hx.trans_le hxy
  rcases hlog.lt_or_eq with hlt | heq
  · calc toDigits b p r x ≤ (b : K) ^ (Int.log b x + 1) :=
          toDigits_le_pow hr hb hx (Int.lt_zpow_succ_log_self hb x)
      _ ≤ (b : K) ^ Int.log b y :=
          zpow_le_zpow_right₀ (by exact_mod_cast le_of_lt hb) hlt
      _ ≤ toDigits b p r y := pow_le_toDigits hr hb hp (Int.zpow_log_le_self hb hy)
  · have hplace : lastPlace b p x = lastPlace b p y := by
      rw [lastPlace, lastPlace, abs_of_pos hx, abs_of_pos hy, heq]
    rw [toDigits, toDigits, hplace]
    exact toMultiple_mono hr (step_pos hb _) hxy

/-- **Rounding to significant digits is monotone.** -/
theorem toDigits_mono (hr : IsRounding r) (hb : 1 < b) (hp : 1 ≤ p) :
    Monotone (toDigits b p r : K → K) := by
  intro x y hxy
  have hmirror : IsRounding (mirror r) := hr.mirror
  have hneg : ∀ z : K, toDigits b p r z = -toDigits b p (mirror r) (-z) := by
    intro z
    rw [← toDigits_neg, neg_neg]
  rcases lt_trichotomy x 0 with hx | rfl | hx
  · rw [hneg x]
    rcases lt_or_ge y 0 with hy | hy
    · rw [hneg y]
      exact neg_le_neg (toDigits_mono_pos hmirror hb hp (neg_pos.mpr hy) (neg_le_neg hxy))
    · have hleft : 0 ≤ toDigits b p (mirror r) (-x) :=
        toDigits_nonneg hmirror hb (le_of_lt (neg_pos.mpr hx))
      exact (neg_nonpos.mpr hleft).trans (toDigits_nonneg hr hb hy)
  · rw [toDigits_zero hr]
    exact toDigits_nonneg hr hb hxy
  · exact toDigits_mono_pos hr hb hp hx hxy

/-- **What fits is left alone.** -/
theorem toDigits_eq_self (hr : IsRounding r) (hb : 1 < b) (h : Fits b p x) :
    toDigits b p r x = x := by
  obtain ⟨m, k, hm, rfl⟩ := h
  by_cases hzero : m = 0
  · rw [hzero, Int.cast_zero, zero_mul, toDigits_zero hr]
  · have hsize : |(m : K) * (b : K) ^ k| < (b : K) ^ (p + k) := by
      have hstep : |(b : K) ^ k| = (b : K) ^ k := abs_of_pos (step_pos hb k)
      rw [abs_mul, hstep, zpow_add₀ (ne_of_gt (base_pos hb)), zpow_natCast]
      refine mul_lt_mul_of_pos_right ?_ (step_pos hb k)
      have hcast : ((|m| : ℤ) : K) < (((b : ℤ) ^ p : ℤ) : K) := Int.cast_lt.mpr hm
      simpa using hcast
    have hpos : 0 < |(m : K) * (b : K) ^ k| :=
      abs_pos.mpr (mul_ne_zero (Int.cast_ne_zero.mpr hzero) (ne_of_gt (step_pos hb k)))
    have hlog : Int.log b |(m : K) * (b : K) ^ k| < p + k :=
      (Int.lt_zpow_iff_log_lt hb hpos).mp hsize
    -- the step the number is written with is a multiple of the one it is rounded to
    obtain ⟨n, hn⟩ : ∃ n : ℤ,
        (b : K) ^ k = n * (b : K) ^ lastPlace b p ((m : K) * (b : K) ^ k) := by
      refine pow_eq_mul_step hb ?_
      rw [lastPlace]
      omega
    have hmultiple : (m : K) * (b : K) ^ k =
        (m * n : ℤ) * (b : K) ^ lastPlace b p ((m : K) * (b : K) ^ k) := by
      rw [Int.cast_mul, mul_assoc, ← hn]
    rw [toDigits]
    nth_rewrite 2 [hmultiple]
    rw [toMultiple_mul hr (step_pos hb _), ← hmultiple]

/-- Rounding to the nearest changes a number little. -/
theorem abs_toDigits_sub_le (hr : Nearest r) (hb : 1 < b) (x : K) :
    |toDigits b p r x - x| ≤ |x| * (b : K) ^ (1 - p : ℤ) / 2 := by
  rcases eq_or_ne x 0 with rfl | hx
  · rw [toDigits_zero hr.isRounding]
    simp
  · have hstep : (b : K) ^ lastPlace b p x ≤ |x| * (b : K) ^ (1 - p : ℤ) := by
      have hsplit : lastPlace b p x = Int.log b |x| + (1 - p) := by
        rw [lastPlace]
        ring
      rw [hsplit, zpow_add₀ (ne_of_gt (base_pos hb))]
      exact mul_le_mul_of_nonneg_right (Int.zpow_log_le_self hb (abs_pos.mpr hx))
        (le_of_lt (step_pos hb _))
    exact (abs_toMultiple_sub_le hr (step_pos hb _)).trans
      (div_le_div_of_nonneg_right hstep (by norm_num))

/-- A positive number whose last digit has a known place is rounded there. -/
theorem toDigits_eq_toMultiple (hb : 1 < b) {k : ℤ} (hlow : (b : K) ^ k ≤ x)
    (hhigh : x < (b : K) ^ (k + 1)) :
    toDigits b p r x = toMultiple r ((b : K) ^ (k - (p - 1))) x := by
  have hx : 0 < x := (step_pos hb k).trans_le hlow
  have hlog : Int.log b x = k := by
    have hle : k ≤ Int.log b x := (Int.zpow_le_iff_le_log hb hx).mp hlow
    have hlt : Int.log b x < k + 1 := (Int.lt_zpow_iff_log_lt hb hx).mp hhigh
    omega
  rw [toDigits, lastPlace, abs_of_pos hx, hlog]

/-- What is smaller than a power of the base changes by half a step at that size, at most. -/
theorem abs_toDigits_sub_le_of_lt (hr : Nearest r) (hb : 1 < b) {k : ℤ}
    (h : |x| < (b : K) ^ (k + 1)) : |toDigits b p r x - x| ≤ (b : K) ^ (k - (p - 1)) / 2 := by
  rcases eq_or_ne x 0 with rfl | hx
  · rw [toDigits_zero hr.isRounding, sub_zero, abs_zero]
    exact div_nonneg (le_of_lt (step_pos hb _)) (by norm_num)
  · have hlog : Int.log b |x| < k + 1 := (Int.lt_zpow_iff_log_lt hb (abs_pos.mpr hx)).mp h
    have hplace : lastPlace b p x ≤ k - (p - 1) := by
      rw [lastPlace]
      omega
    calc |toDigits b p r x - x| ≤ (b : K) ^ lastPlace b p x / 2 :=
          abs_toMultiple_sub_le hr (step_pos hb _)
      _ ≤ (b : K) ^ (k - (p - 1)) / 2 :=
          div_le_div_of_nonneg_right
            (zpow_le_zpow_right₀ (by exact_mod_cast le_of_lt hb) hplace) (by norm_num)

/-! ## From one grid to another and back -/

omit [FloorRing K] in
/-- An integer that is scaled down by `k`, brought to an integer, and scaled up again is the
nearest integer to what comes out, as long as the errors leave it less than a half. -/
theorem Nearest.returns {r : K → ℤ} (hr : Nearest r) {m n : ℤ} {k e e' z : K} (hk : 0 < k)
    (hthere : |(n : K) - m / k| ≤ e) (hback : |z - n * k| ≤ e') (hsmall : e * k + e' < 1 / 2) :
    r z = m := by
  refine hr.eq_of_near ?_
  have hscaled : |(n : K) * k - m| ≤ e * k := by
    have hsplit : (n : K) * k - m = (n - m / k) * k := by
      rw [sub_mul, div_mul_cancel₀ _ (ne_of_gt hk)]
    rw [hsplit, abs_mul, abs_of_pos hk]
    exact mul_le_mul_of_nonneg_right hthere (le_of_lt hk)
  calc |z - m| = |(z - n * k) + (n * k - m)| := by ring_nf
    _ ≤ |z - n * k| + |(n : K) * k - m| := abs_add_le _ _
    _ ≤ e' + e * k := add_le_add hback hscaled
    _ < 1 / 2 := by linarith

end Rounding
