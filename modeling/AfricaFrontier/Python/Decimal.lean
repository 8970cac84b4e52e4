import AfricaFrontier.Python.Json
import Mathlib.Algebra.Order.Floor.Ring
import Mathlib.Data.Rat.Floor
import Mathlib.Algebra.Order.Field.Basic
import Mathlib.Tactic.Positivity
import Mathlib.Tactic.Linarith

/-!
# Decimal arithmetic

Money is a Python `Decimal`, which is an exact rational.  Sums and differences of stored
amounts are exact, since they have fewer digits than the context allows (`Context` has the
operations that round); `quantize` rounds half to even at a fixed number of places and
refuses a result with more than 28 significant digits (the default context).  A `Decimal` is
therefore its rational value here, except where its text matters: two equal amounts may be
written differently, and `Numeral` is an amount as it is written.
-/

namespace Python

/-- Round to the nearest integer, ties to the even one. -/
def roundHalfEven (x : ℚ) : ℤ :=
  let f := ⌊x⌋
  if x - f < 1 / 2 then f
  else if 1 / 2 < x - f then f + 1
  else if f % 2 = 0 then f
  else f + 1

/-- `x.quantize(Decimal(10) ** -places)` in the default context; `none` is the
`InvalidOperation` a result beyond 28 digits raises. -/
def quantize (places : ℕ) (x : ℚ) : Option ℚ :=
  let n := roundHalfEven (x * 10 ^ places)
  if n.natAbs < 10 ^ 28 then some (n / 10 ^ places) else none

/-- `Decimal("0.01")`, the quantum of every displayed amount. -/
def cents : ℕ := 2

/-- A rounded non-negative number is not negative. -/
theorem roundHalfEven_nonneg {x : ℚ} (h : 0 ≤ x) : 0 ≤ roundHalfEven x := by
  have hfloor : 0 ≤ ⌊x⌋ := Int.floor_nonneg.mpr h
  unfold roundHalfEven
  simp only
  split
  · exact hfloor
  · split
    · exact hfloor.trans (Int.le_add_one le_rfl)
    · split
      · exact hfloor
      · exact hfloor.trans (Int.le_add_one le_rfl)

/-- Rounding a non-negative amount leaves it non-negative. -/
theorem quantize_nonneg {places : ℕ} {x y : ℚ} (h : quantize places x = some y)
    (hx : 0 ≤ x) : 0 ≤ y := by
  unfold quantize at h
  simp only at h
  split at h
  · cases h
    have hround : 0 ≤ roundHalfEven (x * 10 ^ places) :=
      roundHalfEven_nonneg (mul_nonneg hx (by positivity))
    have : (0 : ℚ) ≤ (roundHalfEven (x * 10 ^ places) : ℚ) := by exact_mod_cast hround
    positivity
  · cases h

/-- Round to the nearest integer, ties away from zero. -/
def roundHalfUp (x : ℚ) : ℤ := if 0 ≤ x then ⌊x + 1 / 2⌋ else -⌊-x + 1 / 2⌋

/-- `x.quantize(Decimal(10) ** -places, rounding=ROUND_HALF_UP)`. -/
def quantizeHalfUp (places : ℕ) (x : ℚ) : Option ℚ :=
  let n := roundHalfUp (x * 10 ^ places)
  if n.natAbs < 10 ^ 28 then some (n / 10 ^ places) else none

/-! ## Amounts as they are written -/

/-- A finite `Decimal` that is not negative: its coefficient and its exponent. -/
structure Numeral where
  coefficient : ℕ
  exponent : ℤ
  deriving DecidableEq

/-- The number it denotes. -/
def Numeral.value (x : Numeral) : ℚ :=
  if 0 ≤ x.exponent then x.coefficient * 10 ^ x.exponent.toNat
  else x.coefficient / 10 ^ (-x.exponent).toNat

/-- `str(x)`: plain for exponents that are not positive and down to six zeros after
the point, scientific otherwise. -/
def Numeral.text (x : Numeral) : String :=
  let digits := (digitsText x.coefficient).toList
  let left : ℤ := x.exponent + digits.length
  let point : ℤ := if x.exponent ≤ 0 ∧ -6 < left then left else 1
  let body : List Char :=
    if point ≤ 0 then ['0', '.'] ++ List.replicate (-point).toNat '0' ++ digits
    else if (digits.length : ℤ) ≤ point then
      digits ++ List.replicate (point.toNat - digits.length) '0'
    else digits.take point.toNat ++ ['.'] ++ digits.drop point.toNat
  let shift := left - point
  let scale : List Char :=
    if shift = 0 then []
    else ['E', if shift < 0 then '-' else '+'] ++ (digitsText shift.natAbs).toList
  String.ofList (body ++ scale)

/-- One amount, written in four ways. -/
example : (Numeral.mk 1000 0).text = "1000" ∧ (Numeral.mk 100050 (-2)).text = "1000.50" ∧
    (Numeral.mk 1 3).text = "1E+3" ∧ (Numeral.mk 5 (-8)).text = "5E-8" := by
  decide

end Python
