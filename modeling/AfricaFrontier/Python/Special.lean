import AfricaFrontier.Python.Context

/-!
# Infinite decimals and those that are none

A price is read with `Decimal(str(price))` from a float, which may be infinite or not a number.
`Dec` has these values beside the finite ones; an operation answers `none` where the default
context raises `InvalidOperation`.

Only the operations that the valuation of a position uses are here. There is no sum of two
infinities of different signs, and no product of zero and an infinite number.
-/

namespace Python

/-- A `Decimal`. -/
inductive Dec
  | finite (x : ℚ)
  | infinity (negative : Bool)
  | nan
  deriving DecidableEq

namespace Dec

/-- `Decimal(str(x))`. -/
def ofFloat (x : PyFloat) : Dec :=
  match x with
  | .finite _ _ _ => .finite (x.value.getD 0)
  | .infinity negative => .infinity negative
  | .nan => .nan

/-- `x + y`. -/
def add : Dec → Dec → Option Dec
  | .nan, _ => some .nan
  | _, .nan => some .nan
  | .infinity a, .infinity b => if a = b then some (.infinity a) else none
  | .infinity a, .finite _ => some (.infinity a)
  | .finite _, .infinity b => some (.infinity b)
  | .finite x, .finite y => some (.finite (inContext (x + y)))

/-- `x * y`, with `x` finite. -/
def scale (x : ℚ) : Dec → Option Dec
  | .nan => some .nan
  | .infinity negative =>
      if x = 0 then none else some (.infinity (if x < 0 then !negative else negative))
  | .finite y => some (.finite (inContext (x * y)))

/-- `x / y`, with `y` finite and not zero. -/
def divBy (y : ℚ) : Dec → Dec
  | .nan => .nan
  | .infinity negative => .infinity (if y < 0 then !negative else negative)
  | .finite x => .finite (inContext (x / y))

end Dec

end Python
