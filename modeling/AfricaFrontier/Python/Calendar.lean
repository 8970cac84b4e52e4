import AfricaFrontier.Python.Json
import Mathlib.Tactic.Ring
import Mathlib.Algebra.Order.Ring.Int

/-!
# The calendar, in UTC

Points in time are microseconds since 1970-01-01T00:00:00Z.  The program asks the
calendar where a month begins and how a date is written.  Both follow the usual count in
eras of 400 years, whose years begin in March.
-/

namespace Python

/-- The microseconds of a day. -/
def dayLength : ℤ := 86400000000

/-- The days since 0000-03-01, for days counted from 1970-01-01. -/
def eraDays (day : ℤ) : ℤ := day + 719468

/-- The day within its era of 400 years. -/
def dayOfEra (day : ℤ) : ℤ := eraDays day % 146097

/-- The year within its era. -/
def yearOfEra (day : ℤ) : ℤ :=
  let n := dayOfEra day
  (n - n / 1460 + n / 36524 - n / 146096) / 365

/-- The day within its year, from the first of March. -/
def dayOfYear (day : ℤ) : ℤ :=
  let year := yearOfEra day
  dayOfEra day - (365 * year + year / 4 - year / 100)

/-- The month within its year, counted from March. -/
def monthOfYear (day : ℤ) : ℤ := (5 * dayOfYear day + 2) / 153

/-- The days of the month that have passed. -/
def daysPassed (day : ℤ) : ℤ :=
  let n := dayOfYear day
  n - (153 * ((5 * n + 2) / 153) + 2) / 5

/-- `t.replace(day=1, hour=0, minute=0, second=0, microsecond=0)`. -/
def monthStart (t : ℤ) : ℤ := (t / dayLength - daysPassed (t / dayLength)) * dayLength

/-- The first of a month has no days before it. -/
theorem daysPassed_nonneg (day : ℤ) : 0 ≤ daysPassed day := by
  unfold daysPassed
  simp only
  omega

/-- A month begins no later than any of its moments. -/
theorem monthStart_le (t : ℤ) : monthStart t ≤ t := by
  have hpassed : 0 ≤ daysPassed (t / dayLength) := daysPassed_nonneg _
  unfold monthStart dayLength at *
  omega

/-- A number with zeros in front of it up to a width. -/
def padded (width : ℕ) (n : ℤ) : String :=
  let digits := (digitsText n.toNat).toList
  String.ofList (List.replicate (width - digits.length) '0' ++ digits)

/-- `t.isoformat()[:10]`: the date. -/
def isoDate (t : ℤ) : String :=
  let day := t / dayLength
  let month := if monthOfYear day < 10 then monthOfYear day + 3 else monthOfYear day - 9
  let year := yearOfEra day + 400 * (eraDays day / 146097) + if month ≤ 2 then 1 else 0
  padded 4 year ++ "-" ++ padded 2 month ++ "-" ++ padded 2 (daysPassed day + 1)

/-- In January and in March 1970, and on the leap day of 2000. -/
example : monthStart 0 = 0 ∧ monthStart (60 * dayLength + 5) = 59 * dayLength ∧
    monthStart (11016 * dayLength + 7) = 10988 * dayLength := by
  decide

/-- The first day of the epoch, and the leap day of 2000. -/
example : isoDate 0 = "1970-01-01" ∧ isoDate (11016 * dayLength + 7) = "2000-02-29" := by
  decide

end Python
