import Mathlib.Algebra.Order.Ring.Int

/-!
# Daily sessions

Minutes are counted from the beginning of day zero, and a day has 1440.  On each day out of
a set of days a session opens at one minute of the day and closes at another, of the same
day or, when that comes first, of the next.  A minute can only be in the session of its own
day and in that of the day before, and in the latter only if sessions pass midnight
(`inSession_iff_of_le`, `inSession_iff_of_lt`).

The count of minutes does not end with the day, so that a session past midnight is an interval
like any other, and the question whether a minute is in some session is one about two days.
-/

namespace DailySession

/-- The minute is between the ends of a session, which are part of it. -/
def InSession (opening closing : ℤ) (opens : ℤ → Prop) (minute : ℤ) : Prop :=
  ∃ day, opens day ∧ day * 1440 + opening ≤ minute ∧
    minute ≤ day * 1440 + closing + if closing < opening then 1440 else 0

variable {opening closing minute : ℤ} {opens : ℤ → Prop}

/-- A session that ends on its own day. -/
theorem inSession_iff_of_le (hopening : 0 ≤ opening) (hclosing : closing < 1440)
    (h : opening ≤ closing) :
    InSession opening closing opens minute ↔
      opens (minute / 1440) ∧ opening ≤ minute % 1440 ∧ minute % 1440 ≤ closing := by
  unfold InSession
  rw [if_neg (not_lt.mpr h)]
  constructor
  · rintro ⟨day, hopens, hafter, hbefore⟩
    obtain rfl : day = minute / 1440 := by omega
    exact ⟨hopens, by omega, by omega⟩
  · rintro ⟨hopens, hafter, hbefore⟩
    exact ⟨minute / 1440, hopens, by omega, by omega⟩

/-- A session that ends on the next day. -/
theorem inSession_iff_of_lt (hclosing : 0 ≤ closing) (hopening : opening < 1440)
    (h : closing < opening) :
    InSession opening closing opens minute ↔
      (opens (minute / 1440) ∧ opening ≤ minute % 1440) ∨
        (opens (minute / 1440 - 1) ∧ minute % 1440 ≤ closing) := by
  unfold InSession
  rw [if_pos h]
  constructor
  · rintro ⟨day, hopens, hafter, hbefore⟩
    obtain rfl | rfl : day = minute / 1440 ∨ day = minute / 1440 - 1 := by omega
    · exact Or.inl ⟨hopens, by omega⟩
    · exact Or.inr ⟨hopens, by omega⟩
  · rintro (⟨hopens, hafter⟩ | ⟨hopens, hbefore⟩)
    · exact ⟨minute / 1440, hopens, by omega, by omega⟩
    · exact ⟨minute / 1440 - 1, hopens, by omega, by omega⟩

end DailySession
