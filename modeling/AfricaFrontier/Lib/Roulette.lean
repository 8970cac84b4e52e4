import Mathlib.Data.List.Basic

/-!
# Walking down a list of weights

An entry is chosen by a number: the weights are added up in the order of the entries, and
the first entry whose running sum reaches the number is taken.  Addition and comparison are
any two functions, so that they may round.

No law of addition is used, not even that sums do not fall: the entry that is taken is the one
before which no running sum has reached the number, and whose own does.
-/

namespace Roulette

universe u v

variable {ι : Type u} {F : Type v} (add : F → F → F) (le : F → F → Bool)

/-- The first entry whose running sum, from `start` on, reaches the number. -/
def walk (r : F) : F → List (ι × F) → Option ι
  | _, [] => none
  | start, (a, w) :: rest => if le r (add start w) then some a else walk r (add start w) rest

/-- The running sum up to the entry of an index. -/
def runningSum (start : F) (entries : List (ι × F)) (i : ℕ) : F :=
  ((entries.take (i + 1)).map Prod.snd).foldl add start

/-- The first entry adds its weight. -/
@[simp] theorem runningSum_cons_zero (start : F) (a : ι) (w : F) (rest : List (ι × F)) :
    runningSum add start ((a, w) :: rest) 0 = add start w := by
  simp [runningSum]

/-- The sums after the first go on from its weight. -/
@[simp] theorem runningSum_cons_succ (start : F) (a : ι) (w : F) (rest : List (ι × F)) (i : ℕ) :
    runningSum add start ((a, w) :: rest) (i + 1) = runningSum add (add start w) rest i := by
  simp [runningSum]

/-- No running sum before the index reaches the number. -/
def Passes (r start : F) (entries : List (ι × F)) (i : ℕ) : Prop :=
  ∀ j < i, le r (runningSum add start entries j) = false

variable {add le} {r start : F} {entries : List (ι × F)}

/-- The first entry is passed, and then the rest. -/
theorem passes_cons_succ {a : ι} {w : F} {i : ℕ} :
    Passes add le r start ((a, w) :: entries) (i + 1) ↔
      le r (add start w) = false ∧ Passes add le r (add start w) entries i := by
  constructor
  · intro h
    refine ⟨by simpa using h 0 (Nat.succ_pos i), fun j hj => ?_⟩
    simpa using h (j + 1) (Nat.succ_lt_succ hj)
  · rintro ⟨hhead, htail⟩ j hj
    cases j with
    | zero => simpa using hhead
    | succ j => simpa using htail j (Nat.lt_of_succ_lt_succ hj)

/-- What the walk takes. -/
theorem walk_eq_some_iff {a : ι} :
    walk add le r start entries = some a ↔
      ∃ i, (entries[i]?).map Prod.fst = some a ∧ Passes add le r start entries i ∧
        le r (runningSum add start entries i) = true := by
  induction entries generalizing start with
  | nil => simp [walk]
  | cons head rest ih =>
      obtain ⟨b, w⟩ := head
      cases hhead : le r (add start w) with
      | true =>
          simp only [walk, hhead, if_true]
          constructor
          · intro hab
            exact ⟨0, by simpa using hab, fun j hj => absurd hj (Nat.not_lt_zero j), by simpa⟩
          · rintro ⟨i, hi, hpasses, -⟩
            cases i with
            | zero => simpa using hi
            | succ i => simp [passes_cons_succ, hhead] at hpasses
      -- the walk goes on, and the rest of it is one place further
      | false =>
          simp only [walk, hhead, Bool.false_eq_true, if_false, ih]
          constructor
          · rintro ⟨i, hi, hpasses, hreach⟩
            exact ⟨i + 1, by simpa using hi, passes_cons_succ.mpr ⟨hhead, hpasses⟩, by simpa⟩
          · rintro ⟨i, hi, hpasses, hreach⟩
            cases i with
            | zero => simp [hhead] at hreach
            | succ i =>
                exact ⟨i, by simpa using hi, (passes_cons_succ.mp hpasses).2, by simpa using hreach⟩

/-- The walk comes to the end when no running sum reaches the number. -/
theorem walk_eq_none_iff :
    walk add le r start entries = none ↔ Passes add le r start entries entries.length := by
  induction entries generalizing start with
  | nil => simp [walk, Passes]
  | cons head rest ih =>
      obtain ⟨b, w⟩ := head
      rw [List.length_cons, passes_cons_succ]
      cases hhead : le r (add start w) with
      | true => simp [walk, hhead]
      | false => simp [walk, hhead, ih]

end Roulette
