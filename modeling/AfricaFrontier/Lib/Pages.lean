import Mathlib.Algebra.Order.Monoid.Unbundled.Pow
import Mathlib.Data.List.Basic
import Mathlib.Order.Nat

/-!
# Numbered pages

Rows are read in pages of a fixed size by the number of the page, the first being number
one.  The pages up to a number are a beginning of the rows (`flatMap_page`).  A number is
the `IsLast` when no rows are left behind its page and some were left behind each page
before; there is one for every number of rows (`exists_isLast`), the pages up to it are the
rows (`IsLast.flatMap_page`), and the pages after it are empty (`IsLast.page_eq_nil`).

The rows do not change between the requests here; with arrivals a page number would not name the
same rows twice, which is what `Lib/Keyset` is for.
-/

namespace Pages

universe u

variable {ρ : Type u} {rows : List ρ} {size : ℕ}

/-- The page of a number. -/
def page (rows : List ρ) (size number : ℕ) : List ρ := (rows.drop ((number - 1) * size)).take size

/-- The pages up to a number in a row. -/
theorem flatMap_page (rows : List ρ) (size n : ℕ) :
    (List.range n).flatMap (fun k => page rows size (k + 1)) = rows.take (n * size) := by
  induction n with
  | zero => simp
  | succ n ih =>
      have hnext : page rows size (n + 1) = (rows.drop (n * size)).take size := rfl
      rw [List.range_succ, List.flatMap_append, ih, List.flatMap_singleton, hnext,
        Nat.succ_mul, List.take_add]

/-- Nothing is left for a page. -/
theorem page_eq_nil {number : ℕ} (h : rows.length ≤ (number - 1) * size) :
    page rows size number = [] := by
  rw [page, List.drop_eq_nil_of_le h, List.take_nil]

/-- The first page behind which no rows are left. -/
structure IsLast (rows : List ρ) (size last : ℕ) : Prop where
  pos : 1 ≤ last
  /-- No rows are left behind it. -/
  done : ¬ last * size < rows.length
  /-- Some are left behind each page before. -/
  more : ∀ number, 1 ≤ number → number < last → number * size < rows.length

theorem exists_isLast (rows : List ρ) (hsize : 0 < size) : ∃ last, IsLast rows size last := by
  have hexists : ∃ last, 1 ≤ last ∧ ¬ last * size < rows.length := by
    refine ⟨rows.length + 1, Nat.le_add_left 1 _, Nat.not_lt.mpr ?_⟩
    calc rows.length ≤ rows.length + 1 := Nat.le_succ _
      _ ≤ (rows.length + 1) * size := Nat.le_mul_of_pos_right _ hsize
  classical
  obtain ⟨hpos, hdone⟩ := Nat.find_spec hexists
  refine ⟨Nat.find hexists, hpos, hdone, fun number hnumber hbefore => ?_⟩
  by_contra hmore
  exact Nat.find_min hexists hbefore ⟨hnumber, hmore⟩

namespace IsLast

variable {last : ℕ}

/-- The pages up to the last one are the rows. -/
theorem flatMap_page (h : IsLast rows size last) :
    (List.range last).flatMap (fun k => page rows size (k + 1)) = rows := by
  rw [Pages.flatMap_page, List.take_of_length_le (Nat.not_lt.mp h.done)]

/-- Nothing is left for the pages after it. -/
theorem page_eq_nil (h : IsLast rows size last) {number : ℕ} (hafter : last < number) :
    page rows size number = [] := by
  refine Pages.page_eq_nil ((Nat.not_lt.mp h.done).trans ?_)
  exact Nat.mul_le_mul_right size (Nat.le_sub_one_of_lt hafter)

end IsLast

end Pages
