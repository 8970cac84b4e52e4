import Mathlib.Algebra.BigOperators.Group.Finset.Basic
import Mathlib.Algebra.Order.Group.Defs
import Mathlib.Data.List.Basic

/-!
# Chains whose links depend on their place

`Linked R l` says that the elements at the places `k` and `k + 1` of a list are related by
`R k`.  A chain grows by a link to its last element (`Linked.snoc`), its last element may
be exchanged for one that is linked as well (`Linked.exchange_last`), and where every link
moves a measure by at least a step, the measure of an element is at least that of the first
plus the steps up to it (`Linked.sum_le`).

The place is part of the relation because intervals may grow along the chain: the bound adds up a
different step for each link. Only the last element is ever changed, as in a log whose last entry
is completed later.
-/

namespace Indexed

open List

universe u v

variable {α : Type u} {R : ℕ → α → α → Prop} {l front : List α} {a b : α}

/-- Neighbours are related, each pair by the relation of its place. -/
def Linked (R : ℕ → α → α → Prop) (l : List α) : Prop :=
  ∀ k a b, l[k]? = some a → l[k + 1]? = some b → R k a b

/-- The empty chain. -/
theorem linked_nil : Linked R [] := by
  intro k a b ha
  simp at ha

/-- Weaker links. -/
theorem Linked.mono {S : ℕ → α → α → Prop} (h : Linked R l)
    (hRS : ∀ k a b, R k a b → S k a b) : Linked S l :=
  fun k a b ha hb => hRS k a b (h k a b ha hb)

/-- One more element, linked to the last one. -/
theorem Linked.snoc (h : Linked R l) (hlast : ∀ front a, l = front ++ [a] → R front.length a b) :
    Linked R (l ++ [b]) := by
  intro k c d hc hd
  rcases eq_nil_or_concat l with rfl | ⟨front, a, rfl⟩
  · simp at hd
  · rcases Nat.lt_trichotomy (k + 1) (front.length + 1) with hk | hk | hk
    · rw [getElem?_append_left (by simp; omega)] at hc
      rw [getElem?_append_left (by simp; omega)] at hd
      exact h k c d hc hd
    · obtain rfl : k = front.length := by omega
      have hcd : a = c ∧ b = d := by simpa using And.intro hc hd
      rw [← hcd.1, ← hcd.2]
      exact hlast front a (concat_eq_append ..)
    · rw [getElem?_eq_none (by simp; omega)] at hd
      cases hd

/-- Another last element, to which everything is linked that was linked to the old one. -/
theorem Linked.exchange_last (h : Linked R (front ++ [a])) (hR : ∀ k c, R k c a → R k c b) :
    Linked R (front ++ [b]) := by
  intro k c d hc hd
  rcases Nat.lt_trichotomy (k + 1) front.length with hk | hk | hk
  · rw [getElem?_append_left (by omega)] at hc hd
    refine h k c d ?_ ?_
    · rw [getElem?_append_left (by omega)]
      exact hc
    · rw [getElem?_append_left hk]
      exact hd
  · have hbd : b = d := by simpa [hk] using hd
    rw [← hbd]
    refine hR k c (h k c a ?_ ?_)
    · rw [getElem?_append_left (by omega)] at hc ⊢
      exact hc
    · simp [hk]
  · rw [getElem?_eq_none (by simp; omega)] at hd
    cases hd

/-- **Measures along a chain**: they grow by the steps of its links. -/
theorem Linked.sum_le {M : Type v} [AddCommGroup M] [PartialOrder M] [IsOrderedAddMonoid M]
    (measure : α → M) (step : ℕ → M) (h : Linked R l)
    (hR : ∀ k a b, R k a b → measure a + step k ≤ measure b) {first c : α} {k : ℕ}
    (hfirst : l[0]? = some first) (hc : l[k]? = some c) :
    measure first + ∑ j ∈ Finset.range k, step j ≤ measure c := by
  induction k generalizing c with
  | zero =>
      obtain rfl := Option.some.inj (hfirst.symm.trans hc)
      simp
  | succ k ih =>
      have hlength : k + 1 < l.length := (List.getElem?_eq_some_iff.mp hc).1
      obtain ⟨before, hbefore⟩ : ∃ before, l[k]? = some before :=
        ⟨l[k], getElem?_eq_getElem (by omega)⟩
      have hlink := hR k before c (h k before c hbefore hc)
      calc measure first + ∑ j ∈ Finset.range (k + 1), step j
          = (measure first + ∑ j ∈ Finset.range k, step j) + step k := by
            rw [Finset.sum_range_succ, add_assoc]
        _ ≤ measure before + step k := by
            gcongr
            exact ih hbefore
        _ ≤ measure c := hlink

end Indexed
