import Mathlib.Data.List.Basic
import Mathlib.Data.Nat.Notation
import Mathlib.Logic.Function.Basic

/-!
# Custody of the entries of a log

Entries are appended to a log and handed out in its order, each once: a cursor divides
the log into what has been handed out and what is still to come.  An entry that was handed
out is in the hands of one of its holders until the holder has completed it, or lost it.

A ledger is `Accounted` when every entry is completed, ahead of the cursor or held.
`accounted_apply` says exactly which moves keep it so: nothing may be handed out to
nobody, and nobody may let go of an entry that is not completed.

A log with readers is put into this form by naming the cursor, the holders and what was completed,
and by giving for each of its steps the move it makes. The lemma `Ledger.accounted_apply` is then
an equivalence for every step, so that a run loses nothing exactly when none of its steps does.

Two invariants come with it: nothing is handed out twice (`Ledger.WellKept`), and nothing is
completed twice (`Ledger.WellKept.nodup_apply`). Neither needs the condition.
-/

namespace Custody

/-- Who has which entries. -/
structure Ledger where
  /-- The number of entries in the log. -/
  published : ℕ
  /-- The entries before it have been handed out. -/
  cursor : ℕ
  completed : List ℕ
  held : ℕ → List ℕ

/-- What can happen to a ledger. -/
inductive Move
  /-- One more entry. -/
  | publish
  /-- The next `k` entries are handed out to `i`. -/
  | deliver (i k : ℕ)
  /-- The next `k` entries are handed out, and reach nobody. -/
  | lose (k : ℕ)
  /-- The first entry `i` holds is completed. -/
  | complete (i : ℕ)
  /-- `i` lets go of the first `k` entries it holds. -/
  | drop (i k : ℕ)

/-- The entries a hand-out of `k` consists of. -/
def Ledger.next (l : Ledger) (k : ℕ) : List ℕ := List.range' l.cursor k

/-- The ledger after a move. Entries that are lost are behind the cursor and in nobody's hands. -/
def Ledger.apply (l : Ledger) : Move → Ledger
  | .publish => { l with published := l.published + 1 }
  | .deliver i k =>
      { l with cursor := l.cursor + k, held := Function.update l.held i (l.next k) }
  | .lose k => { l with cursor := l.cursor + k }
  | .complete i =>
      { l with
        completed := l.completed ++ (l.held i).take 1
        held := Function.update l.held i ((l.held i).drop 1) }
  | .drop i k => { l with held := Function.update l.held i ((l.held i).drop k) }

/-- The moves a log allows: only what was published is handed out, and only to those who
hold nothing. -/
def Ledger.Allows (l : Ledger) : Move → Prop
  | .deliver i k => l.held i = [] ∧ l.cursor + k ≤ l.published
  | .lose k => l.cursor + k ≤ l.published
  | _ => True

/-- The moves that lose nothing. -/
def Ledger.Lossless (l : Ledger) : Move → Prop
  | .lose k => k = 0
  | .drop i k => (l.held i).take k = []
  | _ => True

/-- Nothing is handed out twice. -/
structure Ledger.WellKept (l : Ledger) : Prop where
  cursor_le : l.cursor ≤ l.published
  completed_lt : ∀ n ∈ l.completed, n < l.cursor
  held_lt : ∀ i, ∀ n ∈ l.held i, n < l.cursor
  open_ : ∀ i, ∀ n ∈ l.held i, n ∉ l.completed
  nodup : ∀ i, (l.held i).Nodup
  apart : ∀ i j n, n ∈ l.held i → n ∈ l.held j → i = j

/-- Every entry is completed, to come or held. -/
def Ledger.Accounted (l : Ledger) : Prop :=
  ∀ n < l.published, n ∉ l.completed → l.cursor ≤ n ∨ ∃ i, n ∈ l.held i

section Moves

variable {l : Ledger}

/-- What a holder holds after its list was replaced. -/
theorem mem_update {held : ℕ → List ℕ} {i j n : ℕ} {mine : List ℕ} :
    n ∈ Function.update held i mine j ↔ (j = i ∧ n ∈ mine) ∨ (j ≠ i ∧ n ∈ held j) := by
  by_cases hji : j = i
  · subst hji
    simp
  · simp [hji]

/-- Holding less. -/
theorem Ledger.WellKept.shrink (h : l.WellKept) (i : ℕ) {mine : List ℕ}
    (hsub : mine.Sublist (l.held i)) {completed : List ℕ}
    (hcompleted : ∀ n ∈ completed, n ∈ l.completed ∨ n ∈ l.held i)
    (hopen : ∀ n ∈ completed, n ∉ mine) :
    ({ l with completed := completed, held := Function.update l.held i mine } :
      Ledger).WellKept := by
  -- nobody holds more than before
  have hheld : ∀ j n, n ∈ Function.update l.held i mine j → n ∈ l.held j := by
    intro j n hn
    rcases mem_update.mp hn with ⟨rfl, hmine⟩ | ⟨-, hold⟩
    · exact hsub.subset hmine
    · exact hold
  refine ⟨h.cursor_le, ?_, fun j n hn => h.held_lt j n (hheld j n hn), ?_, ?_, ?_⟩
  · intro n hn
    rcases hcompleted n hn with hold | hmine
    · exact h.completed_lt n hold
    · exact h.held_lt i n hmine
  · intro j n hn hdone
    rcases mem_update.mp hn with ⟨-, hmine⟩ | ⟨hne, hold⟩
    · exact hopen n hdone hmine
    · rcases hcompleted n hdone with hbefore | hmine
      · exact h.open_ j n hold hbefore
      · exact hne (h.apart j i n hold hmine)
  · intro j
    show (Function.update l.held i mine j).Nodup
    by_cases hji : j = i
    · subst hji
      rw [Function.update_self]
      exact (h.nodup j).sublist hsub
    · rw [Function.update_of_ne hji]
      exact h.nodup j
  · intro j k n hj hk
    exact h.apart j k n (hheld j n hj) (hheld k n hk)

/-- A further hand-out to one who holds nothing. -/
theorem Ledger.WellKept.deliver (h : l.WellKept) {i k : ℕ} (hfree : l.held i = [])
    (hle : l.cursor + k ≤ l.published) : (l.apply (.deliver i k)).WellKept := by
  have hnext : ∀ n, n ∈ l.next k ↔ l.cursor ≤ n ∧ n < l.cursor + k := by
    intro n
    exact List.mem_range'_1
  -- what somebody holds is from this delivery, or was held before and is behind the cursor
  have hheld : ∀ j n, n ∈ Function.update l.held i (l.next k) j →
      (j = i ∧ l.cursor ≤ n ∧ n < l.cursor + k) ∨ (j ≠ i ∧ n ∈ l.held j ∧ n < l.cursor) := by
    intro j n hn
    rcases mem_update.mp hn with ⟨hji, hmine⟩ | ⟨hne, hold⟩
    · exact Or.inl ⟨hji, (hnext n).mp hmine⟩
    · exact Or.inr ⟨hne, hold, h.held_lt j n hold⟩
  refine ⟨hle, ?_, ?_, ?_, ?_, ?_⟩
  · intro n hn
    exact Nat.lt_of_lt_of_le (h.completed_lt n hn) (Nat.le_add_right _ _)
  · intro j n hn
    show n < l.cursor + k
    rcases hheld j n hn with ⟨-, -, hlt⟩ | ⟨-, -, hlt⟩ <;> omega
  · intro j n hn hdone
    have hbefore := h.completed_lt n hdone
    rcases hheld j n hn with ⟨-, hge, -⟩ | ⟨-, hold, -⟩
    · omega
    · exact h.open_ j n hold hdone
  · intro j
    show (Function.update l.held i (l.next k) j).Nodup
    by_cases hji : j = i
    · subst hji
      rw [Function.update_self]
      exact List.nodup_range'
    · rw [Function.update_of_ne hji]
      exact h.nodup j
  · intro j m n hj hm
    rcases hheld j n hj with ⟨rfl, hge, -⟩ | ⟨-, hold, hlt⟩
    · rcases hheld m n hm with ⟨rfl, -⟩ | ⟨-, -, hlt⟩
      · rfl
      · omega
    · rcases hheld m n hm with ⟨rfl, hge, -⟩ | ⟨-, hold', -⟩
      · omega
      · exact h.apart j m n hold hold'

/-- **Every move** a log allows leaves it well kept. -/
theorem Ledger.WellKept.apply (h : l.WellKept) {m : Move} (hallows : l.Allows m) :
    (l.apply m).WellKept := by
  cases m with
  | publish => exact { h with cursor_le := Nat.le_succ_of_le h.cursor_le }
  | deliver i k => exact h.deliver hallows.1 hallows.2
  | lose k =>
      have hlt : ∀ n, n < l.cursor → n < l.cursor + k :=
        fun n hn => Nat.lt_of_lt_of_le hn (Nat.le_add_right _ _)
      exact { h with
        cursor_le := hallows
        completed_lt := fun n hn => hlt n (h.completed_lt n hn)
        held_lt := fun i n hn => hlt n (h.held_lt i n hn) }
  -- the first that `i` holds goes over to what is completed
  | complete i =>
      refine h.shrink i (List.drop_sublist 1 _) ?_ ?_
      · intro n hn
        rcases List.mem_append.mp hn with hold | hmine
        · exact Or.inl hold
        · exact Or.inr (List.mem_of_mem_take hmine)
      · intro n hn hmine
        rcases List.mem_append.mp hn with hold | htaken
        · exact h.open_ i n (List.mem_of_mem_drop hmine) hold
        · exact List.disjoint_take_drop (h.nodup i) (Nat.le_refl 1) htaken hmine
  | drop i k =>
      refine h.shrink i (List.drop_sublist k _) (fun n hn => Or.inl hn) ?_
      intro n hdone hmine
      exact h.open_ i n (List.mem_of_mem_drop hmine) hdone

/-- Nothing is completed twice. -/
theorem Ledger.WellKept.nodup_apply (h : l.WellKept) (hnodup : l.completed.Nodup) (m : Move) :
    (l.apply m).completed.Nodup := by
  cases m with
  | complete i =>
      refine List.nodup_append.mpr ⟨hnodup, (h.nodup i).sublist (List.take_sublist 1 _), ?_⟩
      rintro n hdone _ hmine rfl
      exact h.open_ i n (List.mem_of_mem_take hmine) hdone
  | _ => exact hnodup

/-- Once everything was handed out and nobody holds anything, what is accounted for has been
completed. -/
theorem Ledger.Accounted.completed_of_idle (h : l.Accounted) (hall : l.cursor = l.published)
    (hidle : ∀ i, l.held i = []) {n : ℕ} (hn : n < l.published) : n ∈ l.completed := by
  by_contra hopen
  rcases h n hn hopen with hahead | ⟨i, hi⟩
  · omega
  · rw [hidle i] at hi
    cases hi

/-- What is held stays held, but for what its holder lets go of. -/
theorem mem_held_update {held : ℕ → List ℕ} {i j n : ℕ} {mine : List ℕ} (hj : n ∈ held j)
    (hkept : n ∈ held i → n ∈ mine) : ∃ j', n ∈ Function.update held i mine j' := by
  by_cases hji : j = i
  · subst hji
    exact ⟨j, mem_update.mpr (Or.inl ⟨rfl, hkept hj⟩)⟩
  · exact ⟨j, mem_update.mpr (Or.inr ⟨hji, hj⟩)⟩

/-- A move that loses nothing leaves every entry accounted for. -/
theorem Ledger.Accounted.apply (h : l.Accounted) (hkept : l.WellKept) {m : Move}
    (hallows : l.Allows m) (hlossless : l.Lossless m) : (l.apply m).Accounted := by
  cases m with
  | publish =>
      intro n hn hopen
      have hlt : n < l.published + 1 := hn
      by_cases hnew : n = l.published
      · exact Or.inl (hnew ▸ hkept.cursor_le)
      · exact h n (by omega) hopen
  -- what the cursor passes is in the hands of `i`
  | deliver i k =>
      intro n hn hopen
      rcases h n hn hopen with hahead | ⟨j, hj⟩
      · by_cases hpassed : n < l.cursor + k
        · exact Or.inr ⟨i, mem_update.mpr (Or.inl ⟨rfl, List.mem_range'_1.mpr ⟨hahead, hpassed⟩⟩)⟩
        · exact Or.inl (Nat.not_lt.mp hpassed)
      · refine Or.inr (mem_held_update hj fun hmine => ?_)
        rw [hallows.1] at hmine
        cases hmine
  | lose k =>
      obtain rfl : k = 0 := hlossless
      exact h
  -- only the first that `i` holds leaves its hands, and it is completed
  | complete i =>
      intro n hn hopen
      have hopen' : n ∉ l.completed ∧ n ∉ (l.held i).take 1 := by
        simpa [Ledger.apply] using hopen
      rcases h n hn hopen'.1 with hahead | ⟨j, hj⟩
      · exact Or.inl hahead
      · refine Or.inr (mem_held_update hj fun hmine => ?_)
        rw [← List.take_append_drop 1 (l.held i)] at hmine
        exact (List.mem_append.mp hmine).resolve_left hopen'.2
  | drop i k =>
      intro n hn hopen
      rcases h n hn hopen with hahead | ⟨j, hj⟩
      · exact Or.inl hahead
      · refine Or.inr (mem_held_update hj fun hmine => ?_)
        rw [← List.take_append_drop k (l.held i)] at hmine
        have hnone : (l.held i).take k = [] := hlossless
        rw [hnone, List.nil_append] at hmine
        exact hmine

/-- Entries handed out to nobody are not accounted for. -/
theorem Ledger.Accounted.lose_eq_zero {k : ℕ} (hkept : l.WellKept)
    (hallows : l.Allows (.lose k)) (h : (l.apply (.lose k)).Accounted) : k = 0 := by
  by_contra hne
  have hroom : l.cursor + k ≤ l.published := hallows
  have hopen : l.cursor ∉ l.completed := fun hdone => Nat.lt_irrefl _ (hkept.completed_lt _ hdone)
  rcases h l.cursor (show l.cursor < l.published by omega) hopen with hahead | ⟨j, hj⟩
  · have hpassed : l.cursor + k ≤ l.cursor := hahead
    omega
  · exact Nat.lt_irrefl _ (hkept.held_lt j _ hj)

/-- Where all is accounted for, a holder lets go of no entry. -/
theorem Ledger.Accounted.dropped_eq_nil {i k : ℕ} (hkept : l.WellKept)
    (h : (l.apply (.drop i k)).Accounted) : (l.held i).take k = [] := by
  by_contra hne
  obtain ⟨n, hn⟩ := List.exists_mem_of_ne_nil _ hne
  have hmine : n ∈ l.held i := List.mem_of_mem_take hn
  have hlt := hkept.held_lt i n hmine
  rcases h n (Nat.lt_of_lt_of_le hlt hkept.cursor_le) (hkept.open_ i n hmine) with
    hahead | ⟨j, hj⟩
  · exact absurd hlt (Nat.not_lt.mpr hahead)
  · rcases mem_update.mp hj with ⟨-, hrest⟩ | ⟨hji, hother⟩
    · exact List.disjoint_take_drop (hkept.nodup i) (Nat.le_refl k) hn hrest
    · exact hji (hkept.apart j i n hother hmine)

/-- **Exactly the lossless moves** leave every entry accounted for. -/
theorem Ledger.accounted_apply (hkept : l.WellKept) (h : l.Accounted) {m : Move}
    (hallows : l.Allows m) : l.Lossless m ↔ (l.apply m).Accounted := by
  refine ⟨h.apply hkept hallows, fun hafter => ?_⟩
  cases m with
  | publish => trivial
  | deliver i k => trivial
  | lose k => exact hafter.lose_eq_zero hkept hallows
  | complete i => trivial
  | drop i k => exact hafter.dropped_eq_nil hkept

end Moves

end Custody
