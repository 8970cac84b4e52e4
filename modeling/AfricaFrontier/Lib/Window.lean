import Mathlib.Algebra.Order.Group.Defs
import Mathlib.Algebra.Order.Group.Unbundled.Basic
import Mathlib.Algebra.Order.Sub.Defs
import Mathlib.Data.List.Induction
import Mathlib.Data.List.Perm.Subperm

/-!
# Sliding windows

A list of times in the order they came is `Bounded` when no half-open window of a given
length holds more than `limit` of them.  Times that do not go backwards keep the bound as
long as each new one finds fewer than `limit` in the window that ends with it
(`Bounded.snoc`): whatever other window it falls into, the earlier times in there lie in
that one too.

What a limiter can count is not the times themselves but a record of them, in which equal
times leave one trace; `length_recent_le` says when the record counts them all.

Those who count may do so at different times.  Whoever counts last has counted everybody
(`Tallied.countP_lt`).

The counts of the two halves differ: `recent` looks back from one time, which is what a limiter
can do when a call arrives, and `within` is any window, which is what the bound is about.
`within_sublist_recent` is the step from one to the other.
-/

namespace SlidingWindow

variable {T : Type*} [AddCommGroup T] [LinearOrder T]

/-- The times within a half-open window. -/
def within (start length : T) (times : List T) : List T :=
  times.filter fun t => decide (start ≤ t ∧ t < start + length)

/-- The times that are less than a window's length old. -/
def recent (now length : T) (times : List T) : List T :=
  times.filter fun t => decide (now - length < t)

/-- No half-open window holds more than `limit` of the times, wherever it begins. -/
def Bounded (limit : ℕ) (length : T) (times : List T) : Prop :=
  ∀ start, (within start length times).length ≤ limit

/-- A time is recent if it is less than a window old. -/
theorem mem_recent {now length t : T} {times : List T} :
    t ∈ recent now length times ↔ t ∈ times ∧ now - length < t := by
  simp [recent]

/-- No time yet. -/
theorem bounded_nil (limit : ℕ) (length : T) : Bounded limit length [] := by
  intro start
  exact Nat.zero_le limit

/-- A record that has every recent time counts them, when no two of them are equal. -/
theorem length_recent_le {now length : T} {times record : List T}
    (hdistinct : (recent now length times).Nodup)
    (hrecorded : ∀ t ∈ times, now - length < t → t ∈ record) :
    (recent now length times).length ≤ record.length := by
  refine (hdistinct.subperm fun t ht => ?_).length_le
  obtain ⟨hmem, hlate⟩ := mem_recent.mp ht
  exact hrecorded t hmem hlate

variable [IsOrderedAddMonoid T]

/-- A window that holds `now` only holds times that are recent at `now`. -/
theorem within_sublist_recent {start now length : T} (hnow : now < start + length)
    (times : List T) : (within start length times).Sublist (recent now length times) := by
  refine List.monotone_filter_right times fun t ht => ?_
  simp only [decide_eq_true_eq] at ht ⊢
  exact (sub_lt_iff_lt_add.mpr hnow).trans_le ht.1

/-- **One more time.**  It keeps the bound when fewer than `limit` are recent at it. -/
theorem Bounded.snoc {limit : ℕ} {length now : T} {times : List T}
    (h : Bounded limit length times) (hroom : (recent now length times).length < limit) :
    Bounded limit length (times ++ [now]) := by
  intro start
  have hsplit : within start length (times ++ [now]) =
      within start length times ++ within start length [now] := List.filter_append _ _
  rw [hsplit, List.length_append]
  by_cases hin : start ≤ now ∧ now < start + length
  · have hone : within start length [now] = [now] := by simp [within, hin]
    have hfew := (within_sublist_recent hin.2 times).length_le
    rw [hone, List.length_singleton]
    omega
  · have hnone : within start length [now] = [] := by simp [within, hin]
    rw [hnone, List.length_nil, Nat.add_zero]
    exact h start

/-! ## The last elements of a list -/

section Last

variable {α : Type*} {q : α → Bool}

/-- What stands in front of the first element that meets a condition does not meet it. -/
theorem filter_dropWhile (q : α → Bool) (l : List α) :
    (l.dropWhile fun a => !q a).filter q = l.filter q := by
  induction l with
  | nil => rfl
  | cons a l ih =>
      cases ha : q a with
      | true => rw [List.dropWhile_cons_of_neg (by simp [ha])]
      | false =>
          rw [List.dropWhile_cons_of_pos (by simp [ha]), ih, List.filter_cons_of_neg (by simp [ha])]

/-- **The last so many.**  The last `n` elements contain, in order, all that meet a condition,
if and only if there are `n` at most from the first of these on. -/
theorem filter_sublist_last_iff {l : List α} {n : ℕ} :
    (l.filter q).Sublist (l.drop (l.length - n)) ↔ (l.dropWhile fun a => !q a).length ≤ n := by
  constructor
  · intro h
    -- none that meets it is cut off
    have hcut : (l.take (l.length - n)).filter q = [] := by
      have hkept := (h.filter q).length_le
      rw [List.filter_eq_self.mpr fun a ha => (List.mem_filter.mp ha).2] at hkept
      have hsplit := congrArg (fun l => (l.filter q).length) (l.take_append_drop (l.length - n))
      simp only [List.filter_append, List.length_append] at hsplit
      exact List.eq_nil_of_length_eq_zero (by omega)
    have hfront : ∀ a ∈ l.take (l.length - n), (!q a) = true := by
      intro a ha
      have hnot := List.filter_eq_nil_iff.mp hcut a ha
      simpa using hnot
    have hdrop : l.dropWhile (fun a => !q a) =
        (l.drop (l.length - n)).dropWhile fun a => !q a := by
      conv_lhs => rw [← l.take_append_drop (l.length - n)]
      exact List.dropWhile_append_of_pos hfront
    rw [hdrop]
    have hlength := (List.dropWhile_sublist (l := l.drop (l.length - n)) fun a => !q a).length_le
    rw [List.length_drop] at hlength
    omega
  · intro h
    rw [← filter_dropWhile]
    refine List.filter_sublist.trans ?_
    -- two ends of one list, of which one is shorter
    refine (List.suffix_of_suffix_length_le (List.dropWhile_suffix _)
      (List.drop_suffix (l.length - n) l) ?_).sublist
    have hshort := (List.dropWhile_sublist (l := l) fun a => !q a).length_le
    rw [List.length_drop]
    omega

end Last

/-! ## Tallies -/

section Tally

variable {α : Type*} {covers : α → α → Bool} {tally : α → ℕ} {log : List α} {a : α}

/-- Each entry of a log has counted all the entries up to it, itself included, that it
covers. -/
def Tallied (covers : α → α → Bool) (tally : α → ℕ) (log : List α) : Prop :=
  ∀ before a after, log = before ++ a :: after → (before ++ [a]).countP (covers a) ≤ tally a

/-- No entry yet. -/
theorem Tallied.nil : Tallied covers tally [] := by
  intro before a after hsplit
  simp at hsplit

/-- One more entry. -/
theorem Tallied.snoc (h : Tallied covers tally log)
    (ha : (log ++ [a]).countP (covers a) ≤ tally a) : Tallied covers tally (log ++ [a]) := by
  intro before b after hsplit
  rcases List.eq_nil_or_concat after with rfl | ⟨rest, c, rfl⟩
  · obtain ⟨rfl, hlast⟩ := List.append_inj' hsplit rfl
    obtain rfl := List.singleton_inj.mp hlast
    exact ha
  · have hrest : log ++ [a] = (before ++ b :: rest) ++ [c] := by
      rw [hsplit, List.concat_eq_append, List.append_assoc, List.cons_append]
    exact h before b rest (List.append_inj' hrest rfl).1

/-- Without the last entry. -/
theorem Tallied.of_snoc (h : Tallied covers tally (log ++ [a])) : Tallied covers tally log := by
  intro before b after hsplit
  refine h before b (after ++ [a]) ?_
  rw [hsplit, List.append_assoc, List.cons_append]

/-- **Whoever counts last has counted everybody.**  Of entries that cover one another and have
each counted fewer than `k`, there are fewer than `k`. -/
theorem Tallied.countP_lt {q : α → Bool} {k : ℕ} (h : Tallied covers tally log) (hk : 0 < k)
    (hfew : ∀ a ∈ log, q a = true → tally a < k)
    (hcovers : ∀ a ∈ log, ∀ b ∈ log, q a = true → q b = true → covers a b = true) :
    log.countP q < k := by
  induction log using List.reverseRecOn with
  | nil => exact hk
  | append_singleton log a ih =>
      have hlast : a ∈ log ++ [a] := List.mem_append_right _ List.mem_cons_self
      cases ha : q a with
      | true =>
          calc (log ++ [a]).countP q
              ≤ (log ++ [a]).countP (covers a) :=
                List.countP_mono_left fun b hb hq => hcovers a hlast b hb ha hq
            _ ≤ tally a := h log a [] rfl
            _ < k := hfew a hlast ha
      | false =>
          have hold : log.countP q < k :=
            ih h.of_snoc (fun b hb => hfew b (List.mem_append_left _ hb)) fun b hb c hc =>
              hcovers b (List.mem_append_left _ hb) c (List.mem_append_left _ hc)
          rwa [List.countP_append, List.countP_singleton, ha]

end Tally

end SlidingWindow
