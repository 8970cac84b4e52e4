import Mathlib.Algebra.BigOperators.Group.List.Basic
import Mathlib.Algebra.Order.BigOperators.Group.List
import Mathlib.Data.List.Basic
import Mathlib.Data.List.Pairwise
import Mathlib.Tactic.Abel

/-!
# Relational tables with a primary key and unique columns

A `Table` is the committed content of one database table: rows in insertion
order, each with a primary key the table itself hands out, and possibly further
columns declared unique.  The constraints are fields of the structure, so a table
that violates one cannot be built, and every lookup by key is a lookup of *the*
row with that key.

* `Row` declares, for a row type, its key columns: the primary key and when two
  rows would violate a unique constraint.
* `Table.insert` hands out a fresh primary key and refuses a row that clashes on
  a unique column — the database's integrity error is its `none`.
* `Table.modify` rewrites the non-key columns of one row; `Table.replace` any column but
  the primary key, and is refused where that clashes.

For each operation there is a lookup lemma, a membership lemma and a sum lemma
(`sum` is a total of a weight over all rows — a balance, a count).  `sorted` is a query in an
order, with a lemma that says what it depends on.

A program that loads rows, works on its copies and commits what has changed is modelled with
`Dirty` and `written`: the write-back is column by column, over whatever is stored at that time.
Which columns are written back, and that these are no key columns, is declared for each row type
where it is defined.
-/

namespace Relational

universe u v

/-- The key columns of a row type: what they are, which of them is the primary
key, and when two rows agree on a column declared unique. -/
class Row (ρ : Type u) where
  /-- All columns a constraint speaks about. -/
  Key : Type
  key : ρ → Key
  /-- The primary key. -/
  primary : Key → ℕ
  /-- Two rows that cannot be stored together. -/
  Clash : Key → Key → Prop
  decClash : ∀ a b, Decidable (Clash a b)

instance {ρ : Type u} [Row ρ] (a b : Row.Key ρ) : Decidable (Row.Clash a b) :=
  Row.decClash a b

/-- The primary key of a row. -/
def ident {ρ : Type u} [Row ρ] (r : ρ) : ℕ := Row.primary (Row.key r)

/-- The committed rows of one table. The constraints are fields: keys are below the next one and
distinct, and no two rows clash in a unique column. -/
structure Table (ρ : Type u) [Row ρ] where
  rows : List ρ
  /-- The next primary key to hand out. -/
  next : ℕ
  fresh : ∀ r ∈ rows, ident r < next
  distinct : rows.Pairwise fun a b => ident a ≠ ident b
  unique : rows.Pairwise fun a b => ¬ Row.Clash (Row.key a) (Row.key b)

namespace Table

variable {ρ : Type u} [Row ρ]

/-- The table with no rows. -/
def empty : Table ρ where
  rows := []
  next := 0
  fresh := by simp
  distinct := List.Pairwise.nil
  unique := List.Pairwise.nil

instance : Membership ρ (Table ρ) where
  mem t r := r ∈ t.rows

/-- A row of the table is one of its rows. -/
theorem mem_iff {t : Table ρ} {r : ρ} : r ∈ t ↔ r ∈ t.rows := Iff.rfl

/-- The row with the given primary key. -/
def get (t : Table ρ) (i : ℕ) : Option ρ :=
  t.rows.find? fun r => decide (ident r = i)

/-- A lookup only depends on the rows. -/
theorem get_congr {t t' : Table ρ} (h : t.rows = t'.rows) (i : ℕ) : t.get i = t'.get i := by
  rw [get, h, get]

/-- Two rows with one primary key are one row. -/
theorem eq_of_ident {t : Table ρ} {r r' : ρ} (hr : r ∈ t) (hr' : r' ∈ t)
    (h : ident r = ident r') : r = r' := by
  by_contra hne
  have hsymm : Std.Symm (fun a b : ρ => ident a ≠ ident b) := ⟨fun _ _ => Ne.symm⟩
  exact (t.distinct.forall hr hr' hne) h

/-- Two rows that clash on a unique column are one row. -/
theorem eq_of_clash {t : Table ρ} {r r' : ρ} (hr : r ∈ t) (hr' : r' ∈ t)
    (hsymm : ∀ a b : Row.Key ρ, Row.Clash a b → Row.Clash b a)
    (h : Row.Clash (Row.key r) (Row.key r')) : r = r' := by
  by_contra hne
  have hsymm : Std.Symm (fun a b : ρ => ¬ Row.Clash (Row.key a) (Row.key b)) :=
    ⟨fun a b hab hba => hab (hsymm (Row.key b) (Row.key a) hba)⟩
  exact t.unique.forall hr hr' hne h

/-- A condition only one row meets selects just that row. -/
theorem filter_eq_singleton {t : Table ρ} {q : ρ → Bool} {r : ρ} (hr : r ∈ t) (hq : q r = true)
    (honly : ∀ r' ∈ t, q r' = true → r' = r) : t.rows.filter q = [r] := by
  have hmem : r ∈ t.rows.filter q := List.mem_filter.mpr ⟨hr, hq⟩
  have hall : ∀ r' ∈ t.rows.filter q, r' = r := fun r' hr' =>
    honly r' (List.mem_filter.mp hr').1 (List.mem_filter.mp hr').2
  have hapart := t.distinct.filter q
  obtain ⟨front, back, hsplit⟩ := List.append_of_mem hmem
  rw [hsplit] at hall hapart ⊢
  obtain ⟨-, hback, hacross⟩ := List.pairwise_append.mp hapart
  cases front with
  | cons a front =>
      -- another row would be the same row, with the same primary key
      have hsame := hall a (List.mem_append_left _ List.mem_cons_self)
      exact absurd (congrArg ident hsame) (hacross a List.mem_cons_self r List.mem_cons_self)
  | nil =>
      cases back with
      | nil => rfl
      | cons a back =>
          have hsame := hall a (List.mem_cons_of_mem _ List.mem_cons_self)
          have hne := (List.pairwise_cons.mp hback).1 a List.mem_cons_self
          exact absurd (congrArg ident hsame.symm) hne

/-- The lookup finds exactly the row with the key. -/
theorem get_eq_some_iff {t : Table ρ} {i : ℕ} {r : ρ} :
    t.get i = some r ↔ r ∈ t ∧ ident r = i := by
  constructor
  · intro h
    exact ⟨List.mem_of_find?_eq_some h, by simpa using List.find?_some h⟩
  · rintro ⟨hr, hi⟩
    cases hget : t.get i with
    | none =>
        have := List.find?_eq_none.mp hget r hr
        simp [hi] at this
    | some r' =>
        have hr' : r' ∈ t := List.mem_of_find?_eq_some hget
        have hi' : ident r' = i := by simpa using List.find?_some hget
        rw [eq_of_ident hr' hr (hi'.trans hi.symm)]

/-- A stored row is found under its key. -/
theorem get_ident {t : Table ρ} {r : ρ} (hr : r ∈ t) : t.get (ident r) = some r :=
  get_eq_some_iff.mpr ⟨hr, rfl⟩

/-- What a lookup finds is stored. -/
theorem mem_of_get {t : Table ρ} {i : ℕ} {r : ρ} (h : t.get i = some r) : r ∈ t :=
  (get_eq_some_iff.mp h).1

/-- What a lookup finds has the key it was looked for under. -/
theorem ident_of_get {t : Table ρ} {i : ℕ} {r : ρ} (h : t.get i = some r) : ident r = i :=
  (get_eq_some_iff.mp h).2

/-! ### Insertion

The key that is handed out is one that no row has had. -/

/-- Insert the row built from a fresh primary key, or refuse it because a unique
column clashes. -/
def insert (t : Table ρ) (mk : ℕ → ρ) (hmk : ∀ n, ident (mk n) = n) : Option (Table ρ) :=
  if h : ∀ r ∈ t.rows, ¬ Row.Clash (Row.key r) (Row.key (mk t.next)) then
    some
      { rows := t.rows ++ [mk t.next]
        next := t.next + 1
        fresh := by
          intro r hr
          rcases List.mem_append.mp hr with hr | hr
          · exact Nat.lt_succ_of_lt (t.fresh r hr)
          · rw [List.mem_singleton.mp hr, hmk]
            exact Nat.lt_succ_self _
        distinct := by
          refine List.pairwise_append.mpr ⟨t.distinct, List.pairwise_singleton _ _, ?_⟩
          intro a ha b hb
          rw [List.mem_singleton.mp hb, hmk]
          exact (t.fresh a ha).ne
        unique := by
          refine List.pairwise_append.mpr ⟨t.unique, List.pairwise_singleton _ _, ?_⟩
          intro a ha b hb
          rw [List.mem_singleton.mp hb]
          exact h a ha }
  else none

section Insert

variable {t t' : Table ρ} {mk : ℕ → ρ} {hmk : ∀ n, ident (mk n) = n}

/-- The new row comes last. -/
theorem insert_rows (h : t.insert mk hmk = some t') : t'.rows = t.rows ++ [mk t.next] := by
  unfold insert at h
  split at h
  · cases h
    rfl
  · cases h

/-- The next key is another one. -/
theorem insert_next (h : t.insert mk hmk = some t') : t'.next = t.next + 1 := by
  unfold insert at h
  split at h
  · cases h
    rfl
  · cases h

/-- An accepted row clashes with no stored one. -/
theorem not_clash_of_insert (h : t.insert mk hmk = some t') :
    ∀ r ∈ t, ¬ Row.Clash (Row.key r) (Row.key (mk t.next)) := by
  unfold insert at h
  split at h
  · assumption
  · cases h

/-- A refused row clashes with a stored one. -/
theorem exists_clash_of_insert (h : t.insert mk hmk = none) :
    ∃ r ∈ t, Row.Clash (Row.key r) (Row.key (mk t.next)) := by
  unfold insert at h
  split at h
  · cases h
  · rename_i hclash
    push Not at hclash
    exact hclash

/-- The rows after an insertion. -/
theorem mem_insert (h : t.insert mk hmk = some t') {r : ρ} :
    r ∈ t' ↔ r ∈ t ∨ r = mk t.next := by
  rw [mem_iff, insert_rows h, List.mem_append, List.mem_singleton, mem_iff]

/-- Nobody has the next key yet. -/
theorem get_next (t : Table ρ) : t.get t.next = none := by
  refine List.find?_eq_none.mpr fun r hr => ?_
  simpa using (t.fresh r hr).ne

/-- A lookup after an insertion. -/
theorem get_insert (h : t.insert mk hmk = some t') (i : ℕ) :
    t'.get i = if i = t.next then some (mk t.next) else t.get i := by
  rw [get, insert_rows h, List.find?_append]
  by_cases hi : i = t.next
  · subst hi
    have hnone : (t.rows.find? fun r => decide (ident r = t.next)) = none := get_next t
    simp [hnone, hmk]
  · have : ident (mk t.next) ≠ i := by rw [hmk]; exact Ne.symm hi
    simp [this, hi, get]

/-- A row already stored is found as before. -/
theorem get_insert_of_get (h : t.insert mk hmk = some t') {i : ℕ} {r : ρ}
    (hget : t.get i = some r) : t'.get i = some r := by
  have hne : i ≠ t.next := by
    rintro rfl
    rw [get_next] at hget
    cases hget
  rw [get_insert h, if_neg hne, hget]

end Insert

/-- Insertion into a table with no unique column, which is never refused. -/
def add (t : Table ρ) (mk : ℕ → ρ) (hmk : ∀ n, ident (mk n) = n)
    (hfree : ∀ a b : Row.Key ρ, ¬ Row.Clash a b) : Table ρ :=
  (t.insert mk hmk).get (by
    refine Option.isSome_iff_ne_none.mpr fun hnone => ?_
    obtain ⟨r, -, hclash⟩ := exists_clash_of_insert hnone
    exact hfree _ _ hclash)

/-- It is an insertion. -/
theorem add_eq (t : Table ρ) (mk : ℕ → ρ) (hmk : ∀ n, ident (mk n) = n)
    (hfree : ∀ a b : Row.Key ρ, ¬ Row.Clash a b) :
    t.insert mk hmk = some (t.add mk hmk hfree) := by
  rw [add, Option.some_get]

/-- The new row comes last. -/
@[simp] theorem add_rows (t : Table ρ) (mk : ℕ → ρ) (hmk : ∀ n, ident (mk n) = n)
    (hfree : ∀ a b : Row.Key ρ, ¬ Row.Clash a b) :
    (t.add mk hmk hfree).rows = t.rows ++ [mk t.next] :=
  insert_rows (add_eq t mk hmk hfree)

/-! ### Restriction -/

/-- The rows that meet a condition. -/
def filter (t : Table ρ) (q : ρ → Bool) : Table ρ where
  rows := t.rows.filter q
  next := t.next
  fresh r hr := t.fresh r (List.mem_filter.mp hr).1
  distinct := t.distinct.filter q
  unique := t.unique.filter q

/-- The rows that are left. -/
theorem mem_filter {t : Table ρ} {q : ρ → Bool} {r : ρ} :
    r ∈ t.filter q ↔ r ∈ t ∧ q r = true := List.mem_filter

/-- In their order. -/
@[simp] theorem filter_rows (t : Table ρ) (q : ρ → Bool) :
    (t.filter q).rows = t.rows.filter q := rfl

/-- A row that clashes with no stored row is accepted. -/
theorem exists_insert {t : Table ρ} (mk : ℕ → ρ) (hmk : ∀ n, ident (mk n) = n)
    (h : ∀ r ∈ t, ¬ Row.Clash (Row.key r) (Row.key (mk t.next))) :
    ∃ t', t.insert mk hmk = some t' := by
  cases hinsert : t.insert mk hmk with
  | some t' => exact ⟨t', rfl⟩
  | none =>
      obtain ⟨r, hr, hclash⟩ := exists_clash_of_insert hinsert
      exact absurd hclash (h r hr)

/-! ### Modification

Key columns are not rewritten by `modify` and `update`, so that these are never refused. -/

/-- A rewriting that keeps the key columns keeps them wherever it is applied. -/
theorem key_ite {f : ρ → ρ} (hf : ∀ r, Row.key (f r) = Row.key r) (i : ℕ) (r : ρ) :
    Row.key (if ident r = i then f r else r) = Row.key r := by
  split
  · exact hf r
  · rfl

/-- A rewriting that keeps the key columns keeps the primary key. -/
theorem ident_ite {f : ρ → ρ} (hf : ∀ r, Row.key (f r) = Row.key r) (i : ℕ) (r : ρ) :
    ident (if ident r = i then f r else r) = ident r := by
  rw [ident, key_ite hf, ident]

/-- The same where a condition says which rows are rewritten. -/
theorem key_update {q : ρ → Bool} {f : ρ → ρ} (hf : ∀ r, Row.key (f r) = Row.key r) (r : ρ) :
    Row.key (if q r then f r else r) = Row.key r := by
  split
  · exact hf r
  · rfl

/-- Rewrite the non-key columns of the row with primary key `i`, if there is one. -/
def modify (t : Table ρ) (i : ℕ) (f : ρ → ρ) (hf : ∀ r, Row.key (f r) = Row.key r) :
    Table ρ where
  rows := t.rows.map fun r => if ident r = i then f r else r
  next := t.next
  fresh := by
    intro r hr
    obtain ⟨r₀, hr₀, rfl⟩ := List.mem_map.mp hr
    rw [ident_ite hf]
    exact t.fresh r₀ hr₀
  distinct := by
    refine List.pairwise_map.mpr (t.distinct.imp ?_)
    intro a b hab
    rwa [ident_ite hf, ident_ite hf]
  unique := by
    refine List.pairwise_map.mpr (t.unique.imp ?_)
    intro a b hab
    rwa [key_ite hf, key_ite hf]

section Modify

variable {t : Table ρ} {i : ℕ} {f : ρ → ρ} {hf : ∀ r, Row.key (f r) = Row.key r}

/-- The rows after a rewriting. -/
theorem mem_modify {r : ρ} :
    r ∈ t.modify i f hf ↔ ∃ r₀ ∈ t, r = if ident r₀ = i then f r₀ else r₀ := by
  simp only [mem_iff, modify, List.mem_map, eq_comm]

/-- A lookup after a rewriting. -/
theorem get_modify (j : ℕ) :
    (t.modify i f hf).get j = (t.get j).map fun r => if j = i then f r else r := by
  cases hget : t.get j with
  | none =>
      refine List.find?_eq_none.mpr fun r hr => ?_
      obtain ⟨r₀, hr₀, rfl⟩ := mem_modify.mp hr
      have hne : ident r₀ ≠ j := by simpa using List.find?_eq_none.mp hget r₀ hr₀
      simpa [ident_ite hf] using hne
  | some r =>
      obtain ⟨hr, rfl⟩ := get_eq_some_iff.mp hget
      exact get_eq_some_iff.mpr ⟨mem_modify.mpr ⟨r, hr, rfl⟩, ident_ite hf i r⟩

/-- A lookup after a rewriting, of the row that was rewritten. -/
theorem get_modify_self {r : ρ} (h : t.get i = some r) :
    (t.modify i f hf).get i = some (f r) := by
  rw [get_modify, h]
  simp

/-- A lookup after a rewriting, of another row. -/
theorem get_modify_of_ne {j : ℕ} (hne : j ≠ i) : (t.modify i f hf).get j = t.get j := by
  rw [get_modify]
  simp [hne]

/-- A row found after the rewriting was there before it. -/
theorem exists_of_get_modify (f : ρ → ρ) (hf : ∀ r, Row.key (f r) = Row.key r) {j : ℕ}
    {r : ρ} (h : (t.modify i f hf).get j = some r) :
    ∃ r₀, t.get j = some r₀ ∧ r = if j = i then f r₀ else r₀ := by
  rw [get_modify] at h
  obtain ⟨r₀, hget, hr⟩ := Option.map_eq_some_iff.mp h
  exact ⟨r₀, hget, hr.symm⟩

/-- A condition on columns the rewriting keeps selects the same rows, rewritten. -/
theorem filter_modify {q : ρ → Bool} (hq : ∀ r, q (f r) = q r) :
    (t.modify i f hf).rows.filter q =
      (t.rows.filter q).map fun r => if ident r = i then f r else r := by
  have hkeep : (q ∘ fun r => if ident r = i then f r else r) = q := by
    funext r
    show q (if ident r = i then f r else r) = q r
    split
    · exact hq r
    · rfl
  show (t.rows.map _).filter q = _
  rw [List.filter_map, hkeep]

/-- The keys of a table do not change. -/
theorem map_key_modify : (t.modify i f hf).rows.map Row.key = t.rows.map Row.key := by
  rw [modify, List.map_map]
  exact List.map_congr_left fun r _ => key_ite hf i r

/-- A stored row is rewritten. -/
theorem mem_modify_self (f : ρ → ρ) (hf : ∀ r, Row.key (f r) = Row.key r) {r : ρ}
    (hr : r ∈ t) : f r ∈ t.modify (ident r) f hf :=
  mem_modify.mpr ⟨r, hr, by rw [if_pos rfl]⟩

/-- Rewriting a row to itself changes nothing. -/
theorem modify_rows_eq_self (h : ∀ r, t.get i = some r → f r = r) :
    (t.modify i f hf).rows = t.rows := by
  refine (List.map_congr_left fun r hr => ?_).trans (List.map_id _)
  split
  · rename_i hi
    exact h r (get_eq_some_iff.mpr ⟨hr, hi⟩)
  · rfl

end Modify

/-- Rewrite the non-key columns of all rows that meet a condition. -/
def update (t : Table ρ) (q : ρ → Bool) (f : ρ → ρ) (hf : ∀ r, Row.key (f r) = Row.key r) :
    Table ρ where
  rows := t.rows.map fun r => if q r then f r else r
  next := t.next
  fresh := by
    intro r hr
    obtain ⟨r₀, hr₀, rfl⟩ := List.mem_map.mp hr
    have hkeep : ident (if q r₀ then f r₀ else r₀) = ident r₀ := by
      rw [ident, key_update hf, ident]
    rw [hkeep]
    exact t.fresh r₀ hr₀
  distinct := by
    refine List.pairwise_map.mpr (t.distinct.imp ?_)
    intro a b hab
    rwa [ident, key_update hf, ident, key_update hf]
  unique := by
    refine List.pairwise_map.mpr (t.unique.imp ?_)
    intro a b hab
    rwa [key_update hf, key_update hf]

/-- The rows after all of a kind were rewritten. -/
theorem mem_update {t : Table ρ} {q : ρ → Bool} {f : ρ → ρ}
    (hf : ∀ r, Row.key (f r) = Row.key r) {r : ρ} :
    r ∈ t.update q f hf ↔ ∃ r₀ ∈ t, r = if q r₀ then f r₀ else r₀ := by
  simp only [mem_iff, update, List.mem_map, eq_comm]

/-- Rewrite the row with primary key `i`, unique columns included, or refuse it because it
would clash with another row. -/
def replace (t : Table ρ) (i : ℕ) (f : ρ → ρ) (hf : ∀ r, ident (f r) = ident r) :
    Option (Table ρ) :=
  if h : ((t.rows.map fun r => if ident r = i then f r else r).Pairwise
      fun a b => ¬ Row.Clash (Row.key a) (Row.key b)) then
    some
      { rows := t.rows.map fun r => if ident r = i then f r else r
        next := t.next
        fresh := by
          intro r hr
          obtain ⟨r₀, hr₀, rfl⟩ := List.mem_map.mp hr
          have hident : ident (if ident r₀ = i then f r₀ else r₀) = ident r₀ := by
            split
            · exact hf r₀
            · rfl
          rw [hident]
          exact t.fresh r₀ hr₀
        distinct := by
          have hident : ∀ r, ident (if ident r = i then f r else r) = ident r := by
            intro r
            split
            · exact hf r
            · rfl
          refine List.pairwise_map.mpr (t.distinct.imp ?_)
          intro a b hab
          rwa [hident, hident]
        unique := h }
  else none

section Replace

variable {t t' : Table ρ} {i : ℕ} {f : ρ → ρ} {hf : ∀ r, ident (f r) = ident r}

/-- The rows after a replacement. -/
theorem replace_rows (h : t.replace i f hf = some t') :
    t'.rows = t.rows.map fun r => if ident r = i then f r else r := by
  unfold replace at h
  split at h
  · cases h
    rfl
  · cases h

/-- A row after a replacement is the rewriting of one before. -/
theorem mem_replace (h : t.replace i f hf = some t') {r : ρ} :
    r ∈ t' ↔ ∃ r₀ ∈ t, r = if ident r₀ = i then f r₀ else r₀ := by
  rw [mem_iff, replace_rows h]
  simp only [List.mem_map, eq_comm, mem_iff]

/-- A rewritten row that clashes with no other row is accepted. -/
theorem exists_replace (f : ρ → ρ) (hf : ∀ r, ident (f r) = ident r)
    (hsymm : ∀ a b : Row.Key ρ, Row.Clash a b → Row.Clash b a)
    (h : ∀ r ∈ t, ident r = i → ∀ r' ∈ t, ident r' ≠ i →
      ¬ Row.Clash (Row.key r') (Row.key (f r))) :
    ∃ t', t.replace i f hf = some t' := by
  have hunique : (t.rows.map fun r => if ident r = i then f r else r).Pairwise
      fun a b => ¬ Row.Clash (Row.key a) (Row.key b) := by
    refine List.pairwise_map.mpr ((t.distinct.and t.unique).imp_of_mem ?_)
    rintro a b ha hb ⟨hne, hclash⟩
    by_cases hida : ident a = i
    · have hidb : ident b ≠ i := fun hidb => hne (hida.trans hidb.symm)
      rw [if_pos hida, if_neg hidb]
      exact fun hsame => h a ha hida b hb hidb (hsymm _ _ hsame)
    · rw [if_neg hida]
      by_cases hidb : ident b = i
      · rw [if_pos hidb]
        exact h b hb hidb a ha hida
      · rw [if_neg hidb]
        exact hclash
  exact ⟨_, dif_pos hunique⟩

end Replace

/-! ### Queries

What a query returns depends on the rows that meet its condition, and on nothing else of the
table. -/

section Queries

variable {t t' : Table ρ} {q : ρ → Bool}

/-- The one row that meets a condition. -/
theorem find_congr {i : ℕ} (hq : ∀ r, q r = true → ident r = i)
    (h : ∀ r, q r = true → (r ∈ t ↔ r ∈ t')) : t.rows.find? q = t'.rows.find? q := by
  have hfind : ∀ {t t' : Table ρ}, (∀ r, q r = true → (r ∈ t ↔ r ∈ t')) → ∀ r,
      t.rows.find? q = some r → t'.rows.find? q = some r := by
    intro t t' h r hr
    have hmet : q r = true := List.find?_some hr
    have hstored : r ∈ t' := (h r hmet).mp (List.mem_of_find?_eq_some hr)
    cases hother : t'.rows.find? q with
    | none => exact absurd hmet (List.find?_eq_none.mp hother r hstored)
    | some r' =>
        have hmet' : q r' = true := List.find?_some hother
        have hstored' : r' ∈ t' := List.mem_of_find?_eq_some hother
        rw [eq_of_ident hstored' hstored ((hq r' hmet').trans (hq r hmet).symm)]
  refine Option.ext fun r => ⟨hfind h r, hfind (fun r hmet => (h r hmet).symm) r⟩

/-- `WHERE .. ORDER BY ..`. -/
def sorted (t : Table ρ) (q : ρ → Bool) (before : ρ → ρ → Bool) : List ρ :=
  (t.rows.filter q).mergeSort before

/-- An order that tells rows apart. -/
structure RowOrder (before : ρ → ρ → Bool) : Prop where
  trans : ∀ a b c, before a b = true → before b c = true → before a c = true
  total : ∀ a b, (before a b || before b a) = true
  antisymm : ∀ a b, before a b = true → before b a = true → ident a = ident b

/-- A query returns the rows that meet its condition. -/
theorem mem_sorted {before : ρ → ρ → Bool} {r : ρ} :
    r ∈ t.sorted q before ↔ r ∈ t ∧ q r = true := by
  rw [sorted, List.mem_mergeSort, List.mem_filter]
  exact Iff.rfl

/-- A query returns no row twice. -/
theorem sorted_nodup (t : Table ρ) (q : ρ → Bool) (before : ρ → ρ → Bool) :
    (t.sorted q before).Nodup := by
  have hdistinct : (t.rows.filter q).Nodup :=
    (t.distinct.filter q).imp fun hne hsame => hne (congrArg ident hsame)
  exact (List.mergeSort_perm _ _).nodup_iff.mpr hdistinct

/-- A query returns its rows in its order. -/
theorem pairwise_sorted (t : Table ρ) (q : ρ → Bool) {before : ρ → ρ → Bool}
    (hbefore : RowOrder before) :
    (t.sorted q before).Pairwise fun a b => before a b = true :=
  List.pairwise_mergeSort hbefore.trans hbefore.total _

/-- A list of the same rows in the same order is the sorted one. -/
theorem eq_sorted {before : ρ → ρ → Bool} (hbefore : RowOrder before) {rows : List ρ}
    (hnodup : rows.Nodup) (hpairwise : rows.Pairwise fun a b => before a b = true)
    (hmem : ∀ r, r ∈ rows ↔ r ∈ t ∧ q r = true) : rows = t.sorted q before := by
  have hsame : ∀ r, r ∈ rows ↔ r ∈ t.sorted q before := fun r => (hmem r).trans mem_sorted.symm
  refine List.Perm.eq_of_pairwise ?_ hpairwise (pairwise_sorted t q hbefore)
    ((List.perm_ext_iff_of_nodup hnodup (sorted_nodup t q before)).mpr hsame)
  intro a b ha hb hab hba
  exact eq_of_ident ((hmem a).mp ha).1 (mem_sorted.mp hb).1 (hbefore.antisymm a b hab hba)

/-- What it returns depends on these rows only. -/
theorem sorted_congr {before : ρ → ρ → Bool} (hbefore : RowOrder before)
    (h : ∀ r, q r = true → (r ∈ t ↔ r ∈ t')) : t.sorted q before = t'.sorted q before := by
  refine eq_sorted hbefore (sorted_nodup t q before) (pairwise_sorted t q hbefore) fun r => ?_
  rw [mem_sorted]
  exact and_congr_left (h r)

end Queries

/-! ### Totals over a table

Into any ordered commutative monoid; a count is a total of ones. -/

section Sum

variable {M : Type v} [AddCommMonoid M]

/-- The total of a weight over all rows. -/
def sum (t : Table ρ) (w : ρ → M) : M := (t.rows.map w).sum

/-- There is nothing to add up. -/
@[simp] theorem sum_empty (w : ρ → M) : (empty : Table ρ).sum w = 0 := by
  simp [sum, empty]

/-- A new row adds its weight. -/
theorem sum_insert {t t' : Table ρ} {mk : ℕ → ρ} {hmk : ∀ n, ident (mk n) = n}
    (h : t.insert mk hmk = some t') (w : ρ → M) :
    t'.sum w = t.sum w + w (mk t.next) := by
  simp [sum, insert_rows h]

/-- Rewriting a row exchanges its old weight for its new one. -/
theorem sum_modify {t : Table ρ} {i : ℕ} {f : ρ → ρ} {hf : ∀ r, Row.key (f r) = Row.key r}
    {r : ρ} (h : t.get i = some r) (w : ρ → M) :
    (t.modify i f hf).sum w + w r = t.sum w + w (f r) := by
  obtain ⟨hr, rfl⟩ := get_eq_some_iff.mp h
  obtain ⟨front, back, hsplit⟩ := List.append_of_mem hr
  have hdistinct := t.distinct
  rw [hsplit] at hdistinct
  have hfront : ∀ a ∈ front, ident a ≠ ident r := fun a ha =>
    (List.pairwise_append.mp hdistinct).2.2 a ha r List.mem_cons_self
  have hback : ∀ a ∈ back, ident a ≠ ident r := fun a ha =>
    Ne.symm ((List.pairwise_cons.mp (List.pairwise_append.mp hdistinct).2.1).1 a ha)
  have keep : ∀ l : List ρ, (∀ a ∈ l, ident a ≠ ident r) →
      (l.map fun a => w (if ident a = ident r then f a else a)) = l.map w := fun l hl =>
    List.map_congr_left fun a ha => by rw [if_neg (hl a ha)]
  simp only [sum, modify, hsplit, List.map_append, List.map_cons, List.map_map,
    Function.comp_def, List.sum_append, List.sum_cons, keep front hfront, keep back hback,
    if_true]
  abel

end Sum

section Order

variable {M : Type v} [AddCommMonoid M] [PartialOrder M] [IsOrderedAddMonoid M]

/-- A total over the same rows is monotone in the weight. -/
theorem sum_le_sum {t : Table ρ} {w w' : ρ → M} (h : ∀ r ∈ t, w r ≤ w' r) :
    t.sum w ≤ t.sum w' :=
  List.sum_le_sum h

/-- Weights that are not negative have a total that is not. -/
theorem sum_nonneg {t : Table ρ} {w : ρ → M} (h : ∀ r ∈ t, 0 ≤ w r) : 0 ≤ t.sum w := by
  refine List.sum_nonneg fun x hx => ?_
  obtain ⟨r, hr, rfl⟩ := List.mem_map.mp hx
  exact h r hr

/-- Rewriting a row to a weight that is not larger does not raise the total. -/
theorem sum_modify_le {t : Table ρ} {i : ℕ} {f : ρ → ρ}
    {hf : ∀ r, Row.key (f r) = Row.key r} {w : ρ → M}
    (h : ∀ r, t.get i = some r → w (f r) ≤ w r) : (t.modify i f hf).sum w ≤ t.sum w := by
  simp only [sum, modify, List.map_map]
  refine List.sum_le_sum fun r hr => ?_
  show w (if ident r = i then f r else r) ≤ w r
  split
  · rename_i hi
    exact h r (get_eq_some_iff.mpr ⟨hr, hi⟩)
  · exact le_rfl

/-- Rewriting a row to a weight that is not smaller does not lower the total. -/
theorem le_sum_modify {t : Table ρ} {i : ℕ} {f : ρ → ρ}
    {hf : ∀ r, Row.key (f r) = Row.key r} {w : ρ → M}
    (h : ∀ r, t.get i = some r → w r ≤ w (f r)) : t.sum w ≤ (t.modify i f hf).sum w := by
  simp only [sum, modify, List.map_map]
  refine List.sum_le_sum fun r hr => ?_
  show w r ≤ w (if ident r = i then f r else r)
  split
  · rename_i hi
    exact h r (get_eq_some_iff.mpr ⟨hr, hi⟩)
  · exact le_rfl

end Order

end Table

/-! ## The first row of a sorted query

`ORDER BY .. LIMIT 1`: rows that the order does not tell apart come as they are stored.
-/

/-- The first row in the order `before`. -/
def firstBy {α : Type u} (before : α → α → Bool) : List α → Option α
  | [] => none
  | a :: rest =>
      match firstBy before rest with
      | none => some a
      | some b => if before a b then some a else some b

/-- The first row is one of the rows. -/
theorem mem_of_firstBy {α : Type u} {before : α → α → Bool} {l : List α} {a : α}
    (h : firstBy before l = some a) : a ∈ l := by
  induction l generalizing a with
  | nil => cases h
  | cons head rest ih =>
      simp only [firstBy] at h
      split at h
      · cases h
        exact List.mem_cons_self
      · rename_i b hb
        split at h
        · cases h
          exact List.mem_cons_self
        · cases h
          exact List.mem_cons_of_mem _ (ih hb)

/-- A row as a session loaded it, and as the session's copy now stands. -/
structure Dirty (ρ : Type u) where
  loaded : ρ
  current : ρ

/-- The stored value of one column after the write-back. -/
def written {α : Type u} [DecidableEq α] (loaded current stored : α) : α :=
  if current = loaded then stored else current

section Written

variable {α : Type u} [DecidableEq α]

/-- Nobody interfered: the session's value is stored. -/
@[simp] theorem written_loaded (loaded current : α) : written loaded current loaded = current := by
  unfold written
  split
  · rename_i h
    exact h.symm
  · rfl

/-- An untouched column keeps whatever is stored. -/
@[simp] theorem written_self (loaded stored : α) : written loaded loaded stored = stored := by
  simp [written]

/-- A changed column is written. -/
theorem written_of_ne {loaded current : α} (h : current ≠ loaded) (stored : α) :
    written loaded current stored = current := by
  simp [written, h]

/-- A column has the stored value afterwards, or the session's. -/
theorem written_eq_or (loaded current stored : α) :
    written loaded current stored = stored ∨ written loaded current stored = current := by
  unfold written
  split
  · exact Or.inl rfl
  · exact Or.inr rfl

end Written

end Relational
