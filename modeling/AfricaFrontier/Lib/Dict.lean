import Mathlib.Data.List.Induction
import Mathlib.Data.List.Nodup
import Mathlib.Data.List.Perm.Basic

/-!
# Dictionaries in the order of insertion

A dictionary as a list of entries, in which an assignment to a key that is there replaces the
value and keeps the place.  After a sequence of assignments the dictionary holds, in some order,
the assignments that no later one overwrites (`ofList_perm`); these and the overwritten ones are
all there were (`kept_append_overwritten_perm`).

The pairs of a loop that assigns are the input, and the dictionary is compared with them and not
with a final state: a sum over the dictionary is then the sum over all pairs, less that over the
ones that were overwritten.
-/

namespace Dict

universe u v

variable {κ : Type u} {ν : Type v} [DecidableEq κ]

/-- Assign a value to a key. -/
def set (key : κ) (value : ν) : List (κ × ν) → List (κ × ν)
  | [] => [(key, value)]
  | entry :: rest =>
      if entry.1 = key then (key, value) :: rest else entry :: set key value rest

/-- The dictionary after a sequence of assignments. -/
def ofList (entries : List (κ × ν)) : List (κ × ν) :=
  entries.foldl (fun dict entry => set entry.1 entry.2 dict) []

/-- The assignments that no later one overwrites. -/
def kept : List (κ × ν) → List (κ × ν)
  | [] => []
  | entry :: rest => if entry.1 ∈ rest.map Prod.fst then kept rest else entry :: kept rest

/-- The assignments that a later one overwrites. -/
def overwritten : List (κ × ν) → List (κ × ν)
  | [] => []
  | entry :: rest =>
      if entry.1 ∈ rest.map Prod.fst then entry :: overwritten rest else overwritten rest

section Set

variable {key : κ} {value : ν} {dict entries : List (κ × ν)} {entry : κ × ν}

/-- The keys after an assignment. -/
theorem keys_set : (set key value dict).map Prod.fst =
    if key ∈ dict.map Prod.fst then dict.map Prod.fst else dict.map Prod.fst ++ [key] := by
  induction dict with
  | nil => rfl
  | cons first rest ih =>
      rw [set]
      by_cases hfirst : first.1 = key
      · rw [if_pos hfirst, List.map_cons, List.map_cons, hfirst, if_pos List.mem_cons_self]
      · rw [if_neg hfirst, List.map_cons, ih, List.map_cons]
        by_cases hrest : key ∈ rest.map Prod.fst
        · rw [if_pos hrest, if_pos (List.mem_cons_of_mem _ hrest)]
        · have hnone : key ∉ first.1 :: rest.map Prod.fst := by
            rw [List.mem_cons, not_or]
            exact ⟨Ne.symm hfirst, hrest⟩
          rw [if_neg hrest, if_neg hnone, List.cons_append]

/-- An assignment leaves the keys of a dict different. -/
theorem nodup_set (h : (dict.map Prod.fst).Nodup) :
    ((set key value dict).map Prod.fst).Nodup := by
  rw [keys_set]
  split
  · exact h
  · rename_i hnew
    exact List.Nodup.append h (List.nodup_singleton key)
      (List.disjoint_singleton.mpr hnew)

/-- An assignment replaces what was under the key. -/
theorem set_perm (h : (dict.map Prod.fst).Nodup) :
    (set key value dict).Perm
      (dict.filter (fun entry => decide (entry.1 ≠ key)) ++ [(key, value)]) := by
  induction dict with
  | nil => exact List.Perm.refl _
  | cons first rest ih =>
      rw [List.map_cons, List.nodup_cons] at h
      rw [set]
      by_cases hfirst : first.1 = key
      · -- no other entry has the key
        have hrest : rest.filter (fun entry => decide (entry.1 ≠ key)) = rest := by
          refine List.filter_eq_self.mpr fun entry hentry => decide_eq_true ?_
          rintro rfl
          exact h.1 (hfirst ▸ List.mem_map_of_mem hentry)
        rw [if_pos hfirst, List.filter_cons_of_neg (by simpa using hfirst), hrest]
        exact (List.perm_append_singleton _ _).symm
      · rw [if_neg hfirst, List.filter_cons_of_pos (by simpa using hfirst), List.cons_append]
        exact (ih h.2).cons first

end Set

section Sequence

variable {entries : List (κ × ν)} {entry : κ × ν}

/-- A further assignment comes last. -/
theorem ofList_append (entries : List (κ × ν)) (entry : κ × ν) :
    ofList (entries ++ [entry]) = set entry.1 entry.2 (ofList entries) := by
  rw [ofList, List.foldl_append]
  rfl

/-- The keys of a dict that is built by assignments differ. -/
theorem nodup_ofList (entries : List (κ × ν)) : ((ofList entries).map Prod.fst).Nodup := by
  induction entries using List.reverseRecOn with
  | nil => exact List.nodup_nil
  | append_singleton entries entry ih =>
      rw [ofList_append]
      exact nodup_set ih

/-- A further assignment is kept, and those to its key are not any more. -/
theorem kept_append (entries : List (κ × ν)) (entry : κ × ν) :
    kept (entries ++ [entry]) =
      (kept entries).filter (fun e => decide (e.1 ≠ entry.1)) ++ [entry] := by
  induction entries with
  | nil => rfl
  | cons first rest ih =>
      have hlater : first.1 ∈ (rest ++ [entry]).map Prod.fst ↔
          first.1 ∈ rest.map Prod.fst ∨ first.1 = entry.1 := by
        rw [List.map_append, List.mem_append, List.map_singleton, List.mem_singleton]
      rw [List.cons_append, kept, kept]
      by_cases hrest : first.1 ∈ rest.map Prod.fst
      · rw [if_pos (hlater.mpr (Or.inl hrest)), if_pos hrest, ih]
      · rw [if_neg hrest]
        by_cases hkey : first.1 = entry.1
        · rw [if_pos (hlater.mpr (Or.inr hkey)), ih,
            List.filter_cons_of_neg (by simpa using hkey)]
        · have hnone : ¬ first.1 ∈ (rest ++ [entry]).map Prod.fst :=
            fun hin => (hlater.mp hin).elim hrest hkey
          rw [if_neg hnone, ih, List.filter_cons_of_pos (by simpa using hkey), List.cons_append]

/-- **The dictionary holds the assignments that are kept.** -/
theorem ofList_perm (entries : List (κ × ν)) : (ofList entries).Perm (kept entries) := by
  induction entries using List.reverseRecOn with
  | nil => exact List.Perm.refl _
  | append_singleton entries entry ih =>
      rw [ofList_append, kept_append]
      exact (set_perm (nodup_ofList entries)).trans ((ih.filter _).append_right _)

/-- Every assignment is kept or overwritten. -/
theorem kept_append_overwritten_perm (entries : List (κ × ν)) :
    (kept entries ++ overwritten entries).Perm entries := by
  induction entries with
  | nil => exact List.Perm.refl _
  | cons first rest ih =>
      rw [kept, overwritten]
      split
      · exact List.perm_middle.trans (ih.cons first)
      · exact ih.cons first

/-- What is kept has no later assignment to its key. -/
theorem mem_kept_iff : entry ∈ kept entries ↔
    ∃ front back, entries = front ++ entry :: back ∧ entry.1 ∉ back.map Prod.fst := by
  induction entries with
  | nil =>
      refine iff_of_false List.not_mem_nil ?_
      rintro ⟨front, back, hsplit, -⟩
      exact List.append_ne_nil_of_right_ne_nil front (List.cons_ne_nil _ _) hsplit.symm
  | cons first rest ih =>
      rw [kept]
      constructor
      · intro h
        -- a key that comes again is kept at its last place
        by_cases hlater : first.1 ∈ rest.map Prod.fst
        · rw [if_pos hlater] at h
          obtain ⟨front, back, hsplit, hlast⟩ := ih.mp h
          exact ⟨first :: front, back, congrArg (first :: ·) hsplit, hlast⟩
        · rw [if_neg hlater] at h
          rcases List.mem_cons.mp h with rfl | h
          · exact ⟨[], rest, rfl, hlater⟩
          · obtain ⟨front, back, hsplit, hlast⟩ := ih.mp h
            exact ⟨first :: front, back, congrArg (first :: ·) hsplit, hlast⟩
      · rintro ⟨front, back, hsplit, hlast⟩
        cases front with
        | nil =>
            obtain ⟨rfl, rfl⟩ := List.cons.inj hsplit
            rw [if_neg hlast]
            exact List.mem_cons_self
        | cons front₀ front =>
            obtain ⟨rfl, rfl⟩ := List.cons.inj hsplit
            have hrest := ih.mpr ⟨front, back, rfl, hlast⟩
            split
            · exact hrest
            · exact List.mem_cons_of_mem _ hrest

/-- Some assignment to every key is kept. -/
theorem exists_kept {key : κ} (h : key ∈ entries.map Prod.fst) :
    ∃ entry ∈ kept entries, entry.1 = key := by
  induction entries with
  | nil => cases h
  | cons first rest ih =>
      rw [kept]
      by_cases hlater : first.1 ∈ rest.map Prod.fst
      · rw [if_pos hlater]
        rcases List.mem_cons.mp h with hfirst | hrest
        · exact ih (hfirst ▸ hlater)
        · exact ih hrest
      · rw [if_neg hlater]
        rcases List.mem_cons.mp h with hfirst | hrest
        · exact ⟨first, List.mem_cons_self, hfirst.symm⟩
        · obtain ⟨entry, hentry, hkey⟩ := ih hrest
          exact ⟨entry, List.mem_cons_of_mem _ hentry, hkey⟩

/-- Where no key comes twice nothing is overwritten. -/
theorem overwritten_eq_nil (h : (entries.map Prod.fst).Nodup) : overwritten entries = [] := by
  induction entries with
  | nil => rfl
  | cons first rest ih =>
      rw [List.map_cons, List.nodup_cons] at h
      rw [overwritten, if_neg h.1, ih h.2]

end Sequence

end Dict
