import Mathlib.Data.List.Basic

/-!
# Texts cut after a tail

A text followed by a tail of fixed length — a digest, say — and then cut to a fixed
length.  The tail is only known to consist of letters of an alphabet, so the question
which texts *can* come out the same is about the heads alone, and this module answers it.

* `FilledBy` says of one cut text that it is a head with some tail behind it
  (`filledBy_iff`).
* `Overlap` says of two heads that some two different tails make them one text
  (`overlap_iff`): the heads are the same and the cut takes a part of the tail, or one
  head fills the cut alone and is the other one with letters of the alphabet behind it.

Heads end in a separator that is not in the alphabet.  That is what keeps two heads of
different lengths apart as long as both separators survive the cut.
-/

namespace CutTail

universe u

variable {α : Type u} (q : α → Bool) (k n : ℕ)

/-- A tail: `k` letters of the alphabet `q`. -/
structure Tail (h : List α) : Prop where
  length : h.length = k
  letters : ∀ a ∈ h, q a = true

/-- `p` looks like `s` and a tail, cut to `n` letters. -/
structure FilledBy (s p : List α) : Prop where
  length : p.length = min n (s.length + k)
  head : s.take n <+: p
  rest : ∀ a ∈ p.drop s.length, q a = true

/-- Two heads some two different tails make one text of. -/
inductive Overlap (s s' : List α) : Prop
  | same (hs : s = s') (hcut : n < s.length + k)
  | right (hlong : n ≤ s'.length) (h : FilledBy q k n s (s'.take n))
  | left (hlong : n ≤ s.length) (h : FilledBy q k n s' (s.take n))

variable {q k n} {s s' p h h' : List α}

/-- The same letter, as often as needed. -/
theorem Tail.replicate {a : α} (ha : q a = true) : Tail q k (List.replicate k a) where
  length := List.length_replicate
  letters b hb := by rwa [List.eq_of_mem_replicate hb]

/-- There is another tail. -/
theorem Tail.exists_ne {a b : α} (ha : q a = true) (hb : q b = true) (hab : a ≠ b) (hk : 0 < k)
    (h : List α) : ∃ h', Tail q k h' ∧ h ≠ h' := by
  by_cases hsame : h = List.replicate k a
  · refine ⟨List.replicate k b, .replicate hb, ?_⟩
    rw [hsame]
    intro heq
    exact hab (List.replicate_right_injective (Nat.ne_of_gt hk) heq)
  · exact ⟨List.replicate k a, .replicate ha, hsame⟩

/-! ## One text

The cut leaves the whole of a short head, and the beginning of a tail. -/

/-- A head with a tail behind it, cut, is filled by the head. -/
theorem Tail.filledBy (hh : Tail q k h) (s : List α) : FilledBy q k n s ((s ++ h).take n) where
  length := by rw [List.length_take, List.length_append, hh.length]
  head := ⟨h.take (n - s.length), List.take_append.symm⟩
  rest a ha := by
    rw [List.drop_take, List.drop_left] at ha
    exact hh.letters a (List.mem_of_mem_take ha)

/-- What looks like a head with a tail is one. -/
theorem FilledBy.exists_tail {pad : α} (hpad : q pad = true) (hp : FilledBy q k n s p) :
    ∃ h, Tail q k h ∧ (s ++ h).take n = p := by
  obtain ⟨r, hr⟩ := hp.head
  have hlen : p.length = min n (s.length + k) := hp.length
  have hparts := congrArg List.length hr
  rw [List.length_append, List.length_take] at hparts
  by_cases hlong : n ≤ s.length
  · -- the head fills the cut: any tail will do
    have hnil : r = [] := List.eq_nil_of_length_eq_zero (by omega)
    rw [hnil, List.append_nil] at hr
    exact ⟨List.replicate k pad, .replicate hpad, by rw [List.take_append_of_le_length hlong, hr]⟩
  · have hshort : s.length ≤ n := by omega
    rw [List.take_of_length_le hshort] at hr
    have hdrop : p.drop s.length = r := by rw [← hr, List.drop_left]
    refine ⟨r ++ List.replicate (k - r.length) pad, ⟨?_, ?_⟩, ?_⟩
    · rw [List.length_append, List.length_replicate]
      omega
    · intro a ha
      rcases List.mem_append.mp ha with hmem | hmem
      · exact hp.rest a (hdrop ▸ hmem)
      · rwa [List.eq_of_mem_replicate hmem]
    · -- the padding is beyond the cut, unless the text ends before it
      rw [← List.append_assoc, hr]
      by_cases hfull : p.length = n
      · rw [List.take_append_of_le_length (by omega), List.take_of_length_le (by omega)]
      · have hnone : k - r.length = 0 := by omega
        rw [hnone, List.replicate_zero, List.append_nil, List.take_of_length_le (by omega)]

/-- **Which texts a head can come out as.** -/
theorem filledBy_iff {pad : α} (hpad : q pad = true) :
    FilledBy q k n s p ↔ ∃ h, Tail q k h ∧ (s ++ h).take n = p := by
  constructor
  · exact FilledBy.exists_tail hpad
  · rintro ⟨h, hh, rfl⟩
    exact hh.filledBy s

/-! ## Two texts

The cases are on whether the cut comes before, in or after the shorter head's tail. -/

/-- A head that does not reach the cut stays whole. -/
theorem take_head (hshort : s.length ≤ n) (h : List α) :
    (s ++ h).take n = s ++ h.take (n - s.length) := by
  rw [List.take_append, List.take_of_length_le hshort]

/-- Two heads that end in a separator, the longer of which does not reach the cut, come
out the same only if they are the same and the cut takes a part of the tails. -/
theorem same_of_short {sep : α} (hsep : q sep = false) (hs' : s'.getLast? = some sep)
    (hh : Tail q k h) (hh' : Tail q k h') (hne : h ≠ h') (hle : s.length ≤ s'.length)
    (hshort : s'.length < n) (hsame : (s ++ h).take n = (s' ++ h').take n) :
    s = s' ∧ n < s.length + k := by
  have hpos : 0 < s'.length := List.length_pos_iff.mpr fun hnil => by
    rw [hnil] at hs'
    cases hs'
  have heq : s.length = s'.length := by
    by_contra hlt
    -- the separator of the longer head stands among the letters of the other's tail
    have hget := congrArg (fun l => l[s'.length - 1]?) hsame
    simp only [List.getElem?_take] at hget
    rw [if_pos (by omega), if_pos (by omega), List.getElem?_append_right (by omega),
      List.getElem?_append_left (by omega), ← List.getLast?_eq_getElem?, hs'] at hget
    have hmem := hh.letters sep (List.mem_of_getElem? hget)
    rw [hsep] at hmem
    cases hmem
  rw [take_head (by omega), take_head (by omega)] at hsame
  obtain ⟨hheads, htails⟩ := List.append_inj hsame heq
  refine ⟨hheads, ?_⟩
  by_contra hfit
  have hlen := hh.length
  have hlen' := hh'.length
  have hwhole : h.take (n - s.length) = h := List.take_of_length_le (by omega)
  have hwhole' : h'.take (n - s'.length) = h' := List.take_of_length_le (by omega)
  rw [hwhole, hwhole'] at htails
  exact hne htails

/-- In either order. -/
theorem Overlap.symm (ho : Overlap q k n s s') : Overlap q k n s' s := by
  cases ho with
  | same hs hcut => exact .same hs.symm (hs ▸ hcut)
  | right hlong hfill => exact .left hlong hfill
  | left hlong hfill => exact .right hlong hfill

/-- Heads that came out the same overlap. -/
theorem Overlap.of_eq {sep : α} (hsep : q sep = false) (hs : s.getLast? = some sep)
    (hs' : s'.getLast? = some sep) (hh : Tail q k h) (hh' : Tail q k h') (hne : h ≠ h')
    (hsame : (s ++ h).take n = (s' ++ h').take n) : Overlap q k n s s' := by
  by_cases hlong' : n ≤ s'.length
  · refine .right hlong' ?_
    rw [List.take_append_of_le_length hlong'] at hsame
    exact hsame ▸ hh.filledBy s
  · by_cases hlong : n ≤ s.length
    · refine .left hlong ?_
      rw [List.take_append_of_le_length hlong] at hsame
      exact hsame.symm ▸ hh'.filledBy s'
    · rcases Nat.le_total s.length s'.length with hle | hle
      · obtain ⟨heq, hcut⟩ := same_of_short hsep hs' hh hh' hne hle (by omega) hsame
        exact .same heq hcut
      · obtain ⟨heq, hcut⟩ :=
          same_of_short hsep hs hh' hh hne.symm hle (by omega) hsame.symm
        exact .same heq.symm (heq ▸ hcut)

/-- Heads that overlap come out the same with suitable tails. -/
theorem Overlap.exists_tails {a b : α} (ha : q a = true) (hb : q b = true) (hab : a ≠ b)
    (hk : 0 < k) (ho : Overlap q k n s s') :
    ∃ h h', Tail q k h ∧ Tail q k h' ∧ h ≠ h' ∧ (s ++ h).take n = (s' ++ h').take n := by
  cases ho with
  | same hs hcut =>
      -- two tails that differ in their last letter only
      subst hs
      refine ⟨List.replicate k a, List.replicate (k - 1) a ++ [b], .replicate ha, ⟨?_, ?_⟩, ?_, ?_⟩
      · rw [List.length_append, List.length_replicate, List.length_singleton]
        omega
      · intro c hc
        rcases List.mem_append.mp hc with hmem | hmem
        · rwa [List.eq_of_mem_replicate hmem]
        · rwa [List.mem_singleton.mp hmem]
      · intro heq
        have hmem : b ∈ List.replicate k a := by
          rw [heq]
          exact List.mem_append_right _ (List.mem_singleton_self b)
        exact hab (List.eq_of_mem_replicate hmem).symm
      · have hcut' : n - s.length ≤ k - 1 := by omega
        rw [List.take_append, List.take_append, List.take_append_of_le_length
          (by rw [List.length_replicate]; exact hcut'), List.take_replicate, List.take_replicate]
        have : min (n - s.length) k = min (n - s.length) (k - 1) := by omega
        rw [this]
  | right hlong hfill =>
      obtain ⟨h, hh, heq⟩ := hfill.exists_tail ha
      obtain ⟨h', hh', hne⟩ := Tail.exists_ne ha hb hab hk h
      exact ⟨h, h', hh, hh', hne, by rw [heq, List.take_append_of_le_length hlong]⟩
  | left hlong hfill =>
      obtain ⟨h', hh', heq⟩ := hfill.exists_tail ha
      obtain ⟨h, hh, hne⟩ := Tail.exists_ne ha hb hab hk h'
      exact ⟨h, h', hh, hh', hne.symm, by rw [heq, List.take_append_of_le_length hlong]⟩

/-- **Which heads can come out the same.** -/
theorem overlap_iff {a b sep : α} (ha : q a = true) (hb : q b = true) (hab : a ≠ b) (hk : 0 < k)
    (hsep : q sep = false) (hs : s.getLast? = some sep) (hs' : s'.getLast? = some sep) :
    Overlap q k n s s' ↔
      ∃ h h', Tail q k h ∧ Tail q k h' ∧ h ≠ h' ∧ (s ++ h).take n = (s' ++ h').take n := by
  constructor
  · exact Overlap.exists_tails ha hb hab hk
  · rintro ⟨h, h', hh, hh', hne, hsame⟩
    exact .of_eq hsep hs hs' hh hh' hne hsame

end CutTail
