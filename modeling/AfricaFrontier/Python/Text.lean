import AfricaFrontier.Python.Json
import Mathlib.Data.List.DropRight
import Mathlib.Data.List.TakeWhile

/-!
# Cleaning texts

How `str.strip` acts together with `str.lower` and `str.upper`: all are idempotent, stripping
commutes with both, and a text whose lower case has no surrounding white space has none itself.

The order is the one of the operations: a character in lower case, a character in upper case, and
then the texts, to which `map_strip` carries what was said of characters.
-/

namespace Python

/-- The code points of capital letters. -/
theorem range_of_isUpper {c : Char} (h : c.isUpper = true) : 65 ≤ c.toNat ∧ c.toNat ≤ 90 := by
  obtain ⟨hlow, hhigh⟩ := of_decide_eq_true h
  exact ⟨UInt32.le_iff_toNat_le.mp hlow, UInt32.le_iff_toNat_le.mp hhigh⟩

/-- Other characters have no other lower case. -/
theorem toLower_of_not_isUpper {c : Char} (h : ¬ c.isUpper = true) : c.toLower = c :=
  dif_neg fun hrange => h (decide_eq_true hrange)

/-- Capital letters have a lower case 32 further on. -/
theorem toNat_toLower {c : Char} (h : c.isUpper = true) : c.toLower.toNat = c.toNat + 32 := by
  have hrange := range_of_isUpper h
  have hval : c.toLower.val = c.val + ('a'.val - 'A'.val) :=
    congrArg Char.val (dif_pos (of_decide_eq_true h))
  have hnat : c.val.toNat = c.toNat := rfl
  rw [← Char.toNat_val, hval, UInt32.toNat_add, hnat]
  have hshift : ('a'.val - 'A'.val : UInt32).toNat = 32 := rfl
  omega

/-- Lower case is idempotent, on characters. -/
theorem toLower_toLower (c : Char) : c.toLower.toLower = c.toLower := by
  by_cases hupper : c.isUpper = true
  · refine toLower_of_not_isUpper fun hagain => ?_
    have hrange := range_of_isUpper hupper
    have hrange' := range_of_isUpper hagain
    rw [toNat_toLower hupper] at hrange'
    omega
  · rw [toLower_of_not_isUpper hupper, toLower_of_not_isUpper hupper]

/-- Letters are no white space, in either case. -/
theorem isSpace_of_letter {c : Char} (hlow : 65 ≤ c.toNat) (hhigh : c.toNat ≤ 122) :
    isSpace c = false := by
  simp only [isSpace, List.mem_cons, List.not_mem_nil, or_false, decide_eq_false_iff_not]
  omega

/-- Lower case makes no space and takes none away. -/
theorem isSpace_toLower (c : Char) : isSpace c.toLower = isSpace c := by
  by_cases hupper : c.isUpper = true
  · have hrange := range_of_isUpper hupper
    have hlower := toNat_toLower hupper
    rw [isSpace_of_letter (c := c) (by omega) (by omega),
      isSpace_of_letter (c := c.toLower) (by omega) (by omega)]
  · rw [toLower_of_not_isUpper hupper]

/-- The lower case letters of ASCII. -/
def SmallLetter (c : Char) : Prop := 'a'.val ≤ c.val ∧ c.val ≤ 'z'.val

/-- The code points of small letters. -/
theorem range_of_small {c : Char} (h : SmallLetter c) : 97 ≤ c.toNat ∧ c.toNat ≤ 122 :=
  ⟨UInt32.le_iff_toNat_le.mp h.1, UInt32.le_iff_toNat_le.mp h.2⟩

/-- Other characters have no other upper case among the letters. -/
theorem toUpper_of_not_small {c : Char} (h : ¬ SmallLetter c) : c.toUpper = c :=
  dif_neg h

/-- Small letters have an upper case 32 before. -/
theorem toNat_toUpper {c : Char} (h : SmallLetter c) : c.toUpper.toNat + 32 = c.toNat := by
  have hrange := range_of_small h
  have hval : c.toUpper.val = c.val + ('A'.val - 'a'.val) := by
    have hpair : 'a'.val ≤ c.val ∧ c.val ≤ 'z'.val := h
    unfold Char.toUpper
    rw [dif_pos hpair]
  have hshift : ('A'.val - 'a'.val : UInt32).toNat = 4294967264 := by decide
  have hnat : c.val.toNat = c.toNat := rfl
  rw [← Char.toNat_val, hval, UInt32.toNat_add, hnat, hshift]
  omega

/-- A character is its own upper case, or the upper case is a letter from A to Z. -/
theorem upperChar_cases (c : Char) :
    upperChar c = c ∨
      isSpace c = false ∧ 65 ≤ (upperChar c).toNat ∧ (upperChar c).toNat ≤ 90 := by
  unfold upperChar
  split
  · rename_i hdotless
    subst hdotless
    exact Or.inr (by decide)
  · split
    · rename_i hlong
      subst hlong
      exact Or.inr (by decide)
    · by_cases hsmall : SmallLetter c
      · have hrange := range_of_small hsmall
        have hupper := toNat_toUpper hsmall
        exact Or.inr ⟨isSpace_of_letter (by omega) (by omega), by omega, by omega⟩
      · exact Or.inl (toUpper_of_not_small hsmall)

/-- Upper case is idempotent, on characters. -/
theorem upperChar_upperChar (c : Char) : upperChar (upperChar c) = upperChar c := by
  rcases upperChar_cases c with hsame | ⟨-, hlow, hhigh⟩
  · rw [hsame, hsame]
  · -- a letter from A to Z is its own upper case
    have hdotless : upperChar c ≠ Char.ofNat 0x131 := by
      intro hsame
      rw [hsame] at hhigh
      exact absurd hhigh (by decide)
    have hlong : upperChar c ≠ Char.ofNat 0x17f := by
      intro hsame
      rw [hsame] at hhigh
      exact absurd hhigh (by decide)
    have hsmall : ¬ SmallLetter (upperChar c) := by
      intro hsmall
      have hrange := range_of_small hsmall
      omega
    have hup : upperChar (upperChar c) = (upperChar c).toUpper := by
      rw [upperChar, if_neg hdotless, if_neg hlong]
    rw [hup, toUpper_of_not_small hsmall]

/-- Upper case makes no space and takes none away. -/
theorem isSpace_upperChar (c : Char) : isSpace (upperChar c) = isSpace c := by
  rcases upperChar_cases c with hsame | ⟨hspace, hlow, hhigh⟩
  · rw [hsame]
  · rw [hspace, isSpace_of_letter hlow (by omega)]

/-- The characters `strip` leaves. -/
theorem strip_toList (s : String) :
    (strip s).toList = List.rdropWhile isSpace (s.toList.dropWhile isSpace) := by
  rw [strip, String.toList_ofList, List.rdropWhile]

/-- Lower case goes by characters. -/
theorem lower_toList (s : String) : (lower s).toList = s.toList.map Char.toLower := by
  rw [lower, String.toList_ofList]

/-- Lower case is idempotent. -/
@[simp] theorem lower_lower (s : String) : lower (lower s) = lower s := by
  apply String.toList_injective
  rw [lower_toList, lower_toList, List.map_map]
  exact congrArg (s.toList.map ·) (funext toLower_toLower)

/-- Stripping is idempotent. -/
@[simp] theorem strip_strip (s : String) : strip (strip s) = strip s := by
  apply String.toList_injective
  simp only [strip_toList]
  generalize hm : s.toList.dropWhile isSpace = m
  have hhead : m.dropWhile isSpace = m := by
    rw [← hm]
    exact List.dropWhile_idempotent isSpace s.toList
  -- what is left of `m` still begins with the head of `m`
  have hkept : (List.rdropWhile isSpace m).dropWhile isSpace = List.rdropWhile isSpace m := by
    rw [List.dropWhile_eq_self_iff] at hhead ⊢
    intro hpos
    have hfront : List.rdropWhile isSpace m <+: m := List.rdropWhile_prefix isSpace m
    have hlength := hfront.length_le
    rw [hfront.getElem hpos]
    exact hhead (by omega)
  rw [hkept, List.rdropWhile_idempotent]

/-- Stripping commutes with a change of the characters that keeps the white space. -/
theorem map_strip {f : Char → Char} (hf : ∀ c, isSpace (f c) = isSpace c) (s : String) :
    String.ofList ((strip s).toList.map f) = strip (String.ofList (s.toList.map f)) := by
  have hspace : isSpace ∘ f = isSpace := funext hf
  apply String.toList_injective
  simp only [strip_toList, String.toList_ofList, List.rdropWhile, List.dropWhile_map,
    hspace, ← List.map_reverse]

/-- Stripping commutes with lower case. -/
theorem lower_strip (s : String) : lower (strip s) = strip (lower s) :=
  map_strip isSpace_toLower s

/-- Stripping commutes with upper case. -/
theorem upper_strip (s : String) : upper (strip s) = strip (upper s) :=
  map_strip isSpace_upperChar s

/-- Upper case is idempotent. -/
@[simp] theorem upper_upper (s : String) : upper (upper s) = upper s := by
  apply String.toList_injective
  simp only [upper, String.toList_ofList, List.map_map]
  exact congrArg (s.toList.map ·) (funext upperChar_upperChar)

/-- A text whose lower case is stripped is stripped. -/
theorem strip_eq_self_of_lower {s : String} (h : strip (lower s) = lower s) : strip s = s := by
  apply String.toList_injective
  have hlength : (strip s).toList.length = s.toList.length := by
    have hlower := congrArg (fun t : String => t.toList.length) ((lower_strip s).trans h)
    simpa only [lower_toList, List.length_map] using hlower
  have hsublist : (strip s).toList.Sublist s.toList := by
    rw [strip_toList]
    exact (List.rdropWhile_prefix isSpace _).sublist.trans (List.dropWhile_sublist isSpace)
  exact hsublist.eq_of_length hlength

end Python
