import AfricaFrontier.Python.Json
import Mathlib.Data.List.Infix

/-!
# Texts within texts

`part in text`, `text.split()` and `text.split(separator)`.

The upper case of a text is that of its characters, each of which becomes one or more
characters (`CaseTables`).  It turns a letter into no space, so that the words of a text in
upper case are its words in upper case (`words_upper`).
-/

namespace Python

/-- `part in text`. -/
def contains (text part : String) : Bool := decide (part.toList <:+: text.toList)

/-- The empty text is in every text. -/
@[simp] theorem contains_empty (text : String) : contains text "" = true := by
  simp [contains]

/-- `text.split(separator)` for a separator of one character. -/
def splitAt (separator : Char) (text : String) : List String :=
  (text.toList.splitOn separator).map String.ofList

/-- `text.split()`: the runs of characters that are no spaces. -/
def words (text : String) : List String :=
  ((text.toList.splitOnP isSpace).filter fun run => !run.isEmpty).map String.ofList

/-! ## Separated texts

Keys in this program are joined from pieces, and a joined text can be cut again only where the
pieces do not have the separator. -/

/-- What stands before the first occurrence of a character, and what stands behind it. -/
theorem append_cons_inj {c : Char} {x x' y y' : List Char} (hx : c ∉ x) (hx' : c ∉ x')
    (h : x ++ c :: y = x' ++ c :: y') : x = x' ∧ y = y' := by
  induction x generalizing x' with
  | nil =>
      cases x' with
      | nil => exact ⟨rfl, (List.cons.inj h).2⟩
      | cons b x' =>
          rw [List.mem_cons, not_or] at hx'
          exact absurd (List.cons.inj h).1 hx'.1
  | cons a x ih =>
      cases x' with
      | nil =>
          rw [List.mem_cons, not_or] at hx
          exact absurd (List.cons.inj h).1.symm hx.1
      | cons b x' =>
          rw [List.mem_cons, not_or] at hx hx'
          obtain ⟨hhead, htail⟩ := List.cons.inj h
          obtain ⟨hrest, hbehind⟩ := ih hx.2 hx'.2 htail
          exact ⟨by rw [hhead, hrest], hbehind⟩

/-- The text of an integer has no colon. -/
theorem colon_notMem_toString (n : ℤ) : ':' ∉ (toString n).toList := by
  have hdigits : ∀ m : ℕ, ':' ∉ m.repr.toList := by
    intro m hm
    rw [Nat.toList_repr] at hm
    have hdigit := Nat.isDigit_of_mem_toDigits (by decide) (by decide) hm
    exact absurd hdigit (by decide)
  rw [Int.toString_eq_repr, Int.repr_eq_if]
  split
  · exact hdigits _
  · rw [String.toList_append, List.mem_append, not_or]
    exact ⟨by decide, hdigits _⟩

/-- Whole numbers have texts of their own. -/
theorem toString_injective {n n' : ℤ} (h : (toString n).toList = (toString n').toList) :
    n = n' := by
  have hrepr : ∀ m m' : ℕ, m.repr.toList = m'.repr.toList → m = m' := by
    intro m m' hm
    rw [Nat.toList_repr, Nat.toList_repr] at hm
    have hread := congrArg (fun cs => Nat.ofDigitChars 10 cs 0) hm
    simpa only [Nat.ofDigitChars_ten_toDigits] using hread
  -- a sign is no digit
  have hsign : ∀ m m' : ℕ, m.repr.toList ≠ '-' :: m'.repr.toList := by
    intro m m' hm
    have hmem : '-' ∈ m.repr.toList := by
      rw [hm]
      exact List.mem_cons_self
    rw [Nat.toList_repr] at hmem
    exact absurd (Nat.isDigit_of_mem_toDigits (by decide) (by decide) hmem) (by decide)
  have hminus : ∀ m : ℕ, ("-" ++ m.repr).toList = '-' :: m.repr.toList := by
    intro m
    rw [String.toList_append]
    rfl
  rw [Int.toString_eq_repr, Int.toString_eq_repr, Int.repr_eq_if, Int.repr_eq_if] at h
  split at h <;> split at h
  · have hnat := hrepr _ _ h
    omega
  · rw [hminus] at h
    exact absurd h (hsign _ _)
  · rw [hminus] at h
    exact absurd h.symm (hsign _ _)
  · rw [hminus, hminus] at h
    have hnat := hrepr _ _ (List.cons.inj h).2
    omega

/-- Cutting a joined text again. -/
theorem splitOn_append_colon (front rest : List Char) :
    (front ++ ':' :: rest).splitOn ':' = front.splitOn ':' ++ rest.splitOn ':' :=
  List.splitOn_append_cons_self front rest

/-- A text can be put together again from its pieces. -/
theorem splitOn_injective {c : Char} {cs ds : List Char} (h : cs.splitOn c = ds.splitOn c) :
    cs = ds :=
  calc cs = [c].intercalate (cs.splitOn c) := (List.intercalate_splitOn c).symm
    _ = [c].intercalate (ds.splitOn c) := by rw [h]
    _ = ds := List.intercalate_splitOn c

/-! ## Upper and lower case

With the tables of the host as a parameter. -/

/-- `str.upper` of a character and `str.lower`, with the tables of the host. -/
structure CaseTables where
  upperOf : Char → List Char
  lower : String → String
  upperOf_ne_nil : ∀ c, upperOf c ≠ []
  upperOf_space : ∀ c, isSpace c = true → upperOf c = [c]
  upperOf_letter : ∀ c, isSpace c = false → ∀ d ∈ upperOf c, isSpace d = false

namespace CaseTables

variable (tables : CaseTables)

/-- `str.upper`. -/
def upper (s : String) : String := String.ofList (s.toList.flatMap tables.upperOf)

/-- Splitting at what is kept alone. -/
theorem splitOnP_flatMap (cs : List Char) :
    (cs.flatMap tables.upperOf).splitOnP isSpace =
      (cs.splitOnP isSpace).map fun run => run.flatMap tables.upperOf := by
  -- letters in front of a text go to its first run
  have hletters : ∀ front : List Char, (∀ d ∈ front, isSpace d = false) → ∀ rest : List Char,
      (front ++ rest).splitOnP isSpace = (rest.splitOnP isSpace).modifyHead (front ++ ·) := by
    intro front hfront rest
    induction front with
    | nil =>
        rw [List.nil_append]
        cases rest.splitOnP isSpace <;> rfl
    | cons d front ih =>
        have htail := ih fun e he => hfront e (List.mem_cons_of_mem d he)
        rw [List.cons_append, List.splitOnP_cons_eq_if_modifyHead, hfront d List.mem_cons_self,
          htail, if_neg Bool.false_ne_true, List.modifyHead_modifyHead]
        rfl
  induction cs with
  | nil => simp
  | cons c cs ih =>
      rw [List.flatMap_cons, List.splitOnP_cons_eq_if_modifyHead]
      by_cases hspace : isSpace c = true
      · rw [tables.upperOf_space c hspace, List.singleton_append,
          List.splitOnP_cons_eq_if_modifyHead, if_pos hspace, if_pos hspace, ih]
        simp
      · rw [Bool.not_eq_true] at hspace
        rw [hletters _ (tables.upperOf_letter c hspace), ih, if_neg (by simp [hspace])]
        cases cs.splitOnP isSpace with
        | nil => rfl
        | cons run runs => simp

/-- The words of a text in upper case. -/
theorem words_upper (s : String) : words (tables.upper s) = (words s).map tables.upper := by
  have hempty : ∀ run : List Char, (run.flatMap tables.upperOf).isEmpty = run.isEmpty := by
    intro run
    cases run with
    | nil => rfl
    | cons c run =>
        cases hc : tables.upperOf c with
        | nil => exact absurd hc (tables.upperOf_ne_nil c)
        | cons d ds => simp [hc]
  unfold words upper
  rw [String.toList_ofList, tables.splitOnP_flatMap, List.filter_map, List.map_map, List.map_map]
  simp [Function.comp_def, hempty]

end CaseTables

end Python
