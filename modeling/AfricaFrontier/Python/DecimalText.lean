import AfricaFrontier.Python.Context
import AfricaFrontier.Python.Uuid

/-!
# Decimals read from texts

`Decimal(text)` reads far more than what `str` writes: spaces around the number, underscores
anywhere, the digits of any script, an exponent, and the special values, infinite or no number
at all, in any case.  A text that is none of this raises `InvalidOperation`, as does a number the
constructor cannot hold exactly.

What is read may be divided, and compared with zero.  Both fail for a signaling NaN, a comparison
for every NaN, and a division where the default context traps it.

The text of a finite number has no character that means nothing in one (`notMem_of_read`).

The first section is the grammar, with the limits on exponents of the C implementation; the second
the operations that programs use on what they read; the third says which characters a number is
written with, which a caller needs that looks for a separator in a text.
-/

namespace Python

/-- A `Decimal` as it may come from a text; zero has no sign here. -/
inductive DecimalValue
  | finite (x : ℚ)
  | infinity (negative : Bool)
  | nan (signaling : Bool)
  deriving DecidableEq

namespace DecimalValue

/-! ## `Decimal(text)`

The sign first, then the special values, then a number. -/

/-- The greatest exponent of a number in scientific notation that the constructor accepts. -/
def maxEmax : ℤ := 999999999999999999

/-- The least exponent of a coefficient that the constructor accepts. -/
def minEtiny : ℤ := -1999999999999999997

/-- An unsigned number: digits with at most one point, and perhaps an exponent. -/
def readNumeral (cs : List Char) : Option Numeral := do
  let marked (c : Char) : Bool := c = 'e' || c = 'E'
  let mantissa := cs.takeWhile fun c => !marked c
  let whole := mantissa.takeWhile (· ≠ '.')
  let fraction := (mantissa.dropWhile (· ≠ '.')).drop 1
  let coefficient ← readDigits (whole ++ fraction)
  let exponent ←
    match cs.dropWhile fun c => !marked c with
    | [] => some 0
    | _ :: power => readSigned (fun ds => (readDigits ds).map Int.ofNat) Int.neg power
  return ⟨coefficient, exponent - fraction.length⟩

/-- The constructor can hold the number as it is written. -/
def holds (x : Numeral) : Bool :=
  decide (x.exponent + (digitsText x.coefficient).toList.length - 1 ≤ maxEmax) &&
    decide (minEtiny ≤ x.exponent)

/-- A text without its sign. -/
def readUnsigned (cs : List Char) : Option DecimalValue :=
  let word := String.ofList (cs.map Char.toLower)
  if word = "inf" ∨ word = "infinity" then some (.infinity false)
  else if startsWith word "nan" then
    if (cs.drop 3).all Char.isDigit then some (.nan false) else none
  else if startsWith word "snan" then
    if (cs.drop 4).all Char.isDigit then some (.nan true) else none
  else
    (readNumeral cs).bind fun x => if holds x then some (.finite x.value) else none

/-- The value with the other sign. -/
def neg : DecimalValue → DecimalValue
  | .finite x => .finite (-x)
  | .infinity negative => .infinity !negative
  | .nan signaling => .nan signaling

/-- `Decimal(text)`; `none` is its `InvalidOperation`. -/
def read (text : String) : Option DecimalValue :=
  readSigned readUnsigned neg (((strip text).toList.filter (· ≠ '_')).map toAscii)

/-- Some texts of numbers and of special values, and three that are neither. -/
example : [" 1_000.5e-2 ", "-.5", "sNaN12", "-Infinity", "1E+3", "inf"].map read =
      [some (.finite (10005 / 1000)), some (.finite (-1 / 2)), some (.nan true),
        some (.infinity true), some (.finite 1000), some (.infinity false)] ∧
    ["1e", "1.2.3", "None"].map read = [none, none, none] := by
  decide +kernel

/-! ## Arithmetic and comparisons

Division and two comparisons with zero, each with its exceptions. -/

/-- `x / y` of finite numbers in the default context; `none` is a division by zero or an
overflow.  Below the least exponent the number of digits shrinks. -/
def quotient (x y : ℚ) : Option ℚ :=
  if y = 0 then none
  else if x = 0 then some 0
  else if -999999 ≤ Int.log 10 |x / y| then
    if 999999 < Int.log 10 |inContext (x / y)| then none else some (inContext (x / y))
  else some (roundHalfEven (x / y * 10 ^ 1000026) / 10 ^ 1000026)

/-- `a / b`; `none` is an `ArithmeticError`. -/
def div : DecimalValue → DecimalValue → Option DecimalValue
  | .nan s, .nan s' => if s || s' then none else some (.nan false)
  | .nan s, _ => if s then none else some (.nan false)
  | _, .nan s => if s then none else some (.nan false)
  | .infinity _, .infinity _ => none
  | .infinity negative, .finite y => some (.infinity (if y < 0 then !negative else negative))
  | .finite _, .infinity _ => some (.finite 0)
  | .finite x, .finite y => (quotient x y).map .finite

/-- `a <= 0`; `none` is the `InvalidOperation` of a NaN. -/
def nonpos : DecimalValue → Option Bool
  | .finite x => some (decide (x ≤ 0))
  | .infinity negative => some negative
  | .nan _ => none

/-- `a < 0`. -/
def negative : DecimalValue → Option Bool
  | .finite x => some (decide (x < 0))
  | .infinity negative => some negative
  | .nan _ => none

end DecimalValue

/-! ## The characters of a number

By the grammar, from the digits outwards. -/

section Characters

open DecimalValue

/-- The characters of a decimal number. -/
def IsNumeralChar (c : Char) : Prop := c.isDigit = true ∨ c ∈ ['.', 'e', 'E', '+', '-']

/-- Digits are read from digits only. -/
theorem isDigit_of_readDigits {cs : List Char} {n : ℕ} (h : readDigits cs = some n) :
    ∀ c ∈ cs, c.isDigit = true := by
  have hfold : ∀ (cs : List Char) (start : Option ℕ),
      (cs.foldl (fun acc c => acc.bind fun n =>
        if c.isDigit then some (10 * n + (c.toNat - '0'.toNat)) else none) start).isSome →
      start.isSome ∧ ∀ c ∈ cs, c.isDigit = true := by
    intro cs
    induction cs with
    | nil => simp
    | cons c cs ih =>
        intro start hsome
        obtain ⟨hstep, hrest⟩ := ih _ hsome
        cases start with
        | none => simp at hstep
        | some n =>
            have hdigit : c.isDigit = true := by
              by_contra hdigit
              simp [hdigit] at hstep
            exact ⟨rfl, List.forall_mem_cons.mpr ⟨hdigit, hrest⟩⟩
  unfold readDigits at h
  split_ifs at h
  exact (hfold cs (some 0) (by rw [h]; rfl)).2

/-- A sign is a character of a number. -/
theorem isNumeralChar_of_readSigned {α : Type} {read : List Char → Option α} {neg : α → α}
    {cs : List Char} {a : α} (h : readSigned read neg cs = some a)
    (hread : ∀ cs b, read cs = some b → b = a ∨ neg b = a → ∀ c ∈ cs, IsNumeralChar c) :
    ∀ c ∈ cs, IsNumeralChar c := by
  unfold readSigned at h
  split at h
  · rename_i rest
    obtain ⟨b, hb, hneg⟩ := Option.map_eq_some_iff.mp h
    exact List.forall_mem_cons.mpr ⟨Or.inr (by simp), hread rest b hb (Or.inr hneg)⟩
  · rename_i rest
    exact List.forall_mem_cons.mpr ⟨Or.inr (by simp), hread rest a h (Or.inl rfl)⟩
  · exact hread _ a h (Or.inl rfl)

/-- Digits are characters of a number. -/
theorem isNumeralChar_of_readDigits {cs : List Char} {n : ℕ} (h : readDigits cs = some n) :
    ∀ c ∈ cs, IsNumeralChar c := fun c hc => Or.inl (isDigit_of_readDigits h c hc)

/-- A separator that ends a run and what is behind it. -/
theorem mem_dropWhile_cases {p : Char → Bool} {cs : List Char} {c : Char}
    (h : c ∈ cs.dropWhile p) : p c = false ∨ c ∈ (cs.dropWhile p).drop 1 := by
  have hhead := List.head?_dropWhile_not p cs
  cases hdrop : cs.dropWhile p with
  | nil => simp [hdrop] at h
  | cons d ds =>
      rw [hdrop] at h hhead
      rcases List.mem_cons.mp h with rfl | htail
      · exact Or.inl (by simpa using hhead)
      · exact Or.inr htail

/-- What is read as a numeral has the characters of a number. -/
theorem isNumeralChar_of_readNumeral {cs : List Char} {x : Numeral} (h : readNumeral cs = some x) :
    ∀ c ∈ cs, IsNumeralChar c := by
  simp only [readNumeral, Option.bind_eq_bind, Option.bind_eq_some_iff] at h
  obtain ⟨coefficient, hcoefficient, hexponent⟩ := h
  have hdigits := isNumeralChar_of_readDigits hcoefficient
  intro c hc
  rw [← List.takeWhile_append_dropWhile (p := fun c => !(decide (c = 'e') || decide (c = 'E')))
    (l := cs)] at hc
  -- before the mark of the exponent, or from the mark on
  rcases List.mem_append.mp hc with hmantissa | hpower
  · rw [← List.takeWhile_append_dropWhile (p := fun c => decide (c ≠ '.'))
      (l := List.takeWhile _ cs)] at hmantissa
    rcases List.mem_append.mp hmantissa with hwhole | hpoint
    · exact hdigits c (List.mem_append_left _ hwhole)
    · rcases mem_dropWhile_cases hpoint with hdot | hfraction
      · exact Or.inr (by simp_all)
      · exact hdigits c (List.mem_append_right _ hfraction)
  · rcases mem_dropWhile_cases hpower with hmark | htail
    · right
      simp only [Bool.not_eq_false', Bool.or_eq_true, decide_eq_true_eq] at hmark
      rcases hmark with rfl | rfl <;> simp
    · split at hexponent
      · rename_i hnone
        rw [hnone] at hpower
        cases hpower
      · rename_i power hsome
        rw [hsome, List.drop_one, List.tail_cons] at htail
        obtain ⟨exponent, hread, -⟩ := Option.bind_eq_some_iff.mp hexponent
        refine isNumeralChar_of_readSigned hread (fun ds b hb _ => ?_) c htail
        obtain ⟨n, hn, -⟩ := Option.map_eq_some_iff.mp hb
        exact isNumeralChar_of_readDigits hn

/-- What is read as a finite value has the characters of a number. -/
theorem isNumeralChar_of_readUnsigned {cs : List Char} {x : ℚ}
    (h : readUnsigned cs = some (.finite x)) : ∀ c ∈ cs, IsNumeralChar c := by
  unfold readUnsigned at h
  simp only at h
  split_ifs at h
  · cases h
  · cases h
  · cases h
  · obtain ⟨numeral, hnumeral, -⟩ := Option.bind_eq_some_iff.mp h
    exact isNumeralChar_of_readNumeral hnumeral

/-- A character that means nothing in a number is in no text of one. -/
theorem notMem_of_read {text : String} {x : ℚ} {c : Char}
    (h : DecimalValue.read text = some (.finite x)) (hnumeral : ¬ IsNumeralChar c)
    (hspace : isSpace c = false) (hascii : toAscii c = c) (hunderscore : c ≠ '_') :
    c ∉ text.toList := by
  intro hc
  have hkeep : ∀ {cs : List Char}, c ∈ cs → c ∈ cs.dropWhile isSpace := by
    intro cs hcs
    rw [← List.takeWhile_append_dropWhile (p := isSpace) (l := cs)] at hcs
    rcases List.mem_append.mp hcs with hfront | hrest
    · exact absurd (List.mem_takeWhile_imp hfront) (by simp [hspace])
    · exact hrest
  have hstrip : c ∈ (strip text).toList := by
    rw [strip, String.toList_ofList, List.mem_reverse]
    exact hkeep (List.mem_reverse.mpr (hkeep hc))
  have hread : c ∈ ((strip text).toList.filter (· ≠ '_')).map toAscii :=
    List.mem_map.mpr ⟨c, List.mem_filter.mpr ⟨hstrip, by simpa using hunderscore⟩, hascii⟩
  refine hnumeral (isNumeralChar_of_readSigned h (fun cs b hb hvalue => ?_) c hread)
  cases b with
  | finite y => exact isNumeralChar_of_readUnsigned hb
  | infinity negative => rcases hvalue with hvalue | hvalue <;> cases hvalue
  | nan signaling => rcases hvalue with hvalue | hvalue <;> cases hvalue

end Characters

section Comparisons

variable {a b rate : DecimalValue}

/-- A comparison raises for what is not a number. -/
theorem nonpos_eq_none : a.nonpos = none ↔ ∃ s, a = .nan s := by
  cases a <;> simp [DecimalValue.nonpos]

/-- The comparison is false for what is positive, infinity included. -/
theorem nonpos_eq_false :
    a.nonpos = some false ↔ (∃ x, a = .finite x ∧ 0 < x) ∨ a = .infinity false := by
  cases a <;> simp [DecimalValue.nonpos]

/-- The other comparison raises for the same values. -/
theorem negative_eq_none : a.negative = none ↔ ∃ s, a = .nan s := by
  cases a <;> simp [DecimalValue.negative]

/-- The other comparison is false for what is not negative, infinity included. -/
theorem negative_eq_false :
    a.negative = some false ↔ (∃ x, a = .finite x ∧ 0 ≤ x) ∨ a = .infinity false := by
  cases a <;> simp [DecimalValue.negative]

/-- Dividing by what is not a number fails if either is signaling. -/
theorem div_nan {s : Bool} (h : a.div (.nan s) = some rate) : s = false ∧ a ≠ .nan true := by
  cases a with
  | nan s' =>
      simp only [DecimalValue.div] at h
      split at h
      · cases h
      · rename_i hquiet
        simp only [Bool.or_eq_true, not_or, Bool.not_eq_true] at hquiet
        exact ⟨hquiet.2, by simp [hquiet.1]⟩
  | infinity negative =>
      simp only [DecimalValue.div] at h
      split at h
      · cases h
      · rename_i hquiet
        exact ⟨Bool.not_eq_true _ ▸ hquiet, by simp⟩
  | finite x =>
      simp only [DecimalValue.div] at h
      split at h
      · cases h
      · rename_i hquiet
        exact ⟨Bool.not_eq_true _ ▸ hquiet, by simp⟩

/-- A quiet NaN makes the quotient one, as long as nothing is signaling. -/
theorem div_quietNan (h : a ≠ .nan true) : a.div (.nan false) = some (.nan false) := by
  cases a with
  | nan s =>
      cases s with
      | false => rfl
      | true => exact absurd rfl h
  | infinity negative => rfl
  | finite y => rfl

/-- The same for the other operand. -/
theorem quietNan_div (h : ∀ s, a ≠ .nan s) :
    DecimalValue.div (.nan false) a = some (.nan false) := by
  cases a with
  | nan s => exact absurd rfl (h s)
  | infinity negative => rfl
  | finite y => rfl

/-- Numbers have no quotient that is no number. -/
theorem not_nan_of_div {s : Bool} (ha : ∀ s, a ≠ .nan s) (hb : ∀ s, b ≠ .nan s) :
    a.div b ≠ some (.nan s) := by
  cases a with
  | nan s' => exact absurd rfl (ha s')
  | infinity negative =>
      cases b with
      | nan s' => exact absurd rfl (hb s')
      | infinity negative' => simp [DecimalValue.div]
      | finite y => simp [DecimalValue.div]
  | finite x =>
      cases b with
      | nan s' => exact absurd rfl (hb s')
      | infinity negative' => simp [DecimalValue.div]
      | finite y => simp [DecimalValue.div]

/-- What was compared is a number. -/
theorem ne_nan_of_nonpos {answer : Bool} (h : a.nonpos = some answer) (s : Bool) :
    a ≠ .nan s := by
  rintro rfl
  cases h

/-- What was compared in the other comparison is a number too. -/
theorem ne_nan_of_negative {answer : Bool} (h : a.negative = some answer) (s : Bool) :
    a ≠ .nan s := by
  rintro rfl
  cases h

/-- A positive quotient with something infinite is that of an infinite output by a finite
input. -/
theorem infinite_quotient (h : a.div b = some rate) (hb : b.nonpos = some false)
    (ha : a.negative = some false) (hrate : rate.nonpos = some false)
    (hinfinite : b = .infinity false ∨ a = .infinity false ∨ rate = .infinity false) :
    ∃ x, b = .finite x ∧ 0 < x ∧ a = .infinity false := by
  rcases nonpos_eq_false.mp hb with ⟨x, rfl, hx⟩ | rfl
  · refine ⟨x, rfl, hx, ?_⟩
    rcases negative_eq_false.mp ha with ⟨y, rfl, -⟩ | rfl
    · exfalso
      -- the quotient of finite numbers is finite
      obtain ⟨q, -, rfl⟩ := Option.map_eq_some_iff.mp h
      simp at hinfinite
    · rfl
  · exfalso
    rcases negative_eq_false.mp ha with ⟨y, rfl, -⟩ | rfl
    · obtain rfl := Option.some.inj h
      simp [DecimalValue.nonpos] at hrate
    · cases h

end Comparisons

end Python
