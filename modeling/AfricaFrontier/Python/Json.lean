import Mathlib.Data.Rat.Defs
import Mathlib.Data.List.Basic

/-!
# JSON values as Python sees them

Provider data reaches the program through `json.loads`, and is then read with
`dict.get`, `or`, `str`, `int`, `str.lower`, `str.strip` and slices.  This file
fixes those operations on a `Json` type with Python's distinctions: an integer is
not a float, `None` is a value, a float may be infinite or not a number.

A finite float is represented by its shortest decimal form — the digits `repr`
prints — because that form is what `str` produces and what `Decimal(str(x))`
reads; the binary value itself is never inspected.
-/

namespace Python

/-- A Python float, by the decimal digits and the power of ten of its shortest
representation. -/
inductive PyFloat
  | finite (negative : Bool) (digits : ℕ) (exponent : ℤ)
  | infinity (negative : Bool)
  | nan
  deriving DecidableEq, Repr

/-- What `json.loads` returns. -/
inductive Json
  | null
  | bool (b : Bool)
  | int (n : ℤ)
  | float (x : PyFloat)
  | str (s : String)
  | arr (items : List Json)
  | obj (fields : List (String × Json))
  deriving Repr

/-- A Python dict with string keys, in insertion order. -/
abbrev Obj := List (String × Json)

mutual

/-- Equality of JSON values is decidable, by recursion on both. -/
def Json.decEq : (a b : Json) → Decidable (a = b)
  | .null, .null => isTrue rfl
  | .bool a, .bool b => decidable_of_iff (a = b) (by simp)
  | .int a, .int b => decidable_of_iff (a = b) (by simp)
  | .float a, .float b => decidable_of_iff (a = b) (by simp)
  | .str a, .str b => decidable_of_iff (a = b) (by simp)
  | .arr a, .arr b =>
      have := Json.decEqList a b
      decidable_of_iff (a = b) (by simp)
  | .obj a, .obj b =>
      have := Json.decEqFields a b
      decidable_of_iff (a = b) (by simp)
  | .null, .bool _ | .null, .int _ | .null, .float _ | .null, .str _ | .null, .arr _
  | .null, .obj _ | .bool _, .null | .bool _, .int _ | .bool _, .float _ | .bool _, .str _
  | .bool _, .arr _ | .bool _, .obj _ | .int _, .null | .int _, .bool _ | .int _, .float _
  | .int _, .str _ | .int _, .arr _ | .int _, .obj _ | .float _, .null | .float _, .bool _
  | .float _, .int _ | .float _, .str _ | .float _, .arr _ | .float _, .obj _
  | .str _, .null | .str _, .bool _ | .str _, .int _ | .str _, .float _ | .str _, .arr _
  | .str _, .obj _ | .arr _, .null | .arr _, .bool _ | .arr _, .int _ | .arr _, .float _
  | .arr _, .str _ | .arr _, .obj _ | .obj _, .null | .obj _, .bool _ | .obj _, .int _
  | .obj _, .float _ | .obj _, .str _ | .obj _, .arr _ => isFalse (by simp)

/-- Equality of arrays. -/
def Json.decEqList : (a b : List Json) → Decidable (a = b)
  | [], [] => isTrue rfl
  | [], _ :: _ => isFalse (by simp)
  | _ :: _, [] => isFalse (by simp)
  | a :: as, b :: bs =>
      have := Json.decEq a b
      have := Json.decEqList as bs
      decidable_of_iff (a = b ∧ as = bs) (by simp)

/-- Equality of objects. -/
def Json.decEqFields : (a b : List (String × Json)) → Decidable (a = b)
  | [], [] => isTrue rfl
  | [], _ :: _ => isFalse (by simp)
  | _ :: _, [] => isFalse (by simp)
  | (k, a) :: as, (l, b) :: bs =>
      have := Json.decEq a b
      have := Json.decEqFields as bs
      decidable_of_iff ((k = l ∧ a = b) ∧ as = bs) (by simp)

end

instance : DecidableEq Json := Json.decEq

/-! ## Text

Operations on texts, and the two ways in which a value becomes one: `str` and `repr`. They differ
at the top of a value only. -/

/-- The first `n` characters, `s[:n]`. -/
def slice (n : ℕ) (s : String) : String := String.ofList (s.toList.take n)

/-- `str.lower`.  Only the ASCII letters change here; the one further character
whose lower case is ASCII is the Kelvin sign, which lowers to `k`, a letter no
status word or event prefix below contains. -/
def lower (s : String) : String := String.ofList (s.toList.map Char.toLower)

/-- The upper case of one character: besides the ASCII letters, the two characters whose
upper case is an ASCII letter. -/
def upperChar (c : Char) : Char :=
  if c = Char.ofNat 0x131 then 'I'
  else if c = Char.ofNat 0x17f then 'S'
  else c.toUpper

/-- `str.upper`.  Other letters beyond ASCII keep their case here; the upper case of each
is, or contains, a character no currency code below contains, or is longer than one
character. -/
def upper (s : String) : String := String.ofList (s.toList.map upperChar)

/-- The characters `str.strip` removes. -/
def isSpace (c : Char) : Bool :=
  c.toNat ∈ [0x09, 0x0a, 0x0b, 0x0c, 0x0d, 0x1c, 0x1d, 0x1e, 0x1f, 0x20, 0x85, 0xa0,
    0x1680, 0x2000, 0x2001, 0x2002, 0x2003, 0x2004, 0x2005, 0x2006, 0x2007, 0x2008,
    0x2009, 0x200a, 0x2028, 0x2029, 0x202f, 0x205f, 0x3000]

/-- `str.strip`. -/
def strip (s : String) : String :=
  String.ofList ((s.toList.dropWhile isSpace).reverse.dropWhile isSpace).reverse

/-- `str.startswith`. -/
def startsWith (s pre : String) : Bool := pre.toList.isPrefixOf s.toList

/-- A slice has at most so many characters. -/
@[simp] theorem slice_length (n : ℕ) (s : String) :
    (slice n s).toList.length = min n s.toList.length := by
  simp [slice]

/-- A text that fits is not cut. -/
theorem slice_eq_self {n : ℕ} {s : String} (h : s.toList.length ≤ n) : slice n s = s := by
  rw [slice, List.take_of_length_le h, String.ofList_toList]

/-- Decimal digits of a natural number. -/
def digitsText (n : ℕ) : String := toString n

/-- `repr` of a float: positional notation for exponents from -4 to 15, scientific
notation with at least two exponent digits outside. -/
def floatText : PyFloat → String
  | .nan => "nan"
  | .infinity negative => if negative then "-inf" else "inf"
  | .finite negative digits exponent =>
      let ds := (digitsText digits).toList
      let core := (ds.reverse.dropWhile (· = '0')).reverse
      let core := if core.isEmpty then ['0'] else core
      let point : ℤ := if digits = 0 then 1 else ds.length + exponent
      let body : List Char :=
        -- `repr` has no exponent for points in this range
        if -4 < point ∧ point ≤ 16 then
          if point ≤ 0 then
            ['0', '.'] ++ List.replicate (-point).toNat '0' ++ core
          else if (core.length : ℤ) ≤ point then
            core ++ List.replicate (point.toNat - core.length) '0' ++ ['.', '0']
          else core.take point.toNat ++ ['.'] ++ core.drop point.toNat
        else
          let shown := (digitsText (point - 1).natAbs).toList
          let shown := if shown.length < 2 then '0' :: shown else shown
          core.take 1 ++ (if core.length = 1 then [] else '.' :: core.drop 1) ++
            ['e', if point - 1 < 0 then '-' else '+'] ++ shown
      String.ofList (if negative then '-' :: body else body)

/-- The single quote, the double quote and the backslash. -/
def apostrophe : Char := Char.ofNat 39

/-- The double quote. -/
def quotation : Char := Char.ofNat 34

/-- The backslash. -/
def backslash : Char := Char.ofNat 92

/-- Hexadecimal escape of a control character inside `repr`. -/
def hexText (n : ℕ) : List Char :=
  let digit (d : ℕ) : Char := "0123456789abcdef".toList.getD d '0'
  [backslash, 'x', digit (n / 16), digit (n % 16)]

/-- `repr` of a string: single quotes unless only double quotes avoid escaping,
backslashes, the quote and the control characters escaped. -/
def textRepr (s : String) : String :=
  let chars := s.toList
  let quote :=
    if chars.contains apostrophe && !chars.contains quotation then quotation else apostrophe
  let escape (c : Char) : List Char :=
    if c = quote ∨ c = backslash then [backslash, c]
    else if c.toNat = 0x0a then [backslash, 'n']
    else if c.toNat = 0x0d then [backslash, 'r']
    else if c.toNat = 0x09 then [backslash, 't']
    else if c.toNat < 0x20 ∨ (0x7f ≤ c.toNat ∧ c.toNat ≤ 0xa0) ∨ c.toNat = 0xad then
      hexText c.toNat
    else [c]
  String.ofList (quote :: chars.flatMap escape ++ [quote])

mutual

/-- `repr` of a JSON value. -/
def Json.repr : Json → String
  | .null => "None"
  | .bool b => if b then "True" else "False"
  | .int n => toString n
  | .float x => floatText x
  | .str s => textRepr s
  | .arr items => "[" ++ Json.reprItems items ++ "]"
  | .obj fields => "\x7b" ++ Json.reprFields fields ++ "\x7d"

/-- The items of a list, separated by commas. -/
def Json.reprItems : List Json → String
  | [] => ""
  | [a] => a.repr
  | a :: as => a.repr ++ ", " ++ Json.reprItems as

/-- The entries of a dict. -/
def Json.reprFields : List (String × Json) → String
  | [] => ""
  | [(k, a)] => textRepr k ++ ": " ++ a.repr
  | (k, a) :: as => textRepr k ++ ": " ++ a.repr ++ ", " ++ Json.reprFields as

end

/-- `str` of a JSON value: a text is itself, anything else its `repr`. -/
def Json.text : Json → String
  | .str s => s
  | a => a.repr

/-- A text is written as it is. -/
@[simp] theorem Json.text_str (s : String) : (Json.str s).text = s := rfl

/-! ## Truth, `or` and `dict.get`

The idiom `str(d.get("a") or d.get("b") or "")` is `Obj.firstText`, and depends on truth: an empty
text and a zero are passed over like a missing key. -/

/-- Python truth of a JSON value. -/
def Json.truthy : Json → Bool
  | .null => false
  | .bool b => b
  | .int n => n ≠ 0
  | .float (.finite _ digits _) => digits ≠ 0
  | .float _ => true
  | .str s => s ≠ ""
  | .arr items => !items.isEmpty
  | .obj fields => !fields.isEmpty

/-- `a or b`. -/
def Json.orElse (a b : Json) : Json := if a.truthy then a else b

/-- The entry of a key, if the dict has one. -/
def Obj.find : Obj → String → Option Json
  | [], _ => none
  | (k, a) :: rest, key => if k = key then some a else Obj.find rest key

/-- `dict.get(key)`. -/
def Obj.get (o : Obj) (key : String) : Json := (o.find key).getD .null

/-- `dict.get(key, default)`. -/
def Obj.getD (o : Obj) (key : String) (default : Json) : Json := (o.find key).getD default

/-- `str(d.get(k₁) or d.get(k₂) or … or "")`. -/
def Obj.firstText (o : Obj) (keys : List String) : String :=
  (keys.foldr (fun k rest => (o.get k).orElse rest) (.str "")).text

/-- One entry of `{**o, key: value}`: an existing key keeps its place. -/
def Obj.set : Obj → String → Json → Obj
  | [], key, value => [(key, value)]
  | (k, a) :: rest, key, value =>
      if k = key then (k, value) :: rest else (k, a) :: Obj.set rest key value

/-- The entries after one was set. -/
theorem Obj.find_set (o : Obj) (key : String) (value : Json) (k : String) :
    (o.set key value).find k = if k = key then some value else o.find k := by
  induction o with
  | nil => simp [Obj.set, Obj.find, eq_comm]
  | cons head rest ih =>
      obtain ⟨k₀, a⟩ := head
      simp only [Obj.set, Obj.find]
      by_cases h₀ : k₀ = key
      · subst h₀
        by_cases h : k = k₀ <;> simp [Obj.find, h, eq_comm]
      · by_cases h : k = key
        · subst h
          simp [Obj.find, h₀, ih]
        · simp [Obj.find, h₀, h, ih]

/-- What is set is found. -/
@[simp] theorem Obj.get_set_self (o : Obj) (key : String) (value : Json) :
    (o.set key value).get key = value := by
  simp [Obj.get, Obj.find_set]

/-- Every other key is found as before. -/
theorem Obj.get_set_of_ne (o : Obj) {key k : String} (value : Json) (h : k ≠ key) :
    (o.set key value).get k = o.get k := by
  simp [Obj.get, Obj.find_set, h]

/-- The value of a run of decimal digits, `none` for anything else. -/
def readDigits (cs : List Char) : Option ℕ :=
  if cs.isEmpty then none
  else cs.foldl (fun acc c => acc.bind fun n =>
    if c.isDigit then some (10 * n + (c.toNat - '0'.toNat)) else none) (some 0)

/-- An optional sign in front of what `read` accepts. -/
def readSigned {α : Type} (read : List Char → Option α) (neg : α → α) :
    List Char → Option α
  | '-' :: cs => (read cs).map neg
  | '+' :: cs => read cs
  | cs => read cs

/-- `int(s)` of a text: optional sign, digits, single underscores between digits. -/
def readInt (s : String) : Option ℤ :=
  readSigned (fun cs =>
    let groups := cs.splitOn '_'
    if groups.any List.isEmpty then none
    else (readDigits (cs.filter (· ≠ '_'))).map Int.ofNat) Int.neg (strip s).toList

/-- The exact value of a finite float's shortest form. -/
def PyFloat.value : PyFloat → Option ℚ
  | .finite negative digits exponent =>
      let magnitude : ℚ :=
        if 0 ≤ exponent then digits * 10 ^ exponent.toNat
        else digits / 10 ^ (-exponent).toNat
      some (if negative then -magnitude else magnitude)
  | .infinity _ => none
  | .nan => none

/-- The value of a plain decimal text such as `1000` or `-12.50`. -/
def readDecimal (s : String) : Option ℚ :=
  readSigned (fun cs =>
    let whole := cs.takeWhile (· ≠ '.')
    let rest := cs.dropWhile (· ≠ '.')
    match rest with
    | [] => (readDigits whole).map fun n => (n : ℚ)
    | _ :: fraction =>
        (readDigits whole).bind fun n =>
          (readDigits fraction).map fun m => (n : ℚ) + m / 10 ^ fraction.length)
    (fun q => -q) (strip s).toList

/-- The number a JSON value states: a number, or a text that spells one. -/
def Json.number : Json → Option ℚ
  | .int n => some n
  | .float x => x.value
  | .str s => readDecimal s
  | _ => none

end Python
