import AfricaFrontier.Python.Uuid
import Mathlib.Data.List.Sort
import Mathlib.Data.String.Basic

/-!
# The text of a JSON value (`json`)

`json.dumps` writes a value as ASCII text, with the separators it is given and the keys of
every object sorted if it is told to; `json.loads` reads a text.  Both refuse integers of
more than 4300 digits.  A float is written as `repr` writes it and read as the nearest
float there is; which one that is remains a parameter.

The scanner follows the one of the library: a value is a string, an array, an object, one
of six words or a number, and a number ends where no digit, fraction or exponent follows.
Recursion goes by fuel, and `loads` gives it more than a text of that length can use.
Python keeps a surrogate that is not one of a pair; no text here holds one, and `loads`
refuses it.
-/

namespace Python

/-! ## `json.dumps`

The writer is structural, with a function for the items of an array and one for the pairs of an
object. -/

/-- The separators of `json.dumps`: its default, and the compact ones. -/
inductive Separators
  | spaced
  | compact
  deriving DecidableEq

/-- What follows a comma or a colon. -/
def Separators.space : Separators → List Char
  | .spaced => [' ']
  | .compact => []

/-- The left brace of an object. -/
def leftBrace : Char := Char.ofNat 0x7b

/-- The right brace of an object. -/
def rightBrace : Char := Char.ofNat 0x7d

/-- Four digits behind a backslash. -/
def unicodeEscape (n : ℕ) : List Char := backslash :: 'u' :: hexDigits 4 n

/-- A character within a string. -/
def escapeChar (c : Char) : List Char :=
  if c = quotation ∨ c = backslash then [backslash, c]
  else if c.toNat = 0x0a then [backslash, 'n']
  else if c.toNat = 0x0d then [backslash, 'r']
  else if c.toNat = 0x09 then [backslash, 't']
  else if c.toNat = 0x0c then [backslash, 'f']
  else if c.toNat = 0x08 then [backslash, 'b']
  else if 0x20 ≤ c.toNat ∧ c.toNat ≤ 0x7e then [c]
  else if c.toNat < 0x10000 then unicodeEscape c.toNat
  else
    -- the two surrogates of a character beyond the basic plane
    unicodeEscape (0xd800 + (c.toNat - 0x10000) / 0x400) ++
      unicodeEscape (0xdc00 + (c.toNat - 0x10000) % 0x400)

/-- A string with its quotes. -/
def encodeString (s : String) : List Char :=
  quotation :: (s.toList.flatMap escapeChar ++ [quotation])

/-- A float: the three that are no numbers have names. -/
def encodeFloat : PyFloat → List Char
  | .nan => ['N', 'a', 'N']
  | .infinity negative =>
      (if negative then ['-'] else []) ++ ['I', 'n', 'f', 'i', 'n', 'i', 't', 'y']
  | .finite negative digits exponent => (floatText (.finite negative digits exponent)).toList

mutual

/-- The text of a value, its keys in the order they have. -/
def Json.encode (separators : Separators) : Json → List Char
  | .null => ['n', 'u', 'l', 'l']
  | .bool true => ['t', 'r', 'u', 'e']
  | .bool false => ['f', 'a', 'l', 's', 'e']
  | .int n => (toString n).toList
  | .float x => encodeFloat x
  | .str s => encodeString s
  | .arr items => '[' :: (Json.encodeItems separators items ++ [']'])
  | .obj fields => leftBrace :: (Json.encodeFields separators fields ++ [rightBrace])

/-- The items of an array. -/
def Json.encodeItems (separators : Separators) : List Json → List Char
  | [] => []
  | [a] => a.encode separators
  | a :: b :: rest =>
      a.encode separators ++ ',' :: (separators.space ++ Json.encodeItems separators (b :: rest))

/-- The pairs of an object. -/
def Json.encodeFields (separators : Separators) : List (String × Json) → List Char
  | [] => []
  | [(k, a)] => encodeString k ++ ':' :: (separators.space ++ a.encode separators)
  | (k, a) :: f :: rest =>
      encodeString k ++ ':' :: (separators.space ++ (a.encode separators ++
        ',' :: (separators.space ++ Json.encodeFields separators (f :: rest))))

end

mutual

/-- The value with the keys of every object sorted. -/
def Json.sorted : Json → Json
  | .arr items => .arr (Json.sortedItems items)
  | .obj fields => .obj ((Json.sortedFields fields).insertionSort fun f g => f.1 ≤ g.1)
  | a => a

/-- The items, each sorted. -/
def Json.sortedItems : List Json → List Json
  | [] => []
  | a :: rest => a.sorted :: Json.sortedItems rest

/-- The pairs, with their values sorted. -/
def Json.sortedFields : List (String × Json) → List (String × Json)
  | [] => []
  | (k, a) :: rest => (k, a.sorted) :: Json.sortedFields rest

end

/-- The most digits of an integer that `int` and `str` convert. -/
def intMaxStrDigits : ℕ := 4300

mutual

/-- No integer in the value is too long to be written. -/
def Json.writable : Json → Bool
  | .int n => decide ((Nat.toDigits 10 n.natAbs).length ≤ intMaxStrDigits)
  | .arr items => Json.writableItems items
  | .obj fields => Json.writableFields fields
  | _ => true

/-- All items can be written. -/
def Json.writableItems : List Json → Bool
  | [] => true
  | a :: rest => a.writable && Json.writableItems rest

/-- All values can be written. -/
def Json.writableFields : List (String × Json) → Bool
  | [] => true
  | (_, a) :: rest => a.writable && Json.writableFields rest

end

/-- `json.dumps`; `none` is its `ValueError`. -/
def Json.dumps (separators : Separators) (sortKeys : Bool) (a : Json) : Option String :=
  if a.writable then
    some (String.ofList ((if sortKeys then a.sorted else a).encode separators))
  else none

/-! ## `json.loads`

The scanner takes the fuel of a text at least as long, so that it is never used up; every call
spends one unit of it. -/

/-- The whitespace of JSON. -/
def isJsonSpace (c : Char) : Bool := c.toNat ∈ [0x20, 0x09, 0x0a, 0x0d]

/-- What is left behind the spaces. -/
def skipSpace (cs : List Char) : List Char := cs.dropWhile isJsonSpace

/-- What a backslash and a character stand for. -/
def simpleEscape (c : Char) : Option ℕ :=
  if c = quotation ∨ c = backslash ∨ c = '/' then some c.toNat
  else
    match c with
    | 'b' => some 0x08
    | 'f' => some 0x0c
    | 'n' => some 0x0a
    | 'r' => some 0x0d
    | 't' => some 0x09
    | _ => none

/-- The value of four hexadecimal digits. -/
def hexQuad (a b c d : Char) : Option ℕ :=
  (hexDigit a).bind fun a => (hexDigit b).bind fun b => (hexDigit c).bind fun c =>
    (hexDigit d).map fun d => ((a * 16 + b) * 16 + c) * 16 + d

/-- A string after its quote: the units it consists of, a surrogate being one, and what
follows the closing quote. -/
def scanUnits : List Char → Option (List ℕ × List Char)
  | [] => none
  | c :: cs =>
      if c = quotation then some ([], cs)
      else if c = backslash then
        match cs with
        | 'u' :: a :: b :: d :: e :: rest =>
            (hexQuad a b d e).bind fun n => (scanUnits rest).map fun r => (n :: r.1, r.2)
        | x :: rest =>
            (simpleEscape x).bind fun n => (scanUnits rest).map fun r => (n :: r.1, r.2)
        | [] => none
      else if c.toNat < 0x20 then none
      else (scanUnits cs).map fun r => (c.toNat :: r.1, r.2)

/-- The first of two surrogates. -/
def isHighSurrogate (n : ℕ) : Bool := decide (0xd800 ≤ n ∧ n < 0xdc00)

/-- The second. -/
def isLowSurrogate (n : ℕ) : Bool := decide (0xdc00 ≤ n ∧ n < 0xe000)

/-- The characters of the units: a high and a low surrogate are one. -/
def joinUnits : List ℕ → Option (List Char)
  | [] => some []
  | n :: ns =>
      if isHighSurrogate n then
        match ns with
        | m :: rest =>
            if isLowSurrogate m then
              (joinUnits rest).map fun cs =>
                Char.ofNat (0x10000 + (n - 0xd800) * 0x400 + (m - 0xdc00)) :: cs
            else none
        | [] => none
      else if isLowSurrogate n then none
      else (joinUnits ns).map fun cs => Char.ofNat n :: cs

/-- A string after its quote. -/
def scanString (cs : List Char) : Option (String × List Char) :=
  (scanUnits cs).bind fun r => (joinUnits r.1).map fun chars => (String.ofList chars, r.2)

/-- A point and digits. -/
def scanFraction : List Char → Option (List Char) × List Char
  | '.' :: cs =>
      if cs.takeWhile Char.isDigit = [] then (none, '.' :: cs)
      else (some (cs.takeWhile Char.isDigit), cs.dropWhile Char.isDigit)
  | cs => (none, cs)

/-- The sign of an exponent, if it has one. -/
def scanSign : List Char → Bool × List Char
  | '-' :: cs => (true, cs)
  | '+' :: cs => (false, cs)
  | cs => (false, cs)

/-- The letter, a sign and digits. -/
def scanExponent : List Char → Option ℤ × List Char
  | [] => (none, [])
  | c :: cs =>
      if c = 'e' ∨ c = 'E' then
        let digits := (scanSign cs).2.takeWhile Char.isDigit
        if digits = [] then (none, c :: cs)
        else
          (some (if (scanSign cs).1 then -(Nat.ofDigitChars 10 digits 0 : ℤ)
            else (Nat.ofDigitChars 10 digits 0 : ℤ)), (scanSign cs).2.dropWhile Char.isDigit)
      else (none, c :: cs)

/-- The digits in front of the point: a zero stands alone. -/
def scanWhole : List Char → List Char × List Char
  | '0' :: cs => (['0'], cs)
  | cs => (cs.takeWhile Char.isDigit, cs.dropWhile Char.isDigit)

section Scanner

variable (nearest : Bool → ℚ → PyFloat)

/-- A number from its parts; it is an integer without fraction and exponent. -/
def readNumber (negative : Bool) (whole : List Char) (fraction : Option (List Char))
    (exponent : Option ℤ) : Option Json :=
  match fraction, exponent with
  | none, none =>
      if whole.length ≤ intMaxStrDigits then
        some (.int (if negative then -(Nat.ofDigitChars 10 whole 0 : ℤ)
          else (Nat.ofDigitChars 10 whole 0 : ℤ)))
      else none
  | fraction, exponent =>
      some (.float (nearest negative
        ((Nat.ofDigitChars 10 (whole ++ fraction.getD []) 0 : ℚ) *
          (10 : ℚ) ^ (exponent.getD 0 - ((fraction.getD []).length : ℤ)))))

/-- A number without its sign. -/
def scanUnsigned (negative : Bool) (cs : List Char) : Option (Json × List Char) :=
  let whole := scanWhole cs
  let fraction := scanFraction whole.2
  let exponent := scanExponent fraction.2
  if whole.1 = [] then none
  else
    (readNumber nearest negative whole.1 fraction.1 exponent.1).map fun a => (a, exponent.2)

/-- A number with its sign. -/
def scanNumber : List Char → Option (Json × List Char)
  | '-' :: cs => scanUnsigned nearest true cs
  | cs => scanUnsigned nearest false cs

/-- The words of JSON, and the three Python adds. -/
def jsonWords : List (List Char × Json) :=
  [(['n', 'u', 'l', 'l'], .null), (['t', 'r', 'u', 'e'], .bool true),
    (['f', 'a', 'l', 's', 'e'], .bool false), (['N', 'a', 'N'], .float .nan),
    (['I', 'n', 'f', 'i', 'n', 'i', 't', 'y'], .float (.infinity false)),
    (['-', 'I', 'n', 'f', 'i', 'n', 'i', 't', 'y'], .float (.infinity true))]

/-- A word or a number. -/
def scanAtom (cs : List Char) : Option (Json × List Char) :=
  match jsonWords.find? fun w => w.1.isPrefixOf cs with
  | some w => some (w.2, cs.drop w.1.length)
  | none => scanNumber nearest cs

/-- The dict of the pairs read: a repeated key takes the last value. -/
def objOfPairs (pairs : List (String × Json)) : Obj :=
  pairs.foldl (fun o f => o.set f.1 f.2) []

mutual

/-- A value at the front of a text, and what follows it. -/
def scanValue : ℕ → List Char → Option (Json × List Char)
  | 0, _ => none
  | _ + 1, [] => none
  | n + 1, c :: cs =>
      if c = quotation then (scanString cs).map fun r => (.str r.1, r.2)
      else if c = '[' then
        match skipSpace cs with
        | [] => none
        | d :: after =>
            -- an empty array has no item to scan
            if d = ']' then some (.arr [], after)
            else (scanItems n (d :: after)).map fun r => (.arr r.1, r.2)
      else if c = leftBrace then
        match skipSpace cs with
        | [] => none
        | d :: after =>
            if d = rightBrace then some (.obj [], after)
            else (scanFields n (d :: after)).map fun r => (.obj (objOfPairs r.1), r.2)
      else scanAtom nearest (c :: cs)

/-- The items of an array, the bracket that closes it included. -/
def scanItems : ℕ → List Char → Option (List Json × List Char)
  | 0, _ => none
  | n + 1, cs =>
      (scanValue n cs).bind fun r =>
        match skipSpace r.2 with
        | [] => none
        | d :: after =>
            if d = ']' then some ([r.1], after)
            else if d = ',' then
              (scanItems n (skipSpace after)).map fun s => (r.1 :: s.1, s.2)
            else none

/-- The pairs of an object, the brace that closes it included. -/
def scanFields : ℕ → List Char → Option (List (String × Json) × List Char)
  | 0, _ => none
  | _ + 1, [] => none
  | n + 1, c :: cs =>
      if c = quotation then
        (scanString cs).bind fun k =>
          match skipSpace k.2 with
          | [] => none
          | d :: after =>
              if d = ':' then
                (scanValue n (skipSpace after)).bind fun r =>
                  match skipSpace r.2 with
                  | [] => none
                  | d :: after =>
                      if d = rightBrace then some ([(k.1, r.1)], after)
                      else if d = ',' then
                        (scanFields n (skipSpace after)).map fun s => ((k.1, r.1) :: s.1, s.2)
                      else none
              else none
      else none

end

/-- The byte order mark, which no text may begin with. -/
def byteOrderMark : Char := Char.ofNat 0xfeff

/-- `json.loads` of a text; `none` is one of its errors. -/
def loadsText (text : String) : Option Json :=
  let cs := text.toList
  if cs.head? = some byteOrderMark then none
  else
    (scanValue nearest (2 * (skipSpace cs).length + 1) (skipSpace cs)).bind fun r =>
      if skipSpace r.2 = [] then some r.1 else none

end Scanner

end Python
