import AfricaFrontier.Python.Json
import Mathlib.Data.List.TakeWhile
import Mathlib.Tactic.Linarith
import Mathlib.Tactic.Ring

/-!
# UUIDs and their texts

A UUID is its 128-bit number.  `str` writes it in one way, in 32 hexadecimal digits in five
groups.  `uuid.UUID` reads many texts: it drops every `urn:`, `uuid:` and hyphen and the
braces at both ends, and hands what is left to `int(…, 16)` if that is 32 characters long.
`int` in turn takes spaces around the number, a sign, the prefix `0x`, underscores between
digits and the decimal digits of any script.

`parseUuid_strUuid` is the round trip.

The reader is modelled with all that it takes, since a route compares the text it was given with
the text that is written: the two may differ and mean one UUID.
-/

namespace Python

/-! ## `int(s, 16)`

The characters are brought to ASCII first, as `int` does. -/

/-- The zeros of the decimal digits; the other nine follow each. -/
def decimalZeros : List ℕ :=
  [0x30, 0x660, 0x6f0, 0x7c0, 0x966, 0x9e6, 0xa66, 0xae6, 0xb66, 0xbe6, 0xc66, 0xce6, 0xd66,
    0xde6, 0xe50, 0xed0, 0xf20, 0x1040, 0x1090, 0x17e0, 0x1810, 0x1946, 0x19d0, 0x1a80, 0x1a90,
    0x1b50, 0x1bb0, 0x1c40, 0x1c50, 0xa620, 0xa8d0, 0xa900, 0xa9d0, 0xa9f0, 0xaa50, 0xabf0,
    0xff10, 0x104a0, 0x10d30, 0x11066, 0x110f0, 0x11136, 0x111d0, 0x112f0, 0x11450, 0x114d0,
    0x11650, 0x116c0, 0x11730, 0x118e0, 0x11950, 0x11c50, 0x11d50, 0x11da0, 0x16a60, 0x16ac0,
    0x16b50, 0x1d7ce, 0x1d7d8, 0x1d7e2, 0x1d7ec, 0x1d7f6, 0x1e140, 0x1e2f0, 0x1e950, 0x1fbf0]

/-- Decimal digits and spaces beyond ASCII become the ASCII ones. -/
def toAscii (c : Char) : Char :=
  if c.toNat < 128 then c
  else
    match decimalZeros.find? fun first => decide (first ≤ c.toNat ∧ c.toNat < first + 10) with
    | some first => Char.ofNat (0x30 + (c.toNat - first))
    | none => if isSpace c then ' ' else c

/-- The spaces of C. -/
def isAsciiSpace (c : Char) : Bool := c.toNat = 0x20 || (0x09 ≤ c.toNat && c.toNat ≤ 0x0d)

/-- The value of a hexadecimal digit. -/
def hexDigit (c : Char) : Option ℕ :=
  if 0x30 ≤ c.toNat ∧ c.toNat ≤ 0x39 then some (c.toNat - 0x30)
  else if 0x61 ≤ c.toNat ∧ c.toNat ≤ 0x66 then some (c.toNat - 0x57)
  else if 0x41 ≤ c.toNat ∧ c.toNat ≤ 0x46 then some (c.toNat - 0x37)
  else none

/-- The digits of a number, with single underscores between them; `value` is what has been
read, and `digit` whether a digit came last. -/
def readHex (value : ℕ) (digit : Bool) : List Char → Option ℕ
  | [] => if digit then some value else none
  | c :: cs =>
      if c = '_' then if digit then readHex value false cs else none
      else (hexDigit c).bind fun d => readHex (16 * value + d) true cs

/-- A number after its sign, with or without the prefix. -/
def readPrefixedHex : List Char → Option ℕ
  | '0' :: x :: cs =>
      if x = 'x' ∨ x = 'X' then readHex 0 false (if cs.head? = some '_' then cs.tail else cs)
      else readHex 0 false ('0' :: x :: cs)
  | cs => readHex 0 false cs

/-- `int(s, 16)`. -/
def intHex (s : List Char) : Option ℤ :=
  let body := ((s.map toAscii).dropWhile isAsciiSpace).reverse.dropWhile isAsciiSpace
  readSigned (fun cs => (readPrefixedHex cs).map Int.ofNat) Int.neg body.reverse

/-! ## `uuid.UUID(text)`

Replacing, stripping, a length, and the digits. -/

/-- `s.replace(pattern, "")`; the first characters are part of a match that is being
dropped. -/
def removeText (pattern : List Char) : ℕ → List Char → List Char
  | _, [] => []
  | skip + 1, _ :: cs => removeText pattern skip cs
  | 0, c :: cs =>
      if pattern.isPrefixOf (c :: cs) then removeText pattern (pattern.length - 1) cs
      else c :: removeText pattern 0 cs

/-- `s.strip("\x7b\x7d")`. -/
def stripBraces (s : List Char) : List Char :=
  let brace (c : Char) : Bool := c.toNat = 0x7b || c.toNat = 0x7d
  ((s.dropWhile brace).reverse.dropWhile brace).reverse

/-- `uuid.UUID(text)`; `none` is its `ValueError`. -/
def parseUuid (text : String) : Option ℕ :=
  let bare := removeText "uuid:".toList 0 (removeText "urn:".toList 0 text.toList)
  let hex := (stripBraces bare).filter (· ≠ '-')
  if hex.length = 32 then
    match intHex hex with
    | some (.ofNat n) => if n < 2 ^ 128 then some n else none
    | _ => none
  else none

/-! ## `str(uuid)`

32 digits and four hyphens. -/

/-- A hexadecimal digit, in lower case. -/
def hexChar (d : ℕ) : Char := if d < 10 then Char.ofNat (0x30 + d) else Char.ofNat (0x57 + d)

/-- The last `k` hexadecimal digits of a number. -/
def hexDigits : ℕ → ℕ → List Char
  | 0, _ => []
  | k + 1, n => hexDigits k (n / 16) ++ [hexChar (n % 16)]

/-- `str` of a UUID. -/
def strUuid (n : ℕ) : String :=
  String.ofList (hexDigits 8 (n / 16 ^ 24) ++ '-' :: hexDigits 4 (n / 16 ^ 20) ++
    '-' :: hexDigits 4 (n / 16 ^ 16) ++ '-' :: hexDigits 4 (n / 16 ^ 12) ++
      '-' :: hexDigits 12 n)

/-- One UUID in five of its texts, and a text that is none. -/
example : strUuid 0x12345678abcdef01 = "00000000-0000-0000-1234-5678abcdef01" ∧
    ["00000000-0000-0000-1234-5678abcdef01", "URN-00000000", "0000000000000000123456789ABCDEF01",
      "urn:uuid:\x7b000000000000000012345678ABCDEF01\x7d", "0x00000000000000" ++ "12345678abcdef01",
      "+000000000000000_1_2345678abcdef"].map parseUuid =
      [some 0x12345678abcdef01, none, none, some 0x12345678abcdef01, some 0x12345678abcdef01,
        some 0x12345678abcdef] := by
  decide +kernel

/-! ## The round trip

The hyphens are dropped and nothing else, and the digits stand for the number. -/

/-- The digits `str` writes. -/
def lowerHex : List Char :=
  ['0', '1', '2', '3', '4', '5', '6', '7', '8', '9', 'a', 'b', 'c', 'd', 'e', 'f']

/-- What is checked digit by digit. -/
theorem forall_lowerHex (p : Char → Prop) [DecidablePred p]
    (h : (lowerHex.all fun c => decide (p c)) = true) : ∀ c ∈ lowerHex, p c :=
  fun c hc => of_decide_eq_true (List.all_eq_true.mp h c hc)

/-- A digit that is written is a lower-case hexadecimal digit. -/
theorem hexChar_mem {d : ℕ} (h : d < 16) : hexChar d ∈ lowerHex := by
  have hall : ∀ d < 16, hexChar d ∈ lowerHex := by decide
  exact hall d h

/-- Each of several digits that are written is a lower-case hexadecimal digit. -/
theorem hexDigits_mem {k n : ℕ} {c : Char} (h : c ∈ hexDigits k n) : c ∈ lowerHex := by
  induction k generalizing n with
  | zero => cases h
  | succ k ih =>
      rcases List.mem_append.mp h with hfront | hlast
      · exact ih hfront
      · rw [List.mem_singleton.mp hlast]
        exact hexChar_mem (Nat.mod_lt n (by decide))

/-- As many digits as were asked for. -/
@[simp] theorem hexDigits_length (k n : ℕ) : (hexDigits k n).length = k := by
  induction k generalizing n with
  | zero => rfl
  | succ k ih => simp [hexDigits, ih]

/-- More digits, in two parts. -/
theorem hexDigits_append (j k n : ℕ) :
    hexDigits j (n / 16 ^ k) ++ hexDigits k n = hexDigits (j + k) n := by
  induction k generalizing n with
  | zero => simp [hexDigits]
  | succ k ih =>
      have hdiv : n / 16 ^ (k + 1) = n / 16 / 16 ^ k := by
        rw [Nat.div_div_eq_div_mul, pow_succ, mul_comm]
      rw [hdiv, ← Nat.add_assoc, hexDigits, hexDigits, ← List.append_assoc, ih]

/-- One digit more. -/
theorem readHex_cons {d value : ℕ} {digit : Bool} {cs : List Char} (h : d < 16) :
    readHex value digit (hexChar d :: cs) = readHex (16 * value + d) true cs := by
  have hall : ∀ d < 16, hexChar d ≠ '_' ∧ hexDigit (hexChar d) = some d := by decide
  obtain ⟨hne, hvalue⟩ := hall d h
  rw [readHex, if_neg hne, hvalue, Option.bind_some]

/-- Reading digits puts the number they stand for behind what has been read. -/
theorem readHex_hexDigits (k n value : ℕ) (digit : Bool) (cs : List Char) :
    readHex value digit (hexDigits (k + 1) n ++ cs) =
      readHex (16 ^ (k + 1) * value + n % 16 ^ (k + 1)) true cs := by
  induction k generalizing n cs with
  | zero =>
      show readHex value digit (hexChar (n % 16) :: cs) = _
      rw [readHex_cons (Nat.mod_lt n (by decide))]
      norm_num
  | succ k ih =>
      have hlast : n % 16 ^ (k + 1 + 1) = n % 16 + 16 * (n / 16 % 16 ^ (k + 1)) := by
        rw [pow_succ 16 (k + 1), mul_comm (16 ^ (k + 1)) 16, Nat.mod_mul]
      rw [hexDigits, List.append_assoc, ih, List.singleton_append,
        readHex_cons (Nat.mod_lt n (by decide)), hlast, pow_succ 16 (k + 1)]
      congr 1
      ring

/-- A text without the first character of the pattern is left as it is. -/
theorem removeText_eq_self {p : Char} {pattern : List Char} {cs : List Char}
    (h : ∀ c ∈ cs, c ≠ p) : removeText (p :: pattern) 0 cs = cs := by
  induction cs with
  | nil => rfl
  | cons c cs ih =>
      have hne : p ≠ c := Ne.symm (h c List.mem_cons_self)
      have hrest := ih fun d hd => h d (List.mem_cons_of_mem _ hd)
      simp [removeText, List.isPrefixOf, hne, hrest]

/-- Nothing is dropped where the test never holds. -/
theorem dropWhile_eq_self {q : Char → Bool} {cs : List Char} (h : ∀ c ∈ cs, q c = false) :
    cs.dropWhile q = cs := by
  cases cs with
  | nil => rfl
  | cons c cs => rw [List.dropWhile_cons_of_neg (by simp [h c List.mem_cons_self])]

/-- Nothing is dropped at either end. -/
theorem strip_eq_self {q : Char → Bool} {cs : List Char} (h : ∀ c ∈ cs, q c = false) :
    ((cs.dropWhile q).reverse.dropWhile q).reverse = cs := by
  have hback : ∀ c ∈ cs.reverse, q c = false := fun c hc => h c (List.mem_reverse.mp hc)
  rw [dropWhile_eq_self h, dropWhile_eq_self hback, List.reverse_reverse]

/-- No digit looks like a prefix. -/
theorem readPrefixedHex_of_lowerHex {cs : List Char} (h : ∀ c ∈ cs, c ∈ lowerHex) :
    readPrefixedHex cs = readHex 0 false cs := by
  unfold readPrefixedHex
  split
  · rename_i x cs'
    have hx : x ∈ lowerHex := h x (List.mem_cons_of_mem _ List.mem_cons_self)
    rw [if_neg]
    rintro (rfl | rfl)
    · exact absurd hx (by decide)
    · exact absurd hx (by decide)
  · rfl

/-- No digit looks like a sign. -/
theorem readSigned_of_lowerHex {α : Type} {read : List Char → Option α} {neg : α → α}
    {cs : List Char} (h : ∀ c ∈ cs, c ∈ lowerHex) : readSigned read neg cs = read cs := by
  unfold readSigned
  split
  · exact absurd (h '-' List.mem_cons_self) (by decide)
  · exact absurd (h '+' List.mem_cons_self) (by decide)
  · rfl

/-- Digits are read as the number they were written for. -/
theorem intHex_hexDigits {k n : ℕ} (h : n < 16 ^ (k + 1)) :
    intHex (hexDigits (k + 1) n) = some (Int.ofNat n) := by
  have hmem : ∀ c ∈ hexDigits (k + 1) n, c ∈ lowerHex := fun _ => hexDigits_mem
  have hplain : ∀ c ∈ lowerHex, toAscii c = c ∧ isAsciiSpace c = false :=
    forall_lowerHex (fun c => toAscii c = c ∧ isAsciiSpace c = false) (by decide)
  have hascii : (hexDigits (k + 1) n).map toAscii = hexDigits (k + 1) n :=
    (List.map_congr_left fun c hc => (hplain c (hmem c hc)).1).trans (List.map_id _)
  have hspaces : ∀ c ∈ hexDigits (k + 1) n, isAsciiSpace c = false :=
    fun c hc => (hplain c (hmem c hc)).2
  have hread := readHex_hexDigits k n 0 false []
  simp only [List.append_nil] at hread
  rw [intHex, hascii, strip_eq_self hspaces, readSigned_of_lowerHex hmem,
    readPrefixedHex_of_lowerHex hmem, hread, mul_zero, zero_add, Nat.mod_eq_of_lt h]
  rfl

/-- The digits of a UUID, without the hyphens. -/
theorem strUuid_digits (n : ℕ) :
    (strUuid n).toList.filter (· ≠ '-') = hexDigits 32 n := by
  have hkeep : ∀ k m, (hexDigits k m).filter (fun c => decide (c ≠ '-')) = hexDigits k m := by
    intro k m
    refine List.filter_eq_self.mpr fun c hc => ?_
    have hhyphen := forall_lowerHex (fun c => c ≠ '-') (by decide) c (hexDigits_mem hc)
    exact decide_eq_true hhyphen
  have hjoin := hexDigits_append
  simp only [strUuid, String.toList_ofList, List.filter_append, List.filter_cons, hkeep,
    ne_eq, not_true_eq_false, decide_false, Bool.false_eq_true, if_false]
  have h₁ := hjoin 8 4 (n / 16 ^ 20)
  have h₂ := hjoin 12 4 (n / 16 ^ 16)
  have h₃ := hjoin 16 4 (n / 16 ^ 12)
  have h₄ := hjoin 20 12 n
  simp only [Nat.div_div_eq_div_mul, ← pow_add] at h₁ h₂ h₃
  rw [h₁, h₂, h₃, h₄]

/-- The text of a UUID is not empty. -/
theorem strUuid_ne_empty (n : ℕ) : strUuid n ≠ "" := by
  intro hempty
  have hlength := congrArg List.length (strUuid_digits n)
  rw [hempty, hexDigits_length] at hlength
  simp at hlength

/-- **The round trip**: `uuid.UUID(str(u)) == u`. -/
theorem parseUuid_strUuid {n : ℕ} (h : n < 2 ^ 128) : parseUuid (strUuid n) = some n := by
  have hchars : ∀ c ∈ (strUuid n).toList, c ∈ '-' :: lowerHex := by
    intro c hc
    by_cases hhyphen : c = '-'
    · rw [hhyphen]
      exact List.mem_cons_self
    · have hdigit : c ∈ (strUuid n).toList.filter (· ≠ '-') :=
        List.mem_filter.mpr ⟨hc, decide_eq_true hhyphen⟩
      rw [strUuid_digits] at hdigit
      exact List.mem_cons_of_mem _ (hexDigits_mem hdigit)
  have hplain : ∀ c ∈ '-' :: lowerHex,
      c ≠ 'u' ∧ (decide (c.toNat = 0x7b) || decide (c.toNat = 0x7d)) = false := by
    refine List.forall_mem_cons.mpr ⟨by decide, forall_lowerHex (fun c => c ≠ 'u' ∧
      (decide (c.toNat = 0x7b) || decide (c.toNat = 0x7d)) = false) (by decide)⟩
  -- nothing is dropped but the hyphens: both prefixes begin with a letter that is no digit
  have hu : ∀ c ∈ (strUuid n).toList, c ≠ 'u' := fun c hc => (hplain c (hchars c hc)).1
  have hurn : removeText "urn:".toList 0 (strUuid n).toList = (strUuid n).toList :=
    removeText_eq_self hu
  have huuid : removeText "uuid:".toList 0 (strUuid n).toList = (strUuid n).toList :=
    removeText_eq_self hu
  have hbraces : stripBraces (strUuid n).toList = (strUuid n).toList :=
    strip_eq_self fun c hc => (hplain c (hchars c hc)).2
  have hbound : n < 16 ^ (31 + 1) := by
    have hpow : (2 : ℕ) ^ 128 = 16 ^ (31 + 1) := by norm_num
    omega
  simp only [parseUuid, hurn, huuid, hbraces, strUuid_digits, hexDigits_length, if_true,
    intHex_hexDigits hbound]
  exact if_pos h

end Python
