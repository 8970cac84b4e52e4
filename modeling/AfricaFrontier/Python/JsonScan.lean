import AfricaFrontier.Python.JsonText
import AfricaFrontier.Python.Url

/-!
# Strings and numbers of a JSON text

`loads` reads the strings and the numbers `dumps` writes.  A character comes back from its
escape in front of any rest (`scanUnits_escapeChar`), a character beyond the basic plane
from two of them.  A number is its sign, its whole digits, a fraction and an exponent
(`JsonNumeral`); the layouts `repr` has for a float are such numbers, and all stand for the
digits of the float and its point (`readNumber_floatNumeral`).

Lemmas on the scanner have one form throughout: the text of a thing, in front of any rest that
does not go on with it, is scanned as the thing and the rest. They are put together in the order
in which the scanner calls its parts.
-/

namespace Python

/-! ## Strings

The writer escapes a character into ASCII; the reader takes units of 16 bits back and joins those
that are surrogates. -/

/-- The units of a character: two surrogates beyond the basic plane. -/
def charUnits (c : Char) : List ℕ :=
  if c.toNat < 0x10000 then [c.toNat]
  else [0xd800 + (c.toNat - 0x10000) / 0x400, 0xdc00 + (c.toNat - 0x10000) % 0x400]

/-- A hexadecimal digit is read again. -/
theorem hexDigit_hexChar {d : ℕ} (h : d < 16) : hexDigit (hexChar d) = some d := by
  have hall : ∀ d < 16, hexDigit (hexChar d) = some d := by decide
  exact hall d h

/-- Four hexadecimal digits are read again. -/
theorem scanUnits_unicodeEscape {n : ℕ} (h : n < 0x10000) (rest : List Char) :
    scanUnits (unicodeEscape n ++ rest) =
      (scanUnits rest).map fun r => (n :: r.1, r.2) := by
  have hquad : hexQuad (hexChar (n / 16 / 16 / 16 % 16)) (hexChar (n / 16 / 16 % 16))
      (hexChar (n / 16 % 16)) (hexChar (n % 16)) = some n := by
    have hlt : ∀ m : ℕ, m % 16 < 16 := fun m => Nat.mod_lt m (by decide)
    simp only [hexQuad, hexDigit_hexChar (hlt _), Option.bind_some, Option.map_some]
    congr 1
    omega
  show scanUnits (backslash :: 'u' :: hexChar (n / 16 / 16 / 16 % 16) ::
    hexChar (n / 16 / 16 % 16) :: hexChar (n / 16 % 16) :: hexChar (n % 16) :: rest) = _
  have hquote : backslash ≠ quotation := by decide
  rw [scanUnits, if_neg hquote, if_pos rfl]
  simp only [hquad, Option.bind_some]

/-- An escape of one letter is read again. -/
theorem scanUnits_simple {c : Char} {n : ℕ} (hc : c ≠ 'u') (h : simpleEscape c = some n)
    (rest : List Char) :
    scanUnits (backslash :: c :: rest) = (scanUnits rest).map fun r => (n :: r.1, r.2) := by
  have hquote : backslash ≠ quotation := by decide
  rw [scanUnits.eq_def]
  simp only [if_neg hquote, if_true]
  split
  · rename_i heq
    exact absurd (List.cons.inj heq).1 hc
  · rename_i heq
    obtain ⟨rfl, rfl⟩ := List.cons.inj heq
    rw [h, Option.bind_some]
  · rename_i heq
    cases heq

/-- Most characters are read as they are. -/
theorem scanUnits_plain {c : Char} (hquote : c ≠ quotation) (hbackslash : c ≠ backslash)
    (h : 0x20 ≤ c.toNat) (rest : List Char) :
    scanUnits (c :: rest) = (scanUnits rest).map fun r => (c.toNat :: r.1, r.2) := by
  rw [scanUnits.eq_def]
  simp only [if_neg hquote, if_neg hbackslash, if_neg (show ¬ c.toNat < 0x20 by omega)]

/-- The quote ends the string. -/
theorem scanUnits_quotation (rest : List Char) :
    scanUnits (quotation :: rest) = some ([], rest) := by
  rw [scanUnits.eq_def]
  exact if_pos rfl

/-- Code points end here. -/
theorem toNat_lt (c : Char) : c.toNat < 0x110000 := by
  rcases c.valid with h | h
  · exact Nat.lt_trans h (by decide)
  · exact h.2

/-- No character is a surrogate. -/
theorem not_surrogate (c : Char) : c.toNat < 0xd800 ∨ 0xe000 ≤ c.toNat := by
  rcases c.valid with h | h
  · exact Or.inl h
  · exact Or.inr h.1

/-- A written character is read as its units. -/
theorem scanUnits_escapeChar (c : Char) (rest : List Char) :
    scanUnits (escapeChar c ++ rest) =
      (scanUnits rest).map fun r => (charUnits c ++ r.1, r.2) := by
  -- a character of the basic plane is one unit
  have hsmall : c.toNat < 0x10000 → charUnits c = [c.toNat] := fun h => if_pos h
  unfold escapeChar
  split
  · rename_i hc
    rw [hsmall (by rcases hc with rfl | rfl <;> decide)]
    exact scanUnits_simple (by rcases hc with rfl | rfl <;> decide)
      (by rcases hc with rfl | rfl <;> rfl) rest
  · rename_i hc
    rw [not_or] at hc
    split
    · rename_i hn
      rw [hsmall (by omega), hn]
      exact scanUnits_simple (by decide) rfl rest
    · split
      · rename_i hn
        rw [hsmall (by omega), hn]
        exact scanUnits_simple (by decide) rfl rest
      · split
        · rename_i hn
          rw [hsmall (by omega), hn]
          exact scanUnits_simple (by decide) rfl rest
        · split
          · rename_i hn
            rw [hsmall (by omega), hn]
            exact scanUnits_simple (by decide) rfl rest
          · split
            · rename_i hn
              rw [hsmall (by omega), hn]
              exact scanUnits_simple (by decide) rfl rest
            · split
              · rename_i hn
                rw [hsmall (by omega)]
                exact scanUnits_plain hc.1 hc.2 hn.1 rest
              · split
                · rename_i hn
                  rw [hsmall hn]
                  exact scanUnits_unicodeEscape hn rest
                · rename_i hn
                  -- beyond it there are two units, each below the limit of four digits
                  have hlt := toNat_lt c
                  rw [charUnits, if_neg hn, List.append_assoc,
                    scanUnits_unicodeEscape (by omega), scanUnits_unicodeEscape (by omega),
                    Option.map_map]
                  rfl

/-- The characters of a string, up to its quote. -/
theorem scanUnits_escaped (cs rest : List Char) :
    scanUnits (cs.flatMap escapeChar ++ quotation :: rest) =
      some (cs.flatMap charUnits, rest) := by
  induction cs with
  | nil => exact scanUnits_quotation rest
  | cons c cs ih =>
      rw [List.flatMap_cons, List.append_assoc, scanUnits_escapeChar, ih]
      rfl

/-- The units of a character are joined to it. -/
theorem joinUnits_charUnits (c : Char) (ns : List ℕ) :
    joinUnits (charUnits c ++ ns) = (joinUnits ns).map (c :: ·) := by
  have hlt := toNat_lt c
  have hplain := not_surrogate c
  unfold charUnits
  split
  · have hhigh : isHighSurrogate c.toNat = false := decide_eq_false (by omega)
    have hlow : isLowSurrogate c.toNat = false := decide_eq_false (by omega)
    rw [List.singleton_append, joinUnits.eq_def]
    simp only [hhigh, hlow, Bool.false_eq_true, if_false, Char.ofNat_toNat]
  · have hhigh : isHighSurrogate (0xd800 + (c.toNat - 0x10000) / 0x400) = true :=
      decide_eq_true (by omega)
    have hlow : isLowSurrogate (0xdc00 + (c.toNat - 0x10000) % 0x400) = true :=
      decide_eq_true (by omega)
    have hvalue : 0x10000 + (0xd800 + (c.toNat - 0x10000) / 0x400 - 0xd800) * 0x400 +
        (0xdc00 + (c.toNat - 0x10000) % 0x400 - 0xdc00) = c.toNat := by omega
    show joinUnits (_ :: _ :: ns) = _
    rw [joinUnits.eq_def]
    simp only [hhigh, hlow, if_true, hvalue, Char.ofNat_toNat]

/-- The units of a text are joined to it. -/
theorem joinUnits_units (cs : List Char) : joinUnits (cs.flatMap charUnits) = some cs := by
  induction cs with
  | nil => rfl
  | cons c cs ih =>
      rw [List.flatMap_cons, joinUnits_charUnits, ih]
      rfl

/-- A written string is read again. -/
theorem scanString_escaped (s : String) (rest : List Char) :
    scanString (s.toList.flatMap escapeChar ++ quotation :: rest) = some (s, rest) := by
  rw [scanString, scanUnits_escaped, Option.bind_some, joinUnits_units, Option.map_some,
    String.ofList_toList]

/-! ## Numbers

The parts of a number, and the scanners of each part. -/

/-- A digit is not another character. -/
theorem ne_of_isDigit {c d : Char} (hc : c.isDigit = true) (hd : d.isDigit = false) : c ≠ d := by
  rintro rfl
  rw [hc] at hd
  cases hd

/-- A number ends here: neither a digit nor a fraction nor an exponent follows. -/
def Stops (rest : List Char) : Prop :=
  ∀ c ∈ rest.head?, c.isDigit = false ∧ c ≠ '.' ∧ c ≠ 'e' ∧ c ≠ 'E'

/-- The digits of a whole number, without zeros in front. -/
structure IsWhole (whole : List Char) : Prop where
  digits : ∀ c ∈ whole, c.isDigit = true
  nonempty : whole ≠ []
  zero : whole.head? = some '0' → whole = ['0']

/-- A number as it is written, without its sign; the exponent by its sign and digits. -/
structure JsonNumeral where
  whole : List Char
  fraction : Option (List Char)
  power : Option (Bool × List Char)

namespace JsonNumeral

/-- The fraction, with its point. -/
def fractionText (numeral : JsonNumeral) : List Char :=
  match numeral.fraction with
  | none => []
  | some ds => '.' :: ds

/-- The exponent, with its letter and its sign. -/
def powerText (numeral : JsonNumeral) : List Char :=
  match numeral.power with
  | none => []
  | some (negative, ds) => 'e' :: (if negative then '-' else '+') :: ds

/-- The number. -/
def text (numeral : JsonNumeral) : List Char :=
  numeral.whole ++ (numeral.fractionText ++ numeral.powerText)

/-- The exponent, as an integer. -/
def exponent (numeral : JsonNumeral) : Option ℤ :=
  numeral.power.map fun p =>
    if p.1 then -(Nat.ofDigitChars 10 p.2 0 : ℤ) else (Nat.ofDigitChars 10 p.2 0 : ℤ)

/-- Its parts are digits. -/
structure WellFormed (numeral : JsonNumeral) : Prop where
  whole : IsWhole numeral.whole
  fraction : ∀ ds ∈ numeral.fraction, ds ≠ [] ∧ ∀ c ∈ ds, c.isDigit = true
  power : ∀ p ∈ numeral.power, p.2 ≠ [] ∧ ∀ c ∈ p.2, c.isDigit = true

end JsonNumeral

/-- The whole digits are scanned. -/
theorem scanWhole_append {whole rest : List Char} (h : IsWhole whole)
    (hrest : ∀ c ∈ rest.head?, c.isDigit = false) :
    scanWhole (whole ++ rest) = (whole, rest) := by
  by_cases hzero : whole.head? = some '0'
  · rw [h.zero hzero]
    rfl
  · rw [scanWhole.eq_def]
    split
    · rename_i heq
      obtain ⟨c, ds, rfl⟩ := List.exists_cons_of_ne_nil h.nonempty
      exact absurd (congrArg some (List.cons.inj heq).1) hzero
    · rw [takeWhile_append h.digits hrest, dropWhile_append h.digits hrest]

/-- The fraction of a number is scanned. -/
theorem scanFraction_append {ds rest : List Char} (hne : ds ≠ [])
    (hds : ∀ c ∈ ds, c.isDigit = true) (hrest : ∀ c ∈ rest.head?, c.isDigit = false) :
    scanFraction ('.' :: (ds ++ rest)) = (some ds, rest) := by
  rw [scanFraction, takeWhile_append hds hrest, dropWhile_append hds hrest, if_neg hne]

/-- Where there is no fraction, nothing is scanned. -/
theorem scanFraction_none {rest : List Char} (h : ∀ c ∈ rest.head?, c ≠ '.') :
    scanFraction rest = (none, rest) := by
  rw [scanFraction.eq_def]
  split
  · exact absurd rfl (h '.' rfl)
  · rfl

/-- The exponent of a number is scanned. -/
theorem scanExponent_append {ds rest : List Char} (negative : Bool) (hne : ds ≠ [])
    (hds : ∀ c ∈ ds, c.isDigit = true) (hrest : ∀ c ∈ rest.head?, c.isDigit = false) :
    scanExponent ('e' :: (if negative then '-' else '+') :: (ds ++ rest)) =
      (some (if negative then -(Nat.ofDigitChars 10 ds 0 : ℤ)
        else (Nat.ofDigitChars 10 ds 0 : ℤ)), rest) := by
  have hsign : scanSign ((if negative then '-' else '+') :: (ds ++ rest)) =
      (negative, ds ++ rest) := by
    cases negative <;> rfl
  rw [scanExponent.eq_def]
  simp only [true_or, if_true, hsign, takeWhile_append hds hrest, dropWhile_append hds hrest,
    if_neg hne]

/-- Where there is no exponent, nothing is scanned. -/
theorem scanExponent_none {rest : List Char} (h : ∀ c ∈ rest.head?, c ≠ 'e' ∧ c ≠ 'E') :
    scanExponent rest = (none, rest) := by
  rw [scanExponent.eq_def]
  split
  · rfl
  · rename_i c cs
    have hc := h c rfl
    rw [if_neg (not_or.mpr hc)]

section Scanner

variable {nearest : Bool → ℚ → PyFloat}

/-- A number is read as its parts. -/
theorem scanUnsigned_text {numeral : JsonNumeral} (h : numeral.WellFormed) (negative : Bool)
    {rest : List Char} (hrest : Stops rest) :
    scanUnsigned nearest negative (numeral.text ++ rest) =
      (readNumber nearest negative numeral.whole numeral.fraction numeral.exponent).map
        fun a => (a, rest) := by
  -- from the end: the exponent, what it begins with, the fraction, what that begins with
  have hexponent : scanExponent (numeral.powerText ++ rest) = (numeral.exponent, rest) := by
    cases hpower : numeral.power with
    | none =>
        simp only [JsonNumeral.powerText, JsonNumeral.exponent, hpower]
        exact scanExponent_none fun c hc => (hrest c hc).2.2
    | some p =>
        obtain ⟨hne, hds⟩ := h.power p hpower
        simp only [JsonNumeral.powerText, JsonNumeral.exponent, hpower]
        exact scanExponent_append p.1 hne hds fun c hc => (hrest c hc).1
  have hpowerHead : ∀ c ∈ (numeral.powerText ++ rest).head?, c.isDigit = false ∧ c ≠ '.' := by
    intro c hc
    cases hpower : numeral.power with
    | none =>
        simp only [JsonNumeral.powerText, hpower] at hc
        exact ⟨(hrest c hc).1, (hrest c hc).2.1⟩
    | some p =>
        simp only [JsonNumeral.powerText, hpower] at hc
        obtain rfl := Option.some.inj hc
        exact ⟨by decide, by decide⟩
  have hfraction : scanFraction (numeral.fractionText ++ (numeral.powerText ++ rest)) =
      (numeral.fraction, numeral.powerText ++ rest) := by
    cases hparts : numeral.fraction with
    | none =>
        simp only [JsonNumeral.fractionText, hparts]
        exact scanFraction_none fun c hc => (hpowerHead c hc).2
    | some ds =>
        obtain ⟨hne, hds⟩ := h.fraction ds hparts
        simp only [JsonNumeral.fractionText, hparts]
        exact scanFraction_append hne hds fun c hc => (hpowerHead c hc).1
  have hwholeHead : ∀ c ∈ (numeral.fractionText ++ (numeral.powerText ++ rest)).head?,
      c.isDigit = false := by
    intro c hc
    cases hparts : numeral.fraction with
    | none =>
        simp only [JsonNumeral.fractionText, hparts] at hc
        exact (hpowerHead c hc).1
    | some ds =>
        simp only [JsonNumeral.fractionText, hparts] at hc
        obtain rfl := Option.some.inj hc
        decide
  simp only [JsonNumeral.text, List.append_assoc, scanUnsigned,
    scanWhole_append h.whole hwholeHead, hfraction, hexponent, if_neg h.whole.nonempty]

/-- A number begins with a digit. -/
theorem JsonNumeral.WellFormed.head {numeral : JsonNumeral} (h : numeral.WellFormed) :
    ∃ c cs, numeral.text = c :: cs ∧ c.isDigit = true := by
  obtain ⟨c, ds, hwhole⟩ := List.exists_cons_of_ne_nil h.whole.nonempty
  refine ⟨c, ds ++ (numeral.fractionText ++ numeral.powerText), ?_, ?_⟩
  · rw [JsonNumeral.text, hwhole, List.cons_append]
  · exact h.whole.digits c (by rw [hwhole]; exact List.mem_cons_self)

/-- No word begins with a digit, or with a sign and a digit. -/
theorem jsonWords_digit {c : Char} (h : c.isDigit = true) (negative : Bool) (cs : List Char) :
    jsonWords.find? (fun w => w.1.isPrefixOf ((if negative then ['-'] else []) ++ c :: cs)) =
      none := by
  have hne : ∀ d : Char, d.isDigit = false → (d == c) = false := fun d hd =>
    beq_eq_false_iff_ne.mpr (ne_of_isDigit h hd).symm
  rw [List.find?_eq_none]
  intro w hw
  -- `-Infinity` is the one word that begins with a sign
  have hstart : ∃ d ds, w.1 = d :: ds ∧ d.isDigit = false ∧ (d ≠ '-' ∨
      ∃ e es, ds = e :: es ∧ e.isDigit = false) := by
    simp only [jsonWords, List.mem_cons, List.not_mem_nil, or_false] at hw
    rcases hw with rfl | rfl | rfl | rfl | rfl | rfl
    · exact ⟨_, _, rfl, by decide, Or.inl (by decide)⟩
    · exact ⟨_, _, rfl, by decide, Or.inl (by decide)⟩
    · exact ⟨_, _, rfl, by decide, Or.inl (by decide)⟩
    · exact ⟨_, _, rfl, by decide, Or.inl (by decide)⟩
    · exact ⟨_, _, rfl, by decide, Or.inl (by decide)⟩
    · exact ⟨_, _, rfl, by decide, Or.inr ⟨_, _, rfl, by decide⟩⟩
  obtain ⟨d, ds, hword, hd, hminus⟩ := hstart
  rw [hword]
  cases negative with
  | false => simp [List.isPrefixOf, hne d hd]
  | true =>
      rcases hminus with hminus | ⟨e, es, rfl, he⟩
      · simp [List.isPrefixOf, hminus]
      · simp [List.isPrefixOf, hne e he]

/-- A number behind its sign is read as its parts. -/
theorem scanAtom_text {numeral : JsonNumeral} (h : numeral.WellFormed) (negative : Bool)
    {rest : List Char} (hrest : Stops rest) :
    scanAtom nearest ((if negative then ['-'] else []) ++ (numeral.text ++ rest)) =
      (readNumber nearest negative numeral.whole numeral.fraction numeral.exponent).map
        fun a => (a, rest) := by
  rw [← scanUnsigned_text h negative hrest]
  obtain ⟨c, cs, htext, hc⟩ := h.head
  rw [htext, List.cons_append, scanAtom, jsonWords_digit hc]
  cases negative with
  | true => rfl
  | false =>
      show scanNumber nearest (c :: (cs ++ rest)) = _
      rw [scanNumber.eq_def]
      split
      · rename_i heq
        exact absurd (List.cons.inj heq).1 (ne_of_isDigit hc (by decide))
      · rfl

end Scanner

/-! ## The digits of a number

What `repr` shows of a float are its digits without the zeros at the end. -/

/-- Digits are digits. -/
theorem isDigit_toDigits {n : ℕ} {c : Char} (h : c ∈ Nat.toDigits 10 n) : c.isDigit = true :=
  Nat.isDigit_of_mem_toDigits (by decide) (by decide) h

/-- Only zero begins with a zero. -/
theorem head_toDigits {n : ℕ} (h : (Nat.toDigits 10 n).head? = some '0') : n = 0 := by
  induction n using Nat.strong_induction_on with
  | _ n ih =>
      by_cases hn : n < 10
      · rw [Nat.toDigits_of_lt_base hn] at h
        exact Nat.digitChar_eq_zero.mp (Option.some.inj h)
      · have hsplit := Nat.toDigits_of_base_le (n := n) (b := 10) (by decide) (by omega)
        obtain ⟨c, cs, hfront⟩ := List.exists_cons_of_ne_nil
          (Nat.toDigits_ne_nil (n := n / 10) (b := 10))
        rw [hsplit, hfront] at h
        have hzero := ih (n / 10) (by omega) (by rw [hfront]; exact h)
        omega

/-- A zero is a digit. -/
theorem isDigit_of_mem_zero : ∀ c ∈ ['0'], c.isDigit = true := List.forall_mem_singleton.mpr rfl

/-- A zero alone is a whole number. -/
theorem isWhole_zero : IsWhole ['0'] :=
  ⟨isDigit_of_mem_zero, List.cons_ne_nil '0' [], fun _ => rfl⟩

/-- The digits of a number are a whole number. -/
theorem isWhole_toDigits (n : ℕ) : IsWhole (Nat.toDigits 10 n) where
  digits _ h := isDigit_toDigits h
  nonempty := Nat.toDigits_ne_nil
  zero h := by
    rw [head_toDigits h]
    rfl

/-- The text of an integer: a sign and digits. -/
theorem toList_toString (n : ℤ) :
    (toString n).toList = (if n < 0 then ['-'] else []) ++ Nat.toDigits 10 n.natAbs := by
  rw [Int.toString_eq_repr, Int.repr_eq_if]
  split
  · rename_i hn
    rw [if_neg (by omega), Nat.toList_repr, List.nil_append]
    congr 1
    omega
  · rename_i hn
    rw [if_pos (by omega), String.toList_append, Nat.toList_repr]
    congr 2
    omega

/-- The digits of a float: those of its number without the zeros at the end. -/
def significant (digits : ℕ) : List Char :=
  if ((Nat.toDigits 10 digits).reverse.dropWhile (· = '0')).reverse.isEmpty then ['0']
  else ((Nat.toDigits 10 digits).reverse.dropWhile (· = '0')).reverse

/-- Where its point stands, counted from the first of them. -/
def decimalPoint (digits : ℕ) (exponent : ℤ) : ℤ :=
  if digits = 0 then 1 else (Nat.toDigits 10 digits).length + exponent

/-- The zeros at the end can be put back. -/
theorem dropZeros (ds : List Char) :
    ∃ k, ds = (ds.reverse.dropWhile (· = '0')).reverse ++ List.replicate k '0' := by
  refine ⟨(ds.reverse.takeWhile (· = '0')).length, ?_⟩
  have hzeros : ds.reverse.takeWhile (· = '0') =
      List.replicate (ds.reverse.takeWhile (· = '0')).length '0' :=
    List.eq_replicate_of_mem fun c hc => by simpa using List.mem_takeWhile_imp hc
  calc ds = ds.reverse.reverse := (List.reverse_reverse ds).symm
    _ = (ds.reverse.takeWhile (· = '0') ++ ds.reverse.dropWhile (· = '0')).reverse := by
        rw [List.takeWhile_append_dropWhile]
    _ = _ := by
        rw [List.reverse_append, hzeros, List.reverse_replicate, List.length_replicate]

/-- Of a zero one digit is shown. -/
theorem significant_zero : significant 0 = ['0'] := by decide

/-- What is left out behind them are zeros. -/
theorem toDigits_significant {digits : ℕ} (h : digits ≠ 0) :
    ∃ k, Nat.toDigits 10 digits = significant digits ++ List.replicate k '0' := by
  obtain ⟨k, hk⟩ := dropZeros (Nat.toDigits 10 digits)
  refine ⟨k, ?_⟩
  unfold significant
  split
  · -- nothing but zeros is zero
    rename_i hempty
    have hzeros : Nat.toDigits 10 digits = List.replicate k '0' := by
      rw [List.isEmpty_iff.mp hempty, List.nil_append] at hk
      exact hk
    have hvalue := Nat.ofDigitChars_ten_toDigits (n := digits)
    rw [hzeros, Nat.ofDigitChars_replicate_zero, Nat.mul_zero] at hvalue
    exact absurd hvalue.symm h
  · exact hk

/-- What is shown is a whole number. -/
theorem isWhole_significant (digits : ℕ) : IsWhole (significant digits) := by
  by_cases h : digits = 0
  · rw [h, significant_zero]
    exact isWhole_zero
  · obtain ⟨k, hk⟩ := toDigits_significant h
    have hne : significant digits ≠ [] := by
      unfold significant
      split
      · decide
      · rename_i hempty
        exact fun hnil => hempty (List.isEmpty_iff.mpr hnil)
    refine ⟨fun c hc => ?_, hne, fun hhead => ?_⟩
    · exact isDigit_toDigits (by rw [hk]; exact List.mem_append_left _ hc)
    · have hfirst : (Nat.toDigits 10 digits).head? = some '0' := by
        rw [hk, List.head?_append, hhead]
        rfl
      exact absurd (head_toDigits hfirst) h

/-- A zero in front is a zero, and its point is behind it. -/
theorem decimalPoint_of_zero {digits : ℕ} (exponent : ℤ)
    (h : (significant digits).head? = some '0') : decimalPoint digits exponent = 1 := by
  by_cases hzero : digits = 0
  · exact if_pos hzero
  · obtain ⟨k, hk⟩ := toDigits_significant hzero
    have hfirst : (Nat.toDigits 10 digits).head? = some '0' := by
      rw [hk, List.head?_append, h]
      rfl
    exact absurd (head_toDigits hfirst) hzero

/-- The value of a float, from its digits and its point. -/
theorem value_significant (digits : ℕ) (exponent : ℤ) :
    (digits : ℚ) * (10 : ℚ) ^ exponent =
      (Nat.ofDigitChars 10 (significant digits) 0 : ℚ) *
        (10 : ℚ) ^ (decimalPoint digits exponent - ((significant digits).length : ℤ)) := by
  by_cases h : digits = 0
  · rw [h, significant_zero]
    have hvalue : Nat.ofDigitChars 10 ['0'] 0 = 0 := by decide
    rw [hvalue, Nat.cast_zero, zero_mul, zero_mul]
  · obtain ⟨k, hk⟩ := toDigits_significant h
    have hdigits : digits = 10 ^ k * Nat.ofDigitChars 10 (significant digits) 0 := by
      rw [← Nat.ofDigitChars_replicate_zero, ← Nat.ofDigitChars_append, ← hk,
        Nat.ofDigitChars_ten_toDigits]
    have hlength : (Nat.toDigits 10 digits).length = (significant digits).length + k := by
      rw [hk, List.length_append, List.length_replicate]
    have hpower : decimalPoint digits exponent - ((significant digits).length : ℤ) =
        (k : ℤ) + exponent := by
      rw [decimalPoint, if_neg h, hlength]
      push_cast
      ring
    rw [hpower, zpow_add₀ (by norm_num), zpow_natCast]
    nth_rewrite 1 [hdigits]
    push_cast
    ring

/-! ## Floats

Four layouts, by the place of the point; one number. -/

/-- The number `repr` writes for some digits and a point. -/
def floatNumeral (ds : List Char) (point : ℤ) : JsonNumeral :=
  if -4 < point ∧ point ≤ 16 then
    if point ≤ 0 then ⟨['0'], some (List.replicate (-point).toNat '0' ++ ds), none⟩
    else if (ds.length : ℤ) ≤ point then
      ⟨ds ++ List.replicate (point.toNat - ds.length) '0', some ['0'], none⟩
    else ⟨ds.take point.toNat, some (ds.drop point.toNat), none⟩
  else
    ⟨ds.take 1, if ds.length = 1 then none else some (ds.drop 1),
      some (decide (point - 1 < 0),
        if (Nat.toDigits 10 (point - 1).natAbs).length < 2 then
          '0' :: Nat.toDigits 10 (point - 1).natAbs
        else Nat.toDigits 10 (point - 1).natAbs)⟩

/-- The body of `floatText`, from the digits and the point. -/
def floatBody (ds : List Char) (point : ℤ) : List Char :=
  if -4 < point ∧ point ≤ 16 then
    if point ≤ 0 then ['0', '.'] ++ List.replicate (-point).toNat '0' ++ ds
    else if (ds.length : ℤ) ≤ point then
      ds ++ List.replicate (point.toNat - ds.length) '0' ++ ['.', '0']
    else ds.take point.toNat ++ ['.'] ++ ds.drop point.toNat
  else
    ds.take 1 ++ (if ds.length = 1 then [] else '.' :: ds.drop 1) ++
      ['e', if point - 1 < 0 then '-' else '+'] ++
        if (Nat.toDigits 10 (point - 1).natAbs).length < 2 then
          '0' :: Nat.toDigits 10 (point - 1).natAbs
        else Nat.toDigits 10 (point - 1).natAbs

/-- What is written of digits is the text of their numeral. -/
theorem floatBody_eq (ds : List Char) (point : ℤ) :
    floatBody ds point = (floatNumeral ds point).text := by
  unfold floatBody floatNumeral
  split
  · split
    · simp [JsonNumeral.text, JsonNumeral.fractionText, JsonNumeral.powerText]
    · split <;> simp [JsonNumeral.text, JsonNumeral.fractionText, JsonNumeral.powerText]
  · by_cases hone : ds.length = 1
    · simp [JsonNumeral.text, JsonNumeral.fractionText, JsonNumeral.powerText, hone]
    · simp [JsonNumeral.text, JsonNumeral.fractionText, JsonNumeral.powerText, hone]

/-- What is written of a float is its sign and the text of its numeral. -/
theorem floatText_finite (negative : Bool) (digits : ℕ) (exponent : ℤ) :
    (floatText (.finite negative digits exponent)).toList =
      (if negative then ['-'] else []) ++
        (floatNumeral (significant digits) (decimalPoint digits exponent)).text := by
  have hdigits : ∀ n : ℕ, (digitsText n).toList = Nat.toDigits 10 n := fun n => by
    rw [digitsText, Nat.toString_eq_repr, Nat.toList_repr]
  have hbody : (floatText (.finite negative digits exponent)).toList =
      if negative then '-' :: floatBody (significant digits) (decimalPoint digits exponent)
      else floatBody (significant digits) (decimalPoint digits exponent) := by
    simp only [floatText, hdigits, String.toList_ofList]
    rfl
  rw [hbody, floatBody_eq]
  split <;> rfl

section FloatNumeral

variable {ds : List Char} {point : ℤ} (hds : IsWhole ds) (hpoint : ds.head? = some '0' → point = 1)

include hds hpoint

/-- The layouts are well formed. -/
theorem wellFormed_floatNumeral : (floatNumeral ds point).WellFormed := by
  have hzeros : ∀ n, ∀ c ∈ List.replicate n '0', c.isDigit = true := by
    intro n c hc
    rw [(List.mem_replicate.mp hc).2]
    decide
  obtain ⟨d, rest, rfl⟩ := List.exists_cons_of_ne_nil hds.nonempty
  unfold floatNumeral
  split
  · split
    · refine ⟨isWhole_zero, ?_, fun p hp => by cases hp⟩
      rintro fs ⟨⟩
      refine ⟨by simp, fun c hc => ?_⟩
      rcases List.mem_append.mp hc with hc | hc
      · exact hzeros _ c hc
      · exact hds.digits c hc
    · split
      · rename_i hlong
        refine ⟨⟨fun c hc => ?_, by simp, fun hhead => ?_⟩, ?_, fun p hp => by cases hp⟩
        · rcases List.mem_append.mp hc with hc | hc
          · exact hds.digits c hc
          · exact hzeros _ c hc
        · have hone := hds.zero hhead
          rw [hone, hpoint hhead]
          rfl
        · rintro fs ⟨⟩
          exact ⟨List.cons_ne_nil '0' [], isDigit_of_mem_zero⟩
      · rename_i hpos hlong
        obtain ⟨n, hn⟩ : ∃ n, point.toNat = n + 1 := ⟨point.toNat - 1, by omega⟩
        refine ⟨⟨fun c hc => hds.digits c (List.mem_of_mem_take hc), ?_, fun hhead => ?_⟩, ?_,
          fun p hp => by cases hp⟩
        · rw [hn]
          simp
        · -- a single zero is no longer than its point
          have hone := hds.zero (by simpa [hn] using hhead)
          rw [hone] at hlong
          exact absurd (by rw [hpoint (by simpa [hn] using hhead)]; rfl) hlong
        · rintro fs ⟨⟩
          refine ⟨?_, fun c hc => hds.digits c (List.mem_of_mem_drop hc)⟩
          rw [Ne, List.drop_eq_nil_iff]
          omega
  · refine ⟨⟨fun c hc => hds.digits c (List.mem_of_mem_take hc), by simp, fun hhead => ?_⟩, ?_, ?_⟩
    · show [d] = ['0']
      rw [Option.some.inj hhead]
    · intro fs hfs
      split at hfs
      · cases hfs
      · rename_i hlength
        obtain rfl := Option.some.inj hfs
        refine ⟨?_, fun c hc => hds.digits c (List.mem_of_mem_drop hc)⟩
        rw [Ne, List.drop_eq_nil_iff]
        simp only [List.length_cons] at hlength ⊢
        omega
    · rintro p ⟨⟩
      simp only
      split
      · refine ⟨by simp, fun c hc => ?_⟩
        rcases List.mem_cons.mp hc with rfl | hc
        · decide
        · exact isDigit_toDigits hc
      · exact ⟨Nat.toDigits_ne_nil, fun c hc => isDigit_toDigits hc⟩

omit hds hpoint in
/-- The digits of an exponent, at least two of them. -/
theorem ofDigitChars_shown (n : ℕ) :
    Nat.ofDigitChars 10 (if (Nat.toDigits 10 n).length < 2 then '0' :: Nat.toDigits 10 n
      else Nat.toDigits 10 n) 0 = n := by
  split
  · show Nat.ofDigitChars 10 (Nat.toDigits 10 n) 0 = n
    exact Nat.ofDigitChars_ten_toDigits
  · exact Nat.ofDigitChars_ten_toDigits

omit hpoint in
/-- It is no integer, and has the value of the digits and the point. -/
theorem readNumber_floatNumeral (nearest : Bool → ℚ → PyFloat) (negative : Bool) :
    readNumber nearest negative (floatNumeral ds point).whole (floatNumeral ds point).fraction
      (floatNumeral ds point).exponent =
        some (.float (nearest negative ((Nat.ofDigitChars 10 ds 0 : ℚ) *
          (10 : ℚ) ^ (point - (ds.length : ℤ))))) := by
  have hlength : 0 < ds.length := List.length_pos_iff.mpr hds.nonempty
  unfold floatNumeral
  split
  · split
    · -- zeros in front of the digits
      rename_i hpos
      have hvalue : Nat.ofDigitChars 10 (['0'] ++ (List.replicate (-point).toNat '0' ++ ds)) 0 =
          Nat.ofDigitChars 10 ds 0 := by
        rw [Nat.ofDigitChars_append, Nat.ofDigitChars_append, Nat.ofDigitChars_replicate_zero]
        rfl
      have hpower : (0 : ℤ) - ((List.replicate (-point).toNat '0' ++ ds).length : ℤ) =
          point - (ds.length : ℤ) := by
        rw [List.length_append, List.length_replicate]
        omega
      show some (Json.float (nearest negative ((Nat.ofDigitChars 10
        (['0'] ++ (List.replicate (-point).toNat '0' ++ ds)) 0 : ℚ) * (10 : ℚ) ^ ((0 : ℤ) -
          ((List.replicate (-point).toNat '0' ++ ds).length : ℤ))))) = _
      rw [hvalue, hpower]
    · split
      · -- zeros behind them
        rename_i hpos hlong
        have hvalue : Nat.ofDigitChars 10
            (ds ++ List.replicate (point.toNat - ds.length) '0' ++ ['0']) 0 =
              10 ^ (point.toNat - ds.length + 1) * Nat.ofDigitChars 10 ds 0 := by
          rw [← List.replicate_one, List.append_assoc, ← List.replicate_add,
            Nat.ofDigitChars_append, Nat.ofDigitChars_replicate_zero]
        have hpower : point - (ds.length : ℤ) =
            ((point.toNat - ds.length + 1 : ℕ) : ℤ) + ((0 : ℤ) - 1) := by omega
        show some (Json.float (nearest negative ((Nat.ofDigitChars 10
          (ds ++ List.replicate (point.toNat - ds.length) '0' ++ ['0']) 0 : ℚ) *
            (10 : ℚ) ^ ((0 : ℤ) - 1)))) = _
        rw [hvalue, hpower, zpow_add₀ (by norm_num), zpow_natCast]
        push_cast
        congr 3
        ring
      · -- the point within them
        rename_i hpos hlong
        have hpower : (0 : ℤ) - ((ds.drop point.toNat).length : ℤ) =
            point - (ds.length : ℤ) := by
          rw [List.length_drop]
          omega
        show some (Json.float (nearest negative ((Nat.ofDigitChars 10
          (ds.take point.toNat ++ ds.drop point.toNat) 0 : ℚ) * (10 : ℚ) ^ ((0 : ℤ) -
            ((ds.drop point.toNat).length : ℤ))))) = _
        rw [List.take_append_drop, hpower]
  · -- one digit, the others and an exponent
    have hexponent : (if decide (point - 1 < 0) then -(Nat.ofDigitChars 10
        (if (Nat.toDigits 10 (point - 1).natAbs).length < 2 then
          '0' :: Nat.toDigits 10 (point - 1).natAbs
        else Nat.toDigits 10 (point - 1).natAbs) 0 : ℤ)
      else (Nat.ofDigitChars 10
        (if (Nat.toDigits 10 (point - 1).natAbs).length < 2 then
          '0' :: Nat.toDigits 10 (point - 1).natAbs
        else Nat.toDigits 10 (point - 1).natAbs) 0 : ℤ)) = point - 1 := by
      rw [ofDigitChars_shown]
      simp only [decide_eq_true_eq]
      split <;> omega
    simp only [JsonNumeral.exponent, Option.map_some, hexponent]
    by_cases hone : ds.length = 1
    · rw [if_pos hone]
      show some (Json.float (nearest negative ((Nat.ofDigitChars 10 (ds.take 1 ++ []) 0 : ℚ) *
        (10 : ℚ) ^ (point - 1 - (0 : ℤ))))) = _
      rw [List.take_of_length_le (by omega), List.append_nil, hone, sub_zero, Nat.cast_one]
    · have hpower : point - 1 - ((ds.drop 1).length : ℤ) = point - (ds.length : ℤ) := by
        rw [List.length_drop]
        omega
      rw [if_neg hone]
      show some (Json.float (nearest negative ((Nat.ofDigitChars 10
        (ds.take 1 ++ ds.drop 1) 0 : ℚ) * (10 : ℚ) ^ (point - 1 - ((ds.drop 1).length : ℤ))))) = _
      rw [List.take_append_drop, hpower]

end FloatNumeral

end Python
