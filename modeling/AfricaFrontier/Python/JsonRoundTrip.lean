import AfricaFrontier.Python.JsonScan

/-!
# What is written is read again

The text `dumps` makes of a value is scanned as that value in front of any rest that does not
go on with a number (`reads_of_held`), whatever the separators; so `loads` gives it back
(`loadsText_dumps`).  The induction is on the value, and the fuel of the scanner is bounded by
what was written.  The text is ASCII (`isAsciiChar_encode`).

A program can only hold floats that are the nearest to what they say, and dicts without a key
twice (`Held`); of other values the text is read as something else.
-/

namespace Python

/-! ## Values

A value is held by a program if its floats are floats and its dicts have each key once. The lemmas
go by the kinds of values: what a text begins with, how the scanner chooses its branch from that,
and what it gives back. -/

/-- Induction on a value: over its items, and over the values of its fields. -/
theorem Json.induction {P : Json → Prop} (null : P .null) (bool : ∀ b, P (.bool b))
    (int : ∀ n, P (.int n)) (float : ∀ x, P (.float x)) (str : ∀ s, P (.str s))
    (arr : ∀ items, (∀ a ∈ items, P a) → P (.arr items))
    (obj : ∀ fields : List (String × Json), (∀ f ∈ fields, P f.2) → P (.obj fields)) :
    ∀ a, P a := by
  refine @Json.rec P (fun items => ∀ a ∈ items, P a) (fun fields => ∀ f ∈ fields, P f.2)
    (fun f => P f.2) null bool int float str arr obj ?_ ?_ ?_ ?_ fun _ _ h => h
  · intro a h
    cases h
  · intro head tail hhead htail a h
    rcases List.mem_cons.mp h with rfl | h
    · exact hhead
    · exact htail a h
  · intro f h
    cases h
  · intro head tail hhead htail f h
    rcases List.mem_cons.mp h with rfl | h
    · exact hhead
    · exact htail f h

/-- The float is the one nearest to the number it stands for. -/
def PyFloat.IsNearest (nearest : Bool → ℚ → PyFloat) : PyFloat → Prop
  | .finite negative digits exponent =>
      nearest negative ((digits : ℚ) * (10 : ℚ) ^ exponent) = .finite negative digits exponent
  | _ => True

mutual

/-- A value as Python holds it: its floats are floats, and no dict has a key twice. -/
def Json.Held (nearest : Bool → ℚ → PyFloat) : Json → Prop
  | .float x => x.IsNearest nearest
  | .arr items => Json.HeldItems nearest items
  | .obj fields => (fields.map Prod.fst).Nodup ∧ Json.HeldFields nearest fields
  | _ => True

/-- All items are held. -/
def Json.HeldItems (nearest : Bool → ℚ → PyFloat) : List Json → Prop
  | [] => True
  | a :: rest => a.Held nearest ∧ Json.HeldItems nearest rest

/-- All values are held. -/
def Json.HeldFields (nearest : Bool → ℚ → PyFloat) : List (String × Json) → Prop
  | [] => True
  | (_, a) :: rest => a.Held nearest ∧ Json.HeldFields nearest rest

end

section Values

variable {nearest : Bool → ℚ → PyFloat} {separators : Separators}

/-- A digit is no space. -/
theorem isJsonSpace_of_isDigit {c : Char} (h : c.isDigit = true) : isJsonSpace c = false := by
  cases hspace : isJsonSpace c with
  | false => rfl
  | true =>
      exfalso
      have hvalue : c.toNat ∈ [0x20, 0x09, 0x0a, 0x0d] := of_decide_eq_true hspace
      simp only [List.mem_cons, List.not_mem_nil, or_false] at hvalue
      have hchar : c = Char.ofNat c.toNat := (Char.ofNat_toNat c).symm
      rcases hvalue with hn | hn | hn | hn
      all_goals
        rw [hn] at hchar
        exact ne_of_isDigit h (by decide) hchar

/-- Nothing is skipped in front of what is no space. -/
theorem skipSpace_cons {c : Char} (h : isJsonSpace c = false) (cs : List Char) :
    skipSpace (c :: cs) = c :: cs := by
  simp [skipSpace, h]

/-- The spaces the writer puts in are skipped. -/
theorem skipSpace_space (cs : List Char) : skipSpace (separators.space ++ cs) = skipSpace cs := by
  cases separators <;> rfl

/-- The text of a value may begin with the character: it is no space, no closing bracket
and no byte order mark. -/
def Opens (c : Char) : Prop := isJsonSpace c = false ∧ c ≠ ']' ∧ c ≠ byteOrderMark

instance (c : Char) : Decidable (Opens c) := inferInstanceAs (Decidable (_ ∧ _ ∧ _))

/-- The text begins like a value. -/
def Begins (cs : List Char) : Prop := ∃ c rest, cs = c :: rest ∧ Opens c

/-- Nothing is skipped in front of a value. -/
theorem Begins.skipSpace {cs : List Char} (h : Begins cs) (rest : List Char) :
    skipSpace (cs ++ rest) = cs ++ rest := by
  obtain ⟨c, ds, rfl, hopens⟩ := h
  exact skipSpace_cons hopens.1 _

/-- A text that begins like a value does so whatever is behind it. -/
theorem Begins.append {cs : List Char} (h : Begins cs) (rest : List Char) :
    Begins (cs ++ rest) := by
  obtain ⟨c, ds, rfl, hopens⟩ := h
  exact ⟨c, ds ++ rest, rfl, hopens⟩

/-- A number begins like a value. -/
theorem begins_numeral {numeral : JsonNumeral} (h : numeral.WellFormed) (negative : Bool) :
    Begins ((if negative then ['-'] else []) ++ numeral.text) := by
  obtain ⟨c, cs, htext, hc⟩ := h.head
  cases negative with
  | true => exact ⟨'-', numeral.text, rfl, by decide⟩
  | false =>
      exact ⟨c, cs, htext, isJsonSpace_of_isDigit hc, ne_of_isDigit hc (by decide),
        ne_of_isDigit hc (by decide)⟩

/-- The number written for an integer. -/
def intNumeral (n : ℤ) : JsonNumeral := ⟨Nat.toDigits 10 n.natAbs, none, none⟩

/-- The numeral of an integer has no zeros in front. -/
theorem wellFormed_intNumeral (n : ℤ) : (intNumeral n).WellFormed where
  whole := isWhole_toDigits n.natAbs
  fraction _ h := by cases h
  power _ h := by cases h

/-- The numeral of an integer is its text. -/
theorem toList_toString_numeral (n : ℤ) :
    (toString n).toList = (if decide (n < 0) then ['-'] else []) ++ (intNumeral n).text := by
  rw [toList_toString]
  simp [intNumeral, JsonNumeral.text, JsonNumeral.fractionText, JsonNumeral.powerText]

/-- The number written for a finite float. -/
def PyFloat.numeral (digits : ℕ) (exponent : ℤ) : JsonNumeral :=
  floatNumeral (significant digits) (decimalPoint digits exponent)

/-- It is well formed. -/
theorem PyFloat.wellFormed_numeral (digits : ℕ) (exponent : ℤ) :
    (PyFloat.numeral digits exponent).WellFormed :=
  wellFormed_floatNumeral (isWhole_significant digits) fun h => decimalPoint_of_zero exponent h

/-- The text of a value begins like one. -/
theorem begins_encode (a : Json) : Begins (a.encode separators) := by
  cases a with
  | null => exact ⟨_, _, rfl, by decide⟩
  | bool b => cases b <;> exact ⟨_, _, rfl, by decide⟩
  | int n =>
      rw [Json.encode, toList_toString_numeral]
      exact begins_numeral (wellFormed_intNumeral n) _
  | float x =>
      cases x with
      | finite negative digits exponent =>
          rw [Json.encode, encodeFloat, floatText_finite]
          exact begins_numeral (PyFloat.wellFormed_numeral digits exponent) negative
      | infinity negative => cases negative <;> exact ⟨_, _, rfl, by decide⟩
      | nan => exact ⟨_, _, rfl, by decide⟩
  | str s => exact ⟨_, _, rfl, by decide⟩
  | arr items => exact ⟨_, _, rfl, by decide⟩
  | obj fields => exact ⟨_, _, rfl, by decide⟩

/-- The text of the items of an array begins like a value. -/
theorem begins_encodeItems (a : Json) (items : List Json) :
    Begins (Json.encodeItems separators (a :: items)) := by
  cases items with
  | nil => exact begins_encode a
  | cons b items => exact (begins_encode a).append _

/-- The text of the pairs of an object begins like a value. -/
theorem begins_encodeFields (f : String × Json) (fields : List (String × Json)) :
    Begins (Json.encodeFields separators (f :: fields)) := by
  cases fields with
  | nil => exact ⟨quotation, _, rfl, by decide⟩
  | cons g fields => exact ⟨quotation, _, rfl, by decide⟩

/-- A number ends at these characters. -/
theorem stops_cons {c : Char} (h : c.isDigit = false ∧ c ≠ '.' ∧ c ≠ 'e' ∧ c ≠ 'E')
    (cs : List Char) : Stops (c :: cs) := by
  rintro d ⟨⟩
  exact h

/-- What opens no string, array or object is a word or a number. -/
theorem scanValue_atom {c : Char} {cs : List Char} (n : ℕ) (hquote : c ≠ quotation)
    (hbracket : c ≠ '[') (hbrace : c ≠ leftBrace) :
    scanValue nearest (n + 1) (c :: cs) = scanAtom nearest (c :: cs) := by
  rw [scanValue, if_neg hquote, if_neg hbracket, if_neg hbrace]

/-- A word is read again. -/
theorem scanAtom_word {word : List Char × Json} (h : word ∈ jsonWords) (rest : List Char) :
    scanAtom nearest (word.1 ++ rest) = some (word.2, rest) := by
  simp only [jsonWords, List.mem_cons, List.not_mem_nil, or_false] at h
  rcases h with rfl | rfl | rfl | rfl | rfl | rfl <;> rfl

/-- A word is read again at the place of a value. -/
theorem scanValue_word {word : List Char × Json} (h : word ∈ jsonWords) (n : ℕ)
    (rest : List Char) :
    scanValue nearest (n + 1) (word.1 ++ rest) = some (word.2, rest) := by
  rw [← scanAtom_word h rest]
  simp only [jsonWords, List.mem_cons, List.not_mem_nil, or_false] at h
  rcases h with rfl | rfl | rfl | rfl | rfl | rfl <;>
    exact scanValue_atom n (by decide) (by decide) (by decide)

/-- A number is read as its parts, at the place of a value. -/
theorem scanValue_numeral {numeral : JsonNumeral} (h : numeral.WellFormed) (negative : Bool)
    (n : ℕ) {rest : List Char} (hrest : Stops rest) :
    scanValue nearest (n + 1) ((if negative then ['-'] else []) ++ numeral.text ++ rest) =
      (readNumber nearest negative numeral.whole numeral.fraction numeral.exponent).map
        fun a => (a, rest) := by
  rw [← scanAtom_text h negative hrest, ← List.append_assoc]
  obtain ⟨c, cs, htext, hc⟩ := h.head
  cases negative with
  | true => exact scanValue_atom n (by decide) (by decide) (by decide)
  | false =>
      rw [htext]
      exact scanValue_atom n (ne_of_isDigit hc (by decide)) (ne_of_isDigit hc (by decide))
        (ne_of_isDigit hc (by decide))

/-- The value `a` is read wherever its text stands. -/
def Reads (nearest : Bool → ℚ → PyFloat) (separators : Separators) (a : Json) : Prop :=
  ∀ n rest, 2 * (a.encode separators).length + 1 ≤ n → Stops rest →
    scanValue nearest n (a.encode separators ++ rest) = some (a, rest)

/-- Integers are read. -/
theorem reads_int {n : ℤ} (h : (Json.int n).writable = true) :
    Reads nearest separators (.int n) := by
  intro fuel rest hfuel hrest
  obtain ⟨fuel, rfl⟩ : ∃ m, fuel = m + 1 := ⟨fuel - 1, by omega⟩
  have hlength : (Nat.toDigits 10 n.natAbs).length ≤ intMaxStrDigits := of_decide_eq_true h
  rw [Json.encode, toList_toString_numeral, scanValue_numeral (wellFormed_intNumeral n) _ _ hrest]
  simp only [readNumber, intNumeral, JsonNumeral.exponent, Option.map_none, if_pos hlength,
    Nat.ofDigitChars_ten_toDigits, Option.map_some, Option.some.injEq, Prod.mk.injEq, and_true,
    Json.int.injEq, decide_eq_true_eq]
  split <;> omega

/-- Floats are read. -/
theorem reads_float {x : PyFloat} (h : x.IsNearest nearest) :
    Reads nearest separators (.float x) := by
  intro fuel rest hfuel hrest
  obtain ⟨fuel, rfl⟩ : ∃ m, fuel = m + 1 := ⟨fuel - 1, by omega⟩
  cases x with
  | nan =>
      exact @scanValue_word _ (['N', 'a', 'N'], .float .nan) (by simp [jsonWords]) fuel rest
  | infinity negative =>
      cases negative with
      | true =>
          exact @scanValue_word _ (['-', 'I', 'n', 'f', 'i', 'n', 'i', 't', 'y'],
            .float (.infinity true)) (by simp [jsonWords]) fuel rest
      | false =>
          exact @scanValue_word _ (['I', 'n', 'f', 'i', 'n', 'i', 't', 'y'],
            .float (.infinity false)) (by simp [jsonWords]) fuel rest
  | finite negative digits exponent =>
      rw [Json.encode, encodeFloat, floatText_finite]
      have hread := @scanValue_numeral nearest _ (PyFloat.wellFormed_numeral digits exponent)
        negative fuel _ hrest
      rw [PyFloat.numeral, readNumber_floatNumeral (isWhole_significant digits),
        ← value_significant, h] at hread
      exact hread

/-- Texts are read. -/
theorem reads_str (s : String) : Reads nearest separators (.str s) := by
  intro fuel rest hfuel _
  obtain ⟨fuel, rfl⟩ : ∃ m, fuel = m + 1 := ⟨fuel - 1, by omega⟩
  show scanValue nearest (fuel + 1)
    (quotation :: (s.toList.flatMap escapeChar ++ [quotation]) ++ rest) = _
  rw [List.cons_append, List.append_assoc, scanValue, if_pos rfl]
  show (scanString (s.toList.flatMap escapeChar ++ quotation :: rest)).map _ = _
  rw [scanString_escaped, Option.map_some]

/-- The items of an array are read, if each is. -/
theorem scanItems_encodeItems {a : Json} {items : List Json}
    (hreads : ∀ b ∈ a :: items, Reads nearest separators b) (n : ℕ) (rest : List Char)
    (hn : 2 * (Json.encodeItems separators (a :: items)).length + 2 ≤ n) :
    scanItems nearest n (Json.encodeItems separators (a :: items) ++ ']' :: rest) =
      some (a :: items, rest) := by
  induction items generalizing a n with
  | nil =>
      obtain ⟨n, rfl⟩ : ∃ m, n = m + 1 := ⟨n - 1, by omega⟩
      have hstop : Stops (']' :: rest) := stops_cons (by decide) rest
      have hread := hreads a List.mem_cons_self n (']' :: rest)
        (by simp only [Json.encodeItems] at hn; omega) hstop
      rw [Json.encodeItems, scanItems, hread]
      simp only [Option.bind_some, skipSpace_cons (by decide : isJsonSpace ']' = false), if_true]
  -- a comma follows the item, and the others begin behind its space
  | cons b items ih =>
      obtain ⟨n, rfl⟩ : ∃ m, n = m + 1 := ⟨n - 1, by omega⟩
      simp only [Json.encodeItems, List.length_append, List.length_cons] at hn
      have htail := ih (fun c hc => hreads c (List.mem_cons_of_mem _ hc)) n (by omega)
      have hread := hreads a List.mem_cons_self n
        (',' :: (separators.space ++ (Json.encodeItems separators (b :: items) ++ ']' :: rest)))
        (by omega) (stops_cons (by decide) _)
      have hbegins : Begins (Json.encodeItems separators (b :: items)) :=
        begins_encodeItems b items
      rw [Json.encodeItems, List.append_assoc, List.cons_append, List.append_assoc, scanItems,
        hread]
      simp only [Option.bind_some, skipSpace_cons (by decide : isJsonSpace ',' = false),
        skipSpace_space, hbegins.skipSpace, htail, Option.map_some]
      rfl

/-- The pairs of an object are read, if the values are. -/
theorem scanFields_encodeFields {f : String × Json} {fields : List (String × Json)}
    (hreads : ∀ g ∈ f :: fields, Reads nearest separators g.2) (n : ℕ) (rest : List Char)
    (hn : 2 * (Json.encodeFields separators (f :: fields)).length + 2 ≤ n) :
    scanFields nearest n (Json.encodeFields separators (f :: fields) ++ rightBrace :: rest) =
      some (f :: fields, rest) := by
  induction fields generalizing f n with
  | nil =>
      obtain ⟨k, a⟩ := f
      obtain ⟨n, rfl⟩ : ∃ m, n = m + 1 := ⟨n - 1, by omega⟩
      simp only [Json.encodeFields, List.length_append, List.length_cons] at hn
      have hread := hreads (k, a) List.mem_cons_self n (rightBrace :: rest)
        (show 2 * (a.encode separators).length + 1 ≤ n by omega) (stops_cons (by decide) rest)
      have hbegins : Begins (a.encode separators) := begins_encode a
      rw [Json.encodeFields, encodeString, List.append_assoc, List.cons_append, List.append_assoc,
        scanFields, if_pos rfl]
      show (scanString (k.toList.flatMap escapeChar ++ quotation :: (':' :: _ ++ _))).bind _ = _
      rw [scanString_escaped, Option.bind_some]
      simp only [List.cons_append, List.append_assoc,
        skipSpace_cons (by decide : isJsonSpace ':' = false), if_true, skipSpace_space,
        hbegins.skipSpace, hread, Option.bind_some,
        skipSpace_cons (by decide : isJsonSpace rightBrace = false)]
  | cons g fields ih =>
      obtain ⟨k, a⟩ := f
      obtain ⟨n, rfl⟩ : ∃ m, n = m + 1 := ⟨n - 1, by omega⟩
      simp only [Json.encodeFields, List.length_append, List.length_cons] at hn
      have htail := ih (fun c hc => hreads c (List.mem_cons_of_mem _ hc)) n (by omega)
      have hread := hreads (k, a) List.mem_cons_self n
        (',' :: (separators.space ++ (Json.encodeFields separators (g :: fields) ++
          rightBrace :: rest))) (show 2 * (a.encode separators).length + 1 ≤ n by omega)
        (stops_cons (by decide) _)
      have hbegins : Begins (a.encode separators) := begins_encode a
      -- behind the comma there is the next name, after a space or none
      have hnext : Begins (Json.encodeFields separators (g :: fields)) :=
        begins_encodeFields g fields
      have hcomma : ',' ≠ rightBrace := by decide
      rw [Json.encodeFields, encodeString, List.append_assoc, List.cons_append, List.append_assoc,
        scanFields, if_pos rfl]
      show (scanString (k.toList.flatMap escapeChar ++ quotation :: (':' :: _ ++ _))).bind _ = _
      rw [scanString_escaped, Option.bind_some]
      simp only [List.cons_append, List.append_assoc,
        skipSpace_cons (by decide : isJsonSpace ':' = false), if_true, skipSpace_space,
        hbegins.skipSpace, hread, Option.bind_some,
        skipSpace_cons (by decide : isJsonSpace ',' = false), hnext.skipSpace, htail,
        Option.map_some, if_neg hcomma]

/-- A new key is added at the end. -/
theorem Obj.set_of_notMem {o : Obj} {key : String} (h : key ∉ o.map Prod.fst) (value : Json) :
    o.set key value = o ++ [(key, value)] := by
  induction o with
  | nil => rfl
  | cons f rest ih =>
      obtain ⟨k, a⟩ := f
      rw [List.map_cons, List.mem_cons, not_or] at h
      rw [Obj.set, if_neg (Ne.symm h.1), ih h.2, List.cons_append]

/-- Distinct keys make a dict of the pairs as they come. -/
theorem objOfPairs_of_nodup {pairs : List (String × Json)} (h : (pairs.map Prod.fst).Nodup) :
    objOfPairs pairs = pairs := by
  have hbehind : ∀ (rest : List (String × Json)) (o : Obj), ((o ++ rest).map Prod.fst).Nodup →
      rest.foldl (fun o f => o.set f.1 f.2) o = o ++ rest := by
    intro rest
    induction rest with
    | nil => simp
    | cons f rest ih =>
        intro o hnodup
        have hfresh : f.1 ∉ o.map Prod.fst := by
          rw [List.map_append, List.nodup_append] at hnodup
          exact fun hmem => hnodup.2.2 _ hmem _ (List.mem_cons_self) rfl
        rw [List.foldl_cons, Obj.set_of_notMem hfresh, ih]
        · simp
        · simpa using hnodup
  exact hbehind pairs [] h

/-- Items are held if each is. -/
theorem heldItems_iff {items : List Json} :
    Json.HeldItems nearest items ↔ ∀ a ∈ items, a.Held nearest := by
  induction items with
  | nil => simp [Json.HeldItems]
  | cons a rest ih => simp [Json.HeldItems, ih]

/-- Fields are held if each value is. -/
theorem heldFields_iff {fields : List (String × Json)} :
    Json.HeldFields nearest fields ↔ ∀ f ∈ fields, f.2.Held nearest := by
  induction fields with
  | nil => simp [Json.HeldFields]
  | cons f rest ih => simp [Json.HeldFields, ih]

/-- Items can be written if each can. -/
theorem writableItems_iff {items : List Json} :
    Json.writableItems items = true ↔ ∀ a ∈ items, a.writable = true := by
  induction items with
  | nil => simp [Json.writableItems]
  | cons a rest ih => simp [Json.writableItems, ih]

/-- Fields can be written if each value can. -/
theorem writableFields_iff {fields : List (String × Json)} :
    Json.writableFields fields = true ↔ ∀ f ∈ fields, f.2.writable = true := by
  induction fields with
  | nil => simp [Json.writableFields]
  | cons f rest ih => simp [Json.writableFields, ih]

/-- Every value is read where its text stands. -/
theorem reads_of_held (a : Json) (hheld : a.Held nearest) (hwritable : a.writable = true) :
    Reads nearest separators a := by
  induction a using Json.induction with
  | null =>
      intro fuel rest hfuel _
      obtain ⟨fuel, rfl⟩ : ∃ m, fuel = m + 1 := ⟨fuel - 1, by omega⟩
      exact @scanValue_word _ (['n', 'u', 'l', 'l'], .null) (by simp [jsonWords]) fuel rest
  | bool b =>
      intro fuel rest hfuel _
      obtain ⟨fuel, rfl⟩ : ∃ m, fuel = m + 1 := ⟨fuel - 1, by omega⟩
      cases b with
      | true =>
          exact @scanValue_word _ (['t', 'r', 'u', 'e'], .bool true) (by simp [jsonWords]) fuel rest
      | false =>
          exact @scanValue_word _ (['f', 'a', 'l', 's', 'e'], .bool false) (by simp [jsonWords])
            fuel rest
  | int n => exact reads_int hwritable
  | float x => exact reads_float hheld
  | str s => exact reads_str s
  -- an array is not a text and not an object; its items are read by the induction hypothesis
  | arr items ih =>
      intro fuel rest hfuel _
      obtain ⟨fuel, rfl⟩ : ∃ m, fuel = m + 1 := ⟨fuel - 1, by omega⟩
      simp only [Json.encode, List.length_cons, List.length_append, List.length_nil] at hfuel
      have hbracket : '[' ≠ quotation := by decide
      rw [Json.encode, List.cons_append, List.append_assoc, scanValue, if_neg hbracket, if_pos rfl]
      cases items with
      | nil => rfl
      | cons a items =>
          have hreads : ∀ b ∈ a :: items, Reads nearest separators b := fun b hb =>
            ih b hb (heldItems_iff.mp hheld b hb) (writableItems_iff.mp hwritable b hb)
          have hitems := scanItems_encodeItems hreads fuel rest (by omega)
          obtain ⟨c, cs, hcs, hopens⟩ : Begins (Json.encodeItems separators (a :: items)) :=
            begins_encodeItems a items
          rw [List.singleton_append]
          rw [hcs, List.cons_append] at hitems ⊢
          simp only [skipSpace_cons hopens.1, if_neg hopens.2.1, hitems, Option.map_some]
  | obj fields ih =>
      intro fuel rest hfuel _
      obtain ⟨fuel, rfl⟩ : ∃ m, fuel = m + 1 := ⟨fuel - 1, by omega⟩
      simp only [Json.encode, List.length_cons, List.length_append, List.length_nil] at hfuel
      have hquote : leftBrace ≠ quotation := by decide
      have hbracket : leftBrace ≠ '[' := by decide
      rw [Json.encode, List.cons_append, List.append_assoc, scanValue, if_neg hquote,
        if_neg hbracket, if_pos rfl]
      cases fields with
      | nil => rfl
      | cons f fields =>
          have hreads : ∀ g ∈ f :: fields, Reads nearest separators g.2 := fun g hg =>
            ih g hg (heldFields_iff.mp hheld.2 g hg) (writableFields_iff.mp hwritable g hg)
          have hitems := scanFields_encodeFields hreads fuel rest (by omega)
          -- the first thing in an object is the quote of a name
          obtain ⟨cs, hcs⟩ : ∃ cs,
              Json.encodeFields separators (f :: fields) = quotation :: cs := by
            cases fields with
            | nil => exact ⟨_, rfl⟩
            | cons g fields => exact ⟨_, rfl⟩
          have hne : quotation ≠ rightBrace := by decide
          rw [List.singleton_append]
          rw [hcs, List.cons_append] at hitems ⊢
          simp only [skipSpace_cons (by decide : isJsonSpace quotation = false), if_neg hne, hitems,
            Option.map_some, objOfPairs_of_nodup hheld.1]

/-- **What `dumps` writes, `loads` reads.** -/
theorem loadsText_dumps {a : Json} {text : String} (hheld : a.Held nearest)
    (h : a.dumps separators false = some text) : loadsText nearest text = some a := by
  unfold Json.dumps at h
  split at h
  · rename_i hwritable
    obtain rfl := Option.some.inj h
    have hreads : Reads nearest separators a := reads_of_held a hheld hwritable
    have hread := hreads (2 * (a.encode separators).length + 1) [] le_rfl (by intro c hc; cases hc)
    rw [List.append_nil] at hread
    have hbegins : Begins (a.encode separators) := begins_encode a
    have hspace : skipSpace (a.encode separators) = a.encode separators := by
      simpa using hbegins.skipSpace []
    obtain ⟨c, cs, hcs, hopens⟩ := hbegins
    have hmark : (a.encode separators).head? ≠ some byteOrderMark := by
      rw [hcs]
      exact fun heq => hopens.2.2 (Option.some.inj heq)
    simp only [loadsText, String.toList_ofList, Bool.false_eq_true, if_false, if_neg hmark, hspace,
      hread, Option.bind_some]
    rfl
  · cases h

end Values

/-! ## The text is ASCII

Every character is a digit, a bracket, a separator, part of a word, or within a string, where what
is not ASCII is escaped. -/

/-- A character of ASCII. -/
def IsAsciiChar (c : Char) : Prop := c.toNat < 128

instance (c : Char) : Decidable (IsAsciiChar c) := inferInstanceAs (Decidable (_ < _))

/-- Digits are ASCII. -/
theorem isAsciiChar_of_isDigit {c : Char} (h : c.isDigit = true) : IsAsciiChar c := by
  have hnine : '9'.toNat = 57 := rfl
  have hlast := (Char.isDigit_iff_toNat.mp h).2
  show c.toNat < 128
  omega

/-- Escapes are ASCII. -/
theorem isAsciiChar_unicodeEscape {n : ℕ} {c : Char} (h : c ∈ unicodeEscape n) :
    IsAsciiChar c := by
  rcases List.mem_cons.mp h with rfl | h
  · decide
  · rcases List.mem_cons.mp h with rfl | h
    · decide
    · exact forall_lowerHex IsAsciiChar (by decide) c (hexDigits_mem h)

/-- What is written of a character is ASCII. -/
theorem isAsciiChar_escapeChar {c d : Char} (h : d ∈ escapeChar c) : IsAsciiChar d := by
  -- escapes of one letter are two characters
  have hpair : ∀ e f : Char, IsAsciiChar e → IsAsciiChar f → d ∈ [e, f] → IsAsciiChar d := by
    intro e f he hf hmem
    simp only [List.mem_cons, List.not_mem_nil, or_false] at hmem
    rcases hmem with rfl | rfl
    · exact he
    · exact hf
  unfold escapeChar at h
  split at h
  · rename_i hc
    exact hpair _ _ (by decide) (by rcases hc with rfl | rfl <;> decide) h
  · split at h
    · exact hpair _ _ (by decide) (by decide) h
    · split at h
      · exact hpair _ _ (by decide) (by decide) h
      · split at h
        · exact hpair _ _ (by decide) (by decide) h
        · split at h
          · exact hpair _ _ (by decide) (by decide) h
          · split at h
            · exact hpair _ _ (by decide) (by decide) h
            · split at h
              · rename_i hrange
                rw [List.mem_singleton.mp h]
                show c.toNat < 128
                omega
              · split at h
                · exact isAsciiChar_unicodeEscape h
                · rcases List.mem_append.mp h with h | h
                  · exact isAsciiChar_unicodeEscape h
                  · exact isAsciiChar_unicodeEscape h

/-- What is written of a text is ASCII. -/
theorem isAsciiChar_encodeString {s : String} {c : Char} (h : c ∈ encodeString s) :
    IsAsciiChar c := by
  rcases List.mem_cons.mp h with rfl | h
  · decide
  · rcases List.mem_append.mp h with h | h
    · obtain ⟨d, -, hd⟩ := List.mem_flatMap.mp h
      exact isAsciiChar_escapeChar hd
    · rw [List.mem_singleton.mp h]
      decide

/-- Numerals are ASCII. -/
theorem isAsciiChar_text {numeral : JsonNumeral} (h : numeral.WellFormed) {c : Char}
    (hc : c ∈ numeral.text) : IsAsciiChar c := by
  rcases List.mem_append.mp hc with hc | hc
  · exact isAsciiChar_of_isDigit (h.whole.digits c hc)
  · rcases List.mem_append.mp hc with hc | hc
    · cases hfraction : numeral.fraction with
      | none => simp [JsonNumeral.fractionText, hfraction] at hc
      | some ds =>
          simp only [JsonNumeral.fractionText, hfraction] at hc
          rcases List.mem_cons.mp hc with rfl | hc
          · decide
          · exact isAsciiChar_of_isDigit ((h.fraction ds hfraction).2 c hc)
    · cases hpower : numeral.power with
      | none => simp [JsonNumeral.powerText, hpower] at hc
      | some p =>
          simp only [JsonNumeral.powerText, hpower] at hc
          rcases List.mem_cons.mp hc with rfl | hc
          · decide
          · rcases List.mem_cons.mp hc with rfl | hc
            · split <;> decide
            · exact isAsciiChar_of_isDigit ((h.power p hpower).2 c hc)

/-- Numerals with their sign are ASCII. -/
theorem isAsciiChar_signed {numeral : JsonNumeral} (h : numeral.WellFormed) {negative : Bool}
    {c : Char} (hc : c ∈ (if negative then ['-'] else []) ++ numeral.text) : IsAsciiChar c := by
  rcases List.mem_append.mp hc with hc | hc
  · cases negative with
    | true =>
        rw [List.mem_singleton.mp hc]
        decide
    | false => cases hc
  · exact isAsciiChar_text h hc

/-- The words of JSON are ASCII. -/
theorem isAsciiChar_word {word : List Char} (h : (word.all fun c => decide (IsAsciiChar c)) = true)
    {c : Char} (hc : c ∈ word) : IsAsciiChar c :=
  of_decide_eq_true (List.all_eq_true.mp h c hc)

section Ascii

variable {separators : Separators}

/-- What stands behind separators is ASCII. -/
theorem isAsciiChar_space {c : Char} (h : c ∈ separators.space) : IsAsciiChar c := by
  cases separators with
  | spaced =>
      rw [List.mem_singleton.mp h]
      decide
  | compact => cases h

/-- What is written of the items of an array is ASCII, if it is of each. -/
theorem isAsciiChar_encodeItems {items : List Json}
    (h : ∀ a ∈ items, ∀ c ∈ a.encode separators, IsAsciiChar c) :
    ∀ c ∈ Json.encodeItems separators items, IsAsciiChar c := by
  induction items with
  | nil =>
      intro c hc
      cases hc
  | cons a rest ih =>
      have hrest := ih fun b hb => h b (List.mem_cons_of_mem _ hb)
      cases rest with
      | nil => exact h a List.mem_cons_self
      | cons b rest =>
          intro c hc
          rcases List.mem_append.mp hc with hc | hc
          · exact h a List.mem_cons_self c hc
          · rcases List.mem_cons.mp hc with rfl | hc
            · decide
            · rcases List.mem_append.mp hc with hc | hc
              · exact isAsciiChar_space hc
              · exact hrest c hc

/-- What is written of the pairs of an object is ASCII, if it is of each value. -/
theorem isAsciiChar_encodeFields {fields : List (String × Json)}
    (h : ∀ f ∈ fields, ∀ c ∈ f.2.encode separators, IsAsciiChar c) :
    ∀ c ∈ Json.encodeFields separators fields, IsAsciiChar c := by
  induction fields with
  | nil =>
      intro c hc
      cases hc
  | cons f rest ih =>
      obtain ⟨k, a⟩ := f
      have hrest := ih fun b hb => h b (List.mem_cons_of_mem _ hb)
      have hfirst := h (k, a) List.mem_cons_self
      intro c hc
      cases rest with
      | nil =>
          rcases List.mem_append.mp hc with hc | hc
          · exact isAsciiChar_encodeString hc
          · rcases List.mem_cons.mp hc with rfl | hc
            · decide
            · rcases List.mem_append.mp hc with hc | hc
              · exact isAsciiChar_space hc
              · exact hfirst c hc
      | cons g rest =>
          rcases List.mem_append.mp hc with hc | hc
          · exact isAsciiChar_encodeString hc
          · rcases List.mem_cons.mp hc with rfl | hc
            · decide
            · rcases List.mem_append.mp hc with hc | hc
              · exact isAsciiChar_space hc
              · rcases List.mem_append.mp hc with hc | hc
                · exact hfirst c hc
                · rcases List.mem_cons.mp hc with rfl | hc
                  · decide
                  · rcases List.mem_append.mp hc with hc | hc
                    · exact isAsciiChar_space hc
                    · exact hrest c hc

/-- Whatever the value, its text is ASCII. -/
theorem isAsciiChar_encode (a : Json) : ∀ c ∈ a.encode separators, IsAsciiChar c := by
  induction a using Json.induction with
  | null => exact fun c => isAsciiChar_word rfl
  | bool b => cases b <;> exact fun c => isAsciiChar_word rfl
  | int n =>
      rw [Json.encode, toList_toString_numeral]
      exact fun c => isAsciiChar_signed (wellFormed_intNumeral n)
  -- `repr` of a float, or one of the three words
  | float x =>
      cases x with
      | finite negative digits exponent =>
          rw [Json.encode, encodeFloat, floatText_finite]
          exact fun c => isAsciiChar_signed (PyFloat.wellFormed_numeral digits exponent)
      | infinity negative => cases negative <;> exact fun c => isAsciiChar_word rfl
      | nan => exact fun c => isAsciiChar_word rfl
  | str s => exact fun c => isAsciiChar_encodeString
  | arr items ih =>
      intro c hc
      rcases List.mem_cons.mp hc with rfl | hc
      · decide
      · rcases List.mem_append.mp hc with hc | hc
        · exact isAsciiChar_encodeItems ih c hc
        · rw [List.mem_singleton.mp hc]
          decide
  | obj fields ih =>
      intro c hc
      rcases List.mem_cons.mp hc with rfl | hc
      · decide
      · rcases List.mem_append.mp hc with hc | hc
        · exact isAsciiChar_encodeFields ih c hc
        · rw [List.mem_singleton.mp hc]
          decide

end Ascii

end Python
