import AfricaFrontier.Python.Text
import AfricaFrontier.Python.Uuid
import AfricaFrontier.Python.Words

/-!
# Query strings (`urllib.parse`)

`urlencode` writes pairs of texts as a query string and `parse_qsl` reads them.  A text is
written as its bytes in UTF-8, where all but a few characters become a percent sign and two
digits, and a space a plus.  Reading takes any query string: bytes that are no UTF-8 become
replacement characters, and a percent sign without two digits stands for itself.

What is written is read again (`parseQsl_urlencode`): first for one character in front of
any rest (`decodeUtf8_bytes`, `unquoteBytes_quoted`), then for a text, then for the pairs.

The decoder of UTF-8 is an automaton (`Utf8State`), as the one of the library is: that is what
makes its answer to bytes that are no UTF-8 exact, the number of replacement characters included.
-/

namespace Python

/-! ## UTF-8

The encoder by the ranges of code points, the decoder byte by byte. -/

/-- The bytes of a character. -/
def utf8Bytes (c : Char) : List ℕ :=
  let n := c.toNat
  if n < 0x80 then [n]
  else if n < 0x800 then [0xc0 + n / 64, 0x80 + n % 64]
  else if n < 0x10000 then [0xe0 + n / 4096, 0x80 + n / 64 % 64, 0x80 + n % 64]
  else [0xf0 + n / 262144, 0x80 + n / 4096 % 64, 0x80 + n / 64 % 64, 0x80 + n % 64]

/-- The replacement character. -/
def replacement : Char := Char.ofNat 0xfffd

/-- Where the decoder stands: between characters, or within one, of which `left` bytes are
missing after the next, which must lie between two bounds. -/
inductive Utf8State
  | start
  | within (left : ℕ) (value : ℕ) (low : ℕ) (high : ℕ)

/-- The first byte of a character. -/
def utf8Lead (b : ℕ) : List Char × Utf8State :=
  if b < 0x80 then ([Char.ofNat b], .start)
  else if b < 0xc2 then ([replacement], .start)
  else if b < 0xe0 then ([], .within 0 (b - 0xc0) 0x80 0xbf)
  else if b < 0xf0 then
    ([], .within 1 (b - 0xe0) (if b = 0xe0 then 0xa0 else 0x80) (if b = 0xed then 0x9f else 0xbf))
  else if b < 0xf5 then
    ([], .within 2 (b - 0xf0) (if b = 0xf0 then 0x90 else 0x80) (if b = 0xf4 then 0x8f else 0xbf))
  else ([replacement], .start)

/-- `bytes.decode("utf-8", "replace")`: the beginning of a character that is not completed
becomes one replacement character. -/
def decodeUtf8 : Utf8State → List ℕ → List Char
  | .start, [] => []
  | .within .., [] => [replacement]
  | .start, b :: bs => (utf8Lead b).1 ++ decodeUtf8 (utf8Lead b).2 bs
  | .within left value low high, b :: bs =>
      if low ≤ b ∧ b ≤ high then
        match left with
        | 0 => Char.ofNat (value * 64 + (b - 0x80)) :: decodeUtf8 .start bs
        | left + 1 => decodeUtf8 (.within left (value * 64 + (b - 0x80)) 0x80 0xbf) bs
      else replacement :: (utf8Lead b).1 ++ decodeUtf8 (utf8Lead b).2 bs

/-- A lone continuation byte, a character cut short by another and by the end. -/
example : decodeUtf8 .start [0x80, 0xe2, 0x82, 0x41, 0xc3, 0xa9, 0xf0, 0x9f] =
    [replacement, replacement, 'A', 'é', replacement] := by
  decide

/-- A byte between characters, which begins one that is not complete. -/
theorem decodeUtf8_lead {b : ℕ} {state : Utf8State} (h : utf8Lead b = ([], state))
    (bs : List ℕ) : decodeUtf8 .start (b :: bs) = decodeUtf8 state bs := by
  rw [decodeUtf8, h, List.nil_append]

/-- A byte within a character. -/
theorem decodeUtf8_within {left value low high b : ℕ} (hlow : low ≤ b) (hhigh : b ≤ high)
    (bs : List ℕ) :
    decodeUtf8 (.within (left + 1) value low high) (b :: bs) =
      decodeUtf8 (.within left (value * 64 + (b - 0x80)) 0x80 0xbf) bs := by
  simp [decodeUtf8, hlow, hhigh]

/-- The last byte of a character. -/
theorem decodeUtf8_last {value low high b : ℕ} (hlow : low ≤ b) (hhigh : b ≤ high)
    (bs : List ℕ) :
    decodeUtf8 (.within 0 value low high) (b :: bs) =
      Char.ofNat (value * 64 + (b - 0x80)) :: decodeUtf8 .start bs := by
  simp [decodeUtf8, hlow, hhigh]

/-- The first byte of two. -/
theorem utf8Lead_two {k : ℕ} (hlow : 2 ≤ k) (hhigh : k < 0x20) :
    utf8Lead (0xc0 + k) = ([], .within 0 k 0x80 0xbf) := by
  unfold utf8Lead
  rw [if_neg (by omega), if_neg (by omega), if_pos (by omega), Nat.add_sub_cancel_left]

/-- The first byte of three. -/
theorem utf8Lead_three {k : ℕ} (h : k < 0x10) :
    utf8Lead (0xe0 + k) =
      ([], .within 1 k (if 0xe0 + k = 0xe0 then 0xa0 else 0x80)
        (if 0xe0 + k = 0xed then 0x9f else 0xbf)) := by
  unfold utf8Lead
  rw [if_neg (by omega), if_neg (by omega), if_neg (by omega), if_pos (by omega),
    Nat.add_sub_cancel_left]

/-- The first byte of four. -/
theorem utf8Lead_four {k : ℕ} (h : k < 5) :
    utf8Lead (0xf0 + k) =
      ([], .within 2 k (if 0xf0 + k = 0xf0 then 0x90 else 0x80)
        (if 0xf0 + k = 0xf4 then 0x8f else 0xbf)) := by
  unfold utf8Lead
  rw [if_neg (by omega), if_neg (by omega), if_neg (by omega), if_neg (by omega),
    if_pos (by omega), Nat.add_sub_cancel_left]

/-- The decoder reads the bytes of a character, whatever follows. -/
theorem decodeUtf8_bytes (c : Char) (bs : List ℕ) :
    decodeUtf8 .start (utf8Bytes c ++ bs) = c :: decodeUtf8 .start bs := by
  have hvalid : c.toNat < 0xd800 ∨ 0xdfff < c.toNat ∧ c.toNat < 0x110000 := c.valid
  have hback := Char.ofNat_toNat c
  unfold utf8Bytes
  simp only
  generalize c.toNat = n at hvalid hback
  split_ifs with hone htwo hthree
  · simp [decodeUtf8, utf8Lead, hone, hback]
  · have hvalue : n / 64 * 64 + (0x80 + n % 64 - 0x80) = n := by omega
    rw [List.cons_append, List.cons_append, List.nil_append,
      decodeUtf8_lead (utf8Lead_two (by omega) (by omega)),
      decodeUtf8_last (by omega) (by omega), hvalue, hback]
  · -- no surrogates, and nothing that fits in fewer bytes
    have hlow : (if 0xe0 + n / 4096 = 0xe0 then 0xa0 else 0x80) ≤ 0x80 + n / 64 % 64 := by
      split_ifs <;> omega
    have hhigh : 0x80 + n / 64 % 64 ≤ if 0xe0 + n / 4096 = 0xed then 0x9f else 0xbf := by
      split_ifs <;> omega
    have hvalue : (n / 4096 * 64 + (0x80 + n / 64 % 64 - 0x80)) * 64 +
        (0x80 + n % 64 - 0x80) = n := by
      omega
    rw [List.cons_append, List.cons_append, List.cons_append, List.nil_append,
      decodeUtf8_lead (utf8Lead_three (by omega)), decodeUtf8_within hlow hhigh,
      decodeUtf8_last (by omega) (by omega), hvalue, hback]
  · have hlow : (if 0xf0 + n / 262144 = 0xf0 then 0x90 else 0x80) ≤ 0x80 + n / 4096 % 64 := by
      split_ifs <;> omega
    have hhigh : 0x80 + n / 4096 % 64 ≤ if 0xf0 + n / 262144 = 0xf4 then 0x8f else 0xbf := by
      split_ifs <;> omega
    have hvalue : ((n / 262144 * 64 + (0x80 + n / 4096 % 64 - 0x80)) * 64 +
        (0x80 + n / 64 % 64 - 0x80)) * 64 + (0x80 + n % 64 - 0x80) = n := by
      omega
    rw [List.cons_append, List.cons_append, List.cons_append, List.cons_append, List.nil_append,
      decodeUtf8_lead (utf8Lead_four (by omega)), decodeUtf8_within hlow hhigh,
      decodeUtf8_within (by omega) (by omega), decodeUtf8_last (by omega) (by omega), hvalue,
      hback]

/-- The decoder reads a text. -/
theorem decodeUtf8_encode (cs : List Char) : decodeUtf8 .start (cs.flatMap utf8Bytes) = cs := by
  induction cs with
  | nil => rfl
  | cons c cs ih => rw [List.flatMap_cons, decodeUtf8_bytes, ih]

/-! ## Percent signs

Quoting goes by bytes, unquoting by runs of ASCII characters. -/

/-- A digit of a percent-encoded byte. -/
def upperHexDigit (n : ℕ) : Char := "0123456789ABCDEF".toList.getD n '0'

/-- A percent-encoded byte. -/
def percent (b : ℕ) : List Char := ['%', upperHexDigit (b / 16), upperHexDigit (b % 16)]

/-- `_ALWAYS_SAFE`. -/
def isUnreserved (c : Char) : Bool := c.isAlphanum || c ∈ ['_', '.', '-', '~']

/-- `quote_plus` of one character. -/
def quoteChar (c : Char) : List Char :=
  if isUnreserved c then [c]
  else if c = ' ' then ['+']
  else (utf8Bytes c).flatMap percent

/-- `quote_plus`. -/
def quotePlus (cs : List Char) : List Char := cs.flatMap quoteChar

/-- `unquote_to_bytes` of ASCII characters: a percent sign counts in front of two digits. -/
def unquoteBytes : List Char → List ℕ
  | [] => []
  | '%' :: h :: l :: rest =>
      match hexDigit h, hexDigit l with
      | some high, some low => (16 * high + low) :: unquoteBytes rest
      | _, _ => '%'.toNat :: unquoteBytes (h :: l :: rest)
  | c :: rest => c.toNat :: unquoteBytes rest

/-- `unquote`: each run of ASCII characters is decoded by itself. -/
def unquoteRuns (run : List Char) : List Char → List Char
  | [] => decodeUtf8 .start (unquoteBytes run.reverse)
  | c :: rest =>
      if c.toNat < 128 then unquoteRuns (c :: run) rest
      else decodeUtf8 .start (unquoteBytes run.reverse) ++ c :: unquoteRuns [] rest

/-- `unquote(text.replace("+", " "))`. -/
def unquotePlus (cs : List Char) : List Char :=
  unquoteRuns [] (cs.map fun c => if c = '+' then ' ' else c)

/-- A text of two bytes, one cut short, and percent signs that stand for themselves. -/
example : unquotePlus "a+%C3%A9%C3%%41%4".toList =
    ['a', ' ', 'é', replacement, '%', 'A', '%', '4'] := by
  decide

/-- The characters a text is written with. -/
def IsQuoted (c : Char) : Prop := isUnreserved c = true ∨ c = '%' ∨ c = '+'

/-- The digits that are written are read. -/
theorem upperHexDigit_spec {n : ℕ} (h : n < 16) :
    hexDigit (upperHexDigit n) = some n ∧ isUnreserved (upperHexDigit n) = true := by
  have hall : ∀ m < 16,
      hexDigit (upperHexDigit m) = some m ∧ isUnreserved (upperHexDigit m) = true := by
    decide
  exact hall n h

/-- Bytes are bytes. -/
theorem utf8Bytes_lt {c : Char} {b : ℕ} (h : b ∈ utf8Bytes c) : b < 256 := by
  have hvalid : c.toNat < 0x110000 := by
    rcases c.valid with hlow | ⟨-, hhigh⟩
    · exact lt_trans hlow (by decide)
    · exact hhigh
  unfold utf8Bytes at h
  simp only at h
  split_ifs at h <;> simp only [List.mem_cons, List.not_mem_nil, or_false] at h <;> omega

/-- Letters and digits, by their code points. -/
theorem range_of_isAlphanum {c : Char} (h : c.isAlphanum = true) :
    48 ≤ c.toNat ∧ c.toNat ≤ 122 := by
  have hrange : ∀ low high : UInt32, (decide (low ≤ c.val) && decide (c.val ≤ high)) = true →
      low.toNat ≤ c.toNat ∧ c.toNat ≤ high.toNat := by
    intro low high hbetween
    obtain ⟨hlow, hhigh⟩ := Bool.and_eq_true_iff.mp hbetween
    exact ⟨UInt32.le_iff_toNat_le.mp (of_decide_eq_true hlow),
      UInt32.le_iff_toNat_le.mp (of_decide_eq_true hhigh)⟩
  rcases Bool.or_eq_true_iff.mp h with hletter | hdigit
  · rcases Bool.or_eq_true_iff.mp hletter with hupper | hlower
    · obtain ⟨hlow, hhigh⟩ := range_of_isUpper hupper
      omega
    · obtain ⟨hlow, hhigh⟩ := hrange 97 122 hlower
      exact ⟨le_trans (by decide) hlow, hhigh⟩
  · obtain ⟨hlow, hhigh⟩ := hrange 48 57 hdigit
    exact ⟨hlow, le_trans hhigh (by decide)⟩

/-- ASCII, and none of the characters that mean something in a query string. -/
theorem of_isUnreserved {c : Char} (h : isUnreserved c = true) :
    c.toNat < 128 ∧ c ≠ '%' ∧ c ≠ '+' ∧ c ≠ '&' ∧ c ≠ '=' := by
  refine ⟨?_, ?_, ?_, ?_, ?_⟩
  · simp only [isUnreserved, Bool.or_eq_true, decide_eq_true_eq, List.mem_cons,
      List.not_mem_nil, or_false] at h
    rcases h with h | rfl | rfl | rfl | rfl
    · exact lt_of_le_of_lt (range_of_isAlphanum h).2 (by decide)
    all_goals decide
  all_goals
    rintro rfl
    exact absurd h (by decide)

/-- What bytes are percent-encoded with. -/
theorem mem_percent {bs : List ℕ} (hbs : ∀ b ∈ bs, b < 256) {d : Char}
    (h : d ∈ bs.flatMap percent) : d = '%' ∨ isUnreserved d = true := by
  obtain ⟨b, hb, hd⟩ := List.mem_flatMap.mp h
  have hlt := hbs b hb
  simp only [percent, List.mem_cons, List.not_mem_nil, or_false] at hd
  rcases hd with rfl | rfl | rfl
  · exact Or.inl rfl
  · exact Or.inr (upperHexDigit_spec (by omega)).2
  · exact Or.inr (upperHexDigit_spec (by omega)).2

/-- Percent-encoded bytes are read again. -/
theorem unquoteBytes_percent {bs : List ℕ} (hbs : ∀ b ∈ bs, b < 256) (rest : List Char) :
    unquoteBytes (bs.flatMap percent ++ rest) = bs ++ unquoteBytes rest := by
  induction bs with
  | nil => rfl
  | cons b bs ih =>
      have hb : b < 256 := hbs b List.mem_cons_self
      have hrest := ih fun b' hb' => hbs b' (List.mem_cons_of_mem b hb')
      rw [List.flatMap_cons, List.append_assoc, percent, List.cons_append, List.cons_append,
        List.cons_append, List.nil_append, unquoteBytes, (upperHexDigit_spec (by omega)).1,
        (upperHexDigit_spec (by omega)).1, hrest]
      simp only [List.cons_append, List.cons.injEq, and_true]
      omega

/-- A character that is no percent sign stands for itself. -/
theorem unquoteBytes_cons {c : Char} (h : c ≠ '%') (rest : List Char) :
    unquoteBytes (c :: rest) = c.toNat :: unquoteBytes rest := by
  rw [unquoteBytes]
  intro _ _ _ hc
  exact absurd hc h

/-- A character is read as it was written, with the spaces put back. -/
theorem unquoteBytes_quoted (c : Char) (rest : List Char) :
    unquoteBytes ((quoteChar c).map (fun c => if c = '+' then ' ' else c) ++ rest) =
      utf8Bytes c ++ unquoteBytes rest := by
  unfold quoteChar
  split_ifs with hkept hspace
  · obtain ⟨hascii, hpercent, hplus, -, -⟩ := of_isUnreserved hkept
    have hbytes : utf8Bytes c = [c.toNat] := by
      unfold utf8Bytes
      exact if_pos hascii
    rw [List.map_singleton, if_neg hplus, List.singleton_append, unquoteBytes_cons hpercent,
      hbytes, List.singleton_append]
  · subst hspace
    exact unquoteBytes_cons (by decide) rest
  · have hbytes : ∀ b ∈ utf8Bytes c, b < 256 := fun b => utf8Bytes_lt
    have hnoplus : ((utf8Bytes c).flatMap percent).map (fun c => if c = '+' then ' ' else c) =
        (utf8Bytes c).flatMap percent := by
      refine (List.map_congr_left fun d hd => if_neg ?_).trans (List.map_id _)
      rcases mem_percent hbytes hd with rfl | hkept
      · decide
      · exact (of_isUnreserved hkept).2.2.1
    rw [hnoplus, unquoteBytes_percent hbytes]

/-- A quoted text is made of these. -/
theorem isQuoted_of_mem {cs : List Char} {d : Char} (h : d ∈ quotePlus cs) : IsQuoted d := by
  obtain ⟨c, -, hd⟩ := List.mem_flatMap.mp h
  unfold quoteChar at hd
  split_ifs at hd with hkept
  · rw [List.mem_singleton.mp hd]
    exact Or.inl hkept
  · rw [List.mem_singleton.mp hd]
    exact Or.inr (Or.inr rfl)
  · exact (mem_percent (fun b => utf8Bytes_lt) hd).elim (fun h => Or.inr (Or.inl h)) Or.inl

/-- They are ASCII. -/
theorem IsQuoted.ascii {c : Char} (h : IsQuoted c) : c.toNat < 128 := by
  rcases h with h | rfl | rfl
  · exact (of_isUnreserved h).1
  · decide
  · decide

/-- No separator is among them. -/
theorem IsQuoted.ne_separator {c : Char} (h : IsQuoted c) : c ≠ '&' ∧ c ≠ '=' := by
  rcases h with h | rfl | rfl
  · exact (of_isUnreserved h).2.2.2
  · decide
  · decide

/-- A text of ASCII characters is one run. -/
theorem unquoteRuns_ascii (run : List Char) {cs : List Char} (h : ∀ c ∈ cs, c.toNat < 128) :
    unquoteRuns run cs = decodeUtf8 .start (unquoteBytes (run.reverse ++ cs)) := by
  induction cs generalizing run with
  | nil => rw [List.append_nil, unquoteRuns]
  | cons c cs ih =>
      rw [unquoteRuns, if_pos (h c List.mem_cons_self),
        ih (c :: run) fun d hd => h d (List.mem_cons_of_mem c hd), List.reverse_cons,
        List.append_assoc, List.singleton_append]

/-- **A text is read as it was written.** -/
theorem unquotePlus_quotePlus (cs : List Char) : unquotePlus (quotePlus cs) = cs := by
  have hascii : ∀ c ∈ (quotePlus cs).map (fun c => if c = '+' then ' ' else c), c.toNat < 128 := by
    intro c hc
    obtain ⟨d, hd, rfl⟩ := List.mem_map.mp hc
    split_ifs
    · decide
    · exact (isQuoted_of_mem hd).ascii
  have hbytes : ∀ cs : List Char,
      unquoteBytes ((quotePlus cs).map fun c => if c = '+' then ' ' else c) =
        cs.flatMap utf8Bytes := by
    intro cs
    induction cs with
    | nil => rfl
    | cons c cs ih =>
        have hcons : quotePlus (c :: cs) = quoteChar c ++ quotePlus cs := rfl
        rw [hcons, List.map_append, unquoteBytes_quoted, ih, List.flatMap_cons]
  rw [unquotePlus, unquoteRuns_ascii [] hascii, List.reverse_nil, List.nil_append, hbytes,
    decodeUtf8_encode]

/-! ## Pairs

A query string is split at its ampersands, a field at its first equals sign. -/

/-- A name and a value. -/
abbrev QueryPair := List Char × List Char

/-- One field of a query string; without an equals sign its value is empty. -/
def parseField (field : List Char) : QueryPair :=
  (unquotePlus (field.takeWhile (· ≠ '=')), unquotePlus ((field.dropWhile (· ≠ '=')).drop 1))

/-- `parse_qsl(query, keep_blank_values=True)`. -/
def parseQsl (query : List Char) : List QueryPair :=
  ((query.splitOn '&').filter fun field => !field.isEmpty).map parseField

/-- One field of `urlencode`. -/
def encodeField (pair : QueryPair) : List Char := quotePlus pair.1 ++ '=' :: quotePlus pair.2

/-- `urlencode(pairs)`. -/
def urlencode (pairs : List QueryPair) : List Char := ['&'].intercalate (pairs.map encodeField)

/-- A field is read as it was written. -/
theorem parseField_encodeField (pair : QueryPair) : parseField (encodeField pair) = pair := by
  have hname : ∀ c ∈ quotePlus pair.1, decide (c ≠ '=') = true := fun c hc =>
    decide_eq_true (isQuoted_of_mem hc).ne_separator.2
  have htake : (encodeField pair).takeWhile (· ≠ '=') = quotePlus pair.1 := by
    rw [encodeField, List.takeWhile_append_of_pos hname, List.takeWhile_cons_of_neg (by simp),
      List.append_nil]
  have hdrop : (encodeField pair).dropWhile (· ≠ '=') = '=' :: quotePlus pair.2 := by
    rw [encodeField, List.dropWhile_append_of_pos hname, List.dropWhile_cons_of_neg (by simp)]
  rw [parseField, htake, hdrop, List.drop_one, List.tail_cons, unquotePlus_quotePlus,
    unquotePlus_quotePlus]

/-- **The pairs are read as they were written.** -/
theorem parseQsl_urlencode (pairs : List QueryPair) : parseQsl (urlencode pairs) = pairs := by
  by_cases hempty : pairs = []
  · subst hempty
    rfl
  · have hplain : ∀ field ∈ pairs.map encodeField, '&' ∉ field := by
      intro field hfield hmem
      obtain ⟨pair, -, rfl⟩ := List.mem_map.mp hfield
      rcases List.mem_append.mp hmem with hname | hvalue
      · exact (isQuoted_of_mem hname).ne_separator.1 rfl
      · rcases List.mem_cons.mp hvalue with hequals | hvalue
        · exact absurd hequals (by decide)
        · exact (isQuoted_of_mem hvalue).ne_separator.1 rfl
    have hfilled : ∀ field ∈ pairs.map encodeField, (!field.isEmpty) = true := by
      intro field hfield
      obtain ⟨pair, -, rfl⟩ := List.mem_map.mp hfield
      simp [encodeField]
    rw [parseQsl, urlencode, List.splitOn_intercalate '&' hplain (by simpa using hempty),
      List.filter_eq_self.mpr hfilled, List.map_map]
    exact (List.map_congr_left fun pair _ => parseField_encodeField pair).trans (List.map_id _)

/-- What a query string is written with. -/
theorem mem_urlencode {pairs : List QueryPair} {c : Char} (h : c ∈ urlencode pairs) :
    IsQuoted c ∨ c = '=' ∨ c = '&' := by
  have hfield : ∀ pair : QueryPair, c ∈ encodeField pair → IsQuoted c ∨ c = '=' ∨ c = '&' := by
    intro pair hc
    rcases List.mem_append.mp hc with hname | hvalue
    · exact Or.inl (isQuoted_of_mem hname)
    · rcases List.mem_cons.mp hvalue with hequals | hvalue
      · exact Or.inr (Or.inl hequals)
      · exact Or.inl (isQuoted_of_mem hvalue)
  induction pairs with
  | nil => simp [urlencode] at h
  | cons pair rest ih =>
      cases rest with
      | nil =>
          rw [urlencode, List.map_singleton, List.intercalate_singleton] at h
          exact hfield pair h
      | cons next rest =>
          rw [urlencode, List.map_cons, List.map_cons, List.intercalate_cons_cons,
            List.append_assoc] at h
          rcases List.mem_append.mp h with hpair | h
          · exact hfield pair hpair
          · rcases List.mem_append.mp h with hseparator | hrest
            · exact Or.inr (Or.inr (List.mem_singleton.mp hseparator))
            · exact ih hrest

end Python
