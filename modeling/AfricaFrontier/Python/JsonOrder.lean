import AfricaFrontier.Lib.Dict
import AfricaFrontier.Python.JsonRoundTrip

/-!
# Sorted keys

`dumps` with `sort_keys` writes one text for all values that differ in the order of their
keys (`Reordered`), and, since what it writes can be read again, different texts for any
others: `dumps_sorted_eq_iff`.  This is about values a program can hold; `loads` gives no
others (`sound_of_loadsText`).

A relation between values is an induction over two of them at once, so `Reordered` is given by its
constructors: a permutation of the keys, a step inside an item or a value, and transitivity.
Sorting goes down the value and is a reordering at each object (`reordered_sorted`); two
reorderings of one object with distinct keys are sorted to one list, because an order of distinct
keys is unique (`insertionSort_perm`).
-/

namespace Python

/-- One value is the other with the keys of its objects, at any depth, in another order. -/
inductive Json.Reordered : Json → Json → Prop
  | refl (a : Json) : Reordered a a
  | trans {a b c : Json} (hab : Reordered a b) (hbc : Reordered b c) : Reordered a c
  | keys {fields fields' : List (String × Json)} (h : fields.Perm fields') :
      Reordered (.obj fields) (.obj fields')
  | item {a b : Json} (front back : List Json) (h : Reordered a b) :
      Reordered (.arr (front ++ a :: back)) (.arr (front ++ b :: back))
  | field {a b : Json} (key : String) (front back : List (String × Json)) (h : Reordered a b) :
      Reordered (.obj (front ++ (key, a) :: back)) (.obj (front ++ (key, b) :: back))

namespace Json.Reordered

/-- Reordering can be undone. -/
theorem symm {a b : Json} (h : Reordered a b) : Reordered b a := by
  induction h with
  | refl a => exact refl a
  | trans _ _ ihab ihbc => exact trans ihbc ihab
  | keys h => exact keys h.symm
  | item front back _ ih => exact item front back ih
  | field key front back _ ih => exact field key front back ih

/-- All items of an array at once. -/
theorem items {g : Json → Json} (rest : List Json) (h : ∀ a ∈ rest, Reordered a (g a))
    (front : List Json) : Reordered (.arr (front ++ rest)) (.arr (front ++ rest.map g)) := by
  induction rest generalizing front with
  | nil => exact refl _
  | cons a rest ih =>
      have hbehind := ih (fun b hb => h b (List.mem_cons_of_mem _ hb)) (front ++ [g a])
      rw [List.append_assoc, List.append_assoc] at hbehind
      exact trans (item front rest (h a List.mem_cons_self)) hbehind

/-- All values of an object at once. -/
theorem fields {g : Json → Json} (rest : List (String × Json))
    (h : ∀ f ∈ rest, Reordered f.2 (g f.2)) (front : List (String × Json)) :
    Reordered (.obj (front ++ rest)) (.obj (front ++ rest.map fun f => (f.1, g f.2))) := by
  induction rest generalizing front with
  | nil => exact refl _
  | cons f rest ih =>
      have hbehind := ih (fun e he => h e (List.mem_cons_of_mem _ he)) (front ++ [(f.1, g f.2)])
      rw [List.append_assoc, List.append_assoc] at hbehind
      exact trans (field f.1 front rest (h f List.mem_cons_self)) hbehind

end Json.Reordered

open Json (Reordered)

/-- Items are sorted one by one. -/
theorem sortedItems_eq (items : List Json) : Json.sortedItems items = items.map Json.sorted := by
  induction items with
  | nil => rfl
  | cons a rest ih => rw [Json.sortedItems, ih, List.map_cons]

/-- Values are sorted one by one. -/
theorem sortedFields_eq (fields : List (String × Json)) :
    Json.sortedFields fields = fields.map fun f => (f.1, f.2.sorted) := by
  induction fields with
  | nil => rfl
  | cons f rest ih => rw [Json.sortedFields, ih, List.map_cons]

/-- Sorting reorders the keys. -/
theorem reordered_sorted (a : Json) : Reordered a a.sorted := by
  induction a using Json.induction with
  | arr items ih =>
      rw [Json.sorted, sortedItems_eq]
      exact Reordered.items items ih []
  | obj fields ih =>
      rw [Json.sorted, sortedFields_eq]
      exact (Reordered.fields fields ih []).trans
        (.keys (List.perm_insertionSort _ _).symm)
  | null => exact .refl _
  | bool b => exact .refl _
  | int n => exact .refl _
  | float x => exact .refl _
  | str s => exact .refl _

/-- Distinct keys have one order. -/
theorem insertionSort_perm {fields fields' : List (String × Json)} (h : fields.Perm fields')
    (hnodup : (fields.map Prod.fst).Nodup) :
    (fields.insertionSort fun f g => f.1 ≤ g.1) = fields'.insertionSort fun f g => f.1 ≤ g.1 := by
  have htotal : Std.Total fun f g : String × Json => f.1 ≤ g.1 := ⟨fun f g => le_total f.1 g.1⟩
  have htrans : IsTrans (String × Json) fun f g => f.1 ≤ g.1 := ⟨fun _ _ _ => le_trans⟩
  have hsort := List.perm_insertionSort (fun f g : String × Json => f.1 ≤ g.1)
  refine @List.Perm.eq_of_pairwise _ (fun f g : String × Json => f.1 ≤ g.1) _ _ ?_
    (List.pairwise_insertionSort _ _) (List.pairwise_insertionSort _ _)
    ((hsort fields).trans (h.trans (hsort fields').symm))
  intro f g hf hg hfg hgf
  have hmemf : f ∈ fields := (hsort fields).mem_iff.mp hf
  have hmemg : g ∈ fields := h.mem_iff.mpr ((hsort fields').mem_iff.mp hg)
  exact List.inj_on_of_nodup_map hnodup hmemf hmemg (le_antisymm hfg hgf)

section Order

variable {nearest : Bool → ℚ → PyFloat} {a b : Json}

/-- Values that differ in the order of keys only are held alike, and sorted to one. -/
theorem Json.Reordered.sorted_eq (h : Reordered a b) (hheld : a.Held nearest) :
    b.Held nearest ∧ a.sorted = b.sorted := by
  induction h with
  | refl a => exact ⟨hheld, rfl⟩
  | trans _ _ ihab ihbc =>
      obtain ⟨hmiddle, hfirst⟩ := ihab hheld
      obtain ⟨hlast, hsecond⟩ := ihbc hmiddle
      exact ⟨hlast, hfirst.trans hsecond⟩
  -- distinct keys are sorted to one list, in whatever order they come
  | @keys fields fields' h =>
      obtain ⟨hnodup, hfields⟩ := hheld
      refine ⟨⟨(h.map Prod.fst).nodup_iff.mp hnodup, ?_⟩, ?_⟩
      · rw [heldFields_iff] at hfields ⊢
        exact fun f hf => hfields f (h.mem_iff.mpr hf)
      · rw [Json.sorted, Json.sorted, sortedFields_eq, sortedFields_eq]
        congr 1
        refine insertionSort_perm (h.map _) ?_
        rw [List.map_map]
        exact hnodup
  | @item a b front back _ ih =>
      have hall := heldItems_iff.mp hheld
      obtain ⟨hb, hsame⟩ := ih (hall a (by simp))
      refine ⟨heldItems_iff.mpr fun c hc => ?_, ?_⟩
      · rcases List.mem_append.mp hc with hc | hc
        · exact hall c (List.mem_append_left _ hc)
        · rcases List.mem_cons.mp hc with rfl | hc
          · exact hb
          · exact hall c (by simp [hc])
      · simp only [Json.sorted, sortedItems_eq, List.map_append, List.map_cons, hsame]
  | @field a b key front back _ ih =>
      obtain ⟨hnodup, hfields⟩ := hheld
      have hall := heldFields_iff.mp hfields
      obtain ⟨hb, hsame⟩ := ih (hall (key, a) (by simp))
      refine ⟨⟨by simpa using hnodup, heldFields_iff.mpr fun c hc => ?_⟩, ?_⟩
      · rcases List.mem_append.mp hc with hc | hc
        · exact hall c (List.mem_append_left _ hc)
        · rcases List.mem_cons.mp hc with rfl | hc
          · exact hb
          · exact hall c (by simp [hc])
      · simp only [Json.sorted, sortedFields_eq, List.map_append, List.map_cons, hsame]

/-- Values that differ in the order of keys only are written alike, or neither can be. -/
theorem Json.Reordered.writable_eq (h : Reordered a b) : a.writable = b.writable := by
  induction h with
  | refl a => rfl
  | trans _ _ ihab ihbc => exact ihab.trans ihbc
  | keys h =>
      rw [Bool.eq_iff_iff]
      simp only [Json.writable, writableFields_iff]
      exact ⟨fun hall f hf => hall f (h.mem_iff.mpr hf), fun hall f hf => hall f (h.mem_iff.mp hf)⟩
  | item front back _ ih =>
      rw [Bool.eq_iff_iff]
      simp only [Json.writable, writableItems_iff, List.forall_mem_append, List.forall_mem_cons, ih]
  | field key front back _ ih =>
      rw [Bool.eq_iff_iff]
      simp only [Json.writable, writableFields_iff, List.forall_mem_append, List.forall_mem_cons,
        ih]

/-- Values with one sorted form differ in the order of keys only. -/
theorem reordered_iff (hheld : a.Held nearest) : Reordered a b ↔ a.sorted = b.sorted :=
  ⟨fun h => (h.sorted_eq hheld).2,
    fun h => (reordered_sorted a).trans (h ▸ (reordered_sorted b).symm)⟩

/-- A text is the text of one value. -/
theorem encode_injective {separators : Separators} (ha : a.Held nearest) (hb : b.Held nearest)
    (hwa : a.writable = true) (hwb : b.writable = true)
    (h : a.encode separators = b.encode separators) : a = b := by
  have hdumps : ∀ c : Json, c.writable = true →
      c.dumps separators false = some (String.ofList (c.encode separators)) := fun c hc => by
    rw [Json.dumps, if_pos hc]
    rfl
  have hloads := loadsText_dumps ha (hdumps a hwa)
  rw [h, loadsText_dumps hb (hdumps b hwb)] at hloads
  exact (Option.some.inj hloads).symm

/-- **The sorted text tells values apart up to the order of their keys.** -/
theorem dumps_sorted_eq_iff {separators : Separators} (ha : a.Held nearest) (hb : b.Held nearest)
    (hwa : a.writable = true) (hwb : b.writable = true) :
    a.dumps separators true = b.dumps separators true ↔ Reordered a b := by
  have hdumps : ∀ c : Json, c.writable = true →
      c.dumps separators true = some (String.ofList (c.sorted.encode separators)) := fun c hc => by
    rw [Json.dumps, if_pos hc]
    rfl
  rw [reordered_iff ha, hdumps a hwa, hdumps b hwb]
  constructor
  · intro h
    refine encode_injective ((reordered_sorted a).sorted_eq ha).1
      ((reordered_sorted b).sorted_eq hb).1 ?_ ?_ (String.ofList_injective (Option.some.inj h))
    · rw [← (reordered_sorted a).writable_eq, hwa]
    · rw [← (reordered_sorted b).writable_eq, hwb]
  · intro h
    rw [h]

end Order

/-! ## What is read is held

The scanner makes dicts by setting one key after the other, floats by taking the nearest, and
integers of digits it has counted. -/

/-- A number of so many digits is below that power of ten. -/
theorem ofDigitChars_lt {cs : List Char} (h : ∀ c ∈ cs, c.isDigit = true) :
    Nat.ofDigitChars 10 cs 0 < 10 ^ cs.length := by
  induction cs using List.reverseRecOn with
  | nil => decide
  | append_singleton cs c ih =>
      have hfront := ih fun d hd => h d (List.mem_append_left _ hd)
      have hlast := (Char.isDigit_iff_toNat.mp (h c (by simp))).2
      have hnine : '9'.toNat = 57 := rfl
      have hzero : '0'.toNat = 48 := rfl
      rw [Nat.ofDigitChars_append, Nat.ofDigitChars_cons, Nat.ofDigitChars_nil, List.length_append,
        List.length_singleton, pow_succ]
      omega

/-- The dict of pairs is the one that Python makes of them. -/
theorem objOfPairs_eq (pairs : List (String × Json)) : objOfPairs pairs = Dict.ofList pairs := by
  have hset : ∀ (o : Obj) (key : String) (value : Json),
      o.set key value = Dict.set key value o := by
    intro o key value
    induction o with
    | nil => rfl
    | cons f rest ih =>
        obtain ⟨k, a⟩ := f
        rw [Obj.set, Dict.set, ih]
        by_cases hkey : k = key
        · rw [if_pos hkey, if_pos hkey, hkey]
        · rw [if_neg hkey, if_neg hkey]
  simp only [objOfPairs, Dict.ofList, hset]

/-- The dict of pairs has nothing in it but these. -/
theorem mem_objOfPairs {pairs : List (String × Json)} {f : String × Json}
    (h : f ∈ objOfPairs pairs) : f ∈ pairs := by
  rw [objOfPairs_eq] at h
  obtain ⟨front, back, hsplit, -⟩ := Dict.mem_kept_iff.mp ((Dict.ofList_perm pairs).mem_iff.mp h)
  rw [hsplit]
  exact List.mem_append_right _ List.mem_cons_self

section Read

variable {nearest : Bool → ℚ → PyFloat}

/-- A value a program can hold and write. -/
def Json.Sound (nearest : Bool → ℚ → PyFloat) (a : Json) : Prop :=
  a.Held nearest ∧ a.writable = true

variable (hnearest : ∀ negative q, (nearest negative q).IsNearest nearest)

/-- Sound items make a sound array. -/
theorem sound_arr {items : List Json} (h : ∀ a ∈ items, a.Sound nearest) :
    (Json.arr items).Sound nearest :=
  ⟨heldItems_iff.mpr fun a ha => (h a ha).1, writableItems_iff.mpr fun a ha => (h a ha).2⟩

/-- Sound values make a sound object. -/
theorem sound_obj {pairs : List (String × Json)} (h : ∀ f ∈ pairs, f.2.Sound nearest) :
    (Json.obj (objOfPairs pairs)).Sound nearest :=
  ⟨⟨by rw [objOfPairs_eq]; exact Dict.nodup_ofList pairs,
    heldFields_iff.mpr fun f hf => (h f (mem_objOfPairs hf)).1⟩,
    writableFields_iff.mpr fun f hf => (h f (mem_objOfPairs hf)).2⟩

/-- Whole digits are digits. -/
theorem digits_scanWhole (cs : List Char) : ∀ c ∈ (scanWhole cs).1, c.isDigit = true := by
  rw [scanWhole.eq_def]
  split
  · intro c hc
    rw [List.mem_singleton.mp hc]
    decide
  · exact fun c hc => List.mem_takeWhile_imp hc

include hnearest

/-- A number that is read from its parts is sound. -/
theorem sound_readNumber {negative : Bool} {whole : List Char} {fraction : Option (List Char)}
    {exponent : Option ℤ} {a : Json} (hwhole : ∀ c ∈ whole, c.isDigit = true) (hne : whole ≠ [])
    (h : readNumber nearest negative whole fraction exponent = some a) : a.Sound nearest := by
  unfold readNumber at h
  split at h
  · split at h
    · rename_i hlength
      obtain rfl := Option.some.inj h
      refine ⟨trivial, decide_eq_true ?_⟩
      have habs : (if negative then -(Nat.ofDigitChars 10 whole 0 : ℤ)
          else (Nat.ofDigitChars 10 whole 0 : ℤ)).natAbs = Nat.ofDigitChars 10 whole 0 := by
        split <;> omega
      have hlt := ofDigitChars_lt hwhole
      rw [habs]
      exact ((Nat.length_toDigits_le_iff (by decide) (List.length_pos_iff.mpr hne)).mpr hlt).trans
        hlength
    · cases h
  · obtain rfl := Option.some.inj h
    exact ⟨hnearest _ _, rfl⟩

/-- A number that is read from its text is sound. -/
theorem sound_scanUnsigned {negative : Bool} {cs rest : List Char} {a : Json}
    (h : scanUnsigned nearest negative cs = some (a, rest)) : a.Sound nearest := by
  unfold scanUnsigned at h
  simp only at h
  split at h
  · cases h
  · rename_i hne
    obtain ⟨b, hb, heq⟩ := Option.map_eq_some_iff.mp h
    obtain ⟨rfl, -⟩ := Prod.mk.inj heq
    exact sound_readNumber hnearest (digits_scanWhole cs) hne hb

/-- Words and numbers that are read are sound. -/
theorem sound_scanAtom {cs rest : List Char} {a : Json}
    (h : scanAtom nearest cs = some (a, rest)) : a.Sound nearest := by
  unfold scanAtom at h
  split at h
  · rename_i word hword
    obtain ⟨rfl, -⟩ := Prod.mk.inj (Option.some.inj h)
    have hmem := List.mem_of_find?_eq_some hword
    simp only [jsonWords, List.mem_cons, List.not_mem_nil, or_false] at hmem
    rcases hmem with rfl | rfl | rfl | rfl | rfl | rfl <;> exact ⟨trivial, rfl⟩
  · rw [scanNumber.eq_def] at h
    split at h
    · exact sound_scanUnsigned hnearest h
    · exact sound_scanUnsigned hnearest h

/-- What the scanner gives back is sound: by induction on the fuel, for a value, the items of
an array and the pairs of an object at once. -/
theorem sound_scan (n : ℕ) :
    (∀ cs a rest, scanValue nearest n cs = some (a, rest) → a.Sound nearest) ∧
      (∀ cs items rest, scanItems nearest n cs = some (items, rest) →
        ∀ a ∈ items, a.Sound nearest) ∧
      ∀ cs pairs rest, scanFields nearest n cs = some (pairs, rest) →
        ∀ f ∈ pairs, f.2.Sound nearest := by
  -- the three scanners call each other with less fuel, and are settled together
  induction n with
  | zero =>
      refine ⟨fun cs a rest h => ?_, fun cs items rest h => ?_, fun cs pairs rest h => ?_⟩
      · simp [scanValue] at h
      · simp [scanItems] at h
      · simp [scanFields] at h
  | succ n ih =>
      obtain ⟨ihvalue, ihitems, ihfields⟩ := ih
      refine ⟨fun cs a rest h => ?_, fun cs items rest h => ?_, fun cs pairs rest h => ?_⟩
      · cases cs with
        | nil => simp [scanValue] at h
        | cons c cs =>
            rw [scanValue] at h
            split at h
            · obtain ⟨r, -, heq⟩ := Option.map_eq_some_iff.mp h
              obtain ⟨rfl, -⟩ := Prod.mk.inj heq
              exact ⟨trivial, rfl⟩
            · split at h
              · split at h
                · cases h
                · split at h
                  · obtain ⟨rfl, -⟩ := Prod.mk.inj (Option.some.inj h)
                    exact ⟨trivial, rfl⟩
                  · obtain ⟨r, hr, heq⟩ := Option.map_eq_some_iff.mp h
                    obtain ⟨rfl, -⟩ := Prod.mk.inj heq
                    exact sound_arr (ihitems _ r.1 r.2 hr)
              · split at h
                · split at h
                  · cases h
                  · split at h
                    · obtain ⟨rfl, -⟩ := Prod.mk.inj (Option.some.inj h)
                      exact ⟨⟨List.nodup_nil, trivial⟩, rfl⟩
                    · obtain ⟨r, hr, heq⟩ := Option.map_eq_some_iff.mp h
                      obtain ⟨rfl, -⟩ := Prod.mk.inj heq
                      exact sound_obj (ihfields _ r.1 r.2 hr)
                · exact sound_scanAtom hnearest h
      · rw [scanItems] at h
        obtain ⟨r, hr, hnext⟩ := Option.bind_eq_some_iff.mp h
        have hfirst := ihvalue cs r.1 r.2 hr
        split at hnext
        · cases hnext
        · split at hnext
          · obtain ⟨rfl, -⟩ := Prod.mk.inj (Option.some.inj hnext)
            simpa using hfirst
          · split at hnext
            · obtain ⟨s, hs, heq⟩ := Option.map_eq_some_iff.mp hnext
              obtain ⟨rfl, -⟩ := Prod.mk.inj heq
              exact List.forall_mem_cons.mpr ⟨hfirst, ihitems _ s.1 s.2 hs⟩
            · cases hnext
      · cases cs with
        | nil => simp [scanFields] at h
        | cons c cs =>
            rw [scanFields] at h
            split at h
            · obtain ⟨k, -, hkey⟩ := Option.bind_eq_some_iff.mp h
              split at hkey
              · cases hkey
              · split at hkey
                · obtain ⟨r, hr, hnext⟩ := Option.bind_eq_some_iff.mp hkey
                  have hfirst := ihvalue _ r.1 r.2 hr
                  split at hnext
                  · cases hnext
                  · split at hnext
                    · obtain ⟨rfl, -⟩ := Prod.mk.inj (Option.some.inj hnext)
                      simpa using hfirst
                    · split at hnext
                      · obtain ⟨s, hs, heq⟩ := Option.map_eq_some_iff.mp hnext
                        obtain ⟨rfl, -⟩ := Prod.mk.inj heq
                        exact List.forall_mem_cons.mpr ⟨hfirst, ihfields _ s.1 s.2 hs⟩
                      · cases hnext
                · cases hkey
            · cases h

/-- **`loads` gives sound values.** -/
theorem sound_of_loadsText {text : String} {a : Json} (h : loadsText nearest text = some a) :
    a.Sound nearest := by
  unfold loadsText at h
  simp only at h
  split at h
  · cases h
  · obtain ⟨r, hr, hrest⟩ := Option.bind_eq_some_iff.mp h
    split at hrest
    · obtain rfl := Option.some.inj hrest
      exact (sound_scan hnearest _).1 _ r.1 r.2 hr
    · cases hrest

end Read

end Python
