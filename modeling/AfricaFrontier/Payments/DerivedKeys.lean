import AfricaFrontier.Payments.Models
import AfricaFrontier.Python.DecimalText
import AfricaFrontier.Python.Words

/-!
# Derived idempotency keys (`payment_hub/payment_service.py`)

Without a key of the client, `_generate_idempotency_key` hashes the fields of the request and
the number of the time bucket, joined with colons.  The fields are compared as they are
spelled and may contain colons themselves, and a retry may come in the next bucket:
`derived_keys_iff` has the pairs of calls whose keys tell whether they are the same request.
Without colons these are the calls of one bucket that spell equal amounts alike
(`keysIdentify_of_plain`).

The bucket is that of the microsecond; the code divides the timestamp as a float, which
lands in the same bucket as long as timestamps are told apart to the microsecond, for more
than two centuries.

SHA-256 is taken to be injective on the texts of the two calls, as the property grants; so keys
are equal exactly where the texts are, and a text joined with colons determines the pieces between
its colons and nothing more (`keyText_eq_iff`). Fields with colons of their own may thus be shared
out differently over the same pieces.
-/

namespace AfricaFrontier

open Python

/-- The arguments of a call and the moment it is made.  The amount is the text of a finite
number. -/
structure KeyCall where
  userId : String
  amount : String
  currency : String
  clientKey : Option String
  method : String
  phoneNumber : Option String
  now : Instant
  amount_finite : ∃ x, DecimalValue.read amount = some (.finite x)

/-- `DEFAULT_IDEMPOTENCY_WINDOW_SECONDS`, in microseconds. -/
def idempotencyWindow : Instant := 300 * 1000000

/-- `time_bucket`. -/
def timeBucket (now : Instant) : ℤ := now / idempotencyWindow

namespace KeyCall

/-- `phone_number or ''`. -/
def phoneText (call : KeyCall) : String := call.phoneNumber.getD ""

/-- `key`. -/
def keyText (call : KeyCall) : String :=
  call.userId ++ ":" ++ call.amount ++ ":" ++ call.currency ++ ":" ++ call.method ++ ":" ++
    call.phoneText ++ ":" ++ toString (timeBucket call.now)

/-- `_generate_idempotency_key`. -/
def generateIdempotencyKey (sha256 : String → String) (call : KeyCall) : String :=
  match call.clientKey with
  | none => sha256 call.keyText
  | some clientKey =>
      if clientKey = "" then sha256 call.keyText
      else sha256 ("client:" ++ call.userId ++ ":" ++ clientKey)

/-- The client names no key. -/
def Unkeyed (call : KeyCall) : Prop := call.clientKey = none ∨ call.clientKey = some ""

/-- Then the key is the digest of the fields. -/
theorem Unkeyed.generateIdempotencyKey_eq {sha256 : String → String} {call : KeyCall}
    (h : call.Unkeyed) : call.generateIdempotencyKey sha256 = sha256 call.keyText := by
  unfold generateIdempotencyKey
  rcases h with h | h <;> simp [h]

/-! ## When key texts are equal

Joining and cutting at the colons. -/

/-- The fields in a row, cut at their colons. Two calls with the same pieces have the same text,
in whatever way the fields share them out. -/
def pieces (call : KeyCall) : List (List Char) :=
  call.userId.toList.splitOn ':' ++ call.amount.toList.splitOn ':' ++
    call.currency.toList.splitOn ':' ++ call.method.toList.splitOn ':' ++
    call.phoneText.toList.splitOn ':'

/-- The key text cut at its colons. -/
theorem splitOn_keyText (call : KeyCall) :
    call.keyText.toList.splitOn ':' = call.pieces ++ [(toString (timeBucket call.now)).toList] := by
  have hcolon : ":".toList = [':'] := rfl
  have hbucket := List.splitOn_eq_singleton (colon_notMem_toString (timeBucket call.now))
  simp only [keyText, String.toList_append, hcolon, List.append_assoc, List.cons_append,
    List.nil_append, splitOn_append_colon, hbucket, pieces]

/-- Two texts are equal when the fields have the same pieces and the buckets are equal. -/
theorem keyText_eq_iff {call call' : KeyCall} :
    call.keyText = call'.keyText ↔
      call.pieces = call'.pieces ∧ timeBucket call.now = timeBucket call'.now := by
  constructor
  · intro h
    have hcut := congrArg (fun text : String => text.toList.splitOn ':') h
    simp only [splitOn_keyText] at hcut
    obtain ⟨hpieces, hbuckets⟩ := List.append_inj' hcut rfl
    exact ⟨hpieces, toString_injective (List.singleton_inj.mp hbuckets)⟩
  · rintro ⟨hpieces, hbuckets⟩
    refine String.toList_injective (splitOn_injective (c := ':') ?_)
    rw [splitOn_keyText, splitOn_keyText, hpieces, hbuckets]

/-! ## Keys and requests

The two calls are less than a window apart, and neither names a key. -/

/-- The same user, numeric amount, currency, method and phone number. Amounts are compared as
numbers, so that `1` and `1.00` are one amount. -/
structure SameRequest (call call' : KeyCall) : Prop where
  userId : call.userId = call'.userId
  amount : DecimalValue.read call.amount = DecimalValue.read call'.amount
  currency : call.currency = call'.currency
  method : call.method = call'.method
  phoneNumber : call.phoneNumber = call'.phoneNumber

/-- Two calls without keys of the client, less than a window apart. They may still fall into two
buckets. -/
structure Comparable (call call' : KeyCall) : Prop where
  unkeyed : call.Unkeyed
  unkeyed' : call'.Unkeyed
  near : |call.now - call'.now| < idempotencyWindow

/-- The keys of two such calls are equal if the requests are the same, and differ if not. -/
def KeysIdentify (sha256 : String → String) (call call' : KeyCall) : Prop :=
  Comparable call call' →
    (SameRequest call call' →
      call.generateIdempotencyKey sha256 = call'.generateIdempotencyKey sha256) ∧
    (¬ SameRequest call call' →
      call.generateIdempotencyKey sha256 ≠ call'.generateIdempotencyKey sha256)

/-- The keys of calls without keys of the client. -/
theorem Comparable.key_eq_iff {sha256 : String → String} (hsha : Function.Injective sha256)
    {call call' : KeyCall} (h : Comparable call call') :
    call.generateIdempotencyKey sha256 = call'.generateIdempotencyKey sha256 ↔
      call.pieces = call'.pieces ∧ timeBucket call.now = timeBucket call'.now := by
  rw [h.unkeyed.generateIdempotencyKey_eq, h.unkeyed'.generateIdempotencyKey_eq, hsha.eq_iff,
    keyText_eq_iff]

/-- Of the same request, only the spelling of the amount may differ. -/
theorem SameRequest.pieces_eq_iff {call call' : KeyCall} (h : SameRequest call call') :
    call.pieces = call'.pieces ↔ call.amount = call'.amount := by
  unfold pieces phoneText
  rw [h.userId, h.currency, h.method, h.phoneNumber, List.append_left_inj, List.append_left_inj,
    List.append_left_inj, List.append_right_inj]
  constructor
  · intro hcut
    exact String.toList_injective (splitOn_injective hcut)
  · intro hamount
    rw [hamount]

/-! ## Calls without colons -/

/-- No field but the phone number has a colon, and no phone number is written as none. -/
structure Plain (call : KeyCall) : Prop where
  userId : ':' ∉ call.userId.toList
  currency : ':' ∉ call.currency.toList
  method : ':' ∉ call.method.toList
  phoneNumber : call.phoneNumber ≠ some ""

/-- The text of a number has no colon. -/
theorem colon_notMem_amount (call : KeyCall) : ':' ∉ call.amount.toList := by
  obtain ⟨x, hread⟩ := call.amount_finite
  exact notMem_of_read hread (by simp [IsNumeralChar]) (by decide) (by decide) (by decide)

/-- A phone number that is not empty is told by its text. -/
theorem phoneNumber_of_phoneText {call call' : KeyCall} (h : call.phoneNumber ≠ some "")
    (h' : call'.phoneNumber ≠ some "") (htext : call.phoneText = call'.phoneText) :
    call.phoneNumber = call'.phoneNumber := by
  unfold phoneText at htext
  cases hphone : call.phoneNumber <;> cases hphone' : call'.phoneNumber <;> simp_all

/-- Of plain calls the pieces are those of the fields. -/
theorem Plain.pieces_eq {call : KeyCall} (h : call.Plain) :
    call.pieces = call.userId.toList :: call.amount.toList :: call.currency.toList ::
      call.method.toList :: call.phoneText.toList.splitOn ':' := by
  unfold pieces
  rw [List.splitOn_eq_singleton h.userId, List.splitOn_eq_singleton call.colon_notMem_amount,
    List.splitOn_eq_singleton h.currency, List.splitOn_eq_singleton h.method]
  rfl

/-- Plain calls with equal pieces are calls of the same request. -/
theorem Plain.sameRequest_of_pieces {call call' : KeyCall} (h : call.Plain) (h' : call'.Plain)
    (hpieces : call.pieces = call'.pieces) : SameRequest call call' := by
  rw [h.pieces_eq, h'.pieces_eq] at hpieces
  obtain ⟨huser, hpieces⟩ := List.cons_eq_cons.mp hpieces
  obtain ⟨hamount, hpieces⟩ := List.cons_eq_cons.mp hpieces
  obtain ⟨hcurrency, hpieces⟩ := List.cons_eq_cons.mp hpieces
  obtain ⟨hmethod, hphone⟩ := List.cons_eq_cons.mp hpieces
  exact {
    userId := String.toList_injective huser
    amount := congrArg DecimalValue.read (String.toList_injective hamount)
    currency := String.toList_injective hcurrency
    method := String.toList_injective hmethod
    phoneNumber := phoneNumber_of_phoneText h.phoneNumber h'.phoneNumber
      (String.toList_injective (splitOn_injective hphone)) }

/-- The keys of plain calls in one bucket identify requests that spell equal amounts alike. -/
theorem keysIdentify_of_plain {sha256 : String → String} (hsha : Function.Injective sha256)
    {call call' : KeyCall} (h : call.Plain) (h' : call'.Plain)
    (hspelling : DecimalValue.read call.amount = DecimalValue.read call'.amount →
      call.amount = call'.amount)
    (hbucket : timeBucket call.now = timeBucket call'.now) : KeysIdentify sha256 call call' := by
  intro hcomparable
  rw [ne_eq, hcomparable.key_eq_iff hsha]
  constructor
  · intro hsame
    exact ⟨hsame.pieces_eq_iff.mpr (hspelling hsame.amount), hbucket⟩
  · rintro hdiffer ⟨hpieces, -⟩
    exact hdiffer (h.sameRequest_of_pieces h' hpieces)

end KeyCall

open KeyCall

/-- **Derived keys and requests.**  The keys of two calls tell whether they are the same
request if and only if the same request spells the amount alike and comes in the same
bucket, and different requests differ in their pieces or come in different buckets. -/
theorem derived_keys_iff {sha256 : String → String} (hsha : Function.Injective sha256)
    (call call' : KeyCall) :
    KeysIdentify sha256 call call' ↔
      (Comparable call call' →
        (SameRequest call call' →
          call.amount = call'.amount ∧ timeBucket call.now = timeBucket call'.now) ∧
        (¬ SameRequest call call' →
          call.pieces ≠ call'.pieces ∨ timeBucket call.now ≠ timeBucket call'.now)) := by
  refine forall_congr' fun hcomparable => ?_
  rw [ne_eq, hcomparable.key_eq_iff hsha]
  refine and_congr (forall_congr' fun hsame => ?_) (forall_congr' fun _ => ?_)
  · rw [hsame.pieces_eq_iff]
  · rw [not_and_or]

/-! ## Retries -/

/-- Two spellings of one franc. -/
theorem read_one : DecimalValue.read "1.0" = some (.finite 1) := by
  decide +kernel

theorem read_one' : DecimalValue.read "1.00" = some (.finite 1) := by
  decide +kernel

/-- A payment by card of one franc, at the last microsecond of the first bucket. -/
def cardCall : KeyCall where
  userId := "u1"
  amount := "1.0"
  currency := "XOF"
  clientKey := none
  method := "card"
  phoneNumber := none
  now := 299999999
  amount_finite := ⟨1, read_one⟩

/-- A second before. -/
def earlierCall : KeyCall := { cardCall with now := 298999999 }

/-- A microsecond later. -/
def laterCall : KeyCall := { cardCall with now := 300000000 }

/-- With a digit more. -/
def respelledCall : KeyCall :=
  { cardCall with amount := "1.00", amount_finite := ⟨1, read_one'⟩ }

/-- With the colon in the method, or in the phone number. -/
def colonCall (method phoneNumber : String) : KeyCall :=
  { cardCall with method := method, phoneNumber := some phoneNumber }

/-- A retry within the bucket. -/
theorem derived_keys_iff_retry : KeysIdentify id earlierCall cardCall :=
  (derived_keys_iff (fun _ _ h => h) earlierCall cardCall).mpr fun _ =>
    ⟨fun _ => ⟨rfl, rfl⟩, fun h => absurd ⟨rfl, rfl, rfl, rfl, rfl⟩ h⟩

/-- A retry in the next bucket, an amount spelled otherwise, and two requests with the same
key. -/
theorem not_keysIdentify :
    ¬ KeysIdentify id cardCall laterCall ∧ ¬ KeysIdentify id cardCall respelledCall ∧
      ¬ KeysIdentify id (colonCall "card:1" "2") (colonCall "card" "1:2") := by
  refine ⟨?later, ?respelled, ?colon⟩
  case later =>
    intro h
    obtain ⟨hsame, -⟩ := h ⟨Or.inl rfl, Or.inl rfl, by decide⟩
    exact absurd (hsame ⟨rfl, rfl, rfl, rfl, rfl⟩) (by decide)
  case respelled =>
    intro h
    obtain ⟨hsame, -⟩ := h ⟨Or.inl rfl, Or.inl rfl, by decide⟩
    have hamount : DecimalValue.read cardCall.amount = DecimalValue.read respelledCall.amount :=
      read_one.trans read_one'.symm
    exact absurd (hsame ⟨rfl, hamount, rfl, rfl, rfl⟩) (by decide)
  case colon =>
    intro h
    obtain ⟨-, hdiffer⟩ := h ⟨Or.inl rfl, Or.inl rfl, by decide⟩
    refine hdiffer (fun hsame => ?_) (by decide)
    exact absurd hsame.method (by decide)

end AfricaFrontier
