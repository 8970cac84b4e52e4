import AfricaFrontier.Kora.Acknowledgement
import AfricaFrontier.Kora.RefusedRequests
import AfricaFrontier.Python.JsonOrder

/-!
# What a signature stands for

The signature covers a text that the route makes of the data itself: it parses the body,
and writes the data again with sorted keys.  So nobody signs what is received, and two
bodies are verified alike whenever their data come out as one text.

Since a JSON text determines its value up to the order of keys, a signature stands for
exactly one piece of data up to that order (`signature_accepts_iff`).  That takes the HMAC to
tell two texts apart, and it is asked of the two texts at hand only: of all texts it would be
false.

Where no signature is ever forged, everything the deliveries leave behind — receipts and
committed units of work, in any interleaving — is about data the provider signed
(`only_signed_data_committed`).  Again it is asked of the texts that are verified: the
provider signed each of them.

The parser and the serialiser are those of `json` (`Platform.SpeaksJson`), so the signed text is
`json.dumps` with sorted keys, compact and in ASCII. Its injectivity up to the order of keys is a
fact of the library on JSON texts; here it is only carried to bytes (`asciiBytes_injective`), and
to what the route verifies.
-/

namespace AfricaFrontier

open Python Relational Transition
open Json (Reordered)

/-- The parser and the serialiser of the platform are those of `json`, and `repr` writes a
float that is read as itself. -/
structure Platform.SpeaksJson (platform : Platform) (nearest : Bool → ℚ → PyFloat) : Prop where
  loads : ∀ payload value, platform.loads payload = .value value →
    ∃ text, loadsText nearest text = some value
  dumps : ∀ data text, (Json.obj data).dumps .compact true = some text →
    platform.dumps data = asciiBytes text
  floats : ∀ negative q, (nearest negative q).IsNearest nearest

/-! ## The signed text

From the digest back to the text, and from the text back to the data. -/

/-- ASCII characters have bytes of their own. -/
theorem toUInt8_injective {c d : Char} (hc : IsAsciiChar c) (hd : IsAsciiChar d)
    (h : c.toUInt8 = d.toUInt8) : c = d := by
  have hvalue : ∀ e : Char, IsAsciiChar e → e.toUInt8.toNat = e.toNat := by
    intro e he
    have hlt : e.toNat < 128 := he
    show e.toNat % 256 = e.toNat
    omega
  have hsame : c.toNat = d.toNat := by rw [← hvalue c hc, h, hvalue d hd]
  rw [← Char.ofNat_toNat c, hsame, Char.ofNat_toNat]

/-- ASCII texts with the same bytes are the same. -/
theorem asciiBytes_injective {s t : String} (hs : ∀ c ∈ s.toList, IsAsciiChar c)
    (ht : ∀ c ∈ t.toList, IsAsciiChar c) (h : asciiBytes s = asciiBytes t) : s = t := by
  have hlists : ∀ cs ds : List Char, (∀ c ∈ cs, IsAsciiChar c) → (∀ d ∈ ds, IsAsciiChar d) →
      cs.map Char.toUInt8 = ds.map Char.toUInt8 → cs = ds := by
    intro cs
    induction cs with
    | nil =>
        intro ds _ _ hmap
        exact (List.map_eq_nil_iff.mp hmap.symm).symm
    | cons c cs ih =>
        intro ds hcs hds hmap
        cases ds with
        | nil => cases hmap
        | cons d ds =>
            obtain ⟨hfirst, hrest⟩ := List.cons.inj hmap
            rw [toUInt8_injective (hcs c List.mem_cons_self) (hds d List.mem_cons_self) hfirst,
              ih ds (fun e he => hcs e (List.mem_cons_of_mem _ he))
                (fun e he => hds e (List.mem_cons_of_mem _ he)) hrest]
  rw [← String.ofList_toList (s := s), hlists s.toList t.toList hs ht h, String.ofList_toList]

/-- What is found under a key is in the object. -/
theorem mem_of_find {o : Obj} {key : String} {value : Json} (h : o.find key = some value) :
    (key, value) ∈ o := by
  induction o with
  | nil => cases h
  | cons f rest ih =>
      obtain ⟨k, a⟩ := f
      rw [Obj.find] at h
      split at h
      · rename_i hk
        rw [← hk, ← Option.some.inj h]
        exact List.mem_cons_self
      · exact List.mem_cons_of_mem _ (ih h)

section Platform

variable {platform : Platform} {nearest : Bool → ℚ → PyFloat} {secret : String}

/-- The data of a payload is a value the program can hold and write. -/
theorem Platform.SpeaksJson.sound (hjson : platform.SpeaksJson nearest) {payload : Bytes}
    {data : Obj} (h : platform.payloadData payload = some data) :
    (Json.obj data).Sound nearest := by
  unfold Platform.payloadData at h
  split at h
  · rename_i body hloads
    obtain ⟨text, htext⟩ := hjson.loads payload _ hloads
    have hbody : (Json.obj body).Sound nearest := sound_of_loadsText hjson.floats htext
    unfold signedData at h
    split at h
    · obtain rfl := Option.some.inj h
      exact hbody
    · rename_i data' hfind
      obtain rfl := Option.some.inj h
      have hmem := mem_of_find hfind
      exact ⟨heldFields_iff.mp hbody.1.2 _ hmem, writableFields_iff.mp hbody.2 _ hmem⟩
    · cases h
  · cases h

/-- Two pieces of data are written alike exactly if one is the other with its keys in
another order. -/
theorem Platform.SpeaksJson.dumps_eq_iff (hjson : platform.SpeaksJson nearest)
    {data data' : Obj} (h : (Json.obj data).Sound nearest) (h' : (Json.obj data').Sound nearest) :
    platform.dumps data = platform.dumps data' ↔ Reordered (.obj data) (.obj data') := by
  have hdumps : ∀ o : Obj, (Json.obj o).Sound nearest → ∃ text,
      (Json.obj o).dumps .compact true = some text ∧ ∀ c ∈ text.toList, IsAsciiChar c := by
    intro o ho
    refine ⟨_, if_pos ho.2, ?_⟩
    rw [String.toList_ofList]
    exact isAsciiChar_encode _
  obtain ⟨text, htext, hascii⟩ := hdumps data h
  obtain ⟨text', htext', hascii'⟩ := hdumps data' h'
  rw [← dumps_sorted_eq_iff h.1 h'.1 h.2 h'.2, htext, htext', hjson.dumps data text htext,
    hjson.dumps data' text' htext']
  exact ⟨fun heq => congrArg some (asciiBytes_injective hascii hascii' heq),
    fun heq => congrArg asciiBytes (Option.some.inj heq)⟩

/-- A request is accepted exactly if its signature is the digest of its data. -/
theorem receive_accepted_iff {payload : Bytes} {signature : String} {data : Obj}
    (hdata : platform.payloadData payload = some data) :
    (∃ d, platform.receive secret payload signature = .accepted d ∧ d.data = data) ↔
      secret ≠ "" ∧
        platform.verifyKoraWebhookSignature data signature secret = some true := by
  unfold Platform.payloadData at hdata
  split at hdata
  · rename_i body hloads
    -- the object under `data` is the one that the signature is checked on
    have hreceive : ∀ d, platform.receive secret payload signature = .accepted d ↔
        secret ≠ "" ∧ platform.verifyKoraWebhookSignature data signature secret = some true ∧
          d = ⟨body, data, platform.sha256 payload, hdata⟩ := by
      intro d
      simp only [Platform.receive, hloads]
      split
      · rename_i hnone
        rw [hnone] at hdata
        cases hdata
      · rename_i data' hdata'
        obtain rfl : data' = data := Option.some.inj (hdata'.symm.trans hdata)
        split
        · rename_i hsecret
          simp [hsecret]
        · rename_i hsecret
          cases hverify : platform.verifyKoraWebhookSignature data' signature secret with
          | none => simp
          | some verified => cases verified <;> simp [hsecret, eq_comm]
    constructor
    · rintro ⟨d, hd, -⟩
      exact ⟨((hreceive d).mp hd).1, ((hreceive d).mp hd).2.1⟩
    · rintro ⟨hsecret, hverified⟩
      exact ⟨_, (hreceive _).mpr ⟨hsecret, hverified, rfl⟩, rfl⟩
  · cases hdata

/-- An accepted delivery carries the data of its payload. -/
theorem payloadData_of_accepted {payload : Bytes} {signature : String} {d : Delivery}
    (h : platform.receive secret payload signature = .accepted d) :
    platform.payloadData payload = some d.data := by
  obtain ⟨hloads, -, -⟩ := Platform.receive_accepted h
  simp only [Platform.payloadData, hloads]
  exact d.signed

/-- A verified signature is the digest of the data. -/
theorem digest_of_verified {data : Obj} {signature : String}
    (h : platform.verifyKoraWebhookSignature data signature secret = some true) :
    platform.hmacSha256 secret (platform.dumps data) = strip signature := by
  unfold Platform.verifyKoraWebhookSignature compareDigest at h
  split at h
  · exact of_decide_eq_true (Option.some.inj h)
  · cases h

/-- The verdict on a piece of data depends on what it is written as. -/
theorem verify_congr {data data' : Obj} (h : platform.dumps data = platform.dumps data')
    (signature : String) :
    platform.verifyKoraWebhookSignature data signature secret =
      platform.verifyKoraWebhookSignature data' signature secret := by
  unfold Platform.verifyKoraWebhookSignature
  rw [h]

/-- **A signature accepts one piece of data.**  Once a request with some signature was
accepted, another request with that signature is accepted exactly if its data is the data of
the first with the keys of its objects, at any depth, in another order; provided the digests
of the two texts differ if the texts do. -/
theorem signature_accepts_iff (hjson : platform.SpeaksJson nearest) {payload payload' : Bytes}
    {signature : String} {d : Delivery} {data : Obj}
    (h : platform.receive secret payload signature = .accepted d)
    (hdata : platform.payloadData payload' = some data)
    (hmac : platform.hmacSha256 secret (platform.dumps d.data) =
        platform.hmacSha256 secret (platform.dumps data) →
      platform.dumps d.data = platform.dumps data) :
    (∃ d', platform.receive secret payload' signature = .accepted d' ∧ d'.data = data) ↔
      Reordered (.obj d.data) (.obj data) := by
  have hfirst := payloadData_of_accepted h
  obtain ⟨hsecret, hverified⟩ := (receive_accepted_iff hfirst).mp ⟨d, h, rfl⟩
  rw [receive_accepted_iff hdata,
    ← hjson.dumps_eq_iff (hjson.sound hfirst) (hjson.sound hdata)]
  constructor
  · rintro ⟨-, hverified'⟩
    -- the signature is the digest of both texts
    exact hmac ((digest_of_verified hverified).trans (digest_of_verified hverified').symm)
  · intro hdumps
    exact ⟨hsecret, by rw [← verify_congr hdumps, hverified]⟩

end Platform

/-- `json` and the two digests on ASCII requests.  One text has the HMAC it really has, and
every other text one of its own. -/
def asciiPlatform (nearest : Bool → ℚ → PyFloat) (text : Bytes) (digest : String)
    (sha256 : Bytes → String) : Platform where
  loads payload :=
    match loadsText nearest (String.ofList (payload.map fun b => Char.ofNat b.toNat)) with
    | some value => .value value
    | none => .malformed
  dumps data :=
    match (Json.obj data).dumps .compact true with
    | some text => asciiBytes text
    | none => []
  hmacSha256 _ message :=
    if message = text then digest
    else String.ofList ('?' :: message.map fun b => Char.ofNat b.toNat)
  sha256 := sha256

section AsciiPlatform

variable {nearest : Bool → ℚ → PyFloat} {text : Bytes} {digest : String}
  {sha256 : Bytes → String}

/-- That platform speaks JSON. -/
theorem asciiPlatform_speaksJson
    (hfloats : ∀ negative q, (nearest negative q).IsNearest nearest) :
    (asciiPlatform nearest text digest sha256).SpeaksJson nearest where
  loads payload value h := by
    simp only [asciiPlatform] at h
    split at h
    · rename_i value' hvalue
      cases h
      exact ⟨_, hvalue⟩
    · cases h
  dumps data written h := by
    simp only [asciiPlatform, h]
  floats := hfloats

end AsciiPlatform

/-- A confirmation as the provider signed it. -/
def postedConfirmation : RecordedRequest :=
  textRequest [("reference", "KPY-1"), ("status", "success")] [("event", "charge.success")]
    "a610dbcada97e221af7a81490712a396084a3bca10b29ee3457a10b3990afc8f"
    "2fbbb52c825c7cbe2390450ec062949183c160f1919ad40287800ea00e71804e"

/-- The same without its event, spaced, escaped and with the keys of the data exchanged. -/
def rewrittenConfirmation : Bytes :=
  asciiBytes ("\x7b \"data\": \x7b\"status\": \"succes\\u0073\", " ++
    "\"reference\": \"KPY-1\"\x7d \x7d")

/-- The platform on these two. -/
def confirmationPlatform : Platform :=
  asciiPlatform (fun _ _ => .nan) (asciiBytes postedConfirmation.canonical)
    postedConfirmation.signature fun payload =>
      if payload = postedConfirmation.payload then postedConfirmation.payloadHash
      else "26bf1aca811c164b5dcc6f5c0d600135776b306e09744663371b08e296be1027"

/-- It accepts the confirmation. -/
theorem confirmationPlatform_accepts :
    confirmationPlatform.receive "kora-webhook-secret" postedConfirmation.payload
      postedConfirmation.signature =
        .accepted (textDelivery [("reference", "KPY-1"), ("status", "success")]
          [("event", "charge.success")] postedConfirmation.payloadHash) := by
  decide +kernel

/-- The platform of the confirmation speaks JSON. -/
theorem confirmationPlatform_speaksJson :
    confirmationPlatform.SpeaksJson fun _ _ => .nan :=
  asciiPlatform_speaksJson fun _ _ => trivial

/-- The statement on the confirmation, and the other spelling of it. -/
theorem signature_accepts_iff_rewritten :
    ∃ d', confirmationPlatform.receive "kora-webhook-secret" rewrittenConfirmation
        postedConfirmation.signature = .accepted d' ∧
      d'.data = [("status", .str "success"), ("reference", .str "KPY-1")] := by
  have hdata : confirmationPlatform.payloadData rewrittenConfirmation =
      some [("status", .str "success"), ("reference", .str "KPY-1")] := by decide +kernel
  have htexts : confirmationPlatform.dumps
      (textObj [("reference", "KPY-1"), ("status", "success")]) =
        confirmationPlatform.dumps
          [("status", .str "success"), ("reference", .str "KPY-1")] := by
    decide +kernel
  exact (signature_accepts_iff confirmationPlatform_speaksJson confirmationPlatform_accepts hdata
    fun _ => htexts).mpr (.keys (List.Perm.swap _ _ _))

/-! ## Runs -/

/-- A request the route accepts, sent by somebody without the secret: if its signature is the
digest of the text it is verified on, the provider signed that text. -/
structure SignedRequest (platform : Platform) (secret : String) (signed : List Obj) where
  payload : Bytes
  signature : String
  delivery : Delivery
  accepted : platform.receive secret payload signature = .accepted delivery
  unforged : platform.hmacSha256 secret (platform.dumps delivery.data) = strip signature →
    ∃ data ∈ signed, platform.dumps delivery.data = platform.dumps data

section Runs

variable {platform : Platform} {nearest : Bool → ℚ → PyFloat} {secret : String}
  {signed : List Obj}

/-- The content is about data the provider signed, up to the order of keys. -/
def FromProvider (signed : List Obj) (content : Content) : Prop :=
  ∃ data ∈ signed, Reordered (.obj data) (.obj content.data)

/-- What an accepted request carries is about data the provider signed. -/
theorem SignedRequest.fromProvider (hjson : platform.SpeaksJson nearest)
    (hsigned : ∀ data ∈ signed, (Json.obj data).Sound nearest)
    (request : SignedRequest platform secret signed) :
    FromProvider signed request.delivery.content := by
  have hdata := payloadData_of_accepted request.accepted
  obtain ⟨-, hverified⟩ := (receive_accepted_iff hdata).mp ⟨_, request.accepted, rfl⟩
  obtain ⟨data, hmem, hdumps⟩ := request.unforged (digest_of_verified hverified)
  exact ⟨data, hmem,
    (hjson.dumps_eq_iff (hsigned data hmem) (hjson.sound hdata)).mp hdumps.symm⟩

/-- The deliveries of such requests, in any number and order, interleaved with everything
else. -/
def signedDeliveries (platform : Platform) (secret : String) (signed : List Obj) :
    Sessions Store (SignedRequest platform secret signed ⊕ Unit) (DeliverySession ⊕ Unit)
      (Tick ⊕ Db) where
  init := Sum.map (fun request => koraWebhook.init request.delivery) otherBusiness.init
  advance := deliveries.advance

/-- Everything the deliveries left behind is about data the provider signed: what was committed,
the receipts, and what was answered. -/
structure AllFromProvider (signed : List Obj) (s : Store) : Prop where
  history : ∀ c ∈ s.history, FromProvider signed c.content
  receipts : ∀ e ∈ s.db.events, FromProvider signed e.content
  answers : ∀ a ∈ s.answers, FromProvider signed a.1.content

/-- There is nothing yet. -/
theorem AllFromProvider.start (db : Db) : AllFromProvider signed (Store.start db) where
  history c hc := by cases hc
  receipts e he := by
    have hrows : e ∈ ([] : List KoraWebhookEvent) := he
    cases hrows
  answers a ha := by cases ha

/-- Marking a receipt does not change what it was filed for. -/
theorem receipts_mark {events : Table KoraWebhookEvent} (receipt : ℕ)
    (f : KoraWebhookEvent → KoraWebhookEvent) (hf : ∀ e, Row.key (f e) = Row.key e)
    (hcontent : ∀ e, (f e).content = e.content)
    (h : ∀ e ∈ events, FromProvider signed e.content) :
    ∀ e ∈ events.modify receipt f hf, FromProvider signed e.content := by
  intro e he
  obtain ⟨e₀, he₀, rfl⟩ := Table.mem_modify.mp he
  split
  · rw [hcontent]
    exact h e₀ he₀
  · exact h e₀ he₀

/-- A statement of such a delivery leaves nothing else. -/
theorem DeliveryStep.allFromProvider {d : Delivery} {s s' : Store} {phase : DeliveryPhase}
    {next : Option DeliveryPhase} (hstep : DeliveryStep d s phase s' next)
    (hown : FromProvider signed d.content) (h : AllFromProvider signed s) :
    AllFromProvider signed s' := by
  cases hstep with
  -- the receipt is of this delivery, whose request was signed
  | recorded hinsert =>
      refine { h with receipts := fun e he => ?_ }
      rcases (Table.mem_insert hinsert).mp he with hold | rfl
      · exact h.receipts e hold
      · rw [Delivery.receipt_content]
        exact hown
  | @committed receipt work now db hflush =>
      obtain ⟨-, -, -, hevents, -⟩ := UnitOfWork.flush_ok hflush
      refine ⟨fun c hc => ?_, receipts_mark receipt (markProcessed now) (markProcessed_key now)
        (markProcessed_content now) ?_, h.answers⟩
      · rcases List.mem_append.mp hc with hold | hnew
        · exact h.history c hold
        · rw [List.mem_singleton.mp hnew]
          exact hown
      · rw [hevents]
        exact h.receipts
  | @marked receipt error =>
      exact { h with
        receipts := receipts_mark receipt (markFailed error) (markFailed_key error)
          (markFailed_content error) h.receipts }
  | answered =>
      refine { h with answers := fun a ha => ?_ }
      rcases List.mem_append.mp ha with hold | hnew
      · exact h.answers a hold
      · rw [List.mem_singleton.mp hnew]
        exact hown
  | clashed => exact h
  | duplicate => exact h
  | advanced _ => exact h
  | computed _ => exact h
  | raised => exact h
  | rejected => exact h
  | refused => exact h

/-- What a session in flight carries. -/
def SessionFromProvider (signed : List Obj) (_ : Store) : DeliverySession ⊕ Unit → Prop
  | .inl t => FromProvider signed t.delivery.content
  | .inr _ => True

/-- No step of any session commits data the provider did not sign. -/
theorem deliveries_fromProvider {s s' : Store} {t : DeliverySession ⊕ Unit} {x : Tick ⊕ Db}
    {o : Option (DeliverySession ⊕ Unit)} (hadv : deliveries.advance s t x = some (s', o))
    (hown : SessionFromProvider signed s t) (h : AllFromProvider signed s) :
    AllFromProvider signed s' ∧ ∀ t', o = some t' → SessionFromProvider signed s' t' := by
  cases t with
  | inl u =>
      obtain ⟨tick, s₁, o₁, -, hu, hr⟩ := Sessions.sum_advance_inl hadv
      obtain ⟨rfl, rfl⟩ := Prod.mk.inj hr
      obtain ⟨next, hstep, rfl⟩ := koraWebhook_advance hu
      refine ⟨hstep.allFromProvider hown h, fun t' ht' => ?_⟩
      cases next with
      | none => cases ht'
      | some phase =>
          cases ht'
          exact hown
  | inr u =>
      obtain ⟨db, s₁, o₁, -, hu, hr⟩ := Sessions.sum_advance_inr hadv
      obtain ⟨rfl, rfl⟩ := Prod.mk.inj hr
      -- the rest of the application touches none of the three
      obtain ⟨-, hevents, hhistory, hanswers⟩ := otherBusiness_lasts hu
      refine ⟨⟨?_, ?_, ?_⟩, fun t' ht' => ?_⟩
      · rw [hhistory]
        exact h.history
      · rw [hevents]
        exact h.receipts
      · rw [hanswers]
        exact h.answers
      · obtain ⟨v, -, rfl⟩ := Option.map_eq_some_iff.mp ht'
        trivial

/-- The outline of these deliveries. -/
theorem provider_outline (hjson : platform.SpeaksJson nearest)
    (hsigned : ∀ data ∈ signed, (Json.obj data).Sound nearest) :
    Outline (signedDeliveries platform secret signed) Unguarded (AllFromProvider signed)
      (SessionFromProvider signed) (fun _ _ => True) where
  opened s request _ := by
    cases request with
    | inl request => exact request.fromProvider hjson hsigned
    | inr u => trivial
  openedCompat _ _ := ⟨trivial, trivial⟩
  global p i t x s' o h ht hadv _ := (deliveries_fromProvider hadv (h.each i t ht) h.global).1
  own p i t x s' t' h ht hadv _ := (deliveries_fromProvider hadv (h.each i t ht) h.global).2 t' rfl
  others p i t x s' o j u h ht hadv _ hne hj := by
    have hu := h.each j u hj
    cases u with
    | inl v => exact hu
    | inr v => trivial
  compat _ _ _ _ _ _ _ _ _ _ _ _ _ _ := ⟨trivial, trivial⟩

/-- **Only signed data is acted upon.**  In every interleaving of deliveries with each other
and with the rest of the application, statements failing and processes dying at any point:
if nobody but the provider can sign, every receipt on record, every committed unit of work
and every answer is about data the provider signed, up to the order of its keys. -/
theorem only_signed_data_committed (hjson : platform.SpeaksJson nearest)
    (hsigned : ∀ data ∈ signed, (Json.obj data).Sound nearest) {db : Db}
    {as : List (PoolAct (SignedRequest platform secret signed ⊕ Unit) (Tick ⊕ Db))}
    {p : Pool Store (DeliverySession ⊕ Unit)}
    (run : Run (signedDeliveries platform secret signed).machine Unguarded
      (Pool.quiet (Store.start db)) as p) : AllFromProvider signed p.store :=
  ((provider_outline hjson hsigned).run run (Pool.Meets.quiet (AllFromProvider.start db))).global

/-- The confirmation, sent by anybody. -/
def postedRequest : SignedRequest confirmationPlatform "kora-webhook-secret"
    [textObj [("reference", "KPY-1"), ("status", "success")]] where
  payload := postedConfirmation.payload
  signature := postedConfirmation.signature
  delivery := _
  accepted := confirmationPlatform_accepts
  unforged _ := ⟨_, List.mem_singleton_self _, rfl⟩

/-- The statement on the confirmation. -/
theorem only_signed_data_committed_posted :
    ∃ p, Run (signedDeliveries confirmationPlatform "kora-webhook-secret"
        [textObj [("reference", "KPY-1"), ("status", "success")]]).machine Unguarded
        (Pool.quiet (Store.start (Db.holding processingPayin)))
        (.begin 0 (.inl postedRequest) :: List.replicate 5 (.advance 0 (.inl ⟨0, false⟩))) p ∧
      p.store.history.length = 1 ∧
      AllFromProvider [textObj [("reference", "KPY-1"), ("status", "success")]] p.store := by
  have hcheck : ((signedDeliveries confirmationPlatform "kora-webhook-secret"
      [textObj [("reference", "KPY-1"), ("status", "success")]]).machine.check (fun _ _ => true)
      (Pool.quiet (Store.start (Db.holding processingPayin)))
      (.begin 0 (.inl postedRequest) :: List.replicate 5 (.advance 0 (.inl ⟨0, false⟩)))).map
        (fun p => p.store.history.length) = some 1 := by
    decide +kernel
  obtain ⟨p, hp, hreached⟩ := Option.map_eq_some_iff.mp hcheck
  have run := (Run.of_check hp).unguarded
  refine ⟨p, run, hreached, only_signed_data_committed confirmationPlatform_speaksJson ?_ run⟩
  intro data hdata
  rw [List.mem_singleton.mp hdata]
  exact ⟨⟨by decide +kernel, trivial, trivial, trivial⟩, by decide +kernel⟩

end Runs

end AfricaFrontier
