import AfricaFrontier.Kora.Handling
import AfricaFrontier.Lib.CutTail

/-!
# The ids events are filed under

`kora_webhook` files an event under the id the provider gave it, in the envelope or
in the object, and otherwise under `event_type:reference:payload_hash`; either is cut
to 128 characters.  `told_apart_iff` says which pairs of accepted payloads get
different ids that way.

Of SHA-256 nothing is used but that its digests are 64 hexadecimal digits and that the
two payloads have different ones; it cannot be injective on all payloads.  Told apart
is therefore what the two payloads are under *every* hash of this kind, and the
condition (`IdsApart`) speaks of what the requests say and how long it is:

* the id of the provider, from the envelope or the object, is never combined with the
  hash, so two states of one object, sent under the id of the object, are one event;
* the title `event_type:reference:` comes before the hash, so the cut takes the hash
  first: with more than 64 characters one title leaves only a part of two hashes, and
  from 128 on nothing;
* a provider's id, or a title that fills the cut, may read like another title with
  digits behind it.
-/

namespace AfricaFrontier

open Python Relational

/-- The name of an event, before it is cut to its column. -/
def eventName (body : Obj) : String :=
  ((body.get "event").orElse ((body.get "type").orElse (.str "unknown"))).text

/-! ## Digests -/

/-- A hexadecimal digit, as `hexdigest` writes them. -/
def hexDigit (c : Char) : Bool := c.isDigit || ('a' ≤ c && c ≤ 'f')

/-- A digest of SHA-256. -/
def IsDigest (h : String) : Prop := CutTail.Tail hexDigit 64 h.toList

instance (h : String) : Decidable (IsDigest h) :=
  decidable_of_iff (h.toList.length = 64 ∧ h.toList.all hexDigit = true)
    ⟨fun hd => ⟨hd.1, List.all_eq_true.mp hd.2⟩, fun hd => ⟨hd.1, List.all_eq_true.mpr hd.2⟩⟩

/-- What is assumed of SHA-256 on two payloads: digests, which are equal only if the
payloads are. -/
structure Separates (sha256 : Bytes → String) (payload payload' : Bytes) : Prop where
  digest : IsDigest (sha256 payload)
  digest' : IsDigest (sha256 payload')
  injective : sha256 payload = sha256 payload' → payload = payload'

/-- Two texts agree on the 128 characters an event id can hold. -/
def SameStart (a b : String) : Prop := a.toList.take 128 = b.toList.take 128

/-- Two texts are cut to the same exactly if they start the same. -/
theorem slice_eq_iff {a b : String} : slice 128 a = slice 128 b ↔ SameStart a b := by
  unfold slice SameStart
  constructor
  · intro h
    have hlist := congrArg String.toList h
    rwa [String.toList_ofList, String.toList_ofList] at hlist
  · intro h
    rw [h]

namespace Delivery

/-- The provider gave the event an id. -/
def named (d : Delivery) : Bool := (providerEventId d.body d.data).truthy

/-- The text of that id. -/
def providerId (d : Delivery) : String := (providerEventId d.body d.data).text

/-- The id of an event without one, before it is cut. -/
def fallbackId (d : Delivery) : String := fallbackEventId d.body d.data d.payloadHash

/-- What a fallback id says before its hash. -/
def title (d : Delivery) : String :=
  d.eventType ++ ":" ++ ((providerReference d.data).orElse (.str "unknown")).text ++ ":"

/-- A fallback id is its title and the hash. -/
theorem fallbackId_eq (d : Delivery) : d.fallbackId = d.title ++ d.payloadHash := rfl

/-- A title ends in a colon, which is no digit. -/
theorem title_getLast (d : Delivery) : d.title.toList.getLast? = some ':' := by
  rw [title, String.toList_append]
  exact List.getLast?_append_of_ne_nil _ (List.cons_ne_nil _ _)

/-- **Two events are told apart**: they have different ids, so that the receipt of the
second is stored after the first instead of being answered as a duplicate of it. -/
structure ToldApart (d d' : Delivery) : Prop where
  ids : d.eventId ≠ d'.eventId
  stored : ∀ (now later : Instant) (db : Db), d.Unseen db → d'.Unseen db →
    ∃ events, d'.insertReceipt later (d.handle now db) = some events

/-- Different ids are all it takes. -/
theorem ToldApart.of_ids {d d' : Delivery} (h : d.eventId ≠ d'.eventId) :
    d.ToldApart d' where
  ids := h
  stored now later db hd hd' := by
    have hunseen : d'.Unseen (d.handle now db) :=
      (Delivery.unseen_after hd now).mpr ⟨hd', Ne.symm h⟩
    exact Delivery.insertReceipt_of_unseen hunseen later

/-- The same request under another hash. -/
def hashed (d : Delivery) (payloadHash : String) : Delivery :=
  { d with payloadHash := payloadHash }

end Delivery

/-! ## When ids are apart

There are three ways for two ids to meet, by who gave them: both the provider's, one of them, or
none. -/

/-- The provider's id `id` reads like the title of another event and digits behind it. -/
def ReadsAs (id title : String) : Prop :=
  CutTail.FilledBy hexDigit 64 128 title.toList (id.toList.take 128)

/-- Two titles that leave no room for the hashes to differ: the same one with more than 64
characters, or one of at least 128 that reads like the other and digits behind it. -/
def TitlesOverlap (title title' : String) : Prop :=
  CutTail.Overlap hexDigit 64 128 title.toList title'.toList

/-- The ids of two events are apart, judged by the provider's ids, the event types, the
references and their lengths. -/
def IdsApart (d d' : Delivery) : Prop :=
  match d.named, d'.named with
  | true, true => ¬ SameStart d.providerId d'.providerId
  | true, false => ¬ ReadsAs d.providerId d'.title
  | false, true => ¬ ReadsAs d'.providerId d.title
  | false, false => ¬ TitlesOverlap d.title d'.title

/-- Two fallback ids agree if their titles do with the hashes behind them. -/
theorem sameStart_fallback (d d' : Delivery) (h h' : String) :
    SameStart (d.hashed h).fallbackId (d'.hashed h').fallbackId ↔
      (d.title.toList ++ h.toList).take 128 = (d'.title.toList ++ h'.toList).take 128 := by
  rw [SameStart, Delivery.fallbackId_eq, Delivery.fallbackId_eq, String.toList_append,
    String.toList_append]
  exact Iff.rfl

/-- There are two digests that make the id of the provider and a fallback id one. -/
theorem readsAs_iff (d d' : Delivery) :
    ReadsAs d.providerId d'.title ↔
      ∃ h h', IsDigest h ∧ IsDigest h' ∧ h ≠ h' ∧
        SameStart (d.hashed h).providerId (d'.hashed h').fallbackId := by
  have hzero : hexDigit '0' = true := by decide
  have hone : hexDigit '1' = true := by decide
  rw [ReadsAs, CutTail.filledBy_iff hzero]
  constructor
  · rintro ⟨tail', htail', hsame⟩
    obtain ⟨tail, htail, hne⟩ :=
      CutTail.Tail.exists_ne hzero hone (by decide) (by decide : 0 < 64) tail'
    refine ⟨String.ofList tail, String.ofList tail', ?_, ?_, ?_, ?_⟩
    · rwa [IsDigest, String.toList_ofList]
    · rwa [IsDigest, String.toList_ofList]
    · exact fun heq => hne (String.ofList_injective heq).symm
    · rw [SameStart, Delivery.fallbackId_eq, String.toList_append]
      show d.providerId.toList.take 128 =
        (d'.title.toList ++ (String.ofList tail').toList).take 128
      rw [String.toList_ofList, hsame]
  · rintro ⟨h, h', -, hh', -, hsame⟩
    rw [SameStart, Delivery.fallbackId_eq, String.toList_append] at hsame
    exact ⟨h'.toList, hh', hsame.symm⟩

/-- There are two digests that make two fallback ids one. -/
theorem titlesOverlap_iff (d d' : Delivery) :
    TitlesOverlap d.title d'.title ↔
      ∃ h h', IsDigest h ∧ IsDigest h' ∧ h ≠ h' ∧
        SameStart (d.hashed h).fallbackId (d'.hashed h').fallbackId := by
  have hzero : hexDigit '0' = true := by decide
  have hone : hexDigit '1' = true := by decide
  have hcolon : hexDigit ':' = false := by decide
  rw [TitlesOverlap, CutTail.overlap_iff hzero hone (by decide) (by decide) hcolon
    d.title_getLast d'.title_getLast]
  constructor
  · rintro ⟨tail, tail', htail, htail', hne, hsame⟩
    refine ⟨String.ofList tail, String.ofList tail', ?_, ?_, ?_, ?_⟩
    · rwa [IsDigest, String.toList_ofList]
    · rwa [IsDigest, String.toList_ofList]
    · exact fun heq => hne (String.ofList_injective heq)
    · rwa [sameStart_fallback, String.toList_ofList, String.toList_ofList]
  · rintro ⟨h, h', hh, hh', hne, hsame⟩
    rw [sameStart_fallback] at hsame
    exact ⟨h.toList, h'.toList, hh, hh', fun heq => hne (String.toList_inj.mp heq), hsame⟩

/-- **What every hash tells apart.**  Two events have different ids under all pairs of
different digests exactly if their ids are apart in the sense of `IdsApart`. -/
theorem all_apart_iff (d d' : Delivery) :
    (∀ h h', IsDigest h → IsDigest h' → h ≠ h' →
        (d.hashed h).eventId ≠ (d'.hashed h').eventId) ↔ IdsApart d d' := by
  have hid : ∀ (e : Delivery) (h : String), (e.hashed h).eventId =
      slice 128 (if e.named then e.providerId else (e.hashed h).fallbackId) := fun _ _ => rfl
  simp only [hid, Ne, slice_eq_iff, IdsApart]
  cases d.named with
  | true =>
      cases d'.named with
      | true =>
          -- the hashes do not enter; there are two different ones
          have hzeros : IsDigest (String.ofList (List.replicate 64 '0')) := by decide
          have hones : IsDigest (String.ofList (List.replicate 64 '1')) := by decide
          exact ⟨fun hall => hall _ _ hzeros hones (by decide), fun h _ _ _ _ _ => h⟩
      | false =>
          constructor
          · intro hall hreads
            obtain ⟨h, h', hh, hh', hne, hsame⟩ := (readsAs_iff d d').mp hreads
            exact hall h h' hh hh' hne hsame
          · intro happart h h' hh hh' hne hsame
            exact happart ((readsAs_iff d d').mpr ⟨h, h', hh, hh', hne, hsame⟩)
  | false =>
      cases d'.named with
      | true =>
          constructor
          · intro hall hreads
            obtain ⟨h', h, hh', hh, hne, hsame⟩ := (readsAs_iff d' d).mp hreads
            exact hall h h' hh hh' (Ne.symm hne) (Eq.symm hsame)
          · intro happart h h' hh hh' hne hsame
            exact happart ((readsAs_iff d' d).mpr ⟨h', h, hh', hh, Ne.symm hne, Eq.symm hsame⟩)
      | false =>
          constructor
          · intro hall hoverlap
            obtain ⟨h, h', hh, hh', hne, hsame⟩ := (titlesOverlap_iff d d').mp hoverlap
            exact hall h h' hh hh' hne hsame
          · intro happart h h' hh hh' hne hsame
            exact happart ((titlesOverlap_iff d d').mpr ⟨h, h', hh, hh', hne, hsame⟩)

/-! ## The route

The hash is a parameter of the platform, and the condition has to be judged without it. -/

/-- The platform with another hash function. -/
def Platform.withSha256 (platform : Platform) (sha256 : Bytes → String) : Platform :=
  { platform with sha256 := sha256 }

/-- The hash decides neither the parsing nor the signature. -/
theorem Platform.receive_withSha256 {platform : Platform} {secret signature : String}
    {payload : Bytes} {d : Delivery}
    (h : platform.receive secret payload signature = .accepted d) (sha256 : Bytes → String) :
    (platform.withSha256 sha256).receive secret payload signature =
      .accepted (d.hashed (sha256 payload)) := by
  unfold Platform.receive at h ⊢
  simp only [withSha256] at h ⊢
  split at h
  · cases h
  · cases h
  · split at h
    · cases h
    · rename_i data hdata
      split at h
      · cases h
      · rename_i hsecret
        split at h
        · cases h
        · cases h
        · rename_i hverified
          cases h
          have hverified' : Platform.verifyKoraWebhookSignature
              { platform with sha256 := sha256 } data signature secret = some true := hverified
          simp only [if_neg hsecret, hverified']
          rfl
  · cases h

/-- Two payloads with different signed data or event names are different payloads. -/
theorem payload_ne {platform : Platform} {secret signature signature' : String}
    {payload payload' : Bytes} {d d' : Delivery}
    (hd : platform.receive secret payload signature = .accepted d)
    (hd' : platform.receive secret payload' signature' = .accepted d')
    (hdistinct : d.data ≠ d'.data ∨ eventName d.body ≠ eventName d'.body) :
    payload ≠ payload' := by
  obtain ⟨hloads, -, -⟩ := Platform.receive_accepted hd
  obtain ⟨hloads', -, -⟩ := Platform.receive_accepted hd'
  intro hsame
  rw [hsame, hloads'] at hloads
  have hbody : d'.body = d.body := by
    injection hloads with hjson
    injection hjson
  have hdata : d.data = d'.data := by
    rw [← Delivery.bodyData_eq d, ← Delivery.bodyData_eq d', hbody]
  rcases hdistinct with hne | hne
  · exact hne hdata
  · exact hne (by rw [hbody])

/-- The route tells the two requests apart, whatever its hash function is, as long as that
gives the two payloads different digests. -/
def AlwaysToldApart (platform : Platform) (secret signature signature' : String)
    (payload payload' : Bytes) : Prop :=
  ∀ sha256, Separates sha256 payload payload' → ∀ e e',
    (platform.withSha256 sha256).receive secret payload signature = .accepted e →
    (platform.withSha256 sha256).receive secret payload' signature' = .accepted e' →
    e.ToldApart e'

/-- **Which events are told apart.**  Two accepted payloads whose signed data or event
names differ are told apart, whatever their digests, exactly if their ids are apart in the
sense of `IdsApart`. -/
theorem told_apart_iff {platform : Platform} {secret signature signature' : String}
    {payload payload' : Bytes} {d d' : Delivery}
    (hd : platform.receive secret payload signature = .accepted d)
    (hd' : platform.receive secret payload' signature' = .accepted d')
    (hdistinct : d.data ≠ d'.data ∨ eventName d.body ≠ eventName d'.body) :
    AlwaysToldApart platform secret signature signature' payload payload' ↔ IdsApart d d' := by
  have hne := payload_ne hd hd' hdistinct
  rw [← all_apart_iff]
  constructor
  · intro htold h h' hh hh' hdiffer
    -- a hash function with these two digests
    let sha256 : Bytes → String := fun p => if p = payload then h else h'
    have hfirst : sha256 payload = h := if_pos rfl
    have hsecond : sha256 payload' = h' := if_neg (Ne.symm hne)
    have hseparates : Separates sha256 payload payload' :=
      ⟨hfirst ▸ hh, hsecond ▸ hh', fun heq => absurd (hfirst ▸ hsecond ▸ heq) hdiffer⟩
    have hids := (htold sha256 hseparates _ _ (Platform.receive_withSha256 hd sha256)
      (Platform.receive_withSha256 hd' sha256)).ids
    rwa [hfirst, hsecond] at hids
  · intro happart sha256 hseparates e e' he he'
    rw [Platform.receive_withSha256 hd] at he
    rw [Platform.receive_withSha256 hd'] at he'
    cases he
    cases he'
    exact .of_ids (happart _ _ hseparates.digest hseparates.digest'
      fun heq => hne (hseparates.injective heq))

/-! ## Two states of one payment -/

/-- Without an id of the provider, the two states of a payment are told apart by their
hashes. -/
theorem told_apart_hashed :
    let processing := textDelivery [("reference", "KPY-1"), ("status", "processing")]
      [("event", "charge.processing")]
      "abf9842672668da4d9161906f18d55ea11a47ffca82f82a260ff0ec82b91df3c"
    let success := textDelivery [("reference", "KPY-1"), ("status", "success")]
      [("event", "charge.success")]
      "2fbbb52c825c7cbe2390450ec062949183c160f1919ad40287800ea00e71804e"
    processing.ToldApart success := by
  intro processing success
  let processingRequest := textRequest [("reference", "KPY-1"), ("status", "processing")]
    [("event", "charge.processing")]
    "511da677d609c0aed33061d7e1b510dc692ffc2eea666b26152ea742fe9c4cb9" processing.payloadHash
  let successRequest := textRequest [("reference", "KPY-1"), ("status", "success")]
    [("event", "charge.success")]
    "a610dbcada97e221af7a81490712a396084a3bca10b29ee3457a10b3990afc8f" success.payloadHash
  let platform := RecordedRequest.platform [processingRequest, successRequest]
  have hd : platform.receive "kora-webhook-secret" processingRequest.payload
      processingRequest.signature = .accepted processing := by decide +kernel
  have hd' : platform.receive "kora-webhook-secret" successRequest.payload
      successRequest.signature = .accepted success := by decide +kernel
  have hseparates : Separates platform.sha256 processingRequest.payload successRequest.payload :=
    ⟨by decide +kernel, by decide +kernel, fun heq => absurd heq (by decide +kernel)⟩
  have happart : IdsApart processing success := by
    have hnamed : processing.named = false := by decide +kernel
    have hnamed' : success.named = false := by decide +kernel
    have hlength : success.title.toList.length < 64 := by decide +kernel
    unfold IdsApart
    rw [hnamed, hnamed']
    intro hoverlap
    -- titles this short leave the digests whole
    cases hoverlap with
    | same hs hcut =>
        rw [hs] at hcut
        omega
    | right hlong hfill => omega
    | left hlong hfill =>
        have hlength' : processing.title.toList.length < 64 := by decide +kernel
        omega
  exact (told_apart_iff hd hd' (Or.inl (by decide +kernel))).mpr happart platform.sha256
    hseparates processing success hd hd'

/-- Under the id of the payment, they are not: the confirmation arrives as a duplicate of
the notice that the payment is in progress. -/
theorem object_id_shared :
    let signature := "c81e3d2fb34ba2ad969a0ee8875bc0bded31cc4ffdd90675c30266cb4829a2e8"
    let signature' := "fc46aad96a6e4a7efdf2c96c1cfb8dd818162d2a3a82baadd4850637b339dec9"
    let processing := textRequest
      [("id", "pay-1"), ("reference", "KPY-1"), ("status", "processing")]
      [("event", "charge.success")] signature
      "470de4e0ee67d9ec2f2626d225450d1dcea72ddd651ff7403b16647bfa212a3d"
    let success := textRequest [("id", "pay-1"), ("reference", "KPY-1"), ("status", "success")]
      [("event", "charge.success")] signature'
      "824ad3f70272884dbbe8a31539802c0d146f9e888bcf93eed87ac38e072257c9"
    let platform := RecordedRequest.platform [processing, success]
    ∃ d d' : Delivery,
      platform.receive "kora-webhook-secret" processing.payload signature = .accepted d ∧
      platform.receive "kora-webhook-secret" success.payload signature' = .accepted d' ∧
      platform.sha256 processing.payload ≠ platform.sha256 success.payload ∧
      d.data ≠ d'.data ∧ ¬ d.ToldApart d' := by
  intro signature signature' processing success platform
  refine ⟨textDelivery [("id", "pay-1"), ("reference", "KPY-1"), ("status", "processing")]
      [("event", "charge.success")] processing.payloadHash,
    textDelivery [("id", "pay-1"), ("reference", "KPY-1"), ("status", "success")]
      [("event", "charge.success")] success.payloadHash,
    by decide +kernel, by decide +kernel, by decide +kernel, by decide +kernel, fun h => ?_⟩
  exact absurd h.ids (by decide +kernel)

end AfricaFrontier
