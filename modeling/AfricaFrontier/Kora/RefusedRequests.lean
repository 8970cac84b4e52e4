import AfricaFrontier.Kora.Handling

/-!
# Refused webhook requests

`kora_webhook` refuses a request in two ways: with status 400 when the payload is not
an object whose data is an object, and with the answer `ignored` when the signature is
not the one of that data.  `RefusedWithoutTrace` asks that it does so on every such
request and leaves the database as it was.

Two library calls on the way raise what the route does not catch: `json.loads` on bytes
it cannot decode, and `hmac.compare_digest` on a signature outside ASCII.
`refused_without_trace_iff` says that these are the only exceptions.

Both directions go along the checks of the route in their order. Where the library functions
answer, each refused request meets the check it fails, and nothing has been stored by then. The
other direction uses that digests are hexadecimal: a signature outside ASCII is none, and has to
be refused, but the comparison raises instead.
-/

namespace AfricaFrontier

open Python

/-- What a request to `kora_webhook` carries. -/
structure WebhookRequest where
  payload : Bytes
  /-- The header `X-Korapay-Signature`. -/
  korapaySignature : Option String := none
  /-- The header `X-Kora-Signature`. -/
  koraSignature : Option String := none

namespace WebhookRequest

/-- The signature the route goes by: the second header stands in for a missing or empty
first one. -/
def signature (request : WebhookRequest) : String :=
  match request.korapaySignature with
  | some signature => if signature = "" then request.koraSignature.getD "" else signature
  | none => request.koraSignature.getD ""

end WebhookRequest

/-- `kora_webhook` on a database nobody else uses: its verdict on the request, and the
database it leaves. -/
def Platform.koraWebhookAlone (platform : Platform) (secret : String) (now : Instant) (db : Db)
    (request : WebhookRequest) : Reception × Db :=
  match platform.receive secret request.payload request.signature with
  | .accepted d => (.accepted d, d.handle now db)
  | refused => (refused, db)

/-- The data of a payload that is an object with an object as its data; a payload without
a `data` key is its own data. -/
def Platform.payloadData (platform : Platform) (payload : Bytes) : Option Obj :=
  match platform.loads payload with
  | .value (.obj body) => signedData body
  | _ => none

/-- The signature is the one the configured secret gives the data. -/
def Platform.Authentic (platform : Platform) (secret : String) (data : Obj)
    (signature : String) : Prop :=
  secret ≠ "" ∧ strip signature = platform.hmacSha256 secret (platform.dumps data)

/-- **Refused without a trace**: a payload without a data object is answered 400, one with a
signature that is not that of its data is ignored, and neither leaves anything behind. -/
structure Platform.RefusedWithoutTrace (platform : Platform) (secret : String)
    (request : WebhookRequest) : Prop where
  malformed : platform.payloadData request.payload = none →
    ∃ detail, ∀ now db,
      platform.koraWebhookAlone secret now db request = (.badRequest detail, db)
  unauthenticated : ∀ data, platform.payloadData request.payload = some data →
    ¬ platform.Authentic secret data request.signature →
    ∀ now db, platform.koraWebhookAlone secret now db request = (.invalidSignature, db)

/-- The text consists of ASCII characters. -/
def IsAscii (s : String) : Prop := s.toList.all (fun c => c.toNat < 128) = true

instance (s : String) : Decidable (IsAscii s) := inferInstanceAs (Decidable (_ = true))

/-- The library functions answer: the payload parses or is malformed, and a signature that
gets compared is in ASCII. -/
structure Platform.Answers (platform : Platform) (secret : String) (request : WebhookRequest) :
    Prop where
  loads : platform.loads request.payload ≠ .undecodable
  compareDigest : ∀ data, platform.payloadData request.payload = some data → secret ≠ "" →
    IsAscii (strip request.signature)

/-- `hexdigest` returns hexadecimal digits, which are ASCII; that is all that is used of it. -/
def Platform.HexDigests (platform : Platform) : Prop :=
  ∀ secret message, IsAscii (platform.hmacSha256 secret message)

/-! ## The verdicts

One lemma for each outcome of the checks. -/

section Verdicts

variable {platform : Platform} {secret : String} {payload : Bytes}

/-- What the route says of a payload it cannot decode. -/
theorem receive_of_undecodable (h : platform.loads payload = .undecodable) (signature : String) :
    platform.receive secret payload signature = .crashed := by
  simp only [Platform.receive, h]

/-- A payload without a data object is answered 400. -/
theorem receive_of_no_data (h : platform.payloadData payload = none)
    (hloads : platform.loads payload ≠ .undecodable) :
    ∃ detail, ∀ secret signature,
      platform.receive secret payload signature = .badRequest detail := by
  unfold Platform.payloadData at h
  unfold Platform.receive
  split at h
  · rename_i body hbody
    simp only [hbody]
    refine ⟨"Webhook data must be an object", fun secret signature => ?_⟩
    split
    · rfl
    · rename_i data hdata
      rw [hdata] at h
      cases h
  · rename_i hobject
    cases hparsed : platform.loads payload with
    | malformed => exact ⟨_, fun _ _ => rfl⟩
    | undecodable => exact absurd hparsed hloads
    | value body =>
        cases body with
        | obj fields => exact absurd hparsed (hobject fields)
        | _ => exact ⟨_, fun _ _ => rfl⟩

/-- With a data object and a secret the answer is up to the comparison of the digests. -/
theorem receive_of_data {data : Obj} {signature : String} {verdict : Reception}
    (h : platform.payloadData payload = some data) (hverdict : ∀ d, verdict ≠ .accepted d)
    (hsignature :
      if secret = "" then verdict = .invalidSignature
      else
        (platform.verifyKoraWebhookSignature data signature secret = none ∧ verdict = .crashed) ∨
          (platform.verifyKoraWebhookSignature data signature secret = some false ∧
            verdict = .invalidSignature)) :
    platform.receive secret payload signature = verdict := by
  unfold Platform.payloadData at h
  split at h
  · rename_i body hbody
    simp only [Platform.receive, hbody]
    split
    · rename_i hnone
      rw [hnone] at h
      cases h
    · -- past the parsing, the answer depends on the comparison alone
      rename_i data' hdata'
      obtain rfl : data' = data := Option.some.inj (hdata'.symm.trans h)
      split
      · rename_i hsecret
        rw [if_pos hsecret] at hsignature
        exact hsignature.symm
      · rename_i hsecret
        rw [if_neg hsecret] at hsignature
        rcases hsignature with ⟨hraised, rfl⟩ | ⟨hdiffers, rfl⟩
        · simp only [hraised]
        · simp only [hdiffers]
  · cases h

/-- An ASCII signature is compared. -/
theorem compareDigest_of_ascii {signature : String} (h : IsAscii (strip signature))
    (expected : String) :
    compareDigest expected signature = some (decide (expected = strip signature)) := by
  exact if_pos h

/-- Any other makes the comparison raise. -/
theorem compareDigest_of_not_ascii {signature : String} (h : ¬ IsAscii (strip signature))
    (expected : String) : compareDigest expected signature = none := by
  exact if_neg h

end Verdicts

/-! ## When the route refuses without a trace -/

section Refusal

variable {platform : Platform} {secret : String} {request : WebhookRequest}

/-- A verdict that is no acceptance leaves the database alone. -/
theorem koraWebhookAlone_of_refused {verdict : Reception}
    (h : platform.receive secret request.payload request.signature = verdict)
    (hrefused : ∀ d, verdict ≠ .accepted d) (now : Instant) (db : Db) :
    platform.koraWebhookAlone secret now db request = (verdict, db) := by
  unfold Platform.koraWebhookAlone
  rw [h]
  cases verdict with
  | accepted d => exact absurd rfl (hrefused d)
  | _ => rfl

/-- A route that crashes does not give another answer. -/
theorem not_crashed_of_answer {verdict : Reception} {now : Instant} {db : Db}
    (h : platform.koraWebhookAlone secret now db request = (verdict, db))
    (hverdict : verdict ≠ .crashed) :
    platform.receive secret request.payload request.signature ≠ .crashed := by
  intro hcrashed
  rw [koraWebhookAlone_of_refused hcrashed (by simp)] at h
  exact hverdict (congrArg Prod.fst h).symm

/-- Where the library functions answer, the route refuses as it should. -/
theorem Platform.RefusedWithoutTrace.of_answers (h : platform.Answers secret request) :
    platform.RefusedWithoutTrace secret request where
  malformed hdata := by
    obtain ⟨detail, hreceive⟩ := receive_of_no_data hdata h.loads
    exact ⟨detail, koraWebhookAlone_of_refused (hreceive _ _) (by simp)⟩
  unauthenticated data hdata hforged := by
    refine koraWebhookAlone_of_refused ?_ (by simp)
    refine receive_of_data hdata (by simp) ?_
    split
    · rfl
    · rename_i hsecret
      have hdiffers : platform.hmacSha256 secret (platform.dumps data) ≠
          strip request.signature := fun heq => hforged ⟨hsecret, heq.symm⟩
      right
      rw [Platform.verifyKoraWebhookSignature,
        compareDigest_of_ascii (h.compareDigest data hdata hsecret), decide_eq_false hdiffers]
      exact ⟨rfl, rfl⟩

/-- The route refuses as it should only where the library functions answer. -/
theorem Platform.Answers.of_refused (hdigests : platform.HexDigests)
    (h : platform.RefusedWithoutTrace secret request) : platform.Answers secret request where
  loads hundecodable := by
    have hnone : platform.payloadData request.payload = none := by
      simp only [Platform.payloadData, hundecodable]
    obtain ⟨detail, hanswer⟩ := h.malformed hnone
    exact not_crashed_of_answer (hanswer 0 Db.empty) (by simp)
      (receive_of_undecodable hundecodable request.signature)
  compareDigest data hdata hsecret := by
    by_contra hascii
    -- a digest is in ASCII, so that the signature cannot be one
    have hforged : ¬ platform.Authentic secret data request.signature := by
      rintro ⟨-, hsigned⟩
      rw [hsigned] at hascii
      exact hascii (hdigests secret _)
    refine not_crashed_of_answer (h.unauthenticated data hdata hforged 0 Db.empty) (by simp)
      (receive_of_data hdata (by simp) ?_)
    rw [if_neg hsecret]
    exact Or.inl ⟨compareDigest_of_not_ascii hascii _, rfl⟩

end Refusal

/-- Requests are refused without a trace exactly if the payload can be decoded and, where a
secret is configured and the payload carries a data object, the signature is in ASCII but
for surrounding white space. -/
theorem refused_without_trace_iff {platform : Platform} (hdigests : platform.HexDigests)
    (secret : String) (request : WebhookRequest) :
    platform.RefusedWithoutTrace secret request ↔ platform.Answers secret request :=
  ⟨Platform.Answers.of_refused hdigests, Platform.RefusedWithoutTrace.of_answers⟩

/-! ## Requests on record -/

/-- The signatures on record are the digests. -/
theorem RecordedRequest.hexDigests {requests : List RecordedRequest}
    (h : ∀ r ∈ requests, IsAscii r.signature) : (RecordedRequest.platform requests).HexDigests := by
  intro secret message
  simp only [RecordedRequest.platform]
  split
  · rename_i r hfound
    exact h r (List.mem_of_find?_eq_some hfound)
  · rfl

/-- A confirmation, signed with the secret `kora-webhook-secret`. -/
def signedConfirmation : RecordedRequest :=
  textRequest [("reference", "KPO-1"), ("status", "success")]
    [("id", "evt-1"), ("event", "transfer.success")]
    "010f240b1025f69075385d34400f0b7c18e0c9ca9ccfe300314a0a190f21f583"
    "26db3595660885238dbebec6c4a0fa7041d8049a311f5dcfc929aa53c6d6795f"

/-- They are hexadecimal. -/
theorem signedConfirmation_hexDigests :
    (RecordedRequest.platform [signedConfirmation]).HexDigests :=
  RecordedRequest.hexDigests (by decide)

/-- A wrong signature in ASCII is ignored. -/
theorem refused_without_trace_wrong_signature :
    (RecordedRequest.platform [signedConfirmation]).RefusedWithoutTrace "kora-webhook-secret"
      { payload := signedConfirmation.payload, koraSignature := some "invalid" } := by
  refine (refused_without_trace_iff signedConfirmation_hexDigests _ _).mpr
    ⟨?_, fun _ _ _ => by decide⟩
  intro hundecodable
  have hloads : (RecordedRequest.platform [signedConfirmation]).loads signedConfirmation.payload =
      .value (.obj signedConfirmation.body) := by
    simp [RecordedRequest.platform]
  rw [hloads] at hundecodable
  cases hundecodable

/-- The platform on these requests, and on a payload that is not UTF-8. -/
def undecodablePlatform : Platform :=
  { RecordedRequest.platform [signedConfirmation] with
    loads := fun payload =>
      if payload = [0xff] then .undecodable
      else (RecordedRequest.platform [signedConfirmation]).loads payload }

/-- The signature `é` makes the route raise, as does the payload `0xff`. -/
theorem not_refused_without_trace :
    ¬ undecodablePlatform.RefusedWithoutTrace "kora-webhook-secret"
        { payload := signedConfirmation.payload, korapaySignature := some "é" } ∧
      ¬ undecodablePlatform.RefusedWithoutTrace "kora-webhook-secret"
        { payload := [0xff], korapaySignature := some "invalid" } := by
  have hdigests : undecodablePlatform.HexDigests := signedConfirmation_hexDigests
  constructor
  · intro h
    have hanswers := Platform.Answers.of_refused hdigests h
    have hascii := hanswers.compareDigest (textObj [("reference", "KPO-1"), ("status", "success")])
      (by decide +kernel) (by decide)
    revert hascii
    decide
  · intro h
    exact (Platform.Answers.of_refused hdigests h).loads rfl

end AfricaFrontier
