import AfricaFrontier.Kora.Webhook

/-!
# The envelope of a Kora webhook

The first half of `kora_webhook`: parse the raw body, verify the signature, and
derive what the delivery is filed under.  The signature covers the `data` object
only; the event name, the event id and the hash of the raw payload are taken from
what surrounds it.

`Delivery` is a delivery that passed: a parsed body together with the object that
was signed.  `receive` is the route's verdict on a raw request, with the parser,
the serialiser and the two digests of the platform as a parameter.

What is derived from the unsigned part: the event name (`event`, else `type` of the object), cut
to its column; the event id, which is the provider's where there is one and otherwise a text made
of the name, the reference and the hash of the raw payload, cut to 128 characters. What is derived
from the signed object is the data, and with it all that the business handlers read.

The examples of later modules run on recorded requests: the library functions answer on these as
the real ones did, and the theorems hold for any platform.
-/

namespace AfricaFrontier

open Python

/-- A raw request body. -/
abbrev Bytes := List UInt8

/-! ## Identification -/

/-- `body.get("data", body)`, when it is an object. -/
def signedData (body : Obj) : Option Obj :=
  match body.find "data" with
  | none => some body
  | some (.obj data) => some data
  | some _ => none

/-- What the business handler later takes for the data is what was signed. -/
theorem bodyData_of_signedData {body data : Obj} (h : signedData body = some data) :
    bodyData body = data := by
  unfold signedData at h
  unfold bodyData Obj.get
  cases hfind : body.find "data" with
  | none =>
      simp only [hfind] at h
      cases h
      rfl
  | some value =>
      cases value <;> simp only [hfind] at h <;> cases h
      rfl

/-- The name of the event, as stored and dispatched on. -/
def eventTypeOf (body : Obj) : String :=
  slice 80 ((body.get "event").orElse ((body.get "type").orElse (.str "unknown"))).text

/-- A short event name is taken as it is. -/
theorem eventTypeOf_eq {body : Obj} {event : String} (h : body.get "event" = .str event)
    (hne : event ≠ "") (hlen : event.toList.length ≤ 80) : eventTypeOf body = event := by
  simp [eventTypeOf, h, Json.orElse, Json.truthy, hne, slice_eq_self hlen]

/-- The id the provider gave the event, from the envelope or from the object. -/
def providerEventId (body data : Obj) : Json := (body.get "id").orElse (data.get "id")

/-- The reference of the object the event is about. -/
def providerReference (data : Obj) : Json :=
  (data.get "reference").orElse
    ((data.get "transaction_reference").orElse (data.get "payment_reference"))

/-- The id of an event the provider gave none, before it is cut. -/
def fallbackEventId (body data : Obj) (payloadHash : String) : String :=
  eventTypeOf body ++ ":" ++ ((providerReference data).orElse (.str "unknown")).text ++ ":" ++
    payloadHash

/-- The id the event is filed under. -/
def eventIdOf (body data : Obj) (payloadHash : String) : String :=
  slice 128
    (if (providerEventId body data).truthy then (providerEventId body data).text
      else fallbackEventId body data payloadHash)

/-- A delivery whose signature was verified. -/
structure Delivery where
  body : Obj
  data : Obj
  payloadHash : String
  /-- The data is the part of the body the signature covers. -/
  signed : signedData body = some data
  deriving DecidableEq

/-- What the business handler sees of an event. -/
structure Content where
  data : Obj
  eventType : String
  deriving DecidableEq

namespace Delivery

/-- The event name it is stored under. -/
def eventType (d : Delivery) : String := eventTypeOf d.body

/-- The event id it is filed under. -/
def eventId (d : Delivery) : String := eventIdOf d.body d.data d.payloadHash

/-- What the business handler is given. -/
def content (d : Delivery) : Content := ⟨d.data, d.eventType⟩

/-- Which is the data that was signed. -/
@[simp] theorem bodyData_eq (d : Delivery) : bodyData d.body = d.data :=
  bodyData_of_signedData d.signed

end Delivery

/-! ## The route's verdict

Each way in which the route can end before it has stored anything. -/

/-- How `json.loads` ends on a raw body. -/
inductive Parsed
  | value (body : Json)
  /-- `JSONDecodeError`. -/
  | malformed
  /-- Any other exception, such as one of the text decoding. -/
  | undecodable

/-- The library functions the route relies on. -/
structure Platform where
  /-- `json.loads`. -/
  loads : Bytes → Parsed
  /-- `json.dumps` with sorted keys and compact separators, as UTF-8. -/
  dumps : Obj → Bytes
  /-- The hexadecimal digest of HMAC-SHA256 under a secret. -/
  hmacSha256 : String → Bytes → String
  /-- The hexadecimal digest of SHA-256. -/
  sha256 : Bytes → String

/-- `hmac.compare_digest(expected, signature.strip())`: `none` is the `TypeError` it
raises on a signature outside ASCII. -/
def compareDigest (expected signature : String) : Option Bool :=
  if (strip signature).toList.all (fun c => c.toNat < 128) then
    some (expected = strip signature)
  else none

/-- `verify_kora_webhook_signature`. -/
def Platform.verifyKoraWebhookSignature (platform : Platform) (data : Obj)
    (signature secret : String) : Option Bool :=
  compareDigest (platform.hmacSha256 secret (platform.dumps data)) signature

/-- What becomes of a raw request before anything is stored. -/
inductive Reception
  | badRequest (detail : String)
  /-- The answer `ignored`, with status 200 and no trace. -/
  | invalidSignature
  | crashed
  | accepted (d : Delivery)
  deriving DecidableEq

/-- The checks of `kora_webhook`, up to the receipt; `secret` is the configured
secret, empty when there is none. -/
def Platform.receive (platform : Platform) (secret : String) (payload : Bytes)
    (signature : String) : Reception :=
  match platform.loads payload with
  | .malformed => .badRequest "Malformed webhook payload"
  | .undecodable => .crashed
  | .value (.obj body) =>
      match hdata : signedData body with
      | none => .badRequest "Webhook data must be an object"
      | some data =>
          if secret = "" then .invalidSignature
          else
            match platform.verifyKoraWebhookSignature data signature secret with
            | none => .crashed
            | some false => .invalidSignature
            | some true => .accepted ⟨body, data, platform.sha256 payload, hdata⟩
  | .value _ => .badRequest "Webhook payload must be an object"

/-- An accepted request parsed, carried its data as an object, and was signed. -/
theorem Platform.receive_accepted {platform : Platform} {secret signature : String}
    {payload : Bytes} {d : Delivery}
    (h : platform.receive secret payload signature = .accepted d) :
    platform.loads payload = .value (.obj d.body) ∧
      platform.verifyKoraWebhookSignature d.data signature secret = some true ∧
      d.payloadHash = platform.sha256 payload := by
  unfold Platform.receive at h
  split at h
  · cases h
  · cases h
  · rename_i body hloads
    split at h
    · cases h
    · split at h
      · cases h
      · split at h
        · cases h
        · cases h
        · rename_i hverified
          cases h
          exact ⟨hloads, hverified, rfl⟩
  · cases h

/-! ## Recorded requests

Texts, with what was computed of them. -/

/-- A request body, with what the library functions return on it: what it parses to, the
canonical text of its data, the signature of that text and the hash of the body. -/
structure RecordedRequest where
  text : String
  body : Obj
  canonical : String
  signature : String
  payloadHash : String

/-- The bytes of an ASCII text. -/
def asciiBytes (text : String) : Bytes := text.toList.map Char.toUInt8

namespace RecordedRequest

/-- The bytes of a recorded request. -/
def payload (r : RecordedRequest) : Bytes := asciiBytes r.text

/-- The platform on recorded requests; the signatures are those of one secret. -/
def platform (requests : List RecordedRequest) : Platform where
  loads payload :=
    match requests.find? fun r => r.payload = payload with
    | some r => .value (.obj r.body)
    | none => .malformed
  dumps data :=
    match requests.find? fun r => signedData r.body = some data with
    | some r => asciiBytes r.canonical
    | none => []
  hmacSha256 _ message :=
    match requests.find? fun r => asciiBytes r.canonical = message with
    | some r => r.signature
    | none => ""
  sha256 payload :=
    match requests.find? fun r => r.payload = payload with
    | some r => r.payloadHash
    | none => ""

end RecordedRequest

/-- An object whose values are texts. -/
def textObj (fields : List (String × String)) : Obj := fields.map fun f => (f.1, .str f.2)

/-- Its JSON text; it is the canonical one if the keys are sorted. -/
def objectText (fields : List (String × String)) : String :=
  "\x7b" ++ ",".intercalate (fields.map fun f => "\"" ++ f.1 ++ "\":\"" ++ f.2 ++ "\"") ++ "\x7d"

/-- A delivery of such data, in an envelope of texts. -/
def textDelivery (data envelope : List (String × String)) (payloadHash : String) : Delivery where
  body := ("data", .obj (textObj data)) :: textObj envelope
  data := textObj data
  payloadHash := payloadHash
  signed := rfl

/-- The request it arrives in. -/
def textRequest (data envelope : List (String × String)) (signature payloadHash : String) :
    RecordedRequest where
  text :=
    "\x7b\"data\":" ++ objectText data ++
      String.join (envelope.map fun f => ",\"" ++ f.1 ++ "\":\"" ++ f.2 ++ "\"") ++ "\x7d"
  body := (textDelivery data envelope payloadHash).body
  canonical := objectText data
  signature := signature
  payloadHash := payloadHash

end AfricaFrontier
