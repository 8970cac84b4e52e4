import AfricaFrontier.Python.Mapping
import AfricaFrontier.Python.Subscript
import Mathlib.Data.List.Infix

/-!
# The corrective-support engine (`payment_hub/support_ai.py`)

`analyze_incident` looks for marker words in an error and its context and proposes one of
a few actions; `enrich_with_external_llm` asks an optional language model for a note on the
decision and adds nothing else to it.

Of the exceptions a foreign reply can cause, `enrich_with_external_llm` catches some
classes only.  The reply is read with subscripts and method calls, which this file gives
the exception each raises on a value of the wrong shape; `enrich_returns_iff` says for
which replies the function returns.

A decision depends on two readings of its input. The text in which the markers are looked for is
the error with the JSON of the sanitized context, in lower case; the reference and the other
fields are read from the raw context. `analyzeIncident` does both as the source does, over any
mapping of JSON-like values.

The request to the language model is built from the decision alone. What comes back is given the
shape of a Python value, and each subscript and method call on it raises what Python raises, so
that `escapes_llmNote_iff` can go through the `try` block expression by expression.
-/

namespace AfricaFrontier

open Python

/-! ## Marker words -/

/-- `str.lower` of one character, for words with a `k`: the Kelvin sign lowers to it. -/
def lowerChar (c : Char) : Char := if c = Char.ofNat 0x212a then 'k' else c.toLower

/-- The lower case the regular expressions compare: besides, the long `s` and the `i`
without and with a dot match their ASCII letters. -/
def foldChar (c : Char) : Char :=
  if c = Char.ofNat 0x130 ∨ c = Char.ofNat 0x131 then 'i'
  else if c = Char.ofNat 0x17f then 's'
  else lowerChar c

/-- `word in text`. -/
def occursIn (word : String) (text : List Char) : Bool := decide (word.toList <:+: text)

/-- The words of `_SENSITIVE_KEY_RE`, with `api[_-]?key` written out. -/
def sensitiveWords : List String :=
  ["secret", "token", "password", "pin", "otp", "authorization", "cookie", "api_key", "api-key",
    "apikey"]

/-- `_SENSITIVE_KEY_RE.search(key)`. -/
def isSensitiveKey (key : String) : Bool :=
  sensitiveWords.any fun word => occursIn word (key.toList.map foldChar)

/-! ## Sanitized context

What the source puts into the text, the prompt and the incident key: keys as texts, values under
sensitive keys replaced, long texts cut. -/

/-- A text of at most 512 characters, or its beginning. -/
def sanitizeText (s : String) : String :=
  if 512 < s.toList.length then slice 512 s ++ "…" else s

mutual

/-- `_sanitize`: a tuple becomes a list. -/
def sanitize : PyValue → Json
  | .dict fields => .obj (sanitizeFields fields)
  | .list items => .arr (sanitizeItems items)
  | .tuple items => .arr (sanitizeItems items)
  | .str s => .str (sanitizeText s)
  | .null => .null
  | .bool b => .bool b
  | .int n => .int n
  | .float x => .float x

/-- The items of a list or a tuple, sanitized. -/
def sanitizeItems : List PyValue → List Json
  | [] => []
  | a :: as => sanitize a :: sanitizeItems as

/-- The fields of a mapping, sanitized. -/
def sanitizeFields : Mapping → Obj
  | [] => []
  | (key, a) :: rest =>
      (key, if isSensitiveKey key then .str "[REDACTED]" else sanitize a) ::
        sanitizeFields rest

end

/-! ## Decisions -/

/-- The part of a decision that the category of the incident decides. -/
structure SupportPolicy where
  category : String
  severity : String
  diagnosis : String
  proposedAction : String
  autoActionAllowed : Bool
  requiresHumanApproval : Bool
  deriving DecidableEq

/-- `SupportDecision`. -/
structure SupportDecision extends SupportPolicy where
  incidentKey : String
  sanitizedContext : Obj
  llmNote : Option String := none

/-- What the engine is given by its surroundings: SHA-256 as a hexadecimal text, the JSON
decoder and encoder, and the settings of the language model. -/
structure SupportHost where
  sha256 : String → String
  loads : String → Except PyException Json
  dumps : Json → String
  baseUrl : String
  apiKey : String
  model : String

/-- The reference an incident is filed under. -/
def incidentReference (context : Mapping) : String :=
  (((context.get "payment_reference").orElse (context.get "transaction_reference")).orElse
    ((context.get "event_id").orElse (.str "unknown"))).text

/-- `_incident_key`. -/
def incidentKey (host : SupportHost) (error : String) (context : Mapping) : String :=
  "afm-support-" ++ slice 16 (host.sha256 (slice 160 error ++ ":" ++ incidentReference context))

/-- The text in which the markers are looked for. -/
def incidentText (error : String) (context : Mapping) : List Char :=
  (error ++ " " ++ (context.getD "provider_status" (.str "")).text ++ " " ++
    (context.getD "event_type" (.str "")).text).toList.map lowerChar

/-- The markers of a payment that is still on its way. -/
def processingMarkers : List String :=
  ["processing", "pending", "requires_authorization", "stk_prompt"]

/-- The markers of an error that may pass. -/
def transientMarkers : List String :=
  ["timeout", "temporarily", "rate limit", "429", "502", "503", "504"]

/-- The markers of a database that is not as the code expects. -/
def schemaMarkers : List String :=
  ["does not exist", "undefined column", "schema", "database", "sqlalchemy", "alembic"]

/-- The markers of a signature that failed. -/
def securityMarkers : List String := ["signature", "hmac", "invalid webhook"]

/-- `any(marker in text for marker in markers)`. -/
def anyMarker (markers : List String) (text : List Char) : Bool :=
  markers.any fun marker => occursIn marker text

/-- The policy of an incident, by the first list that has a marker in the text. -/
def supportPolicy (text : List Char) : SupportPolicy :=
  if anyMarker processingMarkers text then
    { category := "payment_processing"
      severity := "warning"
      diagnosis := "Provider payment remains intermediate; preserve funds and reconcile asynchronously."
      proposedAction := "enqueue_reconciliation"
      autoActionAllowed := true
      requiresHumanApproval := false }
  else if anyMarker transientMarkers text then
    { category := "provider_transient"
      severity := "warning"
      diagnosis := "Provider communication is transient; retry with bounded backoff and preserve the current ledger state."
      proposedAction := "retry_status_lookup"
      autoActionAllowed := true
      requiresHumanApproval := false }
  else if anyMarker schemaMarkers text then
    { category := "database_schema"
      severity := "critical"
      diagnosis := "Database or schema mismatch detected; stop automated money movement and require an operator-led migration review."
      proposedAction := "open_incident"
      autoActionAllowed := false
      requiresHumanApproval := true }
  else if anyMarker securityMarkers text then
    { category := "webhook_security"
      severity := "high"
      diagnosis := "Webhook authenticity or canonicalization failed; reject business processing and alert an operator."
      proposedAction := "alert_admin"
      autoActionAllowed := false
      requiresHumanApproval := true }
  else
    { category := "unknown"
      severity := "high"
      diagnosis := "Unclassified incident; preserve financial state and request human review."
      proposedAction := "alert_admin"
      autoActionAllowed := false
      requiresHumanApproval := true }

/-- `analyze_incident`. -/
def analyzeIncident (host : SupportHost) (error : String) (context : Mapping) :
    SupportDecision :=
  { supportPolicy (incidentText error context) with
    incidentKey := incidentKey host error context
    sanitizedContext := sanitizeFields context }

/-! ## The language model -/

/-- The request to the language model. -/
structure LlmRequest where
  url : String
  headers : Obj
  body : Obj

/-- `base_url`, without slashes at its end. -/
def SupportHost.endpoint (host : SupportHost) : String :=
  String.ofList (host.baseUrl.toList.reverse.dropWhile (· = '/')).reverse

/-- The language model is set up. -/
def SupportHost.configured (host : SupportHost) : Bool :=
  host.endpoint ≠ "" ∧ host.apiKey ≠ "" ∧ host.model ≠ ""

/-- What the language model is told of a decision. -/
def SupportDecision.prompt (decision : SupportDecision) : Obj :=
  [("incident", .str decision.category),
    ("severity", .str decision.severity),
    ("deterministic_diagnosis", .str decision.diagnosis),
    ("context", .obj decision.sanitizedContext),
    ("instruction", .str "Return JSON with only a concise note and confidence 0..1. Never propose an action, secret, SQL, PIN, OTP, payout, refund, or code mutation.")]

/-- The shape a reply is asked to have. -/
def noteSchema : Obj :=
  [("type", .str "object"),
    ("properties", .obj
      [("note", .obj [("type", .str "string"), ("maxLength", .int 600)]),
        ("confidence", .obj [("type", .str "number"), ("minimum", .int 0), ("maximum", .int 1)])]),
    ("required", .arr [.str "note", .str "confidence"]),
    ("additionalProperties", .bool false)]

/-- The request a decision is enriched with. -/
def llmRequest (host : SupportHost) (decision : SupportDecision) : LlmRequest where
  url := host.endpoint ++ "/chat/completions"
  headers :=
    [("Authorization", .str ("Bearer " ++ host.apiKey)), ("Content-Type", .str "application/json")]
  body :=
    [("model", .str host.model),
      ("messages", .arr
        [.obj
          [("role", .str "system"),
            ("content", .str "You are an AFM support analyst. You may enrich a diagnosis only; deterministic policy remains authoritative.")],
          .obj [("role", .str "user"), ("content", .str (host.dumps (.obj decision.prompt)))]]),
      ("temperature", .int 0),
      ("response_format", .obj
        [("type", .str "json_schema"),
          ("json_schema", .obj
            [("name", .str "support_note"), ("strict", .bool true), ("schema", .obj noteSchema)])])]

/-- How the exchange with the language model ends: the request raises, or there is an
answer, whose body is JSON or not. -/
inductive LlmOutcome
  | raised (e : PyException)
  | answered (status : ℕ) (body : Except PyException Json)

/-- `response.raise_for_status()` and `response.json()`. -/
def LlmOutcome.json : LlmOutcome → Except PyException Json
  | .raised e => .error e
  | .answered status body => if 200 ≤ status ∧ status < 300 then body else .error .http

/-- `…["choices"][0]["message"]["content"]`. -/
def replyContent (body : Json) : Except PyException Json := do
  let choices ← body.item "choices"
  let choice ← choices.head
  let message ← choice.item "message"
  message.item "content"

/-- `json.loads(content).get("note", "").strip()`. -/
def contentNote (host : SupportHost) (content : Json) : Except PyException String := do
  let decoded ← content.loads host.loads
  let note ← decoded.getD "note" (.str "")
  note.strip

/-- The whole `try` block: the body of the answer, the content of its first choice, and the note
in it. -/
def llmNote (host : SupportHost) (outcome : LlmOutcome) : Except PyException String := do
  let body ← outcome.json
  let content ← replyContent body
  contentNote host content

/-- The classes the `except` clause lists. -/
def isCaught : PyException → Bool
  | .http | .key | .type | .value => true
  | _ => false

/-- A computation raises an exception of another class. -/
def Escapes {α : Type} (x : Except PyException α) : Prop := ∃ e, x = .error e ∧ isCaught e = false

/-- `enrich_with_external_llm`: only the note of a decision is ever changed, and an exception that
is not among those caught gets through. -/
def enrichWithExternalLlm (host : SupportHost) (post : LlmRequest → LlmOutcome)
    (decision : SupportDecision) : Except PyException SupportDecision :=
  if host.configured then
    match llmNote host (post (llmRequest host decision)) with
    | .error e => if isCaught e then .ok decision else .error e
    | .ok note =>
        if note = "" then .ok decision
        else .ok { decision with llmNote := some (slice 600 note) }
  else .ok decision

/-! ## The replies it survives

The `except` clause lists the transport errors, `ValueError`, `KeyError` and `TypeError`; an empty
list of choices raises none of these. -/

/-- An empty `choices`. -/
def EmptyChoices (body : Json) : Prop :=
  body.item "choices" = .ok (.arr []) ∨ body.item "choices" = .ok (.str "")

/-- A content from which no note can be read: a text the decoder gives up on, or one that
spells no object, or an object whose note is no text. -/
def UnreadableNote (host : SupportHost) (content : Json) : Prop :=
  ∃ s, content = .str s ∧
    (Escapes (host.loads s) ∨
      (∃ a, host.loads s = .ok a ∧ ∀ fields, a ≠ .obj fields) ∨
      ∃ fields a, host.loads s = .ok (.obj fields) ∧ Obj.find fields "note" = some a ∧
        ∀ note, a ≠ .str note)

/-- The outcomes `enrich_with_external_llm` does not survive: the request or the decoder
raises an exception of another class, or an answer has no choices or no readable note. -/
def LlmOutcome.Fatal (host : SupportHost) (outcome : LlmOutcome) : Prop :=
  Escapes outcome.json ∨
    ∃ body, outcome.json = .ok body ∧
      (EmptyChoices body ∨ ∃ content, replyContent body = .ok content ∧ UnreadableNote host content)

section Replies

variable {host : SupportHost}

/-- What escapes from two computations in a row. -/
theorem escapes_bind {α β : Type} {x : Except PyException α} {f : α → Except PyException β} :
    Escapes (x >>= f) ↔ Escapes x ∨ ∃ a, x = .ok a ∧ Escapes (f a) := by
  unfold Escapes
  cases x with
  | error e => simp [bind, Except.bind]
  | ok a => simp [bind, Except.bind]

/-- Nothing escapes where nothing is raised. -/
theorem not_escapes_ok {α : Type} (a : α) : ¬ Escapes (.ok a : Except PyException α) := by
  rintro ⟨e, h, -⟩
  cases h

/-- Nothing escapes from a subscript with a text. -/
theorem not_escapes_item (a : Json) (key : String) : ¬ Escapes (a.item key) := by
  rintro ⟨e, h, hescapes⟩
  cases a with
  | obj fields =>
      simp only [Json.item] at h
      split at h <;> cases h
      cases hescapes
  | _ =>
      cases h
      cases hescapes

/-- A first element is missing in an empty list and an empty text. -/
theorem escapes_head_iff {a : Json} : Escapes a.head ↔ a = .arr [] ∨ a = .str "" := by
  constructor
  · rintro ⟨e, h, hescapes⟩
    cases a with
    | arr items =>
        cases items with
        | nil => exact Or.inl rfl
        | cons a as => cases h
    | str s =>
        simp only [Json.head] at h
        split at h
        · rename_i hempty
          exact Or.inr (congrArg Json.str (String.toList_eq_nil_iff.mp hempty))
        · cases h
    | _ =>
        cases h
        cases hescapes
  · rintro (rfl | rfl)
    · exact ⟨.index, rfl, rfl⟩
    · exact ⟨.index, rfl, rfl⟩

/-- A content is missing in a way the code does not expect where there are no choices. -/
theorem escapes_replyContent_iff {body : Json} :
    Escapes (replyContent body) ↔ EmptyChoices body := by
  have hrest : ∀ choice : Json, ¬ Escapes (choice.item "message" >>= fun message =>
      message.item "content") := by
    intro choice h
    rcases escapes_bind.mp h with hmessage | ⟨message, -, hcontent⟩
    · exact not_escapes_item _ _ hmessage
    · exact not_escapes_item _ _ hcontent
  unfold replyContent EmptyChoices
  rw [escapes_bind]
  constructor
  · rintro (h | ⟨choices, hchoices, h⟩)
    · exact absurd h (not_escapes_item _ _)
    · rcases escapes_bind.mp h with hhead | ⟨choice, -, hmessage⟩
      · rcases escapes_head_iff.mp hhead with rfl | rfl
        · exact Or.inl hchoices
        · exact Or.inr hchoices
      · exact absurd hmessage (hrest choice)
  · rintro (h | h)
    · exact Or.inr ⟨_, h, escapes_bind.mpr (Or.inl (escapes_head_iff.mpr (Or.inl rfl)))⟩
    · exact Or.inr ⟨_, h, escapes_bind.mpr (Or.inl (escapes_head_iff.mpr (Or.inr rfl)))⟩

/-- A method is missing in a value of another type. -/
theorem escapes_strip_iff {a : Json} : Escapes a.strip ↔ ∀ note, a ≠ .str note := by
  constructor
  · rintro ⟨e, h, -⟩ note rfl
    cases h
  · intro h
    cases a with
    | str s => exact absurd rfl (h s)
    | _ => exact ⟨.attribute, rfl, rfl⟩

/-- A note is missing where the text decodes to no object, or says something else. -/
theorem escapes_decodedNote_iff {decoded : Json} :
    Escapes (decoded.getD "note" (.str "") >>= Json.strip) ↔
      (∀ fields, decoded ≠ .obj fields) ∨
        ∃ fields a, decoded = .obj fields ∧ Obj.find fields "note" = some a ∧
          ∀ note, a ≠ .str note := by
  rw [escapes_bind]
  cases decoded with
  | obj fields =>
      have hget : ∀ a, (Json.obj fields).getD "note" (.str "") = .ok a ↔
          Obj.getD fields "note" (.str "") = a := by
        intro a
        simp [Json.getD]
      constructor
      · rintro (h | ⟨a, ha, hstrip⟩)
        · exact absurd h (not_escapes_ok _)
        · have hother := escapes_strip_iff.mp hstrip
          obtain rfl := (hget a).mp ha
          unfold Obj.getD at hother
          cases hfind : Obj.find fields "note" with
          | none => exact absurd (by rw [hfind]; rfl) (hother "")
          | some a =>
              rw [hfind] at hother
              exact Or.inr ⟨fields, a, rfl, hfind, hother⟩
      · rintro (h | ⟨fields', a, hfields, hfind, hother⟩)
        · exact absurd rfl (h fields)
        · obtain rfl := Json.obj.inj hfields
          refine Or.inr ⟨a, (hget a).mpr ?_, escapes_strip_iff.mpr hother⟩
          simp [Obj.getD, hfind]
  -- any other value has no `get`
  | _ => exact iff_of_true (Or.inl ⟨.attribute, rfl, rfl⟩) (Or.inl (by simp))

/-- What escapes from reading the note. -/
theorem escapes_contentNote_iff {content : Json} :
    Escapes (contentNote host content) ↔ UnreadableNote host content := by
  unfold contentNote UnreadableNote
  rw [escapes_bind]
  cases content with
  | str s =>
      simp only [Json.loads, Json.str.injEq, exists_eq_left', escapes_decodedNote_iff]
      refine or_congr_right ⟨?_, ?_⟩
      · rintro ⟨decoded, hloads, hother | ⟨fields, a, rfl, hnote⟩⟩
        · exact Or.inl ⟨decoded, hloads, hother⟩
        · exact Or.inr ⟨fields, a, hloads, hnote⟩
      · rintro (⟨decoded, hloads, hother⟩ | ⟨fields, a, hloads, hnote⟩)
        · exact ⟨decoded, hloads, Or.inl hother⟩
        · exact ⟨.obj fields, hloads, Or.inr ⟨fields, a, rfl, hnote⟩⟩
  | _ =>
      refine iff_of_false ?_ (by simp)
      rintro (⟨e, he, hescapes⟩ | ⟨decoded, hloads, -⟩)
      · cases he
        cases hescapes
      · cases hloads

/-- What escapes from the `try` block. -/
theorem escapes_llmNote_iff {outcome : LlmOutcome} :
    Escapes (llmNote host outcome) ↔ outcome.Fatal host := by
  unfold llmNote LlmOutcome.Fatal
  rw [escapes_bind]
  refine or_congr_right (exists_congr fun body => and_congr_right fun _ => ?_)
  rw [escapes_bind, escapes_replyContent_iff]
  refine or_congr_right (exists_congr fun content => and_congr_right fun _ => ?_)
  exact escapes_contentNote_iff

/-- **What `enrich_with_external_llm` survives.**  It returns if and only if the language
model is not set up or its answer is not one of those. -/
theorem enrich_returns_iff {post : LlmRequest → LlmOutcome} {decision : SupportDecision} :
    (∃ enriched, enrichWithExternalLlm host post decision = .ok enriched) ↔
      (host.configured = true → ¬ (post (llmRequest host decision)).Fatal host) := by
  rw [← escapes_llmNote_iff]
  unfold enrichWithExternalLlm
  split
  · rename_i hconfigured
    cases hnote : llmNote host (post (llmRequest host decision)) with
    | error e =>
        cases hcaught : isCaught e <;> simp [hconfigured, Escapes, hcaught]
    | ok note =>
        have hnever := not_escapes_ok note
        by_cases hempty : note = ""
        · simpa [hempty] using fun _ => hnever
        · simpa [hempty] using fun _ => hnever
  · rename_i hconfigured
    simp [hconfigured]

/-- What it returns is the decision, with a note or without. -/
theorem enrich_note_only {post : LlmRequest → LlmOutcome} {decision enriched : SupportDecision}
    (h : enrichWithExternalLlm host post decision = .ok enriched) :
    enriched = { decision with llmNote := enriched.llmNote } := by
  unfold enrichWithExternalLlm at h
  split at h
  · split at h
    · split at h
      · cases h
        rfl
      · cases h
    · split at h <;> cases h <;> rfl
  · cases h
    rfl

end Replies

end AfricaFrontier
