import AfricaFrontier.Support.SupportAi

/-!
# Incidents and their contexts (`payment_hub/support_ai.py`)

What a decision of `analyze_incident` depends on, for every context: a mapping of any JSON-like
values, tuples included.

The policy is taken from the first list of markers that has one in the text, so a marker of
a dangerous list counts only where no processing and no transient marker occurs besides.
The decision reads the values under sensitive keys nowhere: the sanitized copy replaces
them, and the five fields that are read from the raw context have other keys.

Two contexts that differ under sensitive keys only are related by `Alike`, at any depth. The
relation has a case for each kind of value, and sanitizing sends related values to the same copy
(`Alike.sanitized_eq`), by induction on the relation. What a decision reads of the raw context it
reads under five keys (`readKeys`), none of which is sensitive, and as texts; where the values
there are scalars, related contexts agree on them (`AlikeFields.find_eq`).
-/

namespace AfricaFrontier

open Python

/-! ## Dangerous incidents

The lists are tried in one order, and the first that has a marker decides. -/

/-- A schema or a security marker occurs in the text of the incident, which is the error, the
provider status and the event type, in lower case. -/
def Dangerous (error : String) (context : Mapping) : Prop :=
  anyMarker schemaMarkers (incidentText error context) = true ∨
    anyMarker securityMarkers (incidentText error context) = true

/-- A processing or a transient marker occurs in the text of the incident. -/
def Benign (error : String) (context : Mapping) : Prop :=
  anyMarker processingMarkers (incidentText error context) = true ∨
    anyMarker transientMarkers (incidentText error context) = true

/-- The decision is left to a human. -/
def SupportPolicy.NeedsHuman (policy : SupportPolicy) : Prop :=
  policy.requiresHumanApproval = true ∧ policy.autoActionAllowed = false

/-- The first two lists lead to an automatic action, everything else to a human. -/
theorem needsHuman_supportPolicy_iff (text : List Char) :
    (supportPolicy text).NeedsHuman ↔
      anyMarker processingMarkers text = false ∧ anyMarker transientMarkers text = false := by
  unfold supportPolicy SupportPolicy.NeedsHuman
  cases hprocessing : anyMarker processingMarkers text with
  | true => simp
  | false =>
      cases htransient : anyMarker transientMarkers text with
      | true => simp
      | false =>
          simp only [Bool.false_eq_true, if_false, and_self, iff_true]
          split_ifs <;> exact ⟨rfl, rfl⟩

/-- A decision is left to a human where neither of the first two lists has a marker. -/
theorem needsHuman_analyzeIncident_iff (host : SupportHost) (error : String) (context : Mapping) :
    (analyzeIncident host error context).NeedsHuman ↔ ¬ Benign error context := by
  have h := needsHuman_supportPolicy_iff (incidentText error context)
  unfold Benign
  rw [not_or, Bool.not_eq_true, Bool.not_eq_true]
  exact h

/-- **Dangerous incidents.**  A dangerous incident is left to a human if and only if its text
has no processing and no transient marker besides. -/
theorem dangerous_needs_human_iff (host : SupportHost) (error : String) (context : Mapping) :
    (Dangerous error context → (analyzeIncident host error context).NeedsHuman) ↔
      ¬ (Dangerous error context ∧ Benign error context) := by
  rw [needsHuman_analyzeIncident_iff, not_and]

/-- A surrounding without a language model. -/
def bareHost : SupportHost where
  sha256 := id
  loads := fun _ => .error .value
  dumps := fun _ => ""
  baseUrl := ""
  apiKey := ""
  model := ""

/-- A missing column with a harmless word in its name, and a signature failure while a
payment is processing. -/
theorem not_dangerous_needs_human :
    ¬ (Dangerous "undefined column processing_state" [] →
        (analyzeIncident bareHost "undefined column processing_state" []).NeedsHuman) ∧
      ¬ (Dangerous "webhook signature mismatch" [("provider_status", .str "Processing")] →
        (analyzeIncident bareHost "webhook signature mismatch"
          [("provider_status", .str "Processing")]).NeedsHuman) := by
  simp only [needsHuman_analyzeIncident_iff, Classical.not_imp, not_not]
  unfold Dangerous Benign
  decide

/-! ## Sensitive values

A statement about two runs, on contexts that differ in what must not matter. -/

mutual

/-- The same value, up to what is stored under sensitive keys at any depth. -/
inductive Alike : PyValue → PyValue → Prop
  | refl (a : PyValue) : Alike a a
  | list {items items'} (h : AlikeItems items items') : Alike (.list items) (.list items')
  | tuple {items items'} (h : AlikeItems items items') : Alike (.tuple items) (.tuple items')
  | dict {fields fields'} (h : AlikeFields fields fields') : Alike (.dict fields) (.dict fields')

/-- Lists of like values. -/
inductive AlikeItems : List PyValue → List PyValue → Prop
  | nil : AlikeItems [] []
  | cons {a b as bs} (head : Alike a b) (tail : AlikeItems as bs) : AlikeItems (a :: as) (b :: bs)

/-- Mappings with the same keys, and like values under those that are not sensitive. Under a
sensitive key any two values will do, at any depth. -/
inductive AlikeFields : Mapping → Mapping → Prop
  | nil : AlikeFields [] []
  | sensitive {key rest rest'} (a b : PyValue) (hkey : isSensitiveKey key = true)
      (tail : AlikeFields rest rest') : AlikeFields ((key, a) :: rest) ((key, b) :: rest')
  | cons {key a b rest rest'} (head : Alike a b) (tail : AlikeFields rest rest') :
      AlikeFields ((key, a) :: rest) ((key, b) :: rest')

end

mutual

/-- The sanitized copy has none of the difference. -/
theorem Alike.sanitized_eq : ∀ {a b : PyValue}, Alike a b → sanitize a = sanitize b
  | _, _, .refl _ => rfl
  | _, _, .list h => by simp only [sanitize, h.sanitized_eq]
  | _, _, .tuple h => by simp only [sanitize, h.sanitized_eq]
  | _, _, .dict h => by simp only [sanitize, h.sanitized_eq]

/-- The sanitized items have none of the difference. -/
theorem AlikeItems.sanitized_eq :
    ∀ {as bs : List PyValue}, AlikeItems as bs →
      sanitizeItems as = sanitizeItems bs
  | _, _, .nil => rfl
  | _, _, .cons head tail => by
      simp only [sanitizeItems, head.sanitized_eq, tail.sanitized_eq]

/-- The sanitized fields have none of the difference: what is sensitive is replaced on both
sides. -/
theorem AlikeFields.sanitized_eq :
    ∀ {fields fields' : Mapping}, AlikeFields fields fields' →
      sanitizeFields fields = sanitizeFields fields'
  | _, _, .nil => rfl
  | _, _, .sensitive _ _ hkey tail => by
      simp only [sanitizeFields, hkey, if_true, tail.sanitized_eq]
  | _, _, .cons head tail => by
      simp only [sanitizeFields, head.sanitized_eq, tail.sanitized_eq]

end

/-- A scalar is like itself only. -/
theorem Alike.eq_of_isScalar {a b : PyValue} (h : Alike a b) (hscalar : a.IsScalar) : a = b := by
  cases h with
  | refl => rfl
  | list | tuple | dict => exact hscalar.elim

/-- Under a key that is not sensitive, two like mappings have a scalar in common. -/
theorem AlikeFields.find_eq {fields fields' : Mapping} {key : String}
    (hkey : isSensitiveKey key = false) :
    AlikeFields fields fields' → (∀ a, fields.find key = some a → a.IsScalar) →
      fields.find key = fields'.find key := by
  intro h
  induction fields generalizing fields' with
  | nil =>
      intro _
      cases h
      rfl
  | cons head rest ih =>
      obtain ⟨k, a⟩ := head
      intro hscalar
      cases h with
      -- the key that is looked for is not sensitive, so it is not this one
      | sensitive _ b hk tail =>
          have hne : k ≠ key := by
            rintro rfl
            simp [hk] at hkey
          simp only [Mapping.find, if_neg hne] at hscalar ⊢
          exact ih tail hscalar
      | cons head tail =>
          simp only [Mapping.find] at hscalar ⊢
          split
          · rename_i hk
            rw [head.eq_of_isScalar (hscalar a (if_pos hk))]
          · rename_i hk
            simp only [if_neg hk] at hscalar
            exact ih tail hscalar

/-- The keys of the raw context a decision is read from. -/
def readKeys : List String :=
  ["provider_status", "event_type", "event_id", "payment_reference", "transaction_reference"]

/-- None of them is sensitive. -/
theorem isSensitiveKey_readKeys : ∀ key ∈ readKeys, isSensitiveKey key = false := by
  decide

/-- The fields a decision is read from hold no other values. -/
def ScalarFields (context : Mapping) : Prop :=
  ∀ key ∈ readKeys, ∀ a, context.find key = some a → a.IsScalar

/-- The part of a decision that is read from the raw context is read from these keys. -/
theorem analyzeIncident_congr (host : SupportHost) (error : String) {context context' : Mapping}
    (hread : ∀ key ∈ readKeys, context.find key = context'.find key)
    (hsanitized : sanitizeFields context = sanitizeFields context') :
    analyzeIncident host error context = analyzeIncident host error context' := by
  have hgetD : ∀ key ∈ readKeys, ∀ default, context.getD key default =
      context'.getD key default := by
    intro key hkey default
    unfold Mapping.getD
    rw [hread key hkey]
  have htext : incidentText error context = incidentText error context' := by
    unfold incidentText
    rw [hgetD "provider_status" (by simp [readKeys]), hgetD "event_type" (by simp [readKeys])]
  have hreference : incidentReference context = incidentReference context' := by
    unfold incidentReference Mapping.get
    rw [hgetD "payment_reference" (by simp [readKeys]),
      hgetD "transaction_reference" (by simp [readKeys]), hgetD "event_id" (by simp [readKeys])]
  unfold analyzeIncident incidentKey
  rw [htext, hreference, hsanitized]

/-- **Sensitive values stay out of the support engine.**  Two contexts that differ in values
under sensitive keys only lead to the same decision, and to the same request to the language
model. -/
theorem sensitive_values_ignored (host : SupportHost) (error : String)
    {context context' : Mapping} (hscalar : ScalarFields context)
    (h : AlikeFields context context') :
    analyzeIncident host error context = analyzeIncident host error context' ∧
      (analyzeIncident host error context).prompt = (analyzeIncident host error context').prompt ∧
      llmRequest host (analyzeIncident host error context) =
        llmRequest host (analyzeIncident host error context') := by
  have heq : analyzeIncident host error context = analyzeIncident host error context' := by
    refine analyzeIncident_congr host error (fun key hkey => ?_) h.sanitized_eq
    exact h.find_eq (isSensitiveKey_readKeys key hkey) (hscalar key hkey)
  rw [heq]
  exact ⟨rfl, rfl, rfl⟩

/-- A card number two levels down, beside a token in a tuple. -/
def leakyContext (pin token : String) : Mapping :=
  [("provider_status", .str "FAILED"),
    ("attempts", .list [.dict [("card", .dict [("PIN", .str pin)])],
      .tuple [.int 2, .dict [("accessToken", .str token)]]])]

/-- The statement on two card numbers, and two tokens. -/
theorem sensitive_values_ignored_nested :
    analyzeIncident bareHost "timeout" (leakyContext "1234" "abc") =
        analyzeIncident bareHost "timeout" (leakyContext "9876" "") ∧
      (analyzeIncident bareHost "timeout" (leakyContext "1234" "abc")).prompt =
        (analyzeIncident bareHost "timeout" (leakyContext "9876" "")).prompt ∧
      llmRequest bareHost (analyzeIncident bareHost "timeout" (leakyContext "1234" "abc")) =
        llmRequest bareHost (analyzeIncident bareHost "timeout" (leakyContext "9876" "")) := by
  refine sensitive_values_ignored bareHost "timeout" ?_ ?_
  · intro key hkey a ha
    simp only [readKeys, List.mem_cons, List.not_mem_nil, or_false] at hkey
    rcases hkey with rfl | rfl | rfl | rfl | rfl <;>
      simp [leakyContext, Mapping.find] at ha
    subst ha
    trivial
  · have hpin : isSensitiveKey "PIN" = true := by decide
    have htoken : isSensitiveKey "accessToken" = true := by decide
    refine .cons (.refl _) (.cons (.list (.cons ?_ (.cons ?_ .nil))) .nil)
    · exact .dict (.cons (.dict (.sensitive _ _ hpin .nil)) .nil)
    · exact .tuple (.cons (.refl _) (.cons (.dict (.sensitive _ _ htoken .nil)) .nil))

end AfricaFrontier
