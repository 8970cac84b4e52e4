import AfricaFrontier.Kora.Settlement
import AfricaFrontier.Payments.Creation
import AfricaFrontier.Python.Text

/-!
# Two readings of a provider status

The webhook reads `status`, lowers it and looks it up.  The reconciliation worker reads
`status`, or `payment_status` where that is empty, and strips it as well.  `ReadAlike`
asks that the webhook leaves its rows in the state of the class the worker would read;
`read_alike_iff` says for which data it does.

The two classes are compared for any data object. Where a status is plainly reported both read the
same word, and where it is not the webhook reads something that is in neither list, while the
worker reads one that is (`classes_agree_iff`). Then the handlers are looked at once: whatever
event the data arrives in, what is staged shows the class of the field `status` (`process_shows`),
so that the comparison of the classes is one of the rows.
-/

namespace AfricaFrontier

open Python Relational

/-! ## The two classes -/

/-- The text the worker takes for the status, before it is cleaned. -/
def reportedStatus (data : Obj) : String := data.firstText ["status", "payment_status"]

/-- A status from the lists is given in the field `status`, and without white space around
it. -/
def PlainlyReported (data : Obj) : Prop :=
  lower (strip (reportedStatus data)) ∈ successStatuses ++ failureStatuses →
    (data.get "status").truthy = true ∧ strip (data.get "status").text = (data.get "status").text

/-- The listed words are stripped. -/
theorem strip_of_listed {word : String} (h : word ∈ successStatuses ++ failureStatuses) :
    strip word = word := by
  revert word
  decide +kernel

/-- What is in neither list is pending. -/
theorem classify_eq_other_iff {word : String} :
    classify word = .other ↔ word ∉ successStatuses ++ failureStatuses := by
  unfold classify
  rw [List.mem_append, not_or]
  split
  · rename_i hsuccess
    simp [hsuccess]
  · rename_i hsuccess
    split
    · rename_i hfailure
      simp [hfailure]
    · rename_i hfailure
      simp [hsuccess, hfailure]

/-- Cleaning a status twice does what cleaning it once does. -/
theorem normalize_statusOf (data : Obj) :
    normalizeKoraStatus (statusOf data) = classify (lower (strip (reportedStatus data))) := by
  unfold normalizeKoraStatus statusOf reportedStatus
  rw [lower_strip, lower_lower, ← lower_strip, strip_strip]

/-- The webhook reads the field. -/
theorem statusValue_of_truthy {data : Obj} (h : (data.get "status").truthy = true) :
    statusValue data = lower (data.get "status").text := by
  simp [statusValue, Obj.firstText, Json.orElse, h]

/-- The webhook reads nothing where the field is empty. -/
theorem statusValue_of_falsy {data : Obj} (h : ¬ (data.get "status").truthy = true) :
    statusValue data = "" := by
  simp [statusValue, Obj.firstText, Json.orElse, h]
  rfl

/-- The worker reads it too. -/
theorem reportedStatus_of_truthy {data : Obj} (h : (data.get "status").truthy = true) :
    reportedStatus data = (data.get "status").text := by
  simp [reportedStatus, Obj.firstText, Json.orElse, h]

/-- The webhook and the worker put a status into one class exactly if it is plainly
reported. -/
theorem classes_agree_iff (data : Obj) :
    classify (statusValue data) = normalizeKoraStatus (statusOf data) ↔ PlainlyReported data := by
  rw [normalize_statusOf]
  by_cases htruthy : (data.get "status").truthy = true
  · have hreported := reportedStatus_of_truthy htruthy
    rw [statusValue_of_truthy htruthy]
    unfold PlainlyReported
    rw [hreported]
    generalize (data.get "status").text = status
    -- a listed status has no white space around it
    have hplain : lower status ∈ successStatuses ++ failureStatuses → strip status = status :=
      fun hlisted => strip_eq_self_of_lower (strip_of_listed hlisted)
    constructor
    · intro hagree hlisted
      refine ⟨htruthy, hplain ?_⟩
      by_contra hunlisted
      rw [classify_eq_other_iff.mpr hunlisted] at hagree
      exact classify_eq_other_iff.mp hagree.symm hlisted
    · intro hreads
      by_cases hlisted : lower (strip status) ∈ successStatuses ++ failureStatuses
      · rw [(hreads hlisted).2]
      · rw [classify_eq_other_iff.mpr hlisted]
        refine classify_eq_other_iff.mpr fun hlower => hlisted ?_
        rwa [hplain hlower]
  · have hother : classify (statusValue data) = .other := by
      rw [statusValue_of_falsy htruthy]
      rfl
    rw [hother, eq_comm, classify_eq_other_iff]
    exact ⟨fun hunlisted hlisted => absurd hlisted hunlisted,
      fun hreads hlisted => htruthy (hreads hlisted).1⟩

/-! ## What the handlers stage -/

/-- A unit of work shows the class it acted on: in the refund of a callback, in the
transaction of any other event. -/
structure UnitOfWork.Shows (u : UnitOfWork) (c : StatusClass) : Prop where
  refund : ∀ d, u.refund = some d → d.current.status = c.refundStatus
  transaction : u.refund = none → ∀ d, u.transaction = some d →
    d.current.status = statusAfter c

/-- **One reading**: whatever event the data arrives in, and in whatever state it finds the
database, the webhook acts on the class the worker reads. -/
def ReadAlike (data : Obj) : Prop :=
  ∀ body eventType now db u, bodyData body = data →
    processKoraWebhookBusinessEvent body eventType now db = .ok u →
    u.Shows (normalizeKoraStatus (statusOf data))

/-- Three classes have three statuses. -/
theorem statusAfter_injective : Function.Injective statusAfter := by
  intro a b h
  cases a <;> cases b <;> first | rfl | cases h

/-- A callback shows its class in the refund. -/
theorem refundCallback_shows (data : Obj) (now : Instant) (refund : KoraRefund)
    (transaction : Transaction) (existing : Option VirtualLedgerEntry) :
    (refundCallback data now refund transaction existing).Shows (classify (statusValue data)) := by
  refine ⟨fun d hd => ?_, fun hnone => by cases hnone⟩
  cases hd
  show (refundAfterCallback data now refund).status = _
  unfold refundAfterCallback
  cases classify (statusValue data) <;> rfl

/-- A callback that is processed shows its class in the refund. -/
theorem processKoraRefundWebhook_shows {data : Obj} {now : Instant} {db : Db} {u : UnitOfWork}
    (h : processKoraRefundWebhook data now db = .ok u) : u.Shows (classify (statusValue data)) := by
  obtain ⟨refund, transaction, existing, -, -, rfl⟩ := processKoraRefundWebhook_ok h
  exact refundCallback_shows data now refund transaction existing

/-- A payment event that is processed shows its class in the transaction. -/
theorem processKoraPayment_shows {kind : EventKind} {data : Obj} {now : Instant} {db : Db}
    {u : UnitOfWork} (h : processKoraPayment kind data now db = .ok u) :
    u.Shows (classify (statusValue data)) := by
  rcases processKoraPayment_ok h with ⟨t, -, happly⟩ | ⟨-, -, rfl⟩
  · obtain ⟨t', htransaction, hstatus, hrefund, -⟩ := applyPayment_ok happly
    constructor
    · intro d hd
      rw [hrefund] at hd
      cases hd
    · intro _ d hd
      rw [htransaction] at hd
      cases hd
      exact hstatus
  · constructor
    · intro d hd
      cases hd
    · intro _ d hd
      cases hd

/-- **The class an event shows** is the one its field `status` gives. -/
theorem process_shows {body : Obj} {eventType : String} {now : Instant} {db : Db} {u : UnitOfWork}
    (h : processKoraWebhookBusinessEvent body eventType now db = .ok u) :
    u.Shows (classify (statusValue (bodyData body))) := by
  unfold processKoraWebhookBusinessEvent at h
  split at h
  · exact processKoraRefundWebhook_shows h
  · exact processKoraPayment_shows h
  · exact processKoraPayment_shows h

/-! ## Data that names nothing

Without a reference no handler stages anything, so that there is nothing to read alike. -/

/-- Data without a reference is refused by every handler. -/
theorem process_of_no_reference {body : Obj} (h : paymentReference (bodyData body) = "")
    (eventType : String) (now : Instant) (db : Db) (u : UnitOfWork) :
    processKoraWebhookBusinessEvent body eventType now db ≠ .ok u := by
  intro hok
  have hpayment : ∀ kind, processKoraPayment kind (bodyData body) now db ≠ .ok u := by
    intro kind
    rw [processKoraPayment, if_pos h]
    intro herror
    cases herror
  unfold processKoraWebhookBusinessEvent at hok
  split at hok
  · obtain ⟨refs, hrefs, -⟩ := bind_eq_ok.mp hok
    have hreference : (bodyData body).firstText ["reference"] = "" := by
      by_cases htruthy : ((bodyData body).get "reference").truthy = true
      · simpa [paymentReference, Obj.firstText, Json.orElse, htruthy] using h
      · simp [Obj.firstText, Json.orElse, htruthy]
    rw [refundReferences, if_pos (Or.inl hreference)] at hrefs
    cases hrefs
  · exact hpayment _ hok
  · exact hpayment _ hok

/-- A pay-in with the reference the data names. -/
def namedPayin (data : Obj) : Transaction :=
  { processingPayin with idempotencyKey := paymentReference data }

/-- A charge event about the only stored transaction is applied to it. -/
theorem process_namedPayin {data : Obj} (h : paymentReference data ≠ "") :
    ∃ u d, processKoraWebhookBusinessEvent [("data", .obj data)] "charge.success" 0
        (Db.holding (namedPayin data)) = .ok u ∧
      u.refund = none ∧ u.transaction = some d := by
  have hselect : selectTransaction (paymentReference data) (Db.holding (namedPayin data)) =
      .ok (some (namedPayin data)) := by
    have hmatches : (namedPayin data).matchesReference (paymentReference data) = true := by
      simp [Transaction.matchesReference, namedPayin, processingPayin, payinInitiated,
        payinTransaction]
    simp [selectTransaction, Db.holding, hmatches, scalarOneOrNone]
  -- a pay-in without an account has no ledger entry to look for, whatever its status says
  have happly : ∃ u, applyPayment .charge data 0 (namedPayin data)
      (Db.holding (namedPayin data)) = .ok u := by
    have hentry : settledEntry .charge data (namedPayin data) (Db.holding (namedPayin data)) =
        .ok none := by
      simp [settledEntry, paymentReadsLedger, pure, Except.pure]
    unfold applyPayment
    cases classify (statusValue data) with
    | success =>
        rw [hentry]
        exact ⟨_, rfl⟩
    | failure => exact ⟨_, rfl⟩
    | other => exact ⟨_, rfl⟩
  obtain ⟨u, hu⟩ := happly
  obtain ⟨t', htransaction, -, hrefund, -⟩ := applyPayment_ok hu
  refine ⟨u, _, ?_, hrefund, htransaction⟩
  have hpayment : processKoraPayment .charge data 0 (Db.holding (namedPayin data)) = .ok u := by
    rw [processKoraPayment, if_neg h, hselect]
    exact hu
  exact hpayment

/-- Where the readings coincide on data that names a transaction, its status is plainly
reported. -/
theorem ReadAlike.plainlyReported {data : Obj} (h : ReadAlike data)
    (hreference : paymentReference data ≠ "") : PlainlyReported data := by
  obtain ⟨u, d, hprocess, hrefund, htransaction⟩ := process_namedPayin hreference
  have hwebhook : d.current.status = statusAfter (classify (statusValue data)) :=
    (process_shows hprocess).transaction hrefund d htransaction
  have hworker : d.current.status = statusAfter (normalizeKoraStatus (statusOf data)) :=
    (h _ _ _ _ u rfl hprocess).transaction hrefund d htransaction
  exact (classes_agree_iff data).mp (statusAfter_injective (hwebhook.symm.trans hworker))

/-- **When the readings coincide**: the data names nothing, or its status is plainly
reported. -/
theorem read_alike_iff (data : Obj) :
    ReadAlike data ↔ paymentReference data = "" ∨ PlainlyReported data := by
  constructor
  · intro halike
    by_cases hreference : paymentReference data = ""
    · exact Or.inl hreference
    · exact Or.inr (halike.plainlyReported hreference)
  · rintro (hreference | hplain) body eventType now db u rfl hprocess
    · exact absurd hprocess (process_of_no_reference hreference eventType now db u)
    · rw [← (classes_agree_iff _).mpr hplain]
      exact process_shows hprocess

/-- A status in white space, and one given as `payment_status`: the worker takes the payment
for completed, the webhook does not. -/
theorem not_read_alike :
    ¬ ReadAlike [("reference", .str "KPY-1"), ("status", .str "success ")] ∧
      ¬ ReadAlike [("reference", .str "KPY-1"), ("payment_status", .str "success")] := by
  constructor
  · intro h
    have hplain := h.plainlyReported (by decide +kernel)
    unfold PlainlyReported at hplain
    revert hplain
    decide +kernel
  · intro h
    have hplain := h.plainlyReported (by decide +kernel)
    unfold PlainlyReported at hplain
    revert hplain
    decide +kernel

end AfricaFrontier
