import AfricaFrontier.Kora.Delivery
import AfricaFrontier.Python.Decimal

/-!
# The refund route as a session (`create_kora_refund`)

The route checks the request against the payment it loaded, answers a repeated
idempotency key from the stored refund, otherwise stores the refund, instructs the
provider, and writes the provider's answer back to the refund and the payment.
The refund and the payment are the copies it loaded or stored before the call, so
whatever happened to the rows in the meantime is not seen, and only the columns
the route assigned are written.

As with deliveries, `RefundStep` says what each statement can do and is the only
view later proofs take.

The order of the statements: the payment is loaded and checked; the stored refund under the key is
looked up, which answers a repeated request; the refund is inserted and committed; the provider is
called; its answer is staged on the two copies and committed. Two requests with one key that both
find no refund race for the insertion, and the one that is refused there answers an error.
-/

namespace AfricaFrontier

open Python Relational Transition

/-! ## The checks

They look at the request and the one payment it names. -/

/-- What the route takes from its surroundings: the environment it runs in, and the
hexadecimal SHA-256 of a text. -/
structure RefundConfig where
  isDevelopment : Bool
  sha256Text : String → String

/-- A refund that passed every check. -/
structure RefundOrder where
  transaction : Transaction
  paymentReference : String
  amount : ℚ
  idempotencyKey : String
  reason : Option String

/-- The answer where the payment is not there, or is not the user's. -/
def RefundAnswer.notFound : RefundAnswer := .rejected 404 "Payment transaction not found"

/-- The checks, in their order; an answer in place of an order ends the request. They read the one
payment the request names, and no refund. -/
def checkRefund (config : RefundConfig) (call : RefundCall) (found : Option Transaction) :
    Except RefundAnswer RefundOrder :=
  match found with
  | none => .error .notFound
  | some transaction =>
      if transaction.userId ≠ call.userId ∨ transaction.psp ≠ .kora ∨
          transaction.ledgerNamespace ≠ afmPayments then .error .notFound
      else if lower (transaction.txnMetadata.firstText ["operation"]) = "payout" then
        .error (.rejected 409 "Payouts cannot be refunded through the pay-in refund route")
      else if transaction.status ≠ .completed ∧ transaction.status ≠ .refunded then
        .error (.rejected 409 "Only a completed pay-in can be refunded")
      else
        let paymentReference := transaction.pspTransactionId.getD ""
        if paymentReference = "" then
          .error (.rejected 409 "Kora payment reference is missing")
        else
          -- earlier refunds of the payment are not looked at
          match quantize cents (call.refund.amount.getD transaction.amount) with
          | none => .error .crashed
          | some amount =>
              let idempotencyKey := strip call.idempotencyHeader
              if transaction.amount < amount then
                .error (.rejected 422 "Refund amount cannot exceed the payment amount")
              else if call.refund.execute ∧ idempotencyKey.toList.length < 8 then
                .error (.rejected 400 "X-Idempotency-Key is required for an executed refund")
              else if call.refund.execute ∧ call.confirmationHeader ≠ some "CONFIRM" then
                .error (.rejected 428 "Explicit refund confirmation is required")
              else if call.refund.execute = false then
                .error (.validated transaction.id paymentReference amount transaction.currency)
              else if config.isDevelopment then
                .error (.rejected 409 "Executed refunds are disabled in development")
              else
                .ok ⟨transaction, paymentReference, amount, idempotencyKey, call.refund.reason⟩

/-- What the checks lead to: an answer that is no report, or an order for the payment that
was found, which is the user's, with the rounded amount asked for, within the payment. -/
inductive RefundChecked (call : RefundCall) (found : Option Transaction) :
    Except RefundAnswer RefundOrder → Prop
  | refused {answer : RefundAnswer} (hreported : ∀ report, answer ≠ .reported report) :
      RefundChecked call found (.error answer)
  | ordered {order : RefundOrder} (hfound : found = some order.transaction)
      (hamount : quantize cents (call.refund.amount.getD order.transaction.amount) =
        some order.amount)
      (hle : order.amount ≤ order.transaction.amount)
      (howner : order.transaction.userId = call.userId) : RefundChecked call found (.ok order)

/-- The checks lead to one of these. -/
theorem checkRefund_spec (config : RefundConfig) (call : RefundCall) (found : Option Transaction) :
    RefundChecked call found (checkRefund config call found) := by
  have hrejected : ∀ status detail, RefundChecked call found (.error (.rejected status detail)) :=
    fun _ _ => .refused fun _ h => by cases h
  cases found with
  | none => exact hrejected _ _
  | some transaction =>
      unfold checkRefund
      dsimp only
      -- the checks in the order of the route
      refine iteInduction (fun _ => hrejected _ _) fun hown => ?_
      have howner : transaction.userId = call.userId := by
        by_contra hne
        exact hown (Or.inl hne)
      refine iteInduction (fun _ => hrejected _ _) fun _ => ?_
      refine iteInduction (fun _ => hrejected _ _) fun _ => ?_
      refine iteInduction (fun _ => hrejected _ _) fun _ => ?_
      cases hamount : quantize cents (call.refund.amount.getD transaction.amount) with
      | none => exact .refused fun _ h => by cases h
      | some amount =>
          refine iteInduction (fun _ => hrejected _ _) fun hle => ?_
          refine iteInduction (fun _ => hrejected _ _) fun _ => ?_
          refine iteInduction (fun _ => hrejected _ _) fun _ => ?_
          refine iteInduction (fun _ => .refused fun _ h => by cases h) fun _ => ?_
          refine iteInduction (fun _ => hrejected _ _) fun _ => ?_
          exact .ordered rfl hamount (le_of_not_gt hle) howner

/-- An order is for the payment that was found, with the amount that was asked for. -/
theorem checkRefund_ok {config : RefundConfig} {call : RefundCall}
    {found : Option Transaction} {order : RefundOrder}
    (h : checkRefund config call found = .ok order) :
    found = some order.transaction ∧
      quantize cents (call.refund.amount.getD order.transaction.amount) = some order.amount ∧
      order.amount ≤ order.transaction.amount ∧ order.transaction.userId = call.userId := by
  have hspec := checkRefund_spec config call found
  rw [h] at hspec
  cases hspec with
  | ordered hfound hamount hle howner => exact ⟨hfound, hamount, hle, howner⟩

/-- No check answers with a report. -/
theorem checkRefund_not_reported {config : RefundConfig} {call : RefundCall}
    {found : Option Transaction} {answer : RefundAnswer}
    (h : checkRefund config call found = .error answer) (report : RefundReport) :
    answer ≠ .reported report := by
  have hspec := checkRefund_spec config call found
  rw [h] at hspec
  cases hspec with
  | refused hreported => exact hreported report

/-- An order never has a negative amount when its payment has none. -/
theorem RefundOrder.amount_nonneg {config : RefundConfig} {call : RefundCall}
    {found : Option Transaction} {order : RefundOrder}
    (h : checkRefund config call found = .ok order) (ht : 0 ≤ order.transaction.amount) :
    0 ≤ order.amount := by
  obtain ⟨-, hamount, -⟩ := checkRefund_ok h
  refine quantize_nonneg hamount ?_
  cases hasked : call.refund.amount with
  | none => simpa [hasked] using ht
  | some a => simpa [hasked] using (call.refund.amount_pos a (by simp [hasked])).le

/-! ## The rows and messages of an order -/

/-- The refund an order inserts; key and creation time are the database's. -/
def refundRecord (config : RefundConfig) (order : RefundOrder) (id : ℕ) (now : Instant) :
    KoraRefund where
  id := id
  transactionId := order.transaction.id
  refundReference := "afm-ref-" ++ slice 40 (config.sha256Text order.idempotencyKey)
  idempotencyKey := order.idempotencyKey
  paymentReference := order.paymentReference
  amount := order.amount
  currency := order.transaction.currency
  reason := order.reason
  status := "requested"
  pspResponse := []
  errorMessage := none
  completedAt := none
  createdAt := now

/-- The column widths of a refund. A text that is too long, or an amount with too many digits,
makes the insert fail. -/
def KoraRefund.fits (refund : KoraRefund) : Bool :=
  fitsIn 50 refund.refundReference && fitsIn 128 refund.idempotencyKey &&
    fitsIn 128 refund.paymentReference && decide (refund.amount < 10 ^ 11) &&
    fitsIn 3 refund.currency && refund.reason.all (fitsIn 200) && fitsIn 20 refund.status

/-- Store a refund; `none` when it violates a column or one of its unique keys is
taken. -/
def insertRefund (config : RefundConfig) (order : RefundOrder) (now : Instant) (db : Db) :
    Option (Table KoraRefund) :=
  if (refundRecord config order 0 now).fits then
    db.refunds.insert (fun n => refundRecord config order n now) (fun _ => rfl)
  else none

/-- The refund of an idempotency key. -/
def selectRefundByKey (idempotencyKey : String) (db : Db) :
    Except PyError (Option KoraRefund) :=
  scalarOneOrNone (db.refunds.rows.filter fun r => decide (r.idempotencyKey = idempotencyKey))

/-- The report on a refund that was already there. -/
def replayReport (existing : KoraRefund) : RefundReport where
  status := existing.status
  refundReference := existing.refundReference
  paymentReference := existing.paymentReference
  amount := existing.amount
  currency := existing.currency
  idempotentReplay := true
  fundsMovement := decide (existing.status ∈ ["requested", "processing", "success"])

/-- The instruction `initiate_refund` is called with. -/
def refundInstruction (record : KoraRefund) : RefundInstruction where
  paymentReference := record.paymentReference
  refundReference := record.refundReference
  amount := record.amount
  reason := record.reason

/-- The client's own checks, before it sends anything. -/
def RefundInstruction.sendable (instruction : RefundInstruction) : Bool :=
  instruction.paymentReference ≠ "" && 5 ≤ instruction.refundReference.toList.length &&
    instruction.refundReference.toList.length ≤ 50 && decide (0 < instruction.amount)

/-- The refund once the provider has answered. -/
def issuedRecord (result : Obj) (record : KoraRefund) : KoraRefund :=
  { record with
    status := lower ((result.get "status").orElse (.str "processing")).text
    pspResponse := result }

/-- The payment once the provider has answered. -/
def issuedParent (result : Obj) (record : KoraRefund) (transaction : Transaction) :
    Transaction :=
  { transaction with
    txnMetadata :=
      (transaction.txnMetadata.set "refund_status" (.str (issuedRecord result record).status)).set
        "refund_reference" (.str record.refundReference) }

/-- What the route stages on an answer. -/
def refundIssued (result : Obj) (record : KoraRefund) (transaction : Transaction) :
    UnitOfWork :=
  { refund := some ⟨record, issuedRecord result record⟩
    transaction := some ⟨transaction, issuedParent result record transaction⟩ }

/-- What the route stages when the client raised `KoraClientError`. -/
def refundUnavailable (record : KoraRefund) : UnitOfWork :=
  { refund := some
      ⟨record,
        { record with
          status := "failed"
          errorMessage := some "Kora refund is temporarily unavailable" }⟩ }

/-- The report on a refund the provider has answered for. -/
def issuedReport (result : Obj) (record : KoraRefund) : RefundReport where
  status := (issuedRecord result record).status
  refundReference := record.refundReference
  paymentReference := record.paymentReference
  amount := record.amount
  currency := record.currency
  idempotentReplay := false
  fundsMovement := true

/-- The answer where the client raised `KoraClientError`. -/
def RefundAnswer.unavailable : RefundAnswer :=
  .rejected 502 "Kora refund is temporarily unavailable"

/-! ## The route, statement by statement -/

/-- Where a refund request stands. -/
inductive RefundPhase
  | requested
  | checked (order : RefundOrder)
  | inserting (order : RefundOrder)
  | issuing (transaction : Transaction) (record : KoraRefund)
  | awaiting (transaction : Transaction) (record : KoraRefund)
  | staged (work : UnitOfWork) (answer : RefundAnswer)
  | answering (answer : RefundAnswer)

/-- The environment's part in one statement, with the provider's answer for the
statement that waits for it. -/
structure RefundTick where
  now : Instant
  fault : Bool
  outcome : ProviderOutcome

/-- The next statement of a refund request: the checks, the lookup of the key, the insert with its
commit, the call of the provider, and the commit of its answer. -/
def RefundCall.step (config : RefundConfig) (call : RefundCall) (s : Store)
    (tick : RefundTick) : RefundPhase → Store × Option RefundPhase
  | .requested =>
      if call.refund.transactionId ≠ call.transactionId then
        (s, some (.answering
          (.rejected 422 "Transaction id does not match the request path")))
      else if tick.fault then (s, some (.answering .crashed))
      else
        match checkRefund config call (s.db.transactions.get call.transactionId) with
        | .error answer => (s, some (.answering answer))
        | .ok order => (s, some (.checked order))
  | .checked order =>
      if tick.fault then (s, some (.answering .crashed))
      else
        -- the key is looked up without the user and without the transaction
        match selectRefundByKey order.idempotencyKey s.db with
        | .error _ => (s, some (.answering .crashed))
        | .ok (some existing) => (s, some (.answering (.reported (replayReport existing))))
        | .ok none => (s, some (.inserting order))
  | .inserting order =>
      if tick.fault then (s, some (.answering .crashed))
      else
        -- the row is committed before Kora is called
        match insertRefund config order tick.now s.db with
        | none => (s, some (.answering .crashed))
        | some refunds =>
            ({ s with db := { s.db with refunds := refunds } },
              some (.issuing order.transaction
                (refundRecord config order s.db.refunds.next tick.now)))
  | .issuing transaction record =>
      -- from here on the call may have been made, whatever happens to the session
      if (refundInstruction record).sendable then
        ({ s with instructions := s.instructions ++ [refundInstruction record] },
          some (.awaiting transaction record))
      else (s, some (.staged (refundUnavailable record) .unavailable))
  | .awaiting transaction record =>
      match tick.outcome with
      | .answered result =>
          (s, some (.staged (refundIssued result record transaction)
            (.reported (issuedReport result record))))
      | .refused _ => (s, some (.staged (refundUnavailable record) .unavailable))
      | .raised => (s, some (.answering .crashed))
  | .staged work answer =>
      if tick.fault then (s, some (.answering .crashed))
      else
        match work.flush s.db with
        | .ok db => ({ s with db := db }, some (.answering answer))
        | .error _ => (s, some (.answering .crashed))
  | .answering answer => ({ s with refundAnswers := s.refundAnswers ++ [(call, answer)] }, none)

/-- A refund request in flight. -/
structure RefundSession where
  call : RefundCall
  phase : RefundPhase

/-- `create_kora_refund`. -/
def createKoraRefund (config : RefundConfig) :
    Sessions Store RefundCall RefundSession RefundTick where
  init call := ⟨call, .requested⟩
  advance s t tick :=
    let next := t.call.step config s tick t.phase
    some (next.1, next.2.map (RefundSession.mk t.call))

/-! ## What a statement can do -/

/-- The statements of a refund request, case by case. -/
inductive RefundStep (config : RefundConfig) (call : RefundCall) (s : Store) :
    RefundPhase → Store → Option RefundPhase → Prop
  | ended {phase : RefundPhase} {answer : RefundAnswer} :
      RefundStep config call s phase s (some (.answering answer))
  | loaded {order : RefundOrder}
      (hcheck : checkRefund config call (s.db.transactions.get call.transactionId) = .ok order) :
      RefundStep config call s .requested s (some (.checked order))
  | replayed {order : RefundOrder} {existing : KoraRefund}
      (hselect : selectRefundByKey order.idempotencyKey s.db = .ok (some existing)) :
      RefundStep config call s (.checked order) s
        (some (.answering (.reported (replayReport existing))))
  | fresh {order : RefundOrder}
      (hselect : selectRefundByKey order.idempotencyKey s.db = .ok none) :
      RefundStep config call s (.checked order) s (some (.inserting order))
  | inserted {order : RefundOrder} {now : Instant} {refunds : Table KoraRefund}
      (hinsert : insertRefund config order now s.db = some refunds) :
      RefundStep config call s (.inserting order)
        { s with db := { s.db with refunds := refunds } }
        (some (.issuing order.transaction (refundRecord config order s.db.refunds.next now)))
  | instructed {transaction : Transaction} {record : KoraRefund} :
      RefundStep config call s (.issuing transaction record)
        { s with instructions := s.instructions ++ [refundInstruction record] }
        (some (.awaiting transaction record))
  | declined {transaction : Transaction} {record : KoraRefund} :
      RefundStep config call s (.issuing transaction record) s
        (some (.staged (refundUnavailable record) .unavailable))
  | issued {transaction : Transaction} {record : KoraRefund} {result : Obj} :
      RefundStep config call s (.awaiting transaction record) s
        (some (.staged (refundIssued result record transaction)
          (.reported (issuedReport result record))))
  | refused {transaction : Transaction} {record : KoraRefund} :
      RefundStep config call s (.awaiting transaction record) s
        (some (.staged (refundUnavailable record) .unavailable))
  | committed {work : UnitOfWork} {answer : RefundAnswer} {db : Db}
      (hflush : work.flush s.db = .ok db) :
      RefundStep config call s (.staged work answer) { s with db := db }
        (some (.answering answer))
  | answered {answer : RefundAnswer} :
      RefundStep config call s (.answering answer)
        { s with refundAnswers := s.refundAnswers ++ [(call, answer)] } none

/-- Every statement is one of them. -/
theorem RefundCall.step_spec (config : RefundConfig) (call : RefundCall) (s : Store)
    (tick : RefundTick) (phase : RefundPhase) :
    RefundStep config call s phase (call.step config s tick phase).1
      (call.step config s tick phase).2 := by
  cases phase with
  | requested =>
      by_cases hpath : call.refund.transactionId ≠ call.transactionId
      · simp only [RefundCall.step, if_pos hpath]
        exact .ended
      · cases hfault : tick.fault with
        | true =>
            simp only [RefundCall.step, if_neg hpath, hfault, if_true]
            exact .ended
        | false =>
            cases hcheck : checkRefund config call (s.db.transactions.get call.transactionId) with
            | error answer =>
                simp only [RefundCall.step, if_neg hpath, hfault, hcheck]
                exact .ended
            | ok order =>
                simp only [RefundCall.step, if_neg hpath, hfault, hcheck]
                exact .loaded hcheck
  | checked order =>
      cases hfault : tick.fault with
      | true =>
          simp only [RefundCall.step, hfault, if_true]
          exact .ended
      | false =>
          cases hselect : selectRefundByKey order.idempotencyKey s.db with
          | error e =>
              simp only [RefundCall.step, hfault, hselect]
              exact .ended
          | ok found =>
              cases found with
              | none =>
                  simp only [RefundCall.step, hfault, hselect]
                  exact .fresh hselect
              | some existing =>
                  simp only [RefundCall.step, hfault, hselect]
                  exact .replayed hselect
  | inserting order =>
      cases hfault : tick.fault with
      | true =>
          simp only [RefundCall.step, hfault, if_true]
          exact .ended
      | false =>
          cases hinsert : insertRefund config order tick.now s.db with
          | none =>
              simp only [RefundCall.step, hfault, hinsert]
              exact .ended
          | some refunds =>
              simp only [RefundCall.step, hfault, hinsert]
              exact .inserted hinsert
  -- no statement of the database, so that nothing can fail here
  | issuing transaction record =>
      by_cases hsendable : (refundInstruction record).sendable = true
      · simp only [RefundCall.step, if_pos hsendable]
        exact .instructed
      · simp only [RefundCall.step, if_neg hsendable]
        exact .declined
  | awaiting transaction record =>
      cases houtcome : tick.outcome with
      | answered result =>
          simp only [RefundCall.step, houtcome]
          exact .issued
      | refused message =>
          simp only [RefundCall.step, houtcome]
          exact .refused
      | raised =>
          simp only [RefundCall.step, houtcome]
          exact .ended
  | staged work answer =>
      cases hfault : tick.fault with
      | true =>
          simp only [RefundCall.step, hfault, if_true]
          exact .ended
      | false =>
          cases hflush : work.flush s.db with
          | error e =>
              simp only [RefundCall.step, hfault, hflush]
              exact .ended
          | ok db =>
              simp only [RefundCall.step, hfault, hflush]
              exact .committed hflush
  | answering answer => exact .answered

/-- Every step of a refund session is one of them. -/
theorem createKoraRefund_advance {config : RefundConfig} {s s' : Store} {t : RefundSession}
    {tick : RefundTick} {o : Option RefundSession}
    (h : (createKoraRefund config).advance s t tick = some (s', o)) :
    ∃ next, RefundStep config t.call s t.phase s' next ∧
      o = next.map (RefundSession.mk t.call) := by
  obtain ⟨rfl, rfl⟩ := Prod.mk.inj (Option.some.inj h)
  exact ⟨_, t.call.step_spec config s tick t.phase, rfl⟩

/-- A stored refund is the order's record under a fresh key. -/
theorem insertRefund_some {config : RefundConfig} {order : RefundOrder} {now : Instant}
    {db : Db} {refunds : Table KoraRefund}
    (h : insertRefund config order now db = some refunds) :
    db.refunds.insert (fun n => refundRecord config order n now) (fun _ => rfl) =
      some refunds := by
  unfold insertRefund at h
  split at h
  · exact h
  · cases h

/-- Two stored refunds with one reference are one refund. -/
theorem eq_of_refundReference {refunds : Table KoraRefund} {r r' : KoraRefund}
    (hr : r ∈ refunds) (hr' : r' ∈ refunds) (h : r.refundReference = r'.refundReference) :
    r = r' :=
  Table.eq_of_clash hr hr' (fun _ _ h => h.imp Eq.symm Eq.symm) (Or.inl h)

/-- Two stored refunds with one key are one refund. -/
theorem eq_of_idempotencyKey {refunds : Table KoraRefund} {r r' : KoraRefund}
    (hr : r ∈ refunds) (hr' : r' ∈ refunds) (h : r.idempotencyKey = r'.idempotencyKey) :
    r = r' :=
  Table.eq_of_clash hr hr' (fun _ _ h => h.imp Eq.symm Eq.symm) (Or.inr h)

/-- Deliveries and refund requests, in any number, over one store. -/
def refundTraffic (config : RefundConfig) :
    Sessions Store (Delivery ⊕ RefundCall) (DeliverySession ⊕ RefundSession)
      (Tick ⊕ RefundTick) :=
  koraWebhook.sum (createKoraRefund config)

/-! ## Sample requests

Requests that pass every check, for the runs of later modules. -/

/-- A production configuration, with the digests of the two keys used below. -/
def sampleConfig : RefundConfig where
  isDevelopment := false
  sha256Text key :=
    if key = "refund-key-1" then
      "f014f53ee2ba9d908683f7393460d8a8916d574446b85ed9e1940da0a76c5b90"
    else "9f65cd3f6d646734ccf5e2ad1d57e0088f229a332651a303663f56aec52e9713"

/-- A request for the whole of a payment states no amount. -/
theorem noAmount_pos : ∀ a ∈ (none : Option ℚ), 0 < a :=
  fun _ h => absurd h (Option.not_mem_none _)

/-- A confirmed, executed request to refund the transaction 0. -/
def sampleCall (idempotencyKey : String) (amount : Option ℚ) (h : ∀ a ∈ amount, 0 < a) :
    RefundCall where
  transactionId := 0
  refund :=
    { transactionId := 0, amount := amount, amount_pos := h, reason := none, execute := true }
  userId := 1
  idempotencyHeader := idempotencyKey
  confirmationHeader := some "CONFIRM"

/-- The request `i`, from its arrival through its first `n` statements, with the given
answer of the provider. -/
def refundRequested {ρ : Type} (i : ℕ) (call : RefundCall) (n : ℕ) (status : String) :
    List (PoolAct (ρ ⊕ RefundCall) (Tick ⊕ RefundTick)) :=
  .begin i (.inr call) ::
    List.replicate n (.advance i (.inr ⟨i, false, .answered [("status", .str status)]⟩))

end AfricaFrontier
