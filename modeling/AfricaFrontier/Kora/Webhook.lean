import AfricaFrontier.Kora.Reconciliation

/-!
# The business side of a Kora webhook (`api_gateway/main.py`)

`process_kora_webhook_business_event` dispatches on the event name: a refund
callback goes to `_process_kora_refund_webhook`, every other event settles the
transaction its reference matches.  Both read a few rows and stage a unit of work;
the caller commits it.

Each handler is given twice over from the same pieces.  The pieces are the
statements it executes (`select…`) and the pure computation on what they return
(`refundCallback`, `settlePayment`, …), so that a session which is interrupted
between two statements runs the same code.  The handlers themselves string the
pieces together against one database, which is what they do when nothing else
runs.

What is staged is a `UnitOfWork`: the rows as they were loaded and as they are now, and the new
rows. It is stored with the columns that changed (`UnitOfWork.flush`), which matters where two
sessions hold the same row.

Of the provider's data the handlers read the status, through `classify` of its lower case, and the
references. They read neither the amount nor the currency.
-/

namespace AfricaFrontier

open Python Relational

/-! ## What the two branches share -/

/-- `str(data.get("status") or "").lower()`. -/
def statusValue (data : Obj) : String := lower (data.firstText ["status"])

/-- The ledger lookup behind both duplicate checks. -/
def selectEntry (referenceType referenceId : String) (db : Db) :
    Except PyError (Option VirtualLedgerEntry) :=
  scalarOneOrNone (db.ledger.rows.filter fun entry =>
    decide (entry.referenceType = referenceType ∧ entry.referenceId = referenceId))

/-- `str(uuid)`. -/
def uuidText (id : ℕ) : String := Nat.repr id

/-- Distinct rows have distinct texts. -/
@[simp] theorem uuidText_inj {a b : ℕ} : uuidText a = uuidText b ↔ a = b := by
  refine ⟨fun h => ?_, congrArg uuidText⟩
  have hread := congrArg (fun s : String => Nat.ofDigitChars 10 s.toList 0) h
  simpa only [uuidText, Nat.toList_repr, Nat.ofDigitChars_ten_toDigits] using hread

/-! ## `_process_kora_refund_webhook`

A callback names the refund by two references, the payment's and its own, and takes the newest
that either of them hits. -/

/-- The two references a refund callback must carry. -/
structure RefundReferences where
  refundReference : String
  paymentReference : String

/-- The references of a callback; a missing one raises. -/
def refundReferences (data : Obj) : Except PyError RefundReferences :=
  let refundReference := data.firstText ["reference"]
  let paymentReference := data.firstText ["payment_reference"]
  if refundReference = "" ∨ paymentReference = "" then
    .error (.value "Kora refund webhook is missing refund or payment reference")
  else .ok ⟨refundReference, paymentReference⟩

/-- The refunds either reference hits. -/
def RefundReferences.hits (refs : RefundReferences) (db : Db) : List KoraRefund :=
  db.refunds.rows.filter fun refund =>
    decide (refund.refundReference = refs.refundReference ∨
      refund.paymentReference = refs.paymentReference)

/-- `a` is sorted no later than `b` by `ORDER BY created_at DESC`. -/
def newerFirst (a b : KoraRefund) : Bool := b.createdAt ≤ a.createdAt

/-- The newest refund either reference hits. -/
def selectRefund (refs : RefundReferences) (db : Db) : Except PyError KoraRefund :=
  match firstBy newerFirst (refs.hits db) with
  | none => .error (.value "Kora refund webhook reference does not match an AFM refund")
  | some refund => .ok refund

/-- The refund's parent transaction, which must lie in the AFM ledger. -/
def selectParent (refund : KoraRefund) (db : Db) : Except PyError Transaction :=
  match db.transactions.get refund.transactionId with
  | none => .error (.value "Kora refund parent transaction is outside AFM payment ledger")
  | some transaction =>
      if transaction.ledgerNamespace = afmPayments then .ok transaction
      else .error (.value "Kora refund parent transaction is outside AFM payment ledger")

/-- A successful callback looks for its reversal entry when the parent has an
account. -/
def callbackReadsLedger (data : Obj) (transaction : Transaction) : Bool :=
  classify (statusValue data) = .success && transaction.virtualAccountId.isSome

/-- The reversal entry of a refund, in the account of its parent. -/
def refundEntry (refund : KoraRefund) (transaction : Transaction) (account : ℕ) :
    VirtualLedgerEntry where
  id := 0
  virtualAccountId := account
  entryType := "refund"
  direction := "debit"
  amount := refund.amount
  currency := refund.currency
  referenceType := "kora_refund"
  referenceId := refund.refundReference
  description := "Kora pay-in refund reconciled"
  entryMetadata :=
    [("transaction_id", .str (uuidText transaction.id)),
      ("payment_reference", .str refund.paymentReference),
      ("reconciliation_status", .str "matched"),
      ("balance_affecting", .bool true)]

/-- The refund after a callback. -/
def refundAfterCallback (data : Obj) (now : Instant) (refund : KoraRefund) : KoraRefund :=
  let answered := { refund with pspResponse := refund.pspResponse.set "webhook" (.obj data) }
  match classify (statusValue data) with
  | .success => { answered with status := "success", completedAt := some now }
  | .failure =>
      { answered with
        status := "failed"
        errorMessage := some (slice 255
          (((data.get "status_reason").orElse
            ((data.get "message").orElse (.str "Kora refund failed"))).text)) }
  | .other => { answered with status := "processing" }

/-- The parent transaction after a callback. -/
def parentAfterCallback (data : Obj) (refund : KoraRefund) (transaction : Transaction) :
    Transaction :=
  let noted (status : String) : Obj :=
    (transaction.txnMetadata.set "refund_status" (.str status)).set "refund_reference"
      (.str refund.refundReference)
  match classify (statusValue data) with
  | .success =>
      { transaction with
        status := .refunded
        txnMetadata := (noted "success").set "reconciliation_status" (.str "matched") }
  | .failure =>
      { transaction with
        txnMetadata := (noted "failed").set "reconciliation_status" (.str "exception") }
  | .other => { transaction with txnMetadata := noted "processing" }

/-- Everything a callback stages, given the rows it read. -/
def refundCallback (data : Obj) (now : Instant) (refund : KoraRefund)
    (transaction : Transaction) (existing : Option VirtualLedgerEntry) : UnitOfWork :=
  { refund := some ⟨refund, refundAfterCallback data now refund⟩
    transaction := some ⟨transaction, parentAfterCallback data refund transaction⟩
    newEntry :=
      if callbackReadsLedger data transaction && existing.isNone then
        transaction.virtualAccountId.map (refundEntry refund transaction)
      else none }

/-- The duplicate check of a callback. -/
def callbackEntry (data : Obj) (refund : KoraRefund) (transaction : Transaction) (db : Db) :
    Except PyError (Option VirtualLedgerEntry) :=
  if callbackReadsLedger data transaction then
    selectEntry "kora_refund" refund.refundReference db
  else pure none

/-- `_process_kora_refund_webhook`. -/
def processKoraRefundWebhook (data : Obj) (now : Instant) (db : Db) :
    Except PyError UnitOfWork := do
  let refs ← refundReferences data
  let refund ← selectRefund refs db
  let transaction ← selectParent refund db
  let existing ← callbackEntry data refund transaction db
  pure (refundCallback data now refund transaction existing)

/-! ## `process_kora_webhook_business_event`

A payment event names one reference, which may be any of three columns of a transaction. -/

/-- The three kinds of events the dispatcher tells apart. -/
inductive EventKind
  | refund
  | payout
  | charge
  deriving DecidableEq, Repr

/-- The dispatch on the event name. -/
def eventKind (eventType : String) : EventKind :=
  let eventName := lower eventType
  if startsWith eventName "refund" then .refund
  else if ["transfer", "payout", "disbursement"].any (startsWith eventName) then .payout
  else .charge

/-- `body["data"]` when it is an object, else the body itself. -/
def bodyData (body : Obj) : Obj :=
  match body.get "data" with
  | .obj data => data
  | _ => body

/-- The reference a payment event is matched by: the first of three fields that is neither absent
nor empty. -/
def paymentReference (data : Obj) : String :=
  data.firstText ["reference", "transaction_reference", "payment_reference"]

/-- A transaction one of whose three references is the event's. -/
def Transaction.matchesReference (reference : String) (t : Transaction) : Bool :=
  (t.idempotencyKey = reference || t.pspTransactionId = some reference ||
    t.pspPaymentReference = some reference) && t.ledgerNamespace = afmPayments

/-- The transaction a reference names. -/
def selectTransaction (reference : String) (db : Db) :
    Except PyError (Option Transaction) :=
  scalarOneOrNone (db.transactions.rows.filter (Transaction.matchesReference reference))

/-- A successful payout event looks for its debit when the transaction has an
account. -/
def paymentReadsLedger (kind : EventKind) (data : Obj) (transaction : Transaction) : Bool :=
  classify (statusValue data) = .success && kind = .payout &&
    transaction.virtualAccountId.isSome

/-- The debit of a payout. -/
def payoutEntry (reference : String) (transaction : Transaction) (account : ℕ) :
    VirtualLedgerEntry where
  id := 0
  virtualAccountId := account
  entryType := "payout"
  direction := "debit"
  amount := transaction.amount
  currency := transaction.currency
  referenceType := "kora_payout"
  referenceId := reference
  description := "Kora payout reconciled"
  entryMetadata :=
    [("transaction_id", .str (uuidText transaction.id)),
      ("reconciliation_status", .str "matched"),
      ("balance_affecting", .bool true)]

/-- The transaction with the event noted on it, before its status is decided. -/
def notedTransaction (data : Obj) (now : Instant) (transaction : Transaction) : Transaction :=
  { transaction with
    webhookReceivedAt := some now
    pspResponse := transaction.pspResponse.set "webhook" (.obj data) }

/-- The metadata of a transaction whose debit was just written. -/
def debitedMetadata (metadata : Obj) : Except PyError Obj := do
  let count ← pyInt (metadata.getD "ledger_entry_count" (.int 0))
  pure ((metadata.set "reconciliation_status" (.str "matched")).set "ledger_entry_count"
    (.int (count + 1)))

/-- The success branch, given the debit the duplicate check found. -/
def settlePayment (kind : EventKind) (data : Obj) (now : Instant)
    (transaction : Transaction) (existing : Option VirtualLedgerEntry) :
    Except PyError UnitOfWork :=
  let settled :=
    { notedTransaction data now transaction with status := .completed, settledAt := some now }
  match transaction.virtualAccountId with
  | some account =>
      if kind = .payout ∧ existing = none then do
        let metadata ← debitedMetadata transaction.txnMetadata
        pure
          { transaction := some ⟨transaction, { settled with txnMetadata := metadata }⟩
            newEntry := some (payoutEntry (paymentReference data) transaction account) }
      else pure { transaction := some ⟨transaction, settled⟩ }
  | none => pure { transaction := some ⟨transaction, settled⟩ }

/-- The failure branch. -/
def failPayment (data : Obj) (now : Instant) (transaction : Transaction) : UnitOfWork :=
  { transaction := some
      ⟨transaction,
        { notedTransaction data now transaction with
          status := .failed
          errorMessage := some (slice 255
            (((data.get "message").orElse
              (.str ("Kora payout status: " ++ statusValue data))).text))
          txnMetadata := transaction.txnMetadata.set "reconciliation_status"
            (.str "exception") }⟩ }

/-- The pending branch, given the task of the transaction. -/
def deferPayment (data : Obj) (now : Instant) (transaction : Transaction)
    (task : Option KoraPaymentReconciliation) : UnitOfWork :=
  enqueueReconciliation transaction data now task
    { transaction := some
        ⟨transaction,
          { notedTransaction data now transaction with
            status := .processing
            txnMetadata :=
              ((scheduledMetadata transaction.txnMetadata data).set "reconciliation_status"
                (.str "scheduled")).set "provider_status" (.str (statusValue data)) }⟩ }

/-- The duplicate check of a successful payment event. -/
def settledEntry (kind : EventKind) (data : Obj) (transaction : Transaction) (db : Db) :
    Except PyError (Option VirtualLedgerEntry) :=
  if paymentReadsLedger kind data transaction then
    selectEntry "kora_payout" (paymentReference data) db
  else pure none

/-- What a payment event does to the transaction it matched. -/
def applyPayment (kind : EventKind) (data : Obj) (now : Instant) (transaction : Transaction)
    (db : Db) : Except PyError UnitOfWork :=
  match classify (statusValue data) with
  | .success => do
      let existing ← settledEntry kind data transaction db
      settlePayment kind data now transaction existing
  | .failure => pure (failPayment data now transaction)
  | .other => do
      let task ← selectTask transaction.id db
      pure (deferPayment data now transaction task)

/-- What becomes of an event whose reference matched no transaction: a payout event
is an error, any other event is ignored. -/
def unmatchedPayment (kind : EventKind) : Except PyError UnitOfWork :=
  if kind = .payout then
    .error (.value "Kora payout webhook reference does not match an AFM transaction")
  else .ok {}

/-- The payment branch: match the transaction and apply the event to it. -/
def processKoraPayment (kind : EventKind) (data : Obj) (now : Instant) (db : Db) :
    Except PyError UnitOfWork :=
  if paymentReference data = "" then
    .error (.value "Kora webhook is missing a transaction reference")
  else do
    match ← selectTransaction (paymentReference data) db with
    | some transaction => applyPayment kind data now transaction db
    | none => unmatchedPayment kind

/-- `process_kora_webhook_business_event`. -/
def processKoraWebhookBusinessEvent (body : Obj) (eventType : String) (now : Instant)
    (db : Db) : Except PyError UnitOfWork :=
  match eventKind eventType with
  | .refund => processKoraRefundWebhook (bodyData body) now db
  | .payout => processKoraPayment .payout (bodyData body) now db
  | .charge => processKoraPayment .charge (bodyData body) now db

end AfricaFrontier
