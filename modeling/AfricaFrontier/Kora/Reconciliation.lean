import AfricaFrontier.Payments.Session

/-!
# Durable reconciliation (`payment_hub/reconciliation.py`)

A transaction the provider still reports as pending gets a reconciliation task;
a worker claims due tasks one at a time, asks the provider for the charge's final
state outside any database transaction, and writes the answer back.

`enqueueReconciliation` is the task part of the webhook handler, `claim` and
`writeBack` the two database transactions of `reconcile_due_once`, and
`reconcileDueOnce` the whole call with the provider's answer as its input.

A task is due when its state lets it run, its time has come or is not set, and it is not locked,
or has been for five minutes. The claim counts the attempt, locks the row and puts the time of the
check there; the write-back unlocks it, and schedules the next attempt unless the answer is final
or the task has expired.

A call that raises `KoraClientError` is an answer without a status. Any other exception ends the
call with the claim in place.
-/

namespace AfricaFrontier

open Python Relational

/-! ## Provider statuses

Two lists of words; whatever is in neither is pending. -/

/-- The words of success. -/
def successStatuses : List String := ["success", "successful", "completed", "settled"]

/-- The words of failure. -/
def failureStatuses : List String := ["failed", "cancelled", "canceled", "reversed"]

/-- How a provider status is acted on. -/
inductive StatusClass
  | success
  | failure
  | other
  deriving DecidableEq, Repr

/-- The three-way branch every handler makes on a provider status. -/
def classify (value : String) : StatusClass :=
  if value ∈ successStatuses then .success
  else if value ∈ failureStatuses then .failure
  else .other

/-- `status_of`. -/
def statusOf (data : Obj) : String := lower (strip (data.firstText ["status", "payment_status"]))

/-- `normalize_kora_status`: the class of the cleaned status.  `"completed"`,
`"failed"` and `"processing"` in the source are `success`, `failure` and `other`. -/
def normalizeKoraStatus (raw : String) : StatusClass := classify (lower (strip raw))

/-- `next_backoff`. -/
def nextBackoff (attempt : ℕ) : ℤ :=
  if 6 ≤ attempt then 300 else min 300 (15 * 2 ^ min (attempt - 1) 4)

/-! ## Enqueueing

Called by the webhook in its own transaction, for an event that is pending. -/

/-- The metadata the enqueueing leaves on the transaction. -/
def scheduledMetadata (metadata : Obj) (data : Obj) : Obj :=
  (metadata.set "reconciliation_status" (.str "scheduled")).set "provider_status"
    (.str (statusOf data))

/-- The text, unless it is empty. -/
def nonEmpty (s : String) : Option String := if s = "" then none else some s

/-- The task of a transaction. -/
def selectTask (transactionId : ℕ) (db : Db) :
    Except PyError (Option KoraPaymentReconciliation) :=
  scalarOneOrNone (db.tasks.rows.filter fun task => decide (task.transactionId = transactionId))

/-- `enqueue_reconciliation`, after its lookup: stage a new task, or bring the
existing one forward unless it is finished. -/
def enqueueReconciliation (transaction : Transaction) (data : Obj) (now : Instant)
    (task : Option KoraPaymentReconciliation) (u : UnitOfWork) : UnitOfWork :=
  let given := data.firstText ["payment_reference"]
  let paymentReference :=
    if given = "" then transaction.pspTransactionId.getD "" else given
  let transactionReference := data.firstText ["transaction_reference"]
  match task with
  | none =>
      { u with
        newTask := some
          { id := 0
            transactionId := transaction.id
            paymentReference := paymentReference
            transactionReference := nonEmpty transactionReference
            providerStatus := statusOf data
            state := .scheduled
            attemptCount := 0
            nextAttemptAt := some (now + seconds 15)
            expiresAt := some (now + hours 24)
            lastCheckedAt := none
            lastError := none
            lockedAt := none
            lockedBy := none } }
  | some task =>
      -- a finished task keeps its state and its next attempt, and takes the rest
      let finished := task.state = .completed ∨ task.state = .failed
      { u with
        task := some
          { loaded := task
            current :=
              { task with
                paymentReference :=
                  if paymentReference = "" then task.paymentReference else paymentReference
                transactionReference :=
                  if transactionReference = "" then task.transactionReference
                  else some transactionReference
                providerStatus := statusOf data
                state := if finished then task.state else .scheduled
                nextAttemptAt :=
                  if finished then task.nextAttemptAt
                  else some (min (task.nextAttemptAt.getD now) (now + seconds 15)) } } }

/-! ## The worker -/

/-- `_normalized_phone`, for numbers written in ASCII digits. -/
def normalizedPhone (value : Json) : List Char :=
  ((value.orElse (.str "")).text.toList).filter Char.isDigit

/-- The phone numbers a provider answer may carry. -/
def phoneCandidates (response : Obj) : List Json :=
  (["phone_number", "mobile_number", "phone", "number"].filterMap response.find) ++
    match response.get "mobile_money" with
    | .obj mobileMoney =>
        ["number", "mobile_number", "phone_number"].map (Obj.get mobileMoney)
    | _ => []

/-- `_provider_phone_matches`. -/
def providerPhoneMatches (transaction : Transaction) (response : Obj) : Bool :=
  let expected := normalizedPhone (.str (transaction.mobileMoneyPhone.getD ""))
  !expected.isEmpty &&
    (phoneCandidates response).any fun candidate =>
      candidate.truthy && decide (normalizedPhone candidate = expected)

/-- A task the worker may claim at `now`. -/
def KoraPaymentReconciliation.isDue (now : Instant) (task : KoraPaymentReconciliation) : Bool :=
  (task.state = .scheduled && task.nextAttemptAt.any (· ≤ now)) ||
    (task.state = .processing && task.lastCheckedAt.any (· ≤ now - minutes 5))

/-- `a` is sorted no later than `b` by `ORDER BY next_attempt_at`, nulls last. -/
def dueBefore (a b : KoraPaymentReconciliation) : Bool :=
  match a.nextAttemptAt, b.nextAttemptAt with
  | some x, some y => x ≤ y
  | some _, none => true
  | none, some _ => false
  | none, none => true

/-- The due task the worker picks. -/
def dueTask (now : Instant) (db : Db) : Option KoraPaymentReconciliation :=
  firstBy dueBefore (db.tasks.rows.filter (KoraPaymentReconciliation.isDue now))

/-- The claimed task: marked, counted and locked. -/
def claimedTask (worker : String) (now : Instant) (task : KoraPaymentReconciliation) :
    KoraPaymentReconciliation :=
  { task with
    state := .processing
    attemptCount := task.attemptCount + 1
    lastCheckedAt := some now
    lockedAt := some now
    lockedBy := some worker }

/-- The claim keeps the keys of the task. -/
theorem claimedTask_key (worker : String) (now : Instant)
    (task stored : KoraPaymentReconciliation) :
    Row.key (KoraPaymentReconciliation.writeBack ⟨task, claimedTask worker now task⟩ stored) =
      Row.key stored :=
  KoraPaymentReconciliation.key_writeBack _ stored

/-- What the worker carries from its claim to its write-back. -/
structure Claim where
  taskId : ℕ
  reference : Option String

/-- The first transaction of `reconcile_due_once`: claim a due task. -/
def claim (worker : String) (now : Instant) (db : Db) : Option (Claim × Db) :=
  (dueTask now db).map fun task =>
    ({ taskId := task.id
       reference :=
         if task.paymentReference = "" then task.transactionReference
         else some task.paymentReference },
      { db with
        tasks := db.tasks.modify task.id
          (KoraPaymentReconciliation.writeBack ⟨task, claimedTask worker now task⟩)
          (claimedTask_key worker now task) })

/-- How a call to the provider can end: with the data of its answer, with a
`KoraClientError`, or with any other exception. -/
inductive ProviderOutcome
  | answered (data : Obj)
  | refused (message : String)
  | raised

/-- The provider's answer as the worker reads it: its status, its class, and the
error text of a call that raised `KoraClientError`. -/
structure Verification where
  response : Obj
  rawStatus : String
  normalized : StatusClass
  error : Option String

/-- What the worker makes of `verify_charge`; an exception it does not handle
yields nothing. -/
def verification : ProviderOutcome → Option Verification
  | .answered response =>
      some
        { response := response
          rawStatus := statusOf response
          normalized := normalizeKoraStatus (statusOf response)
          error := none }
  | .refused message =>
      some
        { response := []
          rawStatus := ""
          normalized := .other
          error := some (slice 500 message) }
  | .raised => none

/-- A transaction the worker must not move any more. -/
def PaymentStatus.settled (status : PaymentStatus) : Bool :=
  status = .completed || status = .refunded

/-- The transaction after the worker's write-back. -/
def verifiedTransaction (v : Verification) (providerStatus : String) (now : Instant)
    (transaction : Transaction) : Transaction :=
  let answered : Json :=
    if v.response.isEmpty then
      .obj [("error", (v.error.map Json.str).getD .null)]
    else .obj v.response
  let noted :=
    { transaction with
      pspResponse := (transaction.pspResponse.set "reconciliation" answered).set
        "provider_status" (.str (if v.rawStatus = "" then providerStatus else v.rawStatus))
      mobileMoneyOwnerVerifiedAt :=
        if providerPhoneMatches transaction v.response then some now
        else transaction.mobileMoneyOwnerVerifiedAt }
  match v.normalized with
  | .success =>
      -- a settled transaction is not settled again
      if transaction.status.settled then noted
      else { noted with status := .completed, settledAt := some now }
  | .failure =>
      if transaction.status.settled then noted
      else
        { noted with
          status := .failed
          errorMessage := some
            (if v.rawStatus = "" then v.error.getD "Kora payment failed" else v.rawStatus) }
  | .other => noted

/-- The task after the worker's write-back. -/
def verifiedTask (v : Verification) (now : Instant) (task : KoraPaymentReconciliation) :
    KoraPaymentReconciliation :=
  let released :=
    { task with
      providerStatus := if v.rawStatus = "" then task.providerStatus else v.rawStatus
      lastError := v.error
      lockedAt := none
      lockedBy := none }
  match v.normalized with
  | .success => { released with state := .completed, nextAttemptAt := none }
  | .failure => { released with state := .failed, nextAttemptAt := none }
  | .other =>
      if task.expiresAt.any (· ≤ now) then
        { released with state := .expired, nextAttemptAt := none }
      else
        { released with
          state := .scheduled
          nextAttemptAt := some (now + seconds (nextBackoff task.attemptCount)) }

/-- What the second transaction stages for the task and the transaction it read. -/
def writeBackStaged (v : Verification) (now : Instant) (task : KoraPaymentReconciliation)
    (transaction : Option Transaction) : UnitOfWork :=
  let after := verifiedTask v now task
  { task := some ⟨task, after⟩
    transaction := transaction.map fun t =>
      ⟨t, verifiedTransaction v after.providerStatus now t⟩ }

/-- The second transaction of `reconcile_due_once`: write the answer back. -/
def writeBack (c : Claim) (v : Verification) (now : Instant) (db : Db) :
    Except PyError Db :=
  match db.tasks.get c.taskId with
  | none => .ok db
  | some task =>
      (writeBackStaged v now task (db.transactions.get task.transactionId)).flush db

/-- `reconcile_due_once`, with nothing else running: the provider's answer and the
two clock readings are inputs.  An exception after the claim leaves the claim
committed. -/
def reconcileDueOnce (worker : String) (claimedAt : Instant) (outcome : ProviderOutcome)
    (answeredAt : Instant) (db : Db) : Db :=
  match claim worker claimedAt db with
  | none => db
  | some (c, claimed) =>
      match verification outcome with
      | none => claimed
      | some v =>
          match writeBack c v answeredAt claimed with
          | .ok db' => db'
          | .error _ => claimed

end AfricaFrontier
