import AfricaFrontier.Lib.Table
import AfricaFrontier.Python.Json

/-!
# The payment tables

The rows of `payment_hub/models.py` that the Kora flows read or write, with the
constraints the database declares on them, and the committed state `Db` as one
table for each.

Columns nothing in this development reads or writes are left out.  Primary keys
are UUIDs drawn at random in the source; here each table hands out its own, which
is the same thing under the reading that two random UUIDs never coincide.
`psp_response` and `txn_metadata` default to an empty dict and are always written
as dicts, so a null there is read as the empty dict, as every reader does
(`… or {}`).

Which columns a constraint speaks about is declared once for each row type, in its instance of
`Row`: the primary key and the unique columns, with `Clash` for the pairs that may not be stored
together. Enumerations whose database type admits no other text are inductive types; a status that
is stored as any text is a text.
-/

namespace AfricaFrontier

open Python Relational

/-- A point in time, in microseconds. -/
abbrev Instant := ℤ

/-- `timedelta(seconds=n)`. -/
def seconds (n : ℤ) : ℤ := n * 1000000

/-- `timedelta(minutes=n)`. -/
def minutes (n : ℤ) : ℤ := seconds (60 * n)

/-- `timedelta(hours=n)`. -/
def hours (n : ℤ) : ℤ := minutes (60 * n)

/-- The statuses of a transaction. -/
inductive PaymentStatus
  | pending
  | processing
  | completed
  | failed
  | refunded
  | held
  deriving DecidableEq, Repr

/-- The providers. -/
inductive PSPType
  | aza
  | kora
  | fincra
  | flutterwave
  | stripe
  | mtnMomo
  | orangeMoney
  deriving DecidableEq, Repr

/-- The namespace that segregates AFM payments from other ledgers. -/
def afmPayments : String := "afm_payments"

/-- A payment transaction. -/
structure Transaction where
  id : ℕ
  idempotencyKey : String
  userId : ℕ
  psp : PSPType
  pspTransactionId : Option String
  pspPaymentReference : Option String
  pspResponse : Obj
  amount : ℚ
  currency : String
  status : PaymentStatus
  txnMetadata : Obj
  ledgerNamespace : String
  virtualAccountId : Option ℕ
  mobileMoneyPhone : Option String
  mobileMoneyOwnerVerifiedAt : Option Instant
  errorMessage : Option String
  webhookReceivedAt : Option Instant
  settledAt : Option Instant
  createdAt : Instant
  deriving DecidableEq

/-- A customer's account: it partitions the ledger. -/
structure VirtualAccount where
  id : ℕ
  userId : ℕ
  status : String
  currency : String
  deriving DecidableEq

/-- An immutable ledger entry; `entryMetadata` names the transaction it belongs to. -/
structure VirtualLedgerEntry where
  id : ℕ
  virtualAccountId : ℕ
  entryType : String
  direction : String
  amount : ℚ
  currency : String
  referenceType : String
  referenceId : String
  description : String
  entryMetadata : Obj
  deriving DecidableEq

/-- How far the processing of a received webhook got. -/
inductive ReceiptStatus
  | received
  | processed
  | failed
  deriving DecidableEq, Repr

/-- The durable receipt of one webhook event. -/
structure KoraWebhookEvent where
  id : ℕ
  eventId : String
  eventType : String
  payloadHash : String
  status : ReceiptStatus
  payload : Obj
  receivedAt : Instant
  processedAt : Option Instant
  errorMessage : Option String
  deriving DecidableEq

/-- The states of a reconciliation task. -/
inductive TaskState
  | scheduled
  | processing
  | completed
  | failed
  | expired
  deriving DecidableEq, Repr

/-- The durable reconciliation task of one transaction. -/
structure KoraPaymentReconciliation where
  id : ℕ
  transactionId : ℕ
  paymentReference : String
  transactionReference : Option String
  providerStatus : String
  state : TaskState
  attemptCount : ℕ
  nextAttemptAt : Option Instant
  expiresAt : Option Instant
  lastCheckedAt : Option Instant
  lastError : Option String
  lockedAt : Option Instant
  lockedBy : Option String
  deriving DecidableEq

/-- A refund command for a Kora pay-in and its reconciliation record.  `status`
holds whatever text the provider answered, lower-cased. -/
structure KoraRefund where
  id : ℕ
  transactionId : ℕ
  refundReference : String
  idempotencyKey : String
  paymentReference : String
  amount : ℚ
  currency : String
  reason : Option String
  status : String
  pspResponse : Obj
  errorMessage : Option String
  completedAt : Option Instant
  createdAt : Instant
  deriving DecidableEq

/-! ## Constraints -/

instance : Row Transaction where
  Key := ℕ × String
  key r := (r.id, r.idempotencyKey)
  primary := Prod.fst
  Clash a b := a.2 = b.2
  decClash _ _ := inferInstance

instance : Row VirtualAccount where
  Key := ℕ × ℕ
  key r := (r.id, r.userId)
  primary := Prod.fst
  Clash a b := a.2 = b.2
  decClash _ _ := inferInstance

instance : Row VirtualLedgerEntry where
  Key := ℕ
  key r := r.id
  primary := id
  Clash _ _ := False
  decClash _ _ := inferInstance

instance : Row KoraWebhookEvent where
  Key := ℕ × String
  key r := (r.id, r.eventId)
  primary := Prod.fst
  Clash a b := a.2 = b.2
  decClash _ _ := inferInstance

instance : Row KoraPaymentReconciliation where
  Key := ℕ × ℕ
  key r := (r.id, r.transactionId)
  primary := Prod.fst
  Clash a b := a.2 = b.2
  decClash _ _ := inferInstance

instance : Row KoraRefund where
  Key := ℕ × String × String
  key r := (r.id, r.refundReference, r.idempotencyKey)
  primary := Prod.fst
  Clash a b := a.2.1 = b.2.1 ∨ a.2.2 = b.2.2
  decClash _ _ := inferInstance

@[simp] theorem Transaction.ident_eq (r : Transaction) : ident r = r.id := rfl

@[simp] theorem VirtualAccount.ident_eq (r : VirtualAccount) : ident r = r.id := rfl

@[simp] theorem VirtualLedgerEntry.ident_eq (r : VirtualLedgerEntry) : ident r = r.id := rfl

@[simp] theorem KoraWebhookEvent.ident_eq (r : KoraWebhookEvent) : ident r = r.id := rfl

@[simp] theorem KoraPaymentReconciliation.ident_eq (r : KoraPaymentReconciliation) :
    ident r = r.id := rfl

@[simp] theorem KoraRefund.ident_eq (r : KoraRefund) : ident r = r.id := rfl

/-- The committed database. -/
structure Db where
  transactions : Table Transaction
  ledger : Table VirtualLedgerEntry
  events : Table KoraWebhookEvent
  tasks : Table KoraPaymentReconciliation
  refunds : Table KoraRefund
  accounts : Table VirtualAccount

/-- The database before anything happened. -/
def Db.empty : Db where
  transactions := Table.empty
  ledger := Table.empty
  events := Table.empty
  tasks := Table.empty
  refunds := Table.empty
  accounts := Table.empty

end AfricaFrontier
