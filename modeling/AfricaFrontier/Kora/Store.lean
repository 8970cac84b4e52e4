import AfricaFrontier.Kora.Envelope

/-!
# The store the routes share

The committed database together with records of what went out: the business
commits made for events, the answers given to the provider, the instructions sent
to it and the answers given to customers.  No code reads these records; they are
what statements about whole runs speak of.

Each record is written by one step of one route, at the place where the source sends: a business
commit with the commit of its receipt, an answer with the end of a delivery, an instruction at the
call of the provider, a customer's answer at the end of a refund request. A step that sends
nothing leaves them as they are, so that a statement about the records is one about the order in
which things went out.
-/

namespace AfricaFrontier

open Python Relational

/-- A unit of work committed for an event. -/
structure BusinessCommit where
  content : Content
  work : UnitOfWork

/-- What `kora_webhook` answers. -/
inductive Answer
  | processed
  | already (status : ReceiptStatus)
  /-- Status 503: the receipt was refused and is not there either. -/
  | unavailable
  /-- Status 500. -/
  | failed
  deriving DecidableEq

/-- The answers with status 200, after which the provider stops retrying. -/
def Answer.acknowledged : Answer → Bool
  | .processed => true
  | .already _ => true
  | .unavailable => false
  | .failed => false

/-- A refund request whose amount the request model has checked. -/
structure RefundRequest where
  transactionId : ℕ
  amount : Option ℚ
  amount_pos : ∀ a ∈ amount, 0 < a
  reason : Option String
  execute : Bool

/-- A call of `create_kora_refund`: the transaction of the path, the request, the
authenticated user, and the two headers it reads. -/
structure RefundCall where
  transactionId : ℕ
  refund : RefundRequest
  userId : ℕ
  idempotencyHeader : String
  confirmationHeader : Option String

/-- What `create_kora_refund` reports of a refund. -/
structure RefundReport where
  status : String
  refundReference : String
  paymentReference : String
  amount : ℚ
  currency : String
  idempotentReplay : Bool
  fundsMovement : Bool
  deriving DecidableEq

/-- What `create_kora_refund` answers. -/
inductive RefundAnswer
  | rejected (status : ℕ) (detail : String)
  | crashed
  /-- The preview of a request that was not to be executed. -/
  | validated (transactionId : ℕ) (paymentReference : String) (amount : ℚ) (currency : String)
  | reported (report : RefundReport)
  deriving DecidableEq

/-- What `initiate_refund` sends to the provider. -/
structure RefundInstruction where
  paymentReference : String
  refundReference : String
  amount : ℚ
  reason : Option String
  deriving DecidableEq

/-- The committed database, and what went out: the business commits, the answers to deliveries,
the instructions to the provider, and the answers to refund requests. The lists are read by no
code. -/
structure Store where
  db : Db
  history : List BusinessCommit
  answers : List (Delivery × Answer)
  instructions : List RefundInstruction
  refundAnswers : List (RefundCall × RefundAnswer)

/-- The application before its first delivery: any business rows, no receipts, and
nothing sent out yet. -/
def Store.start (db : Db) : Store where
  db := { db with events := Table.empty }
  history := []
  answers := []
  instructions := []
  refundAnswers := []

end AfricaFrontier
