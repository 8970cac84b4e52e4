import AfricaFrontier.Payments.Models
import Mathlib.Tactic.NormNum

/-!
# How payment rows come into being

A pay-in is inserted by `process_payment` before the provider is called and takes
the provider's references from its answer; a payout is inserted by
`create_kora_payout` with the operation recorded in its metadata, and takes the
provider's reference as its second name.  These are the rows every other flow
finds in the table.

The rows are given as functions of what a route has at hand when it builds them. The small
databases at the end hold one of them, and are the start of the runs on fixed inputs in the
modules on webhooks, refunds and workers.
-/

namespace AfricaFrontier

open Python

/-- The pay-in `process_payment` inserts, before it calls the provider. -/
def payinTransaction (id : ℕ) (idempotencyKey : String) (userId : ℕ) (psp : PSPType)
    (amount : ℚ) (currency : String) (mobileMoneyPhone : Option String) (metadata : Obj)
    (now : Instant) : Transaction where
  id := id
  idempotencyKey := idempotencyKey
  userId := userId
  psp := psp
  pspTransactionId := none
  pspPaymentReference := none
  pspResponse := []
  amount := amount
  currency := currency
  status := .pending
  txnMetadata := metadata
  ledgerNamespace := afmPayments
  virtualAccountId := none
  mobileMoneyPhone := mobileMoneyPhone
  mobileMoneyOwnerVerifiedAt := none
  errorMessage := none
  webhookReceivedAt := none
  settledAt := none
  createdAt := now

/-- The pay-in once the provider has named it and asked for the customer's
authorization. -/
def payinInitiated (pspTransactionId pspPaymentReference : String) (response : Obj)
    (transaction : Transaction) : Transaction :=
  { transaction with
    pspTransactionId := some pspTransactionId
    pspPaymentReference := some pspPaymentReference
    pspResponse := response
    status := .processing }

/-- A payout instruction that passed the checks of its request model. -/
structure PayoutRequest where
  amount : ℚ
  amount_pos : 0 < amount
  currency : String
  currency_length : currency.toList.length = 3
  customerEmail : String
  customerEmail_length : 3 ≤ customerEmail.toList.length
  customerName : Option String := none
  narration : Option String := none
  mobileMoneyOperator : Option String := none
  mobileNumber : Option String := none
  bankCountry : Option String := none
  bankName : Option String := none
  bankCode : Option String := none
  accountNumber : Option String := none
  execute : Bool := false

/-- `bool(value)` of an optional text. -/
def given (value : Option String) : Bool := value.getD "" ≠ ""

/-- Where a payout goes. -/
def PayoutRequest.destinationType (payout : PayoutRequest) : String :=
  if given payout.mobileMoneyOperator then "mobile_money" else "bank_account"

/-- The payout `create_kora_payout` inserts, under the reference it drew, in the
customer's virtual account. -/
def payoutTransaction (id : ℕ) (reference : String) (userId account : ℕ)
    (payout : PayoutRequest) (now : Instant) : Transaction where
  id := id
  idempotencyKey := reference
  userId := userId
  psp := .kora
  pspTransactionId := none
  pspPaymentReference := none
  pspResponse := []
  amount := payout.amount
  currency := upper payout.currency
  status := .processing
  txnMetadata :=
    [("operation", .str "payout"),
      ("destination_type", .str payout.destinationType),
      ("reconciliation_status", .str "pending"),
      ("balance_affecting", .bool false)]
  ledgerNamespace := afmPayments
  virtualAccountId := some account
  mobileMoneyPhone := payout.mobileNumber
  mobileMoneyOwnerVerifiedAt := none
  errorMessage := none
  webhookReceivedAt := none
  settledAt := none
  createdAt := now

/-- The payout once the provider has accepted it: it is then also known by the
reference the provider answered. -/
def payoutAccepted (result : Obj) (transaction : Transaction) : Transaction :=
  { transaction with
    pspTransactionId := some
      ((result.get "reference").orElse ((result.get "transaction_reference").orElse
        (.str transaction.idempotencyKey))).text
    pspResponse := result }

/-- `txn_metadata["operation"] == "payout"`: the stored mark of a payout. -/
def Transaction.isPayout (t : Transaction) : Bool := t.txnMetadata.get "operation" = .str "payout"

/-! ## Small databases -/

/-- The database with one transaction and nothing else. -/
def Db.holding (t : Transaction) : Db :=
  { Db.empty with
    transactions :=
      { rows := [t]
        next := t.id + 1
        fresh := by simp
        distinct := List.pairwise_singleton _ _
        unique := List.pairwise_singleton _ _ } }

/-- A pay-in the provider has taken over. -/
def processingPayin : Transaction :=
  payinInitiated "KPY-1" "pay-1" []
    (payinTransaction 0 "idem-1" 1 .kora 1000 "XAF" (some "237690000001") [] 0)

/-- The pay-in once it is completed. -/
def completedPayin : Transaction := { processingPayin with status := .completed }

/-- The texts of the sample fit their columns. -/
theorem xaf_length : "XAF".toList.length = 3 := by
  decide

theorem payeeEmail_length : 3 ≤ "payee@example.test".toList.length := by
  decide

/-- A payout the provider has accepted under a reference of its own. -/
def acceptedPayout : Transaction :=
  payoutAccepted [("reference", .str "KPO-1")]
    (payoutTransaction 0 "afm-payout-1" 1 7
      { amount := 500
        amount_pos := by norm_num
        currency := "xaf"
        currency_length := by decide
        customerEmail := "payee@example.test"
        customerEmail_length := payeeEmail_length
        mobileMoneyOperator := some "mtn-cm"
        mobileNumber := some "237690000001"
        execute := true }
      0)

end AfricaFrontier
