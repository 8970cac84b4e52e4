import AfricaFrontier.Kora.Delivery
import AfricaFrontier.Payments.MonthlyLimit
import AfricaFrontier.Python.Decimal

/-!
# The payout route as a session (`create_kora_payout`)

The route checks the instruction, finds or creates the customer's account, writes a
transaction row without committing it, and then either commits the row as a preview or
calls the provider first and commits the row with its answer.  The uncommitted row is
the session's own: nobody else sees it, and it is gone when the session ends before its
commit.

As with deliveries and refunds, `PayoutStep` says what each statement can do and is the
only view later proofs take.

The row is drafted with a reference that is drawn for it, inserted in the session's transaction at
the point where its key is needed, and committed once: as a preview, with the provider's answer,
or as failed. `PayoutDraft` is what the request has read before it looks for the account.
-/

namespace AfricaFrontier

open Python Relational Transition

/-! ## The calls and answers -/

/-- A call of `create_kora_payout`: the request, the authenticated user and the
confirmation header. -/
structure PayoutCall where
  payout : PayoutRequest
  userId : ℕ
  confirmationHeader : Option String

/-- What `create_kora_payout` answers. -/
inductive PayoutAnswer
  | rejected (exception : HttpException)
  | crashed
  /-- The preview: `funds_movement` and `ledger_write` are false. -/
  | validated (reference : String) (transactionId : ℕ) (destinationType : String)
      (amount : ℚ) (currency : String)
  /-- A live payout: `funds_movement` is true. -/
  | executed (reference : String) (transactionId : ℕ) (status destinationType : String)
      (koraResponse : Obj)
  deriving DecidableEq

/-- The reported `funds_movement`. -/
def PayoutAnswer.fundsMovement : PayoutAnswer → Bool
  | .executed _ _ _ _ _ => true
  | _ => false

/-- The checks that need no database. -/
def checkPayout (call : PayoutCall) : Except HttpException Unit :=
  let payout := call.payout
  if given payout.mobileMoneyOperator ≠ given payout.mobileNumber then
    .error ⟨422, "Mobile Money operator and number must be provided together"⟩
  else if ¬ (given payout.mobileMoneyOperator ∧ given payout.mobileNumber) ∧
      ¬ given payout.accountNumber then
    .error ⟨422, "A Mobile Money destination or bank account is required"⟩
  else if payout.execute ∧ call.confirmationHeader ≠ some "CONFIRM" then
    .error ⟨428, "Explicit payout confirmation is required"⟩
  else .ok ()

/-- The checks, the monthly limit included, which only an executed payout meets. -/
def admitPayout (settings : TransferSettings) (call : PayoutCall) (now : Instant) (db : Db) :
    Except HttpException Unit := do
  checkPayout call
  if call.payout.execute then
    enforceKyc1MonthlyLimit settings call.userId call.payout.amount call.payout.currency now db

/-! ## The rows

What the constraints refuse is refused here as well: a text that is too long, a key that is
taken. -/

/-- The account `get_or_create_virtual_account` creates. -/
def newAccount (userId : ℕ) (id : ℕ) : VirtualAccount where
  id := id
  userId := userId
  status := "active"
  currency := "USD"

/-- The account of a user. -/
def selectAccount (userId : ℕ) (db : Db) : Except PyError (Option VirtualAccount) :=
  scalarOneOrNone (db.accounts.rows.filter fun account => decide (account.userId = userId))

/-- Store the account of a user; `none` when the user has one. -/
def insertAccount (userId : ℕ) (db : Db) : Option (Table VirtualAccount) :=
  db.accounts.insert (newAccount userId) (fun _ => rfl)

/-- The column widths of a transaction. -/
def Transaction.fits (t : Transaction) : Bool :=
  fitsIn 64 t.idempotencyKey && fitsIn 3 t.currency && decide (t.amount < 10 ^ 11) &&
    t.pspTransactionId.all (fitsIn 100) && t.mobileMoneyPhone.all (fitsIn 50)

/-- Store a transaction; `none` when it violates a column or its key is taken. -/
def insertTransaction (t : Transaction) (db : Db) : Option (Table Transaction) :=
  if t.fits then db.transactions.insert (fun n => { t with id := n }) (fun _ => rfl)
  else none

/-- A row that was stored is in the table under the next key. -/
theorem insertTransaction_some {t : Transaction} {db : Db} {transactions : Table Transaction}
    (h : insertTransaction t db = some transactions) :
    db.transactions.insert (fun n => { t with id := n }) (fun _ => rfl) = some transactions := by
  unfold insertTransaction at h
  split at h
  · exact h
  · cases h

/-- The payout once the client raised `KoraClientError`. -/
def payoutUnavailable (transaction : Transaction) : Transaction :=
  { transaction with
    status := .failed
    errorMessage := some "Kora payout is temporarily unavailable"
    txnMetadata := transaction.txnMetadata.set "reconciliation_status" (.str "exception") }

/-- The client's own checks, before it sends anything. -/
def PayoutRequest.sendable (payout : PayoutRequest) (reference : String) : Bool :=
  5 ≤ reference.toList.length && payout.customerEmail ≠ "" &&
    if given payout.mobileMoneyOperator || given payout.mobileNumber then
      given payout.mobileMoneyOperator && given payout.mobileNumber
    else given payout.accountNumber && (given payout.bankCode || given payout.bankName)

/-! ## The route, statement by statement

The monthly limit is read before the account, and not again. -/

/-- What a payout request has drawn and read before its account is looked up: its
reference, and — for statements about runs only — what the limit check summed up. -/
structure PayoutDraft where
  reference : String
  counted : ℚ

/-- Where a payout request stands. -/
inductive PayoutPhase
  | requested
  | opening (draft : PayoutDraft)
  | provisioning (draft : PayoutDraft)
  | reselecting (draft : PayoutDraft)
  | recording (draft : PayoutDraft) (account : ℕ)
  | previewing (draft : PayoutDraft) (transaction : Transaction)
  | issuing (draft : PayoutDraft) (transaction : Transaction)
  | awaiting (draft : PayoutDraft) (transaction : Transaction)
  | failing (draft : PayoutDraft) (transaction : Transaction)
  | accepted (draft : PayoutDraft) (transaction : Transaction) (result : Obj)
  | answering (answer : PayoutAnswer)

/-- The environment's part in one statement: the clock, whether the database fails, the
reference drawn and the provider's answer. -/
structure PayoutTick where
  now : Instant
  fault : Bool
  reference : String
  outcome : ProviderOutcome

/-- The answer where the client raised `KoraClientError`. -/
def PayoutAnswer.unavailable : PayoutAnswer :=
  .rejected ⟨502, "Kora payout is temporarily unavailable"⟩

/-- The answer to a committed preview. -/
def previewAnswer (call : PayoutCall) (draft : PayoutDraft) (id : ℕ) : PayoutAnswer :=
  match quantize cents call.payout.amount with
  | some amount =>
      .validated draft.reference id call.payout.destinationType amount
        (upper call.payout.currency)
  | none => .crashed

/-- The answer to a payout the provider accepted. -/
def executedAnswer (call : PayoutCall) (draft : PayoutDraft) (result : Obj) (id : ℕ) :
    PayoutAnswer :=
  .executed draft.reference id ((result.get "status").orElse (.str "processing")).text
    call.payout.destinationType result

/-- Commit the row of a payout, and answer. -/
def commitPayout (s : Store) (fault : Bool) (transaction : Transaction)
    (answer : ℕ → PayoutAnswer) : Store × Option PayoutPhase :=
  if fault then (s, some (.answering .crashed))
  else
    match insertTransaction transaction s.db with
    | none => (s, some (.answering .crashed))
    | some transactions =>
        ({ s with db := { s.db with transactions := transactions } },
          some (.answering (answer s.db.transactions.next)))

/-- The next statement of a payout request: the checks and the limit, the account, the row, the
provider, and the one commit at the end. A preview commits without calling. -/
def PayoutCall.step (settings : TransferSettings) (call : PayoutCall) (s : Store)
    (tick : PayoutTick) : PayoutPhase → Store × Option PayoutPhase
  | .requested =>
      if tick.fault then (s, some (.answering .crashed))
      else
        match admitPayout settings call tick.now s.db with
        | .error exception => (s, some (.answering (.rejected exception)))
        | .ok () => (s, some (.opening ⟨tick.reference, kyc1Total call.userId tick.now s.db⟩))
  | .opening draft =>
      if tick.fault then (s, some (.answering .crashed))
      else
        match selectAccount call.userId s.db with
        | .error _ => (s, some (.answering .crashed))
        | .ok (some account) => (s, some (.recording draft account.id))
        | .ok none => (s, some (.provisioning draft))
  | .provisioning draft =>
      if tick.fault then (s, some (.answering .crashed))
      else
        match insertAccount call.userId s.db with
        | some accounts =>
            ({ s with db := { s.db with accounts := accounts } },
              some (.recording draft s.db.accounts.next))
        | none => (s, some (.reselecting draft))
  | .reselecting draft =>
      if tick.fault then (s, some (.answering .crashed))
      else
        match selectAccount call.userId s.db with
        | .error _ => (s, some (.answering .crashed))
        | .ok (some account) => (s, some (.recording draft account.id))
        | .ok none =>
            (s, some (.answering (.rejected
              ⟨503, "Virtual account provisioning is temporarily unavailable"⟩)))
  | .recording draft account =>
      let transaction :=
        payoutTransaction 0 draft.reference call.userId account call.payout tick.now
      if tick.fault then (s, some (.answering .crashed))
      else
        match insertTransaction transaction s.db with
        | none => (s, some (.answering .crashed))
        | some _ =>
            -- flushed, not committed: the row is written at a later commit
            if call.payout.execute = false then (s, some (.previewing draft transaction))
            else if settings.isDevelopment then
              (s, some (.answering (.rejected ⟨409, "Live payout is disabled in development"⟩)))
            else (s, some (.issuing draft transaction))
  | .previewing draft transaction =>
      commitPayout s tick.fault transaction (previewAnswer call draft)
  | .issuing draft transaction =>
      if call.payout.sendable draft.reference then (s, some (.awaiting draft transaction))
      else (s, some (.failing draft transaction))
  | .awaiting draft transaction =>
      match tick.outcome with
      | .answered result => (s, some (.accepted draft transaction result))
      | .refused _ => (s, some (.failing draft transaction))
      | .raised => (s, some (.answering .crashed))
  | .failing _ transaction =>
      commitPayout s tick.fault (payoutUnavailable transaction) (fun _ => .unavailable)
  | .accepted draft transaction result =>
      commitPayout s tick.fault (payoutAccepted result transaction)
        (executedAnswer call draft result)
  | .answering _ => (s, none)

/-- A payout request in flight. -/
structure PayoutSession where
  call : PayoutCall
  phase : PayoutPhase

/-- `create_kora_payout`. -/
def createKoraPayout (settings : TransferSettings) :
    Sessions Store PayoutCall PayoutSession PayoutTick where
  init call := ⟨call, .requested⟩
  advance s t tick :=
    let next := t.call.step settings s tick t.phase
    some (next.1, next.2.map (PayoutSession.mk t.call))

/-! ## What a statement can do -/

/-- The row a phase is about to commit, in the three phases that end a request with a stored row. -/
def PayoutPhase.row : PayoutPhase → Option Transaction
  | .previewing _ transaction => some transaction
  | .failing _ transaction => some (payoutUnavailable transaction)
  | .accepted _ transaction result => some (payoutAccepted result transaction)
  | _ => none

/-- The statements of a payout request, case by case. -/
inductive PayoutStep (settings : TransferSettings) (call : PayoutCall) (s : Store) :
    PayoutPhase → Store → Option PayoutPhase → Prop
  | ended {phase : PayoutPhase} {answer : PayoutAnswer}
      (hanswer : answer = .crashed ∨ ∃ exception, answer = .rejected exception) :
      PayoutStep settings call s phase s (some (.answering answer))
  | admitted {now : Instant} {reference : String}
      (hadmitted : admitPayout settings call now s.db = .ok ()) :
      PayoutStep settings call s .requested s
        (some (.opening ⟨reference, kyc1Total call.userId now s.db⟩))
  | found {phase : PayoutPhase} {draft : PayoutDraft} {account : VirtualAccount}
      (hphase : phase = .opening draft ∨ phase = .reselecting draft)
      (hselect : selectAccount call.userId s.db = .ok (some account)) :
      PayoutStep settings call s phase s (some (.recording draft account.id))
  | missing {draft : PayoutDraft} :
      PayoutStep settings call s (.opening draft) s (some (.provisioning draft))
  | provisioned {draft : PayoutDraft} {accounts : Table VirtualAccount}
      (hinsert : insertAccount call.userId s.db = some accounts) :
      PayoutStep settings call s (.provisioning draft)
        { s with db := { s.db with accounts := accounts } }
        (some (.recording draft s.db.accounts.next))
  | clashed {draft : PayoutDraft} :
      PayoutStep settings call s (.provisioning draft) s (some (.reselecting draft))
  | previewed {draft : PayoutDraft} {account : ℕ} {now : Instant}
      (hexecute : call.payout.execute = false) :
      PayoutStep settings call s (.recording draft account) s
        (some (.previewing draft
          (payoutTransaction 0 draft.reference call.userId account call.payout now)))
  | recorded {draft : PayoutDraft} {account : ℕ} {now : Instant}
      {transactions : Table Transaction} (hexecute : call.payout.execute = true)
      (hlive : settings.isDevelopment = false)
      (hinsert : insertTransaction
        (payoutTransaction 0 draft.reference call.userId account call.payout now) s.db =
          some transactions) :
      PayoutStep settings call s (.recording draft account) s
        (some (.issuing draft
          (payoutTransaction 0 draft.reference call.userId account call.payout now)))
  | instructed {draft : PayoutDraft} {transaction : Transaction} :
      PayoutStep settings call s (.issuing draft transaction) s
        (some (.awaiting draft transaction))
  | declined {draft : PayoutDraft} {transaction : Transaction} :
      PayoutStep settings call s (.issuing draft transaction) s
        (some (.failing draft transaction))
  | refused {draft : PayoutDraft} {transaction : Transaction} :
      PayoutStep settings call s (.awaiting draft transaction) s
        (some (.failing draft transaction))
  | answered {draft : PayoutDraft} {transaction : Transaction} {result : Obj} :
      PayoutStep settings call s (.awaiting draft transaction) s
        (some (.accepted draft transaction result))
  | committed {phase : PayoutPhase} {row : Transaction} {transactions : Table Transaction}
      {answer : PayoutAnswer} (hrow : phase.row = some row)
      (hinsert : insertTransaction row s.db = some transactions) :
      PayoutStep settings call s phase
        { s with db := { s.db with transactions := transactions } } (some (.answering answer))
  | finished {answer : PayoutAnswer} : PayoutStep settings call s (.answering answer) s none

/-- The commit of a payout is one of the statements. -/
theorem commitPayout_spec (settings : TransferSettings) (call : PayoutCall) (s : Store)
    (fault : Bool) {phase : PayoutPhase} {row : Transaction} (hrow : phase.row = some row)
    (answer : ℕ → PayoutAnswer) :
    PayoutStep settings call s phase (commitPayout s fault row answer).1
      (commitPayout s fault row answer).2 := by
  unfold commitPayout
  cases fault with
  | true => exact .ended (Or.inl rfl)
  | false =>
      cases hinsert : insertTransaction row s.db with
      | none => exact .ended (Or.inl rfl)
      | some transactions => exact .committed hrow hinsert

/-- Every statement is one of them. -/
theorem PayoutCall.step_spec (settings : TransferSettings) (call : PayoutCall) (s : Store)
    (tick : PayoutTick) (phase : PayoutPhase) :
    PayoutStep settings call s phase (call.step settings s tick phase).1
      (call.step settings s tick phase).2 := by
  cases phase with
  | requested =>
      simp only [PayoutCall.step]
      split
      · exact .ended (Or.inl rfl)
      · split
        · rename_i exception hadmitted
          exact .ended (Or.inr ⟨exception, rfl⟩)
        · rename_i hadmitted
          exact .admitted hadmitted
  | opening draft =>
      simp only [PayoutCall.step]
      split
      · exact .ended (Or.inl rfl)
      · split
        · exact .ended (Or.inl rfl)
        · rename_i account hselect
          exact .found (Or.inl rfl) hselect
        · exact .missing
  | provisioning draft =>
      simp only [PayoutCall.step]
      split
      · exact .ended (Or.inl rfl)
      · split
        · rename_i accounts hinsert
          exact .provisioned hinsert
        · exact .clashed
  | reselecting draft =>
      simp only [PayoutCall.step]
      split
      · exact .ended (Or.inl rfl)
      · split
        · exact .ended (Or.inl rfl)
        · rename_i account hselect
          exact .found (Or.inr rfl) hselect
        · exact .ended (Or.inr ⟨_, rfl⟩)
  | recording draft account =>
      simp only [PayoutCall.step]
      split
      · exact .ended (Or.inl rfl)
      · split
        · exact .ended (Or.inl rfl)
        · rename_i hinsert
          split
          · rename_i hexecute
            exact .previewed hexecute
          · rename_i hexecute
            split
            · exact .ended (Or.inr ⟨_, rfl⟩)
            · rename_i hlive
              exact .recorded (by simpa using hexecute) (by simpa using hlive) hinsert
  -- three phases end with the commit of a row, and share its lemma
  | previewing draft transaction => exact commitPayout_spec settings call s _ rfl _
  | issuing draft transaction =>
      simp only [PayoutCall.step]
      split
      · exact .instructed
      · exact .declined
  | awaiting draft transaction =>
      simp only [PayoutCall.step]
      split
      · exact .answered
      · exact .refused
      · exact .ended (Or.inl rfl)
  | failing draft transaction => exact commitPayout_spec settings call s _ rfl _
  | accepted draft transaction result => exact commitPayout_spec settings call s _ rfl _
  | answering answer => exact .finished

/-- Every step of a payout session is one of them. -/
theorem createKoraPayout_advance {settings : TransferSettings} {s s' : Store}
    {t : PayoutSession} {tick : PayoutTick} {o : Option PayoutSession}
    (h : (createKoraPayout settings).advance s t tick = some (s', o)) :
    ∃ next, PayoutStep settings t.call s t.phase s' next ∧
      o = next.map (PayoutSession.mk t.call) := by
  obtain ⟨rfl, rfl⟩ := Prod.mk.inj (Option.some.inj h)
  exact ⟨_, t.call.step_spec settings s tick t.phase, rfl⟩

/-- The production settings, with the default limit. -/
def productionSettings : TransferSettings where
  environment := .production
  kyc1MonthlyLimitXaf := 10000000

/-- The amounts of the samples are positive. -/
theorem fiveHundred_pos : (0 : ℚ) < 500 := by
  norm_num

theorem sixMillion_pos : (0 : ℚ) < 6000000 := by
  norm_num

/-- A confirmed payout request to a Mobile Money number. -/
def samplePayout (amount : ℚ) (h : 0 < amount) (execute : Bool) : PayoutCall where
  payout :=
    { amount := amount
      amount_pos := h
      currency := "XAF"
      currency_length := xaf_length
      customerEmail := "payee@example.test"
      customerEmail_length := payeeEmail_length
      mobileMoneyOperator := some "mtn-cm"
      mobileNumber := some "237690000001"
      execute := execute }
  userId := 1
  confirmationHeader := some "CONFIRM"

end AfricaFrontier
