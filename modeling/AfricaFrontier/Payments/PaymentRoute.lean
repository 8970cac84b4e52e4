import AfricaFrontier.Config.Redis
import AfricaFrontier.Kora.Store
import AfricaFrontier.Lib.Pool
import AfricaFrontier.Payments.MonthlyLimit
import AfricaFrontier.Python.Decimal

/-!
# The payment route as a session (`create_payment`)

`create_payment` checks the monthly limit and hands the request to
`PaymentService.process_payment`, which takes a lock in Redis, chooses a provider,
announces the payment on the event stream, releases the lock and returns a
`Transaction`; the route then announces the outcome and builds its answer.

Two things about the returned object decide what follows from it.  It is built and
never added to a session, so it has no primary key and none of its column defaults,
and no row of the database stands for it.  And the lock it was made under is named by
the user, the amount, the currency and the day: the key the client sent is replaced
by that name before it is looked at.

The lock operations are those of `_LegacyPaymentLockService`: `SET … NX EX` and
`DEL`.  `PaymentService` calls them on itself and has none, so as it is shipped every
request that comes to its lock ends there with an `AttributeError`: the session stops
before its first command to Redis.  The model grants the lock, which is the only way to
speak of what comes after it; the shipped service is found in its runs, as those in
which every payment session crashes at its lock.

A command to Redis may be carried out without its answer arriving; the caller then sees
an exception.  The lock also remembers whose request took it, which no code reads:
Redis stores the text `1`.

The statements, in their order: the limit check; the lock; choosing the provider and announcing
the payment; the release, which answers the caller; the outcome. A ghost of each request remembers
the total that its limit check has read (`PaymentPhase.counted`), which the result on the monthly
cap is about.
-/

namespace AfricaFrontier

open Python Relational Transition

/-! ## The request -/

/-- A payment instruction that passed the checks of its request model. -/
structure PaymentRequest where
  amount : Numeral
  amount_pos : 0 < amount.value
  currency : String
  currency_length : currency.toList.length = 3
  method : String := "mobile_money"
  phoneNumber : Option String := none
  region : String := "west_africa"
  metadata : Obj := []

/-- A call of `create_payment`: the request, the authenticated user, and the header
`X-Idempotency-Key`. -/
structure PaymentCall where
  payment : PaymentRequest
  userId : ℕ
  idempotencyKey : Option String

/-- The exceptions of `config/exceptions.py` the route can raise. -/
inductive PaymentException
  | currencyNotSupported (detail : String)
  | payment (detail : String)
  | conflict (detail : String)
  | validation (detail : String)
  | notFound (detail : String)
  deriving DecidableEq

/-! ## Choosing the provider (`psp_router.py`) -/

/-- The credentials the router looks for. -/
structure PspCredentials where
  fincraApiKey : Option String := none
  fincraSecretKey : Option String := none
  flutterwavePublicKey : Option String := none
  flutterwaveSecretKey : Option String := none
  stripePublishableKey : Option String := none
  stripeSecretKey : Option String := none

/-- `bool(value)` of an optional setting. -/
def configured (value : Option String) : Bool := value.getD "" ≠ ""

/-- `_has_credentials`. -/
def PspCredentials.hasCredentials (settings : PspCredentials) : PSPType → Bool
  | .fincra => configured settings.fincraApiKey && configured settings.fincraSecretKey
  | .flutterwave =>
      configured settings.flutterwavePublicKey && configured settings.flutterwaveSecretKey
  | .stripe => configured settings.stripePublishableKey && configured settings.stripeSecretKey
  | .mtnMomo => configured settings.flutterwaveSecretKey
  | .orangeMoney => configured settings.flutterwaveSecretKey
  | .kora => false
  | .aza => false

/-- `CURRENCY_PSP_MAP`. -/
def currencyPspMap : List (String × List PSPType) :=
  [("XOF", [.fincra, .flutterwave, .mtnMomo, .orangeMoney]),
    ("XAF", [.fincra, .flutterwave, .mtnMomo, .orangeMoney]),
    ("NGN", [.fincra, .flutterwave]),
    ("KES", [.mtnMomo, .fincra]),
    ("GHS", [.mtnMomo, .fincra, .flutterwave]),
    ("ZAR", [.fincra, .stripe]),
    ("USD", [.fincra, .stripe]),
    ("EUR", [.fincra, .stripe]),
    ("GBP", [.fincra, .stripe])]

/-- `METHOD_PSP_MAP`. -/
def methodPspMap : List (String × List PSPType) :=
  [("mobile_money", [.mtnMomo, .orangeMoney, .flutterwave]),
    ("card", [.flutterwave, .stripe, .fincra]),
    ("bank_transfer", [.fincra, .stripe]),
    ("ussd", [.flutterwave])]

/-- The providers of last resort. -/
def internationalPsps : List PSPType := [.stripe, .fincra]

/-- `REGION_PSP_PRIORITY`. -/
def regionPspPriority : List (String × List PSPType) :=
  [("west_africa", [.fincra, .flutterwave, .mtnMomo, .orangeMoney]),
    ("east_africa", [.fincra, .mtnMomo]),
    ("south_africa", [.fincra, .stripe]),
    ("central_africa", [.mtnMomo, .orangeMoney]),
    ("international", internationalPsps)]

/-- The providers that carry the currency by the method, as the region prefers them. -/
def pspCandidates (available : List PSPType) (method region : String) : List PSPType :=
  let available :=
    match methodPspMap.lookup (lower method) with
    | some psps => available.filter fun psp => decide (psp ∈ psps)
    | none => available
  ((regionPspPriority.lookup region).getD internationalPsps).filter fun psp =>
    decide (psp ∈ available)

/-- `select_psp`. -/
def selectPsp (settings : PspCredentials) (currency method region : String) :
    Except PaymentException PSPType :=
  match currencyPspMap.lookup (upper currency) with
  | none =>
      .error (.currencyNotSupported ("Currency " ++ upper currency ++ " not supported"))
  | some available =>
      let candidates := pspCandidates available method region
      if candidates.isEmpty then
        .error (.payment ("No PSP available for " ++ upper currency ++ " in " ++ region ++
          " with method " ++ lower method))
      else
        match candidates.find? settings.hasCredentials with
        | some psp => .ok psp
        | none => .error (.payment ("No PSP with valid credentials for " ++ upper currency))

/-- The text of a provider's enumeration value. -/
def PSPType.value : PSPType → String
  | .aza => "aza"
  | .kora => "kora"
  | .fincra => "fincra"
  | .flutterwave => "flutterwave"
  | .stripe => "stripe"
  | .mtnMomo => "mtn_momo"
  | .orangeMoney => "orange_money"

/-! ## What `process_payment` makes of a request

Everything that needs neither Redis nor the database. -/

/-- `SUPPORTED_CURRENCIES`. -/
def supportedCurrencies : List String :=
  ["XOF", "XAF", "NGN", "KES", "GHS", "ZAR", "USD", "EUR", "GBP"]

/-- What the service is configured with; `sha256` is the hexadecimal digest of a text. -/
structure PaymentConfig where
  settings : TransferSettings
  credentials : PspCredentials
  sha256 : String → String

/-- `_generate_lock_id`. -/
def PaymentConfig.generateLockId (config : PaymentConfig)
    (userId amount currency timestamp : String) : String :=
  config.sha256 (userId ++ ":" ++ amount ++ ":" ++ currency ++ ":" ++ timestamp)

/-- The lock id of a call whose clock shows `now`.  The client's key is not in it. -/
def PaymentConfig.lockId (config : PaymentConfig) (call : PaymentCall) (now : Instant) :
    String :=
  config.generateLockId (digitsText call.userId) call.payment.amount.text
    (upper call.payment.currency) (isoDate now)

/-- The checks of `process_payment` before the lock. -/
def checkPayment (payment : PaymentRequest) : Except PaymentException Unit :=
  if upper payment.currency ∉ supportedCurrencies then
    .error (.currencyNotSupported ("Currency " ++ upper payment.currency ++ " not supported"))
  else if payment.amount.value ≤ 0 then .error (.payment "Amount must be greater than 0")
  else .ok ()

/-- A `Transaction` object no session knows: what the constructor was not given is
`None`. -/
structure TransientTransaction where
  id : Option ℕ := none
  idempotencyKey : String
  userId : ℕ
  psp : PSPType
  pspTransactionId : Option String := none
  amount : Numeral
  currency : String
  feeAmount : Option ℚ := none
  netAmount : Option ℚ := none
  status : PaymentStatus
  txnMetadata : Obj
  createdAt : Option Instant := none

/-- The object `process_payment` returns. -/
def newTransaction (call : PaymentCall) (lockId : String) (psp : PSPType) :
    TransientTransaction where
  idempotencyKey := lockId
  userId := call.userId
  psp := psp
  amount := call.payment.amount
  currency := upper call.payment.currency
  status := .pending
  txnMetadata := call.payment.metadata

/-- `str(transaction.id)`. -/
def idText : Option ℕ → String
  | none => "None"
  | some i => digitsText i

/-- The text of a status. -/
def PaymentStatus.value : PaymentStatus → String
  | .pending => "pending"
  | .processing => "processing"
  | .completed => "completed"
  | .failed => "failed"
  | .refunded => "refunded"
  | .held => "held"

/-- The types of event the payment route publishes. -/
inductive PaymentEventType
  | initiated
  | completed
  | failed
  deriving DecidableEq

/-- A payment event on the stream. -/
structure PaymentEvent where
  eventType : PaymentEventType
  transactionId : String
  amount : String
  currency : String
  psp : String
  userId : ℕ
  status : String
  deriving DecidableEq

/-- `payment.initiated`, as `process_payment` publishes it. -/
def initiatedEvent (transaction : TransientTransaction) : PaymentEvent where
  eventType := .initiated
  transactionId := idText transaction.id
  amount := transaction.amount.text
  currency := transaction.currency
  psp := transaction.psp.value
  userId := transaction.userId
  status := "pending"

/-- The event `create_payment` publishes of what was returned to it. -/
def outcomeEvent (transaction : TransientTransaction) : PaymentEvent where
  eventType := if transaction.status.value = "completed" then .completed else .failed
  transactionId := idText transaction.id
  amount := transaction.amount.text
  currency := transaction.currency
  psp := transaction.psp.value
  userId := transaction.userId
  status := transaction.status.value

/-! ## Redis

The locks by id, with their expiry by the server's clock; the stream is a list. -/

/-- A lock that is set. -/
structure PaymentLock where
  expiresAt : Instant
  holder : PaymentCall

/-- A payment `process_payment` has returned, and the clock it was named by. -/
structure AcceptedPayment where
  call : PaymentCall
  transaction : TransientTransaction
  at' : Instant

/-- A request that was refused as a duplicate, and the request that held the lock. -/
structure RefusedDuplicate where
  call : PaymentCall
  holder : PaymentCall

/-- Redis — its locks and the event stream, whose entries remember their request — and
what `process_payment` answered. -/
structure PaymentDesk where
  locks : String → Option PaymentLock
  events : List (PaymentCall × PaymentEvent)
  accepted : List AcceptedPayment
  refused : List RefusedDuplicate

/-- Nothing locked, nothing published, nothing answered. -/
def PaymentDesk.start : PaymentDesk where
  locks := fun _ => none
  events := []
  accepted := []
  refused := []

/-- The key of a lock. -/
def lockKey (lockId : String) : String := "payment_lock:" ++ lockId

/-- The request whose lock stands under an id, at a time of the Redis server. -/
def PaymentDesk.holder (desk : PaymentDesk) (lockId : String) (now : Instant) :
    Option PaymentCall :=
  match desk.locks (lockKey lockId) with
  | some lock => if now < lock.expiresAt then some lock.holder else none
  | none => none

/-- `SET … NX EX` of a lock that is free. It expires after five minutes, whether or not its holder
is done. -/
def PaymentDesk.lock (desk : PaymentDesk) (lockId : String) (call : PaymentCall)
    (now : Instant) : PaymentDesk :=
  { desk with
    locks := Function.update desk.locks (lockKey lockId) (some ⟨now + seconds 300, call⟩) }

/-- `DEL` of a lock, whoever holds it. -/
def PaymentDesk.unlock (desk : PaymentDesk) (lockId : String) : PaymentDesk :=
  { desk with locks := Function.update desk.locks (lockKey lockId) none }

/-- `XADD` of an event. -/
def PaymentDesk.publish (desk : PaymentDesk) (call : PaymentCall) (event : PaymentEvent) :
    PaymentDesk :=
  { desk with events := desk.events ++ [(call, event)] }

/-- `process_payment` returns. -/
def PaymentDesk.accept (desk : PaymentDesk) (payment : AcceptedPayment) : PaymentDesk :=
  { desk with accepted := desk.accepted ++ [payment] }

/-- `process_payment` raises its `ConflictError`. -/
def PaymentDesk.refuse (desk : PaymentDesk) (call holder : PaymentCall) : PaymentDesk :=
  { desk with refused := desk.refused ++ [⟨call, holder⟩] }

/-! ## The route, statement by statement -/

/-- What a request has read before its lock: the total its limit check summed up, for
statements about runs only; then the name of its lock and the clock in that name. -/
structure PaymentTicket where
  counted : ℚ
  lockId : String
  timestamp : Instant

/-- Where a payment request stands. -/
inductive PaymentPhase
  | requested
  | admitted (counted : ℚ)
  | locked (ticket : PaymentTicket)
  /-- In the `finally`: with the provider of the transaction to return, if one was made
  and announced. -/
  | releasing (ticket : PaymentTicket) (psp : Option PSPType)
  | returned (ticket : PaymentTicket) (psp : PSPType)

/-- The environment's part in one statement: the service's clock, the Redis server's
clock, whether the database fails and what becomes of the command to Redis. -/
structure PaymentTick where
  now : Instant
  redisNow : Instant
  fault : Bool
  reply : RedisReply

/-- Take the lock, or be refused it. -/
def PaymentCall.takeLock (call : PaymentCall) (desk : PaymentDesk) (tick : PaymentTick)
    (ticket : PaymentTicket) : PaymentDesk × Option PaymentPhase :=
  match desk.holder ticket.lockId tick.redisNow with
  | some holder =>
      match tick.reply with
      | .answered => (desk.refuse call holder, none)
      | .lost => (desk, none)
      | .refused => (desk, none)
  | none =>
      match tick.reply with
      | .answered => (desk.lock ticket.lockId call tick.redisNow, some (.locked ticket))
      -- the caller is not yet in its `try`: nobody releases this lock
      | .lost => (desk.lock ticket.lockId call tick.redisNow, none)
      | .refused => (desk, none)

/-- Build the transaction and announce it. -/
def PaymentCall.announce (config : PaymentConfig) (call : PaymentCall) (desk : PaymentDesk)
    (tick : PaymentTick) (ticket : PaymentTicket) : PaymentDesk × Option PaymentPhase :=
  match selectPsp config.credentials (upper call.payment.currency) call.payment.method
      call.payment.region with
  | .error _ => (desk, some (.releasing ticket none))
  | .ok psp =>
      let published := desk.publish call (initiatedEvent (newTransaction call ticket.lockId psp))
      match tick.reply with
      | .answered => (published, some (.releasing ticket (some psp)))
      | .lost => (published, some (.releasing ticket none))
      | .refused => (desk, some (.releasing ticket none))

/-- Release the lock; an exception of the release takes the place of what was to be
returned. -/
def PaymentCall.release (call : PaymentCall) (desk : PaymentDesk) (tick : PaymentTick)
    (ticket : PaymentTicket) (psp : Option PSPType) : PaymentDesk × Option PaymentPhase :=
  match tick.reply with
  | .refused => (desk, none)
  | .lost => (desk.unlock ticket.lockId, none)
  | .answered =>
      match psp with
      | none => (desk.unlock ticket.lockId, none)
      | some psp =>
          ((desk.unlock ticket.lockId).accept
              ⟨call, newTransaction call ticket.lockId psp, ticket.timestamp⟩,
            some (.returned ticket psp))

/-- The next statement of a payment request. It changes Redis and never the database. -/
def PaymentCall.step (config : PaymentConfig) (call : PaymentCall) (s : Store × PaymentDesk)
    (tick : PaymentTick) : PaymentPhase → PaymentDesk × Option PaymentPhase
  | .requested =>
      if tick.fault then (s.2, none)
      else
        match enforceKyc1MonthlyLimit config.settings call.userId call.payment.amount.value
            call.payment.currency tick.now s.1.db with
        | .error _ => (s.2, none)
        | .ok () => (s.2, some (.admitted (kyc1Total call.userId tick.now s.1.db)))
  | .admitted counted =>
      match checkPayment call.payment with
      | .error _ => (s.2, none)
      | .ok () => call.takeLock s.2 tick ⟨counted, config.lockId call tick.now, tick.now⟩
  | .locked ticket => call.announce config s.2 tick ticket
  | .releasing ticket psp => call.release s.2 tick ticket psp
  | .returned ticket psp =>
      -- after the event the answer reads `created_at.isoformat()` of an object without one
      match tick.reply with
      | .answered => (s.2.publish call (outcomeEvent (newTransaction call ticket.lockId psp)), none)
      | .lost => (s.2.publish call (outcomeEvent (newTransaction call ticket.lockId psp)), none)
      | .refused => (s.2, none)

/-- A payment request in flight. -/
structure PaymentSession where
  call : PaymentCall
  phase : PaymentPhase

/-- `create_payment`. -/
def createPayment (config : PaymentConfig) :
    Sessions (Store × PaymentDesk) PaymentCall PaymentSession PaymentTick where
  init call := ⟨call, .requested⟩
  advance s t tick :=
    let next := t.call.step config s tick t.phase
    some ((s.1, next.1), next.2.map (PaymentSession.mk t.call))

/-! ## What a statement can do -/

/-- Only the answered release of a request that has announced its payment accepts it. -/
theorem PaymentCall.step_accepted (config : PaymentConfig) (call : PaymentCall)
    (s : Store × PaymentDesk) (tick : PaymentTick) (phase : PaymentPhase) :
    (call.step config s tick phase).1.accepted = s.2.accepted ∨
      ∃ ticket psp, phase = .releasing ticket (some psp) ∧ tick.reply = .answered ∧
        (call.step config s tick phase).1.accepted =
          s.2.accepted ++ [⟨call, newTransaction call ticket.lockId psp, ticket.timestamp⟩] := by
  cases phase with
  | requested =>
      left
      simp only [PaymentCall.step]
      split
      · rfl
      · split <;> rfl
  | admitted counted =>
      left
      simp only [PaymentCall.step, PaymentCall.takeLock]
      split
      · rfl
      · split
        · split <;> rfl
        · split <;> rfl
  | locked ticket =>
      left
      simp only [PaymentCall.step, PaymentCall.announce]
      split
      · rfl
      · split <;> rfl
  -- a request is accepted where its lock is released, and the release was answered
  | releasing ticket psp =>
      cases hreply : tick.reply with
      | refused => exact Or.inl (by simp only [PaymentCall.step, PaymentCall.release, hreply])
      | lost =>
          left
          simp only [PaymentCall.step, PaymentCall.release, hreply]
          rfl
      | answered =>
          cases psp with
          | none =>
              left
              simp only [PaymentCall.step, PaymentCall.release, hreply]
              rfl
          | some psp =>
              right
              refine ⟨ticket, psp, rfl, rfl, ?_⟩
              simp only [PaymentCall.step, PaymentCall.release, hreply]
              rfl
  | returned ticket psp =>
      left
      simp only [PaymentCall.step]
      split <;> rfl

/-- The total the limit check of a request has read. -/
def PaymentPhase.counted : PaymentPhase → Option ℚ
  | .requested => none
  | .admitted counted => some counted
  | .locked ticket => some ticket.counted
  | .releasing ticket _ => some ticket.counted
  | .returned ticket _ => some ticket.counted

/-- A request is admitted by the limit check, and keeps what it has read. -/
theorem PaymentCall.step_counted {config : PaymentConfig} {call : PaymentCall}
    {s : Store × PaymentDesk} {tick : PaymentTick} {phase phase' : PaymentPhase}
    (h : (call.step config s tick phase).2 = some phase') :
    phase'.counted = phase.counted ∨
      (enforceKyc1MonthlyLimit config.settings call.userId call.payment.amount.value
          call.payment.currency tick.now s.1.db = .ok () ∧
        phase'.counted = some (kyc1Total call.userId tick.now s.1.db)) := by
  cases phase with
  -- the one statement that reads a total
  | requested =>
      simp only [PaymentCall.step] at h
      split at h
      · cases h
      · split at h
        · cases h
        · rename_i hok
          obtain rfl := Option.some.inj h
          exact Or.inr ⟨hok, rfl⟩
  | admitted counted =>
      left
      simp only [PaymentCall.step, PaymentCall.takeLock] at h
      split at h
      · cases h
      · split at h
        · split at h <;> cases h
        · split at h
          · obtain rfl := Option.some.inj h
            rfl
          · cases h
          · cases h
  | locked ticket =>
      left
      simp only [PaymentCall.step, PaymentCall.announce] at h
      split at h
      · obtain rfl := Option.some.inj h
        rfl
      · split at h <;> (obtain rfl := Option.some.inj h; rfl)
  | releasing ticket psp =>
      left
      simp only [PaymentCall.step, PaymentCall.release] at h
      split at h
      · cases h
      · cases h
      · split at h
        · cases h
        · obtain rfl := Option.some.inj h
          rfl
  | returned ticket psp =>
      simp only [PaymentCall.step] at h
      split at h <;> cases h

/-! ## Reading a payment back (`get_payment`)

How ids are spelled is a parameter, since two modules read them differently. -/

/-- What `get_payment` reports. -/
structure PaymentView where
  transactionId : String
  status : String
  amount : ℚ
  currency : String
  psp : String
  pspTransactionId : Option String
  createdAt : Instant
  deriving DecidableEq

/-- How the ids of rows are read and written. -/
structure IdTexts where
  read : String → Option ℕ
  write : ℕ → String

/-- Primary keys written in digits. -/
def digitIds : IdTexts where
  read text := readDigits text.toList
  write id := idText (some id)

/-- `get_transaction`, given the row of every id. -/
def getTransaction (ids : IdTexts) (find : ℕ → Option Transaction) (id : ℕ) :
    Except PaymentException Transaction :=
  match find id with
  | some t => .ok t
  | none => .error (.notFound ("Transaction " ++ ids.write id ++ " not found"))

/-- `get_payment`, given the row of every id. -/
def getPaymentRow (ids : IdTexts) (find : ℕ → Option Transaction) (transactionId : String)
    (userId : ℕ) : Except PaymentException PaymentView :=
  match ids.read transactionId with
  | none =>
      .error (.validation ("'" ++ transactionId ++ "' is not a valid transaction id"))
  | some id => do
      let t ← getTransaction ids find id
      if t.userId ≠ userId then
        .error (.notFound ("Transaction " ++ transactionId ++ " not found"))
      else
        .ok
          { transactionId := ids.write t.id
            status := t.status.value
            amount := t.amount
            currency := t.currency
            psp := t.psp.value
            pspTransactionId := t.pspTransactionId
            createdAt := t.createdAt }

/-- `get_payment` of a database. -/
def getPayment (transactionId : String) (userId : ℕ) (db : Db) :
    Except PaymentException PaymentView :=
  getPaymentRow digitIds db.transactions.get transactionId userId

end AfricaFrontier
