import AfricaFrontier.Kora.Store
import AfricaFrontier.Kora.Settlement
import AfricaFrontier.Lib.Pool

/-!
# Deliveries as sessions

`kora_webhook` after its checks, statement by statement: store the receipt, answer
a duplicate from the stored one, or run the business handler and commit its unit
of work together with the receipt's new state; on any exception roll back and mark
the receipt failed.  Between two statements any other session may commit, a
statement may fail, and the process may die.

`DeliveryStep` says what each statement can do, case by case.  It is the only view
later proofs take of a session.

The handler is cut at its queries. `businessStep` runs one statement and what follows it up to the
next, and `businessStep_rest` says that the pieces make up the function of `Webhook`: nothing is
lost or done twice where the cut is made.

The route then adds its own statements: the receipt before the handler, the commit after it, the
second transaction that marks a receipt failed, and the answer. A process that dies leaves the
session where it stands, with whatever it had committed.
-/

namespace AfricaFrontier

open Python Relational Transition

/-! ## The business handler, statement by statement -/

/-- Where the business handler stands between two statements. -/
inductive BusinessPhase
  | dispatching
  | refundFound (refund : KoraRefund)
  | refundLoaded (refund : KoraRefund) (transaction : Transaction)
  | paymentFound (kind : EventKind) (transaction : Transaction)

/-- The first statement of the payment branch. -/
def findPayment (kind : EventKind) (data : Obj) (db : Db) :
    Except PyError (BusinessPhase ⊕ UnitOfWork) :=
  if paymentReference data = "" then
    .error (.value "Kora webhook is missing a transaction reference")
  else do
    match ← selectTransaction (paymentReference data) db with
    | some transaction => pure (.inl (.paymentFound kind transaction))
    | none =>
        let work ← unmatchedPayment kind
        pure (.inr work)

/-- The next statement of the handler: it goes on, or its unit of work is ready. -/
def businessStep (content : Content) (now : Instant) (db : Db) :
    BusinessPhase → Except PyError (BusinessPhase ⊕ UnitOfWork)
  | .dispatching =>
      match eventKind content.eventType with
      | .refund => do
          let refs ← refundReferences content.data
          let refund ← selectRefund refs db
          pure (.inl (.refundFound refund))
      | .payout => findPayment .payout content.data db
      | .charge => findPayment .charge content.data db
  | .refundFound refund => do
      let transaction ← selectParent refund db
      pure (.inl (.refundLoaded refund transaction))
  | .refundLoaded refund transaction => do
      let existing ← callbackEntry content.data refund transaction db
      pure (.inr (refundCallback content.data now refund transaction existing))
  | .paymentFound kind transaction => do
      let work ← applyPayment kind content.data now transaction db
      pure (.inr work)

/-- What is left of the handler from a phase on, when nothing else runs. -/
def businessRest (content : Content) (now : Instant) (db : Db) :
    BusinessPhase → Except PyError UnitOfWork
  | .dispatching =>
      match eventKind content.eventType with
      | .refund => processKoraRefundWebhook content.data now db
      | .payout => processKoraPayment .payout content.data now db
      | .charge => processKoraPayment .charge content.data now db
  | .refundFound refund => do
      let transaction ← selectParent refund db
      let existing ← callbackEntry content.data refund transaction db
      pure (refundCallback content.data now refund transaction existing)
  | .refundLoaded refund transaction => do
      let existing ← callbackEntry content.data refund transaction db
      pure (refundCallback content.data now refund transaction existing)
  | .paymentFound kind transaction => applyPayment kind content.data now transaction db

/-- The payment branch, cut at its first statement. -/
theorem findPayment_rest (content : Content) (kind : EventKind) (now : Instant) (db : Db) :
    (findPayment kind content.data db >>= fun next =>
        next.elim (businessRest content now db) pure) =
      processKoraPayment kind content.data now db := by
  unfold findPayment processKoraPayment
  split
  · rfl
  · cases hselect : selectTransaction (paymentReference content.data) db with
    | error e => rfl
    | ok found =>
        cases found with
        | some transaction => rfl
        | none =>
            cases hunmatched : unmatchedPayment kind with
            | error e => simp [bind, Except.bind]
            | ok work => simp [bind, Except.bind, pure, Except.pure]

/-- **The statements make up the handler.**  One statement, followed by what is left
after it, is what was left before it. -/
theorem businessStep_rest (content : Content) (now : Instant) (db : Db)
    (phase : BusinessPhase) :
    (businessStep content now db phase >>= fun next =>
        next.elim (businessRest content now db) pure) =
      businessRest content now db phase := by
  cases phase with
  | dispatching =>
      simp only [businessStep, businessRest]
      cases eventKind content.eventType with
      -- the callback has two more queries to come, the others are one query and the rest
      | refund =>
          simp only [processKoraRefundWebhook]
          cases hrefs : refundReferences content.data with
          | error e => rfl
          | ok refs =>
              cases hrefund : selectRefund refs db with
              | error e => simp [bind, Except.bind, hrefund]
              | ok refund => simp [bind, Except.bind, pure, Except.pure, hrefund, businessRest]
      | payout => exact findPayment_rest content .payout now db
      | charge => exact findPayment_rest content .charge now db
  | refundFound refund =>
      simp only [businessStep, businessRest]
      cases selectParent refund db with
      | error e => rfl
      | ok transaction => rfl
  | refundLoaded refund transaction =>
      simp only [businessStep, businessRest]
      cases callbackEntry content.data refund transaction db with
      | error e => rfl
      | ok existing => rfl
  | paymentFound kind transaction =>
      simp only [businessStep, businessRest]
      cases applyPayment kind content.data now transaction db with
      | error e => rfl
      | ok work => rfl

/-- From its first statement on, it is `process_kora_webhook_business_event`. -/
theorem businessRest_dispatching (d : Delivery) (now : Instant) (db : Db) :
    businessRest d.content now db .dispatching =
      processKoraWebhookBusinessEvent d.body d.eventType now db := by
  cases hkind : eventKind d.eventType with
  | refund =>
      simp only [businessRest, processKoraWebhookBusinessEvent, Delivery.bodyData_eq,
        Delivery.content, hkind]
  | payout =>
      simp only [businessRest, processKoraWebhookBusinessEvent, Delivery.bodyData_eq,
        Delivery.content, hkind]
  | charge =>
      simp only [businessRest, processKoraWebhookBusinessEvent, Delivery.bodyData_eq,
        Delivery.content, hkind]

/-- The first payment statement goes on with the transaction it found. -/
theorem findPayment_inl {kind : EventKind} {data : Obj} {db : Db} {next : BusinessPhase}
    (h : findPayment kind data db = .ok (.inl next)) :
    ∃ t, selectTransaction (paymentReference data) db = .ok (some t) ∧
      next = .paymentFound kind t := by
  unfold findPayment at h
  split at h
  · cases h
  · obtain ⟨found, hselect, h⟩ := bind_eq_ok.mp h
    cases found with
    | some t =>
        cases h
        exact ⟨t, hselect, rfl⟩
    | none =>
        obtain ⟨work, -, h⟩ := bind_eq_ok.mp h
        cases h

/-- It is done at once only with an event that matches nothing and is no payout. -/
theorem findPayment_inr {kind : EventKind} {data : Obj} {db : Db} {work : UnitOfWork}
    (h : findPayment kind data db = .ok (.inr work)) :
    selectTransaction (paymentReference data) db = .ok none ∧ kind ≠ .payout ∧
      work = {} := by
  unfold findPayment at h
  split at h
  · cases h
  · obtain ⟨found, hselect, h⟩ := bind_eq_ok.mp h
    cases found with
    | some t => cases h
    | none =>
        obtain ⟨work', hunmatched, h⟩ := bind_eq_ok.mp h
        cases h
        unfold unmatchedPayment at hunmatched
        split at hunmatched
        · cases hunmatched
        · rename_i hkind
          cases hunmatched
          exact ⟨hselect, hkind, rfl⟩

section BusinessStep

variable {content : Content} {now : Instant} {db : Db} {phase : BusinessPhase}

/-- How the handler goes on. -/
theorem businessStep_inl {next : BusinessPhase}
    (h : businessStep content now db phase = .ok (.inl next)) :
    (phase = .dispatching ∧ eventKind content.eventType = .refund ∧
        ∃ refs refund, refundReferences content.data = .ok refs ∧
          selectRefund refs db = .ok refund ∧ next = .refundFound refund) ∨
      (phase = .dispatching ∧ eventKind content.eventType ≠ .refund ∧
        ∃ t, selectTransaction (paymentReference content.data) db = .ok (some t) ∧
          next = .paymentFound (eventKind content.eventType) t) ∨
      ∃ refund t, phase = .refundFound refund ∧ selectParent refund db = .ok t ∧
        next = .refundLoaded refund t := by
  cases phase with
  -- the first query tells the kinds apart
  | dispatching =>
      simp only [businessStep] at h
      cases hkind : eventKind content.eventType with
      | refund =>
          simp only [hkind] at h
          obtain ⟨refs, hrefs, h⟩ := bind_eq_ok.mp h
          obtain ⟨refund, hrefund, h⟩ := bind_eq_ok.mp h
          cases h
          exact Or.inl ⟨rfl, rfl, refs, refund, hrefs, hrefund, rfl⟩
      | payout =>
          simp only [hkind] at h
          exact Or.inr (Or.inl ⟨rfl, by decide, findPayment_inl h⟩)
      | charge =>
          simp only [hkind] at h
          exact Or.inr (Or.inl ⟨rfl, by decide, findPayment_inl h⟩)
  | refundFound refund =>
      obtain ⟨t, hparent, h⟩ := bind_eq_ok.mp h
      cases h
      exact Or.inr (Or.inr ⟨refund, t, rfl, hparent, rfl⟩)
  | refundLoaded refund t =>
      obtain ⟨existing, -, h⟩ := bind_eq_ok.mp h
      cases h
  | paymentFound kind t =>
      obtain ⟨work, -, h⟩ := bind_eq_ok.mp h
      cases h

/-- How the handler ends. -/
theorem businessStep_inr {work : UnitOfWork}
    (h : businessStep content now db phase = .ok (.inr work)) :
    (phase = .dispatching ∧ eventKind content.eventType = .charge ∧
        selectTransaction (paymentReference content.data) db = .ok none ∧ work = {}) ∨
      (∃ refund t existing, phase = .refundLoaded refund t ∧
        callbackEntry content.data refund t db = .ok existing ∧
        work = refundCallback content.data now refund t existing) ∨
      ∃ kind t, phase = .paymentFound kind t ∧
        applyPayment kind content.data now t db = .ok work := by
  cases phase with
  -- without a transaction a payment event is done after its first query
  | dispatching =>
      simp only [businessStep] at h
      cases hkind : eventKind content.eventType with
      | refund =>
          simp only [hkind] at h
          obtain ⟨refs, -, h⟩ := bind_eq_ok.mp h
          obtain ⟨refund, -, h⟩ := bind_eq_ok.mp h
          cases h
      | payout =>
          simp only [hkind] at h
          exact absurd rfl (findPayment_inr h).2.1
      | charge =>
          simp only [hkind] at h
          obtain ⟨hnone, -, hwork⟩ := findPayment_inr h
          exact Or.inl ⟨rfl, rfl, hnone, hwork⟩
  | refundFound refund =>
      obtain ⟨t, -, h⟩ := bind_eq_ok.mp h
      cases h
  | refundLoaded refund t =>
      obtain ⟨existing, hentry, h⟩ := bind_eq_ok.mp h
      cases h
      exact Or.inr (Or.inl ⟨refund, t, existing, rfl, hentry, rfl⟩)
  | paymentFound kind t =>
      obtain ⟨work', happly, h⟩ := bind_eq_ok.mp h
      cases h
      exact Or.inr (Or.inr ⟨kind, t, rfl, happly⟩)

end BusinessStep

/-! ## The route, statement by statement

The receipt is committed before the handler starts, so that a crash in between leaves it behind as
received. -/

/-- Where a delivery stands. -/
inductive DeliveryPhase
  | received
  | conflicting
  | processing (receipt : ℕ) (phase : BusinessPhase)
  | staged (receipt : ℕ) (work : UnitOfWork)
  | failing (receipt : ℕ) (error : PyError)
  | answering (answer : Answer)

/-- The environment's part in one statement: the clock, and whether the database
fails. -/
structure Tick where
  now : Instant
  fault : Bool

/-- The receipt of a delivery. -/
def Delivery.receipt (d : Delivery) (now : Instant) (id : ℕ) : KoraWebhookEvent where
  id := id
  eventId := d.eventId
  eventType := d.eventType
  payloadHash := d.payloadHash
  status := .received
  payload := d.body
  receivedAt := now
  processedAt := none
  errorMessage := none

/-- Store the receipt; `none` when the event id is taken. -/
def Delivery.insertReceipt (d : Delivery) (now : Instant) (db : Db) :
    Option (Table KoraWebhookEvent) :=
  db.events.insert (d.receipt now) (fun _ => rfl)

/-- The receipt of an event that was processed. -/
def markProcessed (now : Instant) (receipt : KoraWebhookEvent) : KoraWebhookEvent :=
  { receipt with status := .processed, processedAt := some now }

/-- The receipt of an event whose processing raised. -/
def markFailed (error : PyError) (receipt : KoraWebhookEvent) : KoraWebhookEvent :=
  { receipt with status := .failed, errorMessage := some (slice 255 error.text) }

/-- A receipt that is marked as processed keeps its event id. -/
theorem markProcessed_key (now : Instant) (receipt : KoraWebhookEvent) :
    Row.key (markProcessed now receipt) = Row.key receipt := rfl

/-- A receipt that is marked as failed keeps its event id. -/
theorem markFailed_key (error : PyError) (receipt : KoraWebhookEvent) :
    Row.key (markFailed error receipt) = Row.key receipt := rfl

/-- The answer to a delivery whose event id is taken. -/
def duplicateAnswer (eventId : String) (db : Db) : Answer :=
  match scalarOneOrNone (db.events.rows.filter fun e => decide (e.eventId = eventId)) with
  | .ok (some existing) => .already existing.status
  | .ok none => .unavailable
  | .error _ => .failed

/-- The store after the commit of a unit of work and its receipt: the rows, the mark on the
receipt, and a note of what was committed for which content. -/
def Store.committed (s : Store) (d : Delivery) (receipt : ℕ) (now : Instant)
    (work : UnitOfWork) (db : Db) : Store :=
  { s with
    db := { db with events := db.events.modify receipt (markProcessed now) (markProcessed_key now) }
    history := s.history ++ [⟨d.content, work⟩] }

/-- The next statement of a delivery. The receipt is inserted in a commit of its own; then come
the statements of the handler, the commit, and for a failure the commit that marks the receipt. -/
def Delivery.step (d : Delivery) (s : Store) (tick : Tick) :
    DeliveryPhase → Store × Option DeliveryPhase
  | .received =>
      if tick.fault then (s, some (.answering .failed))
      else
        -- the unique column on `event_id` tells a new event from a repeated one
        match d.insertReceipt tick.now s.db with
        | some events =>
            ({ s with db := { s.db with events := events } },
              some (.processing s.db.events.next .dispatching))
        | none => (s, some .conflicting)
  | .conflicting =>
      (s, some (.answering
        (if tick.fault then .failed else duplicateAnswer d.eventId s.db)))
  | .processing receipt phase =>
      if tick.fault then (s, some (.failing receipt .operational))
      else
        match businessStep d.content tick.now s.db phase with
        | .ok (.inl next) => (s, some (.processing receipt next))
        | .ok (.inr work) => (s, some (.staged receipt work))
        | .error e => (s, some (.failing receipt e))
  | .staged receipt work =>
      if tick.fault then (s, some (.failing receipt .operational))
      else
        -- the business rows and the receipt are written by one commit
        match work.flush s.db with
        | .ok db => (s.committed d receipt tick.now work db, some (.answering .processed))
        | .error e => (s, some (.failing receipt e))
  -- after the rollback the receipt is marked in a commit of its own
  | .failing receipt error =>
      if tick.fault then (s, some (.answering .failed))
      else
        ({ s with
          db :=
            { s.db with
              events := s.db.events.modify receipt (markFailed error) (markFailed_key error) } },
          some (.answering .failed))
  | .answering answer => ({ s with answers := s.answers ++ [(d, answer)] }, none)

/-- A delivery in flight. -/
structure DeliverySession where
  delivery : Delivery
  phase : DeliveryPhase

/-- `kora_webhook`, once the signature is verified. -/
def koraWebhook : Sessions Store Delivery DeliverySession Tick where
  init d := ⟨d, .received⟩
  advance s t tick :=
    let next := t.delivery.step s tick t.phase
    some (next.1, next.2.map (DeliverySession.mk t.delivery))

/-- The session is about to commit a ledger entry of a kind. -/
def DeliverySession.stages (q : VirtualLedgerEntry → Bool) (t : DeliverySession) : Bool :=
  match t.phase with
  | .staged _ work => work.newEntry.any q
  | _ => false

/-- What a session is about to commit is in its unit of work. -/
theorem DeliverySession.stages_staged (q : VirtualLedgerEntry → Bool) (d : Delivery)
    (receipt : ℕ) (work : UnitOfWork) :
    DeliverySession.stages q ⟨d, .staged receipt work⟩ = work.newEntry.any q := rfl

/-! ## What a statement can do -/

/-- The statements of a delivery, case by case. -/
inductive DeliveryStep (d : Delivery) (s : Store) :
    DeliveryPhase → Store → Option DeliveryPhase → Prop
  | recorded {now : Instant} {events : Table KoraWebhookEvent}
      (hinsert : d.insertReceipt now s.db = some events) :
      DeliveryStep d s .received { s with db := { s.db with events := events } }
        (some (.processing s.db.events.next .dispatching))
  | clashed : DeliveryStep d s .received s (some .conflicting)
  | duplicate : DeliveryStep d s .conflicting s
      (some (.answering (duplicateAnswer d.eventId s.db)))
  | advanced {receipt : ℕ} {phase next : BusinessPhase} {now : Instant}
      (hstep : businessStep d.content now s.db phase = .ok (.inl next)) :
      DeliveryStep d s (.processing receipt phase) s (some (.processing receipt next))
  | computed {receipt : ℕ} {phase : BusinessPhase} {work : UnitOfWork} {now : Instant}
      (hstep : businessStep d.content now s.db phase = .ok (.inr work)) :
      DeliveryStep d s (.processing receipt phase) s (some (.staged receipt work))
  | raised {receipt : ℕ} {phase : BusinessPhase} {error : PyError} :
      DeliveryStep d s (.processing receipt phase) s (some (.failing receipt error))
  | committed {receipt : ℕ} {work : UnitOfWork} {now : Instant} {db : Db}
      (hflush : work.flush s.db = .ok db) :
      DeliveryStep d s (.staged receipt work) (s.committed d receipt now work db)
        (some (.answering .processed))
  | rejected {receipt : ℕ} {work : UnitOfWork} {error : PyError} :
      DeliveryStep d s (.staged receipt work) s (some (.failing receipt error))
  | marked {receipt : ℕ} {error : PyError} :
      DeliveryStep d s (.failing receipt error)
        { s with
          db :=
            { s.db with
              events := s.db.events.modify receipt (markFailed error) (markFailed_key error) } }
        (some (.answering .failed))
  | refused {phase : DeliveryPhase} : DeliveryStep d s phase s (some (.answering .failed))
  | answered {answer : Answer} :
      DeliveryStep d s (.answering answer) { s with answers := s.answers ++ [(d, answer)] } none

/-- Every statement is one of them. -/
theorem Delivery.step_spec (d : Delivery) (s : Store) (tick : Tick) (phase : DeliveryPhase) :
    DeliveryStep d s phase (d.step s tick phase).1 (d.step s tick phase).2 := by
  cases phase with
  | received =>
      cases hfault : tick.fault with
      | true =>
          simp only [Delivery.step, hfault, if_true]
          exact .refused
      | false =>
          cases hinsert : d.insertReceipt tick.now s.db with
          | none =>
              simp only [Delivery.step, hfault, hinsert]
              exact .clashed
          | some events =>
              simp only [Delivery.step, hfault, hinsert]
              exact .recorded hinsert
  | conflicting =>
      cases hfault : tick.fault with
      | true =>
          simp only [Delivery.step, hfault, if_true]
          exact .refused
      | false =>
          simp only [Delivery.step, hfault]
          exact .duplicate
  | processing receipt phase =>
      cases hfault : tick.fault with
      | true =>
          simp only [Delivery.step, hfault, if_true]
          exact .raised
      | false =>
          cases hstep : businessStep d.content tick.now s.db phase with
          | error e =>
              simp only [Delivery.step, hfault, hstep]
              exact .raised
          | ok outcome =>
              cases outcome with
              | inl next =>
                  simp only [Delivery.step, hfault, hstep]
                  exact .advanced hstep
              | inr work =>
                  simp only [Delivery.step, hfault, hstep]
                  exact .computed hstep
  -- a commit that fails is an exception of the handler, like one of its statements
  | staged receipt work =>
      cases hfault : tick.fault with
      | true =>
          simp only [Delivery.step, hfault, if_true]
          exact .rejected
      | false =>
          cases hflush : work.flush s.db with
          | error e =>
              simp only [Delivery.step, hfault, hflush]
              exact .rejected
          | ok db =>
              simp only [Delivery.step, hfault, hflush]
              exact .committed hflush
  | failing receipt error =>
      cases hfault : tick.fault with
      | true =>
          simp only [Delivery.step, hfault, if_true]
          exact .refused
      | false =>
          simp only [Delivery.step, hfault]
          exact .marked
  | answering answer => exact .answered

/-- Every step of a delivery session is one of them. -/
theorem koraWebhook_advance {s s' : Store} {t : DeliverySession} {tick : Tick}
    {o : Option DeliverySession} (h : koraWebhook.advance s t tick = some (s', o)) :
    ∃ next, DeliveryStep t.delivery s t.phase s' next ∧
      o = next.map (DeliverySession.mk t.delivery) := by
  obtain ⟨rfl, rfl⟩ := Prod.mk.inj (Option.some.inj h)
  exact ⟨_, t.delivery.step_spec s tick t.phase, rfl⟩

/-- Only the commit of a unit of work changes the business tables. -/
theorem DeliveryStep.business {d : Delivery} {s s' : Store} {phase : DeliveryPhase}
    {next : Option DeliveryPhase} (h : DeliveryStep d s phase s' next) :
    (s'.db.transactions = s.db.transactions ∧ s'.db.refunds = s.db.refunds ∧
        s'.db.ledger = s.db.ledger ∧ s'.db.tasks = s.db.tasks) ∨
      ∃ receipt work db, phase = .staged receipt work ∧ work.flush s.db = .ok db ∧
        s'.db.transactions = db.transactions ∧ s'.db.refunds = db.refunds ∧
        s'.db.ledger = db.ledger ∧ s'.db.tasks = db.tasks := by
  cases h with
  | committed hflush => exact Or.inr ⟨_, _, _, rfl, hflush, rfl, rfl, rfl, rfl⟩
  | recorded hinsert => exact Or.inl ⟨rfl, rfl, rfl, rfl⟩
  | clashed => exact Or.inl ⟨rfl, rfl, rfl, rfl⟩
  | duplicate => exact Or.inl ⟨rfl, rfl, rfl, rfl⟩
  | advanced hstep => exact Or.inl ⟨rfl, rfl, rfl, rfl⟩
  | computed hstep => exact Or.inl ⟨rfl, rfl, rfl, rfl⟩
  | raised => exact Or.inl ⟨rfl, rfl, rfl, rfl⟩
  | rejected => exact Or.inl ⟨rfl, rfl, rfl, rfl⟩
  | marked => exact Or.inl ⟨rfl, rfl, rfl, rfl⟩
  | refused => exact Or.inl ⟨rfl, rfl, rfl, rfl⟩
  | answered => exact Or.inl ⟨rfl, rfl, rfl, rfl⟩

end AfricaFrontier
