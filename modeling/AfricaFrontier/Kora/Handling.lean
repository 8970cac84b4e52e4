import AfricaFrontier.Kora.Books
import AfricaFrontier.Kora.Delivery

/-!
# A delivery handled on its own

`Delivery.handle` is `kora_webhook` on a database nobody else uses: store the
receipt, or stop when the event id is taken; process the event, and commit its
unit of work with the receipt marked processed, or mark the receipt failed.
`handle_run` says that this is what the session of the delivery does when it runs
alone and no statement fails.

On the business tables a handled event acts through its data and the kind its name
dispatches on, and through nothing else of its envelope: `eventEffect` is that
action, `handle_business` the theorem.

Why this is stated beside the sessions: several results are about one delivery after another,
where nothing comes in between. For these the two ways to end a handler are all there is, its unit
of work or nothing (`commit`), and the receipts can be left out of account, since no handler reads
them (`BusinessEq.effect`).
-/

namespace AfricaFrontier

open Python Relational Transition

/-! ## The effect of an event on the business tables -/

/-- What a handler leaves committed: its unit of work, or nothing, be it that the handler has
raised or that the tables refuse what it has staged. -/
def commit (handled : Except PyError UnitOfWork) (db : Db) : Db :=
  match handled with
  | .error _ => db
  | .ok u =>
      match u.flush db with
      | .ok db' => db'
      | .error _ => db

/-- The handler of a kind of events. -/
def handler (kind : EventKind) (data : Obj) (now : Instant) (db : Db) :
    Except PyError UnitOfWork :=
  match kind with
  | .refund => processKoraRefundWebhook data now db
  | .payout => processKoraPayment .payout data now db
  | .charge => processKoraPayment .charge data now db

/-- The effect of an event of a kind. -/
def eventEffect (kind : EventKind) (data : Obj) (now : Instant) (db : Db) : Db :=
  commit (handler kind data now db) db

/-- The dispatcher is the handler of the kind. -/
theorem handler_eq (body : Obj) (eventType : String) (now : Instant) (db : Db) :
    processKoraWebhookBusinessEvent body eventType now db =
      handler (eventKind eventType) (bodyData body) now db := by
  unfold processKoraWebhookBusinessEvent handler
  cases eventKind eventType with
  | refund => rfl
  | payout => rfl
  | charge => rfl

/-- A unit of work that can be stored. -/
theorem commit_of_ok {handled : Except PyError UnitOfWork} {db db' : Db} {u : UnitOfWork}
    (hhandled : handled = .ok u) (hflush : u.flush db = .ok db') : commit handled db = db' := by
  simp only [commit, hhandled, hflush]

/-- A handler that raises, or whose work cannot be stored. -/
theorem commit_of_raises {handled : Except PyError UnitOfWork} {db : Db}
    (h : Raises handled db) : commit handled db = db := by
  cases hhandled : handled with
  | error e => rfl
  | ok u =>
      simp only [commit]
      cases hflush : u.flush db with
      | error e => rfl
      | ok db' => exact absurd hflush (h u db' hhandled)

/-! ## Receipts stay out of the way -/

/-- Everything but the receipts is the same. -/
structure BusinessEq (db db' : Db) : Prop where
  transactions : db.transactions = db'.transactions
  refunds : db.refunds = db'.refunds
  ledger : db.ledger = db'.ledger
  tasks : db.tasks = db'.tasks
  accounts : db.accounts = db'.accounts

/-- A database has its own business tables. -/
theorem BusinessEq.refl (db : Db) : BusinessEq db db := ⟨rfl, rfl, rfl, rfl, rfl⟩

/-- In either order. -/
theorem BusinessEq.symm {db db' : Db} (h : BusinessEq db db') : BusinessEq db' db :=
  ⟨h.transactions.symm, h.refunds.symm, h.ledger.symm, h.tasks.symm, h.accounts.symm⟩

/-- One after another. -/
theorem BusinessEq.trans {db₁ db₂ db₃ : Db} (h : BusinessEq db₁ db₂) (h' : BusinessEq db₂ db₃) :
    BusinessEq db₁ db₃ :=
  ⟨h.transactions.trans h'.transactions, h.refunds.trans h'.refunds, h.ledger.trans h'.ledger,
    h.tasks.trans h'.tasks, h.accounts.trans h'.accounts⟩

/-- Databases with the same business tables differ in their receipts only. -/
theorem BusinessEq.eq_with_events {db db' : Db} (h : BusinessEq db db') :
    db' = { db with events := db'.events } := by
  obtain ⟨htransactions, hrefunds, hledger, htasks, haccounts⟩ := h
  cases db
  cases db'
  simp only at htransactions hrefunds hledger htasks haccounts
  subst htransactions hrefunds hledger htasks haccounts
  rfl

/-- No handler reads the receipts. -/
theorem handler_with_events (kind : EventKind) (data : Obj) (now : Instant) (db : Db)
    (events : Table KoraWebhookEvent) :
    handler kind data now { db with events := events } = handler kind data now db := by
  cases kind <;> rfl

/-- No unit of work writes the receipts. -/
theorem flush_with_events (u : UnitOfWork) (db : Db) (events : Table KoraWebhookEvent) :
    u.flush { db with events := events } =
      (u.flush db).map fun db' => { db' with events := events } := by
  simp only [UnitOfWork.flush, UnitOfWork.transactionsAfter, UnitOfWork.refundsAfter,
    UnitOfWork.ledgerAfter, UnitOfWork.tasksAfter, UnitOfWork.tasksUpdated]
  split
  · split
    · rfl
    · rfl
  · rfl

/-- Receipts do not change the effect of an event. -/
theorem effect_with_events (kind : EventKind) (data : Obj) (now : Instant) (db : Db)
    (events : Table KoraWebhookEvent) :
    BusinessEq (eventEffect kind data now db)
      (eventEffect kind data now { db with events := events }) := by
  have hhandler := handler_with_events kind data now db events
  have hflush := fun u => flush_with_events u db events
  unfold eventEffect
  rw [hhandler]
  cases handler kind data now db with
  | error e => exact ⟨rfl, rfl, rfl, rfl, rfl⟩
  | ok u =>
      simp only [commit, hflush]
      cases u.flush db with
      | error e => exact ⟨rfl, rfl, rfl, rfl, rfl⟩
      | ok db₁ => exact ⟨rfl, rfl, rfl, rfl, rfl⟩

/-- The effect of an event does not depend on the receipts. -/
theorem BusinessEq.effect {db db' : Db} (h : BusinessEq db db') (kind : EventKind) (data : Obj)
    (now : Instant) :
    BusinessEq (eventEffect kind data now db) (eventEffect kind data now db') := by
  rw [h.eq_with_events]
  exact effect_with_events kind data now db db'.events

/-! ## Handling a delivery

The receipt decides whether the event is handled at all; once it is stored, the end of the route
is `finish`. -/

/-- How the route ends once the handler has: it commits the unit of work and marks the
receipt processed, or rolls back and marks it failed. -/
def finish (receipt : ℕ) (now : Instant) (db : Db) : Except PyError UnitOfWork → Db
  | .error e =>
      { db with events := db.events.modify receipt (markFailed e) (markFailed_key e) }
  | .ok u =>
      match u.flush db with
      | .error e =>
          { db with events := db.events.modify receipt (markFailed e) (markFailed_key e) }
      | .ok db' =>
          { db' with
            events := db'.events.modify receipt (markProcessed now) (markProcessed_key now) }

/-- `kora_webhook` on a database nobody else uses. A delivery whose event id is stored changes
nothing. -/
def Delivery.handle (d : Delivery) (now : Instant) (db : Db) : Db :=
  match d.insertReceipt now db with
  | none => db
  | some events =>
      let received := { db with events := events }
      finish db.events.next now received
        (processKoraWebhookBusinessEvent d.body d.eventType now received)

/-- On the business tables, the end of the route is the commit of the handler. -/
theorem finish_business (receipt : ℕ) (now : Instant) (db : Db)
    (handled : Except PyError UnitOfWork) :
    BusinessEq (finish receipt now db handled) (commit handled db) := by
  cases handled with
  | error e => exact ⟨rfl, rfl, rfl, rfl, rfl⟩
  | ok u =>
      simp only [finish, commit]
      cases u.flush db with
      | error e => exact ⟨rfl, rfl, rfl, rfl, rfl⟩
      | ok db' => exact ⟨rfl, rfl, rfl, rfl, rfl⟩

/-- No receipt is filed under the delivery's event id. -/
def Delivery.Unseen (d : Delivery) (db : Db) : Prop := ∀ e ∈ db.events, e.eventId ≠ d.eventId

/-- An event id that is free can be filed. -/
theorem Delivery.insertReceipt_of_unseen {d : Delivery} {db : Db} (h : d.Unseen db)
    (now : Instant) : ∃ events, d.insertReceipt now db = some events := by
  cases hinsert : d.insertReceipt now db with
  | some events => exact ⟨events, rfl⟩
  | none =>
      obtain ⟨e, he, hclash⟩ := Table.exists_clash_of_insert hinsert
      exact absurd hclash (h e he)

/-- One that could be filed was free. -/
theorem Delivery.unseen_of_insertReceipt {d : Delivery} {db : Db} {now : Instant}
    {events : Table KoraWebhookEvent} (h : d.insertReceipt now db = some events) :
    d.Unseen db :=
  fun e he hid => Table.not_clash_of_insert h e he hid

/-- A delivery whose event id is taken changes nothing. -/
theorem Delivery.handle_of_seen {d : Delivery} {db : Db} (h : ¬ d.Unseen db) (now : Instant) :
    d.handle now db = db := by
  unfold Delivery.handle
  cases hinsert : d.insertReceipt now db with
  | none => rfl
  | some events => exact absurd (Delivery.unseen_of_insertReceipt hinsert) h

/-- **The envelope acts through its kind.**  On the business tables, a delivery seen for
the first time has the effect of its data under the kind of its event name. -/
theorem Delivery.handle_business {d : Delivery} {db : Db} (h : d.Unseen db) (now : Instant) :
    BusinessEq (d.handle now db) (eventEffect (eventKind d.eventType) d.data now db) := by
  obtain ⟨events, hinsert⟩ := Delivery.insertReceipt_of_unseen h now
  have hprocess := handler_eq d.body d.eventType now { db with events := events }
  rw [Delivery.bodyData_eq] at hprocess
  simp only [Delivery.handle, hinsert, hprocess]
  exact (finish_business _ _ _ _).trans
    (effect_with_events (eventKind d.eventType) d.data now db events).symm

/-! ## The receipts after a delivery -/

/-- The event ids taken. -/
def eventIds (db : Db) : List String := db.events.rows.map (·.eventId)

/-- Unseen means that the event id is not taken. -/
theorem Delivery.unseen_iff {d : Delivery} {db : Db} : d.Unseen db ↔ d.eventId ∉ eventIds db := by
  unfold Delivery.Unseen eventIds
  constructor
  · intro h hmem
    obtain ⟨e, he, hid⟩ := List.mem_map.mp hmem
    exact h e he hid
  · intro h e he hid
    exact h (List.mem_map.mpr ⟨e, he, hid⟩)

/-- Marking a receipt keeps the event ids. -/
theorem eventIds_modify (events : Table KoraWebhookEvent) (receipt : ℕ)
    (f : KoraWebhookEvent → KoraWebhookEvent) (hf : ∀ e, Row.key (f e) = Row.key e) :
    (events.modify receipt f hf).rows.map (·.eventId) = events.rows.map (·.eventId) := by
  have hids : (fun e : KoraWebhookEvent => e.eventId) = Prod.snd ∘ Row.key := rfl
  rw [hids, ← List.map_map, ← List.map_map, Table.map_key_modify]

/-- The end of the route files nothing. -/
theorem finish_eventIds (receipt : ℕ) (now : Instant) (db : Db)
    (handled : Except PyError UnitOfWork) :
    eventIds (finish receipt now db handled) = eventIds db := by
  have hfailed : ∀ e, eventIds { db with
      events := db.events.modify receipt (markFailed e) (markFailed_key e) } = eventIds db :=
    fun e => eventIds_modify db.events receipt (markFailed e) (markFailed_key e)
  cases handled with
  | error e => exact hfailed e
  | ok u =>
      cases hflush : u.flush db with
      | error e =>
          simp only [finish, hflush]
          exact hfailed e
      | ok db' =>
          have hevents : db'.events = db.events := (UnitOfWork.flush_ok hflush).2.2.2.1
          simp only [finish, hflush]
          refine (eventIds_modify db'.events receipt (markProcessed now)
            (markProcessed_key now)).trans ?_
          rw [hevents, eventIds]

/-- A delivery seen for the first time files its own event id and no other. -/
theorem Delivery.handle_eventIds {d : Delivery} {db : Db} (h : d.Unseen db) (now : Instant) :
    eventIds (d.handle now db) = eventIds db ++ [d.eventId] := by
  obtain ⟨events, hinsert⟩ := Delivery.insertReceipt_of_unseen h now
  simp only [Delivery.handle, hinsert]
  rw [finish_eventIds, eventIds, Table.insert_rows hinsert, List.map_append]
  rfl

/-- After a delivery, the other ones are unseen that were unseen and are filed elsewhere. -/
theorem Delivery.unseen_after {d d' : Delivery} {db : Db} (h : d.Unseen db) (now : Instant) :
    d'.Unseen (d.handle now db) ↔ d'.Unseen db ∧ d'.eventId ≠ d.eventId := by
  rw [Delivery.unseen_iff, Delivery.handle_eventIds h, List.mem_append, List.mem_singleton,
    Delivery.unseen_iff, not_or]

/-! ## The session of a delivery, alone

The induction is on the statements that are left of the handler. -/

section Alone

variable {d : Delivery} {now : Instant} {s s' : Store}

/-- One statement of a delivery that goes on. -/
theorem solo_next {s₁ : Store} {phase phase₁ : DeliveryPhase}
    (h : d.step s ⟨now, false⟩ phase = (s₁, some phase₁))
    (rest : koraWebhook.Solo ⟨now, false⟩ s₁ ⟨d, phase₁⟩ s') :
    koraWebhook.Solo ⟨now, false⟩ s ⟨d, phase⟩ s' := by
  refine .next ?_ rest
  simp only [koraWebhook, h, Option.map_some]

/-- An answer is the end of a session. -/
theorem solo_answering (answer : Answer) :
    koraWebhook.Solo ⟨now, false⟩ s ⟨d, .answering answer⟩
      { s with answers := s.answers ++ [(d, answer)] } :=
  .last rfl

/-- Where a delivery goes on once its handler has ended. -/
def afterBusiness (receipt : ℕ) : Except PyError UnitOfWork → DeliveryPhase
  | .ok u => .staged receipt u
  | .error e => .failing receipt e

/-- How many statements of the handler may still follow the next one. -/
def BusinessPhase.left : BusinessPhase → ℕ
  | .dispatching => 2
  | .refundFound _ => 1
  | .refundLoaded _ _ => 0
  | .paymentFound _ _ => 0

/-- Every statement leaves fewer. -/
theorem businessStep_left {content : Content} {db : Db} {phase next : BusinessPhase}
    (h : businessStep content now db phase = .ok (.inl next)) : next.left < phase.left := by
  rcases businessStep_inl h with
    ⟨rfl, -, refs, refund, -, -, rfl⟩ | ⟨rfl, -, t, -, rfl⟩ | ⟨refund, t, rfl, -, rfl⟩
  · show 1 < 2
    omega
  · show 0 < 2
    omega
  · show 0 < 1
    omega

/-- The handler runs through its statements to its unit of work, or to the exception it
raises. -/
theorem solo_processing {receipt : ℕ} {phase : BusinessPhase}
    (rest : koraWebhook.Solo ⟨now, false⟩ s
      ⟨d, afterBusiness receipt (businessRest d.content now s.db phase)⟩ s') :
    koraWebhook.Solo ⟨now, false⟩ s ⟨d, .processing receipt phase⟩ s' := by
  induction hleft : phase.left using Nat.strong_induction_on generalizing phase with
  | _ left ih =>
      have hrest := businessStep_rest d.content now s.db phase
      cases hstep : businessStep d.content now s.db phase with
      | error e =>
          rw [hstep] at hrest
          rw [← hrest] at rest
          refine solo_next ?_ rest
          simp only [Delivery.step, hstep, Bool.false_eq_true, if_false]
          rfl
      | ok outcome =>
          rw [hstep] at hrest
          rw [← hrest] at rest
          cases outcome with
          | inr work =>
              refine solo_next ?_ rest
              simp only [Delivery.step, hstep, Bool.false_eq_true, if_false]
              rfl
          | inl next =>
              have hless : next.left < left := hleft ▸ businessStep_left hstep
              refine solo_next ?_ (ih next.left hless rest rfl)
              simp only [Delivery.step, hstep, Bool.false_eq_true, if_false]

/-- From the end of its handler on, a delivery does what `finish` says. -/
theorem solo_afterBusiness (receipt : ℕ) (handled : Except PyError UnitOfWork) :
    ∃ s', koraWebhook.Solo ⟨now, false⟩ s ⟨d, afterBusiness receipt handled⟩ s' ∧
      s'.db = finish receipt now s.db handled := by
  have failing : ∀ e, ∃ s', koraWebhook.Solo ⟨now, false⟩ s ⟨d, .failing receipt e⟩ s' ∧
      s'.db = finish receipt now s.db (.error e) := fun e =>
    ⟨_, solo_next rfl (solo_answering .failed), rfl⟩
  cases handled with
  | error e => exact failing e
  | ok u =>
      cases hflush : u.flush s.db with
      | error e =>
          obtain ⟨s', hsolo, hdb⟩ := failing e
          refine ⟨s', solo_next ?_ hsolo, ?_⟩
          · simp only [afterBusiness, Delivery.step, hflush, Bool.false_eq_true, if_false]
          · simp only [hdb, finish, hflush]
      | ok db' =>
          have hstep : d.step s ⟨now, false⟩ (.staged receipt u) =
              (s.committed d receipt now u db', some (.answering .processed)) := by
            simp only [Delivery.step, hflush, Bool.false_eq_true, if_false]
          refine ⟨_, solo_next hstep (solo_answering .processed), ?_⟩
          simp only [finish, hflush, Store.committed]

/-- A delivery on its own ends with its handling. -/
theorem solo_handle (d : Delivery) (now : Instant) (s : Store) :
    ∃ s', koraWebhook.Solo ⟨now, false⟩ s ⟨d, .received⟩ s' ∧ s'.db = d.handle now s.db := by
  unfold Delivery.handle
  cases hinsert : d.insertReceipt now s.db with
  | none =>
      have hclash : d.step s ⟨now, false⟩ .received = (s, some .conflicting) := by
        simp only [Delivery.step, hinsert, Bool.false_eq_true, if_false]
      have hduplicate : d.step s ⟨now, false⟩ .conflicting =
          (s, some (.answering (duplicateAnswer d.eventId s.db))) := by
        simp only [Delivery.step, Bool.false_eq_true, if_false]
      exact ⟨_, solo_next hclash (solo_next hduplicate (solo_answering _)), rfl⟩
  | some events =>
      obtain ⟨s', hsolo, hdb⟩ :=
        @solo_afterBusiness d now { s with db := { s.db with events := events } }
          s.db.events.next
          (businessRest d.content now { s.db with events := events } .dispatching)
      refine ⟨s', solo_next ?_ (solo_processing hsolo), ?_⟩
      · simp only [Delivery.step, hinsert, Bool.false_eq_true, if_false]
      · rw [hdb, businessRest_dispatching]

end Alone

/-- **Handling is what the session does alone.**  In a pool in which nobody else moves and
no statement fails, the delivery ends and leaves `Delivery.handle` in the database. -/
theorem handle_run (d : Delivery) (now : Instant) (s : Store) (i : ℕ) :
    ∃ n p, Run koraWebhook.machine Unguarded (Pool.quiet s)
        (.begin i d :: List.replicate n (.advance i ⟨now, false⟩)) p ∧
      p.store.db = d.handle now s.db ∧ p.session i = none := by
  obtain ⟨s', hsolo, hdb⟩ := solo_handle d now s
  have hbegin : koraWebhook.machine.step (Pool.quiet s) (.begin i d) =
      some ((Pool.quiet s).assign s i (some ⟨d, .received⟩)) := rfl
  obtain ⟨n, p, run, hstore, hsession⟩ := hsolo.run
    (p := (Pool.quiet s).assign s i (some ⟨d, .received⟩)) rfl
    (Pool.assign_session_self _ _ _ _)
  refine ⟨n, p, Run.cons hbegin trivial run, ?_, hsession⟩
  rw [hstore, hdb]

end AfricaFrontier
