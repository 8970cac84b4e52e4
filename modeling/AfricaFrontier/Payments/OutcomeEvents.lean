import AfricaFrontier.Kora.Acknowledgement
import AfricaFrontier.Kora.Transfers
import AfricaFrontier.Payments.AcceptedOnce

/-!
# The outcome events

`create_payment` announces the outcome of a payment on the event stream, and the worker on
the other side takes `payment.completed` for a payment that is ready for settlement and
`payment.failed` for one that failed.  Those who do complete or fail a payment, the webhook
and the reconciliation worker, announce nothing.  And the payment the route would announce
is the object `process_payment` returned, which is pending and stands for no row; as the
service is shipped no request gets there, since it ends at its lock, and the model grants
the lock.

`outcome_events_iff` says that the stream agrees with the database only while neither
happens.  What the argument rests on is that no event ever names a stored transaction
(`Anonymous`): a payment is announced under the id `None`, so an outcome in the database is
announced by nobody, now or later.

A step of the pool publishes, or writes a status, or does neither. For each of the two kinds of
sessions there is an exact statement: a payment request agrees with the database when it publishes
no outcome (`payment_agrees`), since what it would publish is never true
(`outcomeEvent_not_truthful`); a webhook or a worker agrees when it completes and fails nothing
(`work_agrees`), since nobody would announce it.
-/

namespace AfricaFrontier

open Python Relational Transition

/-! ## The sessions -/

/-- A payment request, a delivery, or a worker. -/
abbrev OutcomeCall := PaymentCall ⊕ (Delivery ⊕ String)

/-- One of these in flight. -/
abbrev OutcomeSession := PaymentSession ⊕ (DeliverySession ⊕ WorkerSession)

/-- The environment's part in one of its statements. -/
abbrev OutcomeTick := PaymentTick ⊕ (Tick ⊕ WorkerTick)

/-- Payment requests, webhook deliveries and workers over the database and Redis. Only the first
of them publish, and only the others write transactions. -/
def outcomes (config : PaymentConfig) :
    Sessions (Store × PaymentDesk) OutcomeCall OutcomeSession OutcomeTick :=
  (createPayment config).sum
    ((koraWebhook.sum reconciliationWorker).lift Prod.fst fun w _ s => (s, w.2))

/-! ## Agreement

What is published has to be true, and what becomes true has to be announced, now or later in the
run. -/

/-- What `handle_event` takes an event for: a payment that is ready for settlement, one
that failed, or neither. -/
def PaymentEventType.outcome : PaymentEventType → Option PaymentStatus
  | .initiated => none
  | .completed => some .completed
  | .failed => some .failed

/-- The outcome an event announces is the status of its payment, in the payload and in the
database. -/
def Truthful (db : Db) (event : PaymentEvent) : Prop :=
  ∀ status, event.eventType.outcome = some status →
    event.status = status.value ∧
      ∃ id t, event.transactionId = idText (some id) ∧ db.transactions.get id = some t ∧
        t.status = status

/-- The outcome of a transaction is announced. -/
def Announces (desk : PaymentDesk) (id : ℕ) (status : PaymentStatus) : Prop :=
  ∃ entry ∈ desk.events, entry.2.eventType.outcome = some status ∧
    entry.2.transactionId = idText (some id)

/-- The outcome of a transaction is announced by now, or may be some time. -/
def WillAnnounce (config : PaymentConfig) (p : Pool (Store × PaymentDesk) OutcomeSession)
    (id : ℕ) (status : PaymentStatus) : Prop :=
  ∃ acts p', Run (outcomes config).machine Unguarded p acts p' ∧ Announces p'.store.2 id status

/-- The status of a stored transaction becomes `status`. -/
def Becomes (db db' : Db) (id : ℕ) (status : PaymentStatus) : Prop :=
  (∃ t', db'.transactions.get id = some t' ∧ t'.status = status) ∧
    ∀ t, db.transactions.get id = some t → t.status ≠ status

/-- A step in which the events agree with the database: what it publishes is true, and
what it completes or fails is announced sooner or later. -/
def EventsAgree (config : PaymentConfig) (p : Pool (Store × PaymentDesk) OutcomeSession)
    (a : PoolAct OutcomeCall OutcomeTick) : Prop :=
  ∀ p', (outcomes config).machine.step p a = some p' →
    (∀ new, p'.store.2.events = p.store.2.events ++ new →
      ∀ entry ∈ new, Truthful p.store.1.db entry.2) ∧
    ∀ id status, status = .completed ∨ status = .failed →
      Becomes p.store.1.db p'.store.1.db id status → WillAnnounce config p' id status

/-! ## The condition -/

/-- Writing the staged transaction completes or fails no payment. -/
def leavesOutcomes (work : UnitOfWork) (db : Db) : Bool :=
  work.transaction.all fun d =>
    (db.transactions.get d.loaded.id).all fun stored =>
      let status := written d.loaded.status d.current.status stored.status
      status = stored.status || (status ≠ .completed && status ≠ .failed)

/-- The condition on a statement: a payment request publishes no outcome, and a commit
that is carried out completes or fails no payment. -/
def noOutcome (w : Store × PaymentDesk) (t : OutcomeSession) (x : OutcomeTick) : Prop :=
  match t, x with
  | .inl ⟨_, .returned _ _⟩, .inl tick => tick.reply = .refused
  | .inr t, .inr x =>
      ∀ work db, stagedWork (.inr t) = some work → faulted (.inr x) = false →
        work.flush w.1.db = .ok db → leavesOutcomes work w.1.db = true
  | _, _ => True

/-! ## What the statements do

The two kinds of sessions have nothing in common but the database. -/

section Commits

variable {s s' : Store}

/-- A statement of a webhook or a worker leaves the payment rows alone and has nothing it
could commit, or commits what it has staged. -/
inductive OutcomeWrite (s : Store) (t : DeliverySession ⊕ WorkerSession) (x : Tick ⊕ WorkerTick)
    (s' : Store) : Prop
  | untouched (htransactions : s'.db.transactions = s.db.transactions)
      (hnothing : ∀ work db, stagedWork (.inr t) = some work → faulted (.inr x) = false →
        work.flush s.db ≠ .ok db)
  | committed {work : UnitOfWork} {db : Db} (hwork : stagedWork (.inr t) = some work)
      (hfault : faulted (.inr x) = false) (hflush : work.flush s.db = .ok db)
      (htransactions : s'.db.transactions = db.transactions)

/-- A commit, as far as it goes. -/
theorem OutcomeWrite.of_flush {t : DeliverySession ⊕ WorkerSession} {x : Tick ⊕ WorkerTick}
    (work : UnitOfWork) (hwork : stagedWork (.inr t) = some work)
    (hfaulted : faulted (.inr x) = true → s' = s)
    (hrefused : ∀ e, faulted (.inr x) = false → work.flush s.db = .error e → s' = s)
    (hcommitted : ∀ db, faulted (.inr x) = false → work.flush s.db = .ok db →
      s'.db.transactions = db.transactions) : OutcomeWrite s t x s' := by
  cases hfault : faulted (.inr x) with
  | true =>
      obtain rfl := hfaulted hfault
      refine .untouched rfl fun work' db _ hopen => ?_
      rw [hfault] at hopen
      cases hopen
  | false =>
      cases hflush : work.flush s.db with
      | ok db => exact .committed hwork hfault hflush (hcommitted db hfault hflush)
      | error e =>
          obtain rfl := hrefused e hfault hflush
          refine .untouched rfl fun work' db hwork' _ hok => ?_
          obtain rfl := Option.some.inj (hwork.symm.trans hwork')
          rw [hflush] at hok
          cases hok

/-- A statement of a delivery is one of these writes. -/
theorem delivery_outcome (d : Delivery) (phase : DeliveryPhase) (tick : Tick) :
    OutcomeWrite s (.inl ⟨d, phase⟩) (.inl tick) (d.step s tick phase).1 := by
  have hbusiness := (d.step_spec s tick phase).business
  cases phase with
  | staged receipt work =>
      refine .of_flush work rfl ?_ ?_ ?_
      · intro hfault
        have hfault' : tick.fault = true := hfault
        simp [Delivery.step, hfault']
      · intro e hfault hflush
        have hfault' : tick.fault = false := hfault
        simp [Delivery.step, hfault', hflush]
      · intro db hfault hflush
        have hfault' : tick.fault = false := hfault
        simp [Delivery.step, hfault', hflush, Store.committed]
  | _ =>
      rcases hbusiness with ⟨htransactions, -⟩ | ⟨_, _, _, hphase, -⟩
      · refine .untouched htransactions fun work db hwork => ?_
        cases hwork
      · cases hphase

/-- A statement of a worker is one of these writes. -/
theorem worker_outcome (t : WorkerSession) (tick : WorkerTick) :
    OutcomeWrite s (.inr t) (.inr tick) (t.step s tick).1 := by
  obtain ⟨worker, phase⟩ := t
  cases phase with
  | writing v now task transaction =>
      refine .of_flush (writeBackStaged v now task transaction) rfl ?_ ?_ ?_
      · intro hfault
        have hfault' : tick.fault = true := hfault
        simp [WorkerSession.step, hfault']
      · intro e hfault hflush
        have hfault' : tick.fault = false := hfault
        simp [WorkerSession.step, hfault', hflush]
      · intro db hfault hflush
        have hfault' : tick.fault = false := hfault
        simp [WorkerSession.step, hfault', hflush]
  | claiming =>
      refine .untouched ?_ fun work db hwork => by cases hwork
      rcases WorkerSession.step_cases ⟨worker, .claiming⟩ s tick with
        hsame | ⟨-, task, -, hclaimed⟩ | ⟨_, _, _, _, _, hphase, -⟩
      · rw [hsame]
      · rw [hclaimed]
        rfl
      · cases hphase
  | _ =>
      refine .untouched ?_ fun work db hwork => by cases hwork
      rw [WorkerSession.step_waiting s tick (by simp) (by simp)]

/-- A commit turns a payment into a completed or failed one exactly when it does not leave
the outcomes alone. -/
theorem leavesOutcomes_iff {work : UnitOfWork} {db : Db} (hflush : work.flush s.db = .ok db)
    (htransactions : s'.db.transactions = db.transactions) :
    leavesOutcomes work s.db = true ↔
      ∀ id status, status = .completed ∨ status = .failed → ¬ Becomes s.db s'.db id status := by
  constructor
  · rintro hleaves id status houtcome ⟨⟨t', hget', rfl⟩, hbefore⟩
    rw [htransactions] at hget'
    obtain ⟨t, hget, ⟨rfl, -⟩ | ⟨d, hd, rfl, rfl⟩⟩ := UnitOfWork.flush_transactions_get hflush hget'
    · exact hbefore t' hget rfl
    · simp only [leavesOutcomes, hd, hget, Option.all_some, Bool.or_eq_true, Bool.and_eq_true,
        decide_eq_true_eq] at hleaves
      rcases hleaves with hsame | ⟨hcompleted, hfailed⟩
      · exact hbefore t hget hsame.symm
      · exact houtcome.elim hcompleted hfailed
  · intro hnone
    -- if the work turned a payment into an outcome, that payment would be one that became so
    unfold leavesOutcomes
    cases hd : work.transaction with
    | none => rfl
    | some d =>
        cases hget : s.db.transactions.get d.loaded.id with
        | none => simp [hget]
        | some stored =>
            simp only [Option.all_some, hget]
            by_contra hturned
            simp only [Bool.or_eq_true, Bool.and_eq_true, decide_eq_true_eq, not_or] at hturned
            obtain ⟨hchanged, hopen⟩ := hturned
            have houtcome : written d.loaded.status d.current.status stored.status = .completed ∨
                written d.loaded.status d.current.status stored.status = .failed := by
              by_contra hother
              exact hopen (by simpa [not_or] using hother)
            refine hnone d.loaded.id _ houtcome ⟨⟨Transaction.writeBack d stored, ?_, rfl⟩, ?_⟩
            · rw [htransactions, (UnitOfWork.flush_ok hflush).1, UnitOfWork.transactionsAfter, hd]
              exact Table.get_modify_self hget
            · intro t ht
              obtain rfl := Option.some.inj (hget.symm.trans ht)
              exact fun hsame => hchanged hsame.symm

end Commits

section Statements

variable {config : PaymentConfig}

/-- No event names a stored transaction. -/
def Anonymous (desk : PaymentDesk) : Prop :=
  ∀ entry ∈ desk.events, entry.2.transactionId = idText none

/-- A stored transaction has a name of digits. -/
theorem idText_none_ne (id : ℕ) : idText none ≠ idText (some id) := by
  intro h
  have htext : "None".toList = Nat.toDigits 10 id :=
    (congrArg String.toList h).trans (Nat.toList_repr (n := id))
  have hdigit : 'N'.isDigit = true := by
    refine Nat.isDigit_of_mem_toDigits (b := 10) (n := id) (by decide) (by decide) ?_
    rw [← htext]
    decide
  exact absurd hdigit (by decide)

/-- Nobody has announced the outcome of a stored transaction. -/
theorem Anonymous.not_announces {desk : PaymentDesk} (h : Anonymous desk) (id : ℕ)
    (status : PaymentStatus) : ¬ Announces desk id status := by
  rintro ⟨entry, hentry, -, hname⟩
  exact idText_none_ne id ((h entry hentry).symm.trans hname)

/-- A payment request publishes nothing, or announces its payment, or, at its end, the
outcome. -/
theorem PaymentCall.step_events (config : PaymentConfig) (call : PaymentCall)
    (s : Store × PaymentDesk) (tick : PaymentTick) (phase : PaymentPhase) :
    ((call.step config s tick phase).1.events = s.2.events ∧
        ∀ ticket psp, phase = .returned ticket psp → tick.reply = .refused) ∨
      (∃ event, event.eventType.outcome = none ∧ event.transactionId = idText none ∧
        (call.step config s tick phase).1.events = s.2.events ++ [(call, event)] ∧
        ∀ ticket psp, phase ≠ .returned ticket psp) ∨
      ∃ ticket psp, phase = .returned ticket psp ∧ tick.reply ≠ .refused ∧
        (call.step config s tick phase).1.events =
          s.2.events ++ [(call, outcomeEvent (newTransaction call ticket.lockId psp))] := by
  cases phase with
  | requested =>
      refine Or.inl ⟨?_, fun _ _ h => by cases h⟩
      simp only [PaymentCall.step]
      split
      · rfl
      · split <;> rfl
  | admitted counted =>
      refine Or.inl ⟨?_, fun _ _ h => by cases h⟩
      simp only [PaymentCall.step, PaymentCall.takeLock]
      split
      · rfl
      · split
        · split <;> rfl
        · split <;> rfl
  -- the announcement of the initiation, which the lost reply of Redis does not take back
  | locked ticket =>
      simp only [PaymentCall.step, PaymentCall.announce]
      cases hpsp : selectPsp config.credentials (upper call.payment.currency) call.payment.method
          call.payment.region with
      | error exception => exact Or.inl ⟨rfl, fun _ _ h => by cases h⟩
      | ok psp =>
          let event := initiatedEvent (newTransaction call ticket.lockId psp)
          cases hreply : tick.reply with
          | answered => exact Or.inr (Or.inl ⟨event, rfl, rfl, rfl, fun _ _ h => by cases h⟩)
          | lost => exact Or.inr (Or.inl ⟨event, rfl, rfl, rfl, fun _ _ h => by cases h⟩)
          | refused => exact Or.inl ⟨rfl, fun _ _ h => by cases h⟩
  | releasing ticket psp =>
      refine Or.inl ⟨?_, fun _ _ h => by cases h⟩
      simp only [PaymentCall.step, PaymentCall.release]
      split
      · rfl
      · rfl
      · split <;> rfl
  -- the announcement of the outcome, after the lock was given back
  | returned ticket psp =>
      simp only [PaymentCall.step]
      cases hreply : tick.reply with
      | answered => exact Or.inr (Or.inr ⟨ticket, psp, rfl, by simp, rfl⟩)
      | lost => exact Or.inr (Or.inr ⟨ticket, psp, rfl, by simp, rfl⟩)
      | refused => exact Or.inl ⟨rfl, fun _ _ _ => rfl⟩

/-- The outcome `create_payment` announces is never the truth: its payment is pending, and
no row stands for it. -/
theorem outcomeEvent_not_truthful (db : Db) (call : PaymentCall) (lockId : String)
    (psp : PSPType) : ¬ Truthful db (outcomeEvent (newTransaction call lockId psp)) := by
  intro h
  obtain ⟨-, id, t, hname, -⟩ := h .failed rfl
  exact idText_none_ne id hname

/-- What a payment request publishes names no stored transaction. -/
theorem Anonymous.payment {config : PaymentConfig} {call : PaymentCall}
    {s : Store × PaymentDesk} {tick : PaymentTick} {phase : PaymentPhase}
    (h : Anonymous s.2) : Anonymous (call.step config s tick phase).1 := by
  intro entry hentry
  rcases call.step_events config s tick phase with
    ⟨hsame, -⟩ | ⟨event, -, hname, hadded, -⟩ | ⟨ticket, psp, -, -, hadded⟩
  · rw [hsame] at hentry
    exact h entry hentry
  · rw [hadded] at hentry
    rcases List.mem_append.mp hentry with hbefore | hnew
    · exact h entry hbefore
    · obtain rfl := List.mem_singleton.mp hnew
      exact hname
  · rw [hadded] at hentry
    rcases List.mem_append.mp hentry with hbefore | hnew
    · exact h entry hbefore
    · obtain rfl := List.mem_singleton.mp hnew
      rfl

/-- A step of a payment request leaves the database alone. -/
theorem outcomes_payment_advance {w w' : Store × PaymentDesk} {t : PaymentSession}
    {x : OutcomeTick} {o : Option OutcomeSession}
    (h : (outcomes config).advance w (.inl t) x = some (w', o)) :
    ∃ tick, x = .inl tick ∧ w' = (w.1, (t.call.step config w tick t.phase).1) := by
  obtain ⟨tick, w₁, o₁, rfl, hadv, hr⟩ := Sessions.sum_advance_inl h
  obtain ⟨rfl, -⟩ := Prod.mk.inj hr
  obtain ⟨rfl, -⟩ := Prod.mk.inj (Option.some.inj hadv)
  exact ⟨tick, rfl, rfl⟩

/-- A step of a delivery or a worker leaves the desk of the payment route alone. -/
theorem outcomes_work_advance {w w' : Store × PaymentDesk} {t : DeliverySession ⊕ WorkerSession}
    {x : OutcomeTick} {o : Option OutcomeSession}
    (h : (outcomes config).advance w (.inr t) x = some (w', o)) :
    ∃ y, x = .inr y ∧ w'.2 = w.2 ∧ OutcomeWrite w.1 t y w'.1 := by
  obtain ⟨y, w₁, o₁, rfl, hadv, hr⟩ := Sessions.sum_advance_inr h
  obtain ⟨rfl, -⟩ := Prod.mk.inj hr
  obtain ⟨s', hstep, rfl⟩ := Sessions.lift_advance hadv
  refine ⟨y, rfl, rfl, ?_⟩
  rcases t with t | t
  · obtain ⟨tick, s₁, o₁, rfl, hdelivery, hr⟩ := Sessions.sum_advance_inl hstep
    obtain ⟨rfl, -⟩ := Prod.mk.inj hr
    obtain ⟨rfl, -⟩ := Prod.mk.inj (Option.some.inj hdelivery)
    exact delivery_outcome t.delivery t.phase tick
  · obtain ⟨tick, s₁, o₁, rfl, hworker, hr⟩ := Sessions.sum_advance_inr hstep
    obtain ⟨rfl, -⟩ := Prod.mk.inj hr
    obtain ⟨rfl, -⟩ := Prod.mk.inj (Option.some.inj hworker)
    exact worker_outcome t tick

/-- No step of the pool names a stored transaction on the stream. -/
theorem Anonymous.step {p p' : Pool (Store × PaymentDesk) OutcomeSession}
    {a : PoolAct OutcomeCall OutcomeTick} (hstep : (outcomes config).machine.step p a = some p')
    (h : Anonymous p.store.2) : Anonymous p'.store.2 := by
  rcases Pool.step_cases hstep with ⟨-, hstore⟩ | ⟨i, x, t, w', o, rfl, -, hadv, rfl⟩
  · rw [hstore]
    exact h
  · rw [Pool.assign_store]
    rcases t with t | t
    · obtain ⟨tick, -, rfl⟩ := outcomes_payment_advance hadv
      exact h.payment
    · obtain ⟨y, -, hdesk, -⟩ := outcomes_work_advance hadv
      rw [hdesk]
      exact h

/-- In every state of a run no stored transaction is named on the stream. -/
theorem Anonymous.run {p p' : Pool (Store × PaymentDesk) OutcomeSession}
    {acts : List (PoolAct OutcomeCall OutcomeTick)}
    (run : Run (outcomes config).machine Unguarded p acts p') (h : Anonymous p.store.2) :
    Anonymous p'.store.2 := by
  induction run with
  | nil p => exact h
  | cons hstep _ _ ih => exact ih (h.step hstep)

/-- The outcome of a stored transaction is never announced where none is named. -/
theorem Anonymous.not_willAnnounce {p : Pool (Store × PaymentDesk) OutcomeSession}
    (h : Anonymous p.store.2) (id : ℕ) (status : PaymentStatus) :
    ¬ WillAnnounce config p id status := by
  rintro ⟨acts, p', run, hannounces⟩
  exact (h.run run).not_announces id status hannounces

/-- Nothing turns into what it already is. -/
theorem Becomes.irrefl (db : Db) (id : ℕ) (status : PaymentStatus) : ¬ Becomes db db id status := by
  rintro ⟨⟨t, hget, hstatus⟩, hbefore⟩
  exact hbefore t hget hstatus

/-- What the events and the database must do in a step that ends in `w'`. -/
def StepAgrees (config : PaymentConfig) (w : Store × PaymentDesk)
    (p' : Pool (Store × PaymentDesk) OutcomeSession) : Prop :=
  (∀ new, p'.store.2.events = w.2.events ++ new → ∀ entry ∈ new, Truthful w.1.db entry.2) ∧
    ∀ id status, status = .completed ∨ status = .failed →
      Becomes w.1.db p'.store.1.db id status → WillAnnounce config p' id status

/-- Whether a step agrees, in terms of what it leaves. -/
theorem eventsAgree_iff {p p' : Pool (Store × PaymentDesk) OutcomeSession}
    {a : PoolAct OutcomeCall OutcomeTick} (hstep : (outcomes config).machine.step p a = some p') :
    EventsAgree config p a ↔ StepAgrees config p.store p' := by
  constructor
  · intro h
    exact h p' hstep
  · intro h q hq
    obtain rfl := Option.some.inj (hstep.symm.trans hq)
    exact h

/-- A step that publishes nothing and keeps the payment rows agrees. -/
theorem stepAgrees_of_quiet {w : Store × PaymentDesk}
    {p' : Pool (Store × PaymentDesk) OutcomeSession} (hevents : p'.store.2.events = w.2.events)
    (htransactions : p'.store.1.db.transactions = w.1.db.transactions) :
    StepAgrees config w p' := by
  constructor
  · intro new hnew entry hentry
    rw [hevents, List.self_eq_append_right] at hnew
    rw [hnew] at hentry
    cases hentry
  · rintro id status - ⟨⟨t, hget, hstatus⟩, hbefore⟩
    rw [htransactions] at hget
    exact absurd hstatus (hbefore t hget)

/-- A statement of a payment request agrees exactly when it publishes no outcome. -/
theorem payment_agrees {t : PaymentSession} {w : Store × PaymentDesk} {tick : PaymentTick}
    {p' : Pool (Store × PaymentDesk) OutcomeSession}
    (hstore : p'.store = (w.1, (t.call.step config w tick t.phase).1)) :
    noOutcome w (.inl t) (.inl tick) ↔ StepAgrees config w p' := by
  obtain ⟨call, phase⟩ := t
  have hevents : p'.store.2.events = (call.step config w tick phase).1.events := by rw [hstore]
  have hdb : p'.store.1.db = w.1.db := by rw [hstore]
  have hguard : (∀ ticket psp, phase = .returned ticket psp → tick.reply = .refused) ↔
      noOutcome w (.inl ⟨call, phase⟩) (.inl tick) := by
    cases phase with
    | returned ticket psp => exact ⟨fun h => h ticket psp rfl, fun h _ _ _ => h⟩
    | _ => exact iff_of_true (fun _ _ h => by cases h) trivial
  -- no step of the payment route touches a stored transaction
  have hbecomes : ∀ id status, ¬ Becomes w.1.db p'.store.1.db id status := by
    intro id status
    rw [hdb]
    exact Becomes.irrefl _ id status
  rw [← hguard]
  rcases call.step_events config w tick phase with
    ⟨hsame, hno⟩ | ⟨event, hevent, -, hadded, hno⟩ | ⟨ticket, psp, hphase, hreply, hadded⟩
  · exact iff_of_true hno (stepAgrees_of_quiet (hevents.trans hsame) (by rw [hdb]))
  · refine iff_of_true (fun ticket psp h => absurd h (hno ticket psp)) ⟨?_, ?_⟩
    · intro new hnew entry hentry status hstatus
      rw [hevents, hadded] at hnew
      obtain rfl := List.append_cancel_left hnew
      obtain rfl := List.mem_singleton.mp hentry
      rw [hevent] at hstatus
      cases hstatus
    · intro id status _ hturned
      exact absurd hturned (hbecomes id status)
  -- the outcome is announced of a transaction that is in no table
  · refine iff_of_false (fun h => hreply (h ticket psp hphase)) ?_
    rintro ⟨htruthful, -⟩
    exact outcomeEvent_not_truthful _ _ _ _
      (htruthful _ (hevents.trans hadded) _ (List.mem_singleton.mpr rfl))

/-- A statement of a webhook or a worker agrees exactly when it completes or fails no
payment, since nobody would announce it. -/
theorem work_agrees {t : DeliverySession ⊕ WorkerSession} {w : Store × PaymentDesk}
    {y : Tick ⊕ WorkerTick} {p' : Pool (Store × PaymentDesk) OutcomeSession}
    (hdesk : p'.store.2 = w.2) (hwrite : OutcomeWrite w.1 t y p'.store.1)
    (h : Anonymous w.2) :
    noOutcome w (.inr t) (.inr y) ↔ StepAgrees config w p' := by
  cases hwrite with
  | untouched htransactions hnothing =>
      refine iff_of_true ?_ (stepAgrees_of_quiet (by rw [hdesk]) htransactions)
      intro work db hwork hopen hflush
      exact absurd hflush (hnothing work db hwork hopen)
  | @committed work db hwork hfault hflush htransactions =>
      have hguard : noOutcome w (.inr t) (.inr y) ↔ leavesOutcomes work w.1.db = true := by
        constructor
        · intro hno
          exact hno work db hwork hfault hflush
        · intro hleaves work' db' hwork' _ _
          obtain rfl := Option.some.inj (hwork.symm.trans hwork')
          exact hleaves
      -- nothing that was published names a stored transaction, and this step publishes nothing
      have hanonymous : Anonymous p'.store.2 := by
        rw [hdesk]
        exact h
      rw [hguard, leavesOutcomes_iff hflush htransactions]
      constructor
      · intro hnone
        refine ⟨?_, fun id status houtcome hturned => absurd hturned (hnone id status houtcome)⟩
        intro new hnew entry hentry
        rw [hdesk, List.self_eq_append_right] at hnew
        rw [hnew] at hentry
        cases hentry
      · rintro ⟨-, hannounced⟩ id status houtcome hturned
        exact hanonymous.not_willAnnounce id status (hannounced id status houtcome hturned)

/-- A step of the pool agrees exactly when it meets the condition. -/
theorem noOutcome_iff_agrees {p p' : Pool (Store × PaymentDesk) OutcomeSession}
    {a : PoolAct OutcomeCall OutcomeTick} (hstep : (outcomes config).machine.step p a = some p')
    (h : Anonymous p.store.2) : p.StepMeets noOutcome a ↔ EventsAgree config p a := by
  rw [eventsAgree_iff hstep]
  rcases Pool.step_cases hstep with ⟨hidle, hstore⟩ | ⟨i, x, t, w', o, rfl, ht, hadv, rfl⟩
  · refine iff_of_true (fun i x t ha => absurd ha (hidle i x)) ?_
    exact stepAgrees_of_quiet (by rw [hstore]) (by rw [hstore])
  · rw [Pool.stepMeets_advance ht]
    rcases t with t | t
    · obtain ⟨tick, rfl, hw⟩ := outcomes_payment_advance hadv
      exact payment_agrees hw
    · obtain ⟨y, rfl, hdesk, hwrite⟩ := outcomes_work_advance hadv
      exact work_agrees hdesk hwrite h

/-- **The outcome events**, in any interleaving of payment requests, webhook deliveries and
reconciliation workers: the stream and the database agree at every step exactly when no
request publishes an outcome and no commit completes or fails a payment. -/
theorem outcome_events_iff {db : Db} {acts : List (PoolAct OutcomeCall OutcomeTick)}
    {p : Pool (Store × PaymentDesk) OutcomeSession}
    (run : Run (outcomes config).machine Unguarded
      (Pool.quiet (Store.start db, PaymentDesk.start)) acts p) :
    Run (outcomes config).machine (Pool.StepMeets noOutcome)
        (Pool.quiet (Store.start db, PaymentDesk.start)) acts p ↔
      ∀ front a back mid mid', acts = front ++ a :: back →
        Run (outcomes config).machine Unguarded
          (Pool.quiet (Store.start db, PaymentDesk.start)) front mid →
        (outcomes config).machine.step mid a = some mid' → EventsAgree config mid a :=
  run.guarded_iff_good (J := fun p => Anonymous p.store.2)
    (fun _ _ _ hstep h => Anonymous.step hstep h)
    (fun _ _ _ hstep h => noOutcome_iff_agrees hstep h) (fun _ h => by cases h)

end Statements

/-! ## A payment and its webhooks -/

/-- The service with one payment in progress, before its first request. -/
def payinOutcomes : Pool (Store × PaymentDesk) OutcomeSession :=
  Pool.quiet (Store.start (Db.holding processingPayin), PaymentDesk.start)

/-- The next statement of a delivery. -/
def deliveryStep (i : ℕ) : PoolAct OutcomeCall OutcomeTick :=
  .advance i (.inr (.inl ⟨0, false⟩))

/-- A test of the condition: no outcome is about to be published or committed. -/
def outcomeTest (w : Store × PaymentDesk) (t : OutcomeSession) (_ : OutcomeTick) : Bool :=
  match t with
  | .inl ⟨_, .returned _ _⟩ => false
  | .inl _ => true
  | .inr t => (stagedWork (.inr t)).all fun work => leavesOutcomes work w.1.db

/-- The test is of the condition. -/
theorem noOutcome_of_test (w : Store × PaymentDesk) (t : OutcomeSession) (x : OutcomeTick)
    (h : outcomeTest w t x = true) : noOutcome w t x := by
  cases t with
  | inl t =>
      obtain ⟨call, phase⟩ := t
      cases phase with
      | returned ticket psp => cases h
      | _ => cases x <;> trivial
  | inr t =>
      cases x with
      | inl x => trivial
      | inr x =>
          intro work db hwork _ _
          simpa only [outcomeTest, hwork, Option.all_some] using h

/-- A notice that the payment of `processingPayin` is still in progress. -/
def progressDelivery : Delivery where
  body :=
    [("id", .str "evt-0"), ("event", .str "charge.processing"),
      ("data", .obj [("reference", .str "KPY-1"), ("status", .str "processing")])]
  data := [("reference", .str "KPY-1"), ("status", .str "processing")]
  payloadHash := "hash-0"
  signed := by decide +kernel

/-- A notice of progress completes and fails nothing, and the stream agrees with it. -/
theorem outcome_events_iff_progress : ∃ p,
    Run (outcomes flutterwaveConfig).machine Unguarded payinOutcomes
        (.begin 0 (.inr (.inl progressDelivery)) :: List.replicate 5 (deliveryStep 0)) p ∧
      (p.store.1.history.map fun c => c.content) = [progressDelivery.content] ∧
      ∀ front a back mid mid',
        .begin 0 (.inr (.inl progressDelivery)) :: List.replicate 5 (deliveryStep 0) =
          front ++ a :: back →
        Run (outcomes flutterwaveConfig).machine Unguarded payinOutcomes front mid →
        (outcomes flutterwaveConfig).machine.step mid a = some mid' →
        EventsAgree flutterwaveConfig mid a := by
  have hrun : ((outcomes flutterwaveConfig).machine.check (Pool.stepTest outcomeTest)
      payinOutcomes
      (.begin 0 (.inr (.inl progressDelivery)) :: List.replicate 5 (deliveryStep 0))).map
        (fun p => p.store.1.history.map fun c => c.content) =
      some [progressDelivery.content] := by
    decide +kernel
  obtain ⟨p, hcheck, hhistory⟩ := Option.map_eq_some_iff.mp hrun
  have hmeets := Run.of_stepTest noOutcome_of_test hcheck
  exact ⟨p, hmeets.unguarded, hhistory, (outcome_events_iff hmeets.unguarded).mp hmeets⟩

/-- A webhook completes the payment, and nobody announces it. -/
theorem completed_unannounced : ∃ p p',
    Run (outcomes flutterwaveConfig).machine Unguarded payinOutcomes
        (.begin 0 (.inr (.inl chargeDelivery)) :: List.replicate 3 (deliveryStep 0)) p ∧
      (outcomes flutterwaveConfig).machine.step p (deliveryStep 0) = some p' ∧
      (p.store.1.db.transactions.rows.map fun t => t.status) = [.processing] ∧
      (p'.store.1.db.transactions.rows.map fun t => t.status) = [.completed] ∧
      (∀ acts q, Run (outcomes flutterwaveConfig).machine Unguarded p' acts q →
        ¬ Announces q.store.2 0 .completed) ∧
      ¬ EventsAgree flutterwaveConfig p (deliveryStep 0) := by
  have hrun : ((outcomes flutterwaveConfig).machine.check (fun _ _ => true) payinOutcomes
      (.begin 0 (.inr (.inl chargeDelivery)) :: List.replicate 3 (deliveryStep 0))).map
        (fun p => (p.store.1.db.transactions.rows.map fun t => t.status,
          (p.store.1.db.transactions.get 0).map fun t => t.status,
          ((outcomes flutterwaveConfig).machine.step p (deliveryStep 0)).map fun p' =>
            (p'.store.1.db.transactions.rows.map fun t => t.status,
              (p'.store.1.db.transactions.get 0).map fun t => t.status))) =
      some ([.processing], some .processing, some ([.completed], some .completed)) := by
    decide +kernel
  obtain ⟨p, hcheck, hseen⟩ := Option.map_eq_some_iff.mp hrun
  simp only [Prod.mk.injEq] at hseen
  obtain ⟨hprocessing, hbefore, hnext⟩ := hseen
  obtain ⟨p', hstep, hafter⟩ := Option.map_eq_some_iff.mp hnext
  simp only [Prod.mk.injEq] at hafter
  obtain ⟨hcompleted, hafter⟩ := hafter
  have run := (Run.of_check hcheck).unguarded
  -- no event names a stored transaction, now or later
  have hanonymous : Anonymous p'.store.2 :=
    (Anonymous.run run fun _ h => by cases h).step hstep
  refine ⟨p, p', run, hstep, hprocessing, hcompleted,
    fun acts q hlater => (hanonymous.run hlater).not_announces 0 .completed, fun hagree => ?_⟩
  have hturned : Becomes p.store.1.db p'.store.1.db 0 .completed := by
    obtain ⟨t, hget, hstatus⟩ := Option.map_eq_some_iff.mp hbefore
    obtain ⟨t', hget', hstatus'⟩ := Option.map_eq_some_iff.mp hafter
    refine ⟨⟨t', hget', hstatus'⟩, fun u hu hcompletedBefore => ?_⟩
    obtain rfl := Option.some.inj (hget.symm.trans hu)
    rw [hstatus] at hcompletedBefore
    cases hcompletedBefore
  exact hanonymous.not_willAnnounce 0 .completed
    ((hagree p' hstep).2 0 .completed (Or.inl rfl) hturned)

end AfricaFrontier
