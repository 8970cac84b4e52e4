import AfricaFrontier.Kora.PayoutRoute
import AfricaFrontier.Kora.RefundRoute
import AfricaFrontier.Kora.Worker
import AfricaFrontier.Payments.PaymentRoute

/-!
# Everything that moves a customer's money, side by side

Payment requests, payout requests, refund requests, webhook deliveries and
reconciliation workers over one database, in any number and any order.  Payment
requests also use Redis; the others only see the database.

The world remembers which rows belong to payouts that were carried as far as the
provider.  A preview leaves a row that looks the same, so the rows alone do not tell;
no code reads this record.

Of the sessions that only see the database, `StoreWrite` says what one statement can do
to the payment rows and the refunds.

The cases are few because the writers are alike. Refund requests, deliveries and workers commit
units of work, and otherwise store a refund or a receipt; payout requests store a row of their own
and write it back. `storeSessions_advance` and `transfers_advance` say that nothing else happens,
and the results on limits and calls take it from there.
-/

namespace AfricaFrontier

open Python Relational Transition

/-! ## Refunds, webhooks and workers -/

/-- A call of one of the routes that write units of work. -/
abbrev StoreCall := RefundCall ⊕ (Delivery ⊕ String)

/-- One of these in flight. -/
abbrev StoreSession := RefundSession ⊕ (DeliverySession ⊕ WorkerSession)

/-- The environment's part in one of its statements. -/
abbrev StoreTick := RefundTick ⊕ (Tick ⊕ WorkerTick)

/-- The sessions that write units of work. -/
def storeSessions (config : RefundConfig) : Sessions Store StoreCall StoreSession StoreTick :=
  (createKoraRefund config).sum (koraWebhook.sum reconciliationWorker)

/-- The database fails. -/
def faulted : StoreTick → Bool
  | .inl tick => tick.fault
  | .inr (.inl tick) => tick.fault
  | .inr (.inr tick) => tick.fault

/-- The unit of work a session is about to commit. -/
def stagedWork : StoreSession → Option UnitOfWork
  | .inl ⟨_, .staged work _⟩ => some work
  | .inr (.inl ⟨_, .staged _ work⟩) => some work
  | .inr (.inr ⟨_, .writing v now task transaction⟩) =>
      some (writeBackStaged v now task transaction)
  | _ => none

/-- What a statement does to the payment rows and the refunds. -/
inductive StoreWrite (config : RefundConfig) (s : Store) (t : StoreSession) (x : StoreTick)
    (s' : Store) : Prop
  | untouched (htransactions : s'.db.transactions = s.db.transactions)
      (hrefunds : s'.db.refunds = s.db.refunds)
  | refundStored {call : RefundCall} {order : RefundOrder} {now : Instant}
      (hphase : t = .inl ⟨call, .inserting order⟩)
      (hinsert : insertRefund config order now s.db = some s'.db.refunds)
      (htransactions : s'.db.transactions = s.db.transactions)
  | committed {work : UnitOfWork} {db : Db} (hfault : faulted x = false)
      (hwork : stagedWork t = some work) (hflush : work.flush s.db = .ok db)
      (htransactions : s'.db.transactions = db.transactions)
      (hrefunds : s'.db.refunds = db.refunds)

section Writes

variable {config : RefundConfig} {s s' : Store}

/-- A refund request whose database fails writes nothing. -/
theorem RefundCall.step_faulted (call : RefundCall) (tick : RefundTick)
    (hfault : tick.fault = true) (phase : RefundPhase) :
    (call.step config s tick phase).1.db = s.db := by
  cases phase with
  | requested =>
      simp only [RefundCall.step, hfault, if_true]
      split <;> rfl
  | checked order => simp [RefundCall.step, hfault]
  | inserting order => simp [RefundCall.step, hfault]
  | issuing transaction record =>
      simp only [RefundCall.step]
      split <;> rfl
  | awaiting transaction record =>
      simp only [RefundCall.step]
      split <;> rfl
  | staged work answer => simp [RefundCall.step, hfault]
  | answering answer => rfl

/-- Neither does a delivery whose database fails. -/
theorem Delivery.step_faulted (d : Delivery) (tick : Tick) (hfault : tick.fault = true)
    (phase : DeliveryPhase) : (d.step s tick phase).1.db = s.db := by
  cases phase with
  | received => simp [Delivery.step, hfault]
  | conflicting => rfl
  | processing receipt phase => simp [Delivery.step, hfault]
  | staged receipt work => simp [Delivery.step, hfault]
  | failing receipt error => simp [Delivery.step, hfault]
  | answering answer => rfl

/-- A refund request writes in one of these ways. -/
theorem refund_write (t : RefundSession) (tick : RefundTick) :
    StoreWrite config s (.inl t) (.inl tick) (t.call.step config s tick t.phase).1 := by
  obtain ⟨call, phase⟩ := t
  cases hfault : tick.fault with
  | true =>
      have hsame : (call.step config s tick phase).1.db = s.db :=
        call.step_faulted tick hfault phase
      exact .untouched (congrArg Db.transactions hsame) (congrArg Db.refunds hsame)
  | false =>
      have hstep := call.step_spec config s tick phase
      generalize call.step config s tick phase = r at hstep ⊢
      obtain ⟨s', next⟩ := r
      cases hstep with
      | inserted hinsert => exact .refundStored rfl hinsert rfl
      | committed hflush => exact .committed hfault rfl hflush rfl rfl
      | ended => exact .untouched rfl rfl
      | loaded hcheck => exact .untouched rfl rfl
      | replayed hselect => exact .untouched rfl rfl
      | fresh hselect => exact .untouched rfl rfl
      | instructed => exact .untouched rfl rfl
      | declined => exact .untouched rfl rfl
      | issued => exact .untouched rfl rfl
      | refused => exact .untouched rfl rfl
      | answered => exact .untouched rfl rfl

/-- A delivery writes in one of these ways. -/
theorem delivery_write (t : DeliverySession) (tick : Tick) :
    StoreWrite config s (.inr (.inl t)) (.inr (.inl tick)) (t.delivery.step s tick t.phase).1 := by
  obtain ⟨d, phase⟩ := t
  cases hfault : tick.fault with
  | true =>
      have hsame : (d.step s tick phase).1.db = s.db := d.step_faulted tick hfault phase
      exact .untouched (congrArg Db.transactions hsame) (congrArg Db.refunds hsame)
  | false =>
      rcases (d.step_spec s tick phase).business with
        ⟨htransactions, hrefunds, -, -⟩ |
          ⟨receipt, work, db, rfl, hflush, htransactions, hrefunds, -, -⟩
      · exact .untouched htransactions hrefunds
      · exact .committed hfault rfl hflush htransactions hrefunds

/-- A worker writes in one of these ways. -/
theorem worker_write (t : WorkerSession) (tick : WorkerTick) :
    StoreWrite config s (.inr (.inr t)) (.inr (.inr tick)) (t.step s tick).1 := by
  obtain ⟨worker, phase⟩ := t
  rcases WorkerSession.step_cases ⟨worker, phase⟩ s tick with
    hsame | ⟨-, task, -, hclaimed⟩ |
    ⟨v, now, task, transaction, db, hphase, hfault, hflush, hwritten⟩
  · rw [hsame]
    exact .untouched rfl rfl
  · -- a claim only writes the task
    rw [hclaimed]
    exact .untouched rfl rfl
  · obtain rfl : phase = .writing v now task transaction := hphase
    rw [hwritten]
    exact .committed hfault rfl hflush rfl rfl

/-- Every statement of these sessions is one of the three. -/
theorem storeSessions_advance {t : StoreSession} {x : StoreTick} {o : Option StoreSession}
    (h : (storeSessions config).advance s t x = some (s', o)) : StoreWrite config s t x s' := by
  rcases t with t | t | t
  · obtain ⟨tick, s₁, o₁, rfl, hadv, hr⟩ := Sessions.sum_advance_inl h
    obtain ⟨rfl, -⟩ := Prod.mk.inj hr
    obtain ⟨rfl, -⟩ := Prod.mk.inj (Option.some.inj hadv)
    exact refund_write t tick
  · obtain ⟨y, s₁, o₁, rfl, hy, hr⟩ := Sessions.sum_advance_inr h
    obtain ⟨rfl, -⟩ := Prod.mk.inj hr
    obtain ⟨tick, s₂, o₂, rfl, hadv, hr⟩ := Sessions.sum_advance_inl hy
    obtain ⟨rfl, -⟩ := Prod.mk.inj hr
    obtain ⟨rfl, -⟩ := Prod.mk.inj (Option.some.inj hadv)
    exact delivery_write t tick
  · obtain ⟨y, s₁, o₁, rfl, hy, hr⟩ := Sessions.sum_advance_inr h
    obtain ⟨rfl, -⟩ := Prod.mk.inj hr
    obtain ⟨tick, s₂, o₂, rfl, hadv, hr⟩ := Sessions.sum_advance_inr hy
    obtain ⟨rfl, -⟩ := Prod.mk.inj hr
    obtain ⟨rfl, -⟩ := Prod.mk.inj (Option.some.inj hadv)
    exact worker_write t tick

end Writes

/-! ## Payouts

A payout request stores an account for a user who has none; its row is committed with the preview,
or after the provider call. -/

/-- The commit of a payout stores its row, or nothing. -/
theorem commitPayout_write (s : Store) (fault : Bool) (row : Transaction)
    (answer : ℕ → PayoutAnswer) :
    (commitPayout s fault row answer).1 = s ∨
      ∃ transactions, fault = false ∧ insertTransaction row s.db = some transactions ∧
        (commitPayout s fault row answer).1 =
          { s with db := { s.db with transactions := transactions } } := by
  unfold commitPayout
  cases fault with
  | true => exact Or.inl rfl
  | false =>
      cases hinsert : insertTransaction row s.db with
      | none => exact Or.inl rfl
      | some transactions => exact Or.inr ⟨transactions, rfl, rfl, rfl⟩

/-- A statement of a payout request touches neither the transactions nor the refunds,
unless it commits the row it has prepared. -/
theorem PayoutStep.quiet {settings : TransferSettings} {call : PayoutCall} {s s' : Store}
    {phase : PayoutPhase} {next : Option PayoutPhase}
    (h : PayoutStep settings call s phase s' next) (hrow : phase.row = none) :
    s'.db.transactions = s.db.transactions ∧ s'.db.refunds = s.db.refunds := by
  cases h with
  | committed hsome hinsert =>
      rw [hrow] at hsome
      cases hsome
  | ended hanswer => exact ⟨rfl, rfl⟩
  | admitted hadmitted => exact ⟨rfl, rfl⟩
  | found hphase hselect => exact ⟨rfl, rfl⟩
  | missing => exact ⟨rfl, rfl⟩
  | provisioned hinsert => exact ⟨rfl, rfl⟩
  | clashed => exact ⟨rfl, rfl⟩
  | previewed hexecute => exact ⟨rfl, rfl⟩
  | recorded hexecute => exact ⟨rfl, rfl⟩
  | instructed => exact ⟨rfl, rfl⟩
  | declined => exact ⟨rfl, rfl⟩
  | refused => exact ⟨rfl, rfl⟩
  | answered => exact ⟨rfl, rfl⟩
  | finished => exact ⟨rfl, rfl⟩

/-- What a payout request does to the transactions. -/
theorem payout_write (settings : TransferSettings) (call : PayoutCall) (s : Store)
    (tick : PayoutTick) (phase : PayoutPhase) :
    ((call.step settings s tick phase).1.db.transactions = s.db.transactions ∧
        (call.step settings s tick phase).1.db.refunds = s.db.refunds) ∨
      ∃ row transactions, phase.row = some row ∧ tick.fault = false ∧
        insertTransaction row s.db = some transactions ∧
        (call.step settings s tick phase).1 =
          { s with db := { s.db with transactions := transactions } } := by
  cases hrow : phase.row with
  | none => exact Or.inl ((call.step_spec settings s tick phase).quiet hrow)
  | some row =>
      -- the phases with a row are those that commit it
      have hcommit : ∃ answer, call.step settings s tick phase =
          commitPayout s tick.fault row answer := by
        cases phase with
        | previewing draft transaction =>
            obtain rfl := Option.some.inj hrow
            exact ⟨_, rfl⟩
        | failing draft transaction =>
            obtain rfl := Option.some.inj hrow
            exact ⟨fun _ => .unavailable, rfl⟩
        | accepted draft transaction result =>
            obtain rfl := Option.some.inj hrow
            exact ⟨_, rfl⟩
        | requested => cases hrow
        | opening draft => cases hrow
        | provisioning draft => cases hrow
        | reselecting draft => cases hrow
        | recording draft account => cases hrow
        | issuing draft transaction => cases hrow
        | awaiting draft transaction => cases hrow
        | answering answer => cases hrow
      obtain ⟨answer, hstep⟩ := hcommit
      rw [hstep]
      rcases commitPayout_write s tick.fault row answer with
        hsame | ⟨transactions, hfault, hinsert, hwritten⟩
      · rw [hsame]
        exact Or.inl ⟨rfl, rfl⟩
      · exact Or.inr ⟨row, transactions, rfl, hfault, hinsert, hwritten⟩

/-! ## The world -/

/-- The database, Redis, and the rows of the payouts that were carried as far as the
provider. -/
structure TransferWorld where
  store : Store
  desk : PaymentDesk
  executed : List ℕ

/-- The world before its first request. -/
def TransferWorld.start (db : Db) : TransferWorld where
  store := Store.start db
  desk := PaymentDesk.start
  executed := []

/-- The row a payout request has stored after its provider call. -/
def executedRow (t : PayoutSession) (db db' : Db) : List ℕ :=
  let stored :=
    if db'.transactions.next = db.transactions.next then [] else [db.transactions.next]
  match t.phase with
  | .failing _ _ => stored
  | .accepted _ _ _ => stored
  | _ => []

/-- A call of any of the routes, or a worker. -/
abbrev TransferCall := (PaymentCall ⊕ PayoutCall) ⊕ StoreCall

/-- One of these in flight. -/
abbrev TransferSession := (PaymentSession ⊕ PayoutSession) ⊕ StoreSession

/-- The environment's part in one of its statements. -/
abbrev TransferTick := (PaymentTick ⊕ PayoutTick) ⊕ StoreTick

/-- All of them over one world: payment requests see the database and Redis, payout requests the
database and the record of the executed rows, the others the database. -/
def transfers (config : PaymentConfig) (refundConfig : RefundConfig) :
    Sessions TransferWorld TransferCall TransferSession TransferTick :=
  (((createPayment config).lift (fun w => (w.store, w.desk))
      fun w _ s => { w with store := s.1, desk := s.2 }).sum
    ((createKoraPayout config.settings).lift TransferWorld.store
      fun w t s =>
        { w with store := s, executed := w.executed ++ executedRow t w.store.db s.db })).sum
    ((storeSessions refundConfig).lift TransferWorld.store fun w _ s => { w with store := s })

/-- One statement of one of them. -/
inductive TransferStep (config : PaymentConfig) (refundConfig : RefundConfig)
    (w : TransferWorld) :
    TransferSession → TransferTick → TransferWorld → Option TransferSession → Prop
  | payment {t : PaymentSession} {tick : PaymentTick} {desk : PaymentDesk}
      {next : Option PaymentPhase}
      (hstep : t.call.step config (w.store, w.desk) tick t.phase = (desk, next)) :
      TransferStep config refundConfig w (.inl (.inl t)) (.inl (.inl tick))
        { w with desk := desk } (next.map fun phase => .inl (.inl ⟨t.call, phase⟩))
  | payout {t : PayoutSession} {tick : PayoutTick} {s' : Store} {next : Option PayoutPhase}
      (hstep : t.call.step config.settings w.store tick t.phase = (s', next)) :
      TransferStep config refundConfig w (.inl (.inr t)) (.inl (.inr tick))
        { w with store := s', executed := w.executed ++ executedRow t w.store.db s'.db }
        (next.map fun phase => .inl (.inr ⟨t.call, phase⟩))
  | stored {t : StoreSession} {x : StoreTick} {s' : Store} {o : Option StoreSession}
      (hstep : (storeSessions refundConfig).advance w.store t x = some (s', o)) :
      TransferStep config refundConfig w (.inr t) (.inr x) { w with store := s' } (o.map .inr)

/-- Every step of the pool's sessions is one of them. -/
theorem transfers_advance {config : PaymentConfig} {refundConfig : RefundConfig}
    {w w' : TransferWorld} {t : TransferSession} {x : TransferTick} {o : Option TransferSession}
    (h : (transfers config refundConfig).advance w t x = some (w', o)) :
    TransferStep config refundConfig w t x w' o := by
  -- a payment, a payout, or other business; each is the call on its own part of the world
  rcases t with (t | t) | t
  · obtain ⟨y, w₁, o₁, rfl, hy, hr⟩ := Sessions.sum_advance_inl h
    obtain ⟨rfl, rfl⟩ := Prod.mk.inj hr
    obtain ⟨tick, w₂, o₂, rfl, hadv, hr⟩ := Sessions.sum_advance_inl hy
    obtain ⟨rfl, rfl⟩ := Prod.mk.inj hr
    obtain ⟨s', hlift, rfl⟩ := Sessions.lift_advance hadv
    obtain ⟨rfl, rfl⟩ := Prod.mk.inj (Option.some.inj hlift)
    rw [Option.map_map, Option.map_map]
    exact .payment rfl
  · obtain ⟨y, w₁, o₁, rfl, hy, hr⟩ := Sessions.sum_advance_inl h
    obtain ⟨rfl, rfl⟩ := Prod.mk.inj hr
    obtain ⟨tick, w₂, o₂, rfl, hadv, hr⟩ := Sessions.sum_advance_inr hy
    obtain ⟨rfl, rfl⟩ := Prod.mk.inj hr
    obtain ⟨s', hlift, rfl⟩ := Sessions.lift_advance hadv
    obtain ⟨rfl, rfl⟩ := Prod.mk.inj (Option.some.inj hlift)
    rw [Option.map_map, Option.map_map]
    exact .payout rfl
  · obtain ⟨x, w₁, o₁, rfl, hadv, hr⟩ := Sessions.sum_advance_inr h
    obtain ⟨rfl, rfl⟩ := Prod.mk.inj hr
    obtain ⟨s', hlift, rfl⟩ := Sessions.lift_advance hadv
    exact .stored hlift

end AfricaFrontier
