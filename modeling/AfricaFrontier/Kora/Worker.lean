import AfricaFrontier.Kora.Delivery

/-!
# The reconciliation worker as a session

`reconcile_due_once` statement by statement.  Its two database transactions are far
apart: between them the worker waits for the provider, with no lock held.  The first
selects a due task `FOR UPDATE SKIP LOCKED` and commits it as taken, which is one step
here, since nobody else can write the row in between; what others hold locked is
skipped.  The second loads the task again by its key, then the transaction, and commits
what the answer makes of the two copies.

`enqueue_reconciliation` runs within its caller's transaction: it selects the task, and
what it staged is written at the caller's commit.

`reconciliation` lets any number of both run side by side.  A worker left alone does
what `reconcileDueOnce` says (`worker_solo`).

A statement of either changes the database at one place only, and these places are what the
results on tasks are about: the claim and the write-back of a worker (`WorkerSession.step_cases`),
and the caller's commit of a call (`EnqueueSession.step_cases`).
-/

namespace AfricaFrontier

open Python Relational Transition

/-! ## `reconcile_due_once` -/

/-- Where a worker stands. -/
inductive WorkerPhase
  | claiming
  | calling (claim : Claim)
  | reloading (claim : Claim) (v : Verification)
  | recording (v : Verification) (task : KoraPaymentReconciliation)
  | writing (v : Verification) (now : Instant) (task : KoraPaymentReconciliation)
      (transaction : Option Transaction)

/-- The environment's part in one statement: the clock, whether the database fails, the
tasks others hold locked, and how the provider call ends. -/
structure WorkerTick where
  now : Instant
  fault : Bool
  skipped : List ℕ
  outcome : ProviderOutcome

/-- The first due task nobody holds locked. -/
def unlockedTask (skipped : List ℕ) (now : Instant) (db : Db) :
    Option KoraPaymentReconciliation :=
  firstBy dueBefore (db.tasks.rows.filter fun task => task.isDue now && task.id ∉ skipped)

/-- The claim of a task, committed. -/
def takeTask (worker : String) (now : Instant) (db : Db) (task : KoraPaymentReconciliation) :
    Claim × Db :=
  ({ taskId := task.id
     reference :=
       if task.paymentReference = "" then task.transactionReference
       else some task.paymentReference },
    { db with
      tasks := db.tasks.modify task.id
        (KoraPaymentReconciliation.writeBack ⟨task, claimedTask worker now task⟩)
        (claimedTask_key worker now task) })

/-- With nothing locked this is the claim of a worker alone. -/
theorem claim_eq (worker : String) (now : Instant) (db : Db) :
    (unlockedTask [] now db).map (takeTask worker now db) = claim worker now db := by
  have hall : (fun task : KoraPaymentReconciliation => task.isDue now && decide (task.id ∉ [])) =
      KoraPaymentReconciliation.isDue now := by
    funext task
    simp
  rw [unlockedTask, hall]
  rfl

/-- A worker in flight. -/
structure WorkerSession where
  worker : String
  phase : WorkerPhase

/-- The next statement of a worker: the claim and its commit, the call of the provider, and the
write-back in a session of its own. Whatever fails in between leaves the claim in place. -/
def WorkerSession.step (t : WorkerSession) (s : Store) (tick : WorkerTick) :
    Store × Option WorkerPhase :=
  match t.phase with
  | .claiming =>
      if tick.fault then (s, none)
      else
        -- `FOR UPDATE SKIP LOCKED`: rows that other claims hold are passed over
        match unlockedTask tick.skipped tick.now s.db with
        | none => (s, none)
        | some task =>
            let (claim, db) := takeTask t.worker tick.now s.db task
            ({ s with db := db }, some (.calling claim))
  | .calling claim =>
      match verification tick.outcome with
      | none => (s, none)
      | some v => (s, some (.reloading claim v))
  | .reloading claim v =>
      if tick.fault then (s, none)
      else
        -- a session of its own, opened after the answer; it looks at no claim
        match s.db.tasks.get claim.taskId with
        | none => (s, none)
        | some task => (s, some (.recording v task))
  | .recording v task =>
      if tick.fault then (s, none)
      else (s, some (.writing v tick.now task (s.db.transactions.get task.transactionId)))
  | .writing v now task transaction =>
      if tick.fault then (s, none)
      else
        match (writeBackStaged v now task transaction).flush s.db with
        | .error _ => (s, none)
        | .ok db => ({ s with db := db }, none)

/-- The workers, each under its name. -/
def reconciliationWorker : Sessions Store String WorkerSession WorkerTick where
  init worker := ⟨worker, .claiming⟩
  advance s t tick :=
    let next := t.step s tick
    some (next.1, next.2.map (WorkerSession.mk t.worker))

/-! ## `enqueue_reconciliation` -/

/-- A call: the transaction its caller loaded, and the provider data. -/
structure EnqueueCall where
  transaction : Transaction
  data : Obj

/-- Where a call stands. -/
inductive EnqueuePhase
  | called
  | pending (now : Instant) (task : Option KoraPaymentReconciliation)

/-- A call in flight. -/
structure EnqueueSession where
  call : EnqueueCall
  phase : EnqueuePhase

/-- What a call has staged when its caller commits: the task, new or changed, and the mark in the
metadata of the transaction. -/
def EnqueueCall.work (call : EnqueueCall) (now : Instant)
    (task : Option KoraPaymentReconciliation) : UnitOfWork :=
  enqueueReconciliation call.transaction call.data now task
    { transaction := some
        ⟨call.transaction,
          { call.transaction with
            txnMetadata := scheduledMetadata call.transaction.txnMetadata call.data }⟩ }

/-- The next statement of a call: the query for the task, and the commit of the caller, which may
be much later. -/
def EnqueueSession.step (t : EnqueueSession) (s : Store) (tick : Tick) :
    Store × Option EnqueuePhase :=
  match t.phase with
  | .called =>
      if tick.fault then (s, none)
      else
        match selectTask t.call.transaction.id s.db with
        | .error _ => (s, none)
        | .ok task => (s, some (.pending tick.now task))
  | .pending now task =>
      if tick.fault then (s, none)
      else
        match (t.call.work now task).flush s.db with
        | .error _ => (s, none)
        | .ok db => ({ s with db := db }, none)

/-- The calls. -/
def enqueueCalls : Sessions Store EnqueueCall EnqueueSession Tick where
  init call := ⟨call, .called⟩
  advance s t tick :=
    let next := t.step s tick
    some (next.1, next.2.map (EnqueueSession.mk t.call))

/-- Workers and calls over one database. -/
def reconciliation : Sessions Store (String ⊕ EnqueueCall) (WorkerSession ⊕ EnqueueSession)
    (WorkerTick ⊕ Tick) :=
  reconciliationWorker.sum enqueueCalls

/-! ## What a statement can do

Everything else reads, or waits. -/

/-- A statement of a worker changes the database only where it claims a task or writes
an answer back. -/
theorem WorkerSession.step_cases (t : WorkerSession) (s : Store) (tick : WorkerTick) :
    (t.step s tick).1 = s ∨
      (t.phase = .claiming ∧ ∃ task, unlockedTask tick.skipped tick.now s.db = some task ∧
        (t.step s tick).1 = { s with db := (takeTask t.worker tick.now s.db task).2 }) ∨
      ∃ v now task transaction db, t.phase = .writing v now task transaction ∧
        tick.fault = false ∧ (writeBackStaged v now task transaction).flush s.db = .ok db ∧
        (t.step s tick).1 = { s with db := db } := by
  unfold WorkerSession.step
  cases hphase : t.phase with
  | claiming =>
      cases hfault : tick.fault with
      | true => exact Or.inl rfl
      | false =>
          cases hdue : unlockedTask tick.skipped tick.now s.db with
          | none => exact Or.inl rfl
          | some task => exact Or.inr (Or.inl ⟨rfl, task, rfl, rfl⟩)
  | calling claim =>
      cases hv : verification tick.outcome with
      | none => exact Or.inl rfl
      | some v => exact Or.inl rfl
  | reloading claim v =>
      cases hfault : tick.fault with
      | true => exact Or.inl rfl
      | false =>
          cases hget : s.db.tasks.get claim.taskId with
          | none => exact Or.inl (by simp [hget])
          | some task => exact Or.inl (by simp [hget])
  | recording v task =>
      cases hfault : tick.fault with
      | true => exact Or.inl rfl
      | false => exact Or.inl rfl
  -- the one statement after the claim that writes
  | writing v now task transaction =>
      cases hfault : tick.fault with
      | true => exact Or.inl rfl
      | false =>
          cases hflush : (writeBackStaged v now task transaction).flush s.db with
          | error e => exact Or.inl (by simp [hflush])
          | ok db =>
              exact Or.inr (Or.inr ⟨v, now, task, transaction, db, rfl, rfl, hflush,
                by simp [hflush]⟩)

/-- In between it only waits and reads. -/
theorem WorkerSession.step_waiting {t : WorkerSession} (s : Store) (tick : WorkerTick)
    (hclaiming : t.phase ≠ .claiming)
    (hwriting : ∀ v now task transaction, t.phase ≠ .writing v now task transaction) :
    (t.step s tick).1 = s := by
  rcases t.step_cases s tick with hsame | ⟨hphase, -⟩ | ⟨v, now, task, transaction, _, hphase, -⟩
  · exact hsame
  · exact absurd hphase hclaiming
  · exact absurd hphase (hwriting v now task transaction)

/-- A statement of a call changes the database only at its caller's commit. -/
theorem EnqueueSession.step_cases (t : EnqueueSession) (s : Store) (tick : Tick) :
    (t.step s tick).1 = s ∨
      ∃ now task db, t.phase = .pending now task ∧ tick.fault = false ∧
        (t.call.work now task).flush s.db = .ok db ∧ (t.step s tick).1 = { s with db := db } := by
  unfold EnqueueSession.step
  cases hphase : t.phase with
  | called =>
      cases hfault : tick.fault with
      | true => exact Or.inl rfl
      | false =>
          cases hselect : selectTask t.call.transaction.id s.db with
          | error e => exact Or.inl rfl
          | ok task => exact Or.inl rfl
  | pending now task =>
      cases hfault : tick.fault with
      | true => exact Or.inl rfl
      | false =>
          cases hflush : (t.call.work now task).flush s.db with
          | error e => exact Or.inl (by simp [hflush])
          | ok db => exact Or.inr ⟨now, task, db, rfl, rfl, hflush, by simp [hflush]⟩

/-! ## A worker alone -/

/-- With nobody in between, a worker does what `reconcileDueOnce` says. -/
theorem worker_solo (worker : String) (s : Store) (now : Instant) (outcome : ProviderOutcome) :
    reconciliationWorker.Solo ⟨now, false, [], outcome⟩ s ⟨worker, .claiming⟩
      { s with db := reconcileDueOnce worker now outcome now s.db } := by
  unfold reconcileDueOnce
  rw [← claim_eq]
  cases hdue : unlockedTask [] now s.db with
  | none =>
      refine .last ?_
      simp [reconciliationWorker, WorkerSession.step, hdue]
  | some task =>
      -- the claim is committed, whatever becomes of the rest
      have hclaim : reconciliationWorker.advance s ⟨worker, .claiming⟩ ⟨now, false, [], outcome⟩ =
          some ({ s with db := (takeTask worker now s.db task).2 },
            some ⟨worker, .calling (takeTask worker now s.db task).1⟩) := by
        simp [reconciliationWorker, WorkerSession.step, hdue]
      refine .next hclaim ?_
      rw [Option.map_some]
      generalize takeTask worker now s.db task = taken
      obtain ⟨c, db⟩ := taken
      cases hv : verification outcome with
      | none =>
          refine .last ?_
          simp [reconciliationWorker, WorkerSession.step, hv]
      | some v =>
          have hcall : reconciliationWorker.advance { s with db := db } ⟨worker, .calling c⟩
              ⟨now, false, [], outcome⟩ =
                some ({ s with db := db }, some ⟨worker, .reloading c v⟩) := by
            simp [reconciliationWorker, WorkerSession.step, hv]
          refine .next hcall ?_
          simp only [writeBack]
          cases hget : db.tasks.get c.taskId with
          | none =>
              refine .last ?_
              simp [reconciliationWorker, WorkerSession.step, hget]
          | some loaded =>
              have hload : reconciliationWorker.advance { s with db := db }
                  ⟨worker, .reloading c v⟩ ⟨now, false, [], outcome⟩ =
                    some ({ s with db := db }, some ⟨worker, .recording v loaded⟩) := by
                simp [reconciliationWorker, WorkerSession.step, hget]
              have hrecord : reconciliationWorker.advance { s with db := db }
                  ⟨worker, .recording v loaded⟩ ⟨now, false, [], outcome⟩ =
                    some ({ s with db := db }, some ⟨worker, .writing v now loaded
                      (db.transactions.get loaded.transactionId)⟩) := by
                simp [reconciliationWorker, WorkerSession.step]
              refine .next hload (.next hrecord (.last ?_))
              cases hflush : (writeBackStaged v now loaded
                  (db.transactions.get loaded.transactionId)).flush db with
              | error e => simp [reconciliationWorker, WorkerSession.step, hflush]
              | ok db' => simp [reconciliationWorker, WorkerSession.step, hflush]

end AfricaFrontier
