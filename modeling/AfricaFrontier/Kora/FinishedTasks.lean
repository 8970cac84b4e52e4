import AfricaFrontier.Kora.Books
import AfricaFrontier.Kora.Worker

/-!
# Finished tasks

A reconciliation task that is completed or failed should stay so, and get no further
attempt.  `FinishedStay` relates two databases in which this holds between them; it is
a preorder, so it is decided step by step.

`enqueue_reconciliation` looks at the state of the task before it schedules it, but
writes at its caller's commit; a worker's write-back looks at nothing.  Both write the
columns in which their copy changed, over whatever is stored by then.  `finishedGuard`
says of each commit whether that leaves a finished task alone, and
`finished_tasks_iff` that nothing else matters.

The guard is exact at each commit. Whether an update leaves a finished row alone is a question
about three values for each column: what the session loaded, what it writes, and what is stored by
then (`written_eq_stored_iff`). `answerKeeps_iff` and `enqueueKeeps_iff` answer it for the two
kinds of updates, and `finishedGuard_iff` for every step of the pool; since the relation is a
preorder, the equivalence over runs follows.
-/

namespace AfricaFrontier

open Python Relational Transition

/-- The states a task is not to leave. An expired task is not among them: a new event may schedule
it again. -/
def KoraPaymentReconciliation.finished (task : KoraPaymentReconciliation) : Bool :=
  task.state = .completed || task.state = .failed

/-- Every finished task is still there, in the same state and with no attempt it did
not have. -/
def FinishedStay (db db' : Db) : Prop :=
  ∀ i task, db.tasks.get i = some task → task.finished = true →
    ∃ task', db'.tasks.get i = some task' ∧ task'.state = task.state ∧
      ∀ at', task'.nextAttemptAt = some at' → task.nextAttemptAt = some at'

/-- Nothing happened. -/
theorem FinishedStay.refl (db : Db) : FinishedStay db db :=
  fun _ task hget _ => ⟨task, hget, rfl, fun _ h => h⟩

/-- One after another. -/
theorem FinishedStay.trans {a b c : Db} (hab : FinishedStay a b) (hbc : FinishedStay b c) :
    FinishedStay a c := by
  intro i task hget hfinished
  obtain ⟨task', hget', hstate, hattempt⟩ := hab i task hget hfinished
  have hfinished' : task'.finished = true := by
    rw [KoraPaymentReconciliation.finished, hstate]
    exact hfinished
  obtain ⟨task'', hget'', hstate', hattempt'⟩ := hbc i task' hget' hfinished'
  exact ⟨task'', hget'', hstate'.trans hstate, fun t h => hattempt t (hattempt' t h)⟩

instance {τ : Type} : IsPreorder (Pool Store τ)
    (fun p p' => FinishedStay p.store.db p'.store.db) where
  refl p := FinishedStay.refl p.store.db
  trans _ _ _ := FinishedStay.trans

/-! ## One commit

An update concerns the row it hits; an insertion adds a task that is not finished. -/

/-- An update leaves a stored task in its state, without a new attempt. -/
def Undisturbed (d : Dirty KoraPaymentReconciliation) (stored : KoraPaymentReconciliation) :
    Prop :=
  (KoraPaymentReconciliation.writeBack d stored).state = stored.state ∧
    ∀ at', (KoraPaymentReconciliation.writeBack d stored).nextAttemptAt = some at' →
      stored.nextAttemptAt = some at'

/-- An update of a task is about the row it hits. -/
theorem finishedStay_update_iff {db db' : Db} {d : Dirty KoraPaymentReconciliation}
    (htasks : db'.tasks = db.tasks.modify d.loaded.id (KoraPaymentReconciliation.writeBack d)
      (KoraPaymentReconciliation.key_writeBack d)) :
    FinishedStay db db' ↔ ∀ stored, db.tasks.get d.loaded.id = some stored →
      stored.finished = true → Undisturbed d stored := by
  constructor
  · intro hstay stored hget hfinished
    obtain ⟨task', hget', hstate, hattempt⟩ := hstay _ stored hget hfinished
    rw [htasks, Table.get_modify_self hget] at hget'
    obtain rfl := Option.some.inj hget'
    exact ⟨hstate, hattempt⟩
  · intro hall i task hget hfinished
    by_cases hi : i = d.loaded.id
    · subst hi
      obtain ⟨hstate, hattempt⟩ := hall task hget hfinished
      exact ⟨_, by rw [htasks, Table.get_modify_self hget], hstate, hattempt⟩
    · exact ⟨task, by rw [htasks, Table.get_modify_of_ne hi, hget], rfl, fun _ h => h⟩

/-- A commit that updates no task disturbs none; it may add one. -/
theorem finishedStay_of_no_update {u : UnitOfWork} {db db' : Db} (htask : u.task = none)
    (hflush : u.flush db = .ok db') : FinishedStay db db' := by
  obtain ⟨-, -, -, -, htasks, -⟩ := UnitOfWork.flush_ok hflush
  simp only [UnitOfWork.tasksAfter, UnitOfWork.tasksUpdated, htask] at htasks
  intro i task hget hfinished
  cases hnew : u.newTask with
  | none =>
      rw [hnew] at htasks
      exact ⟨task, by rw [← Option.some.inj htasks, hget], rfl, fun _ h => h⟩
  | some new =>
      rw [hnew] at htasks
      exact ⟨task, Table.get_insert_of_get htasks hget, rfl, fun _ h => h⟩

/-- A worker only claims what is not finished. -/
theorem unlockedTask_unfinished {skipped : List ℕ} {now : Instant} {db : Db}
    {task : KoraPaymentReconciliation} (h : unlockedTask skipped now db = some task) :
    db.tasks.get task.id = some task ∧ task.finished = false := by
  obtain ⟨hmem, hdue⟩ := List.mem_filter.mp (mem_of_firstBy h)
  refine ⟨Table.get_ident hmem, ?_⟩
  cases hstate : task.state with
  | scheduled => simp [KoraPaymentReconciliation.finished, hstate]
  | processing => simp [KoraPaymentReconciliation.finished, hstate]
  | completed => simp [KoraPaymentReconciliation.isDue, hstate] at hdue
  | failed => simp [KoraPaymentReconciliation.isDue, hstate] at hdue
  | expired => simp [KoraPaymentReconciliation.finished, hstate]

/-- A claim leaves the finished tasks alone. -/
theorem finishedStay_claim {skipped : List ℕ} {now : Instant} {db : Db}
    {task : KoraPaymentReconciliation} (h : unlockedTask skipped now db = some task)
    (worker : String) : FinishedStay db (takeTask worker now db task).2 := by
  obtain ⟨hget, hunfinished⟩ := unlockedTask_unfinished h
  refine (finishedStay_update_iff (d := ⟨task, claimedTask worker now task⟩) rfl).mpr ?_
  intro stored hstored hfinished
  obtain rfl : task = stored := Option.some.inj (hget.symm.trans hstored)
  rw [hunfinished] at hfinished
  cases hfinished

/-! ## When a commit leaves a finished task alone

Both conditions are on copies and rows, before the commit. -/

/-- An answer of class `v.normalized`, written back at `now` by a worker whose copy is
`task`, leaves the stored task alone: that is not finished, or the answer makes it what
it is already, or what the copy was already, which no update mentions. -/
def answerKeeps (v : Verification) (now : Instant) (task stored : KoraPaymentReconciliation) :
    Bool :=
  let retry := some (now + seconds (nextBackoff task.attemptCount))
  !stored.finished ||
    match v.normalized with
    | .success => task.state = .completed || stored.state = .completed
    | .failure => task.state = .failed || stored.state = .failed
    | .other =>
        if task.expiresAt.any (· ≤ now) then task.state = .expired
        else
          task.state = .scheduled && (task.nextAttemptAt = retry || stored.nextAttemptAt = retry)

/-- A call that read `task` at `now` leaves the stored task alone: that is not finished,
or the call saw it finished, or its copy was scheduled, for the time the call sets. -/
def enqueueKeeps (now : Instant) (task stored : KoraPaymentReconciliation) : Bool :=
  let sooner := some (min (task.nextAttemptAt.getD now) (now + seconds 15))
  !stored.finished || task.finished ||
    (task.state = .scheduled && (task.nextAttemptAt = sooner || stored.nextAttemptAt = sooner))

/-- The state a finished task has. -/
theorem finished_cases {task : KoraPaymentReconciliation} (h : task.finished = true) :
    task.state = .completed ∨ task.state = .failed := by
  simpa [KoraPaymentReconciliation.finished] using h

/-- Writing a column keeps a value exactly when it is not written, or written as it
is. -/
theorem written_eq_stored_iff {α : Type} [DecidableEq α] {loaded current stored : α} :
    written loaded current stored = stored ↔ loaded = current ∨ stored = current := by
  unfold written
  split
  · rename_i h
    simp [h]
  · rename_i h
    constructor
    · exact fun hsame => Or.inr hsame.symm
    · rintro (hsame | hsame)
      · exact absurd hsame.symm h
      · exact hsame.symm

/-- Clearing the next attempt gives none. -/
theorem written_none (loaded stored : Option Instant) (at' : Instant)
    (h : written loaded none stored = some at') : stored = some at' := by
  rcases written_eq_or loaded none stored with hsame | hnone
  · rwa [hsame] at h
  · rw [hnone] at h
    cases h

/-- Setting it gives none only where it is not written, or stored already. -/
theorem written_some_iff {loaded stored : Option Instant} {t : Instant} :
    (∀ at', written loaded (some t) stored = some at' → stored = some at') ↔
      loaded = some t ∨ stored = some t := by
  rw [← written_eq_stored_iff]
  constructor
  · intro hall
    rcases written_eq_or loaded (some t) stored with hsame | hset
    · exact hsame
    · exact hset.trans (hall t hset).symm
  · intro hsame at' h
    exact hsame.symm.trans h

/-- The condition on a write-back is exact. -/
theorem answerKeeps_iff {v : Verification} {now : Instant}
    {task stored : KoraPaymentReconciliation} (hfinished : stored.finished = true) :
    answerKeeps v now task stored = true ↔ Undisturbed ⟨task, verifiedTask v now task⟩ stored := by
  have hstates := finished_cases hfinished
  unfold answerKeeps Undisturbed
  simp only [hfinished, Bool.not_true, Bool.false_or, KoraPaymentReconciliation.writeBack]
  cases hclass : v.normalized with
  | success =>
      simp only [verifiedTask, hclass, written_eq_stored_iff, Bool.or_eq_true, decide_eq_true_eq]
      exact ⟨fun h => ⟨h, written_none _ _⟩, And.left⟩
  | failure =>
      simp only [verifiedTask, hclass, written_eq_stored_iff, Bool.or_eq_true, decide_eq_true_eq]
      exact ⟨fun h => ⟨h, written_none _ _⟩, And.left⟩
  -- an answer that is not final writes expired or scheduled, and neither is a finished state
  | other =>
      by_cases hexpired : task.expiresAt.any (· ≤ now) = true
      · have hopen : stored.state ≠ .expired := by
          rcases hstates with h | h
          · simp [h]
          · simp [h]
        simp only [verifiedTask, hclass, if_pos hexpired, written_eq_stored_iff, hopen, or_false,
          decide_eq_true_eq]
        exact ⟨fun h => ⟨h, written_none _ _⟩, And.left⟩
      · have hopen : stored.state ≠ .scheduled := by
          rcases hstates with h | h
          · simp [h]
          · simp [h]
        simp only [verifiedTask, hclass, if_neg hexpired, written_eq_stored_iff, hopen, or_false,
          written_some_iff, Bool.and_eq_true, Bool.or_eq_true, decide_eq_true_eq]

/-- The condition on a call is exact. -/
theorem enqueueKeeps_iff {call : EnqueueCall} {now : Instant}
    {task stored : KoraPaymentReconciliation} {d : Dirty KoraPaymentReconciliation}
    (hd : (call.work now (some task)).task = some d) (hfinished : stored.finished = true) :
    enqueueKeeps now task stored = true ↔ Undisturbed d stored := by
  have hstates := finished_cases hfinished
  obtain rfl := Option.some.inj hd
  unfold enqueueKeeps Undisturbed
  simp only [hfinished, Bool.not_true, Bool.false_or, KoraPaymentReconciliation.writeBack]
  cases hcopy : task.finished with
  | true =>
      -- the call keeps both columns of a finished copy
      have hkept : task.state = .completed ∨ task.state = .failed := finished_cases hcopy
      simp only [if_pos hkept, written_eq_stored_iff, true_or, Bool.true_or, true_and, true_iff]
      intro at' h
      rwa [written, if_pos rfl] at h
  | false =>
      have hopen : ¬ (task.state = .completed ∨ task.state = .failed) := by
        simpa [KoraPaymentReconciliation.finished] using hcopy
      have hstored : stored.state ≠ .scheduled := by
        rcases hstates with h | h
        · simp [h]
        · simp [h]
      simp only [if_neg hopen, written_eq_stored_iff, written_some_iff, hstored, or_false,
        Bool.false_or, Bool.and_eq_true, Bool.or_eq_true, decide_eq_true_eq]

/-! ## Runs -/

/-- The next statement of a session leaves every finished task alone. -/
def sessionKeeps (s : Store) :
    WorkerSession ⊕ EnqueueSession → WorkerTick ⊕ Tick → Bool
  | .inl ⟨_, .writing v now task transaction⟩, .inl tick =>
      tick.fault || !(writeBackStaged v now task transaction).fits ||
        (s.db.tasks.get task.id).all (answerKeeps v now task)
  | .inr ⟨call, .pending now (some task)⟩, .inr tick =>
      tick.fault || !(call.work now (some task)).fits ||
        (s.db.tasks.get task.id).all (enqueueKeeps now task)
  | _, _ => true

/-- The guard of the pool: the commit that a step makes leaves the finished row it is written over
as it is, if that row is finished. -/
def finishedGuard (p : Pool Store (WorkerSession ⊕ EnqueueSession)) :
    PoolAct (String ⊕ EnqueueCall) (WorkerTick ⊕ Tick) → Bool
  | .begin _ _ => true
  | .advance i tick => (p.session i).all fun t => sessionKeeps p.store t tick
  | .crash _ => true

/-- The commit of an update of a task succeeds when everything fits, and says what it
does to the stored row. -/
theorem update_keeps_iff {u : UnitOfWork} {d : Dirty KoraPaymentReconciliation} {s : Store}
    {keeps : KoraPaymentReconciliation → Bool} (htask : u.task = some d)
    (hnewTask : u.newTask = none)
    (hkeeps : ∀ stored, stored.finished = true → (keeps stored = true ↔ Undisturbed d stored))
    (hopen : ∀ stored, stored.finished = false → keeps stored = true) {s' : Store}
    (hcommitted : ∀ db, u.flush s.db = .ok db → s' = { s with db := db })
    (hrefused : u.fits = false → s' = s) :
    (!u.fits || (s.db.tasks.get d.loaded.id).all keeps) = true ↔ FinishedStay s.db s'.db := by
  cases hfits : u.fits with
  | false =>
      rw [hrefused hfits]
      exact iff_of_true rfl (FinishedStay.refl s.db)
  | true =>
      obtain ⟨db, hflush⟩ := flush_of_fits s.db hfits hnewTask
      obtain ⟨-, -, -, -, htasks, -⟩ := UnitOfWork.flush_ok hflush
      simp only [UnitOfWork.tasksAfter, hnewTask, UnitOfWork.tasksUpdated, htask,
        Option.some.injEq] at htasks
      rw [hcommitted db hflush, finishedStay_update_iff htasks.symm, Bool.not_true, Bool.false_or,
        Option.all_eq_true]
      constructor
      · intro hall stored hget hfinished
        exact (hkeeps stored hfinished).mp (hall stored hget)
      · intro hall stored hget
        cases hfinished : stored.finished with
        | true => exact (hkeeps stored hfinished).mpr (hall stored hget hfinished)
        | false => exact hopen stored hfinished

section Steps

variable {s : Store}

/-- The guard of a worker is exact. -/
theorem worker_keeps_iff (t : WorkerSession) (tick : WorkerTick) :
    sessionKeeps s (.inl t) (.inl tick) = true ↔ FinishedStay s.db (t.step s tick).1.db := by
  obtain ⟨worker, phase⟩ := t
  cases phase with
  | claiming =>
      refine iff_of_true rfl ?_
      rcases WorkerSession.step_cases ⟨worker, .claiming⟩ s tick with
        hsame | ⟨-, task, hdue, hclaimed⟩ | ⟨_, _, _, _, _, hphase, -⟩
      · rw [hsame]
        exact FinishedStay.refl s.db
      · rw [hclaimed]
        exact finishedStay_claim hdue worker
      · cases hphase
  | calling claim =>
      refine iff_of_true rfl ?_
      rw [WorkerSession.step_waiting s tick (by simp) (by simp)]
      exact FinishedStay.refl s.db
  | reloading claim v =>
      refine iff_of_true rfl ?_
      rw [WorkerSession.step_waiting s tick (by simp) (by simp)]
      exact FinishedStay.refl s.db
  | recording v task =>
      refine iff_of_true rfl ?_
      rw [WorkerSession.step_waiting s tick (by simp) (by simp)]
      exact FinishedStay.refl s.db
  -- the one statement of a worker that can change a finished task
  | writing v now task transaction =>
      cases hfault : tick.fault with
      | true =>
          simp only [sessionKeeps, WorkerSession.step, hfault, if_true, Bool.true_or, true_iff]
          exact FinishedStay.refl s.db
      | false =>
          simp only [sessionKeeps, hfault, Bool.false_or]
          refine update_keeps_iff (d := ⟨task, verifiedTask v now task⟩) rfl rfl
            (fun stored hfinished => answerKeeps_iff hfinished) (fun stored hopen => ?_)
            (fun db hflush => ?_) (fun hfits => ?_)
          · simp [answerKeeps, hopen]
          · simp [WorkerSession.step, hfault, hflush]
          · simp [WorkerSession.step, hfault, UnitOfWork.flush, hfits]

/-- The guard of a call is exact. -/
theorem enqueue_keeps_iff (t : EnqueueSession) (tick : Tick) :
    sessionKeeps s (.inr t) (.inr tick) = true ↔ FinishedStay s.db (t.step s tick).1.db := by
  obtain ⟨call, phase⟩ := t
  cases phase with
  | called =>
      refine iff_of_true rfl ?_
      rcases EnqueueSession.step_cases ⟨call, .called⟩ s tick with hsame | ⟨_, _, _, hphase, -⟩
      · rw [hsame]
        exact FinishedStay.refl s.db
      · cases hphase
  | pending now task =>
      cases task with
      | none =>
          refine iff_of_true rfl ?_
          rcases EnqueueSession.step_cases ⟨call, .pending now none⟩ s tick with
            hsame | ⟨_, _, db, hphase, -, hflush, hwritten⟩
          · rw [hsame]
            exact FinishedStay.refl s.db
          · obtain ⟨rfl, rfl⟩ := EnqueuePhase.pending.inj hphase
            rw [hwritten]
            exact finishedStay_of_no_update (u := call.work now none) rfl hflush
      -- a new task finishes nothing; a loaded one may be finished by now
      | some task =>
          cases hfault : tick.fault with
          | true =>
              simp only [sessionKeeps, EnqueueSession.step, hfault, if_true, Bool.true_or, true_iff]
              exact FinishedStay.refl s.db
          | false =>
              simp only [sessionKeeps, hfault, Bool.false_or]
              refine update_keeps_iff (u := call.work now (some task)) rfl rfl
                (fun stored hfinished => enqueueKeeps_iff rfl hfinished) (fun stored hopen => ?_)
                (fun db hflush => ?_) (fun hfits => ?_)
              · simp [enqueueKeeps, hopen]
              · simp [EnqueueSession.step, hfault, hflush]
              · simp [EnqueueSession.step, hfault, UnitOfWork.flush, hfits]

end Steps

/-- The guard of one step is exact. -/
theorem finishedGuard_iff {p p' : Pool Store (WorkerSession ⊕ EnqueueSession)}
    {a : PoolAct (String ⊕ EnqueueCall) (WorkerTick ⊕ Tick)}
    (hstep : reconciliation.machine.step p a = some p') :
    finishedGuard p a = true ↔ FinishedStay p.store.db p'.store.db := by
  cases a with
  | begin i request =>
      refine iff_of_true rfl ?_
      simp only [Sessions.machine] at hstep
      split at hstep
      · obtain rfl := Option.some.inj hstep
        exact FinishedStay.refl p.store.db
      · cases hstep
  | crash i =>
      refine iff_of_true rfl ?_
      obtain rfl := Option.some.inj hstep
      exact FinishedStay.refl p.store.db
  | advance i tick =>
      obtain ⟨t, ht, hrest⟩ := Option.bind_eq_some_iff.mp hstep
      obtain ⟨r, hadv, rfl⟩ := Option.map_eq_some_iff.mp hrest
      rw [finishedGuard, ht, Option.all_some, Pool.assign_store]
      cases t with
      | inl t =>
          obtain ⟨tick', s', o, rfl, hadv', rfl⟩ := Sessions.sum_advance_inl hadv
          obtain ⟨rfl, -⟩ := Prod.mk.inj (Option.some.inj hadv')
          exact worker_keeps_iff t tick'
      | inr t =>
          obtain ⟨tick', s', o, rfl, hadv', rfl⟩ := Sessions.sum_advance_inr hadv
          obtain ⟨rfl, -⟩ := Prod.mk.inj (Option.some.inj hadv')
          exact enqueue_keeps_iff t tick'

/-- **Finished tasks stay finished** between any two states of a run, exactly when each
of its commits leaves the finished tasks it meets alone. -/
theorem finished_tasks_iff {p p' : Pool Store (WorkerSession ⊕ EnqueueSession)}
    {acts : List (PoolAct (String ⊕ EnqueueCall) (WorkerTick ⊕ Tick))}
    (run : Run reconciliation.machine Unguarded p acts p') :
    Run reconciliation.machine (fun p a => finishedGuard p a = true) p acts p' ↔
      ∀ front middle back mid mid', acts = front ++ (middle ++ back) →
        Run reconciliation.machine Unguarded p front mid →
        Run reconciliation.machine Unguarded mid middle mid' →
        FinishedStay mid.store.db mid'.store.db :=
  run.guarded_iff_relates fun _ _ _ => finishedGuard_iff

/-! ## A late answer -/

/-- The task of `processingPayin`, due at once. -/
def queuedTask : KoraPaymentReconciliation where
  id := 0
  transactionId := 0
  paymentReference := "KPY-1"
  transactionReference := none
  providerStatus := "processing"
  state := .scheduled
  attemptCount := 0
  nextAttemptAt := some 0
  expiresAt := some (hours 24)
  lastCheckedAt := none
  lastError := none
  lockedAt := none
  lockedBy := none

/-- The pay-in with its task. -/
def queuedPayin : Db :=
  { Db.holding processingPayin with
    tasks :=
      { rows := [queuedTask]
        next := 1
        fresh := by decide
        distinct := List.pairwise_singleton _ _
        unique := List.pairwise_singleton _ _ } }

/-- A statement of the worker `i`, with an answer in case it waits for one. -/
def workerStep (i : ℕ) (now : Instant) (status : String) :
    PoolAct (String ⊕ EnqueueCall) (WorkerTick ⊕ Tick) :=
  .advance i (.inl ⟨now, false, [], .answered [("status", .str status)]⟩)

/-- Worker 0 claims the task and waits; six minutes later worker 1 claims it again,
learns that the charge succeeded and finishes the task. -/
def overtaking : List (PoolAct (String ⊕ EnqueueCall) (WorkerTick ⊕ Tick)) :=
  [.begin 0 (.inl "afm-reconciliation-1"), .begin 1 (.inl "afm-reconciliation-2"),
    workerStep 0 0 "", workerStep 1 (minutes 6) "", workerStep 1 (minutes 6) "success",
    workerStep 1 (minutes 6) "", workerStep 1 (minutes 6) "", workerStep 1 (minutes 6) ""]

/-- The answer worker 0 was waiting for, and its write-back. -/
def lateAnswer : List (PoolAct (String ⊕ EnqueueCall) (WorkerTick ⊕ Tick)) :=
  [workerStep 0 (minutes 7) "processing", workerStep 0 (minutes 7) "",
    workerStep 0 (minutes 7) "", workerStep 0 (minutes 7) ""]

/-- That is a run. -/
theorem overtaking_possible : ∃ mid,
    Run reconciliation.machine Unguarded (Pool.quiet (Store.start queuedPayin)) overtaking mid := by
  have hpossible : (reconciliation.machine.check (fun _ _ => true)
      (Pool.quiet (Store.start queuedPayin)) overtaking).isSome = true := by decide +kernel
  obtain ⟨mid, hcheck⟩ := Option.isSome_iff_exists.mp hpossible
  exact ⟨mid, (Run.of_check hcheck).unguarded⟩

/-- The statement on the run in which the task is finished. -/
theorem finished_tasks_iff_overtaken : ∃ p',
    Run reconciliation.machine (fun p a => finishedGuard p a = true)
        (Pool.quiet (Store.start queuedPayin)) overtaking p' ↔
      ∀ front middle back mid mid', overtaking = front ++ (middle ++ back) →
        Run reconciliation.machine Unguarded (Pool.quiet (Store.start queuedPayin)) front mid →
        Run reconciliation.machine Unguarded mid middle mid' →
        FinishedStay mid.store.db mid'.store.db := by
  obtain ⟨p', run⟩ := overtaking_possible
  exact ⟨p', finished_tasks_iff run⟩

/-- The late answer puts the finished task back on the schedule. -/
theorem finished_task_rescheduled : ∃ mid p',
    Run reconciliation.machine Unguarded (Pool.quiet (Store.start queuedPayin)) overtaking mid ∧
      Run reconciliation.machine Unguarded mid lateAnswer p' ∧
      ¬ FinishedStay mid.store.db p'.store.db := by
  have hafter : (reconciliation.machine.check (fun _ _ => true)
      (Pool.quiet (Store.start queuedPayin)) (overtaking ++ lateAnswer)).map
        (fun p => (p.store.db.tasks.get 0).map (·.state)) = some (some .scheduled) := by
    decide +kernel
  have hbefore : (reconciliation.machine.check (fun _ _ => true)
      (Pool.quiet (Store.start queuedPayin)) overtaking).map
        (fun p => (p.store.db.tasks.get 0).map (·.state)) = some (some .completed) := by
    decide +kernel
  obtain ⟨p', hcheck, hscheduled⟩ := Option.map_eq_some_iff.mp hafter
  obtain ⟨mid', hfront, hcompleted⟩ := Option.map_eq_some_iff.mp hbefore
  obtain ⟨mid, hovertaken, hlate⟩ := (Run.of_check hcheck).unguarded.split
  obtain rfl := (Run.of_check hfront).functional hovertaken
  refine ⟨mid', p', hovertaken, hlate, fun hstay => ?_⟩
  obtain ⟨task, hget, hstate⟩ := Option.map_eq_some_iff.mp hcompleted
  have hfinished : task.finished = true := by
    simp [KoraPaymentReconciliation.finished, hstate]
  obtain ⟨task', hget', hsame, -⟩ := hstay 0 task hget hfinished
  rw [hget', Option.map_some, Option.some.injEq, hsame, hstate] at hscheduled
  cases hscheduled

end AfricaFrontier
