import AfricaFrontier.Kora.FinishedTasks

/-!
# One worker at a time for a task

A worker claims a task by a commit that says so in the task's row, with the time; until
it writes an answer back, or five minutes have passed, nobody else should claim the task.
The claim is in two columns only, the state and the time of the last check, and other
commits write the state as well: `enqueue_reconciliation`, which puts every task on the
schedule that is not finished, and the write-back of another worker whose claim has
expired.

The workers are watched: every claim gets a ticket, and the log says which claims were
made when, and which were written back.  `claimGuard` is the condition on a commit that
it puts no task on the schedule for a time at which somebody's claim still holds.

A claim protects itself by the two columns it writes: the task is in process, and was checked at
the time of the claim. `Protects` says that a row does so for five minutes, whatever else is in
it. The invariant is that every open claim of the log is protected by the row of its task; a claim
step then finds no open claim that is younger than that (`claim_step`), and every other commit is
judged by what it writes over a protected row (`protects_answer`, `protects_enqueue`).

The log changes no step: a watched run is a run of workers and calls, with the tickets beside it.
-/

namespace AfricaFrontier

open Python Relational Transition

/-! ## The log of the claims -/

/-- An event of the log. -/
inductive ClaimEvent
  /-- A worker claimed the task, and got the ticket. -/
  | claimed (ticket task : ℕ) (now : Instant)
  /-- The worker with the ticket wrote its answer back. -/
  | wroteBack (ticket : ℕ)
  deriving DecidableEq

/-- The claim of a ticket, which has not been written back. -/
def OpenClaim (log : List ClaimEvent) (ticket task : ℕ) (claimedAt : Instant) : Prop :=
  .claimed ticket task claimedAt ∈ log ∧ .wroteBack ticket ∉ log

/-- **Claims are exclusive**: whoever claims a task for which there is an open claim does
so at least five minutes after it. -/
def Exclusive (log : List ClaimEvent) : Prop :=
  ∀ front ticket' task now back, log = front ++ .claimed ticket' task now :: back →
    ∀ ticket claimedAt, OpenClaim front ticket task claimedAt → claimedAt + minutes 5 ≤ now

/-- Nobody has claimed anything. -/
theorem exclusive_nil : Exclusive [] := by
  intro front ticket' task now back h
  cases front <;> cases h

/-- One more event. -/
theorem Exclusive.snoc {log : List ClaimEvent} (h : Exclusive log) {event : ClaimEvent}
    (hnew : ∀ ticket' task now, event = .claimed ticket' task now →
      ∀ ticket claimedAt, OpenClaim log ticket task claimedAt → claimedAt + minutes 5 ≤ now) :
    Exclusive (log ++ [event]) := by
  intro front ticket' task now back hsplit
  rcases List.eq_nil_or_concat back with rfl | ⟨back', last, rfl⟩
  · obtain ⟨rfl, hevent⟩ := List.append_inj' hsplit rfl
    exact hnew ticket' task now (List.cons.inj hevent).1
  · have hlonger : log ++ [event] = (front ++ .claimed ticket' task now :: back') ++ [last] := by
      simpa using hsplit
    exact h front ticket' task now back' (List.append_inj' hlonger rfl).1

/-- What the write-back of a worker with a ticket adds to the log. -/
def wroteBackEvents : Option ℕ → List ClaimEvent
  | none => []
  | some ticket => [.wroteBack ticket]

/-- A write-back closes the claim of its own ticket. -/
theorem OpenClaim.of_wroteBack {log : List ClaimEvent} {own : Option ℕ} {ticket task : ℕ}
    {claimedAt : Instant} (h : OpenClaim (log ++ wroteBackEvents own) ticket task claimedAt) :
    OpenClaim log ticket task claimedAt ∧ own ≠ some ticket := by
  obtain ⟨hclaimed, hwritten⟩ := h
  cases own with
  | none =>
      simp only [wroteBackEvents, List.append_nil] at hclaimed hwritten
      exact ⟨⟨hclaimed, hwritten⟩, by simp⟩
  | some n =>
      simp only [wroteBackEvents, List.mem_append, List.mem_singleton, reduceCtorEq, or_false,
        ClaimEvent.wroteBack.injEq, not_or] at hclaimed hwritten
      exact ⟨⟨hclaimed, hwritten.1⟩, fun h => hwritten.2 (Option.some.inj h).symm⟩

/-- A write-back does not get in the way of any claim. -/
theorem Exclusive.wroteBack {log : List ClaimEvent} (h : Exclusive log) (own : Option ℕ) :
    Exclusive (log ++ wroteBackEvents own) := by
  cases own with
  | none => simpa [wroteBackEvents] using h
  | some n =>
      refine h.snoc ?_
      rintro _ _ _ ⟨⟩

/-! ## Watched workers -/

/-- What a statement adds to the log, and the ticket of its session after it. -/
def watchClaims (s : Store × List ClaimEvent) (t : (WorkerSession ⊕ EnqueueSession) × Option ℕ)
    (x : WorkerTick ⊕ Tick) : List ClaimEvent × Option ℕ :=
  match t.1, x with
  | .inl ⟨_, .claiming⟩, .inl tick =>
      if tick.fault then (s.2, t.2)
      else
        match unlockedTask tick.skipped tick.now s.1.db with
        | none => (s.2, t.2)
        | some task => (s.2 ++ [.claimed s.2.length task.id tick.now], some s.2.length)
  | .inl ⟨_, .writing v now task transaction⟩, .inl tick =>
      if tick.fault || !(writeBackStaged v now task transaction).fits then (s.2, t.2)
      else (s.2 ++ wroteBackEvents t.2, t.2)
  | _, _ => (s.2, t.2)

/-- Workers and calls over one database, watched. -/
def watchedReconciliation : Sessions (Store × List ClaimEvent) (String ⊕ EnqueueCall)
    ((WorkerSession ⊕ EnqueueSession) × Option ℕ) (WorkerTick ⊕ Tick) :=
  reconciliation.watched none watchClaims

/-! ## The condition

It asks of a commit what it will leave in the two columns, given the row as it is stored now. -/

/-- The task is not due while a claim made at `claimedAt` holds. -/
def KoraPaymentReconciliation.Protects (task : KoraPaymentReconciliation) (claimedAt : Instant) :
    Prop :=
  ∀ now, task.isDue now = true → claimedAt + minutes 5 ≤ now

/-- Writing the schedule of a task, from a copy and for the time `at'`, leaves a claim
alone: the state is not written, and the stored task is not on the schedule, or the time
that is stored then is none at which the claim holds. -/
def scheduleSpares (copy stored : KoraPaymentReconciliation) (at' claimedAt : Instant) : Bool :=
  (copy.state = .scheduled && stored.state ≠ .scheduled) ||
    (if copy.nextAttemptAt = some at' then stored.nextAttemptAt else some at').all
      (claimedAt + minutes 5 ≤ ·)

/-- A write-back leaves another worker's claim alone: it finishes the task, or its schedule
does so. -/
def answerSpares (v : Verification) (now : Instant) (task stored : KoraPaymentReconciliation)
    (claimedAt : Instant) : Bool :=
  v.normalized ≠ .other || task.expiresAt.any (· ≤ now) ||
    scheduleSpares task stored (now + seconds (nextBackoff task.attemptCount)) claimedAt

/-- A call leaves a claim alone: it saw the task finished, or its schedule does so. -/
def enqueueSpares (now : Instant) (task stored : KoraPaymentReconciliation)
    (claimedAt : Instant) : Bool :=
  task.finished ||
    scheduleSpares task stored (min (task.nextAttemptAt.getD now) (now + seconds 15)) claimedAt

/-- The condition on a statement: a commit that is carried out leaves the open claims of
other workers alone. -/
def claimGuard (s : Store × List ClaimEvent) (t : (WorkerSession ⊕ EnqueueSession) × Option ℕ)
    (x : WorkerTick ⊕ Tick) : Prop :=
  match t.1, x with
  | .inl ⟨_, .writing v now task transaction⟩, .inl tick =>
      tick.fault = false → (writeBackStaged v now task transaction).fits = true →
        ∀ stored, s.1.db.tasks.get task.id = some stored →
          ∀ ticket claimedAt, OpenClaim s.2 ticket task.id claimedAt → t.2 ≠ some ticket →
            answerSpares v now task stored claimedAt = true
  | .inr ⟨call, .pending now (some task)⟩, .inr tick =>
      tick.fault = false → (call.work now (some task)).fits = true →
        ∀ stored, s.1.db.tasks.get task.id = some stored →
          ∀ ticket claimedAt, OpenClaim s.2 ticket task.id claimedAt →
            enqueueSpares now task stored claimedAt = true
  | _, _ => True

/-! ## What the commits do

A column the session's copy has not changed keeps what the others have written. -/

section Commits

variable {task stored : KoraPaymentReconciliation} {claimedAt now : Instant}

/-- A task protects a claim by its schedule, or by the time of the last check. -/
theorem KoraPaymentReconciliation.protects_iff : task.Protects claimedAt ↔
    (task.state = .scheduled → ∀ at', task.nextAttemptAt = some at' →
      claimedAt + minutes 5 ≤ at') ∧
    (task.state = .processing → ∀ checkedAt, task.lastCheckedAt = some checkedAt →
      claimedAt ≤ checkedAt) := by
  unfold Protects isDue
  constructor
  · intro h
    constructor
    · intro hstate at' hnext
      exact h at' (by simp [hstate, hnext])
    · intro hstate checkedAt hchecked
      exact le_of_add_le_add_right (h (checkedAt + minutes 5) (by simp [hstate, hchecked]))
  · rintro ⟨hscheduled, hprocessing⟩ now hdue
    simp only [Bool.or_eq_true, Bool.and_eq_true, decide_eq_true_eq, Option.any_eq_true] at hdue
    rcases hdue with ⟨hstate, at', hnext, hle⟩ | ⟨hstate, checkedAt, hchecked, hle⟩
    · exact (hscheduled hstate at' hnext).trans hle
    · exact add_le_of_le_sub_right ((hprocessing hstate checkedAt hchecked).trans hle)

/-- A claim protects itself, and those that were made before. -/
theorem protects_claimed (worker : String) (hle : claimedAt ≤ now) :
    (KoraPaymentReconciliation.writeBack ⟨task, claimedTask worker now task⟩ task).Protects
      claimedAt := by
  rw [KoraPaymentReconciliation.protects_iff]
  simp only [KoraPaymentReconciliation.writeBack, claimedTask, written_loaded]
  refine ⟨fun h => absurd h (by decide), ?_⟩
  rintro - checkedAt ⟨⟩
  exact hle

/-- A task that is not on the schedule or leaves it. -/
theorem protects_unscheduled {d : Dirty KoraPaymentReconciliation}
    (hchecked : d.current.lastCheckedAt = d.loaded.lastCheckedAt)
    (hstate : d.current.state ≠ .scheduled ∧ d.current.state ≠ .processing)
    (hnext : d.current.nextAttemptAt = none) (h : stored.Protects claimedAt) :
    (KoraPaymentReconciliation.writeBack d stored).Protects claimedAt := by
  rw [KoraPaymentReconciliation.protects_iff] at h ⊢
  simp only [KoraPaymentReconciliation.writeBack, hchecked, written_self, hnext]
  rcases written_eq_or d.loaded.state d.current.state stored.state with hsame | hset
  · rw [hsame]
    exact ⟨fun hscheduled at' hat => h.1 hscheduled at' (written_none _ _ at' hat), h.2⟩
  · rw [hset]
    exact ⟨fun hscheduled => absurd hscheduled hstate.1, fun hprocessing =>
      absurd hprocessing hstate.2⟩

/-- A task whose schedule is written leaves the claims alone that `scheduleSpares` says. -/
theorem protects_scheduled {d : Dirty KoraPaymentReconciliation} {at' : Instant}
    (hchecked : d.current.lastCheckedAt = d.loaded.lastCheckedAt)
    (hstate : d.current.state = .scheduled) (hnext : d.current.nextAttemptAt = some at')
    (hspares : scheduleSpares d.loaded stored at' claimedAt = true)
    (h : stored.Protects claimedAt) :
    (KoraPaymentReconciliation.writeBack d stored).Protects claimedAt := by
  rw [KoraPaymentReconciliation.protects_iff] at h ⊢
  simp only [KoraPaymentReconciliation.writeBack, hchecked, written_self, hnext, hstate]
  simp only [scheduleSpares, Bool.or_eq_true, Bool.and_eq_true, decide_eq_true_eq] at hspares
  rcases hspares with ⟨hcopy, hoff⟩ | hlate
  · rw [hcopy, written_self]
    exact ⟨fun hscheduled => absurd hscheduled (by simpa using hoff), h.2⟩
  · constructor
    -- the next attempt that is stored is the one of this write, or one set in between
    · rintro - later hlater
      have hwritten : written d.loaded.nextAttemptAt (some at') stored.nextAttemptAt =
          if d.loaded.nextAttemptAt = some at' then stored.nextAttemptAt else some at' := by
        unfold written
        simp only [eq_comm]
      rw [← hwritten, hlater, Option.all_some] at hlate
      exact of_decide_eq_true hlate
    · intro hprocessing
      rcases written_eq_or d.loaded.state .scheduled stored.state with hsame | hset
      · exact h.2 (hsame.symm.trans hprocessing)
      · rw [hset] at hprocessing
        cases hprocessing

/-- A write-back, carried out. -/
theorem protects_answer {v : Verification} (h : stored.Protects claimedAt)
    (hspares : answerSpares v now task stored claimedAt = true) :
    (KoraPaymentReconciliation.writeBack ⟨task, verifiedTask v now task⟩ stored).Protects
      claimedAt := by
  -- an answer does not touch the time of the claim
  have hchecked : (verifiedTask v now task).lastCheckedAt = task.lastCheckedAt := by
    unfold verifiedTask
    cases v.normalized with
    | success => rfl
    | failure => rfl
    | other =>
        simp only
        split <;> rfl
  cases hclass : v.normalized with
  | success =>
      refine protects_unscheduled hchecked ?_ ?_ h <;> simp [verifiedTask, hclass]
  | failure =>
      refine protects_unscheduled hchecked ?_ ?_ h <;> simp [verifiedTask, hclass]
  | other =>
      by_cases hexpired : task.expiresAt.any (· ≤ now) = true
      · refine protects_unscheduled hchecked ?_ ?_ h <;> simp [verifiedTask, hclass, hexpired]
      · have hschedule : scheduleSpares task stored
            (now + seconds (nextBackoff task.attemptCount)) claimedAt = true := by
          simpa [answerSpares, hclass, hexpired] using hspares
        refine protects_scheduled hchecked ?_ ?_ hschedule h <;>
          simp [verifiedTask, hclass, hexpired]

/-- A call, at its caller's commit. -/
theorem protects_enqueue {call : EnqueueCall} {d : Dirty KoraPaymentReconciliation}
    (hd : (call.work now (some task)).task = some d) (h : stored.Protects claimedAt)
    (hspares : enqueueSpares now task stored claimedAt = true) :
    (KoraPaymentReconciliation.writeBack d stored).Protects claimedAt := by
  obtain rfl := Option.some.inj hd
  cases hcopy : task.finished with
  | true =>
      have hkept : task.state = .completed ∨ task.state = .failed := finished_cases hcopy
      rw [KoraPaymentReconciliation.protects_iff] at h ⊢
      simpa [KoraPaymentReconciliation.writeBack, if_pos hkept] using h
  | false =>
      have hopen : ¬ (task.state = .completed ∨ task.state = .failed) := by
        simpa [KoraPaymentReconciliation.finished] using hcopy
      have hschedule : scheduleSpares task stored
          (min (task.nextAttemptAt.getD now) (now + seconds 15)) claimedAt = true := by
        simpa [enqueueSpares, hcopy] using hspares
      exact protects_scheduled rfl (if_neg hopen) (if_neg hopen) hschedule h

end Commits

/-! ## Runs -/

/-- Every open claim is protected by the row of its task. -/
def ClaimsProtected (s : Store × List ClaimEvent) : Prop :=
  ∀ ticket task claimedAt, OpenClaim s.2 ticket task claimedAt →
    ∃ row, s.1.db.tasks.get task = some row ∧ row.Protects claimedAt

section Steps

variable {s : Store × List ClaimEvent} {db' : Db}

/-- Five minutes are no negative time. -/
theorem le_of_add_minutes {claimedAt now : Instant} (h : claimedAt + minutes 5 ≤ now) :
    claimedAt ≤ now := by
  refine le_trans ?_ h
  exact le_add_of_nonneg_right (by decide)

/-- A claim is made only where all open ones allow it, and is protected at once. -/
theorem claim_step (worker : String) {now : Instant} {skipped : List ℕ}
    {task : KoraPaymentReconciliation} (hdue : unlockedTask skipped now s.1.db = some task)
    (h : ClaimsProtected s) :
    (∀ ticket claimedAt, OpenClaim s.2 ticket task.id claimedAt → claimedAt + minutes 5 ≤ now) ∧
      ClaimsProtected ({ s.1 with db := (takeTask worker now s.1.db task).2 },
        s.2 ++ [.claimed s.2.length task.id now]) := by
  obtain ⟨hget, -⟩ := unlockedTask_unfinished hdue
  have hnow : task.isDue now = true := by
    have hmem := (List.mem_filter.mp (mem_of_firstBy hdue)).2
    exact (Bool.and_eq_true_iff.mp hmem).1
  have hearlier : ∀ ticket claimedAt, OpenClaim s.2 ticket task.id claimedAt →
      claimedAt + minutes 5 ≤ now := by
    intro ticket claimedAt hopen
    obtain ⟨row, hrow, hprotects⟩ := h ticket task.id claimedAt hopen
    obtain rfl := Option.some.inj (hget.symm.trans hrow)
    exact hprotects now hnow
  have htaken : (takeTask worker now s.1.db task).2.tasks = s.1.db.tasks.modify task.id
      (KoraPaymentReconciliation.writeBack ⟨task, claimedTask worker now task⟩)
      (claimedTask_key worker now task) := rfl
  refine ⟨hearlier, ?_⟩
  rintro ticket k claimedAt ⟨hclaimed, hwritten⟩
  show ∃ row, (takeTask worker now s.1.db task).2.tasks.get k = some row ∧ row.Protects claimedAt
  rw [htaken]
  simp only [List.mem_append, List.mem_singleton, ClaimEvent.claimed.injEq, reduceCtorEq,
    or_false] at hclaimed hwritten
  by_cases hk : k = task.id
  · -- the row says the time of this claim, which is none before that of an open one
    subst hk
    refine ⟨_, Table.get_modify_self hget, protects_claimed worker ?_⟩
    rcases hclaimed with hbefore | ⟨-, -, rfl⟩
    · exact le_of_add_minutes (hearlier ticket claimedAt ⟨hbefore, hwritten⟩)
    · exact le_rfl
  · rcases hclaimed with hbefore | ⟨-, hsame, -⟩
    · obtain ⟨row, hrow, hprotects⟩ := h ticket k claimedAt ⟨hbefore, hwritten⟩
      exact ⟨row, (Table.get_modify_of_ne hk).trans hrow, hprotects⟩
    · exact absurd hsame hk

/-- A commit that updates a task keeps the claims protected whose open tickets it spares;
the log may grow by what closes a ticket. -/
theorem update_step {u : UnitOfWork} {d : Dirty KoraPaymentReconciliation}
    {log : List ClaimEvent} (hflush : u.flush s.1.db = .ok db') (htask : u.task = some d)
    (hnewTask : u.newTask = none)
    (hlog : ∀ ticket k claimedAt, OpenClaim log ticket k claimedAt →
      OpenClaim s.2 ticket k claimedAt)
    (hspares : ∀ stored, s.1.db.tasks.get d.loaded.id = some stored →
      ∀ ticket claimedAt, OpenClaim log ticket d.loaded.id claimedAt → stored.Protects claimedAt →
        (KoraPaymentReconciliation.writeBack d stored).Protects claimedAt)
    (h : ClaimsProtected s) : ClaimsProtected ({ s.1 with db := db' }, log) := by
  obtain ⟨-, -, -, -, htasks, -⟩ := UnitOfWork.flush_ok hflush
  simp only [UnitOfWork.tasksAfter, hnewTask, UnitOfWork.tasksUpdated, htask,
    Option.some.injEq] at htasks
  intro ticket k claimedAt hopen
  obtain ⟨row, hrow, hprotects⟩ := h ticket k claimedAt (hlog ticket k claimedAt hopen)
  show ∃ row', db'.tasks.get k = some row' ∧ row'.Protects claimedAt
  rw [← htasks]
  by_cases hk : k = d.loaded.id
  · subst hk
    exact ⟨_, Table.get_modify_self hrow, hspares row hrow ticket claimedAt hopen hprotects⟩
  · exact ⟨row, (Table.get_modify_of_ne hk).trans hrow, hprotects⟩

/-- A commit that updates no task leaves every row where it is. -/
theorem insert_step {u : UnitOfWork} (hflush : u.flush s.1.db = .ok db') (htask : u.task = none)
    (h : ClaimsProtected s) : ClaimsProtected ({ s.1 with db := db' }, s.2) := by
  obtain ⟨-, -, -, -, htasks, -⟩ := UnitOfWork.flush_ok hflush
  simp only [UnitOfWork.tasksAfter, UnitOfWork.tasksUpdated, htask] at htasks
  intro ticket k claimedAt hopen
  obtain ⟨row, hrow, hprotects⟩ := h ticket k claimedAt hopen
  refine ⟨row, ?_, hprotects⟩
  show db'.tasks.get k = some row
  cases hnew : u.newTask with
  | none =>
      rw [hnew] at htasks
      rw [← Option.some.inj htasks, hrow]
  | some new =>
      rw [hnew] at htasks
      exact Table.get_insert_of_get htasks hrow

end Steps

/-- What a watched pool keeps: the claims made so far were exclusive, and the open ones are
protected. -/
def ClaimsKept (s : Store × List ClaimEvent) : Prop := Exclusive s.2 ∧ ClaimsProtected s

section Sessions

variable {s s' : Store × List ClaimEvent} {o : Option ((WorkerSession ⊕ EnqueueSession) × Option ℕ)}

/-- A statement of a worker keeps them. -/
theorem worker_claims {t : WorkerSession} {ticket : Option ℕ} {tick : WorkerTick}
    (hguard : claimGuard s (.inl t, ticket) (.inl tick)) (h : ClaimsKept s) :
    ClaimsKept ((t.step s.1 tick).1, (watchClaims s (.inl t, ticket) (.inl tick)).1) := by
  obtain ⟨worker, phase⟩ := t
  -- a step that changes neither the database nor the log
  have hwaiting : (WorkerSession.step ⟨worker, phase⟩ s.1 tick).1 = s.1 →
      (watchClaims s (.inl ⟨worker, phase⟩, ticket) (.inl tick)).1 = s.2 →
      ClaimsKept ((WorkerSession.step ⟨worker, phase⟩ s.1 tick).1,
        (watchClaims s (.inl ⟨worker, phase⟩, ticket) (.inl tick)).1) := by
    intro hstore hlog
    rw [hstore, hlog]
    exact h
  cases phase with
  | claiming =>
      cases hfault : tick.fault with
      -- the write-back may move the next attempt forward, which the guard allows only of its own
      -- claim
      | true =>
          exact hwaiting (by simp [WorkerSession.step, hfault]) (by simp [watchClaims, hfault])
      | false =>
          cases hdue : unlockedTask tick.skipped tick.now s.1.db with
          | none =>
              exact hwaiting (by simp [WorkerSession.step, hfault, hdue])
                (by simp [watchClaims, hfault, hdue])
          | some task =>
              -- the task was due, so that no open claim of it protects it any more
              obtain ⟨hearlier, hprotected⟩ := claim_step worker hdue h.2
              simp only [WorkerSession.step, watchClaims, hfault, hdue, Bool.false_eq_true,
                if_false]
              refine ⟨h.1.snoc ?_, hprotected⟩
              rintro _ _ _ ⟨⟩ earlier claimedAt hopen
              exact hearlier earlier claimedAt hopen
  | calling claim =>
      refine hwaiting ?_ rfl
      exact WorkerSession.step_waiting s.1 tick (by simp) (by simp)
  | reloading claim v =>
      refine hwaiting ?_ rfl
      exact WorkerSession.step_waiting s.1 tick (by simp) (by simp)
  | recording v task =>
      refine hwaiting ?_ rfl
      exact WorkerSession.step_waiting s.1 tick (by simp) (by simp)
  | writing v now task transaction =>
      cases hfault : tick.fault with
      | true =>
          exact hwaiting (by simp [WorkerSession.step, hfault]) (by simp [watchClaims, hfault])
      | false =>
          cases hfits : (writeBackStaged v now task transaction).fits with
          | false =>
              refine hwaiting ?_ (by simp [watchClaims, hfits])
              simp [WorkerSession.step, hfault, UnitOfWork.flush, hfits]
          | true =>
              obtain ⟨db, hflush⟩ := flush_of_fits s.1.db hfits rfl
              simp only [WorkerSession.step, watchClaims, hfault, hflush, hfits, Bool.not_true,
                Bool.or_self, Bool.false_eq_true, if_false]
              refine ⟨h.1.wroteBack ticket, ?_⟩
              refine update_step (d := ⟨task, verifiedTask v now task⟩) hflush rfl rfl ?_ ?_ h.2
              · intro other k claimedAt hopen
                exact hopen.of_wroteBack.1
              · intro stored hstored other claimedAt hopen hprotects
                obtain ⟨hbefore, hne⟩ := hopen.of_wroteBack
                exact protects_answer hprotects
                  (hguard hfault hfits stored hstored other claimedAt hbefore hne)

/-- A statement of a call keeps them. -/
theorem enqueue_claims {t : EnqueueSession} {ticket : Option ℕ} {tick : Tick}
    (hguard : claimGuard s (.inr t, ticket) (.inr tick)) (h : ClaimsKept s) :
    ClaimsKept ((t.step s.1 tick).1, s.2) := by
  obtain ⟨call, phase⟩ := t
  rcases EnqueueSession.step_cases ⟨call, phase⟩ s.1 tick with
    hsame | ⟨now, task, db, hphase, hfault, hflush, hwritten⟩
  · rw [hsame]
    exact h
  · obtain rfl : phase = .pending now task := hphase
    rw [hwritten]
    refine ⟨h.1, ?_⟩
    cases task with
    | none => exact insert_step (u := call.work now none) hflush rfl h.2
    | some task =>
        have hfits := (UnitOfWork.flush_ok hflush).2.2.2.2.2
        refine update_step (u := call.work now (some task)) hflush rfl rfl
          (fun _ _ _ hopen => hopen) ?_ h.2
        intro stored hstored other claimedAt hopen hprotects
        exact protects_enqueue rfl hprotects
          (hguard hfault hfits stored hstored other claimedAt hopen)

end Sessions

section Runs

variable {p p' : Pool (Store × List ClaimEvent) ((WorkerSession ⊕ EnqueueSession) × Option ℕ)}
variable {acts : List (PoolAct (String ⊕ EnqueueCall) (WorkerTick ⊕ Tick))}

/-- **A step of the pool** keeps them. -/
theorem claimsKept_step {a : PoolAct (String ⊕ EnqueueCall) (WorkerTick ⊕ Tick)}
    (hstep : watchedReconciliation.machine.step p a = some p')
    (hguard : Pool.StepMeets claimGuard p a) (h : ClaimsKept p.store) : ClaimsKept p'.store := by
  rcases Pool.step_cases hstep with ⟨-, hstore⟩ | ⟨i, x, t, s', o, rfl, ht, hadv, rfl⟩
  · rw [hstore]
    exact h
  · have hmeets := (Pool.stepMeets_advance ht).mp hguard
    obtain ⟨o', hadv', hlog, -⟩ := Sessions.watched_advance hadv
    obtain ⟨s₁, log⟩ := s'
    obtain rfl : log = (watchClaims p.store t x).1 := hlog
    obtain ⟨session, ticket⟩ := t
    rw [Pool.assign_store]
    cases session with
    | inl t =>
        obtain ⟨tick, s', o₁, rfl, hworker, heq⟩ := Sessions.sum_advance_inl hadv'
        obtain ⟨rfl, -⟩ := Prod.mk.inj (Option.some.inj hworker)
        obtain ⟨rfl, -⟩ := Prod.mk.inj heq
        exact worker_claims hmeets h
    | inr t =>
        obtain ⟨tick, s', o₁, rfl, hcall, heq⟩ := Sessions.sum_advance_inr hadv'
        obtain ⟨rfl, -⟩ := Prod.mk.inj (Option.some.inj hcall)
        obtain ⟨rfl, -⟩ := Prod.mk.inj heq
        exact enqueue_claims hmeets h

/-- **A claimed task has one worker**, in every run in which the commits leave the open
claims of other workers alone: between the commit that claims a task and the write-back of
the answer nobody claims the task, unless at least five minutes have passed. -/
theorem claims_exclusive {db : Db}
    (run : Run watchedReconciliation.machine (Pool.StepMeets claimGuard)
      (Pool.quiet (Store.start db, [])) acts p') :
    Exclusive p'.store.2 := by
  have hstart : ClaimsKept (Store.start db, []) := by
    refine ⟨exclusive_nil, ?_⟩
    rintro ticket task claimedAt ⟨hclaimed, -⟩
    cases hclaimed
  exact (run.preserves (fun _ _ _ hstep hguard h => claimsKept_step hstep hguard h) hstart).1

end Runs

/-! ## A call during a claim -/

/-- The open claims of a task in a log other than one's own all meet `q`. -/
def openClaimsMeet (log : List ClaimEvent) (own : Option ℕ) (task : ℕ) (q : Instant → Bool) :
    Bool :=
  log.all fun event =>
    match event with
    | .claimed ticket k claimedAt =>
        k ≠ task || decide (.wroteBack ticket ∈ log) || own = some ticket || q claimedAt
    | .wroteBack _ => true

/-- The test is of the open claims. -/
theorem openClaimsMeet_spec {log : List ClaimEvent} {own : Option ℕ} {task : ℕ}
    {q : Instant → Bool} (h : openClaimsMeet log own task q = true) {ticket : ℕ}
    {claimedAt : Instant} (hopen : OpenClaim log ticket task claimedAt) (hown : own ≠ some ticket) :
    q claimedAt = true := by
  have hevent := List.all_eq_true.mp h _ hopen.1
  simpa [hopen.2, hown] using hevent

/-- The test of the condition, for runs that are computed. -/
def claimTest (s : Store × List ClaimEvent) (t : (WorkerSession ⊕ EnqueueSession) × Option ℕ)
    (x : WorkerTick ⊕ Tick) : Bool :=
  match t.1, x with
  | .inl ⟨_, .writing v now task _⟩, .inl _ =>
      (s.1.db.tasks.get task.id).all fun stored =>
        openClaimsMeet s.2 t.2 task.id (answerSpares v now task stored)
  | .inr ⟨_, .pending now (some task)⟩, .inr _ =>
      (s.1.db.tasks.get task.id).all fun stored =>
        openClaimsMeet s.2 none task.id (enqueueSpares now task stored)
  | _, _ => true

/-- The test is of the condition. -/
theorem claimTest_spec (s : Store × List ClaimEvent)
    (t : (WorkerSession ⊕ EnqueueSession) × Option ℕ) (x : WorkerTick ⊕ Tick)
    (h : claimTest s t x = true) : claimGuard s t x := by
  unfold claimTest at h
  unfold claimGuard
  split
  · rename_i heq
    rw [heq] at h
    intro _ _ stored hstored ticket claimedAt hopen hne
    simp only [hstored, Option.all_some] at h
    exact openClaimsMeet_spec h hopen hne
  · rename_i heq
    rw [heq] at h
    intro _ _ stored hstored ticket claimedAt hopen
    simp only [hstored, Option.all_some] at h
    exact openClaimsMeet_spec h hopen (by simp)
  · trivial

/-- A worker claims the queued task, learns after a minute that the charge is still in
process, and writes that back; a second worker claims the task a minute later. -/
def claimInTurn : List (PoolAct (String ⊕ EnqueueCall) (WorkerTick ⊕ Tick)) :=
  [.begin 0 (.inl "afm-reconciliation-1"), workerStep 0 0 "", workerStep 0 (minutes 1) "processing",
    workerStep 0 (minutes 1) "", workerStep 0 (minutes 1) "", workerStep 0 (minutes 1) "",
    .begin 1 (.inl "afm-reconciliation-2"), workerStep 1 (minutes 2) ""]

/-- The two claims are exclusive. -/
theorem claims_exclusive_in_turn : ∃ p,
    Run watchedReconciliation.machine (Pool.StepMeets claimGuard)
        (Pool.quiet (Store.start queuedPayin, [])) claimInTurn p ∧
      p.store.2 = [.claimed 0 0 0, .wroteBack 0, .claimed 2 0 (minutes 2)] ∧
      Exclusive p.store.2 := by
  have hcheck : (watchedReconciliation.machine.check (Pool.stepTest claimTest)
      (Pool.quiet (Store.start queuedPayin, [])) claimInTurn).map (fun p => p.store.2) =
        some [.claimed 0 0 0, .wroteBack 0, .claimed 2 0 (minutes 2)] := by
    decide +kernel
  obtain ⟨p, hp, hlog⟩ := Option.map_eq_some_iff.mp hcheck
  have run := Run.of_stepTest claimTest_spec hp
  exact ⟨p, run, hlog, claims_exclusive run⟩

/-- A webhook reports the charge of the queued task as in process. -/
def processingCall : EnqueueCall := ⟨processingPayin, [("status", .str "processing")]⟩

/-- A worker claims the task and waits for the provider; the webhook puts the task back on
the schedule, and a minute after the claim a second worker claims it. -/
def claimTwice : List (PoolAct (String ⊕ EnqueueCall) (WorkerTick ⊕ Tick)) :=
  [.begin 0 (.inl "afm-reconciliation-1"), workerStep 0 0 "",
    .begin 1 (.inr processingCall), .advance 1 (.inr ⟨seconds 30, false⟩),
    .advance 1 (.inr ⟨seconds 30, false⟩),
    .begin 2 (.inl "afm-reconciliation-2"), workerStep 2 (minutes 1) ""]

/-- The first worker has not written back, and five minutes have not passed. -/
theorem task_claimed_twice : ∃ p,
    Run watchedReconciliation.machine Unguarded (Pool.quiet (Store.start queuedPayin, []))
        claimTwice p ∧
      ¬ Exclusive p.store.2 := by
  have hcheck : (watchedReconciliation.machine.check (fun _ _ => true)
      (Pool.quiet (Store.start queuedPayin, [])) claimTwice).map (fun p => p.store.2) =
        some [.claimed 0 0 0, .claimed 1 0 (minutes 1)] := by
    decide +kernel
  obtain ⟨p, hp, hlog⟩ := Option.map_eq_some_iff.mp hcheck
  refine ⟨p, (Run.of_check hp).unguarded, fun hexclusive => ?_⟩
  have hopen : OpenClaim [.claimed 0 0 0] 0 0 0 := ⟨List.mem_cons_self, by simp⟩
  have hlate := hexclusive [.claimed 0 0 0] 1 0 (minutes 1) [] hlog 0 0 hopen
  exact absurd hlate (by decide)

end AfricaFrontier
