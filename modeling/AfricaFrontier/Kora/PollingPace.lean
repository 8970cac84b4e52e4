import AfricaFrontier.Kora.ReleasedTasks
import AfricaFrontier.Lib.Chain
import Mathlib.Tactic.Linarith

/-!
# The pace of polling

One worker, one task: from its creation on, the worker checks the task at intervals that
grow to five minutes, until the provider reports a final status or the task has expired.
`polling` is the worker over one database, call after call, while other sessions change
whatever they like but the row of the task; its state carries the list of the checks of
that task, which no code reads.

`polling_paced` says that the checks keep the pace of `next_backoff`, that the first final
one is the last, and that there are at most 293 of them.

The list of the checks is an invariant by itself: `History` says that check `k + 1` was answered,
not finally, and that check `k + 2` came at least the backoff of `k + 1` later. From it alone
follow the pace (`History.paced`) and the bound (`History.bounded`), the latter since the
intervals add up to the life of the task.

The rest of the invariant, `Standing`, ties the list to the row: on the schedule, with the count
of attempts and the time that the last check has set; claimed, with the last check open; or left,
after a final one.
-/

namespace AfricaFrontier

open Python Relational Transition Indexed

/-! ## Checks -/

/-- What a check learned, and when it was done. -/
structure CheckAnswer where
  answeredAt : Instant
  status : StatusClass
  deriving DecidableEq

/-- A check of the task: when it was claimed, and its answer once there is one. -/
structure Check where
  claimedAt : Instant
  answer : Option CheckAnswer
  deriving DecidableEq

/-- The answer is a final status, or came at the expiry of the task or later. -/
def CheckAnswer.Final (expiresAt : Instant) (answer : CheckAnswer) : Prop :=
  answer.status ≠ .other ∨ expiresAt ≤ answer.answeredAt

/-- The check learned a final answer. -/
def Check.Final (expiresAt : Instant) (a : Check) : Prop :=
  ∃ answer, a.answer = some answer ∧ answer.Final expiresAt

/-- The check was answered, and the next one came at least `gap` after the answer. -/
def Check.Precedes (gap : ℤ) (a b : Check) : Prop :=
  ∃ answer, a.answer = some answer ∧ a.claimedAt ≤ answer.answeredAt ∧
    answer.answeredAt + gap ≤ b.claimedAt

/-- **The pace**: checks are fifteen seconds apart and, from the sixth on, five minutes; a
final one is the last one, and there are at most 293. -/
structure Paced (expiresAt : Instant) (checks : List Check) : Prop where
  apart : ∀ k a b, checks[k]? = some a → checks[k + 1]? = some b → a.Precedes (seconds 15) b
  slow : ∀ k a b, 6 ≤ k + 1 → checks[k]? = some a → checks[k + 1]? = some b →
    a.Precedes (seconds 300) b
  last : ∀ k a, checks[k]? = some a → a.Final expiresAt → checks.length = k + 1
  bounded : checks.length ≤ 293

/-! ## A worker

Others may write anything but the row of the task, at any time. -/

/-- The database, the last reading of the clock, the claim of the worker's call if it is in
one, and the checks of the observed task. -/
structure PollingState where
  db : Db
  clock : Instant
  inFlight : Option Claim
  checks : List Check

/-- What happens next. -/
inductive PollingAct
  /-- A call begins: the worker claims a task nobody holds locked, if one is due. -/
  | claim (worker : String) (skipped : List ℕ) (now : Instant)
  /-- It ends: the answer is written back. -/
  | answer (outcome : ProviderOutcome) (now : Instant)
  /-- Other sessions commit. -/
  | elsewhere (db : Db)

/-- The check claimed last gets its answer. -/
def answerLast (answer : CheckAnswer) (checks : List Check) : List Check :=
  checks.dropLast ++ (checks.getLast?.map fun a => { a with answer := some answer }).toList

/-- The calls of one worker, with the task `i` observed.  The clock does not run backwards,
the provider call ends in an object or a `KoraClientError`, and commits succeed; nobody else
writes the row of the task. -/
def polling (i : ℕ) : Machine PollingState PollingAct where
  step s
    | .claim worker skipped now =>
        if s.inFlight.isNone ∧ s.clock ≤ now then
          match unlockedTask skipped now s.db with
          | none => some { s with clock := now }
          | some task =>
              let (c, db) := takeTask worker now s.db task
              some
                { db := db
                  clock := now
                  inFlight := some c
                  checks := if c.taskId = i then s.checks ++ [⟨now, none⟩] else s.checks }
        else none
    | .answer outcome now =>
        match s.inFlight, verification outcome with
        | some c, some v =>
            match writeBack c v now s.db with
            | .ok db =>
                if s.clock ≤ now then
                  some
                    { db := db
                      clock := now
                      inFlight := none
                      checks :=
                        if c.taskId = i then answerLast ⟨now, v.normalized⟩ s.checks
                        else s.checks }
                else none
            | .error _ => none
        | _, _ => none
    | .elsewhere db => if db.tasks.get i = s.db.tasks.get i then some { s with db := db } else none

/-! ## The invariant -/

section Invariant

variable {i : ℕ} {created : Instant}

/-- Check `k + 1` was answered, not finally, and check `k + 2` came at least its backoff
later. -/
def Continues (expiresAt : Instant) (k : ℕ) (a b : Check) : Prop :=
  ∃ answer, a.answer = some answer ∧ ¬ answer.Final expiresAt ∧
    a.claimedAt ≤ answer.answeredAt ∧
    answer.answeredAt + seconds (nextBackoff (k + 1)) ≤ b.claimedAt

/-- The checks so far: the first came fifteen seconds after the creation, every other one
continues its predecessor. -/
structure History (created : Instant) (checks : List Check) : Prop where
  first : ∀ a, checks[0]? = some a → created + seconds 15 ≤ a.claimedAt
  linked : Linked (Continues (created + hours 24)) checks

/-- The time for which a task that is on the schedule is put down. -/
def ScheduledFor (created : Instant) (checks : List Check) (at' : Instant) : Prop :=
  (checks = [] ∧ at' = created + seconds 15) ∨
    ∃ front a answer, checks = front ++ [a] ∧ a.answer = some answer ∧
      ¬ answer.Final (created + hours 24) ∧ a.claimedAt ≤ answer.answeredAt ∧
      at' = answer.answeredAt + seconds (nextBackoff checks.length)

/-- Where the task stands. -/
inductive Standing (i : ℕ) (created : Instant) (s : PollingState)
    (task : KoraPaymentReconciliation) : Prop
  /-- It is on the schedule. -/
  | waiting (at' : Instant) (hstate : task.state = .scheduled)
      (hnext : task.nextAttemptAt = some at') (hfor : ScheduledFor created s.checks at')
      (hfree : ∀ c, s.inFlight = some c → c.taskId ≠ i)
  /-- The worker is checking it. -/
  | checking (c : Claim) (front : List Check) (a : Check) (hclaim : s.inFlight = some c)
      (hid : c.taskId = i) (hchecks : s.checks = front ++ [a]) (hopen : a.answer = none)
      (hclock : a.claimedAt ≤ s.clock)
  /-- It will not be checked again. -/
  | ended (hrunnable : task.runnable = false) (hfree : ∀ c, s.inFlight = some c → c.taskId ≠ i)

/-- What holds along the run. -/
structure Tracked (i : ℕ) (created : Instant) (s : PollingState) : Prop where
  history : History created s.checks
  row : ∃ task, s.db.tasks.get i = some task ∧ task.attemptCount = s.checks.length ∧
    task.expiresAt = some (created + hours 24) ∧ Standing i created s task

/-! ## The backoff

Fifteen seconds, then more, up to five minutes. -/

/-- No interval is shorter than fifteen seconds. -/
theorem nextBackoff_ge (attempt : ℕ) : 15 ≤ nextBackoff attempt := by
  unfold nextBackoff
  split
  · omega
  · have hpow : (1 : ℤ) ≤ 2 ^ min (attempt - 1) 4 := one_le_pow₀ (by omega)
    exact le_min (by omega) (by omega)

/-- From the sixth on, they are five minutes. -/
theorem nextBackoff_of_ge {attempt : ℕ} (h : 6 ≤ attempt) : nextBackoff attempt = 300 := by
  rw [nextBackoff, if_pos h]

/-- More seconds are longer. -/
theorem seconds_le {m n : ℤ} (h : m ≤ n) : seconds m ≤ seconds n := by
  unfold seconds
  omega

/-- The first five intervals add up to 465 seconds, and every later one adds 300. -/
theorem sum_nextBackoff {k : ℕ} (hk : 5 ≤ k) :
    ∑ j ∈ Finset.range k, seconds (nextBackoff (j + 1)) = seconds (465 + 300 * (k - 5 : ℕ)) := by
  induction k, hk using Nat.le_induction with
  | base => decide
  | succ k hk ih =>
      rw [Finset.sum_range_succ, ih, nextBackoff_of_ge (by omega)]
      unfold seconds
      omega

/-! ## Histories -/

/-- What continues keeps any interval up to the backoff. -/
theorem Continues.precedes {expiresAt : Instant} {k : ℕ} {a b : Check} {gap : ℤ}
    (h : Continues expiresAt k a b) (hgap : gap ≤ nextBackoff (k + 1)) :
    a.Precedes (seconds gap) b := by
  obtain ⟨answer, hanswer, -, hclaimed, hnext⟩ := h
  have hle := seconds_le hgap
  exact ⟨answer, hanswer, hclaimed, by linarith⟩

/-- A final check is not continued. -/
theorem Continues.not_final {expiresAt : Instant} {k : ℕ} {a b : Check}
    (h : Continues expiresAt k a b) : ¬ a.Final expiresAt := by
  obtain ⟨answer, hanswer, hgoes, -, -⟩ := h
  rintro ⟨answer', hanswer', hfinal⟩
  obtain rfl := Option.some.inj (hanswer.symm.trans hanswer')
  exact hgoes hfinal

/-- A check that another one follows is not final. -/
theorem History.last {checks : List Check} (h : History created checks) {k : ℕ} {a : Check}
    (ha : checks[k]? = some a) (hfinal : a.Final (created + hours 24)) : checks.length = k + 1 := by
  have hlength : k < checks.length := (List.getElem?_eq_some_iff.mp ha).1
  by_contra hmore
  have hb : checks[k + 1]? = some checks[k + 1] := List.getElem?_eq_getElem (by omega)
  exact (h.linked k a _ ha hb).not_final hfinal

/-- The check `k + 1`, from the sixth on, comes no earlier than `480 + 300 (k - 5)` seconds
after the creation. -/
theorem History.claimedAt_ge {checks : List Check} (h : History created checks) {k : ℕ}
    {a : Check} (hk : 5 ≤ k) (ha : checks[k]? = some a) :
    created + seconds (480 + 300 * (k - 5 : ℕ)) ≤ a.claimedAt := by
  have hlength : k < checks.length := (List.getElem?_eq_some_iff.mp ha).1
  have hzero : checks[0]? = some checks[0] := List.getElem?_eq_getElem (by omega)
  have hfirst := h.first _ hzero
  have hsum := Linked.sum_le Check.claimedAt (fun k => seconds (nextBackoff (k + 1))) h.linked ?_
    hzero ha
  · rw [sum_nextBackoff hk] at hsum
    unfold seconds at hfirst hsum ⊢
    linarith
  · rintro k a b ⟨answer, -, -, hclaimed, hnext⟩
    linarith

/-- By the 293rd check the task has expired. -/
theorem History.bounded {checks : List Check} (h : History created checks) :
    checks.length ≤ 293 := by
  by_contra hmore
  have ha : checks[292]? = some checks[292] := List.getElem?_eq_getElem (by omega)
  have hb : checks[293]? = some checks[293] := List.getElem?_eq_getElem (by omega)
  obtain ⟨answer, -, hgoes, hclaimed, -⟩ := h.linked 292 _ _ ha hb
  have hlate := h.claimedAt_ge (by omega) ha
  refine hgoes (Or.inr ?_)
  unfold hours minutes
  unfold seconds at hlate ⊢
  push_cast at hlate
  linarith

/-- **A history keeps the pace.** -/
theorem History.paced {checks : List Check} (h : History created checks) :
    Paced (created + hours 24) checks where
  apart k a b ha hb := (h.linked k a b ha hb).precedes (nextBackoff_ge (k + 1))
  slow k a b hk ha hb := (h.linked k a b ha hb).precedes (nextBackoff_of_ge hk).ge
  last _ _ := h.last
  bounded := h.bounded

/-- A new check of a task that was on the schedule. -/
theorem History.claimed {checks : List Check} (h : History created checks) {at' now : Instant}
    (hfor : ScheduledFor created checks at') (hdue : at' ≤ now) :
    History created (checks ++ [⟨now, none⟩]) := by
  constructor
  · intro a ha
    rcases hfor with ⟨rfl, hat⟩ | ⟨front, last, answer, rfl, -⟩
    · obtain rfl : (⟨now, none⟩ : Check) = a := by simpa using ha
      show created + seconds 15 ≤ now
      linarith
    · refine h.first a ?_
      rwa [List.getElem?_append_left (by simp)] at ha
  · refine h.linked.snoc fun front a hchecks => ?_
    rcases hfor with ⟨rfl, -⟩ | ⟨front', last, answer, hlast, hanswer, hgoes, hclaimed, hat⟩
    · simp at hchecks
    · obtain ⟨rfl, hsame⟩ := List.append_inj' (hchecks.symm.trans hlast) rfl
      obtain rfl : a = last := List.singleton_inj.mp hsame
      refine ⟨answer, hanswer, hgoes, hclaimed, ?_⟩
      rw [hchecks, List.length_append, List.length_singleton] at hat
      show answer.answeredAt + seconds (nextBackoff (front.length + 1)) ≤ now
      linarith

/-- The last check is the one that is answered. -/
theorem answerLast_append (answer : CheckAnswer) (front : List Check) (a : Check) :
    answerLast answer (front ++ [a]) = front ++ [{ a with answer := some answer }] := by
  simp [answerLast]

/-- The answer to the last check changes nothing about the pace so far. -/
theorem History.answered {front : List Check} {a : Check} (h : History created (front ++ [a]))
    (answer : CheckAnswer) : History created (front ++ [{ a with answer := some answer }]) := by
  constructor
  · intro b hb
    cases front with
    | nil =>
        obtain rfl : ({ a with answer := some answer } : Check) = b := by simpa using hb
        exact h.first a rfl
    | cons c rest => exact h.first b hb
  · refine h.linked.exchange_last fun k c hc => ?_
    obtain ⟨before, hbefore, hgoes, hclaimed, hnext⟩ := hc
    exact ⟨before, hbefore, hgoes, hclaimed, hnext⟩

/-! ## The steps

A claim of the task, an answer to it, and everything that is neither. -/

/-- A task that is due can run. -/
theorem runnable_of_isDue {now : Instant} {task : KoraPaymentReconciliation}
    (h : task.isDue now = true) : task.runnable = true := by
  simp only [KoraPaymentReconciliation.isDue, Bool.or_eq_true, Bool.and_eq_true] at h
  simp only [KoraPaymentReconciliation.runnable, Bool.or_eq_true, Bool.and_eq_true]
  rcases h with ⟨hstate, hnext⟩ | ⟨hstate, hchecked⟩
  · refine Or.inl ⟨hstate, ?_⟩
    cases hat : task.nextAttemptAt with
    | none => rw [hat] at hnext; cases hnext
    | some at' => rfl
  · refine Or.inr ⟨hstate, ?_⟩
    cases hat : task.lastCheckedAt with
    | none => rw [hat] at hchecked; cases hchecked
    | some at' => rfl

/-- A claim rewrites the row of the claimed task. -/
theorem takeTask_get {worker : String} {now : Instant} {db : Db} {task : KoraPaymentReconciliation}
    (hmem : task ∈ db.tasks) (j : ℕ) :
    (takeTask worker now db task).2.tasks.get j =
      if j = task.id then some (claimedTask worker now task) else db.tasks.get j := by
  have hwritten : KoraPaymentReconciliation.writeBack ⟨task, claimedTask worker now task⟩ task =
      claimedTask worker now task := by
    simp [KoraPaymentReconciliation.writeBack, claimedTask]
  have hstored : db.tasks.get task.id = some task := Table.get_ident hmem
  show (db.tasks.modify task.id
    (KoraPaymentReconciliation.writeBack ⟨task, claimedTask worker now task⟩)
    (claimedTask_key worker now task)).get j = _
  split
  · rename_i hj
    rw [hj, Table.get_modify_self hstored, hwritten]
  · rename_i hj
    exact Table.get_modify_of_ne hj

/-- A task that is picked is stored, and due. -/
theorem unlockedTask_ok {skipped : List ℕ} {now : Instant} {db : Db}
    {task : KoraPaymentReconciliation} (h : unlockedTask skipped now db = some task) :
    task ∈ db.tasks ∧ task.isDue now = true := by
  obtain ⟨hmem, hdue⟩ := List.mem_filter.mp (mem_of_firstBy h)
  exact ⟨hmem, (Bool.and_eq_true _ _ ▸ hdue).1⟩

/-- A write-back leaves the rows of the other tasks alone. -/
theorem writeBack_others {c : Claim} {v : Verification} {now : Instant} {db db' : Db}
    (h : writeBack c v now db = .ok db') {j : ℕ} (hj : j ≠ c.taskId) :
    db'.tasks.get j = db.tasks.get j := by
  unfold writeBack at h
  split at h
  · cases h
    rfl
  · rename_i task hget
    have htasks : db'.tasks = db.tasks.modify task.id
        (KoraPaymentReconciliation.writeBack ⟨task, verifiedTask v now task⟩)
        (KoraPaymentReconciliation.key_writeBack _) :=
      (Option.some.inj (UnitOfWork.flush_ok h).2.2.2.2.1).symm
    have hid : task.id = c.taskId := Table.ident_of_get hget
    rw [htasks, Table.get_modify_of_ne (by rw [hid]; exact hj)]

@[simp] theorem verifiedTask_attemptCount (v : Verification) (now : Instant)
    (task : KoraPaymentReconciliation) :
    (verifiedTask v now task).attemptCount = task.attemptCount := by
  unfold verifiedTask
  cases v.normalized with
  | success => rfl
  | failure => rfl
  | other => by_cases hexpired : task.expiresAt.any (· ≤ now) = true <;> simp [hexpired]

/-- After an answer that is not final the task is back on the schedule. -/
theorem verifiedTask_scheduled {v : Verification} {now : Instant}
    {task : KoraPaymentReconciliation} (hother : v.normalized = .other)
    (hexpired : ¬ task.expiresAt.any (· ≤ now) = true) :
    (verifiedTask v now task).state = .scheduled ∧
      (verifiedTask v now task).nextAttemptAt =
        some (now + seconds (nextBackoff task.attemptCount)) := by
  simp [verifiedTask, hother, hexpired]

/-- The worker claims a task. -/
theorem Tracked.claim {s : PollingState} (h : Tracked i created s) {worker : String}
    {now : Instant} {task : KoraPaymentReconciliation} (hmem : task ∈ s.db.tasks)
    (hdue : task.isDue now = true) (hidle : s.inFlight = none) :
    Tracked i created
      { db := (takeTask worker now s.db task).2
        clock := now
        inFlight := some (takeTask worker now s.db task).1
        checks :=
          if (takeTask worker now s.db task).1.taskId = i then s.checks ++ [⟨now, none⟩]
          else s.checks } := by
  have hid : (takeTask worker now s.db task).1.taskId = task.id := rfl
  obtain ⟨row, hget, hcount, hexpires, hstanding⟩ := h.row
  by_cases hours : task.id = i
  · obtain rfl : task = row := by
      have hstored : s.db.tasks.get task.id = some task := Table.get_ident hmem
      rw [hours, hget] at hstored
      exact (Option.some.inj hstored).symm
    simp only [hid, if_pos hours]
    -- a task that is due is waiting, so this claim is the check its schedule names
    have hfor : ∃ at', ScheduledFor created s.checks at' ∧ at' ≤ now := by
      cases hstanding with
      | waiting at' hstate hnext hfor _ =>
          refine ⟨at', hfor, ?_⟩
          simpa [KoraPaymentReconciliation.isDue, hstate, hnext] using hdue
      | checking c _ _ hclaim _ _ _ _ =>
          rw [hidle] at hclaim
          cases hclaim
      | ended hrunnable _ =>
          rw [runnable_of_isDue hdue] at hrunnable
          cases hrunnable
    obtain ⟨at', hfor, hle⟩ := hfor
    refine ⟨h.history.claimed hfor hle, claimedTask worker now task, ?_, ?_, hexpires, ?_⟩
    · rw [takeTask_get hmem, if_pos hours.symm]
    · simp [claimedTask, hcount]
    · exact .checking _ s.checks ⟨now, none⟩ rfl hours rfl rfl le_rfl
  · simp only [hid, if_neg hours]
    refine ⟨h.history, row, ?_, hcount, hexpires, ?_⟩
    · rw [takeTask_get hmem, if_neg (Ne.symm hours), hget]
    · have hfree : ∀ c, some (takeTask worker now s.db task).1 = some c → c.taskId ≠ i := by
        rintro c hc
        cases hc
        exact hours
      cases hstanding with
      | waiting at' hstate hnext hfor _ => exact .waiting at' hstate hnext hfor hfree
      | checking c _ _ hclaim _ _ _ _ =>
          rw [hidle] at hclaim
          cases hclaim
      | ended hrunnable _ => exact .ended hrunnable hfree

/-- The answer to a check of the task itself. -/
theorem Tracked.answer {s : PollingState} (h : Tracked i created s) {c : Claim}
    (hclaim : s.inFlight = some c) (hid : c.taskId = i) {v : Verification} {now : Instant}
    {db : Db} (hwrite : writeBack c v now s.db = .ok db) (hclock : s.clock ≤ now) :
    Tracked i created
      { db := db
        clock := now
        inFlight := none
        checks := answerLast ⟨now, v.normalized⟩ s.checks } := by
  obtain ⟨row, hget, hcount, hexpires, hstanding⟩ := h.row
  have hrow : db.tasks.get i = some (verifiedTask v now row) := by
    rw [← hid] at hget ⊢
    exact writeBack_row hget hwrite
  -- the worker holds this task, so the last check is the one being answered
  have hchecking : ∃ front a, s.checks = front ++ [a] ∧ a.claimedAt ≤ s.clock := by
    cases hstanding with
    | waiting _ _ _ _ hfree => exact absurd hid (hfree c hclaim)
    | checking _ front a _ _ hchecks _ hbefore => exact ⟨front, a, hchecks, hbefore⟩
    | ended _ hfree => exact absurd hid (hfree c hclaim)
  obtain ⟨front, a, hchecks, hbefore⟩ := hchecking
  have hhistory := h.history
  rw [hchecks] at hhistory
  have hlength : (front ++ [{ a with answer := some ⟨now, v.normalized⟩ }]).length =
      s.checks.length := by
    rw [hchecks, List.length_append, List.length_append]
    rfl
  rw [hchecks, answerLast_append]
  refine ⟨hhistory.answered _, verifiedTask v now row, hrow, ?_, ?_, ?_⟩
  · rw [verifiedTask_attemptCount, hcount, hlength]
  · rw [verifiedTask_expiresAt, hexpires]
  · have hfree : ∀ c', (none : Option Claim) = some c' → c'.taskId ≠ i := fun c' hc' => by
      cases hc'
    cases hends : answerEnds v now row with
    | true => exact .ended (by rw [verifiedTask_runnable, hends]; rfl) hfree
    | false =>
        simp only [answerEnds, Bool.or_eq_false_iff, decide_eq_false_iff_not, not_not] at hends
        obtain ⟨hother, hlasts⟩ := hends
        obtain ⟨hstate, hnext⟩ := verifiedTask_scheduled hother (by rw [hlasts]; decide)
        -- the answer was not final: the next time is its backoff after now
        refine .waiting _ hstate hnext ?_ hfree
        refine Or.inr ⟨front, _, ⟨now, v.normalized⟩, rfl, rfl, ?_, hbefore.trans hclock, ?_⟩
        · rintro (hfinal | hexpired)
          · exact hfinal hother
          · rw [hexpires, Option.any_some, decide_eq_false_iff_not] at hlasts
            exact hlasts hexpired
        · rw [hlength, hcount]

/-- The answer to a check of another task. -/
theorem Tracked.answer_other {s : PollingState} (h : Tracked i created s) {c : Claim}
    (hclaim : s.inFlight = some c) (hid : c.taskId ≠ i) {v : Verification} {now : Instant}
    {db : Db} (hwrite : writeBack c v now s.db = .ok db) :
    Tracked i created { db := db, clock := now, inFlight := none, checks := s.checks } := by
  obtain ⟨row, hget, hcount, hexpires, hstanding⟩ := h.row
  refine ⟨h.history, row, ?_, hcount, hexpires, ?_⟩
  · rw [writeBack_others hwrite (Ne.symm hid), hget]
  · have hfree : ∀ c', (none : Option Claim) = some c' → c'.taskId ≠ i := fun c' hc' => by
      cases hc'
    cases hstanding with
    | waiting at' hstate hnext hfor _ => exact .waiting at' hstate hnext hfor hfree
    | checking c' _ _ hclaim' hid' _ _ _ =>
        obtain rfl := Option.some.inj (hclaim.symm.trans hclaim')
        exact absurd hid' hid
    | ended hrunnable _ => exact .ended hrunnable hfree

/-- Nothing but the row of the task, the claim and the checks matters, and the clock only
goes on. -/
theorem Tracked.congr {s s' : PollingState} (h : Tracked i created s)
    (hget : s'.db.tasks.get i = s.db.tasks.get i) (hclaim : s'.inFlight = s.inFlight)
    (hchecks : s'.checks = s.checks) (hclock : s.clock ≤ s'.clock) : Tracked i created s' := by
  obtain ⟨row, hrow, hcount, hexpires, hstanding⟩ := h.row
  refine ⟨hchecks ▸ h.history, row, hget.trans hrow, by rw [hchecks, hcount], hexpires, ?_⟩
  cases hstanding with
  | waiting at' hstate hnext hfor hfree =>
      exact .waiting at' hstate hnext (by rwa [hchecks]) (by rwa [hclaim])
  | checking c front a hc hid hlast hopen hbefore =>
      exact .checking c front a (by rw [hclaim, hc]) hid (by rw [hchecks, hlast]) hopen
        (hbefore.trans hclock)
  | ended hrunnable hfree => exact .ended hrunnable (by rwa [hclaim])

/-- **Every step keeps track.** -/
theorem Tracked.step {s s' : PollingState} {act : PollingAct}
    (hstep : (polling i).step s act = some s') (h : Tracked i created s) :
    Tracked i created s' := by
  cases act with
  | claim worker skipped now =>
      simp only [polling] at hstep
      split at hstep
      -- one worker: it claims only when it has no claim
      · rename_i hidle
        obtain ⟨hnone, hclock⟩ := hidle
        split at hstep
        · cases hstep
          exact h.congr rfl rfl rfl hclock
        · rename_i task htask
          cases hstep
          obtain ⟨hmem, hdue⟩ := unlockedTask_ok htask
          exact h.claim hmem hdue (Option.isNone_iff_eq_none.mp hnone)
      · cases hstep
  | answer outcome now =>
      simp only [polling] at hstep
      split at hstep
      · rename_i c v hclaim _
        split at hstep
        · rename_i db hwrite
          split at hstep
          · rename_i hclock
            cases hstep
            -- an answer about another task leaves the tracked one alone
            by_cases hid : c.taskId = i
            · simp only [if_pos hid]
              exact h.answer hclaim hid hwrite hclock
            · simp only [if_neg hid]
              exact h.answer_other hclaim hid hwrite
          · cases hstep
        · cases hstep
      · cases hstep
  | elsewhere db =>
      simp only [polling] at hstep
      split at hstep
      · rename_i hget
        cases hstep
        exact h.congr hget rfl rfl le_rfl
      · cases hstep

/-- A task that was just created is tracked, whatever else the worker is at. -/
theorem Tracked.start {transaction : Transaction} {data : Obj} {work : UnitOfWork}
    {before db : Db}
    (hflush : (enqueueReconciliation transaction data created none work).flush before = .ok db)
    {inFlight : Option Claim} (hother : ∀ c, inFlight = some c → c.taskId ≠ before.tasks.next)
    (clock : Instant) : Tracked before.tasks.next created ⟨db, clock, inFlight, []⟩ := by
  obtain ⟨-, -, -, -, htasks, -⟩ := UnitOfWork.flush_ok hflush
  have hnext : ∀ u : UnitOfWork, (u.tasksUpdated before).next = before.tasks.next := by
    intro u
    unfold UnitOfWork.tasksUpdated
    cases u.task <;> rfl
  simp only [UnitOfWork.tasksAfter, enqueueReconciliation] at htasks
  have hrow := Table.get_insert htasks before.tasks.next
  rw [hnext, if_pos rfl] at hrow
  refine ⟨⟨fun a ha => by simp at ha, linked_nil⟩, _, hrow, rfl, rfl, ?_⟩
  exact .waiting _ rfl rfl (Or.inl ⟨rfl, rfl⟩) hother

end Invariant

/-- **Polling is paced and finite.**  From the commit that created a task on, the checks of
that task keep the pace, however the worker's calls end and whatever other sessions commit,
and its attempt count is their number. -/
theorem polling_paced {transaction : Transaction} {data : Obj} {created : Instant}
    {work : UnitOfWork} {before db : Db}
    (hflush : (enqueueReconciliation transaction data created none work).flush before = .ok db)
    {inFlight : Option Claim} (hother : ∀ c, inFlight = some c → c.taskId ≠ before.tasks.next)
    {clock : Instant} {acts : List PollingAct} {s : PollingState}
    (run : Run (polling before.tasks.next) Unguarded ⟨db, clock, inFlight, []⟩ acts s) :
    Paced (created + hours 24) s.checks ∧
      ∃ task, s.db.tasks.get before.tasks.next = some task ∧
        task.expiresAt = some (created + hours 24) ∧ task.attemptCount = s.checks.length := by
  have htracked : Tracked before.tasks.next created s :=
    run.preserves (fun _ _ _ hstep _ h => h.step hstep) (Tracked.start hflush hother clock)
  obtain ⟨task, hget, hcount, hexpires, -⟩ := htracked.row
  exact ⟨htracked.history.paced, task, hget, hexpires, hcount⟩

/-- A pay-in with the task a webhook has just given it. -/
def enqueuedPayin : Db :=
  ((enqueueReconciliation processingPayin [] 0 none {}).flush
    (Db.holding processingPayin)).toOption.getD Db.empty

/-- Two calls of the worker, the second of which learns that the charge succeeded. -/
def twoCalls : List PollingAct :=
  [.claim "afm-reconciliation-1" [] (seconds 15), .answer (.refused "timeout") (seconds 20),
    .claim "afm-reconciliation-1" [] (seconds 36),
    .answer (.answered [("status", .str "success")]) (seconds 37)]

/-- The statement on the two calls. -/
theorem polling_paced_two_calls : ∃ s,
    Run (polling 0) Unguarded ⟨enqueuedPayin, 0, none, []⟩ twoCalls s ∧
      s.checks.length = 2 ∧ Paced (0 + hours 24) s.checks := by
  have hcheck : ((polling 0).check (fun _ _ => true) ⟨enqueuedPayin, 0, none, []⟩ twoCalls).map
      (·.checks.length) = some 2 := by
    decide +kernel
  obtain ⟨s, hs, hlength⟩ := Option.map_eq_some_iff.mp hcheck
  have run := (Run.of_check hs).unguarded
  have hflush : (enqueueReconciliation processingPayin [] 0 none {}).flush
      (Db.holding processingPayin) = .ok enqueuedPayin := rfl
  exact ⟨s, run, hlength, (polling_paced hflush (by simp) run).1⟩

end AfricaFrontier
