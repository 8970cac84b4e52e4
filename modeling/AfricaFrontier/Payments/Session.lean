import AfricaFrontier.Payments.Models

/-!
# Database sessions

What an `AsyncSession` does for the Kora flows, with `autoflush` and
`expire_on_commit` off as `config/database.py` sets them.

* A `select` reads the committed database at the moment of the statement.
* Rows a session loaded are changed in its own copies; new rows wait.  Both are
  the session's `UnitOfWork`.
* `flush` is the write at commit: column by column for loaded rows
  (`writeBack`), inserts for new ones, all of it or nothing.  Column widths and
  unique columns are checked there, so a violation surfaces as an exception of
  the commit.

The commit is atomic.  Between two statements of one session any other session
may commit.
-/

namespace AfricaFrontier

open Python Relational

/-! ## Exceptions

The handlers catch some of them; the others reach the framework. -/

/-- The exceptions a handler can raise, apart from HTTP answers. -/
inductive PyError
  | value (message : String)
  | type (message : String)
  | overflow (message : String)
  | multipleResultsFound
  | integrity
  | data
  /-- The connection or the server failed during a commit. -/
  | operational
  deriving DecidableEq, Repr

/-- `str(exc)`; the texts of database errors are the driver's. -/
def PyError.text : PyError → String
  | .value message => message
  | .type message => message
  | .overflow message => message
  | .multipleResultsFound => "Multiple rows were found when one or none was required"
  | .integrity => "integrity error"
  | .data => "data error"
  | .operational => "operational error"

/-- `int(value)`. -/
def pyInt : Json → Except PyError ℤ
  | .int n => .ok n
  | .bool b => .ok (if b then 1 else 0)
  | .float (.finite negative digits exponent) =>
      let magnitude : ℕ :=
        if 0 ≤ exponent then digits * 10 ^ exponent.toNat
        else digits / 10 ^ (-exponent).toNat
      .ok (if negative then -magnitude else magnitude)
  | .float (.infinity _) => .error (.overflow "cannot convert float infinity to integer")
  | .float .nan => .error (.value "cannot convert float NaN to integer")
  | .str s =>
      match readInt s with
      | some n => .ok n
      | none => .error (.value ("invalid literal for int() with base 10: " ++ textRepr s))
  | .null => .error (.type ("int() argument must be a string, a bytes-like object " ++
      "or a real number, not " ++ textRepr "NoneType"))
  | .arr _ => .error (.type ("int() argument must be a string, a bytes-like object " ++
      "or a real number, not " ++ textRepr "list"))
  | .obj _ => .error (.type ("int() argument must be a string, a bytes-like object " ++
      "or a real number, not " ++ textRepr "dict"))

/-- `result.scalar_one_or_none()`. -/
def scalarOneOrNone {α : Type} : List α → Except PyError (Option α)
  | [] => .ok none
  | [a] => .ok (some a)
  | _ :: _ :: _ => .error .multipleResultsFound

/-- The one row of a result, when there is exactly one. -/
theorem scalarOneOrNone_eq_ok_some {α : Type} {l : List α} {a : α} :
    scalarOneOrNone l = .ok (some a) ↔ l = [a] := by
  match l with
  | [] => simp [scalarOneOrNone]
  | [b] => simp [scalarOneOrNone]
  | _ :: _ :: _ => simp [scalarOneOrNone]

/-- The result is `None` without rows. -/
theorem scalarOneOrNone_eq_ok_none {α : Type} {l : List α} :
    scalarOneOrNone l = .ok none ↔ l = [] := by
  match l with
  | [] => simp [scalarOneOrNone]
  | [b] => simp [scalarOneOrNone]
  | _ :: _ :: _ => simp [scalarOneOrNone]

/-- The result is an exception with more than one row. -/
theorem scalarOneOrNone_eq_error {α : Type} {l : List α} {e : PyError} :
    scalarOneOrNone l = .error e ↔ 2 ≤ l.length ∧ e = .multipleResultsFound := by
  match l with
  | [] => simp [scalarOneOrNone]
  | [b] => simp [scalarOneOrNone]
  | _ :: _ :: _ => simp [scalarOneOrNone, eq_comm]

/-! ## Write-back

An `UPDATE` names the columns that were changed since the row was loaded, and leaves the others as
they are stored by then. -/

/-- The `UPDATE` of a transaction row: the columns the Kora flows assign. -/
def Transaction.writeBack (d : Dirty Transaction) (stored : Transaction) : Transaction :=
  { stored with
    status := written d.loaded.status d.current.status stored.status
    pspResponse := written d.loaded.pspResponse d.current.pspResponse stored.pspResponse
    txnMetadata := written d.loaded.txnMetadata d.current.txnMetadata stored.txnMetadata
    mobileMoneyOwnerVerifiedAt := written d.loaded.mobileMoneyOwnerVerifiedAt
      d.current.mobileMoneyOwnerVerifiedAt stored.mobileMoneyOwnerVerifiedAt
    errorMessage := written d.loaded.errorMessage d.current.errorMessage stored.errorMessage
    webhookReceivedAt := written d.loaded.webhookReceivedAt d.current.webhookReceivedAt
      stored.webhookReceivedAt
    settledAt := written d.loaded.settledAt d.current.settledAt stored.settledAt }

/-- The `UPDATE` of a refund row. -/
def KoraRefund.writeBack (d : Dirty KoraRefund) (stored : KoraRefund) : KoraRefund :=
  { stored with
    status := written d.loaded.status d.current.status stored.status
    pspResponse := written d.loaded.pspResponse d.current.pspResponse stored.pspResponse
    errorMessage := written d.loaded.errorMessage d.current.errorMessage stored.errorMessage
    completedAt := written d.loaded.completedAt d.current.completedAt stored.completedAt }

/-- The `UPDATE` of a task row. -/
def KoraPaymentReconciliation.writeBack (d : Dirty KoraPaymentReconciliation)
    (stored : KoraPaymentReconciliation) : KoraPaymentReconciliation :=
  { stored with
    paymentReference := written d.loaded.paymentReference d.current.paymentReference
      stored.paymentReference
    transactionReference := written d.loaded.transactionReference
      d.current.transactionReference stored.transactionReference
    providerStatus := written d.loaded.providerStatus d.current.providerStatus
      stored.providerStatus
    state := written d.loaded.state d.current.state stored.state
    attemptCount := written d.loaded.attemptCount d.current.attemptCount stored.attemptCount
    nextAttemptAt := written d.loaded.nextAttemptAt d.current.nextAttemptAt
      stored.nextAttemptAt
    lastCheckedAt := written d.loaded.lastCheckedAt d.current.lastCheckedAt
      stored.lastCheckedAt
    lastError := written d.loaded.lastError d.current.lastError stored.lastError
    lockedAt := written d.loaded.lockedAt d.current.lockedAt stored.lockedAt
    lockedBy := written d.loaded.lockedBy d.current.lockedBy stored.lockedBy }

@[simp] theorem Transaction.key_writeBack (d : Dirty Transaction) (stored : Transaction) :
    Row.key (Transaction.writeBack d stored) = Row.key stored := rfl

@[simp] theorem KoraRefund.key_writeBack (d : Dirty KoraRefund) (stored : KoraRefund) :
    Row.key (KoraRefund.writeBack d stored) = Row.key stored := rfl

@[simp] theorem KoraPaymentReconciliation.key_writeBack
    (d : Dirty KoraPaymentReconciliation) (stored : KoraPaymentReconciliation) :
    Row.key (KoraPaymentReconciliation.writeBack d stored) = Row.key stored := rfl

/-- Writing back a copy that was not changed changes nothing. -/
theorem Transaction.writeBack_self (t stored : Transaction) :
    Transaction.writeBack ⟨t, t⟩ stored = stored := by
  simp [Transaction.writeBack]

/-- The same for a refund. -/
theorem KoraRefund.writeBack_self (r stored : KoraRefund) :
    KoraRefund.writeBack ⟨r, r⟩ stored = stored := by
  simp [KoraRefund.writeBack]

/-! Columns no flow assigns keep their stored value. -/

@[simp] theorem Transaction.writeBack_virtualAccountId (d : Dirty Transaction)
    (stored : Transaction) :
    (Transaction.writeBack d stored).virtualAccountId = stored.virtualAccountId := rfl

@[simp] theorem Transaction.writeBack_amount (d : Dirty Transaction) (stored : Transaction) :
    (Transaction.writeBack d stored).amount = stored.amount := rfl

@[simp] theorem KoraRefund.writeBack_refundReference (d : Dirty KoraRefund)
    (stored : KoraRefund) :
    (KoraRefund.writeBack d stored).refundReference = stored.refundReference := rfl

@[simp] theorem KoraRefund.writeBack_transactionId (d : Dirty KoraRefund)
    (stored : KoraRefund) :
    (KoraRefund.writeBack d stored).transactionId = stored.transactionId := rfl

@[simp] theorem KoraRefund.writeBack_amount (d : Dirty KoraRefund) (stored : KoraRefund) :
    (KoraRefund.writeBack d stored).amount = stored.amount := rfl

/-! ## The unit of work

At most one row of each table is staged by a flow here, which keeps the flush small: the rows, one
by one, and the two things that can make it fail, a text that is too long and a key that is
taken. -/

/-- Everything a session has staged for its next commit.  New rows carry a
placeholder primary key. -/
structure UnitOfWork where
  transaction : Option (Dirty Transaction) := none
  refund : Option (Dirty KoraRefund) := none
  task : Option (Dirty KoraPaymentReconciliation) := none
  newTask : Option KoraPaymentReconciliation := none
  newEntry : Option VirtualLedgerEntry := none

/-- `String(n)` holds the text. -/
def fitsIn (n : ℕ) (s : String) : Bool := s.toList.length ≤ n

/-- The column widths of a reconciliation task. -/
def KoraPaymentReconciliation.fits (task : KoraPaymentReconciliation) : Bool :=
  fitsIn 128 task.paymentReference && task.transactionReference.all (fitsIn 128) &&
    fitsIn 40 task.providerStatus

/-- The column widths of everything staged. -/
def UnitOfWork.fits (u : UnitOfWork) : Bool :=
  u.refund.all (fun d => fitsIn 20 d.current.status) &&
    u.task.all (fun d => d.current.fits) && u.newTask.all (fun task => task.fits) &&
    u.newEntry.all (fun entry => fitsIn 128 entry.referenceId)

namespace UnitOfWork

/-- The transactions after the write. -/
def transactionsAfter (u : UnitOfWork) (db : Db) : Table Transaction :=
  match u.transaction with
  | none => db.transactions
  | some d =>
      db.transactions.modify d.loaded.id (Transaction.writeBack d)
        (Transaction.key_writeBack d)

/-- The refunds after the write. -/
def refundsAfter (u : UnitOfWork) (db : Db) : Table KoraRefund :=
  match u.refund with
  | none => db.refunds
  | some d => db.refunds.modify d.loaded.id (KoraRefund.writeBack d) (KoraRefund.key_writeBack d)

/-- The ledger after the write. -/
def ledgerAfter (u : UnitOfWork) (db : Db) : Table VirtualLedgerEntry :=
  match u.newEntry with
  | none => db.ledger
  | some entry => db.ledger.add (fun n => { entry with id := n }) (fun _ => rfl) (fun _ _ h => h)

/-- The tasks after the update of a loaded task. -/
def tasksUpdated (u : UnitOfWork) (db : Db) : Table KoraPaymentReconciliation :=
  match u.task with
  | none => db.tasks
  | some d =>
      db.tasks.modify d.loaded.id (KoraPaymentReconciliation.writeBack d)
        (KoraPaymentReconciliation.key_writeBack d)

/-- The tasks after the write; `none` when the new task's transaction already has
one. -/
def tasksAfter (u : UnitOfWork) (db : Db) : Option (Table KoraPaymentReconciliation) :=
  match u.newTask with
  | none => some (u.tasksUpdated db)
  | some task => (u.tasksUpdated db).insert (fun n => { task with id := n }) (fun _ => rfl)

/-- The flush of a commit: everything staged, or an exception and nothing. -/
def flush (u : UnitOfWork) (db : Db) : Except PyError Db :=
  if u.fits then
    match u.tasksAfter db with
    | none => .error .integrity
    | some tasks =>
        .ok
          { db with
            transactions := u.transactionsAfter db
            refunds := u.refundsAfter db
            ledger := u.ledgerAfter db
            tasks := tasks }
  else .error .data

/-- What a successful flush did to each table. -/
theorem flush_ok {u : UnitOfWork} {db db' : Db} (h : u.flush db = .ok db') :
    db'.transactions = u.transactionsAfter db ∧ db'.refunds = u.refundsAfter db ∧
      db'.ledger = u.ledgerAfter db ∧ db'.events = db.events ∧
      u.tasksAfter db = some db'.tasks ∧ u.fits = true := by
  unfold flush at h
  split at h
  · rename_i hfits
    split at h
    · cases h
    · rename_i tasks htasks
      cases h
      exact ⟨rfl, rfl, rfl, rfl, htasks, hfits⟩
  · cases h

section Flush

variable {u : UnitOfWork} {db db' : Db} {i : ℕ}

/-- No transaction row disappears. -/
theorem flush_transactions_isSome (h : u.flush db = .ok db')
    (hi : (db.transactions.get i).isSome = true) :
    (db'.transactions.get i).isSome = true := by
  rw [(flush_ok h).1]
  unfold transactionsAfter
  split
  · exact hi
  · rw [Table.get_modify, Option.isSome_map]
    exact hi

/-- A transaction row after the write: the row before it, or that row with the
staged copy written back. -/
theorem flush_transactions_get (h : u.flush db = .ok db') {t' : Transaction}
    (hget : db'.transactions.get i = some t') :
    ∃ t, db.transactions.get i = some t ∧
      ((t' = t ∧ ∀ d, u.transaction = some d → d.loaded.id ≠ i) ∨
        ∃ d, u.transaction = some d ∧ d.loaded.id = i ∧ t' = Transaction.writeBack d t) := by
  rw [(flush_ok h).1] at hget
  unfold transactionsAfter at hget
  split at hget
  · rename_i hnone
    exact ⟨t', hget, Or.inl ⟨rfl, fun d hd => by rw [hnone] at hd; cases hd⟩⟩
  · rename_i d hd
    rw [Table.get_modify] at hget
    obtain ⟨t, ht, rfl⟩ := Option.map_eq_some_iff.mp hget
    refine ⟨t, ht, ?_⟩
    by_cases hi : i = d.loaded.id
    · rw [if_pos hi]
      exact Or.inr ⟨d, hd, hi.symm, rfl⟩
    · rw [if_neg hi]
      refine Or.inl ⟨rfl, fun d' hd' => ?_⟩
      obtain rfl : d = d' := Option.some.inj (hd.symm.trans hd')
      exact Ne.symm hi

/-- A refund row after the write, likewise. -/
theorem flush_refunds_mem (h : u.flush db = .ok db') {r' : KoraRefund}
    (hmem : r' ∈ db'.refunds) :
    ∃ r ∈ db.refunds, ((r' = r ∧ ∀ d, u.refund = some d → d.loaded.id ≠ r.id) ∨
      ∃ d, u.refund = some d ∧ d.loaded.id = r.id ∧ r' = KoraRefund.writeBack d r) := by
  rw [(flush_ok h).2.1] at hmem
  unfold refundsAfter at hmem
  split at hmem
  · rename_i hnone
    exact ⟨r', hmem, Or.inl ⟨rfl, fun d hd => by rw [hnone] at hd; cases hd⟩⟩
  · rename_i d hd
    obtain ⟨r, hr, rfl⟩ := Table.mem_modify.mp hmem
    refine ⟨r, hr, ?_⟩
    by_cases hi : ident r = d.loaded.id
    · rw [if_pos hi]
      exact Or.inr ⟨d, hd, hi.symm, rfl⟩
    · rw [if_neg hi]
      refine Or.inl ⟨rfl, fun d' hd' => ?_⟩
      obtain rfl : d = d' := Option.some.inj (hd.symm.trans hd')
      exact Ne.symm hi

/-- The ledger only ever gains the staged entry, under a key of its own. -/
theorem flush_ledger_rows (h : u.flush db = .ok db') :
    db'.ledger.rows =
      db.ledger.rows ++ (u.newEntry.map fun e => { e with id := db.ledger.next }).toList := by
  rw [(flush_ok h).2.2.1]
  unfold ledgerAfter
  split
  · rename_i hnone
    rw [hnone]
    simp
  · rename_i entry hentry
    rw [hentry]
    exact Table.add_rows _ _ _ _

/-- The write adds the staged entry to a count of entries, when it is of the kind
counted. -/
theorem flush_countP (h : u.flush db = .ok db') {q : VirtualLedgerEntry → Bool}
    (hq : ∀ e n, q { e with id := n } = q e) :
    db'.ledger.rows.countP q =
      db.ledger.rows.countP q + if u.newEntry.any q then 1 else 0 := by
  rw [flush_ledger_rows h, List.countP_append]
  cases u.newEntry with
  | none => simp
  | some e => simp [List.countP_singleton, hq]

/-- A transaction that was there is there after the write, written back when it was
staged. -/
theorem flush_transactions_of_get (h : u.flush db = .ok db') {t : Transaction}
    (hget : db.transactions.get i = some t) :
    (db'.transactions.get i = some t ∧ ∀ d, u.transaction = some d → d.loaded.id ≠ i) ∨
      ∃ d, u.transaction = some d ∧ d.loaded.id = i ∧
        db'.transactions.get i = some (Transaction.writeBack d t) := by
  have hstored := flush_transactions_isSome h (by rw [hget]; rfl)
  obtain ⟨t', ht'⟩ := Option.isSome_iff_exists.mp hstored
  obtain ⟨t₀, ht₀, hcase⟩ := flush_transactions_get h ht'
  obtain rfl : t = t₀ := Option.some.inj (hget.symm.trans ht₀)
  rcases hcase with ⟨rfl, huntouched⟩ | ⟨d, hd, hid, rfl⟩
  · exact Or.inl ⟨ht', huntouched⟩
  · exact Or.inr ⟨d, hd, hid, ht'⟩

/-- Likewise for a refund. -/
theorem flush_refunds_of_get (h : u.flush db = .ok db') {r : KoraRefund}
    (hget : db.refunds.get i = some r) :
    (db'.refunds.get i = some r ∧ ∀ d, u.refund = some d → d.loaded.id ≠ i) ∨
      ∃ d, u.refund = some d ∧ d.loaded.id = i ∧
        db'.refunds.get i = some (KoraRefund.writeBack d r) := by
  rw [(flush_ok h).2.1]
  unfold refundsAfter
  split
  · rename_i hnone
    exact Or.inl ⟨hget, fun d hd => by rw [hnone] at hd; cases hd⟩
  · rename_i d hd
    by_cases hi : d.loaded.id = i
    · subst hi
      exact Or.inr ⟨d, hd, rfl, Table.get_modify_self hget⟩
    · refine Or.inl ⟨?_, fun d' hd' => ?_⟩
      · rw [Table.get_modify_of_ne (Ne.symm hi), hget]
      · obtain rfl : d = d' := Option.some.inj (hd.symm.trans hd')
        exact hi

end Flush

/-- A session that staged nothing commits nothing. -/
@[simp] theorem flush_empty (db : Db) : ({} : UnitOfWork).flush db = .ok db := rfl

end UnitOfWork

end AfricaFrontier
