import AfricaFrontier.Kora.Settlement
import AfricaFrontier.Payments.Creation

/-!
# What a step does to the books

Of everything the two writers do to a database, the money results only look at two
things: the status of a transaction and the entries of the ledger.  A `Move` is
exactly that much of a step — one transaction, the status it takes, and the entry
that is added — and `SettlementStep.move` computes it from the step and the rows it
finds, with every way in which the step can raise spelled out as a check on these
rows (`paymentRefused`, `callbackRefused`, `answerRefused`).

`apply_moved` connects it to the code: the books after a step are the books before
it with its move applied, and nothing else.  Results about the books are proved
from this theorem and never unfold a handler.

The two writers are the webhook and the reconciliation worker. A payment event moves the
transaction its reference matches to the status of its class, with a debit where it is a payout
that succeeded and none is stored under its reference; a callback moves the payment of a refund
that succeeded, with the reversal; an answer to the worker moves its transaction and adds nothing.

For each of the three there is a check that says when the step raises, a lemma that says so of the
code (`payment_effect`, `callback_effect`, `writeBack_moved`), and the move. That the checks are
spelled out on the rows, and not as "the handler raises", is what lets the conditions of the
results about whole runs speak of rows.
-/

namespace AfricaFrontier

open Python Relational Transition

/-! ## Payment events -/

/-- The transaction a payment event is about: the one its reference matches. -/
def paymentTarget (data : Obj) (db : Db) : Option Transaction :=
  if paymentReference data = "" then none
  else
    match selectTransaction (paymentReference data) db with
    | .ok found => found
    | .error _ => none

/-- The debits stored under the reference of an event. -/
def debitsUnder (reference : String) (db : Db) : List VirtualLedgerEntry :=
  db.ledger.rows.filter fun entry =>
    decide (entry.referenceType = "kora_payout" ∧ entry.referenceId = reference)

/-- A successful payout event that finds no debit under its reference. -/
def debitDue (kind : EventKind) (data : Obj) (transaction : Transaction) (db : Db) : Bool :=
  paymentReadsLedger kind data transaction && (debitsUnder (paymentReference data) db).isEmpty

/-- `int(metadata.get("ledger_entry_count", 0))` does not raise. -/
def countsEntries (transaction : Transaction) : Bool :=
  match pyInt (transaction.txnMetadata.getD "ledger_entry_count" (.int 0)) with
  | .ok _ => true
  | .error _ => false

/-- The texts a pending event leaves on its task fit their columns. -/
def deferralFits (data : Obj) (transaction : Transaction)
    (task : Option KoraPaymentReconciliation) : Bool :=
  let given := data.firstText ["payment_reference"]
  let paymentReference :=
    if given = "" then transaction.pspTransactionId.getD "" else given
  let transactionReference := data.firstText ["transaction_reference"]
  fitsIn 128
      (if paymentReference = "" then (task.map (·.paymentReference)).getD ""
        else paymentReference) &&
    (if transactionReference = "" then task.bind (·.transactionReference)
      else some transactionReference).all (fitsIn 128) &&
    fitsIn 40 (statusOf data)

/-- The processing of a payment event raises on its transaction: the duplicate check
finds two debits, the metadata does not count its entries, or a text is too long
for its column. -/
def paymentRefused (kind : EventKind) (data : Obj) (transaction : Transaction) (db : Db) :
    Bool :=
  match classify (statusValue data) with
  | .success =>
      if debitDue kind data transaction db then
        !(countsEntries transaction && fitsIn 128 (paymentReference data))
      else
        paymentReadsLedger kind data transaction &&
          decide (2 ≤ (debitsUnder (paymentReference data) db).length)
  | .failure => false
  | .other =>
      match selectTask transaction.id db with
      | .ok task => !deferralFits data transaction task
      | .error _ => true

/-! ## Refund callbacks -/

/-- The reversals stored for a refund. -/
def reversalsUnder (refundReference : String) (db : Db) : List VirtualLedgerEntry :=
  db.ledger.rows.filter fun entry =>
    decide (entry.referenceType = "kora_refund" ∧ entry.referenceId = refundReference)

/-- A successful callback that finds no reversal of its refund. -/
def reversalDue (data : Obj) (refund : KoraRefund) (transaction : Transaction) (db : Db) :
    Bool :=
  callbackReadsLedger data transaction && (reversalsUnder refund.refundReference db).isEmpty

/-- The processing of a callback raises on the rows it found. -/
def callbackRefused (data : Obj) (refund : KoraRefund) (transaction : Transaction) (db : Db) :
    Bool :=
  if reversalDue data refund transaction db then !fitsIn 128 refund.refundReference
  else
    callbackReadsLedger data transaction &&
      decide (2 ≤ (reversalsUnder refund.refundReference db).length)

/-! ## Answers to the worker -/

/-- The write-back of an answer raises: a text of the task is too long. -/
def answerRefused (v : Verification) (task : KoraPaymentReconciliation) : Bool :=
  !(fitsIn 128 task.paymentReference && task.transactionReference.all (fitsIn 128) &&
    fitsIn 40 (if v.rawStatus = "" then task.providerStatus else v.rawStatus))

/-- The transaction the worker's answer is about. -/
def answerTarget (now : Instant) (db : Db) :
    Option (KoraPaymentReconciliation × Transaction) :=
  (dueTask now db).bind fun task =>
    (db.transactions.get task.transactionId).map fun transaction => (task, transaction)

/-! ## Moves

A move names one transaction; the books of all others stay. -/

/-- One transaction takes a status, and the ledger may gain an entry. -/
structure Move where
  transaction : Transaction
  status : PaymentStatus
  entry : Option VirtualLedgerEntry

/-- The move of a payment event. -/
def paymentMove (kind : EventKind) (data : Obj) (db : Db) : Option Move :=
  (paymentTarget data db).bind fun transaction =>
    if paymentRefused kind data transaction db then none
    else
      some
        { transaction := transaction
          status := statusAfter (classify (statusValue data))
          entry :=
            if debitDue kind data transaction db then
              transaction.virtualAccountId.map (payoutEntry (paymentReference data) transaction)
            else none }

/-- The move of a refund callback; only a success moves the payment. -/
def callbackMove (data : Obj) (db : Db) : Option Move :=
  match callbackTarget data db with
  | .error _ => none
  | .ok (refund, transaction) =>
      if callbackRefused data refund transaction db then none
      else
        some
          { transaction := transaction
            status :=
              if classify (statusValue data) = .success then .refunded else transaction.status
            entry :=
              if reversalDue data refund transaction db then
                transaction.virtualAccountId.map (refundEntry refund transaction)
              else none }

/-- The move of an answer to the worker, which adds no entry. -/
def answerMove (now : Instant) (outcome : ProviderOutcome) (db : Db) : Option Move :=
  (answerTarget now db).bind fun target =>
    (verification outcome).bind fun v =>
      if answerRefused v target.1 then none
      else
        some
          { transaction := target.2
            status :=
              if v.normalized = .other || target.2.status.settled then target.2.status
              else statusAfter v.normalized
            entry := none }

/-- The move of an event. -/
def webhookMove (body : Obj) (eventType : String) (db : Db) : Option Move :=
  match eventKind eventType with
  | .refund => callbackMove (bodyData body) db
  | .payout => paymentMove .payout (bodyData body) db
  | .charge => paymentMove .charge (bodyData body) db

/-- The move of a step. -/
def SettlementStep.move (db : Db) : SettlementStep → Option Move
  | .webhook body eventType _ => webhookMove body eventType db
  | .reconcile _ claimedAt outcome _ => answerMove claimedAt outcome db

/-- The books after a move: the transaction it names was stored and now has the new
status, every other status and every column the results look at is as before, no
transaction has gone, and the ledger gained the entry, under a key of its own. -/
structure Moved (m : Move) (db db' : Db) : Prop where
  stored : db.transactions.get m.transaction.id = some m.transaction
  kept : ∀ i, (db.transactions.get i).isSome = true → (db'.transactions.get i).isSome = true
  row : ∀ i t', db'.transactions.get i = some t' → ∃ t, db.transactions.get i = some t ∧
    t'.virtualAccountId = t.virtualAccountId ∧ t'.isPayout = t.isPayout ∧
    t'.status = if i = m.transaction.id then m.status else t.status
  ledger : db'.ledger.rows =
    db.ledger.rows ++ (m.entry.map fun e => { e with id := db.ledger.next }).toList

/-- The transaction a move names, after it. -/
theorem Moved.moved {m : Move} {db db' : Db} (h : Moved m db db') :
    ∃ t', db'.transactions.get m.transaction.id = some t' ∧
      t'.virtualAccountId = m.transaction.virtualAccountId ∧
      t'.isPayout = m.transaction.isPayout ∧ t'.status = m.status := by
  have hkept := h.kept m.transaction.id (by rw [h.stored]; rfl)
  obtain ⟨t', hget'⟩ := Option.isSome_iff_exists.mp hkept
  obtain ⟨t, hget, haccount, hpayout, hstatus⟩ := h.row _ t' hget'
  obtain rfl := Option.some.inj (h.stored.symm.trans hget)
  rw [if_pos rfl] at hstatus
  exact ⟨t', hget', haccount, hpayout, hstatus⟩

/-- The books after a step whose move is `o`. -/
def BooksAfter (o : Option Move) (db db' : Db) : Prop :=
  match o with
  | none => db'.transactions = db.transactions ∧ db'.ledger = db.ledger
  | some m => Moved m db db'

section Due

variable {kind : EventKind} {data : Obj} {refund : KoraRefund} {t : Transaction} {db : Db}

/-- A debit is only due in an account. -/
theorem exists_account_of_debitDue (h : debitDue kind data t db = true) :
    ∃ account, t.virtualAccountId = some account := by
  simp only [debitDue, paymentReadsLedger, Bool.and_eq_true] at h
  exact Option.isSome_iff_exists.mp h.1.2

/-- A debit is only due for a success. -/
theorem debitDue_of_class (hclass : classify (statusValue data) ≠ .success) :
    debitDue kind data t db = false := by
  simp [debitDue, paymentReadsLedger, hclass]

/-- A reversal is only due in an account. -/
theorem exists_account_of_reversalDue (h : reversalDue data refund t db = true) :
    ∃ account, t.virtualAccountId = some account := by
  simp only [reversalDue, callbackReadsLedger, Bool.and_eq_true] at h
  exact Option.isSome_iff_exists.mp h.1.2

/-- The entry of a payment event is of a kind when one is due and it is a debit of that
kind. -/
theorem payment_entry_any {q : VirtualLedgerEntry → Bool} {b : Bool}
    (hq : ∀ account, q (payoutEntry (paymentReference data) t account) = b) :
    (if debitDue kind data t db then
      t.virtualAccountId.map (payoutEntry (paymentReference data) t) else none).any q =
        (debitDue kind data t db && b) := by
  cases hdue : debitDue kind data t db with
  | false => rfl
  | true =>
      obtain ⟨account, haccount⟩ := exists_account_of_debitDue hdue
      rw [if_pos rfl, haccount, Option.map_some, Option.any_some, hq, Bool.true_and]

/-- Likewise for the reversal of a callback. -/
theorem reversal_entry_any {q : VirtualLedgerEntry → Bool} {b : Bool}
    (hq : ∀ account, q (refundEntry refund t account) = b) :
    (if reversalDue data refund t db then t.virtualAccountId.map (refundEntry refund t)
      else none).any q = (reversalDue data refund t db && b) := by
  cases hdue : reversalDue data refund t db with
  | false => rfl
  | true =>
      obtain ⟨account, haccount⟩ := exists_account_of_reversalDue hdue
      rw [if_pos rfl, haccount, Option.map_some, Option.any_some, hq, Bool.true_and]

end Due

/-! ## Commits -/

/-- A staged transaction and entry, once they are committed. -/
theorem Moved.of_flush {u : UnitOfWork} {db db' : Db} {t t' : Transaction}
    (hflush : u.flush db = .ok db') (hstaged : u.transaction = some ⟨t, t'⟩)
    (hget : db.transactions.get t.id = some t) (hpayout : t'.isPayout = t.isPayout) :
    Moved ⟨t, t'.status, u.newEntry⟩ db db' where
  stored := hget
  kept _ hi := UnitOfWork.flush_transactions_isSome hflush hi
  row i s' hs' := by
    obtain ⟨s, hs, hcase⟩ := UnitOfWork.flush_transactions_get hflush hs'
    refine ⟨s, hs, ?_⟩
    rcases hcase with ⟨rfl, huntouched⟩ | ⟨d, hd, hid, rfl⟩
    · have hne : i ≠ t.id := Ne.symm (huntouched _ hstaged)
      exact ⟨rfl, rfl, by rw [if_neg hne]⟩
    · obtain rfl : (⟨t, t'⟩ : Dirty Transaction) = d := Option.some.inj (hstaged.symm.trans hd)
      obtain rfl : i = t.id := hid.symm
      obtain rfl : t = s := Option.some.inj (hget.symm.trans hs)
      refine ⟨rfl, ?_, ?_⟩
      · simpa [Transaction.isPayout, Transaction.writeBack] using hpayout
      · rw [if_pos rfl]
        simp [Transaction.writeBack]
  ledger := UnitOfWork.flush_ledger_rows hflush

/-- Without a new task, only the widths can refuse a commit. -/
theorem flush_of_fits (db : Db) {u : UnitOfWork} (hfits : u.fits = true)
    (hnewTask : u.newTask = none) : ∃ db', u.flush db = .ok db' := by
  simp [UnitOfWork.flush, hfits, UnitOfWork.tasksAfter, hnewTask]

/-- A new task is refused only when its transaction has one. -/
theorem flush_of_fits_newTask {u : UnitOfWork} {db : Db} {task : KoraPaymentReconciliation}
    (hfits : u.fits = true) (htask : u.task = none) (hnewTask : u.newTask = some task)
    (hnone : selectTask task.transactionId db = .ok none) : ∃ db', u.flush db = .ok db' := by
  have hrows := scalarOneOrNone_eq_ok_none.mp hnone
  cases hinsert : (u.tasksUpdated db).insert (fun n => { task with id := n }) (fun _ => rfl) with
  | some tasks => simp [UnitOfWork.flush, hfits, UnitOfWork.tasksAfter, hnewTask, hinsert]
  | none =>
      obtain ⟨r, hr, hclash⟩ := Table.exists_clash_of_insert hinsert
      simp only [UnitOfWork.tasksUpdated, htask] at hr
      have hmem : r ∈ db.tasks.rows.filter fun stored =>
          decide (stored.transactionId = task.transactionId) :=
        List.mem_filter.mpr ⟨hr, decide_eq_true hclash⟩
      rw [hrows] at hmem
      cases hmem

/-! ## Payment events -/

/-- The target of an event is what its query finds. -/
theorem paymentTarget_eq_some {data : Obj} {db : Db} {t : Transaction}
    (h : paymentTarget data db = some t) :
    paymentReference data ≠ "" ∧ selectTransaction (paymentReference data) db = .ok (some t) := by
  unfold paymentTarget at h
  split at h
  · cases h
  · rename_i hne
    refine ⟨hne, ?_⟩
    split at h
    · rename_i hselect
      rw [hselect, h]
    · cases h

/-- An event with a target is applied to it. -/
theorem processKoraPayment_of_target {data : Obj} {db : Db} {t : Transaction}
    (h : paymentTarget data db = some t) (kind : EventKind) (now : Instant) :
    processKoraPayment kind data now db = applyPayment kind data now t db := by
  obtain ⟨hne, hselect⟩ := paymentTarget_eq_some h
  unfold processKoraPayment
  rw [if_neg hne, hselect]
  rfl

/-- An event without a target stages nothing. -/
theorem processKoraPayment_of_no_target {kind : EventKind} {data : Obj} {now : Instant}
    {db : Db} {u : UnitOfWork} (h : paymentTarget data db = none)
    (hu : processKoraPayment kind data now db = .ok u) : u = {} := by
  rcases processKoraPayment_ok hu with ⟨t, hselect, -⟩ | ⟨-, -, rfl⟩
  · exfalso
    unfold processKoraPayment at hu
    split at hu
    · cases hu
    · rename_i hne
      simp [paymentTarget, hne, hselect] at h
  · rfl

/-- The counter of entries can be raised. -/
theorem countsEntries_eq_true {t : Transaction} (h : countsEntries t = true) :
    ∃ metadata, debitedMetadata t.txnMetadata = .ok metadata ∧
      metadata.get "operation" = t.txnMetadata.get "operation" := by
  unfold countsEntries at h
  split at h
  · rename_i count hcount
    refine ⟨_, by rw [debitedMetadata, hcount]; rfl, ?_⟩
    rw [Obj.get_set_of_ne _ _ (by decide), Obj.get_set_of_ne _ _ (by decide)]
  · cases h

/-- Where the counter of entries cannot be raised, its text is no number. -/
theorem countsEntries_eq_false {t : Transaction} (h : countsEntries t = false) :
    ∃ e, debitedMetadata t.txnMetadata = .error e := by
  unfold countsEntries at h
  split at h
  · cases h
  · rename_i e hraise
    exact ⟨e, by rw [debitedMetadata, hraise]; rfl⟩

/-- A success with no debit to write only moves the status. -/
theorem settlePayment_plain {kind : EventKind} {t : Transaction}
    {existing : Option VirtualLedgerEntry} (data : Obj) (now : Instant)
    (h : kind = .payout → t.virtualAccountId ≠ none → existing ≠ none) :
    ∃ t', settlePayment kind data now t existing = .ok { transaction := some ⟨t, t'⟩ } ∧
      t'.status = .completed ∧ t'.isPayout = t.isPayout := by
  unfold settlePayment
  cases haccount : t.virtualAccountId with
  | none => exact ⟨_, rfl, rfl, rfl⟩
  | some account =>
      have hplain : ¬ (kind = .payout ∧ existing = none) := fun ⟨hkind, hnone⟩ =>
        h hkind (by rw [haccount]; exact Option.some_ne_none _) hnone
      simp only [if_neg hplain]
      exact ⟨_, rfl, rfl, rfl⟩

/-- A success that writes its debit. -/
theorem settlePayment_debit {t : Transaction} {account : ℕ} {metadata : Obj} (data : Obj)
    (now : Instant) (haccount : t.virtualAccountId = some account)
    (hmetadata : debitedMetadata t.txnMetadata = .ok metadata)
    (hoperation : metadata.get "operation" = t.txnMetadata.get "operation") :
    ∃ t', settlePayment .payout data now t none =
        .ok
          { transaction := some ⟨t, t'⟩
            newEntry := some (payoutEntry (paymentReference data) t account) } ∧
      t'.status = .completed ∧ t'.isPayout = t.isPayout := by
  simp only [settlePayment, haccount, and_self, if_true, hmetadata]
  refine ⟨_, rfl, rfl, ?_⟩
  show decide (metadata.get "operation" = .str "payout") = t.isPayout
  rw [hoperation, Transaction.isPayout]

/-- The handler raises, or what it staged is refused at the commit. -/
def Raises (handled : Except PyError UnitOfWork) (db : Db) : Prop :=
  ∀ u db', handled = .ok u → u.flush db ≠ .ok db'

/-- The event commits a transaction with the status of its class, and its debit when
that is due. -/
def PaymentCommits (kind : EventKind) (data : Obj) (now : Instant) (t : Transaction) (db : Db) :
    Prop :=
  ∃ u t' db', applyPayment kind data now t db = .ok u ∧ u.transaction = some ⟨t, t'⟩ ∧
    t'.status = statusAfter (classify (statusValue data)) ∧ t'.isPayout = t.isPayout ∧
    u.newEntry = (if debitDue kind data t db then
      t.virtualAccountId.map (payoutEntry (paymentReference data) t) else none) ∧
    u.flush db = .ok db'

section PaymentEffect

variable {kind : EventKind} {data : Obj} {t : Transaction} {db : Db} (now : Instant)

/-- A success whose debit is due commits both, or raises. -/
theorem success_due (hclass : classify (statusValue data) = .success)
    (hdue : debitDue kind data t db = true) :
    ((countsEntries t && fitsIn 128 (paymentReference data)) = true →
        PaymentCommits kind data now t db) ∧
      ((countsEntries t && fitsIn 128 (paymentReference data)) = false →
        Raises (applyPayment kind data now t db) db) := by
  obtain ⟨hreads, hnone⟩ : paymentReadsLedger kind data t = true ∧
      debitsUnder (paymentReference data) db = [] := by
    simpa [debitDue] using hdue
  obtain ⟨rfl, -⟩ : kind = .payout ∧ t.virtualAccountId.isSome = true := by
    simpa [paymentReadsLedger, hclass] using hreads
  obtain ⟨account, haccount⟩ := exists_account_of_debitDue hdue
  -- no debit is stored under the reference, so that one is staged
  have hentry : settledEntry .payout data t db = .ok none := by
    rw [settledEntry, if_pos hreads]
    exact scalarOneOrNone_eq_ok_none.mpr hnone
  have happly : applyPayment .payout data now t db = settlePayment .payout data now t none := by
    simp only [applyPayment, hclass, hentry]
    rfl
  constructor
  · intro hgood
    obtain ⟨hcounts, hfits⟩ := Bool.and_eq_true_iff.mp hgood
    obtain ⟨metadata, hmetadata, hoperation⟩ := countsEntries_eq_true hcounts
    obtain ⟨t', hsettled, hstatus, hpayout⟩ :=
      settlePayment_debit data now haccount hmetadata hoperation
    have hwidths : UnitOfWork.fits
        { transaction := some ⟨t, t'⟩
          newEntry := some (payoutEntry (paymentReference data) t account) } = true := by
      simp [UnitOfWork.fits, payoutEntry, hfits]
    obtain ⟨db', hflush⟩ := flush_of_fits db hwidths rfl
    refine ⟨_, t', db', happly.trans hsettled, rfl, ?_, hpayout, ?_, hflush⟩
    · rw [hclass]
      exact hstatus
    · rw [hdue, haccount]
      rfl
  -- either the entry cannot be computed, or it does not fit its columns
  · intro hbad u db' hu hflush
    rw [happly] at hu
    rcases Bool.and_eq_false_iff.mp hbad with hcounts | hfits
    · obtain ⟨e, he⟩ := countsEntries_eq_false hcounts
      simp only [settlePayment, haccount, and_self, if_true, he] at hu
      cases hu
    · cases hcounts : countsEntries t with
      | false =>
          obtain ⟨e, he⟩ := countsEntries_eq_false hcounts
          simp only [settlePayment, haccount, and_self, if_true, he] at hu
          cases hu
      | true =>
          obtain ⟨metadata, hmetadata, hoperation⟩ := countsEntries_eq_true hcounts
          obtain ⟨t', hsettled, -⟩ := settlePayment_debit data now haccount hmetadata hoperation
          obtain rfl := Except.ok.inj (hsettled.symm.trans hu)
          have hwidth := (UnitOfWork.flush_ok hflush).2.2.2.2.2
          simp [UnitOfWork.fits, payoutEntry, hfits] at hwidth

/-- A success with no debit to write commits, unless its lookup is ambiguous. -/
theorem success_not_due (hclass : classify (statusValue data) = .success)
    (hdue : debitDue kind data t db = false) :
    ((paymentReadsLedger kind data t &&
        decide (2 ≤ (debitsUnder (paymentReference data) db).length)) = true →
        Raises (applyPayment kind data now t db) db) ∧
      ((paymentReadsLedger kind data t &&
        decide (2 ≤ (debitsUnder (paymentReference data) db).length)) = false →
        PaymentCommits kind data now t db) := by
  have happly : applyPayment kind data now t db =
      settledEntry kind data t db >>= settlePayment kind data now t := by
    simp only [applyPayment, hclass]
  -- what the lookup has to return for the success to commit without a debit
  have commits : ∀ existing, settledEntry kind data t db = .ok existing →
      (kind = .payout → t.virtualAccountId ≠ none → existing ≠ none) →
      PaymentCommits kind data now t db := by
    intro existing hentry hplain
    obtain ⟨t', hsettled, hstatus, hpayout⟩ := settlePayment_plain data now hplain
    obtain ⟨db', hflush⟩ :=
      flush_of_fits db (u := { transaction := some ⟨t, t'⟩ }) rfl rfl
    rw [hentry] at happly
    refine ⟨_, t', db', happly.trans hsettled, rfl, ?_, hpayout, ?_, hflush⟩
    · rw [hclass]
      exact hstatus
    · rw [hdue]
      rfl
  cases hreads : paymentReadsLedger kind data t with
  | false =>
      refine ⟨fun h => (by cases h), fun _ => ?_⟩
      refine commits none (by rw [settledEntry, hreads]; rfl) fun hkind haccount => ?_
      exfalso
      simp [paymentReadsLedger, hclass, hkind, haccount] at hreads
  | true =>
      have hentry : settledEntry kind data t db =
          scalarOneOrNone (debitsUnder (paymentReference data) db) := by
        rw [settledEntry, if_pos hreads]
        rfl
      cases hrows : debitsUnder (paymentReference data) db with
      | nil => simp [debitDue, hreads, hrows] at hdue
      | cons e rest =>
          cases rest with
          | nil =>
              rw [hrows] at hentry
              exact ⟨fun h => (by cases h), fun _ =>
                commits (some e) hentry fun _ _ => Option.some_ne_none e⟩
          | cons e' rest =>
              refine ⟨fun _ u db' hu => ?_, fun h => (by simp at h)⟩
              rw [happly, hentry, hrows] at hu
              cases hu

/-- A failure always commits. -/
theorem failure_commits (hclass : classify (statusValue data) = .failure) :
    PaymentCommits kind data now t db := by
  have happly : applyPayment kind data now t db = .ok (failPayment data now t) := by
    simp only [applyPayment, hclass]
    rfl
  obtain ⟨db', hflush⟩ := flush_of_fits db (u := failPayment data now t) rfl rfl
  have hdue : debitDue kind data t db = false := debitDue_of_class (by rw [hclass]; decide)
  refine ⟨_, _, db', happly, rfl, ?_, ?_, ?_, hflush⟩
  · rw [hclass]
    rfl
  · simp [Transaction.isPayout, Obj.get_set_of_ne]
  · rw [hdue]
    rfl

/-- A pending event fits exactly when its task does. -/
theorem deferPayment_fits (data : Obj) (now : Instant) (t : Transaction)
    (task : Option KoraPaymentReconciliation) :
    (deferPayment data now t task).fits = deferralFits data t task := by
  unfold deferPayment deferralFits enqueueReconciliation
  cases task with
  | none =>
      have hblank : ∀ s : String, (if s = "" then "" else s) = s := fun s => by
        split
        · rename_i hs
          exact hs.symm
        · rfl
      simp only [UnitOfWork.fits, KoraPaymentReconciliation.fits, nonEmpty, Option.all_none,
        Option.all_some, Option.map_none, Option.bind_none, Option.getD_none, Bool.true_and,
        Bool.and_true, hblank]
  | some task =>
      simp only [UnitOfWork.fits, KoraPaymentReconciliation.fits, Option.all_none,
        Option.all_some, Option.map_some, Option.bind_some, Option.getD_some, Bool.true_and,
        Bool.and_true]

/-- A pending event commits when its task fits, and raises otherwise. -/
theorem pending_effect {task : Option KoraPaymentReconciliation}
    (hclass : classify (statusValue data) = .other) (htask : selectTask t.id db = .ok task) :
    (deferralFits data t task = true → PaymentCommits kind data now t db) ∧
      (deferralFits data t task = false → Raises (applyPayment kind data now t db) db) := by
  have happly : applyPayment kind data now t db = .ok (deferPayment data now t task) := by
    simp only [applyPayment, hclass, htask]
    rfl
  rw [← deferPayment_fits data now]
  constructor
  · intro hwidth
    obtain ⟨db', hflush⟩ : ∃ db', (deferPayment data now t task).flush db = .ok db' := by
      cases task with
      | none => exact flush_of_fits_newTask hwidth rfl rfl htask
      | some task => exact flush_of_fits db hwidth rfl
    have hdue : debitDue kind data t db = false := debitDue_of_class (by rw [hclass]; decide)
    refine ⟨_, _, db', happly, enqueueReconciliation_transaction _ _ _ _ _, ?_, ?_, ?_, hflush⟩
    · rw [hclass]
      rfl
    · simp [Transaction.isPayout, scheduledMetadata, Obj.get_set_of_ne]
    · rw [hdue]
      exact enqueueReconciliation_newEntry _ _ _ _ _
  · intro hwidth u db' hu hflush
    obtain rfl := Except.ok.inj (happly.symm.trans hu)
    have hfits := (UnitOfWork.flush_ok hflush).2.2.2.2.2
    rw [hwidth] at hfits
    cases hfits

/-- A payment event on its transaction raises exactly when it is refused, and otherwise
commits. -/
theorem payment_effect :
    (paymentRefused kind data t db = true → Raises (applyPayment kind data now t db) db) ∧
      (paymentRefused kind data t db = false → PaymentCommits kind data now t db) := by
  unfold paymentRefused
  cases hclass : classify (statusValue data) with
  | success =>
      cases hdue : debitDue kind data t db with
      | true =>
          obtain ⟨hcommits, hraises⟩ := success_due now hclass hdue
          simp only [if_true]
          exact ⟨fun h => hraises ((Bool.not_eq_true' _).mp h),
            fun h => hcommits ((Bool.not_eq_false' _).mp h)⟩
      | false =>
          simp only [Bool.false_eq_true, if_false]
          exact success_not_due now hclass hdue
  | failure => exact ⟨fun h => (by cases h), fun _ => failure_commits now hclass⟩
  | other =>
      cases htask : selectTask t.id db with
      | error e =>
          refine ⟨fun _ u db' hu => ?_, fun h => (by cases h)⟩
          simp only [applyPayment, hclass, htask] at hu
          cases hu
      | ok task =>
          obtain ⟨hcommits, hraises⟩ := pending_effect now hclass htask
          exact ⟨fun h => hraises (by simpa using h), fun h => hcommits (by simpa using h)⟩

end PaymentEffect

/-! ## Webhook steps

An event that raises moves nothing, and an event without a target neither. -/

/-- The effect of an event whose work is stored. -/
theorem webhookEffect_of_ok {body : Obj} {eventType : String} {now : Instant} {db db' : Db}
    {u : UnitOfWork} (hprocess : processKoraWebhookBusinessEvent body eventType now db = .ok u)
    (hflush : u.flush db = .ok db') : webhookEffect body eventType now db = db' := by
  simp only [webhookEffect, hprocess, hflush]

/-- An event that raises has none. -/
theorem webhookEffect_of_raises {body : Obj} {eventType : String} {now : Instant} {db : Db}
    (h : Raises (processKoraWebhookBusinessEvent body eventType now db) db) :
    webhookEffect body eventType now db = db := by
  rcases webhookEffect_cases body eventType now db with hsame | ⟨u, hprocess, hflush⟩
  · exact hsame
  · exact absurd hflush (h u _ hprocess)

/-- A step without a move leaves the books as they are. -/
theorem BooksAfter.unchanged {db : Db} : BooksAfter none db db := ⟨rfl, rfl⟩

/-- A payment event moves the books as computed. -/
theorem payment_moved {kind : EventKind} {body : Obj} {eventType : String} {now : Instant}
    {db : Db} (hprocess : processKoraWebhookBusinessEvent body eventType now db =
      processKoraPayment kind (bodyData body) now db) :
    BooksAfter (paymentMove kind (bodyData body) db) db
      (webhookEffect body eventType now db) := by
  cases htarget : paymentTarget (bodyData body) db with
  -- no transaction is named: nothing is staged, or the handler raises
  | none =>
      have hmove : paymentMove kind (bodyData body) db = none := by simp [paymentMove, htarget]
      have hsame : webhookEffect body eventType now db = db := by
        rcases webhookEffect_cases body eventType now db with hsame | ⟨u, hu, hflush⟩
        · exact hsame
        · obtain rfl := processKoraPayment_of_no_target htarget (hprocess.symm.trans hu)
          rw [UnitOfWork.flush_empty] at hflush
          exact (Except.ok.inj hflush).symm
      rw [hmove, hsame]
      exact BooksAfter.unchanged
  | some t =>
      have happly := processKoraPayment_of_target htarget kind now
      obtain ⟨hraises, hcommits⟩ := @payment_effect kind (bodyData body) t db now
      cases hrefused : paymentRefused kind (bodyData body) t db with
      -- the handler or its commit fails, and the books stay
      | true =>
          have hmove : paymentMove kind (bodyData body) db = none := by
            simp [paymentMove, htarget, hrefused]
          have hsame : webhookEffect body eventType now db = db := by
            refine webhookEffect_of_raises ?_
            rw [hprocess, happly]
            exact hraises hrefused
          rw [hmove, hsame]
          exact BooksAfter.unchanged
      | false =>
          obtain ⟨u, t', db', hu, hstaged, hstatus, hpayout, hentry, hflush⟩ := hcommits hrefused
          rw [webhookEffect_of_ok (hprocess.trans (happly.trans hu)) hflush]
          have hget := selectTransaction_get (paymentTarget_eq_some htarget).2
          have hmoved := Moved.of_flush hflush hstaged hget hpayout
          rw [hstatus, hentry] at hmoved
          simp only [paymentMove, htarget, hrefused, Option.bind_some, Bool.false_eq_true,
            if_false]
          exact hmoved

/-- Only a success refunds the payment. -/
theorem parentAfterCallback_status (data : Obj) (refund : KoraRefund) (t : Transaction) :
    (parentAfterCallback data refund t).status =
      if classify (statusValue data) = .success then .refunded else t.status := by
  unfold parentAfterCallback
  cases classify (statusValue data) <;> rfl

/-- A callback does not change what the transaction is. -/
theorem parentAfterCallback_isPayout (data : Obj) (refund : KoraRefund) (t : Transaction) :
    (parentAfterCallback data refund t).isPayout = t.isPayout := by
  unfold parentAfterCallback
  cases classify (statusValue data) <;> simp [Transaction.isPayout, Obj.get_set_of_ne]

/-- The duplicate check of a callback raises when two reversals are stored, and else
decides whether one is due. -/
theorem callbackEntry_effect (data : Obj) (refund : KoraRefund) (t : Transaction) (db : Db) :
    ((callbackReadsLedger data t &&
        decide (2 ≤ (reversalsUnder refund.refundReference db).length)) = true →
        ∀ existing, callbackEntry data refund t db ≠ .ok existing) ∧
      ((callbackReadsLedger data t &&
        decide (2 ≤ (reversalsUnder refund.refundReference db).length)) = false →
        ∃ existing, callbackEntry data refund t db = .ok existing ∧
          (callbackReadsLedger data t && existing.isNone) = reversalDue data refund t db) := by
  unfold reversalDue callbackEntry
  cases hreads : callbackReadsLedger data t with
  | false => exact ⟨fun h => (by cases h), fun _ => ⟨none, rfl, rfl⟩⟩
  | true =>
      match hrows : reversalsUnder refund.refundReference db with
      | [] =>
          exact ⟨fun h => (by cases h), fun _ =>
            ⟨none, scalarOneOrNone_eq_ok_none.mpr hrows, rfl⟩⟩
      | [e] =>
          exact ⟨fun h => (by cases h), fun _ =>
            ⟨some e, scalarOneOrNone_eq_ok_some.mpr hrows, rfl⟩⟩
      | e :: e' :: rest =>
          have hambiguous : selectEntry "kora_refund" refund.refundReference db =
              .error .multipleResultsFound :=
            scalarOneOrNone_eq_error.mpr ⟨(congrArg List.length hrows).ge.trans' (by simp), rfl⟩
          simp [hambiguous]

/-- A callback stages a reversal exactly when one is due. -/
theorem refundCallback_entry {data : Obj} {refund : KoraRefund} {t : Transaction} {db : Db}
    {existing : Option VirtualLedgerEntry} (now : Instant)
    (hdue : (callbackReadsLedger data t && existing.isNone) = reversalDue data refund t db) :
    (refundCallback data now refund t existing).newEntry =
      if reversalDue data refund t db then t.virtualAccountId.map (refundEntry refund t)
      else none := by
  simp only [refundCallback, hdue]

/-- The width of the reference decides whether a reversal that is due can be stored. -/
theorem refundCallback_fits {data : Obj} {refund : KoraRefund} {t : Transaction} {db : Db}
    {existing : Option VirtualLedgerEntry} (now : Instant)
    (hdue : (callbackReadsLedger data t && existing.isNone) = reversalDue data refund t db) :
    (refundCallback data now refund t existing).fits =
      (!reversalDue data refund t db || fitsIn 128 refund.refundReference) := by
  have hstatus : fitsIn 20 (refundAfterCallback data now refund).status = true := by
    unfold refundAfterCallback
    cases classify (statusValue data) <;> simp [fitsIn]
  have hrefund : (refundCallback data now refund t existing).refund =
      some ⟨refund, refundAfterCallback data now refund⟩ := rfl
  have htask : (refundCallback data now refund t existing).task = none ∧
      (refundCallback data now refund t existing).newTask = none := ⟨rfl, rfl⟩
  rw [UnitOfWork.fits, refundCallback_entry now hdue, hrefund, htask.1, htask.2, Option.all_some,
    hstatus]
  cases hreversal : reversalDue data refund t db with
  | false => rfl
  | true =>
      obtain ⟨account, haccount⟩ := exists_account_of_reversalDue hreversal
      rw [haccount]
      rfl

/-- A callback on the rows it found raises exactly when it is refused, and otherwise
commits. -/
theorem callback_effect {data : Obj} (now : Instant) {db : Db} {refund : KoraRefund}
    {t : Transaction} (htarget : callbackTarget data db = .ok (refund, t)) :
    (callbackRefused data refund t db = true → Raises (processKoraRefundWebhook data now db) db) ∧
      (callbackRefused data refund t db = false →
        ∃ existing db',
          processKoraRefundWebhook data now db =
            .ok (refundCallback data now refund t existing) ∧
          (callbackReadsLedger data t && existing.isNone) = reversalDue data refund t db ∧
          (refundCallback data now refund t existing).flush db = .ok db') := by
  obtain ⟨hambiguous, hlookup⟩ := callbackEntry_effect data refund t db
  unfold callbackRefused
  cases hcheck : callbackReadsLedger data t &&
      decide (2 ≤ (reversalsUnder refund.refundReference db).length) with
  -- two reversals under the reference are an exception of the query
  | true =>
      have hdue : reversalDue data refund t db = false := by
        obtain ⟨-, hlength⟩ := Bool.and_eq_true_iff.mp hcheck
        have htwo := of_decide_eq_true hlength
        cases hrows : reversalsUnder refund.refundReference db with
        | nil =>
            rw [hrows, List.length_nil] at htwo
            omega
        | cons e rest => simp [reversalDue, hrows]
      rw [hdue]
      refine ⟨fun _ u db' hu => ?_, fun h => (by cases h)⟩
      obtain ⟨existing, hentry, -⟩ := (processKoraRefundWebhook_iff htarget).mp hu
      exact absurd hentry (hambiguous hcheck existing)
  | false =>
      obtain ⟨existing, hentry, hagrees⟩ := hlookup hcheck
      have hfits := refundCallback_fits now hagrees
      constructor
      · intro hrefused u db' hu hflush
        obtain ⟨existing', hentry', rfl⟩ := (processKoraRefundWebhook_iff htarget).mp hu
        obtain rfl := Except.ok.inj (hentry.symm.trans hentry')
        have hwidth := (UnitOfWork.flush_ok hflush).2.2.2.2.2
        rw [hfits] at hwidth
        cases hdue : reversalDue data refund t db with
        | true => simp [hdue] at hrefused hwidth; simp [hrefused] at hwidth
        | false => simp [hdue] at hrefused
      · intro hallowed
        have hwidth : (refundCallback data now refund t existing).fits = true := by
          rw [hfits]
          cases hdue : reversalDue data refund t db with
          | true => simpa [hdue] using hallowed
          | false => rfl
        obtain ⟨db', hflush⟩ := flush_of_fits db hwidth rfl
        exact ⟨existing, db', (processKoraRefundWebhook_iff htarget).mpr ⟨existing, hentry, rfl⟩,
          hagrees, hflush⟩

/-- A refund callback moves the books as computed. -/
theorem callback_moved {body : Obj} {eventType : String} {now : Instant} {db : Db}
    (hkind : eventKind eventType = .refund) :
    BooksAfter (callbackMove (bodyData body) db) db (webhookEffect body eventType now db) := by
  have hprocess : processKoraWebhookBusinessEvent body eventType now db =
      processKoraRefundWebhook (bodyData body) now db := by
    simp only [processKoraWebhookBusinessEvent, hkind]
  cases htarget : callbackTarget (bodyData body) db with
  -- the refund or its transaction is not there
  | error e =>
      have hmove : callbackMove (bodyData body) db = none := by simp only [callbackMove, htarget]
      have hraises : Raises (processKoraWebhookBusinessEvent body eventType now db) db := by
        intro u db' hu
        rw [hprocess, processKoraRefundWebhook_eq, htarget] at hu
        cases hu
      rw [hmove, webhookEffect_of_raises hraises]
      exact BooksAfter.unchanged
  | ok target =>
      obtain ⟨refund, t⟩ := target
      obtain ⟨hraises, hcommits⟩ := callback_effect now htarget
      cases hrefused : callbackRefused (bodyData body) refund t db with
      | true =>
          have hmove : callbackMove (bodyData body) db = none := by
            simp only [callbackMove, htarget, hrefused, if_true]
          have hsame : webhookEffect body eventType now db = db := by
            refine webhookEffect_of_raises ?_
            rw [hprocess]
            exact hraises hrefused
          rw [hmove, hsame]
          exact BooksAfter.unchanged
      | false =>
          obtain ⟨existing, db', hu, hagrees, hflush⟩ := hcommits hrefused
          rw [webhookEffect_of_ok (hprocess.trans hu) hflush]
          have hstored : db.transactions.get t.id = some t :=
            Table.get_ident (Table.mem_of_get (callbackTarget_ok htarget).2.1)
          have hmoved := Moved.of_flush hflush rfl hstored
            (parentAfterCallback_isPayout (bodyData body) refund t)
          rw [refundCallback_entry now hagrees, parentAfterCallback_status] at hmoved
          simp only [callbackMove, htarget, hrefused, Bool.false_eq_true, if_false]
          exact hmoved

/-! ## Worker steps

The worker claims its task in one transaction and writes the answer in another; only the second
moves the books. -/

/-- The worker's status for the transaction it answers about. -/
theorem verifiedTransaction_status (v : Verification) (provider : String) (now : Instant)
    (t : Transaction) :
    (verifiedTransaction v provider now t).status =
      if v.normalized = .other || t.status.settled then t.status
      else statusAfter v.normalized := by
  unfold verifiedTransaction
  cases v.normalized with
  | success => cases hsettled : t.status.settled <;> simp [statusAfter]
  | failure => cases hsettled : t.status.settled <;> simp [statusAfter]
  | other => rfl

/-- The worker leaves the metadata alone. -/
theorem verifiedTransaction_txnMetadata (v : Verification) (provider : String) (now : Instant)
    (t : Transaction) : (verifiedTransaction v provider now t).txnMetadata = t.txnMetadata := by
  unfold verifiedTransaction
  cases v.normalized with
  | success => cases hsettled : t.status.settled <;> simp
  | failure => cases hsettled : t.status.settled <;> simp
  | other => rfl

/-- A refused answer is one whose task no longer fits. -/
theorem verifiedTask_fits (v : Verification) (worker : String) (claimedAt now : Instant)
    (task : KoraPaymentReconciliation) :
    (verifiedTask v now (claimedTask worker claimedAt task)).fits = !answerRefused v task := by
  unfold verifiedTask answerRefused
  rw [Bool.not_not]
  cases v.normalized with
  | success => simp only [KoraPaymentReconciliation.fits, claimedTask]
  | failure => simp only [KoraPaymentReconciliation.fits, claimedTask]
  | other =>
      by_cases hexpired : task.expiresAt.any (· ≤ now) = true
      · simp only [claimedTask, hexpired, if_true, KoraPaymentReconciliation.fits]
      · simp only [claimedTask, hexpired, Bool.false_eq_true, if_false,
          KoraPaymentReconciliation.fits]

/-- The books only depend on transactions and ledger. -/
theorem Moved.of_eq {m : Move} {db₀ db db' : Db} (h : Moved m db db')
    (ht : db.transactions = db₀.transactions) (hl : db.ledger = db₀.ledger) : Moved m db₀ db' where
  stored := by
    rw [← ht]
    exact h.stored
  kept i hi := h.kept i (by rw [ht]; exact hi)
  row i t' hget' := by
    rw [← ht]
    exact h.row i t' hget'
  ledger := by
    rw [← hl]
    exact h.ledger

/-- The write-back of an answer, after the claim. -/
theorem writeBack_moved {task : KoraPaymentReconciliation} {t : Transaction} {claimed : Db}
    (v : Verification) (worker : String) (claimedAt now : Instant)
    (hget : claimed.transactions.get task.transactionId = some t) :
    (answerRefused v task = true → ∀ db',
        (writeBackStaged v now (claimedTask worker claimedAt task) (some t)).flush claimed ≠
          .ok db') ∧
      (answerRefused v task = false → ∃ db',
        (writeBackStaged v now (claimedTask worker claimedAt task) (some t)).flush claimed =
          .ok db' ∧
        Moved
          ⟨t, if v.normalized = .other || t.status.settled then t.status
            else statusAfter v.normalized, none⟩ claimed db') := by
  have hfits : (writeBackStaged v now (claimedTask worker claimedAt task) (some t)).fits =
      !answerRefused v task := by
    rw [← verifiedTask_fits v worker claimedAt now]
    simp [UnitOfWork.fits, writeBackStaged]
  -- the widths of the staged rows decide, and only those
  constructor
  · intro hrefused db' hflush
    have hwidth := (UnitOfWork.flush_ok hflush).2.2.2.2.2
    rw [hfits, hrefused] at hwidth
    cases hwidth
  · intro hallowed
    rw [hallowed] at hfits
    obtain ⟨db', hflush⟩ := flush_of_fits claimed hfits rfl
    refine ⟨db', hflush, ?_⟩
    have hstored : claimed.transactions.get t.id = some t :=
      Table.get_ident (Table.mem_of_get hget)
    have hmoved := Moved.of_flush hflush rfl hstored
      (by rw [Transaction.isPayout, verifiedTransaction_txnMetadata, Transaction.isPayout])
    rw [verifiedTransaction_status] at hmoved
    exact hmoved

/-- A worker call after its claim. -/
theorem reconcileDueOnce_claimed {worker : String} {claimedAt answeredAt : Instant}
    {outcome : ProviderOutcome} {db claimed : Db} {c : Claim} {v : Verification}
    (hclaim : claim worker claimedAt db = some (c, claimed))
    (hv : verification outcome = some v) :
    reconcileDueOnce worker claimedAt outcome answeredAt db =
      match writeBack c v answeredAt claimed with
      | .ok db' => db'
      | .error _ => claimed := by
  cases hwritten : writeBack c v answeredAt claimed with
  | ok db' => simp only [reconcileDueOnce, hclaim, hv, hwritten]
  | error e => simp only [reconcileDueOnce, hclaim, hv, hwritten]

/-- An answer to the worker moves the books as computed. -/
theorem answer_moved (worker : String) (claimedAt : Instant) (outcome : ProviderOutcome)
    (answeredAt : Instant) (db : Db) :
    BooksAfter (answerMove claimedAt outcome db) db
      (reconcileDueOnce worker claimedAt outcome answeredAt db) := by
  cases hdue : dueTask claimedAt db with
  -- nothing is due
  | none =>
      have hmove : answerMove claimedAt outcome db = none := by
        simp [answerMove, answerTarget, hdue]
      have hsame : reconcileDueOnce worker claimedAt outcome answeredAt db = db := by
        simp [reconcileDueOnce, claim, hdue]
      rw [hmove, hsame]
      exact BooksAfter.unchanged
  | some task =>
      obtain ⟨⟨c, claimed⟩, hclaim⟩ : ∃ claimed, claim worker claimedAt db = some claimed := by
        simp [claim, hdue]
      -- the claim touches neither transactions nor the ledger
      obtain ⟨task', hdue', hid, htask, ht, -, hl⟩ := claim_ok hclaim
      obtain rfl : task = task' := Option.some.inj (hdue.symm.trans hdue')
      cases hv : verification outcome with
      | none =>
          have hmove : answerMove claimedAt outcome db = none := by simp [answerMove, hv]
          have hclaimed : reconcileDueOnce worker claimedAt outcome answeredAt db = claimed := by
            simp only [reconcileDueOnce, hclaim, hv]
          rw [hmove, hclaimed]
          exact ⟨ht, hl⟩
      | some v =>
          have hwrite : writeBack c v answeredAt claimed =
              (writeBackStaged v answeredAt (claimedTask worker claimedAt task)
                (claimed.transactions.get task.transactionId)).flush claimed := by
            simp only [writeBack, hid, htask, claimedTask]
          rw [reconcileDueOnce_claimed hclaim hv, hwrite]
          cases hget : claimed.transactions.get task.transactionId with
          | none =>
              have hmove : answerMove claimedAt outcome db = none := by
                rw [ht] at hget
                simp [answerMove, answerTarget, hdue, hget]
              rw [hmove]
              cases hflush : UnitOfWork.flush
                  (writeBackStaged v answeredAt (claimedTask worker claimedAt task) none)
                  claimed with
              | error e => exact ⟨ht, hl⟩
              | ok db' =>
                  obtain ⟨ht', -, hl', -⟩ := UnitOfWork.flush_ok hflush
                  exact ⟨ht'.trans ht, hl'.trans hl⟩
          | some t =>
              obtain ⟨hraises, hcommits⟩ := writeBack_moved v worker claimedAt answeredAt hget
              rw [ht] at hget
              simp only [answerMove, answerTarget, hdue, hget, hv, Option.bind_some,
                Option.map_some]
              cases hrefused : answerRefused v task with
              | true =>
                  cases hflush : UnitOfWork.flush
                      (writeBackStaged v answeredAt (claimedTask worker claimedAt task)
                        (some t)) claimed with
                  | error e => exact ⟨ht, hl⟩
                  | ok db' => exact absurd hflush (hraises hrefused db')
              | false =>
                  obtain ⟨db', hflush, hmoved⟩ := hcommits hrefused
                  rw [hflush]
                  exact hmoved.of_eq ht hl

/-- **The books after a step** are the books before it with its move applied. -/
theorem apply_moved (db : Db) (step : SettlementStep) :
    BooksAfter (step.move db) db (step.apply db) := by
  cases step with
  | webhook body eventType now =>
      show BooksAfter (webhookMove body eventType db) db (webhookEffect body eventType now db)
      unfold webhookMove
      cases hkind : eventKind eventType with
      | refund => exact callback_moved hkind
      | payout =>
          have hprocess : processKoraWebhookBusinessEvent body eventType now db =
              processKoraPayment .payout (bodyData body) now db := by
            simp only [processKoraWebhookBusinessEvent, hkind]
          exact payment_moved hprocess
      | charge =>
          have hprocess : processKoraWebhookBusinessEvent body eventType now db =
              processKoraPayment .charge (bodyData body) now db := by
            simp only [processKoraWebhookBusinessEvent, hkind]
          exact payment_moved hprocess
  | reconcile worker claimedAt outcome answeredAt =>
      exact answer_moved worker claimedAt outcome answeredAt db

end AfricaFrontier
