import AfricaFrontier.Kora.Webhook
import AfricaFrontier.Lib.Run
import AfricaFrontier.Python.Subscript

/-!
# What the handlers do to the tables

Specification lemmas for the two writers of transactions, used by every result
about them: each says once what a successful call read and what it left behind,
so later proofs do not unfold the handlers.

`settlement` is the sequential system of the two writers: webhook events, each
processed and committed or rolled back, and calls of the reconciliation worker,
in any order and number.

The lemmas come in pairs: what a query that succeeded has found (`selectTransaction_ok`,
`selectRefund_ok`, `callbackTarget_ok`), and what the computation on it stages (`applyPayment_ok`,
`processKoraRefundWebhook_iff`, `writeBack_ok`). The last section joins them into one statement
for each of the two writers, `webhookEffect_cases` and `reconcileDueOnce_cases`, from which the
results about statuses, debits and money start.
-/

namespace AfricaFrontier

open Python Relational Transition

/-! ## Refund callbacks

A callback acts on two rows, or raises before it has staged anything. -/

/-- The rows a refund callback acts on: the refund its references hit and that
refund's parent transaction. -/
def callbackTarget (data : Obj) (db : Db) : Except PyError (KoraRefund × Transaction) := do
  let refs ← refundReferences data
  let refund ← selectRefund refs db
  let transaction ← selectParent refund db
  pure (refund, transaction)

/-- The handler, as a computation on its two rows. -/
theorem processKoraRefundWebhook_eq (data : Obj) (now : Instant) (db : Db) :
    processKoraRefundWebhook data now db =
      callbackTarget data db >>= fun target =>
        callbackEntry data target.1 target.2 db >>= fun existing =>
          .ok (refundCallback data now target.1 target.2 existing) := by
  simp only [processKoraRefundWebhook, callbackTarget, bind, Except.bind, pure, Except.pure]
  cases refundReferences data with
  | error e => rfl
  | ok refs =>
      cases hrefund : selectRefund refs db with
      | error e => simp [hrefund]
      | ok refund =>
          cases hparent : selectParent refund db with
          | error e => simp [hrefund, hparent]
          | ok transaction => simp only [hrefund, hparent]

/-- What it returns is staged on the rows it found. -/
theorem processKoraRefundWebhook_ok {data : Obj} {now : Instant} {db : Db} {u : UnitOfWork}
    (h : processKoraRefundWebhook data now db = .ok u) :
    ∃ refund transaction existing,
      callbackTarget data db = .ok (refund, transaction) ∧
        callbackEntry data refund transaction db = .ok existing ∧
        u = refundCallback data now refund transaction existing := by
  rw [processKoraRefundWebhook_eq] at h
  obtain ⟨⟨refund, transaction⟩, htarget, h⟩ := bind_eq_ok.mp h
  obtain ⟨existing, hentry, hu⟩ := bind_eq_ok.mp h
  cases hu
  exact ⟨refund, transaction, existing, htarget, hentry, rfl⟩

/-- The handler returns exactly what it stages for the rows it found. -/
theorem processKoraRefundWebhook_iff {data : Obj} {now : Instant} {db : Db}
    {refund : KoraRefund} {t : Transaction} (htarget : callbackTarget data db = .ok (refund, t))
    {u : UnitOfWork} :
    processKoraRefundWebhook data now db = .ok u ↔
      ∃ existing, callbackEntry data refund t db = .ok existing ∧
        u = refundCallback data now refund t existing := by
  rw [processKoraRefundWebhook_eq, htarget]
  simp only [bind, Except.bind]
  cases callbackEntry data refund t db with
  | error e => simp
  | ok existing => simp only [Except.ok.injEq, exists_eq_left', eq_comm]

/-- The refund already carries what the callback writes to it. -/
def refundRecords (data : Obj) (now : Instant) (refund : KoraRefund) : Prop :=
  refund.pspResponse.set "webhook" (.obj data) = refund.pspResponse ∧
    match classify (statusValue data) with
    | .success => refund.status = "success" ∧ refund.completedAt = some now
    | .failure =>
        refund.status = "failed" ∧ refund.errorMessage = some (slice 255
          (((data.get "status_reason").orElse
            ((data.get "message").orElse (.str "Kora refund failed"))).text))
    | .other => refund.status = "processing"

/-- A callback leaves a refund alone that says so already. -/
theorem refundAfterCallback_eq_iff (data : Obj) (now : Instant) (refund : KoraRefund) :
    refundAfterCallback data now refund = refund ↔ refundRecords data now refund := by
  obtain ⟨⟩ := refund
  unfold refundAfterCallback refundRecords
  cases classify (statusValue data) with
  | success =>
      simp only [KoraRefund.mk.injEq, true_and, and_true, eq_comm]
      tauto
  | failure =>
      simp only [KoraRefund.mk.injEq, true_and, and_true, eq_comm]
      tauto
  | other =>
      simp only [KoraRefund.mk.injEq, true_and, and_true, eq_comm]
      tauto

/-- The payment already carries what a callback on this refund writes to it. -/
def parentRecords (data : Obj) (refund : KoraRefund) (transaction : Transaction) : Prop :=
  let noted (status : String) : Obj :=
    (transaction.txnMetadata.set "refund_status" (.str status)).set "refund_reference"
      (.str refund.refundReference)
  match classify (statusValue data) with
  | .success =>
      transaction.status = .refunded ∧
        (noted "success").set "reconciliation_status" (.str "matched") = transaction.txnMetadata
  | .failure =>
      (noted "failed").set "reconciliation_status" (.str "exception") = transaction.txnMetadata
  | .other => noted "processing" = transaction.txnMetadata

/-- A callback changes nothing of a payment exactly if the payment carries what it writes. -/
theorem parentAfterCallback_eq_iff (data : Obj) (refund : KoraRefund)
    (transaction : Transaction) :
    parentAfterCallback data refund transaction = transaction ↔
      parentRecords data refund transaction := by
  obtain ⟨⟩ := transaction
  unfold parentAfterCallback parentRecords
  cases classify (statusValue data) with
  | success =>
      simp only [Transaction.mk.injEq, true_and, and_true]
      exact and_congr_left fun _ => eq_comm
  | failure => simp only [Transaction.mk.injEq, true_and, and_true]
  | other => simp only [Transaction.mk.injEq, true_and, and_true]

/-- The refund that is taken is the newest of the hits. -/
theorem selectRefund_ok {refs : RefundReferences} {db : Db} {refund : KoraRefund}
    (h : selectRefund refs db = .ok refund) :
    firstBy newerFirst (refs.hits db) = some refund ∧ refund ∈ db.refunds := by
  unfold selectRefund at h
  split at h
  · cases h
  · rename_i found hfound
    cases h
    exact ⟨hfound, (List.mem_filter.mp (mem_of_firstBy hfound)).1⟩

/-- The payment of a refund lies in the AFM ledger. -/
theorem selectParent_ok {refund : KoraRefund} {db : Db} {t : Transaction}
    (h : selectParent refund db = .ok t) :
    db.transactions.get refund.transactionId = some t ∧ t.ledgerNamespace = afmPayments := by
  unfold selectParent at h
  split at h
  · cases h
  · rename_i parent hget
    split at h
    · rename_i hns
      cases h
      exact ⟨hget, hns⟩
    · cases h

/-- The target is a stored refund one of the references hits, with its stored
parent in the AFM namespace. -/
theorem callbackTarget_ok {data : Obj} {db : Db} {refund : KoraRefund}
    {transaction : Transaction} (h : callbackTarget data db = .ok (refund, transaction)) :
    refund ∈ db.refunds ∧ db.transactions.get refund.transactionId = some transaction ∧
      transaction.ledgerNamespace = afmPayments := by
  obtain ⟨refs, -, h⟩ := bind_eq_ok.mp h
  obtain ⟨refund', hrefund, h⟩ := bind_eq_ok.mp h
  obtain ⟨transaction', hparent, h⟩ := bind_eq_ok.mp h
  cases h
  exact ⟨(selectRefund_ok hrefund).2, selectParent_ok hparent⟩

/-! ## Payment events -/

/-- The transaction that is found is stored and matches. -/
theorem selectTransaction_ok {reference : String} {db : Db} {t : Transaction}
    (h : selectTransaction reference db = .ok (some t)) :
    t ∈ db.transactions ∧ t.matchesReference reference = true := by
  have hrows := scalarOneOrNone_eq_ok_some.mp h
  have hmem : t ∈ db.transactions.rows.filter (Transaction.matchesReference reference) := by
    rw [hrows]
    exact List.mem_singleton_self t
  exact List.mem_filter.mp hmem

/-- The transaction that is found is stored under its key. -/
theorem selectTransaction_get {reference : String} {db : Db} {t : Transaction}
    (h : selectTransaction reference db = .ok (some t)) :
    db.transactions.get t.id = some t :=
  Table.get_ident (selectTransaction_ok h).1

/-- A payment event has matched one, or stages nothing. -/
theorem processKoraPayment_ok {kind : EventKind} {data : Obj} {now : Instant} {db : Db}
    {u : UnitOfWork} (h : processKoraPayment kind data now db = .ok u) :
    (∃ t, selectTransaction (paymentReference data) db = .ok (some t) ∧
        applyPayment kind data now t db = .ok u) ∨
      (selectTransaction (paymentReference data) db = .ok none ∧ kind ≠ .payout ∧ u = {}) := by
  unfold processKoraPayment at h
  split at h
  · cases h
  · obtain ⟨found, hselect, h⟩ := bind_eq_ok.mp h
    cases found with
    | some t => exact Or.inl ⟨t, hselect, h⟩
    | none =>
        simp only [unmatchedPayment] at h
        split at h
        · cases h
        · rename_i hkind
          cases h
          exact Or.inr ⟨hselect, hkind, rfl⟩

/-- The status an event of a class leaves on the transaction it matched. -/
def statusAfter : StatusClass → PaymentStatus
  | .success => .completed
  | .failure => .failed
  | .other => .processing

/-- The state of a refund its callback of a class leaves. -/
def StatusClass.refundStatus : StatusClass → String
  | .success => "success"
  | .failure => "failed"
  | .other => "processing"

/-- A task leaves the other rows of a unit of work alone. -/
theorem enqueueReconciliation_transaction (t : Transaction) (data : Obj) (now : Instant)
    (task : Option KoraPaymentReconciliation) (u : UnitOfWork) :
    (enqueueReconciliation t data now task u).transaction = u.transaction := by
  cases task <;> rfl

theorem enqueueReconciliation_refund (t : Transaction) (data : Obj) (now : Instant)
    (task : Option KoraPaymentReconciliation) (u : UnitOfWork) :
    (enqueueReconciliation t data now task u).refund = u.refund := by
  cases task <;> rfl

theorem enqueueReconciliation_newEntry (t : Transaction) (data : Obj) (now : Instant)
    (task : Option KoraPaymentReconciliation) (u : UnitOfWork) :
    (enqueueReconciliation t data now task u).newEntry = u.newEntry := by
  cases task <;> rfl

/-- What a payment event stages for its transaction: the status of its class, on
the same ledger, and the time of its arrival; and nothing for any refund. -/
theorem applyPayment_ok {kind : EventKind} {data : Obj} {now : Instant} {t : Transaction}
    {db : Db} {u : UnitOfWork} (h : applyPayment kind data now t db = .ok u) :
    ∃ t', u.transaction = some ⟨t, t'⟩ ∧
      t'.status = statusAfter (classify (statusValue data)) ∧ u.refund = none ∧
      t'.webhookReceivedAt = some now := by
  unfold applyPayment at h
  cases hclass : classify (statusValue data) with
  -- with a debit or without one, the transaction is completed
  | success =>
      simp only [hclass] at h
      obtain ⟨existing, -, h⟩ := bind_eq_ok.mp h
      unfold settlePayment at h
      split at h
      · split at h
        · obtain ⟨metadata, -, h⟩ := bind_eq_ok.mp h
          cases h
          exact ⟨_, rfl, rfl, rfl, rfl⟩
        · cases h
          exact ⟨_, rfl, rfl, rfl, rfl⟩
      · cases h
        exact ⟨_, rfl, rfl, rfl, rfl⟩
  | failure =>
      simp only [hclass] at h
      cases h
      exact ⟨_, rfl, rfl, rfl, rfl⟩
  | other =>
      simp only [hclass] at h
      obtain ⟨task, -, h⟩ := bind_eq_ok.mp h
      cases h
      exact ⟨_, enqueueReconciliation_transaction _ _ _ _ _, rfl,
        enqueueReconciliation_refund _ _ _ _ _, rfl⟩

/-- The duplicate check found nothing. -/
theorem selectEntry_none {referenceType referenceId : String} {db : Db}
    (h : selectEntry referenceType referenceId db = .ok none) {e : VirtualLedgerEntry}
    (he : e ∈ db.ledger) (htype : e.referenceType = referenceType) :
    e.referenceId ≠ referenceId := by
  intro hid
  have hrows := scalarOneOrNone_eq_ok_none.mp h
  have hmem : e ∈ db.ledger.rows.filter fun entry =>
      decide (entry.referenceType = referenceType ∧ entry.referenceId = referenceId) :=
    List.mem_filter.mpr ⟨he, decide_eq_true ⟨htype, hid⟩⟩
  rw [hrows] at hmem
  cases hmem

/-- The duplicate check found an entry. -/
theorem selectEntry_some {referenceType referenceId : String} {db : Db}
    {e : VirtualLedgerEntry} (h : selectEntry referenceType referenceId db = .ok (some e)) :
    e ∈ db.ledger ∧ e.referenceType = referenceType ∧ e.referenceId = referenceId := by
  have hrows := scalarOneOrNone_eq_ok_some.mp h
  have hmem : e ∈ db.ledger.rows.filter fun entry =>
      decide (entry.referenceType = referenceType ∧ entry.referenceId = referenceId) := by
    rw [hrows]
    exact List.mem_singleton_self e
  obtain ⟨hstored, hmatch⟩ := List.mem_filter.mp hmem
  exact ⟨hstored, of_decide_eq_true hmatch⟩

/-- The only entry a payment event can stage is the debit of a successful payout
whose reference has none yet. -/
theorem applyPayment_newEntry {kind : EventKind} {data : Obj} {now : Instant}
    {t : Transaction} {db : Db} {u : UnitOfWork} {entry : VirtualLedgerEntry}
    (h : applyPayment kind data now t db = .ok u) (hentry : u.newEntry = some entry) :
    paymentReadsLedger kind data t = true ∧
      selectEntry "kora_payout" (paymentReference data) db = .ok none ∧
      ∃ account, t.virtualAccountId = some account ∧
        entry = payoutEntry (paymentReference data) t account := by
  unfold applyPayment at h
  cases hclass : classify (statusValue data) with
  -- only a success stages an entry, the debit of a payout with an account
  | success =>
      simp only [hclass] at h
      obtain ⟨existing, hexisting, h⟩ := bind_eq_ok.mp h
      unfold settlePayment at h
      split at h
      · rename_i account haccount
        split at h
        · rename_i hpayout
          obtain ⟨metadata, -, h⟩ := bind_eq_ok.mp h
          cases h
          obtain ⟨hkind, rfl⟩ := hpayout
          have hreads : paymentReadsLedger kind data t = true := by
            simp [paymentReadsLedger, hclass, hkind, haccount]
          rw [settledEntry, if_pos hreads] at hexisting
          exact ⟨hreads, hexisting, account, haccount, (Option.some.inj hentry).symm⟩
        · cases h
          cases hentry
      · cases h
        cases hentry
  | failure =>
      simp only [hclass] at h
      cases h
      cases hentry
  | other =>
      simp only [hclass] at h
      obtain ⟨task, -, h⟩ := bind_eq_ok.mp h
      cases h
      rw [deferPayment, enqueueReconciliation_newEntry] at hentry
      cases hentry

/-! ## The worker's two transactions -/

/-- A claim marks one due task and touches no other table. -/
theorem claim_ok {worker : String} {now : Instant} {db db' : Db} {c : Claim}
    (h : claim worker now db = some (c, db')) :
    ∃ task, dueTask now db = some task ∧ c.taskId = task.id ∧
      db'.tasks.get task.id = some (claimedTask worker now task) ∧
      db'.transactions = db.transactions ∧ db'.refunds = db.refunds ∧
      db'.ledger = db.ledger := by
  obtain ⟨task, hdue, heq⟩ := Option.map_eq_some_iff.mp h
  obtain ⟨rfl, rfl⟩ := Prod.mk.inj heq
  have hmem : task ∈ db.tasks := (List.mem_filter.mp (mem_of_firstBy hdue)).1
  have hget : db.tasks.get task.id = some task := Table.get_ident hmem
  refine ⟨task, hdue, rfl, ?_, rfl, rfl, rfl⟩
  rw [Table.get_modify_self hget]
  simp [KoraPaymentReconciliation.writeBack, claimedTask]

/-- The transaction part of a write-back: nothing, or the verified copy of the
task's transaction. -/
theorem writeBack_ok {c : Claim} {v : Verification} {now : Instant} {db db' : Db}
    (h : writeBack c v now db = .ok db') :
    (db'.transactions = db.transactions ∨
      ∃ task t provider, db.tasks.get c.taskId = some task ∧
        db.transactions.get task.transactionId = some t ∧
        db'.transactions = db.transactions.modify t.id
          (Transaction.writeBack ⟨t, verifiedTransaction v provider now t⟩)
          (Transaction.key_writeBack _)) ∧
      db'.refunds = db.refunds ∧ db'.ledger = db.ledger := by
  unfold writeBack at h
  cases htask : db.tasks.get c.taskId with
  | none =>
      simp only [htask] at h
      cases h
      exact ⟨Or.inl rfl, rfl, rfl⟩
  | some task =>
      simp only [htask] at h
      obtain ⟨ht, hr, hl, -, -, -⟩ := UnitOfWork.flush_ok h
      refine ⟨?_, hr, hl⟩
      cases hget : db.transactions.get task.transactionId with
      | none =>
          left
          simpa [writeBackStaged, hget, UnitOfWork.transactionsAfter] using ht
      | some t =>
          right
          refine ⟨task, t, (verifiedTask v now task).providerStatus, rfl, hget, ?_⟩
          simpa [writeBackStaged, hget, UnitOfWork.transactionsAfter] using ht

/-! ## The sequential system

Each step has the database to itself. What happens between the statements of concurrent requests
is the subject of the modules on sessions. -/

/-- A step of one of the two writers: an event that is handled, or a call of the worker from its
claim to its write-back. -/
inductive SettlementStep
  | webhook (body : Obj) (eventType : String) (now : Instant)
  | reconcile (worker : String) (claimedAt : Instant) (outcome : ProviderOutcome)
      (answeredAt : Instant)

/-- One event, processed and committed; any exception rolls everything back. -/
def webhookEffect (body : Obj) (eventType : String) (now : Instant) (db : Db) : Db :=
  match processKoraWebhookBusinessEvent body eventType now db with
  | .error _ => db
  | .ok u =>
      match u.flush db with
      | .ok db' => db'
      | .error _ => db

/-- The database after a step. -/
def SettlementStep.apply (db : Db) : SettlementStep → Db
  | .webhook body eventType now => webhookEffect body eventType now db
  | .reconcile worker claimedAt outcome answeredAt =>
      reconcileDueOnce worker claimedAt outcome answeredAt db

/-- Webhook events and worker calls, one after the other, each with the database to itself. -/
def settlement : Machine Db SettlementStep := Machine.total SettlementStep.apply

/-- An event either changes nothing or commits what its handler staged. -/
theorem webhookEffect_cases (body : Obj) (eventType : String) (now : Instant) (db : Db) :
    webhookEffect body eventType now db = db ∨
      ∃ u, processKoraWebhookBusinessEvent body eventType now db = .ok u ∧
        u.flush db = .ok (webhookEffect body eventType now db) := by
  unfold webhookEffect
  cases hprocess : processKoraWebhookBusinessEvent body eventType now db with
  | error e => exact Or.inl rfl
  | ok u =>
      cases hflush : u.flush db with
      | error e => exact Or.inl (by simp [hflush])
      | ok db' => exact Or.inr ⟨u, rfl, by simp [hflush]⟩

/-- The transaction part of an event: nothing, or one stored AFM row written back —
the row the payment reference matched, with the status of the event's class, or
the parent of the refund a callback hit. -/
theorem webhookEffect_transactions (body : Obj) (eventType : String) (now : Instant)
    (db : Db) :
    (webhookEffect body eventType now db).transactions = db.transactions ∨
      ∃ t t', db.transactions.get t.id = some t ∧
        (webhookEffect body eventType now db).transactions =
          db.transactions.modify t.id (Transaction.writeBack ⟨t, t'⟩)
            (Transaction.key_writeBack _) ∧
        ((eventKind eventType ≠ .refund ∧
            selectTransaction (paymentReference (bodyData body)) db = .ok (some t) ∧
            t'.status = statusAfter (classify (statusValue (bodyData body)))) ∨
          (eventKind eventType = .refund ∧ ∃ refund,
            callbackTarget (bodyData body) db = .ok (refund, t) ∧
              t' = parentAfterCallback (bodyData body) refund t)) := by
  rcases webhookEffect_cases body eventType now db with hsame | ⟨u, hprocess, hflush⟩
  · exact Or.inl (by rw [hsame])
  · obtain ⟨htransactions, -⟩ := UnitOfWork.flush_ok hflush
    -- both kinds of payment write the transaction that the reference finds
    have payment : ∀ kind, eventKind eventType ≠ .refund →
        processKoraPayment kind (bodyData body) now db = .ok u →
        (webhookEffect body eventType now db).transactions = db.transactions ∨
          ∃ t t', db.transactions.get t.id = some t ∧
            (webhookEffect body eventType now db).transactions =
              db.transactions.modify t.id (Transaction.writeBack ⟨t, t'⟩)
                (Transaction.key_writeBack _) ∧
            selectTransaction (paymentReference (bodyData body)) db = .ok (some t) ∧
            t'.status = statusAfter (classify (statusValue (bodyData body))) := by
      intro kind hkind hpayment
      rcases processKoraPayment_ok hpayment with ⟨t, hselect, happly⟩ | ⟨-, -, rfl⟩
      · obtain ⟨t', hstaged, hstatus, -⟩ := applyPayment_ok happly
        refine Or.inr ⟨t, t', selectTransaction_get hselect, ?_, hselect, hstatus⟩
        rw [htransactions, UnitOfWork.transactionsAfter, hstaged]
      · exact Or.inl htransactions
    unfold processKoraWebhookBusinessEvent at hprocess
    cases hkind : eventKind eventType with
    | refund =>
        simp only [hkind] at hprocess
        obtain ⟨refund, t, existing, htarget, -, rfl⟩ := processKoraRefundWebhook_ok hprocess
        obtain ⟨-, hget, -⟩ := callbackTarget_ok htarget
        refine Or.inr ⟨t, _, ?_, htransactions, Or.inr ⟨rfl, refund, htarget, rfl⟩⟩
        exact Table.get_ident (Table.mem_of_get hget)
    | payout =>
        simp only [hkind] at hprocess
        have hne : eventKind eventType ≠ .refund := by rw [hkind]; decide
        rcases payment _ hne hprocess with hsame | ⟨t, t', hget, hwritten, hrest⟩
        · exact Or.inl hsame
        · exact Or.inr ⟨t, t', hget, hwritten, Or.inl ⟨by decide, hrest⟩⟩
    | charge =>
        simp only [hkind] at hprocess
        have hne : eventKind eventType ≠ .refund := by rw [hkind]; decide
        rcases payment _ hne hprocess with hsame | ⟨t, t', hget, hwritten, hrest⟩
        · exact Or.inl hsame
        · exact Or.inr ⟨t, t', hget, hwritten, Or.inl ⟨by decide, hrest⟩⟩

/-- A worker call either leaves transactions, refunds and the ledger alone, or has
written the provider's answer back to the transaction of the task that was due. -/
theorem reconcileDueOnce_cases (worker : String) (claimedAt : Instant)
    (outcome : ProviderOutcome) (answeredAt : Instant) (db : Db) :
    ((reconcileDueOnce worker claimedAt outcome answeredAt db).transactions
        = db.transactions ∨
      ∃ task v t provider, dueTask claimedAt db = some task ∧
        verification outcome = some v ∧ db.transactions.get task.transactionId = some t ∧
        (reconcileDueOnce worker claimedAt outcome answeredAt db).transactions =
          db.transactions.modify t.id
            (Transaction.writeBack ⟨t, verifiedTransaction v provider answeredAt t⟩)
            (Transaction.key_writeBack _)) ∧
      (reconcileDueOnce worker claimedAt outcome answeredAt db).refunds = db.refunds ∧
      (reconcileDueOnce worker claimedAt outcome answeredAt db).ledger = db.ledger := by
  unfold reconcileDueOnce
  cases hclaim : claim worker claimedAt db with
  | none => exact ⟨Or.inl rfl, rfl, rfl⟩
  | some claimed =>
      obtain ⟨c, claimedDb⟩ := claimed
      -- the claim leaves transactions, refunds and ledger alone; the answer writes one
      -- transaction
      obtain ⟨task, hdue, hid, htask, ht, hr, hl⟩ := claim_ok hclaim
      cases hv : verification outcome with
      | none => exact ⟨Or.inl ht, hr, hl⟩
      | some v =>
          simp only
          cases hwrite : writeBack c v answeredAt claimedDb with
          | error e => exact ⟨Or.inl ht, hr, hl⟩
          | ok db' =>
              obtain ⟨hcase, hr', hl'⟩ := writeBack_ok hwrite
              refine ⟨?_, hr'.trans hr, hl'.trans hl⟩
              rcases hcase with hsame | ⟨task', t, provider, htask', hget, hwritten⟩
              · exact Or.inl (hsame.trans ht)
              · rw [hid, htask] at htask'
                cases htask'
                rw [ht] at hget hwritten
                exact Or.inr ⟨task, v, t, provider, hdue, rfl, hget, hwritten⟩

end AfricaFrontier
