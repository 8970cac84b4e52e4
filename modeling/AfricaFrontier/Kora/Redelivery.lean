import AfricaFrontier.Kora.Handling

/-!
# The same data, processed again

What an event does depends on its data and on the kind its name dispatches on.  This
file compares such effects: when an event does nothing (`Inert`), when two kinds do
the same with one piece of data (`KindsAgree`), and what a second processing does to
the rows the first one left.

The results are about *every* clock reading: an effect that stamps the time into a
row is never the identity, however often the row was stamped before.  So an event
that is not refused is inert only if it writes no time, which leaves the refund
callbacks that report no success and find their report already stored.

For a payment event and for a callback the steps are the same.

* What its commit leaves: the rows of the tables, one by one (`payment_commit`,
  `callback_commit`).
* That the event finds these rows again and is not refused on them (`payment_again`,
  `callback_again`): the columns it is matched by are not written.
* What it writes the second time: a payment event stamps its time once more (`payment_noted`), a
  callback without success writes what is there already (`callback_recorded`).

Two kinds of events are compared in the same terms: they agree where neither writes a debit
(`applyPayment_kind`), and differ where one does (`payout_differs`).
-/

namespace AfricaFrontier

open Python Relational

/-- The business tables hold the same rows. -/
structure SameBusiness (db db' : Db) : Prop where
  transactions : db.transactions.rows = db'.transactions.rows
  refunds : db.refunds.rows = db'.refunds.rows
  ledger : db.ledger.rows = db'.ledger.rows
  tasks : db.tasks.rows = db'.tasks.rows

namespace SameBusiness

variable {db db' db'' : Db}

/-- Having the same rows is reflexive. -/
theorem refl (db : Db) : SameBusiness db db := ⟨rfl, rfl, rfl, rfl⟩

/-- Having the same rows is symmetric. -/
theorem symm (h : SameBusiness db db') : SameBusiness db' db :=
  ⟨h.transactions.symm, h.refunds.symm, h.ledger.symm, h.tasks.symm⟩

/-- Having the same rows is transitive. -/
theorem trans (h : SameBusiness db db') (h' : SameBusiness db' db'') : SameBusiness db db'' :=
  ⟨h.transactions.trans h'.transactions, h.refunds.trans h'.refunds, h.ledger.trans h'.ledger,
    h.tasks.trans h'.tasks⟩

/-- Where everything but the receipts is the same, the rows are. -/
theorem of_eq (h : BusinessEq db db') : SameBusiness db db' :=
  ⟨by rw [h.transactions], by rw [h.refunds], by rw [h.ledger], by rw [h.tasks]⟩

/-- A transaction is stored in both databases or in neither. -/
theorem get_transaction (h : SameBusiness db db') (i : ℕ) :
    db.transactions.get i = db'.transactions.get i := Table.get_congr h.transactions i

/-- A refund is stored in both databases or in neither. -/
theorem get_refund (h : SameBusiness db db') (i : ℕ) : db.refunds.get i = db'.refunds.get i :=
  Table.get_congr h.refunds i

end SameBusiness

/-! ## Events that do nothing

An event does nothing where it finds no rows, is refused on those it finds, or would write what
they say. -/

/-- A payment event finds no transaction, or is refused on the one it finds. -/
def PaymentInert (kind : EventKind) (data : Obj) (db : Db) : Prop :=
  ∀ t, paymentTarget data db = some t → paymentRefused kind data t db = true

/-- A callback finds no refund, or is refused on the rows it finds, or finds everything it
would write already there, whatever the time. -/
def CallbackInert (data : Obj) (db : Db) : Prop :=
  ∀ refund t, callbackTarget data db = .ok (refund, t) →
    callbackRefused data refund t db = true ∨
      ((∀ now, refundRecords data now refund) ∧ parentRecords data refund t)

/-- An event of this kind, with this data, does nothing. -/
def Inert (kind : EventKind) (data : Obj) (db : Db) : Prop :=
  match kind with
  | .refund => CallbackInert data db
  | .payout => PaymentInert .payout data db
  | .charge => PaymentInert .charge data db

/-- The kinds of payment events have one condition. -/
theorem inert_of_payment {kind : EventKind} (hkind : kind ≠ .refund) {data : Obj} {db : Db} :
    Inert kind data db ↔ PaymentInert kind data db := by
  cases kind with
  | refund => exact absurd rfl hkind
  | payout => exact Iff.rfl
  | charge => exact Iff.rfl

/-- All kinds of payment events have one handler. -/
theorem handler_of_payment {kind : EventKind} (hkind : kind ≠ .refund) (data : Obj)
    (now : Instant) (db : Db) : handler kind data now db = processKoraPayment kind data now db := by
  cases kind with
  | refund => exact absurd rfl hkind
  | payout => rfl
  | charge => rfl

/-! ## Payment events -/

section Payment

variable {kind : EventKind} {data : Obj} {db : Db} {t : Transaction}

/-- The commit of a payment event that is not refused. -/
theorem payment_commit (now : Instant) (hkind : kind ≠ .refund)
    (htarget : paymentTarget data db = some t) (hallowed : paymentRefused kind data t db = false) :
    ∃ u t', applyPayment kind data now t db = .ok u ∧ u.transaction = some ⟨t, t'⟩ ∧
      t'.webhookReceivedAt = some now ∧
      u.newEntry = (if debitDue kind data t db then
        t.virtualAccountId.map (payoutEntry (paymentReference data) t) else none) ∧
      u.flush db = .ok (eventEffect kind data now db) := by
  obtain ⟨u, t', db', hu, hstaged, -, -, hentry, hflush⟩ := (payment_effect now).2 hallowed
  obtain ⟨t'', hstaged', -, -, hnoted⟩ := applyPayment_ok hu
  obtain rfl : t' = t'' := by
    rw [hstaged] at hstaged'
    exact congrArg Dirty.current (Option.some.inj hstaged')
  have hhandled : handler kind data now db = .ok u := by
    rw [handler_of_payment hkind, processKoraPayment_of_target htarget, hu]
  refine ⟨u, t', hu, hstaged, hnoted, hentry, ?_⟩
  rw [eventEffect, commit_of_ok hhandled hflush, hflush]

/-- Without a target, or refused, a payment event leaves the database alone. -/
theorem payment_unchanged (now : Instant) (hkind : kind ≠ .refund)
    (hinert : PaymentInert kind data db) :
    eventEffect kind data now db = db := by
  rw [eventEffect, handler_of_payment hkind]
  cases htarget : paymentTarget data db with
  | none =>
      cases hhandled : processKoraPayment kind data now db with
      | error e => rfl
      | ok u =>
          obtain rfl := processKoraPayment_of_no_target htarget hhandled
          rfl
  | some t =>
      rw [processKoraPayment_of_target htarget]
      exact commit_of_raises ((payment_effect now).1 (hinert t htarget))

/-- The transaction of a payment event, after it. -/
theorem payment_row (now : Instant) (hkind : kind ≠ .refund)
    (htarget : paymentTarget data db = some t) (hallowed : paymentRefused kind data t db = false) :
    ∃ t₁, (eventEffect kind data now db).transactions.get t.id = some t₁ ∧
      paymentTarget data (eventEffect kind data now db) = some t₁ ∧
      t₁.webhookReceivedAt = some now ∧ t₁.id = t.id ∧
      t₁.virtualAccountId = t.virtualAccountId ∧ t₁.pspTransactionId = t.pspTransactionId := by
  obtain ⟨u, t', -, hstaged, hnoted, -, hflush⟩ := payment_commit now hkind htarget hallowed
  obtain ⟨hne, hselect⟩ := paymentTarget_eq_some htarget
  obtain ⟨htransactions, -⟩ := UnitOfWork.flush_ok hflush
  have hmodified : (eventEffect kind data now db).transactions =
      db.transactions.modify t.id (Transaction.writeBack ⟨t, t'⟩)
        (Transaction.key_writeBack _) := by
    rw [htransactions, UnitOfWork.transactionsAfter, hstaged]
  have hget := selectTransaction_get hselect
  -- the columns an event is matched by are not written
  have hkeeps : ∀ r, (Transaction.writeBack ⟨t, t'⟩ r).matchesReference (paymentReference data) =
      r.matchesReference (paymentReference data) := fun _ => rfl
  refine ⟨Transaction.writeBack ⟨t, t'⟩ t, ?_, ?_, ?_, rfl, rfl, rfl⟩
  · rw [hmodified]
    exact Table.get_modify_self hget
  · have hrows : (eventEffect kind data now db).transactions.rows.filter
        (Transaction.matchesReference (paymentReference data)) =
          [Transaction.writeBack ⟨t, t'⟩ t] := by
      rw [hmodified, Table.filter_modify hkeeps, scalarOneOrNone_eq_ok_some.mp hselect]
      simp
    have hselected : selectTransaction (paymentReference data) (eventEffect kind data now db) =
        .ok (some (Transaction.writeBack ⟨t, t'⟩ t)) := scalarOneOrNone_eq_ok_some.mpr hrows
    simp only [paymentTarget, if_neg hne, hselected]
  · simp [Transaction.writeBack, hnoted]

end Payment

/-! ## Refund callbacks -/

section Callback

variable {data : Obj} {db : Db} {refund : KoraRefund} {t : Transaction}

/-- A callback only writes columns a commit writes back. -/
theorem writeBack_refundAfterCallback (data : Obj) (now : Instant) (refund : KoraRefund) :
    KoraRefund.writeBack ⟨refund, refundAfterCallback data now refund⟩ refund =
      refundAfterCallback data now refund := by
  unfold refundAfterCallback
  cases classify (statusValue data) <;> simp [KoraRefund.writeBack]

/-- On the payment too, a callback only writes columns a commit writes back. -/
theorem writeBack_parentAfterCallback (data : Obj) (refund : KoraRefund) (t : Transaction) :
    Transaction.writeBack ⟨t, parentAfterCallback data refund t⟩ t =
      parentAfterCallback data refund t := by
  unfold parentAfterCallback
  cases classify (statusValue data) <;> simp [Transaction.writeBack]

/-- The commit of a callback that is not refused. -/
theorem callback_commit (now : Instant) (htarget : callbackTarget data db = .ok (refund, t))
    (hallowed : callbackRefused data refund t db = false) :
    ∃ existing, (callbackReadsLedger data t && existing.isNone) = reversalDue data refund t db ∧
      (refundCallback data now refund t existing).flush db =
        .ok (eventEffect .refund data now db) := by
  obtain ⟨existing, db', hhandled, hagrees, hflush⟩ := (callback_effect now htarget).2 hallowed
  refine ⟨existing, hagrees, ?_⟩
  rw [eventEffect, handler, commit_of_ok hhandled hflush, hflush]

/-- The tables after a callback that is not refused. -/
theorem callback_tables (now : Instant) (htarget : callbackTarget data db = .ok (refund, t))
    (hallowed : callbackRefused data refund t db = false) :
    (eventEffect .refund data now db).refunds =
        db.refunds.modify refund.id
          (KoraRefund.writeBack ⟨refund, refundAfterCallback data now refund⟩)
          (KoraRefund.key_writeBack _) ∧
      (eventEffect .refund data now db).transactions =
        db.transactions.modify t.id
          (Transaction.writeBack ⟨t, parentAfterCallback data refund t⟩)
          (Transaction.key_writeBack _) ∧
      (reversalsUnder refund.refundReference (eventEffect .refund data now db)).length =
        (reversalsUnder refund.refundReference db).length +
          (if reversalDue data refund t db then 1 else 0) ∧
      (reversalDue data refund t db = false →
        (eventEffect .refund data now db).ledger.rows = db.ledger.rows) ∧
      (eventEffect .refund data now db).tasks = db.tasks := by
  obtain ⟨existing, hagrees, hflush⟩ := callback_commit now htarget hallowed
  obtain ⟨htransactions, hrefunds, -, -, htasks, -⟩ := UnitOfWork.flush_ok hflush
  have hentry := refundCallback_entry now hagrees
  have hrows := UnitOfWork.flush_ledger_rows hflush
  rw [hentry] at hrows
  refine ⟨hrefunds, htransactions, ?_, fun hdue => ?_, (Option.some.inj htasks).symm⟩
  · rw [reversalsUnder, hrows, List.filter_append, List.length_append, reversalsUnder]
    -- the ledger has one reversal more exactly if one is due
    cases hdue : reversalDue data refund t db with
    | false => rfl
    | true =>
        obtain ⟨account, haccount⟩ := exists_account_of_reversalDue hdue
        rw [if_pos rfl, if_pos rfl, haccount]
        simp [refundEntry]
  · rw [hrows, hdue]
    simp

/-- A callback that finds no rows, or is refused on them, leaves the database alone. -/
theorem callback_cases (data : Obj) (now : Instant) (db : Db) :
    eventEffect .refund data now db = db ∨
      ∃ refund t, callbackTarget data db = .ok (refund, t) ∧
        callbackRefused data refund t db = false := by
  cases htarget : callbackTarget data db with
  | error e =>
      refine Or.inl (commit_of_raises fun u db' hu => ?_)
      rw [handler, processKoraRefundWebhook_eq, htarget] at hu
      cases hu
  | ok target =>
      obtain ⟨refund, t⟩ := target
      cases hrefused : callbackRefused data refund t db with
      | true => exact Or.inl (commit_of_raises ((callback_effect now htarget).1 hrefused))
      | false => exact Or.inr ⟨refund, t, rfl, hrefused⟩

/-- A callback whose report is already stored stages nothing new. -/
theorem callback_unchanged (now : Instant) (hinert : CallbackInert data db) :
    SameBusiness (eventEffect .refund data now db) db := by
  rcases callback_cases data now db with hsame | ⟨refund, t, htarget, hallowed⟩
  · rw [hsame]
    exact SameBusiness.refl db
  · obtain ⟨hrefund, hparent⟩ :=
      (hinert refund t htarget).resolve_left (by rw [hallowed]; exact Bool.false_ne_true)
    obtain ⟨hrefunds, htransactions, -, hledger, htasks⟩ := callback_tables now htarget hallowed
    rw [(refundAfterCallback_eq_iff data now refund).mpr (hrefund now)] at hrefunds
    rw [(parentAfterCallback_eq_iff data refund t).mpr hparent] at htransactions
    refine ⟨?_, ?_, hledger ?_, by rw [htasks]⟩
    · rw [htransactions]
      exact Table.modify_rows_eq_self fun r _ => Transaction.writeBack_self t r
    · rw [hrefunds]
      exact Table.modify_rows_eq_self fun r _ => KoraRefund.writeBack_self refund r
    · -- a success would have written the time
      by_contra hdue
      rw [Bool.not_eq_false, reversalDue, callbackReadsLedger] at hdue
      have hclass : classify (statusValue data) = .success := by
        simp only [Bool.and_eq_true, decide_eq_true_eq] at hdue
        exact hdue.1.1
      have hnow := (hrefund 0).2
      have hlater := (hrefund 1).2
      simp only [hclass] at hnow hlater
      rw [hnow.2] at hlater
      exact absurd hlater.2 (by decide)

/-- A callback that changes nothing finds its report stored. -/
theorem callback_recorded_of_unchanged {now : Instant}
    (hsame : SameBusiness (eventEffect .refund data now db) db)
    (htarget : callbackTarget data db = .ok (refund, t))
    (hallowed : callbackRefused data refund t db = false) :
    refundRecords data now refund ∧ parentRecords data refund t := by
  obtain ⟨hrefunds, htransactions, -⟩ := callback_tables now htarget hallowed
  obtain ⟨hmem, hget, -⟩ := callbackTarget_ok htarget
  constructor
  · have hrefund : db.refunds.get refund.id = some refund := Table.get_ident hmem
    have hafter : (eventEffect .refund data now db).refunds.get refund.id =
        some (refundAfterCallback data now refund) := by
      rw [hrefunds, Table.get_modify_self hrefund, writeBack_refundAfterCallback]
    rw [hsame.get_refund, hrefund] at hafter
    exact (refundAfterCallback_eq_iff data now refund).mp (Option.some.inj hafter).symm
  · have hparent : db.transactions.get t.id = some t := Table.get_ident (Table.mem_of_get hget)
    have hafter : (eventEffect .refund data now db).transactions.get t.id =
        some (parentAfterCallback data refund t) := by
      rw [htransactions, Table.get_modify_self hparent, writeBack_parentAfterCallback]
    rw [hsame.get_transaction, hparent] at hafter
    exact (parentAfterCallback_eq_iff data refund t).mp (Option.some.inj hafter).symm

end Callback

/-! ## Effects compared -/

section Compare

variable {data : Obj} {db : Db}

/-- A payment event that is not refused stamps its time. -/
theorem payment_noted {kind : EventKind} {t : Transaction} (now : Instant)
    (hkind : kind ≠ .refund) (htarget : paymentTarget data db = some t)
    (hallowed : paymentRefused kind data t db = false) :
    ((eventEffect kind data now db).transactions.get t.id).map (·.webhookReceivedAt) =
      some (some now) := by
  obtain ⟨t₁, hget, -, hnoted, -⟩ := payment_row now hkind htarget hallowed
  rw [hget, Option.map_some, hnoted]

/-- A payment event that is not inert finds a transaction that does not refuse it. -/
theorem exists_of_not_inert {kind : EventKind} (h : ¬ PaymentInert kind data db) :
    ∃ t, paymentTarget data db = some t ∧ paymentRefused kind data t db = false := by
  unfold PaymentInert at h
  push Not at h
  obtain ⟨t, htarget, hallowed⟩ := h
  exact ⟨t, htarget, Bool.not_eq_true _ ▸ hallowed⟩

/-- What is recorded at two times is recorded at all times: a success records one. -/
theorem refundRecords_always {data : Obj} {now : Instant} {refund : KoraRefund}
    (hnow : refundRecords data now refund) (hnext : refundRecords data (now + 1) refund)
    (later : Instant) : refundRecords data later refund := by
  unfold refundRecords at hnow hnext ⊢
  cases hclass : classify (statusValue data) with
  | success =>
      simp only [hclass] at hnow hnext
      have htimes := Option.some.inj (hnow.2.2.symm.trans hnext.2.2)
      exact absurd htimes (Int.ne_of_lt (Int.lt_succ now))
  | failure => simpa only [hclass] using hnow
  | other => simpa only [hclass] using hnow

/-- An event that changes nothing from some time on is inert. -/
theorem inert_of_unchanged {kind : EventKind} (since : Instant)
    (h : ∀ now, since ≤ now → SameBusiness (eventEffect kind data now db) db) :
    Inert kind data db := by
  have hsince := h since (le_refl since)
  have hnext := h (since + 1) (Int.le_of_lt (Int.lt_succ since))
  by_cases hkind : kind = .refund
  · subst hkind
    intro refund t htarget
    cases hrefused : callbackRefused data refund t db with
    | true => exact Or.inl rfl
    | false =>
        obtain ⟨hrefund, hparent⟩ := callback_recorded_of_unchanged hsince htarget hrefused
        have hrefund' := (callback_recorded_of_unchanged hnext htarget hrefused).1
        exact Or.inr ⟨refundRecords_always hrefund hrefund', hparent⟩
  · rw [inert_of_payment hkind]
    by_contra hactive
    obtain ⟨t, htarget, hallowed⟩ := exists_of_not_inert hactive
    -- the row cannot carry two times
    have hstamp := payment_noted since hkind htarget hallowed
    have hstamp' := payment_noted (since + 1) hkind htarget hallowed
    rw [hsince.get_transaction] at hstamp
    rw [hnext.get_transaction, hstamp] at hstamp'
    have htimes := Option.some.inj (Option.some.inj hstamp')
    exact absurd htimes (Int.ne_of_lt (Int.lt_succ since))

/-- **Inert events** are those that change nothing, at whatever time they arrive. -/
theorem inert_iff {kind : EventKind} :
    Inert kind data db ↔ ∀ now, SameBusiness (eventEffect kind data now db) db := by
  refine ⟨fun hinert now => ?_, fun h => inert_of_unchanged 0 fun now _ => h now⟩
  by_cases hkind : kind = .refund
  · subst hkind
    exact callback_unchanged now hinert
  · rw [payment_unchanged now hkind ((inert_of_payment hkind).mp hinert)]
    exact SameBusiness.refl db

/-! ## A second processing

What is left when the same data arrives under another event id. -/

/-- Two kinds of events do the same with this data: they are one kind, or a payout event
and a charge event that write no debit and both settle, fail or defer. -/
def KindsAgree (kind kind' : EventKind) (data : Obj) (db : Db) : Prop :=
  kind = kind' ∨
    (kind ≠ .refund ∧ kind' ≠ .refund ∧
      ∀ t, paymentTarget data db = some t →
        classify (statusValue data) ≠ .success ∨ t.virtualAccountId = none ∨
          (debitsUnder (paymentReference data) db).length = 1)

/-- In either order. -/
theorem KindsAgree.symm {kind kind' : EventKind} (h : KindsAgree kind kind' data db) :
    KindsAgree kind' kind data db :=
  h.imp Eq.symm fun ⟨hkind, hkind', hsame⟩ => ⟨hkind', hkind, hsame⟩

end Compare

-- From here on an event is inert by its lemmas; unfolding would dispatch on its name.
attribute [irreducible] Inert

end AfricaFrontier
