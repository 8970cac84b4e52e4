import AfricaFrontier.Kora.Delivery

/-!
# What an event leaves in the rows

`EffectShown` says, of a database alone, that the business effect of an event is there:
the transaction its reference names has the status of the event's class and a successful
payout has its debit in the ledger; the refund a callback names has the state of its
class, and a success has its payment refunded and the reversal in the ledger.  It is
stated on the columns, without the handlers, so that it can be compared with them.

Two things can come between what a handler read and what its commit leaves.  Rows may
change while it runs; `Keeps` is what no code of the application ever takes away — a
row, a reference it is known by, its account, a ledger entry — and `StagesEffect` is
what the handler knows under it.  And the write at commit leaves a column alone that the
handler left as it read it, so a status another session changed in between survives the
commit; `statusesStand` excludes exactly that (`StagesEffect.shown`).
-/

namespace AfricaFrontier

open Python Relational

/-! ## The effect

It is stated on what any reader of the tables can see: the status of a row, and the entries under
a reference. -/

/-- An entry of a kind is in the ledger under a reference. -/
def HasEntry (referenceType referenceId : String) (db : Db) : Prop :=
  ∃ e ∈ db.ledger, e.referenceType = referenceType ∧ e.referenceId = referenceId

/-- A payment event is in the rows: the transaction its reference names has the status of
its class, and a successful payout of an account has its debit. -/
def PaymentShown (kind : EventKind) (data : Obj) (db : Db) : Prop :=
  ∃ t ∈ db.transactions, t.matchesReference (paymentReference data) = true ∧
    t.status = statusAfter (classify (statusValue data)) ∧
    (kind = .payout → classify (statusValue data) = .success →
      t.virtualAccountId.isSome = true → HasEntry "kora_payout" (paymentReference data) db)

/-- A refund callback is in the rows: a refund its references hit has the state of its
class; a success has the payment refunded, and the reversal of a payment of an account is
in the ledger. -/
def RefundShown (data : Obj) (db : Db) : Prop :=
  ∃ refs, refundReferences data = .ok refs ∧
    ∃ r ∈ refs.hits db, r.status = (classify (statusValue data)).refundStatus ∧
      ∃ t, db.transactions.get r.transactionId = some t ∧
        (classify (statusValue data) = .success → t.status = .refunded ∧
          (t.virtualAccountId.isSome = true → HasEntry "kora_refund" r.refundReference db))

/-- The business effect of an event is in the rows. -/
inductive EffectShown (content : Content) (db : Db) : Prop
  | refund (hkind : eventKind content.eventType = .refund) (h : RefundShown content.data db)
  | payment (hkind : eventKind content.eventType ≠ .refund)
      (h : PaymentShown (eventKind content.eventType) content.data db)

/-- Receipts show no effect. -/
theorem EffectShown.with_events {content : Content} {db : Db} (events : Table KoraWebhookEvent)
    (h : EffectShown content db) : EffectShown content { db with events := events } := by
  cases h with
  | refund hkind h => exact .refund hkind h
  | payment hkind h => exact .payment hkind h

/-! ## What is never taken away

A step of any session keeps these, the handlers of other events included. -/

/-- Rows stay, with their references and their accounts, and so do ledger entries. -/
structure Keeps (db db' : Db) : Prop where
  transactions : ∀ i t, db.transactions.get i = some t →
    ∃ t', db'.transactions.get i = some t' ∧ t'.virtualAccountId = t.virtualAccountId ∧
      ∀ reference, t.matchesReference reference = true → t'.matchesReference reference = true
  refunds : ∀ i r, db.refunds.get i = some r →
    ∃ r', db'.refunds.get i = some r' ∧ r'.refundReference = r.refundReference ∧
      r'.paymentReference = r.paymentReference ∧ r'.transactionId = r.transactionId
  ledger : ∀ referenceType referenceId, HasEntry referenceType referenceId db →
    HasEntry referenceType referenceId db'

/-- Receipts and tasks are none of it. -/
theorem Keeps.of_eq {db db' : Db} (htransactions : db'.transactions = db.transactions)
    (hrefunds : db'.refunds = db.refunds) (hledger : db'.ledger = db.ledger) : Keeps db db' where
  transactions i t hget := ⟨t, by rw [htransactions]; exact hget, rfl, fun _ h => h⟩
  refunds i r hget := ⟨r, by rw [hrefunds]; exact hget, rfl, rfl, rfl⟩
  ledger type id h := by
    unfold HasEntry at h ⊢
    rwa [hledger]

/-- A flush writes statuses and notes, and adds to the ledger. -/
theorem Keeps.of_flush {work : UnitOfWork} {db db' : Db} (hflush : work.flush db = .ok db') :
    Keeps db db' where
  transactions i t hget := by
    rcases UnitOfWork.flush_transactions_of_get hflush hget with ⟨hsame, -⟩ | ⟨d, -, -, hwritten⟩
    · exact ⟨t, hsame, rfl, fun _ h => h⟩
    · exact ⟨_, hwritten, rfl, fun _ h => h⟩
  refunds i r hget := by
    rcases UnitOfWork.flush_refunds_of_get hflush hget with ⟨hsame, -⟩ | ⟨d, -, -, hwritten⟩
    · exact ⟨r, hsame, rfl, rfl, rfl⟩
    · exact ⟨_, hwritten, rfl, rfl, rfl⟩
  ledger type id h := by
    obtain ⟨e, he, hmatch⟩ := h
    refine ⟨e, ?_, hmatch⟩
    have hrows : e ∈ db'.ledger.rows := by
      rw [UnitOfWork.flush_ledger_rows hflush]
      exact List.mem_append_left _ he
    exact hrows

/-- The transaction is known by its references, once it has them. -/
def Transaction.knownBy (t t' : Transaction) : Bool :=
  decide (t'.virtualAccountId = t.virtualAccountId ∧ t'.ledgerNamespace = t.ledgerNamespace ∧
    t'.idempotencyKey = t.idempotencyKey ∧
    (t.pspTransactionId = none ∨ t'.pspTransactionId = t.pspTransactionId) ∧
    (t.pspPaymentReference = none ∨ t'.pspPaymentReference = t.pspPaymentReference))

/-- What keeps rows can be checked row by row. -/
def keepsRows (db db' : Db) : Bool :=
  (db.transactions.rows.all fun t => (db'.transactions.get t.id).any t.knownBy) &&
    (db.refunds.rows.all fun r => (db'.refunds.get r.id).any fun r' =>
      decide (r'.refundReference = r.refundReference ∧ r'.paymentReference = r.paymentReference ∧
        r'.transactionId = r.transactionId)) &&
    db.ledger.rows.all fun e => db'.ledger.rows.any fun e' =>
      decide (e'.referenceType = e.referenceType ∧ e'.referenceId = e.referenceId)

/-- A transaction goes on being matched by its references. -/
theorem Transaction.matchesReference_of_knownBy {t t' : Transaction} {reference : String}
    (hknown : t.knownBy t' = true) (h : t.matchesReference reference = true) :
    t'.matchesReference reference = true := by
  obtain ⟨-, hnamespace, hkey, htransaction, hpayment⟩ := of_decide_eq_true hknown
  simp only [Transaction.matchesReference, Bool.and_eq_true, Bool.or_eq_true,
    decide_eq_true_eq] at h ⊢
  refine ⟨?_, hnamespace.trans h.2⟩
  rcases h.1 with (hid | hid) | hid
  · exact Or.inl (Or.inl (hkey.trans hid))
  · rcases htransaction with hnone | hsame
    · rw [hid] at hnone
      cases hnone
    · exact Or.inl (Or.inr (hsame.trans hid))
  · rcases hpayment with hnone | hsame
    · rw [hid] at hnone
      cases hnone
    · exact Or.inr (hsame.trans hid)

/-- An option that passes a test holds a value that does. -/
theorem exists_of_any {α : Type} {o : Option α} {q : α → Bool} (h : o.any q = true) :
    ∃ a, o = some a ∧ q a = true := by
  cases o with
  | none => cases h
  | some a => exact ⟨a, rfl, h⟩

/-- The test is of what is kept. -/
theorem Keeps.of_rows {db db' : Db} (h : keepsRows db db' = true) : Keeps db db' := by
  simp only [keepsRows, Bool.and_eq_true, List.all_eq_true] at h
  obtain ⟨⟨htransactions, hrefunds⟩, hledger⟩ := h
  refine ⟨fun i t hget => ?_, fun i r hget => ?_, fun type id hentry => ?_⟩
  · obtain ⟨hmem, rfl⟩ := Table.get_eq_some_iff.mp hget
    obtain ⟨t', hget', hknown⟩ := exists_of_any (htransactions t hmem)
    exact ⟨t', hget', (of_decide_eq_true hknown).1,
      fun _ => Transaction.matchesReference_of_knownBy hknown⟩
  · obtain ⟨hmem, rfl⟩ := Table.get_eq_some_iff.mp hget
    obtain ⟨r', hget', hknown⟩ := exists_of_any (hrefunds r hmem)
    exact ⟨r', hget', of_decide_eq_true hknown⟩
  · obtain ⟨e, he, htype, hid⟩ := hentry
    obtain ⟨e', he', hsame⟩ := List.any_eq_true.mp (hledger e he)
    obtain ⟨htype', hid'⟩ := of_decide_eq_true hsame
    exact ⟨e', he', htype'.trans htype, hid'.trans hid⟩

/-! ## What a handler knows -/

/-- The transaction a payment event works on is stored, under the event's reference. -/
def MatchedPayment (data : Obj) (t : Transaction) (db : Db) : Prop :=
  ∃ t₀, db.transactions.get t.id = some t₀ ∧ t₀.virtualAccountId = t.virtualAccountId ∧
    t₀.matchesReference (paymentReference data) = true

/-- The refund a callback works on is stored, and hit by its references. -/
def KnowsRefund (data : Obj) (r : KoraRefund) (db : Db) : Prop :=
  ∃ refs r₀, refundReferences data = .ok refs ∧ db.refunds.get r.id = some r₀ ∧
    r₀ ∈ refs.hits db ∧ r₀.refundReference = r.refundReference ∧
    r₀.transactionId = r.transactionId

/-- The payment of that refund is stored. -/
def KnowsParent (r : KoraRefund) (t : Transaction) (db : Db) : Prop :=
  t.id = r.transactionId ∧ ∃ t₀, db.transactions.get t.id = some t₀ ∧
    t₀.virtualAccountId = t.virtualAccountId

/-- The ledger entry an effect asks for is staged, or there already. -/
def StagesEntry (work : UnitOfWork) (referenceType referenceId : String) (db : Db) : Prop :=
  (∃ e, work.newEntry = some e ∧ e.referenceType = referenceType ∧
    e.referenceId = referenceId) ∨ HasEntry referenceType referenceId db

/-- What a payment event stages. -/
structure StagesPayment (kind : EventKind) (data : Obj) (work : UnitOfWork) (db : Db)
    (t t' : Transaction) : Prop where
  staged : work.transaction = some ⟨t, t'⟩
  status : t'.status = statusAfter (classify (statusValue data))
  row : MatchedPayment data t db
  debit : kind = .payout → classify (statusValue data) = .success →
    t.virtualAccountId.isSome = true → StagesEntry work "kora_payout" (paymentReference data) db

/-- What a refund callback stages. -/
structure StagesRefund (data : Obj) (work : UnitOfWork) (db : Db) (r r' : KoraRefund)
    (t t' : Transaction) : Prop where
  refund : work.refund = some ⟨r, r'⟩
  transaction : work.transaction = some ⟨t, t'⟩
  status : r'.status = (classify (statusValue data)).refundStatus
  refunded : classify (statusValue data) = .success → t'.status = .refunded
  row : KnowsRefund data r db
  parent : KnowsParent r t db
  reversal : classify (statusValue data) = .success → t.virtualAccountId.isSome = true →
    StagesEntry work "kora_refund" r.refundReference db

/-- What the handler of an event stages. -/
inductive StagesEffect (content : Content) (work : UnitOfWork) (db : Db) : Prop
  | refund (hkind : eventKind content.eventType = .refund) {r r' : KoraRefund}
      {t t' : Transaction} (h : StagesRefund content.data work db r r' t t')
  | payment (hkind : eventKind content.eventType ≠ .refund) {t t' : Transaction}
      (h : StagesPayment (eventKind content.eventType) content.data work db t t')

section Keeps

variable {data : Obj} {content : Content} {work : UnitOfWork} {db db' : Db}
  {t t' : Transaction} {r r' : KoraRefund}

/-- A transaction that is kept stays the one that is meant. -/
theorem MatchedPayment.keeps (hkeeps : Keeps db db') (h : MatchedPayment data t db) :
    MatchedPayment data t db' := by
  obtain ⟨t₀, hget, haccount, hmatches⟩ := h
  obtain ⟨t₁, hget', haccount', hknown⟩ := hkeeps.transactions _ t₀ hget
  exact ⟨t₁, hget', haccount'.trans haccount, hknown _ hmatches⟩

/-- A refund that is kept goes on being hit. -/
theorem hits_of_kept {refs : RefundReferences} (hit : r ∈ refs.hits db) (hstored : r' ∈ db'.refunds)
    (hrefund : r'.refundReference = r.refundReference)
    (hpayment : r'.paymentReference = r.paymentReference) : r' ∈ refs.hits db' := by
  refine List.mem_filter.mpr ⟨hstored, ?_⟩
  rw [hrefund, hpayment]
  exact (List.mem_filter.mp hit).2

/-- A refund that is kept goes on being hit by the references of a callback. -/
theorem KnowsRefund.keeps (hkeeps : Keeps db db') (h : KnowsRefund data r db) :
    KnowsRefund data r db' := by
  obtain ⟨refs, r₀, hrefs, hget, hit, hreference, hparent⟩ := h
  obtain ⟨r₁, hget', hreference', hpayment', hparent'⟩ := hkeeps.refunds _ r₀ hget
  exact ⟨refs, r₁, hrefs, hget', hits_of_kept hit (Table.mem_of_get hget') hreference' hpayment',
    hreference'.trans hreference, hparent'.trans hparent⟩

/-- The payment of a refund goes on being stored. -/
theorem KnowsParent.keeps (hkeeps : Keeps db db') (h : KnowsParent r t db) :
    KnowsParent r t db' := by
  obtain ⟨hid, t₀, hget, haccount⟩ := h
  obtain ⟨t₁, hget', haccount', -⟩ := hkeeps.transactions _ t₀ hget
  exact ⟨hid, t₁, hget', haccount'.trans haccount⟩

/-- An entry that was staged, or found, stays staged or found. -/
theorem StagesEntry.keeps {type id : String} (hkeeps : Keeps db db')
    (h : StagesEntry work type id db) : StagesEntry work type id db' :=
  h.imp_right (hkeeps.ledger type id)

/-- Nothing another session does makes a staged effect void. -/
theorem StagesEffect.keeps (hkeeps : Keeps db db') (h : StagesEffect content work db) :
    StagesEffect content work db' := by
  cases h with
  | refund hkind h =>
      exact .refund hkind ⟨h.refund, h.transaction, h.status, h.refunded, h.row.keeps hkeeps,
        h.parent.keeps hkeeps, fun hclass hsome => (h.reversal hclass hsome).keeps hkeeps⟩
  | payment hkind h =>
      exact .payment hkind ⟨h.staged, h.status, h.row.keeps hkeeps,
        fun hpayout hclass hsome => (h.debit hpayout hclass hsome).keeps hkeeps⟩

end Keeps

/-! ## What the handlers stage -/

section Handlers

variable {data : Obj} {now : Instant} {db : Db} {t : Transaction} {work : UnitOfWork}

/-- The query of a payment event. -/
theorem MatchedPayment.of_select
    (h : selectTransaction (paymentReference data) db = .ok (some t)) : MatchedPayment data t db :=
  ⟨t, selectTransaction_get h, rfl, (selectTransaction_ok h).2⟩

/-- The first query of a callback finds a stored refund that its references hit. -/
theorem KnowsRefund.of_select {refs : RefundReferences} {r : KoraRefund}
    (hrefs : refundReferences data = .ok refs) (h : selectRefund refs db = .ok r) :
    KnowsRefund data r db :=
  ⟨refs, r, hrefs, Table.get_ident (selectRefund_ok h).2, mem_of_firstBy (selectRefund_ok h).1,
    rfl, rfl⟩

/-- The second query of a callback finds the payment of the refund. -/
theorem KnowsParent.of_select {r : KoraRefund} (h : selectParent r db = .ok t) :
    KnowsParent r t db := by
  have hget := (selectParent_ok h).1
  exact ⟨Table.ident_of_get hget, t, Table.get_ident (Table.mem_of_get hget), rfl⟩

/-- A payment event stages its effect on the transaction it found. -/
theorem applyPayment_stages {kind : EventKind} (hrow : MatchedPayment data t db)
    (h : applyPayment kind data now t db = .ok work) :
    ∃ t', StagesPayment kind data work db t t' := by
  obtain ⟨t', hstaged, hstatus, -⟩ := applyPayment_ok h
  refine ⟨t', hstaged, hstatus, hrow, fun hkind hclass haccount => ?_⟩
  have hreads : paymentReadsLedger kind data t = true := by
    simp [paymentReadsLedger, hkind, hclass, haccount]
  obtain ⟨account, haccount⟩ := Option.isSome_iff_exists.mp haccount
  simp only [applyPayment, hclass] at h
  obtain ⟨existing, hexisting, h⟩ := bind_eq_ok.mp h
  rw [settledEntry, if_pos hreads] at hexisting
  cases existing with
  | some e => exact Or.inr ⟨e, selectEntry_some hexisting⟩
  | none =>
      simp only [settlePayment, haccount, hkind, and_self, if_true] at h
      obtain ⟨metadata, -, h⟩ := bind_eq_ok.mp h
      cases h
      exact Or.inl ⟨_, rfl, rfl, rfl⟩

/-- A refund callback stages its effect on the refund and the payment it found. -/
theorem refundCallback_effect {r : KoraRefund} {existing : Option VirtualLedgerEntry}
    (hrow : KnowsRefund data r db) (hparent : KnowsParent r t db)
    (h : callbackEntry data r t db = .ok existing) :
    ∃ r' t', StagesRefund data (refundCallback data now r t existing) db r r' t t' := by
  refine ⟨_, _, rfl, rfl, ?_, fun hclass => ?_, hrow, hparent, fun hclass haccount => ?_⟩
  · unfold refundAfterCallback
    cases classify (statusValue data) <;> rfl
  · simp only [parentAfterCallback, hclass]
  · have hreads : callbackReadsLedger data t = true := by
      simp [callbackReadsLedger, hclass, haccount]
    rw [callbackEntry, if_pos hreads] at h
    cases existing with
    | some e => exact Or.inr ⟨e, selectEntry_some h⟩
    | none =>
        obtain ⟨account, haccount⟩ := Option.isSome_iff_exists.mp haccount
        refine Or.inl ⟨refundEntry r t account, ?_, rfl, rfl⟩
        simp [refundCallback, hreads, haccount]

end Handlers

/-! ### Statement by statement -/

/-- What the handler knows between two of its statements. -/
def BusinessPhase.Knows (content : Content) (db : Db) : BusinessPhase → Prop
  | .dispatching => True
  | .refundFound r => eventKind content.eventType = .refund ∧ KnowsRefund content.data r db
  | .refundLoaded r t =>
      eventKind content.eventType = .refund ∧ KnowsRefund content.data r db ∧ KnowsParent r t db
  | .paymentFound kind t =>
      kind = eventKind content.eventType ∧ kind ≠ .refund ∧ MatchedPayment content.data t db

/-- Between two statements nothing of it is lost. -/
theorem BusinessPhase.Knows.keeps {content : Content} {db db' : Db} {phase : BusinessPhase}
    (hkeeps : Keeps db db') (h : phase.Knows content db) : phase.Knows content db' := by
  cases phase with
  | dispatching => trivial
  | refundFound r => exact ⟨h.1, h.2.keeps hkeeps⟩
  | refundLoaded r t => exact ⟨h.1, h.2.1.keeps hkeeps, h.2.2.keeps hkeeps⟩
  | paymentFound kind t => exact ⟨h.1, h.2.1, h.2.2.keeps hkeeps⟩

section Statements

variable {content : Content} {now : Instant} {db : Db} {phase next : BusinessPhase}
  {work : UnitOfWork}

/-- A statement that goes on knows what its query found. -/
theorem businessStep_knows (hstep : businessStep content now db phase = .ok (.inl next))
    (hknows : phase.Knows content db) : next.Knows content db := by
  rcases businessStep_inl hstep with
    ⟨-, hkind, refs, r, hrefs, hrefund, rfl⟩ | ⟨-, hkind, t, hselect, rfl⟩ |
      ⟨r, t, rfl, hparent, rfl⟩
  · exact ⟨hkind, KnowsRefund.of_select hrefs hrefund⟩
  · exact ⟨rfl, hkind, MatchedPayment.of_select hselect⟩
  · exact ⟨hknows.1, hknows.2, KnowsParent.of_select hparent⟩

/-- A finished handler has staged the effect of its event, unless it was a charge that
matched no transaction. -/
theorem businessStep_effect (hstep : businessStep content now db phase = .ok (.inr work))
    (hknows : phase.Knows content db) :
    StagesEffect content work db ∨
      phase = .dispatching ∧ eventKind content.eventType = .charge ∧
        selectTransaction (paymentReference content.data) db = .ok none := by
  rcases businessStep_inr hstep with
    ⟨hphase, hkind, hnone, -⟩ | ⟨r, t, existing, rfl, hentry, rfl⟩ | ⟨kind, t, rfl, happly⟩
  · exact Or.inr ⟨hphase, hkind, hnone⟩
  · obtain ⟨hkind, hrow, hparent⟩ := hknows
    obtain ⟨r', t', hstages⟩ := refundCallback_effect hrow hparent hentry
    exact Or.inl (.refund hkind hstages)
  · obtain ⟨rfl, hkind, hrow⟩ := hknows
    obtain ⟨t', hstages⟩ := applyPayment_stages hrow happly
    exact Or.inl (.payment hkind hstages)

end Statements

/-! ## The commit

Each staged row is written over the row that is stored by then, column by column. -/

/-- The status an event writes to the transaction it works on, if any. -/
def statusWritten (content : Content) : Option PaymentStatus :=
  if eventKind content.eventType = .refund then
    if classify (statusValue content.data) = .success then some .refunded else none
  else some (statusAfter (classify (statusValue content.data)))

/-- A row that had the status of the event already when the handler read it has it still.
A column that did not change is not written. -/
def statusesStand (content : Content) (work : UnitOfWork) (db : Db) : Bool :=
  (work.transaction.all fun d => (db.transactions.get d.loaded.id).all fun t =>
      decide (statusWritten content = some d.loaded.status → t.status = d.loaded.status)) &&
    work.refund.all fun d => (db.refunds.get d.loaded.id).all fun r =>
      decide (d.loaded.status = (classify (statusValue content.data)).refundStatus →
        r.status = d.loaded.status)

section Commit

variable {content : Content} {work : UnitOfWork} {db db' : Db}

/-- A column holds the session's value after the commit, unless it was left as read and
changed in between. -/
theorem written_eq {α : Type} [DecidableEq α] {loaded current stored : α}
    (h : loaded = current → stored = loaded) : written loaded current stored = current := by
  by_cases hsame : loaded = current
  · subst hsame
    rw [h rfl, written_self]
  · exact written_of_ne (Ne.symm hsame) stored

/-- The entry is in the ledger after the commit. -/
theorem StagesEntry.committed {type id : String} (hflush : work.flush db = .ok db')
    (h : StagesEntry work type id db) : HasEntry type id db' := by
  rcases h with ⟨e, hentry, htype, hid⟩ | hthere
  · refine ⟨{ e with id := db.ledger.next }, ?_, htype, hid⟩
    have hrows : { e with id := db.ledger.next } ∈ db'.ledger.rows := by
      rw [UnitOfWork.flush_ledger_rows hflush, hentry]
      exact List.mem_append_right _ (List.mem_singleton_self _)
    exact hrows
  · exact (Keeps.of_flush hflush).ledger type id hthere

/-- The staged row after the commit. -/
theorem get_staged {t t' t₀ : Transaction} (hflush : work.flush db = .ok db')
    (hstaged : work.transaction = some ⟨t, t'⟩) (hget : db.transactions.get t.id = some t₀) :
    db'.transactions.get t.id = some (Transaction.writeBack ⟨t, t'⟩ t₀) := by
  rcases UnitOfWork.flush_transactions_of_get hflush hget with
    ⟨-, huntouched⟩ | ⟨d, hd, -, hwritten⟩
  · exact absurd rfl (huntouched _ hstaged)
  · rw [hstaged] at hd
    cases hd
    exact hwritten

/-- The staged refund after the commit. -/
theorem get_stagedRefund {r r' r₀ : KoraRefund} (hflush : work.flush db = .ok db')
    (hstaged : work.refund = some ⟨r, r'⟩) (hget : db.refunds.get r.id = some r₀) :
    db'.refunds.get r.id = some (KoraRefund.writeBack ⟨r, r'⟩ r₀) := by
  rcases UnitOfWork.flush_refunds_of_get hflush hget with ⟨-, huntouched⟩ | ⟨d, hd, -, hwritten⟩
  · exact absurd rfl (huntouched _ hstaged)
  · rw [hstaged] at hd
    cases hd
    exact hwritten

theorem StagesPayment.shown {t t' : Transaction}
    (h : StagesPayment (eventKind content.eventType) content.data work db t t')
    (hkind : eventKind content.eventType ≠ .refund)
    (hstand : statusesStand content work db = true) (hflush : work.flush db = .ok db') :
    PaymentShown (eventKind content.eventType) content.data db' := by
  obtain ⟨t₀, hget, haccount, hmatches⟩ := h.row
  refine ⟨_, Table.mem_of_get (get_staged hflush h.staged hget), hmatches, ?_, ?_⟩
  · refine (written_eq fun hsame => ?_).trans h.status
    simp only [statusesStand, h.staged, hget, Option.all_some, Bool.and_eq_true,
      decide_eq_true_eq, statusWritten, if_neg hkind] at hstand
    exact hstand.1 (congrArg some (h.status.symm.trans hsame.symm))
  · intro hpayout hclass hsome
    exact (h.debit hpayout hclass (haccount ▸ hsome)).committed hflush

theorem StagesRefund.shown {r r' : KoraRefund} {t t' : Transaction}
    (h : StagesRefund content.data work db r r' t t')
    (hkind : eventKind content.eventType = .refund)
    (hstand : statusesStand content work db = true) (hflush : work.flush db = .ok db') :
    RefundShown content.data db' := by
  obtain ⟨refs, r₀, hrefs, hget, hit, hreference, hparent⟩ := h.row
  obtain ⟨hid, t₀, hget', haccount⟩ := h.parent
  have hstored := get_stagedRefund hflush h.refund hget
  have hstored' := get_staged hflush h.transaction hget'
  simp only [statusesStand, h.refund, hget, h.transaction, hget', Option.all_some,
    Bool.and_eq_true, decide_eq_true_eq, statusWritten, if_pos hkind] at hstand
  rw [hid, ← hparent] at hstored'
  refine ⟨refs, hrefs, _, hits_of_kept hit (Table.mem_of_get hstored) rfl rfl, ?_, _, hstored', ?_⟩
  · refine (written_eq fun hsame => ?_).trans h.status
    exact hstand.2 (hsame.trans h.status)
  · intro hclass
    refine ⟨(written_eq fun hsame => ?_).trans (h.refunded hclass), fun hsome => ?_⟩
    · rw [if_pos hclass] at hstand
      exact hstand.1 (congrArg some ((h.refunded hclass).symm.trans hsame.symm))
    · rw [KoraRefund.writeBack_refundReference, hreference]
      exact (h.reversal hclass (haccount ▸ hsome)).committed hflush

/-- **What is staged is shown.**  When a unit of work is committed that stages the effect
of an event, and no status it left alone has changed meanwhile, the effect is in the
rows. -/
theorem StagesEffect.shown (h : StagesEffect content work db)
    (hstand : statusesStand content work db = true) (hflush : work.flush db = .ok db') :
    EffectShown content db' := by
  cases h with
  | refund hkind h => exact .refund hkind (h.shown hkind hstand hflush)
  | payment hkind h => exact .payment hkind (h.shown hkind hstand hflush)

end Commit

end AfricaFrontier
