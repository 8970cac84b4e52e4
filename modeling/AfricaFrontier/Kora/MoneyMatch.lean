import AfricaFrontier.Kora.Books

/-!
# Completion and the money the provider reports

A provider's answer names an amount and a currency.  Before a transaction is
completed, or an entry is written for it, both should be compared with the stored
row; `MoneyMatched` is the property that a step does nothing of the kind on an
answer that diverges.

Neither writer reads the two fields.  So a diverging answer only does no harm where
it changes nothing anyway, and `moneyChecked` lists these rows;
`money_matched_iff` says that there are no others.

Exactness is again a matter of moves: a step without one completes and enters nothing
(`BooksAfter.matched_none`); with one the property is about the transaction of the move
(`Moved.matched_iff`), and a diverging answer is harmless there exactly where the transaction was
completed before, and no entry is due (`Move.Harmless`).
-/

namespace AfricaFrontier

open Python Relational

/-- The answer states the amount and the currency of the transaction. -/
def matchesMoney (answer : Obj) (t : Transaction) : Bool :=
  (answer.get "amount").number = some t.amount && answer.get "currency" = .str t.currency

/-- The provider data a step carries: the signed object of an event, or the answer to a worker. A
failed call carries none. -/
def SettlementStep.answer : SettlementStep → Obj
  | .webhook body _ _ => bodyData body
  | .reconcile _ _ (.answered data) _ => data
  | .reconcile _ _ (.refused _) _ => []
  | .reconcile _ _ .raised _ => []

/-- A ledger entry of the transaction `i`, by the link its metadata carries. -/
def entryOf (i : ℕ) (e : VirtualLedgerEntry) : Bool :=
  e.entryMetadata.get "transaction_id" = .str (uuidText i)

/-- The ledger entries of the transaction `i`. -/
def entriesOf (i : ℕ) (db : Db) : List VirtualLedgerEntry := db.ledger.rows.filter (entryOf i)

/-- Where the answer diverges from the stored transaction `i`, the transaction does not
become completed and no entry is written for it. -/
def MoneyMatched (i : ℕ) (answer : Obj) (db db' : Db) : Prop :=
  ∀ t, db.transactions.get i = some t → matchesMoney answer t = false →
    (∀ t', db'.transactions.get i = some t' → t'.status = .completed → t.status = .completed) ∧
      entriesOf i db' = entriesOf i db

/-! ## The rows on which a diverging answer does no harm

For each kind of step, with the checks of `Books` for those that raise. -/

/-- A payment event matches the money of its transaction; or it is no success, or
refused; or the transaction is completed already and no debit is due. -/
def paymentChecked (kind : EventKind) (data : Obj) (t : Transaction) (db : Db) : Bool :=
  matchesMoney data t || classify (statusValue data) ≠ .success ||
    paymentRefused kind data t db || (t.status = .completed && !debitDue kind data t db)

/-- A callback matches the money of its payment, or writes no reversal. -/
def callbackChecked (data : Obj) (refund : KoraRefund) (t : Transaction) (db : Db) : Bool :=
  matchesMoney data t || callbackRefused data refund t db || !reversalDue data refund t db

/-- An answer matches the money of its transaction; or it is no success, or refused; or
the worker leaves the transaction's status alone. -/
def answerChecked (v : Verification) (task : KoraPaymentReconciliation) (t : Transaction) :
    Bool :=
  matchesMoney v.response t || v.normalized ≠ .success || answerRefused v task ||
    t.status.settled

/-- The steps that complete and enter only matching money for the transaction `i`: those that
raise, those about other transactions, and those whose answer names amount and currency of the
row, or does no harm to it. -/
def moneyChecked (i : ℕ) (db : Db) : SettlementStep → Bool
  | .webhook body eventType _ =>
      let data := bodyData body
      match eventKind eventType with
      | .refund =>
          match callbackTarget data db with
          | .ok (refund, t) => t.id ≠ i || callbackChecked data refund t db
          | .error _ => true
      | .payout =>
          (paymentTarget data db).all fun t => t.id ≠ i || paymentChecked .payout data t db
      | .charge =>
          (paymentTarget data db).all fun t => t.id ≠ i || paymentChecked .charge data t db
  | .reconcile _ claimedAt outcome _ =>
      match answerTarget claimedAt db, verification outcome with
      | some (task, t), some v => t.id ≠ i || answerChecked v task t
      | _, _ => true

/-! ## What a move does to a transaction and its entries -/

/-- A debit is an entry of its transaction. -/
theorem entryOf_payoutEntry (i : ℕ) (reference : String) (t : Transaction) (account : ℕ) :
    entryOf i (payoutEntry reference t account) = decide (t.id = i) := by
  simp [entryOf, payoutEntry, Obj.get, Obj.find]

/-- A reversal is an entry of the transaction whose refund it reverses. -/
theorem entryOf_refundEntry (i : ℕ) (refund : KoraRefund) (t : Transaction) (account : ℕ) :
    entryOf i (refundEntry refund t account) = decide (t.id = i) := by
  simp [entryOf, refundEntry, Obj.get, Obj.find]

section Exact

variable {i : ℕ} {answer : Obj} {db db' : Db}

/-- The entries of `i` stay exactly when the move adds none of its. -/
theorem Moved.entries_eq_iff {m : Move} (h : Moved m db db') :
    entriesOf i db' = entriesOf i db ↔ m.entry.any (entryOf i) = false := by
  rw [entriesOf, entriesOf, h.ledger, List.filter_append]
  cases m.entry with
  | none => simp
  | some e =>
      have hkey : entryOf i { e with id := db.ledger.next } = entryOf i e := rfl
      simp [List.filter_cons, hkey]

/-- A move completes its transaction, or enters something for it, only where it is
allowed to. -/
def Move.Harmless (m : Move) : Prop :=
  (m.status = .completed → m.transaction.status = .completed) ∧
    m.entry.any (entryOf m.transaction.id) = false

/-- Without a move nothing is completed or entered. -/
theorem BooksAfter.matched (h : BooksAfter none db db') : MoneyMatched i answer db db' := by
  obtain ⟨htransactions, hledger⟩ := h
  intro t hget _
  refine ⟨fun t' hget' hcompleted => ?_, by rw [entriesOf, hledger, entriesOf]⟩
  rw [htransactions, hget] at hget'
  obtain rfl := Option.some.inj hget'
  exact hcompleted

/-- With a move, the property is about the transaction of the move. -/
theorem Moved.matched_iff {m : Move} (h : Moved m db db')
    (hown : ∀ j, m.entry.any (entryOf j) = true → m.transaction.id = j) :
    MoneyMatched i answer db db' ↔
      (m.transaction.id = i → matchesMoney answer m.transaction = false → m.Harmless) := by
  constructor
  · rintro hmatched rfl hdiverges
    obtain ⟨hstatus, hentries⟩ := hmatched m.transaction h.stored hdiverges
    obtain ⟨t', hget', -, -, hmoved⟩ := h.moved
    refine ⟨fun hcompleted => hstatus t' hget' (hmoved.trans hcompleted), ?_⟩
    exact h.entries_eq_iff.mp hentries
  · intro hharmless t hget hdiverges
    rw [h.entries_eq_iff]
    by_cases htarget : i = m.transaction.id
    · subst htarget
      obtain rfl : m.transaction = t := Option.some.inj (h.stored.symm.trans hget)
      obtain ⟨hstatus, hentry⟩ := hharmless rfl hdiverges
      refine ⟨fun t' hget' hcompleted => hstatus ?_, hentry⟩
      obtain ⟨_, -, -, -, hmoved⟩ := h.row _ t' hget'
      rw [if_pos rfl] at hmoved
      exact hmoved.symm.trans hcompleted
    · -- another transaction keeps its status, and no entry of the move is its
      refine ⟨fun t' hget' hcompleted => ?_, ?_⟩
      · obtain ⟨t₀, hget₀, -, -, hsame⟩ := h.row i t' hget'
        obtain rfl : t = t₀ := Option.some.inj (hget.symm.trans hget₀)
        rw [if_neg htarget] at hsame
        exact hsame.symm.trans hcompleted
      · rw [← Bool.not_eq_true]
        exact fun hany => htarget (hown i hany).symm

/-- The guard of a step with a move has to say whether the move is harmless. -/
theorem BooksAfter.matched_exact {m : Move} {allowed : Bool} (h : BooksAfter (some m) db db')
    (hown : ∀ j, m.entry.any (entryOf j) = true → m.transaction.id = j)
    (hexact : allowed = true ↔ (matchesMoney answer m.transaction = false → m.Harmless)) :
    MoneyMatched i answer db db' ↔ (decide (m.transaction.id ≠ i) || allowed) = true := by
  rw [Moved.matched_iff h hown, ← hexact, Bool.or_eq_true, decide_eq_true_eq, ← imp_iff_not_or]

/-- The guard of a step without a move has to allow it. -/
theorem BooksAfter.matched_none {allowed : Bool} (h : BooksAfter none db db')
    (hallowed : allowed = true) : MoneyMatched i answer db db' ↔ allowed = true :=
  iff_of_true h.matched hallowed

/-- The guard of a payment event is exact. -/
theorem payment_matched {kind : EventKind} {data : Obj}
    (hbooks : BooksAfter (paymentMove kind data db) db db') :
    MoneyMatched i data db db' ↔
      ((paymentTarget data db).all fun t =>
        decide (t.id ≠ i) || paymentChecked kind data t db) = true := by
  unfold paymentMove at hbooks
  cases htarget : paymentTarget data db with
  | none =>
      rw [htarget] at hbooks
      exact hbooks.matched_none rfl
  | some t =>
      rw [htarget, Option.bind_some] at hbooks
      rw [Option.all_some]
      cases hrefused : paymentRefused kind data t db with
      | true =>
          rw [hrefused, if_pos rfl] at hbooks
          exact hbooks.matched_none (by simp [paymentChecked, hrefused])
      | false =>
          rw [hrefused, if_neg Bool.false_ne_true] at hbooks
          -- the entry, if there is one, is of the transaction that was found
          have hentry : ∀ j, (if debitDue kind data t db then
              t.virtualAccountId.map (payoutEntry (paymentReference data) t) else none).any
                (entryOf j) = (debitDue kind data t db && decide (t.id = j)) := fun j =>
            payment_entry_any fun account => entryOf_payoutEntry j (paymentReference data) t account
          refine hbooks.matched_exact (fun j hany => ?_) ?_
          · dsimp only at hany
            rw [hentry, Bool.and_eq_true, decide_eq_true_eq] at hany
            exact hany.2
          · simp only [Move.Harmless, hentry, decide_true, Bool.and_true, paymentChecked, hrefused]
            cases hclass : classify (statusValue data) with
            | success => simp [statusAfter, or_iff_not_imp_left]
            | failure =>
                have hdue : debitDue kind data t db = false :=
                  debitDue_of_class (by rw [hclass]; decide)
                simp [statusAfter, hdue]
            | other =>
                have hdue : debitDue kind data t db = false :=
                  debitDue_of_class (by rw [hclass]; decide)
                simp [statusAfter, hdue]

/-- The guard of a refund callback is exact. -/
theorem callback_matched {data : Obj} {refund : KoraRefund} {t : Transaction}
    (hbooks : BooksAfter (callbackMove data db) db db')
    (htarget : callbackTarget data db = .ok (refund, t)) :
    MoneyMatched i data db db' ↔
      (decide (t.id ≠ i) || callbackChecked data refund t db) = true := by
  simp only [callbackMove, htarget] at hbooks
  cases hrefused : callbackRefused data refund t db with
  | true =>
      rw [hrefused, if_pos rfl] at hbooks
      exact hbooks.matched_none (by simp [callbackChecked, hrefused])
  | false =>
      rw [hrefused, if_neg Bool.false_ne_true] at hbooks
      have hentry : ∀ j, (if reversalDue data refund t db then
          t.virtualAccountId.map (refundEntry refund t) else none).any (entryOf j) =
            (reversalDue data refund t db && decide (t.id = j)) := fun j =>
        reversal_entry_any fun account => entryOf_refundEntry j refund t account
      refine hbooks.matched_exact (fun j hany => ?_) ?_
      · dsimp only at hany
        rw [hentry, Bool.and_eq_true, decide_eq_true_eq] at hany
        exact hany.2
      · -- a refund completes nothing, so only its entry counts
        simp only [Move.Harmless, hentry, decide_true, Bool.and_true, callbackChecked, hrefused]
        by_cases hclass : classify (statusValue data) = .success
        · simp [hclass, or_iff_not_imp_left]
        · simp [hclass, or_iff_not_imp_left]

/-- The guard of an answer to the worker is exact. -/
theorem answer_matched {now : Instant} {outcome : ProviderOutcome} {v : Verification}
    {task : KoraPaymentReconciliation} {t : Transaction}
    (hbooks : BooksAfter (answerMove now outcome db) db db')
    (htarget : answerTarget now db = some (task, t)) (hv : verification outcome = some v) :
    MoneyMatched i v.response db db' ↔
      (decide (t.id ≠ i) || answerChecked v task t) = true := by
  simp only [answerMove, htarget, hv, Option.bind_some] at hbooks
  cases hrefused : answerRefused v task with
  | true =>
      rw [hrefused, if_pos rfl] at hbooks
      exact hbooks.matched_none (by simp [answerChecked, hrefused])
  | false =>
      rw [hrefused, if_neg Bool.false_ne_true] at hbooks
      refine hbooks.matched_exact (fun j hany => (by cases hany)) ?_
      simp only [Move.Harmless, Option.any_none, answerChecked, hrefused]
      cases hsettled : t.status.settled with
      | true => simp
      | false =>
          have hopen : t.status ≠ .completed := by
            rintro hdone
            rw [hdone] at hsettled
            cases hsettled
          cases hnormalized : v.normalized with
          | success => simp [statusAfter, hopen]
          | failure => simp [statusAfter]
          | other => simp

end Exact

/-- The provider data of a step the worker reads is the answer it verifies. -/
theorem response_eq_answer {worker : String} {claimedAt answeredAt : Instant}
    {outcome : ProviderOutcome} {v : Verification} (hv : verification outcome = some v) :
    v.response = (SettlementStep.reconcile worker claimedAt outcome answeredAt).answer := by
  cases outcome with
  | answered data =>
      obtain rfl := Option.some.inj hv
      rfl
  | refused message =>
      obtain rfl := Option.some.inj hv
      rfl
  | raised => cases hv

/-- **Completion and entries match the money reported** exactly on the steps
`moneyChecked` names. -/
theorem money_matched_iff (i : ℕ) (db : Db) (step : SettlementStep) :
    MoneyMatched i step.answer db (step.apply db) ↔ moneyChecked i db step = true := by
  -- neither amount nor currency is in the move
  have hbooks := apply_moved db step
  cases step with
  | webhook body eventType now =>
      simp only [SettlementStep.move, webhookMove] at hbooks
      simp only [moneyChecked, SettlementStep.answer]
      cases hkind : eventKind eventType with
      | payout =>
          rw [hkind] at hbooks
          exact payment_matched hbooks
      | charge =>
          rw [hkind] at hbooks
          exact payment_matched hbooks
      | refund =>
          rw [hkind] at hbooks
          cases htarget : callbackTarget (bodyData body) db with
          | error e =>
              simp only [callbackMove, htarget] at hbooks
              exact hbooks.matched_none rfl
          | ok target => exact callback_matched hbooks htarget
  | reconcile worker claimedAt outcome answeredAt =>
      simp only [SettlementStep.move] at hbooks
      simp only [moneyChecked]
      cases htarget : answerTarget claimedAt db with
      | none =>
          simp only [answerMove, htarget, Option.bind_none] at hbooks
          exact hbooks.matched_none rfl
      | some target =>
          cases hv : verification outcome with
          | none =>
              simp only [answerMove, htarget, hv, Option.bind_none, Option.bind_some] at hbooks
              exact hbooks.matched_none rfl
          | some v =>
              rw [← response_eq_answer hv]
              exact answer_matched hbooks htarget hv

/-- A success of `processingPayin`, over 1000 XAF, that reports one dollar. -/
def oneDollar : SettlementStep :=
  .webhook
    [("event", .str "charge.success"),
      ("data", .obj
        [("reference", .str "KPY-1"), ("amount", .int 1), ("currency", .str "USD"),
          ("status", .str "success")])] "charge.success" 0

/-- It completes the pay-in. -/
theorem money_unchecked :
    ¬ MoneyMatched 0 oneDollar.answer (Db.holding processingPayin)
      (oneDollar.apply (Db.holding processingPayin)) := by
  intro hmatched
  have hafter : ((oneDollar.apply (Db.holding processingPayin)).transactions.get 0).map
      (·.status) = some .completed := by decide +kernel
  obtain ⟨t', hget', hcompleted⟩ := Option.map_eq_some_iff.mp hafter
  have hget : (Db.holding processingPayin).transactions.get 0 = some processingPayin := by
    decide +kernel
  have hdiverges : matchesMoney oneDollar.answer processingPayin = false := by decide +kernel
  have hbefore := (hmatched processingPayin hget hdiverges).1 t' hget' hcompleted
  exact absurd hbefore (by decide)

end AfricaFrontier
