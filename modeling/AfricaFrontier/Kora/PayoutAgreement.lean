import AfricaFrontier.Kora.Books
import AfricaFrontier.Kora.PayoutDebit

/-!
# The status of a payout and its debit

A payout is completed exactly when its debit is in the ledger — as long as the two
are written together.  Only one of the writers does so: a successful payout event
that finds no debit under its reference.  A charge event and the worker complete a
payout without a debit, a later failure or refund leaves a debit behind a status
that denies it, and an event named `payout` debits a pay-in, because the event's
name decides and not the operation the transaction was stored with.

`keepsAgreement` lists, for each kind of step, the rows on which none of this
happens.  It is exact: `agrees_apply` says that a step from an agreeing state meets
it if and only if the state after the step agrees, so `payout_agrees` is an
equivalence over whole runs.

The guards are stated per kind of step and on the rows alone, with the checks of `Books` for a
step that raises. Exactness is then proved per kind (`payment_exact`, `callback_exact`,
`answer_exact`), each time in the same way: without a move the step is allowed and the agreement
stays (`BooksAfter.exact_none`), and with one the guard has to say whether the transaction that
moves agrees afterwards (`BooksAfter.exact_some`).
-/

namespace AfricaFrontier

open Python Relational Transition

/-- The status of a transaction agrees with the payout debits of the ledger. -/
structure PayoutAgrees (t : Transaction) (db : Db) : Prop where
  completed : t.isPayout = true → (t.status = .completed ↔ 0 < debits t.id db)
  failed : t.isPayout = true → t.status = .failed → debits t.id db = 0
  payin : t.isPayout = false → debits t.id db = 0

/-- The transaction `i`, if it has a virtual account, agrees with the ledger: a payout is
completed exactly if it has a debit, and a pay-in has none. -/
def Agrees (i : ℕ) (db : Db) : Prop :=
  ∀ t, db.transactions.get i = some t → t.virtualAccountId.isSome = true → PayoutAgrees t db

/-- A failed payout has no debit because a payout with a debit is completed. -/
theorem payoutAgrees_iff {t : Transaction} {db : Db} :
    PayoutAgrees t db ↔
      (t.isPayout = true → (t.status = .completed ↔ 0 < debits t.id db)) ∧
        (t.isPayout = false → debits t.id db = 0) := by
  refine ⟨fun h => ⟨h.completed, h.payin⟩, fun h => ⟨h.1, fun hpayout hfailed => ?_, h.2⟩⟩
  by_contra hdebit
  have hcompleted := (h.1 hpayout).mpr (Nat.pos_of_ne_zero hdebit)
  rw [hfailed] at hcompleted
  cases hcompleted

/-! ## Which steps keep the agreement

For each kind of step, the rows on which the status and the debit are written together, or
neither. -/

/-- The result is about this transaction. -/
def concerns (i : ℕ) (t : Transaction) : Bool := t.id = i && t.virtualAccountId.isSome

/-- A payment event keeps its transaction in agreement: it is refused; or it completes
a payout that is completed already or whose debit it writes; or it completes a
pay-in without a debit; or it takes no completed payout to another status. -/
def paymentAgrees (kind : EventKind) (data : Obj) (t : Transaction) (db : Db) : Bool :=
  paymentRefused kind data t db ||
    match classify (statusValue data), t.isPayout with
    | .success, true => t.status = .completed || debitDue kind data t db
    | .success, false => !debitDue kind data t db
    | _, true => t.status ≠ .completed
    | _, false => true

/-- A callback does unless it refunds a completed payout. -/
def callbackAgrees (data : Obj) (refund : KoraRefund) (t : Transaction) (db : Db) : Bool :=
  callbackRefused data refund t db || classify (statusValue data) ≠ .success || !t.isPayout ||
    t.status ≠ .completed

/-- An answer does unless it completes a payout. -/
def answerAgrees (v : Verification) (task : KoraPaymentReconciliation) (t : Transaction) : Bool :=
  answerRefused v task || v.normalized ≠ .success || !t.isPayout || t.status.settled

/-- The steps that keep the transaction `i` in agreement, judged on the rows they
find. -/
def keepsAgreement (i : ℕ) (db : Db) : SettlementStep → Bool
  | .webhook body eventType _ =>
      let data := bodyData body
      match eventKind eventType with
      | .refund =>
          match callbackTarget data db with
          | .ok (refund, t) => !concerns i t || callbackAgrees data refund t db
          | .error _ => true
      | .payout =>
          (paymentTarget data db).all fun t => !concerns i t || paymentAgrees .payout data t db
      | .charge =>
          (paymentTarget data db).all fun t => !concerns i t || paymentAgrees .charge data t db
  | .reconcile _ claimedAt outcome _ =>
      match answerTarget claimedAt db, verification outcome with
      | some (task, t), some v => !concerns i t || answerAgrees v task t
      | _, _ => true

/-! ## What a move does to the agreement -/

/-- The debits of `i` after a move. -/
def Move.debits (m : Move) (i : ℕ) (db : Db) : ℕ :=
  AfricaFrontier.debits i db + if m.entry.any (debitOf i) then 1 else 0

/-- The debits after a move. -/
theorem Moved.debits_eq {m : Move} {db db' : Db} (h : Moved m db db') (i : ℕ) :
    debits i db' = m.debits i db := by
  rw [debits, h.ledger, List.countP_append, Move.debits, debits]
  cases m.entry with
  | none => rfl
  | some e => simp [List.countP_singleton, debitOf]

/-- The transaction a move names agrees after it. It is stated on the move, the status and the
entry, so that no proof has to look at the database after the step. -/
def Move.Agrees (m : Move) (db : Db) : Prop :=
  (m.transaction.isPayout = true →
      (m.status = .completed ↔ 0 < m.debits m.transaction.id db)) ∧
    (m.transaction.isPayout = false → m.debits m.transaction.id db = 0)

/-- A move of its own transaction, or of none. -/
theorem Move.debits_of_ne {m : Move} {i : ℕ} {db : Db}
    (hown : ∀ j, m.entry.any (debitOf j) = true → m.transaction.id = j)
    (hne : m.transaction.id ≠ i) : m.debits i db = AfricaFrontier.debits i db := by
  rw [Move.debits, if_neg fun hany => hne (hown i hany), Nat.add_zero]

/-- A move that only adds debits of its own transaction keeps `i` in agreement exactly
when it keeps its own transaction in agreement, if that is `i`. -/
theorem Moved.agrees_iff {m : Move} {db db' : Db} {i : ℕ} (h : Moved m db db')
    (hown : ∀ j, m.entry.any (debitOf j) = true → m.transaction.id = j)
    (hbefore : Agrees i db) :
    Agrees i db' ↔ (concerns i m.transaction = true → m.Agrees db) := by
  have hconcerns : concerns i m.transaction = true ↔
      m.transaction.id = i ∧ m.transaction.virtualAccountId.isSome = true := by
    simp [concerns]
  rw [hconcerns]
  constructor
  · rintro hafter ⟨rfl, haccount⟩
    obtain ⟨t', hget', haccount', hpayout', hstatus'⟩ := h.moved
    obtain ⟨hcompleted, hpayin⟩ :=
      payoutAgrees_iff.mp (hafter t' hget' (by rw [haccount']; exact haccount))
    have hid : t'.id = m.transaction.id := Table.ident_of_get hget'
    rw [hpayout', hstatus', hid, h.debits_eq] at hcompleted
    rw [hpayout', hid, h.debits_eq] at hpayin
    exact ⟨hcompleted, hpayin⟩
  · intro hmove t' hget' haccount'
    obtain ⟨t, hget, haccount, hpayout, hstatus⟩ := h.row i t' hget'
    have hid : t'.id = t.id := (Table.ident_of_get hget').trans (Table.ident_of_get hget).symm
    have hi : t.id = i := Table.ident_of_get hget
    rw [haccount] at haccount'
    rw [payoutAgrees_iff, hpayout, hstatus, hid, h.debits_eq, hi]
    by_cases htarget : i = m.transaction.id
    · -- the transaction of the move
      obtain rfl : t = m.transaction := by
        rw [htarget, h.stored] at hget
        exact (Option.some.inj hget).symm
      rw [if_pos htarget, htarget]
      exact hmove ⟨htarget.symm, haccount'⟩
    · -- any other transaction is as it was
      rw [if_neg htarget, Move.debits_of_ne hown (Ne.symm htarget), ← hi]
      exact payoutAgrees_iff.mp (hbefore t hget haccount')

/-! ## Step by step -/

section Exact

variable {i : ℕ} {db db' : Db}

/-- The state of the transaction a move is about, in the agreement before it. -/
def AgreesBefore (t : Transaction) (db : Db) : Prop :=
  (t.isPayout = true → (t.status = .completed ↔ 0 < debits t.id db)) ∧
    (t.isPayout = false → debits t.id db = 0)

/-- A payment event that is not refused keeps its transaction in agreement exactly on
the rows `paymentAgrees` names. -/
theorem payment_agrees_iff {kind : EventKind} {data : Obj} {t : Transaction}
    (hbefore : AgreesBefore t db) (hallowed : paymentRefused kind data t db = false) :
    Move.Agrees
        { transaction := t
          status := statusAfter (classify (statusValue data))
          entry :=
            if debitDue kind data t db then
              t.virtualAccountId.map (payoutEntry (paymentReference data) t)
            else none } db ↔
      paymentAgrees kind data t db = true := by
  simp only [Move.Agrees, Move.debits, decide_true, Bool.and_true,
    payment_entry_any fun account => debitOf_payoutEntry t.id (paymentReference data) t account]
  unfold paymentAgrees
  rw [hallowed, Bool.false_or]
  obtain ⟨hcompleted, hpayin⟩ := hbefore
  cases hpayout : t.isPayout with
  | true =>
      have hstatus := hcompleted hpayout
      cases hclass : classify (statusValue data) with
      -- a success that does not debit agrees only where the debit is there already
      | success =>
          cases hdue : debitDue kind data t db with
          | true => simp [statusAfter]
          | false => simp [statusAfter, hstatus]
      | failure =>
          have hdue : debitDue kind data t db = false := debitDue_of_class (by rw [hclass]; decide)
          simp [statusAfter, hdue, hstatus]
      | other =>
          have hdue : debitDue kind data t db = false := debitDue_of_class (by rw [hclass]; decide)
          simp [statusAfter, hdue, hstatus]
  | false =>
      have hnone := hpayin hpayout
      cases hclass : classify (statusValue data) with
      | success => cases hdue : debitDue kind data t db <;> simp [hnone]
      | failure =>
          have hdue : debitDue kind data t db = false := debitDue_of_class (by rw [hclass]; decide)
          simp [hdue, hnone]
      | other =>
          have hdue : debitDue kind data t db = false := debitDue_of_class (by rw [hclass]; decide)
          simp [hdue, hnone]

/-- Without a move the agreement stays. -/
theorem BooksAfter.agrees (h : BooksAfter none db db') (hbefore : Agrees i db) :
    Agrees i db' := by
  obtain ⟨htransactions, hledger⟩ := h
  intro t hget haccount
  rw [htransactions] at hget
  have hsame := hbefore t hget haccount
  rw [payoutAgrees_iff, debits] at hsame
  rw [payoutAgrees_iff, debits, hledger]
  exact hsame

/-- Without a move, the guard has to allow the step. -/
theorem BooksAfter.exact_none {allowed : Bool} (h : BooksAfter none db db')
    (hbefore : Agrees i db) (hallowed : allowed = true) : allowed = true ↔ Agrees i db' :=
  iff_of_true hallowed (h.agrees hbefore)

/-- With a move, the guard has to say whether the move keeps its own transaction in
agreement. -/
theorem BooksAfter.exact_some {m : Move} {allowed : Bool} (h : BooksAfter (some m) db db')
    (hown : ∀ j, m.entry.any (debitOf j) = true → m.transaction.id = j)
    (hbefore : Agrees i db)
    (hexact : AgreesBefore m.transaction db → (m.Agrees db ↔ allowed = true)) :
    (!concerns i m.transaction || allowed) = true ↔ Agrees i db' := by
  rw [Moved.agrees_iff h hown hbefore, Bool.or_eq_true, Bool.not_eq_true', ← Bool.not_eq_true,
    ← imp_iff_not_or]
  refine forall_congr' fun hconcerns => (hexact ?_).symm
  have hself := hconcerns
  simp only [concerns, Bool.and_eq_true, decide_eq_true_eq] at hself
  obtain ⟨rfl, haccount⟩ := hself
  exact payoutAgrees_iff.mp (hbefore m.transaction h.stored haccount)

/-- The guard of a payment event is exact. -/
theorem payment_exact {kind : EventKind} {data : Obj} (hbefore : Agrees i db)
    (hbooks : BooksAfter (paymentMove kind data db) db db') :
    ((paymentTarget data db).all fun t => !concerns i t || paymentAgrees kind data t db) = true ↔
      Agrees i db' := by
  unfold paymentMove at hbooks
  cases htarget : paymentTarget data db with
  | none =>
      rw [htarget] at hbooks
      exact hbooks.exact_none hbefore rfl
  | some t =>
      rw [htarget, Option.bind_some] at hbooks
      rw [Option.all_some]
      cases hrefused : paymentRefused kind data t db with
      -- an event that raises moves nothing
      | true =>
          rw [hrefused, if_pos rfl] at hbooks
          exact hbooks.exact_none hbefore
            (by rw [paymentAgrees, hrefused, Bool.true_or, Bool.or_true])
      | false =>
          rw [hrefused, if_neg Bool.false_ne_true] at hbooks
          refine hbooks.exact_some (fun j hany => ?_) hbefore fun hself =>
            payment_agrees_iff hself hrefused
          dsimp only at hany
          rw [payment_entry_any fun account =>
            debitOf_payoutEntry j (paymentReference data) t account, Bool.and_eq_true,
            decide_eq_true_eq] at hany
          exact hany.2

/-- The guard of a refund callback is exact. -/
theorem callback_exact {data : Obj} {refund : KoraRefund} {t : Transaction}
    (hbefore : Agrees i db) (hbooks : BooksAfter (callbackMove data db) db db')
    (htarget : callbackTarget data db = .ok (refund, t)) :
    (!concerns i t || callbackAgrees data refund t db) = true ↔ Agrees i db' := by
  simp only [callbackMove, htarget] at hbooks
  cases hrefused : callbackRefused data refund t db with
  | true =>
      rw [hrefused, if_pos rfl] at hbooks
      exact hbooks.exact_none hbefore (by simp [callbackAgrees, hrefused])
  | false =>
      rw [hrefused, if_neg Bool.false_ne_true] at hbooks
      -- a reversal is no debit
      have hnodebit : ∀ j, (if reversalDue data refund t db then
          t.virtualAccountId.map (refundEntry refund t) else none).any (debitOf j) = false := by
        intro j
        rw [reversal_entry_any fun account => debitOf_refundEntry j refund t account,
          Bool.and_false]
      refine hbooks.exact_some (fun j hany => ?_) hbefore fun hself => ?_
      · dsimp only at hany
        rw [hnodebit] at hany
        cases hany
      · obtain ⟨hcompleted, hpayin⟩ := hself
        simp only [Move.Agrees, Move.debits, hnodebit, callbackAgrees, hrefused]
        simp only at hcompleted hpayin
        cases hpayout : t.isPayout with
        | true =>
            have hstatus := hcompleted hpayout
            by_cases hclass : classify (statusValue data) = .success
            · simp [hclass, hstatus]
            · simp [hclass, hstatus]
        | false => simp [hpayin hpayout]

/-- The guard of an answer to the worker is exact. -/
theorem answer_exact {now : Instant} {outcome : ProviderOutcome} {v : Verification}
    {task : KoraPaymentReconciliation} {t : Transaction} (hbefore : Agrees i db)
    (hbooks : BooksAfter (answerMove now outcome db) db db')
    (htarget : answerTarget now db = some (task, t)) (hv : verification outcome = some v) :
    (!concerns i t || answerAgrees v task t) = true ↔ Agrees i db' := by
  simp only [answerMove, htarget, hv, Option.bind_some] at hbooks
  cases hrefused : answerRefused v task with
  | true =>
      rw [hrefused, if_pos rfl] at hbooks
      exact hbooks.exact_none hbefore (by simp [answerAgrees, hrefused])
  | false =>
      rw [hrefused, if_neg Bool.false_ne_true] at hbooks
      refine hbooks.exact_some (fun j hany => (by cases hany)) hbefore
        fun hself => ?_
      obtain ⟨hcompleted, hpayin⟩ := hself
      simp only [Move.Agrees, Move.debits, Option.any_none, answerAgrees, hrefused]
      simp only at hcompleted hpayin
      cases hpayout : t.isPayout with
      | false => simp [hpayin hpayout]
      | true =>
          have hstatus := hcompleted hpayout
          cases hsettled : t.status.settled with
          | true => simp [hstatus]
          | false =>
              -- a payout that is not settled is not completed, so it has no debit
              have hnone : ¬ 0 < debits t.id db := by
                rw [← hstatus]
                intro hdone
                rw [hdone] at hsettled
                cases hsettled
              cases hnormalized : v.normalized with
              | success => simp [statusAfter, hnone]
              | failure => simp [statusAfter, hnone]
              | other => simp [hstatus]

end Exact

/-- **One step.**  From a state in which `i` agrees, a step meets `keepsAgreement` if and
only if `i` agrees after it. -/
theorem agrees_apply {i : ℕ} {db : Db} (step : SettlementStep) (hbefore : Agrees i db) :
    keepsAgreement i db step = true ↔ Agrees i (step.apply db) := by
  -- what the step does to the books; whether they agree is then a matter of the move
  have hbooks := apply_moved db step
  cases step with
  | webhook body eventType now =>
      simp only [SettlementStep.move, webhookMove] at hbooks
      simp only [keepsAgreement]
      cases hkind : eventKind eventType with
      | payout =>
          rw [hkind] at hbooks
          exact payment_exact hbefore hbooks
      | charge =>
          rw [hkind] at hbooks
          exact payment_exact hbefore hbooks
      | refund =>
          rw [hkind] at hbooks
          cases htarget : callbackTarget (bodyData body) db with
          | error e =>
              simp only [callbackMove, htarget] at hbooks
              exact hbooks.exact_none hbefore rfl
          | ok target => exact callback_exact hbefore hbooks htarget
  | reconcile worker claimedAt outcome answeredAt =>
      simp only [SettlementStep.move] at hbooks
      simp only [keepsAgreement]
      cases htarget : answerTarget claimedAt db with
      | none =>
          simp only [answerMove, htarget, Option.bind_none] at hbooks
          exact hbooks.exact_none hbefore rfl
      | some target =>
          cases hv : verification outcome with
          | none =>
              simp only [answerMove, htarget, hv, Option.bind_none, Option.bind_some] at hbooks
              exact hbooks.exact_none hbefore rfl
          | some v => exact answer_exact hbefore hbooks htarget hv

/-! ## Runs

From an agreeing state the first step that does not meet the guard is the first after which the
state does not agree. -/

/-- **The status of a payout agrees with its debit** in every state a run reaches
exactly when every step of the run meets `keepsAgreement`. -/
theorem payout_agrees {i : ℕ} {db db' : Db} {steps : List SettlementStep}
    (start : Agrees i db) (run : Run settlement Unguarded db steps db') :
    Run settlement (fun db step => keepsAgreement i db step = true) db steps db' ↔
      ∀ front back reached, steps = front ++ back →
        Run settlement Unguarded db front reached → Agrees i reached := by
  refine run.guarded_iff (fun s step s' hstep hbefore => ?_) start
  obtain rfl : step.apply s = s' := Option.some.inj hstep
  exact agrees_apply step hbefore

/-! ## One payout, confirmed by the provider and by the worker -/

/-- A transaction on its own, not yet completed, agrees with the empty ledger. -/
theorem Agrees.holding {t : Transaction} (h : t.status ≠ .completed) :
    Agrees t.id (Db.holding t) := by
  intro s hget _
  have hmem : s ∈ (Db.holding t).transactions := Table.mem_of_get hget
  obtain rfl : s = t := List.mem_singleton.mp hmem
  have hnone : debits s.id (Db.holding s) = 0 := rfl
  rw [payoutAgrees_iff, hnone]
  simp [h]

/-- The provider's event about `acceptedPayout`, with the given status. -/
def payoutEvent (status : String) : SettlementStep :=
  .webhook
    [("event", .str "transfer"),
      ("data", .obj [("reference", .str "KPO-1"), ("status", .str status)])] "transfer" 0

/-- The worker's call twenty seconds later, answered with a success. -/
def workerSuccess : SettlementStep :=
  .reconcile "afm-reconciliation-1" (seconds 20) (.answered [("status", .str "success")])
    (seconds 21)

/-- The statement on a payout that the provider confirms. -/
theorem payout_agrees_debited :
    ∃ db', Run settlement Unguarded (Db.holding acceptedPayout)
        [payoutEvent "processing", payoutEvent "success", workerSuccess] db' ∧
      (db'.transactions.get 0).map (·.status) = some .completed ∧ Agrees 0 db' := by
  have hcheck : (settlement.check (keepsAgreement 0) (Db.holding acceptedPayout)
      [payoutEvent "processing", payoutEvent "success", workerSuccess]).map
        (fun db => (db.transactions.get 0).map (·.status)) = some (some .completed) := by
    decide +kernel
  obtain ⟨db', hrun, hstatus⟩ := Option.map_eq_some_iff.mp hcheck
  have guarded := Run.of_check hrun
  have start : Agrees 0 (Db.holding acceptedPayout) := Agrees.holding (by decide)
  have hall := (payout_agrees start guarded.unguarded).mp guarded
  exact ⟨db', guarded.unguarded, hstatus, hall _ [] db' rfl guarded.unguarded⟩

/-- The worker completes a payout and writes no debit. -/
theorem payout_completed_without_debit :
    ∃ db', Run settlement Unguarded (Db.holding acceptedPayout)
        [payoutEvent "processing", workerSuccess] db' ∧
      Agrees 0 (Db.holding acceptedPayout) ∧ ¬ Agrees 0 db' := by
  have hcheck : (settlement.check (fun _ _ => true) (Db.holding acceptedPayout)
      [payoutEvent "processing", workerSuccess]).map
        (fun db => ((db.transactions.get 0).map fun t =>
          (t.virtualAccountId.isSome, t.isPayout, t.status), debits 0 db)) =
      some (some (true, true, .completed), 0) := by
    decide +kernel
  obtain ⟨db', hrun, hafter⟩ := Option.map_eq_some_iff.mp hcheck
  obtain ⟨hrow, hdebits⟩ := Prod.mk.inj hafter
  obtain ⟨t, hget, ht⟩ := Option.map_eq_some_iff.mp hrow
  obtain ⟨haccount, hpayout, hcompleted⟩ : t.virtualAccountId.isSome = true ∧
      t.isPayout = true ∧ t.status = .completed := by
    simpa using ht
  refine ⟨db', (Run.of_check hrun).unguarded, Agrees.holding (by decide), fun hall => ?_⟩
  have hdebit := ((hall t hget haccount).completed hpayout).mp hcompleted
  have hid : t.id = 0 := Table.ident_of_get hget
  rw [hid, hdebits] at hdebit
  omega

end AfricaFrontier
