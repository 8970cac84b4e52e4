import AfricaFrontier.Kora.MoneyMatch
import AfricaFrontier.Kora.PayoutRoute

/-!
# The cash of a refunded pay-in

A pay-in that is refunded in full should leave the customer's balance where it was:
what the refund takes, the completion has brought.  `get_virtual_cash_balance` sums
the ledger of the account, so this is a statement about entries.

`bookkeeping` is the system of everything in the source that writes transactions,
refunds or the ledger: the two writers of `settlement`, the routes that insert a
transaction or a refund, and the sandbox route, which posts a journal entry of zero
along with its transaction.  Amounts are positive where they enter, since every
request model checks it.

No writer credits anything.  So along every run each entry is a journal entry or a
debit of a stored transaction (`Posted`), entries are only ever added (`Extends`),
and the debit of a refund finds nothing on the other side:
`refunded_not_neutral`.

The main result is a strict inequality: the balance after a refunded pay-in is below the one
before it. From above it is bounded since no posted entry adds to a balance
(`Posted.signedAmount_nonpos`), and the ledger only grows; strictly, since the debit of the refund
is in the account of the payment and takes its amount (`debit_entered`).

The pay-in of the statement is followed through its life: stored, completed, refunded in full,
with any steps of the whole system in between (`RefundedPayIn`).
-/

namespace AfricaFrontier

open Python Relational Transition

/-! ## The balance -/

/-- An entry as it counts in a balance. -/
def signedAmount (e : VirtualLedgerEntry) : ℚ :=
  if e.direction = "credit" then e.amount else -e.amount

/-- `get_virtual_cash_balance`. -/
def virtualCashBalance (account : ℕ) (db : Db) : ℚ :=
  ((db.ledger.rows.filter fun e => decide (e.virtualAccountId = account)).map signedAmount).sum

/-- The part of the balance that comes from the entries of the transaction `i`. -/
def ownCash (i account : ℕ) (db : Db) : ℚ :=
  ((db.ledger.rows.filter fun e =>
    decide (e.virtualAccountId = account) && entryOf i e).map signedAmount).sum

/-- The credits of the transaction `i` in an account: a pay-in that is settled should have exactly
one. -/
def creditsOf (i account : ℕ) (db : Db) : List VirtualLedgerEntry :=
  db.ledger.rows.filter fun e =>
    decide (e.virtualAccountId = account) && entryOf i e && e.direction = "credit"

/-! ## The writers -/

/-- The entry `simulate_payment` posts with its transaction. -/
def journalEntry (id account transactionId : ℕ) (currency : String) : VirtualLedgerEntry where
  id := id
  virtualAccountId := account
  entryType := "payment_intent"
  direction := "credit"
  amount := 0
  currency := currency
  referenceType := "transaction"
  referenceId := uuidText transactionId
  description := "Sandbox payment intent — no funds movement"
  entryMetadata :=
    [("balance_affecting", .bool false), ("execution_mode", .str "sandbox_simulation")]

/-- The ledger with that entry. -/
def postJournal (account transactionId : ℕ) (currency : String)
    (ledger : Table VirtualLedgerEntry) : Table VirtualLedgerEntry :=
  ledger.add (fun n => journalEntry n account transactionId currency) (fun _ => rfl)
    (fun _ _ h => h)

/-- The entry is added at the end. -/
theorem postJournal_rows (account transactionId : ℕ) (currency : String)
    (ledger : Table VirtualLedgerEntry) :
    (postJournal account transactionId currency ledger).rows =
      ledger.rows ++ [journalEntry ledger.next account transactionId currency] :=
  Table.add_rows _ _ _ _

/-- A transaction, stored under the next key. -/
def storeTransaction (t : Transaction) (db : Db) : Option Db :=
  (insertTransaction t db).map fun transactions => { db with transactions := transactions }

/-- A step of one of the writers. -/
inductive BookStep
  | settle (step : SettlementStep)
  | store (transaction : Transaction) (positive : 0 < transaction.amount)
  | simulate (transaction : Transaction) (account : ℕ) (positive : 0 < transaction.amount)
  | request (refund : KoraRefund) (positive : 0 < refund.amount)

/-- The database after a step; an insert the constraints refuse is no step. Every writer of
transactions, refunds and ledger entries is among the steps. -/
def BookStep.apply (db : Db) : BookStep → Option Db
  | .settle step => some (step.apply db)
  | .store transaction _ => storeTransaction transaction db
  | .simulate transaction account _ =>
      (storeTransaction transaction db).map fun stored =>
        { stored with
          ledger := postJournal account db.transactions.next transaction.currency db.ledger }
  | .request refund _ =>
      (db.refunds.insert (fun n => { refund with id := n }) (fun _ => rfl)).map fun refunds =>
        { db with refunds := refunds }

/-- Everything that writes transactions, refunds or the ledger, in any order. -/
def bookkeeping : Machine Db BookStep where
  step := BookStep.apply

/-! ## What is only ever added to

No writer takes an entry out of the ledger, or a row out of the other tables. -/

/-- Transactions and refunds stay, with the columns no flow assigns, and the ledger
only grows. -/
structure Extends (db db' : Db) : Prop where
  transactions : ∀ i t, db.transactions.get i = some t → ∃ t', db'.transactions.get i = some t' ∧
    t'.virtualAccountId = t.virtualAccountId
  refunds : ∀ r ∈ db.refunds, ∃ r' ∈ db'.refunds, r'.refundReference = r.refundReference ∧
    r'.transactionId = r.transactionId ∧ r'.amount = r.amount
  ledger : db.ledger.rows <+: db'.ledger.rows

instance : IsPreorder Db Extends where
  refl _ :=
    { transactions := fun _ t hget => ⟨t, hget, rfl⟩
      refunds := fun r hr => ⟨r, hr, rfl, rfl, rfl⟩
      ledger := List.prefix_rfl }
  trans a b c hab hbc :=
    { transactions := fun i t hget => by
        obtain ⟨t', hget', hsame⟩ := hab.transactions i t hget
        obtain ⟨t'', hget'', hsame'⟩ := hbc.transactions i t' hget'
        exact ⟨t'', hget'', hsame'.trans hsame⟩
      refunds := fun r hr => by
        obtain ⟨r', hr', href, hparent, hamount⟩ := hab.refunds r hr
        obtain ⟨r'', hr'', href', hparent', hamount'⟩ := hbc.refunds r' hr'
        exact ⟨r'', hr'', href'.trans href, hparent'.trans hparent, hamount'.trans hamount⟩
      ledger := hab.ledger.trans hbc.ledger }

/-- The transactions after a step of `settlement`: as before, or one row written
back. -/
theorem settle_transactions (db : Db) (step : SettlementStep) :
    (step.apply db).transactions = db.transactions ∨
      ∃ i d, (step.apply db).transactions = db.transactions.modify i (Transaction.writeBack d)
        (Transaction.key_writeBack d) := by
  cases step with
  | webhook body eventType now =>
      rcases webhookEffect_transactions body eventType now db with hsame | ⟨t, t', -, hwritten, -⟩
      · exact Or.inl hsame
      · exact Or.inr ⟨t.id, ⟨t, t'⟩, hwritten⟩
  | reconcile worker claimedAt outcome answeredAt =>
      obtain ⟨hcase, -, -⟩ := reconcileDueOnce_cases worker claimedAt outcome answeredAt db
      rcases hcase with hsame | ⟨-, v, t, provider, -, -, -, hwritten⟩
      · exact Or.inl hsame
      · exact Or.inr ⟨t.id, _, hwritten⟩

/-- Its refunds, likewise. -/
theorem settle_refunds (db : Db) (step : SettlementStep) :
    (step.apply db).refunds = db.refunds ∨
      ∃ i d, (step.apply db).refunds = db.refunds.modify i (KoraRefund.writeBack d)
        (KoraRefund.key_writeBack d) := by
  cases step with
  | webhook body eventType now =>
      rcases webhookEffect_cases body eventType now db with hsame | ⟨u, -, hflush⟩
      · exact Or.inl (congrArg Db.refunds hsame)
      · have hrefunds := (UnitOfWork.flush_ok hflush).2.1
        unfold UnitOfWork.refundsAfter at hrefunds
        split at hrefunds
        · exact Or.inl hrefunds
        · rename_i d _
          exact Or.inr ⟨d.loaded.id, d, hrefunds⟩
  | reconcile worker claimedAt outcome answeredAt =>
      exact Or.inl (reconcileDueOnce_cases worker claimedAt outcome answeredAt db).2.1

/-- A row after a step of `settlement` has the amount of a row before it. -/
theorem settle_transaction_mem {db : Db} {step : SettlementStep} {t' : Transaction}
    (h : t' ∈ (step.apply db).transactions) :
    ∃ t ∈ db.transactions, t'.amount = t.amount := by
  rcases settle_transactions db step with hsame | ⟨i, d, hwritten⟩
  · rw [hsame] at h
    exact ⟨t', h, rfl⟩
  · rw [hwritten] at h
    obtain ⟨t, ht, rfl⟩ := Table.mem_modify.mp h
    refine ⟨t, ht, ?_⟩
    split
    · exact Transaction.writeBack_amount d t
    · rfl

/-- A refund after such a step has the amount of one before it. -/
theorem settle_refund_mem {db : Db} {step : SettlementStep} {r' : KoraRefund}
    (h : r' ∈ (step.apply db).refunds) : ∃ r ∈ db.refunds, r'.amount = r.amount := by
  rcases settle_refunds db step with hsame | ⟨i, d, hwritten⟩
  · rw [hsame] at h
    exact ⟨r', h, rfl⟩
  · rw [hwritten] at h
    obtain ⟨r, hr, rfl⟩ := Table.mem_modify.mp h
    refine ⟨r, hr, ?_⟩
    split
    · exact KoraRefund.writeBack_amount d r
    · rfl

/-- The ledger after a step of `settlement`, and where a new entry comes from. -/
theorem settle_ledger (db : Db) (step : SettlementStep) :
    (step.apply db).ledger.rows = db.ledger.rows ∨
      ∃ m e, step.move db = some m ∧ m.entry = some e ∧
        db.transactions.get m.transaction.id = some m.transaction ∧
        (step.apply db).ledger.rows = db.ledger.rows ++ [{ e with id := db.ledger.next }] := by
  have hbooks := apply_moved db step
  cases hmove : step.move db with
  | none =>
      rw [hmove] at hbooks
      exact Or.inl (congrArg Table.rows hbooks.2)
  | some m =>
      rw [hmove] at hbooks
      have hledger := Moved.ledger hbooks
      cases hentry : m.entry with
      | none =>
          rw [hentry] at hledger
          exact Or.inl (hledger.trans (List.append_nil _))
      | some e =>
          rw [hentry] at hledger
          exact Or.inr ⟨m, e, rfl, hentry, Moved.stored hbooks, hledger⟩

/-- A step of `settlement` extends the books. -/
theorem settle_extends (db : Db) (step : SettlementStep) : Extends db (step.apply db) where
  transactions i t hget := by
    rcases settle_transactions db step with hsame | ⟨j, d, hwritten⟩
    · exact ⟨t, by rw [hsame, hget], rfl⟩
    · refine ⟨_, by rw [hwritten, Table.get_modify, hget]; rfl, ?_⟩
      split
      · exact Transaction.writeBack_virtualAccountId d t
      · rfl
  refunds r hr := by
    rcases settle_refunds db step with hsame | ⟨j, d, hwritten⟩
    · exact ⟨r, by rw [hsame]; exact hr, rfl, rfl, rfl⟩
    · refine ⟨_, by rw [hwritten]; exact Table.mem_modify.mpr ⟨r, hr, rfl⟩, ?_⟩
      split
      · exact ⟨rfl, rfl, rfl⟩
      · exact ⟨rfl, rfl, rfl⟩
  ledger := by
    rcases settle_ledger db step with hsame | ⟨_, _, -, -, -, hrows⟩
    · rw [hsame]
    · rw [hrows]
      exact List.prefix_append _ _

/-- A stored transaction is one more. -/
theorem store_extends {t : Transaction} {db db' : Db} (h : storeTransaction t db = some db') :
    Extends db db' := by
  obtain ⟨transactions, hinsert, rfl⟩ := Option.map_eq_some_iff.mp h
  exact
    { transactions := fun i t hget =>
        ⟨t, Table.get_insert_of_get (insertTransaction_some hinsert) hget, rfl⟩
      refunds := fun r hr => ⟨r, hr, rfl, rfl, rfl⟩
      ledger := List.prefix_rfl }

/-- Every step extends the books. -/
theorem bookkeeping_extends {db db' : Db} {step : BookStep}
    (h : bookkeeping.step db step = some db') : Extends db db' := by
  cases step with
  | settle step =>
      obtain rfl := Option.some.inj h
      exact settle_extends db step
  | store t _ => exact store_extends h
  | simulate t account _ =>
      obtain ⟨stored, hstored, rfl⟩ := Option.map_eq_some_iff.mp h
      refine { store_extends hstored with ledger := ?_ }
      show db.ledger.rows <+: (postJournal account db.transactions.next t.currency db.ledger).rows
      rw [postJournal_rows]
      exact List.prefix_append _ _
  | request r _ =>
      obtain ⟨refunds, hinsert, rfl⟩ := Option.map_eq_some_iff.mp h
      exact
        { transactions := fun i t hget => ⟨t, hget, rfl⟩
          refunds := fun r hr =>
            ⟨r, (Table.mem_insert hinsert).mpr (Or.inl hr), rfl, rfl, rfl⟩
          ledger := List.prefix_rfl }

/-! ## What stands in the ledger

Every entry is of one of three kinds, each linked to what it is for. -/

/-- An entry that changes no balance and belongs to no transaction. -/
structure Journal (e : VirtualLedgerEntry) : Prop where
  amount : e.amount = 0
  unlinked : ∀ i, entryOf i e = false
  kind : e.referenceType ≠ "kora_refund"

/-- A debit of a stored transaction. -/
structure Debit (db : Db) (e : VirtualLedgerEntry) : Prop where
  direction : e.direction = "debit"
  positive : 0 < e.amount
  linked : ∃ i, entryOf i e = true ∧ (db.transactions.get i).isSome = true

/-- The entry is the reversal of a stored refund, in the account of its payment. -/
def Reversal (db : Db) (e : VirtualLedgerEntry) : Prop :=
  ∃ r ∈ db.refunds, r.refundReference = e.referenceId ∧ r.amount = e.amount ∧
    entryOf r.transactionId e = true ∧
    ∃ t, db.transactions.get r.transactionId = some t ∧
      t.virtualAccountId = some e.virtualAccountId

/-- What every entry of the ledger is. -/
def Posted (db : Db) (e : VirtualLedgerEntry) : Prop :=
  (Journal e ∨ Debit db e) ∧ (e.referenceType = "kora_refund" → Reversal db e)

/-- The invariant of the books. -/
structure LedgerLinked (db : Db) : Prop where
  transactions : ∀ t ∈ db.transactions, 0 < t.amount
  refunds : ∀ r ∈ db.refunds, 0 < r.amount
  entries : ∀ e ∈ db.ledger, Posted db e

/-- An empty ledger has no entry to account for. -/
theorem ledgerLinked_empty : LedgerLinked Db.empty where
  transactions t ht := by cases ht
  refunds r hr := by cases hr
  entries e he := by cases he

/-- An entry stays what it is. -/
theorem Posted.mono {db db' : Db} (hextends : Extends db db') {e : VirtualLedgerEntry}
    (h : Posted db e) : Posted db' e := by
  obtain ⟨hkind, hreversal⟩ := h
  constructor
  · rcases hkind with hjournal | hdebit
    · exact Or.inl hjournal
    · obtain ⟨i, hlink, hstored⟩ := hdebit.linked
      obtain ⟨t, hget⟩ := Option.isSome_iff_exists.mp hstored
      obtain ⟨t', hget', -⟩ := hextends.transactions i t hget
      exact Or.inr { hdebit with linked := ⟨i, hlink, by rw [hget']; rfl⟩ }
  · intro htype
    obtain ⟨r, hr, href, hamount, hlink, t, hget, haccount⟩ := hreversal htype
    obtain ⟨r', hr', href', hparent', hamount'⟩ := hextends.refunds r hr
    obtain ⟨t', hget', haccount'⟩ := hextends.transactions _ t hget
    refine ⟨r', hr', href'.trans href, hamount'.trans hamount, ?_, t', ?_, ?_⟩
    · rw [hparent', hlink]
    · rw [hparent', hget']
    · rw [haccount', haccount]

/-- The key of an entry is not part of what it is. -/
theorem Posted.keyed {db : Db} {e : VirtualLedgerEntry} (h : Posted db e) (n : ℕ) :
    Posted db { e with id := n } := by
  obtain ⟨hjournal | hdebit, hreversal⟩ := h
  · exact ⟨Or.inl ⟨hjournal.amount, hjournal.unlinked, hjournal.kind⟩, hreversal⟩
  · exact ⟨Or.inr ⟨hdebit.direction, hdebit.positive, hdebit.linked⟩, hreversal⟩

/-- The debit of a payout is one. -/
theorem posted_payoutEntry {db : Db} (hlinked : LedgerLinked db) {t : Transaction}
    (hget : db.transactions.get t.id = some t) (reference : String) (account : ℕ) :
    Posted db (payoutEntry reference t account) := by
  refine ⟨Or.inr ⟨rfl, hlinked.transactions t (Table.mem_of_get hget), t.id, ?_, ?_⟩, ?_⟩
  · rw [entryOf_payoutEntry, decide_eq_true_eq]
  · rw [hget]
    rfl
  · have hkind : "kora_payout" ≠ "kora_refund" := by decide
    exact fun htype => absurd htype hkind

/-- The debit of a refund is one, and the reversal of its refund. -/
theorem posted_refundEntry {db : Db} (hlinked : LedgerLinked db) {t : Transaction}
    {refund : KoraRefund} (hget : db.transactions.get t.id = some t) (hrefund : refund ∈ db.refunds)
    (hparent : refund.transactionId = t.id) {account : ℕ}
    (haccount : t.virtualAccountId = some account) :
    Posted db (refundEntry refund t account) := by
  have hlink : entryOf t.id (refundEntry refund t account) = true := by
    rw [entryOf_refundEntry, decide_eq_true_eq]
  refine ⟨Or.inr ⟨rfl, hlinked.refunds refund hrefund, t.id, hlink, ?_⟩, fun _ => ?_⟩
  · rw [hget]
    rfl
  · refine ⟨refund, hrefund, rfl, rfl, ?_, t, ?_, haccount⟩
    · rw [hparent, hlink]
    · rw [hparent, hget]

/-- A sandbox entry is a journal entry. -/
theorem posted_journalEntry (db : Db) (id account transactionId : ℕ) (currency : String) :
    Posted db (journalEntry id account transactionId currency) := by
  have hkind : "transaction" ≠ "kora_refund" := by decide
  refine ⟨Or.inl ⟨rfl, fun i => ?_, hkind⟩, fun htype => absurd htype hkind⟩
  simp [entryOf, journalEntry, Obj.get, Obj.find]

/-- The entry of a move is the debit of a payout or of a stored refund of the
transaction it moves. -/
theorem move_entry {db : Db} {step : SettlementStep} {m : Move} {e : VirtualLedgerEntry}
    (hmove : step.move db = some m) (hentry : m.entry = some e) :
    ∃ account, m.transaction.virtualAccountId = some account ∧
      ((∃ reference, e = payoutEntry reference m.transaction account) ∨
        ∃ refund ∈ db.refunds, refund.transactionId = m.transaction.id ∧
          e = refundEntry refund m.transaction account) := by
  have payment : ∀ kind data, paymentMove kind data db = some m →
      ∃ account, m.transaction.virtualAccountId = some account ∧
        ∃ reference, e = payoutEntry reference m.transaction account := by
    intro kind data hpayment
    obtain ⟨t, -, hmoved⟩ := Option.bind_eq_some_iff.mp hpayment
    split at hmoved
    · cases hmoved
    · obtain rfl := Option.some.inj hmoved
      simp only at hentry
      split at hentry
      · obtain ⟨account, haccount, rfl⟩ := Option.map_eq_some_iff.mp hentry
        exact ⟨account, haccount, paymentReference data, rfl⟩
      · cases hentry
  cases step with
  | webhook body eventType now =>
      simp only [SettlementStep.move, webhookMove] at hmove
      split at hmove
      · unfold callbackMove at hmove
        split at hmove
        · cases hmove
        · rename_i refund t htarget
          split at hmove
          · cases hmove
          · obtain rfl := Option.some.inj hmove
            obtain ⟨hrefund, hget, -⟩ := callbackTarget_ok htarget
            simp only at hentry
            split at hentry
            · obtain ⟨account, haccount, rfl⟩ := Option.map_eq_some_iff.mp hentry
              exact ⟨account, haccount,
                Or.inr ⟨refund, hrefund, (Table.ident_of_get hget).symm, rfl⟩⟩
            · cases hentry
      · obtain ⟨account, haccount, hpayout⟩ := payment _ _ hmove
        exact ⟨account, haccount, Or.inl hpayout⟩
      · obtain ⟨account, haccount, hpayout⟩ := payment _ _ hmove
        exact ⟨account, haccount, Or.inl hpayout⟩
  | reconcile worker claimedAt outcome answeredAt =>
      -- the worker enters nothing
      simp only [SettlementStep.move, answerMove] at hmove
      obtain ⟨target, -, hmove⟩ := Option.bind_eq_some_iff.mp hmove
      obtain ⟨v, -, hmove⟩ := Option.bind_eq_some_iff.mp hmove
      split at hmove
      · cases hmove
      · obtain rfl := Option.some.inj hmove
        cases hentry

/-- A step of `settlement` keeps the invariant. -/
theorem settle_linked {db : Db} (step : SettlementStep) (hlinked : LedgerLinked db) :
    LedgerLinked (step.apply db) where
  transactions t' ht' := by
    obtain ⟨t, ht, hamount⟩ := settle_transaction_mem ht'
    rw [hamount]
    exact hlinked.transactions t ht
  refunds r' hr' := by
    obtain ⟨r, hr, hamount⟩ := settle_refund_mem hr'
    rw [hamount]
    exact hlinked.refunds r hr
  entries e he := by
    refine Posted.mono (settle_extends db step) ?_
    rw [Table.mem_iff] at he
    rcases settle_ledger db step with hsame | ⟨m, entry, hmove, hentry, hstored, hrows⟩
    · rw [hsame] at he
      exact hlinked.entries e he
    · rw [hrows, List.mem_append, List.mem_singleton] at he
      rcases he with he | rfl
      · exact hlinked.entries e he
      · refine Posted.keyed ?_ _
        obtain ⟨account, haccount, ⟨reference, rfl⟩ | ⟨refund, hrefund, hparent, rfl⟩⟩ :=
          move_entry hmove hentry
        · exact posted_payoutEntry hlinked hstored reference account
        · exact posted_refundEntry hlinked hstored hrefund hparent haccount

/-- A stored transaction takes no entry away from another. -/
theorem store_linked {t : Transaction} {db db' : Db} (h : storeTransaction t db = some db')
    (positive : 0 < t.amount) (hlinked : LedgerLinked db) : LedgerLinked db' := by
  have hextends := store_extends h
  obtain ⟨transactions, hinsert, rfl⟩ := Option.map_eq_some_iff.mp h
  exact
    { transactions := fun s hs => by
        rcases (Table.mem_insert (insertTransaction_some hinsert)).mp hs with hs | rfl
        · exact hlinked.transactions s hs
        · exact positive
      refunds := hlinked.refunds
      entries := fun e he => (hlinked.entries e he).mono hextends }

/-- Every step keeps the invariant. -/
theorem bookkeeping_linked {db db' : Db} {step : BookStep}
    (h : bookkeeping.step db step = some db') (hlinked : LedgerLinked db) : LedgerLinked db' := by
  have hextends := bookkeeping_extends h
  cases step with
  | settle step =>
      obtain rfl := Option.some.inj h
      exact settle_linked step hlinked
  | store t positive => exact store_linked h positive hlinked
  -- a sandbox intent posts its journal entry with the transaction
  | simulate t account positive =>
      obtain ⟨stored, hstored, rfl⟩ := Option.map_eq_some_iff.mp h
      have hrows := store_linked hstored positive hlinked
      refine { transactions := hrows.transactions, refunds := hrows.refunds, entries := ?_ }
      intro e he
      have hmem : e ∈ (postJournal account db.transactions.next t.currency db.ledger).rows := he
      rw [postJournal_rows, List.mem_append, List.mem_singleton] at hmem
      rcases hmem with hmem | rfl
      · exact (hlinked.entries e hmem).mono hextends
      · exact posted_journalEntry _ _ _ _ _
  | request r positive =>
      obtain ⟨refunds, hinsert, rfl⟩ := Option.map_eq_some_iff.mp h
      exact
        { transactions := hlinked.transactions
          refunds := fun s hs => by
            rcases (Table.mem_insert hinsert).mp hs with hs | rfl
            · exact hlinked.refunds s hs
            · exact positive
          entries := fun e he => (hlinked.entries e he).mono hextends }

section Runs

variable {db db' : Db} {steps : List BookStep} {P : Db → BookStep → Prop}

/-- A run extends the books. -/
theorem run_extends (run : Run bookkeeping P db steps db') : Extends db db' :=
  run.relates fun _ _ _ hstep _ => bookkeeping_extends hstep

/-- A run keeps the invariant. -/
theorem run_linked (run : Run bookkeeping P db steps db') (start : LedgerLinked db) :
    LedgerLinked db' :=
  run.preserves (fun _ _ _ hstep _ => bookkeeping_linked hstep) start

end Runs

/-! ## The life of a refunded pay-in -/

/-- A run in which the pay-in `i` with the given account is stored, completed and
later refunded in full: `before` is a state reached before it is stored, and `after`
one reached after the callback that refunds it. -/
structure RefundedPayIn (i account : ℕ) (before after : Db) where
  earlier : List BookStep
  reached : Run bookkeeping Unguarded Db.empty earlier before
  unstored : before.transactions.get i = none
  /-- Up to its completion, by an event or by the worker. -/
  settling : List BookStep
  completed : Db
  completing : Run bookkeeping Unguarded before settling completed
  payIn : Transaction
  stored : completed.transactions.get i = some payIn
  incoming : payIn.isPayout = false
  held : payIn.virtualAccountId = some account
  settled : payIn.status = .completed
  /-- Up to the callback on a refund of its whole amount. -/
  waiting : List BookStep
  called : Db
  waited : Run bookkeeping Unguarded completed waiting called
  body : Obj
  eventType : String
  now : Instant
  callback : eventKind eventType = .refund
  refund : KoraRefund
  parent : Transaction
  target : callbackTarget (bodyData body) called = .ok (refund, parent)
  own : parent.id = i
  full : refund.amount = parent.amount
  success : classify (statusValue (bodyData body)) = .success
  work : UnitOfWork
  handled : processKoraWebhookBusinessEvent body eventType now called = .ok work
  refunded : Db
  committed : work.flush called = .ok refunded
  /-- And whatever happens later. -/
  later : List BookStep
  resting : Run bookkeeping Unguarded refunded later after

namespace RefundedPayIn

variable {i account : ℕ} {before after : Db} (life : RefundedPayIn i account before after)

/-- The callback is a step of the books. -/
theorem called_step : bookkeeping.step life.called
    (.settle (.webhook life.body life.eventType life.now)) = some life.refunded := by
  show some (webhookEffect life.body life.eventType life.now life.called) = some life.refunded
  rw [webhookEffect_of_ok life.handled life.committed]

include life in
/-- The invariant holds before the callback. -/
theorem linked_before : LedgerLinked before := run_linked life.reached ledgerLinked_empty

/-- The invariant holds at the callback. -/
theorem linked_called : LedgerLinked life.called :=
  run_linked life.waited (run_linked life.completing life.linked_before)

/-- Nothing was lost up to the refund. -/
theorem extends_refunded : Extends before life.refunded :=
  trans_of Extends (run_extends life.completing)
    (trans_of Extends (run_extends life.waited) (bookkeeping_extends life.called_step))

include life in
/-- The invariant at the end. -/
theorem linked_after : LedgerLinked after :=
  run_linked life.resting (bookkeeping_linked life.called_step life.linked_called)

include life in
/-- Nothing was lost up to the end. -/
theorem extends_after : Extends before after :=
  trans_of Extends life.extends_refunded (run_extends life.resting)

/-- The payment the callback loads still has the account. -/
theorem parent_account : life.parent.virtualAccountId = some account := by
  obtain ⟨-, hget, -⟩ := callbackTarget_ok life.target
  have hown : life.refund.transactionId = i := by
    rw [← Table.ident_of_get hget]
    exact life.own
  obtain ⟨t, ht, haccount⟩ := (run_extends life.waited).transactions i _ life.stored
  rw [hown] at hget
  obtain rfl : life.parent = t := Option.some.inj (hget.symm.trans ht)
  exact haccount.trans life.held

/-- After the callback the debit of the refund stands in the ledger: entered by it, or
by an earlier success. -/
theorem debit_entered : ∃ e ∈ life.refunded.ledger.rows, entryOf i e = true ∧
    e.virtualAccountId = account ∧ e.direction = "debit" ∧ 0 < e.amount := by
  obtain ⟨hrefund, hget, -⟩ := callbackTarget_ok life.target
  have hparent : life.refund.transactionId = life.parent.id := (Table.ident_of_get hget).symm
  have haccount := life.parent_account
  have hreads : callbackReadsLedger (bodyData life.body) life.parent = true := by
    simp [callbackReadsLedger, life.success, haccount]
  have hhandled : processKoraRefundWebhook (bodyData life.body) life.now life.called =
      .ok life.work := by
    have h := life.handled
    simpa only [processKoraWebhookBusinessEvent, life.callback] using h
  obtain ⟨existing, hexisting, hwork⟩ := (processKoraRefundWebhook_iff life.target).mp hhandled
  rw [callbackEntry, if_pos hreads] at hexisting
  have hrows := UnitOfWork.flush_ledger_rows life.committed
  cases existing with
  | none =>
      have hentry : life.work.newEntry = some (refundEntry life.refund life.parent account) := by
        rw [hwork]
        simp [refundCallback, hreads, haccount]
      rw [hentry] at hrows
      refine ⟨{ refundEntry life.refund life.parent account with id := life.called.ledger.next },
        ?_, ?_, rfl, rfl, ?_⟩
      · rw [hrows]
        exact List.mem_append_right _ (List.mem_singleton_self _)
      · show entryOf i (refundEntry life.refund life.parent account) = true
        rw [entryOf_refundEntry, decide_eq_true_eq, life.own]
      · exact life.linked_called.refunds _ hrefund
  | some e =>
      -- the entry an earlier callback wrote is that of this refund, since references
      -- are unique
      obtain ⟨he, htype, hid⟩ := selectEntry_some hexisting
      obtain ⟨hkind, hreversal⟩ := life.linked_called.entries e he
      obtain ⟨r, hr, href, hamount, hlink, t, ht, hheld⟩ := hreversal htype
      obtain rfl : r = life.refund :=
        Table.eq_of_clash hr hrefund
          (fun a b hclash => hclash.imp Eq.symm Eq.symm) (Or.inl (href.trans hid))
      obtain rfl : life.parent = t := Option.some.inj (hget.symm.trans ht)
      have hpositive : 0 < e.amount := by
        rw [← hamount]
        exact life.linked_called.refunds _ hrefund
      refine ⟨e, ?_, ?_, ?_, ?_, hpositive⟩
      · rw [hrows]
        exact List.mem_append_left _ he
      · rw [← life.own, ← hparent, hlink]
      · exact Option.some.inj (hheld.symm.trans haccount)
      · rcases hkind with hjournal | hdebit
        · exact absurd hjournal.amount hpositive.ne'
        · exact hdebit.direction

end RefundedPayIn

/-! ## The balance afterwards

Sums over a ledger that has grown. -/

/-- No entry of the books adds to a balance. -/
theorem Posted.signedAmount_nonpos {db : Db} {e : VirtualLedgerEntry} (h : Posted db e) :
    signedAmount e ≤ 0 := by
  rcases h.1 with hjournal | hdebit
  · simp [signedAmount, hjournal.amount]
  · simp [signedAmount, hdebit.direction, hdebit.positive.le]

/-- Entries of which none adds and one takes lower a sum. -/
theorem sum_signedAmount_neg {l : List VirtualLedgerEntry} (hall : ∀ e ∈ l, signedAmount e ≤ 0)
    (hone : ∃ e ∈ l, signedAmount e < 0) : (l.map signedAmount).sum < 0 := by
  have hlt := List.sum_lt_sum (f := signedAmount) (g := fun _ => 0) hall hone
  simpa using hlt

section Balance

variable {i account : ℕ} {before after : Db}

/-- A sum over the entries of a kind falls when the books gain one of that kind that
takes something. -/
theorem filtered_lt (hlinked : LedgerLinked after) (hextends : Extends before after)
    {q : VirtualLedgerEntry → Bool} {e : VirtualLedgerEntry} (he : e ∈ after.ledger.rows)
    (hnew : e ∉ before.ledger.rows) (hq : q e = true) (htakes : signedAmount e < 0) :
    ((after.ledger.rows.filter q).map signedAmount).sum <
      ((before.ledger.rows.filter q).map signedAmount).sum := by
  obtain ⟨added, hrows⟩ := hextends.ledger
  have hadded : e ∈ added := by
    rw [← hrows, List.mem_append] at he
    exact he.resolve_left hnew
  have hneg : ((added.filter q).map signedAmount).sum < 0 := by
    refine sum_signedAmount_neg (fun x hx => ?_) ⟨e, List.mem_filter.mpr ⟨hadded, hq⟩, htakes⟩
    have hx' : x ∈ after.ledger := by
      rw [Table.mem_iff, ← hrows]
      exact List.mem_append_right _ (List.mem_filter.mp hx).1
    exact (hlinked.entries x hx').signedAmount_nonpos
  rw [← hrows, List.filter_append, List.map_append, List.sum_append]
  linarith

/-- **A refunded pay-in always costs the customer its refund.**  The balance is never
what it was before the pay-in, neither as a whole nor as far as the entries of the
pay-in go, and there is not one credit of it. -/
theorem refunded_not_neutral (life : RefundedPayIn i account before after) :
    virtualCashBalance account after ≠ virtualCashBalance account before ∧
      ownCash i account after ≠ ownCash i account before ∧
      (creditsOf i account after).length ≠ 1 := by
  obtain ⟨e, he, hlink, haccount, hdirection, hpositive⟩ := life.debit_entered
  have hafter : e ∈ after.ledger.rows := (run_extends life.resting).ledger.subset he
  -- before the pay-in is stored nothing names it
  have hnew : e ∉ before.ledger.rows := by
    intro hold
    obtain ⟨hjournal | hdebit, -⟩ := life.linked_before.entries e hold
    · exact absurd hjournal.amount hpositive.ne'
    · obtain ⟨j, hlink', hstored⟩ := hdebit.linked
      obtain rfl : i = j := by
        simp only [entryOf, decide_eq_true_eq] at hlink hlink'
        exact uuidText_inj.mp (Json.str.inj (hlink.symm.trans hlink'))
      rw [life.unstored] at hstored
      cases hstored
  have htakes : signedAmount e < 0 := by
    simp [signedAmount, hdirection, hpositive]
  refine ⟨(filtered_lt life.linked_after life.extends_after hafter hnew ?_ htakes).ne,
    (filtered_lt life.linked_after life.extends_after hafter hnew ?_ htakes).ne, ?_⟩
  · rw [decide_eq_true_eq]
    exact haccount
  · rw [Bool.and_eq_true, decide_eq_true_eq]
    exact ⟨haccount, hlink⟩
  · have hnone : creditsOf i account after = [] := by
      refine List.filter_eq_nil_iff.mpr fun x hx hcredit => ?_
      simp only [Bool.and_eq_true, decide_eq_true_eq] at hcredit
      obtain ⟨⟨-, hown⟩, hcredit⟩ := hcredit
      obtain ⟨hjournal | hdebit, -⟩ := life.linked_after.entries x hx
      · rw [hjournal.unlinked i] at hown
        cases hown
      · have hsides : "debit" ≠ "credit" := by decide
        exact hsides (hdebit.direction.symm.trans hcredit)
    rw [hnone]
    exact Nat.zero_ne_one

end Balance

/-! ## A pay-in of 1000 XAF, completed and refunded -/

/-- The database after a step that is possible. -/
def afterStep (db : Db) (step : BookStep) : Db := (bookkeeping.step db step).getD db

/-- A step that is possible is a run. -/
theorem afterStep_run {db : Db} {step : BookStep} (h : (bookkeeping.step db step).isSome = true) :
    Run bookkeeping Unguarded db [step] (afterStep db step) := by
  obtain ⟨db', hstep⟩ := Option.isSome_iff_exists.mp h
  have hafter : afterStep db step = db' := by rw [afterStep, hstep, Option.getD_some]
  rw [hafter]
  exact Run.cons hstep trivial (Run.nil db')

/-- `processingPayin`, paid into account 7. -/
def heldPayin : Transaction := { processingPayin with virtualAccountId := some 7 }

/-- A refund of all of it. -/
def wholeRefund : KoraRefund where
  id := 0
  transactionId := 0
  refundReference := "afm-ref-1"
  idempotencyKey := "refund-key-1"
  paymentReference := "KPY-1"
  amount := 1000
  currency := "XAF"
  reason := none
  status := "processing"
  pspResponse := []
  errorMessage := none
  completedAt := none
  createdAt := 0

/-- The confirmation of the pay-in. -/
def chargeBody : Obj :=
  [("data", .obj [("reference", .str "KPY-1"), ("status", .str "success")])]

/-- The confirmation of the refund. -/
def refundBody : Obj :=
  [("data", .obj
    [("reference", .str "afm-ref-1"), ("payment_reference", .str "KPY-1"),
      ("status", .str "success")])]

theorem heldPayin_pos : 0 < heldPayin.amount := by
  norm_num [heldPayin, processingPayin, payinInitiated, payinTransaction]

theorem wholeRefund_pos : 0 < wholeRefund.amount := by norm_num [wholeRefund]

/-- The books with the pay-in, with it completed, and with its refund requested. -/
def storedBooks : Db := afterStep Db.empty (.store heldPayin heldPayin_pos)

/-- With the pay-in completed. -/
def completedBooks : Db := afterStep storedBooks (.settle (.webhook chargeBody "charge.success" 0))

/-- With its refund requested. -/
def requestedBooks : Db := afterStep completedBooks (.request wholeRefund wholeRefund_pos)

/-- The books once the refund has succeeded. -/
def refundedBooks : Db := webhookEffect refundBody "refund.success" 0 requestedBooks

/-- This is a run the statement is about. -/
theorem refundedBooks_life : Nonempty (RefundedPayIn 0 7 Db.empty refundedBooks) := by
  have hpayIn : (completedBooks.transactions.get 0).map
      (fun t => (t.isPayout, t.virtualAccountId, t.status)) =
        some (false, some 7, .completed) := by decide +kernel
  obtain ⟨payIn, hstored, hpayIn⟩ := Option.map_eq_some_iff.mp hpayIn
  simp only [Prod.mk.injEq] at hpayIn
  obtain ⟨hincoming, hheld, hsettled⟩ := hpayIn
  have htarget : (callbackTarget (bodyData refundBody) requestedBooks).toOption.map
      (fun found => (found.2.id, found.1.amount, found.2.amount)) = some (0, 1000, 1000) := by
    decide +kernel
  cases hfound : callbackTarget (bodyData refundBody) requestedBooks with
  | error e =>
      rw [hfound] at htarget
      cases htarget
  | ok found =>
      obtain ⟨refund, parent⟩ := found
      rw [hfound] at htarget
      simp only [Except.toOption, Option.map_some, Option.some.injEq, Prod.mk.injEq] at htarget
      obtain ⟨hown, hrefund, hparent⟩ := htarget
      rcases webhookEffect_cases refundBody "refund.success" 0 requestedBooks with
        hsame | ⟨work, hhandled, hcommitted⟩
      · have hlength : refundedBooks.ledger.rows.length ≠ requestedBooks.ledger.rows.length := by
          decide +kernel
        exact absurd (congrArg (fun db => db.ledger.rows.length) hsame) hlength
      -- each part of the life is a run, evaluated step by step
      · have hstore : Run bookkeeping Unguarded Db.empty _ storedBooks :=
          afterStep_run (by decide +kernel)
        have hcomplete : Run bookkeeping Unguarded storedBooks _ completedBooks :=
          afterStep_run (by decide +kernel)
        exact ⟨{
          earlier := []
          reached := Run.nil _
          unstored := rfl
          settling := _
          completed := completedBooks
          completing := hstore.append hcomplete
          payIn := payIn
          stored := hstored
          incoming := hincoming
          held := hheld
          settled := hsettled
          waiting := _
          called := requestedBooks
          waited := afterStep_run (by decide +kernel)
          body := refundBody
          eventType := "refund.success"
          now := 0
          callback := by decide +kernel
          refund := refund
          parent := parent
          target := hfound
          own := hown
          full := hrefund.trans hparent.symm
          success := by decide +kernel
          work := work
          handled := hhandled
          refunded := refundedBooks
          committed := hcommitted
          later := []
          resting := Run.nil _ }⟩

/-- The customer is short of the 1000 XAF the pay-in never brought. -/
theorem refund_uncovered :
    ¬ ∀ (i account : ℕ) (before after : Db), RefundedPayIn i account before after →
      virtualCashBalance account after = virtualCashBalance account before := by
  intro hneutral
  obtain ⟨life⟩ := refundedBooks_life
  have hbefore : virtualCashBalance 7 Db.empty = 0 := by decide +kernel
  have hafter : virtualCashBalance 7 refundedBooks = -1000 := by decide +kernel
  have hsame := hneutral 0 7 Db.empty refundedBooks life
  rw [hbefore, hafter] at hsame
  norm_num at hsame

/-- The statement on that run. -/
theorem refunded_not_neutral_payin : ∃ _ : RefundedPayIn 0 7 Db.empty refundedBooks,
    virtualCashBalance 7 refundedBooks ≠ virtualCashBalance 7 Db.empty ∧
      ownCash 0 7 refundedBooks ≠ ownCash 0 7 Db.empty ∧
      (creditsOf 0 7 refundedBooks).length ≠ 1 := by
  obtain ⟨life⟩ := refundedBooks_life
  exact ⟨life, refunded_not_neutral life⟩

end AfricaFrontier
