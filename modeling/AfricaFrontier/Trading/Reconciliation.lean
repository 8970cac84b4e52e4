import AfricaFrontier.Trading.Portfolio

/-!
# Cash and reconciliation

`get_virtual_cash_balance` folds the ledger of an account and does not look at the currencies of
its entries, while the portfolio and the reconciliation summary report the result under the
currency of the account.  `cash_per_currency_iff` says when that is right.

`get_virtual_reconciliation_summary` reads the hundred newest accounts and takes an account for
reconciled when one of its positions is.  `summary_complete_iff` says when its totals are those of
all accounts and its verdicts hold for all positions.

Both results are about sums. The ledger of an account is summed up without its currencies, which
is right if the entries in other currencies come to nothing; the summary is summed up over at most
a hundred accounts, which is right if there are no more. Beside these the summary has a verdict
for each account, from one position where all should be looked at.
-/

namespace AfricaFrontier

open Python Relational

/-! ## The summary

A fold over the accounts that the query returns, with one row for each. -/

/-- What is reported of one account. -/
structure ReconciliationRow where
  accountId : String
  status : String
  currency : String
  cashBalance : ℚ
  positionCount : ℕ
  ledgerEntryCount : ℕ
  reconciliationStatus : ReconciliationStatus
  lastReconciledAt : Option Instant
  deriving DecidableEq

/-- What is reported of all. -/
structure ReconciliationTotals where
  accountCount : ℕ
  pendingReconciliationCount : ℕ
  positionCount : ℕ
  aggregateCashBalance : ℚ
  deriving DecidableEq

/-- What `get_virtual_reconciliation_summary` returns. -/
structure ReconciliationSummary where
  accounts : List ReconciliationRow
  summary : ReconciliationTotals
  readOnly : Bool
  partnerDetailsExposed : Bool
  deriving DecidableEq

/-- The positions of an account, in no particular order. -/
def TradingDb.held (db : TradingDb) (account : ℕ) : List VirtualPosition :=
  db.positions.rows.filter fun p => decide (p.virtualAccountId = account)

/-- `last_reconciled`. -/
def TradingDb.lastReconciled (db : TradingDb) (account : ℕ) : Option Instant :=
  ((db.held account).filterMap VirtualPosition.reconciledAt).max?

/-- What is reported of an account. -/
def reconciliationRow (db : TradingDb) (account : VirtualAccount) : ReconciliationRow where
  accountId := virtualAccountPublicId account
  status := account.status
  currency := account.currency
  cashBalance := virtualCashBalance account.id db.toDb
  positionCount := (db.held account.id).length
  ledgerEntryCount :=
    (db.ledger.rows.filter fun e => decide (e.virtualAccountId = account.id)).length
  reconciliationStatus := if (db.lastReconciled account.id).isSome then .reconciled else .pending
  lastReconciledAt := db.lastReconciled account.id

/-- The rows so far, and the totals beside them. -/
structure SummaryRun where
  rows : List ReconciliationRow
  totalCash : ℚ
  totalPositions : ℕ
  pending : ℕ

/-- The next account. -/
def addAccount (db : TradingDb) (run : SummaryRun) (account : VirtualAccount) : SummaryRun where
  rows := run.rows ++ [reconciliationRow db account]
  totalCash := run.totalCash + (reconciliationRow db account).cashBalance
  totalPositions := run.totalPositions + (reconciliationRow db account).positionCount
  pending := run.pending +
    if (reconciliationRow db account).reconciliationStatus = .pending then 1 else 0

/-- What the query for the accounts may return: the first hundred, the newest first.  Accounts of
the same time, and those without one, come in any order. -/
def Lists (db : TradingDb) (listed : List VirtualAccount) : Prop :=
  ∃ accounts : List VirtualAccount, accounts.Perm db.accounts.rows ∧
    accounts.Pairwise (fun a b =>
      ∀ t ∈ db.createdAt a.id, ∀ t' ∈ db.createdAt b.id, t' ≤ t) ∧
    listed = accounts.take 100

/-- `get_virtual_reconciliation_summary`, of the accounts the query returns. -/
def virtualReconciliationSummary (db : TradingDb) (listed : List VirtualAccount) :
    ReconciliationSummary :=
  let run := listed.foldl (addAccount db) ⟨[], 0, 0, 0⟩
  { accounts := run.rows
    summary :=
      { accountCount := run.rows.length
        pendingReconciliationCount := run.pending
        positionCount := run.totalPositions
        aggregateCashBalance := run.totalCash }
    readOnly := true
    partnerDetailsExposed := false }

/-- What has been added up of some accounts. -/
theorem addAccounts_eq (db : TradingDb) (listed : List VirtualAccount) (run : SummaryRun) :
    listed.foldl (addAccount db) run =
      { rows := run.rows ++ listed.map (reconciliationRow db)
        totalCash := run.totalCash +
          (listed.map fun account => virtualCashBalance account.id db.toDb).sum
        totalPositions := run.totalPositions +
          (listed.map fun account => (db.held account.id).length).sum
        pending := run.pending + listed.countP fun account =>
          decide ((reconciliationRow db account).reconciliationStatus = .pending) } := by
  induction listed generalizing run with
  | nil => simp
  | cons account listed ih =>
      rw [List.foldl_cons, ih]
      simp only [addAccount, List.map_cons, List.sum_cons, List.countP_cons, decide_eq_true_eq,
        List.append_assoc, List.singleton_append]
      congr 1
      · exact add_assoc _ _ _
      · exact add_assoc _ _ _
      · omega

/-! ## Cash in the currency of an account

The fold splits into the entries of the currency and the others, since sums of columns are exact
in the context. -/

/-- The entries of an account. -/
def accountEntries (account : ℕ) (db : Db) : List VirtualLedgerEntry :=
  db.ledger.rows.filter fun e => decide (e.virtualAccountId = account)

/-- Credits minus debits in the currency of an account. -/
def currencyBalance (account : VirtualAccount) (db : Db) : ℚ :=
  (((accountEntries account.id db).filter fun e =>
    decide (e.currency = account.currency)).map signedAmount).sum

/-- Credits minus debits in all other currencies. -/
def otherBalance (account : VirtualAccount) (db : Db) : ℚ :=
  (((accountEntries account.id db).filter fun e =>
    !decide (e.currency = account.currency)).map signedAmount).sum

/-- The balance is added up in the default context, which is exact for amounts of 19 digits with 8
places, up to a thousand million of them. -/
theorem foldl_signedAmount {account : ℕ} {db : Db}
    (hamounts : ∀ e ∈ accountEntries account db,
      ∃ n : ℤ, |n| < 10 ^ 19 ∧ e.amount = n / 10 ^ 8)
    (hcount : (accountEntries account db).length < 10 ^ 9) :
    (accountEntries account db).foldl (fun balance e => inContext (balance + signedAmount e)) 0 =
      virtualCashBalance account db := by
  have hsigned : ∀ x ∈ (accountEntries account db).map signedAmount,
      ∃ n : ℤ, |n| ≤ 10 ^ 19 ∧ x = n / 10 ^ 8 := by
    intro x hx
    obtain ⟨e, he, rfl⟩ := List.mem_map.mp hx
    obtain ⟨n, hn, hamount⟩ := hamounts e he
    unfold signedAmount
    split
    · exact ⟨n, hn.le, hamount⟩
    · refine ⟨-n, ?_, ?_⟩
      · rw [abs_neg]
        exact hn.le
      · rw [hamount]
        push_cast
        ring
  -- so many entries of that size are within the digits of the context
  have hroom : |(0 : ℤ)| + 10 ^ 19 * ((accountEntries account db).map signedAmount).length <
      10 ^ 28 := by
    rw [List.length_map, abs_zero, zero_add]
    omega
  have hfold := foldl_inContext hsigned hroom
  rw [List.foldl_map, Int.cast_zero, zero_div, zero_add] at hfold
  exact hfold

/-- **Cash is per currency.**  The three reports of the cash of an account have what its entries
in its own currency come to. -/
structure CashPerCurrency (rt : Runtime) (account : VirtualAccount) (db : TradingDb) : Prop where
  balance : virtualCashBalance account.id db.toDb = currencyBalance account db.toDb
  portfolio : ∀ cache asked source portfolio,
    buildVirtualPortfolio rt cache account db asked source = .ok portfolio →
      portfolio.account.currency = account.currency ∧
        portfolio.account.cash = currencyBalance account db.toDb
  summary : ∀ listed, Lists db listed →
    ∀ row, (account, row) ∈ listed.zip (virtualReconciliationSummary db listed).accounts →
      row.currency = account.currency ∧ row.cashBalance = currencyBalance account db.toDb

/-- The balance is what all the entries come to, whatever their currency. -/
theorem virtualCashBalance_eq_add (account : VirtualAccount) (db : Db) :
    virtualCashBalance account.id db = currencyBalance account db + otherBalance account db := by
  have hsplit := List.filter_append_perm (fun e => decide (e.currency = account.currency))
    (accountEntries account.id db)
  have hsum := (hsplit.map signedAmount).sum_eq
  rw [List.map_append, List.sum_append] at hsum
  exact hsum.symm

/-- The rows of the summary, one for each account. -/
theorem summary_accounts (db : TradingDb) (listed : List VirtualAccount) :
    (virtualReconciliationSummary db listed).accounts = listed.map (reconciliationRow db) := by
  unfold virtualReconciliationSummary
  rw [addAccounts_eq]
  rfl

/-- Accounts and their rows, side by side. -/
theorem zip_rows (db : TradingDb) (listed : List VirtualAccount) :
    listed.zip (listed.map (reconciliationRow db)) =
      listed.map fun account => (account, reconciliationRow db account) := by
  have hzip := List.zip_map' (f := id) (g := reconciliationRow db) (l := listed)
  rw [List.map_id] at hzip
  exact hzip

/-- A row is that of the account beside it. -/
theorem row_of_mem_zip {db : TradingDb} {listed : List VirtualAccount} {account : VirtualAccount}
    {row : ReconciliationRow}
    (h : (account, row) ∈ listed.zip (virtualReconciliationSummary db listed).accounts) :
    account ∈ listed ∧ row = reconciliationRow db account := by
  rw [summary_accounts, zip_rows] at h
  obtain ⟨account', hmem, hpair⟩ := List.mem_map.mp h
  obtain ⟨rfl, rfl⟩ := Prod.mk.inj hpair
  exact ⟨hmem, rfl⟩

/-- **When cash is per currency.**  If and only if what the account has in other currencies
comes to nothing. -/
theorem cash_per_currency_iff (rt : Runtime) (account : VirtualAccount) (db : TradingDb) :
    CashPerCurrency rt account db ↔ otherBalance account db.toDb = 0 := by
  have hall := virtualCashBalance_eq_add account db.toDb
  constructor
  · intro h
    have hbalance := h.balance
    rw [hall] at hbalance
    exact left_eq_add.mp hbalance.symm
  · intro hnone
    rw [hnone, add_zero] at hall
    refine ⟨hall, ?_, ?_⟩
    · intro cache asked source portfolio hbuild
      obtain ⟨-, -, -, -, -, -, hcash, hcurrency⟩ := buildVirtualPortfolio_eq_ok hbuild
      exact ⟨hcurrency, hcash.trans hall⟩
    · intro listed _ row hrow
      obtain ⟨-, rfl⟩ := row_of_mem_zip hrow
      exact ⟨rfl, hall⟩

/-! ## A refund in another currency -/

/-- The account the refund of 1000 XAF is charged to. -/
def refundedAccount : VirtualAccount := ⟨7, 3, "active", "USD"⟩

/-- A database with this account. -/
def accountDb (db : Db) (positions : Table VirtualPosition) : TradingDb where
  toDb :=
    { db with
      accounts :=
        { rows := [refundedAccount]
          next := 8
          fresh := by
            intro account haccount
            rw [List.mem_singleton.mp haccount]
            decide
          distinct := List.pairwise_singleton _ _
          unique := List.pairwise_singleton _ _ } }
  positions := positions
  createdAt _ := some 0
  collation a b := decide (a ≤ b)

/-- After the refund the account has nothing in USD, and 1000 USD less are reported. -/
theorem not_cash_per_currency :
    currencyBalance refundedAccount (accountDb refundedBooks Table.empty).toDb = 0 ∧
    virtualCashBalance 7 (accountDb refundedBooks Table.empty).toDb = -1000 ∧
    ((virtualReconciliationSummary (accountDb refundedBooks Table.empty)
      [refundedAccount]).accounts.map fun row => (row.currency, row.cashBalance)) =
        [("USD", -1000)] ∧
    ¬ CashPerCurrency decimalRuntime refundedAccount (accountDb refundedBooks Table.empty) := by
  have hown : currencyBalance refundedAccount (accountDb refundedBooks Table.empty).toDb = 0 := by
    decide +kernel
  have hcash : virtualCashBalance 7 (accountDb refundedBooks Table.empty).toDb = -1000 := by
    decide +kernel
  refine ⟨hown, hcash, by decide +kernel, fun h => ?_⟩
  have hbalance : virtualCashBalance 7 (accountDb refundedBooks Table.empty).toDb =
      currencyBalance refundedAccount (accountDb refundedBooks Table.empty).toDb := h.balance
  rw [hown, hcash] at hbalance
  norm_num at hbalance

/-! ## The totals and the verdicts

The totals are those of the accounts that are listed; a verdict is about one account. -/

/-- An account is reconciled when it has positions, each of them with a time. -/
def TradingDb.IsReconciled (db : TradingDb) (account : ℕ) : Prop :=
  db.held account ≠ [] ∧ ∀ p ∈ db.held account, p.reconciledAt.isSome

instance (db : TradingDb) (account : ℕ) : Decidable (db.IsReconciled account) :=
  inferInstanceAs (Decidable (_ ∧ _))

/-- **The summary is complete.** Its totals are those of all accounts: how many there are, how
many are not reconciled, how many positions they have, and how much cash. -/
structure SummaryComplete (db : TradingDb) (totals : ReconciliationTotals) : Prop where
  accountCount : totals.accountCount = db.accounts.rows.length
  pendingCount : totals.pendingReconciliationCount =
    db.accounts.rows.countP fun account => decide (¬ db.IsReconciled account.id)
  positionCount : totals.positionCount =
    (db.accounts.rows.map fun account => (db.held account.id).length).sum
  cash : totals.aggregateCashBalance =
    (db.accounts.rows.map fun account => virtualCashBalance account.id db.toDb).sum

/-- **The summary is honest.**  An account is reported reconciled only if all its positions
are. -/
def SummaryHonest (db : TradingDb) (listed : List VirtualAccount)
    (rows : List ReconciliationRow) : Prop :=
  ∀ account row, (account, row) ∈ listed.zip rows → row.reconciliationStatus = .reconciled →
    ∀ p ∈ db.positions, p.virtualAccountId = account.id → p.reconciledAt.isSome

/-- None of the positions of the account is reconciled, or all are: so that one of them tells for
all. -/
def TradingDb.Uniform (db : TradingDb) (account : ℕ) : Prop :=
  (∀ p ∈ db.held account, p.reconciledAt = none) ∨ ∀ p ∈ db.held account, p.reconciledAt.isSome

/-- The positions of an account, by membership. -/
theorem mem_held {db : TradingDb} {account : ℕ} {p : VirtualPosition} :
    p ∈ db.held account ↔ p ∈ db.positions ∧ p.virtualAccountId = account := by
  rw [TradingDb.held, List.mem_filter, decide_eq_true_eq]
  exact Iff.rfl

/-- The verdict of a row: one position is reconciled. -/
theorem row_reconciled_iff {db : TradingDb} {account : VirtualAccount} :
    (reconciliationRow db account).reconciliationStatus = .reconciled ↔
      ∃ p ∈ db.held account.id, p.reconciledAt.isSome := by
  have hlast : (db.lastReconciled account.id).isSome ↔
      ∃ p ∈ db.held account.id, p.reconciledAt.isSome := by
    rw [TradingDb.lastReconciled, ← not_iff_not, Option.not_isSome_iff_eq_none,
      List.max?_eq_none_iff, List.filterMap_eq_nil_iff]
    simp only [not_exists, not_and, Option.not_isSome_iff_eq_none]
  rw [← hlast]
  unfold reconciliationRow
  dsimp only
  split
  · rename_i hsome
    exact iff_of_true rfl hsome
  · rename_i hnone
    exact iff_of_false (fun h => by cases h) hnone

/-- The verdict is right where the positions of the account agree. -/
theorem row_pending_iff {db : TradingDb} {account : VirtualAccount}
    (h : db.Uniform account.id) :
    (reconciliationRow db account).reconciliationStatus = .pending ↔
      ¬ db.IsReconciled account.id := by
  have hpending : (reconciliationRow db account).reconciliationStatus = .pending ↔
      ¬ (reconciliationRow db account).reconciliationStatus = .reconciled := by
    cases (reconciliationRow db account).reconciliationStatus with
    | pending => exact iff_of_true rfl (by simp)
    | reconciled => exact iff_of_false (by simp) (by simp)
  rw [hpending, row_reconciled_iff, not_iff_not]
  rcases h with hnone | hall
  · constructor
    · rintro ⟨p, hp, hsome⟩
      rw [hnone p hp] at hsome
      cases hsome
    · rintro ⟨hne, hall⟩
      obtain ⟨p, hp⟩ := List.exists_mem_of_ne_nil _ hne
      exact ⟨p, hp, hall p hp⟩
  · constructor
    · rintro ⟨p, hp, -⟩
      exact ⟨List.ne_nil_of_mem hp, hall⟩
    · rintro ⟨hne, -⟩
      obtain ⟨p, hp⟩ := List.exists_mem_of_ne_nil _ hne
      exact ⟨p, hp, hall p hp⟩

/-- The totals are sums over the accounts that are listed. -/
theorem summary_totals (db : TradingDb) (listed : List VirtualAccount) :
    (virtualReconciliationSummary db listed).summary =
      { accountCount := listed.length
        pendingReconciliationCount := listed.countP fun account =>
          decide ((reconciliationRow db account).reconciliationStatus = .pending)
        positionCount := (listed.map fun account => (db.held account.id).length).sum
        aggregateCashBalance :=
          (listed.map fun account => virtualCashBalance account.id db.toDb).sum } := by
  unfold virtualReconciliationSummary
  rw [addAccounts_eq]
  simp only [List.nil_append, List.length_map, zero_add]

/-- The verdicts hold for all positions if those of every listed account agree. -/
theorem summaryHonest_iff {db : TradingDb} {listed : List VirtualAccount} :
    SummaryHonest db listed (virtualReconciliationSummary db listed).accounts ↔
      ∀ account ∈ listed, db.Uniform account.id := by
  constructor
  · intro h account haccount
    have hrow : (account, reconciliationRow db account) ∈
        listed.zip (virtualReconciliationSummary db listed).accounts := by
      rw [summary_accounts, zip_rows]
      exact List.mem_map.mpr ⟨account, haccount, rfl⟩
    by_cases hsome : ∃ p ∈ db.held account.id, p.reconciledAt.isSome
    · refine Or.inr fun p hp => ?_
      obtain ⟨hmem, hheld⟩ := mem_held.mp hp
      exact h account _ hrow (row_reconciled_iff.mpr hsome) p hmem hheld
    · refine Or.inl fun p hp => Option.not_isSome_iff_eq_none.mp fun hp' => hsome ⟨p, hp, hp'⟩
  · intro h account row hrow hreconciled p hp hheld
    obtain ⟨haccount, rfl⟩ := row_of_mem_zip hrow
    obtain ⟨p', hp', hsome⟩ := row_reconciled_iff.mp hreconciled
    rcases h account haccount with hnone | hall
    · rw [hnone p' hp'] at hsome
      cases hsome
    · exact hall p (mem_held.mpr ⟨hp, hheld⟩)

/-- Up to a hundred accounts are all listed. -/
theorem Lists.perm {db : TradingDb} {listed : List VirtualAccount} (h : Lists db listed)
    (hfew : db.accounts.rows.length ≤ 100) : listed.Perm db.accounts.rows := by
  obtain ⟨accounts, hperm, -, rfl⟩ := h
  rw [List.take_of_length_le (hperm.length_eq.trans_le hfew)]
  exact hperm

/-- As many accounts are listed as there are, up to a hundred. -/
theorem Lists.length {db : TradingDb} {listed : List VirtualAccount} (h : Lists db listed) :
    listed.length = min 100 db.accounts.rows.length := by
  obtain ⟨accounts, hperm, -, rfl⟩ := h
  rw [List.length_take, hperm.length_eq]

/-- There is always something to be listed. -/
theorem exists_lists (db : TradingDb) : ∃ listed, Lists db listed := by
  -- accounts without a time come last
  let place (account : VirtualAccount) : WithBot ℤ := db.createdAt account.id
  refine ⟨_, db.accounts.rows.mergeSort fun a b => decide (place b ≤ place a),
    List.mergeSort_perm _ _, ?_, rfl⟩
  refine (List.pairwise_mergeSort ?_ ?_ _).imp ?_
  · intro a b c hab hbc
    exact decide_eq_true ((of_decide_eq_true hbc).trans (of_decide_eq_true hab))
  · intro a b
    rw [Bool.or_eq_true, decide_eq_true_eq, decide_eq_true_eq]
    exact le_total _ _
  · intro a b hab t ht t' ht'
    have hplaces : place b ≤ place a := of_decide_eq_true hab
    have hplace : place a = (t : WithBot ℤ) := Option.mem_def.mp ht
    have hplace' : place b = (t' : WithBot ℤ) := Option.mem_def.mp ht'
    rw [hplace, hplace'] at hplaces
    exact WithBot.coe_le_coe.mp hplaces

/-- **When the summary is complete and honest.**  If and only if there are a hundred accounts at
most, and the positions of each account are all reconciled or none of them is. -/
theorem summary_complete_iff (db : TradingDb) {listed : List VirtualAccount}
    (hlisted : Lists db listed) :
    (SummaryComplete db (virtualReconciliationSummary db listed).summary ∧
      SummaryHonest db listed (virtualReconciliationSummary db listed).accounts) ↔
    db.accounts.rows.length ≤ 100 ∧ ∀ account ∈ db.accounts, db.Uniform account.id := by
  rw [summaryHonest_iff]
  constructor
  · rintro ⟨hcomplete, huniform⟩
    have hcount := hcomplete.accountCount
    rw [summary_totals, hlisted.length] at hcount
    have hfew : db.accounts.rows.length ≤ 100 := min_eq_right_iff.mp hcount
    exact ⟨hfew, fun account haccount =>
      huniform account ((hlisted.perm hfew).mem_iff.mpr haccount)⟩
  · rintro ⟨hfew, huniform⟩
    have hperm := hlisted.perm hfew
    refine ⟨?_, fun account haccount => huniform account (hperm.mem_iff.mp haccount)⟩
    rw [summary_totals]
    refine ⟨hperm.length_eq, ?_, (hperm.map _).sum_eq, (hperm.map _).sum_eq⟩
    rw [← hperm.countP_eq]
    refine List.countP_congr fun account haccount => ?_
    rw [decide_eq_true_eq, decide_eq_true_eq]
    exact row_pending_iff (huniform account (hperm.mem_iff.mp haccount))

/-! ## A position that is reconciled and one that is not -/

/-- The one account is listed. -/
theorem lists_account (db : Db) (positions : Table VirtualPosition) :
    Lists (accountDb db positions) [refundedAccount] :=
  ⟨[refundedAccount], List.Perm.refl _, List.pairwise_singleton _ _, rfl⟩

/-- Two positions, the first of which is reconciled. -/
def halfReconciled : Table VirtualPosition where
  rows := [⟨1, 7, "AAPL", 2, 50, some 0⟩, ⟨2, 7, "MSFT", 1, 10, none⟩]
  next := 3
  fresh := by decide
  distinct := by decide
  unique := by decide

/-- Two accounts.  All positions of the older one are reconciled, and the newer one has none;
both have cash. -/
def twoAccounts : TradingDb where
  toDb :=
    { Db.empty with
      accounts :=
        { rows := [⟨7, 3, "active", "USD"⟩, ⟨8, 4, "active", "XOF"⟩]
          next := 9
          fresh := by decide
          distinct := by decide
          unique := by decide }
      ledger :=
        { rows := [⟨1, 7, "deposit", "credit", 30, "USD", "deposit", "D-1", "", []⟩,
            ⟨2, 8, "deposit", "credit", 12, "XOF", "deposit", "D-2", "", []⟩,
            ⟨3, 7, "withdrawal", "debit", 5, "USD", "withdrawal", "W-1", "", []⟩]
          next := 4
          fresh := by decide
          distinct := by decide
          unique := by decide } }
  positions :=
    { rows := [⟨1, 7, "AAPL", 2, 50, some 0⟩, ⟨2, 7, "MSFT", 1, 10, some 5⟩]
      next := 3
      fresh := by decide
      distinct := by decide
      unique := by decide }
  createdAt account := if account = 7 then some 0 else some 1
  collation a b := decide (a ≤ b)

/-- The query returns the newer account first. -/
def bothListed : List VirtualAccount := [⟨8, 4, "active", "XOF"⟩, ⟨7, 3, "active", "USD"⟩]

/-- One account is pending, and the totals are those of both. -/
theorem summary_complete_iff_two :
    Lists twoAccounts bothListed ∧
      SummaryComplete twoAccounts (virtualReconciliationSummary twoAccounts bothListed).summary ∧
      SummaryHonest twoAccounts bothListed
        (virtualReconciliationSummary twoAccounts bothListed).accounts ∧
      (virtualReconciliationSummary twoAccounts bothListed).summary = ⟨2, 1, 2, 37⟩ := by
  have hlists : Lists twoAccounts bothListed := by
    refine ⟨bothListed, List.Perm.swap _ _ _, ?_, rfl⟩
    decide +kernel
  have hboth := (summary_complete_iff twoAccounts hlists).mpr
    ⟨by decide, fun account _ => Or.inr ?_⟩
  · exact ⟨hlists, hboth.1, hboth.2, by decide +kernel⟩
  · intro p hp
    have hmem : p ∈ twoAccounts.positions.rows := (List.mem_filter.mp hp).1
    have hall : ∀ p ∈ twoAccounts.positions.rows, p.reconciledAt.isSome := by decide
    exact hall p hmem

/-- The account of the two positions is reported reconciled, and not pending. -/
theorem not_summary_honest :
    Lists (accountDb Db.empty halfReconciled) [refundedAccount] ∧
    ((virtualReconciliationSummary (accountDb Db.empty halfReconciled)
      [refundedAccount]).accounts.map ReconciliationRow.reconciliationStatus) = [.reconciled] ∧
    (virtualReconciliationSummary (accountDb Db.empty halfReconciled)
      [refundedAccount]).summary.pendingReconciliationCount = 0 ∧
    ¬ SummaryHonest (accountDb Db.empty halfReconciled) [refundedAccount]
      (virtualReconciliationSummary (accountDb Db.empty halfReconciled)
        [refundedAccount]).accounts := by
  refine ⟨lists_account _ _, by decide +kernel, by decide +kernel, ?_⟩
  rw [summaryHonest_iff]
  intro huniform
  rcases huniform refundedAccount (List.mem_singleton.mpr rfl) with hnone | hall
  · exact absurd (hnone ⟨1, 7, "AAPL", 2, 50, some 0⟩ (by decide)) (by decide)
  · exact absurd (hall ⟨2, 7, "MSFT", 1, 10, none⟩ (by decide)) (by decide)

end AfricaFrontier
