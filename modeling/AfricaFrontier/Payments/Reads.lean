import AfricaFrontier.Kora.PayoutRoute
import AfricaFrontier.Payments.PaymentRoute
import AfricaFrontier.Python.Uuid

/-!
# What a user can read

Four endpoints show a user transactions and ledger entries: the list and the detail of
dashboard transactions, `get_payment`, and the activity of the virtual account.  Three of
them ask the database for rows of the caller only.  `get_payment` fetches the row with the
id, whoever it belongs to, and then looks at the owner; the two refusals say the same, except
that one of them repeats the id as it was given and the other as `str` writes it.

`Agree` says of two databases that they hold the same rows of a user, and `reads_agree_iff`
when a request of that user is answered alike by both.  Ids are UUIDs here, in any text that
`uuid.UUID` reads.

The three endpoints that ask for the caller's rows are settled by one remark: a query over the
rows of one user, in an order that is total, has the same result on any two tables with the same
such rows. For the activity that needs the account first, which is created by the request where
there is none, with an id that is drawn; an id that is taken makes the insert fail, and that is
the one way in which the accounts of others reach the answer.
-/

namespace AfricaFrontier

open Python Relational

/-! ## The rows, with the columns that are shown -/

/-- A transaction with the columns only its serialization reads.  An amount that is `NULL` is
shown as zero. -/
structure PaymentRow extends Transaction where
  feeAmount : ℚ
  feeCurrency : Option String
  netAmount : ℚ
  totalFeeAmount : ℚ
  corridor : Option String
  beneficiaryCurrency : Option String
  updatedAt : Instant
  deriving DecidableEq

/-- A ledger entry with the columns only the activity reads. -/
structure LedgerRow extends VirtualLedgerEntry where
  symbol : Option String
  quantity : Option ℚ
  occurredAt : Instant
  deriving DecidableEq

instance : Row PaymentRow where
  Key := ℕ × String
  key r := (r.id, r.idempotencyKey)
  primary := Prod.fst
  Clash a b := a.2 = b.2
  decClash _ _ := inferInstance

instance : Row LedgerRow where
  Key := ℕ
  key r := r.id
  primary := id
  Clash _ _ := False
  decClash _ _ := inferInstance

@[simp] theorem PaymentRow.ident_eq (r : PaymentRow) : ident r = r.id := rfl

@[simp] theorem LedgerRow.ident_eq (r : LedgerRow) : ident r = r.id := rfl

/-- The tables the endpoints read. -/
structure ReadDb where
  transactions : Table PaymentRow
  accounts : Table VirtualAccount
  ledger : Table LedgerRow
  /-- The foreign key of `virtual_ledger_entries`. -/
  owned : ∀ e ∈ ledger, ∃ a ∈ accounts, a.id = e.virtualAccountId

/-! ## Views

What is shown of a row: no view has a column of another row in it. -/

/-- What `serialize_transaction` returns. -/
structure TransactionView where
  transactionId : String
  idempotencyKey : String
  status : String
  amount : ℚ
  currency : String
  feeAmount : ℚ
  totalFeeAmount : ℚ
  feeCurrency : String
  netAmount : ℚ
  psp : String
  pspTransactionId : Option String
  corridor : Option String
  beneficiaryCurrency : Option String
  virtualAccountId : Option String
  ledgerNamespace : String
  fundsPerimeter : Json
  executionMode : Json
  balanceAffecting : Bool
  ledgerEntryCount : Json
  feeBreakdown : Json
  createdAt : Instant
  updatedAt : Instant
  settledAt : Option Instant
  errorMessage : Option String
  deriving DecidableEq

/-- `serialize_transaction`. -/
def serializeTransaction (t : PaymentRow) : TransactionView where
  transactionId := strUuid t.id
  idempotencyKey := t.idempotencyKey
  status := t.status.value
  amount := t.amount
  currency := t.currency
  feeAmount := t.feeAmount
  totalFeeAmount := if t.totalFeeAmount ≠ 0 then t.totalFeeAmount else t.feeAmount
  feeCurrency := if given t.feeCurrency then t.feeCurrency.getD "" else t.currency
  netAmount := t.netAmount
  psp := t.psp.value
  pspTransactionId := t.pspTransactionId
  corridor := t.corridor
  beneficiaryCurrency := t.beneficiaryCurrency
  virtualAccountId := t.virtualAccountId.map strUuid
  ledgerNamespace := t.ledgerNamespace
  fundsPerimeter := t.txnMetadata.getD "funds_perimeter" (.str t.ledgerNamespace)
  executionMode := t.txnMetadata.getD "execution_mode" (.str "unknown")
  balanceAffecting := (t.txnMetadata.getD "balance_affecting" (.bool false)).truthy
  ledgerEntryCount := t.txnMetadata.getD "ledger_entry_count" (.int 0)
  feeBreakdown := t.txnMetadata.getD "fee_breakdown" (.obj [])
  createdAt := t.createdAt
  updatedAt := t.updatedAt
  settledAt := t.settledAt
  errorMessage := t.errorMessage

/-- The paging part of a list. -/
structure Pagination where
  page : ℕ
  pageSize : ℕ
  totalCount : ℕ
  totalPages : ℕ
  deriving DecidableEq

/-- One entry of the activity. -/
structure ActivityView where
  id : String
  activityType : String
  symbol : Option String
  side : String
  quantity : Option ℚ
  amount : ℚ
  occurredAt : Instant
  description : String
  deriving DecidableEq

/-- A page of the activity, with the account it is about. -/
structure ActivityPage where
  accountId : String
  transactions : List ActivityView
  count : ℕ
  nextPageToken : Option String
  deriving DecidableEq

/-- `s.replace("_", " ").capitalize()`. -/
def sentenceCase (s : String) : String :=
  match s.toList.map fun c => if c = '_' then ' ' else c with
  | [] => ""
  | c :: cs => String.ofList (upperChar c :: cs.map Char.toLower)

/-- An entry as the activity shows it. -/
def serializeEntry (e : LedgerRow) : ActivityView where
  id := strUuid e.id
  activityType := upper e.entryType
  symbol := e.symbol
  side := e.direction
  quantity := e.quantity
  amount := if e.direction = "credit" then e.amount else -e.amount
  occurredAt := e.occurredAt
  description := if e.description ≠ "" then e.description else sentenceCase e.entryType

/-- `virtual_account_public_id`. -/
def virtualAccountPublicId (account : VirtualAccount) : String :=
  "AFM-VIRTUAL-" ++ upper (String.ofList ((strUuid account.id).toList.takeWhile (· ≠ '-')))

/-! ## Requests and answers -/

/-- The parameters of `list_dashboard_transactions`. -/
structure TransactionQuery where
  status : Option String := none
  psp : Option String := none
  currency : Option String := none
  search : Option String := none
  page : ℕ := 1
  pageSize : ℕ := 15

/-- A call of one of the four endpoints, with its parameters. -/
inductive ReadRequest
  | listDashboardTransactions (query : TransactionQuery)
  | getDashboardTransaction (transactionId : String)
  | getPayment (transactionId : String)
  | getVirtualPortfolioTransactions (limit : ℕ) (pageToken : Option String)

/-- The refusals, of HTTP and of the payment module. -/
inductive ReadError
  | http (exception : HttpException)
  | payment (exception : PaymentException)
  /-- The database refuses a parameter. -/
  | parameter
  deriving DecidableEq

inductive ReadAnswer
  | transactions (items : List TransactionView) (pagination : Pagination)
  | transaction (view : TransactionView)
  | payment (view : PaymentView)
  | activity (page : ActivityPage)
  | failed (error : ReadError)
  deriving DecidableEq

/-- A refusal with a status and a detail. -/
def ReadAnswer.http (status : ℕ) (detail : String) : ReadAnswer := .failed (.http ⟨status, detail⟩)

/-- `ORDER BY time DESC, id DESC`. -/
def newestFirst {ρ : Type} [Row ρ] (time : ρ → Instant) (a b : ρ) : Bool :=
  decide (time b < time a ∨ (time a = time b ∧ ident b ≤ ident a))

/-- `PaymentStatus(value)`. -/
def PaymentStatus.ofValue (value : String) : Option PaymentStatus :=
  [.pending, .processing, .completed, .failed, .refunded, .held].find? fun status =>
    decide (status.value = value)

/-- `PSPType(value)`. -/
def PSPType.ofValue (value : String) : Option PSPType :=
  [.aza, .kora, .fincra, .flutterwave, .stripe, .mtnMomo, .orangeMoney].find? fun psp =>
    decide (psp.value = value)

/-- A parameter that is given and not empty. -/
def nonempty (value : Option String) : Option String := value.filter fun s => decide (s ≠ "")

/-! ## The endpoints -/

section Endpoints

-- `ILIKE`, of a text and a pattern
variable (ilike : String → String → Bool)

/-- The filters of the list, where the status and the provider are given by these values. -/
def TransactionQuery.selects (query : TransactionQuery) (userId : ℕ)
    (status : Option PaymentStatus) (psp : Option PSPType) (t : PaymentRow) : Bool :=
  decide (t.userId = userId) && decide (t.ledgerNamespace = afmPayments) &&
    status.all (fun status => decide (t.status = status)) &&
    psp.all (fun psp => decide (t.psp = psp)) &&
    (nonempty query.currency).all (fun currency => decide (t.currency = upper currency)) &&
    (nonempty query.search).all fun search =>
      let needle := "%" ++ search ++ "%"
      ilike (strUuid t.id) needle || t.pspTransactionId.any fun text => ilike text needle

/-- A page of the selected transactions. -/
def ReadDb.transactionPage (db : ReadDb) (selects : PaymentRow → Bool) (page pageSize : ℕ) :
    ReadAnswer :=
  let rows := db.transactions.sorted selects (newestFirst fun t => t.createdAt)
  let offset := (page - 1) * pageSize
  if 2 ^ 63 ≤ offset then .failed .parameter
  else
    .transactions (((rows.drop offset).take pageSize).map serializeTransaction)
      { page := page
        pageSize := pageSize
        totalCount := rows.length
        totalPages := (rows.length + pageSize - 1) / pageSize }

/-- A parameter that names a value, if it is given. -/
def namedValue {α : Type} (ofValue : String → Option α) (value : Option String) :
    Option (Option α) :=
  match nonempty value with
  | none => some none
  | some text => (ofValue text).map some

/-- `list_dashboard_transactions`. -/
def listDashboardTransactions (userId : ℕ) (query : TransactionQuery) (db : ReadDb) :
    ReadAnswer :=
  match namedValue PaymentStatus.ofValue query.status with
  | none => .http 400 "Invalid transaction status"
  | some status =>
      match namedValue PSPType.ofValue query.psp with
      | none => .http 400 "Invalid PSP"
      | some psp =>
          db.transactionPage (query.selects ilike userId status psp) query.page query.pageSize

/-- `get_dashboard_transaction`. -/
def getDashboardTransaction (userId : ℕ) (transactionId : String) (db : ReadDb) : ReadAnswer :=
  match parseUuid transactionId with
  | none => .http 400 "Invalid transaction id"
  | some id =>
      match db.transactions.rows.find? fun t => decide (t.id = id) && decide (t.userId = userId) &&
        decide (t.ledgerNamespace = afmPayments) with
      | none => .http 404 "Transaction not found"
      | some t => .transaction (serializeTransaction t)

/-- Primary keys as `str` writes them and `uuid.UUID` reads them. -/
def uuidIds : IdTexts where
  read := parseUuid
  write := strUuid

/-- What is read is what `uuid.UUID` reads. -/
theorem uuidIds_read (text : String) : uuidIds.read text = parseUuid text := by
  simp only [uuidIds]

/-- The row with the id, whoever it belongs to. -/
def ReadDb.findTransaction (db : ReadDb) (id : ℕ) : Option Transaction :=
  (db.transactions.get id).map PaymentRow.toTransaction

/-- `get_payment`. -/
def readPayment (userId : ℕ) (transactionId : String) (db : ReadDb) : ReadAnswer :=
  match getPaymentRow uuidIds db.findTransaction transactionId userId with
  | .ok view => .payment view
  | .error exception => .failed (.payment exception)

/-- `get_or_create_virtual_account`, where a new account gets the id that is drawn for it;
`none` if that id is taken. -/
def ReadDb.accountFor (db : ReadDb) (userId drawn : ℕ) : Option VirtualAccount :=
  match db.accounts.rows.find? fun a => decide (a.userId = userId) with
  | some account => some account
  | none =>
      if db.accounts.rows.any fun a => decide (a.id = drawn) then none
      else some (newAccount userId drawn)

/-- The entries of an account that meet a condition, as a page. -/
def ReadDb.activityPage (db : ReadDb) (account : VirtualAccount) (limit : ℕ)
    (selects : LedgerRow → Bool) : ReadAnswer :=
  let entries := (db.ledger.sorted
    (fun e => decide (e.virtualAccountId = account.id) && selects e)
    (newestFirst LedgerRow.occurredAt)).take limit
  .activity
    { accountId := virtualAccountPublicId account
      transactions := entries.map serializeEntry
      count := entries.length
      nextPageToken :=
        if entries.length = limit then entries.getLast?.map fun e => strUuid e.id else none }

/-- The activity of an account, from behind the entry the page token names. -/
def ReadDb.activity (db : ReadDb) (account : VirtualAccount) (limit : ℕ)
    (pageToken : Option String) : ReadAnswer :=
  match nonempty pageToken with
  | none => db.activityPage account limit fun _ => true
  | some text =>
      match parseUuid text with
      | none => .http 400 "Invalid transaction page token"
      | some tokenId =>
          match db.ledger.rows.find? fun e =>
            decide (e.id = tokenId) && decide (e.virtualAccountId = account.id) with
          | none => .http 400 "Invalid transaction page token"
          | some token =>
              db.activityPage account limit fun e =>
                decide (e.occurredAt < token.occurredAt ∨
                  (e.occurredAt = token.occurredAt ∧ e.id < token.id))

/-- `get_virtual_portfolio_transactions`. -/
def getVirtualPortfolioTransactions (userId drawn limit : ℕ) (pageToken : Option String)
    (db : ReadDb) : ReadAnswer :=
  match db.accountFor userId drawn with
  | none => .http 503 "Virtual account provisioning is temporarily unavailable"
  | some account => db.activity account limit pageToken

/-- The answer to a request of a user; `drawn` is the id a new account would get. -/
def respond (userId drawn : ℕ) (db : ReadDb) : ReadRequest → ReadAnswer
  | .listDashboardTransactions query => listDashboardTransactions ilike userId query db
  | .getDashboardTransaction transactionId => getDashboardTransaction userId transactionId db
  | .getPayment transactionId => readPayment userId transactionId db
  | .getVirtualPortfolioTransactions limit pageToken =>
      getVirtualPortfolioTransactions userId drawn limit pageToken db

end Endpoints

/-! ## The property and its condition

Everything that is compared here can be seen by the caller, in an answer. -/

/-- The two databases hold the same transactions, virtual account and ledger entries of the
user. -/
structure Agree (userId : ℕ) (db db' : ReadDb) : Prop where
  transactions : ∀ t, t.userId = userId → (t ∈ db.transactions ↔ t ∈ db'.transactions)
  account : ∀ a, a.userId = userId → (a ∈ db.accounts ↔ a ∈ db'.accounts)
  ledger : ∀ a ∈ db.accounts, a.userId = userId → ∀ e, e.virtualAccountId = a.id →
    (e ∈ db.ledger ↔ e ∈ db'.ledger)

/-- The id belongs to a transaction of somebody else. -/
def ReadDb.Foreign (db : ReadDb) (userId id : ℕ) : Prop :=
  ∃ t ∈ db.transactions, t.id = id ∧ t.userId ≠ userId

/-- The user has an account. -/
def ReadDb.HasAccount (db : ReadDb) (userId : ℕ) : Prop := ∃ a ∈ db.accounts, a.userId = userId

/-- The id is that of an account. -/
def ReadDb.Taken (db : ReadDb) (id : ℕ) : Prop := ∃ a ∈ db.accounts, a.id = id

/-- The request does not tell the two databases apart by what they hold of others:
`get_payment` is asked with an id as `str` writes it, or the id is that of a foreign
transaction in both or in neither, and the same goes for the id drawn for a new account. -/
def Discreet (userId drawn : ℕ) (db db' : ReadDb) : ReadRequest → Prop
  | .getPayment transactionId =>
      ∀ id, parseUuid transactionId = some id → transactionId ≠ strUuid id →
        (db.Foreign userId id ↔ db'.Foreign userId id)
  | .getVirtualPortfolioTransactions _ _ =>
      ¬ db.HasAccount userId → (db.Taken drawn ↔ db'.Taken drawn)
  | _ => True

/-! ## The endpoints that ask for the caller's rows

Their queries filter by the user first, so that agreement of the rows is agreement of the
results. -/

/-- With the id behind the time, the order is total on the rows of a table. -/
theorem newestFirst_rowOrder {ρ : Type} [Row ρ] (time : ρ → Instant) :
    Table.RowOrder (newestFirst time) where
  trans := by
    intro a b c hab hbc
    have hab : time b < time a ∨ (time a = time b ∧ ident b ≤ ident a) := of_decide_eq_true hab
    have hbc : time c < time b ∨ (time b = time c ∧ ident c ≤ ident b) := of_decide_eq_true hbc
    refine decide_eq_true ?_
    rcases hab with hab | ⟨hab, hid⟩
    · rcases hbc with hbc | ⟨hbc, -⟩
      · exact Or.inl (hbc.trans hab)
      · exact Or.inl (hbc ▸ hab)
    · rcases hbc with hbc | ⟨hbc, hid'⟩
      · exact Or.inl (hab ▸ hbc)
      · exact Or.inr ⟨hab.trans hbc, hid'.trans hid⟩
  total := by
    intro a b
    rw [Bool.or_eq_true]
    rcases lt_trichotomy (time a) (time b) with hlt | heq | hgt
    · exact Or.inr (decide_eq_true (Or.inl hlt))
    · rcases Nat.le_total (ident b) (ident a) with hle | hle
      · exact Or.inl (decide_eq_true (Or.inr ⟨heq, hle⟩))
      · exact Or.inr (decide_eq_true (Or.inr ⟨heq.symm, hle⟩))
    · exact Or.inl (decide_eq_true (Or.inl hgt))
  antisymm := by
    intro a b hab hba
    have hab : time b < time a ∨ (time a = time b ∧ ident b ≤ ident a) := of_decide_eq_true hab
    have hba : time a < time b ∨ (time b = time a ∧ ident a ≤ ident b) := of_decide_eq_true hba
    rcases hab with hab | ⟨hab, hid⟩
    · rcases hba with hba | ⟨hba, -⟩
      · exact absurd (hab.trans hba) (lt_irrefl _)
      · exact absurd hba.symm (ne_of_gt hab)
    · rcases hba with hba | ⟨-, hid'⟩
      · exact absurd hab (ne_of_lt hba)
      · exact le_antisymm hid' hid

section Own

variable {ilike : String → String → Bool} {userId drawn : ℕ} {db db' : ReadDb}

/-- Agreement is symmetric. -/
theorem Agree.symm (h : Agree userId db db') : Agree userId db' db where
  transactions t ht := (h.transactions t ht).symm
  account a ha := (h.account a ha).symm
  ledger a ha hown e he := (h.ledger a ((h.account a hown).mpr ha) hown e he).symm

/-- The list is the same on two databases that agree. -/
theorem Agree.list (h : Agree userId db db') (query : TransactionQuery) :
    listDashboardTransactions ilike userId query db =
      listDashboardTransactions ilike userId query db' := by
  have hpage : ∀ status psp,
      db.transactionPage (query.selects ilike userId status psp) query.page query.pageSize =
        db'.transactionPage (query.selects ilike userId status psp) query.page
          query.pageSize := by
    intro status psp
    have hown : ∀ t, query.selects ilike userId status psp t = true → t.userId = userId := by
      intro t ht
      simp only [TransactionQuery.selects, Bool.and_eq_true, decide_eq_true_eq] at ht
      exact ht.1.1.1.1.1
    have hrows := Table.sorted_congr (newestFirst_rowOrder fun t : PaymentRow => t.createdAt)
      fun t ht => h.transactions t (hown t ht)
    rw [ReadDb.transactionPage, ReadDb.transactionPage, hrows]
  unfold listDashboardTransactions
  split
  · rfl
  · split
    · rfl
    · exact hpage _ _

/-- The detail of a transaction is the same on two databases that agree. -/
theorem Agree.detail (h : Agree userId db db') (transactionId : String) :
    getDashboardTransaction userId transactionId db =
      getDashboardTransaction userId transactionId db' := by
  unfold getDashboardTransaction
  cases parseUuid transactionId with
  | none => rfl
  | some id =>
      have hrow : (db.transactions.rows.find? fun t => decide (t.id = id) &&
          decide (t.userId = userId) && decide (t.ledgerNamespace = afmPayments)) =
            db'.transactions.rows.find? fun t => decide (t.id = id) &&
              decide (t.userId = userId) && decide (t.ledgerNamespace = afmPayments) := by
        refine Table.find_congr (i := id) (fun t ht => ?_) fun t ht => h.transactions t ?_
        · simp only [Bool.and_eq_true, decide_eq_true_eq] at ht
          exact ht.1.1
        · simp only [Bool.and_eq_true, decide_eq_true_eq] at ht
          exact ht.1.2
      simp only [hrow]

/-- The activity of an account depends on its entries. -/
theorem activity_congr {account : VirtualAccount} {limit : ℕ} {pageToken : Option String}
    (h : ∀ e, e.virtualAccountId = account.id → (e ∈ db.ledger ↔ e ∈ db'.ledger)) :
    db.activity account limit pageToken = db'.activity account limit pageToken := by
  have hpage : ∀ selects, db.activityPage account limit selects =
      db'.activityPage account limit selects := by
    intro selects
    have hown : ∀ e : LedgerRow, (decide (e.virtualAccountId = account.id) && selects e) = true →
        e.virtualAccountId = account.id := by
      intro e he
      simp only [Bool.and_eq_true, decide_eq_true_eq] at he
      exact he.1
    have hentries := Table.sorted_congr (newestFirst_rowOrder LedgerRow.occurredAt)
      fun e he => h e (hown e he)
    rw [ReadDb.activityPage, ReadDb.activityPage, hentries]
  unfold ReadDb.activity
  split
  · exact hpage _
  · split
    · rfl
    · -- the entry of the token is looked up among the account's own
      rename_i tokenId _
      have htoken : (db.ledger.rows.find? fun e =>
          decide (e.id = tokenId) && decide (e.virtualAccountId = account.id)) =
            db'.ledger.rows.find? fun e =>
              decide (e.id = tokenId) && decide (e.virtualAccountId = account.id) := by
        refine Table.find_congr (i := tokenId) (fun e he => ?_) fun e he => h e ?_
        · simp only [Bool.and_eq_true, decide_eq_true_eq] at he
          exact he.1
        · simp only [Bool.and_eq_true, decide_eq_true_eq] at he
          exact he.2
      rw [htoken]
      split
      · rfl
      · exact hpage _

end Own

/-! ## The account of the caller

The account is found, or it is created with the id that was drawn. -/

section Account

variable {userId drawn : ℕ} {db db' : ReadDb}

/-- An account that is there is the one that is returned. -/
theorem accountFor_of_mem {a : VirtualAccount} (ha : a ∈ db.accounts) (hown : a.userId = userId) :
    db.accountFor userId drawn = some a := by
  unfold ReadDb.accountFor
  cases hfind : db.accounts.rows.find? fun a => decide (a.userId = userId) with
  | none =>
      have hnone := List.find?_eq_none.mp hfind a ha
      exact absurd (decide_eq_true hown) hnone
  | some a' =>
      have hown' : a'.userId = userId := by simpa using List.find?_some hfind
      have hsame : a' = a := Table.eq_of_clash (List.mem_of_find?_eq_some hfind) ha
        (fun _ _ => Eq.symm) (hown'.trans hown.symm)
      rw [hsame]

/-- Where there is no account, one is inserted under the id that was drawn. -/
theorem accountFor_new (h : ¬ db.HasAccount userId) :
    db.accountFor userId drawn =
      if db.accounts.rows.any fun a => decide (a.id = drawn) then none
      else some (newAccount userId drawn) := by
  have hnone : (db.accounts.rows.find? fun a => decide (a.userId = userId)) = none :=
    List.find?_eq_none.mpr fun a ha hown => h ⟨a, ha, of_decide_eq_true hown⟩
  rw [ReadDb.accountFor, hnone]

/-- The insert fails if another account has the id that was drawn. -/
theorem accountFor_taken (h : ¬ db.HasAccount userId) (htaken : db.Taken drawn) :
    db.accountFor userId drawn = none := by
  obtain ⟨a, ha, hid⟩ := htaken
  rw [accountFor_new h, if_pos (List.any_eq_true.mpr ⟨a, ha, decide_eq_true hid⟩)]

/-- The insert succeeds if no account has the id that was drawn. -/
theorem accountFor_drawn (h : ¬ db.HasAccount userId) (hfree : ¬ db.Taken drawn) :
    db.accountFor userId drawn = some (newAccount userId drawn) := by
  rw [accountFor_new h, if_neg]
  intro hany
  obtain ⟨a, ha, hid⟩ := List.any_eq_true.mp hany
  exact hfree ⟨a, ha, of_decide_eq_true hid⟩

/-- No entry names an account that does not exist. -/
theorem no_entries (hfree : ¬ db.Taken drawn) {e : LedgerRow} (h : e.virtualAccountId = drawn) :
    e ∉ db.ledger := by
  intro he
  obtain ⟨a, ha, hid⟩ := db.owned e he
  exact hfree ⟨a, ha, hid.trans h⟩

/-- Whether the user has an account is seen in the user's own rows. -/
theorem Agree.hasAccount (h : Agree userId db db') (hown : db.HasAccount userId) :
    db'.HasAccount userId := by
  obtain ⟨a, ha, hid⟩ := hown
  exact ⟨a, (h.account a hid).mp ha, hid⟩

/-- An account that is there is shown, or the page token refused. -/
theorem activity_ne_unavailable (account : VirtualAccount) (limit : ℕ)
    (pageToken : Option String) :
    db.activity account limit pageToken ≠
      .http 503 "Virtual account provisioning is temporarily unavailable" := by
  unfold ReadDb.activity
  split
  · intro h
    cases h
  · split
    · decide
    · split
      · decide
      · intro h
        cases h

/-- The activity is answered alike iff the id drawn for a new account does not give the other
accounts away. -/
theorem Agree.portfolio_iff (h : Agree userId db db') (limit : ℕ) (pageToken : Option String) :
    getVirtualPortfolioTransactions userId drawn limit pageToken db =
        getVirtualPortfolioTransactions userId drawn limit pageToken db' ↔
      (¬ db.HasAccount userId → (db.Taken drawn ↔ db'.Taken drawn)) := by
  unfold getVirtualPortfolioTransactions
  by_cases hown : db.HasAccount userId
  · obtain ⟨a, ha, hid⟩ := hown
    rw [accountFor_of_mem ha hid, accountFor_of_mem ((h.account a hid).mp ha) hid]
    refine ⟨fun _ hnone => absurd ⟨a, ha, hid⟩ hnone, fun _ => ?_⟩
    exact activity_congr (h.ledger a ha hid)
  · have hown' : ¬ db'.HasAccount userId := fun hhas => hown (h.symm.hasAccount hhas)
    -- a new account: whether its id is free is all that is read of the others
    rw [forall_prop_of_true hown]
    by_cases htaken : db.Taken drawn
    · rw [accountFor_taken hown htaken]
      by_cases htaken' : db'.Taken drawn
      · rw [accountFor_taken hown' htaken']
        exact iff_of_true rfl (iff_of_true htaken htaken')
      · rw [accountFor_drawn hown' htaken']
        refine iff_of_false (fun hsame => ?_) fun hiff => htaken' (hiff.mp htaken)
        exact activity_ne_unavailable _ _ _ hsame.symm
    · rw [accountFor_drawn hown htaken]
      by_cases htaken' : db'.Taken drawn
      · rw [accountFor_taken hown' htaken']
        refine iff_of_false (fun hsame => ?_) fun hiff => htaken (hiff.mpr htaken')
        exact activity_ne_unavailable _ _ _ hsame
      · rw [accountFor_drawn hown' htaken']
        refine iff_of_true ?_ (iff_of_false htaken htaken')
        exact activity_congr fun e he =>
          iff_of_false (no_entries htaken he) (no_entries htaken' he)

end Account

/-! ## The row that is fetched first

`get_payment` finds the row by its id alone. There are four cases: the caller's own row, a row of
somebody else, no row at all, and a text that is no id. -/

section Payment

variable {userId : ℕ} {db db' : ReadDb} {text : String} {id : ℕ}

/-- What `get_payment` reports of a row. -/
def paymentView (t : Transaction) : PaymentView where
  transactionId := strUuid t.id
  status := t.status.value
  amount := t.amount
  currency := t.currency
  psp := t.psp.value
  pspTransactionId := t.pspTransactionId
  createdAt := t.createdAt

/-- What it says when it shows nothing. -/
def paymentNotFound (text : String) : ReadAnswer :=
  .failed (.payment (.notFound ("Transaction " ++ text ++ " not found")))

/-- The text is part of the answer. -/
theorem paymentNotFound_inj {text text' : String} :
    paymentNotFound text = paymentNotFound text' ↔ text = text' := by
  refine ⟨fun h => ?_, congrArg paymentNotFound⟩
  simp only [paymentNotFound, ReadAnswer.failed.injEq, ReadError.payment.injEq,
    PaymentException.notFound.injEq] at h
  have hlist := congrArg String.toList h
  simp only [String.toList_append, List.append_left_inj, List.append_right_inj] at hlist
  exact String.toList_inj.mp hlist

/-- The payment of the caller is shown. -/
theorem readPayment_own {t : PaymentRow} (hparse : parseUuid text = some id)
    (ht : t ∈ db.transactions) (hid : t.id = id) (hown : t.userId = userId) :
    readPayment userId text db = .payment (paymentView t.toTransaction) := by
  have hget : db.transactions.get id = some t := Table.get_eq_some_iff.mpr ⟨ht, hid⟩
  have hread : uuidIds.read text = some id := (uuidIds_read text).trans hparse
  simp only [readPayment, getPaymentRow, hread, getTransaction, ReadDb.findTransaction, hget,
    Option.map_some]
  simp only [bind, Except.bind, hown, ne_eq, not_true_eq_false, if_false]
  rfl

/-- The payment of somebody else is not found, and the answer has the id as it was given. -/
theorem readPayment_foreign (hparse : parseUuid text = some id) (h : db.Foreign userId id) :
    readPayment userId text db = paymentNotFound text := by
  obtain ⟨t, ht, hid, hne⟩ := h
  have hget : db.transactions.get id = some t := Table.get_eq_some_iff.mpr ⟨ht, hid⟩
  have hread : uuidIds.read text = some id := (uuidIds_read text).trans hparse
  simp only [readPayment, getPaymentRow, hread, getTransaction, ReadDb.findTransaction, hget,
    Option.map_some]
  simp only [bind, Except.bind, hne, ne_eq, not_false_eq_true, if_true]
  rfl

/-- An id without a payment is not found, and the answer has the id as `str` writes it. -/
theorem readPayment_missing (hparse : parseUuid text = some id)
    (h : ∀ t ∈ db.transactions, t.id ≠ id) :
    readPayment userId text db = paymentNotFound (strUuid id) := by
  have hget : db.transactions.get id = none :=
    List.find?_eq_none.mpr fun t ht hid => h t ht (of_decide_eq_true hid)
  have hread : uuidIds.read text = some id := (uuidIds_read text).trans hparse
  simp only [readPayment, getPaymentRow, hread, getTransaction, ReadDb.findTransaction, hget,
    Option.map_none]
  rfl

/-- A text that is no id is refused before the query. -/
theorem readPayment_invalid (hparse : parseUuid text = none) :
    readPayment userId text db =
      .failed (.payment (.validation ("'" ++ text ++ "' is not a valid transaction id"))) := by
  have hread : uuidIds.read text = none := (uuidIds_read text).trans hparse
  simp only [readPayment, getPaymentRow, hread]

/-- A payment of nobody, or of somebody else. -/
theorem readPayment_not_own (hparse : parseUuid text = some id)
    (h : ∀ t ∈ db.transactions, t.id = id → t.userId ≠ userId) :
    (db.Foreign userId id ∧ readPayment userId text db = paymentNotFound text) ∨
      (¬ db.Foreign userId id ∧ readPayment userId text db = paymentNotFound (strUuid id)) := by
  by_cases hforeign : db.Foreign userId id
  · exact Or.inl ⟨hforeign, readPayment_foreign hparse hforeign⟩
  · refine Or.inr ⟨hforeign, readPayment_missing hparse fun t ht hid => ?_⟩
    exact hforeign ⟨t, ht, hid, h t ht hid⟩

/-- A payment is answered alike iff its id is as `str` writes it, or is somebody else's in both
databases or in neither. -/
theorem Agree.payment_iff (h : Agree userId db db') (text : String) :
    readPayment userId text db = readPayment userId text db' ↔
      ∀ id, parseUuid text = some id → text ≠ strUuid id →
        (db.Foreign userId id ↔ db'.Foreign userId id) := by
  cases hparse : parseUuid text with
  | none =>
      rw [readPayment_invalid hparse, readPayment_invalid hparse]
      refine iff_of_true rfl fun id hid => ?_
      cases hid
  | some id =>
      have hid : (∀ id', some id = some id' → text ≠ strUuid id' →
          (db.Foreign userId id' ↔ db'.Foreign userId id')) ↔
            (text ≠ strUuid id → (db.Foreign userId id ↔ db'.Foreign userId id)) := by
        constructor
        · intro hall
          exact hall id rfl
        · rintro hone id' hid'
          cases hid'
          exact hone
      rw [hid]
      by_cases hown : ∃ t ∈ db.transactions, t.id = id ∧ t.userId = userId
      · obtain ⟨t, ht, htid, htown⟩ := hown
        have ht' : t ∈ db'.transactions := (h.transactions t htown).mp ht
        -- the id is the caller's own, in both databases
        have hours : ∀ {db : ReadDb}, t ∈ db.transactions → ¬ db.Foreign userId id := by
          rintro db ht ⟨t', ht', htid', hne⟩
          have hsame : t' = t := Table.eq_of_ident ht' ht (htid'.trans htid.symm)
          exact hne (hsame ▸ htown)
        rw [readPayment_own hparse ht htid htown, readPayment_own hparse ht' htid htown]
        exact iff_of_true rfl fun _ => iff_of_false (hours ht) (hours ht')
      · have hnot : ∀ t ∈ db.transactions, t.id = id → t.userId ≠ userId :=
          fun t ht htid htown => hown ⟨t, ht, htid, htown⟩
        have hnot' : ∀ t ∈ db'.transactions, t.id = id → t.userId ≠ userId :=
          fun t ht htid htown => hown ⟨t, (h.transactions t htown).mpr ht, htid, htown⟩
        rcases readPayment_not_own hparse hnot with ⟨hf, hanswer⟩ | ⟨hf, hanswer⟩
        · rcases readPayment_not_own hparse hnot' with ⟨hf', hanswer'⟩ | ⟨hf', hanswer'⟩
          · rw [hanswer, hanswer']
            exact iff_of_true rfl fun _ => iff_of_true hf hf'
          · -- the text as it was given, and as `str` writes it
            rw [hanswer, hanswer', paymentNotFound_inj, iff_false_right hf', Ne, not_imp_not]
            exact (imp_iff_right hf).symm
        · rcases readPayment_not_own hparse hnot' with ⟨hf', hanswer'⟩ | ⟨hf', hanswer'⟩
          · rw [hanswer, hanswer', paymentNotFound_inj, iff_false_left hf, Ne, not_imp_not, eq_comm]
            exact (imp_iff_right hf').symm
          · rw [hanswer, hanswer']
            exact iff_of_true rfl fun _ => iff_of_false hf hf'

end Payment

/-! ## Two runs

One case per endpoint. -/

/-- A request of a user is answered alike by two databases that hold the same rows of the user
iff it does not tell them apart by the rows of others. -/
theorem reads_agree_iff (ilike : String → String → Bool) {userId : ℕ} (drawn : ℕ)
    {db db' : ReadDb} (h : Agree userId db db') (request : ReadRequest) :
    respond ilike userId drawn db request = respond ilike userId drawn db' request ↔
      Discreet userId drawn db db' request := by
  cases request with
  | listDashboardTransactions query => exact iff_of_true (h.list query) trivial
  | getDashboardTransaction transactionId => exact iff_of_true (h.detail transactionId) trivial
  | getPayment transactionId => exact h.payment_iff transactionId
  | getVirtualPortfolioTransactions limit pageToken => exact h.portfolio_iff limit pageToken

/-! ## A payment of somebody else -/

/-- A payment of user 2. -/
def othersPayment : PaymentRow where
  id := 0xab
  idempotencyKey := "rent-july"
  userId := 2
  psp := .fincra
  pspTransactionId := none
  pspPaymentReference := none
  pspResponse := []
  amount := 100
  currency := "USD"
  status := .pending
  txnMetadata := []
  ledgerNamespace := afmPayments
  virtualAccountId := none
  mobileMoneyPhone := none
  mobileMoneyOwnerVerifiedAt := none
  errorMessage := none
  webhookReceivedAt := none
  settledAt := none
  createdAt := 0
  feeAmount := 0
  feeCurrency := none
  netAmount := 100
  totalFeeAmount := 0
  corridor := none
  beneficiaryCurrency := none
  updatedAt := 0

/-- It is all there is. -/
def onePayment : ReadDb where
  transactions :=
    { rows := [othersPayment]
      next := 0xac
      fresh := by
        intro r hr
        obtain rfl := List.mem_singleton.mp hr
        decide
      distinct := List.pairwise_singleton _ _
      unique := List.pairwise_singleton _ _ }
  accounts := Table.empty
  ledger := Table.empty
  owned := by
    intro e he
    cases he

/-- A database without payments. -/
def noPayment : ReadDb where
  transactions := Table.empty
  accounts := Table.empty
  ledger := Table.empty
  owned := by
    intro e he
    cases he

/-- User 1 has nothing in either. -/
theorem agree_one_no : Agree 1 onePayment noPayment where
  transactions := by
    intro t ht
    refine iff_of_false (fun hone => ?_) fun hnone => by cases hnone
    obtain rfl := List.mem_singleton.mp hone
    exact absurd ht (by decide)
  account a _ := Iff.rfl
  ledger a ha := by cases ha

/-- Upper-case digits are read. -/
theorem parseUuid_upper : parseUuid "00000000-0000-0000-0000-0000000000AB" = some 0xab := by
  decide +kernel

/-- Lower-case digits are written. -/
theorem strUuid_lower : strUuid 0xab = "00000000-0000-0000-0000-0000000000ab" := by
  decide +kernel

/-- Asked for it by the text `str` writes, the two databases answer alike. -/
theorem reads_agree_lower :
    respond (fun _ _ => false) 1 7 onePayment
        (.getPayment "00000000-0000-0000-0000-0000000000ab") =
      respond (fun _ _ => false) 1 7 noPayment
        (.getPayment "00000000-0000-0000-0000-0000000000ab") := by
  have hparse : parseUuid "00000000-0000-0000-0000-0000000000ab" = some 0xab := by decide +kernel
  refine (reads_agree_iff _ 7 agree_one_no _).mpr fun id hid hne => ?_
  rw [hparse] at hid
  cases hid
  exact absurd strUuid_lower.symm hne

/-- The other text of the id tells user 1 that the payment exists. -/
theorem reads_tell_apart :
    Agree 1 onePayment noPayment ∧
      respond (fun _ _ => false) 1 7 onePayment
          (.getPayment "00000000-0000-0000-0000-0000000000AB") =
        paymentNotFound "00000000-0000-0000-0000-0000000000AB" ∧
      respond (fun _ _ => false) 1 7 noPayment
          (.getPayment "00000000-0000-0000-0000-0000000000AB") =
        paymentNotFound "00000000-0000-0000-0000-0000000000ab" ∧
      paymentNotFound "00000000-0000-0000-0000-0000000000AB" ≠
        paymentNotFound "00000000-0000-0000-0000-0000000000ab" := by
  have hforeign : onePayment.Foreign 1 0xab :=
    ⟨othersPayment, List.mem_singleton.mpr rfl, rfl, by decide⟩
  have hmissing : ∀ t ∈ noPayment.transactions, t.id ≠ 0xab := by
    intro t ht
    cases ht
  refine ⟨agree_one_no, readPayment_foreign parseUuid_upper hforeign, ?_, by decide⟩
  have hanswer : readPayment 1 "00000000-0000-0000-0000-0000000000AB" noPayment =
      paymentNotFound (strUuid 0xab) := readPayment_missing parseUuid_upper hmissing
  rw [← strUuid_lower]
  exact hanswer

end AfricaFrontier
