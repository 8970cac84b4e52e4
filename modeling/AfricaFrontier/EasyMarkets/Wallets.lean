import AfricaFrontier.Lib.Run
import AfricaFrontier.Lib.Table
import AfricaFrontier.Payments.PaymentRoute
import AfricaFrontier.Python.Decimal
import AfricaFrontier.Python.Subscript

/-!
# Wallets

`WalletService` checks a withdrawal or a transfer against the balance of the stored wallet
and returns transaction objects that it adds to no session.  `withdraw` also changes the
balance, of a wallet object whose session is closed.  So a call stores nothing, and the next
one finds the balance as it was.

A wallet is then sound only as long as nothing is accepted that ought to change its balance,
and as long as the withdrawals accepted so far do not exceed the balance together:
`sparesWallets`, which `wallets_sound_iff` shows to be exactly the condition.  Amounts are
finite here; one that is not is refused by the comparison or by `quantize`.

A run changes nothing that is stored (`WalletsKept`), so soundness is about the list of what was
accepted: `WalletsKept.sound_iff` turns it into two equations per wallet, that nothing was settled
and that the withdrawals are covered. One request adds to that list what it returns
(`walletService_cases`, `Accepts`), and `Accepts.spares_iff` compares the equations before and
after.
-/

namespace AfricaFrontier

open Python Relational Transition

/-! ## The rows -/

/-- The types of wallet transactions. -/
inductive WalletTransactionType
  | deposit
  | withdrawal
  | transferIn
  | transferOut
  deriving DecidableEq, Repr

/-- A row of the wallet table. -/
structure Wallet where
  id : ℕ
  userId : ℕ
  currency : String
  balance : ℚ := 0
  lockedBalance : ℚ := 0
  deriving DecidableEq

/-- A transaction object as the service returns it: no session knows it, so that it is never
stored. -/
structure WalletTransaction where
  walletId : ℕ
  type : WalletTransactionType
  amount : ℚ
  currency : String
  reference : String
  status : String
  deriving DecidableEq

/-- The columns of a wallet that a constraint speaks about. -/
structure WalletKey where
  id : ℕ
  userId : ℕ
  deriving DecidableEq

instance : Row Wallet where
  Key := WalletKey
  key r := ⟨r.id, r.userId⟩
  primary := WalletKey.id
  Clash a b := a.userId = b.userId
  decClash _ _ := inferInstance

@[simp] theorem Wallet.ident_eq (r : Wallet) : ident r = r.id := rfl

/-! ## The service -/

/-- What the service raises. -/
inductive WalletError
  | currencyNotSupported (currency : String)
  | amountNotPositive
  /-- `decimal.InvalidOperation`: more digits than the context has. -/
  | invalidOperation
  | notFound (walletId : ℕ)
  | insufficientFunds (wallet : Wallet) (amount : ℚ) (currency : String)
  | insufficientForTransfer (balance amount : ℚ)
  /-- The connection or the server failed. -/
  | database
  deriving DecidableEq

/-- `str(error)`, where `decimal` writes amounts. -/
def WalletError.text (decimal : ℚ → String) : WalletError → String
  | .currencyNotSupported currency => "Currency " ++ currency ++ " not supported"
  | .amountNotPositive => "Amount must be greater than 0"
  | .invalidOperation => "[<class 'decimal.InvalidOperation'>]"
  | .notFound walletId => "Wallet " ++ digitsText walletId ++ " not found"
  | .insufficientFunds wallet amount currency =>
      "Insufficient funds: balance " ++ decimal wallet.balance ++ " " ++ wallet.currency ++
        ", requested " ++ decimal amount ++ " " ++ currency
  | .insufficientForTransfer balance amount =>
      "Insufficient funds for transfer: balance " ++ decimal balance ++ ", requested " ++
        decimal amount
  | .database => ""

/-- `_validate_currency`. -/
def validateCurrency (currency : String) : Except WalletError String :=
  if upper currency ∈ supportedCurrencies then .ok (upper currency)
  else .error (.currencyNotSupported (upper currency))

/-- `_validate_amount`. -/
def validateAmount (amount : ℚ) : Except WalletError ℚ :=
  if amount ≤ 0 then .error .amountNotPositive
  else
    match quantizeHalfUp cents amount with
    | none => .error .invalidOperation
    | some amount => .ok amount

/-- `_get_wallet`. -/
def getWallet (wallets : Table Wallet) (fault : Bool) (walletId : ℕ) :
    Except WalletError Wallet :=
  if fault then .error .database
  else
    match wallets.get walletId with
    | none => .error (.notFound walletId)
    | some wallet => .ok wallet

/-- `wallet.balance -= amount; wallet.locked_balance += amount`, on an object whose session is
closed. -/
def Wallet.lock (wallet : Wallet) (amount : ℚ) : Wallet :=
  { wallet with
    balance := wallet.balance - amount
    lockedBalance := wallet.lockedBalance + amount }

/-- `deposit`. -/
def deposit (walletId : ℕ) (amount : ℚ) (currency reference : String) :
    Except WalletError WalletTransaction := do
  let currency ← validateCurrency currency
  let amount ← validateAmount amount
  return ⟨walletId, .deposit, amount, currency, reference, "completed"⟩

/-- `withdraw`: the transaction it returns, and what it makes of the wallet object, which
goes no further. -/
def withdraw (wallets : Table Wallet) (fault : Bool) (walletId : ℕ) (amount : ℚ)
    (currency reference : String) : Except WalletError (WalletTransaction × Wallet) := do
  let currency ← validateCurrency currency
  let amount ← validateAmount amount
  let wallet ← getWallet wallets fault walletId
  if wallet.balance < amount then .error (.insufficientFunds wallet amount currency)
  else
    .ok (⟨walletId, .withdrawal, -amount, currency, reference, "pending"⟩, wallet.lock amount)

/-- `transfer`. -/
def transfer (wallets : Table Wallet) (fault : Bool) (fromWalletId toWalletId : ℕ)
    (amount : ℚ) (currency : String) :
    Except WalletError (WalletTransaction × WalletTransaction) := do
  let currency ← validateCurrency currency
  let amount ← validateAmount amount
  let fromWallet ← getWallet wallets fault fromWalletId
  if fromWallet.balance < amount then
    .error (.insufficientForTransfer fromWallet.balance amount)
  else
    .ok
      (⟨fromWalletId, .transferOut, -amount, currency, "to:" ++ digitsText toWalletId,
          "completed"⟩,
        ⟨toWalletId, .transferIn, amount, currency, "from:" ++ digitsText fromWalletId,
          "completed"⟩)

/-! ## Calls in a row -/

/-- A call of the service. -/
inductive WalletCall
  | deposit (walletId : ℕ) (amount : ℚ) (currency reference : String)
  | withdraw (walletId : ℕ) (amount : ℚ) (currency reference : String)
  | transfer (fromWalletId toWalletId : ℕ) (amount : ℚ) (currency : String)

/-- A call, and whether the database fails meanwhile. -/
structure WalletRequest where
  call : WalletCall
  fault : Bool := false

/-- The stored wallets, and the transactions that calls have returned, which no code
keeps. -/
structure WalletStore where
  wallets : Table Wallet
  accepted : List WalletTransaction

/-- Nothing was called yet. -/
def WalletStore.start (wallets : Table Wallet) : WalletStore := ⟨wallets, []⟩

/-- What a request returns. -/
def WalletRequest.run (wallets : Table Wallet) (request : WalletRequest) :
    Except WalletError (List WalletTransaction) :=
  match request.call with
  | .deposit walletId amount currency reference => do
      let transaction ← deposit walletId amount currency reference
      return [transaction]
  | .withdraw walletId amount currency reference => do
      let result ← withdraw wallets request.fault walletId amount currency reference
      return [result.1]
  | .transfer fromWalletId toWalletId amount currency => do
      let result ← transfer wallets request.fault fromWalletId toWalletId amount currency
      return [result.1, result.2]

/-- The service: a call stores nothing. What it accepted is remembered beside the tables, and is
what soundness is about. -/
def walletService : Machine WalletStore WalletRequest :=
  Machine.total fun s request =>
    match request.run s.wallets with
    | .error _ => s
    | .ok transactions => { s with accepted := s.accepted ++ transactions }

/-! ## What a call accepts

The checks of the three calls, each as an equivalence, so that no proof has to go through the code
again. -/

/-- The currency and the amount of a request are accepted, the amount as `q`. -/
structure Requested (currency : String) (amount q : ℚ) : Prop where
  supported : upper currency ∈ supportedCurrencies
  rounded : validateAmount amount = .ok q

/-- A wallet covers the amount. -/
structure Covers (wallets : Table Wallet) (fault : Bool) (walletId : ℕ) (wallet : Wallet)
    (q : ℚ) : Prop where
  available : fault = false
  stored : wallets.get walletId = some wallet
  funds : q ≤ wallet.balance

/-- What a request returns when it is accepted. -/
inductive Accepts (wallets : Table Wallet) : WalletRequest → List WalletTransaction → Prop
  | deposit {walletId : ℕ} {amount q : ℚ} {currency reference : String} {fault : Bool}
      (hrequested : Requested currency amount q) :
      Accepts wallets ⟨.deposit walletId amount currency reference, fault⟩
        [⟨walletId, .deposit, q, upper currency, reference, "completed"⟩]
  | withdraw {walletId : ℕ} {amount q : ℚ} {currency reference : String} {fault : Bool}
      {wallet : Wallet} (hrequested : Requested currency amount q)
      (hcovers : Covers wallets fault walletId wallet q) :
      Accepts wallets ⟨.withdraw walletId amount currency reference, fault⟩
        [⟨walletId, .withdrawal, -q, upper currency, reference, "pending"⟩]
  | transfer {fromWalletId toWalletId : ℕ} {amount q : ℚ} {currency : String} {fault : Bool}
      {wallet : Wallet} (hrequested : Requested currency amount q)
      (hcovers : Covers wallets fault fromWalletId wallet q) :
      Accepts wallets ⟨.transfer fromWalletId toWalletId amount currency, fault⟩
        [⟨fromWalletId, .transferOut, -q, upper currency, "to:" ++ digitsText toWalletId,
            "completed"⟩,
          ⟨toWalletId, .transferIn, q, upper currency, "from:" ++ digitsText fromWalletId,
            "completed"⟩]

section Accepted

variable {wallets : Table Wallet} {request : WalletRequest}
  {transactions : List WalletTransaction}

/-- A request asks for one amount. -/
theorem Requested.unique {currency : String} {amount q q' : ℚ} (h : Requested currency amount q)
    (h' : Requested currency amount q') : q = q' := by
  have hsame := h.rounded.symm.trans h'.rounded
  exact Except.ok.inj hsame

/-- When a wallet is found. -/
theorem getWallet_eq_ok {fault : Bool} {walletId : ℕ} {wallet : Wallet} :
    getWallet wallets fault walletId = .ok wallet ↔
      fault = false ∧ wallets.get walletId = some wallet := by
  unfold getWallet
  cases fault with
  | true => simp
  | false =>
      cases wallets.get walletId with
      | none => simp
      | some stored => simp

/-- When a currency is accepted. -/
theorem validateCurrency_eq_ok {currency currency' : String} :
    validateCurrency currency = .ok currency' ↔
      upper currency ∈ supportedCurrencies ∧ currency' = upper currency := by
  unfold validateCurrency
  by_cases hsupported : upper currency ∈ supportedCurrencies
  · simp [hsupported, eq_comm]
  · simp [hsupported]

/-- The checks of a withdrawal and of a transfer pass. -/
theorem funded_eq_ok {α : Type} {fault : Bool} {walletId : ℕ} {amount : ℚ} {currency : String}
    {error : Wallet → ℚ → String → WalletError} {result : Wallet → ℚ → String → α} {r : α} :
    (do
      let currency ← validateCurrency currency
      let amount ← validateAmount amount
      let wallet ← getWallet wallets fault walletId
      if wallet.balance < amount then .error (error wallet amount currency)
      else .ok (result wallet amount currency)) = .ok r ↔
      ∃ q wallet, Requested currency amount q ∧ Covers wallets fault walletId wallet q ∧
        r = result wallet q (upper currency) := by
  constructor
  · intro h
    obtain ⟨c, hc, h⟩ := bind_eq_ok.mp h
    obtain ⟨q, hq, h⟩ := bind_eq_ok.mp h
    obtain ⟨wallet, hwallet, h⟩ := bind_eq_ok.mp h
    obtain ⟨hsupported, rfl⟩ := validateCurrency_eq_ok.mp hc
    obtain ⟨hfault, hget⟩ := getWallet_eq_ok.mp hwallet
    split at h
    · cases h
    · rename_i hfunds
      cases h
      exact ⟨q, wallet, ⟨hsupported, hq⟩, ⟨hfault, hget, not_lt.mp hfunds⟩, rfl⟩
  · rintro ⟨q, wallet, hrequested, hcovers, rfl⟩
    refine bind_eq_ok.mpr ⟨_, validateCurrency_eq_ok.mpr ⟨hrequested.supported, rfl⟩, ?_⟩
    refine bind_eq_ok.mpr ⟨q, hrequested.rounded, ?_⟩
    refine bind_eq_ok.mpr
      ⟨wallet, getWallet_eq_ok.mpr ⟨hcovers.available, hcovers.stored⟩, ?_⟩
    exact if_neg (not_lt.mpr hcovers.funds)

/-- When a deposit is accepted. -/
theorem deposit_eq_ok {walletId : ℕ} {amount : ℚ} {currency reference : String}
    {t : WalletTransaction} : deposit walletId amount currency reference = .ok t ↔
      ∃ q, Requested currency amount q ∧
        t = ⟨walletId, .deposit, q, upper currency, reference, "completed"⟩ := by
  constructor
  · intro h
    obtain ⟨c, hc, h⟩ := bind_eq_ok.mp h
    obtain ⟨q, hq, h⟩ := bind_eq_ok.mp h
    obtain ⟨hsupported, rfl⟩ := validateCurrency_eq_ok.mp hc
    cases h
    exact ⟨q, ⟨hsupported, hq⟩, rfl⟩
  · rintro ⟨q, hrequested, rfl⟩
    refine bind_eq_ok.mpr ⟨_, validateCurrency_eq_ok.mpr ⟨hrequested.supported, rfl⟩, ?_⟩
    exact bind_eq_ok.mpr ⟨q, hrequested.rounded, rfl⟩

/-- The transactions a request returns. -/
theorem run_eq_ok_iff : request.run wallets = .ok transactions ↔
    Accepts wallets request transactions := by
  constructor
  · intro h
    obtain ⟨call, fault⟩ := request
    cases call with
    | deposit walletId amount currency reference =>
        obtain ⟨t, ht, hlast⟩ := bind_eq_ok.mp h
        obtain ⟨q, hrequested, rfl⟩ := deposit_eq_ok.mp ht
        cases hlast
        exact .deposit hrequested
    | withdraw walletId amount currency reference =>
        obtain ⟨result, hresult, hlast⟩ := bind_eq_ok.mp h
        obtain ⟨q, wallet, hrequested, hcovers, rfl⟩ := funded_eq_ok.mp hresult
        cases hlast
        exact .withdraw hrequested hcovers
    | transfer fromWalletId toWalletId amount currency =>
        obtain ⟨result, hresult, hlast⟩ := bind_eq_ok.mp h
        obtain ⟨q, wallet, hrequested, hcovers, rfl⟩ := funded_eq_ok.mp hresult
        cases hlast
        exact .transfer hrequested hcovers
  · intro h
    cases h with
    | deposit hrequested =>
        exact bind_eq_ok.mpr ⟨_, deposit_eq_ok.mpr ⟨_, hrequested, rfl⟩, rfl⟩
    | withdraw hrequested hcovers =>
        exact bind_eq_ok.mpr ⟨_, funded_eq_ok.mpr ⟨_, _, hrequested, hcovers, rfl⟩, rfl⟩
    | transfer hrequested hcovers =>
        exact bind_eq_ok.mpr ⟨_, funded_eq_ok.mpr ⟨_, _, hrequested, hcovers, rfl⟩, rfl⟩

end Accepted

/-! ## The property and its condition

Balances are compared with the transactions that count as completed, and with the withdrawals,
which take money away while they are pending. -/

/-- The total of a weight over the accepted transactions. -/
def acceptedTotal (weight : WalletTransaction → ℚ) (accepted : List WalletTransaction) : ℚ :=
  (accepted.map weight).sum

/-- What a transaction takes out of a wallet, whatever its status. -/
def WalletTransaction.spent (walletId : ℕ) (t : WalletTransaction) : ℚ :=
  if t.walletId = walletId ∧ (t.type = .withdrawal ∨ t.type = .transferOut) then -t.amount else 0

/-- What a transaction brings into a wallet. -/
def WalletTransaction.received (walletId : ℕ) (t : WalletTransaction) : ℚ :=
  if t.walletId = walletId ∧ (t.type = .deposit ∨ t.type = .transferIn) then t.amount else 0

/-- The amount of a completed transaction of a wallet. -/
def WalletTransaction.settled (walletId : ℕ) (t : WalletTransaction) : ℚ :=
  if t.walletId = walletId ∧ t.status = "completed" then t.amount else 0

/-- What a withdrawal takes out of a wallet. -/
def WalletTransaction.withdrawn (walletId : ℕ) (t : WalletTransaction) : ℚ :=
  if t.walletId = walletId ∧ t.type = .withdrawal then -t.amount else 0

/-- **No wallet is overspent**, and every stored wallet reflects its completed
transactions. -/
structure WalletsSound (initial : Table Wallet) (s : WalletStore) : Prop where
  covered : ∀ w ∈ initial, acceptedTotal (WalletTransaction.spent w.id) s.accepted ≤
    w.balance + acceptedTotal (WalletTransaction.received w.id) s.accepted
  reflected : ∀ w ∈ initial, ∃ stored, s.wallets.get w.id = some stored ∧
    stored.balance + stored.lockedBalance =
      w.balance + w.lockedBalance + acceptedTotal (WalletTransaction.settled w.id) s.accepted

/-- The condition on a request: no deposit into a stored wallet and no transfer between two
wallets is accepted, unless its amount is rounded to nothing, and a withdrawal is only
accepted where the balance covers all of the wallet's withdrawals so far with it. -/
def sparesWallets (s : WalletStore) (request : WalletRequest) : Prop :=
  match request.call with
  | .deposit walletId amount currency _ =>
      ∀ q wallet, Requested currency amount q → s.wallets.get walletId = some wallet → q = 0
  | .withdraw walletId amount currency _ =>
      ∀ q wallet, Requested currency amount q →
        Covers s.wallets request.fault walletId wallet q →
          acceptedTotal (WalletTransaction.withdrawn walletId) s.accepted + q ≤ wallet.balance
  | .transfer fromWalletId toWalletId amount currency =>
      ∀ q wallet, Requested currency amount q →
        Covers s.wallets request.fault fromWalletId wallet q → fromWalletId ≠ toWalletId → q = 0

/-- A transaction is completed unless it is a withdrawal. -/
def WalletTransaction.Regular (t : WalletTransaction) : Prop :=
  t.status = "completed" ↔ t.type ≠ .withdrawal

/-- The stored wallets are the initial ones, and only withdrawals are pending. -/
structure WalletsKept (initial : Table Wallet) (s : WalletStore) : Prop where
  wallets : s.wallets = initial
  regular : ∀ t ∈ s.accepted, t.Regular

section Totals

variable {initial : Table Wallet} {s : WalletStore}

@[simp] theorem acceptedTotal_nil (weight : WalletTransaction → ℚ) :
    acceptedTotal weight [] = 0 := rfl

@[simp] theorem acceptedTotal_append (weight : WalletTransaction → ℚ)
    (accepted more : List WalletTransaction) :
    acceptedTotal weight (accepted ++ more) =
      acceptedTotal weight accepted + acceptedTotal weight more := by
  simp [acceptedTotal]

@[simp] theorem acceptedTotal_cons (weight : WalletTransaction → ℚ) (t : WalletTransaction)
    (accepted : List WalletTransaction) :
    acceptedTotal weight (t :: accepted) = weight t + acceptedTotal weight accepted := by
  simp [acceptedTotal]

/-- What a transaction moves is settled, or waits in a withdrawal. -/
theorem WalletTransaction.Regular.balance {t : WalletTransaction} (h : t.Regular)
    (walletId : ℕ) :
    t.settled walletId + t.spent walletId = t.received walletId + t.withdrawn walletId := by
  by_cases hwallet : t.walletId = walletId
  · cases htype : t.type with
    | withdrawal =>
        have hpending : t.status ≠ "completed" := fun hdone => h.mp hdone htype
        simp [settled, spent, received, withdrawn, htype, hpending]
    | deposit =>
        have hdone : t.status = "completed" := h.mpr (by simp [htype])
        simp [settled, spent, received, withdrawn, htype, hdone]
    | transferIn =>
        have hdone : t.status = "completed" := h.mpr (by simp [htype])
        simp [settled, spent, received, withdrawn, htype, hdone]
    | transferOut =>
        have hdone : t.status = "completed" := h.mpr (by simp [htype])
        simp [settled, spent, received, withdrawn, hwallet, htype, hdone]
  · simp [settled, spent, received, withdrawn, hwallet]

/-- What came in and what went out differ by the completed amounts, the withdrawals
apart. -/
theorem acceptedTotal_balance {accepted : List WalletTransaction}
    (h : ∀ t ∈ accepted, t.Regular) (walletId : ℕ) :
    acceptedTotal (WalletTransaction.settled walletId) accepted +
        acceptedTotal (WalletTransaction.spent walletId) accepted =
      acceptedTotal (WalletTransaction.received walletId) accepted +
        acceptedTotal (WalletTransaction.withdrawn walletId) accepted := by
  induction accepted with
  | nil => simp
  | cons t accepted ih =>
      have hhead := (h t List.mem_cons_self).balance walletId
      have htail := ih fun u hu => h u (List.mem_cons_of_mem _ hu)
      simp only [acceptedTotal_cons]
      linarith

/-- With the wallets as they were, soundness says that nothing is settled and that the
withdrawals are covered. -/
theorem WalletsKept.sound_iff (h : WalletsKept initial s) :
    WalletsSound initial s ↔ ∀ w ∈ initial,
      acceptedTotal (WalletTransaction.settled w.id) s.accepted = 0 ∧
        acceptedTotal (WalletTransaction.withdrawn w.id) s.accepted ≤ w.balance := by
  have hstored : ∀ w ∈ initial, s.wallets.get w.id = some w := by
    intro w hw
    rw [h.wallets]
    exact Table.get_ident hw
  constructor
  · intro hsound w hw
    have hbalance := acceptedTotal_balance h.regular w.id
    have hcovered := hsound.covered w hw
    -- the stored wallet is the initial one, so what was settled must be nothing
    obtain ⟨stored, hget, hreflected⟩ := hsound.reflected w hw
    obtain rfl := Option.some.inj ((hstored w hw).symm.trans hget)
    have hnothing : acceptedTotal (WalletTransaction.settled w.id) s.accepted = 0 := by
      linarith
    exact ⟨hnothing, by linarith⟩
  · intro hall
    constructor
    · intro w hw
      obtain ⟨hnothing, hwithdrawn⟩ := hall w hw
      have hbalance := acceptedTotal_balance h.regular w.id
      linarith
    · intro w hw
      obtain ⟨hnothing, -⟩ := hall w hw
      exact ⟨w, hstored w hw, by rw [hnothing, add_zero]⟩

end Totals

/-! ## Requests -/

/-- What a request does: it is refused, or its transactions are accepted; the wallets stay
as they are either way. -/
theorem walletService_cases {s s' : WalletStore} {request : WalletRequest}
    (h : walletService.step s request = some s') :
    ((∀ transactions, ¬ Accepts s.wallets request transactions) ∧ s' = s) ∨
      ∃ transactions, Accepts s.wallets request transactions ∧
        s' = { s with accepted := s.accepted ++ transactions } := by
  cases hrun : request.run s.wallets with
  | error error =>
      simp only [walletService, Machine.total, hrun, Option.some.injEq] at h
      refine Or.inl ⟨fun transactions haccepts => ?_, h.symm⟩
      rw [run_eq_ok_iff.mpr haccepts] at hrun
      cases hrun
  | ok transactions =>
      simp only [walletService, Machine.total, hrun, Option.some.injEq] at h
      exact Or.inr ⟨transactions, run_eq_ok_iff.mp hrun, h.symm⟩

section Requests

variable {initial : Table Wallet} {s s' : WalletStore} {request : WalletRequest}
  {transactions : List WalletTransaction}

/-- What is accepted is regular. -/
theorem Accepts.regular {wallets : Table Wallet} (h : Accepts wallets request transactions) :
    ∀ t ∈ transactions, t.Regular := by
  cases h with
  | deposit _ =>
      intro t ht
      obtain rfl := List.mem_singleton.mp ht
      simp [WalletTransaction.Regular]
  | withdraw _ _ =>
      intro t ht
      obtain rfl := List.mem_singleton.mp ht
      simp [WalletTransaction.Regular]
  | transfer _ _ =>
      intro t ht
      rcases List.mem_cons.mp ht with rfl | ht
      · simp [WalletTransaction.Regular]
      · obtain rfl := List.mem_singleton.mp ht
        simp [WalletTransaction.Regular]

/-- Every request leaves the stored wallets as they are. -/
theorem WalletsKept.step (h : WalletsKept initial s)
    (hstep : walletService.step s request = some s') : WalletsKept initial s' := by
  rcases walletService_cases hstep with ⟨-, rfl⟩ | ⟨transactions, haccepts, rfl⟩
  · exact h
  · refine ⟨h.wallets, fun t ht => ?_⟩
    rcases List.mem_append.mp ht with hold | hnew
    · exact h.regular t hold
    · exact haccepts.regular t hnew

/-- A request that accepts nothing spares the wallets. -/
theorem sparesWallets_of_refused
    (h : ∀ transactions, ¬ Accepts s.wallets request transactions) : sparesWallets s request := by
  obtain ⟨call, fault⟩ := request
  cases call with
  | deposit walletId amount currency reference =>
      intro q wallet hrequested _
      exact absurd (.deposit hrequested) (h _)
  | withdraw walletId amount currency reference =>
      intro q wallet hrequested hcovers
      exact absurd (.withdraw hrequested hcovers) (h _)
  | transfer fromWalletId toWalletId amount currency =>
      intro q wallet hrequested hcovers _
      exact absurd (.transfer hrequested hcovers) (h _)

/-- The wallets an accepted request leaves are sound exactly if it spares them. -/
theorem Accepts.spares_iff (h : Accepts s.wallets request transactions)
    (hkept : s.wallets = initial)
    (hsound : ∀ w ∈ initial, acceptedTotal (WalletTransaction.settled w.id) s.accepted = 0 ∧
      acceptedTotal (WalletTransaction.withdrawn w.id) s.accepted ≤ w.balance) :
    sparesWallets s request ↔ ∀ w ∈ initial,
      acceptedTotal (WalletTransaction.settled w.id) (s.accepted ++ transactions) = 0 ∧
        acceptedTotal (WalletTransaction.withdrawn w.id) (s.accepted ++ transactions) ≤
          w.balance := by
  have hstored : ∀ w ∈ initial, s.wallets.get w.id = some w := by
    intro w hw
    rw [hkept]
    exact Table.get_ident hw
  have hfound : ∀ id w, s.wallets.get id = some w → w ∈ initial ∧ w.id = id := by
    intro id w hget
    rw [hkept] at hget
    exact Table.get_eq_some_iff.mp hget
  cases h with
  | @deposit walletId amount q currency reference fault hrequested =>
      constructor
      · intro hspares w hw
        obtain ⟨hnothing, hwithdrawn⟩ := hsound w hw
        have hzero : walletId = w.id → q = 0 := by
          rintro rfl
          exact hspares q w hrequested (hstored w hw)
        simpa [WalletTransaction.settled, WalletTransaction.withdrawn, hnothing] using
          And.intro hzero hwithdrawn
      · intro hafter q' wallet hrequested' hget
        obtain ⟨hw, rfl⟩ := hfound walletId wallet hget
        obtain ⟨hnothing, -⟩ := hsound wallet hw
        obtain ⟨hsettled, -⟩ := hafter wallet hw
        rw [hrequested'.unique hrequested]
        simpa [WalletTransaction.settled, hnothing] using hsettled
  | @withdraw walletId amount q currency reference fault wallet hrequested hcovers =>
      obtain ⟨hwallet, rfl⟩ := hfound walletId wallet hcovers.stored
      constructor
      · intro hspares w hw
        obtain ⟨hnothing, hwithdrawn⟩ := hsound w hw
        have hbound := hspares q wallet hrequested hcovers
        refine ⟨by simpa [WalletTransaction.settled] using hnothing, ?_⟩
        by_cases hsame : wallet.id = w.id
        · obtain rfl : wallet = w := Table.eq_of_ident hwallet hw hsame
          simpa [WalletTransaction.withdrawn] using hbound
        · simpa [WalletTransaction.withdrawn, hsame] using hwithdrawn
      · intro hafter q' wallet' hrequested' hcovers'
        obtain rfl := Option.some.inj (hcovers.stored.symm.trans hcovers'.stored)
        obtain ⟨-, hbound⟩ := hafter wallet hwallet
        rw [hrequested'.unique hrequested]
        simpa [WalletTransaction.withdrawn] using hbound
  | @transfer fromWalletId toWalletId amount q currency fault wallet hrequested hcovers =>
      obtain ⟨hwallet, rfl⟩ := hfound fromWalletId wallet hcovers.stored
      constructor
      · intro hspares w hw
        obtain ⟨hnothing, hwithdrawn⟩ := hsound w hw
        refine ⟨?_, by simpa [WalletTransaction.withdrawn] using hwithdrawn⟩
        by_cases hself : wallet.id = toWalletId
        · subst hself
          -- what leaves the wallet comes back to it
          by_cases hsame : wallet.id = w.id
          · simp [WalletTransaction.settled, hnothing, hsame]
          · simp [WalletTransaction.settled, hnothing, hsame]
        · have hzero := hspares q wallet hrequested hcovers hself
          simp [WalletTransaction.settled, hnothing, hzero]
      · intro hafter q' wallet' hrequested' hcovers' hne
        obtain ⟨hnothing, -⟩ := hsound wallet hwallet
        obtain ⟨hsettled, -⟩ := hafter wallet hwallet
        rw [hrequested'.unique hrequested]
        simpa [WalletTransaction.settled, hnothing, Ne.symm hne] using hsettled

/-- A request leaves the wallets sound exactly if it spares them. -/
theorem walletService_exact (hkept : WalletsKept initial s) (hsound : WalletsSound initial s)
    (hstep : walletService.step s request = some s') :
    sparesWallets s request ↔ WalletsSound initial s' := by
  have hkept' := hkept.step hstep
  rcases walletService_cases hstep with ⟨hrefused, rfl⟩ | ⟨transactions, haccepts, rfl⟩
  · exact iff_of_true (sparesWallets_of_refused hrefused) hsound
  · rw [hkept'.sound_iff]
    exact haccepts.spares_iff hkept.wallets (hkept.sound_iff.mp hsound)

end Requests

/-! ## Sequences of requests -/

/-- The wallets are sound throughout a sequence of requests exactly if no balance is negative
at the start and every request spares them. -/
theorem wallets_sound_iff {wallets : Table Wallet} {requests : List WalletRequest}
    {s : WalletStore}
    (run : Run walletService Unguarded (WalletStore.start wallets) requests s) :
    ((∀ w ∈ wallets, 0 ≤ w.balance) ∧
        Run walletService sparesWallets (WalletStore.start wallets) requests s) ↔
      ∀ front back mid, requests = front ++ back →
        Run walletService Unguarded (WalletStore.start wallets) front mid →
          WalletsSound wallets mid := by
  have hkept : WalletsKept wallets (WalletStore.start wallets) :=
    ⟨rfl, fun t ht => absurd ht (List.not_mem_nil (a := t))⟩
  have hstart : WalletsSound wallets (WalletStore.start wallets) ↔
      ∀ w ∈ wallets, 0 ≤ w.balance := by
    rw [hkept.sound_iff]
    simp [WalletStore.start]
  -- the wallets never change, which is what makes the condition on a request exact
  have hkeep : ∀ s request s', walletService.step s request = some s' → Unguarded s request →
      WalletsKept wallets s → WalletsKept wallets s' :=
    fun _ _ _ hstep _ h => h.step hstep
  have hexact : ∀ s request s', walletService.step s request = some s' → Unguarded s request →
      WalletsKept wallets s → WalletsSound wallets s →
        (sparesWallets s request ↔ WalletsSound wallets s') :=
    fun _ _ _ hstep _ hkept hsound => walletService_exact hkept hsound hstep
  constructor
  · rintro ⟨hbalances, guarded⟩
    exact (run.guarded_iff_within hkeep hexact hkept (hstart.mpr hbalances)).mp guarded
  · intro hall
    have hinitial : WalletsSound wallets (WalletStore.start wallets) :=
      hall [] requests _ rfl (Run.nil _)
    exact ⟨hstart.mp hinitial, (run.guarded_iff_within hkeep hexact hkept hinitial).mpr hall⟩

/-- A wallet that holds a hundred. -/
def oneWallet : Table Wallet where
  rows := [⟨0, 0, "XAF", 100, 0⟩]
  next := 1
  fresh := by
    intro r hr
    obtain rfl := List.mem_singleton.mp hr
    exact Nat.zero_lt_one
  distinct := List.pairwise_singleton _ _
  unique := List.pairwise_singleton _ _

/-- A test of the condition, for withdrawals. -/
def withdrawsTest (s : WalletStore) (request : WalletRequest) : Bool :=
  match request.call with
  | .withdraw walletId amount _ _ =>
      match validateAmount amount, s.wallets.get walletId with
      | .ok q, some wallet =>
          decide (acceptedTotal (WalletTransaction.withdrawn walletId) s.accepted + q ≤
            wallet.balance)
      | _, _ => false
  | _ => false

/-- The test is of the condition. -/
theorem sparesWallets_of_test {s : WalletStore} {request : WalletRequest}
    (h : withdrawsTest s request = true) : sparesWallets s request := by
  obtain ⟨call, fault⟩ := request
  cases call with
  | deposit _ _ _ _ => cases h
  | transfer _ _ _ _ => cases h
  | withdraw walletId amount currency reference =>
      intro q wallet hrequested hcovers
      simp only [withdrawsTest, hrequested.rounded, hcovers.stored] at h
      exact of_decide_eq_true h

/-- Two withdrawals that the balance covers together. -/
theorem wallets_sound_twice : ∃ s,
    Run walletService sparesWallets (WalletStore.start oneWallet)
        [⟨.withdraw 0 60 "XAF" "w1", false⟩, ⟨.withdraw 0 40 "XAF" "w2", false⟩] s ∧
      s.accepted.map WalletTransaction.amount = [-60, -40] ∧ WalletsSound oneWallet s := by
  have hcheck : (walletService.check withdrawsTest (WalletStore.start oneWallet)
      [⟨.withdraw 0 60 "XAF" "w1", false⟩, ⟨.withdraw 0 40 "XAF" "w2", false⟩]).map
        (fun s => s.accepted.map WalletTransaction.amount) = some [-60, -40] := by
    decide +kernel
  obtain ⟨s, hs, hamounts⟩ := Option.map_eq_some_iff.mp hcheck
  have guarded := (Run.of_check hs).mono fun _ _ => sparesWallets_of_test
  have hbalance : ∀ w ∈ oneWallet, 0 ≤ w.balance := by
    intro w hw
    obtain rfl := List.mem_singleton.mp hw
    decide
  exact ⟨s, guarded, hamounts, (wallets_sound_iff guarded.unguarded).mp ⟨hbalance, guarded⟩
    _ [] s (List.append_nil _).symm guarded.unguarded⟩

/-- A deposit of fifty into the wallet, and two withdrawals of eighty: all are accepted, and
the balance is what it was. -/
theorem wallet_overspent : ∃ s,
    Run walletService Unguarded (WalletStore.start oneWallet)
        [⟨.deposit 0 50 "XAF" "d1", false⟩, ⟨.withdraw 0 80 "XAF" "w1", false⟩,
          ⟨.withdraw 0 80 "XAF" "w2", false⟩] s ∧
      s.wallets.rows = oneWallet.rows ∧
      acceptedTotal (WalletTransaction.spent 0) s.accepted = 160 ∧
      acceptedTotal (WalletTransaction.received 0) s.accepted = 50 ∧
      acceptedTotal (WalletTransaction.settled 0) s.accepted = 50 ∧
      ¬ WalletsSound oneWallet s := by
  have hcheck : (walletService.check (fun _ _ => true) (WalletStore.start oneWallet)
      [⟨.deposit 0 50 "XAF" "d1", false⟩, ⟨.withdraw 0 80 "XAF" "w1", false⟩,
        ⟨.withdraw 0 80 "XAF" "w2", false⟩]).map (fun s =>
          (s.wallets.rows, acceptedTotal (WalletTransaction.spent 0) s.accepted,
            acceptedTotal (WalletTransaction.received 0) s.accepted,
            acceptedTotal (WalletTransaction.settled 0) s.accepted)) =
        some (oneWallet.rows, 160, 50, 50) := by
    decide +kernel
  obtain ⟨s, hs, hseen⟩ := Option.map_eq_some_iff.mp hcheck
  obtain ⟨hwallets, hrest⟩ := Prod.mk.inj hseen
  obtain ⟨hspent, hrest⟩ := Prod.mk.inj hrest
  obtain ⟨hreceived, hsettled⟩ := Prod.mk.inj hrest
  refine ⟨s, (Run.of_check hs).unguarded, hwallets, hspent, hreceived, hsettled, fun hsound => ?_⟩
  have hcovered := hsound.covered ⟨0, 0, "XAF", 100, 0⟩ List.mem_cons_self
  rw [hspent, hreceived] at hcovered
  exact absurd hcovered (by norm_num)

end AfricaFrontier
