import AfricaFrontier.EasyMarkets.Wallets
import AfricaFrontier.Python.Context

/-!
# What a wallet transaction says

A transaction object should be a movement of its wallet: an amount that is not nothing, with the
sign of its type, in the currency of the wallet.  The two legs of a transfer cancel out in any
case, since both are made from one amount.

The service checks that the amount is positive and rounds it to cents afterwards; and it checks
the currency against the list of supported ones and never against the wallet.  So what it takes
for granted is the condition: `wallet_transactions_iff`.

All three calls return objects of one kind: the rounded amount with the sign of the type, the
currency of the request, and the wallets that were named. `Legs` is that, once for the three, and
both halves of the property are read off it: the amount is something where half a cent was asked
for (`validateAmount_pos_iff`), and the currencies agree where the request named that of the
wallet (`Legs.currency_iff`).
-/

namespace AfricaFrontier

open Python Relational

/-! ## The property -/

/-- The amount is not nothing, and has the sign of the type. -/
def WalletTransaction.Signed (t : WalletTransaction) : Prop :=
  match t.type with
  | .deposit => 0 < t.amount
  | .transferIn => 0 < t.amount
  | .withdrawal => t.amount < 0
  | .transferOut => t.amount < 0

/-- The amount is in the currency of the wallet. -/
def WalletTransaction.InWalletCurrency (wallets : Table Wallet) (t : WalletTransaction) : Prop :=
  ∀ wallet, wallets.get t.walletId = some wallet → t.currency = wallet.currency

/-- The call is a transfer. -/
def WalletCall.isTransfer : WalletCall → Bool
  | .transfer _ _ _ _ => true
  | _ => false

/-- **The transactions of a call are well formed**: each has the sign of its type and the currency
of its wallet, and the two of a transfer cancel out. -/
structure WellFormed (wallets : Table Wallet) (call : WalletCall)
    (transactions : List WalletTransaction) : Prop where
  signed : ∀ t ∈ transactions, t.Signed
  currency : ∀ t ∈ transactions, t.InWalletCurrency wallets
  legs : call.isTransfer = true → (transactions.map WalletTransaction.amount).sum = 0

/-! ## The condition -/

/-- The wallets a call names. -/
def WalletCall.walletIds : WalletCall → List ℕ
  | .deposit walletId _ _ _ => [walletId]
  | .withdraw walletId _ _ _ => [walletId]
  | .transfer fromWalletId toWalletId _ _ => [fromWalletId, toWalletId]

/-- The amount a call names. -/
def WalletCall.amount : WalletCall → ℚ
  | .deposit _ amount _ _ => amount
  | .withdraw _ amount _ _ => amount
  | .transfer _ _ amount _ => amount

/-- The currency a call names. -/
def WalletCall.currency : WalletCall → String
  | .deposit _ _ currency _ => currency
  | .withdraw _ _ currency _ => currency
  | .transfer _ _ _ currency => currency

/-- The amount is half a cent at least, and the currency is that of every wallet named. It is a
condition on the request and the stored wallets, and looks at nothing the call returns. -/
structure WalletCall.Proper (wallets : Table Wallet) (call : WalletCall) : Prop where
  amount : 1 / 200 ≤ call.amount
  currency : ∀ walletId ∈ call.walletIds, ∀ wallet, wallets.get walletId = some wallet →
    upper call.currency = wallet.currency

/-! ## What is returned -/

/-- An accepted amount is something exactly if it is half a cent at least. -/
theorem validateAmount_pos_iff {amount q : ℚ} (h : validateAmount amount = .ok q) :
    0 < q ↔ 1 / 200 ≤ amount := by
  unfold validateAmount at h
  split at h
  · cases h
  · rename_i hpositive
    have hpositive : 0 < amount := not_le.mp hpositive
    split at h
    · cases h
    · rename_i rounded hrounded
      obtain rfl := Except.ok.inj h
      rw [quantizeHalfUp_eq_with] at hrounded
      obtain ⟨-, rfl⟩ := quantizeWith_eq_some.mp hrounded
      have hpos : (0 : ℚ) < 10 ^ cents := pow_places_pos cents
      have hscaled : 0 ≤ amount * 10 ^ cents := mul_nonneg hpositive.le hpos.le
      rw [div_pos_iff_of_pos_right hpos, roundHalfUp, if_pos hscaled, Int.cast_pos]
      -- the floor is positive from one on
      have hone : 0 < ⌊amount * 10 ^ cents + 1 / 2⌋ ↔
          ((1 : ℤ) : ℚ) ≤ amount * 10 ^ cents + 1 / 2 := by
        rw [← Int.le_floor]
        exact Int.lt_iff_add_one_le
      rw [hone]
      norm_num [cents]
      constructor
      · intro hle
        linarith
      · intro hle
        linarith

section Returned

variable {wallets : Table Wallet} {request : WalletRequest}
  {transactions : List WalletTransaction}

/-- The transactions of an accepted call: the rounded amount, with the sign of the type, in the
currency of the request, one for each wallet it names. -/
structure Legs (call : WalletCall) (q : ℚ) (transactions : List WalletTransaction) : Prop where
  rounded : validateAmount call.amount = .ok q
  ids : transactions.map WalletTransaction.walletId = call.walletIds
  currency : ∀ t ∈ transactions, t.currency = upper call.currency
  signed : ∀ t ∈ transactions, t.Signed ↔ 0 < q
  sum : call.isTransfer = true → (transactions.map WalletTransaction.amount).sum = 0

/-- What an accepted call returns are legs of it. -/
theorem Accepts.legs (h : Accepts wallets request transactions) :
    ∃ q, Legs request.call q transactions := by
  cases h with
  | @deposit walletId amount q currency reference fault hrequested =>
      refine ⟨q, hrequested.rounded, rfl, ?_, ?_, fun htransfer => by cases htransfer⟩
      · intro t ht
        obtain rfl := List.mem_singleton.mp ht
        rfl
      · intro t ht
        obtain rfl := List.mem_singleton.mp ht
        rfl
  | @withdraw walletId amount q currency reference fault wallet hrequested hcovers =>
      refine ⟨q, hrequested.rounded, rfl, ?_, ?_, fun htransfer => by cases htransfer⟩
      · intro t ht
        obtain rfl := List.mem_singleton.mp ht
        rfl
      · intro t ht
        obtain rfl := List.mem_singleton.mp ht
        exact neg_lt_zero
  | @transfer fromWalletId toWalletId amount q currency fault wallet hrequested hcovers =>
      refine ⟨q, hrequested.rounded, rfl, ?_, ?_, fun _ => ?_⟩
      · intro t ht
        obtain rfl | ht := List.mem_cons.mp ht
        · rfl
        · obtain rfl := List.mem_singleton.mp ht
          rfl
      · intro t ht
        obtain rfl | ht := List.mem_cons.mp ht
        · exact neg_lt_zero
        · obtain rfl := List.mem_singleton.mp ht
          rfl
      · simp

/-- A call returns a transaction at least. -/
theorem Legs.exists_mem {call : WalletCall} {q : ℚ} (h : Legs call q transactions) :
    ∃ t, t ∈ transactions := by
  have hids := h.ids
  cases transactions with
  | nil => cases call <;> cases hids
  | cons t rest => exact ⟨t, List.mem_cons_self⟩

/-- The currencies agree exactly if the currency of the request is that of every wallet. -/
theorem Legs.currency_iff {call : WalletCall} {q : ℚ} (h : Legs call q transactions) :
    (∀ t ∈ transactions, t.InWalletCurrency wallets) ↔
      ∀ walletId ∈ call.walletIds, ∀ wallet, wallets.get walletId = some wallet →
        upper call.currency = wallet.currency := by
  rw [← h.ids]
  constructor
  · intro hall walletId hmem wallet hget
    obtain ⟨t, ht, rfl⟩ := List.mem_map.mp hmem
    rw [← h.currency t ht]
    exact hall t ht wallet hget
  · intro hall t ht wallet hget
    rw [h.currency t ht]
    exact hall t.walletId (List.mem_map_of_mem ht) wallet hget

end Returned

/-- **When the transactions are well formed.** -/
theorem wallet_transactions_iff {wallets : Table Wallet} {request : WalletRequest}
    {transactions : List WalletTransaction} (h : request.run wallets = .ok transactions) :
    WellFormed wallets request.call transactions ↔ request.call.Proper wallets := by
  obtain ⟨q, hlegs⟩ := (run_eq_ok_iff.mp h).legs
  have hpos := validateAmount_pos_iff hlegs.rounded
  constructor
  · rintro ⟨hsigned, hcurrency, -⟩
    obtain ⟨t, ht⟩ := hlegs.exists_mem
    refine ⟨hpos.mp ((hlegs.signed t ht).mp (hsigned t ht)), hlegs.currency_iff.mp hcurrency⟩
  · rintro ⟨hamount, hcurrency⟩
    refine ⟨fun t ht => (hlegs.signed t ht).mpr (hpos.mpr hamount), ?_, hlegs.sum⟩
    exact hlegs.currency_iff.mpr hcurrency

/-- The statement on a withdrawal of sixty. -/
theorem wallet_transactions_iff_sixty :
    WellFormed oneWallet (.withdraw 0 60 "XAF" "w1")
        [⟨0, .withdrawal, -60, "XAF", "w1", "pending"⟩] ↔
      (WalletCall.withdraw 0 60 "XAF" "w1").Proper oneWallet :=
  @wallet_transactions_iff oneWallet ⟨.withdraw 0 60 "XAF" "w1", false⟩ _ (by decide +kernel)

/-- A tenth of a cent is deposited as nothing, and an amount in dollars goes into a wallet in
francs. -/
theorem not_well_formed :
    (⟨.deposit 0 (1 / 1000) "XAF" "d1", false⟩ : WalletRequest).run oneWallet =
        .ok [⟨0, .deposit, 0, "XAF", "d1", "completed"⟩] ∧
      ¬ WellFormed oneWallet (.deposit 0 (1 / 1000) "XAF" "d1")
        [⟨0, .deposit, 0, "XAF", "d1", "completed"⟩] ∧
      (⟨.deposit 0 50 "USD" "d2", false⟩ : WalletRequest).run oneWallet =
        .ok [⟨0, .deposit, 50, "USD", "d2", "completed"⟩] ∧
      ¬ WellFormed oneWallet (.deposit 0 50 "USD" "d2")
        [⟨0, .deposit, 50, "USD", "d2", "completed"⟩] := by
  refine ⟨by decide +kernel, fun h => ?_, by decide +kernel, fun h => ?_⟩
  · exact absurd (h.signed _ List.mem_cons_self) (lt_irrefl (0 : ℚ))
  · have hcurrency := h.currency _ List.mem_cons_self ⟨0, 0, "XAF", 100, 0⟩ rfl
    exact absurd hcurrency (by decide)

end AfricaFrontier
