import AfricaFrontier.Payments.Creation
import AfricaFrontier.Python.Calendar

/-!
# The KYC1 monthly limit (`enforce_kyc1_monthly_limit`)

In production a transfer in CFA francs is refused when it would take the user's total
of the month above the limit.  The total is a sum over stored rows: those of the user
in the AFM namespace, in one of the two CFA currencies, created since the month began,
whose status is neither FAILED nor REFUNDED.

The month begins at midnight of its first day in UTC. What a row adds is its amount, whatever was
refunded of it and whether or not it was carried to the provider; what should count is a matter of
the module on the monthly cap.
-/

namespace AfricaFrontier

open Python Relational

/-- The environments `config.py` admits. -/
inductive Environment
  | development
  | staging
  | production
  deriving DecidableEq, Repr

/-- The settings the transfer routes read. -/
structure TransferSettings where
  environment : Environment
  kyc1MonthlyLimitXaf : ℕ

/-- `is_production`. -/
def TransferSettings.isProduction (settings : TransferSettings) : Bool :=
  settings.environment = .production

/-- `is_development`. -/
def TransferSettings.isDevelopment (settings : TransferSettings) : Bool :=
  settings.environment = .development

/-- An `HTTPException`. -/
structure HttpException where
  status : ℕ
  detail : String
  deriving DecidableEq

/-- The two currencies the limit is about. -/
def cfaCurrencies : List String := ["XAF", "XOF"]

/-- The statuses that drop a row from the total. -/
def excludedStatuses : List PaymentStatus := [.failed, .refunded]

/-- A row of the user that the total of the month at `now` counts. -/
def countsTowardsKyc1 (userId : ℕ) (now : Instant) (t : Transaction) : Bool :=
  t.userId = userId && t.ledgerNamespace = afmPayments && decide (t.currency ∈ cfaCurrencies) &&
    decide (monthStart now ≤ t.createdAt) && decide (t.status ∉ excludedStatuses)

/-- What a row adds to the total. -/
def kyc1Weight (userId : ℕ) (now : Instant) (t : Transaction) : ℚ :=
  if countsTowardsKyc1 userId now t then t.amount else 0

/-- The total of the month, as the query returns it: every row of the user that counts, a preview
like an executed transfer. -/
def kyc1Total (userId : ℕ) (now : Instant) (db : Db) : ℚ :=
  db.transactions.sum (kyc1Weight userId now)

/-- `enforce_kyc1_monthly_limit`. -/
def enforceKyc1MonthlyLimit (settings : TransferSettings) (userId : ℕ) (amount : ℚ)
    (currency : String) (now : Instant) (db : Db) : Except HttpException Unit :=
  if settings.isProduction = false then .ok ()
  else if upper currency ∉ cfaCurrencies then
    .error ⟨403, "This corridor requires enhanced verification"⟩
  else if (settings.kyc1MonthlyLimitXaf : ℚ) < kyc1Total userId now db + amount then
    .error ⟨403, "Monthly KYC1 limit exceeded; enhanced verification is required"⟩
  else .ok ()

/-- In production the check admits exactly a CFA amount that fits below the limit. -/
theorem enforceKyc1MonthlyLimit_ok_iff {settings : TransferSettings}
    (hproduction : settings.isProduction = true) {userId : ℕ} {amount : ℚ} {currency : String}
    {now : Instant} {db : Db} :
    enforceKyc1MonthlyLimit settings userId amount currency now db = .ok () ↔
      upper currency ∈ cfaCurrencies ∧
        kyc1Total userId now db + amount ≤ settings.kyc1MonthlyLimitXaf := by
  unfold enforceKyc1MonthlyLimit
  rw [if_neg (by simp [hproduction])]
  by_cases hcurrency : upper currency ∈ cfaCurrencies
  · rw [if_neg (not_not_intro hcurrency)]
    by_cases hlimit : (settings.kyc1MonthlyLimitXaf : ℚ) < kyc1Total userId now db + amount
    · rw [if_pos hlimit]
      simpa [hcurrency] using hlimit
    · rw [if_neg hlimit]
      simpa [hcurrency] using hlimit
  · rw [if_pos hcurrency]
    simp [hcurrency]

/-- Outside production there is no limit. -/
theorem enforceKyc1MonthlyLimit_of_not_production {settings : TransferSettings}
    (h : settings.isProduction = false) (userId : ℕ) (amount : ℚ) (currency : String)
    (now : Instant) (db : Db) :
    enforceKyc1MonthlyLimit settings userId amount currency now db = .ok () := by
  unfold enforceKyc1MonthlyLimit
  rw [if_pos h]

end AfricaFrontier
