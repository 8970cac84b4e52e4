import AfricaFrontier.Kora.CashNeutral
import AfricaFrontier.Payments.Simulation

/-!
# Sandbox intents

`simulate_payment` stores an intent with its amount, its fees and what is left of it, and a
breakdown of the fees.  It should balance: the fees and what is left should be the amount, and
the lines of the breakdown should be its total.

Fees, net amount and lines are rounded to cents, each by itself, but the amount is stored as it
came, in the eight places of its column; and the total is rounded from the sum of the fees, not
summed up from the lines.  So an amount that is no whole number of cents does not balance, and
the lines miss the total wherever rounding them one by one loses or gains half a cent:
`intent_balances_iff`.

The whole route is modelled, with its refusals, the columns' limits and the journal entry; what is
compared are the figures of the row as its columns store it, not as the route built it. A stored
intent comes with the amounts and the lines behind it (`simulatePayment_created`), and everything
after that is about rounding.
-/

namespace AfricaFrontier

open Python Relational Transition

/-! ## The row

The columns of an intent, and what they do to a number. -/

/-- What a `Numeric(19, 8)` column stores: eight places, ties away from zero; `none` is the
overflow of the field. -/
def numericColumn (x : ℚ) : Option ℚ :=
  let n := roundHalfUp (x * 10 ^ 8)
  if n.natAbs < 10 ^ 19 then some (n / 10 ^ 8) else none

/-- The lines of `fee_breakdown`; they are stored as texts, `SandboxFeeBreakdown.texts`. -/
structure SandboxFeeBreakdown where
  kaybic : ℚ
  azaPayin : ℚ
  azaPayout : ℚ
  afm : ℚ
  total : ℚ

/-- `str` of an amount with two places, which may be a negative zero. -/
def centsText (negative : Bool) (x : ℚ) : String :=
  (if negative then "-" else "") ++ (Numeral.mk (x * 10 ^ cents).num.natAbs (-2)).text

example : centsText false (9999999 / 100) = "99999.99" ∧ centsText true 0 = "-0.00" := by
  decide +kernel

/-- The lines as `fee_breakdown` stores them. -/
def SandboxFeeBreakdown.texts (lines : SandboxFeeBreakdown) : Obj :=
  [("kaybic", .str (centsText false lines.kaybic)),
    ("aza_payin", .str (centsText false lines.azaPayin)),
    ("aza_payout", .str (centsText false lines.azaPayout)),
    ("afm", .str (centsText false lines.afm)), ("total", .str (centsText false lines.total))]

/-- A sandbox intent: its transaction and the columns of it that no other route writes. -/
structure SandboxIntent where
  transaction : Transaction
  feeAmount : ℚ
  feeCurrency : String
  netAmount : ℚ
  corridor : String
  beneficiaryCurrency : String
  totalFeeAmount : ℚ
  feeBreakdown : SandboxFeeBreakdown

/-- The lines of a request with its total. -/
def feeBreakdown (payment : PaymentSimulationRequest) (totalFees : ℚ) :
    Option SandboxFeeBreakdown := do
  let kaybic ← quantize cents payment.kaybicFee
  let azaPayin ← quantize cents payment.azaPayinFee
  let azaPayout ← quantize cents payment.payoutFee
  let afm ← quantize cents payment.afmFee
  return ⟨kaybic, azaPayin, azaPayout, afm, totalFees⟩

/-- The metadata of an intent, at the commit: the key of the journal entry is not known before. -/
def intentMetadata (payment : PaymentSimulationRequest) (amounts : SimulatedAmounts)
    (lines : SandboxFeeBreakdown) : Obj :=
  [("execution_mode", .str "sandbox_simulation"),
    ("funds_perimeter", .str "afm_virtual_ledger_only"), ("balance_affecting", .bool false),
    ("source_currency", .str (upper payment.sourceCurrency)),
    ("beneficiary_currency", .str (upper payment.beneficiaryCurrency)),
    ("fx_rate", .str payment.fxRate.text),
    ("net_destination_amount",
      .str (centsText (payment.left amounts.totalFees < 0) amounts.netDestination)),
    ("fee_breakdown", .obj lines.texts), ("ledger_entry_count", .int 1),
    ("ledger_reference_id", Json.str "None")].foldl
    (fun metadata entry => metadata.set entry.1 entry.2) payment.metadata

/-- The intent as the route builds it. -/
def sandboxIntent (payment : PaymentSimulationRequest) (userId account id : ℕ) (hex : String)
    (now : Instant) (amounts : SimulatedAmounts) (lines : SandboxFeeBreakdown) : SandboxIntent where
  transaction :=
    { id := id
      idempotencyKey := "sandbox-" ++ hex
      userId := userId
      psp := .aza
      pspTransactionId := none
      pspPaymentReference := none
      pspResponse := []
      amount := payment.amount
      currency := upper payment.sourceCurrency
      status := .pending
      txnMetadata := intentMetadata payment amounts lines
      ledgerNamespace := afmPayments
      virtualAccountId := some account
      mobileMoneyPhone := none
      mobileMoneyOwnerVerifiedAt := none
      errorMessage := none
      webhookReceivedAt := none
      settledAt := none
      createdAt := now }
  feeAmount := amounts.totalFees
  feeCurrency := upper payment.sourceCurrency
  netAmount := amounts.netSource
  corridor := payment.corridor
  beneficiaryCurrency := upper payment.beneficiaryCurrency
  totalFeeAmount := amounts.totalFees
  feeBreakdown := lines

/-- The intent as its columns store it: each number rounded to the scale of its column, or refused
by its width. -/
def SandboxIntent.stored (intent : SandboxIntent) : Option SandboxIntent := do
  let amount ← numericColumn intent.transaction.amount
  let feeAmount ← numericColumn intent.feeAmount
  let netAmount ← numericColumn intent.netAmount
  let totalFeeAmount ← numericColumn intent.totalFeeAmount
  return { intent with
    transaction := { intent.transaction with amount := amount }
    feeAmount := feeAmount
    netAmount := netAmount
    totalFeeAmount := totalFeeAmount }

/-! ## The route -/

/-- What `simulate_payment` answers. -/
inductive SimulateAnswer
  | rejected (exception : HttpException)
  | crashed
  | created (intent : SandboxIntent) (netDestination : ℚ)

/-- `simulate_payment`, in the virtual account of the user. -/
def simulatePayment (settings : TransferSettings) (payment : PaymentSimulationRequest)
    (userId account : ℕ) (hex : String) (now : Instant) (db : Db) : SimulateAnswer × Db :=
  if settings.isProduction then
    (.rejected ⟨404, "Simulation is unavailable in production"⟩, db)
  else
    match simulatedAmounts payment with
    | none => (.crashed, db)
    | some amounts =>
        -- compared with `<`, where the public preview has `<=`
        if amounts.netSource < 0 then
          (.rejected ⟨422, "Total fees cannot exceed the source amount"⟩, db)
        else
          match (feeBreakdown payment amounts.totalFees).bind fun lines =>
              (sandboxIntent payment userId account db.transactions.next hex now amounts
                lines).stored with
          | none => (.crashed, db)
          | some intent =>
              match storeTransaction intent.transaction db with
              | none => (.crashed, db)
              | some stored =>
                  (.created intent amounts.netDestination,
                    { stored with
                      ledger := postJournal account db.transactions.next
                        intent.transaction.currency db.ledger })

/-! ## The property and its condition

The condition is about the request alone: its amount, and its four fees. -/

/-- **The intent balances**: the amount is the fees and the net amount, and the four lines add up
to the total that is stored with them. -/
structure IntentBalances (intent : SandboxIntent) : Prop where
  amount : intent.transaction.amount = intent.totalFeeAmount + intent.netAmount
  breakdown : intent.feeBreakdown.kaybic + intent.feeBreakdown.azaPayin +
    intent.feeBreakdown.azaPayout + intent.feeBreakdown.afm = intent.feeBreakdown.total

/-- The four fees of a request in cents, each rounded half to even. -/
def PaymentSimulationRequest.lineCents (payment : PaymentSimulationRequest) : ℤ :=
  roundHalfEven (payment.kaybicFee * 10 ^ cents) +
    roundHalfEven (payment.azaPayinFee * 10 ^ cents) +
    roundHalfEven (payment.payoutFee * 10 ^ cents) + roundHalfEven (payment.afmFee * 10 ^ cents)

/-- The amount is whole cents in its eight places, and what the fees add up to is nearest to what
they add up to when each is rounded before. -/
structure IntentFits (payment : PaymentSimulationRequest) : Prop where
  amount : WholeCents (roundHalfUp (payment.amount * 10 ^ 8) / 10 ^ 8)
  fees : |payment.simulateFeeSum * 10 ^ cents - payment.lineCents| < 1 / 2 ∨
    |payment.simulateFeeSum * 10 ^ cents - payment.lineCents| = 1 / 2 ∧ payment.lineCents % 2 = 0

/-! ## What is stored

What the columns keep, and what is known of an intent that was created. -/

section Column

variable {x y : ℚ}

/-- What the column stores, when it stores anything. -/
theorem numericColumn_eq_some :
    numericColumn x = some y ↔
      (roundHalfUp (x * 10 ^ 8)).natAbs < 10 ^ 19 ∧ y = roundHalfUp (x * 10 ^ 8) / 10 ^ 8 := by
  unfold numericColumn
  dsimp only
  split
  · rename_i hfits
    simp only [Option.some.injEq, hfits, true_and, eq_comm]
  · rename_i hwide
    exact iff_of_false (fun h => by cases h) fun h => hwide h.1

/-- Whole cents are stored as they are. -/
theorem numericColumn_cents (hx : WholeCents x) (h : numericColumn x = some y) : y = x := by
  obtain ⟨-, rfl⟩ := numericColumn_eq_some.mp h
  obtain ⟨n, rfl⟩ := hx
  have hplaces : (n : ℚ) / 10 ^ cents * 10 ^ 8 = ((n * 10 ^ 6 : ℤ) : ℚ) := by
    push_cast
    norm_num [cents]
    ring
  rw [hplaces, roundHalfUp_nearest.isRounding.exact]
  push_cast
  norm_num [cents]
  ring

/-- What is stored is below a hundred thousand million, and within half a unit of the last of
the eight places. -/
theorem numericColumn_near (h : numericColumn x = some y) :
    |y| ≤ 10 ^ 11 ∧ |x - y| ≤ 1 / 10 ^ 8 := by
  obtain ⟨hfits, rfl⟩ := numericColumn_eq_some.mp h
  constructor
  · have hcast : |((roundHalfUp (x * 10 ^ 8) : ℤ) : ℚ)| ≤ 10 ^ 19 := by
      have hint : |roundHalfUp (x * 10 ^ 8)| ≤ 10 ^ 19 := abs_le.mpr ⟨by omega, by omega⟩
      exact_mod_cast hint
    rw [abs_div, abs_of_pos (by norm_num : (0 : ℚ) < 10 ^ 8), div_le_iff₀ (by norm_num)]
    calc |((roundHalfUp (x * 10 ^ 8) : ℤ) : ℚ)| ≤ 10 ^ 19 := hcast
      _ = 10 ^ 11 * 10 ^ 8 := by norm_num
  · have hdiff : x - (roundHalfUp (x * 10 ^ 8) : ℚ) / 10 ^ 8 =
        (x * 10 ^ 8 - roundHalfUp (x * 10 ^ 8)) / 10 ^ 8 := by
      rw [sub_div, mul_div_cancel_right₀ x (by norm_num : (10 : ℚ) ^ 8 ≠ 0)]
    rw [hdiff, abs_div, abs_of_pos (by norm_num : (0 : ℚ) < 10 ^ 8)]
    refine div_le_div_of_nonneg_right ?_ (by norm_num)
    rw [abs_sub_comm]
    exact (roundHalfUp_nearest (x * 10 ^ 8)).trans (by norm_num)

end Column

section Created

variable {settings : TransferSettings} {payment : PaymentSimulationRequest} {userId account : ℕ}
  {hex : String} {now : Instant} {db db' : Db} {intent : SandboxIntent} {netDestination : ℚ}

/-- The amounts and lines behind a stored intent. -/
structure IntentCreated (payment : PaymentSimulationRequest) (account : ℕ) (db db' : Db)
    (intent : SandboxIntent) (amounts : SimulatedAmounts) (lines : SandboxFeeBreakdown) : Prop where
  computed : simulatedAmounts payment = some amounts
  net_nonneg : 0 ≤ amounts.netSource
  divided : feeBreakdown payment amounts.totalFees = some lines
  amount : numericColumn payment.amount = some intent.transaction.amount
  fees : numericColumn amounts.totalFees = some intent.totalFeeAmount
  net : numericColumn amounts.netSource = some intent.netAmount
  breakdown : intent.feeBreakdown = lines
  stored : ∃ stored, storeTransaction intent.transaction db = some stored ∧
    db' = { stored with
      ledger := postJournal account db.transactions.next intent.transaction.currency db.ledger }

/-- A stored intent was made from a request whose amounts and lines could be computed. -/
theorem simulatePayment_created
    (h : simulatePayment settings payment userId account hex now db =
      (.created intent netDestination, db')) :
    ∃ amounts lines, IntentCreated payment account db db' intent amounts lines := by
  unfold simulatePayment at h
  split at h
  · cases h
  · cases hamounts : simulatedAmounts payment with
    | none =>
        rw [hamounts] at h
        cases h
    | some amounts =>
        rw [hamounts] at h
        dsimp only at h
        split at h
        · cases h
        · rename_i hnet
          split at h
          · cases h
          · rename_i intent' hstored
            obtain ⟨lines, hlines, hstored⟩ := Option.bind_eq_some_iff.mp hstored
            split at h
            · cases h
            · rename_i stored hstore
              obtain ⟨hcreated, rfl⟩ := Prod.mk.inj h
              obtain ⟨rfl, -⟩ := SimulateAnswer.created.inj hcreated
              simp only [SandboxIntent.stored, Option.bind_eq_bind, Option.bind_eq_some_iff,
                Option.pure_def, Option.some.injEq] at hstored
              obtain ⟨amount, hamount, feeAmount, -, netAmount, hnetAmount, totalFeeAmount,
                htotal, rfl⟩ := hstored
              exact ⟨amounts, lines, hamounts, not_lt.mp hnet, hlines, hamount, htotal,
                hnetAmount, rfl, stored, hstore, rfl⟩

/-- The lines of a breakdown, each rounded by itself. -/
theorem feeBreakdown_eq_some {totalFees : ℚ} {lines : SandboxFeeBreakdown} :
    feeBreakdown payment totalFees = some lines ↔
      quantize cents payment.kaybicFee = some lines.kaybic ∧
        quantize cents payment.azaPayinFee = some lines.azaPayin ∧
          quantize cents payment.payoutFee = some lines.azaPayout ∧
            quantize cents payment.afmFee = some lines.afm ∧ lines.total = totalFees := by
  unfold feeBreakdown
  simp only [Option.bind_eq_bind, Option.bind_eq_some_iff, Option.pure_def, Option.some.injEq]
  constructor
  · rintro ⟨kaybic, hkaybic, azaPayin, hpayin, azaPayout, hpayout, afm, hafm, rfl⟩
    exact ⟨hkaybic, hpayin, hpayout, hafm, rfl⟩
  · rintro ⟨hkaybic, hpayin, hpayout, hafm, rfl⟩
    exact ⟨_, hkaybic, _, hpayin, _, hpayout, _, hafm, rfl⟩

/-- The intent is stored, with its journal entry, as one of the steps of the books. -/
theorem simulatePayment_book
    (h : simulatePayment settings payment userId account hex now db =
      (.created intent netDestination, db')) :
    ∃ hpositive : 0 < intent.transaction.amount,
      BookStep.apply db (.simulate intent.transaction account hpositive) = some db' := by
  obtain ⟨amounts, lines, hcreated⟩ := simulatePayment_created h
  obtain ⟨stored, hstore, rfl⟩ := hcreated.stored
  obtain ⟨-, hnear⟩ := numericColumn_near hcreated.amount
  have hpositive : 0 < intent.transaction.amount := by
    have hhigh := (abs_le.mp hnear).2
    have hlarge := payment.amount_ge
    norm_num at hhigh
    linarith
  refine ⟨hpositive, ?_⟩
  simp only [BookStep.apply, hstore, Option.map_some]

end Created

/-! ## When the intent balances

One equation is about the amount, the other about the lines; each has its half of the condition. -/

/-- Amounts the columns can hold keep their cents when they are taken off one another. -/
theorem inContext_near_column {x : ℚ} (hx : |x| ≤ 10 ^ 12) : |inContext x - x| ≤ 1 / 10 ^ 8 := by
  have herror := Rounding.abs_toDigits_sub_le (p := 28) roundHalfEven_nearest
    (by norm_num : 1 < 10) x
  calc |inContext x - x| ≤ |x| * ((10 : ℕ) : ℚ) ^ (1 - (28 : ℕ) : ℤ) / 2 := herror
    _ ≤ 10 ^ 12 * ((10 : ℕ) : ℚ) ^ (1 - (28 : ℕ) : ℤ) / 2 := by gcongr
    _ ≤ 1 / 10 ^ 8 := by norm_num

section Balance

variable {payment : PaymentSimulationRequest} {account : ℕ} {db db' : Db} {intent : SandboxIntent}
  {amounts : SimulatedAmounts} {lines : SandboxFeeBreakdown}

/-- What is left is the stored amount less the fees, if that amount is whole cents. -/
theorem IntentCreated.net_eq (h : IntentCreated payment account db db' intent amounts lines)
    (hwhole : WholeCents intent.transaction.amount) :
    amounts.netSource = intent.transaction.amount - amounts.totalFees := by
  obtain ⟨htotal, hnet, -⟩ := simulatedAmounts_eq_some.mp h.computed
  have hcents := wholeCents_of_quantizeWith (quantize_eq_with ▸ htotal)
  obtain ⟨hamount, hnear⟩ := numericColumn_near h.amount
  obtain ⟨htotalSize, -⟩ := numericColumn_near h.fees
  rw [numericColumn_cents hcents h.fees] at htotalSize
  obtain ⟨n, hn⟩ := hwhole.sub hcents
  rw [quantize_eq_with] at hnet
  obtain ⟨-, hnet⟩ := quantizeWith_eq_some.mp hnet
  -- the difference is near whole cents, and in 28 digits it is still
  have hsize : |payment.amount - amounts.totalFees| ≤ 10 ^ 12 := by
    rw [abs_le] at hamount hnear htotalSize ⊢
    constructor <;> linarith [hamount.1, hamount.2, hnear.1, hnear.2, htotalSize.1, htotalSize.2]
  have hcut := abs_le.mp (inContext_near_column hsize)
  have hround : roundHalfEven (payment.left amounts.totalFees * 10 ^ cents) = n := by
    refine roundHalfEven_nearest.eq_of_near ?_
    have hscaled : (n : ℚ) =
        (intent.transaction.amount - amounts.totalFees) * 10 ^ cents := by
      rw [hn, div_mul_cancel₀ _ (ne_of_gt (pow_places_pos cents))]
    rw [hscaled, ← sub_mul, abs_mul, abs_of_pos (pow_places_pos cents),
      PaymentSimulationRequest.left]
    rw [abs_le] at hnear
    have hclose : |inContext (payment.amount - amounts.totalFees) -
        (intent.transaction.amount - amounts.totalFees)| ≤ 2 / 10 ^ 8 := by
      rw [abs_le]
      constructor <;> linarith [hcut.1, hcut.2, hnear.1, hnear.2]
    calc |inContext (payment.amount - amounts.totalFees) -
          (intent.transaction.amount - amounts.totalFees)| * 10 ^ cents
        ≤ 2 / 10 ^ 8 * 10 ^ cents := by gcongr
      _ < 1 / 2 := by norm_num [cents]
  rw [hnet, hround, hn]

/-- The amount is the fees and what is left exactly if it is stored as whole cents. -/
theorem IntentCreated.amount_iff (h : IntentCreated payment account db db' intent amounts lines) :
    intent.transaction.amount = intent.totalFeeAmount + intent.netAmount ↔
      WholeCents intent.transaction.amount := by
  obtain ⟨htotal, hnet, -⟩ := simulatedAmounts_eq_some.mp h.computed
  have htotalCents := wholeCents_of_quantizeWith (quantize_eq_with ▸ htotal)
  have hnetCents := wholeCents_of_quantizeWith (quantize_eq_with ▸ hnet)
  rw [numericColumn_cents htotalCents h.fees, numericColumn_cents hnetCents h.net]
  constructor
  · intro hsum
    rw [hsum]
    exact htotalCents.add hnetCents
  · intro hwhole
    rw [h.net_eq hwhole]
    ring

/-- The lines are the total exactly if rounding them one by one comes to the same cents. -/
theorem IntentCreated.breakdown_iff
    (h : IntentCreated payment account db db' intent amounts lines) :
    lines.kaybic + lines.azaPayin + lines.azaPayout + lines.afm = lines.total ↔
      roundHalfEven (payment.simulateFeeSum * 10 ^ cents) = payment.lineCents := by
  obtain ⟨htotal, -, -⟩ := simulatedAmounts_eq_some.mp h.computed
  obtain ⟨hkaybic, hpayin, hpayout, hafm, hsame⟩ := feeBreakdown_eq_some.mp h.divided
  rw [quantize_eq_with, quantizeWith_eq_some] at htotal hkaybic hpayin hpayout hafm
  have hlines : lines.kaybic + lines.azaPayin + lines.azaPayout + lines.afm =
      (payment.lineCents : ℚ) / 10 ^ cents := by
    rw [hkaybic.2, hpayin.2, hpayout.2, hafm.2, PaymentSimulationRequest.lineCents]
    push_cast
    ring
  rw [hlines, hsame, htotal.2, div_left_inj' (ne_of_gt (pow_places_pos cents)), Int.cast_inj,
    eq_comm]

end Balance

/-- **When sandbox intents balance.** -/
theorem intent_balances_iff {settings : TransferSettings} {payment : PaymentSimulationRequest}
    {userId account : ℕ} {hex : String} {now : Instant} {db db' : Db} {intent : SandboxIntent}
    {netDestination : ℚ}
    (hcreated : simulatePayment settings payment userId account hex now db =
      (.created intent netDestination, db')) :
    IntentBalances intent ↔ IntentFits payment := by
  obtain ⟨amounts, lines, h⟩ := simulatePayment_created hcreated
  have hcolumn := (numericColumn_eq_some.mp h.amount).2
  have hamount := h.amount_iff
  have hbreakdown := h.breakdown_iff
  rw [← h.breakdown] at hbreakdown
  constructor
  · rintro ⟨hbalanced, hlines⟩
    exact ⟨hcolumn ▸ hamount.mp hbalanced, roundHalfEven_eq_iff.mp (hbreakdown.mp hlines)⟩
  · rintro ⟨hwhole, hfees⟩
    exact ⟨hamount.mpr (hcolumn ▸ hwhole), hbreakdown.mpr (roundHalfEven_eq_iff.mpr hfees)⟩

/-- A payment of at least a hundred thousand with two fees of one size. -/
def intentOf (amount fee : ℚ) (hamount : 100000 ≤ amount) (hfee : 0 ≤ fee) :
    PaymentSimulationRequest :=
  { simulationOf fee hfee with
    amount := amount
    amount_ge := hamount
    azaPayinFee := fee
    azaPayinFee_nonneg := hfee }

/-- The settings of a staging server. -/
def stagingSettings : TransferSettings where
  environment := .staging
  kyc1MonthlyLimitXaf := 10000000

/-- Stored by the user 1, in the account 0, in an empty database. -/
def storedOnce (payment : PaymentSimulationRequest) : SimulateAnswer × Db :=
  simulatePayment stagingSettings payment 1 0 "00000000000000000000000000000000" 0 Db.empty

/-- The amounts of an answer: the stored amount, fees and net amount, the sum of the lines, and
their total. -/
def SimulateAnswer.figures : SimulateAnswer → Option (ℚ × ℚ × ℚ × ℚ × ℚ)
  | .created intent _ =>
      some (intent.transaction.amount, intent.totalFeeAmount, intent.netAmount,
        intent.feeBreakdown.kaybic + intent.feeBreakdown.azaPayin +
          intent.feeBreakdown.azaPayout + intent.feeBreakdown.afm, intent.feeBreakdown.total)
  | _ => none

/-- An answer with figures is a created intent. -/
theorem storedOnce_created {payment : PaymentSimulationRequest} {figures : ℚ × ℚ × ℚ × ℚ × ℚ}
    (h : (storedOnce payment).1.figures = some figures) :
    ∃ intent netDestination db', storedOnce payment = (.created intent netDestination, db') ∧
      (SimulateAnswer.created intent netDestination).figures = some figures := by
  cases hanswer : storedOnce payment with
  | mk answer db' =>
      rw [hanswer] at h
      cases answer with
      | rejected exception => cases h
      | crashed => cases h
      | created intent netDestination => exact ⟨intent, netDestination, db', rfl, h⟩

/-- The amounts of the two requests below are allowed. -/
theorem hundredThousand_le : (100000 : ℚ) ≤ 100000 := le_rfl

/-- The amount with half a cent is allowed too. -/
theorem hundredThousandHalfCent_le : (100000 : ℚ) ≤ 100000005 / 1000 := by
  norm_num

/-- The fee of half a cent is allowed. -/
theorem halfCent_nonneg : (0 : ℚ) ≤ 5 / 1000 := by
  norm_num

/-- The statement on a hundred thousand without fees. -/
theorem intent_balances_iff_hundredThousand :
    ∃ intent netDestination db',
      storedOnce (intentOf 100000 0 hundredThousand_le le_rfl) =
        (.created intent netDestination, db') ∧
      (IntentBalances intent ↔ IntentFits (intentOf 100000 0 hundredThousand_le le_rfl)) := by
  have hfigures : (storedOnce (intentOf 100000 0 hundredThousand_le le_rfl)).1.figures =
      some (100000, 0, 100000, 0, 0) := by
    decide +kernel
  obtain ⟨intent, netDestination, db', hcreated, -⟩ := storedOnce_created hfigures
  exact ⟨intent, netDestination, db', hcreated, intent_balances_iff hcreated⟩

/-- Half a cent in the amount is in no other figure; and two fees of half a cent each are nothing
in their lines and a cent in the total. -/
theorem not_intent_balances :
    (∃ intent netDestination db',
      storedOnce (intentOf (100000005 / 1000) 0 hundredThousandHalfCent_le le_rfl) =
        (.created intent netDestination, db') ∧ ¬ IntentBalances intent) ∧
      ∃ intent netDestination db',
        storedOnce (intentOf 100000 (5 / 1000) hundredThousand_le halfCent_nonneg) =
          (.created intent netDestination, db') ∧ ¬ IntentBalances intent := by
  constructor
  · have hfigures :
        (storedOnce (intentOf (100000005 / 1000) 0 hundredThousandHalfCent_le le_rfl)).1.figures =
          some (100000005 / 1000, 0, 100000, 0, 0) := by
      decide +kernel
    obtain ⟨intent, netDestination, db', hcreated, hvalues⟩ := storedOnce_created hfigures
    simp only [SimulateAnswer.figures, Option.some.injEq, Prod.mk.injEq] at hvalues
    obtain ⟨hamount, hfees, hnet, -, -⟩ := hvalues
    refine ⟨intent, netDestination, db', hcreated, fun h => ?_⟩
    have hbalance := h.amount
    rw [hamount, hfees, hnet] at hbalance
    norm_num at hbalance
  · have hfigures :
        (storedOnce (intentOf 100000 (5 / 1000) hundredThousand_le halfCent_nonneg)).1.figures =
          some (100000, 1 / 100, 9999999 / 100, 0, 1 / 100) := by
      decide +kernel
    obtain ⟨intent, netDestination, db', hcreated, hvalues⟩ := storedOnce_created hfigures
    simp only [SimulateAnswer.figures, Option.some.injEq, Prod.mk.injEq] at hvalues
    obtain ⟨-, -, -, hlines, htotal⟩ := hvalues
    refine ⟨intent, netDestination, db', hcreated, fun h => ?_⟩
    have hbalance := h.breakdown
    rw [hlines, htotal] at hbalance
    norm_num at hbalance

end AfricaFrontier
