import AfricaFrontier.Kora.RefundBound
import AfricaFrontier.Kora.Transfers
import Mathlib.Tactic.Linarith

/-!
# The monthly cap

In production the transfers in CFA francs that a user has made in a month must stay
within the limit, each counted at its amount less what was refunded of it, and not at
all once it has failed.  The limit check adds the new amount to a total it reads from
the database, some statements before the transfer is accepted.

Three things separate that total from what counts.  Payments that `process_payment`
accepted are in no row.  A refund of any part drops its row from the total.  And
between the check and the commit other transfers are accepted.  `coversMonth` asks, at
the two statements that accept a transfer, that the total its own check read still
covers what counts then; `takesNothingBack` asks of every other commit that it revives
no failed payout and undoes no successful refund, neither of which is checked at all.
Under both the cap is an invariant of every interleaving (`monthly_cap_holds`).

The proof is in terms of weights. A stored row weighs what is left of an executed payout, an
accepted payment what it was accepted for, and `monthTotal` is the sum. Commits lower weights
unless they take something back (`payoutWeight_writeBack`, `returnedAmount_writeBack`); the two
statements that accept a transfer add one weight, for which the check had room, and `coversMonth`
says that the total of the check is still no less than the sum.

What a session knows of its check is kept beside it (`KnowsPayment`, `KnowsPayout`): the total it
has read, and that the limit admitted its amount on top of that.
-/

namespace AfricaFrontier

open Python Relational Transition

/-! ## What counts towards the cap -/

/-- What a refund has returned of the transaction `i`. -/
def returnedAmount (i : ℕ) (r : KoraRefund) : ℚ :=
  if r.transactionId = i ∧ r.status = "success" then r.amount else 0

/-- What was successfully refunded of the transaction `i`. -/
def returned (i : ℕ) (refunds : Table KoraRefund) : ℚ := refunds.sum (returnedAmount i)

/-- The part of a transaction that was not refunded. -/
def remaining (t : Transaction) (refunds : Table KoraRefund) : ℚ :=
  t.amount - min t.amount (returned t.id refunds)

/-- What a row counts: it is an executed payout of the user in the month, in CFA francs,
and has not failed. -/
def payoutWeight (userId : ℕ) (month : Instant) (executed : List ℕ) (refunds : Table KoraRefund)
    (t : Transaction) : ℚ :=
  if t.id ∈ executed ∧ t.userId = userId ∧ t.currency ∈ cfaCurrencies ∧
      monthStart t.createdAt = month ∧ t.status ≠ .failed then remaining t refunds
  else 0

/-- What an accepted payment counts. -/
def paymentWeight (userId : ℕ) (month : Instant) (payment : AcceptedPayment) : ℚ :=
  if payment.transaction.userId = userId ∧ payment.transaction.currency ∈ cfaCurrencies ∧
      monthStart payment.at' = month then payment.transaction.amount.value
  else 0

/-- The accepted payments of a user in a month. -/
def paymentTotal (userId : ℕ) (month : Instant) (desk : PaymentDesk) : ℚ :=
  (desk.accepted.map (paymentWeight userId month)).sum

/-- The executed payouts of a user in a month. -/
def payoutTotal (userId : ℕ) (month : Instant) (executed : List ℕ) (db : Db) : ℚ :=
  db.transactions.sum (payoutWeight userId month executed db.refunds)

/-- The transfers of a user in the month that begins at `month`: the payments that were accepted,
and what is left, after refunds, of the payouts that were executed. -/
def TransferWorld.monthTotal (w : TransferWorld) (userId : ℕ) (month : Instant) : ℚ :=
  paymentTotal userId month w.desk + payoutTotal userId month w.executed w.store.db

/-- The cap holds of every user and every month; amounts are not negative, and the
executed payouts are stored. -/
structure WithinCap (settings : TransferSettings) (w : TransferWorld) : Prop where
  capped : ∀ userId month, w.monthTotal userId month ≤ settings.kyc1MonthlyLimitXaf
  paymentsNonneg : ∀ i t, w.store.db.transactions.get i = some t → 0 ≤ t.amount
  refundsNonneg : ∀ r ∈ w.store.db.refunds, 0 ≤ r.amount
  executedStored : ∀ i ∈ w.executed, i < w.store.db.transactions.next

/-! ## The guard

It compares a total that was read with what counts at the moment of the acceptance, and never with
the limit. -/

/-- The total a request's check has read covers what counts now, in the month the
transfer falls in. -/
def TransferWorld.coversMonth (w : TransferWorld) (userId : ℕ) (time : Instant)
    (counted : ℚ) : Bool :=
  decide (w.monthTotal userId (monthStart time) ≤ counted)

/-- The commit takes no executed payout out of FAILED, and no refund out of success. -/
def takesNothingBack (work : UnitOfWork) (w : TransferWorld) : Bool :=
  (work.transaction.all fun d =>
    (w.store.db.transactions.get d.loaded.id).all fun t =>
      decide (t.id ∈ w.executed → t.status = .failed →
        (Transaction.writeBack d t).status = .failed)) &&
    work.refund.all fun d =>
      (w.store.db.refunds.get d.loaded.id).all fun r =>
        decide (r.status = "success" → (KoraRefund.writeBack d r).status = "success")

/-- The next statement of a session keeps the cap. -/
def keepsCap (w : TransferWorld) : TransferSession → TransferTick → Bool
  | .inl (.inl ⟨call, .releasing ticket (some _)⟩), .inl (.inl tick) =>
      decide (tick.reply ≠ .answered) ||
        w.coversMonth call.userId ticket.timestamp ticket.counted
  | .inl (.inr ⟨call, .accepted draft transaction _⟩), .inl (.inr tick) =>
      tick.fault || w.coversMonth call.userId transaction.createdAt draft.counted
  | .inr t, .inr x => faulted x || (stagedWork t).all fun work => takesNothingBack work w
  | _, _ => true

/-- The guard of the pool: it asks something of the statements that accept a transfer and of the
commits that may take something back, and nothing of any other. -/
def capGuard (p : Pool TransferWorld TransferSession) : PoolAct TransferCall TransferTick → Bool
  | .advance i x => (p.session i).all fun t => keepsCap p.store t x
  | _ => true

/-! ## Refunds and failures lower the total -/

section Weights

variable {db db' : Db} {refunds refunds' : Table KoraRefund}

/-- A refund returns no negative amount. -/
theorem returnedAmount_nonneg {r : KoraRefund} (hr : 0 ≤ r.amount) (i : ℕ) :
    0 ≤ returnedAmount i r := by
  unfold returnedAmount
  split
  · exact hr
  · exact le_rfl

/-- All refunds of a transaction together return no negative amount. -/
theorem returned_nonneg (hrefunds : ∀ r ∈ refunds, 0 ≤ r.amount) (i : ℕ) :
    0 ≤ returned i refunds :=
  Table.sum_nonneg fun r hr => returnedAmount_nonneg (hrefunds r hr) i

/-- What remains is not negative. -/
theorem remaining_nonneg (t : Transaction) (refunds : Table KoraRefund) :
    0 ≤ remaining t refunds := by
  have hmin : min t.amount (returned t.id refunds) ≤ t.amount := min_le_left _ _
  unfold remaining
  linarith

/-- A transaction never counts for more than its amount. -/
theorem remaining_le (hrefunds : ∀ r ∈ refunds, 0 ≤ r.amount) {t : Transaction}
    (ht : 0 ≤ t.amount) : remaining t refunds ≤ t.amount := by
  have hmin : 0 ≤ min t.amount (returned t.id refunds) :=
    le_min ht (returned_nonneg hrefunds t.id)
  unfold remaining
  linarith

/-- The more was returned, the less remains. -/
theorem remaining_anti {t : Transaction} (h : returned t.id refunds ≤ returned t.id refunds') :
    remaining t refunds' ≤ remaining t refunds := by
  have hmin : min t.amount (returned t.id refunds) ≤ min t.amount (returned t.id refunds') :=
    min_le_min le_rfl h
  unfold remaining
  linarith

/-- A weight is not negative. -/
theorem payoutWeight_nonneg (userId : ℕ) (month : Instant) (executed : List ℕ)
    (refunds : Table KoraRefund) (t : Transaction) :
    0 ≤ payoutWeight userId month executed refunds t := by
  unfold payoutWeight
  split
  · exact remaining_nonneg t refunds
  · exact le_rfl

/-- The more was returned, the less a row weighs. -/
theorem payoutWeight_anti {userId : ℕ} {month : Instant} {executed : List ℕ} {t : Transaction}
    (h : returned t.id refunds ≤ returned t.id refunds') :
    payoutWeight userId month executed refunds' t ≤
      payoutWeight userId month executed refunds t := by
  unfold payoutWeight
  split
  · exact remaining_anti h
  · exact le_rfl

/-- Writing a transaction back does not raise what it counts, unless it was failed and is
not any more. -/
theorem payoutWeight_writeBack {userId : ℕ} {month : Instant} {executed : List ℕ}
    {d : Dirty Transaction} {t : Transaction}
    (h : t.id ∈ executed → t.status = .failed → (Transaction.writeBack d t).status = .failed) :
    payoutWeight userId month executed refunds (Transaction.writeBack d t) ≤
      payoutWeight userId month executed refunds t := by
  by_cases hafter : (Transaction.writeBack d t).id ∈ executed ∧
      (Transaction.writeBack d t).userId = userId ∧
      (Transaction.writeBack d t).currency ∈ cfaCurrencies ∧
      monthStart (Transaction.writeBack d t).createdAt = month ∧
      (Transaction.writeBack d t).status ≠ .failed
  · obtain ⟨hexecuted, huser, hcurrency, hmonth, hstatus⟩ := hafter
    have hbefore : t.status ≠ .failed := fun hfailed => hstatus (h hexecuted hfailed)
    rw [payoutWeight, payoutWeight, if_pos ⟨hexecuted, huser, hcurrency, hmonth, hstatus⟩,
      if_pos ⟨hexecuted, huser, hcurrency, hmonth, hbefore⟩]
    exact le_rfl
  · rw [payoutWeight, if_neg hafter]
    exact payoutWeight_nonneg userId month executed refunds t

/-- Writing a refund back does not lower what it returned, unless it was successful and is
not any more. -/
theorem returnedAmount_writeBack {d : Dirty KoraRefund} {r : KoraRefund} (hr : 0 ≤ r.amount)
    (h : r.status = "success" → (KoraRefund.writeBack d r).status = "success") (i : ℕ) :
    returnedAmount i r ≤ returnedAmount i (KoraRefund.writeBack d r) := by
  have hid : (KoraRefund.writeBack d r).transactionId = r.transactionId := rfl
  have hamount : (KoraRefund.writeBack d r).amount = r.amount := rfl
  by_cases hbefore : r.transactionId = i ∧ r.status = "success"
  · rw [returnedAmount, returnedAmount, hid, hamount, if_pos hbefore,
      if_pos ⟨hbefore.1, h hbefore.2⟩]
  · rw [returnedAmount, if_neg hbefore]
    exact returnedAmount_nonneg (r := KoraRefund.writeBack d r) hr i

end Weights

/-! ## Commits

A unit of work of a refund request, a delivery or a worker. -/

/-- The guard, in terms of the rows the commit writes back. -/
theorem takesNothingBack_iff {work : UnitOfWork} {w : TransferWorld} :
    takesNothingBack work w = true ↔
      (∀ d, work.transaction = some d → ∀ t, w.store.db.transactions.get d.loaded.id = some t →
        t.id ∈ w.executed → t.status = .failed →
          (Transaction.writeBack d t).status = .failed) ∧
      ∀ d, work.refund = some d → ∀ r, w.store.db.refunds.get d.loaded.id = some r →
        r.status = "success" → (KoraRefund.writeBack d r).status = "success" := by
  rw [takesNothingBack, Bool.and_eq_true]
  simp only [Option.all_eq_true, decide_eq_true_eq]

/-- A commit that takes nothing back does not lower what was returned of a transaction. -/
theorem returned_flush {u : UnitOfWork} {w : TransferWorld} {db' : Db}
    (h : u.flush w.store.db = .ok db') (hkept : takesNothingBack u w = true)
    (hrefunds : ∀ r ∈ w.store.db.refunds, 0 ≤ r.amount) (i : ℕ) :
    returned i w.store.db.refunds ≤ returned i db'.refunds := by
  rw [(UnitOfWork.flush_ok h).2.1]
  unfold UnitOfWork.refundsAfter
  split
  · exact le_rfl
  · rename_i d hd
    refine Table.le_sum_modify fun r hget => ?_
    exact returnedAmount_writeBack (hrefunds r (Table.mem_of_get hget))
      ((takesNothingBack_iff.mp hkept).2 d hd r hget) i

/-- A commit that takes nothing back does not raise the total of the payouts. -/
theorem payoutTotal_flush {u : UnitOfWork} {w : TransferWorld} {db' : Db}
    (h : u.flush w.store.db = .ok db') (hkept : takesNothingBack u w = true)
    (hrefunds : ∀ r ∈ w.store.db.refunds, 0 ≤ r.amount) (userId : ℕ) (month : Instant) :
    payoutTotal userId month w.executed db' ≤ payoutTotal userId month w.executed w.store.db := by
  have hreturned := returned_flush h hkept hrefunds
  have hrows : db'.transactions.sum (payoutWeight userId month w.executed w.store.db.refunds) ≤
      w.store.db.transactions.sum (payoutWeight userId month w.executed w.store.db.refunds) := by
    rw [(UnitOfWork.flush_ok h).1]
    unfold UnitOfWork.transactionsAfter
    split
    · exact le_rfl
    · rename_i d hd
      refine Table.sum_modify_le fun t hget => ?_
      exact payoutWeight_writeBack ((takesNothingBack_iff.mp hkept).1 d hd t hget)
  calc payoutTotal userId month w.executed db'
      ≤ db'.transactions.sum (payoutWeight userId month w.executed w.store.db.refunds) :=
        Table.sum_le_sum fun t _ => payoutWeight_anti (hreturned t.id)
    _ ≤ payoutTotal userId month w.executed w.store.db := hrows

section Invariant

variable {settings : TransferSettings} {w : TransferWorld}

/-- A step of the database that does not raise the payouts keeps the cap. -/
theorem WithinCap.store (hcap : WithinCap settings w) {s' : Store}
    (htotal : ∀ userId month, payoutTotal userId month w.executed s'.db ≤
      payoutTotal userId month w.executed w.store.db)
    (hpayments : ∀ i t, s'.db.transactions.get i = some t → 0 ≤ t.amount)
    (hrefunds : ∀ r ∈ s'.db.refunds, 0 ≤ r.amount)
    (hnext : s'.db.transactions.next = w.store.db.transactions.next) :
    WithinCap settings { w with store := s' } where
  capped userId month := by
    have hbefore : w.monthTotal userId month ≤ settings.kyc1MonthlyLimitXaf :=
      hcap.capped userId month
    have hpayouts := htotal userId month
    unfold TransferWorld.monthTotal at hbefore ⊢
    show paymentTotal userId month w.desk + payoutTotal userId month w.executed s'.db ≤ _
    linarith
  paymentsNonneg := hpayments
  refundsNonneg := hrefunds
  executedStored i hi := by
    show i < s'.db.transactions.next
    rw [hnext]
    exact hcap.executedStored i hi

/-- A commit that takes nothing back keeps the cap. -/
theorem WithinCap.flush (hcap : WithinCap settings w) {u : UnitOfWork} {db' : Db}
    (h : u.flush w.store.db = .ok db') (hkept : takesNothingBack u w = true) {s' : Store}
    (htransactions : s'.db.transactions = db'.transactions)
    (hrefunds : s'.db.refunds = db'.refunds) : WithinCap settings { w with store := s' } := by
  refine hcap.store (fun userId month => ?_) (fun i t' hget => ?_) (fun r' hr' => ?_) ?_
  · have hsame : payoutTotal userId month w.executed s'.db =
        payoutTotal userId month w.executed db' := by
      rw [payoutTotal, htransactions, hrefunds, ← payoutTotal]
    rw [hsame]
    exact payoutTotal_flush h hkept hcap.refundsNonneg userId month
  · rw [htransactions] at hget
    obtain ⟨t, ht, ⟨rfl, -⟩ | ⟨d, -, -, rfl⟩⟩ := UnitOfWork.flush_transactions_get h hget
    · exact hcap.paymentsNonneg i t' ht
    · exact hcap.paymentsNonneg i t ht
  · rw [hrefunds] at hr'
    obtain ⟨r, hr, ⟨rfl, -⟩ | ⟨d, -, -, rfl⟩⟩ := UnitOfWork.flush_refunds_mem h hr'
    · exact hcap.refundsNonneg r' hr
    · exact hcap.refundsNonneg r hr
  · rw [htransactions, (UnitOfWork.flush_ok h).1]
    unfold UnitOfWork.transactionsAfter
    split <;> rfl

/-- Storing a refund returns nothing yet. -/
theorem WithinCap.refundStored (hcap : WithinCap settings w) {config : RefundConfig}
    {order : RefundOrder} {now : Instant} {s' : Store}
    (hinsert : insertRefund config order now w.store.db = some s'.db.refunds)
    (htransactions : s'.db.transactions = w.store.db.transactions) (horder : 0 ≤ order.amount) :
    WithinCap settings { w with store := s' } := by
  have hreturned : ∀ i, returned i s'.db.refunds = returned i w.store.db.refunds := by
    intro i
    rw [returned, Table.sum_insert (insertRefund_some hinsert), ← returned]
    simp [returnedAmount, refundRecord]
  refine hcap.store (fun userId month => ?_) (fun i t hget => ?_) (fun r hr => ?_) ?_
  · rw [payoutTotal, htransactions, payoutTotal]
    exact Table.sum_le_sum fun t _ => payoutWeight_anti (hreturned t.id).ge
  · rw [htransactions] at hget
    exact hcap.paymentsNonneg i t hget
  · rcases (Table.mem_insert (insertRefund_some hinsert)).mp hr with hold | rfl
    · exact hcap.refundsNonneg r hold
    · exact horder
  · rw [htransactions]

/-- The rows that are already there do not become executed when a new row does. -/
theorem payoutTotal_executed (userId : ℕ) (month : Instant) (executed extra : List ℕ) (db : Db)
    (hextra : ∀ i ∈ extra, i = db.transactions.next) :
    payoutTotal userId month (executed ++ extra) db = payoutTotal userId month executed db := by
  refine congrArg List.sum (List.map_congr_left fun t ht => ?_)
  have hfresh : t.id < db.transactions.next := db.transactions.fresh t ht
  have hmem : t.id ∈ executed ++ extra ↔ t.id ∈ executed := by
    rw [List.mem_append]
    constructor
    · rintro (hold | hnew)
      · exact hold
      · have hid := hextra t.id hnew
        omega
    · exact Or.inl
  rw [payoutWeight, payoutWeight]
  simp only [hmem]

/-- Storing a payout keeps the cap when there is room for it wherever it counts. -/
theorem WithinCap.rowStored (hcap : WithinCap settings w) {row : Transaction}
    {transactions : Table Transaction}
    (hinsert : insertTransaction row w.store.db = some transactions) (hrow : 0 ≤ row.amount)
    {extra : List ℕ} (hextra : ∀ i ∈ extra, i = w.store.db.transactions.next)
    (hroom : ∀ userId month,
      payoutWeight userId month (w.executed ++ extra) w.store.db.refunds
          { row with id := w.store.db.transactions.next } = 0 ∨
        w.monthTotal userId month + row.amount ≤ settings.kyc1MonthlyLimitXaf) :
    WithinCap settings
      { w with
        store := { w.store with db := { w.store.db with transactions := transactions } }
        executed := w.executed ++ extra } where
  capped userId month := by
    have hbefore : w.monthTotal userId month ≤ settings.kyc1MonthlyLimitXaf :=
      hcap.capped userId month
    have hsum : transactions.sum
          (payoutWeight userId month (w.executed ++ extra) w.store.db.refunds) =
        payoutTotal userId month w.executed w.store.db +
          payoutWeight userId month (w.executed ++ extra) w.store.db.refunds
            { row with id := w.store.db.transactions.next } := by
      rw [Table.sum_insert (insertTransaction_some hinsert),
        ← payoutTotal_executed userId month w.executed extra w.store.db hextra]
      rfl
    -- a row weighs its amount at most, whatever was refunded of it
    have hweight : payoutWeight userId month (w.executed ++ extra) w.store.db.refunds
        { row with id := w.store.db.transactions.next } ≤ row.amount := by
      unfold payoutWeight
      split
      · exact remaining_le hcap.refundsNonneg hrow
      · exact hrow
    show paymentTotal userId month w.desk + transactions.sum
      (payoutWeight userId month (w.executed ++ extra) w.store.db.refunds) ≤ _
    rw [hsum]
    unfold TransferWorld.monthTotal at hbefore hroom
    rcases hroom userId month with hzero | hfits
    · rw [hzero]
      linarith
    · linarith
  paymentsNonneg i t hget := by
    rcases (Table.mem_insert (insertTransaction_some hinsert)).mp (Table.mem_of_get hget) with
      hold | rfl
    · have hid : ident t = i := Table.ident_of_get hget
      exact hcap.paymentsNonneg i t (hid ▸ Table.get_ident hold)
    · exact hrow
  refundsNonneg := hcap.refundsNonneg
  executedStored i hi := by
    show i < transactions.next
    rw [Table.insert_next (insertTransaction_some hinsert)]
    rcases List.mem_append.mp hi with hold | hnew
    · have hlt : i < w.store.db.transactions.next := hcap.executedStored i hold
      omega
    · have hid := hextra i hnew
      omega

/-- What happens in Redis keeps the cap when there is room for what was accepted. -/
theorem WithinCap.desk (hcap : WithinCap settings w) {desk : PaymentDesk}
    (haccepted : desk.accepted = w.desk.accepted ∨
      ∃ payment, desk.accepted = w.desk.accepted ++ [payment] ∧ ∀ userId month,
        w.monthTotal userId month + paymentWeight userId month payment ≤
          settings.kyc1MonthlyLimitXaf) :
    WithinCap settings { w with desk := desk } where
  capped userId month := by
    show paymentTotal userId month desk + payoutTotal userId month w.executed w.store.db ≤ _
    rcases haccepted with hsame | ⟨payment, hmore, hroom⟩
    · have hbefore : w.monthTotal userId month ≤ settings.kyc1MonthlyLimitXaf :=
        hcap.capped userId month
      rw [paymentTotal, hsame]
      exact hbefore
    · have hfits := hroom userId month
      rw [paymentTotal, hmore, List.map_append, List.sum_append, ← paymentTotal]
      unfold TransferWorld.monthTotal at hfits
      simp only [List.map_cons, List.map_nil, List.sum_cons, List.sum_nil, add_zero]
      linarith
  paymentsNonneg := hcap.paymentsNonneg
  refundsNonneg := hcap.refundsNonneg
  executedStored := hcap.executedStored

end Invariant

/-! ## What the check covers -/

/-- At the moment it is read, the total of the check covers what counts, as far as nothing
that counts is missing from the rows: no payment was accepted in the month, and no payout
is refunded in part. -/
theorem check_covers {settings : TransferSettings} {w : TransferWorld} {userId : ℕ} {now : Instant}
    (hcap : WithinCap settings w)
    (hpayments : ∀ payment ∈ w.desk.accepted, paymentWeight userId (monthStart now) payment = 0)
    (hexecuted : ∀ t ∈ w.store.db.transactions, t.id ∈ w.executed →
      t.ledgerNamespace = afmPayments ∧
        (t.status = .refunded → remaining t w.store.db.refunds = 0)) :
    w.coversMonth userId now (kyc1Total userId now w.store.db) = true := by
  have hnone : paymentTotal userId (monthStart now) w.desk = 0 := by
    refine List.sum_eq_zero fun x hx => ?_
    obtain ⟨payment, hpayment, rfl⟩ := List.mem_map.mp hx
    exact hpayments payment hpayment
  -- row by row: what weighs in the month is read by the limit check
  have hrows : payoutTotal userId (monthStart now) w.executed w.store.db ≤
      kyc1Total userId now w.store.db := by
    refine Table.sum_le_sum fun t ht => ?_
    have hamount : 0 ≤ t.amount := hcap.paymentsNonneg _ t (Table.get_ident ht)
    have hweight : 0 ≤ kyc1Weight userId now t := by
      unfold kyc1Weight
      split
      · exact hamount
      · exact le_rfl
    unfold payoutWeight
    split
    · rename_i hcounts
      obtain ⟨hmem, huser, hcurrency, hmonth, hstatus⟩ := hcounts
      obtain ⟨hnamespace, hwhole⟩ := hexecuted t ht hmem
      by_cases hrefunded : t.status = .refunded
      · rw [hwhole hrefunded]
        exact hweight
      · have hsince : monthStart now ≤ t.createdAt := hmonth ▸ monthStart_le t.createdAt
        have hread : kyc1Weight userId now t = t.amount := by
          rw [kyc1Weight, if_pos]
          simp [countsTowardsKyc1, huser, hnamespace, hcurrency, hsince, excludedStatuses,
            hstatus, hrefunded]
        rw [hread]
        exact remaining_le hcap.refundsNonneg hamount
    · exact hweight
  unfold TransferWorld.coversMonth TransferWorld.monthTotal
  rw [hnone, zero_add]
  exact decide_eq_true hrows

/-! ## What the sessions in flight know

Facts about copies, which no step of another session disturbs. -/

/-- The limit check has admitted an amount: it is in CFA francs, and within the limit on
top of the total that was read. -/
def Admits (settings : TransferSettings) (currency : String) (amount counted : ℚ) : Prop :=
  upper currency ∈ cfaCurrencies ∧ counted + amount ≤ settings.kyc1MonthlyLimitXaf

/-- A payment request has been admitted on the total it carries. -/
def KnowsPayment (settings : TransferSettings) (t : PaymentSession) : Prop :=
  ∀ counted, t.phase.counted = some counted →
    Admits settings t.call.payment.currency t.call.payment.amount.value counted

/-- The row a payout request prepares. -/
def PayoutRow (call : PayoutCall) (t : Transaction) : Prop :=
  ∃ reference account now,
    t = payoutTransaction 0 reference call.userId account call.payout now

/-- An executed payout request has been admitted on the total it carries, and only such a
request calls the provider. -/
def KnowsPayout (settings : TransferSettings) (t : PayoutSession) : Prop :=
  let admitted (draft : PayoutDraft) : Prop :=
    Admits settings t.call.payout.currency t.call.payout.amount draft.counted
  match t.phase with
  | .requested => True
  | .opening draft => t.call.payout.execute = true → admitted draft
  | .provisioning draft => t.call.payout.execute = true → admitted draft
  | .reselecting draft => t.call.payout.execute = true → admitted draft
  | .recording draft _ => t.call.payout.execute = true → admitted draft
  | .previewing _ row => PayoutRow t.call row
  | .issuing draft row => admitted draft ∧ PayoutRow t.call row
  | .awaiting draft row => admitted draft ∧ PayoutRow t.call row
  | .failing _ row => PayoutRow t.call row
  | .accepted draft row _ => admitted draft ∧ PayoutRow t.call row
  | .answering _ => True

/-- What a session in flight knows. -/
def TransferKnows (settings : TransferSettings) : TransferSession → Prop
  | .inl (.inl t) => KnowsPayment settings t
  | .inl (.inr t) => KnowsPayout settings t
  | .inr (.inl t) => OrderNonneg (.inr t)
  | .inr (.inr _) => True

section Knowledge

variable {config : PaymentConfig} {refundConfig : RefundConfig} {settings : TransferSettings}

/-- In production the check admits what is within the limit. -/
theorem admits_of_enforced (hproduction : settings.isProduction = true) {userId : ℕ} {amount : ℚ}
    {currency : String} {now : Instant} {db : Db}
    (h : enforceKyc1MonthlyLimit settings userId amount currency now db = .ok ()) :
    Admits settings currency amount (kyc1Total userId now db) :=
  (enforceKyc1MonthlyLimit_ok_iff hproduction).mp h

/-- An executed payout is only admitted by the limit check. -/
theorem enforced_of_admitPayout {call : PayoutCall} {now : Instant} {db : Db}
    (h : admitPayout settings call now db = .ok ()) (hexecute : call.payout.execute = true) :
    enforceKyc1MonthlyLimit settings call.userId call.payout.amount call.payout.currency now db =
      .ok () := by
  unfold admitPayout at h
  cases hcheck : checkPayout call with
  | error exception =>
      rw [hcheck] at h
      cases h
  | ok =>
      rw [hcheck] at h
      simp only [hexecute, if_true] at h
      exact h

/-- A payment request keeps what it knows. -/
theorem knowsPayment_step (hproduction : config.settings.isProduction = true)
    {t : PaymentSession} {s : Store × PaymentDesk} {tick : PaymentTick} {phase : PaymentPhase}
    (h : (t.call.step config s tick t.phase).2 = some phase)
    (hknows : KnowsPayment config.settings t) :
    KnowsPayment config.settings ⟨t.call, phase⟩ := by
  intro counted hcounted
  rcases PaymentCall.step_counted h with hsame | ⟨henforced, hread⟩
  · exact hknows counted (hsame.symm.trans hcounted)
  · obtain rfl := Option.some.inj (hread.symm.trans hcounted)
    exact admits_of_enforced hproduction henforced

/-- A payout request keeps what it knows. -/
theorem PayoutStep.knows (hproduction : settings.isProduction = true) {call : PayoutCall}
    {s s' : Store} {phase phase' : PayoutPhase}
    (h : PayoutStep settings call s phase s' (some phase'))
    (hknows : KnowsPayout settings ⟨call, phase⟩) : KnowsPayout settings ⟨call, phase'⟩ := by
  cases h with
  | ended hanswer => trivial
  | admitted hadmitted =>
      intro hexecute
      exact admits_of_enforced hproduction (enforced_of_admitPayout hadmitted hexecute)
  | found hphase hselect =>
      rcases hphase with rfl | rfl
      · exact hknows
      · exact hknows
  | missing => exact hknows
  | provisioned hinsert => exact hknows
  | clashed => exact hknows
  | previewed hexecute => exact ⟨_, _, _, rfl⟩
  | recorded hexecute => exact ⟨hknows hexecute, _, _, _, rfl⟩
  | instructed => exact hknows
  | declined => exact hknows.2
  | refused => exact hknows.2
  | answered => exact hknows
  | committed hrow hinsert => trivial

/-- The row a request prepares is the user's, with the amount that was asked for. -/
theorem PayoutRow.fields {call : PayoutCall} {t : Transaction} (h : PayoutRow call t) :
    t.userId = call.userId ∧ t.amount = call.payout.amount := by
  obtain ⟨reference, account, now, rfl⟩ := h
  exact ⟨rfl, rfl⟩

/-- The row has no negative amount. -/
theorem PayoutRow.nonneg {call : PayoutCall} {t : Transaction} (h : PayoutRow call t) :
    0 ≤ t.amount := by
  rw [h.fields.2]
  exact call.payout.amount_pos.le

/-- Only the row that was just stored is executed. -/
theorem mem_executedRow {t : PayoutSession} {db db' : Db} {i : ℕ}
    (hi : i ∈ executedRow t db db') : i = db.transactions.next := by
  simp only [executedRow] at hi
  split at hi
  · split at hi
    · cases hi
    · exact List.mem_singleton.mp hi
  · split at hi
    · cases hi
    · exact List.mem_singleton.mp hi
  · cases hi

/-- Where no row was stored, none is. -/
theorem executedRow_of_next {t : PayoutSession} {db db' : Db}
    (h : db'.transactions.next = db.transactions.next) : executedRow t db db' = [] := by
  simp only [executedRow, if_pos h]
  split <;> rfl

end Knowledge

/-! ## One statement -/

section Steps

variable {config : PaymentConfig} {refundConfig : RefundConfig} {w : TransferWorld}

/-- An accepted payment had room. -/
theorem payment_keepsCap {t : PaymentSession} {tick : PaymentTick}
    (hcap : WithinCap config.settings w) (hknows : KnowsPayment config.settings t)
    (hguard : keepsCap w (.inl (.inl t)) (.inl (.inl tick)) = true) :
    WithinCap config.settings
      { w with desk := (t.call.step config (w.store, w.desk) tick t.phase).1 } := by
  obtain ⟨call, phase⟩ := t
  refine hcap.desk ?_
  rcases call.step_accepted config (w.store, w.desk) tick phase with
    hsame | ⟨ticket, psp, rfl, hreply, hmore⟩
  · exact Or.inl hsame
  · refine Or.inr ⟨_, hmore, fun userId month => ?_⟩
    have hcovers : w.monthTotal call.userId (monthStart ticket.timestamp) ≤ ticket.counted := by
      simpa [keepsCap, hreply, TransferWorld.coversMonth] using hguard
    obtain ⟨-, hfits⟩ := hknows ticket.counted rfl
    unfold paymentWeight
    split
    · rename_i hcounts
      obtain ⟨huser, -, hmonth⟩ := hcounts
      obtain rfl : call.userId = userId := huser
      obtain rfl : monthStart ticket.timestamp = month := hmonth
      show w.monthTotal call.userId (monthStart ticket.timestamp) + call.payment.amount.value ≤ _
      linarith
    · rw [add_zero]
      exact hcap.capped userId month

/-- An accepted payout had room; previews and failed payouts do not count. -/
theorem payout_keepsCap {t : PayoutSession} {tick : PayoutTick}
    (hcap : WithinCap config.settings w) (hknows : KnowsPayout config.settings t)
    (hguard : keepsCap w (.inl (.inr t)) (.inl (.inr tick)) = true) {s' : Store}
    (hs' : (t.call.step config.settings w.store tick t.phase).1 = s') :
    WithinCap config.settings
      { w with store := s', executed := w.executed ++ executedRow t w.store.db s'.db } := by
  obtain ⟨call, phase⟩ := t
  rcases payout_write config.settings call w.store tick phase with
    ⟨htransactions, hrefunds⟩ | ⟨row, transactions, hrow, hfault, hinsert, hwritten⟩
  · rw [hs'] at htransactions hrefunds
    rw [executedRow_of_next (congrArg Table.next htransactions), List.append_nil]
    refine hcap.store (fun userId month => ?_) (fun i r hget => ?_) (fun r hr => ?_) ?_
    · rw [payoutTotal, htransactions, hrefunds, payoutTotal]
    · rw [htransactions] at hget
      exact hcap.paymentsNonneg i r hget
    · rw [hrefunds] at hr
      exact hcap.refundsNonneg r hr
    · rw [htransactions]
  · obtain rfl := hwritten.symm.trans hs'
    cases phase with
    | previewing draft transaction =>
        obtain rfl := Option.some.inj hrow
        refine hcap.rowStored hinsert (PayoutRow.nonneg hknows) (fun i hi => nomatch hi)
          fun userId month => Or.inl ?_
        -- the row of a preview is not among the executed ones
        have hfresh : w.store.db.transactions.next ∉ w.executed := fun hmem =>
          lt_irrefl _ (hcap.executedStored _ hmem)
        exact if_neg fun hcounts => hfresh (by simpa [executedRow] using hcounts.1)
    | failing draft transaction =>
        obtain rfl := Option.some.inj hrow
        have hprepared : PayoutRow call transaction := hknows
        refine hcap.rowStored hinsert hprepared.nonneg (fun i hi => mem_executedRow hi)
          fun userId month => Or.inl ?_
        exact if_neg fun hcounts => hcounts.2.2.2.2 rfl
    | accepted draft transaction result =>
        obtain rfl := Option.some.inj hrow
        obtain ⟨⟨-, hfits⟩, hprepared⟩ : Admits config.settings call.payout.currency
          call.payout.amount draft.counted ∧ PayoutRow call transaction := hknows
        obtain ⟨huser, hamount⟩ := hprepared.fields
        have hcovers : w.monthTotal call.userId (monthStart transaction.createdAt) ≤
            draft.counted := by
          simpa [keepsCap, hfault, TransferWorld.coversMonth] using hguard
        refine hcap.rowStored hinsert hprepared.nonneg (fun i hi => mem_executedRow hi)
          fun userId month => ?_
        by_cases hcounts : transaction.userId = userId ∧ monthStart transaction.createdAt = month
        · obtain ⟨rfl, rfl⟩ := hcounts
          right
          show w.monthTotal transaction.userId (monthStart transaction.createdAt) +
            transaction.amount ≤ _
          rw [huser, hamount]
          linarith
        · exact Or.inl (if_neg fun hall => hcounts ⟨hall.2.1, hall.2.2.2.1⟩)
    | requested => cases hrow
    | opening draft => cases hrow
    | provisioning draft => cases hrow
    | reselecting draft => cases hrow
    | recording draft account => cases hrow
    | issuing draft transaction => cases hrow
    | awaiting draft transaction => cases hrow
    | answering answer => cases hrow

/-- The other sessions only lower the total. -/
theorem stored_keepsCap {t : StoreSession} {x : StoreTick} {s' : Store}
    (hwrite : StoreWrite refundConfig w.store t x s') (hcap : WithinCap config.settings w)
    (hknows : TransferKnows config.settings (.inr t))
    (hguard : keepsCap w (.inr t) (.inr x) = true) :
    WithinCap config.settings { w with store := s' } := by
  cases hwrite with
  | untouched htransactions hrefunds =>
      refine hcap.store (fun userId month => ?_) (fun i r hget => ?_) (fun r hr => ?_) ?_
      · rw [payoutTotal, htransactions, hrefunds, payoutTotal]
      · rw [htransactions] at hget
        exact hcap.paymentsNonneg i r hget
      · rw [hrefunds] at hr
        exact hcap.refundsNonneg r hr
      · rw [htransactions]
  | refundStored hphase hinsert htransactions =>
      subst hphase
      exact hcap.refundStored hinsert htransactions hknows
  | committed hfault hwork hflush htransactions hrefunds =>
      have hkept := hguard
      simp only [keepsCap, hfault, hwork, Bool.false_or, Option.all_some] at hkept
      exact hcap.flush hflush hkept htransactions hrefunds

end Steps

/-! ## Every interleaving

The outline of all transfers. -/

section Runs

variable {config : PaymentConfig} {refundConfig : RefundConfig}

/-- A statement that meets the guard keeps the cap. -/
theorem TransferStep.keepsCap {w w' : TransferWorld} {t : TransferSession} {x : TransferTick}
    {o : Option TransferSession} (h : TransferStep config refundConfig w t x w' o)
    (hcap : WithinCap config.settings w) (hknows : TransferKnows config.settings t)
    (hguard : keepsCap w t x = true) : WithinCap config.settings w' := by
  cases h with
  | @payment t tick desk next hstep =>
      have hkept := payment_keepsCap hcap hknows hguard
      rw [hstep] at hkept
      exact hkept
  | @payout t tick s' next hstep =>
      exact payout_keepsCap hcap hknows hguard (congrArg Prod.fst hstep)
  | stored hstep => exact stored_keepsCap (storeSessions_advance hstep) hcap hknows hguard

/-- After a statement the session knows what it has to. -/
theorem TransferStep.knows (hproduction : config.settings.isProduction = true)
    {w w' : TransferWorld} {t t' : TransferSession} {x : TransferTick}
    (h : TransferStep config refundConfig w t x w' (some t'))
    (hcap : WithinCap config.settings w) (hknows : TransferKnows config.settings t) :
    TransferKnows config.settings t' := by
  generalize ho : some t' = o at h
  cases h with
  | @payment t tick desk next hstep =>
      obtain ⟨phase, hnext, rfl⟩ := Option.map_eq_some_iff.mp ho.symm
      have hphase : (t.call.step config (w.store, w.desk) tick t.phase).2 = some phase := by
        rw [hstep]
        exact hnext
      exact knowsPayment_step hproduction hphase hknows
  | @payout t tick s' next hstep =>
      obtain ⟨phase, hnext, rfl⟩ := Option.map_eq_some_iff.mp ho.symm
      have hspec := t.call.step_spec config.settings w.store tick t.phase
      rw [hstep, hnext] at hspec
      exact hspec.knows hproduction hknows
  | @stored t x s' o hstep =>
      obtain ⟨u, hu, rfl⟩ := Option.map_eq_some_iff.mp ho.symm
      rw [hu] at hstep
      rcases t with t | t
      -- a refund request knows its order; deliveries and workers know nothing
      · obtain ⟨tick, s₁, o₁, -, hadv, hr⟩ := Sessions.sum_advance_inl hstep
        obtain ⟨next, hrefund, rfl⟩ := createKoraRefund_advance hadv
        obtain ⟨v, hv, rfl⟩ := Option.map_eq_some_iff.mp (Prod.mk.inj hr).2.symm
        obtain ⟨phase, rfl, rfl⟩ := Option.map_eq_some_iff.mp hv
        exact hrefund.orderNonneg hcap.paymentsNonneg hknows
      · obtain ⟨y, s₁, o₁, -, -, hr⟩ := Sessions.sum_advance_inr hstep
        obtain ⟨v, -, rfl⟩ := Option.map_eq_some_iff.mp (Prod.mk.inj hr).2.symm
        trivial

/-- The outline. -/
theorem monthlyCap_outline (hproduction : config.settings.isProduction = true) :
    Outline (transfers config refundConfig) (fun p a => capGuard p a = true)
      (WithinCap config.settings) (fun _ t => TransferKnows config.settings t)
      (fun _ _ => True) where
  opened w request _ := by
    rcases request with (call | call) | (call | call)
    · exact fun counted hcounted => nomatch hcounted
    · trivial
    · trivial
    · trivial
  openedCompat _ _ := ⟨trivial, trivial⟩
  global p i t x w' o h ht hadv hguard := by
    have hkeeps : keepsCap p.store t x = true := by simpa [capGuard, ht] using hguard
    exact (transfers_advance hadv).keepsCap h.global (h.each i t ht) hkeeps
  own p i t x w' t' h ht hadv _ :=
    (transfers_advance hadv).knows hproduction h.global (h.each i t ht)
  others p i t x w' o j u h _ _ _ _ hj := h.each j u hj
  compat _ _ _ _ _ _ _ _ _ _ _ _ _ _ := ⟨trivial, trivial⟩

/-- **The monthly cap.**  In production, in every interleaving of payment, payout and refund
requests with webhook deliveries and reconciliation workers, in which a transfer is only
accepted while the total its check has read covers what counts, and no commit takes a
failure of an executed payout or the success of a refund back: what a user has transferred
in a month stays within the limit. -/
theorem monthly_cap_holds (hproduction : config.settings.isProduction = true)
    {w : TransferWorld} (start : WithinCap config.settings w)
    {p : Pool TransferWorld TransferSession} {acts : List (PoolAct TransferCall TransferTick)}
    (run : Run (transfers config refundConfig).machine (fun p a => capGuard p a = true)
      (Pool.quiet w) acts p) (userId : ℕ) (month : Instant) :
    p.store.monthTotal userId month ≤ config.settings.kyc1MonthlyLimitXaf := by
  have hmeets := (monthlyCap_outline hproduction).run run (Pool.Meets.quiet start)
  exact hmeets.global.capped userId month

end Runs

/-! ## Two payouts -/

/-- Production, with the default limit of ten million francs. -/
def productionPayments : PaymentConfig where
  settings := productionSettings
  credentials := {}
  sha256 := fun _ => ""

/-- The next `n` statements of the payout request `i`, under the reference it draws. -/
def payoutSteps (i : ℕ) (reference : String) (n : ℕ) : List (PoolAct TransferCall TransferTick) :=
  List.replicate n (.advance i (.inl (.inr
    ⟨0, false, reference, .answered [("reference", .str reference)]⟩)))

/-- The world before its first request, on an empty database. -/
def quietWorld : Pool TransferWorld TransferSession := Pool.quiet (TransferWorld.start Db.empty)

/-- There is nothing to count yet. -/
theorem withinCap_empty : WithinCap productionSettings (TransferWorld.start Db.empty) where
  capped userId month := by
    have hnothing : (TransferWorld.start Db.empty).monthTotal userId month = 0 := add_zero 0
    rw [hnothing]
    exact Nat.cast_nonneg _
  paymentsNonneg i t hget := nomatch Table.mem_of_get hget
  refundsNonneg r hr := nomatch hr
  executedStored i hi := nomatch hi

/-- A payout of four million francs. -/
def fourMillion : PayoutCall := samplePayout 4000000 (by norm_num) true

/-- One payout of four million francs, and then another one. -/
def oneAfterAnother : List (PoolAct TransferCall TransferTick) :=
  [.begin 0 (.inl (.inr fourMillion))] ++ payoutSteps 0 "afm-payout-1" 7 ++
    [.begin 1 (.inl (.inr fourMillion))] ++ payoutSteps 1 "afm-payout-2" 6

/-- The statement on the two payouts, both accepted. -/
theorem monthly_cap_holds_payouts : ∃ p,
    Run (transfers productionPayments sampleConfig).machine (fun p a => capGuard p a = true)
        quietWorld oneAfterAnother p ∧
      p.store.executed = [0, 1] ∧
      p.store.monthTotal 1 0 ≤ productionPayments.settings.kyc1MonthlyLimitXaf := by
  have hrun : ((transfers productionPayments sampleConfig).machine.check capGuard quietWorld
      oneAfterAnother).map (fun p => p.store.executed) = some [0, 1] := by
    decide +kernel
  obtain ⟨p, hcheck, hexecuted⟩ := Option.map_eq_some_iff.mp hrun
  have run := Run.of_check hcheck
  exact ⟨p, run, hexecuted, monthly_cap_holds rfl withinCap_empty run 1 0⟩

/-- A payout of six million francs. -/
def sixMillionPayout : PayoutCall := samplePayout 6000000 sixMillion_pos true

/-- Two payouts of six million francs whose checks both come before either commit. -/
def overlapping : List (PoolAct TransferCall TransferTick) :=
  [.begin 0 (.inl (.inr sixMillionPayout)), .begin 1 (.inl (.inr sixMillionPayout))] ++
    payoutSteps 0 "afm-payout-1" 1 ++ payoutSteps 1 "afm-payout-2" 1 ++
    payoutSteps 0 "afm-payout-1" 6 ++ payoutSteps 1 "afm-payout-2" 5

/-- Both are accepted, and the month's total passes the limit. -/
theorem monthly_cap_overrun : ∃ p,
    Run (transfers productionPayments sampleConfig).machine Unguarded quietWorld overlapping p ∧
      p.store.executed = [0, 1] ∧ p.store.monthTotal 1 0 = 12000000 ∧
      ¬ p.store.monthTotal 1 0 ≤ productionPayments.settings.kyc1MonthlyLimitXaf := by
  have hrun : ((transfers productionPayments sampleConfig).machine.check (fun _ _ => true)
      quietWorld overlapping).map (fun p => (p.store.executed, p.store.monthTotal 1 0)) =
        some ([0, 1], 12000000) := by
    decide +kernel
  obtain ⟨p, hcheck, hseen⟩ := Option.map_eq_some_iff.mp hrun
  obtain ⟨hexecuted, htotal⟩ := Prod.mk.inj hseen
  refine ⟨p, (Run.of_check hcheck).unguarded, hexecuted, htotal, ?_⟩
  rw [htotal]
  norm_num [productionPayments, productionSettings]

end AfricaFrontier
