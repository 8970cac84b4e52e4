import AfricaFrontier.Kora.RefundRoute
import AfricaFrontier.Payments.Creation

/-!
# Refunds stay within the payment

The refunds of a payment that have not failed must not add up to more than the
payment.  The route compares each refund with the payment alone, and does not look
at the refunds already issued; and a refund that failed can come back to life when
a late callback, or the route's own late answer, overwrites its state.

`leavesRoom` is the missing comparison, at the two kinds of commits that raise the
sum.  Under it the sum is an invariant of every interleaving of refund requests and
webhook deliveries.

A refund request raises the sum when it stores its row; a commit raises it when it takes a refund
out of `failed`. All other statements leave it or lower it (`outstandingAmount_writeBack`). The
comparison is asked for where such a statement goes through: one that fails, or whose row the
constraints refuse, leaves the sum as it is and is not asked anything.

The bound is stated with the parts of the database it is about, the transactions and the refunds,
so that a statement which touches neither keeps it by itself.
-/

namespace AfricaFrontier

open Python Relational Transition

/-- What a refund counts towards the payment `i`. -/
def outstandingAmount (i : ℕ) (r : KoraRefund) : ℚ :=
  if r.transactionId = i ∧ r.status ≠ "failed" then r.amount else 0

/-- The sum of the refunds of the payment `i` that have not failed, those still in flight
included. -/
def outstanding (i : ℕ) (refunds : Table KoraRefund) : ℚ := refunds.sum (outstandingAmount i)

/-- No payment is refunded beyond its amount. The two signs are part of it, since a negative
amount would make room for others. -/
structure RefundsWithin (transactions : Table Transaction) (refunds : Table KoraRefund) :
    Prop where
  paymentsNonneg : ∀ i t, transactions.get i = some t → 0 ≤ t.amount
  refundsNonneg : ∀ r ∈ refunds, 0 ≤ r.amount
  within : ∀ i t, transactions.get i = some t → outstanding i refunds ≤ t.amount

/-- Before the first refund there is nothing to check but the payments. -/
theorem RefundsWithin.of_no_refunds {transactions : Table Transaction}
    (h : ∀ i t, transactions.get i = some t → 0 ≤ t.amount) :
    RefundsWithin transactions Table.empty where
  paymentsNonneg := h
  refundsNonneg r hr := by
    have hrows : r ∈ ([] : List KoraRefund) := hr
    cases hrows
  within i t hget := by
    rw [outstanding, Table.sum_empty]
    exact h i t hget

/-! ## The guard

It compares on the rows before the statement, as a check in the code would. -/

/-- The payment has room for one more refund of this amount. -/
def fitsPayment (i : ℕ) (amount : ℚ) (db : Db) : Bool :=
  match db.transactions.get i with
  | none => true
  | some t => decide (outstanding i db.refunds + amount ≤ t.amount)

/-- The stored refund a commit would take out of `failed`. -/
def revivedRefund (work : UnitOfWork) (db : Db) : Option KoraRefund :=
  work.refund.bind fun d =>
    (db.refunds.get d.loaded.id).filter fun r =>
      decide (r.status = "failed" ∧ (KoraRefund.writeBack d r).status ≠ "failed")

/-- A refund the commit revives still fits its payment. -/
def revivalFits (work : UnitOfWork) (db : Db) : Bool :=
  (revivedRefund work db).all fun r => fitsPayment r.transactionId r.amount db

/-- A commit that goes through leaves room. -/
def commitFits (work : UnitOfWork) (db : Db) : Bool :=
  !(work.flush db).isOk || revivalFits work db

/-- An insert that goes through leaves room. -/
def insertFits (config : RefundConfig) (order : RefundOrder) (now : Instant) (db : Db) : Bool :=
  (insertRefund config order now db).isNone ||
    fitsPayment order.transaction.id order.amount db

/-- Every refund that is stored, and every one that comes back from `failed`, fits
its payment together with the others.  Of a statement that fails nothing is asked. -/
def leavesRoom (config : RefundConfig) (p : Pool Store (DeliverySession ⊕ RefundSession)) :
    PoolAct (Delivery ⊕ RefundCall) (Tick ⊕ RefundTick) → Bool
  | .advance i (.inl tick) =>
      match p.session i with
      | some (.inl ⟨_, .staged _ work⟩) => tick.fault || commitFits work p.store.db
      | _ => true
  | .advance i (.inr tick) =>
      match p.session i with
      | some (.inr ⟨_, .inserting order⟩) =>
          tick.fault || insertFits config order tick.now p.store.db
      | some (.inr ⟨_, .staged work _⟩) => tick.fault || commitFits work p.store.db
      | _ => true
  | _ => true

/-- A commit that goes through is asked the comparison. -/
theorem revivalFits_of_commitFits {work : UnitOfWork} {db db' : Db}
    (hflush : work.flush db = .ok db') (h : commitFits work db = true) :
    revivalFits work db = true := by
  simpa [commitFits, hflush, Except.isOk, Except.toBool] using h

/-- Whether a refund can be stored does not depend on the time. -/
theorem fitsPayment_of_insertFits {config : RefundConfig} {order : RefundOrder}
    {now now' : Instant} {db : Db} {refunds : Table KoraRefund}
    (hinsert : insertRefund config order now' db = some refunds)
    (h : insertFits config order now db = true) :
    fitsPayment order.transaction.id order.amount db = true := by
  have hstored : ∃ refunds, insertRefund config order now db = some refunds := by
    have hclear := Table.not_clash_of_insert (insertRefund_some hinsert)
    obtain ⟨refunds', hrefunds⟩ := Table.exists_insert
      (fun n => refundRecord config order n now) (fun _ => rfl) hclear
    have hfits : (refundRecord config order 0 now').fits = true := by
      unfold insertRefund at hinsert
      split at hinsert
      · assumption
      · cases hinsert
    exact ⟨refunds', (if_pos hfits).trans hrefunds⟩
  obtain ⟨refunds', hrefunds⟩ := hstored
  simpa [insertFits, hrefunds] using h

/-- A statement that fails leaves the rows as they are. -/
theorem Delivery.step_fault {d : Delivery} {s : Store} {tick : Tick} (phase : DeliveryPhase)
    (hfault : tick.fault = true) : (d.step s tick phase).1.db = s.db := by
  cases phase with
  | answering answer => rfl
  | conflicting => rfl
  | _ => simp only [Delivery.step, hfault, if_true]

/-- A statement of a refund request that fails leaves the rows as they are. -/
theorem RefundCall.step_fault {config : RefundConfig} {call : RefundCall} {s : Store}
    {tick : RefundTick} (phase : RefundPhase) (hfault : tick.fault = true) :
    (call.step config s tick phase).1.db = s.db := by
  cases phase with
  | requested =>
      simp only [RefundCall.step, hfault, if_true]
      split <;> rfl
  | issuing transaction record =>
      simp only [RefundCall.step]
      split <;> rfl
  | awaiting transaction record =>
      simp only [RefundCall.step]
      split <;> rfl
  | answering answer => rfl
  | _ => simp only [RefundCall.step, hfault, if_true]

/-! ## What the statements do to the sum

One refund at a time is written, and counts towards one payment. -/

/-- A commit changes the sum by the one refund it writes back. -/
theorem outstanding_flush {u : UnitOfWork} {db db' : Db} (h : u.flush db = .ok db') (i : ℕ) :
    outstanding i db'.refunds = outstanding i db.refunds ∨
      ∃ d r, u.refund = some d ∧ db.refunds.get d.loaded.id = some r ∧
        outstanding i db'.refunds + outstandingAmount i r =
          outstanding i db.refunds + outstandingAmount i (KoraRefund.writeBack d r) := by
  rw [(UnitOfWork.flush_ok h).2.1]
  unfold UnitOfWork.refundsAfter
  cases hrefund : u.refund with
  | none => exact Or.inl rfl
  | some d =>
      simp only
      cases hget : db.refunds.get d.loaded.id with
      | none =>
          left
          rw [outstanding, Table.sum, Table.modify_rows_eq_self, ← Table.sum, ← outstanding]
          intro r hr
          rw [hget] at hr
          cases hr
      | some r => exact Or.inr ⟨d, r, rfl, hget, Table.sum_modify hget _⟩

/-- Writing a refund back raises the sum only by reviving it. -/
theorem outstandingAmount_writeBack (i : ℕ) (d : Dirty KoraRefund) (r : KoraRefund)
    (hr : 0 ≤ r.amount) :
    outstandingAmount i (KoraRefund.writeBack d r) ≤ outstandingAmount i r ∨
      (r.transactionId = i ∧ r.status = "failed" ∧
        (KoraRefund.writeBack d r).status ≠ "failed" ∧
        outstandingAmount i (KoraRefund.writeBack d r) = outstandingAmount i r + r.amount) := by
  have hid : (KoraRefund.writeBack d r).transactionId = r.transactionId := rfl
  have hamount : (KoraRefund.writeBack d r).amount = r.amount := rfl
  unfold outstandingAmount
  rw [hid, hamount]
  by_cases hi : r.transactionId = i
  · by_cases hbefore : r.status = "failed"
    · by_cases hafter : (KoraRefund.writeBack d r).status = "failed"
      · exact Or.inl (by simp [hbefore, hafter])
      · exact Or.inr ⟨hi, hbefore, hafter, by simp [hi, hbefore, hafter]⟩
    · left
      have hcounted : (if r.transactionId = i ∧ r.status ≠ "failed" then r.amount else 0) =
          r.amount := if_pos ⟨hi, hbefore⟩
      rw [hcounted]
      split
      · exact le_rfl
      · exact hr
  · exact Or.inl (by simp [hi])

/-- The comparison, for a stored payment. -/
theorem fitsPayment_iff {i : ℕ} {amount : ℚ} {db : Db} {t : Transaction}
    (hget : db.transactions.get i = some t) :
    fitsPayment i amount db = true ↔ outstanding i db.refunds + amount ≤ t.amount := by
  simp [fitsPayment, hget]

/-- A commit that revives nothing beyond its payment keeps the bound. -/
theorem RefundsWithin.flush {u : UnitOfWork} {db db' : Db} (h : u.flush db = .ok db')
    (hfits : revivalFits u db = true) (hwithin : RefundsWithin db.transactions db.refunds) :
    RefundsWithin db'.transactions db'.refunds where
  paymentsNonneg i t' hget := by
    obtain ⟨t, ht, ⟨rfl, -⟩ | ⟨d, -, -, rfl⟩⟩ := UnitOfWork.flush_transactions_get h hget
    · exact hwithin.paymentsNonneg i t' ht
    · exact hwithin.paymentsNonneg i t ht
  refundsNonneg r' hr' := by
    obtain ⟨r, hr, ⟨rfl, -⟩ | ⟨d, -, -, rfl⟩⟩ := UnitOfWork.flush_refunds_mem h hr'
    · exact hwithin.refundsNonneg r' hr
    · exact hwithin.refundsNonneg r hr
  within i t' hget := by
    obtain ⟨t, ht, hcase⟩ := UnitOfWork.flush_transactions_get h hget
    have hamount : t'.amount = t.amount := by
      rcases hcase with ⟨rfl, -⟩ | ⟨d, -, -, rfl⟩
      · rfl
      · rfl
    rw [hamount]
    have hbefore : outstanding i db.refunds ≤ t.amount := hwithin.within i t ht
    rcases outstanding_flush h i with hsame | ⟨d, r, hrefund, hr, hsum⟩
    · exact hsame.trans_le hbefore
    -- a refund that comes back from `failed` is the one way to raise the sum
    · have hnonneg : 0 ≤ r.amount := hwithin.refundsNonneg r (Table.mem_of_get hr)
      rcases outstandingAmount_writeBack i d r hnonneg with hless | ⟨rfl, hfailed, hlive, hmore⟩
      · linarith
      · have hrevived : revivedRefund u db = some r := by
          simp [revivedRefund, hrefund, hr, hfailed, hlive]
        have hroom : fitsPayment r.transactionId r.amount db = true := by
          simpa [revivalFits, hrevived] using hfits
        have hle := (fitsPayment_iff ht).mp hroom
        linarith

/-- Storing a refund adds its amount to its own payment. -/
theorem outstanding_insertRefund {config : RefundConfig} {order : RefundOrder} {now : Instant}
    {db : Db} {refunds : Table KoraRefund}
    (h : insertRefund config order now db = some refunds) (i : ℕ) :
    outstanding i refunds =
      outstanding i db.refunds + if order.transaction.id = i then order.amount else 0 := by
  rw [outstanding, Table.sum_insert (insertRefund_some h), ← outstanding]
  simp [outstandingAmount, refundRecord]

/-- **The check that is missing.**  A refund may be stored without breaking the bound
of its payment exactly when it fits together with those already there. -/
theorem insertRefund_within_iff {config : RefundConfig} {order : RefundOrder} {now : Instant}
    {db : Db} {refunds : Table KoraRefund} {t : Transaction}
    (h : insertRefund config order now db = some refunds)
    (hget : db.transactions.get order.transaction.id = some t) :
    outstanding order.transaction.id refunds ≤ t.amount ↔
      fitsPayment order.transaction.id order.amount db = true := by
  rw [outstanding_insertRefund h, if_pos rfl, fitsPayment_iff hget]

/-! ## The invariant of a run

The orders in flight are part of it: their amounts were taken from a payment some statements
earlier. -/

/-- The orders in flight have no negative amounts. -/
def OrderNonneg : DeliverySession ⊕ RefundSession → Prop
  | .inl _ => True
  | .inr t =>
      match t.phase with
      | .checked order => 0 ≤ order.amount
      | .inserting order => 0 ≤ order.amount
      | _ => True

/-- A statement of a delivery that meets the guard keeps the bound. -/
theorem DeliveryStep.keepsRefundsWithin {d : Delivery} {s s' : Store} {phase : DeliveryPhase}
    {next : Option DeliveryPhase} (h : DeliveryStep d s phase s' next)
    (hguard : ∀ receipt work, phase = .staged receipt work → commitFits work s.db = true)
    (hwithin : RefundsWithin s.db.transactions s.db.refunds) :
    RefundsWithin s'.db.transactions s'.db.refunds := by
  rcases h.business with ⟨ht, hr, -, -⟩ | ⟨receipt, work, db, hphase, hflush, ht, hr, -, -⟩
  · rw [ht, hr]
    exact hwithin
  · rw [ht, hr]
    exact hwithin.flush hflush (revivalFits_of_commitFits hflush (hguard receipt work hphase))

/-- A statement of a refund request that meets the guard keeps the bound. -/
theorem RefundStep.keepsRefundsWithin {config : RefundConfig} {call : RefundCall}
    {s s' : Store} {phase : RefundPhase} {next : Option RefundPhase}
    (h : RefundStep config call s phase s' next) (now : Instant)
    (hstore : ∀ order, phase = .inserting order →
      insertFits config order now s.db = true ∧ 0 ≤ order.amount)
    (hcommit : ∀ work answer, phase = .staged work answer → commitFits work s.db = true)
    (hwithin : RefundsWithin s.db.transactions s.db.refunds) :
    RefundsWithin s'.db.transactions s'.db.refunds := by
  cases h with
  | @inserted order time refunds hinsert =>
      obtain ⟨hroom, hnonneg⟩ := hstore order rfl
      have hfits := fitsPayment_of_insertFits hinsert hroom
      refine ⟨hwithin.paymentsNonneg, ?_, ?_⟩
      · intro r hr
        rcases (Table.mem_insert (insertRefund_some hinsert)).mp hr with hold | rfl
        · exact hwithin.refundsNonneg r hold
        · exact hnonneg
      · intro i t hget
        have hstored : s.db.transactions.get i = some t := hget
        show outstanding i refunds ≤ t.amount
        rw [outstanding_insertRefund hinsert]
        have hbefore : outstanding i s.db.refunds ≤ t.amount := hwithin.within i t hstored
        -- the sum of the refunded payment grows by the amount, and the guard has compared it
        split
        · rename_i hi
          subst hi
          exact (fitsPayment_iff hstored).mp hfits
        · simpa using hbefore
  -- the commit stores an answer, which may bring a failed refund back
  | @committed work answer db hflush =>
      exact hwithin.flush hflush (revivalFits_of_commitFits hflush (hcommit work answer rfl))
  | ended => exact hwithin
  | loaded hcheck => exact hwithin
  | replayed hselect => exact hwithin
  | fresh hselect => exact hwithin
  | instructed => exact hwithin
  | declined => exact hwithin
  | issued => exact hwithin
  | refused => exact hwithin
  | answered => exact hwithin

/-- An order taken from a payment without a negative amount has none either. -/
theorem RefundStep.orderNonneg {config : RefundConfig} {call : RefundCall}
    {s s' : Store} {phase phase' : RefundPhase}
    (h : RefundStep config call s phase s' (some phase'))
    (hpayments : ∀ i t, s.db.transactions.get i = some t → 0 ≤ t.amount)
    (hown : OrderNonneg (.inr ⟨call, phase⟩)) : OrderNonneg (.inr ⟨call, phase'⟩) := by
  cases h with
  | @loaded order hcheck =>
      obtain ⟨hfound, -, -⟩ := checkRefund_ok hcheck
      exact RefundOrder.amount_nonneg hcheck (hpayments _ _ hfound)
  | fresh hselect => exact hown
  | ended => trivial
  | replayed hselect => trivial
  | inserted hinsert => trivial
  | instructed => trivial
  | declined => trivial
  | issued => trivial
  | refused => trivial
  | committed hflush => trivial

/-- The outline of requests and deliveries. -/
theorem refundBound_outline (config : RefundConfig) :
    Outline (refundTraffic config) (fun p a => leavesRoom config p a = true)
      (fun s => RefundsWithin s.db.transactions s.db.refunds) (fun _ t => OrderNonneg t)
      (fun _ _ => True) where
  opened s request _ := by cases request <;> trivial
  openedCompat _ _ := ⟨trivial, trivial⟩
  global p i t x s' o h ht hadv hguard := by
    cases t with
    | inl u =>
        obtain ⟨tick, s₁, o₁, rfl, hu, hr⟩ := Sessions.sum_advance_inl hadv
        obtain ⟨rfl, -⟩ := Prod.mk.inj hr
        cases hfault : tick.fault with
        -- a statement that fails changes nothing
        | true =>
            obtain ⟨rfl, -⟩ := Prod.mk.inj (Option.some.inj hu)
            rw [Delivery.step_fault u.phase hfault]
            exact h.global
        | false =>
            obtain ⟨next, hstep, -⟩ := koraWebhook_advance hu
            refine hstep.keepsRefundsWithin (fun receipt work hphase => ?_) h.global
            obtain ⟨d, phase⟩ := u
            subst hphase
            simpa [leavesRoom, ht, hfault] using hguard
    | inr u =>
        obtain ⟨tick, s₁, o₁, rfl, hu, hr⟩ := Sessions.sum_advance_inr hadv
        obtain ⟨rfl, -⟩ := Prod.mk.inj hr
        cases hfault : tick.fault with
        | true =>
            obtain ⟨rfl, -⟩ := Prod.mk.inj (Option.some.inj hu)
            rw [RefundCall.step_fault u.phase hfault]
            exact h.global
        | false =>
            obtain ⟨next, hstep, -⟩ := createKoraRefund_advance hu
            have hown : OrderNonneg (.inr u) := h.each i _ ht
            obtain ⟨call, phase⟩ := u
            refine hstep.keepsRefundsWithin tick.now (fun order hphase => ?_)
              (fun work answer hphase => ?_) h.global
            · subst hphase
              exact ⟨by simpa [leavesRoom, ht, hfault] using hguard, hown⟩
            · subst hphase
              simpa [leavesRoom, ht, hfault] using hguard
  own p i t x s' t' h ht hadv hguard := by
    cases t with
    | inl u =>
        obtain ⟨tick, s₁, o₁, -, hu, hr⟩ := Sessions.sum_advance_inl hadv
        obtain ⟨v, -, rfl⟩ := Option.map_eq_some_iff.mp (Prod.mk.inj hr).2.symm
        trivial
    | inr u =>
        obtain ⟨tick, s₁, o₁, -, hu, hr⟩ := Sessions.sum_advance_inr hadv
        obtain ⟨next, hstep, rfl⟩ := createKoraRefund_advance hu
        obtain ⟨v, hv, rfl⟩ := Option.map_eq_some_iff.mp (Prod.mk.inj hr).2.symm
        obtain ⟨phase', rfl, rfl⟩ := Option.map_eq_some_iff.mp hv
        exact hstep.orderNonneg h.global.paymentsNonneg (h.each i _ ht)
  others p i t x s' o j u h _ _ _ _ hj := h.each j u hj
  compat _ _ _ _ _ _ _ _ _ _ _ _ _ _ := ⟨trivial, trivial⟩

/-- **A payment is never refunded beyond its amount.**  In every interleaving of
refund requests with each other and with webhook deliveries, in which every refund
that is stored or comes back from `failed` fits its payment together with the
others: for every payment, the refunds that have not failed add up to at most its
amount. -/
theorem refunds_within_payment {config : RefundConfig} {db : Db}
    (hstart : RefundsWithin db.transactions db.refunds)
    {p : Pool Store (DeliverySession ⊕ RefundSession)}
    {as : List (PoolAct (Delivery ⊕ RefundCall) (Tick ⊕ RefundTick))}
    (run : Run (refundTraffic config).machine (fun p a => leavesRoom config p a = true)
      (Pool.quiet (Store.start db)) as p)
    {i : ℕ} {t : Transaction} (hget : p.store.db.transactions.get i = some t) :
    outstanding i p.store.db.refunds ≤ t.amount := by
  have hmeets := (refundBound_outline config).run run (Pool.Meets.quiet hstart)
  exact hmeets.global.within i t hget

/-- A pay-in without refunds is within its amount. -/
theorem RefundsWithin.completedPayin :
    RefundsWithin (Db.holding completedPayin).transactions (Db.holding completedPayin).refunds := by
  refine RefundsWithin.of_no_refunds fun i t hget => ?_
  have hmem : t ∈ [AfricaFrontier.completedPayin] := Table.mem_of_get hget
  rw [List.mem_singleton.mp hmem]
  decide +kernel

/-- Two refunds of the given amounts, issued one after the other under two keys. -/
def twoRefunds (first second : Option ℚ) (h₁ : ∀ a ∈ first, 0 < a) (h₂ : ∀ a ∈ second, 0 < a) :
    List (PoolAct (Delivery ⊕ RefundCall) (Tick ⊕ RefundTick)) :=
  refundRequested 0 (sampleCall "refund-key-1" first h₁) 7 "processing" ++
    refundRequested 1 (sampleCall "refund-key-2" second h₂) 7 "processing"

/-- The amounts of the two refunds are positive. -/
theorem fourHundred_pos : ∀ a ∈ (some 400 : Option ℚ), 0 < a := by
  simp

theorem sixHundred_pos : ∀ a ∈ (some 600 : Option ℚ), 0 < a := by
  simp

/-- The statement on two refunds that come to the payment. -/
theorem refunds_within_payment_partial :
    ∃ p t, Run (refundTraffic sampleConfig).machine (fun p a => leavesRoom sampleConfig p a = true)
        (Pool.quiet (Store.start (Db.holding completedPayin)))
        (twoRefunds (some 400) (some 600) fourHundred_pos sixHundred_pos) p ∧
      p.store.db.transactions.get 0 = some t ∧ p.store.instructions.length = 2 ∧
      outstanding 0 p.store.db.refunds ≤ t.amount := by
  have hcheck : ((refundTraffic sampleConfig).machine.check (leavesRoom sampleConfig)
      (Pool.quiet (Store.start (Db.holding completedPayin)))
      (twoRefunds (some 400) (some 600) fourHundred_pos sixHundred_pos)).map
        (fun p => (p.store.db.transactions.get 0 |>.map (·.id), p.store.instructions.length)) =
      some (some 0, 2) := by
    decide +kernel
  obtain ⟨p, hp, hreached⟩ := Option.map_eq_some_iff.mp hcheck
  obtain ⟨hstored, hsent⟩ := Prod.mk.inj hreached
  obtain ⟨t, hget, -⟩ := Option.map_eq_some_iff.mp hstored
  have run := Run.of_check hp
  exact ⟨p, t, run, hget, hsent,
    refunds_within_payment RefundsWithin.completedPayin run hget⟩

/-- Two requests for the full amount, under two keys, refund the payment twice. -/
theorem refunded_twice :
    ∃ p t, Run (refundTraffic sampleConfig).machine Unguarded
        (Pool.quiet (Store.start (Db.holding completedPayin)))
        (twoRefunds none none (by simp) (by simp)) p ∧
      p.store.db.transactions.get 0 = some t ∧ t.amount = 1000 ∧
      outstanding 0 p.store.db.refunds = 2000 ∧
      ¬ outstanding 0 p.store.db.refunds ≤ t.amount := by
  have hcheck : ((refundTraffic sampleConfig).machine.check (fun _ _ => true)
      (Pool.quiet (Store.start (Db.holding completedPayin)))
      (twoRefunds none none (by simp) (by simp))).map
        (fun p => (p.store.db.transactions.get 0 |>.map (·.amount),
          outstanding 0 p.store.db.refunds)) =
      some (some 1000, 2000) := by
    decide +kernel
  obtain ⟨p, hp, hreached⟩ := Option.map_eq_some_iff.mp hcheck
  obtain ⟨hstored, hsum⟩ := Prod.mk.inj hreached
  obtain ⟨t, hget, hamount⟩ := Option.map_eq_some_iff.mp hstored
  refine ⟨p, t, (Run.of_check hp).unguarded, hget, hamount, hsum, ?_⟩
  rw [hsum, hamount]
  norm_num

end AfricaFrontier
