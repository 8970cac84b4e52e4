import AfricaFrontier.Kora.RefundRoute
import AfricaFrontier.Payments.Creation

/-!
# Refund, payment and ledger stay coherent

For a refund of a payment with an account, three records say whether the money went
back: the refund's status, the payment's status, and the reversal entry in the
ledger.  A successful callback writes all three in one commit.  The other writers
write the refund's status alone: the route, from a copy it made before its provider
call, and the callbacks that report a failure or a pending state.

`coherentStep` names the commits and checks that keep the three together: nobody
takes a refund out of `success`; the route does not bring it there; and no two
callbacks have found the reversal missing at once.

The proof has three layers.

* A commit that stages no entry, leaves the payment's status and writes `success` only over a
  success is `Neutral`, and keeps coherence by itself. The route's commits and the callbacks that
  report no success are of this kind, where the step is a guarded one.
* The commit of a successful callback writes all three records. What it needs to know of the rows
  it loaded some statements earlier is that they are still there, that a success is still one, and
  that its duplicate check still holds (`RefundKnown`, `ParentKnown`, `CheckHolds`). The lemmas
  that begin with `successCommit` put the three records together afterwards.
* Between two statements of a session the others make progress and nothing else
  (`RefundProgress`), which keeps the first two of these; the third is kept because no two
  sessions are about to commit a reversal of one refund (`NotBothReverse`).

`refundCoherence_outline` collects them for callbacks and requests over one store.
-/

namespace AfricaFrontier

open Python Relational Transition

/-! ## The three records -/

/-- A reversal entry of the refund with this reference. -/
def reversalOf (reference : String) (e : VirtualLedgerEntry) : Bool :=
  e.referenceType = "kora_refund" && e.referenceId = reference

/-- The number of reversal entries of a refund. -/
def reversals (reference : String) (db : Db) : ℕ :=
  db.ledger.rows.countP (reversalOf reference)

/-- A commit adds the reversal it stages. -/
theorem reversals_flush {reference : String} {u : UnitOfWork} {db db' : Db}
    (h : u.flush db = .ok db') :
    reversals reference db' =
      reversals reference db + if u.newEntry.any (reversalOf reference) then 1 else 0 :=
  UnitOfWork.flush_countP h fun _ _ => rfl

/-- The entry of a refund is its reversal. -/
theorem reversalOf_refundEntry (reference : String) (refund : KoraRefund) (t : Transaction)
    (account : ℕ) :
    reversalOf reference (refundEntry refund t account) =
      decide (refund.refundReference = reference) := by
  by_cases h : refund.refundReference = reference
  · simp [reversalOf, refundEntry, h]
  · simp [reversalOf, refundEntry, h]

/-- A refund of a payment with an account has succeeded with exactly one reversal and
a refunded payment, or has not and there is no reversal; and every reversal belongs
to a refund. -/
structure RefundsCoherent (db : Db) : Prop where
  settled : ∀ r ∈ db.refunds, ∀ t, db.transactions.get r.transactionId = some t →
    t.virtualAccountId.isSome = true → r.status = "success" →
    reversals r.refundReference db = 1 ∧ t.status = .refunded
  unsettled : ∀ r ∈ db.refunds, ∀ t, db.transactions.get r.transactionId = some t →
    t.virtualAccountId.isSome = true → r.status ≠ "success" →
    reversals r.refundReference db = 0
  owned : ∀ reference, 0 < reversals reference db →
    ∃ r ∈ db.refunds, r.refundReference = reference

/-- Before the first refund, provided the ledger holds no reversal. -/
theorem RefundsCoherent.of_no_refunds {db : Db} (hrefunds : db.refunds = Table.empty)
    (hledger : ∀ reference, reversals reference db = 0) : RefundsCoherent db where
  settled r hr := by
    rw [hrefunds] at hr
    have hrows : r ∈ ([] : List KoraRefund) := hr
    cases hrows
  unsettled r hr := by
    rw [hrefunds] at hr
    have hrows : r ∈ ([] : List KoraRefund) := hr
    cases hrows
  owned reference h := by
    rw [hledger] at h
    exact absurd h (lt_irrefl 0)

/-- In a coherent database a refund has succeeded exactly when its one reversal is
there and its payment is refunded. -/
theorem RefundsCoherent.success_iff {db : Db} (h : RefundsCoherent db) {r : KoraRefund}
    (hr : r ∈ db.refunds) {t : Transaction}
    (ht : db.transactions.get r.transactionId = some t)
    (haccount : t.virtualAccountId.isSome = true) :
    r.status = "success" ↔ reversals r.refundReference db = 1 ∧ t.status = .refunded := by
  constructor
  · intro hsuccess
    exact h.settled r hr t ht haccount hsuccess
  · rintro ⟨hone, -⟩
    by_contra hne
    have hzero := h.unsettled r hr t ht haccount hne
    omega

/-! ## What only moves forward

A success and a refunded payment are final in a coherent run, which is part of the result and not
only of its proof. -/

/-- Refunds and payments stay, a success and a refunded payment are final, and
reversals only accumulate. -/
structure RefundProgress (db db' : Db) : Prop where
  refunds : ∀ i r, db.refunds.get i = some r → ∃ r', db'.refunds.get i = some r' ∧
    r'.refundReference = r.refundReference ∧ r'.transactionId = r.transactionId ∧
    (r.status = "success" → r'.status = "success")
  transactions : ∀ i t, db.transactions.get i = some t →
    ∃ t', db'.transactions.get i = some t' ∧ t'.virtualAccountId = t.virtualAccountId ∧
      (t.status = .refunded → t'.status = .refunded)
  reversals : ∀ reference, AfricaFrontier.reversals reference db ≤
    AfricaFrontier.reversals reference db'

instance : IsPreorder Db RefundProgress where
  refl db := ⟨fun i r h => ⟨r, h, rfl, rfl, id⟩, fun i t h => ⟨t, h, rfl, id⟩, fun _ => le_rfl⟩
  trans _ _ _ h₁ h₂ := by
    refine ⟨fun i r h => ?_, fun i t h => ?_, fun reference => ?_⟩
    · obtain ⟨r₁, hr₁, href₁, hid₁, hsuccess₁⟩ := h₁.refunds i r h
      obtain ⟨r₂, hr₂, href₂, hid₂, hsuccess₂⟩ := h₂.refunds i r₁ hr₁
      exact ⟨r₂, hr₂, href₂.trans href₁, hid₂.trans hid₁, fun hs => hsuccess₂ (hsuccess₁ hs)⟩
    · obtain ⟨t₁, ht₁, haccount₁, hrefunded₁⟩ := h₁.transactions i t h
      obtain ⟨t₂, ht₂, haccount₂, hrefunded₂⟩ := h₂.transactions i t₁ ht₁
      exact ⟨t₂, ht₂, haccount₂.trans haccount₁, fun hs => hrefunded₂ (hrefunded₁ hs)⟩
    · exact (h₁.reversals reference).trans (h₂.reversals reference)

/-! ## Commits that leave the question open

Whatever they write, the three records say afterwards what they said before. -/

/-- A unit of work that stages no entry, leaves the payment's status, and writes
`success` to its refund exactly when that is what is stored. -/
structure Neutral (u : UnitOfWork) (db : Db) : Prop where
  entry : u.newEntry = none
  payment : ∀ w, u.transaction = some w → w.current.status = w.loaded.status
  refund : ∀ d r, u.refund = some d → db.refunds.get d.loaded.id = some r →
    (d.current.status = "success" ↔ r.status = "success")

section NeutralCommit

variable {u : UnitOfWork} {db db' : Db}

/-- A success stays one when such a refund is written back. -/
theorem Neutral.writeBack_status {d : Dirty KoraRefund} {r : KoraRefund}
    (h : d.current.status = "success" ↔ r.status = "success") :
    (KoraRefund.writeBack d r).status = "success" ↔ r.status = "success" := by
  rcases written_eq_or d.loaded.status d.current.status r.status with hsame | hcurrent
  · rw [KoraRefund.writeBack, hsame]
  · rw [KoraRefund.writeBack, hcurrent]
    exact h

/-- No reversal is added. -/
theorem Neutral.reversals (h : Neutral u db) (hflush : u.flush db = .ok db')
    (reference : String) :
    AfricaFrontier.reversals reference db' = AfricaFrontier.reversals reference db := by
  rw [reversals_flush hflush, h.entry]
  rfl

/-- Nothing final is undone. -/
theorem Neutral.progress (h : Neutral u db) (hflush : u.flush db = .ok db') :
    RefundProgress db db' where
  refunds i r hget := by
    rcases UnitOfWork.flush_refunds_of_get hflush hget with ⟨hsame, -⟩ | ⟨d, hd, rfl, hwritten⟩
    · exact ⟨r, hsame, rfl, rfl, id⟩
    · exact ⟨_, hwritten, rfl, rfl, (Neutral.writeBack_status (h.refund d r hd hget)).mpr⟩
  transactions i t hget := by
    rcases UnitOfWork.flush_transactions_of_get hflush hget with
      ⟨hsame, -⟩ | ⟨w, hw, rfl, hwritten⟩
    · exact ⟨t, hsame, rfl, id⟩
    · refine ⟨_, hwritten, rfl, fun hrefunded => ?_⟩
      rw [Transaction.writeBack, h.payment w hw, written_self]
      exact hrefunded
  reversals reference := (h.reversals hflush reference).ge

/-- A commit that undoes nothing final keeps coherence. -/
theorem Neutral.coherent (h : Neutral u db) (hflush : u.flush db = .ok db')
    (hcoherent : RefundsCoherent db) : RefundsCoherent db' := by
  -- every refund and every payment keeps its side of the question
  have refundSide : ∀ r' ∈ db'.refunds, ∃ r ∈ db.refunds,
      r.refundReference = r'.refundReference ∧ r.transactionId = r'.transactionId ∧
        (r'.status = "success" ↔ r.status = "success") := by
    intro r' hr'
    obtain ⟨r, hr, ⟨rfl, -⟩ | ⟨d, hd, hid, rfl⟩⟩ := UnitOfWork.flush_refunds_mem hflush hr'
    · exact ⟨r', hr, rfl, rfl, Iff.rfl⟩
    · have hget : db.refunds.get d.loaded.id = some r := by
        rw [hid]
        exact Table.get_ident hr
      exact ⟨r, hr, rfl, rfl, Neutral.writeBack_status (h.refund d r hd hget)⟩
  have paymentSide : ∀ i t', db'.transactions.get i = some t' →
      ∃ t, db.transactions.get i = some t ∧ t'.virtualAccountId = t.virtualAccountId ∧
        t'.status = t.status := by
    intro i t' ht'
    obtain ⟨t, ht, ⟨rfl, -⟩ | ⟨w, hw, -, rfl⟩⟩ := UnitOfWork.flush_transactions_get hflush ht'
    · exact ⟨t', ht, rfl, rfl⟩
    · exact ⟨t, ht, rfl, by rw [Transaction.writeBack, h.payment w hw, written_self]⟩
  refine ⟨fun r' hr' t' ht' haccount hsuccess => ?_, fun r' hr' t' ht' haccount hopen => ?_,
    fun reference hpos => ?_⟩
  · obtain ⟨r, hr, href, hid, hstatus⟩ := refundSide r' hr'
    obtain ⟨t, ht, hsame, hpaid⟩ := paymentSide _ t' ht'
    rw [← hid] at ht
    obtain ⟨hone, hrefunded⟩ :=
      hcoherent.settled r hr t ht (by rw [← hsame]; exact haccount) (hstatus.mp hsuccess)
    exact ⟨by rw [h.reversals hflush, ← href]; exact hone, hpaid.trans hrefunded⟩
  · obtain ⟨r, hr, href, hid, hstatus⟩ := refundSide r' hr'
    obtain ⟨t, ht, hsame, -⟩ := paymentSide _ t' ht'
    rw [← hid] at ht
    rw [h.reversals hflush, ← href]
    exact hcoherent.unsettled r hr t ht (by rw [← hsame]; exact haccount)
      fun hs => hopen (hstatus.mpr hs)
  · rw [h.reversals hflush] at hpos
    obtain ⟨r, hr, href⟩ := hcoherent.owned reference hpos
    have hget : db.refunds.get r.id = some r := Table.get_ident hr
    obtain ⟨r', hr', href', -⟩ := (h.progress hflush).refunds r.id r hget
    exact ⟨r', Table.mem_of_get hr', href'.trans href⟩

end NeutralCommit

/-! ## The commit of a successful callback

The session holds copies; what is stored by now may differ from them in the columns that the
others have written. -/

/-- What a session still knows of the refund it loaded. -/
def RefundKnown (refund : KoraRefund) (db : Db) : Prop :=
  ∃ r, db.refunds.get refund.id = some r ∧ r.refundReference = refund.refundReference ∧
    r.transactionId = refund.transactionId ∧
    (refund.status = "success" → r.status = "success")

/-- What it still knows of the payment. -/
def ParentKnown (refund : KoraRefund) (transaction : Transaction) (db : Db) : Prop :=
  ∃ t, db.transactions.get refund.transactionId = some t ∧
    transaction.id = refund.transactionId ∧
    t.virtualAccountId = transaction.virtualAccountId ∧
    (transaction.status = .refunded → t.status = .refunded)

/-- What its duplicate check is still worth: a reversal that was missing is missing,
one that was there is there. -/
def CheckHolds (reference : String) (existing : Option VirtualLedgerEntry) (db : Db) : Prop :=
  (existing = none → reversals reference db = 0) ∧
    (existing ≠ none → 0 < reversals reference db)

/-- What is known of a refund is final. -/
theorem RefundKnown.progress {refund : KoraRefund} {db db' : Db}
    (h : RefundKnown refund db) (hprogress : RefundProgress db db') :
    RefundKnown refund db' := by
  obtain ⟨r, hr, href, hid, hsuccess⟩ := h
  obtain ⟨r', hr', href', hid', hsuccess'⟩ := hprogress.refunds _ r hr
  exact ⟨r', hr', href'.trans href, hid'.trans hid, fun hs => hsuccess' (hsuccess hs)⟩

/-- What is known of the payment of a refund is final. -/
theorem ParentKnown.progress {refund : KoraRefund} {transaction : Transaction} {db db' : Db}
    (h : ParentKnown refund transaction db) (hprogress : RefundProgress db db') :
    ParentKnown refund transaction db' := by
  obtain ⟨t, ht, hid, haccount, hrefunded⟩ := h
  obtain ⟨t', ht', haccount', hrefunded'⟩ := hprogress.transactions _ t ht
  exact ⟨t', ht', hid, haccount'.trans haccount, fun hs => hrefunded' (hrefunded hs)⟩

/-- A callback that stages a reversal stages that of its refund. -/
theorem refundCallback_stages {data : Obj} {now : Instant} {refund : KoraRefund}
    {t : Transaction} {existing : Option VirtualLedgerEntry} {reference : String} :
    (refundCallback data now refund t existing).newEntry.any (reversalOf reference) = true ↔
      callbackReadsLedger data t = true ∧ existing = none ∧
        refund.refundReference = reference := by
  simp only [refundCallback]
  by_cases hreads : callbackReadsLedger data t = true
  · have haccount : t.virtualAccountId.isSome = true := by
      simp only [callbackReadsLedger, Bool.and_eq_true] at hreads
      exact hreads.2
    obtain ⟨account, haccount⟩ := Option.isSome_iff_exists.mp haccount
    cases existing with
    | none => simp [hreads, haccount, reversalOf_refundEntry]
    | some e => simp [hreads]
  · simp [hreads]

/-- The refund a callback stages is the one it loaded, after the callback. -/
theorem refundCallback_refund {data : Obj} {now : Instant} {refund : KoraRefund}
    {t : Transaction} {existing : Option VirtualLedgerEntry} {d : Dirty KoraRefund}
    (h : (refundCallback data now refund t existing).refund = some d) :
    d.loaded = refund ∧ d.current = refundAfterCallback data now refund := by
  cases h
  exact ⟨rfl, rfl⟩

/-- The payment a callback stages is the one it loaded, after the callback. -/
theorem refundCallback_transaction {data : Obj} {now : Instant} {refund : KoraRefund}
    {t : Transaction} {existing : Option VirtualLedgerEntry} {w : Dirty Transaction}
    (h : (refundCallback data now refund t existing).transaction = some w) :
    w.loaded = t ∧ w.current = parentAfterCallback data refund t := by
  cases h
  exact ⟨rfl, rfl⟩

section SuccessCommit

variable {data : Obj} {now : Instant} {refund : KoraRefund} {transaction : Transaction}
variable {existing : Option VirtualLedgerEntry} {db db' : Db}

/-- A success is written to the refund. -/
theorem refundAfterCallback_success (h : classify (statusValue data) = .success) :
    (refundAfterCallback data now refund).status = "success" := by
  simp [refundAfterCallback, h]

/-- After a success the payment is refunded. -/
theorem parentAfterCallback_success (h : classify (statusValue data) = .success) :
    (parentAfterCallback data refund transaction).status = .refunded := by
  simp [parentAfterCallback, h]

/-- Writing a success back over a refund that is one if the session saw one. -/
theorem writeBack_success {d : Dirty KoraRefund} {r : KoraRefund}
    (hcurrent : d.current.status = "success")
    (hknown : d.loaded.status = "success" → r.status = "success") :
    (KoraRefund.writeBack d r).status = "success" := by
  show written d.loaded.status d.current.status r.status = "success"
  by_cases hloaded : d.loaded.status = "success"
  · rw [hcurrent, hloaded, written_self]
    exact hknown hloaded
  · rw [hcurrent]
    exact written_of_ne (Ne.symm hloaded) _

/-- Likewise for the payment. -/
theorem writeBack_refunded {w : Dirty Transaction} {t : Transaction}
    (hcurrent : w.current.status = .refunded)
    (hknown : w.loaded.status = .refunded → t.status = .refunded) :
    (Transaction.writeBack w t).status = .refunded := by
  show written w.loaded.status w.current.status t.status = .refunded
  by_cases hloaded : w.loaded.status = .refunded
  · rw [hcurrent, hloaded, written_self]
    exact hknown hloaded
  · rw [hcurrent]
    exact written_of_ne (Ne.symm hloaded) _

/-- Every payment is refunded after the commit if it was before. -/
theorem successCommit_payment (hclass : classify (statusValue data) = .success)
    (hflush : (refundCallback data now refund transaction existing).flush db = .ok db')
    {i : ℕ} {t : Transaction} (hget : db.transactions.get i = some t) :
    ∃ t', db'.transactions.get i = some t' ∧ t'.virtualAccountId = t.virtualAccountId ∧
      (t.status = .refunded → t'.status = .refunded) := by
  rcases UnitOfWork.flush_transactions_of_get hflush hget with
    ⟨hsame, -⟩ | ⟨w, hw, -, hwritten⟩
  · exact ⟨t, hsame, rfl, id⟩
  · obtain ⟨-, hcurrent⟩ := refundCallback_transaction hw
    refine ⟨_, hwritten, Transaction.writeBack_virtualAccountId w t, fun hrefunded => ?_⟩
    refine writeBack_refunded ?_ fun _ => hrefunded
    rw [hcurrent]
    exact parentAfterCallback_success hclass

/-- The callback's own payment is refunded after the commit. -/
theorem successCommit_parent (hclass : classify (statusValue data) = .success)
    (hflush : (refundCallback data now refund transaction existing).flush db = .ok db')
    (hparent : ParentKnown refund transaction db) {t' : Transaction}
    (ht' : db'.transactions.get refund.transactionId = some t') : t'.status = .refunded := by
  obtain ⟨t, hget, hid, -, hrefunded⟩ := hparent
  rcases UnitOfWork.flush_transactions_of_get hflush hget with
    ⟨-, huntouched⟩ | ⟨w, hw, -, hwritten⟩
  · exact absurd hid (huntouched _ rfl)
  · obtain ⟨hloaded, hcurrent⟩ := refundCallback_transaction hw
    rw [← Option.some.inj (hwritten.symm.trans ht')]
    refine writeBack_refunded ?_ ?_
    · rw [hcurrent]
      exact parentAfterCallback_success hclass
    · rw [hloaded]
      exact hrefunded

/-- The commit of a success undoes nothing final. -/
theorem successCommit_progress (hclass : classify (statusValue data) = .success)
    (hflush : (refundCallback data now refund transaction existing).flush db = .ok db') :
    RefundProgress db db' where
  refunds i r hget := by
    rcases UnitOfWork.flush_refunds_of_get hflush hget with ⟨hsame, -⟩ | ⟨d, hd, -, hwritten⟩
    · exact ⟨r, hsame, rfl, rfl, id⟩
    · obtain ⟨-, hcurrent⟩ := refundCallback_refund hd
      refine ⟨_, hwritten, KoraRefund.writeBack_refundReference d r,
        KoraRefund.writeBack_transactionId d r, fun hsuccess => ?_⟩
      refine writeBack_success ?_ fun _ => hsuccess
      rw [hcurrent]
      exact refundAfterCallback_success hclass
  transactions i t hget := successCommit_payment hclass hflush hget
  reversals reference := by
    rw [reversals_flush hflush]
    exact Nat.le_add_right _ _

/-- Refunds with another reference keep their reversals. -/
theorem successCommit_elsewhere {reference : String}
    (hflush : (refundCallback data now refund transaction existing).flush db = .ok db')
    (hne : reference ≠ refund.refundReference) :
    reversals reference db' = reversals reference db := by
  have hnot : ¬ (refundCallback data now refund transaction existing).newEntry.any
      (reversalOf reference) = true :=
    fun hstages => hne (refundCallback_stages.mp hstages).2.2.symm
  rw [reversals_flush hflush, if_neg hnot, Nat.add_zero]

/-- The callback's own refund has its one reversal, when its payment has an account. -/
theorem successCommit_reversed (hclass : classify (statusValue data) = .success)
    (hflush : (refundCallback data now refund transaction existing).flush db = .ok db')
    (hcoherent : RefundsCoherent db) (hknown : RefundKnown refund db)
    (hparent : ParentKnown refund transaction db)
    (hcheck : callbackReadsLedger data transaction = true →
      CheckHolds refund.refundReference existing db) {t' : Transaction}
    (ht' : db'.transactions.get refund.transactionId = some t')
    (haccount : t'.virtualAccountId.isSome = true) :
    reversals refund.refundReference db' = 1 := by
  obtain ⟨r₀, hr₀, href₀, hid₀, -⟩ := hknown
  have hmem₀ : r₀ ∈ db.refunds := Table.mem_of_get hr₀
  obtain ⟨t, ht, -, hsame, -⟩ := hparent
  obtain ⟨t'', ht'', hsame'', -⟩ := successCommit_payment hclass hflush ht
  obtain rfl : t' = t'' := Option.some.inj (ht'.symm.trans ht'')
  have hstored : t.virtualAccountId.isSome = true := by rw [← hsame'']; exact haccount
  have hreads : callbackReadsLedger data transaction = true := by
    simp only [callbackReadsLedger, hclass, decide_true, Bool.true_and]
    rw [← hsame]
    exact hstored
  obtain ⟨hmissing, hpresent⟩ := hcheck hreads
  rw [reversals_flush hflush]
  by_cases hexisting : existing = none
  · rw [if_pos (refundCallback_stages.mpr ⟨hreads, hexisting, rfl⟩), hmissing hexisting]
  · have hnot : ¬ (refundCallback data now refund transaction existing).newEntry.any
        (reversalOf refund.refundReference) = true :=
      fun hstages => hexisting (refundCallback_stages.mp hstages).2.1
    rw [if_neg hnot, Nat.add_zero]
    -- the entry the callback found is the one reversal of a refund that is a success
    have hpos := hpresent hexisting
    by_cases hstatus : r₀.status = "success"
    · have hone := (hcoherent.settled r₀ hmem₀ t (by rw [hid₀]; exact ht) hstored hstatus).1
      rw [href₀] at hone
      exact hone
    · have hzero := hcoherent.unsettled r₀ hmem₀ t (by rw [hid₀]; exact ht) hstored hstatus
      rw [href₀] at hzero
      omega

/-- A refund after the commit is the callback's own, or an untouched one. -/
theorem successCommit_refund (hclass : classify (statusValue data) = .success)
    (hflush : (refundCallback data now refund transaction existing).flush db = .ok db')
    (hknown : RefundKnown refund db) {r' : KoraRefund} (hr' : r' ∈ db'.refunds) :
    (r'.refundReference = refund.refundReference ∧
        r'.transactionId = refund.transactionId ∧ r'.status = "success") ∨
      (r' ∈ db.refunds ∧ r'.refundReference ≠ refund.refundReference) := by
  obtain ⟨r₀, hr₀, href₀, hid₀, hsuccess₀⟩ := hknown
  have hident₀ : r₀.id = refund.id := Table.ident_of_get hr₀
  obtain ⟨r, hr, ⟨rfl, huntouched⟩ | ⟨d, hd, hid, rfl⟩⟩ :=
    UnitOfWork.flush_refunds_mem hflush hr'
  · refine Or.inr ⟨hr, fun href => huntouched _ rfl ?_⟩
    rw [eq_of_refundReference hr (Table.mem_of_get hr₀) (href.trans href₀.symm)]
    exact hident₀.symm
  · obtain ⟨hloaded, hcurrent⟩ := refundCallback_refund hd
    rw [hloaded] at hid
    have hget : db.refunds.get refund.id = some r :=
      Table.get_eq_some_iff.mpr ⟨hr, hid.symm⟩
    obtain rfl : r = r₀ := Option.some.inj (hget.symm.trans hr₀)
    refine Or.inl ⟨href₀, hid₀, writeBack_success ?_ ?_⟩
    · rw [hcurrent]
      exact refundAfterCallback_success hclass
    · rw [hloaded]
      exact hsuccess₀

/-- A payment after the commit was one before. -/
theorem successCommit_before (hclass : classify (statusValue data) = .success)
    (hflush : (refundCallback data now refund transaction existing).flush db = .ok db')
    {i : ℕ} {t' : Transaction} (ht' : db'.transactions.get i = some t') :
    ∃ t, db.transactions.get i = some t ∧ t'.virtualAccountId = t.virtualAccountId ∧
      (t.status = .refunded → t'.status = .refunded) := by
  obtain ⟨t, ht, -⟩ := UnitOfWork.flush_transactions_get hflush ht'
  obtain ⟨t'', ht'', hsame, hrefunded⟩ := successCommit_payment hclass hflush ht
  obtain rfl : t' = t'' := Option.some.inj (ht'.symm.trans ht'')
  exact ⟨t, ht, hsame, hrefunded⟩

/-- **The commit of a success keeps the records together.** -/
theorem successCommit_coherent (hclass : classify (statusValue data) = .success)
    (hflush : (refundCallback data now refund transaction existing).flush db = .ok db')
    (hcoherent : RefundsCoherent db) (hknown : RefundKnown refund db)
    (hparent : ParentKnown refund transaction db)
    (hcheck : callbackReadsLedger data transaction = true →
      CheckHolds refund.refundReference existing db) : RefundsCoherent db' where
  settled r' hr' t' ht' haccount hsuccess := by
    -- the refund of this callback, or one that the commit leaves alone
    rcases successCommit_refund hclass hflush hknown hr' with ⟨href, hid, -⟩ | ⟨hold, hne⟩
    · rw [hid] at ht'
      rw [href]
      exact ⟨successCommit_reversed hclass hflush hcoherent hknown hparent hcheck ht' haccount,
        successCommit_parent hclass hflush hparent ht'⟩
    · obtain ⟨t, ht, hsame, hrefunded⟩ := successCommit_before hclass hflush ht'
      obtain ⟨hone, hpaid⟩ :=
        hcoherent.settled r' hold t ht (by rw [← hsame]; exact haccount) hsuccess
      exact ⟨by rw [successCommit_elsewhere hflush hne]; exact hone, hrefunded hpaid⟩
  unsettled r' hr' t' ht' haccount hopen := by
    rcases successCommit_refund hclass hflush hknown hr' with ⟨-, -, hsuccess⟩ | ⟨hold, hne⟩
    · exact absurd hsuccess hopen
    · obtain ⟨t, ht, hsame, -⟩ := successCommit_before hclass hflush ht'
      rw [successCommit_elsewhere hflush hne]
      exact hcoherent.unsettled r' hold t ht (by rw [← hsame]; exact haccount) hopen
  owned reference hpos := by
    have hprogress := successCommit_progress hclass hflush
    obtain ⟨r₀, hr₀, href₀, -⟩ := hknown
    -- a reversal belongs to a refund that was there already
    by_cases hreference : reference = refund.refundReference
    · obtain ⟨r', hr', href', -⟩ := hprogress.refunds _ r₀ hr₀
      exact ⟨r', Table.mem_of_get hr', href'.trans (href₀.trans hreference.symm)⟩
    · rw [successCommit_elsewhere hflush hreference] at hpos
      obtain ⟨r, hr, href⟩ := hcoherent.owned reference hpos
      obtain ⟨r', hr', href', -⟩ := hprogress.refunds r.id r (Table.get_ident hr)
      exact ⟨r', Table.mem_of_get hr', href'.trans href⟩

end SuccessCommit

/-! ## Sessions and guard

The guard looks at the statement that is about to run and at the rows it finds, never at what the
statement leaves. -/

/-- A refund callback: a delivery the dispatcher hands to the refund branch. -/
structure RefundCallback where
  delivery : Delivery
  isRefund : eventKind delivery.eventType = .refund

/-- `kora_webhook` on refund callbacks. -/
def koraRefundCallbacks : Sessions Store RefundCallback DeliverySession Tick where
  init callback := koraWebhook.init callback.delivery
  advance := koraWebhook.advance

/-- Refund callbacks and refund requests, in any number, over one store. -/
def refundFlow (config : RefundConfig) :
    Sessions Store (RefundCallback ⊕ RefundCall) (DeliverySession ⊕ RefundSession)
      (Tick ⊕ RefundTick) :=
  koraRefundCallbacks.sum (createKoraRefund config)

/-- The commit writes `success` over a stored success. -/
def keepsSuccess (work : UnitOfWork) (db : Db) : Bool :=
  work.refund.all fun d => (db.refunds.get d.loaded.id).all fun r =>
    decide (r.status = "success" → d.current.status = "success")

/-- The commit writes `success` over nothing else. -/
def confirmsSuccess (work : UnitOfWork) (db : Db) : Bool :=
  work.refund.all fun d => (db.refunds.get d.loaded.id).all fun r =>
    decide (d.current.status = "success" → r.status = "success")

/-- The session is about to commit a reversal of this refund. -/
def stagesReversal (reference : String) : DeliverySession ⊕ RefundSession → Bool
  | .inl t => t.stages (reversalOf reference)
  | .inr _ => false

/-- The next statement of a session keeps the three records together: a commit does
not take a refund out of `success`, the route's commit does not bring it there, and
a callback looks for the reversal only while nobody else is about to commit it. -/
def coherentStep (p : Pool Store (DeliverySession ⊕ RefundSession)) :
    PoolAct (RefundCallback ⊕ RefundCall) (Tick ⊕ RefundTick) → Prop
  | .advance i _ =>
      match p.session i with
      | some (.inl ⟨_, .staged _ work⟩) => keepsSuccess work p.store.db = true
      | some (.inl ⟨d, .processing _ (.refundLoaded refund transaction)⟩) =>
          callbackReadsLedger d.data transaction = true →
            ∀ j u, j ≠ i → p.session j = some u →
              stagesReversal refund.refundReference u = false
      | some (.inr ⟨_, .staged work _⟩) =>
          keepsSuccess work p.store.db = true ∧ confirmsSuccess work p.store.db = true
      | _ => True
  | _ => True

/-! ## What the sessions know

One assertion for each place where a session can stand. -/

/-- The assertion of a callback in flight. -/
def CallbackKnows (db : Db) (d : Delivery) (phase : DeliveryPhase) : Prop :=
  eventKind d.eventType = .refund ∧
    match phase with
    | .processing _ (.refundFound refund) => RefundKnown refund db
    | .processing _ (.refundLoaded refund transaction) =>
        RefundKnown refund db ∧ ParentKnown refund transaction db
    | .processing _ (.paymentFound _ _) => False
    | .staged _ work =>
        ∃ now refund transaction existing,
          work = refundCallback d.data now refund transaction existing ∧
            RefundKnown refund db ∧ ParentKnown refund transaction db ∧
            (callbackReadsLedger d.data transaction = true →
              CheckHolds refund.refundReference existing db)
    | _ => True

/-- The assertion of a request in flight: it stages neither an entry nor a status of
the payment. -/
def RouteKnows (t : RefundSession) : Prop :=
  match t.phase with
  | .staged work _ =>
      work.newEntry = none ∧ ∀ w, work.transaction = some w → w.current.status = w.loaded.status
  | _ => True

/-- The assertion of a session of either kind. -/
def FlowKnows (s : Store) : DeliverySession ⊕ RefundSession → Prop
  | .inl t => CallbackKnows s.db t.delivery t.phase
  | .inr t => RouteKnows t

/-- No two sessions are about to commit a reversal of one refund. -/
def NotBothReverse (t u : DeliverySession ⊕ RefundSession) : Prop :=
  ∀ reference, stagesReversal reference t = true → stagesReversal reference u = false

/-- A callback is not disturbed by a step that makes progress, as long as the reversal
it is about to commit does not appear. -/
theorem CallbackKnows.progress {db db' : Db} {d : Delivery} {phase : DeliveryPhase}
    (h : CallbackKnows db d phase) (hprogress : RefundProgress db db')
    (habsent : ∀ reference, (DeliverySession.mk d phase).stages (reversalOf reference) = true →
      reversals reference db' = reversals reference db) : CallbackKnows db' d phase := by
  obtain ⟨hkind, h⟩ := h
  refine ⟨hkind, ?_⟩
  cases phase with
  | received => trivial
  | conflicting => trivial
  | processing receipt phase =>
      cases phase with
      | dispatching => trivial
      | refundFound refund => exact RefundKnown.progress h hprogress
      | refundLoaded refund t => exact ⟨h.1.progress hprogress, h.2.progress hprogress⟩
      | paymentFound kind t => exact h
  | staged receipt work =>
      obtain ⟨now, refund, t, existing, rfl, hrefund, hparent, hcheck⟩ := h
      refine ⟨now, refund, t, existing, rfl, hrefund.progress hprogress,
        hparent.progress hprogress, fun hreads => ⟨fun hmissing => ?_, fun hpresent => ?_⟩⟩
      -- who finds no reversal stages one, so that no other session does
      · have hstages : (refundCallback d.data now refund t existing).newEntry.any
            (reversalOf refund.refundReference) = true :=
          refundCallback_stages.mpr ⟨hreads, hmissing, rfl⟩
        rw [← DeliverySession.stages_staged _ d receipt] at hstages
        rw [habsent refund.refundReference hstages]
        exact (hcheck hreads).1 hmissing
      · exact ((hcheck hreads).2 hpresent).trans_le (hprogress.reversals _)
  | failing receipt error => trivial
  | answering answer => trivial

/-! ## What the statements do -/

/-- Only the three tables count for coherence. -/
theorem RefundsCoherent.congr {db db' : Db} (h : RefundsCoherent db)
    (ht : db'.transactions = db.transactions) (hr : db'.refunds = db.refunds)
    (hl : db'.ledger = db.ledger) : RefundsCoherent db' := by
  have hreversals : ∀ reference, reversals reference db' = reversals reference db := by
    intro reference
    rw [reversals, hl, reversals]
  constructor
  · intro r hmem t hget
    rw [hr] at hmem
    rw [ht] at hget
    rw [hreversals]
    exact h.settled r hmem t hget
  · intro r hmem t hget
    rw [hr] at hmem
    rw [ht] at hget
    rw [hreversals]
    exact h.unsettled r hmem t hget
  · intro reference hpos
    rw [hreversals] at hpos
    rw [hr]
    exact h.owned reference hpos

/-- Only the three tables count for progress as well. -/
theorem RefundProgress.congr {db db₁ db' : Db} (h : RefundProgress db db₁)
    (ht : db'.transactions = db₁.transactions) (hr : db'.refunds = db₁.refunds)
    (hl : db'.ledger = db₁.ledger) : RefundProgress db db' := by
  constructor
  · rw [hr]
    exact h.refunds
  · rw [ht]
    exact h.transactions
  · intro reference
    have hsame :
        AfricaFrontier.reversals reference db' = AfricaFrontier.reversals reference db₁ := by
      rw [AfricaFrontier.reversals, hl, AfricaFrontier.reversals]
    rw [hsame]
    exact h.reversals reference

/-- What the first guard says of the staged refund. -/
theorem keepsSuccess_of {work : UnitOfWork} {db : Db} (h : keepsSuccess work db = true)
    {d : Dirty KoraRefund} {r : KoraRefund} (hd : work.refund = some d)
    (hget : db.refunds.get d.loaded.id = some r) (hstored : r.status = "success") :
    d.current.status = "success" := by
  simp only [keepsSuccess, hd, hget, Option.all_some, decide_eq_true_eq] at h
  exact h hstored

/-- What the second does. -/
theorem confirmsSuccess_of {work : UnitOfWork} {db : Db} (h : confirmsSuccess work db = true)
    {d : Dirty KoraRefund} {r : KoraRefund} (hd : work.refund = some d)
    (hget : db.refunds.get d.loaded.id = some r) (hcurrent : d.current.status = "success") :
    r.status = "success" := by
  simp only [confirmsSuccess, hd, hget, Option.all_some, decide_eq_true_eq] at h
  exact h hcurrent

/-- Only a success makes the refund one. -/
theorem refundAfterCallback_ne_success {data : Obj} {now : Instant} {refund : KoraRefund}
    (h : classify (statusValue data) ≠ .success) :
    (refundAfterCallback data now refund).status ≠ "success" := by
  cases hclass : classify (statusValue data) with
  | success => exact absurd hclass h
  | failure => simp [refundAfterCallback, hclass]
  | other => simp [refundAfterCallback, hclass]

/-- A callback that reports no success stages a neutral unit of work, when the refund
it loaded is not a success by now. -/
theorem refundCallback_neutral {data : Obj} {now : Instant} {refund : KoraRefund}
    {t : Transaction} {existing : Option VirtualLedgerEntry} {db : Db}
    (hclass : classify (statusValue data) ≠ .success)
    (hkeeps : keepsSuccess (refundCallback data now refund t existing) db = true) :
    Neutral (refundCallback data now refund t existing) db where
  entry := by simp [refundCallback, callbackReadsLedger, hclass]
  payment w hw := by
    cases hw
    show (parentAfterCallback data refund t).status = t.status
    unfold parentAfterCallback
    cases hc : classify (statusValue data) with
    | success => exact absurd hc hclass
    | failure => rfl
    | other => rfl
  refund d r hd hget := by
    cases hd
    constructor
    · intro hsuccess
      exact absurd hsuccess (refundAfterCallback_ne_success hclass)
    · intro hstored
      exact keepsSuccess_of hkeeps rfl hget hstored

/-- A callback's commit, of either kind. -/
theorem callbackCommit {d : Delivery} {receipt : ℕ} {work : UnitOfWork} {db db' : Db}
    (hflush : work.flush db = .ok db') (hkeeps : keepsSuccess work db = true)
    (hcoherent : RefundsCoherent db) (hown : CallbackKnows db d (.staged receipt work)) :
    RefundsCoherent db' ∧ RefundProgress db db' := by
  obtain ⟨-, now, refund, t, existing, rfl, hrefund, hparent, hcheck⟩ := hown
  by_cases hclass : classify (statusValue d.data) = .success
  · exact ⟨successCommit_coherent hclass hflush hcoherent hrefund hparent hcheck,
      successCommit_progress hclass hflush⟩
  · have hneutral := refundCallback_neutral hclass hkeeps
    exact ⟨hneutral.coherent hflush hcoherent, hneutral.progress hflush⟩

/-- A statement of a callback keeps the records together. -/
theorem DeliveryStep.keepsCoherent {d : Delivery} {s s' : Store} {phase : DeliveryPhase}
    {next : Option DeliveryPhase} (h : DeliveryStep d s phase s' next)
    (hguard : ∀ receipt work, phase = .staged receipt work → keepsSuccess work s.db = true)
    (hcoherent : RefundsCoherent s.db) (hown : CallbackKnows s.db d phase) :
    RefundsCoherent s'.db ∧ RefundProgress s.db s'.db := by
  rcases h.business with ⟨ht, hr, hl, -⟩ | ⟨receipt, work, db, rfl, hflush, ht, hr, hl, -⟩
  · exact ⟨hcoherent.congr ht hr hl, (refl_of RefundProgress s.db).congr ht hr hl⟩
  · obtain ⟨hkept, hprogress⟩ := callbackCommit hflush (hguard receipt work rfl) hcoherent hown
    exact ⟨hkept.congr ht hr hl, hprogress.congr ht hr hl⟩

/-- A delivery adds a reversal only by committing the one it staged. -/
theorem DeliveryStep.reversals_eq {d : Delivery} {s s' : Store} {phase : DeliveryPhase}
    {next : Option DeliveryPhase} (h : DeliveryStep d s phase s' next) {reference : String}
    (hnot : (DeliverySession.mk d phase).stages (reversalOf reference) ≠ true) :
    reversals reference s'.db = reversals reference s.db := by
  rcases h.business with ⟨-, -, hl, -⟩ | ⟨receipt, work, db, rfl, hflush, -, -, hl, -⟩
  · rw [reversals, hl, reversals]
  · have hsame : reversals reference s'.db = reversals reference db := by
      rw [reversals, hl, reversals]
    have hstaged : ¬ work.newEntry.any (reversalOf reference) = true := hnot
    rw [hsame, reversals_flush hflush, if_neg hstaged, Nat.add_zero]

/-- The duplicate check of a callback, at the moment it is made. -/
theorem checkHolds_of_callbackEntry {data : Obj} {refund : KoraRefund} {t : Transaction}
    {db : Db} {existing : Option VirtualLedgerEntry}
    (h : callbackEntry data refund t db = .ok existing)
    (hreads : callbackReadsLedger data t = true) :
    CheckHolds refund.refundReference existing db := by
  rw [callbackEntry, if_pos hreads] at h
  constructor
  · rintro rfl
    refine List.countP_eq_zero.mpr fun e he hreversal => ?_
    simp only [reversalOf, Bool.and_eq_true, decide_eq_true_eq] at hreversal
    exact selectEntry_none h he hreversal.1 hreversal.2
  · intro hpresent
    obtain ⟨e, rfl⟩ := Option.ne_none_iff_exists'.mp hpresent
    obtain ⟨he, htype, hid⟩ := selectEntry_some h
    exact List.countP_pos_iff.mpr ⟨e, he, by simp [reversalOf, htype, hid]⟩

/-- What a callback knows after its own statement. -/
theorem DeliveryStep.callbackKnows {d : Delivery} {s s' : Store} {phase phase' : DeliveryPhase}
    (h : DeliveryStep d s phase s' (some phase')) (hown : CallbackKnows s.db d phase) :
    CallbackKnows s'.db d phase' := by
  obtain ⟨hkind, hown⟩ := hown
  refine ⟨hkind, ?_⟩
  cases h with
  | advanced hstep =>
      -- a callback loads its refund, and then the payment of it
      rcases businessStep_inl hstep with
        ⟨rfl, -, refs, refund, -, hselect, rfl⟩ | ⟨-, hnot, -⟩ | ⟨refund, t, rfl, hparent, rfl⟩
      · exact ⟨refund, Table.get_ident (selectRefund_ok hselect).2, rfl, rfl, id⟩
      · exact absurd hkind hnot
      · obtain ⟨hget, -⟩ := selectParent_ok hparent
        exact ⟨hown, t, hget, Table.ident_of_get hget, rfl, id⟩
  | computed hstep =>
      -- its last query is the look for the reversal, which holds as of this step
      rcases businessStep_inr hstep with
        ⟨rfl, hcharge, -⟩ | ⟨refund, t, existing, rfl, hentry, rfl⟩ | ⟨kind, t, rfl, -⟩
      · have hcharge' : eventKind d.eventType = .charge := hcharge
        rw [hkind] at hcharge'
        cases hcharge'
      · exact ⟨_, refund, t, existing, rfl, hown.1, hown.2,
          checkHolds_of_callbackEntry hentry⟩
      · exact hown.elim
  | recorded hinsert => trivial
  | clashed => trivial
  | duplicate => trivial
  | raised => trivial
  | committed hflush => trivial
  | rejected => trivial
  | marked => trivial
  | refused => trivial

/-- A callback that ends up with a reversal staged has just made the check for it. -/
theorem DeliveryStep.stagesReversal {d : Delivery} {s s' : Store} {phase phase' : DeliveryPhase}
    (h : DeliveryStep d s phase s' (some phase')) (hkind : eventKind d.eventType = .refund)
    (hown : CallbackKnows s.db d phase) {reference : String}
    (hstages : (DeliverySession.mk d phase').stages (reversalOf reference) = true) :
    ∃ receipt refund t, phase = .processing receipt (.refundLoaded refund t) ∧
      callbackReadsLedger d.data t = true ∧ refund.refundReference = reference := by
  cases h with
  | @computed receipt phase work now hstep =>
      -- the last query of a callback is the step that stages its work
      rcases businessStep_inr hstep with
        ⟨rfl, hcharge, -⟩ | ⟨refund, t, existing, rfl, -, rfl⟩ | ⟨kind, t, rfl, -⟩
      · have hcharge' : eventKind d.eventType = .charge := hcharge
        rw [hkind] at hcharge'
        cases hcharge'
      · rw [DeliverySession.stages_staged] at hstages
        obtain ⟨hreads, -, href⟩ := refundCallback_stages.mp hstages
        exact ⟨receipt, refund, t, rfl, hreads, href⟩
      · exact hown.2.elim
  | recorded hinsert => cases hstages
  | clashed => cases hstages
  | duplicate => cases hstages
  | advanced hstep => cases hstages
  | raised => cases hstages
  | committed hflush => cases hstages
  | rejected => cases hstages
  | marked => cases hstages
  | refused => cases hstages

/-- Storing a refund under a fresh reference: it has not succeeded, and it has no
reversal because reversals belong to stored refunds. -/
theorem RefundsCoherent.insertRefund {config : RefundConfig} {order : RefundOrder}
    {now : Instant} {db : Db} {refunds : Table KoraRefund} (hcoherent : RefundsCoherent db)
    (h : insertRefund config order now db = some refunds) :
    RefundsCoherent { db with refunds := refunds } ∧
      RefundProgress db { db with refunds := refunds } := by
  have hinsert := insertRefund_some h
  have hmem : ∀ r, r ∈ refunds ↔
      r ∈ db.refunds ∨ r = refundRecord config order db.refunds.next now :=
    fun r => Table.mem_insert hinsert
  -- a reversal belongs to a stored refund, and this reference is new
  have hnone :
      reversals (refundRecord config order db.refunds.next now).refundReference db = 0 := by
    by_contra hpos
    obtain ⟨r, hr, href⟩ := hcoherent.owned _ (Nat.pos_of_ne_zero hpos)
    exact Table.not_clash_of_insert hinsert r hr (Or.inl href)
  constructor
  · refine ⟨fun r hr t ht haccount hsuccess => ?_, fun r hr t ht haccount hopen => ?_,
      fun reference hpos => ?_⟩
    · rcases (hmem r).mp hr with hold | rfl
      · exact hcoherent.settled r hold t ht haccount hsuccess
      · exact absurd hsuccess (by simp [refundRecord])
    · rcases (hmem r).mp hr with hold | rfl
      · exact hcoherent.unsettled r hold t ht haccount hopen
      · exact hnone
    · obtain ⟨r, hr, href⟩ := hcoherent.owned reference hpos
      exact ⟨r, (hmem r).mpr (Or.inl hr), href⟩
  · refine ⟨fun i r hget => ⟨r, Table.get_insert_of_get hinsert hget, rfl, rfl, id⟩,
      fun i t hget => ⟨t, hget, rfl, id⟩, fun reference => le_rfl⟩

/-- What the route's statements do: they keep the records together, make progress and
add no reversal. -/
theorem RefundStep.keepsCoherent {config : RefundConfig} {call : RefundCall} {s s' : Store}
    {phase : RefundPhase} {next : Option RefundPhase}
    (h : RefundStep config call s phase s' next)
    (hguard : ∀ work answer, phase = .staged work answer →
      keepsSuccess work s.db = true ∧ confirmsSuccess work s.db = true)
    (hcoherent : RefundsCoherent s.db) (hown : RouteKnows ⟨call, phase⟩) :
    RefundsCoherent s'.db ∧ RefundProgress s.db s'.db ∧
      ∀ reference, reversals reference s'.db = reversals reference s.db := by
  have unchanged : RefundsCoherent s.db ∧ RefundProgress s.db s.db ∧
      ∀ reference, reversals reference s.db = reversals reference s.db :=
    ⟨hcoherent, refl_of RefundProgress s.db, fun _ => rfl⟩
  cases h with
  | inserted hinsert =>
      obtain ⟨hkept, hprogress⟩ := hcoherent.insertRefund hinsert
      exact ⟨hkept, hprogress, fun _ => rfl⟩
  | @committed work answer db hflush =>
      obtain ⟨hkeeps, hconfirms⟩ := hguard work answer rfl
      -- the guard says that the commit changes no refund from or to success
      have hneutral : Neutral work s.db := by
        refine ⟨hown.1, hown.2, fun d r hd hget => ⟨fun hcurrent => ?_, fun hstored => ?_⟩⟩
        · exact confirmsSuccess_of hconfirms hd hget hcurrent
        · exact keepsSuccess_of hkeeps hd hget hstored
      exact ⟨hneutral.coherent hflush hcoherent, hneutral.progress hflush,
        fun reference => hneutral.reversals hflush reference⟩
  | ended => exact unchanged
  | loaded hcheck => exact unchanged
  | replayed hselect => exact unchanged
  | fresh hselect => exact unchanged
  | instructed => exact unchanged
  | declined => exact unchanged
  | issued => exact unchanged
  | refused => exact unchanged
  | answered => exact unchanged

/-- What a request knows after its own statement. -/
theorem RefundStep.routeKnows {config : RefundConfig} {call : RefundCall} {s s' : Store}
    {phase phase' : RefundPhase} (h : RefundStep config call s phase s' (some phase')) :
    RouteKnows ⟨call, phase'⟩ := by
  cases h with
  | declined => exact ⟨rfl, fun w hw => (by cases hw)⟩
  | refused => exact ⟨rfl, fun w hw => (by cases hw)⟩
  | issued =>
      refine ⟨rfl, fun w hw => ?_⟩
      cases hw
      rfl
  | ended => trivial
  | loaded hcheck => trivial
  | replayed hselect => trivial
  | fresh hselect => trivial
  | inserted hinsert => trivial
  | instructed => trivial
  | committed hflush => trivial

/-! ## The invariant of a run -/

/-- One statement of any session, taken from a pool that meets the assertions. -/
theorem refundFlow_step {config : RefundConfig} {p : Pool Store (DeliverySession ⊕ RefundSession)}
    {i : ℕ} {t : DeliverySession ⊕ RefundSession} {x : Tick ⊕ RefundTick} {s' : Store}
    {o : Option (DeliverySession ⊕ RefundSession)}
    (ht : p.session i = some t)
    (hadv : (refundFlow config).advance p.store t x = some (s', o))
    (hguard : coherentStep p (.advance i x)) (hcoherent : RefundsCoherent p.store.db)
    (hown : FlowKnows p.store t) :
    RefundsCoherent s'.db ∧ RefundProgress p.store.db s'.db ∧
      (∀ reference, stagesReversal reference t ≠ true →
        reversals reference s'.db = reversals reference p.store.db) ∧
      ∀ t', o = some t' → FlowKnows s' t' ∧
        ∀ reference, stagesReversal reference t' = true →
          ∀ j u, j ≠ i → p.session j = some u → stagesReversal reference u = false := by
  cases t with
  -- a callback: the commit by the guard on its work, a new reversal by that on the others
  | inl v =>
      obtain ⟨tick, s₁, o₁, -, hv, hr⟩ := Sessions.sum_advance_inl hadv
      obtain ⟨rfl, rfl⟩ := Prod.mk.inj hr
      obtain ⟨next, hstep, rfl⟩ := koraWebhook_advance hv
      obtain ⟨d, phase⟩ := v
      have hcommit : ∀ receipt work, phase = .staged receipt work →
          keepsSuccess work p.store.db = true := by
        rintro receipt work rfl
        simpa [coherentStep, ht] using hguard
      obtain ⟨hkept, hprogress⟩ := hstep.keepsCoherent hcommit hcoherent hown
      refine ⟨hkept, hprogress, fun reference hnot => hstep.reversals_eq hnot, ?_⟩
      intro t' ht'
      cases next with
      | none => cases ht'
      | some phase' =>
          cases ht'
          refine ⟨hstep.callbackKnows hown, fun reference hstages j u hne hj => ?_⟩
          obtain ⟨receipt, refund, tr, rfl, hreads, rfl⟩ :=
            hstep.stagesReversal hown.1 hown hstages
          have hnobody : callbackReadsLedger d.data tr = true →
              ∀ j u, j ≠ i → p.session j = some u →
                stagesReversal refund.refundReference u = false := by
            simpa only [coherentStep, ht] using hguard
          exact hnobody hreads j u hne hj
  -- a refund request stages no reversal
  | inr v =>
      obtain ⟨tick, s₁, o₁, -, hv, hr⟩ := Sessions.sum_advance_inr hadv
      obtain ⟨rfl, rfl⟩ := Prod.mk.inj hr
      obtain ⟨next, hstep, rfl⟩ := createKoraRefund_advance hv
      obtain ⟨call, phase⟩ := v
      have hcommit : ∀ work answer, phase = .staged work answer →
          keepsSuccess work p.store.db = true ∧ confirmsSuccess work p.store.db = true := by
        rintro work answer rfl
        simpa [coherentStep, ht] using hguard
      obtain ⟨hkept, hprogress, hsame⟩ := hstep.keepsCoherent hcommit hcoherent hown
      refine ⟨hkept, hprogress, fun reference _ => hsame reference, ?_⟩
      intro t' ht'
      cases next with
      | none => cases ht'
      | some phase' =>
          cases ht'
          exact ⟨hstep.routeKnows, fun reference hstages => (by cases hstages)⟩

/-- The outline of the flow. -/
theorem refundCoherence_outline (config : RefundConfig) :
    Outline (refundFlow config) coherentStep (fun s => RefundsCoherent s.db) FlowKnows
      NotBothReverse where
  opened s request _ := by
    cases request with
    | inl callback => exact ⟨callback.isRefund, trivial⟩
    | inr call => trivial
  openedCompat request t := by
    have hnone : ∀ reference,
        stagesReversal reference ((refundFlow config).init request) = false := by
      intro reference
      cases request <;> rfl
    constructor
    · intro reference hstages
      rw [hnone] at hstages
      cases hstages
    · intro reference _
      exact hnone reference
  global p i t x s' o h ht hadv hguard :=
    (refundFlow_step ht hadv hguard h.global (h.each i t ht)).1
  own p i t x s' t' h ht hadv hguard :=
    ((refundFlow_step ht hadv hguard h.global (h.each i t ht)).2.2.2 t' rfl).1
  others p i t x s' o j u h ht hadv hguard hne hj := by
    obtain ⟨-, hprogress, hreversals, -⟩ :=
      refundFlow_step ht hadv hguard h.global (h.each i t ht)
    have hu := h.each j u hj
    cases u with
    | inr v => exact hu
    | inl v =>
        refine CallbackKnows.progress hu hprogress fun reference hstages => ?_
        refine hreversals reference fun hother => ?_
        -- both would be about to commit this reversal
        have hnot := h.pairs i j t (.inl v) hne.symm ht hj reference hother
        rw [stagesReversal, hstages] at hnot
        cases hnot
  compat p i t x s' t' j u h ht hadv hguard hne hj := by
    obtain ⟨-, hapart⟩ :=
      (refundFlow_step ht hadv hguard h.global (h.each i t ht)).2.2.2 t' rfl
    refine ⟨fun reference hstages => hapart reference hstages j u hne hj,
      fun reference hstages => ?_⟩
    by_contra hboth
    rw [hapart reference (by simpa using hboth) j u hne hj] at hstages
    cases hstages

/-- Every step of a pool that meets the assertions makes progress. -/
theorem refundFlow_progress {config : RefundConfig}
    {p p' : Pool Store (DeliverySession ⊕ RefundSession)}
    {a : PoolAct (RefundCallback ⊕ RefundCall) (Tick ⊕ RefundTick)}
    (hstep : (refundFlow config).machine.step p a = some p') (hguard : coherentStep p a)
    (h : p.Meets (fun s => RefundsCoherent s.db) FlowKnows NotBothReverse) :
    RefundProgress p.store.db p'.store.db := by
  rcases Pool.step_cases hstep with ⟨-, hstore⟩ | ⟨i, x, t, s', o, rfl, ht, hadv, rfl⟩
  · rw [hstore]
    exact refl_of RefundProgress _
  · exact (refundFlow_step ht hadv hguard h.global (h.each i t ht)).2.1

/-- **Refund, payment and ledger stay coherent.**  In every interleaving of refund
requests and refund callbacks in which no commit takes a refund out of `success`,
the route's commit does not bring it there, and no two callbacks look for one
missing reversal at once: a refund of a payment with an account has succeeded
exactly when its one reversal is there and the payment is refunded, in every state
reached; and a refund that has succeeded stays so in every later state. -/
theorem refund_coherent {config : RefundConfig} {db : Db} (hstart : RefundsCoherent db)
    {p p' : Pool Store (DeliverySession ⊕ RefundSession)}
    {as bs : List (PoolAct (RefundCallback ⊕ RefundCall) (Tick ⊕ RefundTick))}
    (run : Run (refundFlow config).machine coherentStep (Pool.quiet (Store.start db)) as p)
    (later : Run (refundFlow config).machine coherentStep p bs p')
    {i : ℕ} {r : KoraRefund} (hr : p.store.db.refunds.get i = some r) :
    (∀ t, p.store.db.transactions.get r.transactionId = some t →
      t.virtualAccountId.isSome = true →
      (r.status = "success" ↔
        reversals r.refundReference p.store.db = 1 ∧ t.status = .refunded)) ∧
      (r.status = "success" →
        ∃ r', p'.store.db.refunds.get i = some r' ∧ r'.status = "success") := by
  have outline := refundCoherence_outline config
  have hquiet : (Pool.quiet (Store.start db) : Pool Store (DeliverySession ⊕ RefundSession)).Meets
      (fun s => RefundsCoherent s.db) FlowKnows NotBothReverse :=
    Pool.Meets.quiet (hstart.congr rfl rfl rfl)
  have hmeets := outline.run run hquiet
  constructor
  · intro t ht haccount
    exact hmeets.global.success_iff (Table.mem_of_get hr) ht haccount
  · intro hsuccess
    have strong := later.strengthen (fun _ _ _ hstep hguard => outline.step hstep hguard) hmeets
    -- as seen from `p`, every state of the later run is further along
    let FurtherThan : Pool Store (DeliverySession ⊕ RefundSession) → Prop :=
      fun q => RefundProgress p.store.db q.store.db
    have hstep : ∀ (q : Pool Store (DeliverySession ⊕ RefundSession)) a q',
        (refundFlow config).machine.step q a = some q' →
        (coherentStep q a ∧ q.Meets (fun s => RefundsCoherent s.db) FlowKnows NotBothReverse) →
        FurtherThan q → FurtherThan q' :=
      fun q a q' hstep hguard hq =>
        trans_of RefundProgress hq (refundFlow_progress hstep hguard.1 hguard.2)
    have hprogress : FurtherThan p' := strong.preserves hstep (refl_of RefundProgress _)
    obtain ⟨r', hr', -, -, hfinal⟩ := hprogress.refunds i r hr
    exact ⟨r', hr', hfinal hsuccess⟩

/-- The guard, decided on the first `n` sessions. -/
def coherentStepWithin (n : ℕ) (p : Pool Store (DeliverySession ⊕ RefundSession)) :
    PoolAct (RefundCallback ⊕ RefundCall) (Tick ⊕ RefundTick) → Bool
  | .advance i _ =>
      match p.session i with
      | some (.inl ⟨_, .staged _ work⟩) => keepsSuccess work p.store.db
      | some (.inl ⟨d, .processing _ (.refundLoaded refund transaction)⟩) =>
          !callbackReadsLedger d.data transaction ||
            p.othersMeet n (fun u => !stagesReversal refund.refundReference u) i
      | some (.inr ⟨_, .staged work _⟩) =>
          keepsSuccess work p.store.db && confirmsSuccess work p.store.db
      | _ => true
  | _ => true

/-- The guard on the first sessions is the guard, where there are no others. -/
theorem coherentStep_of_within {n : ℕ} {p : Pool Store (DeliverySession ⊕ RefundSession)}
    {a : PoolAct (RefundCallback ⊕ RefundCall) (Tick ⊕ RefundTick)}
    (h : coherentStepWithin n p a = true) (hn : p.Within n) : coherentStep p a := by
  cases a with
  | begin i request => trivial
  | crash i => trivial
  | advance i x =>
      simp only [coherentStepWithin] at h
      simp only [coherentStep]
      split at h
      · exact h
      · intro hreads j u hne hj
        rw [hreads, Bool.not_true, Bool.false_or] at h
        simpa using (Pool.othersMeet_iff hn).mp h j u hne hj
      · exact (Bool.and_eq_true _ _).mp h
      · trivial

/-- A completed pay-in of a customer with a virtual account. -/
def accountPayin : Transaction := { completedPayin with virtualAccountId := some 7 }

/-- The provider's callback about the refund of "refund-key-1". -/
def refundCallbackEvent (eventId status : String) : RefundCallback where
  delivery :=
    { body :=
        [("id", .str eventId), ("event", .str "refund"),
          ("data", .obj
            [("reference", .str "afm-ref-f014f53ee2ba9d908683f7393460d8a8916d5744"),
              ("payment_reference", .str "KPY-1"), ("status", .str status)])]
      data :=
        [("reference", .str "afm-ref-f014f53ee2ba9d908683f7393460d8a8916d5744"),
          ("payment_reference", .str "KPY-1"), ("status", .str status)]
      payloadHash := "hash"
      signed := by rfl }
  isRefund := by
    have hname : eventTypeOf
        [("id", .str eventId), ("event", .str "refund"),
          ("data", .obj
            [("reference", .str "afm-ref-f014f53ee2ba9d908683f7393460d8a8916d5744"),
              ("payment_reference", .str "KPY-1"), ("status", .str status)])] = "refund" :=
      eventTypeOf_eq rfl (by decide) (by decide)
    rw [Delivery.eventType, hname]
    decide

/-- The callback `i`, from its arrival through all its statements. -/
def calledBack (i : ℕ) (callback : RefundCallback) :
    List (PoolAct (RefundCallback ⊕ RefundCall) (Tick ⊕ RefundTick)) :=
  .begin i (.inl callback) :: List.replicate 6 (.advance i (.inl ⟨0, false⟩))

/-- A pay-in without refunds is coherent. -/
theorem RefundsCoherent.accountPayin : RefundsCoherent (Db.holding accountPayin) :=
  RefundsCoherent.of_no_refunds rfl fun _ => rfl

/-- The statement on a refund that is requested, and then confirmed. -/
theorem refund_coherent_confirmed :
    ∃ p r t, Run (refundFlow sampleConfig).machine coherentStep
        (Pool.quiet (Store.start (Db.holding accountPayin)))
        (refundRequested 0 (sampleCall "refund-key-1" none (by simp)) 7 "processing" ++
          calledBack 1 (refundCallbackEvent "evt-1" "success") ++
          calledBack 2 (refundCallbackEvent "evt-2" "success")) p ∧
      p.store.db.refunds.get 0 = some r ∧ p.store.db.transactions.get 0 = some t ∧
      r.status = "success" ∧ reversals r.refundReference p.store.db = 1 ∧
      t.status = .refunded := by
  have hcheck : ((refundFlow sampleConfig).machine.check
      (fun p a => coherentStepWithin 3 p a && decide (a.agent < 3))
      (Pool.quiet (Store.start (Db.holding accountPayin)))
      (refundRequested 0 (sampleCall "refund-key-1" none (by simp)) 7 "processing" ++
        calledBack 1 (refundCallbackEvent "evt-1" "success") ++
        calledBack 2 (refundCallbackEvent "evt-2" "success"))).map
        (fun p => ((p.store.db.refunds.get 0).map fun r => (r.status, r.transactionId),
          (p.store.db.transactions.get 0).map (·.virtualAccountId))) =
      some (some ("success", 0), some (some 7)) := by
    decide +kernel
  obtain ⟨p, hp, hreached⟩ := Option.map_eq_some_iff.mp hcheck
  obtain ⟨hrefund, hpayment⟩ := Prod.mk.inj hreached
  obtain ⟨r, hr, hrow⟩ := Option.map_eq_some_iff.mp hrefund
  obtain ⟨hstatus, hparent⟩ := Prod.mk.inj hrow
  obtain ⟨t, ht, haccount⟩ := Option.map_eq_some_iff.mp hpayment
  -- the check looks at three agents, and the run has no more
  have bounded := (Run.of_check hp).mono fun _ _ h => by
    rw [Bool.and_eq_true, decide_eq_true_eq] at h
    exact h
  have run := bounded.within.mono fun _ _ h => coherentStep_of_within h.1 h.2
  have hall := (refund_coherent RefundsCoherent.accountPayin run (Run.nil p) hr).1 t
    (by rw [hparent]; exact ht) (by rw [haccount]; rfl)
  obtain ⟨hone, hrefunded⟩ := hall.mp hstatus
  exact ⟨p, r, t, run, hr, ht, hstatus, hone, hrefunded⟩

/-- The provider answers the refund request with an immediate success: the refund has
succeeded, with no reversal and the payment still completed. -/
theorem refund_success_alone :
    ∃ p r t, Run (refundFlow sampleConfig).machine Unguarded
        (Pool.quiet (Store.start (Db.holding accountPayin)))
        (refundRequested 0 (sampleCall "refund-key-1" none (by simp)) 7 "success") p ∧
      p.store.db.refunds.get 0 = some r ∧
      p.store.db.transactions.get r.transactionId = some t ∧
      t.virtualAccountId.isSome = true ∧
      ¬ (r.status = "success" ↔
        reversals r.refundReference p.store.db = 1 ∧ t.status = .refunded) := by
  have hcheck : ((refundFlow sampleConfig).machine.check (fun _ _ => true)
      (Pool.quiet (Store.start (Db.holding accountPayin)))
      (refundRequested 0 (sampleCall "refund-key-1" none (by simp)) 7 "success")).map
        (fun p => ((p.store.db.refunds.get 0).map fun r => (r.status, r.transactionId),
          (p.store.db.transactions.get 0).map fun t => (t.virtualAccountId, t.status))) =
      some (some ("success", 0), some (some 7, .completed)) := by
    decide +kernel
  obtain ⟨p, hp, hreached⟩ := Option.map_eq_some_iff.mp hcheck
  obtain ⟨hrefund, hpayment⟩ := Prod.mk.inj hreached
  obtain ⟨r, hr, hrow⟩ := Option.map_eq_some_iff.mp hrefund
  obtain ⟨hstatus, hparent⟩ := Prod.mk.inj hrow
  obtain ⟨t, ht, hcolumns⟩ := Option.map_eq_some_iff.mp hpayment
  obtain ⟨haccount, hcompleted⟩ := Prod.mk.inj hcolumns
  refine ⟨p, r, t, (Run.of_check hp).unguarded, hr, by rw [hparent]; exact ht,
    by rw [haccount]; rfl, fun hall => ?_⟩
  have hrefunded : t.status = .refunded := (hall.mp hstatus).2
  rw [hcompleted] at hrefunded
  cases hrefunded

end AfricaFrontier
