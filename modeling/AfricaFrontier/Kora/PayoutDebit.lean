import AfricaFrontier.Kora.Delivery
import AfricaFrontier.Payments.Creation

/-!
# A payout is debited at most once

A payout's transaction is found through any of its three references, but the
duplicate check of its debit looks for the one reference the event happens to
carry, and nothing locks the row or the reference between the check and the
insertion.  So two things can go wrong: the debit is already there under another
of the payout's references, or it is on its way in another session.

`debitsApart` is the absence of both at the moment of the check.  Under it the
check is worth what it is meant for: a session that staged a debit knows that
there is none in the ledger, and that nobody else has staged one.

The count of debits is an invariant only together with what the sessions hold: a session that has
staged one knows that none is stored (`DebitIsFirst`), and no two sessions have staged one
(`NotBothDebit`). The first is established by the duplicate check, where the debits that exist
carry the reference it looks for; the second by the guard, at the same moment.
-/

namespace AfricaFrontier

open Python Relational Transition

/-- A payout debit of the transaction `i`, by the link its metadata carries. -/
def debitOf (i : ℕ) (e : VirtualLedgerEntry) : Bool :=
  e.referenceType = "kora_payout" && e.entryMetadata.get "transaction_id" = .str (uuidText i)

/-- The number of payout debits of the transaction `i`. -/
def debits (i : ℕ) (db : Db) : ℕ := db.ledger.rows.countP (debitOf i)

/-- The debit of a payout is one of its transaction. -/
theorem debitOf_payoutEntry (i : ℕ) (reference : String) (t : Transaction) (account : ℕ) :
    debitOf i (payoutEntry reference t account) = decide (t.id = i) := by
  simp [debitOf, payoutEntry, Obj.get, Obj.find]

/-- A reversal is no debit of a payout. -/
theorem debitOf_refundEntry (i : ℕ) (refund : KoraRefund) (t : Transaction) (account : ℕ) :
    debitOf i (refundEntry refund t account) = false := by
  simp [debitOf, refundEntry]

/-- A commit adds the staged entry to the count. -/
theorem debits_flush {i : ℕ} {u : UnitOfWork} {db db' : Db} (h : u.flush db = .ok db') :
    debits i db' = debits i db + if u.newEntry.any (debitOf i) then 1 else 0 := by
  exact UnitOfWork.flush_countP h fun _ _ => rfl

/-! ## The guard

Both halves are about the duplicate check, the one statement at which something could still be
noticed. -/

/-- The session's next statement is the duplicate check for a debit of `i`. -/
def checksDebit (i : ℕ) (t : DeliverySession) : Bool :=
  match t.phase with
  | .processing _ (.paymentFound kind transaction) =>
      transaction.id = i && paymentReadsLedger kind t.delivery.data transaction
  | _ => false

/-- Every debit of `i` carries the reference of the session's event. -/
def debitsUnderReference (i : ℕ) (t : DeliverySession) (db : Db) : Bool :=
  db.ledger.rows.all fun e =>
    decide (debitOf i e = true → e.referenceId = paymentReference t.delivery.data)

/-- At every duplicate check for a debit of `i`, the debits of `i` carry the
reference the check looks for, and no other session is about to commit one. -/
def debitsApart (i : ℕ) (p : Pool Store DeliverySession) : PoolAct Delivery Tick → Prop
  | .advance j _ => ∀ t, p.session j = some t → checksDebit i t = true →
      debitsUnderReference i t p.store.db = true ∧
        ∀ k u, k ≠ j → p.session k = some u → u.stages (debitOf i) = false
  | _ => True

/-! ## The invariant -/

/-- What a session knows: a staged debit is the first. -/
def DebitIsFirst (i : ℕ) (s : Store) (t : DeliverySession) : Prop :=
  t.stages (debitOf i) = true → debits i s.db = 0

/-- Two sessions have not both staged a debit. -/
def NotBothDebit (i : ℕ) (t u : DeliverySession) : Prop :=
  t.stages (debitOf i) = true → u.stages (debitOf i) = false

/-- A handler that ends with a debit of `i` staged has just made the check for it,
and found none under its reference. -/
theorem businessStep_stages {i : ℕ} {d : Delivery} {now : Instant} {db : Db}
    {receipt : ℕ} {phase : BusinessPhase} {work : UnitOfWork}
    (hstep : businessStep d.content now db phase = .ok (.inr work))
    (hstages : work.newEntry.any (debitOf i) = true) :
    checksDebit i ⟨d, .processing receipt phase⟩ = true ∧
      selectEntry "kora_payout" (paymentReference d.data) db = .ok none := by
  rcases businessStep_inr hstep with
    ⟨-, -, -, rfl⟩ | ⟨refund, t, existing, -, -, rfl⟩ | ⟨kind, t, rfl, happly⟩
  · cases hstages
  · -- a refund callback stages at most a reversal, which is no debit
    exfalso
    simp only [refundCallback] at hstages
    split at hstages
    · cases haccount : t.virtualAccountId with
      | none => simp [haccount] at hstages
      | some account => simp [haccount, debitOf_refundEntry] at hstages
    · cases hstages
  · cases hentry : work.newEntry with
    | none =>
        rw [hentry] at hstages
        cases hstages
    | some e =>
        obtain ⟨hreads, hnone, account, -, rfl⟩ := applyPayment_newEntry happly hentry
        have hid : t.id = i := by
          simpa [hentry, debitOf_payoutEntry] using hstages
        refine ⟨?_, hnone⟩
        show (decide (t.id = i) && paymentReadsLedger kind d.data t) = true
        rw [decide_eq_true hid, Bool.true_and]
        exact hreads

/-- When the existing debits carry the reference of the check, a check that finds
nothing means that there are none. -/
theorem debits_eq_zero {i : ℕ} {t : DeliverySession} {db : Db}
    (hreference : debitsUnderReference i t db = true)
    (hnone : selectEntry "kora_payout" (paymentReference t.delivery.data) db = .ok none) :
    debits i db = 0 := by
  refine List.countP_eq_zero.mpr fun e he hdebit => ?_
  have hid : e.referenceId = paymentReference t.delivery.data :=
    of_decide_eq_true (List.all_eq_true.mp hreference e he) hdebit
  have htype : e.referenceType = "kora_payout" := by
    simp only [debitOf, Bool.and_eq_true, decide_eq_true_eq] at hdebit
    exact hdebit.1
  exact selectEntry_none hnone he htype hid

/-- A statement changes the count only by committing a staged debit. -/
theorem DeliveryStep.debits_eq {i : ℕ} {d : Delivery} {s s' : Store} {phase : DeliveryPhase}
    {next : Option DeliveryPhase} (h : DeliveryStep d s phase s' next) :
    debits i s'.db = debits i s.db ∨
      ((DeliverySession.mk d phase).stages (debitOf i) = true ∧
        debits i s'.db = debits i s.db + 1) := by
  rcases h.business with ⟨-, -, hledger, -⟩ | ⟨receipt, work, db, rfl, hflush, -, -, hledger, -⟩
  · exact Or.inl (by rw [debits, hledger, debits])
  · have hcount : debits i s'.db = debits i db := by
      rw [debits, hledger, debits]
    rw [hcount, debits_flush hflush]
    by_cases hstages : work.newEntry.any (debitOf i) = true
    · exact Or.inr ⟨hstages, by rw [if_pos hstages]⟩
    · exact Or.inl (by rw [if_neg hstages, Nat.add_zero])

/-- A statement that leaves a debit staged has just computed it. -/
theorem DeliveryStep.stages {i : ℕ} {d : Delivery} {s s' : Store} {phase phase' : DeliveryPhase}
    (h : DeliveryStep d s phase s' (some phase'))
    (hstages : (DeliverySession.mk d phase').stages (debitOf i) = true) :
    s' = s ∧ checksDebit i ⟨d, phase⟩ = true ∧
      selectEntry "kora_payout" (paymentReference d.data) s.db = .ok none := by
  cases h with
  | computed hstep => exact ⟨rfl, businessStep_stages hstep hstages⟩
  | recorded hinsert => cases hstages
  | clashed => cases hstages
  | duplicate => cases hstages
  | advanced hstep => cases hstages
  | raised => cases hstages
  | committed hflush => cases hstages
  | rejected => cases hstages
  | marked => cases hstages
  | refused => cases hstages

/-- The outline of the deliveries. -/
theorem payoutDebit_outline (i : ℕ) :
    Outline koraWebhook (debitsApart i) (fun s => debits i s.db ≤ 1) (DebitIsFirst i)
      (NotBothDebit i) where
  opened s request _ hstages := by cases hstages
  openedCompat request t := ⟨fun hstages => (by cases hstages), fun _ => rfl⟩
  global p j t x s' o h ht hadv hguard := by
    obtain ⟨next, hstep, -⟩ := koraWebhook_advance hadv
    rcases hstep.debits_eq (i := i) with hsame | ⟨hstages, hmore⟩
    · exact hsame.trans_le h.global
    · have hzero : debits i p.store.db = 0 := h.each j t ht hstages
      omega
  own p j t x s' t' h ht hadv hguard := by
    intro hstages
    obtain ⟨next, hstep, hnext⟩ := koraWebhook_advance hadv
    obtain ⟨phase', rfl, rfl⟩ := Option.map_eq_some_iff.mp hnext.symm
    obtain ⟨rfl, hchecks, hnone⟩ := hstep.stages hstages
    obtain ⟨hreference, -⟩ := hguard t ht hchecks
    exact debits_eq_zero hreference hnone
  others p j t x s' o k u h ht hadv hguard hne hk := by
    intro hstages
    obtain ⟨next, hstep, -⟩ := koraWebhook_advance hadv
    have hzero : debits i p.store.db = 0 := h.each k u hk hstages
    rcases hstep.debits_eq (i := i) with hsame | ⟨hcommits, -⟩
    · exact hsame.trans hzero
    · -- the committing session and this one would both have staged a debit
      have hnot : u.stages (debitOf i) = false := h.pairs j k t u hne.symm ht hk hcommits
      rw [hnot] at hstages
      cases hstages
  compat p j t x s' t' k u h ht hadv hguard hne hk := by
    obtain ⟨next, hstep, hnext⟩ := koraWebhook_advance hadv
    obtain ⟨phase', rfl, rfl⟩ := Option.map_eq_some_iff.mp hnext.symm
    have apart : DeliverySession.stages (debitOf i) ⟨t.delivery, phase'⟩ = true →
        u.stages (debitOf i) = false := by
      intro hstages
      obtain ⟨-, hchecks, -⟩ := hstep.stages hstages
      exact (hguard t ht hchecks).2 k u hne hk
    refine ⟨apart, fun hu => ?_⟩
    by_contra hstages
    rw [apart (by simpa using hstages)] at hu
    cases hu

/-- **A payout is debited at most once.**  In every interleaving of deliveries in
which each duplicate check for a debit of the transaction finds its debits, if it
has any, under the reference it looks for, and finds nobody else about to commit
one: the ledger never holds two. -/
theorem payout_debited_once {i : ℕ} {db : Db} (hstart : debits i db ≤ 1)
    {p : Pool Store DeliverySession} {as : List (PoolAct Delivery Tick)}
    (run : Run koraWebhook.machine (debitsApart i) (Pool.quiet (Store.start db)) as p) :
    debits i p.store.db ≤ 1 :=
  ((payoutDebit_outline i).run run (Pool.Meets.quiet hstart)).global

/-- A confirmation of `acceptedPayout` under one of its references. -/
def payoutSuccess (eventId reference : String) : Delivery where
  body :=
    [("id", .str eventId), ("event", .str "transfer.success"),
      ("data", .obj [("reference", .str reference), ("status", .str "success")])]
  data := [("reference", .str reference), ("status", .str "success")]
  payloadHash := "hash"
  signed := by rfl

/-- The delivery `i`, from its arrival through all its statements. -/
def handled (i : ℕ) (d : Delivery) : List (PoolAct Delivery Tick) :=
  .begin i d :: List.replicate 5 (.advance i ⟨0, false⟩)

/-- The guard, decided on the first `n` sessions. -/
def debitsApartWithin (i n : ℕ) (p : Pool Store DeliverySession) :
    PoolAct Delivery Tick → Bool
  | .advance j _ =>
      match p.session j with
      | some t =>
          !checksDebit i t || (debitsUnderReference i t p.store.db &&
            p.othersMeet n (fun u => !u.stages (debitOf i)) j)
      | none => true
  | _ => true

/-- The guard on the first sessions is the guard, where there are no others. -/
theorem debitsApart_of_within {i n : ℕ} {p : Pool Store DeliverySession}
    {a : PoolAct Delivery Tick} (h : debitsApartWithin i n p a = true) (hn : p.Within n) :
    debitsApart i p a := by
  cases a with
  | begin j d => trivial
  | crash j => trivial
  | advance j x =>
      intro t ht hchecks
      simp only [debitsApartWithin, ht, hchecks, Bool.not_true, Bool.false_or,
        Bool.and_eq_true] at h
      refine ⟨h.1, fun k u hne hk => ?_⟩
      simpa using (Pool.othersMeet_iff hn).mp h.2 k u hne hk

/-- The statement on one payout, confirmed twice under one reference. -/
theorem payout_debited_once_repeated :
    ∃ p, Run koraWebhook.machine (debitsApart 0)
        (Pool.quiet (Store.start (Db.holding acceptedPayout)))
        (handled 0 (payoutSuccess "evt-1" "KPO-1") ++ handled 1 (payoutSuccess "evt-2" "KPO-1"))
        p ∧ debits 0 p.store.db ≤ 1 := by
  obtain ⟨p, hcheck⟩ : ∃ p, koraWebhook.machine.check
      (fun p a => debitsApartWithin 0 2 p a && decide (a.agent < 2))
      (Pool.quiet (Store.start (Db.holding acceptedPayout)))
      (handled 0 (payoutSuccess "evt-1" "KPO-1") ++
        handled 1 (payoutSuccess "evt-2" "KPO-1")) = some p :=
    Option.isSome_iff_exists.mp (by decide +kernel)
  have bounded := (Run.of_check hcheck).mono fun _ _ h => by
    rw [Bool.and_eq_true, decide_eq_true_eq] at h
    exact h
  have run := bounded.within.mono fun _ _ h => debitsApart_of_within h.1 h.2
  exact ⟨p, run, payout_debited_once (by decide +kernel) run⟩

/-- Confirmed once under AFM's reference and once under the provider's, the payout
is debited twice. -/
theorem payout_debited_twice :
    ∃ p, Run koraWebhook.machine Unguarded
        (Pool.quiet (Store.start (Db.holding acceptedPayout)))
        (handled 0 (payoutSuccess "evt-1" "afm-payout-1") ++
          handled 1 (payoutSuccess "evt-2" "KPO-1")) p ∧
      debits 0 (Db.holding acceptedPayout) = 0 ∧ ¬ debits 0 p.store.db ≤ 1 := by
  have hcheck : (koraWebhook.machine.check (fun _ _ => true)
      (Pool.quiet (Store.start (Db.holding acceptedPayout)))
      (handled 0 (payoutSuccess "evt-1" "afm-payout-1") ++
        handled 1 (payoutSuccess "evt-2" "KPO-1"))).map (fun p => debits 0 p.store.db) =
      some 2 := by
    decide +kernel
  obtain ⟨p, hp, hdebits⟩ := Option.map_eq_some_iff.mp hcheck
  refine ⟨p, (Run.of_check hp).unguarded, by decide +kernel, ?_⟩
  omega

end AfricaFrontier
