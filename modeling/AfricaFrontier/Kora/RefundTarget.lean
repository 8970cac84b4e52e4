import AfricaFrontier.Kora.RefundRoute
import AfricaFrontier.Payments.Creation

/-!
# A refund callback and the refund it names

A callback names one refund by its reference, and the payment by another.  The
lookup takes the newest refund that *either* hits, so with several refunds of one
payment, or with a reference nobody knows, the callback can land on a refund it
does not name.

`AppliedToNamed` is the frame property: only the named refund, its payment and its
entry change, and a reference that names no refund raises.  `applied_to_named_iff`
says for exactly which callbacks and databases it holds.

What a callback stages is known by name (`refundCallback`), and is loaded from the rows it found;
so the frame property is one of these rows (`onlyNamed_callback_iff`): the refund is the named
one, or everything that would be written is there already. `CallbackFinds` lists what has to be
stored for a callback not to raise, so that the condition can be stated without running it.
-/

namespace AfricaFrontier

open Python Relational

/-- The refund reference a callback carries. -/
def namedReference (data : Obj) : String := data.firstText ["reference"]

/-- What is staged changes at most the refund with this reference, its payment, and
its reversal entry. -/
structure OnlyNamed (reference : String) (u : UnitOfWork) (db : Db) : Prop where
  refund : ∀ d, u.refund = some d → d.current ≠ d.loaded →
    d.loaded.refundReference = reference
  payment : ∀ w, u.transaction = some w → w.current ≠ w.loaded →
    ∃ r ∈ db.refunds, r.refundReference = reference ∧ r.transactionId = w.loaded.id
  entry : ∀ e, u.newEntry = some e → e.referenceId = reference

/-- A callback that does not raise names a stored refund and changes only what
belongs to it; one that raises is rolled back by its caller. -/
def AppliedToNamed (data : Obj) (now : Instant) (db : Db) : Prop :=
  ∀ u, processKoraRefundWebhook data now db = .ok u →
    (∃ r ∈ db.refunds, r.refundReference = namedReference data) ∧
      OnlyNamed (namedReference data) u db

/-- The rows after the commit of such a unit of work, loaded from this database: every
other refund and every other payment is as before, and the ledger gained at most
an entry of the named refund. -/
theorem OnlyNamed.frame {reference : String} {u : UnitOfWork} {db db' : Db}
    (h : OnlyNamed reference u db) (hflush : u.flush db = .ok db')
    (hloaded : ∀ d, u.refund = some d → db.refunds.get d.loaded.id = some d.loaded) :
    (∀ r ∈ db.refunds, r.refundReference ≠ reference → r ∈ db'.refunds) ∧
      (∀ i t, db.transactions.get i = some t →
        (∀ r ∈ db.refunds, r.refundReference = reference → r.transactionId ≠ i) →
        db'.transactions.get i = some t) ∧
      ∃ added, db'.ledger.rows = db.ledger.rows ++ added ∧
        ∀ e ∈ added, e.referenceId = reference := by
  refine ⟨fun r hr hne => ?_, fun i t hget hother => ?_, _, UnitOfWork.flush_ledger_rows hflush,
    fun e he => ?_⟩
  · have hget : db.refunds.get r.id = some r := Table.get_ident hr
    rcases UnitOfWork.flush_refunds_of_get hflush hget with ⟨hsame, -⟩ | ⟨d, hd, hid, hwritten⟩
    · exact Table.mem_of_get hsame
    · have hsame : d.loaded = r := by
        have hstored := hloaded d hd
        rw [hid, hget] at hstored
        exact (Option.some.inj hstored).symm
      -- a copy that was not changed is written back as it is stored
      have hunchanged : d.current = d.loaded := by
        by_contra hchanged
        exact hne (hsame ▸ h.refund d hd hchanged)
      obtain ⟨loaded, current⟩ := d
      simp only at hunchanged
      subst hunchanged
      rw [KoraRefund.writeBack_self] at hwritten
      exact Table.mem_of_get hwritten
  · rcases UnitOfWork.flush_transactions_of_get hflush hget with
      ⟨hsame, -⟩ | ⟨w, hw, hid, hwritten⟩
    · exact hsame
    · have hunchanged : w.current = w.loaded := by
        by_contra hchanged
        obtain ⟨r, hr, href, hparent⟩ := h.payment w hw hchanged
        exact hother r hr href (hparent.trans hid)
      obtain ⟨loaded, current⟩ := w
      simp only at hunchanged
      subst hunchanged
      rwa [Transaction.writeBack_self] at hwritten
  · obtain ⟨e₀, he₀, rfl⟩ : ∃ e₀, u.newEntry = some e₀ ∧ { e₀ with id := db.ledger.next } = e := by
      simpa using he
    exact h.entry e₀ he₀

/-! ## When a callback meets its refund

The newest refund hit is the only one the callback looks at. -/

/-- The reversals the duplicate check of a callback sees. -/
def reversalsSeen (data : Obj) (refund : KoraRefund) (transaction : Transaction) (db : Db) :
    List VirtualLedgerEntry :=
  if callbackReadsLedger data transaction then
    db.ledger.rows.filter fun entry =>
      decide (entry.referenceType = "kora_refund" ∧ entry.referenceId = refund.refundReference)
  else []

/-- The stored rows a callback needs: both references are given, `refund` is the newest
refund one of them hits, its payment is an AFM payment, and there is at most one
reversal. -/
structure CallbackFinds (data : Obj) (db : Db) (refund : KoraRefund)
    (transaction : Transaction) : Prop where
  named : namedReference data ≠ ""
  payment : data.firstText ["payment_reference"] ≠ ""
  newest : firstBy newerFirst
    (RefundReferences.hits ⟨namedReference data, data.firstText ["payment_reference"]⟩ db) =
      some refund
  parent : db.transactions.get refund.transactionId = some transaction
  afm : transaction.ledgerNamespace = afmPayments
  reversals : (reversalsSeen data refund transaction db).length ≤ 1

/-- The callback hits a refund it does not name, but finds everything it would write
already there; the named refund exists, and unless it is of the same payment, the
payment hit has nothing to change either. -/
structure FullyRecorded (data : Obj) (now : Instant) (refund : KoraRefund)
    (transaction : Transaction) (db : Db) : Prop where
  recorded : refundRecords data now refund
  reversed : callbackReadsLedger data transaction = true →
    reversalsSeen data refund transaction db ≠ []
  named : ∃ r ∈ db.refunds, r.refundReference = namedReference data ∧
    (r.transactionId = transaction.id ∨ parentRecords data refund transaction)

/-- Whenever the callback finds its rows, the newest refund hit is the one it names, or
everything is already recorded. -/
def MeetsNamed (data : Obj) (now : Instant) (db : Db) : Prop :=
  ∀ refund transaction, CallbackFinds data db refund transaction →
    refund.refundReference = namedReference data ∨
      FullyRecorded data now refund transaction db

/-- Without a lookup there is nothing to see, and with one the rows it returned. -/
theorem callbackEntry_ok {data : Obj} {refund : KoraRefund} {t : Transaction} {db : Db}
    {existing : Option VirtualLedgerEntry} :
    callbackEntry data refund t db = .ok existing ↔
      reversalsSeen data refund t db = existing.toList := by
  unfold callbackEntry reversalsSeen
  by_cases hreads : callbackReadsLedger data t = true
  · rw [if_pos hreads, if_pos hreads]
    cases existing with
    | none => exact scalarOneOrNone_eq_ok_none
    | some e => exact scalarOneOrNone_eq_ok_some
  · rw [if_neg hreads, if_neg hreads]
    cases existing with
    | none => simp [pure, Except.pure]
    | some e => simp [pure, Except.pure]

/-- Both references are given. -/
theorem refundReferences_ok {data : Obj} {refs : RefundReferences} :
    refundReferences data = .ok refs ↔
      namedReference data ≠ "" ∧ data.firstText ["payment_reference"] ≠ "" ∧
        refs = ⟨namedReference data, data.firstText ["payment_reference"]⟩ := by
  show (if namedReference data = "" ∨ data.firstText ["payment_reference"] = "" then
    Except.error _ else Except.ok _) = _ ↔ _
  split
  · rename_i hblank
    refine ⟨fun h => (by cases h), fun ⟨hnamed, hpayment, _⟩ => ?_⟩
    exact absurd hblank (not_or.mpr ⟨hnamed, hpayment⟩)
  · rename_i hgiven
    obtain ⟨hnamed, hpayment⟩ := not_or.mp hgiven
    rw [Except.ok.injEq, eq_comm]
    exact ⟨fun h => ⟨hnamed, hpayment, h⟩, fun h => h.2.2⟩

/-- A callback that does not raise has found its rows. -/
theorem CallbackFinds.of_ok {data : Obj} {db : Db} {refund : KoraRefund} {t : Transaction}
    {existing : Option VirtualLedgerEntry}
    (htarget : callbackTarget data db = .ok (refund, t))
    (hentry : callbackEntry data refund t db = .ok existing) :
    CallbackFinds data db refund t := by
  obtain ⟨refs, hrefs, h⟩ := bind_eq_ok.mp htarget
  obtain ⟨refund', hrefund, h⟩ := bind_eq_ok.mp h
  obtain ⟨t', hparent, h⟩ := bind_eq_ok.mp h
  obtain ⟨rfl, rfl⟩ := Prod.mk.inj (Except.ok.inj h)
  obtain ⟨hnamed, hpayment, rfl⟩ := refundReferences_ok.mp hrefs
  obtain ⟨hget, hns⟩ := selectParent_ok hparent
  refine ⟨hnamed, hpayment, (selectRefund_ok hrefund).1, hget, hns, ?_⟩
  rw [callbackEntry_ok.mp hentry]
  exact Option.length_toList_le

/-- A callback that finds its rows does not raise. -/
theorem CallbackFinds.ok {data : Obj} {db : Db} {refund : KoraRefund} {t : Transaction}
    (h : CallbackFinds data db refund t) :
    callbackTarget data db = .ok (refund, t) ∧
      ∃ existing, callbackEntry data refund t db = .ok existing := by
  have hrefs : refundReferences data =
      .ok ⟨namedReference data, data.firstText ["payment_reference"]⟩ :=
    refundReferences_ok.mpr ⟨h.named, h.payment, rfl⟩
  have hrefund : selectRefund ⟨namedReference data, data.firstText ["payment_reference"]⟩ db =
      .ok refund := by
    unfold selectRefund
    rw [h.newest]
  have hparent : selectParent refund db = .ok t := by
    unfold selectParent
    rw [h.parent]
    exact if_pos h.afm
  constructor
  · unfold callbackTarget
    rw [hrefs]
    show (selectRefund _ db >>= fun refund => _) = _
    rw [hrefund]
    show (selectParent refund db >>= fun transaction => _) = _
    rw [hparent]
    rfl
  · cases hseen : reversalsSeen data refund t db with
    -- no reversal is seen, or the one there is
    | nil => exact ⟨none, callbackEntry_ok.mpr hseen⟩
    | cons e rest =>
        have hlen := h.reversals
        rw [hseen, List.length_cons] at hlen
        obtain rfl : rest = [] := List.length_eq_zero_iff.mp (by omega)
        exact ⟨some e, callbackEntry_ok.mpr hseen⟩

/-- The entry a callback stages carries the reference of the refund it hit. -/
theorem refundCallback_newEntry {data : Obj} {now : Instant} {refund : KoraRefund}
    {t : Transaction} {existing : Option VirtualLedgerEntry} {e : VirtualLedgerEntry}
    (h : (refundCallback data now refund t existing).newEntry = some e) :
    e.referenceId = refund.refundReference ∧ callbackReadsLedger data t = true ∧
      existing = none := by
  simp only [refundCallback] at h
  split at h
  · rename_i hreads
    obtain ⟨account, -, rfl⟩ := Option.map_eq_some_iff.mp h
    simp only [Bool.and_eq_true, Option.isNone_iff_eq_none] at hreads
    exact ⟨rfl, hreads⟩
  · cases h

/-- A callback that finds its reversal missing stages it. -/
theorem refundCallback_newEntry_isSome (data : Obj) (now : Instant) (refund : KoraRefund)
    {t : Transaction} (hreads : callbackReadsLedger data t = true) :
    ∃ e, (refundCallback data now refund t none).newEntry = some e := by
  have haccount : t.virtualAccountId.isSome = true := by
    simp only [callbackReadsLedger, Bool.and_eq_true] at hreads
    exact hreads.2
  obtain ⟨account, haccount⟩ := Option.isSome_iff_exists.mp haccount
  exact ⟨refundEntry refund t account, by simp [refundCallback, hreads, haccount]⟩

/-- What a callback may change: nothing, or what belongs to the named refund. -/
theorem onlyNamed_callback_iff {reference : String} {data : Obj} {now : Instant} {db : Db}
    {refund : KoraRefund} {t : Transaction} {existing : Option VirtualLedgerEntry} :
    OnlyNamed reference (refundCallback data now refund t existing) db ↔
      (refundAfterCallback data now refund ≠ refund → refund.refundReference = reference) ∧
      (parentAfterCallback data refund t ≠ t →
        ∃ r ∈ db.refunds, r.refundReference = reference ∧ r.transactionId = t.id) ∧
      ∀ e, (refundCallback data now refund t existing).newEntry = some e →
        e.referenceId = reference := by
  constructor
  · intro h
    have hrefund := h.refund ⟨refund, refundAfterCallback data now refund⟩ rfl
    have hpayment := h.payment ⟨t, parentAfterCallback data refund t⟩ rfl
    dsimp only at hrefund hpayment
    exact ⟨hrefund, hpayment, h.entry⟩
  · rintro ⟨hrefund, hpayment, hentry⟩
    refine ⟨fun d hd => ?_, fun w hw => ?_, hentry⟩
    · obtain rfl : ⟨refund, refundAfterCallback data now refund⟩ = d := Option.some.inj hd
      dsimp only
      exact hrefund
    · obtain rfl : ⟨t, parentAfterCallback data refund t⟩ = w := Option.some.inj hw
      dsimp only
      exact hpayment

/-- **A callback is applied to the refund it names** exactly when it meets it. -/
theorem applied_to_named_iff (data : Obj) (now : Instant) (db : Db) :
    AppliedToNamed data now db ↔ MeetsNamed data now db := by
  constructor
  · intro happlied refund t hfinds
    obtain ⟨htarget, existing, hentry⟩ := hfinds.ok
    have hok : processKoraRefundWebhook data now db =
        .ok (refundCallback data now refund t existing) :=
      (processKoraRefundWebhook_iff htarget).mpr ⟨existing, hentry, rfl⟩
    obtain ⟨⟨named, hnamed, href⟩, honly⟩ := happlied _ hok
    rw [onlyNamed_callback_iff] at honly
    obtain ⟨hrefund, hpayment, honlyEntry⟩ := honly
    by_cases hhit : refund.refundReference = namedReference data
    · exact Or.inl hhit
    · refine Or.inr ⟨?_, fun hreads hunseen => ?_, ?_⟩
      · rw [← refundAfterCallback_eq_iff]
        by_contra hchanged
        exact hhit (hrefund hchanged)
      · -- the reversal it would have staged is of another refund
        have hmissing : existing = none := by
          rw [callbackEntry_ok, hunseen] at hentry
          exact Option.toList_eq_nil_iff.mp hentry.symm
        subst hmissing
        obtain ⟨e, he⟩ := refundCallback_newEntry_isSome data now refund hreads
        exact hhit ((refundCallback_newEntry he).1.symm.trans (honlyEntry e he))
      · by_cases hparent : parentAfterCallback data refund t = t
        · exact ⟨named, hnamed, href,
            Or.inr ((parentAfterCallback_eq_iff data refund t).mp hparent)⟩
        · obtain ⟨r, hr, hname, hid⟩ := hpayment hparent
          exact ⟨r, hr, hname, Or.inl hid⟩
  · intro hmeets u hu
    obtain ⟨refund, t, existing, htarget, hentry, rfl⟩ := processKoraRefundWebhook_ok hu
    obtain ⟨hmem, hget, -⟩ := callbackTarget_ok htarget
    rcases hmeets refund t (CallbackFinds.of_ok htarget hentry) with hhit | hfull
    · refine ⟨⟨refund, hmem, hhit⟩, ?_⟩
      rw [onlyNamed_callback_iff]
      refine ⟨?_, ?_, ?_⟩
      · intro _
        exact hhit
      · intro _
        exact ⟨refund, hmem, hhit, (Table.ident_of_get hget).symm⟩
      · intro e he
        exact (refundCallback_newEntry he).1.trans hhit
    · obtain ⟨named, hnamed, href, hparent⟩ := hfull.named
      refine ⟨⟨named, hnamed, href⟩, ?_⟩
      rw [onlyNamed_callback_iff]
      refine ⟨?_, ?_, ?_⟩
      · intro hchanged
        exact absurd ((refundAfterCallback_eq_iff data now refund).mpr hfull.recorded) hchanged
      · intro hchanged
        rcases hparent with hsame | hrecords
        · exact ⟨named, hnamed, href, hsame⟩
        · exact absurd ((parentAfterCallback_eq_iff data refund t).mpr hrecords) hchanged
      · intro e he
        obtain ⟨-, hreads, hmissing⟩ := refundCallback_newEntry he
        refine absurd ?_ (hfull.reversed hreads)
        rw [callbackEntry_ok.mp hentry, hmissing]
        rfl

/-! ## Two partial refunds of one payment -/

/-- The refund stored for an order of 400 under this key, at this time. -/
def partialRefund (id : ℕ) (idempotencyKey : String) (now : Instant) : KoraRefund :=
  refundRecord sampleConfig
    ⟨completedPayin, "KPY-1", 400, idempotencyKey, none⟩ id now

/-- `completedPayin` with two refunds issued one after the other. -/
def twicePartlyRefunded : Db :=
  { Db.holding completedPayin with
    refunds :=
      { rows := [partialRefund 0 "refund-key-1" 1, partialRefund 1 "refund-key-2" 2]
        next := 2
        fresh := by decide +kernel
        distinct := by decide +kernel
        unique := by decide +kernel } }

/-- The success of the first of them, as the provider reports it. -/
def firstRefundSucceeded : Obj :=
  [("reference", .str "afm-ref-f014f53ee2ba9d908683f7393460d8a8916d5744"),
    ("payment_reference", .str "KPY-1"), ("status", .str "success")]

/-- The success of the first refund is recorded on the second. -/
theorem callback_misses_named : ¬ AppliedToNamed firstRefundSucceeded 3 twicePartlyRefunded := by
  intro happlied
  have hcheck : ((processKoraRefundWebhook firstRefundSucceeded 3 twicePartlyRefunded).toOption.bind
      (·.refund)).map (fun d =>
        (d.loaded.refundReference, d.loaded.status, d.current.status)) =
      some ("afm-ref-9f65cd3f6d646734ccf5e2ad1d57e0088f229a33", "requested", "success") := by
    decide +kernel
  obtain ⟨d, hd, hrow⟩ := Option.map_eq_some_iff.mp hcheck
  obtain ⟨u, hu, hstaged⟩ := Option.bind_eq_some_iff.mp hd
  obtain ⟨href, hstates⟩ := Prod.mk.inj hrow
  obtain ⟨hloaded, hcurrent⟩ := Prod.mk.inj hstates
  have hok : processKoraRefundWebhook firstRefundSucceeded 3 twicePartlyRefunded = .ok u := by
    cases hprocess : processKoraRefundWebhook firstRefundSucceeded 3 twicePartlyRefunded with
    | error e =>
        rw [hprocess] at hu
        cases hu
    | ok u' =>
        rw [hprocess] at hu
        cases hu
        rfl
  -- a refund is written that the callback does not name
  have hchanged : d.current ≠ d.loaded := by
    intro hsame
    rw [hsame, hloaded] at hcurrent
    exact absurd hcurrent (by decide)
  have hnamed := (happlied u hok).2.refund d hstaged hchanged
  rw [href] at hnamed
  exact absurd hnamed (by decide +kernel)

end AfricaFrontier
