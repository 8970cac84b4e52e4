import AfricaFrontier.Kora.EventEffects
import AfricaFrontier.Payments.Creation

/-!
# What an acknowledgement is worth

The provider stops retrying once it is answered with status 200, so an
acknowledged event is lost unless its business effect is in the tables.  `AppliedIn`
says what that is: one step of the run committed the unit of work of the event, and
after it the rows show the event's effect (`EffectShown`).

Two arguments meet.

* The receipt: it is `processed` only in the commit that wrote the event's unit of work,
  so an answer taken from a processed receipt of the same content stands for a commit.
  `ReceiptsRecorded` says that, over the record `Store.history` of the commits.
* The handler: what it read when, it stages the effect of its event, and the commit
  leaves that in the rows.  A session's own assertion `Awaits` carries it from statement
  to statement, past everything other sessions do in between.

`AppliedIn` puts them together: the step in which the event's record came into the
history (`Run.crossing`) is the commit of a session that stood at `Awaits`.

A duplicate is answered with status 200 whatever the receipt's state, and an event
that matches no transaction is acknowledged with no effect at all.  And a status that is
left as it was read is not written, so one that another session changed in between
stays.  `acknowledgesApplied` excludes exactly these three.
-/

namespace AfricaFrontier

open Python Relational Transition

/-- What a stored receipt was filed for. -/
def KoraWebhookEvent.content (e : KoraWebhookEvent) : Content := ⟨bodyData e.payload, e.eventType⟩

/-- A receipt is filed for the content of its delivery. -/
@[simp] theorem Delivery.receipt_content (d : Delivery) (now : Instant) (id : ℕ) :
    (d.receipt now id).content = d.content := by
  simp [Delivery.receipt, KoraWebhookEvent.content, Delivery.content]

@[simp] theorem markProcessed_content (now : Instant) (e : KoraWebhookEvent) :
    (markProcessed now e).content = e.content := rfl

@[simp] theorem markFailed_content (error : PyError) (e : KoraWebhookEvent) :
    (markFailed error e).content = e.content := rfl

/-- A unit of work computed for this content has been committed. -/
def Store.Recorded (s : Store) (content : Content) : Prop :=
  ∃ c ∈ s.history, c.content = content

/-- A processed receipt and an acknowledgement both stand for a commit. -/
structure ReceiptsRecorded (s : Store) : Prop where
  processed : ∀ e ∈ s.db.events, e.status = .processed → s.Recorded e.content
  acknowledged : ∀ a ∈ s.answers, a.2.acknowledged = true → s.Recorded a.1.content

/-- There is no receipt yet. -/
theorem ReceiptsRecorded.start (db : Db) : ReceiptsRecorded (Store.start db) where
  processed e he := by
    have hrows : e ∈ ([] : List KoraWebhookEvent) := he
    cases hrows
  acknowledged a ha := by cases ha

/-! ## What lasts

Facts that no step takes back, so that they can be used later than they were established. -/

/-- Receipts keep their content, no transaction disappears, and no business commit is
forgotten. -/
structure Lasts (s s' : Store) : Prop where
  receipts : ∀ i e, s.db.events.get i = some e →
    ∃ e', s'.db.events.get i = some e' ∧ e'.content = e.content
  transactions : ∀ i, (s.db.transactions.get i).isSome = true →
    (s'.db.transactions.get i).isSome = true
  history : ∀ c ∈ s.history, c ∈ s'.history

/-- A commit stays on record. -/
theorem Store.Recorded.lasts {s s' : Store} {content : Content} (hlasts : Lasts s s')
    (h : s.Recorded content) : s'.Recorded content := by
  obtain ⟨c, hc, hcontent⟩ := h
  exact ⟨c, hlasts.history c hc, hcontent⟩

/-- Nothing happened. -/
theorem Lasts.refl (s : Store) : Lasts s s where
  receipts _ e hget := ⟨e, hget, rfl⟩
  transactions _ hi := hi
  history _ hc := hc

/-- One after another. -/
theorem Lasts.trans {s s' s'' : Store} (h : Lasts s s') (h' : Lasts s' s'') : Lasts s s'' where
  receipts i e hget := by
    obtain ⟨e', hget', hsame⟩ := h.receipts i e hget
    obtain ⟨e'', hget'', hsame'⟩ := h'.receipts i e' hget'
    exact ⟨e'', hget'', hsame'.trans hsame⟩
  transactions i hi := h'.transactions i (h.transactions i hi)
  history c hc := h'.history c (h.history c hc)

/-- What touches none of the three. -/
theorem Lasts.of_eq {s s' : Store} (hevents : s'.db.events = s.db.events)
    (htransactions : s'.db.transactions = s.db.transactions)
    (hhistory : s'.history = s.history) : Lasts s s' where
  receipts i e hget := ⟨e, by rw [hevents]; exact hget, rfl⟩
  transactions i hi := by rw [htransactions]; exact hi
  history c hc := by rw [hhistory]; exact hc

/-- Marking a receipt changes its state, not what it was filed for. -/
theorem get_mark {events : Table KoraWebhookEvent} (receipt : ℕ)
    (f : KoraWebhookEvent → KoraWebhookEvent) (hf : ∀ e, Row.key (f e) = Row.key e)
    (hcontent : ∀ e, (f e).content = e.content) {i : ℕ} {e : KoraWebhookEvent}
    (hget : events.get i = some e) :
    ∃ e', (events.modify receipt f hf).get i = some e' ∧ e'.content = e.content := by
  rw [Table.get_modify, hget]
  refine ⟨_, rfl, ?_⟩
  split
  · exact hcontent e
  · rfl

/-- No statement of a delivery takes any of it away. -/
theorem DeliveryStep.lasts {d : Delivery} {s s' : Store} {phase : DeliveryPhase}
    {next : Option DeliveryPhase} (h : DeliveryStep d s phase s' next) : Lasts s s' := by
  cases h with
  | recorded hinsert =>
      refine ⟨fun i e hget => ⟨e, ?_, rfl⟩, fun i hi => hi, fun c hc => hc⟩
      exact Table.get_insert_of_get hinsert hget
  | @committed receipt work now db hflush =>
      obtain ⟨-, -, -, hevents, -⟩ := UnitOfWork.flush_ok hflush
      refine ⟨fun i e hget => ?_, fun i hi => ?_, fun c hc => List.mem_append_left _ hc⟩
      -- the commit writes business rows and marks the receipt, whose content stays
      · rw [← hevents] at hget
        exact get_mark receipt (markProcessed now) (fun _ => rfl) (markProcessed_content now) hget
      · have hstored : (db.transactions.get i).isSome = true :=
          UnitOfWork.flush_transactions_isSome hflush hi
        exact hstored
  | @marked receipt error =>
      refine ⟨fun i e hget => ?_, fun i hi => hi, fun c hc => hc⟩
      exact get_mark receipt (markFailed error) (fun _ => rfl) (markFailed_content error) hget
  | clashed => exact Lasts.of_eq rfl rfl rfl
  | duplicate => exact Lasts.of_eq rfl rfl rfl
  | advanced hstep => exact Lasts.of_eq rfl rfl rfl
  | computed hstep => exact Lasts.of_eq rfl rfl rfl
  | raised => exact Lasts.of_eq rfl rfl rfl
  | rejected => exact Lasts.of_eq rfl rfl rfl
  | refused => exact Lasts.of_eq rfl rfl rfl
  | answered => exact Lasts.of_eq rfl rfl rfl

/-- No statement takes rows, references or entries away. -/
theorem DeliveryStep.keeps {d : Delivery} {s s' : Store} {phase : DeliveryPhase}
    {next : Option DeliveryPhase} (h : DeliveryStep d s phase s' next) : Keeps s.db s'.db := by
  rcases h.business with ⟨ht, hr, hl, -⟩ | ⟨receipt, work, db, -, hflush, ht, hr, hl, -⟩
  · exact Keeps.of_eq ht hr hl
  · have hcommit := Keeps.of_flush hflush
    exact ⟨by rw [ht]; exact hcommit.transactions, by rw [hr]; exact hcommit.refunds,
      by unfold HasEntry; rw [hl]; exact hcommit.ledger⟩

/-! ## What a session knows -/

/-- The receipt is stored, for this delivery's content. -/
def HoldsReceipt (s : Store) (d : Delivery) (receipt : ℕ) : Prop :=
  ∃ e, s.db.events.get receipt = some e ∧ e.content = d.content

/-- The assertion of a delivery in flight. -/
def Awaits (s : Store) (d : Delivery) : DeliveryPhase → Prop
  | .received => True
  | .conflicting => True
  | .processing receipt phase => HoldsReceipt s d receipt ∧ phase.Knows d.content s.db
  | .staged receipt work => HoldsReceipt s d receipt ∧ StagesEffect d.content work s.db
  | .failing _ _ => True
  | .answering answer => answer.acknowledged = true → s.Recorded d.content

/-- Other sessions do not disturb it. -/
theorem Awaits.lasts {s s' : Store} {d : Delivery} {phase : DeliveryPhase}
    (hlasts : Lasts s s') (hkeeps : Keeps s.db s'.db) (h : Awaits s d phase) :
    Awaits s' d phase := by
  have holds : ∀ {receipt}, HoldsReceipt s d receipt → HoldsReceipt s' d receipt := by
    rintro receipt ⟨e, hget, hcontent⟩
    obtain ⟨e', hget', hsame⟩ := hlasts.receipts receipt e hget
    exact ⟨e', hget', hsame.trans hcontent⟩
  cases phase with
  | received => trivial
  | conflicting => trivial
  | processing receipt phase => exact ⟨holds h.1, h.2.keeps hkeeps⟩
  | staged receipt work => exact ⟨holds h.1, h.2.keeps hkeeps⟩
  | failing receipt error => trivial
  | answering answer => exact fun hacknowledged => (h hacknowledged).lasts hlasts

/-! ## The guard

Three statements are asked for more than the code asks: the look at a duplicate's receipt, the
commit, and the search for the transaction of a charge. -/

/-- Every receipt under the delivery's event id is processed, and for the same
content. -/
def processedDuplicate (d : Delivery) (db : Db) : Bool :=
  db.events.rows.all fun e =>
    decide (e.eventId = d.eventId → e.status = .processed ∧ e.content = d.content)

/-- A charge event finds its transaction. -/
def findsTransaction (content : Content) (db : Db) : Bool :=
  match eventKind content.eventType, selectTransaction (paymentReference content.data) db with
  | .charge, .ok none => false
  | _, _ => true

/-- The statements after which an acknowledgement is safe: a duplicate is looked up
only once the receipt is processed for the same content, no charge event is
dispatched before its transaction is there, and a unit of work is committed only as long
as the statuses it leaves alone are those of the event. -/
def acknowledgesApplied (t : DeliverySession) (s : Store) : Bool :=
  match t.phase with
  | .conflicting => processedDuplicate t.delivery s.db
  | .processing _ .dispatching => findsTransaction t.delivery.content s.db
  | .staged _ work => statusesStand t.delivery.content work s.db
  | _ => true

/-- Under the guard, a finished handler has staged the effect of its event. -/
theorem businessStep_stagesEffect {content : Content} {now : Instant} {db : Db}
    {phase : BusinessPhase} {work : UnitOfWork}
    (hstep : businessStep content now db phase = .ok (.inr work)) (hknows : phase.Knows content db)
    (hfinds : phase = .dispatching → findsTransaction content db = true) :
    StagesEffect content work db := by
  rcases businessStep_effect hstep hknows with hstages | ⟨hphase, hkind, hnone⟩
  · exact hstages
  · have hfound := hfinds hphase
    simp [findsTransaction, hkind, hnone] at hfound

/-- An acknowledged duplicate was answered from a stored receipt. -/
theorem duplicateAnswer_acknowledged {eventId : String} {db : Db}
    (h : (duplicateAnswer eventId db).acknowledged = true) :
    ∃ e ∈ db.events, e.eventId = eventId := by
  unfold duplicateAnswer at h
  split at h
  · rename_i existing hexisting
    have hmem : existing ∈ db.events.rows.filter fun e => decide (e.eventId = eventId) := by
      rw [scalarOneOrNone_eq_ok_some.mp hexisting]
      exact List.mem_singleton_self existing
    obtain ⟨hstored, hid⟩ := List.mem_filter.mp hmem
    exact ⟨existing, hstored, of_decide_eq_true hid⟩
  · cases h
  · cases h

/-! ## The invariant of a run -/

/-- What a statement leaves behind, for the store and for its own session. -/
theorem DeliveryStep.keepsRecorded {d : Delivery} {s s' : Store} {phase : DeliveryPhase}
    {next : Option DeliveryPhase} (h : DeliveryStep d s phase s' next)
    (hguard : acknowledgesApplied ⟨d, phase⟩ s = true) (hstore : ReceiptsRecorded s)
    (hown : Awaits s d phase) :
    ReceiptsRecorded s' ∧ ∀ phase', next = some phase' → Awaits s' d phase' := by
  have hlasts : Lasts s s' := h.lasts
  cases h with
  | @recorded now events hinsert =>
      refine ⟨⟨?_, hstore.acknowledged⟩, ?_⟩
      · intro e he hprocessed
        rcases (Table.mem_insert hinsert).mp he with hold | rfl
        · exact hstore.processed e hold hprocessed
        · cases hprocessed
      · rintro phase' ⟨⟩
        refine ⟨⟨d.receipt now s.db.events.next, ?_, d.receipt_content now _⟩, trivial⟩
        rw [Table.get_insert hinsert, if_pos rfl]
  | clashed => exact ⟨hstore, by rintro phase' ⟨⟩; trivial⟩
  | duplicate =>
      refine ⟨hstore, ?_⟩
      rintro phase' ⟨⟩ hacknowledged
      obtain ⟨e, he, hid⟩ := duplicateAnswer_acknowledged hacknowledged
      have hall : processedDuplicate d s.db = true := hguard
      obtain ⟨hprocessed, hcontent⟩ :=
        of_decide_eq_true (List.all_eq_true.mp hall e he) hid
      rw [← hcontent]
      exact hstore.processed e he hprocessed
  | advanced hstep =>
      exact ⟨hstore, by rintro phase' ⟨⟩; exact ⟨hown.1, businessStep_knows hstep hown.2⟩⟩
  | @computed receipt phase work now hstep =>
      refine ⟨hstore, ?_⟩
      rintro phase' ⟨⟩
      refine ⟨hown.1, businessStep_stagesEffect hstep hown.2 ?_⟩
      rintro rfl
      exact hguard
  | raised => exact ⟨hstore, by rintro phase' ⟨⟩; trivial⟩
  | @committed receipt work now db hflush =>
      obtain ⟨⟨e₀, hget, hcontent⟩, -⟩ := hown
      obtain ⟨-, -, -, hevents, -⟩ := UnitOfWork.flush_ok hflush
      have hrecorded : (s.committed d receipt now work db).Recorded d.content :=
        ⟨⟨d.content, work⟩, List.mem_append_right _ (List.mem_singleton_self _), rfl⟩
      refine ⟨⟨?_, ?_⟩, ?_⟩
      · intro e he hprocessed
        have hmarked : e ∈ db.events.modify receipt (markProcessed now) (fun _ => rfl) := he
        obtain ⟨e₁, he₁, rfl⟩ := Table.mem_modify.mp hmarked
        rw [hevents] at he₁
        by_cases hid : ident e₁ = receipt
        · -- the session's own receipt: it carries the content just committed
          obtain rfl : e₁ = e₀ :=
            Option.some.inj ((Table.get_eq_some_iff.mpr ⟨he₁, hid⟩).symm.trans hget)
          rw [if_pos hid]
          have : (markProcessed now e₁).content = d.content := hcontent
          rw [this]
          exact hrecorded
        · rw [if_neg hid] at hprocessed ⊢
          exact (hstore.processed e₁ he₁ hprocessed).lasts hlasts
      · intro a ha hacknowledged
        exact (hstore.acknowledged a ha hacknowledged).lasts hlasts
      · rintro phase' ⟨⟩ -
        exact hrecorded
  | rejected => exact ⟨hstore, by rintro phase' ⟨⟩; trivial⟩
  | @marked receipt error =>
      refine ⟨⟨?_, hstore.acknowledged⟩, ?_⟩
      · intro e he hprocessed
        have hmarked : e ∈ s.db.events.modify receipt (markFailed error) (fun _ => rfl) := he
        obtain ⟨e₁, he₁, rfl⟩ := Table.mem_modify.mp hmarked
        by_cases hid : ident e₁ = receipt
        · rw [if_pos hid] at hprocessed
          cases hprocessed
        · rw [if_neg hid] at hprocessed ⊢
          exact hstore.processed e₁ he₁ hprocessed
      · rintro phase' ⟨⟩ hacknowledged
        cases hacknowledged
  | refused =>
      refine ⟨hstore, ?_⟩
      rintro phase' ⟨⟩ hacknowledged
      cases hacknowledged
  | @answered answer =>
      refine ⟨⟨hstore.processed, ?_⟩, by rintro phase' ⟨⟩⟩
      intro a ha hacknowledged
      rcases List.mem_append.mp ha with hold | hnew
      · exact hstore.acknowledged a hold hacknowledged
      · rw [List.mem_singleton.mp hnew] at hacknowledged ⊢
        exact hown hacknowledged

/-- The statement that puts an event on record commits its effect. -/
theorem DeliveryStep.shows {d : Delivery} {s s' : Store} {phase : DeliveryPhase}
    {next : Option DeliveryPhase} {content : Content} (h : DeliveryStep d s phase s' next)
    (hguard : acknowledgesApplied ⟨d, phase⟩ s = true) (hown : Awaits s d phase)
    (hbefore : ¬ s.Recorded content) (hafter : s'.Recorded content) :
    (∃ work, s'.history = s.history ++ [⟨content, work⟩]) ∧ EffectShown content s'.db := by
  cases h with
  | @committed receipt work now db hflush =>
      obtain ⟨c, hc, hcontent⟩ := hafter
      rcases List.mem_append.mp hc with hold | hnew
      · exact absurd ⟨c, hold, hcontent⟩ hbefore
      · rw [List.mem_singleton.mp hnew] at hcontent
        have hsame : d.content = content := hcontent
        subst hsame
        -- the unit of work was staged by the handler for this content, and the commit has gone
        -- through
        have hshown : EffectShown d.content db := hown.2.shown hguard hflush
        exact ⟨⟨work, rfl⟩, hshown.with_events _⟩
  | recorded hinsert => exact absurd hafter hbefore
  | clashed => exact absurd hafter hbefore
  | duplicate => exact absurd hafter hbefore
  | advanced hstep => exact absurd hafter hbefore
  | computed hstep => exact absurd hafter hbefore
  | raised => exact absurd hafter hbefore
  | rejected => exact absurd hafter hbefore
  | marked => exact absurd hafter hbefore
  | refused => exact absurd hafter hbefore
  | answered => exact absurd hafter hbefore

/-- Everything else the application does: at any moment any business rows may be
there, except that no transaction disappears. -/
def otherBusiness : Sessions Store Unit Unit Db where
  init _ := ()
  advance s _ db :=
    if s.db.transactions.rows.all fun t => (db.transactions.get t.id).isSome then
      some ({ s with db := { db with events := s.db.events } }, some ())
    else none

/-- The rest of the application takes nothing from the record: it writes no receipt and keeps no
record. -/
theorem otherBusiness_lasts {s s' : Store} {u : Unit} {db : Db} {o : Option Unit}
    (h : otherBusiness.advance s u db = some (s', o)) :
    Lasts s s' ∧ s'.db.events = s.db.events ∧ s'.history = s.history ∧
      s'.answers = s.answers := by
  simp only [otherBusiness] at h
  split at h
  · rename_i hkept
    cases h
    refine ⟨⟨fun i e hget => ⟨e, hget, rfl⟩, ?_, fun c hc => hc⟩, rfl, rfl, rfl⟩
    intro i hi
    obtain ⟨t, ht⟩ := Option.isSome_iff_exists.mp hi
    obtain ⟨hmem, rfl⟩ := Table.get_eq_some_iff.mp ht
    exact List.all_eq_true.mp hkept t hmem
  · cases h

/-- Deliveries in any number and order, interleaved with everything else. -/
def deliveries : Sessions Store (Delivery ⊕ Unit) (DeliverySession ⊕ Unit) (Tick ⊕ Db) :=
  koraWebhook.sum otherBusiness

/-- The statements allowed: those of a delivery meet `acknowledgesApplied`, and the rest
of the application keeps the rows, as all of its code does. -/
def safeStatement (s : Store) : DeliverySession ⊕ Unit → Tick ⊕ Db → Bool
  | .inl t, _ => acknowledgesApplied t s
  | .inr _, .inr db => keepsRows s.db db
  | .inr _, .inl _ => true

/-- The guard on a run. -/
def safelyAcknowledged (p : Pool Store (DeliverySession ⊕ Unit)) :
    PoolAct (Delivery ⊕ Unit) (Tick ⊕ Db) → Bool
  | .advance i x => (p.session i).all fun t => safeStatement p.store t x
  | _ => true

/-- The guard of the run is about the session that moves. -/
theorem safeStatement_of_guard {p : Pool Store (DeliverySession ⊕ Unit)} {i : ℕ} {x : Tick ⊕ Db}
    {t : DeliverySession ⊕ Unit} (ht : p.session i = some t)
    (hguard : safelyAcknowledged p (.advance i x) = true) : safeStatement p.store t x = true := by
  simpa only [safelyAcknowledged, ht, Option.all_some] using hguard

/-- What each session in the pool knows. -/
def SessionAwaits (s : Store) : DeliverySession ⊕ Unit → Prop
  | .inl t => Awaits s t.delivery t.phase
  | .inr _ => True

section Statements

variable {s s' : Store} {t : DeliverySession ⊕ Unit} {x : Tick ⊕ Db}
  {o : Option (DeliverySession ⊕ Unit)}

/-- Every step of every session keeps receipts, transactions and history. -/
theorem deliveries_lasts (hadv : deliveries.advance s t x = some (s', o)) : Lasts s s' := by
  cases t with
  | inl u =>
      obtain ⟨tick, s₁, o₁, -, hu, hr⟩ := Sessions.sum_advance_inl hadv
      obtain ⟨rfl, rfl⟩ := Prod.mk.inj hr
      obtain ⟨next, hstep, -⟩ := koraWebhook_advance hu
      exact hstep.lasts
  | inr u =>
      obtain ⟨db, s₁, o₁, -, hu, hr⟩ := Sessions.sum_advance_inr hadv
      obtain ⟨rfl, rfl⟩ := Prod.mk.inj hr
      exact (otherBusiness_lasts hu).1

/-- Under the guard it takes nothing away. -/
theorem deliveries_keeps (hadv : deliveries.advance s t x = some (s', o))
    (hguard : safeStatement s t x = true) : Keeps s.db s'.db := by
  cases t with
  | inl u =>
      obtain ⟨tick, s₁, o₁, -, hu, hr⟩ := Sessions.sum_advance_inl hadv
      obtain ⟨rfl, rfl⟩ := Prod.mk.inj hr
      obtain ⟨next, hstep, -⟩ := koraWebhook_advance hu
      exact hstep.keeps
  | inr u =>
      obtain ⟨db, s₁, o₁, rfl, hu, hr⟩ := Sessions.sum_advance_inr hadv
      obtain ⟨rfl, rfl⟩ := Prod.mk.inj hr
      have hrows := Keeps.of_rows hguard
      simp only [otherBusiness] at hu
      split at hu
      · cases hu
        exact ⟨hrows.transactions, hrows.refunds, hrows.ledger⟩
      · cases hu

/-- A statement of any session, against the store and against its own session. -/
theorem deliveries_keepRecorded (hadv : deliveries.advance s t x = some (s', o))
    (hguard : safeStatement s t x = true) (hstore : ReceiptsRecorded s)
    (hown : SessionAwaits s t) :
    ReceiptsRecorded s' ∧ ∀ t', o = some t' → SessionAwaits s' t' := by
  cases t with
  | inl u =>
      obtain ⟨tick, s₁, o₁, -, hu, hr⟩ := Sessions.sum_advance_inl hadv
      obtain ⟨rfl, rfl⟩ := Prod.mk.inj hr
      obtain ⟨next, hstep, rfl⟩ := koraWebhook_advance hu
      obtain ⟨hkept, hnext⟩ := hstep.keepsRecorded hguard hstore hown
      refine ⟨hkept, ?_⟩
      intro t' ht'
      cases next with
      | none => cases ht'
      | some phase' =>
          cases ht'
          exact hnext phase' rfl
  | inr u =>
      obtain ⟨db, s₁, o₁, -, hu, hr⟩ := Sessions.sum_advance_inr hadv
      obtain ⟨rfl, rfl⟩ := Prod.mk.inj hr
      -- the rest of the application has no receipts and gives no answers
      obtain ⟨hlasts, hevents, hhistory, hanswers⟩ := otherBusiness_lasts hu
      refine ⟨⟨?_, ?_⟩, ?_⟩
      · intro e he hprocessed
        rw [hevents] at he
        exact (hstore.processed e he hprocessed).lasts hlasts
      · intro a ha hacknowledged
        rw [hanswers] at ha
        exact (hstore.acknowledged a ha hacknowledged).lasts hlasts
      · intro t' ht'
        obtain ⟨v, -, rfl⟩ := Option.map_eq_some_iff.mp ht'
        trivial

/-- The statement that puts an event on record commits its effect. -/
theorem deliveries_shows {content : Content} (hadv : deliveries.advance s t x = some (s', o))
    (hguard : safeStatement s t x = true) (hown : SessionAwaits s t)
    (hbefore : ¬ s.Recorded content) (hafter : s'.Recorded content) :
    (∃ work, s'.history = s.history ++ [⟨content, work⟩]) ∧ EffectShown content s'.db := by
  cases t with
  | inl u =>
      obtain ⟨tick, s₁, o₁, -, hu, hr⟩ := Sessions.sum_advance_inl hadv
      obtain ⟨rfl, rfl⟩ := Prod.mk.inj hr
      obtain ⟨next, hstep, -⟩ := koraWebhook_advance hu
      obtain ⟨d, phase⟩ := u
      exact hstep.shows hguard hown hbefore hafter
  | inr u =>
      obtain ⟨db, s₁, o₁, -, hu, hr⟩ := Sessions.sum_advance_inr hadv
      obtain ⟨rfl, rfl⟩ := Prod.mk.inj hr
      obtain ⟨-, -, hhistory, -⟩ := otherBusiness_lasts hu
      unfold Store.Recorded at hbefore hafter
      rw [hhistory] at hafter
      exact absurd hafter hbefore

end Statements

/-- The outline of the deliveries: what is kept, and what each session knows. -/
theorem acknowledgement_outline :
    Outline deliveries (fun p a => safelyAcknowledged p a = true) ReceiptsRecorded
      SessionAwaits (fun _ _ => True) where
  opened s request _ := by cases request <;> trivial
  openedCompat _ _ := ⟨trivial, trivial⟩
  global p i t x s' o h ht hadv hguard :=
    (deliveries_keepRecorded hadv (safeStatement_of_guard ht hguard) h.global (h.each i t ht)).1
  own p i t x s' t' h ht hadv hguard :=
    (deliveries_keepRecorded hadv (safeStatement_of_guard ht hguard) h.global
      (h.each i t ht)).2 t' rfl
  others p i t x s' o j u h ht hadv hguard hne hj := by
    have hkeeps := deliveries_keeps hadv (safeStatement_of_guard ht hguard)
    have hu := h.each j u hj
    cases u with
    | inl v => exact Awaits.lasts (deliveries_lasts hadv) hkeeps hu
    | inr v => trivial
  compat _ _ _ _ _ _ _ _ _ _ _ _ _ _ := ⟨trivial, trivial⟩

/-! ## Runs

Where an event is on record at the end and was not at the start, some step put it there. -/

instance : IsPreorder (Pool Store (DeliverySession ⊕ Unit))
    (fun p p' => Lasts p.store p'.store) where
  refl p := Lasts.refl p.store
  trans _ _ _ h h' := h.trans h'

/-- A run of deliveries keeps receipts, transactions and history. -/
theorem pool_lasts {P : Pool Store (DeliverySession ⊕ Unit) →
      PoolAct (Delivery ⊕ Unit) (Tick ⊕ Db) → Prop}
    {p p' : Pool Store (DeliverySession ⊕ Unit)}
    {as : List (PoolAct (Delivery ⊕ Unit) (Tick ⊕ Db))}
    (run : Run deliveries.machine P p as p') : Lasts p.store p'.store := by
  refine run.relates (R := fun p p' => Lasts p.store p'.store) ?_
  intro p a p' hstep _
  rcases Pool.step_cases hstep with ⟨-, hstore⟩ | ⟨i, x, t, s', o, -, -, hadv, rfl⟩
  · rw [hstore]
    exact Lasts.refl p.store
  · exact deliveries_lasts hadv

/-- **Applied.**  One step of the run committed the unit of work of the event, and after
it the transaction, the refund and the ledger show the event's effect. -/
def AppliedIn (db : Db) (as : List (PoolAct (Delivery ⊕ Unit) (Tick ⊕ Db)))
    (content : Content) : Prop :=
  ∃ front a back p p', as = front ++ a :: back ∧
    Run deliveries.machine Unguarded (Pool.quiet (Store.start db)) front p ∧
    deliveries.machine.step p a = some p' ∧
    (∃ work, p'.store.history = p.store.history ++ [⟨content, work⟩]) ∧
    EffectShown content p'.store.db

/-- An event that was applied is on record. -/
theorem AppliedIn.recorded {db : Db} {as : List (PoolAct (Delivery ⊕ Unit) (Tick ⊕ Db))}
    {content : Content} {p : Pool Store (DeliverySession ⊕ Unit)}
    (run : Run deliveries.machine Unguarded (Pool.quiet (Store.start db)) as p)
    (h : AppliedIn db as content) : p.store.Recorded content := by
  obtain ⟨front, a, back, q, q', rfl, hfront, hstep, ⟨work, hhistory⟩, -⟩ := h
  obtain ⟨mid, hmid, hrest⟩ := run.split
  obtain rfl := hmid.functional hfront
  cases hrest with
  | cons hstep' _ hback =>
      obtain rfl := Option.some.inj (hstep'.symm.trans hstep)
      refine ⟨⟨content, work⟩, (pool_lasts hback).history _ ?_, rfl⟩
      rw [hhistory]
      exact List.mem_append_right _ (List.mem_singleton_self _)

/-- Under the guard, an event on record was applied: the step that put it there is the
commit of a session that stood at its assertion. -/
theorem applied_of_recorded {db : Db} {p : Pool Store (DeliverySession ⊕ Unit)}
    {as : List (PoolAct (Delivery ⊕ Unit) (Tick ⊕ Db))}
    (run : Run deliveries.machine (fun p a => safelyAcknowledged p a = true)
      (Pool.quiet (Store.start db)) as p)
    {content : Content} (h : p.store.Recorded content) : AppliedIn db as content := by
  have hstart : ¬ (Pool.quiet (Store.start db) :
      Pool Store (DeliverySession ⊕ Unit)).store.Recorded content := by
    rintro ⟨c, hc, -⟩
    cases hc
  obtain ⟨front, a, back, q, q', rfl, hfront, hstep, hguard, hbefore, hafter, -⟩ :=
    run.crossing (Q := fun p => p.store.Recorded content) hstart h
  have hmeets := acknowledgement_outline.run hfront
    (Pool.Meets.quiet (ReceiptsRecorded.start db))
  refine ⟨front, a, back, q, q', rfl, hfront.unguarded, hstep, ?_⟩
  rcases Pool.step_cases hstep with ⟨-, hstore⟩ | ⟨i, x, t, s', o, rfl, ht, hadv, rfl⟩
  · -- opening and crashing a session put nothing on record
    rw [hstore] at hafter
    exact absurd hafter hbefore
  · exact deliveries_shows hadv (safeStatement_of_guard ht hguard) (hmeets.each i t ht) hbefore
      hafter

/-- **No acknowledged event is lost.**  In every interleaving of deliveries with
each other and with the rest of the application, with statements failing and
processes dying at any point, in which duplicates are looked up only once their
receipt is processed for the same content, no charge event precedes its
transaction, and no commit leaves a status alone that has changed since it was
read: every delivery answered with status 200 has had its effect committed to the
transaction, refund and ledger tables. -/
theorem acknowledged_applied {db : Db} {p : Pool Store (DeliverySession ⊕ Unit)}
    {as : List (PoolAct (Delivery ⊕ Unit) (Tick ⊕ Db))}
    (run : Run deliveries.machine (fun p a => safelyAcknowledged p a = true)
      (Pool.quiet (Store.start db)) as p)
    {d : Delivery} {answer : Answer} (hanswer : (d, answer) ∈ p.store.answers)
    (hacknowledged : answer.acknowledged = true) : AppliedIn db as d.content := by
  have hmeets := acknowledgement_outline.run run (Pool.Meets.quiet (ReceiptsRecorded.start db))
  exact applied_of_recorded run
    (hmeets.global.acknowledged (d, answer) hanswer hacknowledged)

/-- A confirmation of `processingPayin`. -/
def chargeDelivery : Delivery where
  body :=
    [("id", .str "evt-1"), ("event", .str "charge.success"),
      ("data", .obj [("reference", .str "KPY-1"), ("status", .str "success")])]
  data := [("reference", .str "KPY-1"), ("status", .str "success")]
  payloadHash := "hash-1"
  signed := by decide +kernel

/-- A confirmation of `acceptedPayout`. -/
def payoutDelivery : Delivery where
  body :=
    [("id", .str "evt-2"), ("event", .str "transfer.success"),
      ("data", .obj [("reference", .str "KPO-1"), ("status", .str "success")])]
  data := [("reference", .str "KPO-1"), ("status", .str "success")]
  payloadHash := "hash-2"
  signed := by decide +kernel

/-- The delivery `i`, from its arrival through `n` undisturbed statements. -/
def delivered (i : ℕ) (d : Delivery) (n : ℕ) : List (PoolAct (Delivery ⊕ Unit) (Tick ⊕ Db)) :=
  .begin i (.inl d) :: List.replicate n (.advance i (.inl ⟨0, false⟩))

/-- The statement on a confirmation that is delivered twice. -/
theorem acknowledged_applied_chargeDelivery :
    ∃ p, Run deliveries.machine (fun p a => safelyAcknowledged p a = true)
        (Pool.quiet (Store.start (Db.holding processingPayin)))
        (delivered 0 chargeDelivery 5 ++ delivered 1 chargeDelivery 3) p ∧
      (chargeDelivery, Answer.already .processed) ∈ p.store.answers ∧
      AppliedIn (Db.holding processingPayin)
        (delivered 0 chargeDelivery 5 ++ delivered 1 chargeDelivery 3)
        chargeDelivery.content := by
  have hcheck : (deliveries.machine.check safelyAcknowledged
      (Pool.quiet (Store.start (Db.holding processingPayin)))
      (delivered 0 chargeDelivery 5 ++ delivered 1 chargeDelivery 3)).map
        (fun p => p.store.answers) =
      some [(chargeDelivery, .processed), (chargeDelivery, .already .processed)] := by
    decide +kernel
  obtain ⟨p, hp, hanswers⟩ := Option.map_eq_some_iff.mp hcheck
  have run := Run.of_check hp
  have hmem : (chargeDelivery, Answer.already .processed) ∈ p.store.answers := by
    rw [hanswers]
    exact List.mem_cons_of_mem _ (List.mem_singleton_self _)
  exact ⟨p, run, hmem, acknowledged_applied run hmem rfl⟩

/-- A confirmation overtakes its payout, which is then stored, and is delivered again. -/
def overtakenRun : List (PoolAct (Delivery ⊕ Unit) (Tick ⊕ Db)) :=
  delivered 0 payoutDelivery 4 ++
    [.begin 9 (.inr ()), .advance 9 (.inr (Db.holding acceptedPayout))] ++
    delivered 1 payoutDelivery 3

/-- A confirmation that overtakes its payout is refused with status 500; once the
payout is there, the redelivery is acknowledged and still not applied. -/
theorem acknowledged_lost :
    ∃ p, Run deliveries.machine Unguarded (Pool.quiet (Store.start Db.empty)) overtakenRun p ∧
      (payoutDelivery, Answer.already .failed) ∈ p.store.answers ∧
      (Answer.already .failed).acknowledged = true ∧
      ¬ AppliedIn Db.empty overtakenRun payoutDelivery.content := by
  have hcheck : (deliveries.machine.check (fun _ _ => true)
      (Pool.quiet (Store.start Db.empty)) overtakenRun).map
        (fun p => (p.store.answers, p.store.history.length)) =
      some ([(payoutDelivery, .failed), (payoutDelivery, .already .failed)], 0) := by
    decide +kernel
  obtain ⟨p, hp, hreached⟩ := Option.map_eq_some_iff.mp hcheck
  obtain ⟨hanswers, hhistory⟩ := Prod.mk.inj hreached
  refine ⟨p, (Run.of_check hp).unguarded, ?_, rfl, ?_⟩
  · rw [hanswers]
    exact List.mem_cons_of_mem _ (List.mem_singleton_self _)
  · intro happlied
    obtain ⟨c, hc, -⟩ := happlied.recorded (Run.of_check hp).unguarded
    rw [List.eq_nil_of_length_eq_zero hhistory] at hc
    cases hc

end AfricaFrontier
