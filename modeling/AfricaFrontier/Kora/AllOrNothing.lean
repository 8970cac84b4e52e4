import AfricaFrontier.Kora.Acknowledgement
import AfricaFrontier.Kora.Handling

/-!
# A webhook is processed in one piece

`kora_webhook` writes the business tables in one commit, the one that marks the
receipt processed; every exception before it is rolled back, and a process that dies
has written nothing but the receipt.

Two views of this are proved of arbitrary runs.

* A receipt that is processed became so in one step of the run, and that same step
  committed the complete unit of work of its event (`processed_in_one_commit`).
* A delivery that is handled on its own — with any clock readings, any failing
  statements, and a crash at any point — leaves the business tables with the whole
  effect of its event and the receipt processed, or exactly as they were
  (`AloneAt`, which says what holds after each of its statements).

A complete unit of work is one that the handler reached through all of its statements
(`CompleteWork`), each of them run against whatever was stored at its time; that is what a session
in a crowd commits. For a delivery on its own the statements see one database, and the unit of
work is then the one of `process_kora_webhook_business_event`.

The crossing lemma of the library finds the step in which a receipt became processed; that the
step is a commit with the whole unit of work is `pool_processes`.
-/

namespace AfricaFrontier

open Python Relational Transition

/-! ## Complete units of work -/

/-- The handler of an event gets this far, whatever the database was at each of its
statements. -/
inductive Dispatched (content : Content) : BusinessPhase → Prop
  | start : Dispatched content .dispatching
  | next {now : Instant} {db : Db} {phase next : BusinessPhase} (h : Dispatched content phase)
      (hstep : businessStep content now db phase = .ok (.inl next)) : Dispatched content next

/-- A unit of work the handler of an event ends with. -/
def CompleteWork (content : Content) (work : UnitOfWork) : Prop :=
  ∃ now db phase, Dispatched content phase ∧
    businessStep content now db phase = .ok (.inr work)

/-- What a delivery in flight knows: the receipt it stored, and that its handler went
through its statements. -/
def Handles (s : Store) : DeliverySession ⊕ Unit → Prop
  | .inl ⟨d, .processing receipt phase⟩ =>
      HoldsReceipt s d receipt ∧ Dispatched d.content phase
  | .inl ⟨d, .staged receipt work⟩ => HoldsReceipt s d receipt ∧ CompleteWork d.content work
  | _ => True

/-- A stored receipt stays stored. -/
theorem HoldsReceipt.lasts {s s' : Store} {d : Delivery} {receipt : ℕ} (hlasts : Lasts s s')
    (h : HoldsReceipt s d receipt) : HoldsReceipt s' d receipt := by
  obtain ⟨e, hget, hcontent⟩ := h
  obtain ⟨e', hget', hsame⟩ := hlasts.receipts receipt e hget
  exact ⟨e', hget', hsame.trans hcontent⟩

/-- Other sessions do not disturb it. -/
theorem Handles.lasts {s s' : Store} {t : DeliverySession ⊕ Unit} (hlasts : Lasts s s')
    (h : Handles s t) : Handles s' t := by
  rcases t with ⟨d, phase⟩ | u
  · cases phase with
    | processing receipt phase => exact ⟨h.1.lasts hlasts, h.2⟩
    | staged receipt work => exact ⟨h.1.lasts hlasts, h.2⟩
    | received => trivial
    | conflicting => trivial
    | failing receipt error => trivial
    | answering answer => trivial
  · trivial

/-- Its own statements keep it. -/
theorem DeliveryStep.handles {d : Delivery} {s s' : Store} {phase phase' : DeliveryPhase}
    (h : DeliveryStep d s phase s' (some phase')) (hown : Handles s (.inl ⟨d, phase⟩)) :
    Handles s' (.inl ⟨d, phase'⟩) := by
  cases h with
  | @recorded now events hinsert =>
      refine ⟨⟨d.receipt now s.db.events.next, ?_, d.receipt_content now _⟩, .start⟩
      show events.get s.db.events.next = some (d.receipt now s.db.events.next)
      rw [Table.get_insert hinsert, if_pos rfl]
  | advanced hstep => exact ⟨hown.1, hown.2.next hstep⟩
  | computed hstep => exact ⟨hown.1, _, _, _, hown.2, hstep⟩
  | clashed => trivial
  | duplicate => trivial
  | raised => trivial
  | committed hflush => trivial
  | rejected => trivial
  | marked => trivial
  | refused => trivial

/-- What a session knows after its own step. -/
theorem deliveries_handles {s s' : Store} {t t' : DeliverySession ⊕ Unit} {x : Tick ⊕ Db}
    (hadv : deliveries.advance s t x = some (s', some t')) (hown : Handles s t) :
    Handles s' t' := by
  cases t with
  | inl u =>
      obtain ⟨tick, s₁, o₁, -, hu, hr⟩ := Sessions.sum_advance_inl hadv
      obtain ⟨rfl, ho⟩ := Prod.mk.inj hr
      obtain ⟨next, hstep, rfl⟩ := koraWebhook_advance hu
      cases next with
      | none => cases ho
      | some phase' =>
          cases ho
          exact hstep.handles hown
  | inr u =>
      obtain ⟨db, s₁, o₁, -, hu, hr⟩ := Sessions.sum_advance_inr hadv
      obtain ⟨rfl, ho⟩ := Prod.mk.inj hr
      obtain ⟨v, -, rfl⟩ := Option.map_eq_some_iff.mp ho.symm
      trivial

/-- The outline: no invariant of the store is needed. -/
theorem handles_outline :
    Outline deliveries Unguarded (fun _ => True) Handles (fun _ _ => True) where
  opened s request _ := by cases request <;> trivial
  openedCompat _ _ := ⟨trivial, trivial⟩
  global _ _ _ _ _ _ _ _ _ _ := trivial
  own p i t x s' t' h ht hadv _ := deliveries_handles hadv (h.each i t ht)
  others p i t x s' o j u h ht hadv _ _ hj := (h.each j u hj).lasts (deliveries_lasts hadv)
  compat _ _ _ _ _ _ _ _ _ _ _ _ _ _ := ⟨trivial, trivial⟩

/-! ## The step that processes a receipt

Any other step of any session leaves a processed receipt as it is, and makes none. -/

/-- The receipt `k` is processed. -/
def ProcessedAt (k : ℕ) (s : Store) : Prop :=
  ∃ e, s.db.events.get k = some e ∧ e.status = .processed

/-- Between two databases, a complete unit of work of an event was committed, and no
business table changed in any other way. -/
def CommitsWhole (content : Content) (db db' : Db) : Prop :=
  ∃ work written, CompleteWork content work ∧ work.flush db = .ok written ∧
    BusinessEq written db'

/-- A statement of a delivery processes a receipt only by committing the complete unit
of work of the receipt's event. -/
theorem DeliveryStep.processes {d : Delivery} {s s' : Store} {phase : DeliveryPhase}
    {next : Option DeliveryPhase} {k : ℕ} (h : DeliveryStep d s phase s' next)
    (hown : Handles s (.inl ⟨d, phase⟩)) (hbefore : ¬ ProcessedAt k s)
    (hafter : ProcessedAt k s') :
    ∃ e, s'.db.events.get k = some e ∧ CommitsWhole e.content s.db s'.db := by
  cases h with
  | @recorded now events hinsert =>
      exfalso
      obtain ⟨e, hget, hprocessed⟩ := hafter
      have hlookup := Table.get_insert hinsert k
      rw [show events.get k = some e from hget] at hlookup
      by_cases hk : k = s.db.events.next
      · -- the receipt just stored is in state `received`
        rw [if_pos hk] at hlookup
        obtain rfl := Option.some.inj hlookup
        cases hprocessed
      · rw [if_neg hk] at hlookup
        exact hbefore ⟨e, hlookup.symm, hprocessed⟩
  | @committed receipt work now db hflush =>
      obtain ⟨⟨e₀, hget₀, hcontent₀⟩, hcomplete⟩ := hown
      obtain ⟨-, -, -, hevents, -⟩ := UnitOfWork.flush_ok hflush
      obtain ⟨e, hget, hprocessed⟩ := hafter
      obtain ⟨e₁, hget₁, rfl⟩ := Table.exists_of_get_modify (markProcessed now) (fun _ => rfl) hget
      rw [hevents] at hget₁
      by_cases hk : k = receipt
      · subst hk
        obtain rfl : e₁ = e₀ := Option.some.inj (hget₁.symm.trans hget₀)
        refine ⟨_, hget, work, db, ?_, hflush, ⟨rfl, rfl, rfl, rfl, rfl⟩⟩
        rw [if_pos rfl, markProcessed_content, hcontent₀]
        exact hcomplete
      · rw [if_neg hk] at hprocessed
        exact absurd ⟨e₁, hget₁, hprocessed⟩ hbefore
  | @marked receipt error =>
      exfalso
      obtain ⟨e, hget, hprocessed⟩ := hafter
      obtain ⟨e₁, hget₁, rfl⟩ := Table.exists_of_get_modify (markFailed error) (fun _ => rfl) hget
      by_cases hk : k = receipt
      · rw [if_pos hk] at hprocessed
        cases hprocessed
      · rw [if_neg hk] at hprocessed
        exact hbefore ⟨e₁, hget₁, hprocessed⟩
  | clashed => exact absurd hafter hbefore
  | duplicate => exact absurd hafter hbefore
  | advanced hstep => exact absurd hafter hbefore
  | computed hstep => exact absurd hafter hbefore
  | raised => exact absurd hafter hbefore
  | rejected => exact absurd hafter hbefore
  | refused => exact absurd hafter hbefore
  | answered => exact absurd hafter hbefore

/-- The same of a step of the pool. -/
theorem pool_processes {p p' : Pool Store (DeliverySession ⊕ Unit)}
    {a : PoolAct (Delivery ⊕ Unit) (Tick ⊕ Db)} {k : ℕ}
    (hstep : deliveries.machine.step p a = some p')
    (hknown : ∀ i t, p.session i = some t → Handles p.store t)
    (hbefore : ¬ ProcessedAt k p.store) (hafter : ProcessedAt k p'.store) :
    ∃ e, p'.store.db.events.get k = some e ∧
      CommitsWhole e.content p.store.db p'.store.db := by
  rcases Pool.step_cases hstep with ⟨-, hstore⟩ | ⟨i, x, t, s', o, -, ht, hadv, rfl⟩
  · -- opening and crashing a session process nothing
    rw [hstore] at hafter
    exact absurd hafter hbefore
  · have hown := hknown i t ht
    cases t with
    | inl u =>
        obtain ⟨tick, s₁, o₁, -, hu, hr⟩ := Sessions.sum_advance_inl hadv
        obtain ⟨rfl, rfl⟩ := Prod.mk.inj hr
        obtain ⟨next, hdelivery, -⟩ := koraWebhook_advance hu
        exact hdelivery.processes hown hbefore hafter
    | inr u =>
        obtain ⟨db, s₁, o₁, -, hu, hr⟩ := Sessions.sum_advance_inr hadv
        obtain ⟨rfl, rfl⟩ := Prod.mk.inj hr
        obtain ⟨-, hevents, -⟩ := otherBusiness_lasts hu
        obtain ⟨e, hget, hprocessed⟩ := hafter
        rw [Pool.assign_store, hevents] at hget
        exact absurd ⟨e, hget, hprocessed⟩ hbefore

/-! ## The moment of processing -/

/-- One step of a run processed the receipt, and committed with it the complete unit of
work of the receipt's event. -/
def ProcessedInOneCommit (db : Db) (as : List (PoolAct (Delivery ⊕ Unit) (Tick ⊕ Db)))
    (e : KoraWebhookEvent) : Prop :=
  ∃ front a back p p', as = front ++ a :: back ∧
    Run deliveries.machine Unguarded (Pool.quiet (Store.start db)) front p ∧
    deliveries.machine.step p a = some p' ∧
    ¬ ProcessedAt e.id p.store ∧ ProcessedAt e.id p'.store ∧
    CommitsWhole e.content p.store.db p'.store.db

/-- **Processed in one commit.**  Every processed receipt of every run became so in a
step that committed the complete unit of work of its event, and nothing else. -/
theorem processed_in_one_commit {db : Db} {p : Pool Store (DeliverySession ⊕ Unit)}
    {as : List (PoolAct (Delivery ⊕ Unit) (Tick ⊕ Db))}
    (run : Run deliveries.machine Unguarded (Pool.quiet (Store.start db)) as p)
    {e : KoraWebhookEvent} (he : e ∈ p.store.db.events) (hprocessed : e.status = .processed) :
    ProcessedInOneCommit db as e := by
  have hstored : p.store.db.events.get e.id = some e := Table.get_ident he
  have hstart : ¬ ProcessedAt e.id (Pool.quiet (Store.start db) :
      Pool Store (DeliverySession ⊕ Unit)).store := by
    rintro ⟨e₀, hget, -⟩
    have hnone : (Table.empty : Table KoraWebhookEvent).get e.id = some e₀ := hget
    cases hnone
  obtain ⟨front, a, back, q, q', rfl, hfront, hstep, -, hbefore, hafter, hback⟩ :=
    run.crossing (Q := fun p => ProcessedAt e.id p.store) hstart ⟨e, hstored, hprocessed⟩
  have hmeets := handles_outline.run hfront (Pool.Meets.quiet trivial)
  obtain ⟨e', hget', hcommits⟩ := pool_processes hstep hmeets.each hbefore hafter
  -- the receipt of that step is the receipt of the end, with the same event
  obtain ⟨e'', hget'', hcontent⟩ := (pool_lasts hback).receipts e.id e' hget'
  obtain rfl : e = e'' := Option.some.inj (hstored.symm.trans hget'')
  rw [← hcontent] at hcommits
  exact ⟨front, a, back, q, q', rfl, hfront, hstep, hbefore, hafter, hcommits⟩

/-! ## A delivery on its own

The two outcomes, and the points in between at which the process may die. -/

/-- The whole effect of an event is there, and its receipt says so. -/
structure AppliedWhole (d : Delivery) (db db' : Db) : Prop where
  unseen : d.Unseen db
  effect : ∃ now work written,
    processKoraWebhookBusinessEvent d.body d.eventType now db = .ok work ∧
    work.flush db = .ok written ∧ BusinessEq written db'
  receipt : ∃ e ∈ db'.events, e.eventId = d.eventId ∧ e.content = d.content ∧
    e.status = .processed

/-- The business tables are as they were.  A receipt under the event id is unprocessed,
unless it is one that was there already; it is missing only when the database was not
touched at all. -/
structure LeftAlone (d : Delivery) (db db' : Db) : Prop where
  business : BusinessEq db db'
  receipts : ∀ e ∈ db'.events, e.eventId = d.eventId →
    e.status = .failed ∨ e.status = .received ∨ e ∈ db.events
  stored : (∃ e ∈ db'.events, e.eventId = d.eventId) ∨ db' = db

/-- The receipt of the delivery was stored, and nothing else happened. -/
def ReceiptStored (d : Delivery) (db db' : Db) : Prop :=
  ∃ now events, d.insertReceipt now db = some events ∧ db' = { db with events := events }

/-- How far a delivery that nobody interferes with has got from the database `db`. -/
inductive AloneAt (d : Delivery) (db : Db) (s : Store) : Option DeliveryPhase → Prop
  | received (hdb : s.db = db) : AloneAt d db s (some .received)
  | conflicting (hdb : s.db = db) : AloneAt d db s (some .conflicting)
  | processing {phase : BusinessPhase} (hstored : ReceiptStored d db s.db)
      (hrest : ∀ now, businessRest d.content now db phase =
        businessRest d.content now db .dispatching) :
      AloneAt d db s (some (.processing db.events.next phase))
  | staged {work : UnitOfWork} (hstored : ReceiptStored d db s.db)
      (hwork : ∃ now, businessRest d.content now db .dispatching = .ok work) :
      AloneAt d db s (some (.staged db.events.next work))
  | failing {error : PyError} (hstored : ReceiptStored d db s.db) :
      AloneAt d db s (some (.failing db.events.next error))
  | answering {answer : Answer} (houtcome : AppliedWhole d db s.db ∨ LeftAlone d db s.db) :
      AloneAt d db s (some (.answering answer))
  | finished (houtcome : AppliedWhole d db s.db ∨ LeftAlone d db s.db) : AloneAt d db s none

/-- Nothing was done. -/
theorem LeftAlone.refl (d : Delivery) (db : Db) : LeftAlone d db db where
  business := BusinessEq.refl db
  receipts _ he _ := Or.inr (Or.inr he)
  stored := Or.inr rfl

/-- Only the receipt was stored. -/
theorem ReceiptStored.leftAlone {d : Delivery} {db db' : Db} (h : ReceiptStored d db db') :
    LeftAlone d db db' := by
  obtain ⟨now, events, hinsert, rfl⟩ := h
  refine ⟨⟨rfl, rfl, rfl, rfl, rfl⟩, ?_, Or.inl ?_⟩
  · intro e he _
    rcases (Table.mem_insert hinsert).mp he with hold | rfl
    · exact Or.inr (Or.inr hold)
    · exact Or.inr (Or.inl rfl)
  · exact ⟨_, (Table.mem_insert hinsert).mpr (Or.inr rfl), rfl⟩

/-- At whatever point the delivery stops, all or nothing is there. -/
theorem AloneAt.outcome {d : Delivery} {db : Db} {s : Store} {o : Option DeliveryPhase}
    (h : AloneAt d db s o) : AppliedWhole d db s.db ∨ LeftAlone d db s.db := by
  cases h with
  | received hdb => exact Or.inr (hdb ▸ LeftAlone.refl d s.db)
  | conflicting hdb => exact Or.inr (hdb ▸ LeftAlone.refl d s.db)
  | processing hstored hrest => exact Or.inr hstored.leftAlone
  | staged hstored hwork => exact Or.inr hstored.leftAlone
  | failing hstored => exact Or.inr hstored.leftAlone
  | answering houtcome => exact houtcome
  | finished houtcome => exact houtcome

/-! ### One statement -/

/-- Receipts do not change what a statement of the handler does. -/
theorem businessStep_with_events (content : Content) (now : Instant) (db : Db)
    (events : Table KoraWebhookEvent) (phase : BusinessPhase) :
    businessStep content now { db with events := events } phase =
      businessStep content now db phase := by
  cases phase <;> rfl

/-- A statement of the handler does the same with and without the receipt. -/
theorem ReceiptStored.businessStep {d : Delivery} {db db' : Db} (h : ReceiptStored d db db')
    (content : Content) (now : Instant) (phase : BusinessPhase) :
    businessStep content now db' phase = AfricaFrontier.businessStep content now db phase := by
  obtain ⟨-, events, -, rfl⟩ := h
  exact businessStep_with_events content now db events phase

/-- The clock only matters at the last statement of the handler. -/
theorem businessStep_now {content : Content} {now : Instant} {db : Db}
    {phase next : BusinessPhase} (h : businessStep content now db phase = .ok (.inl next))
    (now' : Instant) : businessStep content now' db phase = .ok (.inl next) := by
  cases phase with
  | dispatching => exact h
  | refundFound refund => exact h
  | refundLoaded refund t =>
      rcases businessStep_inl h with ⟨hphase, -⟩ | ⟨hphase, -⟩ | ⟨_, _, hphase, -⟩
      · cases hphase
      · cases hphase
      · cases hphase
  | paymentFound kind t =>
      rcases businessStep_inl h with ⟨hphase, -⟩ | ⟨hphase, -⟩ | ⟨_, _, hphase, -⟩
      · cases hphase
      · cases hphase
      · cases hphase

/-- Marking the stored receipt failed leaves the business tables alone. -/
theorem ReceiptStored.failed {d : Delivery} {db db' : Db} (h : ReceiptStored d db db')
    (error : PyError) :
    LeftAlone d db { db' with
      events := db'.events.modify db.events.next (markFailed error) (fun _ => rfl) } := by
  obtain ⟨now, events, hinsert, rfl⟩ := h
  refine ⟨⟨rfl, rfl, rfl, rfl, rfl⟩, ?_, Or.inl ?_⟩
  · intro e he _
    have hmarked : e ∈ events.modify db.events.next (markFailed error) (fun _ => rfl) := he
    obtain ⟨e₁, he₁, rfl⟩ := Table.mem_modify.mp hmarked
    by_cases hid : ident e₁ = db.events.next
    · rw [if_pos hid]
      exact Or.inl rfl
    · rw [if_neg hid]
      rcases (Table.mem_insert hinsert).mp he₁ with hold | rfl
      · exact Or.inr (Or.inr hold)
      · exact absurd rfl hid
  · have hnew := (Table.mem_insert hinsert).mpr (Or.inr rfl)
    exact ⟨_, Table.mem_modify_self (markFailed error) (fun _ => rfl) hnew, rfl⟩

/-- The commit of the handler's unit of work, with the receipt marked processed. -/
theorem ReceiptStored.applied {d : Delivery} {db db' written : Db} {now now' : Instant}
    {work : UnitOfWork} (h : ReceiptStored d db db')
    (hwork : businessRest d.content now db .dispatching = .ok work)
    (hflush : work.flush db' = .ok written) :
    AppliedWhole d db { written with
      events := written.events.modify db.events.next (markProcessed now') (fun _ => rfl) } := by
  obtain ⟨received, events, hinsert, rfl⟩ := h
  have hevents : written.events = events := (UnitOfWork.flush_ok hflush).2.2.2.1
  refine ⟨Delivery.unseen_of_insertReceipt hinsert, ?_, ?_⟩
  · rw [businessRest_dispatching] at hwork
    rw [flush_with_events] at hflush
    cases hbusiness : work.flush db with
    | error e =>
        rw [hbusiness] at hflush
        cases hflush
    | ok db₁ =>
        rw [hbusiness] at hflush
        cases hflush
        exact ⟨now, work, db₁, hwork, hbusiness, ⟨rfl, rfl, rfl, rfl, rfl⟩⟩
  · have hnew : d.receipt received db.events.next ∈ events :=
      (Table.mem_insert hinsert).mpr (Or.inr rfl)
    refine ⟨markProcessed now' (d.receipt received db.events.next), ?_, rfl, ?_, rfl⟩
    · rw [← hevents] at hnew
      exact Table.mem_modify_self (markProcessed now') (fun _ => rfl) hnew
    · rw [markProcessed_content, Delivery.receipt_content]

/-- What holds after a statement of the delivery, from what held before it. -/
theorem AloneAt.step {d : Delivery} {db : Db} {s s' : Store} {phase : DeliveryPhase}
    {next : Option DeliveryPhase} (hstep : DeliveryStep d s phase s' next)
    (h : AloneAt d db s (some phase)) : AloneAt d db s' next := by
  cases hstep with
  | @recorded now events hinsert =>
      cases h with
      | received hdb =>
          subst hdb
          exact .processing ⟨now, events, hinsert, rfl⟩ fun _ => rfl
  | clashed =>
      cases h with
      | received hdb => exact .conflicting hdb
  | duplicate => exact .answering h.outcome
  | @advanced receipt phase next now hstep =>
      cases h with
      | processing hstored hrest =>
          refine .processing hstored fun now' => ?_
          rw [hstored.businessStep] at hstep
          -- the rest of the handler does not depend on how far it has come
          have hsame := businessStep_rest d.content now' db phase
          rw [businessStep_now hstep now'] at hsame
          exact hsame.trans (hrest now')
  -- what is staged is what the handler stages of the stored database
  | @computed receipt phase work now hstep =>
      cases h with
      | processing hstored hrest =>
          refine .staged hstored ⟨now, ?_⟩
          rw [hstored.businessStep] at hstep
          have hsame := businessStep_rest d.content now db phase
          rw [hstep] at hsame
          rw [← hrest now, ← hsame]
          rfl
  | raised =>
      cases h with
      | processing hstored hrest => exact .failing hstored
  | committed hflush =>
      cases h with
      | staged hstored hwork =>
          obtain ⟨now, hwork⟩ := hwork
          exact .answering (Or.inl (hstored.applied hwork hflush))
  | rejected =>
      cases h with
      | staged hstored hwork => exact .failing hstored
  | @marked receipt error =>
      cases h with
      | failing hstored => exact .answering (Or.inr (hstored.failed error))
  | refused => exact .answering h.outcome
  | answered => exact .finished h.outcome

/-! ### The run -/

/-- Nobody but the session `i` moves, and it takes no new request. -/
def only (i : ℕ) : PoolAct (Delivery ⊕ Unit) (Tick ⊕ Db) → Bool
  | .begin _ _ => false
  | .advance j _ => decide (j = i)
  | .crash j => decide (j = i)

/-- The delivery `d` is where `AloneAt` says, or over, in the session `i` of the pool. -/
def Pool.AloneAt (i : ℕ) (d : Delivery) (db : Db) (p : Pool Store (DeliverySession ⊕ Unit)) :
    Prop :=
  ∃ o, p.session i = Option.map (fun phase => .inl ⟨d, phase⟩) o ∧
    AfricaFrontier.AloneAt d db p.store o

/-- Each step of a session that is alone keeps it there. -/
theorem Pool.AloneAt.step {i : ℕ} {d : Delivery} {db : Db}
    {p p' : Pool Store (DeliverySession ⊕ Unit)} {a : PoolAct (Delivery ⊕ Unit) (Tick ⊕ Db)}
    (hstep : deliveries.machine.step p a = some p') (honly : only i a = true)
    (h : Pool.AloneAt i d db p) : Pool.AloneAt i d db p' := by
  obtain ⟨o, hsession, hat⟩ := h
  cases a with
  | begin j request => cases honly
  | crash j =>
      obtain rfl : j = i := of_decide_eq_true honly
      cases hstep
      exact ⟨none, p.assign_session_self _ _ _, .finished hat.outcome⟩
  | advance j x =>
      obtain rfl : j = i := of_decide_eq_true honly
      obtain ⟨t, ht, hrest⟩ := Option.bind_eq_some_iff.mp hstep
      obtain ⟨⟨s', next⟩, hadv, rfl⟩ := Option.map_eq_some_iff.mp hrest
      rw [hsession] at ht
      obtain ⟨phase, rfl, rfl⟩ := Option.map_eq_some_iff.mp ht
      obtain ⟨tick, s₁, o₁, -, hu, hr⟩ := Sessions.sum_advance_inl hadv
      obtain ⟨rfl, rfl⟩ := Prod.mk.inj hr
      obtain ⟨o', hdelivery, rfl⟩ := koraWebhook_advance hu
      refine ⟨o', ?_, hat.step hdelivery⟩
      rw [Pool.assign_session_self, Option.map_map]
      rfl

/-- **All or nothing.**  Take any state a run of deliveries and other business reaches,
and any delivery that is then handled without interference, with any clock readings,
any statements failing and a crash at any point.  At whatever point it stands, either
the whole effect of its event is in the business tables and its receipt is processed,
or the business tables are exactly as before it and its receipt is not processed; and a
processed receipt under its event id became so in the very commit that wrote the
complete unit of work of the receipt's event. -/
theorem webhook_all_or_nothing {db : Db} {p p' : Pool Store (DeliverySession ⊕ Unit)}
    {as bs : List (PoolAct (Delivery ⊕ Unit) (Tick ⊕ Db))}
    (before : Run deliveries.machine Unguarded (Pool.quiet (Store.start db)) as p)
    {i : ℕ} (hfree : p.session i = none) {d : Delivery}
    (alone : Run deliveries.machine (fun _ a => only i a = true)
      (p.assign p.store i (some (.inl ⟨d, .received⟩))) bs p') :
    (AppliedWhole d p.store.db p'.store.db ∨ LeftAlone d p.store.db p'.store.db) ∧
      ∀ e ∈ p'.store.db.events, e.eventId = d.eventId → e.status = .processed →
        ProcessedInOneCommit db (as ++ .begin i (.inl d) :: bs) e := by
  constructor
  · have start : Pool.AloneAt i d p.store.db
        (p.assign p.store i (some (.inl ⟨d, .received⟩))) :=
      ⟨some .received, p.assign_session_self _ _ _, .received rfl⟩
    obtain ⟨o, -, hat⟩ :=
      alone.preserves (fun _ _ _ hstep honly h => Pool.AloneAt.step hstep honly h) start
    exact hat.outcome
  · intro e he _ hprocessed
    have hbegin : deliveries.machine.step p (.begin i (.inl d)) =
        some (p.assign p.store i (some (.inl ⟨d, .received⟩))) := by
      simp only [Sessions.machine, hfree, Option.isNone_none, if_true]
      rfl
    have whole := before.append (Run.cons hbegin trivial alone.unguarded)
    exact processed_in_one_commit whole he hprocessed

/-- The statements of a confirmed charge, one of which fails in the middle of the
handler. -/
def interrupted : List (PoolAct (Delivery ⊕ Unit) (Tick ⊕ Db)) :=
  [.advance 0 (.inl ⟨1, false⟩), .advance 0 (.inl ⟨2, false⟩), .advance 0 (.inl ⟨3, true⟩),
    .advance 0 (.inl ⟨4, false⟩)]

/-- The statement on that delivery, which leaves everything as it was. -/
theorem webhook_all_or_nothing_interrupted :
    ∃ p' : Pool Store (DeliverySession ⊕ Unit), p'.store.db.events.rows.map (·.status) = [.failed] ∧
      (AppliedWhole chargeDelivery (Store.start (Db.holding processingPayin)).db p'.store.db ∨
        LeftAlone chargeDelivery (Store.start (Db.holding processingPayin)).db p'.store.db) ∧
      ∀ e ∈ p'.store.db.events, e.eventId = chargeDelivery.eventId → e.status = .processed →
        ProcessedInOneCommit (Db.holding processingPayin)
          ([] ++ .begin 0 (.inl chargeDelivery) :: interrupted) e := by
  have hcheck : (deliveries.machine.check (fun _ a => only 0 a)
      ((Pool.quiet (Store.start (Db.holding processingPayin))).assign
        (Store.start (Db.holding processingPayin)) 0 (some (.inl ⟨chargeDelivery, .received⟩)))
      interrupted).map (fun p => p.store.db.events.rows.map (·.status)) =
      some [.failed] := by
    decide +kernel
  obtain ⟨p', hp', hfailed⟩ := Option.map_eq_some_iff.mp hcheck
  exact ⟨p', hfailed, webhook_all_or_nothing (Run.nil _) rfl (Run.of_check hp')⟩

end AfricaFrontier
