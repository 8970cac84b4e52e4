import AfricaFrontier.EventBus.Consumer
import AfricaFrontier.EventBus.Events
import AfricaFrontier.Payments.AcceptedOnce

/-!
# Events and the worker (`event_bus/worker.py`)

The bus as it is used: whatever is published is an event, and whoever consumes is
`event_bus.worker`, whose handler awaits nothing.  So its entries can be read, and its
handler neither raises nor is cancelled.

* `no_event_stranded`: what may still strand an event, exactly.
* `handled_as_published`: no event is handled twice, and the log has one line for each event
  that was handled, in that order.
* `settlement_never_announced`: the only two places that publish never let the worker
  announce a payment that is ready for settlement.

Restricting the bus to events takes away two of the ways to strand an entry. Whatever is in the
stream can be decoded and handled (`AllEvents.lineOf`), so a handler raises on nothing; and it
awaits nothing, so it is not cancelled. What is left is a read whose answer does not reach the
worker, and a worker that stops in the middle of a batch (`EventsKept.keeps_iff`).

The log is kept beside the bus as a ghost: a step of a session appends a line exactly where it
completes an entry (`StreamSession.step_logged`), and the line is that of the event, by the JSON
round trip of `Events`.
-/

namespace AfricaFrontier

open Custody Python Transition

/-! ## The bus -/

section Bus

variable {nearest : Bool → ℚ → PyFloat} {E : BaseEvent → Prop}

/-- Events of a kind `E` are published. -/
inductive BusRequest (nearest : Bool → ℚ → PyFloat) (E : BaseEvent → Prop)
  | publish (event : PublishedEvent nearest) (kind : E event.event)
  /-- A process of the worker starts. -/
  | work (pid : ℕ)

/-- `EventConsumer(group_name="afm_worker", consumer_name=f"worker_\x7bpid\x7d")`, with the
default batch. -/
def eventWorker (pid : ℕ) : Consumer := ⟨"worker_" ++ digitsText pid, 10⟩

/-- The request as the stream sees it. -/
def BusRequest.ask : BusRequest nearest E → StreamRequest
  | .publish event _ => .publish event.fields
  | .work pid => .consume (eventWorker pid)

/-- The environment's part: what becomes of a command, and whether the task is cancelled at
the next `await` of the loop. -/
structure BusTick where
  reply : RedisReply
  cancelled : Bool
  deriving DecidableEq

/-- What the worker logs of an entry; `none` where decoding it or handling it raises. -/
def EventStream.lineOf (nearest : Bool → ℚ → PyFloat) (s : EventStream) (id : ℕ) :
    Option LogLine :=
  (s.dataOf (loadsText nearest) id).bind handleEvent

/-- The handler raises or not by what it is handed; it awaits nothing. -/
def busTick (nearest : Bool → ℚ → PyFloat) (s : EventStream) :
    StreamSession → BusTick → ConsumerTick
  | .consuming _ (.handling id _), tick => ⟨tick.reply, (s.lineOf nearest id).isNone, false⟩
  | _, tick => ⟨tick.reply, false, tick.cancelled⟩

/-- Producers of events and processes of the worker: the bus of `Consumer`, asked for events of
one kind only. -/
def afmBus (nearest : Bool → ℚ → PyFloat) (E : BaseEvent → Prop) :
    Sessions EventStream (BusRequest nearest E) StreamSession BusTick :=
  (eventBus (loadsText nearest)).translated BusRequest.ask (busTick nearest)

/-- The line a step adds to the log. -/
def linesOf (nearest : Bool → ℚ → PyFloat) (s : EventStream) : StreamSession → List LogLine
  | .consuming _ (.handling id _) => (s.lineOf nearest id).toList
  | _ => []

/-- The bus with the log of the worker. The log is a ghost: it changes no step of the bus. -/
def loggedBus (nearest : Bool → ℚ → PyFloat) (E : BaseEvent → Prop) :
    Sessions (EventStream × List LogLine) (BusRequest nearest E) (StreamSession × Unit) BusTick :=
  (afmBus nearest E).watched () fun s t _ => (s.2 ++ linesOf nearest s.1 t.1, ())

/-! ## Every entry is an event

The stream is written by producers of events alone, from the start. -/

/-- Fields some event of the kind was published as. -/
def IsEvent (nearest : Bool → ℚ → PyFloat) (E : BaseEvent → Prop)
    (fields : List (String × String)) : Prop :=
  ∃ event : PublishedEvent nearest, E event.event ∧ event.fields = fields

/-- All entries of the stream are events. -/
def AllEvents (nearest : Bool → ℚ → PyFloat) (E : BaseEvent → Prop) (s : EventStream) : Prop :=
  ∀ fields ∈ s.entries, IsEvent nearest E fields

/-- What a producer has in hand is an event. -/
def StreamSession.PublishesEvent (nearest : Bool → ℚ → PyFloat) (E : BaseEvent → Prop)
    (_ : EventStream) : StreamSession → Prop
  | .publishing fields => IsEvent nearest E fields
  | .consuming _ _ => True

/-- An event is logged as it was published. -/
theorem PublishedEvent.lineOf (event : PublishedEvent nearest) {s : EventStream} {id : ℕ}
    (h : s.entries[id]? = some event.fields) :
    s.lineOf nearest id = some event.event.logLine := by
  obtain ⟨message, hfields, hloads⟩ := event.loadsText_data
  have hdata : s.dataOf (loadsText nearest) id = some (.obj event.event.modelDump) := by
    simp only [EventStream.dataOf, h, Option.bind_some, dataText, hfields]
    exact hloads
  rw [EventStream.lineOf, hdata, Option.bind_some, handleEvent_modelDump]

/-- Every entry of such a stream has a line. -/
theorem AllEvents.lineOf {s : EventStream} (h : AllEvents nearest E s) {id : ℕ}
    (hid : id < s.entries.length) : ∃ event : PublishedEvent nearest,
      s.lineOf nearest id = some event.event.logLine := by
  obtain ⟨event, -, hevent⟩ := h _ (List.getElem_mem hid)
  exact ⟨event, event.lineOf (by rw [List.getElem?_eq_getElem hid, hevent])⟩

/-- Consumers add no entry. -/
theorem Consumer.step_entries {loads : String → Option Json} {c : Consumer} {s : EventStream}
    {tick : ConsumerTick} {phase : ConsumerPhase} :
    (c.step loads s tick phase).1.entries = s.entries := by
  cases phase with
  | connecting =>
      simp only [Consumer.step]
      split <;> split <;> rfl
  | reading =>
      simp only [Consumer.step]
      split <;> split <;> rfl
  | pausing => rfl
  | handling id rest =>
      simp only [Consumer.step]
      split
      · rfl
      · split
        · rfl
        · split <;> rfl
  | acknowledging id rest =>
      simp only [Consumer.step]
      split <;> rfl

/-- Nobody publishes anything else. -/
theorem eventsOutline (nearest : Bool → ℚ → PyFloat) (E : BaseEvent → Prop) :
    Outline (afmBus nearest E) Unguarded (AllEvents nearest E)
      (StreamSession.PublishesEvent nearest E) (fun _ _ => True) where
  opened s request _ := by
    cases request with
    | publish event kind => exact ⟨event, kind, rfl⟩
    | work pid => trivial
  openedCompat _ _ := ⟨trivial, trivial⟩
  global p i t tick s' o hmeets ht hadv _ := by
    obtain ⟨rfl, rfl⟩ := Prod.mk.inj (Option.some.inj hadv)
    cases t with
    -- what is published was made from an event of the bus
    | publishing fields =>
        have hmine : IsEvent nearest E fields := hmeets.each i _ ht
        show AllEvents nearest E (if tick.reply = .refused then p.store else p.store.add fields)
        split
        · exact hmeets.global
        · intro entry hentry
          rcases List.mem_append.mp hentry with hold | hnew
          · exact hmeets.global entry hold
          · rw [List.mem_singleton.mp hnew]
            exact hmine
    | consuming c phase =>
        intro entry hentry
        exact hmeets.global entry (Consumer.step_entries ▸ hentry)
  own p i t tick s' t' hmeets ht hadv _ := by
    obtain ⟨rfl, hnext⟩ := Prod.mk.inj (Option.some.inj hadv)
    cases t with
    | publishing fields => cases hnext
    | consuming c phase =>
        obtain ⟨phase', -, rfl⟩ := Option.map_eq_some_iff.mp hnext
        trivial
  others p i t tick s' o j u hmeets ht hadv _ _ hu := by
    have hbefore := hmeets.each j u hu
    cases u <;> exact hbefore
  compat _ _ _ _ _ _ _ _ _ _ _ _ _ _ := ⟨trivial, trivial⟩

/-! ## What may strand an event -/

/-- The condition on a step of a consumer: no read that was carried out and gave it entries
goes unanswered or is cancelled, and it is not cancelled before the last of its batch. -/
def Consumer.KeepsEvents (c : Consumer) (s : EventStream) (tick : BusTick) :
    ConsumerPhase → Prop
  | .connecting | .pausing | .handling _ _ => True
  | .reading =>
      s.readReply tick.reply = .refused ∨ s.batchSize c.count = 0 ∨
        (tick.reply = .answered ∧ tick.cancelled = false)
  | .acknowledging _ rest => rest = [] ∨ tick.cancelled = false

/-- The condition on a step of a session. -/
def StreamSession.KeepsEvents (s : EventStream) (tick : BusTick) : StreamSession → Prop
  | .publishing _ => True
  | .consuming c phase => c.KeepsEvents s tick phase

/-- Its condition on a step of the pool: besides, no worker stops in the middle of a batch. What a
worker owes when it stops stays pending, and nobody reads the pending entries. -/
def keepsEvents (p : Pool EventStream StreamSession) :
    PoolAct (BusRequest nearest E) BusTick → Prop
  | .begin _ _ => True
  | .crash i => owedBy (p.session i) = []
  | .advance i tick => ∀ t, p.session i = some t → t.KeepsEvents p.store tick

/-! ## An event on its way -/

/-- A handler that is handed an event completes it. -/
theorem loggedBus_handling {p : Pool (EventStream × List LogLine) (StreamSession × Unit)} {i : ℕ}
    {c : Consumer} {id : ℕ} {rest : List ℕ} {line : LogLine}
    (ht : p.session i = some (.consuming c (.handling id rest), ()))
    (hline : p.store.1.lineOf nearest id = some line) (tick : BusTick) :
    (loggedBus nearest E).machine.step p (.advance i tick) =
      some (p.assign (p.store.1.complete id, p.store.2 ++ [line]) i
        (some (.consuming c (.acknowledging id rest), ()))) := by
  have htick : busTick nearest p.store.1 (.consuming c (.handling id rest)) tick =
      ⟨tick.reply, false, false⟩ := by simp [busTick, hline]
  obtain ⟨data, hdata, -⟩ := Option.bind_eq_some_iff.mp hline
  have hstep : (afmBus nearest E).advance p.store.1 (.consuming c (.handling id rest)) tick =
      some (p.store.1.complete id, some (.consuming c (.acknowledging id rest))) := by
    simp only [afmBus, Sessions.translated, htick, eventBus, StreamSession.step, Consumer.step,
      hdata]
    rfl
  simp only [Sessions.machine, ht, Option.bind_some, loggedBus, Sessions.watched, hstep,
    Option.map_some, linesOf, hline, Option.toList_some]

/-- An event is published; a worker starts, reads it, handles it and acknowledges it. -/
def throughBus (event : PublishedEvent nearest) (kind : E event.event) :
    List (PoolAct (BusRequest nearest E) BusTick) :=
  [.begin 0 (.publish event kind), .advance 0 ⟨.answered, false⟩, .begin 1 (.work 7),
    .advance 1 ⟨.answered, false⟩, .advance 1 ⟨.answered, false⟩, .advance 1 ⟨.answered, false⟩,
    .advance 1 ⟨.answered, false⟩]

/-- That is a run, and it strands nothing. -/
theorem throughBus_run (nearest : Bool → ℚ → PyFloat) (E : BaseEvent → Prop)
    (event : PublishedEvent nearest) (kind : E event.event) : ∃ p',
    Run (loggedBus nearest E).machine (fun p a => keepsEvents p.unwatched a)
      (Pool.quiet (.fresh [], [])) (throughBus event kind) p' ∧
      p'.store.1.cursor = p'.store.1.entries.length ∧ p'.store.2 = [event.event.logLine] ∧
      ∀ i t, p'.session i = some t → t.1.owed = [] := by
  refine ⟨_, Run.cons rfl trivial (Run.cons rfl ?_ (Run.cons rfl trivial (Run.cons rfl ?_
    (Run.cons rfl ?_ (Run.cons (loggedBus_handling rfl (event.lineOf rfl) _) ?_
      (Run.cons rfl ?_ (Run.nil _))))))), rfl, rfl, ?_⟩
  · rintro t ⟨⟩
    trivial
  · rintro t ⟨⟩
    trivial
  · rintro t ⟨⟩
    exact Or.inr (Or.inr ⟨rfl, rfl⟩)
  · rintro t ⟨⟩
    trivial
  · rintro t ⟨⟩
    exact Or.inl rfl
  · rintro (_ | _ | i) t ⟨⟩
    rfl

/-- An event without payload. -/
def bareEvent : PublishedEvent nearest :=
  .text ⟨"evt_1", "2025-01-01T00:00:00Z", "afm", "1.0"⟩ .walletUpdated [] List.nodup_nil

/-! ## Which steps strand nothing -/

/-- What is well kept, and all of it events. -/
structure EventsKept (nearest : Bool → ℚ → PyFloat) (E : BaseEvent → Prop)
    (p : Pool EventStream StreamSession) : Prop where
  kept : (custody p).WellKept
  events : p.Meets (AllEvents nearest E) (StreamSession.PublishesEvent nearest E)
    fun _ _ => True

/-- An empty stream is well kept. -/
theorem EventsKept.start : EventsKept nearest E (Pool.quiet (.fresh [])) where
  kept := custody_fresh.1
  events := Pool.Meets.quiet fun fields h => by cases h

/-- A step of the bus is a move of the entries. -/
theorem EventsKept.step {p p' : Pool EventStream StreamSession}
    {a : PoolAct (BusRequest nearest E) BusTick} (h : EventsKept nearest E p)
    (hstep : (afmBus nearest E).machine.step p a = some p') :
    EventsKept nearest E p' ∧ ∃ b, p.Means BusRequest.ask (busTick nearest) a b ∧
      custody p' = (custody p).apply (moveOf (loadsText nearest) p b) ∧
      (custody p).Allows (moveOf (loadsText nearest) p b) := by
  obtain ⟨b, hmeans, hb⟩ := Sessions.translated_step hstep
  obtain ⟨hmove, hallows⟩ := custody_machine h.kept hb
  refine ⟨⟨?_, (eventsOutline nearest E).step hstep trivial h.events⟩, b, hmeans, hmove, hallows⟩
  rw [hmove]
  exact h.kept.apply hallows

/-- What a consumer is handed next is there. -/
theorem EventsKept.lineOf {p : Pool EventStream StreamSession} (h : EventsKept nearest E p) {i : ℕ}
    {c : Consumer} {id : ℕ} {rest : List ℕ}
    (ht : p.session i = some (.consuming c (.handling id rest))) :
    ∃ event : PublishedEvent nearest,
      p.store.lineOf nearest id = some event.event.logLine := by
  have hheld : id ∈ (custody p).held i := by simp [custody, ht]
  have hlt : id < p.store.entries.length :=
    Nat.lt_of_lt_of_le (h.kept.held_lt i id hheld) h.kept.cursor_le
  exact h.events.global.lineOf hlt

/-- Of the conditions on what is consumed, these are left where all of it is events. -/
theorem EventsKept.keeps_iff {p : Pool EventStream StreamSession} (h : EventsKept nearest E p)
    {a : PoolAct (BusRequest nearest E) BusTick} {b : PoolAct StreamRequest ConsumerTick}
    (hmeans : p.Means BusRequest.ask (busTick nearest) a b) :
    keepsEvents p a ↔ keepsMessages (loadsText nearest) p b := by
  cases hmeans with
  | begin i request => exact Iff.rfl
  | crash i => exact Iff.rfl
  | @advance i t tick ht =>
      simp only [keepsEvents, keepsMessages, ht, Option.some.injEq, forall_eq']
      cases t with
      | publishing fields => exact Iff.rfl
      | consuming c phase =>
          cases phase with
          | handling id rest =>
              obtain ⟨event, hline⟩ := h.lineOf ht
              obtain ⟨data, hdata, -⟩ := Option.bind_eq_some_iff.mp hline
              simp [StreamSession.KeepsEvents, Consumer.KeepsEvents, StreamSession.Keeps,
                Consumer.Keeps, busTick, hline, hdata]
          | _ => exact Iff.rfl

/-- A run that meets it keeps every event accounted for. -/
theorem accounted_of_keeps {p' : Pool EventStream StreamSession}
    {as : List (PoolAct (BusRequest nearest E) BusTick)}
    (run : Run (afmBus nearest E).machine keepsEvents (Pool.quiet (.fresh [])) as p') :
    (custody p').Accounted := by
  have keeps : ∀ p a p', (afmBus nearest E).machine.step p a = some p' → keepsEvents p a →
      EventsKept nearest E p ∧ (custody p).Accounted →
      EventsKept nearest E p' ∧ (custody p').Accounted := by
    rintro p a p' hstep hkeeps ⟨h, haccounted⟩
    obtain ⟨hkept, b, hmeans, hmove, hallows⟩ := h.step hstep
    refine ⟨hkept, ?_⟩
    rw [hmove]
    exact haccounted.apply h.kept hallows
      ((keepsMessages_iff b).mp ((h.keeps_iff hmeans).mp hkeeps))
  exact (run.preserves keeps ⟨.start, custody_fresh.2⟩).2

/-- **What may strand an event.**  Every step of a run of the bus meets the condition if and
only if, in every state the run reaches, each event that was not handled is either ahead of
the group or in what is left of the batch of a live worker. -/
theorem no_event_stranded {p' : Pool EventStream StreamSession}
    {as : List (PoolAct (BusRequest nearest E) BusTick)}
    (run : Run (afmBus nearest E).machine Unguarded (Pool.quiet (.fresh [])) as p') :
    Run (afmBus nearest E).machine keepsEvents (Pool.quiet (.fresh [])) as p' ↔
      ∀ front back mid, as = front ++ back →
        Run (afmBus nearest E).machine Unguarded (Pool.quiet (.fresh [])) front mid →
          Unstranded mid := by
  refine run.guarded_iff_within (J := EventsKept nearest E) ?_ ?_ .start
    (unstranded_iff.mpr custody_fresh.2)
  · intro p a p' hstep _ hkept
    exact (hkept.step hstep).1
  · intro p a p' hstep _ hkept haccounted
    obtain ⟨-, b, hmeans, hmove, hallows⟩ := hkept.step hstep
    rw [hkept.keeps_iff hmeans, keepsMessages_iff, unstranded_iff, hmove]
    exact Ledger.accounted_apply hkept.kept (unstranded_iff.mp haccounted) hallows

theorem no_event_stranded_bare : ∃ p',
    Run (afmBus (fun _ _ => .nan) fun _ => True).machine Unguarded (Pool.quiet (.fresh []))
      (throughBus bareEvent trivial) p' ∧
    ∀ front back mid, throughBus bareEvent trivial = front ++ back →
      Run (afmBus (fun _ _ => .nan) fun _ => True).machine Unguarded (Pool.quiet (.fresh []))
        front mid → Unstranded mid := by
  obtain ⟨p', run, -⟩ :=
    throughBus_run (fun _ _ => .nan) (fun _ => True) bareEvent trivial
  have keeps := run.unwatched
  exact ⟨p'.unwatched, keeps.unguarded, (no_event_stranded keeps.unguarded).mp keeps⟩

/-! ## The log -/

/-- A step of a session adds entries only at the end, and completes an entry exactly if it
logs its line. -/
theorem StreamSession.step_logged (nearest : Bool → ℚ → PyFloat) (s : EventStream)
    (t : StreamSession) (tick : BusTick) :
    s.entries <+: (t.step (loadsText nearest) s (busTick nearest s t tick)).1.entries ∧
      (((t.step (loadsText nearest) s (busTick nearest s t tick)).1.completed = s.completed ∧
          linesOf nearest s t = []) ∨
        ∃ id line, s.lineOf nearest id = some line ∧ linesOf nearest s t = [line] ∧
          (t.step (loadsText nearest) s (busTick nearest s t tick)).1.completed =
            s.completed ++ [id]) := by
  cases t with
  | publishing fields =>
      simp only [StreamSession.step]
      split
      · exact ⟨List.prefix_refl _, Or.inl ⟨rfl, rfl⟩⟩
      · exact ⟨List.prefix_append _ _, Or.inl ⟨rfl, rfl⟩⟩
  | consuming c phase =>
      refine ⟨by rw [StreamSession.step, Consumer.step_entries], ?_⟩
      cases phase with
      -- the one statement that prints a line, if the entry has one
      | handling id rest =>
          rcases Option.eq_none_or_eq_some (s.lineOf nearest id) with hline | ⟨line, hline⟩
          · refine Or.inl ⟨?_, by simp only [linesOf, hline, Option.toList_none]⟩
            have htick : busTick nearest s (.consuming c (.handling id rest)) tick =
                ⟨tick.reply, true, false⟩ := by simp [busTick, hline]
            rw [htick]
            simp only [StreamSession.step, Consumer.step]
            split <;> rfl
          · have htick : busTick nearest s (.consuming c (.handling id rest)) tick =
                ⟨tick.reply, false, false⟩ := by simp [busTick, hline]
            obtain ⟨data, hdata, -⟩ := Option.bind_eq_some_iff.mp hline
            refine Or.inr ⟨id, line, hline, by simp only [linesOf, hline, Option.toList_some], ?_⟩
            rw [htick]
            simp only [StreamSession.step, Consumer.step, hdata]
            rfl
      | connecting =>
          refine Or.inl ⟨?_, rfl⟩
          simp only [StreamSession.step, Consumer.step]
          split <;> split <;> rfl
      | reading =>
          refine Or.inl ⟨?_, rfl⟩
          simp only [StreamSession.step, Consumer.step]
          split <;> split <;> rfl
      | pausing => exact Or.inl ⟨rfl, rfl⟩
      | acknowledging id rest =>
          refine Or.inl ⟨?_, rfl⟩
          simp only [StreamSession.step, Consumer.step]
          split <;> rfl

/-- The line of an entry stays what it is. -/
theorem EventStream.lineOf_prefix {s s' : EventStream} (h : s.entries <+: s'.entries) {id : ℕ}
    (hid : id < s.entries.length) : s'.lineOf nearest id = s.lineOf nearest id := by
  have hentry : s'.entries[id]? = s.entries[id]? := by
    obtain ⟨more, hmore⟩ := h
    rw [← hmore, List.getElem?_append_left hid]
  simp only [EventStream.lineOf, EventStream.dataOf, hentry]

/-- What the log says of the bus. -/
structure Logged (nearest : Bool → ℚ → PyFloat) (E : BaseEvent → Prop)
    (p : Pool (EventStream × List LogLine) (StreamSession × Unit)) : Prop where
  events : EventsKept nearest E p.unwatched
  once : p.store.1.completed.Nodup
  lines : p.store.2.map some = p.store.1.completed.map (p.store.1.lineOf nearest)

/-- The empty log is true of the bus before anything is published. -/
theorem Logged.start : Logged nearest E (Pool.quiet (.fresh [], [])) where
  events := .start
  once := List.nodup_nil
  lines := rfl

/-- Only what was published is completed. -/
theorem Logged.completed_lt {p : Pool (EventStream × List LogLine) (StreamSession × Unit)}
    (h : Logged nearest E p) {id : ℕ} (hid : id ∈ p.store.1.completed) :
    id < p.store.1.entries.length :=
  Nat.lt_of_lt_of_le (h.events.kept.completed_lt id hid) h.events.kept.cursor_le

/-- One step of the bus keeps the log true. -/
theorem Logged.step {p p' : Pool (EventStream × List LogLine) (StreamSession × Unit)}
    {a : PoolAct (BusRequest nearest E) BusTick} (h : Logged nearest E p)
    (hstep : (loggedBus nearest E).machine.step p a = some p') : Logged nearest E p' := by
  obtain ⟨hevents, b, -, hmove, -⟩ := h.events.step (Sessions.unwatched_step hstep)
  refine ⟨hevents, ?_, ?_⟩
  · have hnodup := h.events.kept.nodup_apply h.once (moveOf (loadsText nearest) p.unwatched b)
    rw [← hmove] at hnodup
    exact hnodup
  · rcases Pool.step_cases hstep with ⟨-, hstore⟩ | ⟨i, tick, t, s', o, rfl, ht, hadv, rfl⟩
    · rw [hstore]
      exact h.lines
    · obtain ⟨o', hadvance, hlog, -⟩ := Sessions.watched_advance hadv
      obtain ⟨hs', -⟩ := Prod.mk.inj (Option.some.inj hadvance)
      obtain ⟨hentries, hcases⟩ := StreamSession.step_logged nearest p.store.1 t.1 tick
      rw [show (t.1.step (loadsText nearest) p.store.1
        (busTick nearest p.store.1 t.1 tick)).1 = s'.1 from hs'] at hentries hcases
      -- entries are only added, so that the lines of the old ones are what they were
      have hold : p.store.1.completed.map (s'.1.lineOf nearest) =
          p.store.1.completed.map (p.store.1.lineOf nearest) :=
        List.map_congr_left fun id hid => EventStream.lineOf_prefix hentries (h.completed_lt hid)
      rw [Pool.assign_store, hlog]
      rcases hcases with ⟨hcompleted, hlines⟩ | ⟨id, line, hline, hlines, hcompleted⟩
      · rw [hcompleted, hold, hlines, List.append_nil]
        exact h.lines
      · have hid : id < p.store.1.entries.length := by
          by_contra hge
          rw [EventStream.lineOf, EventStream.dataOf, List.getElem?_eq_none (by omega)] at hline
          cases hline
        rw [hcompleted, hlines, List.map_append, List.map_append, hold, h.lines]
        simp [EventStream.lineOf_prefix hentries hid, hline]

/-- A run of the bus keeps the log true. -/
theorem Logged.run {p' : Pool (EventStream × List LogLine) (StreamSession × Unit)}
    {as : List (PoolAct (BusRequest nearest E) BusTick)}
    {P : Pool (EventStream × List LogLine) (StreamSession × Unit) →
      PoolAct (BusRequest nearest E) BusTick → Prop}
    (run : Run (loggedBus nearest E).machine P (Pool.quiet (.fresh [], [])) as p') :
    Logged nearest E p' :=
  run.preserves (fun _ _ _ hstep _ h => h.step hstep) .start

/-- The entries are events, one by one. -/
theorem exists_events {entries : List (List (String × String))}
    (h : ∀ fields ∈ entries, IsEvent nearest E fields) :
    ∃ events : List (PublishedEvent nearest), (∀ event ∈ events, E event.event) ∧
      entries = events.map PublishedEvent.fields := by
  induction entries with
  | nil => exact ⟨[], (fun _ hnone => by cases hnone), rfl⟩
  | cons fields rest ih =>
      obtain ⟨event, kind, hfields⟩ := h fields List.mem_cons_self
      obtain ⟨events, kinds, hrest⟩ := ih fun f hf => h f (List.mem_cons_of_mem _ hf)
      refine ⟨event :: events, ?_, by rw [List.map_cons, hfields, hrest]⟩
      intro e he
      rcases List.mem_cons.mp he with rfl | he
      · exact kind
      · exact kinds e he

/-- What an event list has the worker log of an entry. -/
def lineAt (events : List (PublishedEvent nearest)) (id : ℕ) : Option LogLine :=
  (events[id]?).map fun event => event.event.logLine

/-- The log, in terms of the events that were published. -/
theorem Logged.published {p : Pool (EventStream × List LogLine) (StreamSession × Unit)}
    (h : Logged nearest E p) :
    ∃ events : List (PublishedEvent nearest), (∀ event ∈ events, E event.event) ∧
      p.store.1.entries = events.map PublishedEvent.fields ∧
      p.store.2.map some = p.store.1.completed.map (lineAt events) := by
  obtain ⟨events, kinds, hentries⟩ := exists_events h.events.events.global
  refine ⟨events, kinds, hentries, ?_⟩
  rw [h.lines]
  refine List.map_congr_left fun id hid => ?_
  have hlt : id < events.length := by
    have hlt := h.completed_lt hid
    rwa [show p.store.1.entries = _ from hentries, List.length_map] at hlt
  have hentry : p.store.1.entries[id]? = some events[id].fields := by
    rw [show p.store.1.entries = _ from hentries, List.getElem?_map,
      List.getElem?_eq_getElem hlt]
    rfl
  rw [events[id].lineOf hentry, lineAt, List.getElem?_eq_getElem hlt]
  rfl

/-- **Events are handled as published.**  In every state of every run, no event was handled
twice, and the log has one line for each that was, in that order: what the event says. -/
theorem handled_as_published {p' : Pool (EventStream × List LogLine) (StreamSession × Unit)}
    {as : List (PoolAct (BusRequest nearest E) BusTick)}
    (run : Run (loggedBus nearest E).machine Unguarded (Pool.quiet (.fresh [], [])) as p') :
    ∃ events : List (PublishedEvent nearest), (∀ event ∈ events, E event.event) ∧
      p'.store.1.entries = events.map PublishedEvent.fields ∧
      p'.store.1.completed.Nodup ∧
      p'.store.2.map some = p'.store.1.completed.map (lineAt events) := by
  have h := Logged.run run
  obtain ⟨events, kinds, hentries, hlines⟩ := h.published
  exact ⟨events, kinds, hentries, h.once, hlines⟩

theorem handled_as_published_bare : ∃ p',
    Run (loggedBus (fun _ _ => .nan) fun _ => True).machine Unguarded
      (Pool.quiet (.fresh [], [])) (throughBus bareEvent trivial) p' ∧
    ∃ events : List (PublishedEvent fun _ _ => .nan), (∀ event ∈ events, True) ∧
      p'.store.1.entries = events.map PublishedEvent.fields ∧
      p'.store.1.completed.Nodup ∧
      p'.store.2.map some = p'.store.1.completed.map (lineAt events) := by
  obtain ⟨p', run, -⟩ :=
    throughBus_run (fun _ _ => .nan) (fun _ => True) bareEvent trivial
  exact ⟨p', run.unguarded, handled_as_published run.unguarded⟩

/-! ### Every event once -/

/-- The lines of all events, in their order. -/
theorem map_lineAt_range (events : List (PublishedEvent nearest)) :
    (List.range events.length).map (lineAt events) =
      (events.map fun event => event.event.logLine).map some := by
  refine List.ext_getElem (by simp) fun i hi hi' => ?_
  have hlt : i < events.length := by simpa using hi
  simp [lineAt, hlt]

/-- **Every event is handled once.**  When a run has met the condition, everything was read
and no worker has any of its batch left, the log is a permutation of what the events say. -/
theorem handled_once_each {p' : Pool (EventStream × List LogLine) (StreamSession × Unit)}
    {as : List (PoolAct (BusRequest nearest E) BusTick)}
    (run : Run (loggedBus nearest E).machine (fun p a => keepsEvents p.unwatched a)
      (Pool.quiet (.fresh [], [])) as p')
    (hread : p'.store.1.cursor = p'.store.1.entries.length)
    (hidle : ∀ i t, p'.session i = some t → t.1.owed = []) :
    ∃ events : List (PublishedEvent nearest), (∀ event ∈ events, E event.event) ∧
      p'.store.1.entries = events.map PublishedEvent.fields ∧
      p'.store.2.Perm (events.map fun event => event.event.logLine) := by
  have h : Logged nearest E p' := Logged.run run
  have haccounted : (custody p'.unwatched).Accounted := accounted_of_keeps run.unwatched
  obtain ⟨events, kinds, hentries, hlines⟩ := h.published
  have hlength : p'.store.1.entries.length = events.length := by rw [hentries, List.length_map]
  have hnobody : ∀ i, (custody p'.unwatched).held i = [] := by
    intro i
    show owedBy ((p'.session i).map Prod.fst) = []
    cases ht : p'.session i with
    | none => rfl
    | some t => exact hidle i t ht
  -- each once, and nothing is left
  have hperm : p'.store.1.completed.Perm (List.range events.length) := by
    refine (List.perm_ext_iff_of_nodup h.once List.nodup_range).mpr fun id => ?_
    rw [List.mem_range, ← hlength]
    exact ⟨h.completed_lt, fun hid => haccounted.completed_of_idle hread hnobody hid⟩
  refine ⟨events, kinds, hentries, ?_⟩
  have hmapped := hperm.map (lineAt events)
  rw [← hlines, map_lineAt_range] at hmapped
  exact (List.map_perm_map_iff (Option.some_injective _)).mp hmapped


theorem handled_once_each_bare : ∃ p',
    Run (loggedBus (fun _ _ => .nan) fun _ => True).machine
      (fun p a => keepsEvents p.unwatched a) (Pool.quiet (.fresh [], []))
      (throughBus bareEvent trivial) p' ∧
    ∃ events : List (PublishedEvent fun _ _ => .nan), (∀ event ∈ events, True) ∧
      p'.store.1.entries = events.map PublishedEvent.fields ∧
      p'.store.2.Perm (events.map fun event => event.event.logLine) := by
  obtain ⟨p', run, hread, -, hidle⟩ :=
    throughBus_run (fun _ _ => .nan) (fun _ => True) bareEvent trivial
  exact ⟨p', run, handled_once_each run hread hidle⟩

end Bus

/-! ## The events of payments -/

section Payments

variable {nearest : Bool → ℚ → PyFloat} {config : PaymentConfig}

/-- The event of a payment, from its announcement or its outcome. -/
def OfPayment (event : PaymentEvent) : Prop :=
  ∃ call lockId psp, event = initiatedEvent (newTransaction call lockId psp) ∨
    event = outcomeEvent (newTransaction call lockId psp)

/-- What a request has published on the way to its answer. -/
theorem PaymentCall.step_onBus {call : PaymentCall} {s : Store × PaymentDesk}
    {tick : PaymentTick} {phase : PaymentPhase} {e : PaymentCall × PaymentEvent}
    (h : e ∈ (call.step config s tick phase).1.events) : e ∈ s.2.events ∨ OfPayment e.2 := by
  cases phase with
  | requested =>
      simp only [PaymentCall.step] at h
      split at h
      · exact Or.inl h
      · split at h <;> exact Or.inl h
  | admitted counted =>
      simp only [PaymentCall.step, PaymentCall.takeLock] at h
      split at h
      · exact Or.inl h
      · split at h <;> split at h <;> exact Or.inl h
  | locked ticket =>
      simp only [PaymentCall.step, PaymentCall.announce] at h
      split at h
      · exact Or.inl h
      · rename_i psp _
        -- an event of this statement is one of a payment
        have hpublished : ∀ e ∈ (s.2.publish call
            (initiatedEvent (newTransaction call ticket.lockId psp))).events,
            e ∈ s.2.events ∨ OfPayment e.2 := by
          intro e he
          rcases List.mem_append.mp he with hold | hnew
          · exact Or.inl hold
          · rw [List.mem_singleton.mp hnew]
            exact Or.inr ⟨call, ticket.lockId, psp, Or.inl rfl⟩
        split at h
        · exact hpublished e h
        · exact hpublished e h
        · exact Or.inl h
  | releasing ticket psp =>
      simp only [PaymentCall.step, PaymentCall.release] at h
      split at h
      · exact Or.inl h
      · exact Or.inl h
      · split at h <;> exact Or.inl h
  | returned ticket psp =>
      have hpublished : ∀ e ∈ (s.2.publish call
          (outcomeEvent (newTransaction call ticket.lockId psp))).events,
          e ∈ s.2.events ∨ OfPayment e.2 := by
        intro e he
        rcases List.mem_append.mp he with hold | hnew
        · exact Or.inl hold
        · rw [List.mem_singleton.mp hnew]
          exact Or.inr ⟨call, ticket.lockId, psp, Or.inr rfl⟩
      simp only [PaymentCall.step] at h
      split at h
      · exact hpublished e h
      · exact hpublished e h
      · exact Or.inl h

/-- In every run of the route, all it has published are these two events. -/
theorem ofPayment_of_run {s : Store} {as : List (PoolAct PaymentCall PaymentTick)}
    {p : Pool (Store × PaymentDesk) PaymentSession}
    (run : Run (createPayment config).machine Unguarded (Pool.quiet (s, PaymentDesk.start)) as p) :
    ∀ e ∈ p.store.2.events, OfPayment e.2 := by
  have keeps : ∀ p a p', (createPayment config).machine.step p a = some p' → Unguarded p a →
      (∀ e ∈ p.store.2.events, OfPayment e.2) → ∀ e ∈ p'.store.2.events, OfPayment e.2 := by
    intro p a p' hstep _ hbefore e he
    rcases Pool.step_cases hstep with ⟨-, hstore⟩ | ⟨i, tick, t, s', o, rfl, -, hadv, rfl⟩
    · rw [hstore] at he
      exact hbefore e he
    · obtain ⟨rfl, -⟩ := Prod.mk.inj (Option.some.inj hadv)
      rcases PaymentCall.step_onBus he with hold | hnew
      · exact hbefore e hold
      · exact hnew
  refine run.preserves keeps ?_
  intro e he
  cases he

/-- The events the route can publish: in some run it does. -/
def PaymentsPublish (config : PaymentConfig) (event : BaseEvent) : Prop :=
  ∃ s as p, Run (createPayment config).machine Unguarded (Pool.quiet (s, PaymentDesk.start)) as p ∧
    ∃ e ∈ p.store.2.events, ∃ metadata, event = e.2.base metadata

theorem logLine_of_paymentsPublish {event : BaseEvent} (h : PaymentsPublish config event) :
    event.logLine =
        ⟨.warning, "Unhandled event type", [("event_type", .str "payment.initiated")]⟩ ∨
      ∃ call : PaymentCall, event.logLine = ⟨.warning, "Payment failed",
        [("transaction_id", .str "None"), ("currency", .str (upper call.payment.currency))]⟩ := by
  obtain ⟨s, as, p, run, e, he, metadata, rfl⟩ := h
  obtain ⟨call, lockId, psp, hevent⟩ := ofPayment_of_run run e he
  rcases hevent with hinitiated | houtcome
  · exact Or.inl (by rw [hinitiated, logLine_initiatedEvent])
  · exact Or.inr ⟨call, by rw [houtcome, logLine_outcomeEvent]⟩

/-- **No settlement is ever announced.**  Where the payment route publishes, which nobody else
does, all the worker ever logs is that it cannot handle `payment.initiated`, and that a payment
without an id has failed. -/
theorem settlement_never_announced
    {p' : Pool (EventStream × List LogLine) (StreamSession × Unit)}
    {as : List (PoolAct (BusRequest nearest (PaymentsPublish config)) BusTick)}
    (run : Run (loggedBus nearest (PaymentsPublish config)).machine Unguarded
      (Pool.quiet (.fresh [], [])) as p') :
    ∀ line ∈ p'.store.2,
      line = ⟨.warning, "Unhandled event type", [("event_type", .str "payment.initiated")]⟩ ∨
      ∃ call : PaymentCall, line = ⟨.warning, "Payment failed",
        [("transaction_id", .str "None"), ("currency", .str (upper call.payment.currency))]⟩ := by
  intro line hline
  obtain ⟨events, kinds, -, hlines⟩ := (Logged.run run).published
  have hmem : some line ∈ p'.store.1.completed.map (lineAt events) := by
    rw [← hlines]
    exact List.mem_map_of_mem hline
  obtain ⟨id, -, hid⟩ := List.mem_map.mp hmem
  obtain ⟨event, hevent, rfl⟩ := Option.map_eq_some_iff.mp hid
  exact logLine_of_paymentsPublish (kinds event (List.mem_of_getElem? hevent))

/-- A thousand francs are announced. -/
theorem paymentsPublish_thousandFrancs : ∃ event : PaymentEvent,
    PaymentsPublish flutterwaveConfig
      (event.base ⟨"evt_1", "2025-01-01T00:00:00Z", "afm", "1.0"⟩) := by
  have hcheck : ((createPayment flutterwaveConfig).machine.check (fun _ _ => true) quietDesk
      [.begin 0 (thousandFrancs "key-1"), paymentStep 0, paymentStep 0, paymentStep 0]).map
        (fun p => p.store.2.events.length) = some 1 := by
    decide +kernel
  obtain ⟨p, hp, hlength⟩ := Option.map_eq_some_iff.mp hcheck
  obtain ⟨e, he⟩ := List.length_eq_one_iff.mp hlength
  exact ⟨e.2, _, _, p, (Run.of_check hp).unguarded, e, by simp [he], _, rfl⟩

theorem settlement_never_announced_francs : ∃ event kind p',
    Run (loggedBus (fun _ _ => .nan) (PaymentsPublish flutterwaveConfig)).machine Unguarded
      (Pool.quiet (.fresh [], [])) (throughBus event kind) p' ∧ p'.store.2 ≠ [] ∧
    ∀ line ∈ p'.store.2,
      line = ⟨.warning, "Unhandled event type", [("event_type", .str "payment.initiated")]⟩ ∨
      ∃ call : PaymentCall, line = ⟨.warning, "Payment failed",
        [("transaction_id", .str "None"), ("currency", .str (upper call.payment.currency))]⟩ := by
  obtain ⟨payment, kind⟩ := paymentsPublish_thousandFrancs
  obtain ⟨p', run, -, hlog, -⟩ := throughBus_run (fun _ _ => .nan) _
    (payment.onBus _ ⟨"evt_1", "2025-01-01T00:00:00Z", "afm", "1.0"⟩) kind
  refine ⟨_, kind, p', run.unguarded, ?_, settlement_never_announced run.unguarded⟩
  rw [hlog]
  exact List.cons_ne_nil _ _

end Payments

end AfricaFrontier
