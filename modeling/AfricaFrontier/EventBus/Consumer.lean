import AfricaFrontier.Config.Redis
import AfricaFrontier.Lib.Custody
import AfricaFrontier.Lib.Pool
import AfricaFrontier.Python.Json

/-!
# The event consumer (`event_bus/redis_consumer.py`)

Producers append events to a stream with `XADD`; `EventConsumer.consume` creates the
consumer group, which begins at the first entry, and then asks for entries nobody of the
group was given (`XREADGROUP … >`), hands them one by one to the handler and acknowledges
each the handler completed.  Whatever goes wrong with an entry is logged, and the loop
goes on with the next; a cancelled task leaves the loop.

What the group was given stays in its list of pending entries until it is acknowledged,
but the consumer never reads that list.  So the entries are in the custody of whoever read
them, and `no_message_stranded` says which steps keep every entry within reach.

The proof is by translation. `custody` reads off a pool who has which entries: how far the group
has read, what is left of each live consumer's batch, and what has been completed. One step of the
pool is one move of that custody (`custody_machine`), and the condition on the step says that the
move loses nothing (`keepsMessages_iff`); the rest is the run lemma of the library on custody. The
equivalence is one of runs, so an entry that is stranded once is stranded for good: nobody reads
the list of pending entries, where it stays (`pending_of_open`).
-/

namespace AfricaFrontier

open Custody Python Transition

/-! ## The stream

Redis as far as these commands go: the entries, the group's place, and the pending entries of each
consumer. -/

/-- A consumer group: how many entries it was given, and which of these, by consumer, it
has not acknowledged. -/
structure ConsumerGroup where
  delivered : ℕ
  pending : List (String × ℕ)

/-- A stream with one of its consumer groups.  An entry is a list of fields, and is known
by its place.  `completed` are the entries a handler has completed, which no code reads. -/
structure EventStream where
  entries : List (List (String × String))
  group : Option ConsumerGroup
  completed : List ℕ

/-- The entries of a stream before the group exists. -/
def EventStream.fresh (entries : List (List (String × String))) : EventStream :=
  ⟨entries, none, []⟩

/-- `XADD`. -/
def EventStream.add (s : EventStream) (fields : List (String × String)) : EventStream :=
  { s with entries := s.entries ++ [fields] }

/-- `XGROUP CREATE … 0 MKSTREAM`; a group that exists is left as it is. -/
def EventStream.createGroup (s : EventStream) : EventStream :=
  { s with group := some (s.group.getD ⟨0, []⟩) }

/-- How many entries the group was given. -/
def EventStream.cursor (s : EventStream) : ℕ := (s.group.map ConsumerGroup.delivered).getD 0

/-- How many entries `XREADGROUP … COUNT count … >` returns; a count of zero is no limit. -/
def EventStream.batchSize (s : EventStream) (count : ℕ) : ℕ :=
  if count = 0 then s.entries.length - s.cursor
  else min count (s.entries.length - s.cursor)

/-- The entries it returns. -/
def EventStream.batch (s : EventStream) (count : ℕ) : List ℕ :=
  List.range' s.cursor (s.batchSize count)

/-- `XREADGROUP`, carried out: the entries are pending under the consumer's name. -/
def EventStream.readGroup (s : EventStream) (consumer : String) (count : ℕ) : EventStream :=
  { s with
    group := s.group.map fun g =>
      { delivered := g.delivered + s.batchSize count
        pending := g.pending ++ (s.batch count).map (Prod.mk consumer) } }

/-- `XACK`. -/
def EventStream.acknowledge (s : EventStream) (id : ℕ) : EventStream :=
  { s with
    group := s.group.map fun g =>
      { g with pending := g.pending.filter fun entry => decide (entry.2 ≠ id) } }

/-- The handler has completed an entry. Redis does not know of it; the acknowledgement is a
command of its own. -/
def EventStream.complete (s : EventStream) (id : ℕ) : EventStream :=
  { s with completed := s.completed ++ [id] }

/-! ## The loop

One step for each `await`, with what the environment makes of it. -/

/-- Where `consume` stands. -/
inductive ConsumerPhase
  | connecting
  | reading
  /-- In the second it sleeps after an error. -/
  | pausing
  | handling (id : ℕ) (rest : List ℕ)
  | acknowledging (id : ℕ) (rest : List ℕ)
  deriving DecidableEq

/-- The environment's part in one step: what becomes of a command, whether the handler
raises, and whether the task is cancelled at its `await`. -/
structure ConsumerTick where
  reply : RedisReply
  raises : Bool
  cancelled : Bool
  deriving DecidableEq

/-- A consumer of the group. -/
structure Consumer where
  name : String
  count : ℕ

/-- After an entry comes the next of the batch, and after the batch the next read. -/
def ConsumerPhase.following : List ℕ → ConsumerPhase
  | [] => .reading
  | id :: rest => .handling id rest

/-- `fields.get("data", "\x7b\x7d")`. -/
def dataText (fields : List (String × String)) : String := (fields.lookup "data").getD "\x7b\x7d"

/-- What the handler is called with, unless `json.loads` raises. -/
def EventStream.dataOf (s : EventStream) (loads : String → Option Json) (id : ℕ) : Option Json :=
  (s.entries[id]?).bind fun fields => loads (dataText fields)

/-- Redis refuses to read for a group that does not exist. -/
def EventStream.readReply (s : EventStream) (reply : RedisReply) : RedisReply :=
  if s.group.isNone then .refused else reply

/-- The next step of `consume`. An entry that cannot be decoded and one whose handler raises are
both left unacknowledged, and the loop goes on with the next of its batch. -/
def Consumer.step (loads : String → Option Json) (c : Consumer) (s : EventStream)
    (tick : ConsumerTick) : ConsumerPhase → EventStream × Option ConsumerPhase
  | .connecting =>
      if tick.cancelled then
        (if tick.reply = .refused then s else s.createGroup, none)
      else match tick.reply with
        | .answered => (s.createGroup, some .reading)
        -- any other error than "already exists" is raised
        | .lost => (s.createGroup, none)
        | .refused => (s, none)
  | .reading =>
      if tick.cancelled then
        (if s.readReply tick.reply = .refused then s else s.readGroup c.name c.count, none)
      else match s.readReply tick.reply with
        | .answered => (s.readGroup c.name c.count, some (.following (s.batch c.count)))
        | .lost => (s.readGroup c.name c.count, some .pausing)
        | .refused => (s, some .pausing)
  | .pausing => (s, if tick.cancelled then none else some .reading)
  | .handling id rest =>
      match s.dataOf loads id with
      | none => (s, some (.following rest))
      | some _ =>
          if tick.cancelled then (s, none)
          else if tick.raises then (s, some (.following rest))
          else (s.complete id, some (.acknowledging id rest))
  | .acknowledging id rest =>
      let s' := if tick.reply = .refused then s else s.acknowledge id
      (s', if tick.cancelled then none else some (.following rest))

/-! ## Producers and consumers together -/

/-- What uses the stream: a producer with an entry, or a consumer. -/
inductive StreamRequest
  | publish (fields : List (String × String))
  | consume (c : Consumer)

/-- `EventProducer.publish` of a message. -/
def publishMessage (message : String) : StreamRequest := .publish [("data", message)]

/-- A producer or a consumer at work. -/
inductive StreamSession
  | publishing (fields : List (String × String))
  | consuming (c : Consumer) (phase : ConsumerPhase)

/-- The next command of a producer, or step of a consumer. -/
def StreamSession.step (loads : String → Option Json) (s : EventStream) (tick : ConsumerTick) :
    StreamSession → EventStream × Option StreamSession
  | .publishing fields => (if tick.reply = .refused then s else s.add fields, none)
  | .consuming c phase =>
      let next := c.step loads s tick phase
      (next.1, next.2.map (StreamSession.consuming c))

/-- Everything that uses the stream and the group: producers, and consumers that share the group
and differ in their names. -/
def eventBus (loads : String → Option Json) :
    Sessions EventStream StreamRequest StreamSession ConsumerTick where
  init
    | .publish fields => .publishing fields
    | .consume c => .consuming c .connecting
  advance s t tick := some (t.step loads s tick)

/-! ## Who has which entries

An entry that is handed to the handler is still owed until the handler returns. -/

/-- The entries of its batch a consumer has still to hand to the handler, the one at hand
included. -/
def ConsumerPhase.owed : ConsumerPhase → List ℕ
  | .handling id rest => id :: rest
  | .acknowledging _ rest => rest
  | _ => []

/-- What is left of the batch of a session. -/
def StreamSession.owed : StreamSession → List ℕ
  | .publishing _ => []
  | .consuming _ phase => phase.owed

/-- What is left of a session's batch, if it is there. -/
def owedBy (o : Option StreamSession) : List ℕ := (o.map StreamSession.owed).getD []

@[simp] theorem ConsumerPhase.owed_handling (id : ℕ) (rest : List ℕ) :
    (ConsumerPhase.handling id rest).owed = id :: rest := rfl

@[simp] theorem ConsumerPhase.owed_acknowledging (id : ℕ) (rest : List ℕ) :
    (ConsumerPhase.acknowledging id rest).owed = rest := rfl

@[simp] theorem owedBy_none : owedBy none = [] := rfl

@[simp] theorem owedBy_consuming (c : Consumer) (phase : ConsumerPhase) :
    owedBy (some (.consuming c phase)) = phase.owed := rfl

/-- What a consumer owes when it goes on with the rest of its batch. -/
@[simp] theorem ConsumerPhase.owed_following (rest : List ℕ) :
    (ConsumerPhase.following rest).owed = rest := by
  cases rest <;> rfl

/-- The custody of the entries. -/
def custody (p : Pool EventStream StreamSession) : Ledger where
  published := p.store.entries.length
  cursor := p.store.cursor
  completed := p.store.completed
  held i := owedBy (p.session i)

/-- **No entry is stranded**: one whose handler has not completed was not given to the
group yet, or a live consumer has it in what is left of its batch. -/
def Unstranded (p : Pool EventStream StreamSession) : Prop :=
  ∀ id < p.store.entries.length, id ∉ p.store.completed →
    p.store.cursor ≤ id ∨ ∃ i t, p.session i = some t ∧ id ∈ t.owed

/-- Its condition on a step of a consumer: no read that was carried out and gave it
entries goes unanswered; an entry it hands to the handler is decoded, and the handler
completes; and it is not cancelled before the last entry of its batch. -/
def Consumer.Keeps (loads : String → Option Json) (c : Consumer) (s : EventStream)
    (tick : ConsumerTick) : ConsumerPhase → Prop
  | .connecting | .pausing => True
  | .reading =>
      s.readReply tick.reply = .refused ∨ s.batchSize c.count = 0 ∨
        (tick.reply = .answered ∧ tick.cancelled = false)
  | .handling id _ =>
      (s.dataOf loads id).isSome ∧ tick.raises = false ∧ tick.cancelled = false
  | .acknowledging _ rest => rest = [] ∨ tick.cancelled = false

/-- The condition on a step of a session. -/
def StreamSession.Keeps (loads : String → Option Json) (s : EventStream) (tick : ConsumerTick) :
    StreamSession → Prop
  | .publishing _ => True
  | .consuming c phase => c.Keeps loads s tick phase

/-- Its condition on a step of the pool: besides, no consumer stops in the middle of a
batch. -/
def keepsMessages (loads : String → Option Json) (p : Pool EventStream StreamSession) :
    PoolAct StreamRequest ConsumerTick → Prop
  | .begin _ _ => True
  | .crash i => owedBy (p.session i) = []
  | .advance i tick => ∀ t, p.session i = some t → t.Keeps loads p.store tick

/-! ## What the steps do to the custody -/

/-- The move of the entries in a step of the session `i`. A batch that is read and does not arrive
is lost to everybody; a handler that raises drops its entry, and a cancelled task all that is
left. -/
def Consumer.move (loads : String → Option Json) (c : Consumer) (s : EventStream) (i : ℕ)
    (tick : ConsumerTick) : ConsumerPhase → Move
  | .connecting | .pausing => .drop i 0
  | .reading =>
      if s.readReply tick.reply = .refused then .drop i 0
      else if tick.reply = .answered ∧ tick.cancelled = false then .deliver i (s.batchSize c.count)
      else .lose (s.batchSize c.count)
  | .handling id rest =>
      if (s.dataOf loads id).isNone then .drop i 1
      else if tick.cancelled then .drop i (id :: rest).length
      else if tick.raises then .drop i 1
      else .complete i
  | .acknowledging _ rest => .drop i (if tick.cancelled then rest.length else 0)

/-- The move of the entries in a step of a session. -/
def StreamSession.move (loads : String → Option Json) (s : EventStream) (i : ℕ)
    (tick : ConsumerTick) : StreamSession → Move
  | .publishing _ => if tick.reply = .refused then .drop i 0 else .publish
  | .consuming c phase => c.move loads s i tick phase

/-- The move of the entries in a step of the pool. -/
def moveOf (loads : String → Option Json) (p : Pool EventStream StreamSession) :
    PoolAct StreamRequest ConsumerTick → Move
  | .begin i _ => .drop i 0
  | .crash i => .drop i (owedBy (p.session i)).length
  | .advance i tick =>
      match p.session i with
      | none => .drop i 0
      | some t => t.move loads p.store i tick

section Custody

variable {loads : String → Option Json} {s : EventStream}

@[simp] theorem EventStream.cursor_add (fields : List (String × String)) :
    (s.add fields).cursor = s.cursor := rfl

@[simp] theorem EventStream.cursor_createGroup : s.createGroup.cursor = s.cursor := by
  cases hgroup : s.group <;> simp [EventStream.createGroup, EventStream.cursor, hgroup]

@[simp] theorem EventStream.cursor_acknowledge (id : ℕ) :
    (s.acknowledge id).cursor = s.cursor := by
  cases hgroup : s.group <;> simp [EventStream.acknowledge, EventStream.cursor, hgroup]

@[simp] theorem EventStream.cursor_complete (id : ℕ) : (s.complete id).cursor = s.cursor := rfl

/-- A read that is carried out advances the group by its batch. -/
theorem EventStream.cursor_readGroup {reply : RedisReply} {consumer : String} {count : ℕ}
    (h : s.readReply reply ≠ .refused) :
    (s.readGroup consumer count).cursor = s.cursor + s.batchSize count := by
  unfold EventStream.readReply at h
  cases hgroup : s.group with
  | none => simp [hgroup] at h
  | some g => simp [EventStream.readGroup, EventStream.cursor, hgroup]

/-- Where the group exists, Redis does as it is asked. -/
theorem EventStream.readReply_of_ne {reply : RedisReply} (h : s.readReply reply ≠ .refused) :
    s.readReply reply = reply := by
  unfold EventStream.readReply at h ⊢
  split
  · rename_i hnone
    rw [if_pos hnone] at h
    exact absurd rfl h
  · rfl

/-- A batch ends where the stream does. -/
theorem EventStream.batchSize_le (hcursor : s.cursor ≤ s.entries.length) (count : ℕ) :
    s.cursor + s.batchSize count ≤ s.entries.length := by
  unfold EventStream.batchSize
  split <;> omega

/-- The custody after a session's step, given what the session did. -/
theorem custody_assign (p : Pool EventStream StreamSession) (s' : EventStream) (i : ℕ)
    (o : Option StreamSession) :
    custody (p.assign s' i o) =
      { published := s'.entries.length
        cursor := s'.cursor
        completed := s'.completed
        held := Function.update (custody p).held i (owedBy o) } := by
  have hheld : (custody (p.assign s' i o)).held =
      Function.update (custody p).held i (owedBy o) := by
    funext j
    by_cases hji : j = i
    · subst hji
      simp [custody]
    · simp [custody, Pool.assign_session_of_ne p s' o hji, Function.update_of_ne hji]
  rw [← hheld]
  rfl

variable {p : Pool EventStream StreamSession} {i : ℕ} {c : Consumer} {tick : ConsumerTick}

/-- A step that at most lets go of entries. -/
theorem custody_drop {s' : EventStream} {o : Option StreamSession} {k : ℕ}
    (hentries : s'.entries = p.store.entries) (hcursor : s'.cursor = p.store.cursor)
    (hcompleted : s'.completed = p.store.completed)
    (howed : owedBy o = (owedBy (p.session i)).drop k) :
    custody (p.assign s' i o) = (custody p).apply (.drop i k) := by
  rw [custody_assign, hentries, hcursor, hcompleted, howed]
  rfl

/-- A read that was carried out and whose entries reach nobody. -/
theorem custody_lost {reply : RedisReply} {o : Option StreamSession}
    (hread : p.store.readReply reply ≠ .refused) (hmine : owedBy (p.session i) = [])
    (howed : owedBy o = []) :
    custody (p.assign (p.store.readGroup c.name c.count) i o) =
      (custody p).apply (.lose (p.store.batchSize c.count)) := by
  have hheld : Function.update (custody p).held i [] = (custody p).held :=
    Function.update_eq_self_iff.mpr hmine.symm
  rw [custody_assign, EventStream.cursor_readGroup hread, howed, hheld]
  rfl

/-- A read whose entries reach the consumer. -/
theorem custody_delivered {reply : RedisReply} (hread : p.store.readReply reply ≠ .refused) :
    custody (p.assign (p.store.readGroup c.name c.count) i
        (some (.consuming c (.following (p.store.batch c.count))))) =
      (custody p).apply (.deliver i (p.store.batchSize c.count)) := by
  rw [custody_assign, EventStream.cursor_readGroup hread, owedBy_consuming,
    ConsumerPhase.owed_following]
  rfl

/-- A step of a consumer moves the entries as `Consumer.move` says. -/
theorem Consumer.custody_step {phase : ConsumerPhase}
    (ht : p.session i = some (.consuming c phase)) :
    custody (p.assign (c.step loads p.store tick phase).1 i
        ((c.step loads p.store tick phase).2.map (StreamSession.consuming c))) =
      (custody p).apply (c.move loads p.store i tick phase) := by
  have hmine : owedBy (p.session i) = phase.owed := by rw [ht, owedBy_consuming]
  cases phase with
  | connecting =>
      refine custody_drop ?_ ?_ ?_ ?_
      · simp only [Consumer.step]
        split <;> split <;> rfl
      · simp only [Consumer.step]
        split <;> split <;> simp
      · simp only [Consumer.step]
        split <;> split <;> rfl
      · rw [hmine]
        simp only [Consumer.step]
        split
        · rfl
        · split <;> rfl
  -- a batch that is read leaves the stream, whether or not its consumer hears of it
  | reading =>
      simp only [Consumer.step, Consumer.move]
      by_cases hrefused : p.store.readReply tick.reply = .refused
      · simp only [hrefused, if_true]
        split <;> exact custody_drop rfl rfl rfl (by rw [hmine]; rfl)
      · have hreply := EventStream.readReply_of_ne hrefused
        simp only [hreply] at hrefused ⊢
        rw [if_neg hrefused]
        have hread : p.store.readReply tick.reply ≠ .refused := by rwa [hreply]
        cases hcancelled : tick.cancelled with
        | true =>
            simpa [hrefused] using custody_lost (o := none) hread hmine rfl
        | false =>
            cases htick : tick.reply with
            | answered => simpa using custody_delivered hread
            | lost => simpa using custody_lost (o := some (.consuming c .pausing)) hread hmine rfl
            | refused => exact absurd htick hrefused
  | pausing =>
      refine custody_drop rfl rfl rfl ?_
      rw [hmine]
      simp only [Consumer.step]
      split <;> rfl
  -- an entry that cannot be read and one whose handler raises are both dropped; the others are
  -- done
  | handling id rest =>
      simp only [Consumer.step, Consumer.move]
      cases hdata : p.store.dataOf loads id with
      | none => exact custody_drop rfl rfl rfl (by rw [hmine]; simp)
      | some data =>
          simp only [Option.isNone_some, Bool.false_eq_true, if_false]
          split
          · exact custody_drop rfl rfl rfl (by rw [hmine]; simp)
          · split
            · exact custody_drop rfl rfl rfl (by rw [hmine]; simp)
            · have hheld : (custody p).held i = id :: rest := hmine
              rw [custody_assign, Ledger.apply, hheld]
              rfl
  | acknowledging id rest =>
      refine custody_drop ?_ ?_ ?_ ?_
      · simp only [Consumer.step]
        split <;> rfl
      · simp only [Consumer.step]
        split <;> simp
      · simp only [Consumer.step]
        split <;> rfl
      · rw [hmine]
        simp only [Consumer.step]
        split <;> simp

/-- A consumer is only given what was published, and only when it has nothing left. -/
theorem Consumer.allows_move {phase : ConsumerPhase} (hkept : (custody p).WellKept)
    (ht : p.session i = some (.consuming c phase)) :
    (custody p).Allows (c.move loads p.store i tick phase) := by
  have hbatch : (custody p).cursor + p.store.batchSize c.count ≤ (custody p).published :=
    EventStream.batchSize_le hkept.cursor_le c.count
  cases phase with
  | reading =>
      simp only [Consumer.move]
      split
      · trivial
      · split
        · exact ⟨by simp [custody, ht, ConsumerPhase.owed], hbatch⟩
        · exact hbatch
  | handling id rest =>
      simp only [Consumer.move]
      split
      · trivial
      · split
        · trivial
        · split <;> trivial
  | connecting => trivial
  | pausing => trivial
  | acknowledging id rest => trivial

/-- **One step of the pool** is one move of the entries. -/
theorem custody_machine {p' : Pool EventStream StreamSession}
    {a : PoolAct StreamRequest ConsumerTick} (hkept : (custody p).WellKept)
    (hstep : (eventBus loads).machine.step p a = some p') :
    custody p' = (custody p).apply (moveOf loads p a) ∧
      (custody p).Allows (moveOf loads p a) := by
  cases a with
  | begin i request =>
      simp only [Sessions.machine] at hstep
      split at hstep
      · rename_i hfree
        obtain rfl := Option.some.inj hstep
        refine ⟨custody_drop rfl rfl rfl ?_, trivial⟩
        rw [Option.isNone_iff_eq_none.mp hfree]
        cases request <;> rfl
      · cases hstep
  | crash i =>
      obtain rfl := Option.some.inj hstep
      exact ⟨custody_drop rfl rfl rfl (by simp), trivial⟩
  | advance i tick =>
      obtain ⟨t, ht, hrest⟩ := Option.bind_eq_some_iff.mp hstep
      obtain ⟨⟨s', o⟩, hadv, rfl⟩ := Option.map_eq_some_iff.mp hrest
      obtain ⟨rfl, rfl⟩ := Prod.mk.inj (Option.some.inj hadv)
      simp only [moveOf, ht]
      cases t with
      -- a new entry is behind the cursor, and in nobody's hands
      | publishing fields =>
          have hmine : (custody p).held i = [] := by simp [custody, ht, owedBy, StreamSession.owed]
          simp only [StreamSession.move]
          split
          · refine ⟨custody_drop rfl rfl rfl ?_, trivial⟩
            rw [show owedBy (p.session i) = [] from hmine]
            rfl
          · refine ⟨?_, trivial⟩
            have hheld : Function.update (custody p).held i [] = (custody p).held :=
              Function.update_eq_self_iff.mpr hmine.symm
            rw [custody_assign, owedBy_none, hheld, EventStream.cursor_add]
            simp [Ledger.apply, EventStream.add, custody]
      | consuming c phase => exact ⟨Consumer.custody_step ht, Consumer.allows_move hkept ht⟩

/-- The condition of a consumer's step says that the step loses nothing. -/
theorem Consumer.keeps_iff {phase : ConsumerPhase}
    (ht : p.session i = some (.consuming c phase)) :
    c.Keeps loads p.store tick phase ↔
      (custody p).Lossless (c.move loads p.store i tick phase) := by
  have hmine : (custody p).held i = phase.owed := by simp [custody, ht]
  cases phase with
  | connecting => simp [Consumer.Keeps, Consumer.move, Ledger.Lossless]
  | pausing => simp [Consumer.Keeps, Consumer.move, Ledger.Lossless]
  | reading =>
      simp only [Consumer.Keeps, Consumer.move]
      by_cases hrefused : p.store.readReply tick.reply = .refused
      · simp [hrefused, Ledger.Lossless]
      -- a batch that was read is in the hands of its consumer, or in nobody's
      · by_cases hanswered : tick.reply = .answered ∧ tick.cancelled = false
        · rw [if_neg hrefused, if_pos hanswered]
          simp [hanswered, Ledger.Lossless]
        · rw [if_neg hrefused, if_neg hanswered]
          simp only [hrefused, hanswered, false_or, or_false]
          rfl
  | handling id rest =>
      have hone : (custody p).held i = id :: rest := hmine
      simp only [Consumer.Keeps, Consumer.move]
      cases p.store.dataOf loads id with
      | none => simp [Ledger.Lossless, hone]
      | some data =>
          cases tick.cancelled <;> cases tick.raises <;> simp [Ledger.Lossless, hone]
  | acknowledging id rest =>
      have hrest : (custody p).held i = rest := hmine
      cases hcancelled : tick.cancelled <;>
        simp [Consumer.Keeps, Consumer.move, Ledger.Lossless, hrest, hcancelled]

/-- The condition of a step of the pool says that the step loses nothing. -/
theorem keepsMessages_iff (a : PoolAct StreamRequest ConsumerTick) :
    keepsMessages loads p a ↔ (custody p).Lossless (moveOf loads p a) := by
  cases a with
  | begin i request => simp [keepsMessages, moveOf, Ledger.Lossless]
  | crash i => simp [keepsMessages, moveOf, Ledger.Lossless, custody]
  | advance i tick =>
      cases ht : p.session i with
      | none => simp [keepsMessages, moveOf, ht, Ledger.Lossless]
      | some t =>
          simp only [keepsMessages, moveOf, ht, Option.some.injEq, forall_eq']
          cases t with
          | publishing fields =>
              simp only [StreamSession.Keeps, StreamSession.move, true_iff]
              split
              · simp [Ledger.Lossless]
              · trivial
          | consuming c phase => exact Consumer.keeps_iff ht

/-- An entry is stranded when it is not accounted for. -/
theorem unstranded_iff : Unstranded p ↔ (custody p).Accounted := by
  have hheld : ∀ id, (∃ i t, p.session i = some t ∧ id ∈ t.owed) ↔
      ∃ i, id ∈ (custody p).held i := by
    intro id
    refine exists_congr fun i => ?_
    cases ht : p.session i with
    | none => simp [custody, ht]
    | some t => simp [custody, ht, owedBy]
  unfold Unstranded Ledger.Accounted
  simp only [hheld]
  rfl

end Custody

/-! ## Runs -/

section Runs

variable {loads : String → Option Json} {entries : List (List (String × String))}
variable {p' : Pool EventStream StreamSession} {as : List (PoolAct StreamRequest ConsumerTick)}

/-- Nothing has been handed out yet. -/
theorem custody_fresh : (custody (Pool.quiet (.fresh entries))).WellKept ∧
    (custody (Pool.quiet (.fresh entries))).Accounted := by
  constructor
  · constructor
    · exact Nat.zero_le _
    · intro id hid
      cases hid
    · intro i id hid
      cases hid
    · intro i id hid
      cases hid
    · intro i
      exact List.nodup_nil
    · intro i j id hid
      cases hid
  · intro id _ _
    exact Or.inl (Nat.zero_le id)

/-- **No message is stranded.**  Every step of a run meets the condition if and only if,
in every state the run reaches, each entry whose handler has not completed is either
ahead of the group or in what is left of the batch of a live consumer. -/
theorem no_message_stranded
    (run : Run (eventBus loads).machine Unguarded (Pool.quiet (.fresh entries)) as p') :
    Run (eventBus loads).machine (keepsMessages loads) (Pool.quiet (.fresh entries)) as p' ↔
      ∀ front back mid, as = front ++ back →
        Run (eventBus loads).machine Unguarded (Pool.quiet (.fresh entries)) front mid →
          Unstranded mid := by
  refine run.guarded_iff_within (J := fun p => (custody p).WellKept) ?_ ?_ custody_fresh.1
    (unstranded_iff.mpr custody_fresh.2)
  · intro p a p' hstep _ hkept
    obtain ⟨hmove, hallows⟩ := custody_machine hkept hstep
    rw [hmove]
    exact hkept.apply hallows
  · intro p a p' hstep _ hkept haccounted
    obtain ⟨hmove, hallows⟩ := custody_machine hkept hstep
    rw [keepsMessages_iff, unstranded_iff, hmove]
    exact Ledger.accounted_apply hkept (unstranded_iff.mp haccounted) hallows

end Runs

/-! ## What becomes of a stranded entry -/

/-- The entries the group has not acknowledged. -/
def EventStream.pendingIds (s : EventStream) : List ℕ :=
  ((s.group.map ConsumerGroup.pending).getD []).map Prod.snd

/-- Every entry that was given to the group is completed or pending. -/
def EventStream.Pending (s : EventStream) : Prop :=
  ∀ id < s.cursor, id ∉ s.completed → id ∈ s.pendingIds

/-- Only what is completed is acknowledged. -/
def StreamSession.Acknowledges (s : EventStream) : StreamSession → Prop
  | .consuming _ (.acknowledging id _) => id ∈ s.completed
  | _ => True

section Pending

variable {loads : String → Option Json} {s s' : EventStream} {t t' : StreamSession}
variable {tick : ConsumerTick} {o : Option StreamSession}

/-- Creating the group gives nothing out. -/
theorem EventStream.Pending.createGroup (h : s.Pending) : s.createGroup.Pending := by
  intro id hid hopen
  rw [EventStream.cursor_createGroup] at hid
  have hpending := h id hid hopen
  cases hgroup : s.group with
  | none => simp [EventStream.pendingIds, hgroup] at hpending
  | some g => simpa [EventStream.createGroup, EventStream.pendingIds, hgroup] using hpending

/-- What a read gives out is pending. -/
theorem EventStream.Pending.readGroup (h : s.Pending) (consumer : String) (count : ℕ) :
    (s.readGroup consumer count).Pending := by
  intro id hid hopen
  cases hgroup : s.group with
  | none => simp [EventStream.readGroup, EventStream.cursor, hgroup] at hid
  | some g =>
      have hcursor : s.cursor = g.delivered := by simp [EventStream.cursor, hgroup]
      have hlt : id < g.delivered + s.batchSize count := by
        simpa [EventStream.readGroup, EventStream.cursor, hgroup] using hid
      by_cases hbefore : id < g.delivered
      · have hpending := h id (hcursor ▸ hbefore) hopen
        simp only [EventStream.pendingIds, EventStream.readGroup, hgroup, Option.map_some,
          Option.getD_some, List.map_append, List.mem_append] at hpending ⊢
        exact Or.inl hpending
      · have hbatch : id ∈ s.batch count := by
          rw [EventStream.batch, hcursor, List.mem_range'_1]
          omega
        simp only [EventStream.pendingIds, EventStream.readGroup, hgroup, Option.map_some,
          Option.getD_some, List.map_append, List.mem_append]
        refine Or.inr (List.mem_map.mpr ⟨(consumer, id), ?_, rfl⟩)
        exact List.mem_map.mpr ⟨id, hbatch, rfl⟩

/-- What is completed may be acknowledged. -/
theorem EventStream.Pending.acknowledge (h : s.Pending) {done : ℕ} (hdone : done ∈ s.completed) :
    (s.acknowledge done).Pending := by
  intro id hid hopen
  rw [EventStream.cursor_acknowledge] at hid
  have hpending := h id hid hopen
  have hne : id ≠ done := fun heq => hopen (heq ▸ hdone)
  cases hgroup : s.group with
  | none => simp [EventStream.pendingIds, hgroup] at hpending
  | some g =>
      simp only [EventStream.pendingIds, EventStream.acknowledge, hgroup, Option.map_some,
        Option.getD_some, List.mem_map, List.mem_filter, decide_eq_true_eq] at hpending ⊢
      obtain ⟨entry, hentry, rfl⟩ := hpending
      exact ⟨entry, ⟨hentry, hne⟩, rfl⟩

/-- Completing an entry keeps it. -/
theorem EventStream.Pending.complete (h : s.Pending) (done : ℕ) : (s.complete done).Pending := by
  intro id hid hopen
  exact h id hid fun hdone => hopen (List.mem_append_left _ hdone)

/-- Going on with the batch needs nothing. -/
theorem StreamSession.acknowledges_following (c : Consumer) (rest : List ℕ) :
    (StreamSession.consuming c (.following rest)).Acknowledges s := by
  cases rest <;> trivial

/-- A step of a consumer keeps it. -/
theorem Consumer.step_pending {c : Consumer} {phase : ConsumerPhase} (h : s.Pending)
    (ht : (StreamSession.consuming c phase).Acknowledges s) :
    (c.step loads s tick phase).1.Pending := by
  cases phase with
  | connecting =>
      simp only [Consumer.step]
      split <;> split <;> first | exact h | exact h.createGroup
  | reading =>
      simp only [Consumer.step]
      split <;> split <;> first | exact h | exact h.readGroup _ _
  | pausing => exact h
  | handling id rest =>
      simp only [Consumer.step]
      split
      · exact h
      · split
        · exact h
        · split
          · exact h
          · exact h.complete id
  | acknowledging id rest =>
      simp only [Consumer.step]
      split
      · exact h
      · exact h.acknowledge ht

/-- It forgets no completed entry, and acknowledges none that is not. -/
theorem Consumer.step_completed {c : Consumer} {phase : ConsumerPhase} :
    s.completed ⊆ (c.step loads s tick phase).1.completed ∧
      ∀ phase', (c.step loads s tick phase).2 = some phase' →
        (StreamSession.consuming c phase').Acknowledges (c.step loads s tick phase).1 := by
  cases phase with
  | connecting =>
      simp only [Consumer.step]
      split
      · split
        · exact ⟨List.Subset.refl _, by rintro phase' ⟨⟩⟩
        · exact ⟨List.Subset.refl _, by rintro phase' ⟨⟩⟩
      · split
        · refine ⟨List.Subset.refl _, ?_⟩
          rintro phase' ⟨⟩
          trivial
        · exact ⟨List.Subset.refl _, by rintro phase' ⟨⟩⟩
        · exact ⟨List.Subset.refl _, by rintro phase' ⟨⟩⟩
  | reading =>
      simp only [Consumer.step]
      split <;> split <;> refine ⟨List.Subset.refl _, ?_⟩ <;> rintro phase' ⟨⟩ <;>
        first | trivial | exact StreamSession.acknowledges_following c _
  | pausing =>
      simp only [Consumer.step]
      split
      · exact ⟨List.Subset.refl _, by rintro phase' ⟨⟩⟩
      · refine ⟨List.Subset.refl _, ?_⟩
        rintro phase' ⟨⟩
        trivial
  | handling id rest =>
      simp only [Consumer.step]
      split
      · refine ⟨List.Subset.refl _, ?_⟩
        rintro phase' ⟨⟩
        exact StreamSession.acknowledges_following c rest
      · split
        · refine ⟨List.Subset.refl _, ?_⟩
          rintro phase' ⟨⟩
        · split
          · refine ⟨List.Subset.refl _, ?_⟩
            rintro phase' ⟨⟩
            exact StreamSession.acknowledges_following c rest
          · refine ⟨List.subset_append_left _ _, ?_⟩
            rintro phase' ⟨⟩
            exact List.mem_append_right _ List.mem_cons_self
  -- the next entry of the batch is not acknowledged before it is handled
  | acknowledging id rest =>
      simp only [Consumer.step]
      refine ⟨by split <;> exact List.Subset.refl _, ?_⟩
      split
      · rintro phase' ⟨⟩
      · rintro phase' ⟨⟩
        exact StreamSession.acknowledges_following c rest

/-- What a step of the pool is taken to keep. -/
theorem pendingOutline (loads : String → Option Json) :
    Outline (eventBus loads) Unguarded EventStream.Pending
      (fun s t => t.Acknowledges s) (fun _ _ => True) where
  opened s request _ := by cases request <;> trivial
  openedCompat _ _ := ⟨trivial, trivial⟩
  global p i t tick s' o hmeets ht hadv _ := by
    obtain ⟨rfl, rfl⟩ := Prod.mk.inj (Option.some.inj hadv)
    cases t with
    | publishing fields =>
        show EventStream.Pending (if tick.reply = .refused then p.store else p.store.add fields)
        split <;> exact hmeets.global
    | consuming c phase => exact Consumer.step_pending hmeets.global (hmeets.each i _ ht)
  own p i t tick s' t' hmeets ht hadv _ := by
    obtain ⟨rfl, hnext⟩ := Prod.mk.inj (Option.some.inj hadv)
    cases t with
    | publishing fields => cases hnext
    | consuming c phase =>
        obtain ⟨phase', hphase, rfl⟩ := Option.map_eq_some_iff.mp hnext
        exact Consumer.step_completed.2 phase' hphase
  others p i t tick s' o j u hmeets ht hadv _ _ hu := by
    obtain ⟨rfl, -⟩ := Prod.mk.inj (Option.some.inj hadv)
    have hbefore := hmeets.each j u hu
    have hgrown : p.store.completed ⊆ (t.step loads p.store tick).1.completed := by
      cases t with
      | publishing fields =>
          simp only [StreamSession.step]
          split <;> exact List.Subset.refl _
      | consuming c phase => exact Consumer.step_completed.1
    cases u with
    | publishing fields => trivial
    | consuming c phase =>
        -- only an acknowledgement knows something of the store: that its entry is completed
        cases phase with
        | acknowledging id rest => exact hgrown hbefore
        | _ => trivial
  compat _ _ _ _ _ _ _ _ _ _ _ _ _ _ := ⟨trivial, trivial⟩

/-- **A stranded entry is pending.**  In every state a run reaches, an entry that was given
to the group and is not completed is in the group's list of pending entries, whoever
read it. -/
theorem pending_of_open {entries : List (List (String × String))}
    {p : Pool EventStream StreamSession} {as : List (PoolAct StreamRequest ConsumerTick)}
    (run : Run (eventBus loads).machine Unguarded (Pool.quiet (.fresh entries)) as p)
    {id : ℕ} (hgiven : id < p.store.cursor) (hopen : id ∉ p.store.completed) :
    id ∈ p.store.pendingIds := by
  have hstart : (Pool.quiet (.fresh entries) : Pool EventStream StreamSession).Meets
      EventStream.Pending (fun s t => t.Acknowledges s) (fun _ _ => True) := by
    refine Pool.Meets.quiet ?_
    intro id hid
    cases hid
  exact ((pendingOutline loads).run run hstart).global id hgiven hopen

end Pending

/-! ## A handler that raises -/

/-- The condition on a step of a consumer can be tested. -/
instance decidableKeeps (loads : String → Option Json) (c : Consumer) (s : EventStream)
    (tick : ConsumerTick) : (phase : ConsumerPhase) → Decidable (c.Keeps loads s tick phase)
  | .connecting | .pausing => isTrue trivial
  | .reading =>
      inferInstanceAs (Decidable (s.readReply tick.reply = .refused ∨ s.batchSize c.count = 0 ∨
        (tick.reply = .answered ∧ tick.cancelled = false)))
  | .handling id _ =>
      inferInstanceAs (Decidable ((s.dataOf loads id).isSome ∧ tick.raises = false ∧
        tick.cancelled = false))
  | .acknowledging _ rest => inferInstanceAs (Decidable (rest = [] ∨ tick.cancelled = false))

/-- The test of the condition, for runs that are computed. -/
def keepsTest (loads : String → Option Json) (p : Pool EventStream StreamSession) :
    PoolAct StreamRequest ConsumerTick → Bool
  | .begin _ _ => true
  | .crash i => (owedBy (p.session i)).isEmpty
  | .advance i tick =>
      match p.session i with
      | some (.consuming c phase) => decide (Consumer.Keeps loads c p.store tick phase)
      | _ => true

/-- The test is of the condition. -/
theorem keepsTest_spec {loads : String → Option Json} {p : Pool EventStream StreamSession}
    {a : PoolAct StreamRequest ConsumerTick} (h : keepsTest loads p a = true) :
    keepsMessages loads p a := by
  cases a with
  | begin i request => trivial
  | crash i => exact List.isEmpty_iff.mp h
  | advance i tick =>
      intro t ht
      simp only [keepsTest, ht] at h
      cases t with
      | publishing fields => trivial
      | consuming c phase =>
          have hkeeps : c.Keeps loads p.store tick phase := of_decide_eq_true h
          exact hkeeps

/-- `json.loads` of the two messages below. -/
def sampleLoads (text : String) : Option Json :=
  if text = "{}" then some (.obj []) else if text = "[]" then some (.arr []) else none

/-- The worker. -/
def sampleConsumer : StreamRequest := .consume ⟨"worker_7", 10⟩

/-- The next step of the consumer, with Redis answering. -/
def consumerStep (i : ℕ) (raises : Bool) : PoolAct StreamRequest ConsumerTick :=
  .advance i ⟨.answered, raises, false⟩

/-- Two messages are published, read as one batch, and handled. -/
def handledBatch : List (PoolAct StreamRequest ConsumerTick) :=
  [.begin 0 (publishMessage "{}"), consumerStep 0 false, .begin 1 sampleConsumer,
    consumerStep 1 false, .begin 0 (publishMessage "[]"), consumerStep 0 false,
    consumerStep 1 false, consumerStep 1 false, consumerStep 1 false, consumerStep 1 false,
    consumerStep 1 false]

/-- No message is stranded in any state of that run. -/
theorem no_message_stranded_batch : ∃ p,
    Run (eventBus sampleLoads).machine Unguarded (Pool.quiet (.fresh [])) handledBatch p ∧
      p.store.completed = [0, 1] ∧
      ∀ front back mid, handledBatch = front ++ back →
        Run (eventBus sampleLoads).machine Unguarded (Pool.quiet (.fresh [])) front mid →
          Unstranded mid := by
  have hcheck : ((eventBus sampleLoads).machine.check (keepsTest sampleLoads)
      (Pool.quiet (.fresh [])) handledBatch).map (fun p => p.store.completed) = some [0, 1] := by
    decide +kernel
  obtain ⟨p, hp, hcompleted⟩ := Option.map_eq_some_iff.mp hcheck
  have guarded := (Run.of_check hp).mono fun _ _ h => keepsTest_spec h
  exact ⟨p, guarded.unguarded, hcompleted,
    (no_message_stranded guarded.unguarded).mp guarded⟩

/-- A message that is not an object is published and read, and the handler raises. -/
def raisingHandler : List (PoolAct StreamRequest ConsumerTick) :=
  [.begin 0 (publishMessage "[]"), consumerStep 0 false, .begin 1 sampleConsumer,
    consumerStep 1 false, consumerStep 1 false, consumerStep 1 true]

/-- It was given to the group, nobody has it, and its handler has not completed. -/
theorem message_stranded : ∃ p,
    Run (eventBus sampleLoads).machine Unguarded (Pool.quiet (.fresh [])) raisingHandler p ∧
      ¬ Unstranded p := by
  have hcheck : ((eventBus sampleLoads).machine.check (fun _ a => decide (a.agent < 2))
      (Pool.quiet (.fresh [])) raisingHandler).map
        (fun p => (p.store.entries.length, p.store.completed, p.store.cursor,
          owedBy (p.session 0), owedBy (p.session 1))) = some (1, [], 1, [], []) := by
    decide +kernel
  obtain ⟨p, hp, hstate⟩ := Option.map_eq_some_iff.mp hcheck
  simp only [Prod.mk.injEq] at hstate
  obtain ⟨hlength, hcompleted, hcursor, hzero, hone⟩ := hstate
  have run := Run.of_check hp
  have hwithin : p.Within 2 :=
    run.preserves (fun _ _ _ hstep hagent h => Pool.within_step hstep (of_decide_eq_true hagent) h)
      (fun _ _ => rfl)
  refine ⟨p, run.unguarded, fun hall => ?_⟩
  rcases hall 0 (by omega) (by simp [hcompleted]) with hahead | ⟨i, t, ht, howed⟩
  · omega
  · have hmine : 0 ∈ owedBy (p.session i) := by simpa [owedBy, ht] using howed
    rcases i with _ | _ | i
    · simp [hzero] at hmine
    · simp [hone] at hmine
    · simp [hwithin (i + 2) (Nat.le_add_left 2 i)] at hmine

end AfricaFrontier
