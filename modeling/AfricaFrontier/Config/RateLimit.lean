import AfricaFrontier.Config.Redis
import AfricaFrontier.Lib.Pool
import AfricaFrontier.Lib.Window
import AfricaFrontier.Python.Json
import Mathlib.Algebra.Order.Ring.Rat

/-!
# The rate limiter (`config/rate_limit.py`)

`RateLimiter.is_allowed` keeps a sorted set for each key.  One pipeline, which Redis runs
as a whole, drops the entries that are a window old, counts the rest, adds an entry for
this call and prolongs the life of the key; the call is allowed when the count was below
the limit, and else takes its entry out again with a command of its own.

An entry is the text of the clock reading, with the reading as its score, so two calls
that read the same time share one entry.  Clock readings are floats, whose values are
rational and whose `str` tells different values apart; a reading less a whole number of
seconds is exact.

The process's clock and the Redis server's are two clocks.  The limiter remembers what no
code reads: the readings whose pipelines were carried out, and the answers.

The proof counts. Among the entries of a key are those of the calls that were allowed
(`Limiter.recorded`) and those that rejected calls are about to take out again (`pendingOf`);
`Limiter.Sound` says that these are different entries, and that what was allowed and can still
matter is among them. Then the count a pipeline reads is at least the number of allowed calls in
the window (`Limiter.Sound.recent_le`), and a call that finds room may be allowed.

Two things can break it, and the condition `RateSession.Unshared` excludes just these: an entry
that belongs to two calls, since they read one time, and a key that Redis drops while its entries
are still in the window of a caller whose clock runs behind.
-/

namespace AfricaFrontier

open Python SlidingWindow Transition

/-! ## The calls -/

/-- A call of `is_allowed`. -/
structure RateCall where
  key : String
  limit : ℕ
  windowSeconds : ℕ

/-- How `is_allowed` ends, unless Redis raises. -/
inductive RateAnswer
  | allowed
  /-- A `RateLimitError`. -/
  | exceeded (detail : String)
  deriving DecidableEq

/-- The text of the `RateLimitError`. -/
def RateCall.exceeded (call : RateCall) : RateAnswer :=
  .exceeded ("Rate limit exceeded: " ++ digitsText call.limit ++ " requests per " ++
    digitsText call.windowSeconds ++ "s")

/-- An answer, and the reading of the call it is the answer to. -/
structure RateVerdict where
  call : RateCall
  reading : ℚ
  answer : RateAnswer

/-! ## Redis -/

/-- The sorted set of a key, by the scores of its members, and when Redis drops it. -/
structure RateWindow where
  entries : List ℚ
  expiresAt : ℚ

/-- No entries. -/
def RateWindow.empty : RateWindow := ⟨[], 0⟩

/-- The entries at a time of the Redis server. -/
def RateWindow.live (w : RateWindow) (redisNow : ℚ) : List ℚ :=
  if redisNow < w.expiresAt then w.entries else []

/-- `ZREMRANGEBYSCORE … 0 window_start`. -/
def RateWindow.trimmed (w : RateWindow) (now redisNow : ℚ) (windowSeconds : ℕ) : List ℚ :=
  (w.live redisNow).filter fun score => !decide (0 ≤ score ∧ score ≤ now - windowSeconds)

/-- The whole pipeline: what `ZCARD` counted, and the set after `ZADD` and `EXPIRE`. The count is
taken before the entry of this call is added, and adding an entry that is there adds none. -/
def RateWindow.pipeline (w : RateWindow) (now redisNow : ℚ) (windowSeconds : ℕ) :
    ℕ × RateWindow :=
  let kept := w.trimmed now redisNow windowSeconds
  (kept.length,
    { entries := if now ∈ kept then kept else kept ++ [now]
      expiresAt := redisNow + windowSeconds + 1 })

/-- `ZREM`. -/
def RateWindow.remove (w : RateWindow) (now : ℚ) : RateWindow :=
  { w with entries := w.entries.filter fun score => decide (score ≠ now) }

/-- The key of a sorted set. -/
def rateKey (key : String) : String := "ratelimit:" ++ key

/-- Redis, the readings it saw and the answers that were given. The last two are read by no code. -/
structure Limiter where
  windows : String → RateWindow
  readings : List (String × ℚ)
  verdicts : List RateVerdict

/-- Before the first call. -/
def Limiter.start : Limiter where
  windows := fun _ => RateWindow.empty
  readings := []
  verdicts := []

/-- The pipeline of a call, carried out. -/
def Limiter.execute (s : Limiter) (call : RateCall) (now redisNow : ℚ) : ℕ × Limiter :=
  let result := (s.windows (rateKey call.key)).pipeline now redisNow call.windowSeconds
  (result.1,
    { s with
      windows := Function.update s.windows (rateKey call.key) result.2
      readings := s.readings ++ [(call.key, now)] })

/-- The entry of a call, taken out. -/
def Limiter.remove (s : Limiter) (key : String) (now : ℚ) : Limiter :=
  { s with
    windows := Function.update s.windows (rateKey key) ((s.windows (rateKey key)).remove now) }

/-- A call is answered. -/
def Limiter.answer (s : Limiter) (verdict : RateVerdict) : Limiter :=
  { s with verdicts := s.verdicts ++ [verdict] }

/-! ## The method, command by command -/

/-- Where a call stands. -/
inductive RatePhase
  | called
  /-- Over the limit, with the entry of this reading to take out. -/
  | rejecting (now : ℚ)
  deriving DecidableEq

/-- The environment's part in one command: the caller's clock, the server's, and what
becomes of the command. -/
structure RateTick where
  now : ℚ
  redisNow : ℚ
  reply : RedisReply

/-- The next command of a call: the pipeline, and for a call that found no room the removal of its
entry. A reply that is lost leaves the command done and the call without an answer. -/
def RateCall.step (call : RateCall) (s : Limiter) (tick : RateTick) :
    RatePhase → Limiter × Option RatePhase
  | .called =>
      let result := s.execute call tick.now tick.redisNow
      match tick.reply with
      | .refused => (s, none)
      | .lost => (result.2, none)
      | .answered =>
          if call.limit ≤ result.1 then (result.2, some (.rejecting tick.now))
          else (result.2.answer ⟨call, tick.now, .allowed⟩, none)
  | .rejecting now =>
      match tick.reply with
      | .refused => (s, none)
      | .lost => (s.remove call.key now, none)
      | .answered => ((s.remove call.key now).answer ⟨call, now, call.exceeded⟩, none)

/-- A call in flight. -/
structure RateSession where
  call : RateCall
  phase : RatePhase

/-- `is_allowed`. -/
def isAllowed : Sessions Limiter RateCall RateSession RateTick where
  init call := ⟨call, .called⟩
  advance s t tick :=
    let next := t.call.step s tick t.phase
    some (next.1, next.2.map (RateSession.mk t.call))

/-! ## What is promised of a key

The bound is about every window that ends at a reading: no more allowed calls in it than the
limit. -/

/-- The readings of a key whose pipelines were carried out. -/
def Limiter.readingsOf (s : Limiter) (key : String) : List ℚ :=
  (s.readings.filter fun r => decide (r.1 = key)).map Prod.snd

/-- The readings of the calls that were allowed under a key, in order. -/
def Limiter.accepted (s : Limiter) (key : String) : List ℚ :=
  (s.verdicts.filter fun v => decide (v.call.key = key ∧ v.answer = .allowed)).map (·.reading)

/-- The entries of a key. -/
def Limiter.entries (s : Limiter) (key : String) : List ℚ := (s.windows (rateKey key)).entries

/-- The allowed calls younger than `cutoff` that are recorded under a key: an answer counts as
long as an entry with its reading is there. -/
def Limiter.recorded (s : Limiter) (key : String) (cutoff : ℚ) : List ℚ :=
  (s.accepted key).filter fun a => decide (cutoff < a ∧ a ∈ s.entries key)

/-- A reading no earlier than those Redis saw under the key. -/
def Limiter.Latest (s : Limiter) (key : String) (now : ℚ) : Prop :=
  ∀ reading ∈ s.readingsOf key, reading ≤ now

/-- A time that may still be in the window of a reading to come. -/
def Limiter.Current (s : Limiter) (key : String) (windowSeconds : ℕ) (t : ℚ) : Prop :=
  ∃ now, s.Latest key now ∧ now - windowSeconds < t

/-- What the limiter keeps of a key, with the entries the calls in flight are about to
take out: the bound itself; a record of every allowed call that still matters; no two of
these at one time; and no entry about to go that is one of them or somebody else's. -/
structure Limiter.Sound (s : Limiter) (key : String) (limit windowSeconds : ℕ)
    (pending : ℕ → Option ℚ) : Prop where
  bounded : Bounded limit (windowSeconds : ℚ) (s.accepted key)
  recorded : ∀ a ∈ s.accepted key, s.Current key windowSeconds a → a ∈ s.entries key
  distinct : (s.accepted key).Pairwise fun a b => s.Current key windowSeconds a → a ≠ b
  held : ∀ i t, pending i = some t → s.Current key windowSeconds t →
    t ∈ s.entries key ∧ t ∉ s.accepted key
  apart : ∀ i j t, pending i = some t → pending j = some t →
    s.Current key windowSeconds t → i = j
  /-- Unless the window is empty, an entry about to go never was an allowed call's. -/
  rejected : 0 < windowSeconds → ∀ i t, pending i = some t → t ∉ s.accepted key

/-- The conditions on the pipeline of a call: no entry bears its reading, and if Redis
has dropped the key then all entries were a window old. -/
structure Limiter.Unshared (s : Limiter) (call : RateCall) (now redisNow : ℚ) : Prop where
  fresh : now ∉ (s.windows (rateKey call.key)).live redisNow
  timely : (s.windows (rateKey call.key)).expiresAt ≤ redisNow →
    ∀ m ∈ s.entries call.key, m ≤ now - call.windowSeconds

/-! ## What the commands do

The pipeline first, as a whole; then the three ways in which its call goes on. -/

section Commands

variable {s s' : Limiter} {call : RateCall} {key : String} {limit windowSeconds : ℕ}
variable {now redisNow : ℚ} {pending pending' : ℕ → Option ℚ}

/-- Two keys of callers have two sorted sets. -/
theorem rateKey_injective : Function.Injective rateKey := by
  intro a b h
  have hlist := congrArg String.toList h
  simp only [rateKey, String.toList_append] at hlist
  exact String.toList_injective (List.append_cancel_left hlist)

/-- Writing the set of one key leaves the others alone. -/
theorem Limiter.entries_update (w : RateWindow) (other : String) (hne : key ≠ other) :
    (Function.update s.windows (rateKey other) w) (rateKey key) = s.windows (rateKey key) :=
  Function.update_of_ne (fun h => hne (rateKey_injective h)) _ _

/-- The kept entries are entries, and all that are not a window old. -/
theorem RateWindow.mem_trimmed {w : RateWindow} {m : ℚ}
    (h : m ∈ w.trimmed now redisNow windowSeconds) : m ∈ w.live redisNow :=
  (List.mem_filter.mp h).1

/-- What is less than a window old is kept. -/
theorem RateWindow.mem_trimmed_of_lt {w : RateWindow} {m : ℚ} (h : m ∈ w.live redisNow)
    (hyoung : now - windowSeconds < m) : m ∈ w.trimmed now redisNow windowSeconds := by
  refine List.mem_filter.mpr ⟨h, ?_⟩
  have hnot : ¬ (0 ≤ m ∧ m ≤ now - windowSeconds) := fun hold => absurd hold.2 (not_le.mpr hyoung)
  simp [hnot]

/-- A live entry is an entry. -/
theorem RateWindow.mem_entries_of_live {w : RateWindow} {m : ℚ} (h : m ∈ w.live redisNow) :
    m ∈ w.entries := by
  unfold RateWindow.live at h
  split at h
  · exact h
  · cases h

/-- Under its conditions a pipeline keeps every entry that is not a window old. -/
theorem Limiter.Unshared.keeps (h : s.Unshared call now redisNow) {m : ℚ}
    (hm : m ∈ s.entries call.key) (hyoung : now - call.windowSeconds < m) :
    m ∈ (s.windows (rateKey call.key)).trimmed now redisNow call.windowSeconds := by
  refine RateWindow.mem_trimmed_of_lt ?_ hyoung
  unfold RateWindow.live
  split
  · exact hm
  · rename_i hexpired
    exact absurd (h.timely (not_lt.mp hexpired) m hm) (not_le.mpr hyoung)

/-- The entries after a pipeline that meets its conditions. -/
theorem Limiter.Unshared.entries_execute (h : s.Unshared call now redisNow) :
    (s.execute call now redisNow).2.entries call.key =
      (s.windows (rateKey call.key)).trimmed now redisNow call.windowSeconds ++ [now] := by
  have hnew : now ∉ (s.windows (rateKey call.key)).trimmed now redisNow call.windowSeconds :=
    fun hmem => h.fresh (RateWindow.mem_trimmed hmem)
  simp [Limiter.entries, Limiter.execute, RateWindow.pipeline, hnew]

/-- Its reading is one more. -/
theorem Limiter.readingsOf_execute :
    (s.execute call now redisNow).2.readingsOf call.key = s.readingsOf call.key ++ [now] := by
  simp [Limiter.readingsOf, Limiter.execute]

/-- What may still matter after another reading mattered before it. -/
theorem Limiter.Current.of_execute {t : ℚ}
    (h : (s.execute call now redisNow).2.Current call.key windowSeconds t) :
    s.Current call.key windowSeconds t ∧ now - windowSeconds < t := by
  obtain ⟨later, hlatest, hyoung⟩ := h
  rw [Limiter.Latest, Limiter.readingsOf_execute] at hlatest
  have hnow : now ≤ later := hlatest now (List.mem_append_right _ List.mem_cons_self)
  refine ⟨⟨later, fun r hr => hlatest r (List.mem_append_left _ hr), hyoung⟩, ?_⟩
  exact (sub_le_sub_right hnow _).trans_lt hyoung

/-- Nothing else matters of a limiter. -/
theorem Limiter.Sound.congr (h : s.Sound key limit windowSeconds pending)
    (hwindows : s'.windows (rateKey key) = s.windows (rateKey key))
    (hreadings : s'.readingsOf key = s.readingsOf key)
    (haccepted : s'.accepted key = s.accepted key)
    (hpending : ∀ i t, pending' i = some t → pending i = some t) :
    s'.Sound key limit windowSeconds pending' := by
  have hentries : s'.entries key = s.entries key := congrArg RateWindow.entries hwindows
  have hcurrent : ∀ t, s'.Current key windowSeconds t ↔ s.Current key windowSeconds t := by
    intro t
    unfold Limiter.Current Limiter.Latest
    rw [hreadings]
  constructor
  · rw [haccepted]
    exact h.bounded
  · intro a ha hmatters
    rw [haccepted] at ha
    rw [hentries]
    exact h.recorded a ha ((hcurrent a).mp hmatters)
  · rw [haccepted]
    exact h.distinct.imp fun hne hmatters => hne ((hcurrent _).mp hmatters)
  · intro i t hi hmatters
    rw [hentries, haccepted]
    exact h.held i t (hpending i t hi) ((hcurrent t).mp hmatters)
  · intro i j t hi hj hmatters
    exact h.apart i j t (hpending i t hi) (hpending j t hj) ((hcurrent t).mp hmatters)
  · intro hlong i t hi
    rw [haccepted]
    exact h.rejected hlong i t (hpending i t hi)

/-- The reading just taken matters, unless the window is empty. -/
theorem Limiter.current_execute (hlatest : s.Latest call.key now)
    (hlong : 0 < call.windowSeconds) :
    (s.execute call now redisNow).2.Current call.key call.windowSeconds now := by
  refine ⟨now, ?_, ?_⟩
  · intro reading hreading
    rw [Limiter.readingsOf_execute, List.mem_append, List.mem_singleton] at hreading
    rcases hreading with hreading | rfl
    · exact hlatest reading hreading
    · exact le_rfl
  · have hpos : (0 : ℚ) < call.windowSeconds := by exact_mod_cast hlong
    exact sub_lt_self now hpos

/-- **The pipeline**, before its call is answered: the set now has the reading, which is
nobody's yet, and has lost nothing that matters. -/
theorem Limiter.Sound.execute
    (h : s.Sound call.key limit call.windowSeconds pending)
    (hunshared : s.Unshared call now redisNow) (hlatest : s.Latest call.key now) :
    (s.execute call now redisNow).2.Sound call.key limit call.windowSeconds pending ∧
      ((s.execute call now redisNow).2.Current call.key call.windowSeconds now →
        now ∉ s.accepted call.key ∧ ∀ i, pending i ≠ some now) := by
  have hentries := hunshared.entries_execute
  have hkeeps : ∀ m ∈ s.entries call.key,
      (s.execute call now redisNow).2.Current call.key call.windowSeconds m →
        m ∈ (s.windows (rateKey call.key)).trimmed now redisNow call.windowSeconds :=
    fun m hm hmatters => hunshared.keeps hm hmatters.of_execute.2
  -- whatever has an entry that matters has not the reading of this call
  have hother : ∀ m ∈ s.entries call.key,
      (s.execute call now redisNow).2.Current call.key call.windowSeconds m → m ≠ now := by
    rintro m hm hmatters rfl
    exact hunshared.fresh (RateWindow.mem_trimmed (hkeeps m hm hmatters))
  refine ⟨⟨h.bounded, ?_, ?_, ?_, ?_, h.rejected⟩, ?_⟩
  · intro a ha hmatters
    rw [hentries]
    exact List.mem_append_left _
      (hkeeps a (h.recorded a ha hmatters.of_execute.1) hmatters)
  · exact h.distinct.imp fun hne hmatters => hne hmatters.of_execute.1
  · intro i t hi hmatters
    obtain ⟨hentry, hnot⟩ := h.held i t hi hmatters.of_execute.1
    refine ⟨?_, hnot⟩
    rw [hentries]
    exact List.mem_append_left _ (hkeeps t hentry hmatters)
  · intro i j t hi hj hmatters
    exact h.apart i j t hi hj hmatters.of_execute.1
  · intro hmatters
    constructor
    · intro ha
      exact hother now (h.recorded now ha hmatters.of_execute.1) hmatters rfl
    · intro i hi
      exact hother now (h.held i now hi hmatters.of_execute.1).1 hmatters rfl

/-- The count of a pipeline is at least the number of allowed calls in the window. -/
theorem Limiter.Sound.recent_le (h : s.Sound call.key limit call.windowSeconds pending)
    (hunshared : s.Unshared call now redisNow) (hlatest : s.Latest call.key now) :
    (recent now (call.windowSeconds : ℚ) (s.accepted call.key)).length ≤
      (s.execute call now redisNow).1 := by
  refine length_recent_le ?_ ?_
  · have hapart := h.distinct.filter fun t => decide (now - (call.windowSeconds : ℚ) < t)
    refine hapart.imp_of_mem fun {a b} ha _ hne => hne ⟨now, hlatest, ?_⟩
    exact (mem_recent.mp ha).2
  · intro t ht hyoung
    exact hunshared.keeps (h.recorded t ht ⟨now, hlatest, hyoung⟩) hyoung

/-- A call that found room is allowed. -/
theorem Limiter.Sound.allow (h : s.Sound call.key limit call.windowSeconds pending)
    (hunshared : s.Unshared call now redisNow) (hlatest : s.Latest call.key now)
    (hroom : (s.execute call now redisNow).1 < limit) :
    ((s.execute call now redisNow).2.answer ⟨call, now, .allowed⟩).Sound call.key limit
      call.windowSeconds pending := by
  obtain ⟨hsound, hnobody⟩ := h.execute hunshared hlatest
  have haccepted : ((s.execute call now redisNow).2.answer ⟨call, now, .allowed⟩).accepted
      call.key = s.accepted call.key ++ [now] := by
    simp [Limiter.accepted, Limiter.answer, Limiter.execute]
  constructor
  · rw [haccepted]
    exact h.bounded.snoc ((h.recent_le hunshared hlatest).trans_lt hroom)
  -- every answer that still matters has its entry, the new one included
  · intro a ha hmatters
    rw [haccepted, List.mem_append, List.mem_singleton] at ha
    rcases ha with ha | rfl
    · exact hsound.recorded a ha hmatters
    · show a ∈ (s.execute call a redisNow).2.entries call.key
      rw [hunshared.entries_execute]
      exact List.mem_append_right _ List.mem_cons_self
  · rw [haccepted]
    refine List.pairwise_append.mpr ⟨hsound.distinct, List.pairwise_singleton _ _, ?_⟩
    intro a ha b hb hmatters hsame
    -- the reading of this call is that of no earlier answer
    obtain rfl := (List.mem_singleton.mp hb).symm.trans hsame.symm
    exact (hnobody hmatters).1 ha
  · intro i t hi hmatters
    obtain ⟨hentry, hnot⟩ := hsound.held i t hi hmatters
    refine ⟨hentry, ?_⟩
    rw [haccepted, List.mem_append, List.mem_singleton]
    rintro (ha | rfl)
    · exact hnot ha
    · exact (hnobody hmatters).2 i hi
  · intro i j t hi hj hmatters
    exact hsound.apart i j t hi hj hmatters
  · intro hlong i t hi
    rw [haccepted, List.mem_append, List.mem_singleton]
    rintro (ha | rfl)
    · exact h.rejected hlong i t hi ha
    · exact (hnobody (Limiter.current_execute hlatest hlong)).2 i hi

/-- A call over the limit has its entry to take out. -/
theorem Limiter.Sound.reject (h : s.Sound call.key limit call.windowSeconds pending)
    (hunshared : s.Unshared call now redisNow) (hlatest : s.Latest call.key now) (i : ℕ) :
    (s.execute call now redisNow).2.Sound call.key limit call.windowSeconds
      (Function.update pending i (some now)) := by
  obtain ⟨hsound, hnobody⟩ := h.execute hunshared hlatest
  -- the rejected call is pending now, and the others are as before
  have split : ∀ j t, Function.update pending i (some now) j = some t →
      (j = i ∧ t = now) ∨ (j ≠ i ∧ pending j = some t) := by
    intro j t hj
    by_cases hji : j = i
    · subst hji
      rw [Function.update_self] at hj
      exact Or.inl ⟨rfl, (Option.some.inj hj).symm⟩
    · rw [Function.update_of_ne hji] at hj
      exact Or.inr ⟨hji, hj⟩
  refine ⟨hsound.bounded, hsound.recorded, hsound.distinct, ?_, ?_, ?_⟩
  · intro j t hj hmatters
    rcases split j t hj with ⟨-, rfl⟩ | ⟨-, hold⟩
    · refine ⟨?_, (hnobody hmatters).1⟩
      rw [hunshared.entries_execute]
      exact List.mem_append_right _ List.mem_cons_self
    · exact hsound.held j t hold hmatters
  · intro j k t hj hk hmatters
    rcases split j t hj with ⟨rfl, rfl⟩ | ⟨-, hold⟩
    · rcases split k t hk with ⟨rfl, -⟩ | ⟨-, hold'⟩
      · rfl
      · exact absurd hold' ((hnobody hmatters).2 k)
    · rcases split k t hk with ⟨rfl, rfl⟩ | ⟨-, hold'⟩
      · exact absurd hold ((hnobody hmatters).2 j)
      · exact hsound.apart j k t hold hold' hmatters
  · intro hlong j t hj
    rcases split j t hj with ⟨-, rfl⟩ | ⟨-, hold⟩
    · exact (hnobody (Limiter.current_execute hlatest hlong)).1
    · exact h.rejected hlong j t hold

/-- Taking an entry out takes out nobody else's. -/
theorem Limiter.Sound.remove (h : s.Sound key limit windowSeconds pending) {i : ℕ} {t : ℚ}
    (hi : pending i = some t) :
    (s.remove key t).Sound key limit windowSeconds (Function.update pending i none) := by
  have hentries : ∀ m, m ∈ (s.remove key t).entries key ↔ m ∈ s.entries key ∧ m ≠ t := by
    intro m
    simp [Limiter.entries, Limiter.remove, RateWindow.remove]
  have hpending : ∀ j u, Function.update pending i none j = some u →
      j ≠ i ∧ pending j = some u := by
    intro j u hj
    by_cases hji : j = i
    · subst hji
      rw [Function.update_self] at hj
      cases hj
    · rw [Function.update_of_ne hji] at hj
      exact ⟨hji, hj⟩
  refine ⟨h.bounded, ?_, h.distinct, ?_, ?_, ?_⟩
  -- the entry of an allowed call is none that is being taken out
  · intro a ha hmatters
    refine (hentries a).mpr ⟨h.recorded a ha hmatters, ?_⟩
    rintro rfl
    exact (h.held i a hi hmatters).2 ha
  · intro j u hj hmatters
    obtain ⟨hne, hold⟩ := hpending j u hj
    obtain ⟨hentry, hnot⟩ := h.held j u hold hmatters
    refine ⟨(hentries u).mpr ⟨hentry, ?_⟩, hnot⟩
    rintro rfl
    exact hne (h.apart j i u hold hi hmatters)
  · intro j k u hj hk hmatters
    exact h.apart j k u (hpending j u hj).2 (hpending k u hk).2 hmatters
  · intro hlong j u hj
    exact h.rejected hlong j u (hpending j u hj).2

end Commands

/-! ## Runs

Only the calls under the key matter; any other command leaves its entries alone. -/

/-- The entry a call has to take out under a key. -/
def RateSession.pending (key : String) (t : RateSession) : Option ℚ :=
  match t.phase with
  | .called => none
  | .rejecting now => if t.call.key = key then some now else none

/-- The entries the calls in flight have to take out under a key. -/
def pendingOf (key : String) (p : Pool Limiter RateSession) (i : ℕ) : Option ℚ :=
  (p.session i).bind (RateSession.pending key)

/-- What the bound is about: all calls under the key have the one limit and the one
window, and their readings do not go backwards. -/
structure RateSession.Regular (key : String) (limit windowSeconds : ℕ) (s : Limiter)
    (t : RateSession) (tick : RateTick) : Prop where
  limit_eq : t.call.key = key → t.call.limit = limit
  window_eq : t.call.key = key → t.call.windowSeconds = windowSeconds
  latest : t.call.key = key → t.phase = .called → tick.reply ≠ .refused → s.Latest key tick.now

/-- Its condition: each pipeline under the key finds no entry that bears its reading, and
not a key that Redis dropped too early. -/
def RateSession.Unshared (key : String) (s : Limiter) (t : RateSession) (tick : RateTick) :
    Prop :=
  t.call.key = key → t.phase = .called → tick.reply ≠ .refused →
    s.Unshared t.call tick.now tick.redisNow

/-- The guard of the pool: the call is one of those the bound is about, its reading is its own,
and the key is not dropped too early. -/
def rateGuard (key : String) (limit windowSeconds : ℕ) (s : Limiter) (t : RateSession)
    (tick : RateTick) : Prop :=
  t.Regular key limit windowSeconds s tick ∧ t.Unshared key s tick

/-- The next command of a call is part of a rejection. -/
def RateSession.rejects (s : Limiter) (t : RateSession) (tick : RateTick) : Bool :=
  match t.phase with
  | .called =>
      tick.reply = .answered &&
        t.call.limit ≤ (s.execute t.call tick.now tick.redisNow).1
  | .rejecting _ => true

/-- The reading of a call. -/
def RateSession.reading (t : RateSession) (tick : RateTick) : ℚ :=
  match t.phase with
  | .called => tick.now
  | .rejecting now => now

section Runs

variable {key : String} {limit windowSeconds : ℕ}

/-- What is pending when one session moves. -/
theorem pendingOf_assign (p : Pool Limiter RateSession) (s : Limiter) (i : ℕ)
    (o : Option RateSession) :
    pendingOf key (p.assign s i o) =
      Function.update (pendingOf key p) i (o.bind (RateSession.pending key)) := by
  funext j
  by_cases hji : j = i
  · subst hji
    simp [pendingOf]
  · simp [pendingOf, Pool.assign_session_of_ne p s o hji, Function.update_of_ne hji]

/-- An entry is no longer pending when its session ends or has none. -/
theorem update_none_le {pending : ℕ → Option ℚ} {i : ℕ} (j : ℕ) (t : ℚ)
    (h : Function.update pending i none j = some t) : pending j = some t := by
  by_cases hji : j = i
  · subst hji
    rw [Function.update_self] at h
    cases h
  · rwa [Function.update_of_ne hji] at h

/-- A command of a call under another key leaves a key alone. -/
theorem RateCall.step_other {call : RateCall} (s : Limiter) (tick : RateTick)
    (phase : RatePhase) (hkey : call.key ≠ key) :
    (call.step s tick phase).1.windows (rateKey key) = s.windows (rateKey key) ∧
      (call.step s tick phase).1.readingsOf key = s.readingsOf key ∧
      (call.step s tick phase).1.accepted key = s.accepted key := by
  have hwindows : ∀ w, Function.update s.windows (rateKey call.key) w (rateKey key) =
      s.windows (rateKey key) := fun w => Limiter.entries_update w call.key (Ne.symm hkey)
  cases phase with
  | called =>
      simp only [RateCall.step]
      split
      · exact ⟨rfl, rfl, rfl⟩
      · exact ⟨hwindows _, by simp [Limiter.readingsOf, Limiter.execute, hkey], rfl⟩
      · split
        · exact ⟨hwindows _, by simp [Limiter.readingsOf, Limiter.execute, hkey], rfl⟩
        · exact ⟨hwindows _, by simp [Limiter.readingsOf, Limiter.execute, Limiter.answer, hkey],
            by simp [Limiter.accepted, Limiter.execute, Limiter.answer, hkey]⟩
  | rejecting now =>
      simp only [RateCall.step]
      split
      · exact ⟨rfl, rfl, rfl⟩
      · exact ⟨hwindows _, rfl, rfl⟩
      · exact ⟨hwindows _, rfl, by simp [Limiter.accepted, Limiter.remove, Limiter.answer, hkey]⟩

/-- One command keeps the limiter sound. -/
theorem RateCall.step_sound {s : Limiter} {call : RateCall} {phase : RatePhase}
    {tick : RateTick} {pending : ℕ → Option ℚ} {i : ℕ}
    (h : s.Sound key limit windowSeconds pending)
    (hpending : pending i = RateSession.pending key ⟨call, phase⟩)
    (hguard : rateGuard key limit windowSeconds s ⟨call, phase⟩ tick) :
    (call.step s tick phase).1.Sound key limit windowSeconds
      (Function.update pending i
        (((call.step s tick phase).2.map (RateSession.mk call)).bind
          (RateSession.pending key))) := by
  by_cases hkey : call.key = key
  · subst hkey
    obtain ⟨hregular, hcondition⟩ := hguard
    obtain rfl : call.limit = limit := hregular.limit_eq rfl
    obtain rfl : call.windowSeconds = windowSeconds := hregular.window_eq rfl
    have forget : ∀ {s' : Limiter}, s'.Sound call.key call.limit call.windowSeconds pending →
        s'.Sound call.key call.limit call.windowSeconds (Function.update pending i none) :=
      fun hsound => hsound.congr rfl rfl rfl update_none_le
    cases phase with
    | called =>
        cases hreply : tick.reply with
        | refused =>
            simp only [RateCall.step, hreply]
            exact forget h
        | lost =>
            have hlatest := hregular.latest rfl rfl (by simp [hreply])
            have hunshared := hcondition rfl rfl (by simp [hreply])
            simp only [RateCall.step, hreply]
            exact forget (h.execute hunshared hlatest).1
        | answered =>
            have hlatest := hregular.latest rfl rfl (by simp [hreply])
            have hunshared := hcondition rfl rfl (by simp [hreply])
            simp only [RateCall.step, hreply]
            split
            · simpa [RateSession.pending] using h.reject hunshared hlatest i
            · rename_i hroom
              exact forget (h.allow hunshared hlatest (not_le.mp hroom))
    | rejecting now =>
        have hi : pending i = some now := by rw [hpending]; simp [RateSession.pending]
        cases hreply : tick.reply with
        | refused =>
            simp only [RateCall.step, hreply]
            exact forget h
        | lost =>
            simp only [RateCall.step, hreply]
            exact h.remove hi
        | answered =>
            simp only [RateCall.step, hreply]
            refine (h.remove hi).congr rfl rfl ?_ fun _ _ hj => hj
            simp [Limiter.accepted, Limiter.answer, RateCall.exceeded]
  · obtain ⟨hwindows, hreadings, haccepted⟩ := RateCall.step_other s tick phase hkey
    refine h.congr hwindows hreadings haccepted fun j t hj => ?_
    -- neither before nor after has the session an entry under this key
    refine update_none_le (i := i) j t ?_
    have hnone : ((call.step s tick phase).2.map (RateSession.mk call)).bind
        (RateSession.pending key) = none := by
      cases (call.step s tick phase).2 with
      | none => rfl
      | some phase' => cases phase' <;> simp [RateSession.pending, hkey]
    rwa [hnone] at hj

/-- The limiter is sound under a key, with what the calls in flight have to take out. -/
def SoundUnder (key : String) (limit windowSeconds : ℕ) (p : Pool Limiter RateSession) : Prop :=
  p.store.Sound key limit windowSeconds (pendingOf key p)

/-- A step of the pool keeps it so. -/
theorem soundUnder_step {p p' : Pool Limiter RateSession} {a : PoolAct RateCall RateTick}
    (hstep : isAllowed.machine.step p a = some p')
    (hguard : Pool.StepMeets (rateGuard key limit windowSeconds) p a)
    (h : SoundUnder key limit windowSeconds p) : SoundUnder key limit windowSeconds p' := by
  cases a with
  | begin i call =>
      simp only [Sessions.machine] at hstep
      split at hstep
      · obtain rfl := Option.some.inj hstep
        unfold SoundUnder
        rw [pendingOf_assign]
        exact h.congr rfl rfl rfl update_none_le
      · cases hstep
  | crash i =>
      obtain rfl := Option.some.inj hstep
      unfold SoundUnder
      rw [pendingOf_assign]
      exact h.congr rfl rfl rfl update_none_le
  | advance i tick =>
      obtain ⟨⟨call, phase⟩, ht, hrest⟩ := Option.bind_eq_some_iff.mp hstep
      obtain ⟨⟨s', o⟩, hadv, rfl⟩ := Option.map_eq_some_iff.mp hrest
      obtain ⟨rfl, rfl⟩ := Prod.mk.inj (Option.some.inj hadv)
      unfold SoundUnder
      rw [pendingOf_assign, Pool.assign_store]
      refine RateCall.step_sound h ?_ ((Pool.stepMeets_advance ht).mp hguard)
      simp [pendingOf, ht]

/-- Before the first call. -/
theorem soundUnder_quiet : SoundUnder key limit windowSeconds (Pool.quiet Limiter.start) where
  bounded := bounded_nil limit _
  recorded a ha := by cases ha
  distinct := List.Pairwise.nil
  held i t hi := by cases hi
  apart i j t hi := by cases hi
  rejected _ i t hi := by cases hi

/-- A rejection leaves the record of the allowed calls alone. -/
theorem recorded_step {p : Pool Limiter RateSession} (h : SoundUnder key limit windowSeconds p)
    {i : ℕ} {t : RateSession} {tick : RateTick} (ht : p.session i = some t)
    (hkey : t.call.key = key) (hguard : rateGuard key limit windowSeconds p.store t tick)
    (hrejects : t.rejects p.store tick = true) :
    (t.call.step p.store tick t.phase).1.recorded key (t.reading tick - windowSeconds) =
      p.store.recorded key (t.reading tick - windowSeconds) := by
  obtain ⟨call, phase⟩ := t
  obtain rfl : call.key = key := hkey
  obtain ⟨hregular, hcondition⟩ := hguard
  obtain rfl : call.windowSeconds = windowSeconds := hregular.window_eq rfl
  cases phase with
  | called =>
      simp only [RateSession.rejects, Bool.and_eq_true, decide_eq_true_eq] at hrejects
      obtain ⟨hreply, hover⟩ := hrejects
      have hlatest : p.store.Latest call.key tick.now :=
        hregular.latest rfl rfl (by simp [hreply])
      have hunshared : p.store.Unshared call tick.now tick.redisNow :=
        hcondition rfl rfl (by simp [hreply])
      simp only [RateCall.step, hreply, if_pos hover]
      refine List.filter_congr fun a ha => ?_
      rw [decide_eq_decide]
      refine and_congr_right fun hyoung => ?_
      rw [hunshared.entries_execute, List.mem_append, List.mem_singleton]
      constructor
      · rintro (hkept | rfl)
        · exact RateWindow.mem_entries_of_live (RateWindow.mem_trimmed hkept)
        · exact h.recorded _ ha ⟨tick.now, hlatest, hyoung⟩
      · exact fun hentry => Or.inl (hunshared.keeps hentry hyoung)
  | rejecting now =>
      have hpending : pendingOf call.key p i = some now := by
        simp [pendingOf, ht, RateSession.pending]
      -- its own entry is no allowed call's
      have hown : ∀ a ∈ p.store.accepted call.key, now - call.windowSeconds < a → a ≠ now := by
        rintro a ha hyoung rfl
        refine h.rejected ?_ i a hpending ha
        have hpos : (0 : ℚ) < call.windowSeconds := (sub_lt_self_iff a).mp hyoung
        exact_mod_cast hpos
      have hremoved : (p.store.remove call.key now).recorded call.key
          (now - call.windowSeconds) = p.store.recorded call.key (now - call.windowSeconds) := by
        refine List.filter_congr fun a ha => ?_
        rw [decide_eq_decide]
        refine and_congr_right fun hyoung => ?_
        have hne := hown a ha hyoung
        simp [Limiter.entries, Limiter.remove, RateWindow.remove, hne]
      show (call.step p.store tick (.rejecting now)).1.recorded call.key
        (now - call.windowSeconds) = p.store.recorded call.key (now - call.windowSeconds)
      cases hreply : tick.reply with
      | refused => simp only [RateCall.step, hreply]
      | lost =>
          simp only [RateCall.step, hreply]
          exact hremoved
      | answered =>
          simp only [RateCall.step, hreply]
          refine Eq.trans ?_ hremoved
          simp [Limiter.recorded, Limiter.accepted, Limiter.answer, Limiter.entries,
            Limiter.remove, RateCall.exceeded]

end Runs

/-- **The window bound.**  In every run in which the calls under a key have one limit and
one window, their readings do not go backwards and no pipeline finds its reading taken or
the key dropped too early: no half-open window holds more allowed calls than the limit,
and no command of a rejected call touches the record of the allowed ones in its window. -/
theorem window_bound_holds {key : String} {limit windowSeconds : ℕ}
    {acts : List (PoolAct RateCall RateTick)} {p : Pool Limiter RateSession}
    (run : Run isAllowed.machine (Pool.StepMeets (rateGuard key limit windowSeconds))
      (Pool.quiet Limiter.start) acts p) :
    Bounded limit (windowSeconds : ℚ) (p.store.accepted key) ∧
      ∀ i t tick p', p.session i = some t → t.call.key = key →
        isAllowed.machine.step p (.advance i tick) = some p' →
        rateGuard key limit windowSeconds p.store t tick → t.rejects p.store tick = true →
        p'.store.recorded key (t.reading tick - windowSeconds) =
          p.store.recorded key (t.reading tick - windowSeconds) := by
  have hsound : SoundUnder key limit windowSeconds p :=
    run.preserves (fun _ _ _ hstep hguard h => soundUnder_step hstep hguard h) soundUnder_quiet
  refine ⟨hsound.bounded, ?_⟩
  intro i t tick p' ht hkey hstep hguard hrejects
  obtain ⟨u, hu, hrest⟩ := Option.bind_eq_some_iff.mp hstep
  obtain rfl := Option.some.inj (ht.symm.trans hu)
  obtain ⟨⟨s', o⟩, hadv, rfl⟩ := Option.map_eq_some_iff.mp hrest
  obtain ⟨rfl, rfl⟩ := Prod.mk.inj (Option.some.inj hadv)
  exact recorded_step hsound ht hkey hguard hrejects

/-! ## Calls that read one time -/

/-- A call of the sample key: one request a minute. -/
def sampleRateCall : RateCall := ⟨"ip:203.0.113.7", 1, 60⟩

/-- A command at a reading, with Redis answering at the same time. -/
def rateStep (i : ℕ) (now : ℚ) : PoolAct RateCall RateTick := .advance i ⟨now, now, .answered⟩

/-- The test of a regular step. -/
def regularTest (s : Limiter) (t : RateSession) (tick : RateTick) : Bool :=
  decide (t.call.limit = 1 ∧ t.call.windowSeconds = 60) &&
    (s.readingsOf sampleRateCall.key).all (· ≤ tick.now)

/-- The test is of a regular step. -/
theorem regularTest_spec (s : Limiter) (t : RateSession) (tick : RateTick)
    (h : regularTest s t tick = true) : t.Regular sampleRateCall.key 1 60 s tick := by
  simp only [regularTest, Bool.and_eq_true, decide_eq_true_eq, List.all_eq_true] at h
  obtain ⟨⟨hlimit, hwindow⟩, hlatest⟩ := h
  exact ⟨fun _ => hlimit, fun _ => hwindow, fun _ _ _ => hlatest⟩

/-- The test of a guarded step. -/
def rateTest (s : Limiter) (t : RateSession) (tick : RateTick) : Bool :=
  regularTest s t tick &&
    (t.phase ≠ .called ||
      decide (tick.now ∉ (s.windows (rateKey t.call.key)).live tick.redisNow) &&
        (tick.redisNow < (s.windows (rateKey t.call.key)).expiresAt ||
          (s.entries t.call.key).all (· ≤ tick.now - t.call.windowSeconds)))

/-- The test is of a guarded step. -/
theorem rateTest_spec (s : Limiter) (t : RateSession) (tick : RateTick)
    (h : rateTest s t tick = true) : rateGuard sampleRateCall.key 1 60 s t tick := by
  simp only [rateTest, Bool.and_eq_true] at h
  refine ⟨regularTest_spec s t tick h.1, fun _ hphase _ => ?_⟩
  have hcondition := h.2
  simp only [hphase, ne_eq, not_true_eq_false, decide_false, Bool.false_or, Bool.and_eq_true,
    Bool.or_eq_true, decide_eq_true_eq, List.all_eq_true] at hcondition
  refine ⟨hcondition.1, fun hexpired => ?_⟩
  rcases hcondition.2 with hlive | hold
  · exact absurd hlive (not_lt.mpr hexpired)
  · exact hold

/-- A call that is allowed, one that is rejected half a minute later, and one that is
allowed after a minute. -/
def apartReadings : List (PoolAct RateCall RateTick) :=
  [.begin 0 sampleRateCall, rateStep 0 0, .begin 1 sampleRateCall, rateStep 1 30, rateStep 1 30,
    .begin 2 sampleRateCall, rateStep 2 60]

/-- The bound on the run in which every call has a reading of its own. -/
theorem window_bound_apart : ∃ p,
    Run isAllowed.machine (Pool.StepMeets (rateGuard sampleRateCall.key 1 60))
        (Pool.quiet Limiter.start) apartReadings p ∧
      p.store.accepted sampleRateCall.key = [0, 60] ∧
      Bounded 1 ((60 : ℕ) : ℚ) (p.store.accepted sampleRateCall.key) := by
  have hrun : (isAllowed.machine.check (Pool.stepTest rateTest) (Pool.quiet Limiter.start)
      apartReadings).map (fun p => p.store.accepted sampleRateCall.key) = some [0, 60] := by
    decide +kernel
  obtain ⟨p, hcheck, haccepted⟩ := Option.map_eq_some_iff.mp hrun
  have run := Run.of_stepTest rateTest_spec hcheck
  exact ⟨p, run, haccepted, (window_bound_holds run).1⟩

/-- A call that is allowed, and a second one at the same reading, which is rejected. -/
def oneReading : List (PoolAct RateCall RateTick) :=
  [.begin 0 sampleRateCall, rateStep 0 0, .begin 1 sampleRateCall, rateStep 1 0, rateStep 1 0]

/-- A third one. -/
def thirdCall : List (PoolAct RateCall RateTick) := [.begin 2 sampleRateCall, rateStep 2 0]

/-- The rejected call takes the record of the allowed one out, and the third call is
allowed in the same minute. -/
theorem window_bound_broken : ∃ mid p,
    Run isAllowed.machine
      (Pool.StepMeets (fun s t tick => t.Regular sampleRateCall.key 1 60 s tick))
      (Pool.quiet Limiter.start) oneReading mid ∧
      mid.store.accepted sampleRateCall.key = [0] ∧
      mid.store.recorded sampleRateCall.key (-60) = [] ∧
      Run isAllowed.machine
        (Pool.StepMeets (fun s t tick => t.Regular sampleRateCall.key 1 60 s tick))
        mid thirdCall p ∧
      ¬ Bounded 1 ((60 : ℕ) : ℚ) (p.store.accepted sampleRateCall.key) := by
  have hafter : (isAllowed.machine.check (Pool.stepTest regularTest) (Pool.quiet Limiter.start)
      (oneReading ++ thirdCall)).map (fun p => p.store.accepted sampleRateCall.key) =
        some [0, 0] := by
    decide +kernel
  have hbefore : (isAllowed.machine.check (Pool.stepTest regularTest) (Pool.quiet Limiter.start)
      oneReading).map (fun p => (p.store.accepted sampleRateCall.key,
        p.store.recorded sampleRateCall.key (-60))) = some ([0], []) := by
    decide +kernel
  obtain ⟨p, hcheck, haccepted⟩ := Option.map_eq_some_iff.mp hafter
  obtain ⟨mid', hfront, hreached⟩ := Option.map_eq_some_iff.mp hbefore
  obtain ⟨hone, hnone⟩ := Prod.mk.inj hreached
  obtain ⟨mid, hfirst, hthird⟩ := (Run.of_stepTest regularTest_spec hcheck).split
  obtain rfl := (Run.of_stepTest regularTest_spec hfront).functional hfirst
  refine ⟨mid', p, hfirst, hone, hnone, hthird, fun hbounded => ?_⟩
  have htwo := hbounded 0
  rw [haccepted] at htwo
  exact absurd htwo (by decide +kernel)

end AfricaFrontier
