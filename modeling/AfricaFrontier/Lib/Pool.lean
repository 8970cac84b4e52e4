import AfricaFrontier.Lib.Run
import Mathlib.Data.Nat.Notation
import Mathlib.Logic.Function.Basic

/-!
# Pools of sessions over a shared store

The concurrency of a request-serving program: any number of sessions, each with
its own local state, over one store they all read and write.  A session moves in
atomic steps — one statement against the store, or one exchange with a remote
party — and between two of its steps any number of steps of other sessions may
happen.  A session may also stop for good at any point: a crashed process, a
dropped connection, a cancelled task.

* `Sessions` gives the atomic step of one session; `Sessions.sum` lets two kinds
  of sessions share the store.
* `Sessions.machine` is the pool as a `Machine`: open a session for a request,
  let a session take its next step, crash a session.
* `Outline` is the proof rule (the Owicki–Gries shape): a global assertion, an
  assertion about each session against the store, and an assertion about each
  pair of sessions, such that every step keeps its own assertions and disturbs
  nobody else's.  `Outline.run` concludes that a run keeps all three.

Sessions are put together and taken apart by constructions, each with a lemma that says what an
`advance` of the result is in terms of its parts.

* `Sessions.sum` and `Sessions.lift`: several kinds of sessions, or sessions over a part of a
  larger store.
* `Sessions.traced` and `Sessions.watched`: a record of what goes out, or any other ghost beside
  the store; the pool takes the same steps without it (`Run.unwatched`).
* `Sessions.tagged` and `Sessions.translated`: requests that carry more, or are worked out first.
* `Simulates`: one pool does the work of another, some of its steps doing none of it.

Runs on fixed inputs are computed with `Machine.check`, a guard being decided by a test of the
step that is taken (`Pool.stepTest`, `Run.of_stepTest`).
-/

namespace Transition

universe u v w z x y

/-- One kind of session: how a request opens it, and its atomic step on the store
and its local state, given the environment's input for that step.  The step is
`none` when the input does not fit the session's next statement; a session that
returns `none` as its new local state has ended. -/
structure Sessions (σ : Type u) (ρ : Type v) (τ : Type w) (ι : Type z) where
  /-- The local state a request starts in. -/
  init : ρ → τ
  /-- The next atomic step. -/
  advance : σ → τ → ι → Option (σ × Option τ)

/-- An assertion about the outcome of a step, carried over to the names it has in the step. -/
theorem Sessions.own_of_eq {σ : Type u} {τ : Type w} {L : σ → τ → Prop} {s s' : σ} {t t' : τ}
    (hsame : (s, some t) = (s', some t')) (h : L s t) : L s' t' := by
  obtain ⟨rfl, hlocal⟩ := Prod.mk.inj hsame
  obtain rfl := Option.some.inj hlocal
  exact h

/-- The store together with the sessions in flight. -/
structure Pool (σ : Type u) (τ : Type w) where
  store : σ
  session : ℕ → Option τ

/-- What can happen next in a pool. Any session may be the next one to move, and any may stop for
good between two of its steps. -/
inductive PoolAct (ρ : Type v) (ι : Type z)
  /-- A request arrives and opens the session `i`. -/
  | begin (i : ℕ) (request : ρ)
  /-- The session `i` takes its next atomic step. -/
  | advance (i : ℕ) (input : ι)
  /-- The session `i` stops for good. -/
  | crash (i : ℕ)

variable {σ : Type u} {ρ ρ' : Type v} {τ τ' : Type w} {ι ι' : Type z}

/-- The pool with nobody in flight. -/
def Pool.quiet (s : σ) : Pool σ τ where
  store := s
  session := fun _ => none

/-- Replace the local state of the session `i`. -/
def Pool.assign (p : Pool σ τ) (s : σ) (i : ℕ) (o : Option τ) : Pool σ τ where
  store := s
  session := Function.update p.session i o

/-- After a step the store is the given one. -/
@[simp] theorem Pool.assign_store (p : Pool σ τ) (s : σ) (i : ℕ) (o : Option τ) :
    (p.assign s i o).store = s := rfl

/-- The session that moved has its new state. -/
@[simp] theorem Pool.assign_session_self (p : Pool σ τ) (s : σ) (i : ℕ) (o : Option τ) :
    (p.assign s i o).session i = o := by
  simp [Pool.assign]

/-- The other sessions have the states they had. -/
theorem Pool.assign_session_of_ne (p : Pool σ τ) (s : σ) {i j : ℕ} (o : Option τ)
    (hne : j ≠ i) : (p.assign s i o).session j = p.session j := by
  simp [Pool.assign, Function.update_of_ne hne]

/-- The pool of sessions as a transition system. -/
def Sessions.machine (S : Sessions σ ρ τ ι) : Machine (Pool σ τ) (PoolAct ρ ι) where
  step p
    | .begin i request =>
        if (p.session i).isNone then some (p.assign p.store i (some (S.init request)))
        else none
    | .advance i input =>
        (p.session i).bind fun t =>
          (S.advance p.store t input).map fun r => p.assign r.1 i r.2
    | .crash i => some (p.assign p.store i none)

/-! ### A session left alone

Where nobody else moves, the statements of a session make up one function of the store. -/

/-- Taking its steps under one input with nobody in between, a session in `t` ends and
leaves `s'` in the store. -/
inductive Sessions.Solo (S : Sessions σ ρ τ ι) (x : ι) : σ → τ → σ → Prop
  | last {s s' : σ} {t : τ} (h : S.advance s t x = some (s', none)) : Solo S x s t s'
  | next {s s₁ s' : σ} {t t₁ : τ} (h : S.advance s t x = some (s₁, some t₁))
      (rest : Solo S x s₁ t₁ s') : Solo S x s t s'

/-- What a session does alone, it does in a pool in which nobody else moves. -/
theorem Sessions.Solo.run {S : Sessions σ ρ τ ι} {x : ι} {s s' : σ} {t : τ}
    (h : S.Solo x s t s') {p : Pool σ τ} {i : ℕ} (hstore : p.store = s)
    (hsession : p.session i = some t) :
    ∃ n p', Run S.machine Unguarded p (List.replicate n (.advance i x)) p' ∧ p'.store = s' ∧
      p'.session i = none := by
  induction h generalizing p with
  | @last s s' t h =>
      have hstep : S.machine.step p (.advance i x) = some (p.assign s' i none) := by
        simp [Sessions.machine, hsession, hstore, h]
      exact ⟨1, _, Run.cons hstep trivial (Run.nil _), rfl, Pool.assign_session_self _ _ _ _⟩
  | @next s s₁ s' t t₁ h _ ih =>
      have hstep : S.machine.step p (.advance i x) = some (p.assign s₁ i (some t₁)) := by
        simp [Sessions.machine, hsession, hstore, h]
      obtain ⟨n, p', run, hstore', hsession'⟩ := ih (Pool.assign_store p s₁ i (some t₁))
        (Pool.assign_session_self p s₁ i (some t₁))
      exact ⟨n + 1, p', Run.cons hstep trivial run, hstore', hsession'⟩

/-- Where `n` steps under one input bring a session that is left alone. -/
def Sessions.after (S : Sessions σ ρ τ ι) (x : ι) : ℕ → σ → τ → Option (σ × τ)
  | 0, s, t => some (s, t)
  | n + 1, s, t =>
      (S.advance s t x).bind fun r => r.2.bind fun t' => Sessions.after S x n r.1 t'

/-- It comes there in a pool as well. -/
theorem Sessions.after_run {S : Sessions σ ρ τ ι} {x : ι} {n : ℕ} {s s' : σ} {t t' : τ}
    (h : S.after x n s t = some (s', t')) {p : Pool σ τ} {i : ℕ} (hstore : p.store = s)
    (hsession : p.session i = some t) :
    ∃ p', Run S.machine Unguarded p (List.replicate n (.advance i x)) p' ∧ p'.store = s' ∧
      p'.session i = some t' ∧ ∀ j, j ≠ i → p'.session j = p.session j := by
  induction n generalizing p s t with
  | zero =>
      obtain ⟨rfl, rfl⟩ := Prod.mk.inj (Option.some.inj h)
      exact ⟨p, Run.nil p, hstore, hsession, fun _ _ => rfl⟩
  | succ n ih =>
      obtain ⟨⟨s₁, o⟩, hadv, hrest⟩ := Option.bind_eq_some_iff.mp h
      obtain ⟨t₁, rfl, hafter⟩ := Option.bind_eq_some_iff.mp hrest
      have hstep : S.machine.step p (.advance i x) = some (p.assign s₁ i (some t₁)) := by
        simp [Sessions.machine, hsession, hstore, hadv]
      obtain ⟨p', run, hstore', hsession', hothers⟩ := ih hafter (Pool.assign_store p s₁ i _)
        (Pool.assign_session_self p s₁ i _)
      refine ⟨p', Run.cons hstep trivial run, hstore', hsession', fun j hne => ?_⟩
      rw [hothers j hne, Pool.assign_session_of_ne p s₁ _ hne]

/-! ### The requests of a run -/

/-- The request that arrives in an act, if one does. -/
def PoolAct.arrival : PoolAct ρ ι → Option ρ
  | .begin _ request => some request
  | .advance _ _ => none
  | .crash _ => none

/-- The requests of a run, in the order of their arrival. A session may take long after its
request; the list does not say when it moves. -/
def requestsOf (as : List (PoolAct ρ ι)) : List ρ := as.filterMap PoolAct.arrival

/-- Requests that arrive one after the other, in sessions of their own from `k` on. -/
def arrivals (ι : Type z) : ℕ → List ρ → List (PoolAct ρ ι)
  | _, [] => []
  | k, request :: requests => .begin k request :: arrivals ι (k + 1) requests

/-- What arrives in a row. -/
theorem requestsOf_arrivals (k : ℕ) (requests : List ρ) :
    requestsOf (arrivals ι k requests) = requests := by
  induction requests generalizing k with
  | nil => rfl
  | cons request requests ih => exact congrArg (request :: ·) (ih (k + 1))

/-- Nothing arrives while a session goes on. -/
theorem requestsOf_advances (n i : ℕ) (x : ι) :
    requestsOf (List.replicate n (.advance i x : PoolAct ρ ι)) = [] := by
  induction n with
  | zero => rfl
  | succ n ih => exact ih

/-- Where there is room, they all arrive. -/
theorem Sessions.arrivals_run {S : Sessions σ ρ τ ι} (requests : List ρ) {p : Pool σ τ} {k : ℕ}
    (hfree : ∀ j, k ≤ j → p.session j = none) :
    ∃ p', Run S.machine Unguarded p (arrivals ι k requests) p' ∧ p'.store = p.store ∧
      (∀ j, j < k → p'.session j = p.session j) ∧
      ∀ n request, requests[n]? = some request →
        p'.session (k + n) = some (S.init request) := by
  induction requests generalizing p k with
  | nil => exact ⟨p, Run.nil p, rfl, fun _ _ => rfl, fun n request h => by cases h⟩
  | cons first requests ih =>
      have hstep : S.machine.step p (.begin k first) =
          some (p.assign p.store k (some (S.init first))) := by
        simp only [Sessions.machine, hfree k (Nat.le_refl k), Option.isNone_none, if_true]
      have hroom : ∀ j, k + 1 ≤ j →
          (p.assign p.store k (some (S.init first))).session j = none := by
        intro j hj
        rw [p.assign_session_of_ne _ _ (by omega)]
        exact hfree j (by omega)
      obtain ⟨p', run, hstore, hbelow, hat⟩ := ih hroom
      refine ⟨p', Run.cons hstep trivial run, hstore, fun j hj => ?_, fun n request h => ?_⟩
      · rw [hbelow j (by omega), p.assign_session_of_ne _ _ (by omega)]
      -- the first request opens the session `k`, the others those behind it
      · cases n with
        | zero =>
            obtain rfl := Option.some.inj h
            rw [Nat.add_zero, hbelow k (by omega), p.assign_session_self]
        | succ n =>
            have hnext := hat n request h
            rwa [Nat.add_assoc, Nat.add_comm 1 n] at hnext

/-! ### Idle sessions

A condition on *all other* sessions is decided by looking at finitely many of
them, because a run only ever touches the sessions its labels name. -/

/-- The session an act is about. -/
def PoolAct.agent : PoolAct ρ ι → ℕ
  | .begin i _ => i
  | .advance i _ => i
  | .crash i => i

/-- Only the first `n` session ids are in use. -/
def Pool.Within (n : ℕ) (p : Pool σ τ) : Prop := ∀ j, n ≤ j → p.session j = none

/-- A session that is in use may move. -/
theorem Pool.Within.assign {n : ℕ} {p : Pool σ τ} (h : p.Within n) (s : σ) {i : ℕ}
    (hi : i < n) (o : Option τ) : (p.assign s i o).Within n := by
  intro j hj
  have hne : j ≠ i := by omega
  rw [p.assign_session_of_ne s o hne]
  exact h j hj

/-- A step of one of the first sessions stays within them. -/
theorem Pool.within_step {S : Sessions σ ρ τ ι} {n : ℕ} {p p' : Pool σ τ}
    {a : PoolAct ρ ι} (hstep : S.machine.step p a = some p') (ha : a.agent < n)
    (h : p.Within n) : p'.Within n := by
  cases a with
  | begin i request =>
      simp only [Sessions.machine] at hstep
      split at hstep
      · cases hstep
        exact h.assign _ ha _
      · cases hstep
  | advance i input =>
      obtain ⟨t, -, hrest⟩ := Option.bind_eq_some_iff.mp hstep
      obtain ⟨r, -, rfl⟩ := Option.map_eq_some_iff.mp hrest
      exact h.assign _ ha _
  | crash i =>
      cases hstep
      exact h.assign _ ha _

/-- A run that stays within the first `n` sessions may be guarded by what is then
known of all sessions. -/
theorem Run.within {S : Sessions σ ρ τ ι} {n : ℕ} {P : Pool σ τ → PoolAct ρ ι → Prop}
    {s : σ} {as : List (PoolAct ρ ι)} {p : Pool σ τ}
    (run : Run S.machine (fun p a => P p a ∧ a.agent < n) (Pool.quiet s) as p) :
    Run S.machine (fun p a => P p a ∧ p.Within n) (Pool.quiet s) as p := by
  have hquiet : (Pool.quiet s : Pool σ τ).Within n := fun _ _ => rfl
  have strong := run.strengthen (fun _ _ _ hstep hguard => Pool.within_step hstep hguard.2)
    hquiet
  exact strong.mono fun _ _ h => ⟨h.1.1, h.2⟩

/-- Every session but `i`, among the first `n`, meets `q`. -/
def Pool.othersMeet (n : ℕ) (q : τ → Bool) (i : ℕ) (p : Pool σ τ) : Bool :=
  (List.range n).all fun j => decide (j = i) || (p.session j).all q

/-- The test is of all other sessions. -/
theorem Pool.othersMeet_iff {n : ℕ} {q : τ → Bool} {i : ℕ} {p : Pool σ τ}
    (h : p.Within n) :
    p.othersMeet n q i = true ↔ ∀ j u, j ≠ i → p.session j = some u → q u = true := by
  constructor
  · intro hall j u hne hj
    have hlt : j < n := by
      by_contra hge
      rw [h j (Nat.le_of_not_lt hge)] at hj
      cases hj
    have hmet := List.all_eq_true.mp hall j (List.mem_range.mpr hlt)
    simpa [hne, hj] using hmet
  · intro hall
    refine List.all_eq_true.mpr fun j _ => ?_
    by_cases hne : j = i
    · simp [hne]
    · cases hj : p.session j with
      | none => simp
      | some u => simpa [hne] using hall j u hne hj

/-! ### Guards on the statements of sessions

Most guards look at one session, its next step and the store. -/

/-- A step of the pool opens or crashes a session, which leaves the store alone, or is the
next step of a session. -/
theorem Pool.step_cases {S : Sessions σ ρ τ ι} {p p' : Pool σ τ} {a : PoolAct ρ ι}
    (hstep : S.machine.step p a = some p') :
    ((∀ i x, a ≠ .advance i x) ∧ p'.store = p.store) ∨
      ∃ i x t s' o, a = .advance i x ∧ p.session i = some t ∧
        S.advance p.store t x = some (s', o) ∧ p' = p.assign s' i o := by
  cases a with
  | begin i request =>
      simp only [Sessions.machine] at hstep
      split at hstep
      · obtain rfl := Option.some.inj hstep
        exact Or.inl ⟨(fun _ _ h => nomatch h), rfl⟩
      · cases hstep
  | advance i x =>
      obtain ⟨t, ht, hrest⟩ := Option.bind_eq_some_iff.mp hstep
      obtain ⟨⟨s', o⟩, hadv, rfl⟩ := Option.map_eq_some_iff.mp hrest
      exact Or.inr ⟨i, x, t, s', o, rfl, ht, hadv, rfl⟩
  | crash i =>
      obtain rfl := Option.some.inj hstep
      exact Or.inl ⟨(fun _ _ h => nomatch h), rfl⟩

/-- The guard of a pool that only looks at the step a session takes, and asks nothing of arrivals
and crashes. -/
def Pool.StepMeets (P : σ → τ → ι → Prop) (p : Pool σ τ) (a : PoolAct ρ ι) : Prop :=
  ∀ i x t, a = .advance i x → p.session i = some t → P p.store t x

/-- The guard, for a session that is there. -/
theorem Pool.stepMeets_advance {P : σ → τ → ι → Prop} {p : Pool σ τ} {i : ℕ} {x : ι} {t : τ}
    (ht : p.session i = some t) :
    p.StepMeets P (.advance i x : PoolAct ρ ι) ↔ P p.store t x := by
  constructor
  · intro h
    exact h i x t rfl ht
  · rintro h j y u ⟨⟩ hu
    obtain rfl := Option.some.inj (ht.symm.trans hu)
    exact h

/-- A test of the step a session takes, for runs that are computed. -/
def Pool.stepTest (q : σ → τ → ι → Bool) (p : Pool σ τ) : PoolAct ρ ι → Bool
  | .advance i x => (p.session i).all fun t => q p.store t x
  | _ => true

/-- A computed run meets the guard its test decides. -/
theorem Run.of_stepTest {S : Sessions σ ρ τ ι} {P : σ → τ → ι → Prop} {q : σ → τ → ι → Bool}
    (hq : ∀ s t x, q s t x = true → P s t x) {p p' : Pool σ τ} {as : List (PoolAct ρ ι)}
    (h : S.machine.check (Pool.stepTest q) p as = some p') :
    Run S.machine (Pool.StepMeets P) p as p' := by
  refine (Run.of_check h).mono ?_
  rintro p a htest i x t rfl ht
  simp only [Pool.stepTest, ht, Option.all_some] at htest
  exact hq p.store t x htest

/-- **Exact guards of sessions.**  Where `P` says exactly that the step of a session keeps
`G` of the store, a run meets `P` throughout if and only if `G` holds of the store in every
state it reaches. -/
theorem Run.guarded_iff_store {S : Sessions σ ρ τ ι} {P : σ → τ → ι → Prop} {G : σ → Prop}
    (hexact : ∀ s t x s' o, S.advance s t x = some (s', o) → G s → (P s t x ↔ G s'))
    {p p' : Pool σ τ} {as : List (PoolAct ρ ι)} (run : Run S.machine Unguarded p as p')
    (start : G p.store) :
    Run S.machine (Pool.StepMeets P) p as p' ↔
      ∀ front back mid, as = front ++ back → Run S.machine Unguarded p front mid →
        G mid.store := by
  refine run.guarded_iff ?_ start
  intro p a p' hstep hG
  rcases Pool.step_cases hstep with ⟨hidle, hstore⟩ | ⟨i, x, t, s', o, rfl, ht, hadv, rfl⟩
  · rw [hstore]
    exact iff_of_true (fun i x _ h => absurd h (hidle i x)) hG
  · rw [Pool.stepMeets_advance ht, Pool.assign_store]
    exact hexact p.store t x s' o hadv hG

/-! ### Combining sessions -/

/-- Two kinds of sessions over one store. -/
def Sessions.sum (S : Sessions σ ρ τ ι) (T : Sessions σ ρ' τ' ι') :
    Sessions σ (ρ ⊕ ρ') (τ ⊕ τ') (ι ⊕ ι') where
  init := Sum.map S.init T.init
  advance s
    | .inl t, .inl x => (S.advance s t x).map (Prod.map id (Option.map Sum.inl))
    | .inr t, .inr x => (T.advance s t x).map (Prod.map id (Option.map Sum.inr))
    | _, _ => none

/-- A step of a session of the first kind is a step of that kind. -/
theorem Sessions.sum_advance_inl {S : Sessions σ ρ τ ι} {T : Sessions σ ρ' τ' ι'}
    {s : σ} {t : τ} {x : ι ⊕ ι'} {r : σ × Option (τ ⊕ τ')}
    (h : (S.sum T).advance s (.inl t) x = some r) :
    ∃ y s' o, x = .inl y ∧ S.advance s t y = some (s', o) ∧ r = (s', o.map Sum.inl) := by
  cases x with
  | inl y =>
      obtain ⟨⟨s', o⟩, hadv, rfl⟩ := Option.map_eq_some_iff.mp h
      exact ⟨y, s', o, rfl, hadv, rfl⟩
  | inr y => cases h

/-- A step of a session of the second kind is a step of that kind. -/
theorem Sessions.sum_advance_inr {S : Sessions σ ρ τ ι} {T : Sessions σ ρ' τ' ι'}
    {s : σ} {t : τ'} {x : ι ⊕ ι'} {r : σ × Option (τ ⊕ τ')}
    (h : (S.sum T).advance s (.inr t) x = some r) :
    ∃ y s' o, x = .inr y ∧ T.advance s t y = some (s', o) ∧ r = (s', o.map Sum.inr) := by
  cases x with
  | inl y => cases h
  | inr y =>
      obtain ⟨⟨s', o⟩, hadv, rfl⟩ := Option.map_eq_some_iff.mp h
      exact ⟨y, s', o, rfl, hadv, rfl⟩

/-- Sessions that know part of a larger store: `get` is the part they read, and `put`
enters what a step from the local state `t` left of it. -/
def Sessions.lift {κ : Type x} (S : Sessions σ ρ τ ι) (get : κ → σ) (put : κ → τ → σ → κ) :
    Sessions κ ρ τ ι where
  init := S.init
  advance k t input := (S.advance (get k) t input).map fun r => (put k t r.1, r.2)

/-- A lifted step is one on the part. -/
theorem Sessions.lift_advance {κ : Type x} {S : Sessions σ ρ τ ι} {get : κ → σ}
    {put : κ → τ → σ → κ} {k k' : κ} {t : τ} {input : ι} {o : Option τ}
    (h : (S.lift get put).advance k t input = some (k', o)) :
    ∃ s', S.advance (get k) t input = some (s', o) ∧ k' = put k t s' := by
  obtain ⟨⟨s', o'⟩, hadv, heq⟩ := Option.map_eq_some_iff.mp h
  obtain ⟨rfl, rfl⟩ := Prod.mk.inj heq
  exact ⟨s', hadv, rfl⟩

/-! ### Traces

What a step sends out is read off the store and the local state before it. -/

/-- The sessions with a record of what they send out: `emit` says what a step sends,
given the store and the local state it is taken from. -/
def Sessions.traced {ε : Type x} (S : Sessions σ ρ τ ι) (emit : σ → τ → List ε) :
    Sessions (σ × List ε) ρ τ ι where
  init := S.init
  advance s t input :=
    (S.advance s.1 t input).map fun r => ((r.1, s.2 ++ emit s.1 t), r.2)

/-- A traced step is one of the sessions, and the record grows by what it sends. -/
theorem Sessions.traced_advance {ε : Type x} {S : Sessions σ ρ τ ι} {emit : σ → τ → List ε}
    {s s' : σ × List ε} {t : τ} {input : ι} {o : Option τ}
    (h : (S.traced emit).advance s t input = some (s', o)) :
    S.advance s.1 t input = some (s'.1, o) ∧ s'.2 = s.2 ++ emit s.1 t := by
  obtain ⟨⟨s₁, o₁⟩, hadv, heq⟩ := Option.map_eq_some_iff.mp h
  obtain ⟨rfl, rfl⟩ := Prod.mk.inj heq
  exact ⟨hadv, rfl⟩

/-! ### Tags -/

/-- Sessions whose requests carry a tag that no step looks at. -/
def Sessions.tagged (κ : Type x) (S : Sessions σ ρ τ ι) : Sessions σ (κ × ρ) (κ × τ) ι where
  init request := (request.1, S.init request.2)
  advance s t input :=
    (S.advance s t.2 input).map fun r => (r.1, r.2.map fun t' => (t.1, t'))

/-- A tagged step is one of the sessions, under the same tag. -/
theorem Sessions.tagged_advance {κ : Type x} {S : Sessions σ ρ τ ι} {s s' : σ} {t : κ × τ}
    {input : ι} {o : Option (κ × τ)} (h : (S.tagged κ).advance s t input = some (s', o)) :
    ∃ o', S.advance s t.2 input = some (s', o') ∧ o = o'.map fun t' => (t.1, t') := by
  obtain ⟨⟨s₁, o₁⟩, hadv, heq⟩ := Option.map_eq_some_iff.mp h
  obtain ⟨rfl, rfl⟩ := Prod.mk.inj heq
  exact ⟨o₁, hadv, rfl⟩

/-! ### Translations -/

section Translated

/-- Sessions under other requests and inputs: what a request asks for, and what an input is
to a session, is worked out. -/
def Sessions.translated (S : Sessions σ ρ τ ι) (ask : ρ' → ρ) (read : σ → τ → ι' → ι) :
    Sessions σ ρ' τ ι' where
  init request := S.init (ask request)
  advance s t x := S.advance s t (read s t x)

/-- What an act of the translated sessions is to the sessions themselves. -/
inductive Pool.Means (ask : ρ' → ρ) (read : σ → τ → ι' → ι) (p : Pool σ τ) :
    PoolAct ρ' ι' → PoolAct ρ ι → Prop
  | begin (i : ℕ) (request : ρ') : Means ask read p (.begin i request) (.begin i (ask request))
  | advance {i : ℕ} {t : τ} (x : ι') (ht : p.session i = some t) :
      Means ask read p (.advance i x) (.advance i (read p.store t x))
  | crash (i : ℕ) : Means ask read p (.crash i) (.crash i)

/-- Every step of the translated sessions is one of the sessions. -/
theorem Sessions.translated_step {S : Sessions σ ρ τ ι} {ask : ρ' → ρ} {read : σ → τ → ι' → ι}
    {p p' : Pool σ τ} {a : PoolAct ρ' ι'}
    (h : (S.translated ask read).machine.step p a = some p') :
    ∃ b, p.Means ask read a b ∧ S.machine.step p b = some p' := by
  cases a with
  | begin i request => exact ⟨_, .begin i request, h⟩
  | crash i => exact ⟨_, .crash i, h⟩
  | advance i x =>
      obtain ⟨t, ht, hrest⟩ := Option.bind_eq_some_iff.mp h
      refine ⟨_, .advance x ht, ?_⟩
      simp only [Sessions.machine, ht, Option.bind_some]
      exact hrest

end Translated

/-! ### Records -/

section Watched

variable {γ : Type x} {α : Type y}

/-- Sessions that are watched: a record is kept beside the store and a note beside every
session.  `watch` says what becomes of the two in a step. -/
def Sessions.watched (S : Sessions σ ρ τ ι) (note : α)
    (watch : σ × γ → τ × α → ι → γ × α) : Sessions (σ × γ) ρ (τ × α) ι where
  init request := (S.init request, note)
  advance s t input :=
    (S.advance s.1 t.1 input).map fun r =>
      ((r.1, (watch s t input).1), r.2.map fun t' => (t', (watch s t input).2))

/-- The pool without the record and the notes. -/
def Pool.unwatched (p : Pool (σ × γ) (τ × α)) : Pool σ τ where
  store := p.store.1
  session i := (p.session i).map Prod.fst

variable {S : Sessions σ ρ τ ι} {note : α} {watch : σ × γ → τ × α → ι → γ × α}

/-- Moving a session, without the record. -/
theorem Pool.unwatched_assign (p : Pool (σ × γ) (τ × α)) (s : σ × γ) (i : ℕ)
    (o : Option (τ × α)) :
    (p.assign s i o).unwatched = p.unwatched.assign s.1 i (o.map Prod.fst) := by
  have hsession : ∀ j, ((p.assign s i o).session j).map Prod.fst =
      (p.unwatched.assign s.1 i (o.map Prod.fst)).session j := by
    intro j
    by_cases hji : j = i
    · subst hji
      rw [Pool.assign_session_self, Pool.assign_session_self]
    · rw [Pool.assign_session_of_ne p s o hji,
        Pool.assign_session_of_ne p.unwatched s.1 (o.map Prod.fst) hji]
      rfl
  exact congrArg (Pool.mk s.1) (funext hsession)

/-- A watched step is one of the sessions. -/
theorem Sessions.watched_advance {s s' : σ × γ} {t : τ × α} {input : ι} {o : Option (τ × α)}
    (h : (S.watched note watch).advance s t input = some (s', o)) :
    ∃ o', S.advance s.1 t.1 input = some (s'.1, o') ∧ s'.2 = (watch s t input).1 ∧
      o = o'.map fun t' => (t', (watch s t input).2) := by
  obtain ⟨⟨s₁, o₁⟩, hadv, heq⟩ := Option.map_eq_some_iff.mp h
  obtain ⟨rfl, rfl⟩ := Prod.mk.inj heq
  exact ⟨o₁, hadv, rfl, rfl⟩

/-- Watching changes nothing: the pool takes exactly the steps it takes unwatched. -/
theorem Sessions.watched_step (p : Pool (σ × γ) (τ × α)) (a : PoolAct ρ ι) :
    ((S.watched note watch).machine.step p a).map Pool.unwatched =
      S.machine.step p.unwatched a := by
  have hnone : ∀ i, (p.unwatched.session i).isNone = (p.session i).isNone := by
    intro i
    exact Option.isNone_map
  cases a with
  | begin i request =>
      simp only [Sessions.machine, hnone]
      split
      · exact congrArg some (Pool.unwatched_assign p p.store i _)
      · rfl
  | crash i => exact congrArg some (Pool.unwatched_assign p p.store i none)
  | advance i input =>
      simp only [Sessions.machine, Pool.unwatched]
      cases p.session i with
      | none => rfl
      | some t =>
          simp only [Option.bind_some, Option.map_some, Sessions.watched, Option.map_map]
          refine congrArg (fun f => (S.advance p.store.1 t.1 input).map f) ?_
          funext r
          obtain ⟨s', o⟩ := r
          refine (Pool.unwatched_assign p _ i _).trans ?_
          cases o <;> rfl

/-- A step that is watched is one that is not. -/
theorem Sessions.unwatched_step {p p' : Pool (σ × γ) (τ × α)} {a : PoolAct ρ ι}
    (h : (S.watched note watch).machine.step p a = some p') :
    S.machine.step p.unwatched a = some p'.unwatched := by
  rw [← Sessions.watched_step, h, Option.map_some]

/-- A run that is watched is one of the sessions, under the same conditions on what is not
record. -/
theorem Run.unwatched {P : Pool σ τ → PoolAct ρ ι → Prop} {p p' : Pool (σ × γ) (τ × α)}
    {as : List (PoolAct ρ ι)}
    (run : Run (S.watched note watch).machine (fun p a => P p.unwatched a) p as p') :
    Run S.machine P p.unwatched as p'.unwatched := by
  induction run with
  | nil p => exact Run.nil _
  | cons hstep hguard _ ih => exact Run.cons (Sessions.unwatched_step hstep) hguard ih

/-- Every run of the sessions can be watched. -/
theorem Run.watched {p : Pool (σ × γ) (τ × α)} {as : List (PoolAct ρ ι)} {q : Pool σ τ}
    (run : Run S.machine Unguarded p.unwatched as q) :
    ∃ p', Run (S.watched note watch).machine Unguarded p as p' ∧ p'.unwatched = q := by
  generalize hp : p.unwatched = start at run
  induction run generalizing p with
  | nil s => exact ⟨p, Run.nil p, hp⟩
  | @cons s mid q a as hstep _ _ ih =>
      subst hp
      have hwatched : ((S.watched note watch).machine.step p a).map Pool.unwatched = some mid :=
        (Sessions.watched_step p a).trans hstep
      obtain ⟨mid', hstep', hmid⟩ := Option.map_eq_some_iff.mp hwatched
      obtain ⟨p', hrun, hq⟩ := ih hmid
      exact ⟨p', Run.cons hstep' trivial hrun, hq⟩

end Watched

/-! ### Simulations -/

section Simulates

/-- A pool seen from a smaller state. -/
def Pool.mapped {κ : Type x} {υ : Type y} (get : κ → σ) (view : υ → τ) (p : Pool κ υ) :
    Pool σ τ where
  store := get p.store
  session i := (p.session i).map view

/-- Moving a session, as it is seen. -/
theorem Pool.mapped_assign {κ : Type x} {υ : Type y} (get : κ → σ) (view : υ → τ)
    (p : Pool κ υ) (k : κ) (i : ℕ) (o : Option υ) :
    (p.assign k i o).mapped get view = (p.mapped get view).assign (get k) i (o.map view) := by
  refine congrArg (Pool.mk (get k)) (funext fun j => ?_)
  show ((p.assign k i o).session j).map view =
    ((p.mapped get view).assign (get k) i (o.map view)).session j
  by_cases hji : j = i
  · subst hji
    rw [Pool.assign_session_self, Pool.assign_session_self]
  · rw [Pool.assign_session_of_ne p k o hji,
      Pool.assign_session_of_ne (p.mapped get view) (get k) (o.map view) hji]
    rfl

/-- The sessions `T` do the work of `S`, some of their steps doing none of it. -/
structure Simulates {κ : Type x} {υ : Type y} (T : Sessions κ ρ υ ι') (S : Sessions σ ρ τ ι)
    (get : κ → σ) (view : υ → τ) : Prop where
  opened : ∀ request, view (T.init request) = S.init request
  advanced : ∀ k u x k' o, T.advance k u x = some (k', o) →
    (get k' = get k ∧ o.map view = some (view u)) ∨
      ∃ y, S.advance (get k) (view u) y = some (get k', o.map view)

variable {κ : Type x} {υ : Type y} {T : Sessions κ ρ υ ι'} {S : Sessions σ ρ τ ι} {get : κ → σ}
  {view : υ → τ}

/-- A step of the pool is a step of the smaller one, or none. -/
theorem Simulates.step (h : Simulates T S get view) {p p' : Pool κ υ} {a : PoolAct ρ ι'}
    (hstep : T.machine.step p a = some p') :
    p'.mapped get view = p.mapped get view ∨
      ∃ b, S.machine.step (p.mapped get view) b = some (p'.mapped get view) := by
  cases a with
  | begin i request =>
      simp only [Sessions.machine] at hstep
      split at hstep
      · rename_i hfree
        cases hstep
        refine Or.inr ⟨.begin i request, ?_⟩
        have hfree' : ((p.mapped get view).session i).isNone = true := by
          rw [← hfree]
          exact Option.isNone_map
        simp only [Sessions.machine, hfree', if_true]
        rw [Pool.mapped_assign, Option.map_some, h.opened]
        rfl
      · cases hstep
  | advance i x =>
      obtain ⟨u, hu, hrest⟩ := Option.bind_eq_some_iff.mp hstep
      obtain ⟨⟨k', o⟩, hadv, rfl⟩ := Option.map_eq_some_iff.mp hrest
      have hview : (p.mapped get view).session i = some (view u) := by
        show (p.session i).map view = some (view u)
        rw [hu, Option.map_some]
      -- a step that is invisible below, or one step below
      rcases h.advanced _ _ _ _ _ hadv with ⟨hget, hsame⟩ | ⟨y, hy⟩
      · refine Or.inl ?_
        rw [Pool.mapped_assign, hget, hsame]
        refine congrArg (Pool.mk _) (funext fun j => ?_)
        by_cases hji : j = i
        · subst hji
          exact (Pool.assign_session_self (p.mapped get view) (get p.store) j _).trans hview.symm
        · exact Pool.assign_session_of_ne (p.mapped get view) (get p.store) _ hji
      · refine Or.inr ⟨.advance i y, ?_⟩
        have hy' : S.advance (p.mapped get view).store (view u) y = some (get k', o.map view) := hy
        simp only [Sessions.machine, hview, Option.bind_some, hy', Option.map_some]
        rw [Pool.mapped_assign]
  | crash i =>
      obtain rfl : p.assign p.store i none = p' := by simpa [Sessions.machine] using hstep
      refine Or.inr ⟨.crash i, ?_⟩
      rw [Pool.mapped_assign]
      rfl

/-- **Refinement.**  What the pool does is a run of the smaller one. -/
theorem Simulates.run (h : Simulates T S get view) {p p' : Pool κ υ} {as : List (PoolAct ρ ι')}
    (run : Run T.machine Unguarded p as p') :
    ∃ bs, Run S.machine Unguarded (p.mapped get view) bs (p'.mapped get view) := by
  induction run with
  | nil p => exact ⟨[], Run.nil _⟩
  | cons hstep _ _ ih =>
      obtain ⟨bs, hrun⟩ := ih
      rcases h.step hstep with hsame | ⟨b, hb⟩
      · rw [hsame] at hrun
        exact ⟨bs, hrun⟩
      · exact ⟨b :: bs, Run.cons hb trivial hrun⟩

end Simulates

/-! ## The proof rule -/

/-- A pool meets a global assertion, an assertion about each session against the
store, and one about every two sessions. -/
structure Pool.Meets (G : σ → Prop) (L : σ → τ → Prop) (C : τ → τ → Prop)
    (p : Pool σ τ) : Prop where
  global : G p.store
  each : ∀ i t, p.session i = some t → L p.store t
  pairs : ∀ i j t u, i ≠ j → p.session i = some t → p.session j = some u → C t u

/-- Nobody in flight: only the global assertion is left to check. -/
theorem Pool.Meets.quiet {G : σ → Prop} {L : σ → τ → Prop} {C : τ → τ → Prop} {s : σ}
    (h : G s) : (Pool.quiet s : Pool σ τ).Meets G L C :=
  ⟨h, fun _ _ hi => by simp [Pool.quiet] at hi, fun _ _ _ _ _ hi => by simp [Pool.quiet] at hi⟩

/-- **A proof outline** for the sessions `S` under the guard `P`.  `opened` is the
request that arrives; the other fields are the step of one session, taken from a
pool that meets the assertions: what it does to the store (`global`), what it
knows afterwards (`own`), and that it invalidates neither what another session
knows (`others`) nor the pairwise assertion (`compat`). -/
structure Outline (S : Sessions σ ρ τ ι) (P : Pool σ τ → PoolAct ρ ι → Prop)
    (G : σ → Prop) (L : σ → τ → Prop) (C : τ → τ → Prop) : Prop where
  opened : ∀ s request, G s → L s (S.init request)
  openedCompat : ∀ request t, C (S.init request) t ∧ C t (S.init request)
  global : ∀ p i t x s' o, p.Meets G L C → p.session i = some t →
    S.advance p.store t x = some (s', o) → P p (.advance i x) → G s'
  own : ∀ p i t x s' t', p.Meets G L C → p.session i = some t →
    S.advance p.store t x = some (s', some t') → P p (.advance i x) → L s' t'
  others : ∀ p i t x s' o j u, p.Meets G L C → p.session i = some t →
    S.advance p.store t x = some (s', o) → P p (.advance i x) →
    j ≠ i → p.session j = some u → L s' u
  compat : ∀ p i t x s' t' j u, p.Meets G L C → p.session i = some t →
    S.advance p.store t x = some (s', some t') → P p (.advance i x) →
    j ≠ i → p.session j = some u → C t' u ∧ C u t'

namespace Outline

variable {S : Sessions σ ρ τ ι} {P : Pool σ τ → PoolAct ρ ι → Prop}
variable {G : σ → Prop} {L : σ → τ → Prop} {C : τ → τ → Prop}

/-- Changing one session's local state keeps the assertions when its own and the
pairwise ones are re-established against the new store. -/
theorem meets_assign {p : Pool σ τ} {s' : σ} {i : ℕ} {o : Option τ}
    (pairs : ∀ j k t u, j ≠ k → p.session j = some t → p.session k = some u → C t u)
    (hG : G s') (hown : ∀ t', o = some t' → L s' t')
    (hothers : ∀ j u, j ≠ i → p.session j = some u → L s' u)
    (hcompat : ∀ t' j u, o = some t' → j ≠ i → p.session j = some u → C t' u ∧ C u t') :
    (p.assign s' i o).Meets G L C := by
  refine ⟨hG, ?_, ?_⟩
  · intro j t hj
    by_cases hji : j = i
    · subst hji
      exact hown t (by simpa using hj)
    · rw [p.assign_session_of_ne s' o hji] at hj
      exact hothers j t hji hj
  · intro j k t u hjk hj hk
    by_cases hji : j = i
    · subst hji
      rw [p.assign_session_of_ne s' o (Ne.symm hjk)] at hk
      exact (hcompat t k u (by simpa using hj) (Ne.symm hjk) hk).1
    · rw [p.assign_session_of_ne s' o hji] at hj
      by_cases hki : k = i
      · subst hki
        exact (hcompat u j t (by simpa using hk) hji hj).2
      · rw [p.assign_session_of_ne s' o hki] at hk
        exact pairs j k t u hjk hj hk

/-- One step of the pool keeps the assertions. -/
theorem step (outline : Outline S P G L C) {p p' : Pool σ τ} {a : PoolAct ρ ι}
    (hstep : S.machine.step p a = some p') (hguard : P p a) (h : p.Meets G L C) :
    p'.Meets G L C := by
  cases a with
  | begin i request =>
      simp only [Sessions.machine] at hstep
      split at hstep
      · cases hstep
        refine meets_assign h.pairs h.global ?_ (fun j u _ hj => h.each j u hj) ?_
        · rintro t' ⟨⟩
          exact outline.opened _ request h.global
        · rintro t' j u ⟨⟩ _ _
          exact outline.openedCompat request u
      · cases hstep
  | advance i input =>
      obtain ⟨t, ht, hrest⟩ := Option.bind_eq_some_iff.mp hstep
      obtain ⟨⟨s', o⟩, hadv, rfl⟩ := Option.map_eq_some_iff.mp hrest
      refine meets_assign h.pairs (outline.global p i t input s' o h ht hadv hguard) ?_ ?_ ?_
      · rintro t' rfl
        exact outline.own p i t input s' t' h ht hadv hguard
      · intro j u hne hj
        exact outline.others p i t input s' o j u h ht hadv hguard hne hj
      · rintro t' j u rfl hne hj
        exact outline.compat p i t input s' t' j u h ht hadv hguard hne hj
  -- who has stopped knows nothing any more
  | crash i =>
      obtain rfl : p.assign p.store i none = p' := by simpa [Sessions.machine] using hstep
      refine meets_assign h.pairs h.global ?_ (fun j u _ hj => h.each j u hj) ?_
      · rintro t' ⟨⟩
      · rintro t' j u ⟨⟩

/-- **The rule.**  Every guarded run of the pool keeps the assertions. -/
theorem run (outline : Outline S P G L C) {p p' : Pool σ τ} {as : List (PoolAct ρ ι)}
    (run : Run S.machine P p as p') (h : p.Meets G L C) : p'.Meets G L C :=
  run.preserves (fun _ _ _ hstep hguard => outline.step hstep hguard) h

end Outline

end Transition
