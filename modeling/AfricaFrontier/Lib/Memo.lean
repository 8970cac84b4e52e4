import AfricaFrontier.Lib.Run
import Mathlib.Algebra.Order.Group.Defs
import Mathlib.Data.Set.Defs
import Mathlib.Logic.Function.Basic

/-!
# Answers that are kept for a while

A request is answered from what a source gives, and the answer is kept under a key for
requests to come.  Between the time a call finds nothing kept and the time it has an answer of
its own, other calls come and go.  Beside each answer the model has the request and the source
it was made from, which the program does not: so that a kept answer is one that was made
(`Answer.made`), and is kept under the key of its request (`Store.keyed`).

A kept answer may be given to another request of the same key.  Within a set of requests that
happens in no run if and only if no two of them, of which the first can be answered, have the
same key (`faithful_iff`).

A policy says how a request is routed (answered at once, or under a key), how an answer is made
from a source, and how long it is kept. A call is two events: it looks, and, where it finds
nothing, it hears from its source some time later. Other calls come in between, and whoever hears
last is kept.

The condition of `faithful_iff` is on the requests alone. One direction is an invariant: all that
is kept was made for a request of the set (`Within`). The other builds the run in which two
requests of one key follow each other (`exists_served`).
-/

namespace Memo

open Transition

universe u v w x y z

/-- How requests are answered, and where and how long the answers are kept. -/
structure Policy (ρ : Type u) (κ : Type v) (ι : Type w) (ε : Type x) (ω : Type y) (T : Type z) where
  /-- The answer where no source is needed, or else the key. -/
  route : ρ → ω ⊕ κ
  make : ι → ρ → Except ε ω
  lifetime : κ → T

variable {ρ : Type u} {κ : Type v} {ι : Type w} {ε : Type x} {ω : Type y} {T : Type z}

/-- An answer with the request and the source it was made from. That it was made so is a field, so
that an answer in a store needs no further assumption. -/
structure Answer (P : Policy ρ κ ι ε ω T) where
  request : ρ
  source : ι
  value : ω
  made : P.make source request = .ok value

/-- The answers that are kept, each with the time it was put there, and the calls under way. An
answer is kept under the key of its own request. -/
structure Store (P : Policy ρ κ ι ε ω T) where
  entries : κ → Option (T × Answer P)
  keyed : ∀ k t a, entries k = some (t, a) → P.route a.request = .inr k
  waiting : List ρ

/-- What a call returns: what needs no source, or an answer. -/
inductive Reply (P : Policy ρ κ ι ε ω T)
  | direct (value : ω)
  | answered (a : Answer P)

/-- The value a call returns. -/
def Reply.value {P : Policy ρ κ ι ε ω T} : Reply P → ω
  | .direct value => value
  | .answered a => a.value

namespace Store

variable {P : Policy ρ κ ι ε ω T}

/-- Nothing is kept. -/
def empty : Store P where
  entries _ := none
  keyed := by
    intro k t a h
    cases h
  waiting := []

section Keeping

variable [DecidableEq κ]

/-- An answer that has been made is kept under the key of its request. -/
def keep (s : Store P) (k : κ) (now : T) (a : Answer P) (h : P.route a.request = .inr k) :
    Store P where
  entries := Function.update s.entries k (some (now, a))
  keyed := by
    intro k' t a' hentry
    by_cases hk : k' = k
    · subst hk
      rw [Function.update_self] at hentry
      obtain ⟨rfl, rfl⟩ : now = t ∧ a = a' := by simpa using hentry
      exact h
    · rw [Function.update_of_ne hk] at hentry
      exact s.keyed k' t a' hentry
  waiting := s.waiting

/-- The store after a source was heard. -/
def heard (s : Store P) (request : ρ) (now : T) (source : ι) : Store P :=
  match hroute : P.route request with
  | .inl _ => s
  | .inr k =>
      match hmade : P.make source request with
      | .error _ => s
      | .ok value => s.keep k now ⟨request, source, value, hmade⟩ hroute

/-- What a source was heard for is kept, or the store is as it was. -/
theorem heard_cases (s : Store P) (request : ρ) (now : T) (source : ι) :
    s.heard request now source = s ∨
      ∃ k value, ∃ hmade : P.make source request = .ok value, P.route request = .inr k ∧
        (s.heard request now source).entries =
          Function.update s.entries k (some (now, ⟨request, source, value, hmade⟩)) := by
  unfold heard
  split
  · exact Or.inl rfl
  · rename_i k hroute
    split
    · exact Or.inl rfl
    · rename_i value hmade
      exact Or.inr ⟨k, value, hmade, hroute, rfl⟩

/-- What was made is kept under its key, with the time. -/
theorem heard_entries (s : Store P) {request : ρ} {k : κ} {source : ι} {value : ω}
    (hroute : P.route request = .inr k) (hmade : P.make source request = .ok value) (now : T) :
    (s.heard request now source).entries =
      Function.update s.entries k (some (now, ⟨request, source, value, hmade⟩)) := by
  unfold heard
  split
  · rename_i hdirect
    rw [hroute] at hdirect
    cases hdirect
  · rename_i k' hroute'
    obtain rfl : k = k' := by
      rw [hroute] at hroute'
      exact Sum.inr.inj hroute'
    split
    · rename_i hfailed
      rw [hmade] at hfailed
      cases hfailed
    · rename_i value' hmade'
      obtain rfl : value = value' := by
        rw [hmade] at hmade'
        exact Except.ok.inj hmade'
      rfl

end Keeping

/-- The answer of a source to a request. -/
def consult (P : Policy ρ κ ι ε ω T) (source : ι) (request : ρ) : Except ε (Reply P) :=
  match hmade : P.make source request with
  | .error error => .error error
  | .ok value => .ok (.answered ⟨request, source, value, hmade⟩)

/-- What a source is consulted for is the request. -/
theorem request_of_consult {source : ι} {request : ρ} {a : Answer P}
    (h : consult P source request = .ok (.answered a)) :
    a.request = request ∧ a.source = source := by
  unfold consult at h
  split at h
  · cases h
  · cases h
    exact ⟨rfl, rfl⟩

/-- A source is not asked for what needs none. -/
theorem consult_ne_direct {source : ι} {request : ρ} {value : ω} :
    consult P source request ≠ .ok (.direct value) := by
  unfold consult
  intro h
  split at h <;> cases h

variable [AddCommGroup T] [LinearOrder T]

/-- The kept answer, if it is not too old. -/
def fresh (s : Store P) (k : κ) (now : T) : Option (Answer P) :=
  (s.entries k).bind fun entry => if now - entry.1 < P.lifetime k then some entry.2 else none

/-- What a call finds: what needs no source, a kept answer, or nothing. -/
def look (s : Store P) (request : ρ) (now : T) : Option (Reply P) :=
  match P.route request with
  | .inl value => some (.direct value)
  | .inr k => (s.fresh k now).map .answered

/-- What a call returns that looks at `asked` and otherwise consults the source. -/
def reply (s : Store P) (request : ρ) (asked : T) (source : ι) : Except ε (Reply P) :=
  match s.look request asked with
  | some found => .ok found
  | none => consult P source request

/-- The request and the source that the answer of a call comes from. -/
def basis (s : Store P) (request : ρ) (asked : T) (source : ι) : ρ × ι :=
  match s.look request asked with
  | some (.answered a) => (a.request, a.source)
  | _ => (request, source)

/-- A kept answer is given while it is younger than its lifetime. -/
theorem fresh_eq_some {s : Store P} {k : κ} {now : T} {a : Answer P} :
    s.fresh k now = some a ↔ ∃ t, s.entries k = some (t, a) ∧ now - t < P.lifetime k := by
  unfold fresh
  constructor
  · intro h
    obtain ⟨⟨t, a'⟩, hentry, hage⟩ := Option.bind_eq_some_iff.mp h
    dsimp only at hage
    split at hage
    · rename_i hyoung
      cases hage
      exact ⟨t, hentry, hyoung⟩
    · cases hage
  · rintro ⟨t, hentry, hyoung⟩
    rw [hentry, Option.bind_some]
    exact if_pos hyoung

/-- A kept answer is given to a request of its key. -/
theorem look_eq_answered {s : Store P} {request : ρ} {now : T} {a : Answer P} :
    s.look request now = some (.answered a) ↔
      ∃ k t, P.route request = .inr k ∧ s.entries k = some (t, a) ∧ now - t < P.lifetime k := by
  unfold look
  constructor
  · intro h
    split at h
    · cases h
    · rename_i k hroute
      obtain ⟨a', hfresh, hsame⟩ := Option.map_eq_some_iff.mp h
      cases hsame
      obtain ⟨t, hentry, hyoung⟩ := fresh_eq_some.mp hfresh
      exact ⟨k, t, hroute, hentry, hyoung⟩
  · rintro ⟨k, t, hroute, hentry, hyoung⟩
    rw [hroute]
    exact congrArg (Option.map Reply.answered) (fresh_eq_some.mpr ⟨t, hentry, hyoung⟩)

/-- What needs no source comes from the route. -/
theorem look_eq_direct {s : Store P} {request : ρ} {now : T} {value : ω}
    (h : s.look request now = some (.direct value)) : P.route request = .inl value := by
  unfold look at h
  split at h
  · rename_i hroute
    cases h
    exact hroute
  · obtain ⟨a, -, hsame⟩ := Option.map_eq_some_iff.mp h
    cases hsame

/-- A call that needs a source returns what is made of its basis. -/
theorem reply_value {s : Store P} {request : ρ} {k : κ} {asked : T} {source : ι}
    (hroute : P.route request = .inr k) :
    (s.reply request asked source).map Reply.value =
      P.make (s.basis request asked source).2 (s.basis request asked source).1 := by
  unfold reply basis
  cases hlook : s.look request asked with
  | none =>
      dsimp only
      unfold consult
      split
      · rename_i error herror
        exact herror.symm
      · rename_i value hvalue
        exact hvalue.symm
  | some found =>
      cases found with
      | direct value =>
          rw [look_eq_direct hlook] at hroute
          cases hroute
      | answered a => exact a.made.symm

/-- Where no answer to another request is kept in its place, the basis is its own request. -/
theorem basis_request {s : Store P} {request : ρ} {asked : T} {source : ι}
    (hown : ∀ a, s.look request asked = some (.answered a) → a.request = request) :
    (s.basis request asked source).1 = request := by
  unfold basis
  split
  · rename_i a hlook
    exact hown a hlook
  · rfl

/-- Where nothing is kept, the basis is the request and the source. -/
theorem basis_empty (request : ρ) (asked : T) (source : ι) :
    (empty : Store P).basis request asked source = (request, source) := by
  unfold basis look
  cases P.route request with
  | inl value => rfl
  | inr k => rfl

end Store

/-! ## Calls at the same time

The store has, beside the answers, the calls that wait for a source. -/

/-- What happens to a store. -/
inductive Event (ρ : Type u) (ι : Type w) (T : Type z)
  /-- A call begins and looks for an answer. -/
  | ask (request : ρ) (now : T)
  /-- A call that found none has heard from the source. -/
  | answer (request : ρ) (now : T) (source : ι)

def Event.request : Event ρ ι T → ρ
  | .ask request _ => request
  | .answer request _ _ => request

namespace Store

variable {P : Policy ρ κ ι ε ω T} [AddCommGroup T] [LinearOrder T]

/-- What a call returns in an event, if it returns in it. -/
def returned (s : Store P) : Event ρ ι T → Option (Except ε (Reply P))
  | .ask request now => (s.look request now).map .ok
  | .answer request _ source => some (consult P source request)

variable {s s' : Store P} {e : Event ρ ι T} {S : Set ρ}

/-! ## Requests of a set

A set of requests, since a program may use one cache for a part of what it could be asked. -/

/-- Every kept answer is one to a request of the set. -/
def Within (S : Set ρ) (s : Store P) : Prop :=
  ∀ k t a, s.entries k = some (t, a) → a.request ∈ S

/-- Every answer a call of the event is given was made for its own request; an answer of the
request's own source is so in any case. -/
def Faithful (s : Store P) (e : Event ρ ι T) : Prop :=
  ∀ a, s.returned e = some (.ok (.answered a)) → a.request = e.request

/-- No two requests of the set, of which the first can be answered, have the same key. -/
def Separate (P : Policy ρ κ ι ε ω T) (S : Set ρ) : Prop :=
  ∀ r ∈ S, ∀ r' ∈ S, ∀ k, P.route r = .inr k → P.route r' = .inr k →
    (∃ source value, P.make source r = .ok value) → r = r'

/-- Where no two requests have one key, an answer of the set is the own one. -/
theorem Within.faithful (hwithin : s.Within S) (he : e.request ∈ S) (hS : Separate P S) :
    s.Faithful e := by
  intro a hreturned
  cases e with
  | ask request now =>
      obtain ⟨found, hlook, hfound⟩ := Option.map_eq_some_iff.mp hreturned
      cases hfound
      obtain ⟨k, t, hroute, hentry, -⟩ := look_eq_answered.mp hlook
      exact hS a.request (hwithin k t a hentry) request he k (s.keyed k t a hentry) hroute
        ⟨a.source, a.value, a.made⟩
  | answer request now source =>
      exact (request_of_consult (Option.some.inj hreturned)).1

/-- A faithful answer is one that needs no source, or was made for the request. -/
theorem Faithful.value_of (h : s.Faithful e) {reply : Reply P}
    (hreturned : s.returned e = some (.ok reply)) :
    P.route e.request = .inl reply.value ∨
      ∃ source, P.make source e.request = .ok reply.value := by
  cases reply with
  | answered a =>
      refine Or.inr ⟨a.source, ?_⟩
      rw [← h a hreturned]
      exact a.made
  | direct value =>
      cases e with
      | ask request now =>
          obtain ⟨found, hlook, hfound⟩ := Option.map_eq_some_iff.mp hreturned
          cases hfound
          exact Or.inl (look_eq_direct hlook)
      | answer request now source =>
          exact absurd (Option.some.inj hreturned) consult_ne_direct

/-! ## Runs -/

variable [DecidableEq κ] [DecidableEq ρ]

/-- What an event does to the store. -/
def step (s : Store P) : Event ρ ι T → Option (Store P)
  | .ask request now =>
      if (s.look request now).isSome then some s
      else some { s with waiting := request :: s.waiting }
  | .answer request now source =>
      if request ∈ s.waiting then
        some { s.heard request now source with waiting := s.waiting.erase request }
      else none

/-- Events one after another. -/
def machine (P : Policy ρ κ ι ε ω T) : Machine (Store P) (Event ρ ι T) where
  step := step

/-- The entries after an event. -/
theorem step_entries (h : s.step e = some s') :
    s'.entries = s.entries ∨
      ∃ k t, ∃ a : Answer P, a.request = e.request ∧
        s'.entries = Function.update s.entries k (some (t, a)) := by
  cases e with
  | ask request now =>
      simp only [step] at h
      split at h
      · cases h
        exact Or.inl rfl
      · cases h
        exact Or.inl rfl
  | answer request now source =>
      simp only [step] at h
      split at h
      · cases h
        rcases s.heard_cases request now source with hsame | ⟨k, value, hmade, -, hentries⟩
        · refine Or.inl ?_
          rw [hsame]
        · exact Or.inr ⟨k, now, _, rfl, hentries⟩
      · cases h

/-- An event of the set keeps it so. -/
theorem Within.step (hwithin : s.Within S) (he : e.request ∈ S) (h : s.step e = some s') :
    s'.Within S := by
  intro k t a hentry
  rcases step_entries h with hsame | ⟨k', t', a', hrequest, hupdate⟩
  · rw [hsame] at hentry
    exact hwithin k t a hentry
  · rw [hupdate] at hentry
    by_cases hk : k = k'
    · subst hk
      rw [Function.update_self] at hentry
      obtain ⟨rfl, rfl⟩ : t' = t ∧ a' = a := by simpa using hentry
      rw [hrequest]
      exact he
    · rw [Function.update_of_ne hk] at hentry
      exact hwithin k t a hentry

/-- A call is given what another call of the same key has just left. -/
theorem exists_served (hlifetime : ∀ k, 0 < P.lifetime k) {r r' : ρ} {k : κ} {source : ι}
    {value : ω} (hroute : P.route r = .inr k) (hroute' : P.route r' = .inr k)
    (hmade : P.make source r = .ok value) :
    ∃ kept : Store P,
      Run (machine P) (fun _ e => e.request = r) empty [.ask r 0, .answer r 0 source] kept ∧
        kept.step (.ask r' 0 : Event ρ ι T) = some kept ∧
        kept.returned (.ask r' 0 : Event ρ ι T) =
          some (.ok (.answered ⟨r, source, value, hmade⟩)) := by
  -- the first call finds nothing, and keeps its answer
  have hnone : (empty : Store P).look r 0 = none := by
    unfold look
    rw [hroute]
    rfl
  have hask : (empty : Store P).step (.ask r 0 : Event ρ ι T) =
      some { (empty : Store P) with waiting := [r] } := by
    simp only [step, hnone]
    rfl
  obtain ⟨kept, hkept, hentries⟩ : ∃ kept : Store P,
      ({ (empty : Store P) with waiting := [r] }).step (.answer r 0 source) = some kept ∧
        kept.entries k = some (0, ⟨r, source, value, hmade⟩) := by
    refine ⟨_, if_pos (List.mem_singleton.mpr rfl), ?_⟩
    dsimp only
    rw [heard_entries _ hroute hmade, Function.update_self]
  -- and the second call is given it
  have hyoung : (0 : T) - 0 < P.lifetime k := by
    rw [sub_zero]
    exact hlifetime k
  have hlook : kept.look r' 0 = some (.answered ⟨r, source, value, hmade⟩) :=
    look_eq_answered.mpr ⟨k, 0, hroute', hentries, hyoung⟩
  refine ⟨kept, Run.cons hask rfl (Run.cons hkept rfl (Run.nil kept)), ?_,
    congrArg (Option.map Except.ok) hlook⟩
  simp only [step, hlook]
  rfl

/-- **Answers to their own requests.**  In every run over requests of a set, every call is given
an answer that was made for its own request, if and only if the requests are separate. -/
theorem faithful_iff (hlifetime : ∀ k, 0 < P.lifetime k) :
    (∀ events s, Run (machine P) (fun _ e => e.request ∈ S) empty events s →
      ∀ e s', s.step e = some s' → e.request ∈ S → s.Faithful e) ↔ Separate P S := by
  constructor
  · intro hall r hr r' hr' k hroute hroute' hmake
    obtain ⟨source, value, hmade⟩ := hmake
    obtain ⟨kept, run, hagain, hreturned⟩ := exists_served hlifetime hroute hroute' hmade
    have hrun : Run (machine P) (fun _ e => e.request ∈ S) empty [.ask r 0, .answer r 0 source]
        kept := by
      refine Run.mono (fun _ e hrequest => ?_) run
      rw [hrequest]
      exact hr
    exact hall _ kept hrun _ kept hagain hr' _ hreturned
  · intro hS events s run e s' hstep he
    have hwithin : s.Within S := by
      refine run.preserves (fun s e s' hstep he hwithin => hwithin.step he hstep) ?_
      intro k t a hentry
      cases hentry
    exact hwithin.faithful he hS

end Store

end Memo
