import Mathlib.Order.Defs.Unbundled
import Mathlib.Logic.Basic

/-!
# Guarded runs of a labelled transition system

A `Machine` steps by a partial function of its state and a label: the label
carries everything the environment decides (which request arrives, what a remote
party answers, what the clock shows, whether a write is refused), so the step
itself is deterministic and a run is a list of labels.

Safety results about such a system have two shapes, and both are here once.

* **Invariants** (`Run.preserves`): what one step keeps, a run keeps.
* **Progress relations** (`Run.relates`): where every step relates its two states
  by a preorder, a run relates its end points by it — "nothing moves backwards".

A third, `Run.guarded_iff`, is for a guard that is exact: it is met by every step of
a run if and only if every state the run reaches satisfies the invariant
(`Run.guarded_iff_within`: exact in the states another invariant allows).
`Run.crossing` finds the step of a run in which something came about.  And a run of
two machines side by side is a run of each (`Run.fst`, `Run.snd`), as a run of one is
one of both (`Run.left`, `Run.right`).

Runs are **guarded**: `Run M P` only takes steps that meet the condition `P` on
the state before the step and the label.  A condition on runs is how a result is
stated that holds of the program only outside a known defect: the guard names the
steps that avoid it.  `Unguarded` is the run with no condition at all.

How a result about a program is put together from these: the step function is the machine; one
step lemma says what a guarded step keeps, or relates; and the run lemma is one of the above.
Where the guard should be shown to be no stronger than needed, the step lemma is an equivalence,
and the run lemma one of the exact ones.
-/

namespace Transition

universe u v

/-- A labelled transition system with a deterministic, partial step. -/
structure Machine (σ : Type u) (α : Type v) where
  /-- The state after the label, when the label is possible at all. -/
  step : σ → α → Option σ

variable {σ : Type u} {α : Type v}

/-- The condition every step meets. -/
def Unguarded : σ → α → Prop := fun _ _ => True

/-- A run of `M` along a list of labels, each of whose steps meets `P` in the
state it is taken from. -/
inductive Run (M : Machine σ α) (P : σ → α → Prop) : σ → List α → σ → Prop
  | nil (s : σ) : Run M P s [] s
  | cons {s s' s'' : σ} {a : α} {as : List α} (hstep : M.step s a = some s')
      (hguard : P s a) (tail : Run M P s' as s'') : Run M P s (a :: as) s''

/-- Taking the labels in order under a decidable guard; `none` as soon as one of
them is not possible or not allowed. -/
def Machine.check (M : Machine σ α) (P : σ → α → Bool) : σ → List α → Option σ
  | s, [] => some s
  | s, a :: as => if P s a then (M.step s a).bind fun s' => M.check P s' as else none

/-- The machine of a step that is always possible. -/
def Machine.total (f : σ → α → σ) : Machine σ α where
  step s a := some (f s a)

namespace Run

variable {M : Machine σ α} {P Q : σ → α → Prop} {s s' s'' : σ} {as bs : List α}

/-- Weakening the guard. -/
theorem mono (hPQ : ∀ s a, P s a → Q s a) (run : Run M P s as s') : Run M Q s as s' := by
  induction run with
  | nil s => exact Run.nil s
  | cons hstep hguard _ ih => exact Run.cons hstep (hPQ _ _ hguard) ih

/-- Every run is one with no condition. -/
theorem unguarded (run : Run M P s as s') : Run M Unguarded s as s' :=
  run.mono fun _ _ _ => trivial

/-- Two runs in a row. -/
theorem append (first : Run M P s as s') (second : Run M P s' bs s'') :
    Run M P s (as ++ bs) s'' := by
  induction first with
  | nil s => exact second
  | cons hstep hguard _ ih => exact Run.cons hstep hguard (ih second)

/-- Every intermediate state of a run is reached by a run of its own, so a result
about the last state of every run is a result about every state reached. -/
theorem split (run : Run M P s (as ++ bs) s'') :
    ∃ mid, Run M P s as mid ∧ Run M P mid bs s'' := by
  induction as generalizing s with
  | nil => exact ⟨s, Run.nil s, run⟩
  | cons a as ih =>
      cases run with
      | cons hstep hguard tail =>
          obtain ⟨mid, front, back⟩ := ih tail
          exact ⟨mid, Run.cons hstep hguard front, back⟩

/-- **Invariants.**  What every guarded step keeps, every guarded run keeps. -/
theorem preserves {Inv : σ → Prop}
    (hstep : ∀ s a s', M.step s a = some s' → P s a → Inv s → Inv s')
    (run : Run M P s as s') (start : Inv s) : Inv s' := by
  induction run with
  | nil s => exact start
  | cons stepped hguard _ ih => exact ih (hstep _ _ _ stepped hguard start)

/-- **Progress relations.**  A preorder that relates the two states of every
guarded step relates the two ends of every guarded run. -/
theorem relates {R : σ → σ → Prop} [IsPreorder σ R]
    (hstep : ∀ s a s', M.step s a = some s' → P s a → R s s')
    (run : Run M P s as s') : R s s' := by
  induction run with
  | nil s => exact refl_of R s
  | cons stepped hguard _ ih => exact trans_of R (hstep _ _ _ stepped hguard) ih

/-- What an invariant says of every state before a step may be added to the guard. -/
theorem strengthen {Inv : σ → Prop}
    (hstep : ∀ s a s', M.step s a = some s' → P s a → Inv s → Inv s')
    (run : Run M P s as s') (start : Inv s) :
    Run M (fun s a => P s a ∧ Inv s) s as s' := by
  induction run with
  | nil s => exact Run.nil s
  | cons stepped hguard _ ih =>
      exact Run.cons stepped ⟨hguard, start⟩ (ih (hstep _ _ _ stepped hguard start))

/-- The last state of a run is determined by its labels. -/
theorem functional (run : Run M P s as s') (run' : Run M Q s as s'') : s' = s'' := by
  induction run generalizing s'' with
  | nil s =>
      cases run'
      rfl
  | cons hstep _ _ ih =>
      cases run' with
      | cons hstep' _ tail' =>
          obtain rfl := Option.some.inj (hstep.symm.trans hstep')
          exact ih tail'

/-- A run that meets two guards meets both at every step. -/
theorem both (run : Run M P s as s') (run' : Run M Q s as s'') :
    Run M (fun s a => P s a ∧ Q s a) s as s' := by
  induction run generalizing s'' with
  | nil s => exact Run.nil s
  | cons hstep hguard _ ih =>
      cases run' with
      | cons hstep' hguard' tail' =>
          obtain rfl := Option.some.inj (hstep.symm.trans hstep')
          exact Run.cons hstep ⟨hguard, hguard'⟩ (ih tail')

/-- What holds of every label may be added to the guard. -/
theorem guard_labels {L : α → Prop} (run : Run M P s as s') (h : ∀ a ∈ as, L a) :
    Run M (fun s a => P s a ∧ L a) s as s' := by
  induction run with
  | nil s => exact Run.nil s
  | cons hstep hguard _ ih =>
      exact Run.cons hstep ⟨hguard, h _ List.mem_cons_self⟩
        (ih fun a ha => h a (List.mem_cons_of_mem _ ha))

/-- **Exact guards.**  Where, in the states an invariant `J` allows, the guard `P` of a
step says exactly that the step keeps `Inv`, a run meets `P` throughout if and only if
`Inv` holds of every state the run reaches.  The run may itself be guarded by `Q`. -/
theorem guarded_iff_within {Inv J : σ → Prop}
    (hkeep : ∀ s a s', M.step s a = some s' → Q s a → J s → J s')
    (hexact : ∀ s a s', M.step s a = some s' → Q s a → J s → Inv s → (P s a ↔ Inv s'))
    (run : Run M Q s as s') (within : J s) (start : Inv s) :
    Run M P s as s' ↔
      ∀ front back mid, as = front ++ back → Run M Unguarded s front mid → Inv mid := by
  constructor
  · rintro guarded front back mid rfl hfront
    obtain ⟨mid', hboth, -⟩ := (run.both guarded).split
    obtain rfl := hboth.functional hfront
    have keeps : ∀ s a s', M.step s a = some s' → Q s a ∧ P s a → J s ∧ Inv s → J s' ∧ Inv s' :=
      fun s a s' hstep hguard hinv => ⟨hkeep s a s' hstep hguard.1 hinv.1,
        (hexact s a s' hstep hguard.1 hinv.1 hinv.2).mp hguard.2⟩
    exact (hboth.preserves keeps ⟨within, start⟩).2
  · intro hall
    induction run with
    | nil s => exact Run.nil s
    | @cons s mid s'' a as hstep hguard tail ih =>
        have hmid : Inv mid := hall [a] as mid rfl (Run.cons hstep trivial (Run.nil mid))
        have hwithin : J mid := hkeep s a mid hstep hguard within
        refine Run.cons hstep ((hexact s a mid hstep hguard within start).mpr hmid)
          (ih hwithin hmid ?_)
        rintro front back reached rfl hfront
        exact hall (a :: front) back reached rfl (Run.cons hstep trivial hfront)

/-- The same where the guard is exact in every state. -/
theorem guarded_iff {Inv : σ → Prop}
    (hexact : ∀ s a s', M.step s a = some s' → Inv s → (P s a ↔ Inv s'))
    (run : Run M Unguarded s as s') (start : Inv s) :
    Run M P s as s' ↔
      ∀ front back mid, as = front ++ back → Run M Unguarded s front mid → Inv mid :=
  run.guarded_iff_within (J := fun _ => True) (fun _ _ _ _ _ _ => trivial)
    (fun s a s' hstep _ _ hinv => hexact s a s' hstep hinv) trivial start

/-- **Exact guards of steps.**  Where, in the states an invariant `J` allows and as long as
`Inv` holds, the guard `P` of a step says exactly that the step keeps `Inv` and is `Good`, a
run meets `P` throughout if and only if each of its steps does so. -/
theorem guarded_iff_steps_within {Inv J : σ → Prop} {Good : σ → α → Prop}
    (hkeep : ∀ s a s', M.step s a = some s' → J s → J s')
    (hexact : ∀ s a s', M.step s a = some s' → J s → Inv s → (P s a ↔ Inv s' ∧ Good s a))
    (run : Run M Unguarded s as s') (within : J s) (start : Inv s) :
    Run M P s as s' ↔
      ∀ front a back mid mid', as = front ++ a :: back → Run M Unguarded s front mid →
        M.step mid a = some mid' → Inv mid' ∧ Good mid a := by
  constructor
  · rintro guarded front a back mid mid' rfl hfront hstep
    obtain ⟨reached, hfront', hrest⟩ := guarded.split
    obtain rfl := hfront'.functional hfront
    have keeps : ∀ s a s', M.step s a = some s' → P s a → J s ∧ Inv s → J s' ∧ Inv s' :=
      fun s a s' hstep hguard hinv => ⟨hkeep s a s' hstep hinv.1,
        ((hexact s a s' hstep hinv.1 hinv.2).mp hguard).1⟩
    have hmid := hfront'.preserves keeps ⟨within, start⟩
    cases hrest with
    | cons hstep' hguard _ => exact (hexact _ _ _ hstep hmid.1 hmid.2).mp hguard
  -- along the run: its first step, and then what is known of the runs behind it
  · intro hall
    induction run with
    | nil s => exact Run.nil s
    | @cons s mid s'' a as hstep _ tail ih =>
        have hkept : Inv mid ∧ Good s a := hall [] a as s mid rfl (Run.nil s) hstep
        refine Run.cons hstep ((hexact s a mid hstep within start).mpr hkept)
          (ih (hkeep s a mid hstep within) hkept.1 ?_)
        rintro front b back reached reached' rfl hfront hstep'
        exact hall (a :: front) b back reached reached' rfl (Run.cons hstep trivial hfront) hstep'

/-- The same where the guard is exact in every state. -/
theorem guarded_iff_steps {Inv : σ → Prop} {Good : σ → α → Prop}
    (hexact : ∀ s a s', M.step s a = some s' → Inv s → (P s a ↔ Inv s' ∧ Good s a))
    (run : Run M Unguarded s as s') (start : Inv s) :
    Run M P s as s' ↔
      ∀ front a back mid mid', as = front ++ a :: back → Run M Unguarded s front mid →
        M.step mid a = some mid' → Inv mid' ∧ Good mid a :=
  run.guarded_iff_steps_within (J := fun _ => True) (fun _ _ _ _ _ => trivial)
    (fun s a s' hstep _ hinv => hexact s a s' hstep hinv) trivial start

/-- The same for a property of steps alone, in the states an invariant allows. -/
theorem guarded_iff_good {J : σ → Prop} {Good : σ → α → Prop}
    (hkeep : ∀ s a s', M.step s a = some s' → J s → J s')
    (hexact : ∀ s a s', M.step s a = some s' → J s → (P s a ↔ Good s a))
    (run : Run M Unguarded s as s') (within : J s) :
    Run M P s as s' ↔
      ∀ front a back mid mid', as = front ++ a :: back → Run M Unguarded s front mid →
        M.step mid a = some mid' → Good mid a := by
  have hboth : ∀ s a s', M.step s a = some s' → J s → (fun _ : σ => True) s →
      (P s a ↔ (fun _ : σ => True) s' ∧ Good s a) :=
    fun s a s' hstep hwithin _ => (hexact s a s' hstep hwithin).trans (and_iff_right trivial).symm
  have hsteps := run.guarded_iff_steps_within hkeep hboth within trivial
  simpa only [true_and] using hsteps

/-- **Exact guards of relations.**  Where the guard `P` of a step says exactly that the
step relates its two states by a preorder, a run meets `P` throughout if and only if every
two states it reaches, in their order, are related. -/
theorem guarded_iff_relates {R : σ → σ → Prop} [IsPreorder σ R]
    (hexact : ∀ s a s', M.step s a = some s' → (P s a ↔ R s s'))
    (run : Run M Unguarded s as s') :
    Run M P s as s' ↔
      ∀ front middle back mid mid', as = front ++ (middle ++ back) →
        Run M Unguarded s front mid → Run M Unguarded mid middle mid' → R mid mid' := by
  constructor
  · rintro guarded front middle back mid mid' rfl hfront hmiddle
    obtain ⟨reached, hfront', hrest⟩ := guarded.split
    obtain rfl := hfront'.functional hfront
    obtain ⟨reached', hmiddle', -⟩ := hrest.split
    obtain rfl := hmiddle'.functional hmiddle
    exact hmiddle'.relates fun s a s' hstep hguard => (hexact s a s' hstep).mp hguard
  · intro hall
    induction run with
    | nil s => exact Run.nil s
    | @cons s mid s'' a as hstep _ tail ih =>
        have hstepped : Run M Unguarded s [a] mid := Run.cons hstep trivial (Run.nil mid)
        have hrelated : R s mid := hall [] [a] as s mid rfl (Run.nil s) hstepped
        refine Run.cons hstep ((hexact s a mid hstep).mpr hrelated) (ih ?_)
        rintro front middle back reached reached' rfl hfront hmiddle
        exact hall (a :: front) middle back reached reached' rfl
          (Run.cons hstep trivial hfront) hmiddle

/-- **Crossings.**  What does not hold at the start of a run and holds at its end comes
about in one of its steps. -/
theorem crossing {Q : σ → Prop} (run : Run M P s as s') (start : ¬ Q s) (finish : Q s') :
    ∃ front a back mid mid', as = front ++ a :: back ∧ Run M P s front mid ∧
      M.step mid a = some mid' ∧ P mid a ∧ ¬ Q mid ∧ Q mid' ∧ Run M P mid' back s' := by
  induction run with
  | nil s => exact absurd finish start
  | @cons s mid s'' a as hstep hguard tail ih =>
      by_cases hmid : Q mid
      · exact ⟨[], a, as, s, mid, rfl, Run.nil s, hstep, hguard, start, hmid, tail⟩
      · obtain ⟨front, b, back, m, m', rfl, hfront, hrest⟩ := ih hmid finish
        exact ⟨a :: front, b, back, m, m', rfl, Run.cons hstep hguard hfront, hrest⟩

/-- A run computed step by step is a run. -/
theorem of_check {P : σ → α → Bool} (h : M.check P s as = some s') :
    Run M (fun s a => P s a = true) s as s' := by
  induction as generalizing s with
  | nil =>
      obtain rfl : s = s' := by simpa [Machine.check] using h
      exact Run.nil s
  | cons a as ih =>
      simp only [Machine.check] at h
      split at h
      · rename_i hguard
        obtain ⟨mid, hstep, hrest⟩ := Option.bind_eq_some_iff.mp h
        exact Run.cons hstep hguard (ih hrest)
      · cases h

end Run

/-! ## Side by side -/

section Beside

universe w x

variable {τ : Type w} {β : Type x} {M : Machine σ α} {N : Machine τ β} {P : σ → α → Prop}
  {Q : τ → β → Prop}

/-- Two machines; each label moves one of them. -/
def Machine.beside (M : Machine σ α) (N : Machine τ β) : Machine (σ × τ) (α ⊕ β) where
  step s
    | .inl a => (M.step s.1 a).map fun s' => (s', s.2)
    | .inr b => (N.step s.2 b).map fun t' => (s.1, t')

/-- The conditions of both. -/
def beside (P : σ → α → Prop) (Q : τ → β → Prop) : σ × τ → α ⊕ β → Prop :=
  fun s => Sum.elim (P s.1) (Q s.2)

namespace Run

/-- A run of the first machine, the second standing still. -/
theorem left {s s' : σ} {as : List α} (run : Run M P s as s') (t : τ) :
    Run (M.beside N) (beside P Q) (s, t) (as.map Sum.inl) (s', t) := by
  induction run with
  | nil s => exact Run.nil (s, t)
  | cons hstep hguard _ ih =>
      exact Run.cons (congrArg (Option.map fun s' => (s', t)) hstep) hguard ih

/-- A run of the second machine, the first standing still. -/
theorem right {t t' : τ} {bs : List β} (run : Run N Q t bs t') (s : σ) :
    Run (M.beside N) (beside P Q) (s, t) (bs.map Sum.inr) (s, t') := by
  induction run with
  | nil t => exact Run.nil (s, t)
  | cons hstep hguard _ ih =>
      exact Run.cons (congrArg (Option.map fun t' => (s, t')) hstep) hguard ih

/-- What the first machine does in a run of both. -/
theorem fst {s s' : σ × τ} {as : List (α ⊕ β)} (run : Run (M.beside N) (beside P Q) s as s') :
    Run M P s.1 (as.filterMap Sum.getLeft?) s'.1 := by
  induction run with
  | nil s => exact Run.nil s.1
  | @cons s s' s'' a as hstep hguard _ ih =>
      cases a with
      | inl a =>
          obtain ⟨next, hnext, rfl⟩ := Option.map_eq_some_iff.mp hstep
          exact Run.cons hnext hguard ih
      | inr b =>
          obtain ⟨next, hnext, rfl⟩ := Option.map_eq_some_iff.mp hstep
          exact ih

/-- What the second machine does in a run of both. -/
theorem snd {s s' : σ × τ} {as : List (α ⊕ β)} (run : Run (M.beside N) (beside P Q) s as s') :
    Run N Q s.2 (as.filterMap Sum.getRight?) s'.2 := by
  induction run with
  | nil s => exact Run.nil s.2
  | @cons s s' s'' a as hstep hguard _ ih =>
      cases a with
      | inl a =>
          obtain ⟨next, hnext, rfl⟩ := Option.map_eq_some_iff.mp hstep
          exact ih
      | inr b =>
          obtain ⟨next, hnext, rfl⟩ := Option.map_eq_some_iff.mp hstep
          exact Run.cons hnext hguard ih

end Run

end Beside

end Transition
