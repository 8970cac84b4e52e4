import Mathlib.Data.List.Induction

/-!
# Programs that talk to a server

A program that sends one request after another, each of which may depend on the answers
before it, and that returns or raises in the end.  `Dialogue` is its text; `After` says where a
program stands when some requests were answered, whatever the server is, and `Dialogue.run` lets
it talk to a server.

`Meets` is the calculus of pre- and postconditions: of a request, a condition on the
transcript before it; of the end, one on the transcript and the outcome.  It has a rule for
each construct (`meets_bind`, `meets_handle`) and the rule of consequence (`Meets.mono`).  What it
says still holds in the middle of a conversation (`Meets.after`) and at its end (`Meets.ends`).

Whoever verifies a program with it proves one `Meets` for each of its functions, with the
transcript before the call as a variable, and composes these by `meets_bind`. A loop with a number
of attempts is a recursion on that number, and its `Meets` an induction. The server is not
restricted: each rule is for all answers.
-/

/-- A program with requests `Q`, answers `A`, exceptions `ε` and results `α`. -/
inductive Dialogue (Q A ε α : Type)
  | ret (a : α)
  | raise (e : ε)
  | ask (q : Q) (next : A → Dialogue Q A ε α)

namespace Dialogue

variable {Q A ε ε' α β : Type}

/-- One program, and another one with its result. -/
def bind : Dialogue Q A ε α → (α → Dialogue Q A ε β) → Dialogue Q A ε β
  | .ret a, f => f a
  | .raise e, _ => .raise e
  | .ask q next, f => .ask q fun a => (next a).bind f

instance : Monad (Dialogue Q A ε) where
  pure := .ret
  bind := bind

/-- `try: … except:` around a program. -/
def handle : Dialogue Q A ε α → (ε → Dialogue Q A ε' α) → Dialogue Q A ε' α
  | .ret a, _ => .ret a
  | .raise e, f => f e
  | .ask q next, f => .ask q fun a => (next a).handle f

/-- A result of pure code. -/
def ofExcept : Except ε α → Dialogue Q A ε α
  | .ok a => .ret a
  | .error e => .raise e

/-- A result without a request. -/
@[simp] theorem pure_eq (a : α) : (pure a : Dialogue Q A ε α) = .ret a := rfl

/-- The bind of the monad. -/
@[simp] theorem bind_eq (d : Dialogue Q A ε α) (f : α → Dialogue Q A ε β) :
    d >>= f = d.bind f := rfl

/-! ## Conversations -/

/-- The program stands at `d'` when it began at `d` and the exchanges are those listed. -/
inductive After : Dialogue Q A ε α → List (Q × A) → Dialogue Q A ε α → Prop
  | here (d : Dialogue Q A ε α) : After d [] d
  | next {q : Q} {next : A → Dialogue Q A ε α} {a : A} {t : List (Q × A)}
      {d' : Dialogue Q A ε α} (rest : After (next a) t d') : After (.ask q next) ((q, a) :: t) d'

/-- The whole conversation with a server that answers by what was exchanged so far. -/
def run (server : List (Q × A) → Q → A) :
    List (Q × A) → Dialogue Q A ε α → List (Q × A) × Except ε α
  | t, .ret a => (t, .ok a)
  | t, .raise e => (t, .error e)
  | t, .ask q next => run server (t ++ [(q, server t q)]) (next (server t q))

/-! ## Pre- and postconditions

The transcript is the only state there is. -/

/-- Every request meets `pre`, and the end meets `post`, when `t` was exchanged before. -/
def Meets (pre : List (Q × A) → Q → Prop) (post : List (Q × A) → Except ε α → Prop) :
    List (Q × A) → Dialogue Q A ε α → Prop
  | t, .ret a => post t (.ok a)
  | t, .raise e => post t (.error e)
  | t, .ask q next => pre t q ∧ ∀ a, Meets pre post (t ++ [(q, a)]) (next a)

section Rules

variable {pre pre' : List (Q × A) → Q → Prop} {post post' : List (Q × A) → Except ε α → Prop}
  {t : List (Q × A)}

/-- The rule of a result. -/
@[simp] theorem meets_ret {a : α} : Meets pre post t (.ret a) ↔ post t (.ok a) := Iff.rfl

/-- The rule of an exception. -/
@[simp] theorem meets_raise {e : ε} : Meets pre post t (.raise e) ↔ post t (.error e) := Iff.rfl

/-- The rule of a request, whatever its answer is. -/
@[simp] theorem meets_ask {q : Q} {next : A → Dialogue Q A ε α} :
    Meets pre post t (.ask q next) ↔
      pre t q ∧ ∀ a, Meets pre post (t ++ [(q, a)]) (next a) := Iff.rfl

/-- The rule of pure code. -/
theorem meets_ofExcept {r : Except ε α} : Meets pre post t (ofExcept r) ↔ post t r := by
  cases r with
  | ok a => exact meets_ret
  | error e => exact meets_raise

/-- The condition on the end of the first of two programs. -/
def Then (pre : List (Q × A) → Q → Prop) (post : List (Q × A) → Except ε β → Prop)
    (f : α → Dialogue Q A ε β) (t : List (Q × A)) : Except ε α → Prop
  | .ok a => Meets pre post t (f a)
  | .error e => post t (.error e)

/-- The condition on the end of a program whose exceptions are handled. -/
def Handled (pre : List (Q × A) → Q → Prop) (post : List (Q × A) → Except ε' α → Prop)
    (f : ε → Dialogue Q A ε' α) (t : List (Q × A)) : Except ε α → Prop
  | .ok a => post t (.ok a)
  | .error e => Meets pre post t (f e)

/-- **Sequencing.** -/
theorem meets_bind {post : List (Q × A) → Except ε β → Prop} {d : Dialogue Q A ε α}
    {f : α → Dialogue Q A ε β} :
    Meets pre post t (d.bind f) ↔ Meets pre (Then pre post f) t d := by
  induction d generalizing t with
  | ret a => exact Iff.rfl
  | raise e => exact Iff.rfl
  | ask q next ih => exact and_congr_right fun _ => forall_congr' fun a => ih a

/-- **Exceptions.** -/
theorem meets_handle {post : List (Q × A) → Except ε' α → Prop} {d : Dialogue Q A ε α}
    {f : ε → Dialogue Q A ε' α} :
    Meets pre post t (d.handle f) ↔ Meets pre (Handled pre post f) t d := by
  induction d generalizing t with
  | ret a => exact Iff.rfl
  | raise e => exact Iff.rfl
  | ask q next ih => exact and_congr_right fun _ => forall_congr' fun a => ih a

/-- **Consequence**, where only transcripts count that go on from `t`. -/
theorem Meets.mono {d : Dialogue Q A ε α} (h : Meets pre post t d)
    (hpre : ∀ s q, pre (t ++ s) q → pre' (t ++ s) q)
    (hpost : ∀ s r, post (t ++ s) r → post' (t ++ s) r) : Meets pre' post' t d := by
  induction d generalizing t with
  | ret a => simpa using hpost [] (.ok a) (by simpa using h)
  | raise e => simpa using hpost [] (.error e) (by simpa using h)
  | ask q next ih =>
      refine ⟨by simpa using hpre [] q (by simpa using h.1), fun a => ih a (h.2 a) ?_ ?_⟩
      · intro s q' hq'
        rw [List.append_assoc] at hq' ⊢
        exact hpre _ q' hq'
      · intro s r hr
        rw [List.append_assoc] at hr ⊢
        exact hpost _ r hr

/-- A weaker condition on the end. -/
theorem Meets.post_mono {d : Dialogue Q A ε α} (h : Meets pre post t d)
    (hpost : ∀ s r, post s r → post' s r) : Meets pre post' t d :=
  h.mono (fun _ _ hq => hq) fun _ _ hr => hpost _ _ hr

/-- The conditions still hold where a program stands in the middle. -/
theorem Meets.after {d d' : Dialogue Q A ε α} {s : List (Q × A)} (h : Meets pre post t d)
    (hafter : After d s d') : Meets pre post (t ++ s) d' := by
  induction hafter generalizing t with
  | here d => simpa using h
  | @next q next a s d' _ ih =>
      have hrest := ih (h.2 a)
      rwa [List.append_assoc] at hrest

/-- What a server hears and what comes of it. -/
theorem Meets.ends {d : Dialogue Q A ε α} (h : Meets pre post t d)
    (server : List (Q × A) → Q → A) : post (run server t d).1 (run server t d).2 := by
  induction d generalizing t with
  | ret a => exact h
  | raise e => exact h
  | ask q next ih => exact ih (server t q) (h.2 (server t q))

end Rules

/-! ## Servers

What was proved of all conversations, for one server. -/

/-- Every request of a transcript meets `pre`, by what was exchanged before it. -/
def Throughout (pre : List (Q × A) → Q → Prop) (t : List (Q × A)) : Prop :=
  ∀ before x later, t = before ++ x :: later → pre before x.1

/-- Nothing was asked. -/
theorem throughout_nil {pre : List (Q × A) → Q → Prop} : Throughout pre [] := by
  intro before x later h
  simp at h

/-- One more request. -/
theorem Throughout.snoc {pre : List (Q × A) → Q → Prop} {t : List (Q × A)}
    (h : Throughout pre t) {q : Q} (hq : pre t q) (a : A) : Throughout pre (t ++ [(q, a)]) := by
  intro before x later heq
  induction later using List.reverseRecOn with
  | nil =>
      obtain ⟨rfl, hx⟩ := List.append_inj' heq rfl
      obtain rfl := (List.cons.inj hx).1
      exact hq
  | append_singleton later y _ =>
      rw [← List.cons_append, ← List.append_assoc] at heq
      exact h before x later (List.append_inj' heq rfl).1

/-- **Against a server** every request meets its condition. -/
theorem Meets.throughout {pre : List (Q × A) → Q → Prop}
    {post : List (Q × A) → Except ε α → Prop} {t : List (Q × A)} {d : Dialogue Q A ε α}
    (h : Meets pre post t d) (ht : Throughout pre t) (server : List (Q × A) → Q → A) :
    Throughout pre (run server t d).1 := by
  induction d generalizing t with
  | ret a => exact ht
  | raise e => exact ht
  | ask q next ih => exact ih (server t q) (h.2 (server t q)) (ht.snoc h.1 (server t q))

end Dialogue
