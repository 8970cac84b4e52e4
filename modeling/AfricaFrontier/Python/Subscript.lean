import AfricaFrontier.Python.Json
import Mathlib.Data.List.Forall2

/-!
# Subscripts and methods of JSON values

What a subscript or a method call raises on a value of another type than the code
expects.  Exceptions are told apart by the classes the program's handlers name.

The lemmas in front say what it means that a chain of such operations has raised nothing: it is
taken apart into its operations, and a computation over a list into those of its elements.
-/

namespace Python

/-- Nothing is raised, neither by a computation nor by what follows it. -/
theorem bind_eq_ok {ε α β : Type} {x : Except ε α} {f : α → Except ε β} {b : β} :
    (x >>= f) = .ok b ↔ ∃ a, x = .ok a ∧ f a = .ok b := by
  cases x with
  | error e =>
      constructor
      · intro h
        cases h
      · rintro ⟨a, ha, -⟩
        cases ha
  | ok a =>
      constructor
      · intro h
        exact ⟨a, rfl, h⟩
      · rintro ⟨a', ha, h⟩
        cases ha
        exact h

/-- The same for a function behind a computation. -/
theorem map_eq_ok {ε α β : Type} {x : Except ε α} {f : α → β} {b : β} :
    x.map f = .ok b ↔ ∃ a, x = .ok a ∧ f a = b := by
  cases x with
  | error e =>
      constructor
      · intro h
        cases h
      · rintro ⟨a, ha, -⟩
        cases ha
  | ok a =>
      constructor
      · intro h
        exact ⟨a, rfl, Except.ok.inj h⟩
      · rintro ⟨a', ha, h⟩
        cases ha
        exact congrArg Except.ok h

/-- A computation over a list is done when it is done for every element. -/
theorem mapM_eq_ok {ε α β : Type} {f : α → Except ε β} {l : List α} {m : List β} :
    l.mapM f = .ok m ↔ List.Forall₂ (fun a b => f a = .ok b) l m := by
  induction l generalizing m with
  | nil =>
      rw [List.mapM_nil, List.forall₂_nil_left_iff]
      exact ⟨fun h => (Except.ok.inj h).symm, fun h => congrArg Except.ok h.symm⟩
  | cons a l ih =>
      rw [List.mapM_cons, bind_eq_ok]
      constructor
      · rintro ⟨b, hb, h⟩
        obtain ⟨rest, hrest, hm⟩ := bind_eq_ok.mp h
        cases hm
        exact List.Forall₂.cons hb (ih.mp hrest)
      · intro h
        cases h with
        | cons hb hrest => exact ⟨_, hb, bind_eq_ok.mpr ⟨_, ih.mpr hrest, rfl⟩⟩

/-- Elements one by one for those of a list. -/
theorem exists_forall₂ {α β : Type} {R : α → β → Prop} {xs : List α}
    (h : ∀ x ∈ xs, ∃ y, R x y) : ∃ ys, List.Forall₂ R xs ys := by
  induction xs with
  | nil => exact ⟨[], List.Forall₂.nil⟩
  | cons x xs ih =>
      obtain ⟨y, hy⟩ := h x List.mem_cons_self
      obtain ⟨ys, hys⟩ := ih fun x hx => h x (List.mem_cons_of_mem _ hx)
      exact ⟨y :: ys, List.Forall₂.cons hy hys⟩

/-- The last elements of two such lists belong together. -/
theorem getLast_forall₂ {α β : Type} {R : α → β → Prop} {xs : List α} {ys : List β}
    (h : List.Forall₂ R xs ys) : Option.Rel R xs.getLast? ys.getLast? := by
  have hreversed := List.forall₂_reverse_iff.mpr h
  rw [List.getLast?_eq_head?_reverse, List.getLast?_eq_head?_reverse]
  generalize xs.reverse = xs at hreversed ⊢
  generalize ys.reverse = ys at hreversed ⊢
  cases hreversed with
  | nil => exact Option.Rel.none
  | cons hlast _ => exact Option.Rel.some hlast

/-- The class of an exception, as far as handlers distinguish it. -/
inductive PyException
  /-- `httpx.HTTPError`: the request failed, or its answer has an error status. -/
  | http
  | key
  | type
  /-- `ValueError`, of which `json.JSONDecodeError` and the Unicode errors are subclasses. -/
  | value
  | index
  | attribute
  | recursion
  /-- None of these. -/
  | other
  deriving DecidableEq, Repr

/-- `a[key]` with a text for a key. -/
def Json.item (a : Json) (key : String) : Except PyException Json :=
  match a with
  | .obj fields =>
      match Obj.find fields key with
      | some value => .ok value
      | none => .error .key
  | _ => .error .type

/-- `a[0]`. -/
def Json.head : Json → Except PyException Json
  | .arr [] => .error .index
  | .arr (a :: _) => .ok a
  | .str s =>
      match s.toList with
      | [] => .error .index
      | c :: _ => .ok (.str (String.ofList [c]))
  | .obj _ => .error .key
  | _ => .error .type

/-- `json.loads(a)`, given what it does with a text. -/
def Json.loads (a : Json) (loads : String → Except PyException Json) : Except PyException Json :=
  match a with
  | .str s => loads s
  | _ => .error .type

/-- `a.get(key, default)`. -/
def Json.getD (a : Json) (key : String) (default : Json) : Except PyException Json :=
  match a with
  | .obj fields => .ok (Obj.getD fields key default)
  | _ => .error .attribute

/-- `a.strip()`. -/
def Json.strip : Json → Except PyException String
  | .str s => .ok (Python.strip s)
  | _ => .error .attribute

end Python
