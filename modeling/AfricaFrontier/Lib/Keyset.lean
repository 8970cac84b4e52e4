import Mathlib.Order.Lattice
import Mathlib.Order.Nat
import Mathlib.Data.List.Nodup
import Mathlib.Data.List.Perm.Subperm

/-!
# Keyset pagination

Rows with keys in a linear order are read in pages, largest key first.  A request names the
key behind which its page begins, and the next request names the key of the last row of the
page before it.  Between two requests rows may be stored, and none is removed: `stored k` is
what the request number `k` finds.

However the rows arrive, the pages in a row are strictly descending (`Follows.descending`),
so that nothing comes twice; and when the last page has come, every row that was behind the
first cursor at the start has come (`Follows.complete`).  That it comes is a matter of
counting: every page but the last is full (`Follows.count`).

What a program has to show is `Serves`: that its answer to the request number `k` is a view of a
page of what is stored then, behind the cursor that the token names, with the token of the last
row if the page is full. `Serves.of_last` gives that for tokens made in the usual way. Walking
along the tokens is then following the cursors (`Serves.follows`), and ends after at most as many
requests as the rows fill pages, and one (`Follows.ended_of_requests`).

Rows that are stored while the client reads are in the pages or not, by where their keys lie; what
was there at the start is never missed, since nothing is removed.
-/

namespace Keyset

universe u v

variable {ρ : Type u} {K : Type v} [LinearOrder K] (key : ρ → K)

/-- The row is behind the cursor; without a cursor every row is. -/
def Behind (cursor : Option K) (r : ρ) : Prop := ∀ c ∈ cursor, key r < c

/-- Keys strictly descend. -/
def Descending (rows : List ρ) : Prop := rows.Pairwise fun a b => key b < key a

/-- The first `limit` rows behind the cursor. -/
structure IsPage (stored : ρ → Prop) (limit : ℕ) (cursor : Option K) (page : List ρ) :
    Prop where
  sound : ∀ r ∈ page, stored r ∧ Behind key cursor r
  descending : Descending key page
  short : page.length ≤ limit
  /-- What is left out comes after a full page. -/
  complete : ∀ r, stored r → Behind key cursor r → r ∉ page →
    page.length = limit ∧ ∀ p ∈ page, key r < key p

/-- Following the cursor from the request number `k`.  The pages end with one that is not
full, or the next request is not made. -/
inductive Follows (stored : ℕ → ρ → Prop) (limit : ℕ) :
    ℕ → Option K → List (List ρ) → Bool → Prop
  | unasked (k : ℕ) (cursor : Option K) : Follows stored limit k cursor [] false
  | last {k : ℕ} {cursor : Option K} {page : List ρ}
      (hpage : IsPage key (stored k) limit cursor page) (hshort : page.length ≠ limit) :
      Follows stored limit k cursor [page] true
  | more {k : ℕ} {cursor : Option K} {page : List ρ} {r : ρ} {pages : List (List ρ)}
      {ended : Bool} (hpage : IsPage key (stored k) limit cursor page)
      (hfull : page.length = limit) (hlast : page.getLast? = some r)
      (rest : Follows stored limit (k + 1) (some (key r)) pages ended) :
      Follows stored limit k cursor (page :: pages) ended

variable {key} {stored : ℕ → ρ → Prop} {limit k : ℕ} {cursor : Option K} {pages : List (List ρ)}
  {ended : Bool}

/-- The last row of a page has the smallest key. -/
theorem Descending.last_le {page : List ρ} {r : ρ} (h : Descending key page)
    (hlast : page.getLast? = some r) : ∀ p ∈ page, key r ≤ key p := by
  obtain ⟨front, rfl⟩ := List.getLast?_eq_some_iff.mp hlast
  intro p hp
  rcases List.mem_append.mp hp with hfront | hend
  · exact le_of_lt ((List.pairwise_append.mp h).2.2 p hfront r List.mem_cons_self)
  · rw [List.mem_singleton.mp hend]

/-- A row occurs once in a list that strictly descends. -/
theorem Descending.nodup {rows : List ρ} (h : Descending key rows) : rows.Nodup := by
  refine h.imp fun hlt hsame => ?_
  rw [hsame] at hlt
  exact lt_irrefl _ hlt

/-- The first rows of what is behind the cursor are a page. -/
theorem isPage_take {stored : ρ → Prop} {rows : List ρ} (hdescending : Descending key rows)
    (hrows : ∀ r, r ∈ rows ↔ stored r ∧ Behind key cursor r) (limit : ℕ) :
    IsPage key stored limit cursor (rows.take limit) where
  sound r hr := (hrows r).mp (List.mem_of_mem_take hr)
  descending := hdescending.sublist (List.take_sublist limit rows)
  short := List.length_take_le limit rows
  complete := by
    intro r hstored hbehind hout
    have hr : r ∈ rows.take limit ++ rows.drop limit := by
      rw [List.take_append_drop]
      exact (hrows r).mpr ⟨hstored, hbehind⟩
    have hdrop : r ∈ rows.drop limit := (List.mem_append.mp hr).resolve_left hout
    refine ⟨?_, fun p hp => ?_⟩
    · have hmore : 0 < (rows.drop limit).length := List.length_pos_of_mem hdrop
      rw [List.length_drop] at hmore
      rw [List.length_take]
      omega
    · have hsplit := hdescending
      rw [← List.take_append_drop limit rows] at hsplit
      exact (List.pairwise_append.mp hsplit).2.2 p hp r hdrop

/-- What comes was stored when its page was read, and is behind the cursor. -/
theorem Follows.sound (h : Follows key stored limit k cursor pages ended) :
    ∀ r ∈ pages.flatten, Behind key cursor r ∧ ∃ j, k ≤ j ∧ j < k + pages.length ∧ stored j r := by
  induction h with
  | unasked k cursor =>
      intro r hr
      cases hr
  | @last k cursor page hpage hshort =>
      intro r hr
      have hr : r ∈ page := by simpa using hr
      obtain ⟨hstored, hbehind⟩ := hpage.sound r hr
      exact ⟨hbehind, k, le_rfl, by simp, hstored⟩
  | @more k cursor page r₀ pages ended hpage hfull hlast rest ih =>
      intro r hr
      rw [List.flatten_cons] at hr
      rcases List.mem_append.mp hr with hfirst | hlater
      · obtain ⟨hstored, hbehind⟩ := hpage.sound r hfirst
        exact ⟨hbehind, k, le_rfl, by simp, hstored⟩
      · obtain ⟨hbehind, j, hfrom, huntil, hstored⟩ := ih r hlater
        -- the cursor of the next page is the key of a row of this one
        have hr₀ : r₀ ∈ page := List.mem_of_getLast? hlast
        refine ⟨fun c hc => (hbehind (key r₀) rfl).trans ((hpage.sound r₀ hr₀).2 c hc), j, ?_, ?_,
          hstored⟩
        · exact (Nat.le_succ k).trans hfrom
        · rw [List.length_cons]
          omega

/-- **Nothing is repeated**, and the order is right across pages. -/
theorem Follows.descending (h : Follows key stored limit k cursor pages ended) :
    Descending key pages.flatten := by
  induction h with
  | unasked k cursor => exact List.Pairwise.nil
  | last hpage hshort =>
      simpa using hpage.descending
  | @more k cursor page r₀ pages ended hpage hfull hlast rest ih =>
      rw [List.flatten_cons]
      refine List.pairwise_append.mpr ⟨hpage.descending, ih, ?_⟩
      intro p hp r hr
      have hbehind : key r < key r₀ := (rest.sound r hr).1 (key r₀) rfl
      exact hbehind.trans_le (hpage.descending.last_le hlast p hp)

/-- **Nothing is lost**: when the pages have ended, every row that was stored behind the
cursor has come. -/
theorem Follows.complete (hgrows : ∀ k r, stored k r → stored (k + 1) r)
    (h : Follows key stored limit k cursor pages ended) (hended : ended = true) :
    ∀ r, stored k r → Behind key cursor r → r ∈ pages.flatten := by
  induction h with
  | unasked k cursor => cases hended
  | last hpage hshort =>
      intro r hstored hbehind
      by_contra hmissing
      have hleft : r ∉ _ := fun hr => hmissing (by simpa using hr)
      exact hshort (hpage.complete r hstored hbehind hleft).1
  | @more k cursor page r₀ pages ended hpage hfull hlast rest ih =>
      intro r hstored hbehind
      rw [List.flatten_cons, List.mem_append]
      by_cases hr : r ∈ page
      · exact Or.inl hr
      · -- left out of this page, so behind its last row
        have hr₀ : r₀ ∈ page := List.mem_of_getLast? hlast
        have hnext : key r < key r₀ := (hpage.complete r hstored hbehind hr).2 r₀ hr₀
        refine Or.inr (ih hended r (hgrows k r hstored) ?_)
        intro c hc
        obtain rfl := Option.some.inj hc
        exact hnext

/-- Every page but the last is full. -/
theorem Follows.count (h : Follows key stored limit k cursor pages ended) :
    pages.length * limit ≤ pages.flatten.length + if ended then limit else 0 := by
  induction h with
  | unasked k cursor => simp
  | last hpage hshort => simp
  | more hpage hfull hlast rest ih =>
      rw [List.length_cons, List.flatten_cons, List.length_append, hfull, Nat.succ_mul]
      omega

/-- Rows that come, and all of which are in a list, are no more than the list has. -/
theorem Follows.length_le (h : Follows key stored limit k cursor pages ended) {all : List ρ}
    (hall : ∀ r ∈ pages.flatten, r ∈ all) : pages.flatten.length ≤ all.length :=
  (h.descending.nodup.subperm hall).length_le

/-! ## Tokens

A client sees views of the pages, and a token instead of the cursor. -/

/-- How following the tokens came to an end. -/
inductive WalkEnd
  /-- The last page has no token. -/
  | ended
  /-- The last page has a token, and no more requests were made. -/
  | unasked
  /-- A request was not answered with a page. -/
  | failed
  deriving DecidableEq

/-- Ask for a page, and then for the page its token names, with at most so many requests. The end
says whether the client stopped, or the last page was reached, or a request failed. -/
def walk {π τ : Type u} (ask : ℕ → Option τ → Option (π × Option τ)) :
    ℕ → ℕ → Option τ → List π × WalkEnd
  | 0, _, _ => ([], .unasked)
  | requests + 1, k, token =>
      match ask k token with
      | none => ([], .failed)
      | some (page, none) => ([page], .ended)
      | some (page, some next) =>
          let rest := walk ask requests (k + 1) (some next)
          (page :: rest.1, rest.2)

/-- The answers are views of the pages behind the cursors that the tokens name. -/
def Serves {π τ : Type u} (key : ρ → K) (stored : ℕ → ρ → Prop) (limit : ℕ) (view : List ρ → π)
    (Names : ℕ → Option τ → Option K → Prop) (ask : ℕ → Option τ → Option (π × Option τ)) : Prop :=
  ∀ k token cursor, Names k token cursor →
    ∃ page next, IsPage key (stored k) limit cursor page ∧ ask k token = some (view page, next) ∧
      (page.length ≠ limit → next = none) ∧
      (page.length = limit → ∃ r t, page.getLast? = some r ∧ next = some t ∧
        Names (k + 1) (some t) (some (key r)))

/-- The usual tokens: a full page has that of its last row, and every other page has none. -/
theorem Serves.of_last {π τ : Type u} {view : List ρ → π}
    {Names : ℕ → Option τ → Option K → Prop} {ask : ℕ → Option τ → Option (π × Option τ)}
    {token : ρ → τ} (hlimit : 1 ≤ limit)
    (hask : ∀ k t cursor, Names k t cursor → ∃ page, IsPage key (stored k) limit cursor page ∧
      ask k t = some (view page,
        if page.length = limit then page.getLast?.map token else none))
    (hnames : ∀ k r, stored k r → Names (k + 1) (some (token r)) (some (key r))) :
    Serves key stored limit view Names ask := by
  intro k t cursor ht
  obtain ⟨page, hpage, hanswer⟩ := hask k t cursor ht
  refine ⟨page, _, hpage, hanswer, fun hshort => if_neg hshort, fun hfull => ?_⟩
  have hne : page ≠ [] := by
    rintro rfl
    simp only [List.length_nil] at hfull
    omega
  have hlast : page.getLast? = some (page.getLast hne) := List.getLast?_eq_some_getLast hne
  refine ⟨page.getLast hne, token (page.getLast hne), hlast, ?_,
    hnames k _ (hpage.sound _ (List.mem_of_getLast? hlast)).1⟩
  rw [if_pos hfull, hlast, Option.map_some]

/-- **Following the tokens** is following the cursors they name. -/
theorem Serves.follows {π τ : Type u} {view : List ρ → π}
    {Names : ℕ → Option τ → Option K → Prop} {ask : ℕ → Option τ → Option (π × Option τ)}
    (h : Serves key stored limit view Names ask) (requests : ℕ) {token : Option τ}
    (hnames : Names k token cursor) :
    ∃ pages ended, Follows key stored limit k cursor pages ended ∧
      walk ask requests k token =
        (pages.map view, if ended then WalkEnd.ended else .unasked) ∧
      pages.length ≤ requests ∧ (ended = false → pages.length = requests) := by
  induction requests generalizing k token cursor with
  | zero => exact ⟨[], false, .unasked k cursor, rfl, le_rfl, fun _ => rfl⟩
  | succ requests ih =>
      obtain ⟨page, next, hpage, hask, hshort, hfull⟩ := h k token cursor hnames
      by_cases hlength : page.length = limit
      · obtain ⟨r, t, hlast, rfl, hnext⟩ := hfull hlength
        obtain ⟨pages, ended, hfollows, hrest, hmost, hall⟩ := ih hnext
        refine ⟨page :: pages, ended, .more hpage hlength hlast hfollows, ?_, ?_, ?_⟩
        · simp only [walk, hask, hrest, List.map_cons]
        · exact Nat.succ_le_succ hmost
        · intro hended
          rw [List.length_cons, hall hended]
      · obtain rfl := hshort hlength
        refine ⟨[page], true, .last hpage hlength, ?_, ?_, fun hended => by cases hended⟩
        · simp only [walk, hask, List.map_cons, List.map_nil, if_true]
        · simp

/-- With more requests than the rows fill pages, the last page comes. -/
theorem Follows.ended_of_requests (h : Follows key stored limit k cursor pages ended)
    (hlimit : 1 ≤ limit) {requests most : ℕ} (hall : ended = false → pages.length = requests)
    (hmost : pages.flatten.length ≤ most) (henough : most / limit < requests) : ended = true := by
  by_contra hunasked
  have hended : ended = false := by simpa using hunasked
  have hcount : pages.length * limit ≤ pages.flatten.length := by
    simpa [hended] using h.count
  rw [hall hended] at hcount
  have hmore : most < requests * limit := (Nat.div_lt_iff_lt_mul hlimit).mp henough
  omega

end Keyset
