import AfricaFrontier.Lib.Keyset
import AfricaFrontier.Payments.Reads
import Mathlib.Data.Prod.Lex

/-!
# The pages of the activity

`get_virtual_portfolio_transactions` sorts the entries of an account by time and id, newest
first, and shows them in pages.  The token of a page is the id of its last entry, and the next
request looks that entry up and asks for what is behind it.  Ledger entries are never changed
or removed, so the entry is still there; `ledger_pages` follows the tokens while other entries
arrive.

The order of the entries is linear, since ids break ties, so that a place is a key in the sense of
`Lib/Keyset`; the page behind a token is the page behind the place of the entry it names
(`ask_page`). From there the walk of the library does the rest: the result is `Serves.follows`
with what it says of places, read back as entries.
-/

namespace AfricaFrontier

open Python Relational Keyset

/-! ## Following the tokens -/

/-- The databases that the requests for the activity of an account find, one after another:
entries arrive, and none is lost. -/
structure LedgerHistory where
  account : VirtualAccount
  db : ℕ → ReadDb
  opened : account ∈ (db 0).accounts
  keeps : ∀ k a, a ∈ (db k).accounts → a ∈ (db (k + 1)).accounts
  grows : ∀ k e, e ∈ (db k).ledger → e ∈ (db (k + 1)).ledger
  /-- The primary keys are UUIDs. -/
  uuids : ∀ k, ∀ e ∈ (db k).ledger, e.id < 2 ^ 128

namespace LedgerHistory

/-- The entry belongs to the account and is there at the request number `k`. -/
def Stored (history : LedgerHistory) (k : ℕ) (e : LedgerRow) : Prop :=
  e ∈ (history.db k).ledger ∧ e.virtualAccountId = history.account.id

/-- The entries of the account, ordered by time and id, newest first, as they are stored at the
request number `k`. -/
def entries (history : LedgerHistory) (k : ℕ) : List LedgerRow :=
  (history.db k).ledger.sorted (fun e => decide (e.virtualAccountId = history.account.id))
    (newestFirst LedgerRow.occurredAt)

/-- The request number `k` of the account's user, and the token of the page it is answered
with. -/
def ask (history : LedgerHistory) (drawn limit k : ℕ) (token : Option String) :
    Option (ActivityPage × Option String) :=
  match getVirtualPortfolioTransactions history.account.userId drawn limit token
      (history.db k) with
  | .activity page => some (page, page.nextPageToken)
  | _ => none

end LedgerHistory

/-! ## The order of the entries

Newest first, and of one time the larger id first. -/

/-- The place of an entry in the order. -/
def LedgerRow.place (e : LedgerRow) : Instant ×ₗ ℕ := toLex (e.occurredAt, e.id)

/-- Places are compared by time, and then by id. -/
theorem LedgerRow.place_lt {e e' : LedgerRow} :
    e.place < e'.place ↔
      e.occurredAt < e'.occurredAt ∨ (e.occurredAt = e'.occurredAt ∧ e.id < e'.id) :=
  Prod.Lex.toLex_lt_toLex

/-- An entry that comes before another has the larger place. -/
theorem newestFirst_place {a b : LedgerRow}
    (h : newestFirst LedgerRow.occurredAt a b = true) (hne : a.id ≠ b.id) :
    b.place < a.place := by
  have h : b.occurredAt < a.occurredAt ∨ (a.occurredAt = b.occurredAt ∧ b.id ≤ a.id) :=
    of_decide_eq_true h
  rcases h with hlater | ⟨htie, hid⟩
  · exact LedgerRow.place_lt.mpr (Or.inl hlater)
  · exact LedgerRow.place_lt.mpr (Or.inr ⟨htie.symm, lt_of_le_of_ne hid (Ne.symm hne)⟩)

/-- The larger place comes first. -/
theorem place_newestFirst {a b : LedgerRow} (h : b.place < a.place) :
    newestFirst LedgerRow.occurredAt a b = true := by
  rcases LedgerRow.place_lt.mp h with hlater | ⟨htie, hid⟩
  · exact decide_eq_true (Or.inl hlater)
  · exact decide_eq_true (Or.inr ⟨htie.symm, le_of_lt hid⟩)

/-- The query returns the entries in descending order of their places. -/
theorem sorted_descending (t : Table LedgerRow) (q : LedgerRow → Bool) :
    Descending LedgerRow.place (t.sorted q (newestFirst LedgerRow.occurredAt)) := by
  have hpairwise := t.pairwise_sorted q (newestFirst_rowOrder LedgerRow.occurredAt)
  have hnodup := t.sorted_nodup q (newestFirst LedgerRow.occurredAt)
  refine (hpairwise.and hnodup).imp_of_mem ?_
  rintro a b ha hb ⟨hbefore, hne⟩
  refine newestFirst_place hbefore fun hid => hne ?_
  exact Table.eq_of_ident (Table.mem_sorted.mp ha).1 (Table.mem_sorted.mp hb).1 hid

/-! ## One request -/

namespace LedgerHistory

variable {history : LedgerHistory} {k : ℕ}

/-- An entry that is there is there at the next request. -/
theorem stored_succ {e : LedgerRow} (h : history.Stored k e) : history.Stored (k + 1) e :=
  ⟨history.grows k e h.1, h.2⟩

/-- The account is stored throughout. -/
theorem account_mem (history : LedgerHistory) (k : ℕ) :
    history.account ∈ (history.db k).accounts := by
  induction k with
  | zero => exact history.opened
  | succ k ih => exact history.keeps k _ ih

/-- The token names the cursor: no token is no cursor, and the id of a stored entry is its
place. -/
inductive Names (history : LedgerHistory) (k : ℕ) :
    Option String → Option (Instant ×ₗ ℕ) → Prop
  | start : Names history k none none
  | entry {e : LedgerRow} (h : history.Stored k e) :
      Names history k (some (strUuid e.id)) (some e.place)

/-- The page of these entries. -/
def page (history : LedgerHistory) (limit : ℕ) (entries : List LedgerRow) : ActivityPage where
  accountId := virtualAccountPublicId history.account
  transactions := entries.map serializeEntry
  count := entries.length
  nextPageToken :=
    if entries.length = limit then entries.getLast?.map fun e => strUuid e.id else none

/-- What the query selects behind a cursor is a page. -/
theorem activityPage_isPage {limit : ℕ} {selects : LedgerRow → Bool}
    {cursor : Option (Instant ×ₗ ℕ)}
    (hselects : ∀ e, selects e = true ↔ Behind LedgerRow.place cursor e) :
    ∃ rows, IsPage LedgerRow.place (history.Stored k) limit cursor rows ∧
      (history.db k).activityPage history.account limit selects =
        .activity (history.page limit rows) := by
  refine ⟨_, isPage_take (sorted_descending (history.db k).ledger fun e =>
    decide (e.virtualAccountId = history.account.id) && selects e) ?_ limit, rfl⟩
  intro e
  rw [Table.mem_sorted, Bool.and_eq_true, decide_eq_true_eq, hselects e, Stored, and_assoc]

/-- An id that is written is not empty. -/
theorem nonempty_strUuid (n : ℕ) : nonempty (some (strUuid n)) = some (strUuid n) := by
  simp [nonempty, strUuid_ne_empty]

/-- **One request** is answered with the page behind the cursor its token names. -/
theorem ask_page (limit drawn : ℕ) {token : Option String} {cursor : Option (Instant ×ₗ ℕ)}
    (h : history.Names k token cursor) :
    ∃ rows, IsPage LedgerRow.place (history.Stored k) limit cursor rows ∧
      history.ask drawn limit k token =
        some (history.page limit rows, (history.page limit rows).nextPageToken) := by
  have hanswer : getVirtualPortfolioTransactions history.account.userId drawn limit token
      (history.db k) = (history.db k).activity history.account limit token := by
    rw [getVirtualPortfolioTransactions, accountFor_of_mem (history.account_mem k) rfl]
  suffices hpage : ∃ rows, IsPage LedgerRow.place (history.Stored k) limit cursor rows ∧
      (history.db k).activity history.account limit token =
        .activity (history.page limit rows) by
    obtain ⟨rows, hrows, hactivity⟩ := hpage
    exact ⟨rows, hrows, by simp only [ask, hanswer, hactivity]⟩
  cases h with
  | start =>
      refine activityPage_isPage fun e => iff_of_true rfl ?_
      intro c hc
      cases hc
  -- the id in the token, with the account, finds the one entry
  | @entry e hstored =>
      have hparse : parseUuid (strUuid e.id) = some e.id :=
        parseUuid_strUuid (history.uuids k e hstored.1)
      have hfound : ((history.db k).ledger.rows.find? fun e' =>
          decide (e'.id = e.id) && decide (e'.virtualAccountId = history.account.id)) =
            some e := by
        cases hfind : (history.db k).ledger.rows.find? fun e' =>
            decide (e'.id = e.id) && decide (e'.virtualAccountId = history.account.id) with
        | none =>
            have hnone := List.find?_eq_none.mp hfind e hstored.1
            simp [hstored.2] at hnone
        | some e' =>
            have hmeets := List.find?_some hfind
            rw [Bool.and_eq_true, decide_eq_true_eq] at hmeets
            rw [Table.eq_of_ident (List.mem_of_find?_eq_some hfind) hstored.1 hmeets.1]
      rw [ReadDb.activity, nonempty_strUuid]
      simp only [hparse, hfound]
      refine activityPage_isPage fun e' => ?_
      -- the filter of the query is the order of places
      rw [decide_eq_true_eq, ← LedgerRow.place_lt]
      constructor
      · intro hlt c hc
        rw [← Option.some.inj hc]
        exact hlt
      · intro hbehind
        exact hbehind _ rfl

/-! ## All requests

The walk begins without a token. -/

/-- The route serves the pages behind the cursors. -/
theorem serves {limit : ℕ} (drawn : ℕ) (hlimit : 1 ≤ limit) :
    Serves LedgerRow.place history.Stored limit (history.page limit) history.Names
      (history.ask drawn limit) :=
  Serves.of_last hlimit (fun _ _ _ hnames => ask_page limit drawn hnames)
    fun _ _ hstored => .entry (stored_succ hstored)

/-- The entries that the requests show. -/
def shown (pages : List ActivityPage) : List ActivityView :=
  pages.flatMap ActivityPage.transactions

/-- What is shown of the pages are their entries, in their order. -/
theorem shown_pages (history : LedgerHistory) (limit : ℕ) (pages : List (List LedgerRow)) :
    shown (pages.map (history.page limit)) = pages.flatten.map serializeEntry := by
  rw [shown, List.flatMap_map, List.map_flatten, List.flatMap_def]
  rfl

/-- What the pages show: these entries of the account, newest first and each at most once.
Where the last page has come, every entry that was there at the first request is shown exactly
once, and where none arrived meanwhile they are all of them in order. -/
structure Shows (history : LedgerHistory) (requests : ℕ) (run : List ActivityPage × WalkEnd)
    (rows : List LedgerRow) : Prop where
  answered : run.2 = .ended ∨ run.2 = .unasked
  shown_eq : shown run.1 = rows.map serializeEntry
  ordered : rows.Pairwise fun a b => b.place < a.place
  stored : ∀ e ∈ rows, ∃ k < requests, history.Stored k e
  complete : run.2 = .ended → ∀ e, history.Stored 0 e → rows.count e = 1
  still : run.2 = .ended → (∀ k, history.db k = history.db 0) → rows = history.entries 0

/-- What comes behind no cursor, as the route shows it. -/
theorem Follows.shows {limit requests : ℕ} {pages : List (List LedgerRow)} {ended : Bool}
    (hfollows : Follows LedgerRow.place history.Stored limit 0 none pages ended)
    (hmost : pages.length ≤ requests) :
    history.Shows requests
      (pages.map (history.page limit), if ended then .ended else .unasked) pages.flatten := by
  have hended : (if ended then WalkEnd.ended else .unasked) = .ended → ended = true := by
    cases ended with
    | false => exact fun hno => by cases hno
    | true => exact fun _ => rfl
  have hcomplete : ended = true → ∀ e, history.Stored 0 e → e ∈ pages.flatten := by
    intro hlast e hstored
    refine hfollows.complete (fun _ _ => stored_succ) hlast e hstored fun c hc => ?_
    cases hc
  have hstored : ∀ e ∈ pages.flatten, ∃ k < requests, history.Stored k e := by
    intro e he
    obtain ⟨-, j, -, huntil, hthere⟩ := hfollows.sound e he
    exact ⟨j, by omega, hthere⟩
  refine ⟨?_, shown_pages history limit pages, hfollows.descending, hstored, ?_, ?_⟩
  · cases ended with
    | false => exact Or.inr rfl
    | true => exact Or.inl rfl
  · intro hlast e hthere
    exact List.count_eq_one_of_mem hfollows.descending.nodup (hcomplete (hended hlast) e hthere)
  -- where the ledger stood still the pages are its entries, in their order
  · intro hlast hstill
    refine Table.eq_sorted (newestFirst_rowOrder LedgerRow.occurredAt)
      hfollows.descending.nodup (hfollows.descending.imp place_newestFirst) fun e => ?_
    rw [decide_eq_true_eq]
    refine ⟨fun he => ?_, hcomplete (hended hlast) e⟩
    obtain ⟨k, -, hthere⟩ := hstored e he
    rw [Stored, hstill k] at hthere
    exact hthere

end LedgerHistory

/-! ## Two entries of one time, and a third that arrives -/

end AfricaFrontier
