import AfricaFrontier.Payments.Session
import AfricaFrontier.Lib.Pool

/-!
# Broker account links

A user links one account of the broker, and every later read of the portfolio, the wallet or
the activities asks the broker about the account of the link.  `link_broker_account` asks the
broker first, then reads the link of the user and writes it.  What it writes is the columns
that differ from what it has read: a request for the account that it read as linked writes
nothing, though another request may have linked a second account meanwhile.

`seesLink` says that the account it writes nothing for is still linked, and
`linked_as_answered_iff` that nothing else parts what is stored from what was answered.  Never
is the broker asked, for a user, about an account that user has not linked
(`asked_account_linked`).

The two results use one inversion of a step (`BrokerStep`). For the first, the sources of every
account number are followed: a confirmation by the broker, a committed link, a stored row, the
copy of a session (`LinksBacked`, `SessionBacked`); nothing of it is ever forgotten (`Keeps`). For
the second, a write is compared with the row it goes over: it sets the account unless the request
has read that very account (`Writes.account`).
-/

namespace AfricaFrontier.MarketGateway

open Python Relational Transition

/-! ## The table -/

/-- A row of `broker_account_links`. -/
structure BrokerAccountLink where
  id : ℕ
  userId : ℕ
  alpacaAccountId : String
  status : String := "pending"
  deriving DecidableEq

/-- The columns of a link that a constraint speaks about. -/
structure BrokerAccountLinkKey where
  id : ℕ
  userId : ℕ
  alpacaAccountId : String
  deriving DecidableEq

instance : Row BrokerAccountLink where
  Key := BrokerAccountLinkKey
  key r := ⟨r.id, r.userId, r.alpacaAccountId⟩
  primary := BrokerAccountLinkKey.id
  Clash a b := a.userId = b.userId ∨ a.alpacaAccountId = b.alpacaAccountId
  decClash _ _ := inferInstance

@[simp] theorem BrokerAccountLink.ident_eq (r : BrokerAccountLink) : ident r = r.id := rfl

/-! ## The routes

The broker is asked before the row is read, and again by every read of the portfolio. -/

/-- The body of `POST /api/v1/broker/account-link`. -/
structure BrokerAccountLinkRequest where
  alpacaAccountId : String
  length_ge : 8 ≤ alpacaAccountId.length
  length_le : alpacaAccountId.length ≤ 100

/-- The answer of `link_broker_account`. -/
structure LinkAnswer where
  userId : ℕ
  accountId : Json
  status : String

/-- Its answer from what the broker said of the account; `none` where `account.get` raises. -/
def linkAnswer (userId : ℕ) (payload : BrokerAccountLinkRequest) : Json → Option LinkAnswer
  | .obj account =>
      some ⟨userId, Obj.getD account "id" (.str payload.alpacaAccountId), "active"⟩
  | _ => none

/-- A link that a request has committed. -/
structure Linking where
  userId : ℕ
  alpacaAccountId : String
  answer : Option LinkAnswer

/-- The links; and, for statements about runs only, the accounts the broker has confirmed to a
user, the links that requests have committed, and the accounts it was asked about for a user. -/
structure BrokerStore where
  links : Table BrokerAccountLink
  confirmed : List (ℕ × String)
  linkings : List Linking
  asked : List (ℕ × String)

/-- Nobody has linked anything. -/
def BrokerStore.empty : BrokerStore := ⟨Table.empty, [], [], []⟩

/-- The requests: to link an account, and to read of the linked one, which `get_portfolio`,
`get_portfolio_transactions` and `get_wallet_balance` do alike. -/
inductive BrokerCall
  | link (userId : ℕ) (payload : BrokerAccountLinkRequest)
  | read (userId : ℕ)

/-- Where a request stands: a link asks the broker, looks for a row and writes it, a read looks
for the link and asks the broker. -/
inductive BrokerSession
  | confirming (userId : ℕ) (payload : BrokerAccountLinkRequest)
  | looking (userId : ℕ) (payload : BrokerAccountLinkRequest) (account : Json)
  | linking (userId : ℕ) (payload : BrokerAccountLinkRequest) (account : Json)
      (link : Option BrokerAccountLink)
  | finding (userId : ℕ)
  | asking (userId : ℕ) (link : BrokerAccountLink)

/-- The environment's part in a step: what the broker answers, if it does, and whether the
database fails. -/
structure BrokerTick where
  broker : Option Json := none
  fault : Bool := false

/-- The link of a user. -/
def BrokerStore.linkOf (s : BrokerStore) (userId : ℕ) :
    Except PyError (Option BrokerAccountLink) :=
  scalarOneOrNone (s.links.rows.filter fun l => decide (l.userId = userId))

/-- `get_linked_broker_account`; `none` is its 409. -/
def BrokerStore.getLinkedBrokerAccount (s : BrokerStore) (userId : ℕ) :
    Except PyError (Option BrokerAccountLink) :=
  scalarOneOrNone
    (s.links.rows.filter fun l => decide (l.userId = userId) && decide (l.status = "active"))

/-- What the `UPDATE` makes of the row: it sets the columns in which the request differs from
the copy it has read. -/
def BrokerAccountLink.rewritten (copy : BrokerAccountLink) (accountId : String)
    (row : BrokerAccountLink) : BrokerAccountLink :=
  { row with
    alpacaAccountId := if copy.alpacaAccountId = accountId then row.alpacaAccountId else accountId
    status := if copy.status = "active" then row.status else "active" }

/-- The link is stored; `none` is the `IntegrityError` of a unique column. -/
def BrokerStore.writeLink (s : BrokerStore) (userId : ℕ) (payload : BrokerAccountLinkRequest) :
    Option BrokerAccountLink → Option (Table BrokerAccountLink)
  | none =>
      s.links.insert (fun id => ⟨id, userId, payload.alpacaAccountId, "active"⟩) (fun _ => rfl)
  | some copy =>
      s.links.replace copy.id (copy.rewritten payload.alpacaAccountId) (fun _ => rfl)

/-- The next step of a request. -/
def BrokerSession.step (s : BrokerStore) (tick : BrokerTick) :
    BrokerSession → BrokerStore × Option BrokerSession
  | .confirming userId payload =>
      match tick.broker with
      | none => (s, none)
      | some account =>
          ({ s with confirmed := s.confirmed ++ [(userId, payload.alpacaAccountId)] },
            some (.looking userId payload account))
  | .looking userId payload account =>
      if tick.fault then (s, none)
      else
        match s.linkOf userId with
        | .error _ => (s, none)
        | .ok link => (s, some (.linking userId payload account link))
  | .linking userId payload account link =>
      if tick.fault then (s, none)
      else
        -- the link as it was loaded is written back, or a new one inserted
        match s.writeLink userId payload link with
        | none => (s, none)
        | some links =>
            ({ s with
                links := links
                linkings := s.linkings ++
                  [⟨userId, payload.alpacaAccountId, linkAnswer userId payload account⟩] }, none)
  | .finding userId =>
      if tick.fault then (s, none)
      else
        match s.getLinkedBrokerAccount userId with
        | .ok (some link) => (s, some (.asking userId link))
        | _ => (s, none)
  | .asking userId link =>
      ({ s with asked := s.asked ++ [(userId, link.alpacaAccountId)] }, none)

/-- The requests about broker accounts. -/
def brokerCalls : Sessions BrokerStore BrokerCall BrokerSession BrokerTick where
  init
    | .link userId payload => .confirming userId payload
    | .read userId => .finding userId
  advance s t tick := some (t.step s tick)

/-! ## The property and its condition -/

/-- The account is linked to the user. -/
def BrokerStore.Holds (s : BrokerStore) (userId : ℕ) (accountId : String) : Prop :=
  ∃ l ∈ s.links, l.userId = userId ∧ l.alpacaAccountId = accountId

/-- The account of the last link of the user that was committed. -/
def BrokerStore.lastLinked (s : BrokerStore) (userId : ℕ) : Option String :=
  (s.linkings.filter fun l => decide (l.userId = userId)).getLast?.map Linking.alpacaAccountId

/-- What is stored is what was linked last, user by user, in the order of the commits. -/
def BrokerStore.AsLinked (s : BrokerStore) : Prop :=
  ∀ userId accountId, s.Holds userId accountId ↔ s.lastLinked userId = some accountId

/-- Its condition on a step: a request that finds its account linked, and so has nothing to
write, commits while it still is. -/
def seesLink (s : BrokerStore) (t : BrokerSession) (tick : BrokerTick) : Prop :=
  ∀ userId payload account copy, t = .linking userId payload account (some copy) →
    tick.fault = false → copy.alpacaAccountId = payload.alpacaAccountId →
      s.Holds userId payload.alpacaAccountId

/-! ## What a step does -/

section Rows

variable {s : BrokerStore} {l : BrokerAccountLink}

/-- A user has one link. -/
theorem BrokerStore.eq_of_userId {l l' : BrokerAccountLink} (h : l ∈ s.links) (h' : l' ∈ s.links)
    (hsame : l.userId = l'.userId) : l = l' :=
  Table.eq_of_clash h h' (fun _ _ => Or.imp Eq.symm Eq.symm) (Or.inl hsame)

/-- A stored link says which account is linked. -/
theorem BrokerStore.holds_iff (h : l ∈ s.links) {accountId : String} :
    s.Holds l.userId accountId ↔ l.alpacaAccountId = accountId := by
  constructor
  · rintro ⟨l', hl', hsame, rfl⟩
    rw [BrokerStore.eq_of_userId h hl' hsame.symm]
  · rintro rfl
    exact ⟨l, h, rfl, rfl⟩

/-- What the query finds is the link of the user. -/
theorem BrokerStore.mem_of_linkOf {userId : ℕ} (h : s.linkOf userId = .ok (some l)) :
    l ∈ s.links ∧ l.userId = userId := by
  have hfilter := scalarOneOrNone_eq_ok_some.mp h
  have hmem : l ∈ s.links.rows.filter fun l => decide (l.userId = userId) := by
    rw [hfilter]
    exact List.mem_cons_self
  obtain ⟨hl, huser⟩ := List.mem_filter.mp hmem
  exact ⟨hl, of_decide_eq_true huser⟩

/-- What the query for an active link finds is a stored link of the user. -/
theorem BrokerStore.mem_of_getLinkedBrokerAccount {userId : ℕ}
    (h : s.getLinkedBrokerAccount userId = .ok (some l)) : l ∈ s.links ∧ l.userId = userId := by
  have hfilter := scalarOneOrNone_eq_ok_some.mp h
  have hmem : l ∈ s.links.rows.filter
      fun l => decide (l.userId = userId) && decide (l.status = "active") := by
    rw [hfilter]
    exact List.mem_cons_self
  obtain ⟨hl, hmeets⟩ := List.mem_filter.mp hmem
  exact ⟨hl, of_decide_eq_true (Bool.and_eq_true_iff.mp hmeets).1⟩

end Rows

/-- A copy is of a row of the user. -/
def BrokerStore.Copies (s : BrokerStore) (userId : ℕ) (copy : BrokerAccountLink) : Prop :=
  ∃ l ∈ s.links, l.id = copy.id ∧ l.userId = userId

/-- What writing a link makes of the stored ones, `row` being what becomes of the user's. -/
structure Writes (s : BrokerStore) (userId : ℕ) (payload : BrokerAccountLinkRequest)
    (link : Option BrokerAccountLink) (links : Table BrokerAccountLink)
    (row : BrokerAccountLink) : Prop where
  mine : row.userId = userId
  mem_iff : ∀ l, l ∈ links ↔ (l ∈ s.links ∧ l.userId ≠ userId) ∨ l = row
  same_id : ∀ l ∈ s.links, l.userId = userId → l.id = row.id
  /-- A request that has no account to write leaves the one there is. -/
  kept : ∀ copy, link = some copy → copy.alpacaAccountId = payload.alpacaAccountId →
    s.Holds userId row.alpacaAccountId
  set : (∀ copy, link = some copy → copy.alpacaAccountId ≠ payload.alpacaAccountId) →
    row.alpacaAccountId = payload.alpacaAccountId

section Writes

variable {s : BrokerStore} {userId : ℕ} {payload : BrokerAccountLinkRequest}
  {link : Option BrokerAccountLink} {links : Table BrokerAccountLink} {copy : BrokerAccountLink}

/-- **One write** of a link. -/
theorem exists_writes (hcopy : ∀ copy, link = some copy → s.Copies userId copy)
    (h : s.writeLink userId payload link = some links) :
    ∃ row, Writes s userId payload link links row := by
  cases link with
  | none =>
      have hinsert : s.links.insert
          (fun id => ⟨id, userId, payload.alpacaAccountId, "active"⟩) (fun _ => rfl) =
        some links := h
      have hfree := Table.not_clash_of_insert hinsert
      refine ⟨⟨s.links.next, userId, payload.alpacaAccountId, "active"⟩, rfl, fun l => ?_, ?_,
        (fun _ hnone => by cases hnone), fun _ => rfl⟩
      · rw [Table.mem_insert hinsert]
        refine or_congr_left ⟨fun hl => ⟨hl, fun hsame => ?_⟩, And.left⟩
        exact hfree l hl (Or.inl hsame)
      · intro l hl hsame
        exact absurd (Or.inl hsame) (hfree l hl)
  | some copy =>
      -- the copy is of a stored link, the only one of its user
      obtain ⟨l₀, hl₀, hid, huser⟩ := hcopy copy rfl
      have hreplace : s.links.replace copy.id (copy.rewritten payload.alpacaAccountId)
          (fun _ => rfl) = some links := h
      refine ⟨copy.rewritten payload.alpacaAccountId l₀, huser, fun l => ?_, ?_, ?_,
        fun hset => if_neg (hset copy rfl)⟩
      · rw [Table.mem_replace hreplace]
        constructor
        · rintro ⟨l₁, hl₁, rfl⟩
          by_cases hsame : ident l₁ = copy.id
          · have heq : l₁ = l₀ := Table.eq_of_ident hl₁ hl₀ (hsame.trans hid.symm)
            rw [if_pos hsame, heq]
            exact Or.inr rfl
          · rw [if_neg hsame]
            refine Or.inl ⟨hl₁, fun hmine => hsame ?_⟩
            rw [BrokerStore.eq_of_userId hl₁ hl₀ (hmine.trans huser.symm)]
            exact hid
        · rintro (⟨hl, hother⟩ | rfl)
          · refine ⟨l, hl, ?_⟩
            rw [if_neg]
            intro hsame
            have heq : l = l₀ := Table.eq_of_ident hl hl₀ (hsame.trans hid.symm)
            exact hother (heq ▸ huser)
          · exact ⟨l₀, hl₀, by rw [if_pos (show ident l₀ = copy.id from hid)]⟩
      · intro l hl hsame
        rw [BrokerStore.eq_of_userId hl hl₀ (hsame.trans huser.symm)]
        rfl
      -- the columns that were set are those the row has
      · rintro _ ⟨⟩ hsame
        exact ⟨l₀, hl₀, huser, (if_pos hsame).symm⟩

/-- The user's account is the one of the request or the one there was. -/
theorem Writes.account {row : BrokerAccountLink} (h : Writes s userId payload link links row) :
    row.alpacaAccountId = payload.alpacaAccountId ∨ s.Holds userId row.alpacaAccountId := by
  by_cases hset : ∀ copy, link = some copy → copy.alpacaAccountId ≠ payload.alpacaAccountId
  · exact Or.inl (h.set hset)
  · obtain ⟨copy, hcopy, hsame⟩ : ∃ copy, link = some copy ∧
        copy.alpacaAccountId = payload.alpacaAccountId := by
      simpa only [not_forall, not_not, exists_prop] using hset
    exact Or.inr (h.kept copy hcopy hsame)

/-- A request that has nothing to write but the status is not refused. -/
theorem exists_writeLink (hsame : copy.alpacaAccountId = payload.alpacaAccountId) :
    ∃ links, s.writeLink userId payload (some copy) = some links := by
  refine Table.exists_replace (copy.rewritten payload.alpacaAccountId) (fun _ => rfl)
    (fun _ _ => Or.imp Eq.symm Eq.symm) ?_
  intro l hl hid l' hl' hid' hclash
  have hkept : (copy.rewritten payload.alpacaAccountId l).alpacaAccountId = l.alpacaAccountId :=
    if_pos hsame
  have hold : Row.Clash (Row.key l') (Row.key l) := by
    rcases hclash with huser | haccount
    · exact Or.inl huser
    · exact Or.inr (haccount.trans hkept)
  have heq : l' = l := Table.eq_of_clash hl' hl (fun _ _ => Or.imp Eq.symm Eq.symm) hold
  exact hid' (heq ▸ hid)

end Writes

/-- The store after a link was committed. -/
def BrokerStore.committed (s : BrokerStore) (userId : ℕ) (payload : BrokerAccountLinkRequest)
    (account : Json) (links : Table BrokerAccountLink) : BrokerStore :=
  { s with
    links := links
    linkings := s.linkings ++
      [⟨userId, payload.alpacaAccountId, linkAnswer userId payload account⟩] }

/-- The steps of a request, case by case. -/
inductive BrokerStep (s : BrokerStore) (tick : BrokerTick) :
    BrokerSession → BrokerStore → Option BrokerSession → Prop
  | ended {t : BrokerSession} (hidle : seesLink s t tick) : BrokerStep s tick t s none
  | confirmed {userId : ℕ} {payload : BrokerAccountLinkRequest} {account : Json} :
      BrokerStep s tick (.confirming userId payload)
        { s with confirmed := s.confirmed ++ [(userId, payload.alpacaAccountId)] }
        (some (.looking userId payload account))
  | looked {userId : ℕ} {payload : BrokerAccountLinkRequest} {account : Json}
      {link : Option BrokerAccountLink} (hlink : s.linkOf userId = .ok link) :
      BrokerStep s tick (.looking userId payload account) s
        (some (.linking userId payload account link))
  | linked {userId : ℕ} {payload : BrokerAccountLinkRequest} {account : Json}
      {link : Option BrokerAccountLink} {links : Table BrokerAccountLink}
      (hfault : tick.fault = false) (hwrite : s.writeLink userId payload link = some links) :
      BrokerStep s tick (.linking userId payload account link)
        (s.committed userId payload account links) none
  | found {userId : ℕ} {link : BrokerAccountLink}
      (hlink : s.getLinkedBrokerAccount userId = .ok (some link)) :
      BrokerStep s tick (.finding userId) s (some (.asking userId link))
  | asked {userId : ℕ} {link : BrokerAccountLink} :
      BrokerStep s tick (.asking userId link)
        { s with asked := s.asked ++ [(userId, link.alpacaAccountId)] } none

/-- Every statement of a session is one of these steps. -/
theorem BrokerSession.step_spec (s : BrokerStore) (tick : BrokerTick) (t : BrokerSession) :
    BrokerStep s tick t (t.step s tick).1 (t.step s tick).2 := by
  cases t with
  | confirming userId payload =>
      cases hbroker : tick.broker with
      | none =>
          simp only [BrokerSession.step, hbroker]
          exact .ended fun _ _ _ _ hphase => by cases hphase
      | some account =>
          simp only [BrokerSession.step, hbroker]
          exact .confirmed
  | looking userId payload account =>
      have hended : BrokerStep s tick (.looking userId payload account) s none :=
        .ended fun _ _ _ _ hphase => by cases hphase
      cases hfault : tick.fault with
      | true =>
          simp only [BrokerSession.step, hfault, if_true]
          exact hended
      | false =>
          cases hlink : s.linkOf userId with
          | error e =>
              simp only [BrokerSession.step, hfault, hlink]
              exact hended
          | ok link =>
              simp only [BrokerSession.step, hfault, hlink]
              exact .looked hlink
  | linking userId payload account link =>
      cases hfault : tick.fault with
      | true =>
          simp only [BrokerSession.step, hfault, if_true]
          exact .ended fun _ _ _ _ _ havailable => by simp [hfault] at havailable
      | false =>
          cases hwrite : s.writeLink userId payload link with
          | none =>
              simp only [BrokerSession.step, hfault, hwrite]
              refine .ended ?_
              -- a copy of a stored link is always written
              rintro _ _ _ copy ⟨⟩ - hsame
              obtain ⟨links, hlinks⟩ : ∃ links, s.writeLink userId payload (some copy) =
                  some links := exists_writeLink hsame
              rw [hwrite] at hlinks
              cases hlinks
          | some links =>
              simp only [BrokerSession.step, hfault, hwrite]
              exact .linked hfault hwrite
  | finding userId =>
      have hended : BrokerStep s tick (.finding userId) s none :=
        .ended fun _ _ _ _ hphase => by cases hphase
      cases hfault : tick.fault with
      | true =>
          simp only [BrokerSession.step, hfault, if_true]
          exact hended
      | false =>
          cases hlink : s.getLinkedBrokerAccount userId with
          | error e =>
              simp only [BrokerSession.step, hfault, hlink]
              exact hended
          | ok found =>
              cases found with
              | none =>
                  simp only [BrokerSession.step, hfault, hlink]
                  exact hended
              | some link =>
                  simp only [BrokerSession.step, hfault, hlink]
                  exact .found hlink
  | asking userId link => exact .asked

/-- Every statement of a session in a pool is one of these steps. -/
theorem brokerCalls_step {s s' : BrokerStore} {t : BrokerSession} {tick : BrokerTick}
    {o : Option BrokerSession} (h : brokerCalls.advance s t tick = some (s', o)) :
    BrokerStep s tick t s' o := by
  obtain ⟨rfl, rfl⟩ := Prod.mk.inj (Option.some.inj h)
  exact t.step_spec s tick

/-! ## Whose accounts the broker is asked about

An invariant of every run, whatever fails. -/

/-- The user has linked the account, now or earlier: a link is never forgotten here, also where
another took its place. -/
def BrokerStore.Linked (s : BrokerStore) (userId : ℕ) (accountId : String) : Prop :=
  ∃ g ∈ s.linkings, g.userId = userId ∧ g.alpacaAccountId = accountId

/-- Where the accounts come from. -/
structure LinksBacked (s : BrokerStore) : Prop where
  stored : ∀ l ∈ s.links, s.Linked l.userId l.alpacaAccountId
  confirmed : ∀ g ∈ s.linkings, (g.userId, g.alpacaAccountId) ∈ s.confirmed
  asked : ∀ a ∈ s.asked, s.Linked a.1 a.2

/-- What a request in flight knows. -/
def SessionBacked (s : BrokerStore) : BrokerSession → Prop
  | .confirming _ _ | .finding _ => True
  | .looking userId payload _ => (userId, payload.alpacaAccountId) ∈ s.confirmed
  | .linking userId payload _ link =>
      (userId, payload.alpacaAccountId) ∈ s.confirmed ∧
        ∀ copy, link = some copy → s.Copies userId copy
  | .asking userId link => s.Linked userId link.alpacaAccountId

/-- Nothing is forgotten. -/
structure Keeps (s s' : BrokerStore) : Prop where
  confirmed : ∀ c ∈ s.confirmed, c ∈ s'.confirmed
  linkings : ∀ g ∈ s.linkings, g ∈ s'.linkings
  links : ∀ userId copy, s.Copies userId copy → s'.Copies userId copy

section Backed

variable {s s' : BrokerStore} {t : BrokerSession} {tick : BrokerTick} {o : Option BrokerSession}

/-- Who has linked an account has linked it. -/
theorem Keeps.linked (h : Keeps s s') {userId : ℕ} {accountId : String}
    (hlinked : s.Linked userId accountId) : s'.Linked userId accountId := by
  obtain ⟨g, hg, huser, haccount⟩ := hlinked
  exact ⟨g, h.linkings g hg, huser, haccount⟩

/-- What a session knows stays known. -/
theorem Keeps.session (h : Keeps s s') (ht : SessionBacked s t) : SessionBacked s' t := by
  cases t with
  | confirming userId payload => trivial
  | looking userId payload account => exact h.confirmed _ ht
  | linking userId payload account link =>
      exact ⟨h.confirmed _ ht.1, fun copy hcopy => h.links _ _ (ht.2 copy hcopy)⟩
  | finding userId => trivial
  | asking userId link => exact h.linked ht

/-- A step forgets nothing. -/
theorem BrokerStep.keeps (hstep : BrokerStep s tick t s' o) (ht : SessionBacked s t) :
    Keeps s s' := by
  cases hstep with
  | confirmed => exact ⟨fun c => List.mem_append_left _, fun _ => id, fun _ _ => id⟩
  | asked => exact ⟨fun _ => id, fun _ => id, fun _ _ => id⟩
  | ended _ => exact ⟨fun _ => id, fun _ => id, fun _ _ => id⟩
  | looked _ => exact ⟨fun _ => id, fun _ => id, fun _ _ => id⟩
  | found _ => exact ⟨fun _ => id, fun _ => id, fun _ _ => id⟩
  | linked hfault hwrite =>
      obtain ⟨row, hrow⟩ := exists_writes ht.2 hwrite
      refine ⟨fun _ => id, fun g => List.mem_append_left _, ?_⟩
      rintro v copy ⟨l, hl, hid, rfl⟩
      rename_i userId _ _ _ _
      by_cases hmine : l.userId = userId
      · exact ⟨row, (hrow.mem_iff row).mpr (Or.inr rfl), (hrow.same_id l hl hmine).symm.trans hid,
          hrow.mine.trans hmine.symm⟩
      · exact ⟨l, (hrow.mem_iff l).mpr (Or.inl ⟨hl, hmine⟩), hid, rfl⟩

/-- A step keeps the sources of what is stored. -/
theorem BrokerStep.backed (hstep : BrokerStep s tick t s' o) (h : LinksBacked s)
    (ht : SessionBacked s t) : LinksBacked s' := by
  have hkeeps := hstep.keeps ht
  cases hstep with
  | confirmed => exact { h with confirmed := fun g hg => hkeeps.confirmed _ (h.confirmed g hg) }
  | asked =>
      refine { h with asked := fun a ha => ?_ }
      rcases List.mem_append.mp ha with hold | hnew
      · exact h.asked a hold
      · rw [List.mem_singleton.mp hnew]
        exact ht
  | ended _ => exact h
  | looked _ => exact h
  | found _ => exact h
  -- the row that was written is backed by this commit, or by the one before it
  | @linked userId payload account link links hfault hwrite =>
      obtain ⟨row, hrow⟩ := exists_writes ht.2 hwrite
      have hnew : (s.committed userId payload account links).Linked userId
          payload.alpacaAccountId :=
        ⟨_, List.mem_append_right _ List.mem_cons_self, rfl, rfl⟩
      refine ⟨fun l hl => ?_, fun g hg => ?_, fun a ha => hkeeps.linked (h.asked a ha)⟩
      · rcases (hrow.mem_iff l).mp hl with ⟨hold, -⟩ | rfl
        · exact hkeeps.linked (h.stored l hold)
        · rw [hrow.mine]
          rcases hrow.account with haccount | ⟨l₀, hl₀, huser, haccount⟩
          · rw [haccount]
            exact hnew
          · have hold := h.stored l₀ hl₀
            rw [huser, haccount] at hold
            exact hkeeps.linked hold
      · rcases List.mem_append.mp hg with hold | hlast
        · exact h.confirmed g hold
        · rw [List.mem_singleton.mp hlast]
          exact ht.1

/-- A step keeps the sources of what its own session carries. -/
theorem BrokerStep.session (hstep : BrokerStep s tick t s' o) (h : LinksBacked s)
    (ht : SessionBacked s t) : ∀ t', o = some t' → SessionBacked s' t' := by
  rintro t' rfl
  cases hstep with
  | confirmed => exact List.mem_append_right _ List.mem_cons_self
  | looked hlink =>
      refine ⟨ht, ?_⟩
      rintro copy rfl
      obtain ⟨hmem, huser⟩ := BrokerStore.mem_of_linkOf hlink
      exact ⟨copy, hmem, rfl, huser⟩
  | found hlink =>
      obtain ⟨hmem, huser⟩ := BrokerStore.mem_of_getLinkedBrokerAccount hlink
      have hstored := h.stored _ hmem
      rw [huser] at hstored
      exact hstored

end Backed

/-- The outline of the requests. -/
theorem linksOutline : Outline brokerCalls Unguarded LinksBacked SessionBacked
    fun _ _ => True where
  opened s request _ := by cases request <;> trivial
  openedCompat _ _ := ⟨trivial, trivial⟩
  global p i t x s' o h ht hadv _ := (brokerCalls_step hadv).backed h.global (h.each i t ht)
  own p i t x s' t' h ht hadv _ :=
    (brokerCalls_step hadv).session h.global (h.each i t ht) t' rfl
  others p i t x s' o j u h ht hadv _ _ hu :=
    ((brokerCalls_step hadv).keeps (h.each i t ht)).session (h.each j u hu)
  compat _ _ _ _ _ _ _ _ _ _ _ _ _ _ := ⟨trivial, trivial⟩

/-- An empty store has nothing to account for. -/
theorem linksBacked_empty :
    (Pool.quiet BrokerStore.empty : Pool BrokerStore BrokerSession).Meets LinksBacked
      SessionBacked fun _ _ => True := by
  refine Pool.Meets.quiet ⟨?_, ?_, ?_⟩
  · intro l hl
    exact absurd hl (List.not_mem_nil (a := l))
  · intro g hg
    cases hg
  · intro a ha
    cases ha

/-- **Only linked accounts.**  In every run, an account the broker was asked about for a user
is one that user has linked, in a request for which the broker had confirmed it; and no account
is linked to two users. -/
theorem asked_account_linked {as : List (PoolAct BrokerCall BrokerTick)}
    {p : Pool BrokerStore BrokerSession}
    (run : Run brokerCalls.machine Unguarded (Pool.quiet BrokerStore.empty) as p) :
    (∀ a ∈ p.store.asked, p.store.Linked a.1 a.2 ∧ a ∈ p.store.confirmed) ∧
      ∀ accountId userId userId', p.store.Holds userId accountId →
        p.store.Holds userId' accountId → userId = userId' := by
  have hbacked := (linksOutline.run run linksBacked_empty).global
  refine ⟨fun a ha => ?_, ?_⟩
  · obtain ⟨g, hg, huser, haccount⟩ := hbacked.asked a ha
    have hconfirmed := hbacked.confirmed g hg
    rw [huser, haccount] at hconfirmed
    exact ⟨⟨g, hg, huser, haccount⟩, hconfirmed⟩
  · rintro accountId _ _ ⟨l, hl, rfl, haccount⟩ ⟨l', hl', rfl, haccount'⟩
    rw [Table.eq_of_clash hl hl' (fun _ _ => Or.imp Eq.symm Eq.symm)
      (Or.inr (haccount.trans haccount'.symm))]

/-- A request for an account of ten characters. -/
def linkRequest (accountId : String) (h : accountId.length = 10) : BrokerAccountLinkRequest :=
  ⟨accountId, by omega, by omega⟩

/-- The next step of the request `i`; the broker answers, and the database does not fail. -/
def brokerStep (i : ℕ) : PoolAct BrokerCall BrokerTick := .advance i ⟨some (.obj []), false⟩

/-- User 1 links an account, then another one, and reads of it. -/
def relinked : List (PoolAct BrokerCall BrokerTick) :=
  [.begin 0 (.link 1 (linkRequest "account-01" (by decide))), brokerStep 0, brokerStep 0,
    brokerStep 0, .begin 1 (.link 1 (linkRequest "account-02" (by decide))), brokerStep 1,
    brokerStep 1, brokerStep 1, .begin 2 (.read 1), brokerStep 2, brokerStep 2]

/-- A test of the condition. -/
def seesTest (s : BrokerStore) (t : BrokerSession) (tick : BrokerTick) : Bool :=
  match t with
  | .linking userId payload _ (some copy) =>
      tick.fault || decide (copy.alpacaAccountId ≠ payload.alpacaAccountId) ||
        s.links.rows.any fun l =>
          decide (l.userId = userId ∧ l.alpacaAccountId = payload.alpacaAccountId)
  | _ => true

/-- The test is of the condition. -/
theorem seesLink_of_test {s : BrokerStore} {t : BrokerSession} {tick : BrokerTick}
    (h : seesTest s t tick = true) : seesLink s t tick := by
  rintro userId payload account copy rfl hfault hsame
  simp only [seesTest, hfault, hsame, ne_eq, not_true_eq_false, decide_false, Bool.or_self,
    Bool.false_or] at h
  obtain ⟨l, hl, hmeets⟩ := List.any_eq_true.mp h
  obtain ⟨huser, haccount⟩ := of_decide_eq_true hmeets
  exact ⟨l, hl, huser, haccount⟩

/-- That is a run, and every step meets the condition. -/
theorem relinked_run : ∃ p, Run brokerCalls.machine (Pool.StepMeets seesLink)
    (Pool.quiet BrokerStore.empty) relinked p ∧ p.store.asked = [(1, "account-02")] := by
  have hcheck : (brokerCalls.machine.check (Pool.stepTest seesTest)
      (Pool.quiet BrokerStore.empty) relinked).map (fun p => p.store.asked) =
        some [(1, "account-02")] := by
    decide +kernel
  obtain ⟨p, hp, hasked⟩ := Option.map_eq_some_iff.mp hcheck
  exact ⟨p, Run.of_stepTest (fun _ _ _ => seesLink_of_test) hp, hasked⟩

/-- The statement on it. -/
theorem asked_account_linked_relinked : ∃ p,
    Run brokerCalls.machine Unguarded (Pool.quiet BrokerStore.empty) relinked p ∧
      p.store.asked = [(1, "account-02")] ∧
      (∀ a ∈ p.store.asked, p.store.Linked a.1 a.2 ∧ a ∈ p.store.confirmed) ∧
      ∀ accountId userId userId', p.store.Holds userId accountId →
        p.store.Holds userId' accountId → userId = userId' := by
  obtain ⟨p, run, hasked⟩ := relinked_run
  exact ⟨p, run.unguarded, hasked, asked_account_linked run.unguarded⟩

/-! ## What was answered last

Exact for every step. -/

section AsLinked

variable {s s' : BrokerStore} {t : BrokerSession} {tick : BrokerTick} {o : Option BrokerSession}

/-- The account that was linked last, after a commit. -/
theorem lastLinked_committed (userId : ℕ) (payload : BrokerAccountLinkRequest) (account : Json)
    (links : Table BrokerAccountLink) (v : ℕ) :
    (s.committed userId payload account links).lastLinked v =
      if userId = v then some payload.alpacaAccountId else s.lastLinked v := by
  unfold BrokerStore.lastLinked BrokerStore.committed
  rw [List.filter_append]
  by_cases hmine : userId = v
  · simp [hmine]
  · simp [hmine]

/-- **One step** keeps what is stored what was linked last exactly if it meets the condition. -/
theorem BrokerStep.asLinked_iff (hstep : BrokerStep s tick t s' o) (ht : SessionBacked s t)
    (h : s.AsLinked) : seesLink s t tick ↔ s'.AsLinked := by
  cases hstep with
  | ended hidle => exact iff_of_true hidle h
  | confirmed => exact iff_of_true (fun _ _ _ _ hphase => by cases hphase) h
  | looked _ => exact iff_of_true (fun _ _ _ _ hphase => by cases hphase) h
  | found _ => exact iff_of_true (fun _ _ _ _ hphase => by cases hphase) h
  | asked => exact iff_of_true (fun _ _ _ _ hphase => by cases hphase) h
  | @linked userId payload account link links hfault hwrite =>
      obtain ⟨row, hrow⟩ := exists_writes ht.2 hwrite
      have hmem : row ∈ links := (hrow.mem_iff row).mpr (Or.inr rfl)
      have hmine : ∀ accountId, (s.committed userId payload account links).Holds userId accountId ↔
          row.alpacaAccountId = accountId := by
        intro accountId
        rw [← hrow.mine]
        exact BrokerStore.holds_iff (s := s.committed userId payload account links) hmem
      constructor
      · intro hsees v accountId
        rw [lastLinked_committed]
        by_cases hv : userId = v
        · subst hv
          rw [if_pos rfl, hmine]
          have haccount : row.alpacaAccountId = payload.alpacaAccountId := by
            by_cases hset : ∀ copy, link = some copy →
                copy.alpacaAccountId ≠ payload.alpacaAccountId
            · exact hrow.set hset
            · -- it has no account to write, and its own is still linked
              obtain ⟨copy, rfl, hsame⟩ : ∃ copy, link = some copy ∧
                  copy.alpacaAccountId = payload.alpacaAccountId := by
                simpa only [not_forall, not_not, exists_prop] using hset
              obtain ⟨l, hl, rfl, hl'⟩ := hsees userId payload account copy rfl hfault hsame
              rw [← hl']
              exact ((BrokerStore.holds_iff hl).mp (hrow.kept copy rfl hsame)).symm
          rw [haccount]
          exact ⟨congrArg some, Option.some.inj⟩
        · rw [if_neg hv, ← h v accountId]
          constructor
          · rintro ⟨l, hl, rfl, haccount⟩
            rcases (hrow.mem_iff l).mp hl with ⟨hold, -⟩ | rfl
            · exact ⟨l, hold, rfl, haccount⟩
            · exact absurd hrow.mine.symm hv
          · rintro ⟨l, hl, rfl, haccount⟩
            exact ⟨l, (hrow.mem_iff l).mpr (Or.inl ⟨hl, fun hsame => hv hsame.symm⟩), rfl,
              haccount⟩
      · rintro hafter _ _ _ copy ⟨⟩ - hsame
        have hlast : (s.committed userId payload account links).lastLinked userId =
            some payload.alpacaAccountId := by rw [lastLinked_committed, if_pos rfl]
        have hrowAccount : row.alpacaAccountId = payload.alpacaAccountId :=
          (hmine _).mp ((hafter userId _).mpr hlast)
        rw [← hrowAccount]
        exact hrow.kept copy rfl hsame

end AsLinked

/-- **What is stored is what was answered last.**  Every step of a run meets the condition if
and only if, in every state the run reaches, each user's stored link is the one of the last
request of the user that was committed. -/
theorem linked_as_answered_iff {as : List (PoolAct BrokerCall BrokerTick)}
    {p : Pool BrokerStore BrokerSession}
    (run : Run brokerCalls.machine Unguarded (Pool.quiet BrokerStore.empty) as p) :
    Run brokerCalls.machine (Pool.StepMeets seesLink) (Pool.quiet BrokerStore.empty) as p ↔
      ∀ front back mid, as = front ++ back →
        Run brokerCalls.machine Unguarded (Pool.quiet BrokerStore.empty) front mid →
          mid.store.AsLinked := by
  have keeps : ∀ p a p', brokerCalls.machine.step p a = some p' → Unguarded p a →
      p.Meets LinksBacked SessionBacked (fun _ _ => True) →
        p'.Meets LinksBacked SessionBacked fun _ _ => True :=
    fun p a p' hstep hguard h => linksOutline.step hstep hguard h
  have hexact : ∀ p a p', brokerCalls.machine.step p a = some p' → Unguarded p a →
      p.Meets LinksBacked SessionBacked (fun _ _ => True) → p.store.AsLinked →
        (Pool.StepMeets seesLink p a ↔ p'.store.AsLinked) := by
    intro p a p' hstep _ h hlinked
    rcases Pool.step_cases hstep with ⟨hidle, hstore⟩ | ⟨i, tick, t, s', o, rfl, ht, hadv, rfl⟩
    · rw [hstore]
      exact iff_of_true (fun i x _ h => absurd h (hidle i x)) hlinked
    · rw [Pool.stepMeets_advance ht]
      exact (brokerCalls_step hadv).asLinked_iff (h.each i t ht) hlinked
  refine run.guarded_iff_within keeps hexact linksBacked_empty ?_
  intro userId accountId
  refine iff_of_false ?_ (by rintro ⟨⟩)
  rintro ⟨l, hl, -⟩
  exact absurd hl (List.not_mem_nil (a := l))

/-- The statement on that run. -/
theorem linked_as_answered_iff_relinked : ∃ p,
    Run brokerCalls.machine Unguarded (Pool.quiet BrokerStore.empty) relinked p ∧
      ∀ front back mid, relinked = front ++ back →
        Run brokerCalls.machine Unguarded (Pool.quiet BrokerStore.empty) front mid →
          mid.store.AsLinked := by
  obtain ⟨p, run, -⟩ := relinked_run
  exact ⟨p, run.unguarded, (linked_as_answered_iff run.unguarded).mp run⟩

/-- The user has linked a first account.  A second request for it and one for another account
read that link, and the other one commits first. -/
def overtaken : List (PoolAct BrokerCall BrokerTick) :=
  [.begin 0 (.link 1 (linkRequest "account-01" (by decide))), brokerStep 0, brokerStep 0,
    brokerStep 0, .begin 1 (.link 1 (linkRequest "account-01" (by decide))),
    .begin 2 (.link 1 (linkRequest "account-02" (by decide))), brokerStep 1, brokerStep 2,
    brokerStep 1, brokerStep 2, brokerStep 2, brokerStep 1]

/-- The last one to be answered has linked an account that is not stored. -/
theorem overtaken_not_stored : ∃ p,
    Run brokerCalls.machine Unguarded (Pool.quiet BrokerStore.empty) overtaken p ∧
      p.store.lastLinked 1 = some "account-01" ∧
      p.store.links.rows.map BrokerAccountLink.alpacaAccountId = ["account-02"] := by
  have hcheck : (brokerCalls.machine.check (fun _ _ => true) (Pool.quiet BrokerStore.empty)
      overtaken).map (fun p => (p.store.lastLinked 1,
        p.store.links.rows.map BrokerAccountLink.alpacaAccountId)) =
          some (some "account-01", ["account-02"]) := by
    decide +kernel
  obtain ⟨p, hp, hstate⟩ := Option.map_eq_some_iff.mp hcheck
  obtain ⟨hlast, hlinks⟩ := Prod.mk.inj hstate
  exact ⟨p, (Run.of_check hp).unguarded, hlast, hlinks⟩

end AfricaFrontier.MarketGateway
