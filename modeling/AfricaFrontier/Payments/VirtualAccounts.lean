import AfricaFrontier.Kora.PayoutRoute
import AfricaFrontier.Auth.Models

/-!
# Provisioning virtual accounts

`get_or_create_virtual_account` looks for the account of a user and inserts one where there
is none.  Two calls may both find nothing; the unique constraint on `user_id` lets one of
them insert, and the other rolls back and reads again.  By then the row it lost to is
committed, because an insert waits for another one of the same key that is not.  The
database answers every statement here, and accounts are not deleted.

`provisioning_race_free` says that this is enough: whatever the order of the statements of
any number of calls, the calls of a user all return one row, the only one the user has, and
each is done after a bounded number of statements of its own.

A call knows very little between its statements (`AccountPhase.Knows`): before its insert nothing
at all, after it lost that the user has an account. That is never made false by another call,
since accounts are not deleted, and it is enough for the next statement to succeed
(`AccountPhase.step_move`). The bound on the statements is `AccountPhase.remaining`.
-/

namespace AfricaFrontier

open Relational Transition

/-- How a call can fail. -/
inductive ProvisionError
  | http (exception : HttpException)
  | database (error : PyError)
  /-- `refresh` of a row that is no longer stored. -/
  | notPersistent
  deriving DecidableEq

/-- What a call of a user has returned. -/
structure AccountAnswer where
  userId : ℕ
  result : Except ProvisionError VirtualAccount

/-- The database with its users, and the answers so far. The foreign key of the accounts is a
field, so that an account of nobody cannot be stored. -/
structure AccountStore where
  db : Db
  users : Table User
  /-- The foreign key of `virtual_accounts`. -/
  owned : ∀ a ∈ db.accounts, ∃ u ∈ users, u.id = a.userId
  answers : List AccountAnswer

/-- Before the first call. -/
def AccountStore.start (db : Db) (users : Table User)
    (owned : ∀ a ∈ db.accounts, ∃ u ∈ users, u.id = a.userId) : AccountStore :=
  ⟨db, users, owned, []⟩

/-- The store, with one answer more. -/
def AccountStore.answer (s : AccountStore) (userId : ℕ)
    (result : Except ProvisionError VirtualAccount) : AccountStore :=
  { s with answers := s.answers ++ [⟨userId, result⟩] }

/-- The insert and its commit; `none` is the integrity error: the user has an account, or
there is no such user. -/
def AccountStore.insert (s : AccountStore) (userId : ℕ) : Option AccountStore :=
  if hstored : ∃ u ∈ s.users.rows, u.id = userId then
    match h : insertAccount userId s.db with
    | none => none
    | some accounts =>
        some
          { s with
            db := { s.db with accounts := accounts }
            owned := by
              intro a ha
              rcases (Table.mem_insert h).mp ha with hold | rfl
              · exact s.owned a hold
              · exact hstored }
  else none

/-- Where a call stands. -/
inductive AccountPhase
  | selecting
  | inserting
  | refreshing (account : VirtualAccount)
  | reselecting

/-- A call in flight. -/
structure AccountSession where
  userId : ℕ
  phase : AccountPhase

/-- The next statement of a call. -/
def AccountPhase.step (userId : ℕ) (s : AccountStore) :
    AccountPhase → AccountStore × Option AccountPhase
  | .selecting =>
      match selectAccount userId s.db with
      | .error error => (s.answer userId (.error (.database error)), none)
      | .ok (some account) => (s.answer userId (.ok account), none)
      | .ok none => (s, some .inserting)
  | .inserting =>
      -- an `IntegrityError` is rolled back, and the account read again
      match s.insert userId with
      | none => (s, some .reselecting)
      | some s' => (s', some (.refreshing (newAccount userId s.db.accounts.next)))
  | .refreshing account =>
      match s.db.accounts.get account.id with
      | none => (s.answer userId (.error .notPersistent), none)
      | some row => (s.answer userId (.ok row), none)
  | .reselecting =>
      match selectAccount userId s.db with
      | .error error => (s.answer userId (.error (.database error)), none)
      | .ok (some account) => (s.answer userId (.ok account), none)
      | .ok none =>
          (s.answer userId (.error (.http
            ⟨503, "Virtual account provisioning is temporarily unavailable"⟩)), none)

/-- `get_or_create_virtual_account`. -/
def getOrCreateVirtualAccount : Sessions AccountStore ℕ AccountSession Unit where
  init userId := ⟨userId, .selecting⟩
  advance s t _ :=
    let next := t.phase.step t.userId s
    some (next.1, next.2.map (AccountSession.mk t.userId))

/-- The statements a call still has before its last one, at most. -/
def AccountPhase.remaining : AccountPhase → ℕ
  | .selecting => 2
  | .inserting => 1
  | .refreshing _ => 0
  | .reselecting => 0

/-! ## The account of a user

There is at most one, by the unique column; so a query for it has one row or none. -/

/-- The one account of a user. -/
def AccountOf (db : Db) (userId : ℕ) (account : VirtualAccount) : Prop :=
  account ∈ db.accounts ∧ account.userId = userId

section Lookup

variable {db : Db} {userId : ℕ} {account : VirtualAccount}

/-- The query for the account of the user has that row as its result. -/
theorem AccountOf.filter_eq (h : AccountOf db userId account) :
    (db.accounts.rows.filter fun a => decide (a.userId = userId)) = [account] := by
  refine Table.filter_eq_singleton h.1 (decide_eq_true h.2) fun a ha hsame => ?_
  have hclash : a.userId = account.userId := (of_decide_eq_true hsame).trans h.2.symm
  exact Table.eq_of_clash ha h.1 (fun _ _ => Eq.symm) hclash

/-- A user's account is found. -/
theorem AccountOf.select (h : AccountOf db userId account) :
    selectAccount userId db = .ok (some account) := by
  rw [selectAccount, h.filter_eq]
  rfl

/-- Looking for the account finds it, or there is none. -/
theorem selectAccount_cases (userId : ℕ) (db : Db) :
    (∃ account, AccountOf db userId account ∧ selectAccount userId db = .ok (some account)) ∨
      ((∀ account, ¬ AccountOf db userId account) ∧ selectAccount userId db = .ok none) := by
  by_cases hfound : ∃ account, AccountOf db userId account
  · obtain ⟨account, haccount⟩ := hfound
    exact Or.inl ⟨account, haccount, haccount.select⟩
  · have hnone : ∀ account, ¬ AccountOf db userId account := not_exists.mp hfound
    refine Or.inr ⟨hnone, ?_⟩
    have hempty : (db.accounts.rows.filter fun a => decide (a.userId = userId)) = [] :=
      List.filter_eq_nil_iff.mpr fun a ha hsame =>
        hnone a ⟨ha, of_decide_eq_true hsame⟩
    rw [selectAccount, hempty]
    rfl

end Lookup

/-! ## Statements

What one statement does, and what it leaves to the other calls. -/

section Insert

variable {s s' : AccountStore} {userId : ℕ}

/-- The users and the answers stay, and the new account is the one new row. -/
theorem AccountStore.insert_some (h : s.insert userId = some s') :
    s'.users = s.users ∧ s'.answers = s.answers ∧
      ∀ a, a ∈ s'.db.accounts ↔ a ∈ s.db.accounts ∨ a = newAccount userId s.db.accounts.next := by
  unfold AccountStore.insert at h
  split at h
  · split at h
    · cases h
    · rename_i accounts hinsert
      cases h
      exact ⟨rfl, rfl, fun a => Table.mem_insert hinsert⟩
  · cases h

/-- The insert of a user's account only fails where the user has one. -/
theorem AccountStore.insert_none (h : s.insert userId = none)
    (huser : ∃ u ∈ s.users, u.id = userId) : ∃ account, AccountOf s.db userId account := by
  unfold AccountStore.insert at h
  split at h
  · split at h
    · rename_i hinsert
      obtain ⟨a, ha, hclash⟩ := Table.exists_clash_of_insert hinsert
      exact ⟨a, ha, hclash⟩
    · cases h
  · rename_i hunknown
    exact absurd huser hunknown

end Insert

/-- The user is stored. -/
def AccountStore.HasUser (s : AccountStore) (userId : ℕ) : Prop := ∃ u ∈ s.users, u.id = userId

/-- What a call knows between two of its statements. -/
def AccountPhase.Knows (s : AccountStore) (userId : ℕ) : AccountPhase → Prop
  | .refreshing account => AccountOf s.db userId account
  | .reselecting => s.HasUser userId → ∃ account, AccountOf s.db userId account
  | _ => True

/-- The result is the account of the user. -/
def AccountStore.Returns (s : AccountStore) (userId : ℕ)
    (result : Except ProvisionError VirtualAccount) : Prop :=
  ∃ account, AccountOf s.db userId account ∧ result = .ok account

/-- What a statement does. -/
inductive AccountMove (userId : ℕ) (s : AccountStore) (phase : AccountPhase) :
    AccountStore → Option AccountPhase → Prop
  | goes (phase' : AccountPhase) (hless : phase'.remaining < phase.remaining)
      (hknows : phase'.Knows s userId) : AccountMove userId s phase s (some phase')
  | inserts (s' : AccountStore) (phase' : AccountPhase) (hinsert : s.insert userId = some s')
      (hless : phase'.remaining < phase.remaining) (hknows : phase'.Knows s' userId) :
      AccountMove userId s phase s' (some phase')
  | answers (result : Except ProvisionError VirtualAccount)
      (hreturns : s.HasUser userId → s.Returns userId result) :
      AccountMove userId s phase (s.answer userId result) none

section Moves

variable {s s' : AccountStore} {userId : ℕ} {phase : AccountPhase} {o : Option AccountPhase}

/-- Every statement of a call, from what the call knows. -/
theorem AccountPhase.step_move (hknows : phase.Knows s userId)
    (hstep : phase.step userId s = (s', o)) : AccountMove userId s phase s' o := by
  cases phase with
  | selecting =>
      rcases selectAccount_cases userId s.db with ⟨account, haccount, hselect⟩ | ⟨-, hselect⟩
      · simp only [AccountPhase.step, hselect] at hstep
        cases hstep
        exact .answers _ fun _ => ⟨account, haccount, rfl⟩
      · simp only [AccountPhase.step, hselect] at hstep
        cases hstep
        exact .goes .inserting (by decide) trivial
  | inserting =>
      cases hinsert : s.insert userId with
      | none =>
          simp only [AccountPhase.step, hinsert] at hstep
          cases hstep
          -- refused: another call has stored the account, and it stays
          exact .goes .reselecting (by decide) (AccountStore.insert_none hinsert)
      | some stored =>
          simp only [AccountPhase.step, hinsert] at hstep
          cases hstep
          obtain ⟨-, -, hmem⟩ := AccountStore.insert_some hinsert
          exact .inserts s' _ hinsert Nat.zero_lt_one ⟨(hmem _).mpr (Or.inr rfl), rfl⟩
  | refreshing account =>
      have haccount : AccountOf s.db userId account := hknows
      have hget : s.db.accounts.get account.id = some account := Table.get_ident haccount.1
      simp only [AccountPhase.step, hget] at hstep
      cases hstep
      exact .answers _ fun _ => ⟨account, haccount, rfl⟩
  | reselecting =>
      have hknown : s.HasUser userId → ∃ account, AccountOf s.db userId account := hknows
      rcases selectAccount_cases userId s.db with ⟨account, haccount, hselect⟩ | ⟨hnone, hselect⟩
      · simp only [AccountPhase.step, hselect] at hstep
        cases hstep
        exact .answers _ fun _ => ⟨account, haccount, rfl⟩
      · simp only [AccountPhase.step, hselect] at hstep
        cases hstep
        -- the 503 of a second look that finds nothing; no call of a stored user gets here
        refine .answers _ fun huser => ?_
        obtain ⟨account, haccount⟩ := hknown huser
        exact absurd haccount (hnone account)

/-- Users and accounts stay. -/
structure AccountStore.Keeps (s s' : AccountStore) : Prop where
  users : s'.users = s.users
  accounts : ∀ a ∈ s.db.accounts, a ∈ s'.db.accounts

/-- A statement keeps users and accounts. -/
theorem AccountMove.keeps (move : AccountMove userId s phase s' o) : s.Keeps s' := by
  cases move with
  | goes _ _ _ => exact ⟨rfl, fun _ ha => ha⟩
  | inserts _ _ hinsert _ _ =>
      obtain ⟨husers, -, hmem⟩ := AccountStore.insert_some hinsert
      exact ⟨husers, fun a ha => (hmem a).mpr (Or.inl ha)⟩
  | answers _ _ => exact ⟨rfl, fun _ ha => ha⟩

/-- Where users and accounts are kept, the account of a user is. -/
theorem AccountStore.Keeps.accountOf {account : VirtualAccount} (h : s.Keeps s')
    (haccount : AccountOf s.db userId account) : AccountOf s'.db userId account :=
  ⟨h.accounts account haccount.1, haccount.2⟩

/-- What a call knows stays true. -/
theorem AccountPhase.Knows.mono (hknows : phase.Knows s userId) (h : s.Keeps s') :
    phase.Knows s' userId := by
  cases phase with
  | selecting => trivial
  | inserting => trivial
  | refreshing account =>
      have haccount : AccountOf s.db userId account := hknows
      exact h.accountOf haccount
  | reselecting =>
      have hknown : s.HasUser userId → ∃ account, AccountOf s.db userId account := hknows
      intro huser
      have hbefore : s.HasUser userId := by
        rw [AccountStore.HasUser, ← h.users]
        exact huser
      obtain ⟨account, haccount⟩ := hknown hbefore
      exact ⟨account, h.accountOf haccount⟩

end Moves

/-! ## Any number of calls

The outline holds over every interleaving; from it every call in flight makes progress. -/

/-- Every answer to a stored user is the account of that user. -/
def AccountStore.Answered (s : AccountStore) : Prop :=
  ∀ answer ∈ s.answers, s.HasUser answer.userId → s.Returns answer.userId answer.result

/-- Later statements leave the answers right. -/
theorem AccountStore.Answered.mono {s s' : AccountStore} (h : s.Answered) (hkeeps : s.Keeps s')
    (hsame : s'.answers = s.answers) : s'.Answered := by
  intro answer hanswer huser
  rw [hsame] at hanswer
  rw [AccountStore.HasUser, hkeeps.users] at huser
  obtain ⟨account, haccount, hresult⟩ := h answer hanswer huser
  exact ⟨account, hkeeps.accountOf haccount, hresult⟩

/-- An answer that is given is the account of its user. -/
theorem AccountMove.answered {s s' : AccountStore} {userId : ℕ} {phase : AccountPhase}
    {o : Option AccountPhase} (move : AccountMove userId s phase s' o) (h : s.Answered) :
    s'.Answered := by
  have hkeeps := move.keeps
  cases move with
  | goes _ _ _ => exact h
  | inserts _ _ hinsert _ _ => exact h.mono hkeeps (AccountStore.insert_some hinsert).2.1
  | answers result hreturns =>
      intro answer hanswer huser
      rcases List.mem_append.mp hanswer with hold | hnew
      · exact h answer hold huser
      · obtain rfl := List.mem_singleton.mp hnew
        exact hreturns huser

/-- A statement of the session `t`, taken apart. -/
theorem getOrCreateVirtualAccount_move {s s' : AccountStore} {t : AccountSession} {x : Unit}
    {o : Option AccountSession} (hknows : t.phase.Knows s t.userId)
    (h : getOrCreateVirtualAccount.advance s t x = some (s', o)) :
    ∃ o', AccountMove t.userId s t.phase s' o' ∧ o = o'.map (AccountSession.mk t.userId) := by
  obtain ⟨rfl, rfl⟩ := Prod.mk.inj (Option.some.inj h)
  exact ⟨_, AccountPhase.step_move hknows rfl, rfl⟩

/-- The proof outline: the users stay, the answers are right, and every call knows what it
knows. -/
theorem accounts_outline (users : Table User) :
    Outline getOrCreateVirtualAccount Unguarded (fun s => s.users = users ∧ s.Answered)
      (fun s t => t.phase.Knows s t.userId) (fun _ _ => True) where
  opened _ _ _ := trivial
  openedCompat _ _ := ⟨trivial, trivial⟩
  global p i t x s' o hmeets ht hadv _ := by
    obtain ⟨o', move, -⟩ := getOrCreateVirtualAccount_move (hmeets.each i t ht) hadv
    exact ⟨move.keeps.users.trans hmeets.global.1, move.answered hmeets.global.2⟩
  own p i t x s' t' hmeets ht hadv _ := by
    obtain ⟨o', move, hsession⟩ := getOrCreateVirtualAccount_move (hmeets.each i t ht) hadv
    cases move with
    | goes phase' _ hknows =>
        obtain rfl := Option.some.inj hsession
        exact hknows
    | inserts _ phase' _ _ hknows =>
        obtain rfl := Option.some.inj hsession
        exact hknows
    | answers _ _ => cases hsession
  others p i t x s' o j u hmeets ht hadv _ hne hu := by
    obtain ⟨o', move, -⟩ := getOrCreateVirtualAccount_move (hmeets.each i t ht) hadv
    exact (hmeets.each j u hu).mono move.keeps
  compat _ _ _ _ _ _ _ _ _ _ _ _ _ _ := ⟨trivial, trivial⟩

/-- The next statement of the call `i` succeeds: it answers with the account of the user, or
leaves the call fewer statements to go. -/
def Progresses (p : Pool AccountStore AccountSession) (i : ℕ) (t : AccountSession) : Prop :=
  ∃ p', getOrCreateVirtualAccount.machine.step p (.advance i ()) = some p' ∧
    ((∃ t', p'.session i = some t' ∧ t'.userId = t.userId ∧
        t'.phase.remaining < t.phase.remaining) ∨
      (p'.session i = none ∧ ∃ account, AccountOf p'.store.db t.userId account ∧
        p'.store.answers = p.store.answers ++ [⟨t.userId, .ok account⟩]))

/-- Every statement that a call can be at succeeds. -/
theorem progresses {p : Pool AccountStore AccountSession} {i : ℕ} {t : AccountSession}
    (ht : p.session i = some t) (hknows : t.phase.Knows p.store t.userId)
    (huser : p.store.HasUser t.userId) : Progresses p i t := by
  obtain ⟨⟨s', o⟩, hadv⟩ : ∃ r, getOrCreateVirtualAccount.advance p.store t () = some r := ⟨_, rfl⟩
  have hstep : getOrCreateVirtualAccount.machine.step p (.advance i ()) =
      some (p.assign s' i o) := by
    simp only [Sessions.machine, ht, hadv, Option.bind_some, Option.map_some]
  obtain ⟨o', move, rfl⟩ := getOrCreateVirtualAccount_move hknows hadv
  refine ⟨_, hstep, ?_⟩
  rw [Pool.assign_session_self, Pool.assign_store]
  cases move with
  | goes phase' hless _ => exact Or.inl ⟨⟨t.userId, phase'⟩, rfl, rfl, hless⟩
  | inserts _ phase' _ hless _ => exact Or.inl ⟨⟨t.userId, phase'⟩, rfl, rfl, hless⟩
  | answers result hreturns =>
      obtain ⟨account, haccount, rfl⟩ := hreturns huser
      exact Or.inr ⟨rfl, account, haccount, rfl⟩

/-- **Provisioning is free of races.**  In every interleaving of any number of calls, every
call of a stored user that has returned has returned one and the same row, the only account
of the user, and every other call of the user goes on to its answer, whatever the others
do. -/
theorem provisioning_race_free {db : Db} {users : Table User}
    {owned : ∀ a ∈ db.accounts, ∃ u ∈ users, u.id = a.userId} {as : List (PoolAct ℕ Unit)}
    {p : Pool AccountStore AccountSession}
    (run : Run getOrCreateVirtualAccount.machine Unguarded
      (Pool.quiet (AccountStore.start db users owned)) as p)
    {user : User} (huser : user ∈ users) :
    (∀ answer ∈ p.store.answers, answer.userId = user.id →
      ∃ account, answer.result = .ok account ∧
        (p.store.db.accounts.rows.filter fun a => decide (a.userId = user.id)) = [account]) ∧
      ∀ i t, p.session i = some t → t.userId = user.id → Progresses p i t := by
  have hstart : (AccountStore.start db users owned).Answered :=
    fun answer hanswer => absurd hanswer (List.not_mem_nil (a := answer))
  have hmeets := (accounts_outline users).run run (Pool.Meets.quiet ⟨rfl, hstart⟩)
  obtain ⟨husers, hanswered⟩ := hmeets.global
  have hstored : p.store.HasUser user.id := by
    rw [AccountStore.HasUser, husers]
    exact ⟨user, huser, rfl⟩
  constructor
  · rintro ⟨userId, result⟩ hanswer rfl
    obtain ⟨account, haccount, hresult⟩ := hanswered _ hanswer hstored
    exact ⟨account, hresult, haccount.filter_eq⟩
  · rintro i ⟨userId, phase⟩ ht rfl
    exact progresses ht (hmeets.each i _ ht) hstored

/-- One user. -/
def oneUser : Table User where
  rows := [{ id := 0, email := "ada@example.com" }]
  next := 1
  fresh := by
    intro r hr
    obtain rfl := List.mem_singleton.mp hr
    exact Nat.zero_lt_one
  distinct := List.pairwise_singleton _ _
  unique := List.pairwise_singleton _ _

/-- Users who have no accounts yet. -/
def AccountStore.fresh (users : Table User) : AccountStore :=
  AccountStore.start Db.empty users fun a ha => absurd ha (List.not_mem_nil (a := a))

/-- Two calls find no account; one inserts it, and the other one loses and reads again. -/
theorem provisioning_raced_twice : ∃ p,
    Run getOrCreateVirtualAccount.machine Unguarded (Pool.quiet (AccountStore.fresh oneUser))
        [.begin 0 0, .begin 1 0, .advance 0 (), .advance 1 (), .advance 0 (), .advance 1 (),
          .advance 1 (), .advance 0 ()] p ∧
      p.store.answers.map AccountAnswer.userId = [0, 0] ∧
      ∀ answer ∈ p.store.answers, answer.userId = 0 →
        ∃ account, answer.result = .ok account ∧
          (p.store.db.accounts.rows.filter fun a => decide (a.userId = 0)) = [account] := by
  have hcheck : (getOrCreateVirtualAccount.machine.check (fun _ _ => true)
      (Pool.quiet (AccountStore.fresh oneUser))
      [.begin 0 0, .begin 1 0, .advance 0 (), .advance 1 (), .advance 0 (), .advance 1 (),
        .advance 1 (), .advance 0 ()]).map
          (fun p => p.store.answers.map AccountAnswer.userId) = some [0, 0] := by
    decide +kernel
  obtain ⟨p, hp, hanswers⟩ := Option.map_eq_some_iff.mp hcheck
  have run := (Run.of_check hp).unguarded
  have hada : ({ id := 0, email := "ada@example.com" } : User) ∈ oneUser := List.mem_cons_self
  exact ⟨p, run, hanswers, (provisioning_race_free run hada).1⟩

end AfricaFrontier
