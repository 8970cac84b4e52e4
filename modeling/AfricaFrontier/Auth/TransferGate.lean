import AfricaFrontier.Auth.BearerHistories
import Mathlib.Logic.Function.Basic

/-!
# The gate in front of transfers

In production `require_verified_user` lets a user pay who is active, has confirmed the address,
and has accepted the terms and the AML policy that are in force.  What was accepted stands in the
user's row: a sign-up writes it, and so does the mobile sign-in that creates an account or links
it to an identity.

A run is a sequence of identity calls, with new deployments in between, which may have other
policies, and with the operator setting the flag of users.  Beside the tables stands what every
user accepted last, in a sign-in that succeeded.  The two part in two ways.  The sign-in of an
identity that is known already does not record what is accepted in it, so that after a change of
the policies its user stays in front of the gate; and that of a disabled account is refused only
after it was recorded.  Where neither happens they agree (`acceptance_recorded_iff`), and the gate
opens to the active users whose last acceptance is of the policies in force (`gate_opens_iff`).

The two histories are kept in the same form: a function from users to the policies they have
accepted, as the rows say (`recordedPolicies`) and as it was (`GateWorld.accepted`). A call stamps
the policies in force into each of them for at most one user, `recordedBy` and `acceptedBy`. So
the histories agree after a call exactly where the two stamps come to the same, and the whole
comparison of the exchange is about two users (`exchange_same_or_parts`).

The third check of the gate, the confirmed address, never decides: every route that records
policies has confirmed the address before, or does so with them (`ConfirmedFirst`).
-/

namespace AfricaFrontier

open Python Relational Transition

/-! ## The gate -/

/-- The versions a user accepts. -/
structure Policies where
  termsVersion : String
  amlPolicyVersion : String
  deriving DecidableEq

/-- The versions in force, as `legal_versions` shows them. -/
def AuthConfig.policies (config : AuthConfig) : Policies :=
  ⟨config.termsVersion, config.amlPolicyVersion⟩

/-- `require_verified_user`, of the user `get_current_user_id` answers. Outside production it lets
everybody pass. -/
def requireVerifiedUser (config : AuthConfig) (userId : ℕ) (db : AuthDb) : Except AuthError ℕ :=
  if config.isProduction = false then .ok userId
  else
    match db.users.get userId with
    | none => .error (.http 401 "User account is unavailable")
    | some user =>
        if user.isActive ≠ "1" then .error (.http 401 "User account is unavailable")
        else if user.emailVerifiedAt = none then
          .error (.http 403 "Email verification is required before transfers")
        else if user.termsAcceptedAt = none ∨ user.termsVersion ≠ some config.termsVersion ∨
            user.amlPolicyVersion ≠ some config.amlPolicyVersion then
          .error (.http 403
            "Acceptance of the current terms and AML policy is required before transfers")
        else .ok userId

/-- What a row says its user has accepted: nothing, unless the time and both versions are there. -/
def User.policies (u : User) : Option Policies :=
  match u.termsAcceptedAt, u.termsVersion, u.amlPolicyVersion with
  | some _, some terms, some aml => some ⟨terms, aml⟩
  | _, _, _ => none

/-- The three columns that are written together. -/
theorem User.policies_eq_some {u : User} {p : Policies} :
    u.policies = some p ↔ u.termsAcceptedAt ≠ none ∧ u.termsVersion = some p.termsVersion ∧
      u.amlPolicyVersion = some p.amlPolicyVersion := by
  obtain ⟨terms, aml⟩ := p
  unfold User.policies
  split
  · rename_i haccepted hterms haml
    simp [haccepted, hterms, haml]
  · rename_i hmissing
    constructor
    · intro h
      cases h
    · rintro ⟨haccepted, hterms, haml⟩
      obtain ⟨time, htime⟩ := Option.ne_none_iff_exists'.mp haccepted
      exact (hmissing time _ _ htime hterms haml).elim

/-- In production the row decides. -/
theorem requireVerifiedUser_ok_iff {config : AuthConfig} (hproduction : config.isProduction = true)
    {userId : ℕ} {db : AuthDb} :
    requireVerifiedUser config userId db = .ok userId ↔
      ∃ user, db.users.get userId = some user ∧ user.isActive = "1" ∧
        user.emailVerifiedAt ≠ none ∧ user.policies = some config.policies := by
  have hlive : ¬ config.isProduction = false := by simp [hproduction]
  unfold requireVerifiedUser
  rw [if_neg hlive]
  cases huser : db.users.get userId with
  | none => simp
  | some user =>
      dsimp only
      split_ifs with hactive hemail hpolicies
      · simp [hactive]
      · simp [hemail]
      · refine iff_of_false (fun h => by cases h) ?_
        rintro ⟨found, hfound, -, -, haccepted⟩
        obtain rfl := Option.some.inj hfound
        obtain ⟨htime, hterms, haml⟩ := User.policies_eq_some.mp haccepted
        rcases hpolicies with h | h | h
        · exact htime h
        · exact h hterms
        · exact h haml
      · push Not at hpolicies
        exact iff_of_true rfl
          ⟨user, rfl, not_not.mp hactive, hemail, User.policies_eq_some.mpr hpolicies⟩

/-! ## What a call records, and what is accepted in it -/

/-- The user who has an identity. -/
def AuthDb.userOf (db : AuthDb) (subject : String) : Option User :=
  db.users.rows.find? fun u => decide (u.oauthSubject = some subject)

/-- The policies are accepted in the call. -/
def AuthCall.accepts : AuthCall → Bool
  | .verifySignupOtp _ payload => payload.termsAccepted
  | .exchangeMobileOauth _ _ payload => payload.termsAccepted
  | _ => false

/-- The user who has accepted the policies in force when the call is answered. -/
def acceptedBy (config : AuthConfig) (db : AuthDb) (call : AuthCall) : Option ℕ :=
  if call.accepts then (signInOf config db call).map SignedIn.userId else none

/-- The user for whom the call records the policies in force.  A mobile sign-in records them for
a user who did not have the identity and has it now. -/
def recordedBy (config : AuthConfig) (db : AuthDb) : AuthCall → Option ℕ
  | .verifySignupOtp tick payload =>
      match (verifySignupOtp config tick payload db).2 with
      | .ok r => some r.userId
      | .error _ => none
  | .exchangeMobileOauth tick exchangeSecret payload =>
      if payload.termsAccepted = true ∧ db.userOf payload.oauthSubject = none then
        ((exchangeMobileOauth config tick exchangeSecret payload db).1.userOf
          payload.oauthSubject).map User.id
      else none
  | _ => none

/-- The policies are entered for a user. -/
def Policies.stamp (p : Policies) (user : Option ℕ) (accepted : ℕ → Option Policies) :
    ℕ → Option Policies :=
  match user with
  | none => accepted
  | some userId => Function.update accepted userId (some p)

/-- Entering them for one user or another comes to the same exactly where it is the same user, or
nothing new. -/
theorem Policies.stamp_eq_iff {p : Policies} {r a : Option ℕ} {accepted : ℕ → Option Policies} :
    p.stamp r accepted = p.stamp a accepted ↔
      ∀ i, r = some i ∨ a = some i → r = a ∨ accepted i = some p := by
  constructor
  · intro h i hi
    by_cases hsame : r = a
    · exact Or.inl hsame
    · right
      have hat := congrFun h i
      rcases hi with rfl | rfl
      · cases a with
        | none => simpa [Policies.stamp] using hat.symm
        | some j =>
            have hne : i ≠ j := fun hij => hsame (congrArg some hij)
            simpa [Policies.stamp, Function.update_of_ne hne] using hat.symm
      · cases r with
        | none => simpa [Policies.stamp] using hat
        | some j =>
            have hne : i ≠ j := fun hij => hsame (congrArg some hij.symm)
            simpa [Policies.stamp, Function.update_of_ne hne] using hat
  · intro h
    by_cases hsame : r = a
    · rw [hsame]
    · -- each of the two leaves everything as it was
      have hkept : ∀ user, (∀ i, user = some i → accepted i = some p) →
          p.stamp user accepted = accepted := by
        intro user huser
        cases user with
        | none => rfl
        | some i => exact Function.update_eq_self_iff.mpr (huser i rfl).symm
      rw [hkept r fun i hi => (h i (Or.inl hi)).resolve_left hsame,
        hkept a fun i hi => (h i (Or.inr hi)).resolve_left hsame]

/-! ## What a call writes

At most one user is written, and their record is either stamped or kept. -/

/-- What the rows say. -/
def recordedPolicies (users : Table User) (userId : ℕ) : Option Policies :=
  (users.get userId).bind User.policies

/-- The user stored at an identifier after one user was rewritten. -/
theorem Rewrites.get {users users' : Table User} {u v : User} (h : Rewrites users users' u v)
    (i : ℕ) : users'.get i = if i = u.id then some v else users.get i := by
  by_cases hi : i = u.id
  · rw [if_pos hi]
    exact Table.get_eq_some_iff.mpr ⟨(h.mem_iff v).mpr (Or.inr rfl), h.sameId.trans hi.symm⟩
  · rw [if_neg hi]
    apply Option.ext
    intro w
    rw [Table.get_eq_some_iff, Table.get_eq_some_iff, h.mem_iff]
    constructor
    · rintro ⟨⟨hw, -⟩ | rfl, hid⟩
      · exact ⟨hw, hid⟩
      · exact absurd (hid.symm.trans h.sameId) hi
    · rintro ⟨hw, hid⟩
      exact ⟨Or.inl ⟨hw, fun hsame => hi (hid.symm.trans hsame)⟩, hid⟩

/-- The record after one user was rewritten. -/
theorem recorded_of_rewrites {users users' : Table User} {u v : User}
    (h : Rewrites users users' u v) :
    recordedPolicies users' = Function.update (recordedPolicies users) u.id v.policies := by
  funext i
  rw [recordedPolicies, h.get]
  by_cases hi : i = u.id
  · rw [if_pos hi, hi, Function.update_self]
    rfl
  · rw [if_neg hi, Function.update_of_ne hi]
    rfl

/-- A user whose record is not touched is as before. -/
theorem recorded_of_rewrites_same {users users' : Table User} {u v : User}
    (h : Rewrites users users' u v) (hsame : v.policies = u.policies) :
    recordedPolicies users' = recordedPolicies users := by
  have hget : users.get u.id = some u := Table.get_ident h.stored
  rw [recorded_of_rewrites h, Function.update_eq_self_iff, hsame, recordedPolicies, hget]
  rfl

/-- The record after a new user. -/
theorem recorded_of_add {users users' : Table User} {user : User}
    (h : (UserWrite.add user).flush users = some users') :
    recordedPolicies users' =
      Function.update (recordedPolicies users) users.next user.policies := by
  have hinsert : users.insert (fun n => { user with id := n }) (fun _ => rfl) = some users' := h
  funext i
  rw [recordedPolicies, Table.get_insert hinsert]
  by_cases hi : i = users.next
  · rw [if_pos hi, hi, Function.update_self]
    rfl
  · rw [if_neg hi, Function.update_of_ne hi]
    rfl

/-- Who has accepted policies has confirmed the address. -/
def ConfirmedFirst (users : Table User) : Prop :=
  ∀ u ∈ users, u.policies ≠ none → u.emailVerifiedAt ≠ none

/-- What a call makes of the users, and for whom it records the policies. -/
inductive Writes (p : Policies) (users : Table User) : Table User → Option ℕ → Prop
  | nothing : Writes p users users none
  | kept {users' : Table User} {u v : User} (hrewrites : Rewrites users users' u v)
      (hpolicies : v.policies = u.policies)
      (hemail : u.emailVerifiedAt ≠ none → v.emailVerifiedAt ≠ none) : Writes p users users' none
  | recorded {users' : Table User} {u v : User} (hrewrites : Rewrites users users' u v)
      (hpolicies : v.policies = some p) (hemail : v.emailVerifiedAt ≠ none) :
      Writes p users users' (some u.id)
  | added {users' : Table User} {user : User}
      (husers : (UserWrite.add user).flush users = some users') (hpolicies : user.policies = none) :
      Writes p users users' none
  | enrolled {users' : Table User} {user : User}
      (husers : (UserWrite.add user).flush users = some users')
      (hpolicies : user.policies = some p) (hemail : user.emailVerifiedAt ≠ none) :
      Writes p users users' (some users.next)

section Writes

variable {p : Policies} {users users' : Table User} {r : Option ℕ}

/-- **The record after a call** is stamped for one user, or for nobody. -/
theorem Writes.recorded_eq (h : Writes p users users' r) :
    recordedPolicies users' = p.stamp r (recordedPolicies users) := by
  cases h with
  | nothing => rfl
  | kept hrewrites hpolicies _ => exact recorded_of_rewrites_same hrewrites hpolicies
  | recorded hrewrites hpolicies _ =>
      rw [recorded_of_rewrites hrewrites, hpolicies]
      rfl
  | added husers hpolicies =>
      rw [recorded_of_add husers, hpolicies]
      refine Function.update_eq_self_iff.mpr ?_
      rw [recordedPolicies, Table.get_next]
      rfl
  | enrolled husers hpolicies _ =>
      rw [recorded_of_add husers, hpolicies]
      rfl

/-- A new user has policies with the address only. -/
theorem ConfirmedFirst.of_add {user : User} (hfirst : ConfirmedFirst users)
    (h : (UserWrite.add user).flush users = some users')
    (huser : user.policies ≠ none → user.emailVerifiedAt ≠ none) : ConfirmedFirst users' := by
  have hinsert : users.insert (fun n => { user with id := n }) (fun _ => rfl) = some users' := h
  intro w hw haccepted
  rcases (Table.mem_insert hinsert).mp hw with hold | rfl
  · exact hfirst w hold haccepted
  · exact huser haccepted

/-- A call keeps the order of the two. -/
theorem Writes.confirmedFirst (h : Writes p users users' r) (hfirst : ConfirmedFirst users) :
    ConfirmedFirst users' := by
  cases h with
  | nothing => exact hfirst
  | @kept _ u v hrewrites hpolicies hemail =>
      refine (hrewrites.forall_iff hfirst).mpr fun haccepted => hemail ?_
      exact hfirst u hrewrites.stored (hpolicies ▸ haccepted)
  | recorded hrewrites _ hemail => exact (hrewrites.forall_iff hfirst).mpr fun _ => hemail
  | added husers hpolicies => exact hfirst.of_add husers fun haccepted => absurd hpolicies haccepted
  | enrolled husers _ hemail => exact hfirst.of_add husers fun _ => hemail

end Writes

/-! ### The mobile sign-in -/

/-- What `exchange_mobile_oauth` does: it refuses, it signs in a user who has the identity, it
links the account of the address to the identity, or it creates an account. -/
inductive ExchangeCase (config : AuthConfig) (tick : AuthTick)
    (payload : MobileOAuthExchangeRequest) (db : AuthDb) :
    AuthDb × Except AuthError String → Prop
  | refused {error : AuthError}
      (hother : db.userOf payload.oauthSubject = none →
        error ≠ .authentication "Account is disabled") :
      ExchangeCase config tick payload db (db, .error error)
  | known {users : Table User} {u v : User} (hknown : db.userOf payload.oauthSubject = some u)
      (hactive : u.isActive = "1") (hrewrites : Rewrites db.users users u v)
      (hpolicies : v.policies = u.policies) (hsubject : v.oauthSubject = u.oauthSubject)
      (hemail : v.emailVerifiedAt ≠ none) :
      ExchangeCase config tick payload db ({ db with users }, config.exchanged tick u)
  | linked {users : Table User} {u : User} (hunknown : db.userOf payload.oauthSubject = none)
      (hfound : db.userByEmail payload.email = some u)
      (hrewrites : Rewrites db.users users u (payload.link config tick.now u)) :
      ExchangeCase config tick payload db ({ db with users }, config.exchanged tick u)
  | created {users : Table User} (hunknown : db.userOf payload.oauthSubject = none)
      (husers : (UserWrite.add (payload.newUser config tick.now)).flush db.users = some users) :
      ExchangeCase config tick payload db ({ db with users },
        config.exchanged tick { payload.newUser config tick.now with id := db.users.next })

/-- A user who is left as stored. -/
theorem Rewrites.refl {users : Table User} {u : User} (h : u ∈ users) :
    Rewrites users users u u where
  stored := h
  sameId := rfl
  mem_iff u' := by
    constructor
    · intro hu'
      by_cases hid : u'.id = u.id
      · exact Or.inr (Table.eq_of_ident hu' h hid)
      · exact Or.inl ⟨hu', hid⟩
    · rintro (⟨hu', -⟩ | rfl)
      · exact hu'
      · exact h

section Exchange

variable {config : AuthConfig} {tick : AuthTick} {payload : MobileOAuthExchangeRequest}
  {db : AuthDb}

/-- Every request of the mobile sign-in is one of the cases. -/
theorem exchangeMobileOauth_case (exchangeSecret : Option String) :
    ExchangeCase config tick payload db
      (exchangeMobileOauth config tick exchangeSecret payload db) := by
  unfold exchangeMobileOauth
  split
  · exact .refused fun _ => by simp
  · split
    · exact .refused fun _ => by simp
    · split
      -- the identity is known: the user is looked at, whatever the address
      · rename_i user huser
        have hknown : db.userOf payload.oauthSubject = some user := huser
        have hstored : user ∈ db.users := List.mem_of_find?_eq_some huser
        have hother : db.userOf payload.oauthSubject = none →
            ∀ error : AuthError, error ≠ .authentication "Account is disabled" := by
          intro hunknown
          rw [hknown] at hunknown
          cases hunknown
        split
        · exact .refused fun hunknown => hother hunknown _
        · rename_i hactive
          split
          · rename_i hverified
            exact .known hknown (not_not.mp hactive) (.refl hstored) rfl rfl
              (Option.isSome_iff_ne_none.mp hverified)
          · split
            · exact .refused fun hunknown => hother hunknown _
            · split
              · exact .refused fun hunknown => hother hunknown _
              · rename_i users husers
                exact @ExchangeCase.known config tick payload db users user
                  (user.emailVerified tick.now) hknown (not_not.mp hactive)
                  (UserWrite.flush_update hstored rfl husers) rfl rfl (Option.some_ne_none _)
      -- it is not: a user with the address is linked, or one is created
      · rename_i hunknown
        split
        · rename_i user huser
          split
          · exact .refused fun _ => by simp
          · split
            · exact .refused fun _ => by simp
            · split
              · exact .refused fun _ => by simp
              · rename_i users husers
                exact .linked hunknown huser
                  (Table.replace_rewrites (AuthDb.userByEmail_some huser).1 husers)
        · split
          · exact .refused fun _ => by simp
          · split
            · exact .refused fun _ => by simp
            · rename_i users husers
              exact .created hunknown husers

/-- An account whose record and last acceptance part in the sign-in. -/
inductive Parts (config : AuthConfig) (tick : AuthTick) (exchangeSecret : Option String)
    (payload : MobileOAuthExchangeRequest) (db : AuthDb) (u : User) : Prop
  /-- The identity is known, and what is accepted is not recorded. -/
  | known {token : String} (hknown : db.userOf payload.oauthSubject = some u)
      (hanswer : (exchangeMobileOauth config tick exchangeSecret payload db).2 = .ok token)
  /-- The account is disabled, and the refusal comes after the record. -/
  | disabled (hunknown : db.userOf payload.oauthSubject = none)
      (hfound : db.userByEmail payload.email = some u)
      (hanswer : (exchangeMobileOauth config tick exchangeSecret payload db).2 =
        .error (.authentication "Account is disabled"))

theorem exchanged_active {u : User} (h : u.isActive = "1") :
    config.exchanged tick u = .ok (config.createAccessToken u.id tick.now) :=
  if_neg (not_not.mpr h)

/-- A disabled account is refused, whatever was written before. -/
theorem exchanged_disabled {u : User} (h : u.isActive ≠ "1") :
    config.exchanged tick u = .error (.authentication "Account is disabled") :=
  if_pos h

/-- The user who was created has the identity. -/
theorem userOf_created {users : Table User}
    (h : (UserWrite.add (payload.newUser config tick.now)).flush db.users = some users) :
    AuthDb.userOf { db with users } payload.oauthSubject =
      some { payload.newUser config tick.now with id := db.users.next } := by
  have hinsert : db.users.insert (fun n => { payload.newUser config tick.now with id := n })
      (fun _ => rfl) = some users := h
  exact find_oauthSubject ((Table.mem_insert hinsert).mpr (Or.inr rfl)) rfl

/-- The user of the account that was linked has it. -/
theorem userOf_rewritten {users : Table User} {u v : User} (h : Rewrites db.users users u v)
    (hsubject : v.oauthSubject = some payload.oauthSubject) :
    AuthDb.userOf { db with users } payload.oauthSubject = some v :=
  find_oauthSubject ((h.mem_iff v).mpr (Or.inr rfl)) hsubject

/-- Who is found by an identity is stored with it. -/
theorem userOf_some {subject : String} {u : User} (h : db.userOf subject = some u) :
    u ∈ db.users ∧ u.oauthSubject = some subject := by
  refine ⟨List.mem_of_find?_eq_some h, ?_⟩
  simpa using List.find?_some h

/-- A link in which the policies are accepted records them. -/
theorem link_policies_accepted (u : User) (h : payload.termsAccepted = true) :
    (payload.link config tick.now u).policies = some config.policies := by
  rw [User.policies_eq_some]
  simp [MobileOAuthExchangeRequest.link, h, AuthConfig.policies]

/-- Any other keeps the record. -/
theorem link_policies_kept (u : User) (h : payload.termsAccepted = false) :
    (payload.link config tick.now u).policies = u.policies := by
  simp [User.policies, MobileOAuthExchangeRequest.link, h]

/-- Nobody has an identity that is unknown. -/
theorem userOf_ite {subject : String} {c : Prop} [Decidable c]
    (h : c → db.userOf subject = none) :
    (if c then (db.userOf subject).map User.id else none) = none := by
  split
  · rename_i hc
    rw [h hc]
    rfl
  · rfl

/-- What a mobile sign-in writes. -/
theorem exchangeMobileOauth_writes (exchangeSecret : Option String) :
    Writes config.policies db.users
      (exchangeMobileOauth config tick exchangeSecret payload db).1.users
      (recordedBy config db (.exchangeMobileOauth tick exchangeSecret payload)) := by
  have hcase := @exchangeMobileOauth_case config tick payload db exchangeSecret
  simp only [recordedBy]
  generalize exchangeMobileOauth config tick exchangeSecret payload db = result at hcase ⊢
  cases hcase with
  | refused hother =>
      rw [userOf_ite fun hboth => hboth.2]
      exact .nothing
  -- a known identity records no acceptance, whatever was sent
  | known hknown hactive hrewrites hpolicies hsubject hemail =>
      rw [if_neg fun hboth => by rw [hknown] at hboth; cases hboth.2]
      exact .kept hrewrites hpolicies fun _ => hemail
  | @linked users u hunknown hfound hrewrites =>
      have hemail : (payload.link config tick.now u).emailVerifiedAt ≠ none := by
        show u.emailVerifiedAt.or (some tick.now) ≠ none
        simp
      cases hterms : payload.termsAccepted with
      | true =>
          rw [if_pos ⟨rfl, hunknown⟩, userOf_rewritten hrewrites rfl]
          show Writes config.policies db.users users (some u.id)
          exact .recorded hrewrites (link_policies_accepted u hterms) hemail
      | false =>
          rw [if_neg fun hboth => by cases hboth.1]
          exact .kept hrewrites (link_policies_kept u hterms) fun _ => hemail
  | created hunknown husers =>
      cases hterms : payload.termsAccepted with
      | true =>
          rw [if_pos ⟨rfl, hunknown⟩, userOf_created husers]
          refine .enrolled husers ?_ (Option.some_ne_none _)
          rw [User.policies_eq_some]
          simp [MobileOAuthExchangeRequest.newUser, hterms, AuthConfig.policies]
      | false =>
          rw [if_neg fun hboth => by cases hboth.1]
          refine .added husers ?_
          simp [User.policies, MobileOAuthExchangeRequest.newUser, hterms]

/-- The user of a mobile sign-in. -/
def exchangedBy (payload : MobileOAuthExchangeRequest) :
    AuthDb × Except AuthError String → Option ℕ
  | (db', .ok _) => (db'.userOf payload.oauthSubject).map User.id
  | (_, .error _) => none

/-- Whose acceptance a mobile sign-in is. -/
theorem acceptedBy_exchange (exchangeSecret : Option String)
    (hterms : payload.termsAccepted = true) :
    acceptedBy config db (.exchangeMobileOauth tick exchangeSecret payload) =
      exchangedBy payload (exchangeMobileOauth config tick exchangeSecret payload db) := by
  have haccepts : (AuthCall.exchangeMobileOauth tick exchangeSecret payload).accepts = true :=
    hterms
  rw [acceptedBy, if_pos haccepts, signInOf]
  rcases exchangeMobileOauth config tick exchangeSecret payload db with ⟨db', error | token⟩
  · rfl
  · simp only [exchangedBy, Option.map_map]
    rfl

/-- The two ways to part, in terms of what is stored and answered. -/
theorem parts_iff (exchangeSecret : Option String) (u : User) :
    Parts config tick exchangeSecret payload db u ↔
      (db.userOf payload.oauthSubject = some u ∧
        ∃ token, (exchangeMobileOauth config tick exchangeSecret payload db).2 = .ok token) ∨
      (db.userOf payload.oauthSubject = none ∧ db.userByEmail payload.email = some u ∧
        (exchangeMobileOauth config tick exchangeSecret payload db).2 =
          .error (.authentication "Account is disabled")) := by
  constructor
  · rintro (⟨hknown, hanswer⟩ | ⟨hunknown, hfound, hanswer⟩)
    · exact Or.inl ⟨hknown, _, hanswer⟩
    · exact Or.inr ⟨hunknown, hfound, hanswer⟩
  · rintro (⟨hknown, token, hanswer⟩ | ⟨hunknown, hfound, hanswer⟩)
    · exact .known hknown hanswer
    · exact .disabled hunknown hfound hanswer

/-- In a mobile sign-in the record and the acceptance are of the same user, or there is one
account at which they part, and one of the two is missing. -/
theorem exchange_same_or_parts (exchangeSecret : Option String)
    (hterms : payload.termsAccepted = true) {r a : Option ℕ}
    (hr : recordedBy config db (.exchangeMobileOauth tick exchangeSecret payload) = r)
    (ha : acceptedBy config db (.exchangeMobileOauth tick exchangeSecret payload) = a) :
    (r = a ∧ ∀ u, ¬ Parts config tick exchangeSecret payload db u) ∨
      ∃ u ∈ db.users, (∀ u', Parts config tick exchangeSecret payload db u' ↔ u' = u) ∧
        (r = none ∧ a = some u.id ∨ r = some u.id ∧ a = none) := by
  have hcase := @exchangeMobileOauth_case config tick payload db exchangeSecret
  rw [acceptedBy_exchange exchangeSecret hterms] at ha
  simp only [recordedBy, hterms, true_and] at hr
  simp only [parts_iff]
  generalize exchangeMobileOauth config tick exchangeSecret payload db = result
    at hcase hr ha ⊢
  subst hr ha
  cases hcase with
  | @refused error hother =>
      refine Or.inl ⟨userOf_ite fun hunknown => hunknown, ?_⟩
      rintro u (⟨-, token, hanswer⟩ | ⟨hunknown, -, hanswer⟩)
      · cases hanswer
      · exact hother hunknown (Except.error.inj hanswer)
  -- what is recorded is nothing, what was accepted is of this user: they part
  | @known users u v hknown hactive hrewrites hpolicies hsubject hemail =>
      obtain ⟨hstored, hidentity⟩ := userOf_some hknown
      rw [exchanged_active hactive]
      refine Or.inr ⟨u, hstored, fun u' => ?_, Or.inl ⟨?_, ?_⟩⟩
      · constructor
        · rintro (⟨hsame, -⟩ | ⟨hunknown, -⟩)
          · exact Option.some.inj (hsame.symm.trans hknown)
          · rw [hknown] at hunknown
            cases hunknown
        · rintro rfl
          exact Or.inl ⟨hknown, _, rfl⟩
      · rw [hknown]
        rfl
      · rw [exchangedBy, userOf_rewritten hrewrites (hsubject.trans hidentity)]
        exact congrArg some hrewrites.sameId
  | @linked users u hunknown hfound hrewrites =>
      rw [if_pos hunknown, userOf_rewritten hrewrites rfl]
      -- a disabled user is linked all the same, and only then refused
      by_cases hactive : u.isActive = "1"
      · rw [exchanged_active hactive]
        refine Or.inl ⟨?_, ?_⟩
        · rw [exchangedBy, userOf_rewritten hrewrites rfl]
        · rintro u' (⟨hknown, -⟩ | ⟨-, -, hanswer⟩)
          · rw [hunknown] at hknown
            cases hknown
          · cases hanswer
      · rw [exchanged_disabled hactive]
        refine Or.inr ⟨u, hrewrites.stored, fun u' => ?_, Or.inr ⟨rfl, rfl⟩⟩
        constructor
        · rintro (⟨hknown, -⟩ | ⟨-, hsame, -⟩)
          · rw [hunknown] at hknown
            cases hknown
          · exact Option.some.inj (hsame.symm.trans hfound)
        · rintro rfl
          exact Or.inr ⟨hunknown, hfound, rfl⟩
  | @created users hunknown husers =>
      rw [if_pos hunknown, exchanged_active rfl]
      refine Or.inl ⟨rfl, ?_⟩
      rintro u (⟨hknown, -⟩ | ⟨-, -, hanswer⟩)
      · rw [hunknown] at hknown
        cases hknown
      · cases hanswer

end Exchange

/-! ### The other calls -/

/-- A sign-up that succeeds had the terms accepted. -/
theorem SignsUp.termsAccepted {config : AuthConfig} {tick : AuthTick} {payload : OtpVerifyRequest}
    {db : AuthDb} {c : UserOtpChallenge} {write : UserWrite}
    (h : SignsUp config tick payload db c write) : payload.termsAccepted = true := by
  by_contra hterms
  have hrefused : ∃ error, checkConsents payload.identityConsent payload.termsAccepted =
      .error error := by
    rw [Bool.not_eq_true] at hterms
    unfold checkConsents
    rw [hterms]
    split_ifs with hconsent hmissing
    · exact ⟨_, rfl⟩
    · exact ⟨_, rfl⟩
    · exact absurd rfl hmissing
  obtain ⟨error, herror⟩ := hrefused
  have haccepted := h.accepted
  simp only [AuthConfig.attempt, herror] at haccepted
  split_ifs at haccepted

/-- Only sign-ups and mobile sign-ins record or accept policies. -/
theorem recordedBy_eq_acceptedBy {config : AuthConfig} {db : AuthDb} {call : AuthCall}
    (hother : ∀ tick exchangeSecret payload,
      call ≠ .exchangeMobileOauth tick exchangeSecret payload) :
    recordedBy config db call = acceptedBy config db call := by
  cases call with
  | verifySignupOtp tick payload =>
      by_cases hsucceeds : ∃ c write, SignsUp config tick payload db c write
      · obtain ⟨c, write, hsigns⟩ := hsucceeds
        obtain ⟨users, husers⟩ := hsigns.flush
        have haccepts : (AuthCall.verifySignupOtp tick payload).accepts = true :=
          hsigns.termsAccepted
        rw [recordedBy, acceptedBy, if_pos haccepts, signInOf,
          verifySignupOtp_signsUp hsigns husers]
        rfl
      · obtain ⟨-, error, herror⟩ := verifySignupOtp_fails fun c write hsigns =>
          hsucceeds ⟨c, write, hsigns⟩
        rw [recordedBy, acceptedBy, signInOf, herror]
        exact (ite_self _).symm
  | exchangeMobileOauth tick exchangeSecret payload => exact absurd rfl (hother _ _ _)
  | _ => rfl

/-- The other calls write what they accept. -/
theorem UsersEffect.writes {config : AuthConfig} {db : AuthDb} {call : AuthCall}
    {users : Table User} (h : UsersEffect config db call users)
    (hother : ∀ tick exchangeSecret payload,
      call ≠ .exchangeMobileOauth tick exchangeSecret payload) :
    Writes config.policies db.users users (recordedBy config db call) := by
  cases h with
  | unchanged hquiet =>
      cases call with
      | verifySignupOtp tick payload =>
          obtain ⟨-, error, herror⟩ := verifySignupOtp_fails hquiet
          rw [recordedBy, herror]
          exact .nothing
      | exchangeMobileOauth tick exchangeSecret payload => exact absurd rfl (hother _ _ _)
      | _ => exact .nothing
  | registered husers => exact .added husers rfl
  -- the code is right, and the user may be a new one or one without a verified address
  | @enrolled tick payload c user users hsigns hnew husers =>
      rw [recordedBy, verifySignupOtp_signsUp hsigns husers]
      have hconfirmed := hsigns.confirmed
      cases huser : db.userByEmail (config.normalizeEmail payload.email) with
      | none =>
          rw [huser] at hconfirmed
          obtain rfl := UserWrite.add.inj (Except.ok.inj hconfirmed)
          exact .enrolled husers rfl (Option.some_ne_none _)
      | some u =>
          rw [huser] at hconfirmed
          simp only [OtpVerifyRequest.confirm] at hconfirmed
          split_ifs at hconfirmed
          cases hconfirmed
  | @signedUp tick payload c u users hsigns hrewrites =>
      obtain ⟨users', husers⟩ := hsigns.flush
      rw [recordedBy, verifySignupOtp_signsUp hsigns husers]
      exact .recorded hrewrites rfl (Option.some_ne_none _)
  | confirmed hconfirms hrewrites => exact .kept hrewrites rfl fun hemail => hemail
  | submitted hsubmits hrewrites => exact .kept hrewrites rfl fun hemail => hemail
  | exchanged hexchanges => exact absurd rfl (hother _ _ _)

/-- **What a call writes.** -/
theorem AuthWorld.after_writes (w : AuthWorld) (config : AuthConfig) (call : AuthCall) :
    Writes config.policies w.db.users (w.after config call).db.users
      (recordedBy config w.db call) := by
  by_cases hexchange : ∃ tick exchangeSecret payload,
      call = .exchangeMobileOauth tick exchangeSecret payload
  · obtain ⟨tick, exchangeSecret, payload, rfl⟩ := hexchange
    exact exchangeMobileOauth_writes exchangeSecret
  · exact (w.after_users config call).writes fun tick exchangeSecret payload hcall =>
      hexchange ⟨tick, exchangeSecret, payload, hcall⟩

/-! ## The service over time -/

/-- The settings in force, the tables, and what every user accepted last. -/
structure GateWorld where
  config : AuthConfig
  auth : AuthWorld
  accepted : ℕ → Option Policies

/-- What happens to the service. -/
inductive GateCall
  | auth (call : AuthCall)
  /-- A deployment with other settings. -/
  | deploy (config : AuthConfig)
  /-- The operator sets the flag of a user. -/
  | setActive (userId : ℕ) (value : String)

namespace GateWorld

/-- Nobody signed up yet. -/
def start (config : AuthConfig) : GateWorld := ⟨config, .start .empty, fun _ => none⟩

/-- One call, a deployment, or a flag. -/
def after (w : GateWorld) : GateCall → GateWorld
  | .auth call =>
      { w with
        auth := w.auth.after w.config call
        accepted := w.config.policies.stamp (acceptedBy w.config w.auth.db call) w.accepted }
  | .deploy config => { w with config }
  | .setActive userId value =>
      { w with auth := { w.auth with db := w.auth.db.setActive userId value } }

/-- The rows say what the users accepted last, for every user at once. -/
def Agrees (w : GateWorld) : Prop := recordedPolicies w.auth.db.users = w.accepted

/-- Where the record and the acceptance of a mobile sign-in part, nothing new is accepted: the
policies were those on record anyway. No other call can make them part. -/
def Faithful (w : GateWorld) : GateCall → Prop
  | .auth (.exchangeMobileOauth tick exchangeSecret payload) =>
      payload.termsAccepted = true →
        ∀ u, Parts w.config tick exchangeSecret payload w.auth.db u →
          u.policies = some w.config.policies
  | _ => True

end GateWorld

/-- Sequences of calls. -/
def gateCalls : Machine GateWorld GateCall := Machine.total GateWorld.after

section Steps

variable {w : GateWorld}

/-- The flag is no part of the record. -/
theorem recorded_setActive (db : AuthDb) (userId : ℕ) (value : String) :
    recordedPolicies (db.setActive userId value).users = recordedPolicies db.users := by
  funext i
  rw [recordedPolicies, AuthDb.get_setActive, recordedPolicies]
  cases db.users.get i with
  | none => rfl
  | some u =>
      show User.policies (if i = userId then { u with isActive := value } else u) = u.policies
      split
      · rfl
      · rfl

/-- A faithful sign-in is one whose two stamps come to the same. -/
theorem faithful_iff_stamps (tick : AuthTick) (exchangeSecret : Option String)
    (payload : MobileOAuthExchangeRequest) (hagrees : w.Agrees) :
    w.Faithful (.auth (.exchangeMobileOauth tick exchangeSecret payload)) ↔
      w.config.policies.stamp (recordedBy w.config w.auth.db
          (.exchangeMobileOauth tick exchangeSecret payload)) w.accepted =
        w.config.policies.stamp (acceptedBy w.config w.auth.db
          (.exchangeMobileOauth tick exchangeSecret payload)) w.accepted := by
  cases hterms : payload.termsAccepted with
  | false =>
      refine iff_of_true (fun haccepted => ?_) ?_
      · rw [hterms] at haccepted
        cases haccepted
      · simp [recordedBy, acceptedBy, AuthCall.accepts, hterms]
  | true =>
      rcases exchange_same_or_parts exchangeSecret hterms rfl rfl with
        ⟨hsame, hnone⟩ | ⟨u, hu, hparts, hmissing⟩
      · exact iff_of_true (fun _ u hu => absurd hu (hnone u)) (by rw [hsame])
      · -- one account, whose row decides
        have hrow : w.accepted u.id = u.policies := by
          have hget : w.auth.db.users.get u.id = some u := Table.get_ident hu
          rw [← show recordedPolicies w.auth.db.users = w.accepted from hagrees,
            recordedPolicies, hget]
          rfl
        rw [Policies.stamp_eq_iff]
        constructor
        · intro hfaithful i hi
          right
          have hid : i = u.id := by
            rcases hmissing with ⟨hr, ha⟩ | ⟨hr, ha⟩
            · simp only [hr, ha, Option.some.injEq, reduceCtorEq, false_or] at hi
              exact hi.symm
            · simp only [hr, ha, Option.some.injEq, reduceCtorEq, or_false] at hi
              exact hi.symm
          rw [hid, hrow]
          exact hfaithful hterms u ((hparts u).mpr rfl)
        · intro hall _ u' hu'
          obtain rfl := (hparts u').mp hu'
          rw [← hrow]
          rcases hmissing with ⟨hr, ha⟩ | ⟨hr, ha⟩
          · refine (hall u'.id (Or.inr ha)).resolve_left fun hsame => ?_
            rw [hr, ha] at hsame
            cases hsame
          · refine (hall u'.id (Or.inl hr)).resolve_left fun hsame => ?_
            rw [hr, ha] at hsame
            cases hsame

/-- **One call.**  The rows stay true exactly where the call is faithful. -/
theorem faithful_iff_agrees (call : GateCall) (hagrees : w.Agrees) :
    w.Faithful call ↔ (w.after call).Agrees := by
  cases call with
  | deploy config => exact iff_of_true trivial hagrees
  | setActive userId value => exact iff_of_true trivial ((recorded_setActive _ _ _).trans hagrees)
  | auth call =>
      have hwrites := (w.auth.after_writes w.config call).recorded_eq
      have hsame : recordedPolicies w.auth.db.users = w.accepted := hagrees
      have hafter : (w.after (.auth call)).Agrees ↔
          recordedPolicies (w.auth.after w.config call).db.users =
            w.config.policies.stamp (acceptedBy w.config w.auth.db call) w.accepted := Iff.rfl
      rw [hafter, hwrites, hsame]
      by_cases hexchange : ∃ tick exchangeSecret payload,
          call = .exchangeMobileOauth tick exchangeSecret payload
      · obtain ⟨tick, exchangeSecret, payload, rfl⟩ := hexchange
        exact faithful_iff_stamps tick exchangeSecret payload hagrees
      · have hother : ∀ tick exchangeSecret payload,
            call ≠ .exchangeMobileOauth tick exchangeSecret payload :=
          fun tick exchangeSecret payload hcall => hexchange ⟨tick, exchangeSecret, payload, hcall⟩
        refine iff_of_true ?_ (by rw [recordedBy_eq_acceptedBy hother])
        cases call with
        | exchangeMobileOauth tick exchangeSecret payload => exact absurd rfl (hother _ _ _)
        | _ => trivial

/-- Who has accepted policies has confirmed the address, after every call. -/
theorem GateWorld.after_confirmedFirst (call : GateCall)
    (hfirst : ConfirmedFirst w.auth.db.users) : ConfirmedFirst (w.after call).auth.db.users := by
  cases call with
  | deploy config => exact hfirst
  | auth call => exact (w.auth.after_writes w.config call).confirmedFirst hfirst
  | setActive userId value =>
      intro u' hu' haccepted
      have hget : (w.auth.db.setActive userId value).users.get u'.id = some u' :=
        Table.get_ident hu'
      rw [AuthDb.get_setActive] at hget
      obtain ⟨u, hu, hsame⟩ := Option.map_eq_some_iff.mp hget
      have hkept := hfirst u (Table.mem_of_get hu)
      split_ifs at hsame
      · rw [← hsame] at haccepted ⊢
        exact hkept haccepted
      · rw [← hsame] at haccepted ⊢
        exact hkept haccepted

end Steps

/-! ## The gate over time

The two histories start out equal, with nobody having accepted anything. -/

section Runs

variable {config : AuthConfig} {calls : List GateCall} {w : GateWorld}

/-- **The rows say what was accepted last**, in every state a run reaches, if and only if every
call of the run is faithful. -/
theorem acceptance_recorded_iff
    (run : Run gateCalls Unguarded (.start config) calls w) :
    Run gateCalls GateWorld.Faithful (.start config) calls w ↔
      ∀ front back mid, calls = front ++ back →
        Run gateCalls Unguarded (.start config) front mid → mid.Agrees := by
  refine run.guarded_iff (fun s call s' hstep hagrees => ?_) rfl
  obtain rfl := Option.some.inj hstep
  exact faithful_iff_agrees call hagrees

/-- **The gate in production.**  After a run of faithful calls a user passes if and only if the
account is active and the policies in force are the ones that were accepted last. -/
theorem gate_opens_iff (run : Run gateCalls GateWorld.Faithful (.start config) calls w)
    (hproduction : w.config.isProduction = true) (userId : ℕ) :
    requireVerifiedUser w.config userId w.auth.db = .ok userId ↔
      ActiveUser w.auth.db.users userId ∧ w.accepted userId = some w.config.policies := by
  have hkeep : ∀ s call s', gateCalls.step s call = some s' → s.Faithful call →
      s.Agrees ∧ ConfirmedFirst s.auth.db.users → s'.Agrees ∧ ConfirmedFirst s'.auth.db.users := by
    rintro s call s' hstep hfaithful ⟨hagrees, hfirst⟩
    obtain rfl := Option.some.inj hstep
    exact ⟨(faithful_iff_agrees call hagrees).mp hfaithful, s.after_confirmedFirst call hfirst⟩
  obtain ⟨hagrees, hfirst⟩ :=
    run.preserves hkeep ⟨rfl, fun u hu => absurd hu List.not_mem_nil⟩
  rw [requireVerifiedUser_ok_iff hproduction,
    ← show recordedPolicies w.auth.db.users = w.accepted from hagrees]
  constructor
  · rintro ⟨user, hget, hactive, -, haccepted⟩
    refine ⟨⟨user, hget, hactive⟩, ?_⟩
    rw [recordedPolicies, hget]
    exact haccepted
  · rintro ⟨⟨user, hget, hactive⟩, haccepted⟩
    rw [recordedPolicies, hget] at haccepted
    have haccepted : user.policies = some w.config.policies := haccepted
    refine ⟨user, hget, hactive, hfirst user (Table.mem_of_get hget) ?_, haccepted⟩
    rw [haccepted]
    exact Option.some_ne_none _

end Runs

/-! ## A change of the policies

One user comes back through the mobile sign-in, another through a sign-up. -/

/-- Production, with the mobile sign-in. -/
def mobileAuth : AuthConfig :=
  { sampleAuth with mobileOauthExchangeSecret := some "exchange-secret" }

/-- The next deployment, which has other terms. -/
def revisedAuth : AuthConfig := { mobileAuth with termsVersion := "2027-01-01" }

/-- A mobile sign-in in which the policies are accepted. -/
def mobileSignIn (now : Instant) : GateCall :=
  .auth (.exchangeMobileOauth ⟨now, false⟩ (some "exchange-secret")
    { oauthSubject := "subject-1", email := "ada@example.com", termsAccepted := true })

/-- A user signs in, the terms change, and are accepted in the next sign-in. -/
def acceptTwice : List GateCall :=
  [mobileSignIn 0, .deploy revisedAuth, mobileSignIn (seconds 60)]

/-- A user signs up, the terms change, and are accepted in signing up once more. -/
def signUpTwice : List GateCall :=
  [.auth (askSignup 0 "123456"), .auth (enterSignup (seconds 30) "123456" "+237690000001"),
    .deploy revisedAuth, .auth (askSignup (seconds 120) "654321"),
    .auth (enterSignup (seconds 150) "654321" "+237690000001")]

/-- The statement on the two sign-ins. -/
theorem acceptance_recorded_iff_twice : ∃ w,
    Run gateCalls GateWorld.Faithful (.start mobileAuth) acceptTwice w ↔
      ∀ front back mid, acceptTwice = front ++ back →
        Run gateCalls Unguarded (.start mobileAuth) front mid → mid.Agrees := by
  have hrun : (gateCalls.check (fun _ _ => true) (.start mobileAuth) acceptTwice).isSome =
      true := rfl
  obtain ⟨w, hcheck⟩ := Option.isSome_iff_exists.mp hrun
  exact ⟨w, acceptance_recorded_iff (Run.of_check hcheck).unguarded⟩

/-- The second acceptance is not recorded, and the gate stays closed. -/
theorem acceptance_lost : ∃ w,
    Run gateCalls Unguarded (.start mobileAuth) acceptTwice w ∧
      w.accepted 0 = some w.config.policies ∧
      requireVerifiedUser w.config 0 w.auth.db = .error (.http 403
        "Acceptance of the current terms and AML policy is required before transfers") := by
  have hrun : (gateCalls.check (fun _ _ => true) (.start mobileAuth) acceptTwice).map
      (fun w => (decide (w.accepted 0 = some w.config.policies),
        requireVerifiedUser w.config 0 w.auth.db)) =
          some (true, .error (.http 403
            "Acceptance of the current terms and AML policy is required before transfers")) := by
    decide +kernel
  obtain ⟨w, hcheck, hseen⟩ := Option.map_eq_some_iff.mp hrun
  obtain ⟨haccepted, hanswer⟩ := Prod.mk.inj hseen
  exact ⟨w, (Run.of_check hcheck).unguarded, of_decide_eq_true haccepted, hanswer⟩

/-- After the second sign-up the gate is open. -/
theorem gate_opens_iff_twice : ∃ w,
    Run gateCalls GateWorld.Faithful (.start mobileAuth) signUpTwice w ∧
      ActiveUser w.auth.db.users 0 ∧ w.accepted 0 = some revisedAuth.policies := by
  have hrun : (gateCalls.check (fun _ _ => true) (.start mobileAuth) signUpTwice).map
      (fun w => (w.config.isProduction, w.config.policies,
        requireVerifiedUser w.config 0 w.auth.db)) =
          some (true, revisedAuth.policies, .ok 0) := by
    decide +kernel
  obtain ⟨w, hcheck, hseen⟩ := Option.map_eq_some_iff.mp hrun
  obtain ⟨hproduction, hseen⟩ := Prod.mk.inj hseen
  obtain ⟨hpolicies, hopen⟩ := Prod.mk.inj hseen
  have hfaithful : Run gateCalls GateWorld.Faithful (.start mobileAuth) signUpTwice w := by
    refine ((Run.of_check hcheck).unguarded.guard_labels
      (L := fun call => ∀ s, GateWorld.Faithful s call) ?_).mono fun s call h => h.2 s
    intro call hcall s
    simp only [signUpTwice, List.mem_cons, List.not_mem_nil, or_false] at hcall
    rcases hcall with rfl | rfl | rfl | rfl | rfl <;> trivial
  have hopens := (gate_opens_iff hfaithful hproduction 0).mp hopen
  rw [hpolicies] at hopens
  exact ⟨w, hfaithful, hopens⟩

end AfricaFrontier
