import AfricaFrontier.Auth.Histories

/-!
# One account per address

Three routes create accounts.  `register` and `exchange_mobile_oauth` look for the address
as it was given and store it so; `verify_signup_otp` looks for it in lower case.  The unique
column compares addresses as they are, so that two accounts can have addresses that differ
in the case of their letters.  `sparesAddress` says of a call that it creates no such
account, and `one_account_iff` that nothing else is needed.

The argument is one step at a time. Creating an account adds one address to the table, and the
addresses stay apart exactly where nobody had it in any case (`oneAccount_add_iff`); rewriting an
account leaves its address alone (`Rewrites.oneAccount`). For each of the creating routes the
checks that make it create are named (`Registers`, `ExchangeCreates`, and `SignsUp` of the
histories), so that `sparesAddress` can speak about the database before the call and not about
what the call answers.
-/

namespace AfricaFrontier

open Python Relational Transition

/-- **One account per address**: addresses that are equal up to case belong to one user. -/
def OneAccount (config : AuthConfig) (users : Table User) : Prop :=
  ∀ u ∈ users, ∀ v ∈ users, config.lower u.email = config.lower v.email → u = v

/-- No user has the address, in any case. -/
def Unclaimed (config : AuthConfig) (users : Table User) (email : String) : Prop :=
  ∀ u ∈ users, config.lower u.email ≠ config.lower email

/-- The checks of `register` pass. -/
structure Registers (config : AuthConfig) (tick : AuthTick) (payload : RegisterRequest)
    (db : AuthDb) : Prop where
  offered : config.isProduction = false
  unknown : db.userByEmail payload.email = none
  available : tick.fault = false

/-- The checks of `exchange_mobile_oauth` pass, and neither the identity nor the address is
known. -/
structure ExchangeCreates (config : AuthConfig) (tick : AuthTick) (exchangeSecret : Option String)
    (payload : MobileOAuthExchangeRequest) (db : AuthDb) : Prop where
  configured : truthy config.mobileOauthExchangeSecret ≠ none
  presented : isValidMobileExchangeSecret exchangeSecret config.mobileOauthExchangeSecret = true
  identity : ∀ u ∈ db.users, u.oauthSubject ≠ some payload.oauthSubject
  unknown : db.userByEmail payload.email = none
  available : tick.fault = false

/-- The call creates no account for an address that has one, up to case. For each of the three
routes that create one, the test is made on the database before the call, under the checks that
lead to the creation. -/
def sparesAddress (config : AuthConfig) (w : AuthWorld) : AuthCall → Prop
  | .register tick payload =>
      Registers config tick payload w.db → Unclaimed config w.db.users payload.email
  | .verifySignupOtp tick payload =>
      ∀ c user, SignsUp config tick payload w.db c (.add user) →
        Unclaimed config w.db.users user.email
  | .exchangeMobileOauth tick exchangeSecret payload =>
      ExchangeCreates config tick exchangeSecret payload w.db →
        Unclaimed config w.db.users payload.email
  | _ => True

/-! ## Tables of users -/

section Users

variable {config : AuthConfig} {users users' : Table User} {user u v : User}

/-- A new user takes an address of its own exactly if nobody has it. -/
theorem oneAccount_add_iff (h : OneAccount config users)
    (hadd : (UserWrite.add user).flush users = some users') :
    OneAccount config users' ↔ Unclaimed config users user.email := by
  have hinsert : users.insert (fun n => { user with id := n }) (fun _ => rfl) = some users' := hadd
  have hmem : ∀ u, u ∈ users' ↔ u ∈ users ∨ u = { user with id := users.next } :=
    fun u => Table.mem_insert hinsert
  constructor
  · intro hafter u hu hsame
    have heq := hafter u ((hmem u).mpr (Or.inl hu)) _ ((hmem _).mpr (Or.inr rfl)) hsame
    have hfresh : u.id < users.next := users.fresh u hu
    rw [heq] at hfresh
    exact lt_irrefl _ hfresh
  · intro hunclaimed u hu v hv hsame
    rcases (hmem u).mp hu with hold | rfl
    · rcases (hmem v).mp hv with hold' | rfl
      · exact h u hold v hold' hsame
      · exact absurd hsame (hunclaimed u hold)
    · rcases (hmem v).mp hv with hold' | rfl
      · exact absurd hsame.symm (hunclaimed v hold')
      · rfl

/-- A rewritten user keeps the address. -/
theorem Rewrites.oneAccount (hrewrites : Rewrites users users' u v) (hemail : v.email = u.email)
    (h : OneAccount config users) : OneAccount config users' := by
  have hbefore : ∀ a ∈ users', ∃ a₀ ∈ users, a₀.email = a.email ∧ a₀.id = a.id := by
    intro a ha
    rcases (hrewrites.mem_iff a).mp ha with ⟨hold, -⟩ | rfl
    · exact ⟨a, hold, rfl, rfl⟩
    · exact ⟨u, hrewrites.stored, hemail.symm, hrewrites.sameId.symm⟩
  intro a ha b hb hsame
  obtain ⟨a₀, ha₀, haddress, hid⟩ := hbefore a ha
  obtain ⟨b₀, hb₀, haddress', hid'⟩ := hbefore b hb
  have heq : a₀ = b₀ := h a₀ ha₀ b₀ hb₀ (by rw [haddress, haddress', hsame])
  exact Table.eq_of_ident ha hb (hid.symm.trans ((congrArg User.id heq).trans hid'))

end Users

/-! ## The three creating routes

When a route creates, and that it then does; the unique columns refuse nothing that its queries
did not find. -/

section Calls

variable {config : AuthConfig} {db : AuthDb} {tick : AuthTick} {w : AuthWorld}

/-- A user whose address and identity nobody has can be stored. -/
theorem exists_add {user : User} (hunknown : db.userByEmail user.email = none)
    (hidentity : user.oauthSubject ≠ none → ∀ u ∈ db.users, u.oauthSubject ≠ user.oauthSubject) :
    ∃ users, (UserWrite.add user).flush db.users = some users := by
  have hstored : ∃ users, db.users.insert (fun n => { user with id := n }) (fun _ => rfl) =
      some users := by
    refine Table.exists_insert _ _ fun u hu => ?_
    rintro (hemail | ⟨hsubject, hsame⟩)
    · exact AuthDb.userByEmail_none hunknown u hu hemail
    · have hclash : u.oauthSubject = user.oauthSubject := hsame
      have hgiven : u.oauthSubject ≠ none := hsubject
      rw [hclash] at hgiven
      exact hidentity hgiven u hu hclash
  exact hstored

/-- Where its checks pass, `register` creates the account. -/
theorem register_creates {payload : RegisterRequest} (h : Registers config tick payload db) :
    ∃ users, (UserWrite.add (payload.newUser config)).flush db.users = some users ∧
      (register config tick payload db).1 = { db with users } := by
  have hadd : ∃ users, (UserWrite.add (payload.newUser config)).flush db.users = some users :=
    exists_add h.unknown fun hsubject => absurd rfl hsubject
  obtain ⟨users, husers⟩ := hadd
  refine ⟨users, husers, ?_⟩
  simp only [register, h.offered, h.unknown, h.available, husers, Bool.false_eq_true, if_false]

/-- Where a check fails, `register` writes nothing. -/
theorem register_nothing {payload : RegisterRequest} (h : ¬ Registers config tick payload db) :
    (register config tick payload db).1 = db := by
  unfold register
  split
  · rfl
  · rename_i hoffered
    split
    · rfl
    · rename_i hunknown
      split
      · rfl
      · rename_i havailable
        exact absurd ⟨by simpa using hoffered, hunknown, by simpa using havailable⟩ h

/-- Where neither is known, the exchange creates the account. -/
theorem exchange_creates {exchangeSecret : Option String} {payload : MobileOAuthExchangeRequest}
    (h : ExchangeCreates config tick exchangeSecret payload db) :
    ∃ users, (UserWrite.add (payload.newUser config tick.now)).flush db.users = some users ∧
      (exchangeMobileOauth config tick exchangeSecret payload db).1 = { db with users } := by
  have hadd : ∃ users,
      (UserWrite.add (payload.newUser config tick.now)).flush db.users = some users :=
    exists_add h.unknown fun _ => h.identity
  obtain ⟨users, husers⟩ := hadd
  have hnone : (db.users.rows.find? fun u => decide (u.oauthSubject = some payload.oauthSubject)) =
      none := by
    refine List.find?_eq_none.mpr fun u hu => ?_
    simpa using h.identity u hu
  refine ⟨users, husers, ?_⟩
  simp only [exchangeMobileOauth, if_neg h.configured, h.presented, hnone, h.unknown, h.available,
    husers, Bool.true_eq_false, Bool.false_eq_true, if_false]

/-- Otherwise the exchange creates nobody. -/
theorem exchange_keeps {exchangeSecret : Option String} {payload : MobileOAuthExchangeRequest}
    (hcreates : ¬ ExchangeCreates config tick exchangeSecret payload db)
    (h : OneAccount config db.users) :
    OneAccount config (exchangeMobileOauth config tick exchangeSecret payload db).1.users := by
  unfold exchangeMobileOauth
  split
  · exact h
  · rename_i hconfigured
    split
    · exact h
    · rename_i hpresented
      split
      · rename_i user huser
        have hstored : user ∈ db.users := List.mem_of_find?_eq_some huser
        split
        · exact h
        · split
          · exact h
          · split
            · exact h
            · split
              · exact h
              · rename_i users husers
                have hrewrites : Rewrites db.users users user (user.emailVerified tick.now) :=
                  UserWrite.flush_update hstored rfl husers
                exact hrewrites.oneAccount rfl h
      · rename_i hidentity
        split
        · rename_i user huser
          split
          · exact h
          · split
            · exact h
            · split
              · exact h
              · rename_i users husers
                exact (Table.replace_rewrites (AuthDb.userByEmail_some huser).1 husers).oneAccount
                  rfl h
        · rename_i hunknown
          split
          · exact h
          · rename_i havailable
            -- no identity, no address and a flush that succeeds: this is the creating branch
            refine absurd ⟨hconfigured, by simpa using hpresented, fun u hu => ?_, hunknown,
              by simpa using havailable⟩ hcreates
            simpa using List.find?_eq_none.mp hidentity u hu

/-- One call keeps the accounts apart exactly when it meets the condition. -/
theorem sparesAddress_iff (h : OneAccount config w.db.users) (call : AuthCall) :
    sparesAddress config w call ↔ OneAccount config (w.after config call).db.users := by
  obtain ⟨users, hafter, heffect⟩ : ∃ users, (w.after config call).db.users = users ∧
      UsersEffect config w.db call users := ⟨_, rfl, w.after_users config call⟩
  rw [hafter]
  cases call with
  | register tick payload =>
      have hregister : (register config tick payload w.db).1.users = users := hafter
      rw [← hregister]
      by_cases hregisters : Registers config tick payload w.db
      · obtain ⟨users, husers, hdb⟩ := register_creates hregisters
        rw [hdb, oneAccount_add_iff h husers]
        exact ⟨fun hspares => hspares hregisters, fun hunclaimed _ => hunclaimed⟩
      · rw [register_nothing hregisters]
        exact iff_of_true (fun hpasses => absurd hpasses hregisters) h
  | exchangeMobileOauth tick exchangeSecret payload =>
      have hexchange : (exchangeMobileOauth config tick exchangeSecret payload w.db).1.users =
          users := hafter
      rw [← hexchange]
      by_cases hcreates : ExchangeCreates config tick exchangeSecret payload w.db
      · obtain ⟨users, husers, hdb⟩ := exchange_creates hcreates
        rw [hdb, oneAccount_add_iff h husers]
        exact ⟨fun hspares => hspares hcreates, fun hunclaimed _ => hunclaimed⟩
      · exact iff_of_true (fun hpasses => absurd hpasses hcreates) (exchange_keeps hcreates h)
  | verifySignupOtp tick payload =>
      cases heffect with
      | unchanged hquiet => exact iff_of_true (fun c user hsigns => absurd hsigns (hquiet c _)) h
      | enrolled hsigns _ husers =>
          rw [oneAccount_add_iff h husers]
          constructor
          · intro hspares
            exact hspares _ _ hsigns
          · -- only one challenge and one write fit the code that was entered
            intro hunclaimed c' user' hother
            obtain rfl := UserWrite.add.inj (hsigns.unique hother).2
            exact hunclaimed
      | signedUp hsigns hrewrites =>
          refine iff_of_true ?_ (hrewrites.oneAccount rfl h)
          intro c' user' hother
          cases (hsigns.unique hother).2
  | requestSignupOtp tick issue payload =>
      cases heffect with
      | unchanged => exact iff_of_true trivial h
  | requestPhoneOtp tick issue userId payload =>
      cases heffect with
      | unchanged => exact iff_of_true trivial h
  | verifyPhoneOtp tick userId payload =>
      cases heffect with
      | unchanged => exact iff_of_true trivial h
      | confirmed _ hrewrites => exact iff_of_true trivial (hrewrites.oneAccount rfl h)
  | submitKyc tick userId payload =>
      cases heffect with
      | unchanged => exact iff_of_true trivial h
      | submitted _ hrewrites => exact iff_of_true trivial (hrewrites.oneAccount rfl h)

/-- **When addresses stay apart**: in every state of a sequence of calls each address has one
account, up to case, exactly when no call of the sequence creates an account for an address
that has one. -/
theorem one_account_iff {w' : AuthWorld} {calls : List AuthCall}
    (start : OneAccount config w.db.users) (run : Run (authCalls config) Unguarded w calls w') :
    Run (authCalls config) (sparesAddress config) w calls w' ↔
      ∀ front back mid, calls = front ++ back → Run (authCalls config) Unguarded w front mid →
        OneAccount config mid.db.users := by
  refine run.guarded_iff ?_ start
  intro w call w' hstep hone
  obtain rfl := Option.some.inj hstep
  exact sparesAddress_iff hone call

end Calls

/-! ## Two spellings of one address -/

/-- The settings of `sampleAuth`, with the mobile sign-in configured. -/
def exchangingAuth : AuthConfig :=
  { sampleAuth with mobileOauthExchangeSecret := some "exchange-secret" }

/-- A mobile sign-in with a capital letter in the address. -/
def signInAda : AuthCall :=
  .exchangeMobileOauth ⟨0, false⟩ (some "exchange-secret")
    { oauthSubject := "manus-1", email := "Ada@example.com" }

/-- The sign-in, and then a signup with a code. -/
def signInAndSignUp : List AuthCall :=
  [signInAda, askSignup (seconds 10) "123456",
    enterSignup (seconds 30) "123456" "+237690000001"]

/-- Nobody has an account yet. -/
theorem oneAccount_empty (config : AuthConfig) : OneAccount config AuthDb.empty.users := by
  intro u hu
  cases hu

/-- The statement on that sequence. -/
theorem one_account_iff_two_spellings : ∃ w',
    Run (authCalls exchangingAuth) (sparesAddress exchangingAuth) quietAuth signInAndSignUp w' ↔
      ∀ front back mid, signInAndSignUp = front ++ back →
        Run (authCalls exchangingAuth) Unguarded quietAuth front mid →
        OneAccount exchangingAuth mid.db.users := by
  have hrun : ((authCalls exchangingAuth).check (fun _ _ => true) quietAuth signInAndSignUp).map
      (fun w => w.db.users.rows.length) = some 2 := by
    decide +kernel
  obtain ⟨w', hcheck, -⟩ := Option.map_eq_some_iff.mp hrun
  exact ⟨w', one_account_iff (oneAccount_empty _) (Run.of_check hcheck).unguarded⟩

/-- The two routes create two accounts. -/
theorem not_one_account : ∃ w',
    Run (authCalls exchangingAuth) Unguarded quietAuth signInAndSignUp w' ∧
      (w'.db.users.rows.map fun u => u.email) = ["Ada@example.com", "ada@example.com"] ∧
      ¬ OneAccount exchangingAuth w'.db.users := by
  have hrun : ((authCalls exchangingAuth).check (fun _ _ => true) quietAuth signInAndSignUp).map
      (fun w => w.db.users.rows.map fun u => u.email) =
        some ["Ada@example.com", "ada@example.com"] := by
    decide +kernel
  obtain ⟨w', hcheck, hemails⟩ := Option.map_eq_some_iff.mp hrun
  refine ⟨w', (Run.of_check hcheck).unguarded, hemails, fun hone => ?_⟩
  have hstored : ∀ email ∈ ["Ada@example.com", "ada@example.com"],
      ∃ u ∈ w'.db.users, u.email = email := by
    intro email hemail
    rw [← hemails] at hemail
    exact List.mem_map.mp hemail
  obtain ⟨u, hu, hcapital⟩ := hstored "Ada@example.com" (by simp)
  obtain ⟨v, hv, hsmall⟩ := hstored "ada@example.com" (by simp)
  have hlower : exchangingAuth.lower u.email = exchangingAuth.lower v.email := by
    rw [hcapital, hsmall]
    decide +kernel
  have hsame := hone u hu v hv hlower
  rw [hsame, hsmall] at hcapital
  revert hcapital
  decide

end AfricaFrontier
