import AfricaFrontier.Auth.OneAccount

/-!
# Refused sign-ins

`verify_signup_otp` asks whether the account is disabled before it writes the profile.
`exchange_mobile_oauth` asks after it has committed: where the identity is new and the
address is that of an account without one, the identity is linked first.  `LinksDisabled` is
that path with a disabled account, and `refused_sign_in_iff` says that it is the only one on
which a refusal comes with a changed account.

A refusal is an authentication error or a conflict: the answers that send the person away. An
outage or a malformed body is none. For the signup the order of the source settles it: every
refusal stands before the commit, and a spent attempt, which is committed, is answered with a
validation error (`AuthConfig.attempt_spent_error`). For the exchange the refusals after its
commits are gone through one by one, and one remains.
-/

namespace AfricaFrontier

open Python Relational

/-- A request to sign in. -/
inductive SignIn
  | exchange (exchangeSecret : Option String) (payload : MobileOAuthExchangeRequest)
  | verify (payload : OtpVerifyRequest)

/-- The error a call answers with, if it does. -/
def refusalOf {α : Type} : Except AuthError α → Option AuthError
  | .error error => some error
  | .ok _ => none

/-- The database after the request, and the error it is answered with. -/
def SignIn.run (config : AuthConfig) (tick : AuthTick) (db : AuthDb) :
    SignIn → AuthDb × Option AuthError
  | .exchange exchangeSecret payload =>
      let (db', answer) := exchangeMobileOauth config tick exchangeSecret payload db
      (db', refusalOf answer)
  | .verify payload =>
      let (db', answer) := verifySignupOtp config tick payload db
      (db', refusalOf answer)

/-- The error refuses the person: an authentication error, or a conflict. -/
def AuthError.Refuses : AuthError → Prop
  | .authentication _ => True
  | .conflict _ => True
  | _ => False

/-- **A refused request changes no account.** Whatever else it leaves behind, such as a spent
attempt, the rows of the users are those before it. -/
def SignIn.SparesAccounts (config : AuthConfig) (tick : AuthTick) (db : AuthDb)
    (request : SignIn) : Prop :=
  ∀ error, (request.run config tick db).2 = some error → error.Refuses →
    (request.run config tick db).1.users.rows = db.users.rows

/-- The exchange links a new identity to a disabled account. The fields are what has to pass
before the link is committed, and that the account it goes to is disabled, which is looked at
afterwards. -/
structure LinksDisabled (config : AuthConfig) (tick : AuthTick) (exchangeSecret : Option String)
    (payload : MobileOAuthExchangeRequest) (db : AuthDb) : Prop where
  configured : truthy config.mobileOauthExchangeSecret ≠ none
  presented : isValidMobileExchangeSecret exchangeSecret config.mobileOauthExchangeSecret = true
  identity : ∀ u ∈ db.users, u.oauthSubject ≠ some payload.oauthSubject
  address : ∃ u ∈ db.users, u.email = payload.email ∧ u.oauthSubject = none ∧ u.isActive ≠ "1"
  available : tick.fault = false

/-- The same of either request: a signup asks for the flag before it writes, and is never of this
kind. -/
def SignIn.LinksDisabled (config : AuthConfig) (tick : AuthTick) (db : AuthDb) : SignIn → Prop
  | .exchange exchangeSecret payload =>
      AfricaFrontier.LinksDisabled config tick exchangeSecret payload db
  | .verify _ => False

section SignIns

variable {config : AuthConfig} {tick : AuthTick} {db : AuthDb}

/-! ## Signing up -/

/-- The only refusal of a commit is the database's. -/
theorem commit_refuses {α : Type} {work : OtpWork} {answer : Except AuthError α}
    {error : AuthError} (h : refusalOf (work.commit tick db answer).2 = some error)
    (hrefuses : error.Refuses) :
    (work.commit tick db answer).1 = db ∨ refusalOf answer = some error := by
  unfold OtpWork.commit at h ⊢
  split at h
  · rename_i hfault
    rw [if_pos hfault]
    exact Or.inl rfl
  · split at h
    · cases h
      exact absurd hrefuses (by simp [AuthError.Refuses])
    · exact Or.inr h

/-- An attempt at a code is never answered with a refusal of the person. -/
theorem AuthConfig.attempt_spent_error {purpose : OtpPurpose} {target code : String}
    {identityConsent termsAccepted : Bool} {now : Instant} {found : Option UserOtpChallenge}
    {d : Dirty UserOtpChallenge} {error : AuthError}
    (h : config.attempt purpose target code (checkConsents identityConsent termsAccepted) now
      found = .spent d error) : ¬ error.Refuses := by
  rcases config.attempt_cases purpose target code (checkConsents identityConsent termsAccepted)
    now found with ⟨e, hrefused⟩ |
    ⟨c, -, -, -, hwrong | ⟨e, hconsents, hmissing⟩ | ⟨-, hright⟩⟩
  · rw [h] at hrefused
    cases hrefused
  · rw [h] at hwrong
    cases hwrong
    exact id
  · rw [h] at hmissing
    cases hmissing
    -- a consent that is missing is no refusal of the person
    cases identityConsent with
    | false =>
        cases hconsents
        exact id
    | true =>
        cases termsAccepted with
        | false =>
            cases hconsents
            exact id
        | true => cases hconsents
  · rw [h] at hright
    cases hright

/-- A signup that is refused has written nothing. -/
theorem verifySignupOtp_refused {payload : OtpVerifyRequest} {error : AuthError}
    (h : refusalOf (verifySignupOtp config tick payload db).2 = some error)
    (hrefuses : error.Refuses) : (verifySignupOtp config tick payload db).1 = db := by
  revert h
  simp only [verifySignupOtp]
  cases hattempt : config.attempt .signup (config.normalizeEmail payload.email) payload.code
      (checkConsents payload.identityConsent payload.termsAccepted) tick.now
      (db.openChallenge .signup (config.normalizeEmail payload.email) none) with
  | refused e => exact fun _ => rfl
  | spent d e =>
      intro h
      rcases commit_refuses h hrefuses with hsame | herror
      · exact hsame
      · cases herror
        exact absurd hrefuses (AuthConfig.attempt_spent_error hattempt)
  | accepted d =>
      cases payload.confirm config tick.now (config.normalizeEmail payload.email)
          (db.userByEmail (config.normalizeEmail payload.email)) with
      | error e => exact fun _ => rfl
      | ok write =>
          intro h
          rcases commit_refuses h hrefuses with hsame | herror
          · exact hsame
          · cases herror

/-! ## The mobile sign-in -/

/-- Only a disabled account is refused once its address is confirmed. -/
theorem AuthConfig.exchanged_refused {user : User} {error : AuthError}
    (h : refusalOf (config.exchanged tick user) = some error) : user.isActive ≠ "1" := by
  unfold AuthConfig.exchanged at h
  split at h
  · assumption
  · cases h

/-- Whatever else the exchange answers with an error, it has written nothing. -/
theorem exchangeMobileOauth_refused {exchangeSecret : Option String}
    {payload : MobileOAuthExchangeRequest} {error : AuthError}
    (hlinks : ¬ LinksDisabled config tick exchangeSecret payload db)
    (h : refusalOf (exchangeMobileOauth config tick exchangeSecret payload db).2 = some error) :
    (exchangeMobileOauth config tick exchangeSecret payload db).1 = db := by
  revert h
  unfold exchangeMobileOauth
  split
  · exact fun _ => rfl
  · rename_i hconfigured
    split
    · exact fun _ => rfl
    · rename_i hpresented
      split
      · split
        · exact fun _ => rfl
        · rename_i hactive
          split
          · exact fun _ => rfl
          · split
            · exact fun _ => rfl
            · split
              · exact fun _ => rfl
              · exact fun h => absurd (AuthConfig.exchanged_refused h) hactive
      · rename_i hidentity
        split
        · rename_i user huser
          obtain ⟨hstored, hemail⟩ := AuthDb.userByEmail_some huser
          have hunknown : ∀ u ∈ db.users, u.oauthSubject ≠ some payload.oauthSubject := by
            intro u hu
            simpa using List.find?_eq_none.mp hidentity u hu
          split
          · exact fun _ => rfl
          · rename_i hlinked
            have hnone : user.oauthSubject = none := by
              by_contra hsome
              exact hlinked ⟨hsome, hunknown user hstored⟩
            split
            · exact fun _ => rfl
            · rename_i havailable
              split
              · exact fun _ => rfl
              · intro h
                -- the identity was linked, and the account is refused
                have hdisabled : user.isActive ≠ "1" := AuthConfig.exchanged_refused h
                exact absurd ⟨hconfigured, by simpa using hpresented, hunknown,
                  ⟨user, hstored, hemail, hnone, hdisabled⟩, by simpa using havailable⟩ hlinks
        · split
          · exact fun _ => rfl
          · split
            · exact fun _ => rfl
            · intro h
              -- a new account is not disabled
              have hrefused : refusalOf (config.exchanged tick
                  { payload.newUser config tick.now with id := db.users.next }) = some error := h
              exact absurd rfl (AuthConfig.exchanged_refused hrefused)

/-- The identity of nobody can be linked to an account. -/
theorem exists_link {payload : MobileOAuthExchangeRequest} {user : User}
    (hunknown : ∀ u ∈ db.users, u.oauthSubject ≠ some payload.oauthSubject) :
    ∃ users, db.users.replace user.id (payload.link config tick.now) (fun _ => rfl) =
      some users := by
  refine Table.exists_replace _ _ ?_ ?_
  · rintro a b (hemail | ⟨hsubject, hsame⟩)
    · exact Or.inl hemail.symm
    · exact Or.inr ⟨hsame ▸ hsubject, hsame.symm⟩
  · rintro u hu hid u' hu' hid' (hemail | ⟨-, hsubject⟩)
    · have hsame : u' = u := User.eq_of_email hu' hu hemail
      exact hid' (hsame ▸ hid)
    · exact hunknown u' hu' hsubject

/-- A disabled account that is linked is refused, with the identity in its row. -/
theorem LinksDisabled.run {exchangeSecret : Option String} {payload : MobileOAuthExchangeRequest}
    (h : LinksDisabled config tick exchangeSecret payload db) :
    (exchangeMobileOauth config tick exchangeSecret payload db).2 =
        .error (.authentication "Account is disabled") ∧
      ∃ u ∈ (exchangeMobileOauth config tick exchangeSecret payload db).1.users,
        u.oauthSubject = some payload.oauthSubject := by
  obtain ⟨user, hstored, hemail, hnone, hdisabled⟩ := h.address
  have hidentity : (db.users.rows.find? fun u =>
      decide (u.oauthSubject = some payload.oauthSubject)) = none := by
    refine List.find?_eq_none.mpr fun u hu => ?_
    simpa using h.identity u hu
  have hfound : db.userByEmail payload.email = some user := by
    cases hfind : db.userByEmail payload.email with
    | none => exact absurd hemail (AuthDb.userByEmail_none hfind user hstored)
    | some u =>
        obtain ⟨hu, haddress⟩ := AuthDb.userByEmail_some hfind
        rw [User.eq_of_email hu hstored (haddress.trans hemail.symm)]
  have hlinked : ¬ (user.oauthSubject ≠ none ∧ user.oauthSubject ≠ some payload.oauthSubject) :=
    fun hother => hother.1 hnone
  have hlink : ∃ users, db.users.replace user.id (payload.link config tick.now) (fun _ => rfl) =
      some users := exists_link h.identity
  obtain ⟨users, husers⟩ := hlink
  -- the link is committed, and the flag is looked at afterwards
  have hrun : exchangeMobileOauth config tick exchangeSecret payload db =
      ({ db with users }, config.exchanged tick user) := by
    simp only [exchangeMobileOauth, if_neg h.configured, h.presented, hidentity, hfound,
      if_neg hlinked, h.available, husers, Bool.true_eq_false, Bool.false_eq_true, if_false]
  rw [hrun]
  refine ⟨if_pos hdisabled, payload.link config tick.now user, ?_, rfl⟩
  exact (Table.mem_replace husers).mpr ⟨user, hstored, (if_pos rfl).symm⟩

/-! ## Either request

The condition is on the database and the request, before anything is done. -/

/-- **When a refused sign-in changes no account**: exactly where it does not link an identity
to a disabled account. -/
theorem refused_sign_in_iff (config : AuthConfig) (tick : AuthTick) (db : AuthDb)
    (request : SignIn) :
    request.SparesAccounts config tick db ↔ ¬ request.LinksDisabled config tick db := by
  cases request with
  | verify payload =>
      refine iff_of_true ?_ id
      intro error hanswer hrefuses
      show (verifySignupOtp config tick payload db).1.users.rows = db.users.rows
      rw [verifySignupOtp_refused hanswer hrefuses]
  | exchange exchangeSecret payload =>
      constructor
      · intro hspares hlinks
        obtain ⟨hanswer, u, hu, hsubject⟩ := LinksDisabled.run hlinks
        have hrows : (exchangeMobileOauth config tick exchangeSecret payload db).1.users.rows =
            db.users.rows :=
          hspares (.authentication "Account is disabled") (congrArg refusalOf hanswer) trivial
        have hold : u ∈ db.users.rows := by
          rw [← hrows]
          exact hu
        exact hlinks.identity u hold hsubject
      · intro hlinks error hanswer _
        show (exchangeMobileOauth config tick exchangeSecret payload db).1.users.rows =
          db.users.rows
        rw [exchangeMobileOauth_refused hlinks hanswer]

end SignIns

/-! ## A disabled account -/

/-- A user who is disabled, and has no identity yet. -/
def disabledUser : User where
  id := 0
  email := "ada@example.com"
  isActive := "0"

/-- The database with that user only. -/
def disabledDb : AuthDb :=
  { AuthDb.empty with
    users :=
      { rows := [disabledUser]
        next := 1
        fresh := by
          intro u hu
          rw [List.mem_singleton.mp hu]
          exact Nat.one_pos
        distinct := List.pairwise_singleton _ _
        unique := List.pairwise_singleton _ _ } }

/-- The exchange refuses the user, and stores the identity, the name and the confirmation of
the address. -/
theorem not_spares_disabled :
    ¬ (SignIn.exchange (some "exchange-secret")
        { oauthSubject := "manus-1", email := "ada@example.com",
          fullName := some "Eve" }).SparesAccounts exchangingAuth ⟨0, false⟩ disabledDb ∧
      (exchangeMobileOauth exchangingAuth ⟨0, false⟩ (some "exchange-secret")
        { oauthSubject := "manus-1", email := "ada@example.com", fullName := some "Eve" }
        disabledDb).2 = .error (.authentication "Account is disabled") ∧
      (exchangeMobileOauth exchangingAuth ⟨0, false⟩ (some "exchange-secret")
        { oauthSubject := "manus-1", email := "ada@example.com", fullName := some "Eve" }
        disabledDb).1.users.rows =
          [{ disabledUser with
              oauthSubject := some "manus-1"
              fullName := some "Eve"
              emailVerifiedAt := some 0 }] := by
  have hanswer : (exchangeMobileOauth exchangingAuth ⟨0, false⟩ (some "exchange-secret")
      { oauthSubject := "manus-1", email := "ada@example.com", fullName := some "Eve" }
      disabledDb).2 = .error (.authentication "Account is disabled") := by
    decide +kernel
  have hrows : (exchangeMobileOauth exchangingAuth ⟨0, false⟩ (some "exchange-secret")
      { oauthSubject := "manus-1", email := "ada@example.com", fullName := some "Eve" }
      disabledDb).1.users.rows =
        [{ disabledUser with
            oauthSubject := some "manus-1"
            fullName := some "Eve"
            emailVerifiedAt := some 0 }] := by
    decide +kernel
  refine ⟨fun hspares => ?_, hanswer, hrows⟩
  have hsame := hspares _ (congrArg refusalOf hanswer) trivial
  have hchanged := hrows.symm.trans hsame
  exact absurd hchanged (by decide)

end AfricaFrontier
