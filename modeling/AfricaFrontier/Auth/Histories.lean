import AfricaFrontier.Auth.Routes
import AfricaFrontier.Lib.Run

/-!
# Sequences of identity calls

One call after another over the two tables.  The world remembers the confirmations that
succeeded, which no code reads: for what, which challenge was accepted, and how many
challenges there were at that time.

For each route a lemma says what it can leave behind, with what is then known of the rows it
wrote.  `SignsUp` and `ConfirmsPhone` are the conditions under which a verification
succeeds.

The lemmas come in three layers, each used by name in the one above.

* For a route: `register_cases`, `issueCode_issues`, `verifySignupOtp_signsUp` and
  `verifySignupOtp_fails`, `verifyPhoneOtp_confirmsPhone` and `verifyPhoneOtp_fails`,
  `submitKyc_submits`, `exchangeMobileOauth_exchanges`. Nothing below them unfolds a route.
* For a call, whichever it is: `AuthWorld.after_users` says that it leaves the users as they are,
  adds one that is new, or rewrites one, and `AuthWorld.after_challenges` that the challenges only
  grow and age.
* For a run: the modules on accounts, statuses, numbers and codes take their invariants through
  these two.
-/

namespace AfricaFrontier

open Python Relational Transition

/-! ## Calls -/

/-- A call of a route that writes one of the tables. -/
inductive AuthCall
  | register (tick : AuthTick) (payload : RegisterRequest)
  | requestSignupOtp (tick : AuthTick) (issue : OtpIssue) (payload : OtpRequest)
  | verifySignupOtp (tick : AuthTick) (payload : OtpVerifyRequest)
  | requestPhoneOtp (tick : AuthTick) (issue : OtpIssue) (userId : ℕ) (payload : PhoneOtpRequest)
  | verifyPhoneOtp (tick : AuthTick) (userId : ℕ) (payload : PhoneOtpVerifyRequest)
  | submitKyc (tick : AuthTick) (userId : ℕ) (payload : IdentityProfileRequest)
  | exchangeMobileOauth (tick : AuthTick) (exchangeSecret : Option String)
      (payload : MobileOAuthExchangeRequest)

/-- A verification that succeeded. -/
structure Confirmation where
  purpose : OtpPurpose
  /-- The address, or the number, that was confirmed. -/
  target : String
  userId : ℕ
  challenge : ℕ
  /-- How many challenges had been issued. -/
  issued : ℕ
  time : Instant
  deriving DecidableEq

structure AuthWorld where
  db : AuthDb
  confirmations : List Confirmation

/-- Nothing was verified yet. -/
def AuthWorld.start (db : AuthDb) : AuthWorld := ⟨db, []⟩

/-- The record of a verification, where it succeeded. -/
def confirmationOf {α : Type} (purpose : OtpPurpose) (target : String) (time : Instant)
    (db : AuthDb) (found : Option UserOtpChallenge) (answer : Except AuthError α)
    (userId : α → ℕ) : List Confirmation :=
  match found, answer with
  | some c, .ok value => [⟨purpose, target, userId value, c.id, db.challenges.next, time⟩]
  | _, _ => []

/-- The challenge `verify_phone_otp` would try. -/
def phoneChallenge (config : AuthConfig) (userId : ℕ) (payload : PhoneOtpVerifyRequest)
    (db : AuthDb) : Option UserOtpChallenge :=
  (db.users.get userId).bind fun user =>
    db.openChallenge .phoneVerify user.email (some (config.normalizePhone payload.whatsappPhone))

/-- One call. -/
def AuthWorld.after (config : AuthConfig) (w : AuthWorld) : AuthCall → AuthWorld
  | .register tick payload => { w with db := (register config tick payload w.db).1 }
  | .requestSignupOtp tick issue payload =>
      { w with db := (requestSignupOtp config tick issue payload w.db).1 }
  | .verifySignupOtp tick payload =>
      let email := config.normalizeEmail payload.email
      let r := verifySignupOtp config tick payload w.db
      { db := r.1
        confirmations := w.confirmations ++
          confirmationOf .signup email tick.now w.db (w.db.openChallenge .signup email none) r.2
            TokenResponse.userId }
  | .requestPhoneOtp tick issue userId payload =>
      { w with db := (requestPhoneOtp config tick issue userId payload w.db).1 }
  | .verifyPhoneOtp tick userId payload =>
      let r := verifyPhoneOtp config tick userId payload w.db
      { db := r.1
        confirmations := w.confirmations ++
          confirmationOf .phoneVerify (config.normalizePhone payload.whatsappPhone) tick.now w.db
            (phoneChallenge config userId payload w.db) r.2 fun _ => userId }
  | .submitKyc tick userId payload =>
      { w with db := (submitKyc config tick userId payload w.db).1 }
  | .exchangeMobileOauth tick exchangeSecret payload =>
      { w with db := (exchangeMobileOauth config tick exchangeSecret payload w.db).1 }

/-- Sequences of calls. -/
def authCalls (config : AuthConfig) : Machine AuthWorld AuthCall :=
  Machine.total (AuthWorld.after config)

/-! ## Rewriting one user

A commit that writes one stored user back is `Rewrites`: what holds of every user, or of every
pair of an old and a new one, has to be checked of that user only. -/

/-- The user `u` is now `v`; the others are as they were. -/
structure Rewrites (users users' : Table User) (u v : User) : Prop where
  stored : u ∈ users
  sameId : v.id = u.id
  mem_iff : ∀ u', u' ∈ users' ↔ (u' ∈ users ∧ u'.id ≠ u.id) ∨ u' = v

/-- Nobody wrote in between: the stored user becomes the session's. -/
theorem User.writeBack_self {u v : User} (h : Row.key v = Row.key u) :
    User.writeBack ⟨u, v⟩ u = v := by
  obtain ⟨hid, hemail, hsubject⟩ := (UserKey.mk.injEq ..).mp h
  simp only [User.writeBack, written_loaded, ← hid, ← hemail, ← hsubject]

/-- A commit that rewrites a stored user, the keys apart. -/
theorem UserWrite.flush_update {u v : User} {users users' : Table User} (hu : u ∈ users)
    (hkey : Row.key v = Row.key u)
    (h : (UserWrite.update ⟨u, v⟩).flush users = some users') : Rewrites users users' u v where
  stored := hu
  sameId := congrArg UserKey.id hkey
  mem_iff u' := by
    obtain rfl := Option.some.inj h
    have hmem : u' ∈ users.modify u.id (User.writeBack ⟨u, v⟩) (fun _ => rfl) ↔
        ∃ u₀ ∈ users, u' = if ident u₀ = u.id then User.writeBack ⟨u, v⟩ u₀ else u₀ :=
      Table.mem_modify
    refine Iff.trans hmem ?_
    constructor
    · rintro ⟨u₀, hu₀, rfl⟩
      by_cases hid : ident u₀ = u.id
      · obtain rfl := Table.eq_of_ident hu₀ hu hid
        right
        rw [if_pos hid]
        exact User.writeBack_self hkey
      · left
        rw [if_neg hid]
        exact ⟨hu₀, hid⟩
    · rintro (⟨hu', hid⟩ | rfl)
      · exact ⟨u', hu', (if_neg hid).symm⟩
      · refine ⟨u, hu, ?_⟩
        rw [if_pos (User.ident_eq u)]
        exact (User.writeBack_self hkey).symm

/-- What holds of every user holds of them afterwards exactly when it holds of the one that
was rewritten. -/
theorem Rewrites.forall_iff {users users' : Table User} {u v : User}
    (h : Rewrites users users' u v) {P : User → Prop} (hall : ∀ u ∈ users, P u) :
    (∀ u' ∈ users', P u') ↔ P v := by
  constructor
  · intro hafter
    exact hafter v ((h.mem_iff v).mpr (Or.inr rfl))
  · intro hv u' hu'
    rcases (h.mem_iff u').mp hu' with ⟨hold, -⟩ | rfl
    · exact hall u' hold
    · exact hv

/-- A relation that every user has to itself holds along the rewriting exactly when it holds
of the one that was rewritten. -/
theorem Rewrites.forall_same_iff {users users' : Table User} {u v : User}
    (h : Rewrites users users' u v) {R : User → User → Prop} (hrefl : ∀ u, R u u) :
    (∀ u₀ ∈ users, ∀ u' ∈ users', u'.id = u₀.id → R u₀ u') ↔ R u v := by
  constructor
  · intro hall
    exact hall u h.stored v ((h.mem_iff v).mpr (Or.inr rfl)) h.sameId
  · intro hv u₀ hu₀ u' hu' hid
    rcases (h.mem_iff u').mp hu' with ⟨hold, -⟩ | rfl
    · obtain rfl := Table.eq_of_ident hold hu₀ hid
      exact hrefl u'
    · obtain rfl := Table.eq_of_ident h.stored hu₀ (h.sameId.symm.trans hid)
      exact hv

/-! ## What the routes leave behind

One lemma for what a route does when its checks pass, and one for what is left when they do not. -/

section Routes

variable {config : AuthConfig} {db : AuthDb} {tick : AuthTick}

/-- `register` stores a new user, or nothing. -/
theorem register_cases (payload : RegisterRequest) :
    (register config tick payload db).1 = db ∨
      ∃ users, (UserWrite.add (payload.newUser config)).flush db.users = some users ∧
        (register config tick payload db).1 = { db with users } := by
  unfold register
  split
  · exact Or.inl rfl
  · split
    · exact Or.inl rfl
    · split
      · exact Or.inl rfl
      · split
        · exact Or.inl rfl
        · rename_i users husers
          exact Or.inr ⟨users, husers, rfl⟩

/-- What a request for a code leaves behind: nothing, or one more challenge, open or
withdrawn. -/
inductive Issues (db : AuthDb) (challenge : UserOtpChallenge) (now : Instant) : AuthDb → Prop
  | nothing : Issues db challenge now db
  | issued : Issues db challenge now (db.issue challenge)
  | withdrawn : Issues db challenge now ((db.issue challenge).withdraw db.challenges.next now)

/-- A new challenge stays where its code was sent, and is withdrawn where it was not. -/
theorem issueCode_issues (issue : OtpIssue) (challenge : UserOtpChallenge) (unavailable : String) :
    Issues db challenge tick.now (config.issueCode tick issue challenge unavailable db).1 := by
  unfold AuthConfig.issueCode
  split
  · exact .nothing
  · split
    · exact .nothing
    · split
      · exact .issued
      · split
        · exact .issued
        · exact .withdrawn

/-- A signup challenge goes to the address in the request, in lower case. -/
theorem requestSignupOtp_issues (issue : OtpIssue) (payload : OtpRequest) :
    Issues db
      (config.newChallenge .signup (config.normalizeEmail payload.email) none
        (config.normalizeEmail payload.email) issue.code tick.now db.challenges.next)
      tick.now (requestSignupOtp config tick issue payload db).1 := by
  unfold requestSignupOtp
  split
  · exact .nothing
  · exact issueCode_issues issue _ _

/-- A phone challenge goes to the address of a user who has confirmed it. -/
theorem requestPhoneOtp_issues (issue : OtpIssue) (userId : ℕ) (payload : PhoneOtpRequest) :
    (requestPhoneOtp config tick issue userId payload db).1 = db ∨
      ∃ user ∈ db.users, user.emailVerifiedAt ≠ none ∧
        Issues db
          (config.newChallenge .phoneVerify user.email
            (some (config.normalizePhone payload.whatsappPhone))
            (config.normalizePhone payload.whatsappPhone) issue.code tick.now db.challenges.next)
          tick.now (requestPhoneOtp config tick issue userId payload db).1 := by
  unfold requestPhoneOtp
  cases huser : db.users.get userId with
  | none => exact Or.inl rfl
  | some user =>
      simp only
      split
      · exact Or.inl rfl
      · rename_i hverified
        split
        · exact Or.inl rfl
        · exact Or.inr ⟨user, Table.mem_of_get huser, hverified, issueCode_issues issue _ _⟩

/-- A request for a code changes no user. -/
theorem Issues.users_eq {challenge : UserOtpChallenge} {now : Instant} {db' : AuthDb}
    (h : Issues db challenge now db') : db'.users = db.users := by
  cases h <;> rfl

/-- A challenge that is there after a request was there before, or is the new one. -/
theorem Issues.mem {challenge : UserOtpChallenge} {now : Instant} {db' : AuthDb}
    (h : Issues db challenge now db') {c : UserOtpChallenge} (hc : c ∈ db'.challenges) :
    c ∈ db.challenges ∨ (c.id = db.challenges.next ∧ c.purpose = challenge.purpose ∧
      c.email = challenge.email ∧ c.phone = challenge.phone) := by
  cases h with
  | nothing => exact Or.inl hc
  | issued =>
      rcases AuthDb.mem_issue.mp hc with hold | rfl
      · exact Or.inl hold
      · exact Or.inr ⟨rfl, rfl, rfl, rfl⟩
  | withdrawn =>
      obtain ⟨c₀, hc₀, rfl⟩ := AuthDb.mem_withdraw.mp hc
      rcases AuthDb.mem_issue.mp hc₀ with hold | rfl
      · have hfresh : c₀.id < db.challenges.next := db.challenges.fresh c₀ hold
        left
        rw [if_neg hfresh.ne]
        exact hold
      · right
        rw [if_pos rfl]
        exact ⟨rfl, rfl, rfl, rfl⟩

/-- What a verification that does not succeed leaves behind: nothing, or one attempt more. -/
inductive Fails (db : AuthDb) : AuthDb → Prop
  | nothing : Fails db db
  | spent {c : UserOtpChallenge} (hc : c ∈ db.challenges) :
      Fails db { db with challenges := db.putChallenge c.spend }

/-- A verification that fails changes no user. -/
theorem Fails.users_eq {db' : AuthDb} (h : Fails db db') : db'.users = db.users := by
  cases h <;> rfl

/-- A commit of an attempt that did not succeed. -/
theorem fails_commit {α : Type} {c : UserOtpChallenge} (hc : c ∈ db.challenges)
    (error : AuthError) :
    Fails db (OtpWork.commit (α := α) ⟨c.spend, .keep⟩ tick db (.error error)).1 := by
  unfold OtpWork.commit
  split
  · exact .nothing
  · exact .spent hc

/-- A commit does not turn an error into an answer. -/
theorem commit_error {α : Type} (work : OtpWork) (error : AuthError) :
    ∃ e, (OtpWork.commit (α := α) work tick db (.error error)).2 = .error e := by
  unfold OtpWork.commit
  split
  · exact ⟨.database, rfl⟩
  · split
    · exact ⟨.database, rfl⟩
    · exact ⟨error, rfl⟩

/-- A signup verification that succeeds: the challenge it tries, and what it writes of the
user. -/
structure SignsUp (config : AuthConfig) (tick : AuthTick) (payload : OtpVerifyRequest)
    (db : AuthDb) (c : UserOtpChallenge) (write : UserWrite) : Prop where
  available : tick.fault = false
  found : db.openChallenge .signup (config.normalizeEmail payload.email) none = some c
  accepted : config.attempt .signup (config.normalizeEmail payload.email) payload.code
    (checkConsents payload.identityConsent payload.termsAccepted) tick.now (some c) =
      .accepted (c.consume tick.now)
  confirmed : payload.confirm config tick.now (config.normalizeEmail payload.email)
    (db.userByEmail (config.normalizeEmail payload.email)) = .ok write

/-- What is written of the user can be stored: a new user clashes with nobody. -/
theorem SignsUp.flush {payload : OtpVerifyRequest} {c : UserOtpChallenge} {write : UserWrite}
    (h : SignsUp config tick payload db c write) : ∃ users, write.flush db.users = some users := by
  have hconfirmed := h.confirmed
  cases huser : db.userByEmail (config.normalizeEmail payload.email) with
  | none =>
      rw [huser] at hconfirmed
      obtain rfl := Except.ok.inj hconfirmed
      let user : User := payload.profile config tick.now
        { id := 0, email := config.normalizeEmail payload.email }
      have hstored : ∃ users, db.users.insert (fun n => { user with id := n }) (fun _ => rfl) =
          some users := by
        refine Table.exists_insert _ _ fun u hu => ?_
        rintro (hemail | ⟨hsubject, hsame⟩)
        · exact AuthDb.userByEmail_none huser u hu hemail
        · exact hsubject hsame
      exact hstored
  | some user =>
      rw [huser] at hconfirmed
      simp only [OtpVerifyRequest.confirm] at hconfirmed
      split at hconfirmed
      · cases hconfirmed
      · obtain rfl := Except.ok.inj hconfirmed
        exact ⟨_, rfl⟩

/-- The database after a verification that succeeded. -/
def AuthDb.consumed (db : AuthDb) (users : Table User) (c : UserOtpChallenge) (now : Instant) :
    AuthDb where
  users := users
  challenges := db.putChallenge (c.consume now)

/-- A signup verification whose conditions hold succeeds, with tokens for its user. -/
theorem verifySignupOtp_signsUp {payload : OtpVerifyRequest} {c : UserOtpChallenge}
    {write : UserWrite} {users : Table User} (h : SignsUp config tick payload db c write)
    (husers : write.flush db.users = some users) :
    verifySignupOtp config tick payload db =
      (db.consumed users c tick.now,
        .ok (config.issueTokens (write.userId db.users) tick.now)) := by
  simp only [verifySignupOtp, h.found, h.accepted, h.confirmed, OtpWork.commit, h.available,
    OtpWork.flush, husers]
  rfl

/-- Any other leaves at most a spent attempt, and answers an error. -/
theorem verifySignupOtp_fails {payload : OtpVerifyRequest}
    (h : ∀ c write, ¬ SignsUp config tick payload db c write) :
    Fails db (verifySignupOtp config tick payload db).1 ∧
      ∃ error, (verifySignupOtp config tick payload db).2 = .error error := by
  simp only [verifySignupOtp]
  cases hattempt : config.attempt .signup (config.normalizeEmail payload.email) payload.code
      (checkConsents payload.identityConsent payload.termsAccepted) tick.now
      (db.openChallenge .signup (config.normalizeEmail payload.email) none) with
  | refused error => exact ⟨.nothing, error, rfl⟩
  | spent d error =>
      obtain ⟨c, hfound, -, -, rfl⟩ := AuthConfig.attempt_spent hattempt
      exact ⟨fails_commit (AuthDb.openChallenge_mem hfound).1 error, commit_error _ _⟩
  | accepted d =>
      obtain ⟨c, hfound, -, -, -, rfl⟩ := AuthConfig.attempt_accepted hattempt
      cases hconfirm : payload.confirm config tick.now (config.normalizeEmail payload.email)
          (db.userByEmail (config.normalizeEmail payload.email)) with
      | error e => exact ⟨.nothing, e, rfl⟩
      | ok write =>
          -- only the commit could have failed
          cases hfault : tick.fault with
          | true =>
              simp only [OtpWork.commit, hfault, if_true]
              exact ⟨.nothing, .database, rfl⟩
          | false =>
              rw [hfound] at hattempt
              exact absurd ⟨hfault, hfound, hattempt, hconfirm⟩ (h c write)

/-- A phone verification that succeeds. -/
structure ConfirmsPhone (config : AuthConfig) (tick : AuthTick) (userId : ℕ)
    (payload : PhoneOtpVerifyRequest) (db : AuthDb) (c : UserOtpChallenge) (user : User) :
    Prop where
  available : tick.fault = false
  stored : db.users.get userId = some user
  matched : config.normalizePhone user.profilePhone = config.normalizePhone payload.whatsappPhone
  found : db.openChallenge .phoneVerify user.email
    (some (config.normalizePhone payload.whatsappPhone)) = some c
  accepted : config.attempt .phoneVerify (config.normalizePhone payload.whatsappPhone)
    payload.code (.ok ()) tick.now (some c) = .accepted (c.consume tick.now)

/-- The confirmed number can be stored. -/
theorem ConfirmsPhone.flush {userId : ℕ} {payload : PhoneOtpVerifyRequest} {c : UserOtpChallenge}
    {user : User} (h : ConfirmsPhone config tick userId payload db c user) :
    ∃ users, (UserWrite.update ⟨user, user.phoneVerified tick.now⟩).flush db.users = some users ∧
      Rewrites db.users users user (user.phoneVerified tick.now) :=
  ⟨_, rfl, UserWrite.flush_update (Table.mem_of_get h.stored) rfl rfl⟩

/-- A phone verification whose conditions hold succeeds, with the status of its user. -/
theorem verifyPhoneOtp_confirmsPhone {userId : ℕ} {payload : PhoneOtpVerifyRequest}
    {c : UserOtpChallenge} {user : User} {users : Table User}
    (h : ConfirmsPhone config tick userId payload db c user)
    (husers : (UserWrite.update ⟨user, user.phoneVerified tick.now⟩).flush db.users = some users) :
    verifyPhoneOtp config tick userId payload db =
      (db.consumed users c tick.now, .ok (user.phoneVerified tick.now).kycStatus) := by
  have hmatched : ¬ config.normalizePhone user.profilePhone ≠
      config.normalizePhone payload.whatsappPhone := not_not.mpr h.matched
  simp only [verifyPhoneOtp, h.stored, if_neg hmatched, h.found, h.accepted, OtpWork.commit,
    h.available, OtpWork.flush, husers]
  rfl

/-- Any other leaves at most a spent attempt, and answers an error. -/
theorem verifyPhoneOtp_fails {userId : ℕ} {payload : PhoneOtpVerifyRequest}
    (h : ∀ c user, ¬ ConfirmsPhone config tick userId payload db c user) :
    Fails db (verifyPhoneOtp config tick userId payload db).1 ∧
      ∃ error, (verifyPhoneOtp config tick userId payload db).2 = .error error := by
  simp only [verifyPhoneOtp]
  cases huser : db.users.get userId with
  | none => exact ⟨.nothing, _, rfl⟩
  | some user =>
      by_cases hmatched : config.normalizePhone user.profilePhone =
          config.normalizePhone payload.whatsappPhone
      · simp only [if_neg (not_not.mpr hmatched)]
        cases hattempt : config.attempt .phoneVerify (config.normalizePhone payload.whatsappPhone)
            payload.code (.ok ()) tick.now (db.openChallenge .phoneVerify user.email
              (some (config.normalizePhone payload.whatsappPhone))) with
        | refused error => exact ⟨.nothing, error, rfl⟩
        | spent d error =>
            obtain ⟨c, hfound, -, -, rfl⟩ := AuthConfig.attempt_spent hattempt
            exact ⟨fails_commit (AuthDb.openChallenge_mem hfound).1 error, commit_error _ _⟩
        | accepted d =>
            obtain ⟨c, hfound, -, -, -, rfl⟩ := AuthConfig.attempt_accepted hattempt
            cases hfault : tick.fault with
            | true =>
                simp only [OtpWork.commit, hfault, if_true]
                exact ⟨.nothing, .database, rfl⟩
            | false =>
                rw [hfound] at hattempt
                exact absurd ⟨hfault, huser, hmatched, hfound, hattempt⟩ (h c user)
      · simp only [if_pos hmatched]
        exact ⟨.nothing, _, rfl⟩

/-- `submit_kyc` rewrites its user, or nothing. -/
structure SubmitsKyc (tick : AuthTick) (userId : ℕ) (payload : IdentityProfileRequest)
    (db : AuthDb) (user : User) : Prop where
  available : tick.fault = false
  consented : payload.identityConsent = true
  stored : db.users.get userId = some user

/-- A profile is written where the consent is given and the user is stored. -/
theorem submitKyc_submits {userId : ℕ} {payload : IdentityProfileRequest} {user : User}
    (h : SubmitsKyc tick userId payload db user) :
    ∃ users, (submitKyc config tick userId payload db).1 = { db with users } ∧
      Rewrites db.users users user (payload.profile config tick.now user) := by
  have hconsented : ¬ payload.identityConsent = false := by simp [h.consented]
  refine ⟨_, ?_, UserWrite.flush_update (Table.mem_of_get h.stored) rfl rfl⟩
  simp only [submitKyc, if_neg hconsented, h.stored, h.available]
  rfl

/-- Where no profile is written, the call changes nothing. -/
theorem submitKyc_nothing {userId : ℕ} {payload : IdentityProfileRequest}
    (h : ∀ user, ¬ SubmitsKyc tick userId payload db user) :
    (submitKyc config tick userId payload db).1 = db := by
  unfold submitKyc
  split
  · rfl
  · rename_i hconsented
    cases huser : db.users.get userId with
    | none => rfl
    | some user =>
        cases hfault : tick.fault with
        | true => rfl
        | false => exact absurd ⟨hfault, Bool.eq_true_of_not_eq_false hconsented, huser⟩ (h user)

/-- The sign-in of the mobile application creates a user, rewrites one without touching the
number, or writes nothing. -/
inductive Exchanges (config : AuthConfig) (tick : AuthTick) (payload : MobileOAuthExchangeRequest)
    (db : AuthDb) : AuthDb → Prop
  | nothing : Exchanges config tick payload db db
  | created {users : Table User}
      (husers : (UserWrite.add (payload.newUser config tick.now)).flush db.users = some users) :
      Exchanges config tick payload db { db with users }
  | rewrote {users : Table User} {u v : User} (hrewrites : Rewrites db.users users u v)
      (hemail : v.email = u.email) (hwhatsapp : v.whatsappPhone = u.whatsappPhone)
      (hphone : v.phoneVerifiedAt = u.phoneVerifiedAt) (hkyc : v.kycStatus = u.kycStatus)
      (hverified : v.emailVerifiedAt = u.emailVerifiedAt.or (some tick.now)) :
      Exchanges config tick payload db { db with users }

/-- A session that writes a whole row back has rewritten that user. -/
theorem Table.replace_rewrites {users users' : Table User} {u : User} {f : User → User}
    {hf : ∀ r, ident (f r) = ident r} (hu : u ∈ users)
    (h : users.replace u.id f hf = some users') : Rewrites users users' u (f u) where
  stored := hu
  sameId := hf u
  mem_iff u' := by
    rw [Table.mem_replace h]
    constructor
    · rintro ⟨u₀, hu₀, rfl⟩
      by_cases hid : ident u₀ = u.id
      · obtain rfl := Table.eq_of_ident hu₀ hu hid
        right
        rw [if_pos hid]
      · left
        rw [if_neg hid]
        exact ⟨hu₀, hid⟩
    · rintro (⟨hu', hid⟩ | rfl)
      · exact ⟨u', hu', (if_neg hid).symm⟩
      · exact ⟨u, hu, (if_pos (User.ident_eq u)).symm⟩

/-- What the exchange does to the tables, for every request. -/
theorem exchangeMobileOauth_exchanges (exchangeSecret : Option String)
    (payload : MobileOAuthExchangeRequest) :
    Exchanges config tick payload db
      (exchangeMobileOauth config tick exchangeSecret payload db).1 := by
  unfold exchangeMobileOauth
  split
  · exact .nothing
  · split
    · exact .nothing
    · split
      · rename_i user huser
        -- a known identity: at most its address is confirmed
        have hstored : user ∈ db.users := List.mem_of_find?_eq_some huser
        split
        · exact .nothing
        · split
          · exact .nothing
          · rename_i hunverified
            split
            · exact .nothing
            · split
              · exact .nothing
              · rename_i users husers
                have hnone : user.emailVerifiedAt = none := by
                  simpa using hunverified
                have hrewrites : Rewrites db.users users user (user.emailVerified tick.now) :=
                  UserWrite.flush_update hstored rfl husers
                refine .rewrote hrewrites rfl rfl rfl rfl ?_
                simp [User.emailVerified, hnone]
      · split
        · rename_i user huser
          have hstored : user ∈ db.users := (AuthDb.userByEmail_some huser).1
          split
          · exact .nothing
          · split
            · exact .nothing
            · split
              · exact .nothing
              · rename_i users husers
                exact .rewrote (Table.replace_rewrites hstored husers) rfl rfl rfl rfl rfl
        · split
          · exact .nothing
          · split
            · exact .nothing
            · rename_i users husers
              exact .created husers

end Routes

/-! ## One call

What every call has in common, without a case for each route. -/

/-- A user as the routes create them: no number is confirmed, and the status is pending. -/
structure User.IsNew (user : User) : Prop where
  phone : user.phoneVerifiedAt = none
  status : user.kycStatus = .pending
  whatsapp : user.whatsappPhone ≠ some ""

/-- The call succeeds in none of the ways that write a stored user. -/
def AuthCall.Quiet (config : AuthConfig) (db : AuthDb) : AuthCall → Prop
  | .verifySignupOtp tick payload => ∀ c write, ¬ SignsUp config tick payload db c write
  | .verifyPhoneOtp tick userId payload =>
      ∀ c user, ¬ ConfirmsPhone config tick userId payload db c user
  | .submitKyc tick userId payload => ∀ user, ¬ SubmitsKyc tick userId payload db user
  | _ => True

/-- What one call does to the users. -/
inductive UsersEffect (config : AuthConfig) (db : AuthDb) : AuthCall → Table User → Prop
  | unchanged {call : AuthCall} (hquiet : call.Quiet config db) :
      UsersEffect config db call db.users
  | registered {tick : AuthTick} {payload : RegisterRequest} {users : Table User}
      (husers : (UserWrite.add (payload.newUser config)).flush db.users = some users) :
      UsersEffect config db (.register tick payload) users
  | enrolled {tick : AuthTick} {payload : OtpVerifyRequest} {c : UserOtpChallenge} {user : User}
      {users : Table User} (hsigns : SignsUp config tick payload db c (.add user))
      (hnew : user.IsNew) (husers : (UserWrite.add user).flush db.users = some users) :
      UsersEffect config db (.verifySignupOtp tick payload) users
  | signedUp {tick : AuthTick} {payload : OtpVerifyRequest} {c : UserOtpChallenge} {u : User}
      {users : Table User}
      (hsigns : SignsUp config tick payload db c (.update ⟨u, payload.profile config tick.now u⟩))
      (hrewrites : Rewrites db.users users u (payload.profile config tick.now u)) :
      UsersEffect config db (.verifySignupOtp tick payload) users
  | confirmed {tick : AuthTick} {userId : ℕ} {payload : PhoneOtpVerifyRequest}
      {c : UserOtpChallenge} {u : User} {users : Table User}
      (hconfirms : ConfirmsPhone config tick userId payload db c u)
      (hrewrites : Rewrites db.users users u (u.phoneVerified tick.now)) :
      UsersEffect config db (.verifyPhoneOtp tick userId payload) users
  | submitted {tick : AuthTick} {userId : ℕ} {payload : IdentityProfileRequest} {u : User}
      {users : Table User} (hsubmits : SubmitsKyc tick userId payload db u)
      (hrewrites : Rewrites db.users users u (payload.profile config tick.now u)) :
      UsersEffect config db (.submitKyc tick userId payload) users
  | exchanged {tick : AuthTick} {exchangeSecret : Option String}
      {payload : MobileOAuthExchangeRequest} {db' : AuthDb}
      (hexchanges : Exchanges config tick payload db db') :
      UsersEffect config db (.exchangeMobileOauth tick exchangeSecret payload) db'.users

section Calls

variable {config : AuthConfig}

/-- A signup verification writes one thing. -/
theorem SignsUp.unique {tick : AuthTick} {payload : OtpVerifyRequest} {db : AuthDb}
    {c c' : UserOtpChallenge} {write write' : UserWrite}
    (h : SignsUp config tick payload db c write) (h' : SignsUp config tick payload db c' write') :
    c = c' ∧ write = write' :=
  ⟨Option.some.inj (h.found.symm.trans h'.found),
    Except.ok.inj (h.confirmed.symm.trans h'.confirmed)⟩

/-- The user `register` creates is new. -/
theorem RegisterRequest.newUser_isNew (payload : RegisterRequest) :
    (payload.newUser config).IsNew := ⟨rfl, rfl, nofun⟩

/-- The user the exchange creates is new: an address is confirmed, and no number. -/
theorem MobileOAuthExchangeRequest.newUser_isNew (payload : MobileOAuthExchangeRequest)
    (now : Instant) : (payload.newUser config now).IsNew := ⟨rfl, rfl, nofun⟩

/-- What the routes store as a number is never the empty text. -/
theorem AuthConfig.normalizeOptional_ne_empty (value : Option String) :
    config.normalizeOptional value ≠ some "" := by
  intro h
  obtain ⟨phone, -, hempty⟩ := Option.map_eq_some_iff.mp h
  exact config.normalizePhone_ne_empty phone hempty

/-- Whose address was confirmed is a new user, or the stored one. -/
theorem SignsUp.write_cases {tick : AuthTick} {payload : OtpVerifyRequest} {db : AuthDb}
    {c : UserOtpChallenge} {write : UserWrite} (h : SignsUp config tick payload db c write) :
    (∃ user, write = .add user ∧ user.IsNew) ∨
      ∃ u ∈ db.users, write = .update ⟨u, payload.profile config tick.now u⟩ := by
  have hconfirmed := h.confirmed
  cases huser : db.userByEmail (config.normalizeEmail payload.email) with
  | none =>
      rw [huser] at hconfirmed
      refine Or.inl ⟨_, (Except.ok.inj hconfirmed).symm, rfl, rfl, ?_⟩
      exact AuthConfig.normalizeOptional_ne_empty payload.whatsappPhone
  | some u =>
      rw [huser] at hconfirmed
      simp only [OtpVerifyRequest.confirm] at hconfirmed
      split at hconfirmed
      · cases hconfirmed
      · exact Or.inr ⟨u, (AuthDb.userByEmail_some huser).1, (Except.ok.inj hconfirmed).symm⟩

/-- A confirmation that was made is remembered. -/
theorem AuthWorld.subset_after (w : AuthWorld) (config : AuthConfig) (call : AuthCall) :
    w.confirmations ⊆ (w.after config call).confirmations := by
  cases call with
  | verifySignupOtp tick payload => exact List.subset_append_left _ _
  | verifyPhoneOtp tick userId payload => exact List.subset_append_left _ _
  | _ => exact List.Subset.refl _

/-- A phone verification that succeeds is entered in the record. -/
theorem ConfirmsPhone.after_confirmations {w : AuthWorld} {tick : AuthTick} {userId : ℕ}
    {payload : PhoneOtpVerifyRequest} {c : UserOtpChallenge} {u : User}
    (h : ConfirmsPhone config tick userId payload w.db c u) :
    (w.after config (.verifyPhoneOtp tick userId payload)).confirmations = w.confirmations ++
      [⟨.phoneVerify, config.normalizePhone payload.whatsappPhone, userId, c.id,
        w.db.challenges.next, tick.now⟩] := by
  obtain ⟨users, husers, -⟩ := h.flush
  have hfound : phoneChallenge config userId payload w.db = some c := by
    rw [phoneChallenge, h.stored]
    exact h.found
  show w.confirmations ++ confirmationOf .phoneVerify _ tick.now w.db
    (phoneChallenge config userId payload w.db) _ _ = _
  rw [hfound, verifyPhoneOtp_confirmsPhone h husers]
  rfl

/-- A signup verification that succeeds is entered in the record. -/
theorem SignsUp.after_confirmations {w : AuthWorld} {tick : AuthTick} {payload : OtpVerifyRequest}
    {c : UserOtpChallenge} {write : UserWrite} (h : SignsUp config tick payload w.db c write) :
    (w.after config (.verifySignupOtp tick payload)).confirmations = w.confirmations ++
      [⟨.signup, config.normalizeEmail payload.email, write.userId w.db.users, c.id,
        w.db.challenges.next, tick.now⟩] := by
  obtain ⟨users, husers⟩ := h.flush
  show w.confirmations ++ confirmationOf .signup _ tick.now w.db
    (w.db.openChallenge .signup (config.normalizeEmail payload.email) none) _ _ = _
  rw [h.found, verifySignupOtp_signsUp h husers]
  rfl

/-- **What a call does to the users**, for every call. -/
theorem AuthWorld.after_users (w : AuthWorld) (config : AuthConfig) (call : AuthCall) :
    UsersEffect config w.db call (w.after config call).db.users := by
  cases call with
  | register tick payload =>
      show UsersEffect config w.db _ (register config tick payload w.db).1.users
      rcases @register_cases config w.db tick payload with hsame | ⟨users, husers, hdb⟩
      · rw [hsame]
        exact .unchanged trivial
      · rw [hdb]
        exact .registered husers
  | requestSignupOtp tick issue payload =>
      have hissues := @requestSignupOtp_issues config w.db tick issue payload
      show UsersEffect config w.db _ (requestSignupOtp config tick issue payload w.db).1.users
      rw [hissues.users_eq]
      exact .unchanged trivial
  | verifySignupOtp tick payload =>
      show UsersEffect config w.db _ (verifySignupOtp config tick payload w.db).1.users
      -- a code that is confirmed writes the user; any other outcome leaves the users alone
      by_cases hsucceeds : ∃ c write, SignsUp config tick payload w.db c write
      · obtain ⟨c, write, hsigns⟩ := hsucceeds
        obtain ⟨users, husers⟩ := hsigns.flush
        rw [verifySignupOtp_signsUp hsigns husers]
        rcases hsigns.write_cases with ⟨user, rfl, hnew⟩ | ⟨u, hu, rfl⟩
        · exact .enrolled hsigns hnew husers
        · exact .signedUp hsigns (UserWrite.flush_update hu rfl husers)
      · have hquiet : ∀ c write, ¬ SignsUp config tick payload w.db c write :=
          fun c write h => hsucceeds ⟨c, write, h⟩
        rw [(verifySignupOtp_fails hquiet).1.users_eq]
        exact .unchanged hquiet
  | requestPhoneOtp tick issue userId payload =>
      show UsersEffect config w.db _ (requestPhoneOtp config tick issue userId payload w.db).1.users
      rcases @requestPhoneOtp_issues config w.db tick issue userId payload with
        hsame | ⟨user, -, -, hissues⟩
      · rw [hsame]
        exact .unchanged trivial
      · rw [hissues.users_eq]
        exact .unchanged trivial
  | verifyPhoneOtp tick userId payload =>
      show UsersEffect config w.db _ (verifyPhoneOtp config tick userId payload w.db).1.users
      by_cases hsucceeds : ∃ c user, ConfirmsPhone config tick userId payload w.db c user
      · obtain ⟨c, user, hconfirms⟩ := hsucceeds
        obtain ⟨users, husers, hrewrites⟩ := hconfirms.flush
        rw [verifyPhoneOtp_confirmsPhone hconfirms husers]
        exact .confirmed hconfirms hrewrites
      · have hquiet : ∀ c user, ¬ ConfirmsPhone config tick userId payload w.db c user :=
          fun c user h => hsucceeds ⟨c, user, h⟩
        rw [(verifyPhoneOtp_fails hquiet).1.users_eq]
        exact .unchanged hquiet
  | submitKyc tick userId payload =>
      show UsersEffect config w.db _ (submitKyc config tick userId payload w.db).1.users
      by_cases hsucceeds : ∃ user, SubmitsKyc tick userId payload w.db user
      · obtain ⟨user, hsubmits⟩ := hsucceeds
        obtain ⟨users, hdb, hrewrites⟩ := @submitKyc_submits config _ _ _ _ _ hsubmits
        rw [hdb]
        exact .submitted hsubmits hrewrites
      · have hquiet : ∀ user, ¬ SubmitsKyc tick userId payload w.db user :=
          fun user h => hsucceeds ⟨user, h⟩
        rw [submitKyc_nothing hquiet]
        exact .unchanged hquiet
  | exchangeMobileOauth tick exchangeSecret payload =>
      exact .exchanged (exchangeMobileOauth_exchanges exchangeSecret payload)

/-- The challenge `c` some time later: it may have been tried and consumed, and that is
all. -/
structure UserOtpChallenge.Becomes (c c' : UserOtpChallenge) : Prop where
  id : c'.id = c.id
  email : c'.email = c.email
  phone : c'.phone = c.phone
  purpose : c'.purpose = c.purpose
  expiresAt : c'.expiresAt = c.expiresAt
  attempts : c.attempts ≤ c'.attempts
  consumed : c.consumedAt ≠ none → c'.consumedAt ≠ none

theorem UserOtpChallenge.Becomes.refl (c : UserOtpChallenge) : c.Becomes c :=
  ⟨rfl, rfl, rfl, rfl, rfl, le_rfl, fun h => h⟩

/-- The challenges after a step: the old ones some time later, and at most one new one,
which for a number goes to an address that is confirmed. -/
structure ChallengesGrow (db : AuthDb) (challenges : Table UserOtpChallenge) : Prop where
  next_le : db.challenges.next ≤ challenges.next
  mem : ∀ c' ∈ challenges, (∃ c ∈ db.challenges, c.Becomes c') ∨
    (db.challenges.next ≤ c'.id ∧ (c'.purpose = .phoneVerify →
      ∃ user ∈ db.users, user.email = c'.email ∧ user.emailVerifiedAt ≠ none))

/-- Nothing happened to the challenges. -/
theorem ChallengesGrow.refl (db : AuthDb) : ChallengesGrow db db.challenges where
  next_le := le_rfl
  mem c hc := Or.inl ⟨c, hc, .refl c⟩

/-- Writing a challenge back that nobody else wrote. -/
theorem ChallengesGrow.modify {db : AuthDb} {d : Dirty UserOtpChallenge}
    (hd : d.loaded ∈ db.challenges)
    (hgrows : d.loaded.Becomes (UserOtpChallenge.writeBack d d.loaded)) :
    ChallengesGrow db (db.putChallenge d) where
  next_le := le_rfl
  mem c' hc' := by
    obtain ⟨c, hc, rfl⟩ := AuthDb.mem_putChallenge.mp hc'
    left
    refine ⟨c, hc, ?_⟩
    split
    · rename_i hid
      obtain rfl := Table.eq_of_ident hc hd hid
      exact hgrows
    · exact .refl c

/-- One attempt more is later. -/
theorem UserOtpChallenge.becomes_spend (c : UserOtpChallenge) :
    c.Becomes (UserOtpChallenge.writeBack c.spend c) := by
  rw [UserOtpChallenge.writeBack_spend]
  exact ⟨rfl, rfl, rfl, rfl, rfl, Nat.le_succ _, fun h => h⟩

/-- A challenge that is consumed becomes a later one. -/
theorem UserOtpChallenge.becomes_consume (c : UserOtpChallenge) (now : Instant) :
    c.Becomes (UserOtpChallenge.writeBack (c.consume now) c) := by
  rw [UserOtpChallenge.writeBack_consume]
  exact ⟨rfl, rfl, rfl, rfl, rfl, Nat.le_succ _, fun _ => nofun⟩

/-- A verification that fails only ages its challenge. -/
theorem Fails.grow {db db' : AuthDb} (h : Fails db db') : ChallengesGrow db db'.challenges := by
  cases h with
  | nothing => exact .refl db
  | @spent c hc => exact ChallengesGrow.modify (d := c.spend) hc c.becomes_spend

/-- A request adds its own challenge. -/
theorem Issues.grow {db db' : AuthDb} {challenge : UserOtpChallenge} {now : Instant}
    (h : Issues db challenge now db')
    (haddress : challenge.purpose = .phoneVerify →
      ∃ user ∈ db.users, user.email = challenge.email ∧ user.emailVerifiedAt ≠ none) :
    ChallengesGrow db db'.challenges where
  next_le := by
    have hissued : (db.issue challenge).challenges.next = db.challenges.next + 1 :=
      Table.insert_next (Table.add_eq db.challenges _ _ fun _ _ => id)
    cases h with
    | nothing => exact le_rfl
    | issued => exact hissued ▸ Nat.le_succ _
    | withdrawn =>
        show db.challenges.next ≤ (db.issue challenge).challenges.next
        omega
  mem c' hc' := by
    rcases h.mem hc' with hold | ⟨hid, hpurpose, hemail, -⟩
    · exact Or.inl ⟨c', hold, .refl c'⟩
    · refine Or.inr ⟨hid.ge, fun hphone => ?_⟩
      rw [hpurpose] at hphone
      rw [hemail]
      exact haddress hphone

/-- One call keeps the challenges that there are. -/
theorem AuthWorld.after_challenges (w : AuthWorld) (config : AuthConfig) (call : AuthCall) :
    ChallengesGrow w.db (w.after config call).db.challenges := by
  cases call with
  | register tick payload =>
      show ChallengesGrow w.db (register config tick payload w.db).1.challenges
      rcases @register_cases config w.db tick payload with hsame | ⟨users, -, hdb⟩
      · rw [hsame]
        exact .refl w.db
      · rw [hdb]
        exact .refl w.db
  | requestSignupOtp tick issue payload =>
      exact (requestSignupOtp_issues issue payload).grow fun h => by cases h
  | verifySignupOtp tick payload =>
      show ChallengesGrow w.db (verifySignupOtp config tick payload w.db).1.challenges
      -- a confirmed code consumes its challenge, a wrong one is a try more
      by_cases hsucceeds : ∃ c write, SignsUp config tick payload w.db c write
      · obtain ⟨c, write, hsigns⟩ := hsucceeds
        obtain ⟨users, husers⟩ := hsigns.flush
        rw [verifySignupOtp_signsUp hsigns husers]
        exact ChallengesGrow.modify (d := c.consume tick.now)
          (AuthDb.openChallenge_mem hsigns.found).1 (c.becomes_consume tick.now)
      · exact (verifySignupOtp_fails fun c write h => hsucceeds ⟨c, write, h⟩).1.grow
  | requestPhoneOtp tick issue userId payload =>
      show ChallengesGrow w.db (requestPhoneOtp config tick issue userId payload w.db).1.challenges
      rcases @requestPhoneOtp_issues config w.db tick issue userId payload with
        hsame | ⟨user, huser, hverified, hissues⟩
      · rw [hsame]
        exact .refl w.db
      · exact hissues.grow fun _ => ⟨user, huser, rfl, hverified⟩
  | verifyPhoneOtp tick userId payload =>
      show ChallengesGrow w.db (verifyPhoneOtp config tick userId payload w.db).1.challenges
      by_cases hsucceeds : ∃ c user, ConfirmsPhone config tick userId payload w.db c user
      · obtain ⟨c, user, hconfirms⟩ := hsucceeds
        obtain ⟨users, husers, -⟩ := hconfirms.flush
        rw [verifyPhoneOtp_confirmsPhone hconfirms husers]
        exact ChallengesGrow.modify (d := c.consume tick.now)
          (AuthDb.openChallenge_mem hconfirms.found).1 (c.becomes_consume tick.now)
      · exact (verifyPhoneOtp_fails fun c user h => hsucceeds ⟨c, user, h⟩).1.grow
  | submitKyc tick userId payload =>
      show ChallengesGrow w.db (submitKyc config tick userId payload w.db).1.challenges
      by_cases hsucceeds : ∃ user, SubmitsKyc tick userId payload w.db user
      · obtain ⟨user, hsubmits⟩ := hsucceeds
        obtain ⟨users, hdb, -⟩ := @submitKyc_submits config _ _ _ _ _ hsubmits
        rw [hdb]
        exact .refl w.db
      · rw [submitKyc_nothing fun user h => hsucceeds ⟨user, h⟩]
        exact .refl w.db
  | exchangeMobileOauth tick exchangeSecret payload =>
      have hexchanges := @exchangeMobileOauth_exchanges config w.db tick exchangeSecret payload
      show ChallengesGrow w.db
        (exchangeMobileOauth config tick exchangeSecret payload w.db).1.challenges
      generalize (exchangeMobileOauth config tick exchangeSecret payload w.db).1 = db' at hexchanges
      cases hexchanges <;> exact .refl w.db

end Calls

/-! ## A user for examples -/

/-- Production, with the default settings; `hmac` answers for the key of 64 letters `x` and
the texts that the runs below make. -/
def sampleAuth : AuthConfig where
  isProduction := true
  hmac := fun text =>
    if text = "signup:ada@example.com:123456" then
      "f038b4694b08523ba17c955e79668bf653bd3256bb86701a33f5d29b8ac44362"
    else if text = "signup:ada@example.com:654321" then
      "26c5cbaa7b4907a2ff947b71ec9d2aa5bf70935e0b9ab170103542430d90a3b4"
    else if text = "phone_verify:+237690000001:314159" then
      "b08f7b983efa6a33d1c49d6fd374c2fcd853488fdc2018f9c1ffa1f4a23148a7"
    else ""
  hashPassword := fun _ => ""
  createAccessToken := fun _ _ => ""
  createRefreshToken := fun _ _ => ""
  lower := lower
  upper := upper
  isDigit := Char.isDigit

/-- A request for a signup code, which is sent. -/
def askSignup (now : Instant) (code : String) : AuthCall :=
  .requestSignupOtp ⟨now, false⟩ ⟨code, true, false⟩ ⟨"ada@example.com", true, true⟩

/-- What a user enters with a signup code. -/
def adaProfile (code whatsappPhone : String) : OtpVerifyRequest where
  email := "ada@example.com"
  code := code
  fullName := "Ada Example"
  whatsappPhone := some whatsappPhone
  country := "CM"
  dateOfBirth := "1990-01-01"
  identityConsent := true
  termsAccepted := true

/-- A signup verification with a WhatsApp number. -/
def enterSignup (now : Instant) (code whatsappPhone : String) : AuthCall :=
  .verifySignupOtp ⟨now, false⟩ (adaProfile code whatsappPhone)

/-- A request for a phone code by the first user, which is sent. -/
def askPhone (now : Instant) (code whatsappPhone : String) : AuthCall :=
  .requestPhoneOtp ⟨now, false⟩ ⟨code, true, false⟩ 0 ⟨whatsappPhone⟩

/-- A phone verification by the first user. -/
def enterPhone (now : Instant) (code whatsappPhone : String) : AuthCall :=
  .verifyPhoneOtp ⟨now, false⟩ 0 ⟨whatsappPhone, code⟩

/-- The service before its first call. -/
def quietAuth : AuthWorld := AuthWorld.start AuthDb.empty

/-- A user signs up and confirms a number. -/
def signUpAndConfirm : List AuthCall :=
  [askSignup 0 "123456", enterSignup (seconds 30) "123456" "+237690000001",
    askPhone (seconds 60) "314159" "+237 690 000 001",
    enterPhone (seconds 90) "314159" "+237690000001"]

end AfricaFrontier
