import AfricaFrontier.Auth.Histories

/-!
# Who signs in

`login`, and what the other routes that hand out tokens have in common with it: the tokens are
those of one user, who is stored and active when the call is over (`signInOf_spec`).
The routes never change the flag `is_active` of a stored user (`AuthWorld.after_keepsFlags`).

Four routes hand out tokens. `register`, `login` and `verify_signup_otp` answer with the pair of
`_issue_tokens`; the mobile sign-in answers with one access token, for the user who has the
identity when the call is over. `signInOf` reads the sign-in off a call and its answer, and is
none where the call was refused; what a later module needs of the four routes is in
`signInOf_spec` alone.

That flags stay is one fact about every call: new users are active, rewritten users keep their
flag, and only the exchange needs a look at its own cases (`ExchangeEffect`), since it links and
confirms in one request.
-/

namespace AfricaFrontier

open Python Relational Transition

/-! ## Login -/

/-- The body of `login`. -/
structure LoginRequest where
  email : String
  password : String

/-- `verify_password`, where `checkpw` is `bcrypt.checkpw`; `none` is its `ValueError`. -/
def verifyPassword (checkpw : String → String → Option Bool) (plain hashed : String) : Bool :=
  (checkpw plain hashed).getD false

/-- `login`. -/
def login (config : AuthConfig) (checkpw : String → String → Option Bool) (now : Instant)
    (payload : LoginRequest) (db : AuthDb) : Except AuthError TokenResponse :=
  match db.userByEmail payload.email with
  | none => .error (.authentication "Invalid email or password")
  | some user =>
      match truthy user.hashedPassword with
      | none => .error (.authentication "Invalid email or password")
      | some hashed =>
          if verifyPassword checkpw payload.password hashed = false then
            .error (.authentication "Invalid email or password")
          else if user.isActive ≠ "1" then .error (.authentication "Account is disabled")
          else .ok (config.issueTokens user.id now)

/-- A user with this key is stored and active. The flag is a text, and only "1" is active. -/
def ActiveUser (users : Table User) (userId : ℕ) : Prop :=
  ∃ user, users.get userId = some user ∧ user.isActive = "1"

/-- A stored user with the flag is an active one. -/
theorem ActiveUser.of_mem {users : Table User} {user : User} (h : user ∈ users)
    (hactive : user.isActive = "1") : ActiveUser users user.id :=
  ⟨user, Table.get_ident h, hactive⟩

/-- Who is let in by `login` is stored and active, and gets the pair of tokens. -/
theorem login_ok {config : AuthConfig} {checkpw : String → String → Option Bool} {now : Instant}
    {payload : LoginRequest} {db : AuthDb} {r : TokenResponse}
    (h : login config checkpw now payload db = .ok r) :
    ∃ userId, r = config.issueTokens userId now ∧ ActiveUser db.users userId := by
  unfold login at h
  split at h
  · cases h
  · rename_i user huser
    split at h
    · cases h
    · split_ifs at h with hpassword hinactive
      obtain rfl := Except.ok.inj h
      exact ⟨user.id, rfl, .of_mem (AuthDb.userByEmail_some huser).1 (not_not.mp hinactive)⟩

/-! ## The flag of a stored user

`is_active` is read by `login`, the signup verification, the exchange and the refresh route; it is
written by nobody but the operator. -/

/-- Stored users stay, with their flags. -/
def KeepsFlags (users users' : Table User) : Prop :=
  ∀ i u, users.get i = some u → ∃ u', users'.get i = some u' ∧ u'.isActive = u.isActive

/-- Nothing happened to the users. -/
theorem KeepsFlags.refl (users : Table User) : KeepsFlags users users :=
  fun _ u hget => ⟨u, hget, rfl⟩

/-- A new user changes the flag of nobody. -/
theorem KeepsFlags.of_add {users users' : Table User} {user : User}
    (h : (UserWrite.add user).flush users = some users') : KeepsFlags users users' := by
  have hinsert : users.insert (fun n => { user with id := n }) (fun _ => rfl) = some users' := h
  intro i u hget
  exact ⟨u, Table.get_insert_of_get hinsert hget, rfl⟩

/-- A user who is rewritten with the same flag. -/
theorem KeepsFlags.of_rewrites {users users' : Table User} {u v : User}
    (h : Rewrites users users' u v) (hflag : v.isActive = u.isActive) :
    KeepsFlags users users' := by
  intro i w hget
  obtain ⟨hw, hid⟩ := Table.get_eq_some_iff.mp hget
  by_cases hsame : w.id = u.id
  · obtain rfl := Table.eq_of_ident hw h.stored hsame
    refine ⟨v, Table.get_eq_some_iff.mpr ⟨(h.mem_iff v).mpr (Or.inr rfl), ?_⟩, hflag⟩
    exact h.sameId.trans hid
  · exact ⟨w, Table.get_eq_some_iff.mpr ⟨(h.mem_iff w).mpr (Or.inl ⟨hw, hsame⟩), hid⟩, rfl⟩

section Exchange

variable {config : AuthConfig} {tick : AuthTick} {payload : MobileOAuthExchangeRequest}

/-- What `exchange_mobile_oauth` does with flags and tokens: flags stay, and a token is that of
an active user who has the identity afterwards. -/
structure ExchangeEffect (config : AuthConfig) (tick : AuthTick)
    (payload : MobileOAuthExchangeRequest) (db : AuthDb)
    (result : AuthDb × Except AuthError String) : Prop where
  flags : KeepsFlags db.users result.1.users
  token : ∀ text, result.2 = .ok text → ∃ user ∈ result.1.users,
    user.oauthSubject = some payload.oauthSubject ∧ user.isActive = "1" ∧
      text = config.createAccessToken user.id tick.now

/-- A request that is refused before it writes. -/
theorem ExchangeEffect.refused {db : AuthDb} (error : AuthError) :
    ExchangeEffect config tick payload db (db, .error error) where
  flags := .refl db.users
  token _ h := by cases h

/-- Who has a confirmed address is answered with a token where the account is active. -/
theorem exchanged_ok {user : User} {text : String} (h : config.exchanged tick user = .ok text) :
    user.isActive = "1" ∧ text = config.createAccessToken user.id tick.now := by
  unfold AuthConfig.exchanged at h
  split_ifs at h with hinactive
  exact ⟨not_not.mp hinactive, (Except.ok.inj h).symm⟩

/-- The answer is about a user as stored, but for the confirmed address and the profile. -/
theorem ExchangeEffect.answered {db : AuthDb} {users : Table User} {user stored : User}
    (hflags : KeepsFlags db.users users) (hstored : stored ∈ users)
    (hid : stored.id = user.id) (hflag : stored.isActive = user.isActive)
    (hsubject : stored.oauthSubject = some payload.oauthSubject) :
    ExchangeEffect config tick payload db ({ db with users }, config.exchanged tick user) where
  flags := hflags
  token text h := by
    obtain ⟨hactive, rfl⟩ := exchanged_ok h
    exact ⟨stored, hstored, hsubject, hflag.trans hactive, by rw [hid]⟩

/-- Every request of the exchange, whatever it finds. -/
theorem exchangeMobileOauth_effect (exchangeSecret : Option String) (db : AuthDb) :
    ExchangeEffect config tick payload db
      (exchangeMobileOauth config tick exchangeSecret payload db) := by
  unfold exchangeMobileOauth
  split
  · exact .refused _
  · split
    · exact .refused _
    · split
      · rename_i user huser
        -- a known identity
        have hstored : user ∈ db.users := List.mem_of_find?_eq_some huser
        have hsubject : user.oauthSubject = some payload.oauthSubject := by
          simpa using List.find?_some huser
        split
        · exact .refused _
        · split
          · exact .answered (.refl db.users) hstored rfl rfl hsubject
          · split
            · exact .refused _
            · split
              · exact .refused _
              · rename_i users husers
                have hrewrites : Rewrites db.users users user (user.emailVerified tick.now) :=
                  UserWrite.flush_update hstored rfl husers
                exact .answered (.of_rewrites hrewrites rfl)
                  ((hrewrites.mem_iff _).mpr (Or.inr rfl)) rfl rfl hsubject
      · split
        · rename_i user huser
          have hstored : user ∈ db.users := (AuthDb.userByEmail_some huser).1
          split
          · exact .refused _
          · split
            · exact .refused _
            · split
              · exact .refused _
              · rename_i users husers
                have hrewrites := Table.replace_rewrites hstored husers
                exact .answered (.of_rewrites hrewrites rfl)
                  ((hrewrites.mem_iff _).mpr (Or.inr rfl)) rfl rfl rfl
        · split
          · exact .refused _
          · split
            · exact .refused _
            · rename_i users husers
              have hinsert : db.users.insert
                  (fun n => { payload.newUser config tick.now with id := n }) (fun _ => rfl) =
                    some users := husers
              exact .answered (.of_add husers) ((Table.mem_insert hinsert).mpr (Or.inr rfl))
                rfl rfl rfl

end Exchange

/-- The other routes keep flags by what they do to the users. -/
theorem UsersEffect.keepsFlags {config : AuthConfig} {db : AuthDb} {call : AuthCall}
    {users : Table User} (h : UsersEffect config db call users)
    (hother : ∀ tick exchangeSecret payload,
      call ≠ .exchangeMobileOauth tick exchangeSecret payload) : KeepsFlags db.users users := by
  cases h with
  | unchanged _ => exact .refl db.users
  | registered husers => exact .of_add husers
  | enrolled _ _ husers => exact .of_add husers
  | signedUp _ hrewrites => exact .of_rewrites hrewrites rfl
  | confirmed _ hrewrites => exact .of_rewrites hrewrites rfl
  | submitted _ hrewrites => exact .of_rewrites hrewrites rfl
  | exchanged _ => exact absurd rfl (hother _ _ _)

/-- No call changes the flag of a stored user. -/
theorem AuthWorld.after_keepsFlags (w : AuthWorld) (config : AuthConfig) (call : AuthCall) :
    KeepsFlags w.db.users (w.after config call).db.users := by
  by_cases hexchange : ∃ tick exchangeSecret payload,
      call = .exchangeMobileOauth tick exchangeSecret payload
  · obtain ⟨tick, exchangeSecret, payload, rfl⟩ := hexchange
    exact (exchangeMobileOauth_effect exchangeSecret w.db).flags
  · exact (w.after_users config call).keepsFlags fun tick exchangeSecret payload hcall =>
      hexchange ⟨tick, exchangeSecret, payload, hcall⟩

/-! ## Tokens

A token text is that of a sign-in when it is one of the texts its answer carries. -/

/-- A sign-in: the user, and when. -/
structure SignedIn where
  userId : ℕ
  time : Instant
  deriving DecidableEq

/-- The texts of the tokens a call is answered with. -/
def tokensOf (config : AuthConfig) (db : AuthDb) : AuthCall → List String
  | .register tick payload =>
      match (register config tick payload db).2 with
      | .ok r => [r.accessToken, r.refreshToken]
      | .error _ => []
  | .verifySignupOtp tick payload =>
      match (verifySignupOtp config tick payload db).2 with
      | .ok r => [r.accessToken, r.refreshToken]
      | .error _ => []
  | .exchangeMobileOauth tick exchangeSecret payload =>
      match (exchangeMobileOauth config tick exchangeSecret payload db).2 with
      | .ok text => [text]
      | .error _ => []
  | _ => []

/-- The sign-in a call was, if it was one.  That of an exchange is of the user who has the
identity afterwards. -/
def signInOf (config : AuthConfig) (db : AuthDb) : AuthCall → Option SignedIn
  | .register tick payload =>
      match (register config tick payload db).2 with
      | .ok r => some ⟨r.userId, tick.now⟩
      | .error _ => none
  | .verifySignupOtp tick payload =>
      match (verifySignupOtp config tick payload db).2 with
      | .ok r => some ⟨r.userId, tick.now⟩
      | .error _ => none
  | .exchangeMobileOauth tick exchangeSecret payload =>
      match exchangeMobileOauth config tick exchangeSecret payload db with
      | (db', .ok _) =>
          (db'.users.rows.find? fun u => decide (u.oauthSubject = some payload.oauthSubject)).map
            fun u => ⟨u.id, tick.now⟩
      | (_, .error _) => none
  | _ => none

/-- The user who has an identity is found by it. -/
theorem find_oauthSubject {users : Table User} {user : User} {subject : String} (h : user ∈ users)
    (hsubject : user.oauthSubject = some subject) :
    users.rows.find? (fun u => decide (u.oauthSubject = some subject)) = some user := by
  cases hfind : users.rows.find? fun u => decide (u.oauthSubject = some subject) with
  | none =>
      have hno := List.find?_eq_none.mp hfind user h
      simp [hsubject] at hno
  | some found =>
      have hfound : found ∈ users := List.mem_of_find?_eq_some hfind
      have hsame : found.oauthSubject = some subject := by simpa using List.find?_some hfind
      have hsymm : ∀ a b : Row.Key User, Row.Clash a b → Row.Clash b a := by
        rintro a b (hemail | ⟨hgiven, hsame⟩)
        · exact Or.inl hemail.symm
        · exact Or.inr ⟨hsame ▸ hgiven, hsame.symm⟩
      have hgiven : found.oauthSubject ≠ none := by
        rw [hsame]
        exact Option.some_ne_none subject
      have hclash : Row.Clash (Row.key found) (Row.key user) :=
        Or.inr ⟨hgiven, hsame.trans hsubject.symm⟩
      rw [Table.eq_of_clash hfound h hsymm hclash]

/-- A token of the user, minted at the sign-in. -/
def SignedIn.Text (config : AuthConfig) (s : SignedIn) (text : String) : Prop :=
  text = config.createAccessToken s.userId s.time ∨ text = config.createRefreshToken s.userId s.time

/-- The two texts of `_issue_tokens` are tokens of the sign-in. -/
theorem SignedIn.text_issueTokens {config : AuthConfig} {userId : ℕ} {time : Instant}
    {text : String} (h : text ∈ [(config.issueTokens userId time).accessToken,
      (config.issueTokens userId time).refreshToken]) :
    SignedIn.Text config ⟨userId, time⟩ text := by
  rcases List.mem_cons.mp h with rfl | h
  · exact Or.inl rfl
  · exact Or.inr (List.mem_singleton.mp h)

section Answers

variable {config : AuthConfig} {tick : AuthTick} {db db' : AuthDb} {r : TokenResponse}

/-- A registration is a sign-in of the user it created. -/
theorem register_ok {payload : RegisterRequest}
    (h : register config tick payload db = (db', .ok r)) :
    ∃ userId, r = config.issueTokens userId tick.now ∧ ActiveUser db'.users userId := by
  unfold register at h
  split at h
  · cases h
  · split at h
    · cases h
    · split at h
      · cases h
      · split at h
        · cases h
        · rename_i users husers
          cases h
          have hinsert : db.users.insert (fun n => { payload.newUser config with id := n })
              (fun _ => rfl) = some users := husers
          exact ⟨_, rfl, .of_mem ((Table.mem_insert hinsert).mpr (Or.inr rfl)) rfl⟩

/-- A signup verification is a sign-in of the user whose address was confirmed. -/
theorem verifySignupOtp_ok {payload : OtpVerifyRequest}
    (h : verifySignupOtp config tick payload db = (db', .ok r)) :
    ∃ userId, r = config.issueTokens userId tick.now ∧ ActiveUser db'.users userId := by
  by_cases hsucceeds : ∃ c write, SignsUp config tick payload db c write
  · obtain ⟨c, write, hsigns⟩ := hsucceeds
    obtain ⟨users, husers⟩ := hsigns.flush
    rw [verifySignupOtp_signsUp hsigns husers] at h
    cases h
    refine ⟨_, rfl, ?_⟩
    have hconfirmed := hsigns.confirmed
    cases huser : db.userByEmail (config.normalizeEmail payload.email) with
    | none =>
        rw [huser] at hconfirmed
        obtain rfl := Except.ok.inj hconfirmed
        have hinsert : db.users.insert (fun n => { payload.profile config tick.now
            { id := 0, email := config.normalizeEmail payload.email } with id := n })
            (fun _ => rfl) = some users := husers
        exact .of_mem ((Table.mem_insert hinsert).mpr (Or.inr rfl)) rfl
    | some user =>
        rw [huser] at hconfirmed
        simp only [OtpVerifyRequest.confirm] at hconfirmed
        split at hconfirmed
        · cases hconfirmed
        -- the user was there, and is let in only if it is active
        · rename_i hactive
          obtain rfl := Except.ok.inj hconfirmed
          have hrewrites : Rewrites db.users users user (payload.profile config tick.now user) :=
            UserWrite.flush_update (AuthDb.userByEmail_some huser).1 rfl husers
          have hstored : ActiveUser users (payload.profile config tick.now user).id :=
            .of_mem ((hrewrites.mem_iff _).mpr (Or.inr rfl)) (not_not.mp hactive)
          exact hstored
  · have hfails : ∀ c write, ¬ SignsUp config tick payload db c write :=
      fun c write hsigns => hsucceeds ⟨c, write, hsigns⟩
    obtain ⟨-, error, herror⟩ := verifySignupOtp_fails hfails
    rw [h] at herror
    cases herror

end Answers

/-- **Tokens are handed out at sign-ins**, and those of a sign-in are tokens of its user, who is
active. -/
theorem signInOf_spec {w : AuthWorld} {config : AuthConfig} {call : AuthCall} {text : String}
    (h : text ∈ tokensOf config w.db call) :
    ∃ s : SignedIn, signInOf config w.db call = some s ∧ s.Text config text ∧
      ActiveUser (w.after config call).db.users s.userId := by
  cases call with
  | register tick payload =>
      show ∃ s : SignedIn, _ ∧ _ ∧
        ActiveUser (register config tick payload w.db).1.users s.userId
      simp only [tokensOf, signInOf] at h ⊢
      cases hresult : register config tick payload w.db with
      | mk db' answer =>
          rw [hresult] at h
          cases answer with
          | error error => cases h
          | ok r =>
              obtain ⟨userId, rfl, hactive⟩ := register_ok hresult
              exact ⟨_, rfl, SignedIn.text_issueTokens h, hactive⟩
  | verifySignupOtp tick payload =>
      show ∃ s : SignedIn, _ ∧ _ ∧
        ActiveUser (verifySignupOtp config tick payload w.db).1.users s.userId
      simp only [tokensOf, signInOf] at h ⊢
      cases hresult : verifySignupOtp config tick payload w.db with
      | mk db' answer =>
          rw [hresult] at h
          cases answer with
          | error error => cases h
          | ok r =>
              obtain ⟨userId, rfl, hactive⟩ := verifySignupOtp_ok hresult
              exact ⟨_, rfl, SignedIn.text_issueTokens h, hactive⟩
  | exchangeMobileOauth tick exchangeSecret payload =>
      show ∃ s : SignedIn, _ ∧ _ ∧
        ActiveUser (exchangeMobileOauth config tick exchangeSecret payload w.db).1.users s.userId
      have heffect := @exchangeMobileOauth_effect config tick payload exchangeSecret w.db
      simp only [tokensOf, signInOf] at h ⊢
      cases hresult : exchangeMobileOauth config tick exchangeSecret payload w.db with
      | mk db' answer =>
          rw [hresult] at h heffect
          cases answer with
          | error error => cases h
          | ok minted =>
              obtain rfl := List.mem_singleton.mp h
              obtain ⟨user, huser, hsubject, hactive, htext⟩ := heffect.token _ rfl
              refine ⟨⟨user.id, tick.now⟩, ?_, Or.inl htext, .of_mem huser hactive⟩
              simp only [find_oauthSubject huser hsubject, Option.map_some]
  -- no other call gives out tokens
  | _ => cases h

end AfricaFrontier
