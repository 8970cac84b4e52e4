import AfricaFrontier.Auth.Otp

/-!
# The identity routes

`register`, the four OTP routes, `submit_kyc`, `get_kyc` and `exchange_mobile_oauth`, each
as one function of the database: what it leaves there, and what it answers.  A route that
raises closes its session, and what it had not committed is lost.

Within one call the clock shows one time.  `OtpRaces` has the OTP routes again statement by
statement, from the same parts.

Every route follows the order of the source: the checks of the body, the queries, the rows it
changes, the commit, the answer. The order is what later modules depend on. An attempt at a code
is committed before it is answered, also where it failed; the mobile sign-in commits a link to an
identity before it asks whether the account is disabled; and a signup asks that question first.

What differs from route to route only in its purpose is written once: `AuthConfig.newChallenge`
and `AuthConfig.issueCode` for the two requests for a code, `OtpWork.commit` for the two
verifications.
-/

namespace AfricaFrontier

open Python Relational

/-! ## Requests and answers

The bodies as they are after validation, and the environment's part in a call: what the clock
shows, what is drawn, and what fails. -/

/-- The body of `register`. -/
structure RegisterRequest where
  email : String
  password : String
  fullName : Option String := none
  phone : Option String := none
  country : Option String := none

/-- The body of `request_signup_otp`. -/
structure OtpRequest where
  email : String
  identityConsent : Bool
  termsAccepted : Bool

/-- The body of `verify_signup_otp`. -/
structure OtpVerifyRequest where
  email : String
  code : String
  fullName : String
  whatsappPhone : Option String := none
  mobileMoneyPhone : Option String := none
  country : String
  dateOfBirth : String
  identityConsent : Bool
  termsAccepted : Bool

/-- The body of `request_phone_otp`. -/
structure PhoneOtpRequest where
  whatsappPhone : String

/-- The body of `verify_phone_otp`. -/
structure PhoneOtpVerifyRequest where
  whatsappPhone : String
  code : String

/-- The body of `submit_kyc`. -/
structure IdentityProfileRequest where
  fullName : String
  whatsappPhone : String
  mobileMoneyPhone : Option String := none
  country : String
  dateOfBirth : String
  identityConsent : Bool

/-- The body of `exchange_mobile_oauth`. -/
structure MobileOAuthExchangeRequest where
  oauthSubject : String
  email : String
  fullName : Option String := none
  dateOfBirth : Option String := none
  identityConsent : Bool := false
  termsAccepted : Bool := false

/-- The pair of tokens a sign-in is answered with. -/
structure TokenResponse where
  accessToken : String
  refreshToken : String
  userId : ℕ
  deriving DecidableEq

/-- The answer to a request for a code; `devCode` is set in development only. -/
structure OtpSentResponse where
  expiresInSeconds : ℕ
  devCode : Option String
  deriving DecidableEq

/-- The answer of `get_kyc`. -/
structure KycResponse where
  status : KycStatus
  emailVerified : Bool
  phoneVerified : Bool
  deriving DecidableEq

/-- The environment's part in one call: the clock, and whether the database fails. -/
structure AuthTick where
  now : Instant
  fault : Bool := false

/-- The environment's part in sending a code: the code that is drawn, whether it can be
sent, and whether the database fails once more. -/
structure OtpIssue where
  code : String
  sent : Bool := true
  fault : Bool := false

/-! ## Parts -/

/-- `_issue_tokens`. -/
def AuthConfig.issueTokens (config : AuthConfig) (userId : ℕ) (now : Instant) : TokenResponse where
  accessToken := config.createAccessToken userId now
  refreshToken := config.createRefreshToken userId now
  userId := userId

/-- `whatsapp_phone or phone or ""`. -/
def User.profilePhone (u : User) : String :=
  ((truthy u.whatsappPhone).or (truthy u.phone)).getD ""

/-- `_normalize_phone(value) if value else None`. -/
def AuthConfig.normalizeOptional (config : AuthConfig) (value : Option String) : Option String :=
  (truthy value).map config.normalizePhone

/-- The status two verification times come to. -/
def identityStatus (emailVerifiedAt phoneVerifiedAt : Option Instant) : KycStatus :=
  if emailVerifiedAt.isSome && phoneVerifiedAt.isSome then .verified else .pending

/-- The checks on the two consents. -/
def checkConsents (identityConsent termsAccepted : Bool) : Except AuthError Unit :=
  if identityConsent = false then .error (.http 400 "Identity sharing consent is required")
  else if termsAccepted = false then
    .error (.http 400 "Acceptance of the terms and AML policy is required")
  else .ok ()

/-- The challenge a request creates. -/
def AuthConfig.newChallenge (config : AuthConfig) (purpose : OtpPurpose) (email : String)
    (phone : Option String) (target code : String) (now : Instant) (id : ℕ) :
    UserOtpChallenge where
  id := id
  email := email
  phone := phone
  purpose := purpose
  codeDigest := config.otpDigest purpose target code
  expiresAt := now + minutes config.otpExpireMinutes
  createdAt := now

/-- Store a new challenge. -/
def AuthDb.issue (db : AuthDb) (challenge : UserOtpChallenge) : AuthDb :=
  { db with
    challenges := db.challenges.add (fun n => { challenge with id := n }) (fun _ => rfl)
      fun _ _ => id }

/-- The challenges after a new one was stored. -/
theorem AuthDb.mem_issue {db : AuthDb} {challenge c : UserOtpChallenge} :
    c ∈ (db.issue challenge).challenges ↔
      c ∈ db.challenges ∨ c = { challenge with id := db.challenges.next } :=
  Table.mem_insert (Table.add_eq db.challenges _ _ fun _ _ => id)

/-- Mark a challenge as consumed. -/
def AuthDb.withdraw (db : AuthDb) (id : ℕ) (now : Instant) : AuthDb :=
  { db with
    challenges := db.challenges.modify id (fun c => { c with consumedAt := some now })
      fun _ => rfl }

/-- The challenges after one was withdrawn. -/
theorem AuthDb.mem_withdraw {db : AuthDb} {id : ℕ} {now : Instant} {c : UserOtpChallenge} :
    c ∈ (db.withdraw id now).challenges ↔
      ∃ c₀ ∈ db.challenges, c = if c₀.id = id then { c₀ with consumedAt := some now } else c₀ :=
  @Table.mem_modify _ _ db.challenges id (fun c => { c with consumedAt := some now })
    (fun _ => rfl) c

/-- `db.commit()` of a verification, and the answer after it. User and challenge are written
together or not at all; a unique column that clashes ends the call like a database that fails. -/
def OtpWork.commit {α : Type} (work : OtpWork) (tick : AuthTick) (db : AuthDb)
    (answer : Except AuthError α) : AuthDb × Except AuthError α :=
  if tick.fault then (db, .error .database)
  else
    match work.flush db with
    | none => (db, .error .database)
    | some db' => (db', answer)

/-- The answer to a request for a code. -/
def AuthConfig.otpSent (config : AuthConfig) (code : String) : OtpSentResponse where
  expiresInSeconds := config.otpExpireMinutes * 60
  devCode := if config.otpExposeDevCode && !config.isProduction then some code else none

/-- Create a challenge, send its code, and withdraw it where that fails. -/
def AuthConfig.issueCode (config : AuthConfig) (tick : AuthTick) (issue : OtpIssue)
    (challenge : UserOtpChallenge) (unavailable : String) (db : AuthDb) :
    AuthDb × Except AuthError OtpSentResponse :=
  if db.recentChallenge challenge.purpose challenge.email challenge.phone tick.now then
    (db, .error (.http 429 "Please wait before requesting another code"))
  else if tick.fault then (db, .error .database)
  else if issue.sent then (db.issue challenge, .ok (config.otpSent issue.code))
  else if issue.fault then (db.issue challenge, .error .database)
  else ((db.issue challenge).withdraw db.challenges.next tick.now, .error (.http 503 unavailable))

/-! ## Signing up -/

/-- The user `register` creates; the primary key is drawn when it is stored. -/
def RegisterRequest.newUser (payload : RegisterRequest) (config : AuthConfig) : User where
  id := 0
  email := payload.email
  hashedPassword := some (config.hashPassword payload.password)
  fullName := payload.fullName
  phone := payload.phone
  country := (truthy payload.country).map config.upper

/-- `register`. -/
def register (config : AuthConfig) (tick : AuthTick) (payload : RegisterRequest) (db : AuthDb) :
    AuthDb × Except AuthError TokenResponse :=
  if config.isProduction then
    (db, .error (.http 410 "Password registration is unavailable; use email OTP onboarding"))
  else
    match db.userByEmail payload.email with
    | some _ => (db, .error (.conflict "An account with this email already exists"))
    | none =>
        if tick.fault then (db, .error .database)
        else
          match (UserWrite.add (payload.newUser config)).flush db.users with
          | none => (db, .error .database)
          | some users => ({ db with users }, .ok (config.issueTokens db.users.next tick.now))

/-- `request_signup_otp`. -/
def requestSignupOtp (config : AuthConfig) (tick : AuthTick) (issue : OtpIssue)
    (payload : OtpRequest) (db : AuthDb) : AuthDb × Except AuthError OtpSentResponse :=
  match checkConsents payload.identityConsent payload.termsAccepted with
  | .error error => (db, .error error)
  | .ok () =>
      let email := config.normalizeEmail payload.email
      let challenge :=
        config.newChallenge .signup email none email issue.code tick.now db.challenges.next
      config.issueCode tick issue challenge "Email verification is temporarily unavailable" db

/-- The profile `verify_signup_otp` writes. -/
def OtpVerifyRequest.profile (payload : OtpVerifyRequest) (config : AuthConfig) (now : Instant)
    (user : User) : User :=
  { user with
    fullName := some (strip payload.fullName)
    phone := config.normalizeOptional payload.whatsappPhone
    whatsappPhone := config.normalizeOptional payload.whatsappPhone
    mobileMoneyPhone := config.normalizeOptional payload.mobileMoneyPhone
    country := some (config.upper payload.country)
    dateOfBirth := some payload.dateOfBirth
    emailVerifiedAt := some now
    identityConsentAt := some now
    termsAcceptedAt := some now
    termsVersion := some config.termsVersion
    amlPolicyVersion := some config.amlPolicyVersion
    kycStatus := .pending }

/-- What becomes of the user whose address was confirmed. -/
def OtpVerifyRequest.confirm (payload : OtpVerifyRequest) (config : AuthConfig) (now : Instant)
    (email : String) : Option User → Except AuthError UserWrite
  | none => .ok (.add (payload.profile config now { id := 0, email := email }))
  | some user =>
      if user.isActive ≠ "1" then .error (.authentication "Account is disabled")
      else .ok (.update ⟨user, payload.profile config now user⟩)

/-- The user a commit is about. -/
def UserWrite.userId (users : Table User) : UserWrite → ℕ
  | .keep => users.next
  | .add _ => users.next
  | .update d => d.loaded.id

/-- `verify_signup_otp`. -/
def verifySignupOtp (config : AuthConfig) (tick : AuthTick) (payload : OtpVerifyRequest)
    (db : AuthDb) : AuthDb × Except AuthError TokenResponse :=
  let email := config.normalizeEmail payload.email
  match config.attempt .signup email payload.code
      (checkConsents payload.identityConsent payload.termsAccepted) tick.now
      (db.openChallenge .signup email none) with
  | .refused error => (db, .error error)
  | .spent challenge error => OtpWork.commit ⟨challenge, .keep⟩ tick db (.error error)
  | .accepted challenge =>
      match payload.confirm config tick.now email (db.userByEmail email) with
      | .error error => (db, .error error)
      | .ok write =>
          OtpWork.commit ⟨challenge, write⟩ tick db
            (.ok (config.issueTokens (write.userId db.users) tick.now))

/-! ## The phone number

Both routes are about the number a user has on record: the WhatsApp number, or the legacy column
where there is none. -/

/-- `request_phone_otp`. -/
def requestPhoneOtp (config : AuthConfig) (tick : AuthTick) (issue : OtpIssue) (userId : ℕ)
    (payload : PhoneOtpRequest) (db : AuthDb) : AuthDb × Except AuthError OtpSentResponse :=
  let phone := config.normalizePhone payload.whatsappPhone
  match db.users.get userId with
  | none => (db, .error (.authentication "Email verification is required"))
  | some user =>
      if user.emailVerifiedAt = none then
        (db, .error (.authentication "Email verification is required"))
      else if config.normalizePhone user.profilePhone ≠ phone then
        (db, .error (.http 422 "WhatsApp number does not match the signup profile"))
      else
        let challenge := config.newChallenge .phoneVerify user.email (some phone) phone issue.code
          tick.now db.challenges.next
        config.issueCode tick issue challenge "Phone verification is temporarily unavailable" db

/-- What `verify_phone_otp` makes of the user. -/
def User.phoneVerified (user : User) (now : Instant) : User :=
  { user with
    phoneVerifiedAt := some now
    kycStatus := if user.emailVerifiedAt.isSome then .verified else .pending }

/-- `verify_phone_otp`. -/
def verifyPhoneOtp (config : AuthConfig) (tick : AuthTick) (userId : ℕ)
    (payload : PhoneOtpVerifyRequest) (db : AuthDb) : AuthDb × Except AuthError KycStatus :=
  let phone := config.normalizePhone payload.whatsappPhone
  match db.users.get userId with
  | none => (db, .error (.http 422 "WhatsApp number does not match the signup profile"))
  | some user =>
      if config.normalizePhone user.profilePhone ≠ phone then
        (db, .error (.http 422 "WhatsApp number does not match the signup profile"))
      else
        match config.attempt .phoneVerify phone payload.code (.ok ()) tick.now
            (db.openChallenge .phoneVerify user.email (some phone)) with
        | .refused error => (db, .error error)
        | .spent challenge error => OtpWork.commit ⟨challenge, .keep⟩ tick db (.error error)
        | .accepted challenge =>
            OtpWork.commit ⟨challenge, .update ⟨user, user.phoneVerified tick.now⟩⟩ tick db
              (.ok (user.phoneVerified tick.now).kycStatus)

/-! ## The identity profile -/

/-- `get_kyc`. -/
def getKyc (userId : ℕ) (db : AuthDb) : Except AuthError KycResponse :=
  match db.users.get userId with
  | none => .error (.authentication "User not found")
  | some user =>
      .ok
        { status := identityStatus user.emailVerifiedAt user.phoneVerifiedAt
          emailVerified := user.emailVerifiedAt.isSome
          phoneVerified := user.phoneVerifiedAt.isSome }

/-- The profile `submit_kyc` writes. -/
def IdentityProfileRequest.profile (payload : IdentityProfileRequest) (config : AuthConfig)
    (now : Instant) (user : User) : User :=
  { user with
    fullName := some payload.fullName
    whatsappPhone :=
      (config.normalizeOptional (some payload.whatsappPhone)).or user.whatsappPhone
    phone := (config.normalizeOptional (some payload.whatsappPhone)).or user.phone
    mobileMoneyPhone := (config.normalizeOptional payload.mobileMoneyPhone).or user.mobileMoneyPhone
    country := some (config.upper payload.country)
    dateOfBirth := some payload.dateOfBirth
    identityConsentAt := some now
    kycStatus := identityStatus user.emailVerifiedAt user.phoneVerifiedAt }

/-- `submit_kyc`. -/
def submitKyc (config : AuthConfig) (tick : AuthTick) (userId : ℕ)
    (payload : IdentityProfileRequest) (db : AuthDb) : AuthDb × Except AuthError KycStatus :=
  if payload.identityConsent = false then
    (db, .error (.http 400 "Identity sharing consent is required"))
  else
    match db.users.get userId with
    | none => (db, .error (.authentication "User not found"))
    | some user =>
        if tick.fault then (db, .error .database)
        else
          match (UserWrite.update ⟨user, payload.profile config tick.now user⟩).flush db.users with
          | none => (db, .error .database)
          | some users => ({ db with users }, .ok (payload.profile config tick.now user).kycStatus)

/-! ## The mobile sign-in

The exchange looks for the identity first, then for the address, and creates an account where
neither is known. -/

/-- `is_valid_mobile_exchange_secret`. -/
def isValidMobileExchangeSecret (presented configured : Option String) : Bool :=
  match truthy presented, truthy configured with
  | some presented, some configured => decide (presented = configured)
  | _, _ => false

/-- The user of the address, as the exchange links it to the identity. What the request leaves out
keeps its value, and a consent that is not given takes none back. -/
def MobileOAuthExchangeRequest.link (payload : MobileOAuthExchangeRequest) (config : AuthConfig)
    (now : Instant) (user : User) : User :=
  { user with
    oauthSubject := some payload.oauthSubject
    fullName := (truthy payload.fullName).or user.fullName
    dateOfBirth := (truthy payload.dateOfBirth).or user.dateOfBirth
    emailVerifiedAt := user.emailVerifiedAt.or (some now)
    identityConsentAt := if payload.identityConsent then some now else user.identityConsentAt
    termsAcceptedAt := if payload.termsAccepted then some now else user.termsAcceptedAt
    termsVersion := if payload.termsAccepted then some config.termsVersion else user.termsVersion
    amlPolicyVersion :=
      if payload.termsAccepted then some config.amlPolicyVersion else user.amlPolicyVersion }

/-- The user the exchange creates. -/
def MobileOAuthExchangeRequest.newUser (payload : MobileOAuthExchangeRequest)
    (config : AuthConfig) (now : Instant) : User where
  id := 0
  email := payload.email
  oauthSubject := some payload.oauthSubject
  fullName := payload.fullName
  dateOfBirth := payload.dateOfBirth
  emailVerifiedAt := some now
  identityConsentAt := if payload.identityConsent then some now else none
  termsAcceptedAt := if payload.termsAccepted then some now else none
  termsVersion := if payload.termsAccepted then some config.termsVersion else none
  amlPolicyVersion := if payload.termsAccepted then some config.amlPolicyVersion else none

/-- What the exchange answers to a user whose address is confirmed. -/
def AuthConfig.exchanged (config : AuthConfig) (tick : AuthTick) (user : User) :
    Except AuthError String :=
  if user.isActive ≠ "1" then .error (.authentication "Account is disabled")
  else .ok (config.createAccessToken user.id tick.now)

/-- Confirm the address of a user who has none confirmed. -/
def User.emailVerified (user : User) (now : Instant) : User :=
  { user with emailVerifiedAt := some now }

/-- `exchange_mobile_oauth`. -/
def exchangeMobileOauth (config : AuthConfig) (tick : AuthTick) (exchangeSecret : Option String)
    (payload : MobileOAuthExchangeRequest) (db : AuthDb) : AuthDb × Except AuthError String :=
  if truthy config.mobileOauthExchangeSecret = none then
    (db, .error (.http 503 "Mobile OAuth exchange is not configured"))
  else if isValidMobileExchangeSecret exchangeSecret config.mobileOauthExchangeSecret = false then
    (db, .error (.authentication "Invalid mobile OAuth exchange credentials"))
  else
    match db.users.rows.find? fun u => decide (u.oauthSubject = some payload.oauthSubject) with
    | some user =>
        -- a known identity is checked, and its address confirmed; nothing else is written
        if user.isActive ≠ "1" then (db, .error (.authentication "Account is disabled"))
        else if user.emailVerifiedAt.isSome then (db, config.exchanged tick user)
        else if tick.fault then (db, .error .database)
        else
          match (UserWrite.update ⟨user, user.emailVerified tick.now⟩).flush db.users with
          | none => (db, .error .database)
          | some users => ({ db with users }, config.exchanged tick user)
    | none =>
        -- an unknown one is linked to the user with the address before `is_active` is looked at
        match db.userByEmail payload.email with
        | some user =>
            if user.oauthSubject ≠ none ∧ user.oauthSubject ≠ some payload.oauthSubject then
              (db, .error (.conflict "Email is already linked to another OAuth identity"))
            else if tick.fault then (db, .error .database)
            else
              match db.users.replace user.id (payload.link config tick.now) fun _ => rfl with
              | none => (db, .error .database)
              | some users => ({ db with users }, config.exchanged tick user)
        | none =>
            if tick.fault then (db, .error .database)
            else
              match (UserWrite.add (payload.newUser config tick.now)).flush db.users with
              | none => (db, .error .database)
              | some users =>
                  ({ db with users },
                    config.exchanged tick
                      { payload.newUser config tick.now with id := db.users.next })

end AfricaFrontier
