import AfricaFrontier.Auth.Models

/-!
# One-time codes

What the four OTP routes share: which challenge a query finds, what one attempt at a
code makes of it, and what is committed.

An attempt counts itself on the loaded challenge before the digests are compared, and
what it has changed reaches the database with the commit, column by column.  The newest of
the open challenges is the one that is tried; two that were created in one microsecond are
tried in the order of their rows.

The text `AuthConfig.attempt` is the common middle of the two verifications. It is told which
challenge was found, and answers in three ways: refused before the comparison, spent after it, or
accepted. Where a consent is missing the comparison is made all the same, and counted.

A commit writes back the columns the session has changed and no others
(`UserOtpChallenge.writeBack`). That is what lets two verifications of one challenge write the
same count, and one reopen nothing that the other consumed.
-/

namespace AfricaFrontier

open Python Relational

/-- What a route answers when it does not succeed. -/
inductive AuthError
  | http (status : ℕ) (detail : String)
  | authentication (detail : String)
  | conflict (detail : String)
  /-- The database failed, or refused a row. -/
  | database
  deriving DecidableEq

/-! ## Looking for challenges -/

/-- The challenge was sent for this purpose to this address, and number if one is asked
for. -/
def UserOtpChallenge.addressed (purpose : OtpPurpose) (email : String) (phone : Option String)
    (c : UserOtpChallenge) : Bool :=
  decide (c.email = email) && decide (c.purpose = purpose) &&
    phone.all fun number => decide (c.phone = some number)

/-- `a` is sorted no later than `b` by `ORDER BY created_at DESC`. -/
def UserOtpChallenge.newerFirst (a b : UserOtpChallenge) : Bool :=
  decide (b.createdAt ≤ a.createdAt)

/-- The newest challenge that was not consumed. -/
def AuthDb.openChallenge (db : AuthDb) (purpose : OtpPurpose) (email : String)
    (phone : Option String) : Option UserOtpChallenge :=
  firstBy UserOtpChallenge.newerFirst
    (db.challenges.rows.filter fun c => c.addressed purpose email phone && c.consumedAt.isNone)

/-- A challenge was created less than a minute ago. -/
def AuthDb.recentChallenge (db : AuthDb) (purpose : OtpPurpose) (email : String)
    (phone : Option String) (now : Instant) : Bool :=
  db.challenges.rows.any fun c =>
    c.addressed purpose email phone && decide (now - seconds 60 ≤ c.createdAt)

/-- The user with the address. -/
def AuthDb.userByEmail (db : AuthDb) (email : String) : Option User :=
  db.users.rows.find? fun u => decide (u.email = email)

/-- What the query finds is stored, addressed so, and open. -/
theorem AuthDb.openChallenge_mem {db : AuthDb} {purpose : OtpPurpose} {email : String}
    {phone : Option String} {c : UserOtpChallenge}
    (h : db.openChallenge purpose email phone = some c) :
    c ∈ db.challenges ∧ c.addressed purpose email phone = true ∧ c.consumedAt = none := by
  have hmem := mem_of_firstBy h
  obtain ⟨hrow, hmeets⟩ := List.mem_filter.mp hmem
  obtain ⟨haddressed, hopen⟩ := Bool.and_eq_true_iff.mp hmeets
  exact ⟨hrow, haddressed, Option.isNone_iff_eq_none.mp hopen⟩

/-- The three columns of the query. -/
theorem UserOtpChallenge.addressed_iff {purpose : OtpPurpose} {email : String}
    {phone : Option String} {c : UserOtpChallenge} :
    c.addressed purpose email phone = true ↔
      c.email = email ∧ c.purpose = purpose ∧ ∀ number, phone = some number → c.phone = phone := by
  cases phone with
  | none => simp [UserOtpChallenge.addressed]
  | some number => simp [UserOtpChallenge.addressed, and_assoc]

/-- What the query finds is stored under the address. -/
theorem AuthDb.userByEmail_some {db : AuthDb} {email : String} {u : User}
    (h : db.userByEmail email = some u) : u ∈ db.users ∧ u.email = email := by
  have hemail := List.find?_some h
  exact ⟨List.mem_of_find?_eq_some h, of_decide_eq_true hemail⟩

/-- Where the query finds nothing, nobody is stored under the address. -/
theorem AuthDb.userByEmail_none {db : AuthDb} {email : String}
    (h : db.userByEmail email = none) : ∀ u ∈ db.users, u.email ≠ email := by
  intro u hu hsame
  have hno := List.find?_eq_none.mp h u hu
  simp [hsame] at hno

/-! ## One attempt -/

/-- What an attempt comes to. -/
inductive Attempt
  /-- No digest was compared, and nothing is to be committed. -/
  | refused (error : AuthError)
  /-- The attempt is to be counted. -/
  | spent (challenge : Dirty UserOtpChallenge) (error : AuthError)
  /-- The attempt is to be counted, and the challenge consumed. -/
  | accepted (challenge : Dirty UserOtpChallenge)

/-- The loaded challenge with one attempt more. -/
def UserOtpChallenge.spend (c : UserOtpChallenge) : Dirty UserOtpChallenge :=
  ⟨c, { c with attempts := c.attempts + 1 }⟩

/-- The loaded challenge, consumed. -/
def UserOtpChallenge.consume (c : UserOtpChallenge) (now : Instant) : Dirty UserOtpChallenge :=
  ⟨c, { c with attempts := c.attempts + 1, consumedAt := some now }⟩

/-- An attempt at a challenge, which fails after the comparison where a consent is
missing. -/
def AuthConfig.attempt (config : AuthConfig) (purpose : OtpPurpose) (target code : String)
    (consents : Except AuthError Unit) (now : Instant) : Option UserOtpChallenge → Attempt
  | none => .refused (.http 400 "Code expired or invalid")
  | some c =>
      if c.expiresAt ≤ now then .refused (.http 400 "Code expired or invalid")
      else if config.otpMaxAttempts ≤ c.attempts then
        .refused (.http 429 "Too many verification attempts")
      else if c.codeDigest ≠ config.otpDigest purpose target code then
        .spent c.spend (.http 400 "Code expired or invalid")
      else
        match consents with
        | .error error => .spent c.spend error
        | .ok () => .accepted (c.consume now)

/-- An attempt is refused, or it is one at a challenge that is neither expired nor used up, and
is spent or accepted. -/
theorem AuthConfig.attempt_cases (config : AuthConfig) (purpose : OtpPurpose)
    (target code : String) (consents : Except AuthError Unit) (now : Instant)
    (found : Option UserOtpChallenge) :
    (∃ error, config.attempt purpose target code consents now found = .refused error) ∨
    ∃ c, found = some c ∧ now < c.expiresAt ∧ c.attempts < config.otpMaxAttempts ∧
      (config.attempt purpose target code consents now found =
          .spent c.spend (.http 400 "Code expired or invalid") ∨
        (∃ error, consents = .error error ∧
          config.attempt purpose target code consents now found = .spent c.spend error) ∨
        c.codeDigest = config.otpDigest purpose target code ∧
          config.attempt purpose target code consents now found = .accepted (c.consume now)) := by
  cases found with
  | none => exact Or.inl ⟨_, rfl⟩
  | some c =>
      simp only [AuthConfig.attempt]
      split
      · exact Or.inl ⟨_, rfl⟩
      · split
        · exact Or.inl ⟨_, rfl⟩
        · rename_i hexpires hattempts
          refine Or.inr ⟨c, rfl, lt_of_not_ge hexpires, lt_of_not_ge hattempts, ?_⟩
          split
          · exact Or.inl rfl
          · rename_i hdigest
            cases consents with
            | error error => exact Or.inr (Or.inl ⟨error, rfl, rfl⟩)
            | ok => exact Or.inr (Or.inr ⟨of_not_not hdigest, rfl⟩)

section Attempt

variable {config : AuthConfig} {purpose : OtpPurpose} {target code : String}
  {consents : Except AuthError Unit} {now : Instant} {found : Option UserOtpChallenge}
  {d : Dirty UserOtpChallenge}

/-- A digest was compared only of a challenge that is neither expired nor used up. -/
theorem AuthConfig.attempt_spent {error : AuthError}
    (h : config.attempt purpose target code consents now found = .spent d error) :
    ∃ c, found = some c ∧ now < c.expiresAt ∧ c.attempts < config.otpMaxAttempts ∧
      d = c.spend := by
  rcases config.attempt_cases purpose target code consents now found with ⟨e, hrefused⟩ |
    ⟨c, hfound, hexpires, hattempts, hwrong | ⟨e, -, hmissing⟩ | ⟨-, hright⟩⟩
  · rw [h] at hrefused
    cases hrefused
  · rw [h] at hwrong
    cases hwrong
    exact ⟨c, hfound, hexpires, hattempts, rfl⟩
  · rw [h] at hmissing
    cases hmissing
    exact ⟨c, hfound, hexpires, hattempts, rfl⟩
  · rw [h] at hright
    cases hright

/-- An accepted attempt was at the right code, in time, below the limit. -/
theorem AuthConfig.attempt_accepted
    (h : config.attempt purpose target code consents now found = .accepted d) :
    ∃ c, found = some c ∧ now < c.expiresAt ∧ c.attempts < config.otpMaxAttempts ∧
      c.codeDigest = config.otpDigest purpose target code ∧ d = c.consume now := by
  rcases config.attempt_cases purpose target code consents now found with ⟨e, hrefused⟩ |
    ⟨c, hfound, hexpires, hattempts, hwrong | ⟨e, -, hmissing⟩ | ⟨hdigest, hright⟩⟩
  · rw [h] at hrefused
    cases hrefused
  · rw [h] at hwrong
    cases hwrong
  · rw [h] at hmissing
    cases hmissing
  · rw [h] at hright
    cases hright
    exact ⟨c, hfound, hexpires, hattempts, hdigest, rfl⟩

end Attempt

/-- The challenge whose digest was compared. -/
def Attempt.challenge : Attempt → Option (Dirty UserOtpChallenge)
  | .refused _ => none
  | .spent d _ => some d
  | .accepted d => some d

/-- A comparison is of the challenge that was found, alive, and counts one attempt more. -/
theorem AuthConfig.attempt_challenge {config : AuthConfig} {purpose : OtpPurpose}
    {target code : String} {consents : Except AuthError Unit} {now : Instant}
    {found : Option UserOtpChallenge} {d : Dirty UserOtpChallenge}
    (h : (config.attempt purpose target code consents now found).challenge = some d) :
    found = some d.loaded ∧ d.loaded.attempts < config.otpMaxAttempts ∧
      d.current.attempts = d.loaded.attempts + 1 := by
  cases hattempt : config.attempt purpose target code consents now found with
  | refused error =>
      rw [hattempt] at h
      cases h
  | spent d' error =>
      rw [hattempt] at h
      obtain rfl := Option.some.inj h
      obtain ⟨c, hfound, -, hattempts, rfl⟩ := AuthConfig.attempt_spent hattempt
      exact ⟨hfound, hattempts, rfl⟩
  | accepted d' =>
      rw [hattempt] at h
      obtain rfl := Option.some.inj h
      obtain ⟨c, hfound, -, hattempts, -, rfl⟩ := AuthConfig.attempt_accepted hattempt
      exact ⟨hfound, hattempts, rfl⟩

/-! ## What is committed

The user and the challenge of a verification are written in one commit; a clash of a unique column
takes both back. -/

/-- Write the columns of a challenge the session has changed. -/
def UserOtpChallenge.writeBack (d : Dirty UserOtpChallenge) (stored : UserOtpChallenge) :
    UserOtpChallenge :=
  { stored with
    attempts := written d.loaded.attempts d.current.attempts stored.attempts
    consumedAt := written d.loaded.consumedAt d.current.consumedAt stored.consumedAt }

/-- The challenges with one written back. -/
def AuthDb.putChallenge (db : AuthDb) (d : Dirty UserOtpChallenge) : Table UserOtpChallenge :=
  db.challenges.modify d.loaded.id (UserOtpChallenge.writeBack d) fun _ => rfl

/-- The challenges after one was written back. -/
theorem AuthDb.mem_putChallenge {db : AuthDb} {d : Dirty UserOtpChallenge}
    {c' : UserOtpChallenge} :
    c' ∈ db.putChallenge d ↔ ∃ c ∈ db.challenges,
      c' = if c.id = d.loaded.id then UserOtpChallenge.writeBack d c else c :=
  @Table.mem_modify _ _ db.challenges d.loaded.id (UserOtpChallenge.writeBack d) (fun _ => rfl) c'

/-- The row that was written back. -/
theorem AuthDb.get_putChallenge_self {db : AuthDb} {d : Dirty UserOtpChallenge}
    {c : UserOtpChallenge} (h : db.challenges.get d.loaded.id = some c) :
    (db.putChallenge d).get d.loaded.id = some (UserOtpChallenge.writeBack d c) :=
  Table.get_modify_self h

/-- Any other row. -/
theorem AuthDb.get_putChallenge_of_ne {db : AuthDb} {d : Dirty UserOtpChallenge} {i : ℕ}
    (hne : i ≠ d.loaded.id) : (db.putChallenge d).get i = db.challenges.get i :=
  Table.get_modify_of_ne hne

/-- Write the columns of a user the session has changed, the keys apart. -/
def User.writeBack (d : Dirty User) (stored : User) : User :=
  { stored with
    hashedPassword := written d.loaded.hashedPassword d.current.hashedPassword
      stored.hashedPassword
    fullName := written d.loaded.fullName d.current.fullName stored.fullName
    phone := written d.loaded.phone d.current.phone stored.phone
    whatsappPhone := written d.loaded.whatsappPhone d.current.whatsappPhone stored.whatsappPhone
    mobileMoneyPhone := written d.loaded.mobileMoneyPhone d.current.mobileMoneyPhone
      stored.mobileMoneyPhone
    country := written d.loaded.country d.current.country stored.country
    isActive := written d.loaded.isActive d.current.isActive stored.isActive
    kycStatus := written d.loaded.kycStatus d.current.kycStatus stored.kycStatus
    dateOfBirth := written d.loaded.dateOfBirth d.current.dateOfBirth stored.dateOfBirth
    emailVerifiedAt := written d.loaded.emailVerifiedAt d.current.emailVerifiedAt
      stored.emailVerifiedAt
    phoneVerifiedAt := written d.loaded.phoneVerifiedAt d.current.phoneVerifiedAt
      stored.phoneVerifiedAt
    identityConsentAt := written d.loaded.identityConsentAt d.current.identityConsentAt
      stored.identityConsentAt
    termsAcceptedAt := written d.loaded.termsAcceptedAt d.current.termsAcceptedAt
      stored.termsAcceptedAt
    termsVersion := written d.loaded.termsVersion d.current.termsVersion stored.termsVersion
    amlPolicyVersion := written d.loaded.amlPolicyVersion d.current.amlPolicyVersion
      stored.amlPolicyVersion }

/-- What a session has done to the users. -/
inductive UserWrite
  | keep
  /-- A new user; the primary key is drawn when it is stored. -/
  | add (user : User)
  | update (user : Dirty User)

/-- What a verification commits. -/
structure OtpWork where
  challenge : Dirty UserOtpChallenge
  user : UserWrite

/-- The users after a commit; `none` where a unique column clashes. -/
def UserWrite.flush (write : UserWrite) (users : Table User) : Option (Table User) :=
  match write with
  | .keep => some users
  | .add user => users.insert (fun n => { user with id := n }) fun _ => rfl
  | .update d => some (users.modify d.loaded.id (User.writeBack d) fun _ => rfl)

/-- The database after a commit. -/
def OtpWork.flush (work : OtpWork) (db : AuthDb) : Option AuthDb :=
  (work.user.flush db.users).map fun users =>
    { users, challenges := db.putChallenge work.challenge }

/-- A commit that goes through has written both. -/
theorem OtpWork.flush_some {work : OtpWork} {db db' : AuthDb} (h : work.flush db = some db') :
    work.user.flush db.users = some db'.users ∧
      db'.challenges = db.putChallenge work.challenge := by
  obtain ⟨users, husers, rfl⟩ := Option.map_eq_some_iff.mp h
  exact ⟨husers, rfl⟩

/-- Nobody wrote in between: the stored challenge becomes the session's. -/
theorem UserOtpChallenge.writeBack_spend (c : UserOtpChallenge) :
    UserOtpChallenge.writeBack c.spend c = { c with attempts := c.attempts + 1 } := by
  simp [UserOtpChallenge.writeBack, UserOtpChallenge.spend]

/-- Nobody wrote in between: the stored challenge is spent and consumed. -/
theorem UserOtpChallenge.writeBack_consume (c : UserOtpChallenge) (now : Instant) :
    UserOtpChallenge.writeBack (c.consume now) c =
      { c with attempts := c.attempts + 1, consumedAt := some now } := by
  simp [UserOtpChallenge.writeBack, UserOtpChallenge.consume]

/-- What a commit leaves in the user table: what was there, but for the row it writes, and
that row. -/
theorem UserWrite.mem_flush {write : UserWrite} {users users' : Table User} {u' : User}
    (h : write.flush users = some users') (hu' : u' ∈ users') :
    (u' ∈ users ∧ ∀ d, write = .update d → u'.id ≠ d.loaded.id) ∨
      (∃ user, write = .add user ∧ u' = { user with id := users.next }) ∨
      ∃ d u, write = .update d ∧ u ∈ users ∧ u.id = d.loaded.id ∧ u' = User.writeBack d u := by
  cases write with
  | keep =>
      obtain rfl := Option.some.inj h
      exact Or.inl ⟨hu', fun d hd => by cases hd⟩
  | add user =>
      have hinsert : users.insert (fun n => { user with id := n }) (fun _ => rfl) = some users' := h
      rcases (Table.mem_insert hinsert).mp hu' with hold | hnew
      · exact Or.inl ⟨hold, fun d hd => by cases hd⟩
      · exact Or.inr (Or.inl ⟨user, rfl, hnew⟩)
  | update d =>
      obtain rfl := Option.some.inj h
      obtain ⟨u, hu, rfl⟩ := Table.mem_modify.mp hu'
      by_cases hid : ident u = d.loaded.id
      · refine Or.inr (Or.inr ⟨d, u, rfl, hu, hid, ?_⟩)
        rw [if_pos hid]
      · left
        rw [if_neg hid]
        refine ⟨hu, ?_⟩
        rintro d' ⟨⟩
        exact hid

end AfricaFrontier
