import AfricaFrontier.Auth.SignIns
import AfricaFrontier.Auth.TokenKinds
import Mathlib.Logic.Equiv.List

/-!
# Where a bearer token comes from

All routes that mint tokens, one call after another: those that sign a user in, the refresh
route, and the token of the development mode.  In between the operator sets the flag `is_active`
of users, which no route does.

Nobody outside can sign: what is presented is a token that was minted, or no signed token at
all.  Then an accepted access token goes back to a sign-in of its user, at most a refresh
lifetime and an access lifetime ago (`accepted_of_signIn`), and a user whose flag is taken
away is shut out after one access lifetime (`accepted_before_lockout`).

Both results rest on one account of a single call, `BearerWorld.mem_minted_after`: a token that is
there after the call and was not there before was minted in it, for a user who is active, and who
signed in or showed a refresh token. Two inductions use it.

* `Provenance` goes backwards: every token that exists goes back to a sign-in, a refreshed one
  through the refresh token that was shown for it, which is in force for the life of a refresh
  token at most.
* `ShutOut` goes forwards: the user is not active, which only the operator can change, and so no
  access token is added to those there were.

The claims carry whole seconds, so that tokens of one second are one token; `LastMinted` is
therefore stated about tokens and not about times.
-/

namespace AfricaFrontier

open Python Relational Transition

/-! ## The issuer -/

/-- The claims a user's tokens are minted with. -/
def subjectClaims (userId : ℕ) : Obj := [("sub", .str (strUuid userId))]

/-- A signed token of a user. -/
def subjectToken (jwt : Jwt) (userId : ℕ) (expire now : Instant) (kind : String) : jwt.Token :=
  jwt.encode (registeredClaims (subjectClaims userId) expire now kind)

/-- What tokens are minted with; `write` and `read` are between tokens and their texts. -/
structure Issuer where
  jwt : Jwt
  settings : TokenSettings := {}
  write : jwt.Token → String
  read : String → jwt.Token
  read_write : ∀ userId expire now kind,
    read (write (subjectToken jwt userId expire now kind)) =
      subjectToken jwt userId expire now kind
  /-- `bcrypt.checkpw`; `none` is its `ValueError`. -/
  checkpw : String → String → Option Bool
  isDevelopment : Bool := false

namespace Issuer

variable (issuer : Issuer)

/-- The access token of a user. -/
def access (userId : ℕ) (now : Instant) : issuer.jwt.Token :=
  createAccessToken issuer.jwt issuer.settings (subjectClaims userId) none now

/-- The refresh token of a user. -/
def refreshToken (userId : ℕ) (now : Instant) : issuer.jwt.Token :=
  createRefreshToken issuer.jwt issuer.settings (subjectClaims userId) now

/-- The routes mint with the issuer. -/
def equip (config : AuthConfig) : AuthConfig :=
  { config with
    createAccessToken := fun userId now => issuer.write (issuer.access userId now)
    createRefreshToken := fun userId now => issuer.write (issuer.refreshToken userId now) }

/-- What is written for an access token is read back as it. -/
theorem read_access (userId : ℕ) (now : Instant) :
    issuer.read (issuer.write (issuer.access userId now)) = issuer.access userId now :=
  issuer.read_write userId _ now "access"

/-- What is written for a refresh token is read back as it. -/
theorem read_refreshToken (userId : ℕ) (now : Instant) :
    issuer.read (issuer.write (issuer.refreshToken userId now)) = issuer.refreshToken userId now :=
  issuer.read_write userId _ now "refresh"

/-- How long an access token lasts. -/
def accessLife : ℤ := minutes issuer.settings.accessTokenExpireMinutes

/-- How long a refresh token lasts. -/
def refreshLife : ℤ := hours (24 * issuer.settings.refreshTokenExpireDays)

end Issuer

section Claims

variable {issuer : Issuer} {userId : ℕ} {minted now : Instant}

/-- The subject of a user's token is the user. -/
theorem subjectId_subjectClaims {expire : Instant} {kind : String} (h : userId < 2 ^ 128) :
    subjectId (registeredClaims (subjectClaims userId) expire minted kind) = .ok userId := by
  have hsub : (registeredClaims (subjectClaims userId) expire minted kind).get "sub" =
      .str (strUuid userId) := by
    rw [Obj.get, registeredClaims_find (by decide) (by decide) (by decide)]
    rfl
  have htext : strUuid userId ≠ "" := by
    intro hempty
    have hnone : parseUuid "" = none := by decide
    have hread := parseUuid_strUuid h
    rw [hempty, hnone] at hread
    cases hread
  have htruthy : (Json.str (strUuid userId)).truthy = true := by
    simp [Json.truthy, htext]
  simp only [subjectId, hsub, htruthy, if_true, Json.text_str, parseUuid_strUuid h]

/-- A time in whole seconds is not after the time. -/
theorem seconds_floor_le (time : Instant) : seconds (time / 1000000) ≤ time :=
  Int.ediv_mul_le time (by decide)

/-- An access token says that it is one. -/
theorem Issuer.type_of_access {claims : Obj}
    (h : issuer.jwt.decode (issuer.access userId minted) now = .ok claims) :
    claims.get "type" = .str "access" := by
  obtain ⟨rfl, -⟩ := (decode_minted_iff issuer.jwt).mp h
  exact registeredClaims_type

/-- A refresh token names its user, and that it is one, while it lasts. -/
theorem Issuer.decode_refreshToken {claims : Obj} (hid : userId < 2 ^ 128)
    (h : issuer.jwt.decode (issuer.refreshToken userId minted) now = .ok claims) :
    claims.get "type" = .str "refresh" ∧ subjectId claims = .ok userId ∧
      now < minted + issuer.refreshLife := by
  obtain ⟨rfl, hforce⟩ := (decode_minted_iff issuer.jwt).mp h
  exact ⟨registeredClaims_type, subjectId_subjectClaims hid,
    hforce.unexpired.trans_le (seconds_floor_le _)⟩

/-- What an access token that is accepted says. -/
theorem decode_of_getCurrentUserId {scheme : String} {token : issuer.jwt.Token}
    (h : getCurrentUserId (some ⟨scheme, token⟩) now = .ok userId) :
    ∃ claims, issuer.jwt.decode token now = .ok claims ∧ claims.get "type" = .str "access" ∧
      subjectId claims = .ok userId := by
  unfold getCurrentUserId at h
  split at h
  · cases h
  · rename_i presented hpresented
    obtain ⟨header, hheader, rfl⟩ := Option.map_eq_some_iff.mp hpresented
    obtain ⟨hsame, -⟩ := Option.filter_eq_some_iff.mp hheader
    obtain rfl := Option.some.inj hsame
    obtain ⟨claims, hclaims, hrest⟩ := bind_eq_ok.mp h
    split at hrest
    · cases hrest
    · rename_i htype
      exact ⟨claims, decodeToken_eq_ok.mp hclaims, not_not.mp htype, hrest⟩

/-- An access token is accepted as that of its user, while it lasts. -/
theorem Issuer.getCurrentUserId_access {scheme : String} {found : ℕ} (hid : userId < 2 ^ 128)
    (h : getCurrentUserId (some ⟨scheme, issuer.access userId minted⟩) now = .ok found) :
    found = userId ∧ now < minted + issuer.accessLife := by
  obtain ⟨claims, hread, -, hsubject⟩ := decode_of_getCurrentUserId h
  obtain ⟨rfl, hforce⟩ := (decode_minted_iff issuer.jwt).mp hread
  rw [subjectId_subjectClaims hid] at hsubject
  exact ⟨(Except.ok.inj hsubject).symm, hforce.unexpired.trans_le (seconds_floor_le _)⟩

/-- A refresh token is not accepted as an access token. -/
theorem Issuer.getCurrentUserId_refreshToken {scheme : String} {found : ℕ}
    (hid : userId < 2 ^ 128) :
    getCurrentUserId (some ⟨scheme, issuer.refreshToken userId minted⟩) now ≠ .ok found := by
  intro h
  obtain ⟨claims, hread, htype, -⟩ := decode_of_getCurrentUserId h
  rw [(Issuer.decode_refreshToken hid hread).1] at htype
  exact absurd htype (by decide)

end Claims

/-! ## The service -/

/-- The tables, with what was answered so far: who signed in, and the tokens. -/
structure BearerWorld (issuer : Issuer) where
  auth : AuthWorld
  signIns : List SignedIn
  minted : List issuer.jwt.Token

/-- A call of a route that mints tokens, or the operator at the tables. -/
inductive BearerCall (issuer : Issuer)
  | auth (call : AuthCall)
  | login (now : Instant) (payload : LoginRequest)
  | refresh (now : Instant) (refreshToken : issuer.jwt.Token)
  | devToken (now : Instant) (demoUserId : ℕ)
  /-- The operator sets the flag of a user. -/
  | setActive (userId : ℕ) (value : String)

/-- `issue_dev_token`. -/
def Issuer.issueDevToken (issuer : Issuer) (now : Instant) (demoUserId : ℕ) :
    Except HttpException issuer.jwt.Token :=
  if issuer.isDevelopment = false then
    .error ⟨404, "Development token endpoint is unavailable"⟩
  else .ok (issuer.access demoUserId now)

/-- The flag of a user becomes `value`. -/
def AuthDb.setActive (db : AuthDb) (userId : ℕ) (value : String) : AuthDb :=
  { db with users := db.users.modify userId (fun u => { u with isActive := value }) fun _ => rfl }

/-- The other users are left alone. -/
theorem AuthDb.get_setActive (db : AuthDb) (userId : ℕ) (value : String) (i : ℕ) :
    (db.setActive userId value).users.get i = (db.users.get i).map fun u =>
      if i = userId then { u with isActive := value } else u :=
  @Table.get_modify User _ db.users userId (fun u => { u with isActive := value })
    (fun _ => rfl) i

namespace BearerWorld

variable {issuer : Issuer}

/-- Nobody signed in yet. -/
def start (issuer : Issuer) (db : AuthDb) : BearerWorld issuer := ⟨.start db, [], []⟩

/-- One call. -/
def after (config : AuthConfig) (w : BearerWorld issuer) : BearerCall issuer → BearerWorld issuer
  | .auth call =>
      { auth := w.auth.after (issuer.equip config) call
        signIns := w.signIns ++ (signInOf (issuer.equip config) w.auth.db call).toList
        minted := w.minted ++ (tokensOf (issuer.equip config) w.auth.db call).map issuer.read }
  | .login now payload =>
      match login (issuer.equip config) issuer.checkpw now payload w.auth.db with
      | .ok r =>
          { w with
            signIns := w.signIns ++ [⟨r.userId, now⟩]
            minted := w.minted ++ [issuer.read r.accessToken, issuer.read r.refreshToken] }
      | .error _ => w
  | .refresh now refreshToken =>
      match refresh issuer.jwt issuer.settings refreshToken w.auth.db now with
      | .ok fresh => { w with minted := w.minted ++ [fresh] }
      | .error _ => w
  | .devToken now demoUserId =>
      match issuer.issueDevToken now demoUserId with
      | .ok fresh => { w with minted := w.minted ++ [fresh] }
      | .error _ => w
  | .setActive userId value =>
      { w with auth := { w.auth with db := w.auth.db.setActive userId value } }

/-- The keys handed out so far are UUIDs. -/
def InUuids (w : BearerWorld issuer) : Prop := w.auth.db.users.next ≤ 2 ^ 128

instance (w : BearerWorld issuer) : Decidable w.InUuids := inferInstanceAs (Decidable (_ ≤ _))

/-- Nobody but the service signs: a signed token was minted before. -/
def Unforged (w : BearerWorld issuer) (token : issuer.jwt.Token) : Prop :=
  ∀ claims, token = issuer.jwt.encode claims → token ∈ w.minted

/-- The tokens that are presented for new ones are not forged. -/
def Presents (w : BearerWorld issuer) : BearerCall issuer → Prop
  | .refresh _ refreshToken => w.Unforged refreshToken
  | _ => True

end BearerWorld

/-- Sequences of calls, as long as there are UUIDs for the users. -/
def bearerCalls (issuer : Issuer) (config : AuthConfig) :
    Machine (BearerWorld issuer) (BearerCall issuer) where
  step w call := if (w.after config call).InUuids then some (w.after config call) else none

/-- What a step does, and that the keys are still UUIDs. -/
theorem bearerCalls_step {issuer : Issuer} {config : AuthConfig} {w w' : BearerWorld issuer}
    {call : BearerCall issuer} (h : (bearerCalls issuer config).step w call = some w') :
    w' = w.after config call ∧ w'.InUuids := by
  simp only [bearerCalls] at h
  split_ifs at h with huuids
  obtain rfl := Option.some.inj h
  exact ⟨rfl, huuids⟩

/-- A call is a step as long as there are UUIDs. -/
theorem bearerCalls_of_inUuids {issuer : Issuer} {config : AuthConfig} {w : BearerWorld issuer}
    {call : BearerCall issuer} (h : (w.after config call).InUuids) :
    (bearerCalls issuer config).step w call = some (w.after config call) :=
  if_pos h

/-! ## What one call mints

A call mints nothing where it is refused. The development token is the one exception to the rule
that a minted token is for an active user, and is left out by the assumption that the service does
not run in that mode. -/

/-- A user with this key is stored and not active. -/
def InactiveUser (users : Table User) (userId : ℕ) : Prop :=
  ∃ user, users.get userId = some user ∧ user.isActive ≠ "1"

/-- A key stands for one user. -/
theorem InactiveUser.not_active {users : Table User} {userId : ℕ} (h : InactiveUser users userId) :
    ¬ ActiveUser users userId := by
  obtain ⟨user, hget, hinactive⟩ := h
  rintro ⟨user', hget', hactive⟩
  obtain rfl := Option.some.inj (hget.symm.trans hget')
  exact hinactive hactive

/-- Who keeps the flag stays inactive. -/
theorem KeepsFlags.inactive {users users' : Table User} {userId : ℕ} (h : KeepsFlags users users')
    (hinactive : InactiveUser users userId) : InactiveUser users' userId := by
  obtain ⟨user, hget, hflag⟩ := hinactive
  obtain ⟨user', hget', hsame⟩ := h userId user hget
  exact ⟨user', hget', hsame ▸ hflag⟩

/-- A token that a call with this clock mints, which leads from `w` to `w'`. -/
inductive Mints {issuer : Issuer} (w w' : BearerWorld issuer) (now : Instant) :
    issuer.jwt.Token → Prop
  /-- An active user signs in. -/
  | access {userId : ℕ} (hactive : ActiveUser w'.auth.db.users userId)
      (hsigned : ⟨userId, now⟩ ∈ w'.signIns) : Mints w w' now (issuer.access userId now)
  | refresh {userId : ℕ} (hactive : ActiveUser w'.auth.db.users userId)
      (hsigned : ⟨userId, now⟩ ∈ w'.signIns) : Mints w w' now (issuer.refreshToken userId now)
  /-- An active user shows a refresh token. -/
  | exchanged {userId : ℕ} (hactive : ActiveUser w'.auth.db.users userId)
      {shown : issuer.jwt.Token} {claims : Obj} (hunforged : w.Unforged shown)
      (hread : issuer.jwt.decode shown now = .ok claims)
      (hkind : claims.get "type" = .str "refresh") (hsubject : subjectId claims = .ok userId) :
      Mints w w' now (issuer.access userId now)
  | development {userId : ℕ} (hdev : issuer.isDevelopment = true) :
      Mints w w' now (issuer.access userId now)

section Step

variable {issuer : Issuer} {config : AuthConfig} {w : BearerWorld issuer} {now : Instant}

/-- The tokens of a sign-in. -/
theorem Mints.of_text {w' : BearerWorld issuer} {s : SignedIn} {text : String}
    (htext : s.Text (issuer.equip config) text) (hactive : ActiveUser w'.auth.db.users s.userId)
    (hsigned : s ∈ w'.signIns) : Mints w w' s.time (issuer.read text) := by
  rcases htext with rfl | rfl
  · show Mints w w' s.time (issuer.read (issuer.write (issuer.access s.userId s.time)))
    rw [issuer.read_access]
    exact .access hactive hsigned
  · show Mints w w' s.time (issuer.read (issuer.write (issuer.refreshToken s.userId s.time)))
    rw [issuer.read_refreshToken]
    exact .refresh hactive hsigned

/-- The refresh route mints for an active user who shows a refresh token. -/
theorem refresh_ok {token fresh : issuer.jwt.Token} {db : AuthDb}
    (h : refresh issuer.jwt issuer.settings token db now = .ok fresh) :
    ∃ userId claims, issuer.jwt.decode token now = .ok claims ∧
      claims.get "type" = .str "refresh" ∧ subjectId claims = .ok userId ∧
        ActiveUser db.users userId ∧ fresh = issuer.access userId now := by
  obtain ⟨claims, hclaims, hrest⟩ := bind_eq_ok.mp h
  split at hrest
  · cases hrest
  · rename_i htype
    obtain ⟨userId, hsubject, hrest⟩ := bind_eq_ok.mp hrest
    split at hrest
    · cases hrest
    · rename_i user huser
      split_ifs at hrest with hinactive
      exact ⟨userId, claims, decodeToken_eq_ok.mp hclaims, not_not.mp htype, hsubject,
        ⟨user, huser, not_not.mp hinactive⟩, (Except.ok.inj hrest).symm⟩

/-- **What a call mints** goes to a user who is active, and who signs in or shows a refresh
token; or the service is in development. -/
theorem BearerWorld.mem_minted_after {call : BearerCall issuer} (hpresents : w.Presents call)
    {token : issuer.jwt.Token} (h : token ∈ (w.after config call).minted) :
    token ∈ w.minted ∨ ∃ now, Mints w (w.after config call) now token := by
  cases call with
  | auth call =>
      rcases List.mem_append.mp h with hold | hnew
      · exact Or.inl hold
      · obtain ⟨text, htext, rfl⟩ := List.mem_map.mp hnew
        obtain ⟨s, hsign, hs, hactive⟩ := signInOf_spec htext
        refine Or.inr ⟨s.time, Mints.of_text hs hactive ?_⟩
        refine List.mem_append.mpr (Or.inr ?_)
        rw [hsign]
        exact List.mem_singleton.mpr rfl
  | login now payload =>
      cases hlogin : login (issuer.equip config) issuer.checkpw now payload w.auth.db with
      | error error =>
          simp only [BearerWorld.after, hlogin] at h
          exact Or.inl h
      | ok r =>
          simp only [BearerWorld.after, hlogin] at h ⊢
          rcases List.mem_append.mp h with hold | hnew
          · exact Or.inl hold
          · have htexts : token ∈ [r.accessToken, r.refreshToken].map issuer.read := hnew
            obtain ⟨text, htext, rfl⟩ := List.mem_map.mp htexts
            obtain ⟨userId, rfl, hactive⟩ := login_ok hlogin
            exact Or.inr ⟨now, Mints.of_text (SignedIn.text_issueTokens htext) hactive
              (List.mem_append.mpr (Or.inr (List.mem_singleton.mpr rfl)))⟩
  | refresh now refreshToken =>
      cases hrefresh : refresh issuer.jwt issuer.settings refreshToken w.auth.db now with
      | error error =>
          simp only [BearerWorld.after, hrefresh] at h
          exact Or.inl h
      | ok fresh =>
          simp only [BearerWorld.after, hrefresh] at h ⊢
          rcases List.mem_append.mp h with hold | hnew
          · exact Or.inl hold
          · obtain rfl := List.mem_singleton.mp hnew
            -- a refresh mints for the subject of the token it was shown, which was minted before
            obtain ⟨userId, claims, hread, hkind, hsubject, hactive, rfl⟩ := refresh_ok hrefresh
            exact Or.inr ⟨now, .exchanged hactive hpresents hread hkind hsubject⟩
  | devToken now demoUserId =>
      simp only [BearerWorld.after, Issuer.issueDevToken] at h ⊢
      by_cases hdev : issuer.isDevelopment = false
      · rw [if_pos hdev] at h
        exact Or.inl h
      · rw [if_neg hdev] at h
        rcases List.mem_append.mp h with hold | hnew
        · exact Or.inl hold
        · obtain rfl := List.mem_singleton.mp hnew
          exact Or.inr ⟨now, .development (Bool.not_eq_false _ ▸ hdev)⟩
  | setActive userId value => exact Or.inl h

/-- A sign-in is remembered. -/
theorem BearerWorld.signIns_subset_after (call : BearerCall issuer) :
    w.signIns ⊆ (w.after config call).signIns := by
  cases call with
  | auth call => exact List.subset_append_left _ _
  | login now payload =>
      simp only [BearerWorld.after]
      split
      · exact List.subset_append_left _ _
      · exact List.Subset.refl _
  | refresh now refreshToken =>
      simp only [BearerWorld.after]
      split <;> exact List.Subset.refl _
  | devToken now demoUserId =>
      simp only [BearerWorld.after]
      split <;> exact List.Subset.refl _
  | setActive userId value => exact List.Subset.refl _

/-- No call but the operator's sets the flag of a user. -/
theorem BearerWorld.after_inactive {call : BearerCall issuer} {userId : ℕ}
    (hother : ∀ value, call ≠ .setActive userId value)
    (h : InactiveUser w.auth.db.users userId) :
    InactiveUser (w.after config call).auth.db.users userId := by
  cases call with
  | auth call => exact (w.auth.after_keepsFlags (issuer.equip config) call).inactive h
  | login now payload =>
      simp only [BearerWorld.after]
      split <;> exact h
  | refresh now refreshToken =>
      simp only [BearerWorld.after]
      split <;> exact h
  | devToken now demoUserId =>
      simp only [BearerWorld.after]
      split <;> exact h
  | setActive changed value =>
      have hne : userId ≠ changed := fun hsame => hother value (hsame ▸ rfl)
      obtain ⟨user, hget, hinactive⟩ := h
      refine ⟨user, ?_, hinactive⟩
      show (w.auth.db.setActive changed value).users.get userId = some user
      rw [AuthDb.get_setActive, hget, Option.map_some, if_neg hne]

/-- The operator takes the flag away. -/
theorem BearerWorld.after_setActive {userId : ℕ} {value : String} (hvalue : value ≠ "1")
    {user : User} (hstored : w.auth.db.users.get userId = some user) :
    InactiveUser (w.after config (.setActive userId value)).auth.db.users userId := by
  refine ⟨{ user with isActive := value }, ?_, hvalue⟩
  show (w.auth.db.setActive userId value).users.get userId = some _
  rw [AuthDb.get_setActive, hstored, Option.map_some, if_pos rfl]

/-- A stored user has a key that was handed out. -/
theorem ActiveUser.lt {users : Table User} {userId : ℕ} (h : ActiveUser users userId) :
    userId < users.next := by
  obtain ⟨user, hget, -⟩ := h
  obtain ⟨hmem, rfl⟩ := Table.get_eq_some_iff.mp hget
  exact users.fresh user hmem

end Step

/-! ## An issuer for examples -/

/-- The claims of a user's token, written out. -/
theorem registeredClaims_subjectClaims (userId : ℕ) (expire now : Instant) (kind : String) :
    registeredClaims (subjectClaims userId) expire now kind =
      [("sub", .str (strUuid userId)), ("exp", .int (expire / 1000000)),
        ("iat", .int (now / 1000000)), ("type", .str kind)] := by
  simp [registeredClaims, subjectClaims, Obj.set]

/-- The claims of a user's token, as numbers. -/
def claimCodes (claims : Obj) : List ℕ × ℤ × ℤ × List ℕ :=
  let codes (key : String) : List ℕ := (claims.get key).text.toList.map Char.toNat
  let number (key : String) : ℤ := ((claims.get key) |> claimInt).toOption.getD 0
  (codes "sub", number "exp", number "iat", codes "type")

/-- The token with the claims of these numbers. -/
def codedClaims : List ℕ × ℤ × ℤ × List ℕ → Obj
  | (sub, exp, iat, kind) =>
      [("sub", .str (String.ofList (sub.map Char.ofNat))), ("exp", .int exp), ("iat", .int iat),
        ("type", .str (String.ofList (kind.map Char.ofNat)))]

/-- The text of a number. -/
def strokes (n : ℕ) : String := String.ofList (List.replicate n 'x')

@[simp] theorem length_strokes (n : ℕ) : (strokes n).toList.length = n := by
  simp [strokes]

/-- The text of a token. -/
def sealedText : SealedToken → String
  | .signed claims => strokes (Encodable.encode (claimCodes claims))
  | .unsigned text => text

/-- The token of a text. -/
def readSealed (text : String) : SealedToken :=
  match (Encodable.decode text.toList.length : Option (List ℕ × ℤ × ℤ × List ℕ)) with
  | some codes => .signed (codedClaims codes)
  | none => .unsigned text

/-- The text of a token is read back as the token. -/
theorem readSealed_sealedText (userId : ℕ) (expire now : Instant) (kind : String) :
    readSealed (sealedText (.signed (registeredClaims (subjectClaims userId) expire now kind))) =
      .signed (registeredClaims (subjectClaims userId) expire now kind) := by
  have hcodes : codedClaims (claimCodes
      (registeredClaims (subjectClaims userId) expire now kind)) =
        registeredClaims (subjectClaims userId) expire now kind := by
    rw [registeredClaims_subjectClaims]
    simp [codedClaims, claimCodes, Obj.get, Obj.find, Function.comp_def, claimInt,
      Except.toOption]
  unfold readSealed sealedText
  rw [length_strokes, Encodable.encodek]
  show SealedToken.signed (codedClaims (claimCodes _)) = _
  rw [hcodes]

/-- Tokens that show what was signed, and whose texts tell the users' tokens apart. -/
def sealedIssuer : Issuer where
  jwt := Jwt.sealed
  write := sealedText
  read := readSealed
  read_write := readSealed_sealedText
  checkpw plain hashed := some (plain == hashed)

/-- Where users register with passwords. -/
def stagingAuth : AuthConfig := { sampleAuth with isProduction := false }

/-- Ada registers. -/
def adaRegisters : BearerCall sealedIssuer :=
  .auth (.register ⟨0, false⟩ { email := "ada@example.com", password := "correct horse" })

/-- The service after that. -/
def adaRegistered : BearerWorld sealedIssuer :=
  (BearerWorld.start sealedIssuer AuthDb.empty).after stagingAuth adaRegisters

/-- The registration is a run. -/
theorem adaRegistered_run : Run (bearerCalls sealedIssuer stagingAuth) BearerWorld.Presents
    (.start sealedIssuer AuthDb.empty) [adaRegisters] adaRegistered :=
  Run.cons (bearerCalls_of_inUuids (by decide +kernel)) trivial (Run.nil _)

/-- She was answered with an access token. -/
theorem adaRegistered_minted : sealedIssuer.access 0 0 ∈ adaRegistered.minted := by
  show _ ∈ [sealedIssuer.read (sealedIssuer.write (sealedIssuer.access 0 0)),
    sealedIssuer.read (sealedIssuer.write (sealedIssuer.refreshToken 0 0))]
  rw [sealedIssuer.read_access]
  exact List.mem_cons_self

/-- She was answered with a refresh token too. -/
theorem adaRegistered_refreshToken : sealedIssuer.refreshToken 0 0 ∈ adaRegistered.minted := by
  show _ ∈ [sealedIssuer.read (sealedIssuer.write (sealedIssuer.access 0 0)),
    sealedIssuer.read (sealedIssuer.write (sealedIssuer.refreshToken 0 0))]
  rw [sealedIssuer.read_refreshToken]
  exact List.mem_cons_of_mem _ (List.mem_singleton.mpr rfl)

/-- Half a minute later she shows it. -/
def adaRefreshes : BearerCall sealedIssuer :=
  .refresh (seconds 30) (sealedIssuer.refreshToken 0 0)

/-! ## Where a token comes from

The life of a refreshed token is counted from its own minting, and that of the refresh token from
the sign-in: hence the sum of the two. -/

/-- A token goes back to the sign-in: it was minted there, or for a refresh token that was. -/
inductive GoesBack (issuer : Issuer) (s : SignedIn) : issuer.jwt.Token → Prop
  | access : GoesBack issuer s (issuer.access s.userId s.time)
  | refresh : GoesBack issuer s (issuer.refreshToken s.userId s.time)
  | exchanged {time : Instant} (hrefreshed : time < s.time + issuer.refreshLife) :
      GoesBack issuer s (issuer.access s.userId time)

/-- Every token goes back to a sign-in. -/
def Provenance {issuer : Issuer} (w : BearerWorld issuer) : Prop :=
  ∀ token ∈ w.minted, ∃ s ∈ w.signIns, s.userId < 2 ^ 128 ∧ GoesBack issuer s token

section Provenance

variable {issuer : Issuer} {config : AuthConfig} {w w' : BearerWorld issuer}

/-- One call keeps the provenance: what it mints is a sign-in, or for a token that goes back to
one. -/
theorem Provenance.step {call : BearerCall issuer} (hdev : issuer.isDevelopment = false)
    (hstep : (bearerCalls issuer config).step w call = some w') (hpresents : w.Presents call)
    (h : Provenance w) : Provenance w' := by
  obtain ⟨rfl, huuids⟩ := bearerCalls_step hstep
  intro token htoken
  rcases BearerWorld.mem_minted_after hpresents htoken with hold | ⟨now, hmints⟩
  · obtain ⟨s, hs, hid, hback⟩ := h token hold
    exact ⟨s, BearerWorld.signIns_subset_after call hs, hid, hback⟩
  · cases hmints with
    | access hactive hsigned => exact ⟨_, hsigned, hactive.lt.trans_le huuids, .access⟩
    | refresh hactive hsigned => exact ⟨_, hsigned, hactive.lt.trans_le huuids, .refresh⟩
    | exchanged hactive hunforged hread hkind hsubject =>
        -- what was shown is signed, so it was minted, as the refresh token of a sign-in
        obtain ⟨s, hs, hid, hback⟩ := h _ (hunforged _ (Jwt.decode_eq_ok.mp hread).1)
        have hrefresh : ¬ _ = Json.str "access" := fun haccess =>
          absurd (hkind.symm.trans haccess) (by decide)
        cases hback with
        | access => exact absurd (Issuer.type_of_access hread) hrefresh
        | exchanged => exact absurd (Issuer.type_of_access hread) hrefresh
        | refresh =>
            obtain ⟨-, hsame, hlasts⟩ := Issuer.decode_refreshToken hid hread
            obtain rfl := Except.ok.inj (hsubject.symm.trans hsame)
            exact ⟨s, BearerWorld.signIns_subset_after call hs, hid, .exchanged hlasts⟩
    | development hdevelopment => exact absurd hdevelopment (by rw [hdev]; exact Bool.false_ne_true)

/-- **An accepted token goes back to a sign-in** of its user, at most the life of a refresh
token and that of an access token ago. -/
theorem accepted_of_signIn {db : AuthDb} {calls : List (BearerCall issuer)}
    (hdev : issuer.isDevelopment = false)
    (run : Run (bearerCalls issuer config) BearerWorld.Presents (.start issuer db) calls w)
    {token : issuer.jwt.Token} (hunforged : w.Unforged token) {scheme : String} {now : Instant}
    {userId : ℕ} (haccepted : getCurrentUserId (some ⟨scheme, token⟩) now = .ok userId) :
    ∃ s ∈ w.signIns, s.userId = userId ∧
      now < s.time + issuer.refreshLife + issuer.accessLife := by
  have hprovenance : Provenance w :=
    run.preserves (fun _ _ _ hstep hpresents h => h.step hdev hstep hpresents)
      fun token htoken => absurd htoken List.not_mem_nil
  obtain ⟨claims, hread, -⟩ := decode_of_getCurrentUserId haccepted
  obtain ⟨s, hs, hid, hback⟩ := hprovenance token (hunforged claims (Jwt.decode_eq_ok.mp hread).1)
  have hlife : 0 ≤ issuer.refreshLife := by
    simp only [Issuer.refreshLife, hours, minutes, seconds]
    omega
  cases hback with
  | access =>
      obtain ⟨rfl, hlasts⟩ := Issuer.getCurrentUserId_access hid haccepted
      exact ⟨s, hs, rfl, by linarith⟩
  | refresh => exact absurd haccepted (Issuer.getCurrentUserId_refreshToken hid)
  | exchanged hrefreshed =>
      obtain ⟨rfl, hlasts⟩ := Issuer.getCurrentUserId_access hid haccepted
      exact ⟨s, hs, rfl, by linarith⟩

end Provenance

/-- She registers and shows her refresh token: the access token she gets for it goes back to
the registration. -/
theorem accepted_of_signIn_ada :
    sealedIssuer.access 0 (seconds 30) ∈ (adaRegistered.after stagingAuth adaRefreshes).minted ∧
      ∃ s ∈ (adaRegistered.after stagingAuth adaRefreshes).signIns, s.userId = 0 ∧
        seconds 60 < s.time + sealedIssuer.refreshLife + sealedIssuer.accessLife := by
  have hminted : sealedIssuer.access 0 (seconds 30) ∈
      (adaRegistered.after stagingAuth adaRefreshes).minted :=
    List.mem_append.mpr (Or.inr (List.mem_singleton.mpr rfl))
  have hrun : Run (bearerCalls sealedIssuer stagingAuth) BearerWorld.Presents
      (.start sealedIssuer AuthDb.empty) [adaRegisters, adaRefreshes]
      (adaRegistered.after stagingAuth adaRefreshes) :=
    Run.cons (bearerCalls_of_inUuids (by decide +kernel)) trivial
      (Run.cons (bearerCalls_of_inUuids (by decide +kernel))
        (fun _ _ => adaRegistered_refreshToken) (Run.nil _))
  have haccepted : getCurrentUserId (some ⟨"Bearer", sealedIssuer.access 0 (seconds 30)⟩)
      (seconds 60) = .ok 0 := by
    decide +kernel
  exact ⟨hminted, accepted_of_signIn rfl hrun (fun _ _ => hminted) haccepted⟩

/-! ## Who is shut out

Nothing revokes an access token that is out; it runs out. -/

/-- The access tokens minted for the user are tokens of `deadline` or earlier.  A token carries
whole seconds, so it is one and the same for all times of its second. -/
def LastMinted {issuer : Issuer} (userId : ℕ) (deadline : Instant) (w : BearerWorld issuer) :
    Prop :=
  ∀ time, issuer.access userId time ∈ w.minted →
    ∃ earlier ≤ deadline, issuer.access userId time = issuer.access userId earlier

/-- A token of a user; the access tokens of `userId` are of `deadline` or earlier. -/
inductive MintedBy (issuer : Issuer) (userId : ℕ) (deadline : Option Instant) :
    issuer.jwt.Token → Prop
  | access {holder : ℕ} {time : Instant} (hid : holder < 2 ^ 128)
      (hbound : holder = userId → ∀ last ∈ deadline, time ≤ last) :
      MintedBy issuer userId deadline (issuer.access holder time)
  | refresh {holder : ℕ} {time : Instant} (hid : holder < 2 ^ 128) :
      MintedBy issuer userId deadline (issuer.refreshToken holder time)

section Lockout

variable {issuer : Issuer} {config : AuthConfig} {w w' : BearerWorld issuer} {userId : ℕ}
  {deadline : Instant} {bound : Option Instant}

/-- One call keeps the tokens within the bound, where there is none or the user is not active. -/
theorem MintedBy.step {call : BearerCall issuer} (hdev : issuer.isDevelopment = false)
    (hstep : (bearerCalls issuer config).step w call = some w') (hpresents : w.Presents call)
    (hbound : bound = none ∨ ¬ ActiveUser w'.auth.db.users userId)
    (h : ∀ token ∈ w.minted, MintedBy issuer userId bound token) :
    ∀ token ∈ w'.minted, MintedBy issuer userId bound token := by
  obtain ⟨rfl, huuids⟩ := bearerCalls_step hstep
  have htime : ∀ {holder time}, ActiveUser (w.after config call).auth.db.users holder →
      holder = userId → ∀ last ∈ bound, time ≤ last := by
    rintro holder time hactive rfl last hlast
    rcases hbound with rfl | hinactive
    · cases hlast
    · exact absurd hactive hinactive
  intro token htoken
  rcases BearerWorld.mem_minted_after hpresents htoken with hold | ⟨now, hmints⟩
  · exact h token hold
  · cases hmints with
    | access hactive _ => exact .access (hactive.lt.trans_le huuids) (htime hactive)
    | refresh hactive _ => exact .refresh (hactive.lt.trans_le huuids)
    | exchanged hactive _ _ _ _ => exact .access (hactive.lt.trans_le huuids) (htime hactive)
    | development hdevelopment => exact absurd hdevelopment (by rw [hdev]; exact Bool.false_ne_true)

/-- Until a user is disabled there is no bound; the tokens minted by then are all there are. -/
theorem LastMinted.mintedBy (h : LastMinted userId deadline w)
    (hminted : ∀ token ∈ w.minted, MintedBy issuer userId none token) :
    ∀ token ∈ w.minted, MintedBy issuer userId (some deadline) token := by
  intro token htoken
  cases hminted token htoken with
  | @access holder time hid _ =>
      by_cases hsame : holder = userId
      · subst hsame
        obtain ⟨earlier, hle, hequal⟩ := h time htoken
        rw [hequal]
        exact .access hid fun _ last hlast => Option.mem_some_iff.mp hlast ▸ hle
      · exact .access hid fun hequal => absurd hequal hsame
  | refresh hid => exact .refresh hid

/-- The user is not active, and no access token was minted for them after the deadline. -/
structure ShutOut (userId : ℕ) (deadline : Instant) (w : BearerWorld issuer) : Prop where
  inactive : InactiveUser w.auth.db.users userId
  minted : ∀ token ∈ w.minted, MintedBy issuer userId (some deadline) token

/-- One call keeps the user out: without the flag nothing is minted for them. -/
theorem ShutOut.step {call : BearerCall issuer} (hdev : issuer.isDevelopment = false)
    (hstep : (bearerCalls issuer config).step w call = some w') (hpresents : w.Presents call)
    (hother : ∀ value, call ≠ .setActive userId value) (h : ShutOut userId deadline w) :
    ShutOut userId deadline w' := by
  have hinactive : InactiveUser w'.auth.db.users userId := by
    obtain ⟨rfl, -⟩ := bearerCalls_step hstep
    exact BearerWorld.after_inactive hother h.inactive
  exact ⟨hinactive, MintedBy.step hdev hstep hpresents (Or.inr hinactive.not_active) h.minted⟩

/-- **A disabled user is shut out** once the life of an access token has passed since the last
one was minted for them: whatever is called after the operator has taken their flag away, and
with whatever refresh tokens, no token is accepted as the user's later than that, until the
operator sets the flag again. -/
theorem accepted_before_lockout {db : AuthDb} {before later : List (BearerCall issuer)}
    {disabled last : BearerWorld issuer} {value : String} {user : User}
    (hdev : issuer.isDevelopment = false)
    (first : Run (bearerCalls issuer config) BearerWorld.Presents (.start issuer db) before w)
    (hlast : LastMinted userId deadline w)
    (hstored : w.auth.db.users.get userId = some user) (hvalue : value ≠ "1")
    (hdisabled : (bearerCalls issuer config).step w (.setActive userId value) = some disabled)
    (second : Run (bearerCalls issuer config) BearerWorld.Presents disabled later last)
    (hlater : ∀ call ∈ later, ∀ again, call ≠ .setActive userId again)
    {token : issuer.jwt.Token} (hunforged : last.Unforged token) {scheme : String} {now : Instant}
    (haccepted : getCurrentUserId (some ⟨scheme, token⟩) now = .ok userId) :
    now < deadline + issuer.accessLife := by
  -- up to the disabling every token was minted from a sign-in or a refresh of its subject
  have hfirst : ∀ token ∈ w.minted, MintedBy issuer userId none token :=
    first.preserves (fun _ _ _ hstep hpresents h => MintedBy.step hdev hstep hpresents
      (Or.inl rfl) h) fun token htoken => absurd htoken List.not_mem_nil
  have hshut : ShutOut userId deadline disabled := by
    obtain ⟨rfl, -⟩ := bearerCalls_step hdisabled
    exact ⟨BearerWorld.after_setActive hvalue hstored, hlast.mintedBy hfirst⟩
  -- and from then on none is minted for the user
  have hafter : ShutOut userId deadline last :=
    (second.guard_labels hlater).preserves
      (fun _ _ _ hstep hguard h => h.step hdev hstep hguard.1 hguard.2) hshut
  obtain ⟨claims, hread, -⟩ := decode_of_getCurrentUserId haccepted
  cases hafter.minted token (hunforged claims (Jwt.decode_eq_ok.mp hread).1) with
  | access hid hbound =>
      obtain ⟨rfl, hlasts⟩ := Issuer.getCurrentUserId_access hid haccepted
      have htime := hbound rfl deadline rfl
      linarith
  | refresh hid => exact absurd haccepted (Issuer.getCurrentUserId_refreshToken hid)

end Lockout

/-- The operator disables Ada. -/
def adaDisabled : BearerWorld sealedIssuer := adaRegistered.after stagingAuth (.setActive 0 "0")

/-- The refresh token she shows then is refused, and the access token of her registration is
not accepted past its own life. -/
theorem accepted_before_lockout_ada :
    adaDisabled.after stagingAuth adaRefreshes = adaDisabled ∧
      seconds 60 < 0 + sealedIssuer.accessLife := by
  -- the refresh after the disabling is refused, and changes nothing
  have hrefused : adaDisabled.after stagingAuth adaRefreshes = adaDisabled := by
    have herror : (refresh sealedIssuer.jwt sealedIssuer.settings (sealedIssuer.refreshToken 0 0)
        adaDisabled.auth.db (seconds 30)).toOption = none := by
      decide +kernel
    simp only [BearerWorld.after, adaRefreshes]
    cases hresult : refresh sealedIssuer.jwt sealedIssuer.settings (sealedIssuer.refreshToken 0 0)
        adaDisabled.auth.db (seconds 30) with
    | error error => rfl
    | ok fresh =>
        rw [hresult] at herror
        cases herror
  have hlast : LastMinted 0 0 adaRegistered := by
    intro time htime
    refine ⟨0, le_refl 0, ?_⟩
    have hmem : sealedIssuer.access 0 time ∈
        [sealedIssuer.read (sealedIssuer.write (sealedIssuer.access 0 0)),
          sealedIssuer.read (sealedIssuer.write (sealedIssuer.refreshToken 0 0))] := htime
    rw [sealedIssuer.read_access, sealedIssuer.read_refreshToken] at hmem
    rcases List.mem_cons.mp hmem with hsame | hrefresh
    · exact hsame
    · have hkind := congrArg (Obj.get · "type")
        (SealedToken.signed.inj (List.mem_singleton.mp hrefresh))
      simp only [registeredClaims_type] at hkind
      exact absurd hkind (by decide)
  have hstored : (adaRegistered.auth.db.users.get 0).isSome = true := by decide +kernel
  have huuids : adaDisabled.InUuids := by decide +kernel
  have hrun : Run (bearerCalls sealedIssuer stagingAuth) BearerWorld.Presents adaDisabled
      [adaRefreshes] adaDisabled :=
    Run.cons (hrefused ▸ bearerCalls_of_inUuids (hrefused.symm ▸ huuids))
      (fun _ _ => adaRegistered_refreshToken) (Run.nil _)
  have haccepted : getCurrentUserId (some ⟨"Bearer", sealedIssuer.access 0 0⟩) (seconds 60) =
      .ok 0 := by
    decide +kernel
  refine ⟨hrefused, accepted_before_lockout rfl adaRegistered_run hlast
    (Option.some_get hstored).symm (by decide : "0" ≠ "1") (bearerCalls_of_inUuids huuids) hrun
    ?_ (fun _ _ => adaRegistered_minted) haccepted⟩
  intro call hcall again hsets
  obtain rfl := List.mem_singleton.mp hcall
  cases hsets

end AfricaFrontier
