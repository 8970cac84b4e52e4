import AfricaFrontier.Auth.Models
import AfricaFrontier.Config.Security

/-!
# The two kinds of tokens

A token says of itself whether it is an access token or a refresh token, and every consumer
has to look.  `get_current_user_id` and the refresh route do; `get_current_user`, the other
dependency of the API, takes the claims of any token.  So a refresh token is an API
credential there for as long as it is in force, and `kinds_separate_iff` says that this is
the only way in which the kinds get mixed up.

The signature scheme and the token format are parameters (`Jwt`); what is used of them is that a
token that was signed is read back with its claims, as long as it is in force. The content a token
is minted for can hold any claims, and two of them count: `nbf` and `aud` are looked at by the
library when a token is read, so a content with such a claim may be read by nobody
(`decode_minted_iff`). The condition of the main result takes that into account.
-/

namespace AfricaFrontier

open Python Relational

/-! ## The consumers -/

/-- `str(error)`. -/
def AccessError.text : AccessError → String
  | .authentication detail => detail
  | .validation detail => detail
  | .http exception => exception.detail
  | .raised => ""

/-- `get_current_user`. -/
def getCurrentUser {jwt : Jwt} (header : Option (AuthorizationHeader jwt)) (now : Instant) :
    Except AccessError Obj :=
  match header.filter fun h => decide (h.scheme = "Bearer") with
  | none => .error (.http ⟨401, "Missing bearer token"⟩)
  | some h =>
      match decodeToken jwt h.token now with
      | .ok claims => .ok claims
      | .error error => .error (.http ⟨401, error.text⟩)

/-- `refresh`: the new access token. The token has to be of the kind `refresh`, and the account is
looked at again, so that a disabled user is refused. -/
def refresh (jwt : Jwt) (settings : TokenSettings) (refreshToken : jwt.Token) (db : AuthDb)
    (now : Instant) : Except AccessError jwt.Token := do
  let claims ← decodeToken jwt refreshToken now
  if claims.get "type" ≠ .str "refresh" then
    .error (.validation "Provided token is not a refresh token")
  else do
    let userId ← subjectId claims
    match db.users.get userId with
    | none => .error (.authentication "Account is unavailable")
    | some user =>
        if user.isActive ≠ "1" then .error (.authentication "Account is unavailable")
        else .ok (createAccessToken jwt settings [("sub", .str (strUuid userId))] none now)

/-! ## What they accept

A consumer accepts a token where it is read and its `type` is the one the consumer asks for;
`get_current_user` asks for none. -/

section Accepts

variable {jwt : Jwt} {settings : TokenSettings} {now : Instant}

/-- Some dependency of the API accepts the token. -/
def ApiAccepts (jwt : Jwt) (token : jwt.Token) (now : Instant) : Prop :=
  (∃ scheme userId, getCurrentUserId (some (AuthorizationHeader.mk scheme token)) now =
      .ok userId) ∨
    ∃ scheme claims, getCurrentUser (some (AuthorizationHeader.mk scheme token)) now = .ok claims

/-- The refresh route accepts the token. -/
def RefreshAccepts (jwt : Jwt) (settings : TokenSettings) (token : jwt.Token) (now : Instant) :
    Prop :=
  ∃ db fresh, refresh jwt settings token db now = .ok fresh

/-- `decode_token` answers what the library reads. -/
theorem decodeToken_eq_ok {token : jwt.Token} {claims : Obj} :
    decodeToken jwt token now = .ok claims ↔ jwt.decode token now = .ok claims := by
  unfold decodeToken
  cases jwt.decode token now with
  | ok found => simp
  | error error =>
      cases error with
      | expiredSignature => simp
      | invalidToken => simp
      | raised => simp

/-- `get_current_user_id` accepts access tokens only. -/
theorem type_of_getCurrentUserId {scheme : String} {token : jwt.Token} {userId : ℕ}
    (h : getCurrentUserId (some (AuthorizationHeader.mk scheme token)) now = .ok userId) :
    ∃ claims, jwt.decode token now = .ok claims ∧ claims.get "type" = .str "access" := by
  unfold getCurrentUserId at h
  split at h
  · cases h
  · rename_i presented hpresented
    have htoken : presented = token := by
      obtain ⟨header, hheader, rfl⟩ := Option.map_eq_some_iff.mp hpresented
      obtain ⟨hsame, -⟩ := Option.filter_eq_some_iff.mp hheader
      exact (congrArg AuthorizationHeader.token (Option.some.inj hsame)).symm
    subst htoken
    obtain ⟨claims, hclaims, hrest⟩ := bind_eq_ok.mp h
    split at hrest
    · cases hrest
    · rename_i htype
      exact ⟨claims, decodeToken_eq_ok.mp hclaims, not_not.mp htype⟩

/-- The refresh route accepts refresh tokens only. -/
theorem type_of_refresh {token : jwt.Token} {db : AuthDb} {fresh : jwt.Token}
    (h : refresh jwt settings token db now = .ok fresh) :
    ∃ claims, jwt.decode token now = .ok claims ∧ claims.get "type" = .str "refresh" := by
  obtain ⟨claims, hclaims, hrest⟩ := bind_eq_ok.mp h
  split at hrest
  · cases hrest
  · rename_i htype
    exact ⟨claims, decodeToken_eq_ok.mp hclaims, not_not.mp htype⟩

/-- `get_current_user` accepts every token that is read. -/
theorem getCurrentUser_iff {token : jwt.Token} :
    (∃ scheme claims, getCurrentUser (some (AuthorizationHeader.mk scheme token)) now =
      .ok claims) ↔ ∃ claims, jwt.decode token now = .ok claims := by
  constructor
  · rintro ⟨scheme, claims, h⟩
    unfold getCurrentUser at h
    split at h
    · cases h
    · rename_i header hheader
      obtain ⟨hsame, -⟩ := Option.filter_eq_some_iff.mp hheader
      obtain rfl := Option.some.inj hsame
      split at h
      · rename_i found hfound
        exact ⟨found, decodeToken_eq_ok.mp hfound⟩
      · cases h
  · rintro ⟨claims, h⟩
    have hheader : (some (AuthorizationHeader.mk "Bearer" token)).filter
        (fun h => decide (h.scheme = "Bearer")) = some ⟨"Bearer", token⟩ := rfl
    refine ⟨"Bearer", claims, ?_⟩
    simp only [getCurrentUser, hheader, decodeToken_eq_ok.mpr h]

end Accepts

/-! ## Minted tokens -/

section Minted

variable {data : Obj} {expire minted now : Instant} {kind : String}

/-- Minting leaves the other claims as they are. -/
theorem registeredClaims_find {key : String} (hexp : key ≠ "exp") (hiat : key ≠ "iat")
    (htype : key ≠ "type") : (registeredClaims data expire minted kind).find key =
      data.find key := by
  simp only [registeredClaims, Obj.find_set, if_neg hexp, if_neg hiat, if_neg htype]

/-- Minting says which kind of token it is. -/
@[simp] theorem registeredClaims_type :
    (registeredClaims data expire minted kind).get "type" = .str kind :=
  Obj.get_set_self _ _ _

/-- A minted token is read exactly while it is in force; its content counts with the claims
`nbf` and `aud` only. -/
theorem decode_minted_iff (jwt : Jwt) {claims : Obj} :
    jwt.decode (jwt.encode (registeredClaims data expire minted kind)) now = .ok claims ↔
      claims = registeredClaims data expire minted kind ∧
        InForce data (minted / 1000000) (expire / 1000000) now := by
  have hiat : (registeredClaims data expire minted kind).get "iat" = .int (minted / 1000000) := by
    rw [registeredClaims, Obj.get_set_of_ne _ _ (by decide), Obj.get_set_self]
  have hexp : (registeredClaims data expire minted kind).get "exp" = .int (expire / 1000000) := by
    rw [registeredClaims, Obj.get_set_of_ne _ _ (by decide), Obj.get_set_of_ne _ _ (by decide),
      Obj.get_set_self]
  have hnbf : (registeredClaims data expire minted kind).find "nbf" = data.find "nbf" :=
    registeredClaims_find (by decide) (by decide) (by decide)
  have haud : (registeredClaims data expire minted kind).get "aud" = data.get "aud" := by
    rw [Obj.get, registeredClaims_find (by decide) (by decide) (by decide), ← Obj.get]
  -- the four claims set here cannot be those of the content, so only `nbf` and `aud` are left
  have hvalid : validateClaims (registeredClaims data expire minted kind) now = .ok () ↔
      InForce data (minted / 1000000) (expire / 1000000) now := by
    rw [validateClaims_eq_ok hiat hexp]
    constructor
    · rintro ⟨hissued, hstarted, hunexpired, haudience⟩
      exact ⟨hissued, hnbf ▸ hstarted, hunexpired, haud ▸ haudience⟩
    · rintro ⟨hissued, hstarted, hunexpired, haudience⟩
      exact ⟨hissued, hnbf ▸ hstarted, hunexpired, haud ▸ haudience⟩
  rw [Jwt.decode_encode_eq_ok, hvalid]

end Minted

/-! ## The property -/

/-- **Kinds of tokens are not interchangeable**, for tokens of this content that were minted
at `minted` and are presented at `now`. -/
structure KindsSeparate (jwt : Jwt) (settings : TokenSettings) (data : Obj)
    (minted now : Instant) : Prop where
  api : ¬ ApiAccepts jwt (createRefreshToken jwt settings data minted) now
  route : ∀ expiresDelta,
    ¬ RefreshAccepts jwt settings (createAccessToken jwt settings data expiresDelta minted) now
  exclusive : ∀ token, (token = createRefreshToken jwt settings data minted ∨
    ∃ expiresDelta, token = createAccessToken jwt settings data expiresDelta minted) →
      ¬ (ApiAccepts jwt token now ∧ RefreshAccepts jwt settings token now)

/-- A refresh token of this content is in force at `now`. Times in tokens are whole seconds, and
the content may bring claims of its own that the library checks. -/
def RefreshInForce (settings : TokenSettings) (data : Obj) (minted now : Instant) : Prop :=
  InForce data (minted / 1000000) (settings.refreshExpiry minted / 1000000) now

section Property

variable {jwt : Jwt} {settings : TokenSettings} {data : Obj} {minted now : Instant}

/-- The API accepts a refresh token exactly while it is in force. -/
theorem apiAccepts_refresh_iff :
    ApiAccepts jwt (createRefreshToken jwt settings data minted) now ↔
      RefreshInForce settings data minted now := by
  constructor
  · rintro (⟨scheme, userId, h⟩ | haccepted)
    · obtain ⟨claims, hread, htype⟩ := type_of_getCurrentUserId h
      obtain ⟨rfl, -⟩ := (decode_minted_iff jwt).mp hread
      rw [registeredClaims_type] at htype
      exact absurd htype (by decide)
    · obtain ⟨claims, hread⟩ := getCurrentUser_iff.mp haccepted
      exact ((decode_minted_iff jwt).mp hread).2
  · intro hforce
    exact Or.inr (getCurrentUser_iff.mpr ⟨_, (decode_minted_iff jwt).mpr ⟨rfl, hforce⟩⟩)

/-- The refresh route accepts no access token. -/
theorem not_refreshAccepts_access (expiresDelta : Option ℤ) :
    ¬ RefreshAccepts jwt settings (createAccessToken jwt settings data expiresDelta minted)
      now := by
  rintro ⟨db, fresh, h⟩
  obtain ⟨claims, hread, htype⟩ := type_of_refresh h
  obtain ⟨rfl, -⟩ := (decode_minted_iff jwt).mp hread
  rw [registeredClaims_type] at htype
  exact absurd htype (by decide)

/-- The kinds are not interchangeable exactly if the refresh token is not in force. -/
theorem kinds_separate_iff (jwt : Jwt) (settings : TokenSettings) (data : Obj)
    (minted now : Instant) :
    KindsSeparate jwt settings data minted now ↔ ¬ RefreshInForce settings data minted now := by
  constructor
  · intro h hforce
    exact h.api (apiAccepts_refresh_iff.mpr hforce)
  · intro hforce
    have hapi : ¬ ApiAccepts jwt (createRefreshToken jwt settings data minted) now :=
      fun haccepted => hforce (apiAccepts_refresh_iff.mp haccepted)
    refine ⟨hapi, not_refreshAccepts_access, ?_⟩
    rintro token (rfl | ⟨expiresDelta, rfl⟩) ⟨hcredential, hrefresh⟩
    · exact hapi hcredential
    · exact not_refreshAccepts_access expiresDelta hrefresh

end Property

/-- The claims a signed-in user's tokens are minted with. -/
def adaClaims : Obj := [("sub", .str (strUuid 7))]

/-- A minute after the login, `get_current_user` takes the refresh token for a credential. -/
theorem refresh_token_interchangeable :
    (getCurrentUser (some ⟨"Bearer", createRefreshToken Jwt.sealed {} adaClaims 0⟩)
        (seconds 60)).isOk = true ∧
      ¬ KindsSeparate Jwt.sealed {} adaClaims 0 (seconds 60) := by
  have haccepted :
      (getCurrentUser (some ⟨"Bearer", createRefreshToken Jwt.sealed {} adaClaims 0⟩)
        (seconds 60)).isOk = true := by
    decide +kernel
  refine ⟨haccepted, fun h => h.api (Or.inr ?_)⟩
  cases hread : getCurrentUser
      (some ⟨"Bearer", createRefreshToken Jwt.sealed {} adaClaims 0⟩) (seconds 60) with
  | ok claims => exact ⟨"Bearer", claims, hread⟩
  | error error =>
      rw [hread] at haccepted
      cases haccepted

end AfricaFrontier
