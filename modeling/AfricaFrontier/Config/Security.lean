import AfricaFrontier.Payments.MonthlyLimit
import AfricaFrontier.Python.Subscript
import AfricaFrontier.Python.Uuid
import Mathlib.Data.Rat.Floor

/-!
# Bearer tokens

`config/security.py` mints two kinds of tokens, which differ in their `type` claim and in how
long they last, and reads both with one `decode_token`.

The tokens themselves are the `jwt` package's.  `Jwt` is what the program relies on of it: a
token that was signed with the secret is read back as the claims it was signed with, as long
as they pass the checks of the registered claims, and no other token is read at all.
`Jwt.sealed` is a package that does so.

The registered claims are checked in the order of the package, `exp` and `iat` required, and each
check has a lemma that says when it passes (`check_eq_ok`, `validateNbf_eq_ok`,
`validateClaims_eq_ok`); `InForce` is what they come to for a token whose times are whole numbers.
The signature is the one thing that is assumed: `Jwt.decode_encode_eq_ok` and `Jwt.decode_eq_ok`
say that a token reads as it was signed, and that nothing else reads.
-/

namespace AfricaFrontier

open Python Relational

/-! ## The package -/

/-- What reading a token raises. -/
inductive JwtError
  | expiredSignature
  /-- Any other `InvalidTokenError`. -/
  | invalidToken
  /-- An exception that is not the package's own. -/
  | raised
  deriving DecidableEq, Repr

/-- `int(q)` of a number. -/
def truncate (q : ℚ) : ℤ := if 0 ≤ q then ⌊q⌋ else ⌈q⌉

/-- `int(value)` of a registered claim; a text that spells no number makes the token
invalid. -/
def claimInt : Json → Except JwtError ℤ
  | .int n => .ok n
  | .bool b => .ok (if b then 1 else 0)
  | .float .nan => .error .invalidToken
  | .float x =>
      match x.value with
      | some q => .ok (truncate q)
      | none => .error .raised
  | .str s =>
      match readInt (String.ofList (s.toList.map toAscii)) with
      | some n => .ok n
      | none => .error .invalidToken
  | _ => .error .raised

/-- The claims `exp` and `iat` are required. -/
def validateRequired (claims : Obj) : Except JwtError Unit :=
  if claims.get "exp" = .null ∨ claims.get "iat" = .null then .error .invalidToken else .ok ()

/-- The token is not from the future. -/
def validateIat (claims : Obj) (now : Instant) : Except JwtError Unit := do
  let iat ← claimInt (claims.get "iat")
  if now < seconds iat then .error .invalidToken else .ok ()

/-- The token is already valid, if it says from when. -/
def validateNbf (claims : Obj) (now : Instant) : Except JwtError Unit :=
  match claims.find "nbf" with
  | none => .ok ()
  | some value => do
      let nbf ← claimInt value
      if now < seconds nbf then .error .invalidToken else .ok ()

/-- The token is still valid. -/
def validateExp (claims : Obj) (now : Instant) : Except JwtError Unit := do
  let exp ← claimInt (claims.get "exp")
  if seconds exp ≤ now then .error .expiredSignature else .ok ()

/-- The token names no audience. -/
def validateAud (claims : Obj) : Except JwtError Unit :=
  if (claims.get "aud").truthy then .error .invalidToken else .ok ()

/-- The checks of the registered claims. -/
def validateClaims (claims : Obj) (now : Instant) : Except JwtError Unit := do
  validateRequired claims
  validateIat claims now
  validateNbf claims now
  validateExp claims now
  validateAud claims

/-- `jwt.encode` and `jwt.decode` under one secret. The two equations are what is assumed of the
package: a token that was signed here is read with its claims, subject to the checks of the
registered ones, and no other token is read at all. -/
structure Jwt where
  Token : Type
  encode : Obj → Token
  decode : Token → Instant → Except JwtError Obj
  decode_encode : ∀ claims now,
    decode (encode claims) now = (validateClaims claims now).map fun _ => claims
  decode_other : ∀ token now, (∀ claims, token ≠ encode claims) →
    decode token now = .error .invalidToken

/-- What was signed is read while its claims are valid. -/
theorem Jwt.decode_encode_eq_ok {jwt : Jwt} {signed claims : Obj} {now : Instant} :
    jwt.decode (jwt.encode signed) now = .ok claims ↔
      claims = signed ∧ validateClaims signed now = .ok () := by
  rw [jwt.decode_encode]
  cases validateClaims signed now with
  | error e => simp [Except.map]
  | ok u => simp [Except.map, eq_comm]

/-- Only what was signed is read, and only as it was signed. -/
theorem Jwt.decode_eq_ok {jwt : Jwt} {token : jwt.Token} {now : Instant} {claims : Obj} :
    jwt.decode token now = .ok claims ↔
      token = jwt.encode claims ∧ validateClaims claims now = .ok () := by
  constructor
  · intro h
    by_cases hother : ∃ signed, token = jwt.encode signed
    · obtain ⟨signed, rfl⟩ := hother
      obtain ⟨rfl, hvalid⟩ := Jwt.decode_encode_eq_ok.mp h
      exact ⟨rfl, hvalid⟩
    · rw [jwt.decode_other token now (not_exists.mp hother)] at h
      cases h
  · rintro ⟨rfl, hvalid⟩
    exact Jwt.decode_encode_eq_ok.mpr ⟨rfl, hvalid⟩

/-- The registered claims admit the token at `now`. -/
structure InForce (claims : Obj) (issued expires : ℤ) (now : Instant) : Prop where
  issued : seconds issued ≤ now
  started : ∀ value, claims.find "nbf" = some value →
    ∃ n, claimInt value = .ok n ∧ seconds n ≤ now
  unexpired : now < seconds expires
  audience : (claims.get "aud").truthy = false

/-- A check passes when its condition does not hold. -/
theorem check_eq_ok {p : Prop} [Decidable p] {e : JwtError} :
    (if p then .error e else .ok () : Except JwtError Unit) = .ok () ↔ ¬ p := by
  by_cases hp : p
  · simp [hp]
  · simp [hp]

/-- The claim `nbf` is a time that has come, or absent. -/
theorem validateNbf_eq_ok {claims : Obj} {now : Instant} :
    validateNbf claims now = .ok () ↔ ∀ value, claims.find "nbf" = some value →
      ∃ n, claimInt value = .ok n ∧ seconds n ≤ now := by
  unfold validateNbf
  cases hnbf : claims.find "nbf" with
  | none => simp
  | some value =>
      constructor
      · rintro h _ ⟨⟩
        obtain ⟨n, hn, hcheck⟩ := bind_eq_ok.mp h
        exact ⟨n, hn, not_lt.mp (check_eq_ok.mp hcheck)⟩
      · intro h
        obtain ⟨n, hn, hle⟩ := h value rfl
        exact bind_eq_ok.mpr ⟨n, hn, check_eq_ok.mpr (not_lt.mpr hle)⟩

/-- The checks, for a token whose times are numbers. -/
theorem validateClaims_eq_ok {claims : Obj} {issued expires : ℤ} {now : Instant}
    (hiat : claims.get "iat" = .int issued) (hexp : claims.get "exp" = .int expires) :
    validateClaims claims now = .ok () ↔ InForce claims issued expires now := by
  have hrequired : validateRequired claims = .ok () := by
    refine check_eq_ok.mpr ?_
    rw [hiat, hexp]
    rintro (h | h)
    · cases h
    · cases h
  have hchecked : validateIat claims now = .ok () ↔ seconds issued ≤ now := by
    unfold validateIat
    rw [hiat]
    exact check_eq_ok.trans not_lt
  have hunexpired : validateExp claims now = .ok () ↔ now < seconds expires := by
    unfold validateExp
    rw [hexp]
    exact check_eq_ok.trans not_le
  have haudience : validateAud claims = .ok () ↔ (claims.get "aud").truthy = false :=
    check_eq_ok.trans (Bool.not_eq_true _ ▸ Iff.rfl)
  -- the checks run one after another, each only if those before it pass
  constructor
  · intro h
    obtain ⟨⟨⟩, -, h⟩ := bind_eq_ok.mp h
    obtain ⟨⟨⟩, hissued, h⟩ := bind_eq_ok.mp h
    obtain ⟨⟨⟩, hstarted, h⟩ := bind_eq_ok.mp h
    obtain ⟨⟨⟩, hexpires, h⟩ := bind_eq_ok.mp h
    exact ⟨hchecked.mp hissued, validateNbf_eq_ok.mp hstarted, hunexpired.mp hexpires,
      haudience.mp h⟩
  · rintro ⟨hissued, hstarted, hexpires, haud⟩
    refine bind_eq_ok.mpr ⟨(), hrequired, ?_⟩
    refine bind_eq_ok.mpr ⟨(), hchecked.mpr hissued, ?_⟩
    refine bind_eq_ok.mpr ⟨(), validateNbf_eq_ok.mpr hstarted, ?_⟩
    exact bind_eq_ok.mpr ⟨(), hunexpired.mpr hexpires, haudience.mpr haud⟩

/-- A token that shows what was signed, or a text that was not. -/
inductive SealedToken
  | signed (claims : Obj)
  | unsigned (text : String)

/-- A package whose tokens show what was signed, for examples. -/
def Jwt.sealed : Jwt where
  Token := SealedToken
  encode := .signed
  decode
    | .signed claims, now => (validateClaims claims now).map fun _ => claims
    | .unsigned _, _ => .error .invalidToken
  decode_encode _ _ := rfl
  decode_other token now h := by
    cases token with
    | signed claims => exact absurd rfl (h claims)
    | unsigned text => rfl

/-! ## Minting and reading -/

/-- The settings of tokens. -/
structure TokenSettings where
  accessTokenExpireMinutes : ℕ := 15
  refreshTokenExpireDays : ℕ := 7

/-- The registered claims of a token: `to_encode.update(…)`, where the package writes times
in whole seconds. -/
def registeredClaims (data : Obj) (expire now : Instant) (kind : String) : Obj :=
  ((data.set "exp" (.int (expire / 1000000))).set "iat" (.int (now / 1000000))).set "type"
    (.str kind)

/-- When an access token expires: `expires_delta or timedelta(…)`. -/
def TokenSettings.accessExpiry (settings : TokenSettings) (expiresDelta : Option ℤ)
    (now : Instant) : Instant :=
  match expiresDelta.filter (fun delta => decide (delta ≠ 0)) with
  | some delta => now + delta
  | none => now + minutes settings.accessTokenExpireMinutes

/-- When a refresh token expires. -/
def TokenSettings.refreshExpiry (settings : TokenSettings) (now : Instant) : Instant :=
  now + hours (24 * settings.refreshTokenExpireDays)

section Tokens

variable (jwt : Jwt) (settings : TokenSettings)

/-- `create_access_token`. -/
def createAccessToken (data : Obj) (expiresDelta : Option ℤ) (now : Instant) : jwt.Token :=
  jwt.encode (registeredClaims data (settings.accessExpiry expiresDelta now) now "access")

/-- `create_refresh_token`. -/
def createRefreshToken (data : Obj) (now : Instant) : jwt.Token :=
  jwt.encode (registeredClaims data (settings.refreshExpiry now) now "refresh")

end Tokens

/-- What the routes raise. -/
inductive AccessError
  | authentication (detail : String)
  | validation (detail : String)
  | http (exception : HttpException)
  /-- Any other exception. -/
  | raised
  deriving DecidableEq

/-- `decode_token`. -/
def decodeToken (jwt : Jwt) (token : jwt.Token) (now : Instant) : Except AccessError Obj :=
  match jwt.decode token now with
  | .ok claims => .ok claims
  | .error .expiredSignature => .error (.authentication "Token has expired")
  | .error .invalidToken => .error (.authentication "Invalid token")
  | .error .raised => .error .raised

/-- The subject of a token, as a user id. -/
def subjectId (claims : Obj) : Except AccessError ℕ :=
  if (claims.get "sub").truthy then
    match parseUuid (claims.get "sub").text with
    | some id => .ok id
    | none => .error (.authentication "Token subject is not a valid user id")
  else .error (.authentication "Token missing subject claim")

/-- The `Authorization` header: what stands before the first blank, and the token after
it. -/
structure AuthorizationHeader (jwt : Jwt) where
  scheme : String
  token : jwt.Token

/-- `HTTPBearer(auto_error=False)`. -/
def bearerToken {jwt : Jwt} (header : Option (AuthorizationHeader jwt)) : Option jwt.Token :=
  (header.filter fun h => decide (lower h.scheme = "bearer")).map AuthorizationHeader.token

/-- `get_current_user_id`. -/
def getCurrentUserId {jwt : Jwt} (header : Option (AuthorizationHeader jwt)) (now : Instant) :
    Except AccessError ℕ :=
  match bearerToken header with
  | none => .error (.authentication "Missing bearer token")
  | some token => do
      let claims ← decodeToken jwt token now
      if claims.get "type" ≠ .str "access" then .error (.authentication "Invalid token type")
      else subjectId claims

end AfricaFrontier
