import AfricaFrontier.Payments.Models
import Mathlib.Data.List.DropRight

/-!
# The identity tables

The rows of `User` and `UserOtpChallenge`, as `api_gateway/auth.py` reads and writes
them, with the columns declared unique: the e-mail address, and the OAuth subject where
there is one.

`is_active` is the text the column holds.  `AuthConfig` carries the settings the routes
read and what they compute with and this development does not look into: the keyed digest
of a code, password hashes, tokens, and the character tables of `str.lower`, `str.upper`
and `str.isdigit`.

A table hands out its own primary keys, and a key clash fails a commit as the unique constraint
would; so a user is found by address or by identity at most once (`User.eq_of_email`), which no
route checks.

Two normal forms matter to what follows. `normalizePhone` keeps the digits of a number and puts a
plus sign before them, `normalizeEmail` strips a text and lowers it, and both are the identity on
what they have produced; `register` and the mobile sign-in use neither of them on the address.
-/

namespace AfricaFrontier

open Python Relational

/-- The identity state a user row stores. -/
inductive KycStatus
  | pending
  | verified
  deriving DecidableEq, Repr

/-- A row of the user table, with the columns the identity routes read or write. -/
structure User where
  id : ℕ
  email : String
  oauthSubject : Option String := none
  hashedPassword : Option String := none
  fullName : Option String := none
  /-- The legacy alias of the WhatsApp number. -/
  phone : Option String := none
  whatsappPhone : Option String := none
  mobileMoneyPhone : Option String := none
  country : Option String := none
  isActive : String := "1"
  kycStatus : KycStatus := .pending
  dateOfBirth : Option String := none
  emailVerifiedAt : Option Instant := none
  phoneVerifiedAt : Option Instant := none
  identityConsentAt : Option Instant := none
  termsAcceptedAt : Option Instant := none
  termsVersion : Option String := none
  amlPolicyVersion : Option String := none
  deriving DecidableEq

/-- What a challenge is for. -/
inductive OtpPurpose
  | signup
  | phoneVerify
  deriving DecidableEq, Repr

/-- The text of a purpose. -/
def OtpPurpose.value : OtpPurpose → String
  | .signup => "signup"
  | .phoneVerify => "phone_verify"

/-- A one-time code that was sent out; the code itself is not stored. -/
structure UserOtpChallenge where
  id : ℕ
  email : String
  phone : Option String := none
  purpose : OtpPurpose
  codeDigest : String
  attempts : ℕ := 0
  expiresAt : Instant
  consumedAt : Option Instant := none
  createdAt : Instant
  deriving DecidableEq

/-- The columns of a user that a constraint speaks about. -/
structure UserKey where
  id : ℕ
  email : String
  oauthSubject : Option String
  deriving DecidableEq

instance : Row User where
  Key := UserKey
  key r := ⟨r.id, r.email, r.oauthSubject⟩
  primary := UserKey.id
  Clash a b := a.email = b.email ∨ (a.oauthSubject ≠ none ∧ a.oauthSubject = b.oauthSubject)
  decClash _ _ := inferInstance

instance : Row UserOtpChallenge where
  Key := ℕ
  key r := r.id
  primary := id
  Clash _ _ := False
  decClash _ _ := inferInstance

@[simp] theorem User.ident_eq (r : User) : ident r = r.id := rfl

@[simp] theorem UserOtpChallenge.ident_eq (r : UserOtpChallenge) : ident r = r.id := rfl

/-- The committed state of the two tables. -/
structure AuthDb where
  users : Table User
  challenges : Table UserOtpChallenge

/-- A database without users. -/
def AuthDb.empty : AuthDb where
  users := Table.empty
  challenges := Table.empty

/-- An e-mail address has one user. -/
theorem User.eq_of_email {users : Table User} {u v : User} (hu : u ∈ users) (hv : v ∈ users)
    (h : u.email = v.email) : u = v := by
  refine Table.eq_of_clash hu hv ?_ (Or.inl h)
  rintro a b (hemail | ⟨hsubject, hsame⟩)
  · exact Or.inl hemail.symm
  · exact Or.inr ⟨hsame ▸ hsubject, hsame.symm⟩

/-! ## What the routes are configured with -/

/-- The settings the routes read, and what they compute with. -/
structure AuthConfig where
  isProduction : Bool
  otpExpireMinutes : ℕ := 10
  otpMaxAttempts : ℕ := 5
  otpExposeDevCode : Bool := false
  termsVersion : String := "2026-08-27"
  amlPolicyVersion : String := "2.1"
  mobileOauthExchangeSecret : Option String := none
  /-- `hmac.new(secret_key, …, sha256).hexdigest()`. -/
  hmac : String → String
  hashPassword : String → String
  createAccessToken : ℕ → Instant → String
  createRefreshToken : ℕ → Instant → String
  lower : String → String
  upper : String → String
  /-- `str.isdigit` of one character. -/
  isDigit : Char → Bool

/-- `_normalize_phone`. -/
def AuthConfig.normalizePhone (config : AuthConfig) (phone : String) : String :=
  "+" ++ String.ofList ((phone.toList.filter config.isDigit).dropWhile (· = '+'))

/-- `_otp_digest`. -/
def AuthConfig.otpDigest (config : AuthConfig) (purpose : OtpPurpose) (target code : String) :
    String :=
  config.hmac (purpose.value ++ ":" ++ target ++ ":" ++ code)

/-- `str(payload.email).strip().lower()`. -/
def AuthConfig.normalizeEmail (config : AuthConfig) (email : String) : String :=
  config.lower (strip email)

/-- `value` where it is truthy: given, and not the empty text. -/
def truthy (value : Option String) : Option String := value.filter fun text => text ≠ ""

/-- A text that is not empty is truthy. -/
theorem truthy_some {text : String} (h : text ≠ "") : truthy (some text) = some text := by
  simp [truthy, Option.filter, h]

theorem truthy_empty : truthy (some "") = none := rfl

/-- A normalised number is one already, whichever characters count as digits. -/
theorem AuthConfig.normalizePhone_idem (config : AuthConfig) (phone : String) :
    config.normalizePhone (config.normalizePhone phone) = config.normalizePhone phone := by
  let digits := (phone.toList.filter config.isDigit).dropWhile (· = '+')
  have hlist : (config.normalizePhone phone).toList = '+' :: digits := by
    simp [AuthConfig.normalizePhone, digits]
  have hdigits : digits.filter config.isDigit = digits := by
    refine List.filter_eq_self.mpr fun c hc => ?_
    exact (List.mem_filter.mp ((List.dropWhile_sublist _).subset hc)).2
  have hplus : digits.dropWhile (· = '+') = digits := List.dropWhile_idempotent _ _
  have hsame : (('+' :: digits).filter config.isDigit).dropWhile (· = '+') = digits := by
    -- the sign in front is no digit, or goes with the leading signs
    rw [List.filter_cons, hdigits]
    split
    · rw [List.dropWhile_cons_of_pos (by decide), hplus]
    · exact hplus
  rw [AuthConfig.normalizePhone, hlist, hsame]
  rfl

/-- A normalised number is not empty. -/
theorem AuthConfig.normalizePhone_ne_empty (config : AuthConfig) (phone : String) :
    config.normalizePhone phone ≠ "" := by
  intro h
  have hlist := congrArg String.toList h
  simp [AuthConfig.normalizePhone] at hlist

end AfricaFrontier
