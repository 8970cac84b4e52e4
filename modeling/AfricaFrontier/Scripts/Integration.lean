import AfricaFrontier.Scripts.Sandbox

/-!
# The sandbox integration script (`scripts/kora_sandbox_integration.py`)

A quote, a pay-in and one or two payouts against the provider's sandbox.  The pay-in is
authorized only when the script was started with `--execute` and the provider asks for a code;
payouts are ordered only when the pay-in was accepted, each under a reference of its own
(`integration_due`).

What is printed on the way is left out.

The script is a dialogue: it asks, is answered in any way at all, and goes on. `Due` is what it
may ask at a point of that dialogue, in terms of what was exchanged so far, and
`meets_integration` goes through the script once, part after part from the end: the payouts
(`meets_payOuts`), the authorization (`meets_authorize`), the charge (`meets_charge`).
-/

namespace AfricaFrontier

open Python Dialogue

namespace Integration

section Script

variable (host : ScriptHost)

/-- What the script reads from the environment before its first request. -/
structure Fixtures where
  amount : DecimalValue
  currency : String
  payoutCurrency : String
  phone : String
  email : String
  mobileOperator : String
  mobileNumber : String
  bankCode : String
  accountNumber : String

/-- `fixtures`; a text that is no number raises. -/
def fixtures : Except KoraRaise Fixtures :=
  match DecimalValue.read (host.env "KORA_TEST_AMOUNT" "100000") with
  | none => .error .other
  | some amount =>
      .ok
        { amount
          currency := host.upper (host.env "KORA_TEST_CURRENCY" "XOF")
          payoutCurrency :=
            host.upper (host.env "KORA_TEST_PAYOUT_CURRENCY" (host.env "KORA_TEST_CURRENCY" "XOF"))
          phone := host.env "KORA_TEST_PHONE" ""
          email := host.env "KORA_TEST_EMAIL" "sandbox@example.invalid"
          mobileOperator := host.env "KORA_TEST_MOBILE_OPERATOR" ""
          mobileNumber := host.env "KORA_TEST_MOBILE_NUMBER" ""
          bankCode := host.env "KORA_TEST_BANK_CODE" ""
          accountNumber := host.env "KORA_TEST_ACCOUNT_NUMBER" "" }

/-- The fixtures, when those that have no default are given. -/
def requiredFixtures : Except KoraRaise Fixtures := do
  let f ← fixtures host
  if f.phone = "" ∨ f.mobileOperator = "" ∨ f.mobileNumber = "" then
    .error (.runtime "Sandbox phone, mobile operator and mobile number fixtures are required")
  else .ok f

/-- An amount read from the environment. -/
@[irreducible] def envAmount (key default : String) : Except KoraRaise DecimalValue :=
  match DecimalValue.read (host.env key default) with
  | some amount => .ok amount
  | none => .error .other

/-- The beginning of the references of one run. -/
def reference : String := "afm-sbx-" ++ host.urandomHex

/-- The charge. -/
def charge (f : Fixtures) : MobileMoneyCharge where
  amount := f.amount
  currency := f.currency
  reference := reference host ++ "-payin"
  phoneNumber := f.phone
  customerEmail := f.email
  metadata := [("afm_test", .str "true"), ("execution_mode", .str "sandbox")]

/-- The authorization, if it is allowed and asked for. -/
def authorize (settings : KoraSettings) (execute : Bool) (payin : Obj) : KoraProgram Unit :=
  if execute = true ∧ payin.get "auth_model" = .str "OTP" then
    if host.env "KORA_TEST_OTP" "" = "" then
      .raise (.runtime "KORA_TEST_OTP is required only for an OTP sandbox response")
    else
      (settings.authorizeMobileMoney (payin.get "transaction_reference").text
        (host.env "KORA_TEST_OTP" "")).bind fun _ => .ret ()
  else .ret ()

/-- The payout to a wallet. -/
def mobilePayout (f : Fixtures) (amount : DecimalValue) : PayoutOrder where
  reference := reference host ++ "-payout-mobile"
  amount := amount
  currency := f.payoutCurrency
  customerEmail := f.email
  mobileMoneyOperator := some f.mobileOperator
  mobileNumber := some f.mobileNumber

/-- The payout to a bank account. -/
def bankPayout (f : Fixtures) (amount : DecimalValue) : PayoutOrder where
  reference := reference host ++ "-payout-bank"
  amount := amount
  currency := host.upper (host.env "KORA_TEST_BANK_CURRENCY" "NGN")
  customerEmail := f.email
  bankCode := some f.bankCode
  accountNumber := some f.accountNumber
  bankCountry := some (host.env "KORA_TEST_BANK_COUNTRY" "NG")

/-- A payout of an amount from the environment. -/
def payOut (settings : KoraSettings) (key : String) (order : DecimalValue → PayoutOrder) :
    KoraProgram Obj :=
  (ofExcept (envAmount host key "1000")).bind fun amount =>
    settings.createPayout host.toKoraHost (order amount)

/-- The part of `run` from the payouts on. -/
def payOuts (settings : KoraSettings) (f : Fixtures) : KoraProgram ℕ :=
  (payOut host settings "KORA_TEST_PAYOUT_AMOUNT" (mobilePayout host f)).bind fun _ =>
    if f.bankCode ≠ "" ∧ f.accountNumber ≠ "" then
      (payOut host settings "KORA_TEST_BANK_AMOUNT" (bankPayout host f)).bind fun _ => .ret 0
    else .ret 0

/-- `run`: the exit code. The requests are a quote, a charge, for an executed run its
authorization, and the payouts. -/
def integration (execute : Bool) : KoraProgram ℕ :=
  (ofExcept host.settingsFromEnv).bind fun settings =>
    (ofExcept (requiredFixtures host)).bind fun f =>
      (settings.getExchangeRate host.toKoraHost f.amount f.currency "USD"
          (reference host ++ "-quote")).bind fun _ =>
        (settings.initiateMobileMoneyCharge host.toKoraHost (charge host f)).bind fun payin =>
          (authorize host settings execute payin).bind fun _ => payOuts host settings f

end Script

/-! ## What the script may ask

The rule is stated on the transcript alone; it names the checks of the source by what they have to
find there. -/

/-- The request orders a payout. -/
def IsPayout (q : KoraRequest) : Prop := q.path = "transactions/disburse"

/-- The pay-in was accepted with this answer. -/
def Accepted (t : Transcript) (payin : Obj) : Prop :=
  ∃ x ∈ t, x.1.path = "charges/mobile-money" ∧ x.1.settings.read x.2 = .ok payin

/-- What the script may ask when `t` was exchanged. -/
structure Due (host : ScriptHost) (execute : Bool) (t : Transcript) (q : KoraRequest) : Prop where
  sandbox : SandboxSettings host q.settings
  payin : q.path = "charges/mobile-money" → ∀ x ∈ t, x.1.path ≠ "charges/mobile-money"
  authorization : q.path = "charges/mobile-money/authorize" →
    execute = true ∧ ∃ payin, Accepted t payin ∧ payin.get "auth_model" = .str "OTP"
  payout : IsPayout q → (∃ payin, Accepted t payin) ∧
    ∀ x ∈ t, IsPayout x.1 → x.1.field "reference" ≠ q.field "reference"
  bounded : t.length < 5

/-- Code zero means that everything was answered, and a payout was among it. Nothing is said of
other codes. -/
def Exits (t : Transcript) (r : Except KoraRaise ℕ) : Prop :=
  exitCode r = 0 → (∀ x ∈ t, ∃ data, x.1.settings.read x.2 = .ok data) ∧ ∃ x ∈ t, IsPayout x.1

section Run

variable {host : ScriptHost} {settings : KoraSettings} {execute : Bool} {t : Transcript} {n : ℕ}

/-- An error exits with another code. -/
theorem exits_error (e : KoraRaise) : Exits t (.error e) := fun h => absurd h (exitCode_error e)

/-- At most `n` requests, all of them answered. -/
structure Answered (n : ℕ) (t : Transcript) : Prop where
  length : t.length ≤ n
  read : ∀ x ∈ t, ∃ data, x.1.settings.read x.2 = .ok data

/-- Nothing was asked. -/
theorem Answered.nil : Answered n [] :=
  ⟨Nat.zero_le n, fun _ hx => absurd hx List.not_mem_nil⟩

/-- One more request was answered. -/
theorem Answered.snoc (h : Answered n t) {q : KoraRequest} {outcome : HttpOutcome} {data : Obj}
    (hread : q.settings.read outcome = .ok data) : Answered (n + 1) (t ++ [(q, outcome)]) where
  length := by
    rw [List.length_append]
    exact Nat.add_le_add_right h.length 1
  read x hx := by
    rcases List.mem_append.mp hx with hx | hx
    · exact h.read x hx
    · obtain rfl := List.mem_singleton.mp hx
      exact ⟨data, hread⟩

/-- What was accepted stays accepted. -/
theorem Accepted.append {payin : Obj} (h : Accepted t payin) (s : Transcript) :
    Accepted (t ++ s) payin := by
  obtain ⟨x, hx, haccepted⟩ := h
  exact ⟨x, List.mem_append.mpr (Or.inl hx), haccepted⟩

/-- A payout under a reference that no payout before had. -/
theorem due_payout (hsandbox : SandboxSettings host settings) {payin : Obj}
    (haccepted : Accepted t payin) (hlength : t.length < 5) {order : PayoutOrder}
    {destination : Obj}
    (hnew : ∀ x ∈ t, IsPayout x.1 → x.1.field "reference" ≠ .str order.reference) :
    Due host execute t
      ⟨settings, .post, "transactions/disburse", some (order.body destination)⟩ where
  sandbox := hsandbox
  payin h := absurd h (by decide : ¬ "transactions/disburse" = "charges/mobile-money")
  authorization h :=
    absurd h (by decide : ¬ "transactions/disburse" = "charges/mobile-money/authorize")
  payout _ := ⟨⟨payin, haccepted⟩, hnew⟩
  bounded := hlength

/-- The rule of a payout: it is refused, or ordered and answered. -/
theorem meets_payOut (hsandbox : SandboxSettings host settings) {payin : Obj}
    (haccepted : Accepted t payin) (hanswered : Answered n t) (hlength : n < 5) {key : String}
    {order : DecimalValue → PayoutOrder} {name : String} (hname : ∀ a, (order a).reference = name)
    (hnew : ∀ x ∈ t, IsPayout x.1 → x.1.field "reference" ≠ .str name) {f : Obj → KoraProgram ℕ}
    (hrest : ∀ q outcome data, IsPayout q → q.field "reference" = .str name →
      q.settings.read outcome = .ok data →
        Meets (Due host execute) Exits (t ++ [(q, outcome)]) (f data)) :
    Meets (Due host execute) Exits t ((payOut host settings key order).bind f) := by
  unfold payOut
  rw [meets_bind, meets_bind, meets_ofExcept]
  cases envAmount host key "1000" with
  | error e => exact exits_error e
  | ok amount =>
      refine meets_createPayout hsandbox.secretKey_ne exits_error fun destination => ?_
      have hdue : Due host execute t ⟨settings, .post, "transactions/disburse",
          some ((order amount).body destination)⟩ := by
        refine due_payout hsandbox haccepted (hanswered.length.trans_lt hlength) ?_
        rw [hname]
        exact hnew
      have hreference : KoraRequest.field ⟨settings, .post, "transactions/disburse",
          some ((order amount).body destination)⟩ "reference" = .str name :=
        congrArg Json.str (hname amount)
      refine ⟨hdue, fun outcome => ?_⟩
      cases hread : settings.read outcome with
      | error e => exact exits_error e
      | ok data => exact hrest _ outcome data rfl hreference hread

/-- An authorization is no other request. -/
theorem authorize_ne : "charges/mobile-money/authorize" ≠ "charges/mobile-money" ∧
    "charges/mobile-money/authorize" ≠ "transactions/disburse" := by
  decide

/-- The two payouts have references of their own. -/
theorem reference_ne :
    (reference host ++ "-payout-mobile") ≠ (reference host ++ "-payout-bank") := by
  intro h
  have htext := congrArg String.toList h
  simp at htext

/-- What the script ends with. -/
theorem exits_zero (hanswered : Answered n t) {q : KoraRequest} {outcome : HttpOutcome} {data : Obj}
    (hpayout : IsPayout q) (hread : q.settings.read outcome = .ok data) :
    Exits (t ++ [(q, outcome)]) (.ok 0) :=
  fun _ => ⟨(hanswered.snoc hread).read, (q, outcome),
    List.mem_append.mpr (Or.inr (List.mem_singleton.mpr rfl)), hpayout⟩

/-- The payout to a bank account, after the other one. -/
theorem meets_bankPayout (hsandbox : SandboxSettings host settings) {payin : Obj} {f : Fixtures}
    (haccepted : Accepted t payin) (hanswered : Answered 4 t)
    (hmobile : ∀ x ∈ t, IsPayout x.1 →
      x.1.field "reference" = .str (reference host ++ "-payout-mobile")) :
    Meets (Due host execute) Exits t
      ((payOut host settings "KORA_TEST_BANK_AMOUNT" (bankPayout host f)).bind
        fun _ => .ret 0) := by
  have hname : ∀ a, (bankPayout host f a).reference = reference host ++ "-payout-bank" :=
    fun _ => rfl
  refine meets_payOut hsandbox haccepted hanswered (by decide) hname ?_ ?_
  · intro x hx hpayout hsame
    rw [hmobile x hx hpayout] at hsame
    exact reference_ne (Json.str.inj hsame)
  · intro q outcome data hpayout _ hread
    exact exits_zero hanswered hpayout hread

/-- From the payouts on. -/
theorem meets_payOuts (hsandbox : SandboxSettings host settings) {payin : Obj} {f : Fixtures}
    (haccepted : Accepted t payin) (hanswered : Answered 3 t)
    (hnone : ∀ x ∈ t, ¬ IsPayout x.1) :
    Meets (Due host execute) Exits t (payOuts host settings f) := by
  have hname : ∀ a, (mobilePayout host f a).reference = reference host ++ "-payout-mobile" :=
    fun _ => rfl
  refine meets_payOut hsandbox haccepted hanswered (by decide) hname
    (fun x hx hpayout => absurd hpayout (hnone x hx)) ?_
  intro q outcome data hpayout hreference hread
  split_ifs with hbank
  · refine meets_bankPayout hsandbox (haccepted.append _) (hanswered.snoc hread) ?_
    intro x hx hpayoutx
    rcases List.mem_append.mp hx with hx | hx
    · exact absurd hpayoutx (hnone x hx)
    · obtain rfl := List.mem_singleton.mp hx
      exact hreference
  · exact exits_zero hanswered hpayout hread

/-- The authorization: nothing, or a request that was answered. -/
theorem meets_authorize (hsandbox : SandboxSettings host settings) {payin : Obj} {f : Fixtures}
    (haccepted : Accepted t payin) (hanswered : Answered 2 t)
    (hnone : ∀ x ∈ t, ¬ IsPayout x.1) :
    Meets (Due host execute) Exits t
      ((authorize host settings execute payin).bind fun _ => payOuts host settings f) := by
  have hlength := hanswered.length
  unfold authorize KoraSettings.authorizeMobileMoney
  split_ifs with hallowed htoken
  · exact exits_error _
  · rw [meets_bind, meets_bind, meets_request hsandbox.secretKey_ne]
    refine ⟨⟨hsandbox, ?_, fun _ => ⟨hallowed.1, payin, haccepted, hallowed.2⟩, ?_, ?_⟩,
      fun outcome => ?_⟩
    · exact fun h => absurd h authorize_ne.1
    · exact fun h => absurd h authorize_ne.2
    · show t.length < 5
      omega
    · cases hread : settings.read outcome with
      | error e => exact exits_error e
      | ok data =>
          refine meets_payOuts hsandbox (haccepted.append _) (hanswered.snoc hread) fun x hx => ?_
          rcases List.mem_append.mp hx with hx | hx
          · exact hnone x hx
          · obtain rfl := List.mem_singleton.mp hx
            exact authorize_ne.2
  · exact meets_payOuts hsandbox haccepted ⟨hlength.trans (by decide), hanswered.read⟩ hnone

/-- From the charge on. -/
theorem meets_charge (hsandbox : SandboxSettings host settings) {f : Fixtures}
    (hanswered : Answered 1 t) (hrates : ∀ x ∈ t, x.1.path = "conversions/rates") :
    Meets (Due host execute) Exits t
      ((settings.initiateMobileMoneyCharge host.toKoraHost (charge host f)).bind fun payin =>
        (authorize host settings execute payin).bind fun _ => payOuts host settings f) := by
  rw [meets_bind]
  refine meets_initiateMobileMoneyCharge hsandbox.secretKey_ne exits_error fun value _ => ?_
  refine ⟨⟨hsandbox, fun _ x hx => ?_, ?_, ?_, hanswered.length.trans_lt (by decide)⟩,
    fun outcome => ?_⟩
  · rw [hrates x hx]
    decide
  · exact fun h => absurd h.symm authorize_ne.1
  · exact fun h => absurd h (by decide : ¬ "charges/mobile-money" = "transactions/disburse")
  cases hpayin : settings.read outcome with
  | error e => exact exits_error e
  | ok payin =>
      refine meets_authorize hsandbox ⟨_, List.mem_append.mpr (Or.inr (List.mem_singleton.mpr rfl)),
        rfl, hpayin⟩ (hanswered.snoc hpayin) fun x hx hpayout => ?_
      rcases List.mem_append.mp hx with hx | hx
      · exact absurd ((hrates x hx).symm.trans hpayout) (by decide)
      · obtain rfl := List.mem_singleton.mp hx
        exact absurd hpayout (by decide : ¬ "charges/mobile-money" = "transactions/disburse")

/-- The script asks only what is due. -/
theorem meets_integration (host : ScriptHost) (execute : Bool) :
    Meets (Due host execute) Exits [] (integration host execute) := by
  unfold integration
  rw [meets_bind, meets_ofExcept]
  cases hsettings : host.settingsFromEnv with
  | error e => exact exits_error e
  | ok settings =>
  have hsandbox := SandboxSettings.of_env hsettings
  simp only [Then]
  rw [meets_bind, meets_ofExcept]
  cases requiredFixtures host with
  | error e => exact exits_error e
  | ok f =>
  simp only [Then]
  rw [meets_bind]
  refine meets_getExchangeRate hsandbox.secretKey_ne exits_error fun value q hq => ?_
  subst hq
  refine ⟨⟨hsandbox, ?_, ?_, ?_, by decide⟩, fun outcome => ⟨exits_error, ?_⟩⟩
  · exact fun h => absurd h (by decide : ¬ "conversions/rates" = "charges/mobile-money")
  · exact fun h => absurd h (by decide : ¬ "conversions/rates" = "charges/mobile-money/authorize")
  · exact fun h => absurd h (by decide : ¬ "conversions/rates" = "transactions/disburse")
  · intro data quote hread
    refine meets_charge hsandbox (Answered.nil.snoc hread) fun x hx => ?_
    obtain rfl := List.mem_singleton.mp hx
    rfl

/-- **What the script asks**, whatever it is answered, is due: it runs in the sandbox with a
test key, starts one pay-in, authorizes it only with `--execute` and where the provider wants a
code, orders payouts under references of their own once the pay-in was accepted, and sends at
most five requests; and it ends with zero only when all of them were answered. -/
theorem integration_due (host : ScriptHost) (execute : Bool)
    (server : Transcript → KoraRequest → HttpOutcome) :
    Throughout (Due host execute) (run server [] (integration host execute)).1 ∧
      Exits (run server [] (integration host execute)).1
        (run server [] (integration host execute)).2 :=
  ⟨(meets_integration host execute).throughout throughout_nil server,
    (meets_integration host execute).ends server⟩

end Run

end Integration

end AfricaFrontier
