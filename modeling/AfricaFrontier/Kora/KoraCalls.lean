import AfricaFrontier.Kora.KoraClient
import AfricaFrontier.Lib.Dialogue
import AfricaFrontier.Python.DecimalText
import AfricaFrontier.Auth.Models

/-!
# The calls of the Kora client (`payment_hub/kora_client.py`)

Each method of `KoraClient` as a program that talks to the provider: the checks before its
request, the request with its path and body, and what is read out of the answer.  A method sends
one request at most; `KoraSettings.request` is `_request`, and reads the outcome as
`KoraClient.request` does.

A program of the provider's client is a dialogue of `Lib/Dialogue`: it asks a request, and goes on
with any outcome of it. The two scripts are programs of this kind, and for them each method has a
rule: what it asks, and what is known of the transcript when it returns or raises (`meets_request`
and the rules after it).
-/

namespace AfricaFrontier

open Python

/-! ## Requests

Path, method and body, as they are sent; the URL and the headers follow from the settings. -/

/-- What a call raises. -/
inductive KoraRaise
  /-- `KoraClientError`. -/
  | client (message : String)
  /-- Another `RuntimeError`. -/
  | runtime (message : String)
  /-- Any other exception. -/
  | other
  deriving DecidableEq

/-- The settings of the client. -/
structure KoraSettings where
  secretKey : String
  apiBaseUrl : String

/-- The methods that are used. -/
inductive HttpMethod
  | get
  | post
  deriving DecidableEq

/-- One request; a `GET` has no body. -/
structure KoraRequest where
  settings : KoraSettings
  method : HttpMethod
  path : String
  json : Option Obj

/-- The URL of a request. -/
def KoraRequest.url (q : KoraRequest) : String :=
  String.ofList ((q.settings.apiBaseUrl.toList.reverse.dropWhile (· = '/')).reverse ++
    '/' :: q.path.toList.dropWhile (· = '/'))

/-- The headers of a request. -/
def KoraRequest.headers (q : KoraRequest) : List (String × String) :=
  [("Authorization", "Bearer " ++ q.settings.secretKey), ("Accept", "application/json"),
    ("Content-Type", "application/json")]

/-- A field of the body; none is the null of a missing one. -/
def KoraRequest.field (q : KoraRequest) (key : String) : Json := (q.json.getD []).get key

/-- Programs that talk to Kora. -/
abbrev KoraProgram (α : Type) : Type := Dialogue KoraRequest HttpOutcome KoraRaise α

/-- The tables of characters, and floats. -/
structure KoraHost where
  lower : String → String
  lower_empty : lower "" = ""
  upper : String → String
  /-- `float(amount)`; `none` is the `ValueError` of a signaling NaN. -/
  toFloat : DecimalValue → Option PyFloat

/-- `KoraClient._request`: one exchange with the server, and none where no key is set. -/
def KoraSettings.request (settings : KoraSettings) (method : HttpMethod) (path : String)
    (json : Option Obj) : KoraProgram Obj :=
  if settings.secretKey = "" then .raise (.client "Kora secret key is not configured")
  else
    .ask ⟨settings, method, path, json⟩ fun outcome =>
      match KoraClient.request settings.secretKey outcome with
      | .answered data => .ret data
      | .refused message => .raise (.client message)
      | .raised => .raise .other

/-- The fields that are given: `if value: payload[key] = value`. -/
def givenFields (fields : List (String × Option String)) : Obj :=
  fields.filterMap fun field => (truthy field.2).map fun value => (field.1, Json.str value)

/-- `float(amount)` in a body. -/
def KoraHost.amount (host : KoraHost) (amount : DecimalValue) : Except KoraRaise Json :=
  match host.toFloat amount with
  | some x => .ok (.float x)
  | none => .error .other

/-! ## The methods

Each with the checks it makes on its arguments before it sends anything. -/

/-- The result of `get_exchange_rate`. -/
structure KoraQuote where
  fromCurrency : String
  toCurrency : String
  fromAmount : DecimalValue
  toAmount : DecimalValue
  rate : DecimalValue
  reference : String
  expiryInSeconds : Json
  expiryDate : Json

section Methods

variable (host : KoraHost) (settings : KoraSettings)

/-- `Decimal(str(data[key]))`. -/
def decimalField (data : Obj) (key : String) : Option DecimalValue :=
  (data.find key).bind fun value => DecimalValue.read value.text

/-- What `get_exchange_rate` reads out of the answer. -/
def readQuote (amount : DecimalValue) (fromCurrency toCurrency reference : String) (data : Obj) :
    Except KoraRaise KoraQuote :=
  match decimalField data "rate", decimalField data "to_amount" with
  | some rate, some toAmount =>
      match rate.nonpos, toAmount.negative with
      | none, _ => .error .other
      | some true, _ => .error (.client "Kora exchange rate response is invalid")
      | some false, none => .error .other
      | some false, some true => .error (.client "Kora exchange rate response is invalid")
      | some false, some false =>
          match (data.find "from_amount").elim (some amount) fun v => DecimalValue.read v.text with
          | none => .error .other
          | some fromAmount =>
              .ok
                { fromCurrency := host.upper (data.getD "from_currency" (.str fromCurrency)).text
                  toCurrency := host.upper (data.getD "to_currency" (.str toCurrency)).text
                  fromAmount
                  toAmount
                  rate
                  reference := (data.getD "reference" (.str reference)).text
                  expiryInSeconds := data.get "expiry_in_seconds"
                  expiryDate := data.get "expiry_date" }
  | _, _ => .error (.client "Kora exchange rate response is malformed")

/-- The body of a request for a rate. -/
def quoteBody (fromCurrency toCurrency reference : String) (value : Json) : Obj :=
  [("amount", value), ("from_currency", .str (host.upper fromCurrency)),
    ("to_currency", .str (host.upper toCurrency)), ("reference", .str reference)]

/-- `get_exchange_rate`. -/
def KoraSettings.getExchangeRate (amount : DecimalValue) (fromCurrency toCurrency : String)
    (reference : String) : KoraProgram KoraQuote :=
  (Dialogue.ofExcept (host.amount amount)).bind fun value =>
    (settings.request .post "conversions/rates"
      (some (quoteBody host fromCurrency toCurrency reference value))).bind fun data =>
        Dialogue.ofExcept (readQuote host amount fromCurrency toCurrency reference data)

/-- The arguments of `initiate_mobile_money_charge`. -/
structure MobileMoneyCharge where
  amount : DecimalValue
  currency : String
  reference : String
  phoneNumber : String
  customerEmail : String
  customerName : Option String := none
  notificationUrl : Option String := none
  redirectUrl : Option String := none
  description : Option String := none
  merchantBearsCost : Bool := true
  metadata : Obj := []

/-- The body of a charge. -/
def MobileMoneyCharge.body (charge : MobileMoneyCharge) (value : Json) : Obj :=
  [("amount", value), ("currency", .str (host.upper charge.currency)),
    ("reference", .str charge.reference),
    ("customer", .obj [("email", .str charge.customerEmail),
      ("name", .str ((truthy charge.customerName).getD "AFM customer"))]),
    ("mobile_money", .obj [("number", .str charge.phoneNumber)]),
    ("merchant_bears_cost", .bool charge.merchantBearsCost)] ++
  givenFields [("notification_url", charge.notificationUrl), ("redirect_url", charge.redirectUrl),
    ("description", charge.description)] ++
  (if charge.metadata = [] then [] else [("metadata", .obj charge.metadata)])

/-- `initiate_mobile_money_charge`. -/
def KoraSettings.initiateMobileMoneyCharge (charge : MobileMoneyCharge) : KoraProgram Obj :=
  if charge.phoneNumber = "" ∨ charge.customerEmail = "" then
    .raise (.client "Mobile Money phone number and customer email are required")
  else
    (Dialogue.ofExcept (host.amount charge.amount)).bind fun value =>
      settings.request .post "charges/mobile-money" (some (charge.body host value))

/-- `authorize_mobile_money`. -/
def KoraSettings.authorizeMobileMoney (reference token : String) : KoraProgram Obj :=
  if token = "" then .raise (.client "OTP token is required")
  else
    settings.request .post "charges/mobile-money/authorize"
      (some [("reference", .str reference), ("token", .str token)])

/-- `verify_charge`. -/
def KoraSettings.verifyCharge (reference : String) : KoraProgram Obj :=
  settings.request .get ("charges/" ++ reference) none

/-- The arguments of `create_payout`. -/
structure PayoutOrder where
  reference : String
  amount : DecimalValue
  currency : String
  customerEmail : String
  customerName : Option String := none
  narration : Option String := none
  mobileMoneyOperator : Option String := none
  mobileNumber : Option String := none
  bankCountry : Option String := none
  bankName : Option String := none
  bankCode : Option String := none
  accountNumber : Option String := none

/-- Where the money goes, given the amount; or why it cannot. Mobile money needs the operator and
the number, a bank account its number and a bank. -/
def PayoutOrder.destination (order : PayoutOrder) : Except KoraRaise (Json → Obj) :=
  match truthy order.mobileMoneyOperator, truthy order.mobileNumber with
  | some mobileMoneyOperator, some mobileNumber =>
      .ok fun value =>
        [("type", .str "mobile_money"), ("amount", value),
          ("currency", .str (host.upper order.currency)),
          ("mobile_money", .obj [("operator", .str mobileMoneyOperator),
            ("mobile_number", .str mobileNumber)])]
  -- one of the two without the other is refused below
  | none, none =>
      match truthy order.accountNumber, (truthy order.bankCode).or (truthy order.bankName) with
      | some accountNumber, some _ =>
          .ok fun value =>
            [("type", .str "bank_account"), ("amount", value),
              ("currency", .str (host.upper order.currency)),
              ("bank_account", .obj (("account", .str accountNumber) ::
                givenFields [("bank", order.bankCode), ("bank_name", order.bankName)]))] ++
            (truthy order.bankCountry).toList.map fun country =>
              ("bank_country", .str (host.upper country))
      | _, _ => .error (.client "Bank code/name and account number are required")
  | _, _ => .error (.client "Mobile Money operator and number are both required")

/-- The body of a payout. -/
def PayoutOrder.body (order : PayoutOrder) (destination : Obj) : Obj :=
  [("reference", .str order.reference),
    ("destination", .obj (destination ++
      [("customer", .obj [("email", .str order.customerEmail),
        ("name", .str ((truthy order.customerName).getD "AFM beneficiary"))])] ++
      givenFields [("narration", order.narration)]))]

/-- `create_payout`. -/
def KoraSettings.createPayout (order : PayoutOrder) : KoraProgram Obj :=
  if order.reference.toList.length < 5 ∨ order.customerEmail = "" then
    .raise (.client "Payout reference and customer email are required")
  else
    (Dialogue.ofExcept (order.destination host)).bind fun destination =>
      (Dialogue.ofExcept (host.amount order.amount)).bind fun value =>
        settings.request .post "transactions/disburse" (some (order.body (destination value)))

/-- The arguments of `initiate_refund`. -/
structure RefundTerms where
  paymentReference : String
  refundReference : String
  amount : Option DecimalValue := none
  reason : Option String := none
  webhookUrl : Option String := none
  completionStatus : Option String := none
  statusReason : Option String := none

/-- The amount in the body of a refund. -/
def RefundTerms.amountField (order : RefundTerms) : Except KoraRaise Obj :=
  match order.amount with
  | none => .ok []
  | some amount =>
      match amount.nonpos with
      | none => .error .other
      | some true => .error (.client "Refund amount must be positive")
      | some false => (host.amount amount).map fun value => [("amount", value)]

/-- The body of a refund. -/
def RefundTerms.body (order : RefundTerms) (amountField : Obj) : Obj :=
  [("payment_reference", .str order.paymentReference), ("reference", .str order.refundReference)] ++
    amountField ++
    givenFields [("reason", order.reason), ("webhook_url", order.webhookUrl),
      ("completion_status", order.completionStatus), ("status_reason", order.statusReason)]

/-- `initiate_refund`. -/
def KoraSettings.initiateRefund (order : RefundTerms) : KoraProgram Obj :=
  if order.paymentReference = "" ∨ order.refundReference.toList.length < 5 ∨
      50 < order.refundReference.toList.length then
    .raise (.client "Payment and refund references are required")
  else
    (Dialogue.ofExcept (order.amountField host)).bind fun amountField =>
      settings.request .post "refunds/initiate" (some (order.body amountField))

/-- `get_refund`. -/
def KoraSettings.getRefund (refundReference : String) : KoraProgram Obj :=
  if refundReference = "" then .raise (.client "Refund reference is required")
  else settings.request .get ("refunds/" ++ refundReference) none

end Methods

/-! ## What a call does -/

/-- What `_request` makes of an outcome: the data, an error the scripts handle, or an exception
they do not. -/
def KoraSettings.read (settings : KoraSettings) (outcome : HttpOutcome) : Except KoraRaise Obj :=
  match KoraClient.request settings.secretKey outcome with
  | .answered data => .ok data
  | .refused message => .error (.client message)
  | .raised => .error .other

section Calls

open Dialogue

variable {host : KoraHost} {settings : KoraSettings}
  {pre : List (KoraRequest × HttpOutcome) → KoraRequest → Prop}
  {post : List (KoraRequest × HttpOutcome) → Except KoraRaise Obj → Prop}
  {t : List (KoraRequest × HttpOutcome)}

/-- The rule of a request. -/
theorem meets_request {method : HttpMethod} {path : String} {json : Option Obj}
    (hkey : settings.secretKey ≠ "") :
    Meets pre post t (settings.request method path json) ↔
      pre t ⟨settings, method, path, json⟩ ∧ ∀ outcome,
        post (t ++ [(⟨settings, method, path, json⟩, outcome)]) (settings.read outcome) := by
  have hbranch : ∀ outcome s, Meets pre post s
      (match KoraClient.request settings.secretKey outcome with
        | .answered data => .ret data
        | .refused message => .raise (.client message)
        | .raised => .raise .other : KoraProgram Obj) ↔ post s (settings.read outcome) := by
    intro outcome s
    unfold KoraSettings.read
    cases KoraClient.request settings.secretKey outcome <;> exact Iff.rfl
  unfold KoraSettings.request
  rw [if_neg hkey, meets_ask]
  exact and_congr_right fun _ => forall_congr' fun outcome => hbranch outcome _

/-- A request whose body depends on a value that may raise. -/
theorem meets_request_of {α : Type} {r : Except KoraRaise α} {method : HttpMethod} {path : String}
    {json : α → Option Obj} (hkey : settings.secretKey ≠ "") (hraise : ∀ e, post t (.error e))
    (hask : ∀ a, r = .ok a → pre t ⟨settings, method, path, json a⟩ ∧ ∀ outcome,
      post (t ++ [(⟨settings, method, path, json a⟩, outcome)]) (settings.read outcome)) :
    Meets pre post t ((ofExcept r).bind fun a => settings.request method path (json a)) := by
  rw [meets_bind, meets_ofExcept]
  cases r with
  | error e => exact hraise e
  | ok a => exact (meets_request hkey).mpr (hask a rfl)

/-- The rule of `get_exchange_rate`. -/
theorem meets_getExchangeRate
    {post : List (KoraRequest × HttpOutcome) → Except KoraRaise KoraQuote → Prop}
    {amount : DecimalValue} {fromCurrency toCurrency reference : String}
    (hkey : settings.secretKey ≠ "") (hraise : ∀ e, post t (.error e))
    (hask : ∀ value, ∀ q : KoraRequest, q = ⟨settings, .post, "conversions/rates",
        some (quoteBody host fromCurrency toCurrency reference value)⟩ →
      pre t q ∧ ∀ outcome, (∀ e, post (t ++ [(q, outcome)]) (.error e)) ∧
        ∀ data quote, settings.read outcome = .ok data → post (t ++ [(q, outcome)]) (.ok quote)) :
    Meets pre post t
      (settings.getExchangeRate host amount fromCurrency toCurrency reference) := by
  unfold KoraSettings.getExchangeRate
  rw [meets_bind, meets_ofExcept]
  cases host.amount amount with
  | error e => exact hraise e
  | ok value =>
      obtain ⟨hpre, hend⟩ := hask value _ rfl
      simp only [Then]
      rw [meets_bind, meets_request hkey]
      refine ⟨hpre, fun outcome => ?_⟩
      cases hread : settings.read outcome with
      | error e => exact (hend outcome).1 e
      | ok data =>
          simp only [Then]
          rw [meets_ofExcept]
          cases readQuote host amount fromCurrency toCurrency reference data with
          | error e => exact (hend outcome).1 e
          | ok quote => exact (hend outcome).2 data quote hread

/-- The rule of `initiate_mobile_money_charge`. -/
theorem meets_initiateMobileMoneyCharge {charge : MobileMoneyCharge}
    (hkey : settings.secretKey ≠ "") (hraise : ∀ e, post t (.error e))
    (hask : ∀ value, host.amount charge.amount = .ok value →
      pre t ⟨settings, .post, "charges/mobile-money", some (charge.body host value)⟩ ∧ ∀ outcome,
        post (t ++ [(⟨settings, .post, "charges/mobile-money", some (charge.body host value)⟩,
          outcome)]) (settings.read outcome)) :
    Meets pre post t (settings.initiateMobileMoneyCharge host charge) := by
  unfold KoraSettings.initiateMobileMoneyCharge
  split_ifs with hmissing
  · exact hraise _
  · exact meets_request_of hkey hraise hask

/-- The rule of `initiate_refund`. -/
theorem meets_initiateRefund {order : RefundTerms} (hkey : settings.secretKey ≠ "")
    (hraise : ∀ e, post t (.error e))
    (hask : ∀ field, order.amountField host = .ok field →
      pre t ⟨settings, .post, "refunds/initiate", some (order.body field)⟩ ∧ ∀ outcome,
        post (t ++ [(⟨settings, .post, "refunds/initiate", some (order.body field)⟩, outcome)])
          (settings.read outcome)) :
    Meets pre post t (settings.initiateRefund host order) := by
  unfold KoraSettings.initiateRefund
  split_ifs with hrefused
  · exact hraise _
  · exact meets_request_of hkey hraise hask

/-- The rule of `create_payout`. -/
theorem meets_createPayout {order : PayoutOrder} (hkey : settings.secretKey ≠ "")
    (hraise : ∀ e, post t (.error e))
    (hask : ∀ destination,
      pre t ⟨settings, .post, "transactions/disburse", some (order.body destination)⟩ ∧
        ∀ outcome, post (t ++ [(⟨settings, .post, "transactions/disburse",
          some (order.body destination)⟩, outcome)]) (settings.read outcome)) :
    Meets pre post t (settings.createPayout host order) := by
  unfold KoraSettings.createPayout
  split_ifs with hmissing
  · exact hraise _
  · rw [meets_bind, meets_ofExcept]
    cases order.destination host with
    | error e => exact hraise e
    | ok destination => exact meets_request_of hkey hraise fun value _ => hask (destination value)

end Calls

end AfricaFrontier
