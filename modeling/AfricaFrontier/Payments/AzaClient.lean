import AfricaFrontier.Kora.KoraClient
import AfricaFrontier.Payments.Simulation
import AfricaFrontier.Python.DecimalText

/-!
# The AZA client (`payment_hub/aza_client.py`) and its quotes

A public preview asks AZA to calculate a sandbox transaction along its corridor and reads the
amounts and the rate off the answer, which is any JSON object.

`AzaClient._request` turns the errors of the HTTP library and what it cannot decode into an
`AzaClientError`; the quote does the same with numbers it cannot read.  Nothing else is caught,
so `ProviderOutcome` and `QuoteOutcome` keep what is raised apart from what is refused.

An answer is read in the order of the source: the object and its first recipient, the input, the
output, the rate. Each of the three is a Decimal in Python's sense, infinities and NaN included
(`DecimalValue`), and the comparisons at the end are those of Python: a NaN raises, an infinite
number does not. Where no rate is stated it is the quotient of the amounts, in the context.
-/

namespace AfricaFrontier

open Python

/-! ## Corridors and transactions

The table of corridors, and the transaction that is sent for each of them. -/

/-- An entry of `AZA_CORRIDORS`. -/
structure AzaCorridor where
  source : String
  destination : String
  payoutType : String
  sourceCountry : String
  destinationCountry : String
  mobileProvider : String

/-- `AZA_CORRIDORS`. -/
def azaCorridors : List (String × AzaCorridor) :=
  [("cameroon-ivory-coast", ⟨"XAF", "XOF", "XOF::Mobile", "CM", "CI", "orange"⟩),
    ("ivory-coast-cameroon", ⟨"XOF", "XAF", "XAF::Mobile", "CI", "CM", "orange"⟩),
    ("ci-ghana", ⟨"XOF", "GHS", "GHS::Mobile", "CI", "GH", "mtn"⟩),
    ("ci-nigeria", ⟨"XOF", "NGN", "NGN::Bank", "CI", "NG", ""⟩),
    ("cameroon-nigeria", ⟨"XAF", "NGN", "NGN::Bank", "CM", "NG", ""⟩),
    ("benin-nigeria", ⟨"XOF", "NGN", "NGN::Bank", "BJ", "NG", ""⟩)]

/-- The corridor of a name. -/
def azaCorridor (name : String) : Option AzaCorridor := azaCorridors.lookup name

/-- The corridor of a request is one of them. -/
theorem exists_azaCorridor (payment : PaymentSimulationRequest) :
    ∃ corridor, azaCorridor payment.corridor = some corridor := by
  have hall : ∀ name ∈ simulationCorridors, (azaCorridor name).isSome = true := by
    decide
  exact Option.isSome_iff_exists.mp (hall payment.corridor payment.corridor_pattern)

/-- A recipient of a transaction; the amount is sent as a float. -/
structure AzaRecipient where
  requestedAmount : ℚ
  requestedCurrency : String
  payoutType : String
  details : Obj

/-- A sandbox transaction, as it is sent. -/
structure AzaTransaction where
  inputCurrency : String
  sender : Obj
  recipients : List AzaRecipient
  externalId : String
  metadata : Obj

/-- The phone numbers of the senders of a country. -/
def senderPhones : List (String × String) :=
  [("CM", "+237670000000"), ("CI", "+2250700000000"), ("BJ", "+229970000000")]

/-- The phone numbers of the recipients of a country. -/
def recipientPhones : List (String × String) :=
  [("CI", "+2250700000000"), ("CM", "+237670000000"), ("GH", "+233302123400")]

/-- The sender of a sandbox transaction. -/
def sandboxSender (country phone : String) : Obj :=
  [("type", .str "person"), ("country", .str country), ("phone_country", .str country),
    ("phone_number", .str (String.ofList (phone.toList.drop 4))),
    ("email", .str "sandbox@africafrontiermarkets.com"), ("first_name", .str "AFM"),
    ("last_name", .str "Sandbox"), ("city", .str "Test City"),
    ("street", .str "1 Sandbox Street"), ("postal_code", .str "00000"),
    ("birth_date", .str "1980-01-01"), ("ip", .str "127.0.0.1"), ("documents", .arr []),
    ("external_id", .str ("afm-sandbox-sender-" ++ lower country))]

/-- The details of a payout; `none` is a country without a phone number. -/
def sandboxDetails (corridor : AzaCorridor) : Option Obj :=
  let names : Obj := [("first_name", .str "AFM"), ("last_name", .str "Sandbox")]
  if corridor.payoutType = "NGN::Bank" then
    some (names ++ [("bank_code", .str "058"), ("bank_account", .str "12345678900"),
      ("street", .str "1 Sandbox Street")])
  else
    (recipientPhones.lookup corridor.destinationCountry).map fun phone =>
      names ++ [("mobile_provider", .str corridor.mobileProvider), ("phone_number", .str phone),
        ("country", .str corridor.destinationCountry)]

/-- `build_sandbox_transaction`; `none` is a `KeyError`. -/
def buildSandboxTransaction (corridor : AzaCorridor) (name : String) (amount : ℚ)
    (reference : String) : Option AzaTransaction := do
  let phone ← senderPhones.lookup corridor.sourceCountry
  let details ← sandboxDetails corridor
  return {
    inputCurrency := corridor.source
    sender := sandboxSender corridor.sourceCountry phone
    recipients := [⟨amount, corridor.destination, corridor.payoutType, details⟩]
    externalId := reference
    metadata := [("afm_corridor", .str name), ("simulation_only", .bool true)] }

/-- The transaction of a corridor can be built, and asks for the amount in the currency of the
destination. -/
theorem buildSandboxTransaction_spec {name : String} {corridor : AzaCorridor}
    (h : azaCorridor name = some corridor) (amount : ℚ) (reference : String) :
    ∃ transaction recipient, buildSandboxTransaction corridor name amount reference =
      some transaction ∧ transaction.inputCurrency = corridor.source ∧
        transaction.recipients = [recipient] ∧ recipient.requestedAmount = amount ∧
          recipient.requestedCurrency = corridor.destination := by
  have hphones : ∀ entry ∈ azaCorridors,
      (senderPhones.lookup entry.2.sourceCountry).isSome = true ∧
        (sandboxDetails entry.2).isSome = true := by
    decide
  have hmem : (name, corridor) ∈ azaCorridors := by
    obtain ⟨before, after, hsplit, -⟩ := List.lookup_eq_some_iff.mp h
    rw [hsplit]
    exact List.mem_append_right _ List.mem_cons_self
  obtain ⟨hsender, hdetails⟩ := hphones _ hmem
  obtain ⟨phone, hphone⟩ := Option.isSome_iff_exists.mp hsender
  obtain ⟨details, hdetails⟩ := Option.isSome_iff_exists.mp hdetails
  have hbuilt : buildSandboxTransaction corridor name amount reference = some
      { inputCurrency := corridor.source
        sender := sandboxSender corridor.sourceCountry phone
        recipients := [⟨amount, corridor.destination, corridor.payoutType, details⟩]
        externalId := reference
        metadata := [("afm_corridor", .str name), ("simulation_only", .bool true)] } := by
    simp only [buildSandboxTransaction, hphone, hdetails, Option.bind_eq_bind, Option.bind_some,
      Option.pure_def]
  exact ⟨_, _, hbuilt, rfl, rfl, rfl, rfl⟩

/-! ## Requests -/

/-- The credentials of the client. -/
structure AzaSettings where
  apiKey : String
  apiSecret : String

/-- `configured`. -/
def AzaSettings.configured (settings : AzaSettings) : Bool :=
  settings.apiKey ≠ "" && settings.apiSecret ≠ ""

/-- `response.is_error`. -/
def HttpResponse.isError (r : HttpResponse) : Bool := 400 ≤ r.statusCode && r.statusCode ≤ 599

/-- The detail of an error answer with this body. -/
def azaErrorDetail (r : HttpResponse) (data : Json) : Json :=
  match data with
  | .obj fields => Obj.get fields "message"
  | _ => .str (slice 200 r.text)

/-- `AzaClient._request`, from the answer to its request on. A refusal is the exception the
callers handle. -/
def AzaClient.request (settings : AzaSettings) (outcome : HttpOutcome) : ProviderOutcome :=
  if settings.configured = false then .refused "AZA sandbox credentials are not configured"
  else
    match outcome with
    | .transportError => .refused "AZA request failed (transport)"
    | .valueError => .refused "AZA response is not valid JSON"
    | .escaped => .raised
    | .response r =>
        -- the body is read before the status, so that an error page without JSON is no JSON
        -- either
        match r.json with
        | .invalid => .refused "AZA response is not valid JSON"
        | .tooDeep => .raised
        | .value data =>
            if r.isError then
              .refused ("AZA request failed (" ++ toString r.statusCode ++ "): " ++
                ((azaErrorDetail r data).orElse (.str "request rejected")).text)
            else
              match data with
              | .obj fields => .answered fields
              | _ => .refused "AZA response is not a JSON object"

/-- The client raises something else than its own error exactly where it is configured and the
answer is nested too deep or the library fails in a way of its own. -/
theorem azaRequest_raised_iff {settings : AzaSettings} {outcome : HttpOutcome} :
    AzaClient.request settings outcome = .raised ↔
      settings.configured = true ∧
        (outcome = .escaped ∨ ∃ r, outcome = .response r ∧ r.json = .tooDeep) := by
  cases hconfigured : settings.configured with
  | false => simp [AzaClient.request, hconfigured]
  | true =>
      simp only [AzaClient.request, hconfigured, Bool.true_eq_false, if_false, true_and]
      cases outcome with
      | transportError => simp
      | valueError => simp
      | escaped => simp
      | response r =>
          cases hjson : r.json with
          | invalid => simp [hjson]
          | tooDeep => simp [hjson]
          | value data =>
              simp only [hjson, reduceCtorEq, HttpOutcome.response.injEq, false_or]
              refine iff_of_false ?_ ?_
              · split
                · exact fun h => by cases h
                · cases data with
                  | obj fields => exact fun h => by cases h
                  | _ => exact fun h => by cases h
              · rintro ⟨r', rfl, hdeep⟩
                rw [hjson] at hdeep
                cases hdeep

/-! ## Quotes

From the JSON of an answer to a quote, a refusal, or an exception. -/

/-- A quote, as `get_frontierpay_aza_quote` returns it. -/
structure AzaQuote where
  rate : DecimalValue
  inputAmount : DecimalValue
  outputAmount : DecimalValue
  expiryDate : Json
  rateSource : String

/-- How `get_frontierpay_aza_quote` ends: with a quote, an `AzaClientError`, or an exception of
another class. -/
inductive QuoteOutcome
  | quoted (quote : AzaQuote)
  | refused (message : String)
  | raised

/-- The object of an answer and its first recipient, if they are dicts, so that fields can be
read off both. -/
def quotedFields (result : Obj) : Option (Obj × Obj) :=
  let object := Obj.getD result "object" (.obj result)
  let recipients :=
    match object with
    | .obj fields => Obj.get fields "recipients"
    | _ => .arr []
  let recipient :=
    match recipients with
    | .arr (first :: _) => first
    | _ => .obj []
  match recipient, object with
  | .obj recipient, .obj object => some (recipient, object)
  | _, _ => none

/-- The amount an answer says it converts, if it says so. -/
def statedInput (recipient object : Obj) : Json :=
  (Obj.get recipient "input_amount").orElse (Obj.get object "input_amount")

/-- The three numbers of an answer; the rate only if it is stated. -/
structure AzaReading where
  input : DecimalValue
  output : DecimalValue
  statedRate : Option DecimalValue

/-- The input of an answer; where none is stated the amount of the request is taken. -/
def inputReading (recipient object : Obj) (amount : ℚ) : Option DecimalValue :=
  if (statedInput recipient object).truthy then
    DecimalValue.read (statedInput recipient object).text
  else some (.finite amount)

/-- The rate of an answer, if one is stated. -/
def rateReading (recipient : Obj) : Option (Option DecimalValue) :=
  let exchangeRate := Obj.get recipient "exchange_rate"
  if exchangeRate.truthy then (DecimalValue.read exchangeRate.text).map some else some none

/-- The numbers of an answer, `none` if a text is no number. -/
def azaReading (recipient object : Obj) (amount : ℚ) : Option AzaReading := do
  let input ← inputReading recipient object amount
  let output ← DecimalValue.read
    ((Obj.get recipient "output_amount").orElse (Obj.get object "output_amount")).text
  let statedRate ← rateReading recipient
  return ⟨input, output, statedRate⟩

/-- The rate, which is the quotient of the amounts if none is stated. -/
def AzaReading.rate (reading : AzaReading) : Option DecimalValue :=
  match reading.statedRate with
  | some rate => some rate
  | none => reading.output.div reading.input

/-- `input_amount <= 0 or output_amount < 0 or rate <= 0`; `none` is a comparison that raises. -/
def invalidAmounts (input output rate : DecimalValue) : Option Bool :=
  match input.nonpos with
  | some false =>
      match output.negative with
      | some false => rate.nonpos
      | known => known
  | known => known

/-- What the numbers of an answer come to. -/
def AzaReading.settle (reading : AzaReading) (expiryDate : Json) : QuoteOutcome :=
  match reading.rate with
  | none => .refused "AZA calculate response is missing exchange amounts"
  | some rate =>
      match invalidAmounts reading.input reading.output rate with
      | none => .raised
      | some true => .refused "AZA calculate response is invalid"
      | some false =>
          .quoted ⟨rate, reading.input, reading.output, expiryDate, "aza_sandbox_calculate"⟩

/-- `get_frontierpay_aza_quote`, from the answer of the client on: the object, its first
recipient, the three numbers, and the checks on them. -/
def quoteFrom (result : Obj) (amount : ℚ) : QuoteOutcome :=
  match quotedFields result with
  | none => .raised
  | some (recipient, object) =>
      match azaReading recipient object amount with
      | none => .refused "AZA calculate response is missing exchange amounts"
      | some reading => reading.settle (Obj.get object "expires_at")

/-- `calculate_corridor`, given what the provider does with a transaction. -/
def AzaClient.calculateCorridor (settings : AzaSettings) (provider : AzaTransaction → HttpOutcome)
    (corridor : String) (amount : ℚ) (reference : String) : ProviderOutcome :=
  match azaCorridor corridor with
  | none => .refused ("AZA corridor is not configured: " ++ corridor)
  | some entry =>
      match buildSandboxTransaction entry corridor amount reference with
      | none => .raised
      | some transaction => AzaClient.request settings (provider transaction)

/-- `get_frontierpay_aza_quote`. -/
def getFrontierpayAzaQuote (settings : AzaSettings) (provider : AzaTransaction → HttpOutcome)
    (corridor : String) (amount : ℚ) (reference : String) : QuoteOutcome :=
  if (azaCorridor corridor).isNone then
    .refused ("AZA corridor is not configured: " ++ corridor)
  else
    match AzaClient.calculateCorridor settings provider corridor amount reference with
    | .answered result => quoteFrom result amount
    | .refused message => .refused message
    | .raised => .raised

/-! ## What the comparisons let through -/

section Comparisons

variable {a b c : DecimalValue}

/-- The test raises if the first comparison does, or a later one that is reached. -/
theorem invalidAmounts_eq_none :
    invalidAmounts a b c = none ↔ a.nonpos = none ∨ a.nonpos = some false ∧
      (b.negative = none ∨ b.negative = some false ∧ c.nonpos = none) := by
  unfold invalidAmounts
  cases ha : a.nonpos with
  | none => simp
  | some answer =>
      cases answer with
      | true => simp
      | false =>
          cases hb : b.negative with
          | none => simp
          | some answer => cases answer <;> simp

/-- The test lets the numbers pass if all three comparisons do. -/
theorem invalidAmounts_eq_false :
    invalidAmounts a b c = some false ↔
      a.nonpos = some false ∧ b.negative = some false ∧ c.nonpos = some false := by
  unfold invalidAmounts
  cases ha : a.nonpos with
  | none => simp
  | some answer =>
      cases answer with
      | true => simp
      | false =>
          cases hb : b.negative with
          | none => simp
          | some answer => cases answer <;> simp

end Comparisons

end AfricaFrontier
