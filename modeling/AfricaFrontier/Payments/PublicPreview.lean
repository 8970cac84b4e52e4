import AfricaFrontier.Payments.AzaClient
import AfricaFrontier.Payments.MonthlyLimit

/-!
# The public preview (`public_frontierpay_simulate`)

The public route takes the fees off an amount, asks AZA for a quote of the rest and shows both.
Its quote should fail closed: whatever the provider answers, either there is no quote and the
route answers 503, or the amounts and the rate are finite and positive.

The answer may be any JSON.  What is no number is refused, but what is no object where an object
is read, and a NaN where it is compared, raises past the handlers, and an infinite number passes
all checks: `aza_quotes_fail_closed_iff`.

Three questions are kept apart, each with its equivalence: whether the fields of a reply can be
read and its numbers compared (`quoteSound_quoteFrom_iff`), whether a quote can be shown
(`showQuote_shown_iff`), and whether the client answers or refuses at all. `ProviderFits` is the
conjunction, for a provider that is any function of the transaction it is sent.
-/

namespace AfricaFrontier

open Python

/-! ## The route -/

/-- What the route shows. -/
structure PublicPreview where
  simulationOnly : Bool := true
  executionMode : String := "public_preview"
  amount : ℚ
  sourceCurrency : String
  beneficiaryCurrency : String
  corridor : String
  direction : SimulationDirection
  fxRate : DecimalValue
  rateSource : String
  rateExpiry : Option String
  netSourceAmount : ℚ
  netDestinationAmount : ℚ
  platformFees : ℚ
  fundsMovement : Bool := false
  ledgerWrite : Bool := false

/-- What `public_frontierpay_simulate` answers. -/
inductive PublicAnswer
  | rejected (exception : HttpException)
  | crashed
  | shown (preview : PublicPreview)

/-- The answer without a quote: status 503. -/
def PublicAnswer.unavailable : PublicAnswer :=
  .rejected ⟨503, "AZA sandbox corridor rate is temporarily unavailable"⟩

/-- `quantize(Decimal("0.01"))` of an amount that was quoted, which is no NaN. -/
def toCents : DecimalValue → Option ℚ
  | .finite x => quantize cents x
  | _ => none

/-- The expiry of a rate as the response model has it, a text or nothing. -/
def rateExpiry : Json → Option (Option String)
  | .null => some none
  | .str s => some (some s)
  | _ => none

/-- The answer with a quote. -/
def showQuote (payment : PaymentSimulationRequest) (totalFees netSource : ℚ) (quote : AzaQuote) :
    PublicAnswer :=
  match toCents quote.outputAmount, quantize cents payment.amount, rateExpiry quote.expiryDate with
  | some netDestination, some amount, some expiry =>
      .shown
        { amount := amount
          sourceCurrency := upper payment.sourceCurrency
          beneficiaryCurrency := upper payment.beneficiaryCurrency
          corridor := payment.corridor
          direction := payment.direction
          fxRate := quote.rate
          rateSource := quote.rateSource
          rateExpiry := expiry
          netSourceAmount := netSource
          netDestinationAmount := netDestination
          platformFees := totalFees }
  | _, _, _ => .crashed

/-- The reference of the transaction to be calculated. -/
def publicReference (hex : String) : String := "frontierpay-public-" ++ hex

/-- `public_frontierpay_simulate`: the fees, the quote of the provider for what is left, and what
is shown of it. A refusal of the client closes the route. -/
def publicFrontierpaySimulate (settings : AzaSettings) (provider : AzaTransaction → HttpOutcome)
    (payment : PaymentSimulationRequest) (hex : String) : PublicAnswer :=
  match publicFees payment with
  | .crashed => .crashed
  | .rejected => .rejected ⟨422, "Total fees cannot exceed the source amount"⟩
  | .accepted totalFees netSource =>
      match getFrontierpayAzaQuote settings provider payment.corridor netSource
          (publicReference hex) with
      | .refused _ => .unavailable
      | .raised => .crashed
      | .quoted quote => showQuote payment totalFees netSource quote

/-! ## The property

An error of the server is neither a refusal nor a quote. -/

/-- The amounts and the rate are finite, and not negative where they should not be. -/
def AzaQuote.Valid (quote : AzaQuote) : Prop :=
  ∃ input output rate : ℚ, quote.inputAmount = .finite input ∧ 0 < input ∧
    quote.outputAmount = .finite output ∧ 0 ≤ output ∧ quote.rate = .finite rate ∧ 0 < rate

/-- **A quote is sound**: it is refused, or valid. An exception is neither. -/
inductive QuoteSound : QuoteOutcome → Prop
  | refused (message : String) : QuoteSound (.refused message)
  | quoted {quote : AzaQuote} (hvalid : quote.Valid) : QuoteSound (.quoted quote)

/-- **The route fails closed**: where there is something left to be quoted, it answers 503, or
shows a valid quote. -/
def FailsClosed (settings : AzaSettings) (provider : AzaTransaction → HttpOutcome)
    (payment : PaymentSimulationRequest) (hex : String) : Prop :=
  ∀ totalFees netSource, publicFees payment = .accepted totalFees netSource →
    publicFrontierpaySimulate settings provider payment hex = .unavailable ∨
      ∃ quote preview, getFrontierpayAzaQuote settings provider payment.corridor netSource
        (publicReference hex) = .quoted quote ∧ quote.Valid ∧
          publicFrontierpaySimulate settings provider payment hex = .shown preview ∧
            preview.fxRate = quote.rate

/-! ## Its condition

On what the provider replies, and not on what the route makes of it. -/

/-- A reading that misleads the checks: one of its numbers is a NaN where it is compared, or is
infinite where nothing before it is refused.  A signaling NaN is refused with the quotient, where
no rate is stated. -/
inductive AzaReading.Misleading (reading : AzaReading) : Prop
  | input {s : Bool} (hinput : reading.input = .nan s)
      (hquiet : reading.statedRate = none → s = false ∧ reading.output ≠ .nan true)
  | output {s : Bool} (hinput : reading.input.nonpos = some false)
      (houtput : reading.output = .nan s) (hquiet : reading.statedRate = none → s = false)
  | rate {s : Bool} (hinput : reading.input.nonpos = some false)
      (houtput : reading.output.negative = some false) (hrate : reading.statedRate = some (.nan s))
  | infinite {rate : DecimalValue} (hinput : reading.input.nonpos = some false)
      (houtput : reading.output.negative = some false) (hrate : reading.statedRate = some rate)
      (hpositive : rate.nonpos = some false)
      (hinfinite : reading.input = .infinity false ∨ reading.output = .infinity false ∨
        rate = .infinity false)
  | quotient {x : ℚ} (hinput : reading.input = .finite x) (hx : 0 < x)
      (houtput : reading.output = .infinity false) (hrate : reading.statedRate = none)

/-- The fields of a reply can be read off objects, and its numbers do not mislead the checks that
come after. -/
def ReplyFits (result : Obj) (amount : ℚ) : Prop :=
  ∃ recipient object, quotedFields result = some (recipient, object) ∧
    ∀ reading, azaReading recipient object amount = some reading → ¬ reading.Misleading

/-- A quote the response can show: its output has cents, and its expiry is a text or missing; and
the amount of the request has cents as well. -/
structure Showable (payment : PaymentSimulationRequest) (quote : AzaQuote) : Prop where
  output : ∃ y, quote.outputAmount = .finite y ∧ Quantizable y
  amount : Quantizable payment.amount
  expiry : quote.expiryDate = .null ∨ ∃ s, quote.expiryDate = .str s

/-- The client answers, or refuses as it should, and a reply fits and can be shown. Nothing is
asked where the route does not get to the client. -/
def ProviderFits (settings : AzaSettings) (provider : AzaTransaction → HttpOutcome)
    (payment : PaymentSimulationRequest) (hex : String) : Prop :=
  ∀ totalFees netSource, publicFees payment = .accepted totalFees netSource →
    match AzaClient.calculateCorridor settings provider payment.corridor netSource
      (publicReference hex) with
    | .answered result => ReplyFits result netSource ∧
        ∀ quote, quoteFrom result netSource = .quoted quote → Showable payment quote
    | .refused _ => True
    | .raised => False

/-! ## Readings

Three numbers, each finite, infinite or no number at all. -/

section Readings

variable {reading : AzaReading}

/-- With this rate the checks raise, or let pass what is infinite. -/
def AzaReading.Slips (reading : AzaReading) (rate : DecimalValue) : Prop :=
  invalidAmounts reading.input reading.output rate = none ∨
    invalidAmounts reading.input reading.output rate = some false ∧
      (reading.input = .infinity false ∨ reading.output = .infinity false ∨
        rate = .infinity false)

/-- What makes a reading unsound, with its rate computed. -/
theorem not_quoteSound_settle {expiry : Json} :
    ¬ QuoteSound (reading.settle expiry) ↔
      ∃ rate, reading.rate = some rate ∧ reading.Slips rate := by
  unfold AzaReading.settle AzaReading.Slips
  cases hrate : reading.rate with
  -- the comparison raises: that is unsound, and it is the first way to slip
  | none =>
      refine iff_of_false (not_not_intro (.refused _)) ?_
      rintro ⟨rate, hsome, -⟩
      cases hsome
  | some rate =>
      dsimp only
      have hone : ∀ P : DecimalValue → Prop, (∃ r, some rate = some r ∧ P r) ↔ P rate := by
        simp
      rw [hone]
      cases hinvalid : invalidAmounts reading.input reading.output rate with
      | none =>
          refine iff_of_true (fun h => ?_) (Or.inl rfl)
          cases h
      | some invalid =>
          cases invalid with
          | true => exact iff_of_false (not_not_intro (.refused _)) (by simp)
          | false =>
              obtain ⟨hinput, houtput, hpositive⟩ := invalidAmounts_eq_false.mp hinvalid
              simp only [reduceCtorEq, true_and, false_or]
              constructor
              -- what was let through and is not finite is infinite somewhere
              · intro hunsound
                by_contra hfinite
                simp only [not_or] at hfinite
                obtain ⟨x, hx, hxpos⟩ := (nonpos_eq_false.mp hinput).resolve_right hfinite.1
                obtain ⟨y, hy, hynonneg⟩ :=
                  (negative_eq_false.mp houtput).resolve_right hfinite.2.1
                obtain ⟨z, hz, hzpos⟩ := (nonpos_eq_false.mp hpositive).resolve_right hfinite.2.2
                exact hunsound (.quoted ⟨x, y, z, hx, hxpos, hy, hynonneg, hz, hzpos⟩)
              · intro hinfinite hsound
                cases hsound with
                | quoted hvalid =>
                    obtain ⟨x, y, z, hx, -, hy, -, hz, -⟩ := hvalid
                    dsimp only at hx hy hz
                    rw [hx, hy, hz] at hinfinite
                    simp at hinfinite

/-- Numbers that slip through mislead. -/
theorem misleading_of_slips {rate : DecimalValue} (hrate : reading.rate = some rate)
    (h : reading.Slips rate) : reading.Misleading := by
  unfold AzaReading.rate at hrate
  simp only [AzaReading.Slips, invalidAmounts_eq_none, invalidAmounts_eq_false] at h
  -- one of three numbers is no number, or one of them is infinite
  rcases h with (hinput | ⟨hinput, houtput | ⟨houtput, hnan⟩⟩) |
    ⟨⟨hinput, houtput, hpositive⟩, hinfinite⟩
  · obtain ⟨s, hnan⟩ := nonpos_eq_none.mp hinput
    refine .input hnan fun hnone => ?_
    rw [hnone, hnan] at hrate
    exact div_nan hrate
  · obtain ⟨s, hnan⟩ := negative_eq_none.mp houtput
    refine .output hinput hnan fun hnone => ?_
    rw [hnone, hnan] at hrate
    cases s with
    | false => rfl
    | true =>
        exfalso
        rcases nonpos_eq_false.mp hinput with ⟨x, hx, -⟩ | hx
        · rw [hx] at hrate
          cases hrate
        · rw [hx] at hrate
          cases hrate
  · obtain ⟨s, rfl⟩ := nonpos_eq_none.mp hnan
    cases hstated : reading.statedRate with
    | some stated =>
        rw [hstated] at hrate
        obtain rfl := Option.some.inj hrate
        exact .rate hinput houtput hstated
    | none =>
        rw [hstated] at hrate
        exact absurd hrate
          (not_nan_of_div (ne_nan_of_negative houtput) (ne_nan_of_nonpos hinput))
  · cases hstated : reading.statedRate with
    | some stated =>
        rw [hstated] at hrate
        obtain rfl := Option.some.inj hrate
        exact .infinite hinput houtput hstated hpositive hinfinite
    | none =>
        rw [hstated] at hrate
        obtain ⟨x, hx, hxpos, hinf⟩ :=
          infinite_quotient hrate hinput houtput hpositive hinfinite
        exact .quotient hx hxpos hinf hstated

/-- Only numbers that slip through mislead. -/
theorem AzaReading.Misleading.slips (h : reading.Misleading) :
    ∃ rate, reading.rate = some rate ∧ reading.Slips rate := by
  unfold AzaReading.rate
  simp only [AzaReading.Slips, invalidAmounts_eq_none, invalidAmounts_eq_false]
  cases h with
  | @input s hinput hquiet =>
      have hcompared : reading.input.nonpos = none := nonpos_eq_none.mpr ⟨s, hinput⟩
      cases hstated : reading.statedRate with
      | some stated => exact ⟨stated, rfl, Or.inl (Or.inl hcompared)⟩
      | none =>
          obtain ⟨rfl, houtput⟩ := hquiet hstated
          refine ⟨.nan false, ?_, Or.inl (Or.inl hcompared)⟩
          rw [hinput]
          exact div_quietNan houtput
  | @output s hinput houtput hquiet =>
      have hcompared : reading.output.negative = none := negative_eq_none.mpr ⟨s, houtput⟩
      cases hstated : reading.statedRate with
      | some stated => exact ⟨stated, rfl, Or.inl (Or.inr ⟨hinput, Or.inl hcompared⟩)⟩
      | none =>
          obtain rfl := hquiet hstated
          refine ⟨.nan false, ?_, Or.inl (Or.inr ⟨hinput, Or.inl hcompared⟩)⟩
          rw [houtput]
          exact quietNan_div (ne_nan_of_nonpos hinput)
  | @rate s hinput houtput hrate =>
      rw [hrate]
      exact ⟨_, rfl, Or.inl (Or.inr ⟨hinput, Or.inr ⟨houtput, nonpos_eq_none.mpr ⟨s, rfl⟩⟩⟩)⟩
  | @infinite rate hinput houtput hrate hpositive hinfinite =>
      rw [hrate]
      exact ⟨rate, rfl, Or.inr ⟨⟨hinput, houtput, hpositive⟩, hinfinite⟩⟩
  -- no rate is stated, and the quotient of the amounts is infinite
  | @quotient x hinput hx houtput hrate =>
      refine ⟨.infinity false, ?_, Or.inr ⟨⟨?_, ?_, rfl⟩, Or.inr (Or.inl houtput)⟩⟩
      · rw [hrate, hinput, houtput]
        simp [DecimalValue.div, not_lt.mpr hx.le]
      · exact nonpos_eq_false.mpr (Or.inl ⟨x, hinput, hx⟩)
      · exact negative_eq_false.mpr (Or.inr houtput)

/-- A reading is unsound exactly if it misleads. -/
theorem quoteSound_settle_iff {expiry : Json} :
    QuoteSound (reading.settle expiry) ↔ ¬ reading.Misleading := by
  rw [← not_iff_not, not_quoteSound_settle, not_not]
  exact ⟨fun ⟨rate, hrate, h⟩ => misleading_of_slips hrate h, fun h => h.slips⟩

end Readings

/-! ## When quotes fail closed -/

/-- A quote is sound exactly where the reply fits. -/
theorem quoteSound_quoteFrom_iff {result : Obj} {amount : ℚ} :
    QuoteSound (quoteFrom result amount) ↔ ReplyFits result amount := by
  unfold quoteFrom ReplyFits
  cases hfields : quotedFields result with
  | none =>
      refine iff_of_false (fun h => by cases h) ?_
      rintro ⟨recipient, object, hsome, -⟩
      cases hsome
  | some fields =>
      obtain ⟨recipient, object⟩ := fields
      dsimp only
      cases hreading : azaReading recipient object amount with
      | none =>
          refine iff_of_true (.refused _) ⟨recipient, object, rfl, fun reading hsome => ?_⟩
          rw [hreading] at hsome
          cases hsome
      | some reading =>
          dsimp only
          rw [quoteSound_settle_iff]
          constructor
          · intro h
            refine ⟨recipient, object, rfl, fun reading' hsome => ?_⟩
            obtain rfl := Option.some.inj (hreading.symm.trans hsome)
            exact h
          · rintro ⟨recipient', object', hsame, h⟩
            obtain ⟨rfl, rfl⟩ := Prod.mk.inj (Option.some.inj hsame)
            exact h reading hreading

section Route

variable {settings : AzaSettings} {provider : AzaTransaction → HttpOutcome}
  {payment : PaymentSimulationRequest} {hex : String}

/-- Along the corridor of a request the quote is what the answer comes to. -/
theorem getFrontierpayAzaQuote_eq (amount : ℚ) (reference : String) :
    getFrontierpayAzaQuote settings provider payment.corridor amount reference =
      match AzaClient.calculateCorridor settings provider payment.corridor amount reference with
      | .answered result => quoteFrom result amount
      | .refused message => .refused message
      | .raised => .raised := by
  obtain ⟨corridor, hcorridor⟩ := exists_azaCorridor payment
  unfold getFrontierpayAzaQuote
  rw [hcorridor]
  rfl

/-- A quote is shown exactly if it can be. -/
theorem showQuote_shown_iff {totalFees netSource : ℚ} {quote : AzaQuote} :
    (∃ preview, showQuote payment totalFees netSource quote = .shown preview) ↔
      Showable payment quote := by
  have hcents : (∃ y, quote.outputAmount = .finite y ∧ Quantizable y) ↔
      ∃ z, toCents quote.outputAmount = some z := by
    cases quote.outputAmount with
    | finite y => simp [toCents, quantizable_iff]
    | infinity negative => simp [toCents]
    | nan s => simp [toCents]
  have hexpiry : (quote.expiryDate = .null ∨ ∃ s, quote.expiryDate = .str s) ↔
      ∃ expiry, rateExpiry quote.expiryDate = some expiry := by
    cases quote.expiryDate <;> simp [rateExpiry]
  have hshowable : Showable payment quote ↔
      (∃ z, toCents quote.outputAmount = some z) ∧ (∃ a, quantize cents payment.amount = some a) ∧
        ∃ expiry, rateExpiry quote.expiryDate = some expiry := by
    rw [← hcents, ← hexpiry, ← quantizable_iff]
    exact ⟨fun h => ⟨h.output, h.amount, h.expiry⟩, fun h => ⟨h.1, h.2.1, h.2.2⟩⟩
  rw [hshowable]
  unfold showQuote
  constructor
  · rintro ⟨preview, h⟩
    split at h
    · rename_i z a expiry hz ha hexpiry
      exact ⟨⟨z, hz⟩, ⟨a, ha⟩, expiry, hexpiry⟩
    · cases h
  · rintro ⟨⟨z, hz⟩, ⟨a, ha⟩, expiry, hexpiry⟩
    rw [hz, ha, hexpiry]
    exact ⟨_, rfl⟩

/-- What is shown of a request and its quote. -/
structure ShownQuote (payment : PaymentSimulationRequest) (totalFees netSource : ℚ)
    (quote : AzaQuote) (preview : PublicPreview) : Prop where
  source : preview.sourceCurrency = upper payment.sourceCurrency
  beneficiary : preview.beneficiaryCurrency = upper payment.beneficiaryCurrency
  rate : preview.fxRate = quote.rate
  net : preview.netSourceAmount = netSource
  fees : preview.platformFees = totalFees
  destination : toCents quote.outputAmount = some preview.netDestinationAmount

/-- What is shown of a quote. -/
theorem showQuote_shown {totalFees netSource : ℚ} {quote : AzaQuote} {preview : PublicPreview}
    (h : showQuote payment totalFees netSource quote = .shown preview) :
    ShownQuote payment totalFees netSource quote preview := by
  unfold showQuote at h
  split at h
  · rename_i hcents _ _
    obtain rfl := PublicAnswer.shown.inj h
    exact ⟨rfl, rfl, rfl, rfl, rfl, hcents⟩
  · cases h

/-- A quote that is there is not answered as missing. -/
theorem showQuote_ne_unavailable {totalFees netSource : ℚ} {quote : AzaQuote} :
    showQuote payment totalFees netSource quote ≠ .unavailable := by
  unfold showQuote PublicAnswer.unavailable
  split
  · exact fun h => by cases h
  · exact fun h => by cases h

/-- The route fails closed exactly where the provider fits. -/
theorem failsClosed_iff :
    FailsClosed settings provider payment hex ↔ ProviderFits settings provider payment hex := by
  refine forall₂_congr fun totalFees netSource => imp_congr_right fun hfees => ?_
  unfold publicFrontierpaySimulate
  rw [hfees]
  dsimp only
  rw [getFrontierpayAzaQuote_eq]
  cases AzaClient.calculateCorridor settings provider payment.corridor netSource
      (publicReference hex) with
  | refused message => exact iff_of_true (Or.inl rfl) trivial
  -- an exception of the provider reaches the framework, and is no closed failure
  | raised =>
      refine iff_of_false ?_ not_false
      rintro (h | ⟨quote, preview, h, -⟩)
      · cases h
      · cases h
  | answered result =>
      dsimp only
      have hsound : QuoteSound (quoteFrom result netSource) ↔ ReplyFits result netSource :=
        quoteSound_quoteFrom_iff
      cases hquote : quoteFrom result netSource with
      | refused message =>
          rw [hquote] at hsound
          exact iff_of_true (Or.inl rfl) ⟨hsound.mp (.refused message), fun quote h => by cases h⟩
      | raised =>
          rw [hquote] at hsound
          refine iff_of_false ?_ fun h => ?_
          · rintro (h | ⟨quote, preview, h, -⟩)
            · cases h
            · cases h
          · have hraised := hsound.mpr h.1
            cases hraised
      | quoted quote =>
          rw [hquote] at hsound
          dsimp only
          constructor
          -- the quote was shown, so that the reply was sound and the amounts could be stated
          · rintro (h | ⟨quote', preview, hsame, hvalid, hshown, -⟩)
            · exact absurd h showQuote_ne_unavailable
            · obtain rfl := QuoteOutcome.quoted.inj hsame
              refine ⟨hsound.mp (.quoted hvalid), fun quote' hsame' => ?_⟩
              obtain rfl := QuoteOutcome.quoted.inj hsame'
              exact showQuote_shown_iff.mp ⟨preview, hshown⟩
          · rintro ⟨hfits, hshow⟩
            obtain ⟨preview, hshown⟩ := showQuote_shown_iff.mpr (hshow quote rfl)
            have hvalid : quote.Valid := by
              cases hsound.mpr hfits with
              | quoted hvalid => exact hvalid
            exact Or.inr ⟨quote, preview, rfl, hvalid, hshown, (showQuote_shown hshown).rate⟩

end Route

/-- **When quotes fail closed**, and the route with them. -/
theorem aza_quotes_fail_closed_iff (result : Obj) (amount : ℚ) (settings : AzaSettings)
    (provider : AzaTransaction → HttpOutcome) (payment : PaymentSimulationRequest)
    (hex : String) :
    (QuoteSound (quoteFrom result amount) ↔ ReplyFits result amount) ∧
      (FailsClosed settings provider payment hex ↔ ProviderFits settings provider payment hex) :=
  ⟨quoteSound_quoteFrom_iff, failsClosed_iff⟩

/-- A client with credentials. -/
def sandboxSettings : AzaSettings := ⟨"key", "secret"⟩

/-- A provider that answers everything with one object. -/
def answering200 (result : Obj) : AzaTransaction → HttpOutcome :=
  fun _ => .response ⟨200, .value (.obj result), ""⟩

/-- What the client makes of that answer. -/
theorem calculateCorridor_answering200 (result : Obj) (payment : PaymentSimulationRequest)
    (amount : ℚ) (reference : String) :
    AzaClient.calculateCorridor sandboxSettings (answering200 result) payment.corridor amount
      reference = .answered result := by
  obtain ⟨corridor, hcorridor⟩ := exists_azaCorridor payment
  obtain ⟨transaction, -, hbuilt, -⟩ := buildSandboxTransaction_spec hcorridor amount reference
  unfold AzaClient.calculateCorridor
  rw [hcorridor]
  dsimp only
  rw [hbuilt]
  rfl

/-- Replies with no object, with a number for a recipient, with a NaN for a rate, with an infinite
rate, and with a number for an expiry. -/
def strangeReplies : List Obj :=
  [[("object", .null)],
    [("object", .obj [("recipients", .arr [.int 1])])],
    [("object", .obj [("input_amount", .int 100000), ("output_amount", .int 200000),
      ("recipients", .arr [.obj [("exchange_rate", .str "NaN")]])])],
    [("object", .obj [("input_amount", .int 100000), ("output_amount", .int 200000),
      ("recipients", .arr [.obj [("exchange_rate", .float (.infinity false))]])])],
    [("object", .obj [("input_amount", .int 100000), ("output_amount", .int 200000),
      ("recipients", .arr [.obj [("exchange_rate", .int 2)]]), ("expires_at", .int 1790000000)])]]

/-- Whether an exception was raised, or else the rate and expiry of a quote. -/
def QuoteOutcome.shape : QuoteOutcome → Bool × Option (DecimalValue × Json)
  | .raised => (true, none)
  | .refused _ => (false, none)
  | .quoted quote => (false, some (quote.rate, quote.expiryDate))

/-- An exception is no sound quote, and neither is an infinite rate. -/
theorem not_quoteSound_of_shape {outcome : QuoteOutcome} {expiry : Json}
    (h : outcome.shape = (true, none) ∨ outcome.shape = (false, some (.infinity false, expiry))) :
    ¬ QuoteSound outcome := by
  intro hsound
  cases hsound with
  | refused message =>
      rcases h with h | h
      · cases h
      · cases h
  | quoted hvalid =>
      obtain ⟨input, output, rate, -, -, -, -, hrate, -⟩ := hvalid
      rcases h with h | h
      · cases h
      · rw [QuoteOutcome.shape, hrate] at h
        cases h

/-- The first three replies raise, the fourth is quoted with its infinite rate, and none of the
five is answered as the provider's failure. -/
theorem not_fails_closed :
    (strangeReplies.map fun result => (quoteFrom result 100000).shape) =
        [(true, none), (true, none), (true, none), (false, some (.infinity false, .null)),
          (false, some (.finite 2, .int 1790000000))] ∧
      (∀ result ∈ strangeReplies.take 4, ¬ QuoteSound (quoteFrom result 100000)) ∧
      ∀ result ∈ strangeReplies,
        ¬ FailsClosed sandboxSettings (answering200 result) (simulationOf 0 le_rfl) "" := by
  have hshapes : (strangeReplies.map fun result => (quoteFrom result 100000).shape) =
      [(true, none), (true, none), (true, none), (false, some (.infinity false, .null)),
        (false, some (.finite 2, .int 1790000000))] := by
    decide +kernel
  have hfees : publicFees (simulationOf 0 le_rfl) = .accepted 0 100000 := by
    decide +kernel
  have hunsound : ∀ result ∈ strangeReplies.take 4, ¬ QuoteSound (quoteFrom result 100000) := by
    have htake := congrArg (List.take 4) hshapes
    rw [← List.map_take] at htake
    intro result hresult
    have hmem := List.mem_map_of_mem
      (f := fun result => (quoteFrom result 100000).shape) hresult
    rw [htake] at hmem
    refine @not_quoteSound_of_shape _ .null ?_
    simpa using hmem
  have hfits : ∀ result,
      FailsClosed sandboxSettings (answering200 result) (simulationOf 0 le_rfl) "" →
        ReplyFits result 100000 ∧
          ∀ quote, quoteFrom result 100000 = .quoted quote →
            Showable (simulationOf 0 le_rfl) quote := by
    intro result hclosed
    have hprovider := failsClosed_iff.mp hclosed 0 100000 hfees
    rw [calculateCorridor_answering200] at hprovider
    exact hprovider
  refine ⟨hshapes, hunsound, fun result hresult hclosed => ?_⟩
  obtain ⟨hreply, hshow⟩ := hfits result hclosed
  by_cases hfirst : result ∈ strangeReplies.take 4
  · exact hunsound result hfirst (quoteSound_quoteFrom_iff.mpr hreply)
  · -- the fifth reply is quoted, with an expiry that cannot be shown
    have hlast : result ∈ strangeReplies.drop 4 := by
      rw [← List.take_append_drop 4 strangeReplies] at hresult
      exact (List.mem_append.mp hresult).resolve_left hfirst
    have hdrop := congrArg (List.drop 4) hshapes
    rw [← List.map_drop] at hdrop
    have hmem := List.mem_map_of_mem
      (f := fun result => (quoteFrom result 100000).shape) hlast
    rw [hdrop] at hmem
    have hshape : (quoteFrom result 100000).shape =
        (false, some (.finite 2, .int 1790000000)) := by
      simpa using hmem
    cases hquote : quoteFrom result 100000 with
    | refused message =>
        rw [hquote] at hshape
        cases hshape
    | raised =>
        rw [hquote] at hshape
        cases hshape
    | quoted quote =>
        rw [hquote] at hshape
        simp only [QuoteOutcome.shape, Prod.mk.injEq, Option.some.injEq, true_and] at hshape
        rcases (hshow quote hquote).expiry with hnull | ⟨s, htext⟩
        · rw [hshape.2] at hnull
          cases hnull
        · rw [hshape.2] at htext
          cases htext

end AfricaFrontier
