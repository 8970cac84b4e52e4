import AfricaFrontier.Payments.PublicPreview

/-!
# What a public preview quotes

A preview shows an amount in a source currency and what it comes to in the currency of the
beneficiary.  These should be the currencies of the corridor, and the amount the one the quote
converts.

The currencies shown are those of the request, which nothing compares with the corridor; and the
amount that is quoted is the one the reply states: `preview_quotes_displayed_iff`.  It need not be
the net amount even where the provider does what it is asked, since the transaction asks for the
net amount in the currency of the destination.  Such a preview shows the same number on both sides
(`requested_amount_shown`).

Everything that stands between a request and a shown preview is in `PreviewShown`: the fees, the
transaction that was sent, the answer and its reading, the quote. The equivalence is then about
the fields of that structure, and no proof goes through the route again.
-/

namespace AfricaFrontier

open Python

/-! ## The property and its condition -/

/-- **The preview quotes what it displays**: the amounts that are shown are those of the quote, in
the currencies of the corridor, for the net amount that is shown. -/
def QuotesDisplayed (settings : AzaSettings) (provider : AzaTransaction → HttpOutcome)
    (payment : PaymentSimulationRequest) (hex : String) (preview : PublicPreview) : Prop :=
  ∃ corridor quote, azaCorridor payment.corridor = some corridor ∧
    getFrontierpayAzaQuote settings provider payment.corridor preview.netSourceAmount
      (publicReference hex) = .quoted quote ∧
    preview.sourceCurrency = corridor.source ∧ preview.beneficiaryCurrency = corridor.destination ∧
    quote.inputAmount = .finite preview.netSourceAmount ∧
    toCents quote.outputAmount = some preview.netDestinationAmount

/-- The request names the currencies of its corridor, and the reply states no other input than
the amount it was asked about. -/
structure DisplayFits (settings : AzaSettings) (provider : AzaTransaction → HttpOutcome)
    (payment : PaymentSimulationRequest) (hex : String) : Prop where
  currencies : ∀ corridor, azaCorridor payment.corridor = some corridor →
    upper payment.sourceCurrency = corridor.source ∧
      upper payment.beneficiaryCurrency = corridor.destination
  input : ∀ totalFees netSource result recipient object,
    publicFees payment = .accepted totalFees netSource →
    AzaClient.calculateCorridor settings provider payment.corridor netSource
      (publicReference hex) = .answered result →
    quotedFields result = some (recipient, object) →
    (statedInput recipient object).truthy = true →
    DecimalValue.read (statedInput recipient object).text = some (.finite netSource)

/-! ## What is behind a preview

A preview is shown only where each of these steps went through. -/

section Shown

variable {settings : AzaSettings} {provider : AzaTransaction → HttpOutcome}
  {payment : PaymentSimulationRequest} {hex : String} {preview : PublicPreview}

/-- The amounts of a quote are those that were read. -/
theorem settle_quoted {reading : AzaReading} {expiry : Json} {quote : AzaQuote}
    (h : reading.settle expiry = .quoted quote) :
    quote.inputAmount = reading.input ∧ quote.outputAmount = reading.output := by
  unfold AzaReading.settle at h
  split at h
  · cases h
  · split at h
    · cases h
    · cases h
    · obtain rfl := QuoteOutcome.quoted.inj h
      exact ⟨rfl, rfl⟩

/-- The reply behind a quote. -/
theorem quoteFrom_quoted {result : Obj} {amount : ℚ} {quote : AzaQuote}
    (h : quoteFrom result amount = .quoted quote) :
    ∃ recipient object reading, quotedFields result = some (recipient, object) ∧
      azaReading recipient object amount = some reading ∧ quote.inputAmount = reading.input ∧
        quote.outputAmount = reading.output := by
  unfold quoteFrom at h
  split at h
  · cases h
  · rename_i recipient object hfields
    split at h
    · cases h
    · rename_i reading hreading
      exact ⟨recipient, object, reading, hfields, hreading, settle_quoted h⟩

/-- The input that was read. -/
theorem azaReading_input {recipient object : Obj} {amount : ℚ} {reading : AzaReading}
    (h : azaReading recipient object amount = some reading) :
    inputReading recipient object amount = some reading.input := by
  obtain ⟨input, hinput, h⟩ := Option.bind_eq_some_iff.mp h
  obtain ⟨output, -, h⟩ := Option.bind_eq_some_iff.mp h
  obtain ⟨statedRate, -, h⟩ := Option.bind_eq_some_iff.mp h
  obtain rfl := Option.some.inj h
  exact hinput

/-- Everything a shown preview has come through. -/
structure PreviewShown (settings : AzaSettings) (provider : AzaTransaction → HttpOutcome)
    (payment : PaymentSimulationRequest) (hex : String) (preview : PublicPreview)
    (totalFees : ℚ) (result recipient object : Obj) (reading : AzaReading) (quote : AzaQuote) :
    Prop where
  fees : publicFees payment = .accepted totalFees preview.netSourceAmount
  answered : AzaClient.calculateCorridor settings provider payment.corridor
    preview.netSourceAmount (publicReference hex) = .answered result
  quoted : quoteFrom result preview.netSourceAmount = .quoted quote
  fields : quotedFields result = some (recipient, object)
  read : azaReading recipient object preview.netSourceAmount = some reading
  input : quote.inputAmount = reading.input
  output : quote.outputAmount = reading.output
  shown : ShownQuote payment totalFees preview.netSourceAmount quote preview

/-- A preview that is shown has come through all of it. -/
theorem exists_previewShown
    (h : publicFrontierpaySimulate settings provider payment hex = .shown preview) :
    ∃ totalFees result recipient object reading quote, PreviewShown settings provider payment hex
      preview totalFees result recipient object reading quote := by
  unfold publicFrontierpaySimulate at h
  cases hfees : publicFees payment with
  | crashed =>
      rw [hfees] at h
      cases h
  | rejected =>
      rw [hfees] at h
      cases h
  -- each further step has one outcome that goes on to a preview
  | accepted totalFees netSource =>
      rw [hfees] at h
      dsimp only at h
      rw [getFrontierpayAzaQuote_eq] at h
      cases hanswered : AzaClient.calculateCorridor settings provider payment.corridor netSource
          (publicReference hex) with
      | refused message =>
          rw [hanswered] at h
          cases h
      | raised =>
          rw [hanswered] at h
          cases h
      | answered result =>
          rw [hanswered] at h
          dsimp only at h
          cases hquote : quoteFrom result netSource with
          | refused message =>
              rw [hquote] at h
              cases h
          | raised =>
              rw [hquote] at h
              cases h
          | quoted quote =>
              rw [hquote] at h
              have hshown := showQuote_shown h
              obtain ⟨recipient, object, reading, hfields, hread, hinput, houtput⟩ :=
                quoteFrom_quoted hquote
              obtain rfl : preview.netSourceAmount = netSource := hshown.net
              exact ⟨totalFees, result, recipient, object, reading, quote, hfees, hanswered,
                hquote, hfields, hread, hinput, houtput, hshown⟩

/-- Where the provider pays out exactly what it is asked for, the preview shows the same number
on both sides, whatever the rate. -/
theorem requested_amount_shown {totalFees : ℚ} {result recipient object : Obj}
    {reading : AzaReading} {quote : AzaQuote}
    (h : PreviewShown settings provider payment hex preview totalFees result recipient object
      reading quote) (hpaid : reading.output = .finite preview.netSourceAmount) :
    preview.netDestinationAmount = preview.netSourceAmount := by
  obtain ⟨-, hleft, hnet⟩ := publicFees_accepted.mp h.fees
  have hdestination := h.shown.destination
  rw [h.output, hpaid, toCents] at hdestination
  rw [quantize_eq_with] at hnet hdestination
  have hself := (wholeCents_of_quantizeWith hnet).quantizeWith_self
    roundHalfEven_nearest.isRounding (quantizeWith_size hnet).1 (quantizeWith_size hnet).2
  exact (Option.some.inj (hself.symm.trans hdestination)).symm

end Shown

/-! ## When a preview quotes what it displays -/

/-- **When previews quote what they display.** -/
theorem preview_quotes_displayed_iff {settings : AzaSettings}
    {provider : AzaTransaction → HttpOutcome} {payment : PaymentSimulationRequest} {hex : String}
    {preview : PublicPreview}
    (hshown : publicFrontierpaySimulate settings provider payment hex = .shown preview) :
    QuotesDisplayed settings provider payment hex preview ↔
      DisplayFits settings provider payment hex := by
  obtain ⟨totalFees, result, recipient, object, reading, quote, h⟩ := exists_previewShown hshown
  obtain ⟨corridor, hcorridor⟩ := exists_azaCorridor payment
  have hquoted : getFrontierpayAzaQuote settings provider payment.corridor
      preview.netSourceAmount (publicReference hex) = .quoted quote := by
    rw [getFrontierpayAzaQuote_eq, h.answered]
    exact h.quoted
  -- the input of the quote: the stated one where there is one, else the net amount
  have hinput := azaReading_input h.read
  rw [← h.input, inputReading] at hinput
  constructor
  · rintro ⟨corridor', quote', hcorridor', hquoted', hsource, hbeneficiary, hamount, -⟩
    obtain rfl := Option.some.inj (hcorridor.symm.trans hcorridor')
    obtain rfl := QuoteOutcome.quoted.inj (hquoted.symm.trans hquoted')
    rw [h.shown.source] at hsource
    rw [h.shown.beneficiary] at hbeneficiary
    constructor
    · intro corridor' hcorridor'
      obtain rfl := Option.some.inj (hcorridor.symm.trans hcorridor')
      exact ⟨hsource, hbeneficiary⟩
    · intro totalFees' netSource result' recipient' object' hfees hanswered hfields hstated
      obtain ⟨rfl, rfl⟩ := FeeOutcome.accepted.inj (h.fees.symm.trans hfees)
      obtain rfl := ProviderOutcome.answered.inj (h.answered.symm.trans hanswered)
      obtain ⟨rfl, rfl⟩ := Prod.mk.inj (Option.some.inj (h.fields.symm.trans hfields))
      rw [if_pos hstated, hamount] at hinput
      exact hinput
  · rintro ⟨hcurrencies, hstates⟩
    obtain ⟨hsource, hbeneficiary⟩ := hcurrencies corridor hcorridor
    refine ⟨corridor, quote, hcorridor, hquoted, h.shown.source.trans hsource,
      h.shown.beneficiary.trans hbeneficiary, ?_, h.shown.destination⟩
    by_cases hstated : (statedInput recipient object).truthy = true
    · rw [if_pos hstated, hstates _ _ _ _ _ h.fees h.answered h.fields hstated] at hinput
      exact (Option.some.inj hinput).symm
    · rw [if_neg hstated] at hinput
      exact (Option.some.inj hinput).symm

/-- A payment in currencies that are not those of its corridor. -/
def dollarSimulation : PaymentSimulationRequest :=
  { simulationOf 0 noFee_nonneg with
    sourceCurrency := "USD"
    sourceCurrency_length := by decide
    beneficiaryCurrency := "EUR"
    beneficiaryCurrency_length := by decide }

/-- The reply of an amount converted at a rate of two. -/
def reply (input output : ℤ) : Obj :=
  [("object", .obj [("recipients", .arr [.obj [("input_amount", .int input),
    ("output_amount", .int output), ("exchange_rate", .int 2)]])])]

/-- A provider that is asked for a hundred thousand naira converts fifty thousand francs, at a
rate of two. -/
def fairProvider (transaction : AzaTransaction) : HttpOutcome :=
  match transaction.inputCurrency, transaction.recipients with
  | "XOF", [recipient] =>
      if recipient.requestedAmount = 100000 ∧ recipient.requestedCurrency = "NGN" then
        .response ⟨200, .value (.obj (reply 50000 100000)), ""⟩
      else .transportError
  | _, _ => .transportError

/-- The currencies and net amounts a preview shows, with its rate. -/
def PublicAnswer.figures : PublicAnswer → Option (String × String × ℚ × ℚ × DecimalValue)
  | .shown preview =>
      some (preview.sourceCurrency, preview.beneficiaryCurrency, preview.netSourceAmount,
        preview.netDestinationAmount, preview.fxRate)
  | _ => none

/-- The amount a quote converts. -/
def QuoteOutcome.input : QuoteOutcome → Option DecimalValue
  | .quoted quote => some quote.inputAmount
  | _ => none

/-- An answer with figures is a preview. -/
theorem shown_of_figures {answer : PublicAnswer}
    {figures : String × String × ℚ × ℚ × DecimalValue} (h : answer.figures = some figures) :
    ∃ preview, answer = .shown preview ∧ (PublicAnswer.shown preview).figures = some figures := by
  cases answer with
  | rejected exception => cases h
  | crashed => cases h
  | shown preview => exact ⟨preview, rfl, h⟩

/-- The statement on a hundred thousand francs, converted to two hundred thousand naira. -/
theorem preview_quotes_displayed_hundredThousand :
    ∃ preview, publicFrontierpaySimulate sandboxSettings (answering200 (reply 100000 200000))
        (simulationOf 0 le_rfl) "" = .shown preview ∧
      (QuotesDisplayed sandboxSettings (answering200 (reply 100000 200000))
          (simulationOf 0 le_rfl) "" preview ↔
        DisplayFits sandboxSettings (answering200 (reply 100000 200000))
          (simulationOf 0 le_rfl) "") := by
  have hfigures : (publicFrontierpaySimulate sandboxSettings (answering200 (reply 100000 200000))
      (simulationOf 0 le_rfl) "").figures = some ("XOF", "NGN", 100000, 200000, .finite 2) := by
    decide +kernel
  obtain ⟨preview, hshown, -⟩ := shown_of_figures hfigures
  exact ⟨preview, hshown, preview_quotes_displayed_iff hshown⟩

/-- Dollars and euros are shown along the corridor from Ivory Coast to Nigeria; and a hundred
thousand francs are shown as a hundred thousand naira, at a rate of two, where the provider has
converted fifty thousand francs to what it was asked for. -/
theorem not_quotes_displayed :
    (∃ preview, publicFrontierpaySimulate sandboxSettings (answering200 (reply 100000 200000))
        dollarSimulation "" = .shown preview ∧
      (PublicAnswer.shown preview).figures = some ("USD", "EUR", 100000, 200000, .finite 2) ∧
      ¬ QuotesDisplayed sandboxSettings (answering200 (reply 100000 200000)) dollarSimulation ""
        preview) ∧
    ∃ preview, publicFrontierpaySimulate sandboxSettings fairProvider (simulationOf 0 le_rfl) "" =
        .shown preview ∧
      (PublicAnswer.shown preview).figures = some ("XOF", "NGN", 100000, 100000, .finite 2) ∧
      ¬ QuotesDisplayed sandboxSettings fairProvider (simulationOf 0 le_rfl) "" preview := by
  constructor
  · have hfigures : (publicFrontierpaySimulate sandboxSettings
        (answering200 (reply 100000 200000)) dollarSimulation "").figures =
          some ("USD", "EUR", 100000, 200000, .finite 2) := by
      decide +kernel
    obtain ⟨preview, hshown, hvalues⟩ := shown_of_figures hfigures
    refine ⟨preview, hshown, hvalues, ?_⟩
    -- the quote is for XOF, and USD is displayed
    rintro ⟨corridor, quote, hcorridor, -, hsource, -⟩
    have hcurrency : azaCorridor dollarSimulation.corridor =
        some ⟨"XOF", "NGN", "NGN::Bank", "CI", "NG", ""⟩ := rfl
    obtain rfl := Option.some.inj (hcurrency.symm.trans hcorridor)
    simp only [PublicAnswer.figures, Option.some.injEq, Prod.mk.injEq] at hvalues
    rw [hvalues.1] at hsource
    exact absurd hsource (by decide)
  · have hfigures : (publicFrontierpaySimulate sandboxSettings fairProvider
        (simulationOf 0 le_rfl) "").figures = some ("XOF", "NGN", 100000, 100000, .finite 2) := by
      decide +kernel
    obtain ⟨preview, hshown, hvalues⟩ := shown_of_figures hfigures
    refine ⟨preview, hshown, hvalues, ?_⟩
    rintro ⟨corridor, quote, -, hquoted, -, -, hamount, -⟩
    simp only [PublicAnswer.figures, Option.some.injEq, Prod.mk.injEq] at hvalues
    rw [hvalues.2.2.1] at hquoted hamount
    have hinput : (getFrontierpayAzaQuote sandboxSettings fairProvider
        (simulationOf 0 le_rfl).corridor 100000 (publicReference "")).input =
          some (.finite 50000) := by
      decide +kernel
    rw [hquoted, QuoteOutcome.input, hamount] at hinput
    exact absurd hinput (by decide +kernel)

end AfricaFrontier
