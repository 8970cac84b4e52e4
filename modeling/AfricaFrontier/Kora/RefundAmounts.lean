import AfricaFrontier.Kora.RefundRoute
import AfricaFrontier.Payments.Creation
import AfricaFrontier.Python.Context

/-!
# The amount of a refund

A refund should be of a positive amount within the payment, and one without an amount should be
of the whole payment.  The route rounds what it is asked for to cents, half to even, and only
then compares it with the payment, which has eight places.  So half a cent or less is previewed
as a refund of nothing, and a payment that is no whole number of cents is never refunded in full:
`refund_amounts_iff`.

Above the payment nothing is accepted, and a refund of nothing is not executed either, since the
client checks the amount once more.

A request is `Admissible` where nothing is wrong with it but perhaps its amount; then the checks
come to two comparisons of the rounded amount (`checkRefund_of_admissible`), and what is accepted
is that amount or nothing (`accepted_eq_some`). The amount of the property is the one the provider
is sent, or the preview shows, which may differ from the one that was asked for.
-/

namespace AfricaFrontier

open Python

/-! ## What is accepted

Of an executed request the instruction counts, and of a preview its answer. -/

/-- The instruction an order comes to; neither the key nor the date of its record is in it. -/
def RefundOrder.instruction (config : RefundConfig) (order : RefundOrder) : RefundInstruction :=
  refundInstruction (refundRecord config order 0 0)

/-- What is sent for the record of an order. -/
theorem refundInstruction_record (config : RefundConfig) (order : RefundOrder) (id : ℕ)
    (now : Instant) :
    refundInstruction (refundRecord config order id now) = order.instruction config :=
  rfl

/-- The amount a request is accepted with: that of the preview, or of the instruction the client
sends.  A key that was used before is answered with the refund it was accepted for then. -/
def RefundCall.accepted (config : RefundConfig) (call : RefundCall) (found : Option Transaction) :
    Option ℚ :=
  match checkRefund config call found with
  | .error (.validated _ _ amount _) => some amount
  | .error _ => none
  | .ok order => if (order.instruction config).sendable then some order.amount else none

/-- An order is sent to the provider exactly if the client does not refuse its instruction. -/
theorem issuing_awaits_iff {config : RefundConfig} {call : RefundCall} {s : Store}
    {tick : RefundTick} {order : RefundOrder} {id : ℕ} {now : Instant} :
    (call.step config s tick
        (.issuing order.transaction (refundRecord config order id now))).2 =
          some (.awaiting order.transaction (refundRecord config order id now)) ↔
      (order.instruction config).sendable = true := by
  have hstep : (call.step config s tick
      (.issuing order.transaction (refundRecord config order id now))).2 =
        if (order.instruction config).sendable then
          some (.awaiting order.transaction (refundRecord config order id now))
        else
          some (.staged (refundUnavailable (refundRecord config order id now)) .unavailable) := by
    simp only [RefundCall.step, refundInstruction_record]
    split <;> rename_i hsent <;> simp only [hsent, if_true, if_false, Bool.false_eq_true]
  rw [hstep]
  split
  · rename_i hsent
    exact iff_of_true rfl hsent
  · rename_i hunsent
    refine iff_of_false (fun hsame => ?_) hunsent
    cases hsame

/-- Everything about a request but its amount is in order: the payment is a settled pay-in of the
user with the provider's reference, and an executed request brings a key of eight characters and
its confirmation, outside development. -/
structure RefundCall.Admissible (config : RefundConfig) (call : RefundCall) (t : Transaction) :
    Prop where
  owner : t.userId = call.userId
  psp : t.psp = .kora
  ledgerNamespace : t.ledgerNamespace = afmPayments
  payin : lower (t.txnMetadata.firstText ["operation"]) ≠ "payout"
  completed : t.status = .completed ∨ t.status = .refunded
  reference : t.pspTransactionId.getD "" ≠ ""
  executable : call.refund.execute = true →
    8 ≤ (strip call.idempotencyHeader).toList.length ∧
      call.confirmationHeader = some "CONFIRM" ∧ config.isDevelopment = false

/-! ## The property and its condition -/

/-- **The amounts are sound**: what is accepted is positive and at most the amount of the payment,
and a request without an amount is accepted for all of it. -/
structure RefundSound (config : RefundConfig) (call : RefundCall) (t : Transaction) : Prop where
  bounded : ∀ amount, call.accepted config (some t) = some amount →
    0 < amount ∧ amount ≤ t.amount
  full : call.refund.amount = none → call.accepted config (some t) = some t.amount

/-- An amount that is asked for is more than half a cent, unless it is to be executed; and a
payment to be refunded in full is whole cents. -/
def RefundFits (call : RefundCall) (t : Transaction) : Prop :=
  match call.refund.amount with
  | none => WholeCents t.amount ∧ t.amount < 10 ^ 26
  | some amount => call.refund.execute = true ∨ 1 / 200 < amount

/-! ## The route on an admissible request -/

section Admissible

variable {config : RefundConfig} {call : RefundCall} {t : Transaction}

/-- What the checks come to when only the amount is left to check. -/
theorem checkRefund_of_admissible (h : call.Admissible config t) :
    checkRefund config call (some t) =
      match quantize cents (call.refund.amount.getD t.amount) with
      | none => .error .crashed
      | some amount =>
          if t.amount < amount then
            .error (.rejected 422 "Refund amount cannot exceed the payment amount")
          else if call.refund.execute = false then
            .error (.validated t.id (t.pspTransactionId.getD "") amount t.currency)
          else
            .ok ⟨t, t.pspTransactionId.getD "", amount, strip call.idempotencyHeader,
              call.refund.reason⟩ := by
  obtain ⟨howner, hpsp, hnamespace, hpayin, hcompleted, hreference, hexecutable⟩ := h
  have hmine : ¬ (t.userId ≠ call.userId ∨ t.psp ≠ .kora ∨ t.ledgerNamespace ≠ afmPayments) := by
    rintro (hne | hne | hne)
    · exact hne howner
    · exact hne hpsp
    · exact hne hnamespace
  have hstatus : ¬ (t.status ≠ .completed ∧ t.status ≠ .refunded) := by
    rintro ⟨hne, hne'⟩
    exact hcompleted.elim hne hne'
  -- the checks that are in order drop out, and those of the amount are left
  unfold checkRefund
  dsimp only
  rw [if_neg hmine, if_neg hpayin, if_neg hstatus, if_neg hreference]
  cases quantize cents (call.refund.amount.getD t.amount) with
  | none => rfl
  | some amount =>
      dsimp only
      cases hexecute : call.refund.execute with
      | false => simp
      | true =>
          obtain ⟨hkey, hconfirmed, hlive⟩ := hexecutable hexecute
          have hkey : ¬ (strip call.idempotencyHeader).toList.length < 8 := not_lt.mpr hkey
          simp [hkey, hconfirmed, hlive]

/-- The client sends every instruction with an amount. -/
theorem RefundOrder.sendable_iff {order : RefundOrder} (hreference : order.paymentReference ≠ "") :
    (order.instruction config).sendable = true ↔ 0 < order.amount := by
  obtain ⟨text, htext⟩ : ∃ text, "afm-ref-" ++ slice 40 (config.sha256Text order.idempotencyKey) =
      text := ⟨_, rfl⟩
  have hlength : 5 ≤ text.toList.length ∧ text.toList.length ≤ 50 := by
    have hmark : "afm-ref-".toList.length = 8 := by decide
    rw [← htext, String.toList_append, List.length_append, hmark, slice_length]
    omega
  simp only [RefundInstruction.sendable, RefundOrder.instruction, refundInstruction, refundRecord,
    htext, Bool.and_eq_true]
  constructor
  · exact fun h => of_decide_eq_true h.2
  · exact fun h => ⟨⟨⟨decide_eq_true hreference, decide_eq_true hlength.1⟩,
      decide_eq_true hlength.2⟩, decide_eq_true h⟩

/-- An admissible request is accepted with the rounded amount, if that is within the payment and,
where it is to be executed, positive. -/
theorem accepted_eq_some (h : call.Admissible config t) {amount : ℚ} :
    call.accepted config (some t) = some amount ↔
      quantize cents (call.refund.amount.getD t.amount) = some amount ∧ amount ≤ t.amount ∧
        (call.refund.execute = true → 0 < amount) := by
  unfold RefundCall.accepted
  rw [checkRefund_of_admissible h]
  cases quantize cents (call.refund.amount.getD t.amount) with
  | none => simp
  | some rounded =>
      dsimp only
      -- too much is refused before anything else is looked at
      by_cases hover : t.amount < rounded
      · rw [if_pos hover]
        refine iff_of_false (by simp) ?_
        rintro ⟨hsame, hle, -⟩
        obtain rfl := Option.some.inj hsame
        exact absurd hover (not_lt.mpr hle)
      · rw [if_neg hover]
        cases hexecute : call.refund.execute with
        | false =>
            simp only [if_true, Option.some.injEq]
            constructor
            · rintro rfl
              exact ⟨rfl, not_lt.mp hover, fun hlive => by cases hlive⟩
            · exact fun hsame => hsame.1
        | true =>
            have hsendable := @RefundOrder.sendable_iff config
              ⟨t, t.pspTransactionId.getD "", rounded, strip call.idempotencyHeader,
                call.refund.reason⟩ h.reference
            simp only [Bool.true_eq_false, if_false, Option.some.injEq]
            split
            · rename_i hsent
              constructor
              · intro hsame
                obtain rfl := Option.some.inj hsame
                exact ⟨rfl, not_lt.mp hover, fun _ => hsendable.mp hsent⟩
              · exact fun hsame => congrArg some hsame.1
            · rename_i hunsent
              refine iff_of_false (by simp) ?_
              rintro ⟨rfl, -, hpositive⟩
              exact hunsent (hsendable.mpr (hpositive trivial))

end Admissible

/-! ## When the amounts are sound -/

/-- **When the amounts of refunds are sound.** -/
theorem refund_amounts_iff {config : RefundConfig} {call : RefundCall} {t : Transaction}
    (hadmissible : call.Admissible config t) (hpositive : 0 < t.amount) :
    RefundSound config call t ↔ RefundFits call t := by
  have haccepted : ∀ amount, call.accepted config (some t) = some amount ↔
      quantize cents (call.refund.amount.getD t.amount) = some amount ∧ amount ≤ t.amount ∧
        (call.refund.execute = true → 0 < amount) := fun _ => accepted_eq_some hadmissible
  unfold RefundFits
  cases hasked : call.refund.amount with
  | none =>
      have hself := quantize_self_iff hpositive
      simp only [hasked, Option.getD_none] at haccepted
      constructor
      · rintro ⟨-, hfull⟩
        exact hself.mp ((haccepted _).mp (hfull hasked)).1
      · intro hwhole
        have hexact := hself.mpr hwhole
        have hall := (haccepted t.amount).mpr ⟨hexact, le_rfl, fun _ => hpositive⟩
        refine ⟨fun amount hamount => ?_, fun _ => hall⟩
        obtain rfl := Option.some.inj (hall.symm.trans hamount)
        exact ⟨hpositive, le_rfl⟩
  | some asked =>
      simp only [hasked, Option.getD_some] at haccepted
      constructor
      · rintro ⟨hbounded, -⟩
        by_contra hneither
        obtain ⟨hpreview, hsmall⟩ := not_or.mp hneither
        -- half a cent or less is previewed as nothing
        obtain ⟨amount, hrounded⟩ : ∃ amount,
            quantizeWith roundHalfEven cents asked = some amount :=
          exists_quantizeWith_nonneg (n := 1) roundHalfEven_nearest.isRounding (by norm_num)
            (call.refund.amount_pos asked hasked).le (by norm_num [cents] at hsmall ⊢; linarith)
        have hnothing : ¬ 0 < amount := fun hsome =>
          hsmall ((quantize_pos_iff hrounded).mp hsome)
        have hpreviewed := (haccepted amount).mpr
          ⟨hrounded, (not_lt.mp hnothing).trans hpositive.le, fun hlive => absurd hlive hpreview⟩
        exact hnothing (hbounded amount hpreviewed).1
      · intro hfits
        refine ⟨fun amount hamount => ?_, fun hnone => ?_⟩
        · obtain ⟨hrounded, hle, hlive⟩ := (haccepted amount).mp hamount
          refine ⟨?_, hle⟩
          rcases hfits with hexecute | hlarge
          · exact hlive hexecute
          · exact (quantize_pos_iff hrounded).mpr hlarge
        · rw [hasked] at hnone
          cases hnone

/-- A preview of a refund of the transaction 0, of the given amount or in full. -/
def previewCall (amount : Option ℚ) (h : ∀ a ∈ amount, 0 < a) : RefundCall where
  transactionId := 0
  refund :=
    { transactionId := 0, amount := amount, amount_pos := h, reason := none, execute := false }
  userId := 1
  idempotencyHeader := ""
  confirmationHeader := none

/-- Nothing is wrong with a preview but perhaps its amount. -/
theorem previewCall_admissible (amount : Option ℚ) (h : ∀ a ∈ amount, 0 < a) (total : ℚ) :
    (previewCall amount h).Admissible sampleConfig { completedPayin with amount := total } where
  owner := rfl
  psp := rfl
  ledgerNamespace := rfl
  payin := by
    show lower (completedPayin.txnMetadata.firstText ["operation"]) ≠ "payout"
    decide
  completed := Or.inl rfl
  reference := by
    show completedPayin.pspTransactionId.getD "" ≠ ""
    decide
  executable hexecute := by cases hexecute

/-- What a preview comes to. -/
theorem check_preview (amount : Option ℚ) (h : ∀ a ∈ amount, 0 < a) (total : ℚ) :
    checkRefund sampleConfig (previewCall amount h) (some { completedPayin with amount := total }) =
      match quantize cents (amount.getD total) with
      | none => .error .crashed
      | some rounded =>
          if total < rounded then
            .error (.rejected 422 "Refund amount cannot exceed the payment amount")
          else .error (.validated 0 "KPY-1" rounded "XAF") :=
  checkRefund_of_admissible (previewCall_admissible amount h total)

/-- The amounts that are asked for are positive. -/
theorem fourMills_pos : ∀ a ∈ some (4 / 1000 : ℚ), 0 < a := by
  intro a ha
  obtain rfl := Option.some.inj ha
  norm_num

/-- The statement on a payment of a thousand, refunded in full. -/
theorem refund_amounts_iff_full :
    RefundSound sampleConfig (previewCall none noAmount_pos)
        { completedPayin with amount := 1000 } ↔
      RefundFits (previewCall none noAmount_pos) { completedPayin with amount := 1000 } :=
  refund_amounts_iff (previewCall_admissible none noAmount_pos 1000) (by norm_num)

/-- Four tenths of a cent are previewed as nothing; and of a payment with half a cent the full
refund is half a cent too little, or, where the rounding goes up, refused. -/
theorem not_refund_sound :
    checkRefund sampleConfig (previewCall (some (4 / 1000)) fourMills_pos)
        (some { completedPayin with amount := 1000 }) =
          .error (.validated 0 "KPY-1" 0 "XAF") ∧
      ¬ RefundSound sampleConfig (previewCall (some (4 / 1000)) fourMills_pos)
        { completedPayin with amount := 1000 } ∧
      checkRefund sampleConfig (previewCall none noAmount_pos)
        (some { completedPayin with amount := 10005 / 1000 }) =
          .error (.validated 0 "KPY-1" 10 "XAF") ∧
      checkRefund sampleConfig (previewCall none noAmount_pos)
        (some { completedPayin with amount := 10015 / 1000 }) =
          .error (.rejected 422 "Refund amount cannot exceed the payment amount") ∧
      ¬ RefundSound sampleConfig (previewCall none noAmount_pos)
        { completedPayin with amount := 10015 / 1000 } := by
  -- less than half a cent is accepted and comes to nothing
  have hnothing : checkRefund sampleConfig (previewCall (some (4 / 1000)) fourMills_pos)
      (some { completedPayin with amount := 1000 }) = .error (.validated 0 "KPY-1" 0 "XAF") := by
    have hround : quantize cents ((some (4 / 1000 : ℚ)).getD 1000) = some 0 := by decide +kernel
    rw [check_preview, hround]
    exact if_neg (by norm_num)
  have hshort : checkRefund sampleConfig (previewCall none noAmount_pos)
      (some { completedPayin with amount := 10005 / 1000 }) =
        .error (.validated 0 "KPY-1" 10 "XAF") := by
    have hround : quantize cents ((none : Option ℚ).getD (10005 / 1000)) = some 10 := by
      decide +kernel
    rw [check_preview, hround]
    exact if_neg (by norm_num)
  -- the whole of a payment with half a cent is more than the payment
  have hrefused : checkRefund sampleConfig (previewCall none noAmount_pos)
      (some { completedPayin with amount := 10015 / 1000 }) =
        .error (.rejected 422 "Refund amount cannot exceed the payment amount") := by
    have hround : quantize cents ((none : Option ℚ).getD (10015 / 1000)) = some (1002 / 100) := by
      decide +kernel
    rw [check_preview, hround]
    exact if_pos (by norm_num)
  refine ⟨hnothing, fun h => ?_, hshort, hrefused, fun h => ?_⟩
  · have hbounded := h.bounded 0 (by unfold RefundCall.accepted; rw [hnothing])
    exact absurd hbounded.1 (lt_irrefl 0)
  · have hfull := h.full rfl
    unfold RefundCall.accepted at hfull
    rw [hrefused] at hfull
    cases hfull

end AfricaFrontier
