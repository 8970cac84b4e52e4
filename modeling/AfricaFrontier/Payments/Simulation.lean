import AfricaFrontier.Python.Context

/-!
# The two fee previews

`public_frontierpay_simulate` previews a payment without writing anything, `simulate_payment`
stores it as a sandbox intent.  Both take the fees off the amount and should agree on which
requests have too many fees, and on the fees and the net amount of the others.

They add up the fees in different orders, in 28 digits each, and round to cents; what is left is
compared with zero by `<=` in the one and by `<` in the other, after it was rounded.  So where
no more than half a cent is left or missing the one refuses and the other accepts:
`previews_agree_iff`.  As long as 28 digits hold every sum that is the whole difference
(`previews_agree_of_exact`).

Both routes are modelled up to where their fees are settled: the public route goes on to ask for a
quote there, the sandbox route computes all its amounts first, also those it does not look at, and
so may fail with an `InvalidOperation` where the other has already answered 422. The condition
`FeesAgree` is stated on the sums and on what is left of the amount.
-/

namespace AfricaFrontier

open Python

/-! ## The requests

The checks of the request model are fields: the fees and the amount are not negative. -/

/-- The corridors a request may name. -/
def simulationCorridors : List String :=
  ["ci-ghana", "ci-nigeria", "benin-nigeria", "cameroon-nigeria", "cameroon-ivory-coast",
    "ivory-coast-cameroon"]

/-- Which way the money would go. -/
inductive SimulationDirection
  | payout
  | payin
  deriving DecidableEq, Repr

/-- A sandbox instruction that passed the checks of its request model. -/
structure PaymentSimulationRequest where
  amount : ℚ
  amount_ge : 100000 ≤ amount
  sourceCurrency : String
  sourceCurrency_length : sourceCurrency.toList.length = 3
  beneficiaryCurrency : String
  beneficiaryCurrency_length : beneficiaryCurrency.toList.length = 3
  corridor : String
  corridor_pattern : corridor ∈ simulationCorridors
  kaybicFee : ℚ := 0
  kaybicFee_nonneg : 0 ≤ kaybicFee
  azaPayinFee : ℚ := 0
  azaPayinFee_nonneg : 0 ≤ azaPayinFee
  azaPayoutFee : ℚ := 0
  azaPayoutFee_nonneg : 0 ≤ azaPayoutFee
  afmFee : ℚ := 0
  afmFee_nonneg : 0 ≤ afmFee
  fxRate : Numeral := ⟨1, 0⟩
  fxRate_pos : 0 < fxRate.value
  direction : SimulationDirection := .payout
  metadata : Obj := []

namespace PaymentSimulationRequest

variable (payment : PaymentSimulationRequest)

/-- The payout fee, which a pay-in does not have. -/
def payoutFee : ℚ :=
  if payment.direction = .payout then payment.azaPayoutFee else 0

/-- `payin_fee + payout_fee + afm_fee + client_psp_fee`, in the public route. -/
def publicFeeSum : ℚ :=
  inContext (inContext (inContext (payment.azaPayinFee + payment.payoutFee) + payment.afmFee) +
    payment.kaybicFee)

/-- `kaybic_fee + aza_payin_fee + (aza_payout_fee) + afm_fee`, in the sandbox route. -/
def simulateFeeSum : ℚ :=
  inContext (inContext (inContext (payment.kaybicFee + payment.azaPayinFee) + payment.payoutFee) +
    payment.afmFee)

/-- `amount - total_fees`. -/
def left (totalFees : ℚ) : ℚ := inContext (payment.amount - totalFees)

end PaymentSimulationRequest

/-! ## The fees in the two routes

The same fees in two orders, with two comparisons. -/

/-- What the fees of a request lead to: an error of the server, the 422, or amounts. -/
inductive FeeOutcome
  | crashed
  | rejected
  | accepted (totalFees netSource : ℚ)
  deriving DecidableEq

/-- The fees of `public_frontierpay_simulate`, up to its request for a quote. -/
def publicFees (payment : PaymentSimulationRequest) : FeeOutcome :=
  match quantize cents payment.publicFeeSum with
  | none => .crashed
  | some totalFees =>
      match quantize cents (max 0 (payment.left totalFees)) with
      | none => .crashed
      | some netSource =>
          if netSource ≤ 0 then .rejected else .accepted totalFees netSource

/-- The amounts of `simulate_payment`. -/
structure SimulatedAmounts where
  totalFees : ℚ
  netSource : ℚ
  netDestination : ℚ

/-- They are all computed before any is looked at; `none` is an `InvalidOperation`. -/
def simulatedAmounts (payment : PaymentSimulationRequest) : Option SimulatedAmounts := do
  let totalFees ← quantize cents payment.simulateFeeSum
  let netSource ← quantize cents (payment.left totalFees)
  let netDestination ← quantize cents (inContext (netSource * payment.fxRate.value))
  return ⟨totalFees, netSource, netDestination⟩

/-- The fees of `simulate_payment`. -/
def simulateFees (payment : PaymentSimulationRequest) : FeeOutcome :=
  match simulatedAmounts payment with
  | none => .crashed
  | some amounts =>
      if amounts.netSource < 0 then .rejected else .accepted amounts.totalFees amounts.netSource

/-! ## The property and its condition

A request is agreed on if both routes refuse it, or both accept it with the same fees and the same
net amount. -/

/-- **The previews agree** on a request: they refuse it alike, and accept it with the same fees
and the same net amount. -/
structure PreviewsAgree (payment : PaymentSimulationRequest) : Prop where
  rejected : publicFees payment = .rejected ↔ simulateFees payment = .rejected
  accepted : ∀ totalFees netSource, publicFees payment = .accepted totalFees netSource ↔
    simulateFees payment = .accepted totalFees netSource

/-- The sandbox route has no amount that is too large, with fees of this total. -/
def Stated (payment : PaymentSimulationRequest) (totalFees : ℚ) : Prop :=
  ∃ netSource, quantize cents (payment.left totalFees) = some netSource ∧
    Quantizable (inContext (netSource * payment.fxRate.value))

/-- The fees come to the same total in both orders, with more than half a cent left; or in each
order more than the amount, by more than half a cent in the order of the sandbox route; or there
are no answers, as the amounts are too large. -/
inductive FeesAgree (payment : PaymentSimulationRequest) : Prop
  | settled {totalFees : ℚ} (hpublic : quantize cents payment.publicFeeSum = some totalFees)
      (hsimulate : quantize cents payment.simulateFeeSum = some totalFees)
      (hleft : 1 / 200 < payment.left totalFees) (hstated : Stated payment totalFees)
  | exceeded {publicTotal simulateTotal : ℚ}
      (hpublic : quantize cents payment.publicFeeSum = some publicTotal)
      (hsimulate : quantize cents payment.simulateFeeSum = some simulateTotal)
      (hnothing : payment.left publicTotal ≤ 1 / 200)
      (hmissing : payment.left simulateTotal < -(1 / 200)) (hstated : Stated payment simulateTotal)
  | unanswered
      (hpublic : ∀ totalFees, quantize cents payment.publicFeeSum = some totalFees →
        1 / 200 < payment.left totalFees ∧ ¬ Quantizable (payment.left totalFees))
      (hsimulate : ∀ totalFees, quantize cents payment.simulateFeeSum = some totalFees →
        ¬ Stated payment totalFees)

/-! ## What each route answers

For each route, when it refuses and when it accepts, as inequalities on what is left. -/

section Answers

variable {payment : PaymentSimulationRequest} {totalFees netSource : ℚ}

/-- What is not more than half a cent rounds to nothing. -/
theorem quantize_max_zero {x y : ℚ} (hx : x ≤ 1 / 200) (h : quantize cents (max 0 x) = some y) :
    y ≤ 0 := by
  have hsmall : max 0 x ≤ 1 / 200 := max_le (by norm_num) hx
  exact not_lt.mp fun hpos => absurd ((quantize_pos_iff h).mp hpos) (not_lt.mpr hsmall)

/-- The public route refuses where no more than half a cent is left. -/
theorem publicFees_rejected :
    publicFees payment = .rejected ↔
      ∃ totalFees, quantize cents payment.publicFeeSum = some totalFees ∧
        payment.left totalFees ≤ 1 / 200 := by
  unfold publicFees
  cases htotal : quantize cents payment.publicFeeSum with
  | none => simp
  | some totalFees =>
      have hone : (∃ t, some totalFees = some t ∧ payment.left t ≤ 1 / 200) ↔
          payment.left totalFees ≤ 1 / 200 := by
        simp
      rw [hone]
      dsimp only
      cases hnet : quantize cents (max 0 (payment.left totalFees)) with
      | none =>
          refine iff_of_false (fun h => by cases h) fun hsmall => ?_
          have hquantizable : Quantizable (max 0 (payment.left totalFees)) := by
            rw [Quantizable, abs_of_nonneg (le_max_left _ _)]
            exact lt_of_le_of_lt (max_le (by norm_num) hsmall : _ ≤ (1 / 200 : ℚ)) (by norm_num)
          obtain ⟨y, hy⟩ := quantizable_iff.mp hquantizable
          rw [hnet] at hy
          cases hy
      -- what is rounded is not negative, and comes to nothing for half a cent or less
      | some netSource =>
          dsimp only
          split
          · rename_i hnone
            refine iff_of_true rfl (not_lt.mp fun hleft => ?_)
            have hmax : 1 / 200 < max 0 (payment.left totalFees) := lt_max_of_lt_right hleft
            exact absurd ((quantize_pos_iff hnet).mpr hmax) (not_lt.mpr hnone)
          · rename_i hsome
            exact iff_of_false (fun h => by cases h) fun hsmall =>
              hsome (quantize_max_zero hsmall hnet)

/-- The public route accepts where more than half a cent is left. -/
theorem publicFees_accepted :
    publicFees payment = .accepted totalFees netSource ↔
      quantize cents payment.publicFeeSum = some totalFees ∧
        1 / 200 < payment.left totalFees ∧
          quantize cents (payment.left totalFees) = some netSource := by
  unfold publicFees
  cases htotal : quantize cents payment.publicFeeSum with
  | none => simp
  | some total =>
      dsimp only
      -- more than half a cent is left, so that the maximum with zero changes nothing
      by_cases hleft : 1 / 200 < payment.left total
      · have hmax : max 0 (payment.left total) = payment.left total :=
          max_eq_right (by linarith)
        rw [hmax]
        cases hnet : quantize cents (payment.left total) with
        | none =>
            refine iff_of_false (fun h => by cases h) ?_
            rintro ⟨hsame, -, hnet'⟩
            obtain rfl := Option.some.inj hsame
            rw [hnet] at hnet'
            cases hnet'
        | some net =>
            dsimp only
            rw [if_neg (not_le.mpr ((quantize_pos_iff hnet).mpr hleft))]
            constructor
            · intro hsame
              obtain ⟨rfl, rfl⟩ := FeeOutcome.accepted.inj hsame
              exact ⟨rfl, hleft, hnet⟩
            · rintro ⟨hsame, -, hnet'⟩
              obtain rfl := Option.some.inj hsame
              rw [hnet] at hnet'
              rw [Option.some.inj hnet']
      · have hnot : ¬ (some total = some totalFees ∧ 1 / 200 < payment.left totalFees ∧
            quantize cents (payment.left totalFees) = some netSource) := by
          rintro ⟨hsame, hmore, -⟩
          obtain rfl := Option.some.inj hsame
          exact hleft hmore
        refine iff_of_false ?_ hnot
        cases hnet : quantize cents (max 0 (payment.left total)) with
        | none => exact fun h => by cases h
        | some net =>
            dsimp only
            rw [if_pos (quantize_max_zero (not_lt.mp hleft) hnet)]
            exact fun h => by cases h

/-- The amounts of the sandbox route, when all of them can be stated. -/
theorem simulatedAmounts_eq_some {amounts : SimulatedAmounts} :
    simulatedAmounts payment = some amounts ↔
      quantize cents payment.simulateFeeSum = some amounts.totalFees ∧
        quantize cents (payment.left amounts.totalFees) = some amounts.netSource ∧
          quantize cents (inContext (amounts.netSource * payment.fxRate.value)) =
            some amounts.netDestination := by
  unfold simulatedAmounts
  simp only [Option.bind_eq_bind, Option.bind_eq_some_iff, Option.pure_def, Option.some.injEq]
  constructor
  · rintro ⟨totalFees, htotal, netSource, hnet, netDestination, hdestination, rfl⟩
    exact ⟨htotal, hnet, hdestination⟩
  · rintro ⟨htotal, hnet, hdestination⟩
    exact ⟨_, htotal, _, hnet, _, hdestination, rfl⟩

/-- Both answers of the sandbox route at once, by the sign of what is left. -/
theorem simulateFees_eq {outcome : FeeOutcome} (hanswered : outcome ≠ .crashed) :
    simulateFees payment = outcome ↔
      ∃ totalFees netSource, quantize cents payment.simulateFeeSum = some totalFees ∧
        quantize cents (payment.left totalFees) = some netSource ∧ Stated payment totalFees ∧
          (if payment.left totalFees < -(1 / 200) then .rejected
            else FeeOutcome.accepted totalFees netSource) = outcome := by
  unfold simulateFees
  cases hamounts : simulatedAmounts payment with
  | none =>
      refine iff_of_false (fun h => hanswered h.symm) ?_
      rintro ⟨totalFees, netSource, htotal, hnet, ⟨netSource', hnet', hstated⟩, -⟩
      obtain rfl := Option.some.inj (hnet.symm.trans hnet')
      obtain ⟨netDestination, hdestination⟩ := quantizable_iff.mp hstated
      have hsome : simulatedAmounts payment = some ⟨totalFees, netSource, netDestination⟩ :=
        simulatedAmounts_eq_some.mpr ⟨htotal, hnet, hdestination⟩
      rw [hamounts] at hsome
      cases hsome
  | some amounts =>
      obtain ⟨htotal, hnet, hdestination⟩ := simulatedAmounts_eq_some.mp hamounts
      have hsign := quantize_neg_iff hnet
      dsimp only
      simp only [hsign]
      constructor
      · exact fun h => ⟨_, _, htotal, hnet, ⟨_, hnet, quantizable_iff.mpr ⟨_, hdestination⟩⟩, h⟩
      · rintro ⟨totalFees, netSource, htotal', hnet', -, h⟩
        obtain rfl := Option.some.inj (htotal.symm.trans htotal')
        obtain rfl := Option.some.inj (hnet.symm.trans hnet')
        exact h

/-- The sandbox route refuses where more than half a cent is missing. -/
theorem simulateFees_rejected :
    simulateFees payment = .rejected ↔
      ∃ totalFees, quantize cents payment.simulateFeeSum = some totalFees ∧
        payment.left totalFees < -(1 / 200) ∧ Stated payment totalFees := by
  rw [simulateFees_eq (fun h => by cases h)]
  constructor
  · rintro ⟨totalFees, netSource, htotal, hnet, hstated, hsign⟩
    refine ⟨totalFees, htotal, ?_, hstated⟩
    by_contra hmore
    rw [if_neg hmore] at hsign
    cases hsign
  · rintro ⟨totalFees, htotal, hmissing, hstated⟩
    obtain ⟨netSource, hnet, -⟩ := id hstated
    exact ⟨totalFees, netSource, htotal, hnet, hstated, if_pos hmissing⟩

/-- The sandbox route accepts where no more than half a cent is missing. -/
theorem simulateFees_accepted :
    simulateFees payment = .accepted totalFees netSource ↔
      quantize cents payment.simulateFeeSum = some totalFees ∧
        -(1 / 200) ≤ payment.left totalFees ∧
          quantize cents (payment.left totalFees) = some netSource ∧ Stated payment totalFees := by
  rw [simulateFees_eq (fun h => by cases h)]
  constructor
  · rintro ⟨total, net, htotal, hnet, hstated, hsign⟩
    by_cases hmissing : payment.left total < -(1 / 200)
    · rw [if_pos hmissing] at hsign
      cases hsign
    · rw [if_neg hmissing] at hsign
      obtain ⟨rfl, rfl⟩ := FeeOutcome.accepted.inj hsign
      exact ⟨htotal, not_lt.mp hmissing, hnet, hstated⟩
  · rintro ⟨htotal, hmore, hnet, hstated⟩
    exact ⟨totalFees, netSource, htotal, hnet, hstated, if_neg (not_lt.mpr hmore)⟩

end Answers

/-! ## When the previews agree

One direction for each implication, by the four cases of the answers. -/

/-- Routes that agree have fees that agree. -/
theorem PreviewsAgree.feesAgree {payment : PaymentSimulationRequest}
    (h : PreviewsAgree payment) : FeesAgree payment := by
  obtain ⟨hrejected, haccepted⟩ := h
  -- by what the public route answers
  by_cases hrefused : publicFees payment = .rejected
  · obtain ⟨publicTotal, hpublic, hnothing⟩ := publicFees_rejected.mp hrefused
    obtain ⟨simulateTotal, hsimulate, hmissing, hstated⟩ :=
      simulateFees_rejected.mp (hrejected.mp hrefused)
    exact .exceeded hpublic hsimulate hnothing hmissing hstated
  · by_cases hamounts : ∃ totalFees netSource, publicFees payment = .accepted totalFees netSource
    · obtain ⟨totalFees, netSource, hquoted⟩ := hamounts
      obtain ⟨hpublic, hleft, -⟩ := publicFees_accepted.mp hquoted
      obtain ⟨hsimulate, -, -, hstated⟩ :=
        simulateFees_accepted.mp ((haccepted totalFees netSource).mp hquoted)
      exact .settled hpublic hsimulate hleft hstated
    · refine .unanswered (fun totalFees hpublic => ?_) fun totalFees hsimulate hstated => ?_
      · have hleft : 1 / 200 < payment.left totalFees := by
          by_contra hnothing
          exact hrefused (publicFees_rejected.mpr ⟨totalFees, hpublic, not_lt.mp hnothing⟩)
        refine ⟨hleft, fun hquantizable => hamounts ?_⟩
        obtain ⟨netSource, hnet⟩ := quantizable_iff.mp hquantizable
        exact ⟨totalFees, netSource, publicFees_accepted.mpr ⟨hpublic, hleft, hnet⟩⟩
      · obtain ⟨netSource, hnet, -⟩ := id hstated
        by_cases hmissing : payment.left totalFees < -(1 / 200)
        · exact hrefused (hrejected.mpr
            (simulateFees_rejected.mpr ⟨totalFees, hsimulate, hmissing, hstated⟩))
        · exact hamounts ⟨totalFees, netSource, (haccepted totalFees netSource).mpr
            (simulateFees_accepted.mpr ⟨hsimulate, not_lt.mp hmissing, hnet, hstated⟩)⟩

/-- The converse, case by case. -/
theorem FeesAgree.previewsAgree {payment : PaymentSimulationRequest} (h : FeesAgree payment) :
    PreviewsAgree payment := by
  cases h with
  | @settled totalFees hpublic hsimulate hleft hstated =>
      constructor
      · rw [publicFees_rejected, simulateFees_rejected]
        refine iff_of_false ?_ ?_
        · rintro ⟨total, htotal, hnothing⟩
          obtain rfl := Option.some.inj (hpublic.symm.trans htotal)
          exact absurd hleft (not_lt.mpr hnothing)
        · rintro ⟨total, htotal, hmissing, -⟩
          obtain rfl := Option.some.inj (hsimulate.symm.trans htotal)
          linarith
      · intro total net
        rw [publicFees_accepted, simulateFees_accepted]
        constructor
        · rintro ⟨htotal, -, hnet⟩
          obtain rfl := Option.some.inj (hpublic.symm.trans htotal)
          exact ⟨hsimulate, by linarith, hnet, hstated⟩
        · rintro ⟨htotal, -, hnet, -⟩
          obtain rfl := Option.some.inj (hsimulate.symm.trans htotal)
          exact ⟨hpublic, hleft, hnet⟩
  -- both refuse, each by its own comparison
  | @exceeded publicTotal simulateTotal hpublic hsimulate hnothing hmissing hstated =>
      have hrefused : publicFees payment = .rejected :=
        publicFees_rejected.mpr ⟨publicTotal, hpublic, hnothing⟩
      have hrefused' : simulateFees payment = .rejected :=
        simulateFees_rejected.mpr ⟨simulateTotal, hsimulate, hmissing, hstated⟩
      refine ⟨iff_of_true hrefused hrefused', fun total net => ?_⟩
      rw [hrefused, hrefused']
  -- neither route can state its amounts
  | unanswered hpublic hsimulate =>
      constructor
      · rw [publicFees_rejected, simulateFees_rejected]
        refine iff_of_false ?_ ?_
        · rintro ⟨total, htotal, hnothing⟩
          exact absurd (hpublic total htotal).1 (not_lt.mpr hnothing)
        · rintro ⟨total, htotal, -, hstated⟩
          exact hsimulate total htotal hstated
      · intro total net
        rw [publicFees_accepted, simulateFees_accepted]
        refine iff_of_false ?_ ?_
        · rintro ⟨htotal, -, hnet⟩
          exact (hpublic total htotal).2 (quantizable_iff.mpr ⟨net, hnet⟩)
        · rintro ⟨htotal, -, -, hstated⟩
          exact hsimulate total htotal hstated

/-- Where both orders come to the same sum and the amounts can be stated, the previews agree
exactly if more than half a cent is left or missing. -/
theorem previews_agree_of_exact {payment : PaymentSimulationRequest} {fees totalFees : ℚ}
    (hpublic : payment.publicFeeSum = fees) (hsimulate : payment.simulateFeeSum = fees)
    (htotal : quantize cents fees = some totalFees) (hstated : Stated payment totalFees) :
    PreviewsAgree payment ↔ 1 / 200 < |payment.left totalFees| := by
  rw [← hpublic] at htotal
  have htotal' : quantize cents payment.simulateFeeSum = some totalFees := by
    rw [hsimulate, ← hpublic]
    exact htotal
  constructor
  · intro h
    cases h.feesAgree with
    | settled hpublic _ hleft _ =>
        obtain rfl := Option.some.inj (htotal.symm.trans hpublic)
        exact lt_abs.mpr (Or.inl hleft)
    | exceeded _ hsimulate _ hmissing _ =>
        obtain rfl := Option.some.inj (htotal'.symm.trans hsimulate)
        exact lt_abs.mpr (Or.inr (by linarith))
    | unanswered _ hsimulate => exact absurd hstated (hsimulate totalFees htotal')
  · intro h
    rcases lt_abs.mp h with hleft | hmissing
    · exact (FeesAgree.settled htotal htotal' hleft hstated).previewsAgree
    · exact (FeesAgree.exceeded htotal htotal' (by linarith) (by linarith) hstated).previewsAgree

/-- **When the previews agree.** -/
theorem previews_agree_iff (payment : PaymentSimulationRequest) :
    PreviewsAgree payment ↔ FeesAgree payment :=
  ⟨PreviewsAgree.feesAgree, FeesAgree.previewsAgree⟩

/-- A payment of a hundred thousand from Ivory Coast to Nigeria, with one fee. -/
def simulationOf (fee : ℚ) (h : 0 ≤ fee) : PaymentSimulationRequest where
  amount := 100000
  amount_ge := le_rfl
  sourceCurrency := "XOF"
  sourceCurrency_length := by decide
  beneficiaryCurrency := "NGN"
  beneficiaryCurrency_length := by decide
  corridor := "ci-nigeria"
  corridor_pattern := by decide
  kaybicFee := fee
  kaybicFee_nonneg := h
  azaPayinFee_nonneg := le_rfl
  azaPayoutFee_nonneg := le_rfl
  afmFee_nonneg := le_rfl
  fxRate_pos := by norm_num [Numeral.value]

/-- The fee of the first request below. -/
theorem noFee_nonneg : (0 : ℚ) ≤ 0 := le_rfl

/-- The fee of the second request below. -/
theorem wholeAmount_nonneg : (0 : ℚ) ≤ 100000 := by
  norm_num

/-- Where the fees are the amount, the public route says that they exceed it, and the sandbox
route accepts. -/
theorem not_previews_agree :
    publicFees (simulationOf 100000 wholeAmount_nonneg) = .rejected ∧
      simulateFees (simulationOf 100000 wholeAmount_nonneg) = .accepted 100000 0 ∧
      ¬ PreviewsAgree (simulationOf 100000 wholeAmount_nonneg) := by
  have hpublic : publicFees (simulationOf 100000 wholeAmount_nonneg) = .rejected := by
    decide +kernel
  have hsimulate :
      simulateFees (simulationOf 100000 wholeAmount_nonneg) = .accepted 100000 0 := by
    decide +kernel
  refine ⟨hpublic, hsimulate, fun h => ?_⟩
  have hrejected := h.rejected.mp hpublic
  rw [hsimulate] at hrejected
  cases hrejected

end AfricaFrontier
