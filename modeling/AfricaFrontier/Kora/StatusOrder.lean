import AfricaFrontier.Kora.Settlement
import AfricaFrontier.Payments.Creation
import Mathlib.Logic.Relation

/-!
# The order of payment statuses

A payment moves forward: `pending` to `processing` to `completed` to `refunded`,
with `failed` reachable from the first two and left again only by a later
confirmation.  `Advances` is that picture edge by edge and `Forward` its closure;
`forward_iff` turns it into a comparison of ranks, with `held` standing apart.

The worker checks the current status before it writes one.  The webhook branches
do not: a payment event writes the status of its class whatever the row's status
is.  `keepsOrder` names the events that still move forward, and
`status_moves_forward` is the result for every run of such steps.

A run is a sequence of webhook events and worker calls, each with the database to itself. The
property is one of pairs, a database and a later one, and is transitive; so the run lemma needs
the step lemma alone (`statusForward_apply`). What a step does to the statuses is taken from
`Settlement`: an event writes at most one transaction back, and a worker call one as well
(`webhookEffect_transactions`, `reconcileDueOnce_cases`).
-/

namespace AfricaFrontier

open Python Relational Transition

/-- One permitted move of a payment's status. -/
inductive Advances : PaymentStatus → PaymentStatus → Prop
  | initiated : Advances .pending .processing
  | settled : Advances .processing .completed
  | refunded : Advances .completed .refunded
  | rejected : Advances .pending .failed
  | failed : Advances .processing .failed
  | confirmedLate : Advances .failed .completed

/-- Any number of permitted moves, none at all among them. -/
def Forward : PaymentStatus → PaymentStatus → Prop := Relation.ReflTransGen Advances

/-- How far a payment is. -/
def PaymentStatus.rank : PaymentStatus → ℕ
  | .pending => 0
  | .processing => 1
  | .failed => 2
  | .completed => 3
  | .refunded => 4
  | .held => 5

/-- A move forward loses no rank. -/
theorem Forward.rank_le {a b : PaymentStatus} (h : Forward a b) :
    a = b ∨ (a ≠ .held ∧ b ≠ .held ∧ a.rank ≤ b.rank) := by
  induction h with
  | refl => exact Or.inl rfl
  | tail _ edge ih =>
      right
      rcases ih with rfl | ⟨ha, -, hle⟩
      · cases edge <;> decide
      · cases edge <;> exact ⟨ha, by decide, hle.trans (by decide)⟩

/-- Off `held`, moving forward is not losing rank. -/
theorem forward_iff {a b : PaymentStatus} :
    Forward a b ↔ a = b ∨ (a ≠ .held ∧ b ≠ .held ∧ a.rank ≤ b.rank) := by
  refine ⟨Forward.rank_le, ?_⟩
  have e₁ : Forward .pending .processing := .single .initiated
  have e₂ : Forward .processing .failed := .single .failed
  have e₃ : Forward .failed .completed := .single .confirmedLate
  have e₄ : Forward .completed .refunded := .single .refunded
  rintro (rfl | ⟨ha, hb, hle⟩)
  · exact Relation.ReflTransGen.refl
  · -- the ranks below `held` form a chain, so every comparison composes these four
    cases a <;> cases b <;>
      first
      | exact Relation.ReflTransGen.refl
      | exact absurd rfl ha
      | exact absurd rfl hb
      | exact absurd hle (by decide)
      | exact e₁
      | exact e₂
      | exact e₃
      | exact e₄
      | exact e₁.trans e₂
      | exact e₂.trans e₃
      | exact e₃.trans e₄
      | exact (e₁.trans e₂).trans e₃
      | exact (e₂.trans e₃).trans e₄
      | exact ((e₁.trans e₂).trans e₃).trans e₄

instance (a b : PaymentStatus) : Decidable (Forward a b) :=
  decidable_of_iff _ forward_iff.symm

/-- A completed payment can only be refunded. -/
theorem Forward.of_completed {a : PaymentStatus} (h : Forward .completed a) :
    a = .completed ∨ a = .refunded := by
  revert h
  cases a <;> decide

/-- A refunded payment stays refunded. -/
theorem Forward.of_refunded {a : PaymentStatus} (h : Forward .refunded a) :
    a = .refunded := by
  revert h
  cases a <;> decide

/-! ## Databases in order

Only transactions of the AFM ledger count; the others are not written by these steps. -/

/-- Every AFM transaction is still there and has moved forward. -/
def StatusForward (db db' : Db) : Prop :=
  ∀ i t, db.transactions.get i = some t → t.ledgerNamespace = afmPayments →
    ∃ t', db'.transactions.get i = some t' ∧ t'.ledgerNamespace = afmPayments ∧
      Forward t.status t'.status

instance : IsPreorder Db StatusForward where
  refl _ _ t hget hns := ⟨t, hget, hns, Relation.ReflTransGen.refl⟩
  trans _ _ _ h₁ h₂ i t hget hns := by
    obtain ⟨t', hget', hns', hforward⟩ := h₁ i t hget hns
    obtain ⟨t'', hget'', hns'', hforward'⟩ := h₂ i t' hget' hns'
    exact ⟨t'', hget'', hns'', hforward.trans hforward'⟩

/-- Nothing was written. -/
theorem StatusForward.of_eq {db db' : Db} (h : db'.transactions = db.transactions) :
    StatusForward db db' := by
  intro i t hget hns
  exact ⟨t, by rw [h]; exact hget, hns, Relation.ReflTransGen.refl⟩

/-- Writing one row back moves the database forward when the row moves forward. -/
theorem StatusForward.of_writeBack {db db' : Db} {t t' : Transaction}
    (hget : db.transactions.get t.id = some t)
    (hwritten : db'.transactions = db.transactions.modify t.id
      (Transaction.writeBack ⟨t, t'⟩) (Transaction.key_writeBack _))
    (hforward : Forward t.status t'.status) : StatusForward db db' := by
  intro i s hs hns
  rw [hwritten]
  by_cases hi : i = t.id
  · subst hi
    obtain rfl : t = s := Option.some.inj (hget.symm.trans hs)
    refine ⟨_, Table.get_modify_self hget, hns, ?_⟩
    simpa [Transaction.writeBack] using hforward
  · exact ⟨s, by rw [Table.get_modify_of_ne hi, hs], hns, Relation.ReflTransGen.refl⟩

/-! ## Which steps move forward

An event is judged by its class and the status of the row it finds. -/

/-- The statuses on which an event of a class may be applied. -/
def mayReceive : StatusClass → PaymentStatus → Bool
  | .success, status => status ≠ .refunded && status ≠ .held
  | .failure, status => status = .pending || status = .processing || status = .failed
  | .other, status => status = .pending || status = .processing

/-- An event of a class that the row may receive moves it forward. -/
theorem forward_statusAfter {c : StatusClass} {status : PaymentStatus}
    (h : mayReceive c status = true) : Forward status (statusAfter c) := by
  revert h
  cases c <;> cases status <;> decide

/-- The steps that keep the order, judged on the state before the step: a payment
event finds its transaction in a status its class may be applied to; a successful
refund callback, and a final answer to the worker, do not find it `held`. -/
def keepsOrder (db : Db) : SettlementStep → Bool
  | .webhook body eventType _ =>
      let data := bodyData body
      if eventKind eventType = .refund then
        match callbackTarget data db with
        | .ok (_, t) => classify (statusValue data) ≠ .success || t.status ≠ .held
        | .error _ => true
      else
        match selectTransaction (paymentReference data) db with
        | .ok (some t) => mayReceive (classify (statusValue data)) t.status
        | _ => true
  | .reconcile _ claimedAt outcome _ =>
      match dueTask claimedAt db, verification outcome with
      | some task, some v =>
          match db.transactions.get task.transactionId with
          | some t => v.normalized = .other || t.status ≠ .held
          | none => true
      | _, _ => true

/-- The worker's own check moves every status but `held` forward. -/
theorem forward_verifiedTransaction {v : Verification} {provider : String} {now : Instant}
    {t : Transaction} (h : v.normalized = .other ∨ t.status ≠ .held) :
    Forward t.status (verifiedTransaction v provider now t).status := by
  unfold verifiedTransaction
  cases hv : v.normalized with
  | success =>
      have hheld : t.status ≠ .held := h.resolve_left (by rw [hv]; decide)
      revert hheld
      cases t.status <;> simp [PaymentStatus.settled] <;> decide
  | failure =>
      have hheld : t.status ≠ .held := h.resolve_left (by rw [hv]; decide)
      revert hheld
      cases t.status <;> simp [PaymentStatus.settled] <;> decide
  | other => exact Relation.ReflTransGen.refl

/-- One step that keeps the order moves every AFM transaction forward. -/
theorem statusForward_apply {db : Db} {step : SettlementStep}
    (h : keepsOrder db step = true) : StatusForward db (step.apply db) := by
  cases step with
  | webhook body eventType now =>
      rcases webhookEffect_transactions body eventType now db with
        hsame | ⟨t, t', hget, hwritten, ⟨hkind, hselect, hstatus⟩ | ⟨hkind, refund, htarget, rfl⟩⟩
      · exact StatusForward.of_eq hsame
      -- a payment event sets the status of its class, whatever was stored
      · refine StatusForward.of_writeBack hget hwritten ?_
        rw [hstatus]
        simp only [keepsOrder, hkind, if_false, hselect] at h
        exact forward_statusAfter h
      · refine StatusForward.of_writeBack hget hwritten ?_
        simp only [keepsOrder, hkind, if_true, htarget] at h
        unfold parentAfterCallback
        cases hclass : classify (statusValue (bodyData body)) with
        | success =>
            -- the payment becomes refunded, which every status but held leads to
            have hheld : t.status ≠ .held := by simpa [hclass] using h
            revert hheld
            cases ht : t.status <;> simp <;> decide
        | failure => exact Relation.ReflTransGen.refl
        | other => exact Relation.ReflTransGen.refl
  | reconcile worker claimedAt outcome answeredAt =>
      obtain ⟨hcase, -, -⟩ := reconcileDueOnce_cases worker claimedAt outcome answeredAt db
      rcases hcase with hsame | ⟨task, v, t, provider, hdue, hv, hget, hwritten⟩
      · exact StatusForward.of_eq hsame
      · have hself : db.transactions.get t.id = some t :=
          Table.get_ident (Table.mem_of_get hget)
        refine StatusForward.of_writeBack hself hwritten (forward_verifiedTransaction ?_)
        simpa [keepsOrder, hdue, hv, hget] using h

/-- **Statuses move forward.**  Along every run of webhook events and worker calls
that keep the order, every AFM transaction only moves forward; once completed it
can only be refunded, and once refunded it stays so. -/
theorem status_moves_forward {db db' : Db} {steps : List SettlementStep}
    (run : Run settlement (fun db step => keepsOrder db step = true) db steps db')
    {i : ℕ} {t : Transaction} (hget : db.transactions.get i = some t)
    (hns : t.ledgerNamespace = afmPayments) :
    ∃ t', db'.transactions.get i = some t' ∧ Forward t.status t'.status ∧
      (t.status = .completed → t'.status = .completed ∨ t'.status = .refunded) ∧
      (t.status = .refunded → t'.status = .refunded) := by
  have hforward : StatusForward db db' :=
    run.relates fun s a s' hstep hguard => by
      obtain rfl : a.apply s = s' := Option.some.inj hstep
      exact statusForward_apply hguard
  obtain ⟨t', hget', -, hmove⟩ := hforward i t hget hns
  refine ⟨t', hget', hmove, fun hcompleted => ?_, fun hrefunded => ?_⟩
  · exact Forward.of_completed (hcompleted ▸ hmove)
  · exact Forward.of_refunded (hrefunded ▸ hmove)

/-- The provider's event about `processingPayin`, with the given status. -/
def chargeEvent (status : String) : SettlementStep :=
  .webhook
    [("event", .str "charge"),
      ("data", .obj [("reference", .str "KPY-1"), ("status", .str status)])] "charge" 0

/-- The statement on a pay-in that is confirmed twice. -/
theorem status_moves_forward_processingPayin :
    ∃ db' t', Run settlement (fun db step => keepsOrder db step = true) (Db.holding processingPayin)
        [chargeEvent "success", chargeEvent "success"] db' ∧
      db'.transactions.get 0 = some t' ∧ Forward .processing t'.status := by
  obtain ⟨db', hcheck⟩ : ∃ db', settlement.check keepsOrder (Db.holding processingPayin)
      [chargeEvent "success", chargeEvent "success"] = some db' :=
    Option.isSome_iff_exists.mp (by decide +kernel)
  have run := Run.of_check hcheck
  have hget : (Db.holding processingPayin).transactions.get 0 = some processingPayin := by
    decide +kernel
  obtain ⟨t', hget', hforward, -⟩ := status_moves_forward run hget rfl
  exact ⟨db', t', run, hget', hforward⟩

/-- A failure reported after the confirmation takes a completed pay-in back to
`failed`. -/
theorem late_failure_regresses :
    let completed := (chargeEvent "success").apply (Db.holding processingPayin)
    let regressed := (chargeEvent "failed").apply completed
    Run settlement Unguarded completed [chargeEvent "failed"] regressed ∧
      ¬ StatusForward completed regressed := by
  intro completed regressed
  refine ⟨Run.cons rfl trivial (Run.nil _), fun hall => ?_⟩
  have before : (completed.transactions.get 0).map (fun t => (t.ledgerNamespace, t.status)) =
      some (afmPayments, .completed) := by decide +kernel
  have after : (regressed.transactions.get 0).map (·.status) = some .failed := by
    decide +kernel
  obtain ⟨t, hget, ht⟩ := Option.map_eq_some_iff.mp before
  obtain ⟨hns, hcompleted⟩ := Prod.mk.inj ht
  obtain ⟨t', hget', -, hforward⟩ := hall 0 t hget hns
  rw [hget', Option.map_some, Option.some_inj] at after
  rw [hcompleted, after] at hforward
  exact absurd hforward (by decide)

end AfricaFrontier
