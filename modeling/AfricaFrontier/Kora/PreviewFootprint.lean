import AfricaFrontier.Kora.PayoutRoute

/-!
# What a payout preview leaves behind

A payout request without `execute` is a preview: its answer says that no funds move and
that nothing is written to the ledger.  It should make no difference to anything
financial afterwards: neither to the open transactions nor to what the monthly limit
admits (`NoFootprint`).

The preview commits the very row an executed payout would, in status `processing`.  So
every preview adds one open transaction, and one that the limit counts when it is in CFA
francs: `preview_footprint_iff` says exactly which checks come out differently.

A preview on its own is followed to its answer (`previewStands_step`), and a sequence of previews
adds one row each (`previews_added`). The two halves of the property are then about a list of
added rows: open transactions, where one row is enough to differ (`sameOpen_iff`), and the total
of the limit check, which is a sum over the rows that count (`previewRows_weight`).
-/

namespace AfricaFrontier

open Python Relational Transition

/-! ## Previews -/

/-- Alone, and with the clock at `now`, a request goes from a phase to an answer. -/
inductive PayoutCall.Answers (settings : TransferSettings) (call : PayoutCall) (now : Instant) :
    Store → PayoutPhase → Store → PayoutAnswer → Prop
  | answering (s : Store) (answer : PayoutAnswer) :
      Answers settings call now s (.answering answer) s answer
  | next {s s₁ s' : Store} {phase phase₁ : PayoutPhase} {answer : PayoutAnswer}
      {tick : PayoutTick} (hnow : tick.now = now)
      (hstep : call.step settings s tick phase = (s₁, some phase₁))
      (rest : Answers settings call now s₁ phase₁ s' answer) :
      Answers settings call now s phase s' answer

/-- This is what its session does in a pool in which nobody else moves. -/
theorem PayoutCall.Answers.run {settings : TransferSettings} {call : PayoutCall} {now : Instant}
    {s s' : Store} {phase : PayoutPhase} {answer : PayoutAnswer}
    (h : call.Answers settings now s phase s' answer) {p : Pool Store PayoutSession} {i : ℕ}
    (hstore : p.store = s) (hsession : p.session i = some ⟨call, phase⟩) :
    ∃ acts p', Run (createKoraPayout settings).machine Unguarded p acts p' ∧ p'.store = s' ∧
      p'.session i = some ⟨call, .answering answer⟩ := by
  induction h generalizing p with
  | answering s answer => exact ⟨[], p, Run.nil p, hstore, hsession⟩
  | @next s s₁ s' phase phase₁ answer tick _ hstep _ ih =>
      have hadvance : (createKoraPayout settings).machine.step p (.advance i tick) =
          some (p.assign s₁ i (some ⟨call, phase₁⟩)) := by
        simp [Sessions.machine, hsession, hstore, createKoraPayout, hstep]
      obtain ⟨acts, p', run, hstore', hsession'⟩ := ih
        (Pool.assign_store p s₁ i (some ⟨call, phase₁⟩))
        (Pool.assign_session_self p s₁ i (some ⟨call, phase₁⟩))
      exact ⟨_, p', Run.cons hadvance trivial run, hstore', hsession'⟩

/-- Taking at most `n` statements of a request under one tick, to its answer. -/
def PayoutCall.alone (settings : TransferSettings) (call : PayoutCall) (tick : PayoutTick) :
    ℕ → Store → PayoutPhase → Option (Store × PayoutAnswer)
  | _, s, .answering answer => some (s, answer)
  | 0, _, _ => none
  | n + 1, s, phase =>
      match call.step settings s tick phase with
      | (s', some phase') => call.alone settings tick n s' phase'
      | (_, none) => none

/-- What is computed that way is an answer. -/
theorem PayoutCall.answers_of_alone {settings : TransferSettings} {call : PayoutCall}
    {tick : PayoutTick} {n : ℕ} {s s' : Store} {phase : PayoutPhase} {answer : PayoutAnswer}
    (h : call.alone settings tick n s phase = some (s', answer)) :
    call.Answers settings tick.now s phase s' answer := by
  fun_induction PayoutCall.alone settings call tick n s phase with
  | case1 n s given =>
      obtain ⟨rfl, rfl⟩ := Prod.mk.inj (Option.some.inj h)
      exact .answering s given
  | case2 => cases h
  | case3 s phase n hphase s₁ phase₁ hstep ih => exact .next rfl hstep (ih h)
  | case4 => cases h

/-- Previews one after the other, each with its time and each answered `validated`. -/
inductive Previews (settings : TransferSettings) :
    Store → List (PayoutCall × Instant) → Store → Prop
  | nil (s : Store) : Previews settings s [] s
  | cons {s s₁ s' : Store} {call : PayoutCall} {now : Instant} {reference destination : String}
      {id : ℕ} {amount : ℚ} {currency : String} {calls : List (PayoutCall × Instant)}
      (hpreview : call.payout.execute = false)
      (validated : call.Answers settings now s .requested s₁
        (.validated reference id destination amount currency))
      (rest : Previews settings s₁ calls s') :
      Previews settings s ((call, now) :: calls) s'

/-! ## The property -/

/-- The statuses a payment does not leave by itself any more. -/
def PaymentStatus.terminal (status : PaymentStatus) : Bool :=
  status = .completed || status = .failed || status = .refunded

/-- The open transactions are the same. -/
def SameOpen (db db' : Db) : Prop :=
  ∀ t : Transaction, t.status.terminal = false → (t ∈ db'.transactions ↔ t ∈ db.transactions)

/-- Every check of the monthly limit of a user at `now` comes out the same. -/
def SameChecks (settings : TransferSettings) (userId : ℕ) (now : Instant) (db db' : Db) : Prop :=
  ∀ amount currency, 0 < amount →
    enforceKyc1MonthlyLimit settings userId amount currency now db' =
      enforceKyc1MonthlyLimit settings userId amount currency now db

/-- Nothing financial tells the two databases apart. -/
structure NoFootprint (settings : TransferSettings) (db db' : Db) : Prop where
  transactions : SameOpen db db'
  checks : ∀ userId now, SameChecks settings userId now db db'

/-! ## What a preview adds

A row of the user, in status `processing`, and nothing else. -/

/-- The row of a preview. -/
def PreviewRow (call : PayoutCall) (now : Instant) (t : Transaction) : Prop :=
  ∃ id reference account, t = payoutTransaction id reference call.userId account call.payout now

/-- How far a preview that found the transactions `before` has come. -/
def PreviewStands (call : PayoutCall) (now : Instant) (before : Table Transaction) (s : Store) :
    PayoutPhase → Prop
  | .previewing _ row => s.db.transactions = before ∧ PreviewRow call now row
  | .issuing _ _ => False
  | .awaiting _ _ => False
  | .failing _ _ => False
  | .accepted _ _ _ => False
  | .answering (.validated _ _ _ _ _) =>
      ∃ row, PreviewRow call now row ∧ s.db.transactions.rows = before.rows ++ [row]
  | .answering _ => True
  | _ => s.db.transactions = before

/-- A preview that was turned away added nothing. -/
theorem previewStands_ended {call : PayoutCall} {now : Instant} {before : Table Transaction}
    {s : Store} {answer : PayoutAnswer}
    (h : answer = .crashed ∨ ∃ exception, answer = .rejected exception) :
    PreviewStands call now before s (.answering answer) := by
  obtain rfl | ⟨exception, rfl⟩ := h
  · trivial
  · trivial

/-- The commit of a preview adds its row. -/
theorem previewStands_commit {call : PayoutCall} {now : Instant} {before : Table Transaction}
    {s : Store} {row : Transaction} (hsame : s.db.transactions = before)
    (hrow : PreviewRow call now row) (fault : Bool) (answer : ℕ → PayoutAnswer) {s₁ : Store}
    {phase₁ : PayoutPhase} (hstep : commitPayout s fault row answer = (s₁, some phase₁)) :
    PreviewStands call now before s₁ phase₁ := by
  unfold commitPayout at hstep
  split at hstep
  · exact Sessions.own_of_eq hstep (previewStands_ended (Or.inl rfl))
  · split at hstep
    · exact Sessions.own_of_eq hstep (previewStands_ended (Or.inl rfl))
    · rename_i transactions hinsert
      obtain ⟨rfl, hphase⟩ := Prod.mk.inj hstep
      obtain rfl := Option.some.inj hphase
      have hrows := Table.insert_rows (insertTransaction_some hinsert)
      have hadded : ∃ row', PreviewRow call now row' ∧
          transactions.rows = before.rows ++ [row'] := by
        obtain ⟨id, reference, account, rfl⟩ := hrow
        rw [hsame] at hrows
        exact ⟨_, ⟨before.next, reference, account, rfl⟩, hrows⟩
      generalize answer s.db.transactions.next = given
      cases given with
      | validated reference id destination amount currency => exact hadded
      | rejected exception => trivial
      | crashed => trivial
      | executed reference id status destination response => trivial

/-- One statement of a preview. -/
theorem previewStands_step {settings : TransferSettings} {call : PayoutCall} {now : Instant}
    {before : Table Transaction} {s s₁ : Store} {phase phase₁ : PayoutPhase} {tick : PayoutTick}
    (hpreview : call.payout.execute = false) (hnow : tick.now = now)
    (hstep : call.step settings s tick phase = (s₁, some phase₁))
    (h : PreviewStands call now before s phase) : PreviewStands call now before s₁ phase₁ := by
  have hspec : PayoutStep settings call s phase s₁ (some phase₁) := by
    have hany := call.step_spec settings s tick phase
    rw [hstep] at hany
    exact hany
  cases phase with
  | requested =>
      cases hspec with
      | ended hanswer => exact previewStands_ended hanswer
      | admitted hadmitted => exact h
      | found hphase hselect =>
          rcases hphase with hphase | hphase
          · cases hphase
          · cases hphase
      | committed hrow hinsert => cases hrow
  | opening draft =>
      cases hspec with
      | ended hanswer => exact previewStands_ended hanswer
      | found hphase hselect => exact h
      | missing => exact h
      | committed hrow hinsert => cases hrow
  | provisioning draft =>
      cases hspec with
      | ended hanswer => exact previewStands_ended hanswer
      | found hphase hselect =>
          rcases hphase with hphase | hphase
          · cases hphase
          · cases hphase
      | provisioned hinsert => exact h
      | clashed => exact h
      | committed hrow hinsert => cases hrow
  | reselecting draft =>
      cases hspec with
      | ended hanswer => exact previewStands_ended hanswer
      | found hphase hselect => exact h
      | committed hrow hinsert => cases hrow
  | recording draft account =>
      -- the row is dated by the clock of this statement
      simp only [PayoutCall.step, hpreview, hnow, if_true] at hstep
      split at hstep
      · exact Sessions.own_of_eq hstep (previewStands_ended (Or.inl rfl))
      · split at hstep
        · exact Sessions.own_of_eq hstep (previewStands_ended (Or.inl rfl))
        · exact Sessions.own_of_eq hstep ⟨h, 0, draft.reference, account, rfl⟩
  | previewing draft row => exact previewStands_commit h.1 h.2 _ _ hstep
  | issuing draft row => exact h.elim
  | awaiting draft row => exact h.elim
  | failing draft row => exact h.elim
  | accepted draft row result => exact h.elim
  | answering answer => cases hstep

/-- How far a preview has come when it is answered. -/
theorem previewStands_answers {settings : TransferSettings} {call : PayoutCall} {now : Instant}
    {before : Table Transaction} {s s' : Store} {phase : PayoutPhase} {answer : PayoutAnswer}
    (hpreview : call.payout.execute = false)
    (h : call.Answers settings now s phase s' answer)
    (start : PreviewStands call now before s phase) :
    PreviewStands call now before s' (.answering answer) := by
  induction h with
  | answering s answer => exact start
  | next hnow hstep _ ih => exact ih (previewStands_step hpreview hnow hstep start)

/-- **Each preview adds its row**, and previews do nothing else to the transactions. -/
theorem previews_added {settings : TransferSettings} {s s' : Store}
    {calls : List (PayoutCall × Instant)} (previews : Previews settings s calls s') :
    ∃ added, s'.db.transactions.rows = s.db.transactions.rows ++ added ∧
      List.Forall₂ (fun call t => PreviewRow call.1 call.2 t) calls added := by
  induction previews with
  | nil s => exact ⟨[], (List.append_nil _).symm, List.Forall₂.nil⟩
  | cons hpreview validated _ ih =>
      obtain ⟨row, hrow, hrows⟩ := previewStands_answers hpreview validated rfl
      obtain ⟨added, hadded, hall⟩ := ih
      refine ⟨row :: added, ?_, List.Forall₂.cons hrow hall⟩
      rw [hadded, hrows, List.append_assoc, List.singleton_append]

/-! ## What is different afterwards

A check compares the limit with a total, so two totals may pass and fail alike. -/

/-- A preview the monthly limit of the user counts at `now`: one of theirs, in CFA
francs, made since the month began. -/
def previewCounts (userId : ℕ) (now : Instant) (preview : PayoutCall × Instant) : Bool :=
  preview.1.userId = userId && decide (upper preview.1.payout.currency ∈ cfaCurrencies) &&
    decide (monthStart now ≤ preview.2)

/-- The row of a preview counts when the preview does. -/
theorem PreviewRow.counts {preview : PayoutCall × Instant} {t : Transaction}
    (h : PreviewRow preview.1 preview.2 t) (userId : ℕ) (now : Instant) :
    countsTowardsKyc1 userId now t = previewCounts userId now preview := by
  obtain ⟨id, reference, account, rfl⟩ := h
  have hopen : PaymentStatus.processing ∉ excludedStatuses := by decide
  rw [Bool.eq_iff_iff, countsTowardsKyc1, previewCounts]
  simp only [Bool.and_eq_true, decide_eq_true_eq]
  simp only [payoutTransaction, and_true, hopen, not_false_eq_true]

/-- Rows of previews only add to a total, and add nothing exactly when none of them
counts. -/
theorem previewRows_weight {calls : List (PayoutCall × Instant)} {added : List Transaction}
    (hall : List.Forall₂ (fun call t => PreviewRow call.1 call.2 t) calls added) (userId : ℕ)
    (now : Instant) :
    0 ≤ (added.map (kyc1Weight userId now)).sum ∧
      ((added.map (kyc1Weight userId now)).sum = 0 ↔
        ∀ preview ∈ calls, previewCounts userId now preview = false) := by
  induction hall with
  | nil => simp
  | @cons preview t calls added hrow _ ih =>
      obtain ⟨hnonneg, hzero⟩ := ih
      have hpositive : 0 < t.amount := by
        obtain ⟨id, reference, account, rfl⟩ := hrow
        exact preview.1.payout.amount_pos
      have hweight : kyc1Weight userId now t =
          if previewCounts userId now preview then t.amount else 0 := by
        rw [kyc1Weight, hrow.counts]
      rw [List.map_cons, List.sum_cons, hweight, List.forall_mem_cons, ← hzero]
      cases previewCounts userId now preview with
      | true =>
          simp only [if_true, Bool.true_eq_false, false_and, iff_false]
          exact ⟨by linarith, by linarith⟩
      | false =>
          simp only [Bool.false_eq_true, if_false, zero_add, true_and]
          exact ⟨hnonneg, trivial⟩

/-- The checks agree exactly where there is no limit, it is reached already, or the
totals agree. -/
theorem sameChecks_iff {settings : TransferSettings} {userId : ℕ} {now : Instant} {db db' : Db}
    {extra : ℚ} (hextra : 0 ≤ extra)
    (htotal : kyc1Total userId now db' = kyc1Total userId now db + extra) :
    SameChecks settings userId now db db' ↔
      settings.isProduction = false ∨
        settings.kyc1MonthlyLimitXaf ≤ kyc1Total userId now db ∨ extra = 0 := by
  constructor
  · intro hsame
    by_contra hcontra
    simp only [not_or, Bool.not_eq_false, not_le] at hcontra
    obtain ⟨hproduction, hroom, hadds⟩ := hcontra
    -- the amount that fills the limit exactly
    have hcurrency : upper "XAF" ∈ cfaCurrencies := by decide
    have hbefore : enforceKyc1MonthlyLimit settings userId
        (settings.kyc1MonthlyLimitXaf - kyc1Total userId now db) "XAF" now db = .ok () :=
      (enforceKyc1MonthlyLimit_ok_iff hproduction).mpr ⟨hcurrency, by linarith⟩
    have hafter := hsame _ "XAF" (sub_pos.mpr hroom)
    rw [hbefore, enforceKyc1MonthlyLimit_ok_iff hproduction, htotal] at hafter
    have hpositive : 0 < extra := lt_of_le_of_ne hextra (Ne.symm hadds)
    linarith [hafter.2]
  · rintro (hfree | hreached | hzero) amount currency hamount
    · rw [enforceKyc1MonthlyLimit_of_not_production hfree,
        enforceKyc1MonthlyLimit_of_not_production hfree]
    · have hover : (settings.kyc1MonthlyLimitXaf : ℚ) < kyc1Total userId now db + amount := by
        linarith
      have hover' : (settings.kyc1MonthlyLimitXaf : ℚ) < kyc1Total userId now db' + amount := by
        linarith
      rw [enforceKyc1MonthlyLimit, if_pos hover', enforceKyc1MonthlyLimit, if_pos hover]
    · rw [enforceKyc1MonthlyLimit, htotal, hzero, add_zero, ← enforceKyc1MonthlyLimit]

/-- The open transactions agree exactly when no row was added. -/
theorem sameOpen_iff {db db' : Db} {calls : List (PayoutCall × Instant)}
    {added : List Transaction} (hrows : db'.transactions.rows = db.transactions.rows ++ added)
    (hall : List.Forall₂ (fun call t => PreviewRow call.1 call.2 t) calls added) :
    SameOpen db db' ↔ calls = [] := by
  constructor
  · intro hsame
    cases hall with
    | nil => rfl
    | @cons preview row calls added hrow _ =>
        exfalso
        have hopen : row.status.terminal = false := by
          obtain ⟨id, reference, account, rfl⟩ := hrow
          rfl
        have hafter : row ∈ db'.transactions := by
          rw [Table.mem_iff, hrows]
          exact List.mem_append_right _ List.mem_cons_self
        have hbefore : row ∈ db.transactions := (hsame row hopen).mp hafter
        -- no row is stored twice
        have hdistinct := db'.transactions.distinct
        rw [hrows] at hdistinct
        exact (List.pairwise_append.mp hdistinct).2.2 row hbefore row List.mem_cons_self rfl
  · rintro rfl
    cases hall
    intro t _
    rw [Table.mem_iff, hrows, List.append_nil, Table.mem_iff]

/-- **Previews always leave a footprint.**  Any preview at all changes the open
transactions.  The checks of a user come out the same exactly outside production, or
where the limit was reached without the previews, or when none of them counts. -/
theorem preview_footprint_iff {settings : TransferSettings} {s s' : Store}
    {calls : List (PayoutCall × Instant)} (previews : Previews settings s calls s') :
    (NoFootprint settings s.db s'.db ↔ calls = []) ∧ (SameOpen s.db s'.db ↔ calls = []) ∧
      ∀ userId now, SameChecks settings userId now s.db s'.db ↔
        settings.isProduction = false ∨
          settings.kyc1MonthlyLimitXaf ≤ kyc1Total userId now s.db ∨
          ∀ preview ∈ calls, previewCounts userId now preview = false := by
  obtain ⟨added, hrows, hall⟩ := previews_added previews
  have hopen : SameOpen s.db s'.db ↔ calls = [] := sameOpen_iff hrows hall
  have hchecks : ∀ userId now, SameChecks settings userId now s.db s'.db ↔
      settings.isProduction = false ∨
        settings.kyc1MonthlyLimitXaf ≤ kyc1Total userId now s.db ∨
        ∀ preview ∈ calls, previewCounts userId now preview = false := by
    intro userId now
    obtain ⟨hnonneg, hzero⟩ := previewRows_weight hall userId now
    have htotal : kyc1Total userId now s'.db =
        kyc1Total userId now s.db + (added.map (kyc1Weight userId now)).sum := by
      rw [kyc1Total, Table.sum, hrows, List.map_append, List.sum_append, kyc1Total, Table.sum]
    rw [sameChecks_iff hnonneg htotal, hzero]
  refine ⟨⟨fun hnone => hopen.mp hnone.transactions, fun hnil => ?_⟩, hopen, hchecks⟩
  refine ⟨hopen.mpr hnil, fun userId now => (hchecks userId now).mpr (Or.inr (Or.inr ?_))⟩
  rw [hnil]
  exact List.forall_mem_nil _

/-! ## A preview of six million -/

/-- A preview of 6 000 000 XAF, under the default limit of ten million. -/
def sixMillion : PayoutCall := samplePayout 6000000 (by norm_num) false

/-- Made at time zero. -/
def onePreview : List (PayoutCall × Instant) := [(sixMillion, 0)]

/-- It is validated, and the total has it. -/
theorem sixMillion_previewed : ∃ s', Previews productionSettings (Store.start Db.empty)
    onePreview s' ∧ kyc1Total 1 0 s'.db = 6000000 := by
  have hanswers : (sixMillion.alone productionSettings ⟨0, false, "afm-payout-1", .raised⟩ 6
      (Store.start Db.empty) .requested).map (fun r => (r.2, kyc1Total 1 0 r.1.db)) =
        some (.validated "afm-payout-1" 0 "mobile_money" 6000000 "XAF", 6000000) := by
    decide +kernel
  obtain ⟨⟨s', answer⟩, halone, hvalues⟩ := Option.map_eq_some_iff.mp hanswers
  obtain ⟨rfl, htotal⟩ := Prod.mk.inj hvalues
  exact ⟨s', .cons rfl (PayoutCall.answers_of_alone halone) (.nil s'), htotal⟩

/-- The statement on it. -/
theorem preview_footprint_sixMillion : ∃ s' : Store,
    (NoFootprint productionSettings Db.empty s'.db ↔ onePreview = []) ∧
      (SameOpen Db.empty s'.db ↔ onePreview = []) ∧
      ∀ userId now, SameChecks productionSettings userId now Db.empty s'.db ↔
        productionSettings.isProduction = false ∨
          productionSettings.kyc1MonthlyLimitXaf ≤ kyc1Total userId now Db.empty ∨
          ∀ preview ∈ onePreview, previewCounts userId now preview = false := by
  obtain ⟨s', previews, -⟩ := sixMillion_previewed
  exact ⟨s', preview_footprint_iff previews⟩

/-- After it, a payment of another six million is refused that was admitted before. -/
theorem preview_spends_limit : ∃ s',
    Previews productionSettings (Store.start Db.empty) onePreview s' ∧
      enforceKyc1MonthlyLimit productionSettings 1 6000000 "XAF" 0 Db.empty = .ok () ∧
      enforceKyc1MonthlyLimit productionSettings 1 6000000 "XAF" 0 s'.db ≠ .ok () ∧
      ¬ NoFootprint productionSettings Db.empty s'.db := by
  obtain ⟨s', previews, htotal⟩ := sixMillion_previewed
  have hproduction : productionSettings.isProduction = true := rfl
  have hbefore :
      enforceKyc1MonthlyLimit productionSettings 1 6000000 "XAF" 0 Db.empty = .ok () := by
    decide +kernel
  have hafter : enforceKyc1MonthlyLimit productionSettings 1 6000000 "XAF" 0 s'.db ≠ .ok () := by
    rw [Ne, enforceKyc1MonthlyLimit_ok_iff hproduction, htotal]
    rintro ⟨-, hfits⟩
    norm_num [productionSettings] at hfits
  refine ⟨s', previews, hbefore, hafter, fun hnone => hafter ?_⟩
  rw [hnone.checks 1 0 6000000 "XAF" (by norm_num), hbefore]

end AfricaFrontier
