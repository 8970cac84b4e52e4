import AfricaFrontier.Kora.RefundRoute
import AfricaFrontier.Payments.Creation

/-!
# What a repeated refund request answers

A refund request whose key is already stored is answered from the stored refund.  The
lookup is by the key alone: it does not ask whose refund it is, while the checks before
it only concern the payment the request names.  So a key another payment was refunded
under answers for that payment.

`RefundCall.handle` is `create_kora_refund` on a database nobody else uses, and
`handle_solo` says that this is what its session does when it runs alone.  Of its answer
two things are asked: it reports refunds of the payment it names only (`ReportsOwn`),
and it is the answer the database would give without the refunds of other users
(`purged`).  `keyIsOwn` is the exact condition for both.

The two properties are asked of all times and all answers of the provider, so the condition can
speak of the request and the database alone. Where the key is free, or belongs to a refund of the
payment, the run on the purged database goes through the same statements (`executeRefund_of_own`).
Where it does not, one answer of the provider is enough to tell the two databases apart
(`keyIsOwn_of_answers`).
-/

namespace AfricaFrontier

open Python Relational Transition

/-! ## The route in one piece

The statements of the session, without anybody in between. -/

/-- The last commit of the route, and its answer. -/
def concludeRefund (work : UnitOfWork) (answer : RefundAnswer) (db : Db) : RefundAnswer × Db :=
  match work.flush db with
  | .ok db' => (answer, db')
  | .error _ => (.crashed, db)

/-- The route from its provider call on. -/
def issueRefund (outcome : ProviderOutcome) (transaction : Transaction) (record : KoraRefund)
    (db : Db) : RefundAnswer × Db :=
  if (refundInstruction record).sendable then
    match outcome with
    | .answered result =>
        concludeRefund (refundIssued result record transaction)
          (.reported (issuedReport result record)) db
    | .refused _ => concludeRefund (refundUnavailable record) .unavailable db
    | .raised => (.crashed, db)
  else concludeRefund (refundUnavailable record) .unavailable db

/-- The route from its lookup by key on. -/
def executeRefund (config : RefundConfig) (order : RefundOrder) (now : Instant)
    (outcome : ProviderOutcome) (db : Db) : RefundAnswer × Db :=
  match selectRefundByKey order.idempotencyKey db with
  | .error _ => (.crashed, db)
  | .ok (some existing) => (.reported (replayReport existing), db)
  | .ok none =>
      match insertRefund config order now db with
      | none => (.crashed, db)
      | some refunds =>
          issueRefund outcome order.transaction (refundRecord config order db.refunds.next now)
            { db with refunds := refunds }

/-- `create_kora_refund` on a database nobody else uses: the same statements as those of a
session, with one clock and one answer of the provider. -/
def RefundCall.handle (config : RefundConfig) (call : RefundCall) (now : Instant)
    (outcome : ProviderOutcome) (db : Db) : RefundAnswer × Db :=
  if call.refund.transactionId ≠ call.transactionId then
    (.rejected 422 "Transaction id does not match the request path", db)
  else
    match checkRefund config call (db.transactions.get call.transactionId) with
    | .error answer => (answer, db)
    | .ok order => executeRefund config order now outcome db

/-! ### It is what the session does alone -/

section Alone

variable {config : RefundConfig} {call : RefundCall} {now : Instant} {outcome : ProviderOutcome}

/-- Alone, the session of the request goes from a phase to an answer and a database. -/
def Concludes (config : RefundConfig) (call : RefundCall) (now : Instant)
    (outcome : ProviderOutcome) (s : Store) (phase : RefundPhase) (result : RefundAnswer × Db) :
    Prop :=
  ∃ s', (createKoraRefund config).Solo ⟨now, false, outcome⟩ s ⟨call, phase⟩ s' ∧
    s'.db = result.2 ∧ s'.refundAnswers = s.refundAnswers ++ [(call, result.1)]

/-- One statement, and what follows it. -/
theorem Concludes.next {s s₁ : Store} {phase phase₁ : RefundPhase} {result : RefundAnswer × Db}
    (h : call.step config s ⟨now, false, outcome⟩ phase = (s₁, some phase₁))
    (hanswers : s₁.refundAnswers = s.refundAnswers)
    (rest : Concludes config call now outcome s₁ phase₁ result) :
    Concludes config call now outcome s phase result := by
  obtain ⟨s', hsolo, hdb, hrecorded⟩ := rest
  refine ⟨s', .next ?_ hsolo, hdb, by rw [hrecorded, hanswers]⟩
  simp only [createKoraRefund, h, Option.map_some]

/-- The route concludes from its answer on. -/
theorem concludes_answering (s : Store) (answer : RefundAnswer) :
    Concludes config call now outcome s (.answering answer) (answer, s.db) :=
  ⟨_, .last rfl, rfl, rfl⟩

/-- The route concludes from its last commit on. -/
theorem concludes_staged (s : Store) (work : UnitOfWork) (answer : RefundAnswer) :
    Concludes config call now outcome s (.staged work answer)
      (concludeRefund work answer s.db) := by
  unfold concludeRefund
  cases hflush : work.flush s.db with
  | error e =>
      refine Concludes.next ?_ rfl (concludes_answering s .crashed)
      simp only [RefundCall.step, hflush, Bool.false_eq_true, if_false]
  | ok db =>
      have hcommitted : call.step config s ⟨now, false, outcome⟩ (.staged work answer) =
          ({ s with db := db }, some (.answering answer)) := by
        simp only [RefundCall.step, hflush, Bool.false_eq_true, if_false]
      exact Concludes.next hcommitted rfl (concludes_answering _ _)

/-- The route concludes from the provider call on. -/
theorem concludes_issuing (s : Store) (transaction : Transaction) (record : KoraRefund) :
    Concludes config call now outcome s (.issuing transaction record)
      (issueRefund outcome transaction record s.db) := by
  unfold issueRefund
  by_cases hsendable : (refundInstruction record).sendable = true
  · rw [if_pos hsendable]
    have hsent : call.step config s ⟨now, false, outcome⟩ (.issuing transaction record) =
        ({ s with instructions := s.instructions ++ [refundInstruction record] },
          some (.awaiting transaction record)) := by
      simp only [RefundCall.step, hsendable, if_true]
    refine Concludes.next hsent rfl ?_
    cases outcome with
    | answered result => exact Concludes.next rfl rfl (concludes_staged _ _ _)
    | refused message => exact Concludes.next rfl rfl (concludes_staged _ _ _)
    | raised => exact Concludes.next rfl rfl (concludes_answering _ _)
  · rw [if_neg hsendable]
    refine Concludes.next ?_ rfl (concludes_staged s _ _)
    simp only [RefundCall.step, if_neg hsendable]

/-- The route concludes from the lookup by key on. -/
theorem concludes_checked (s : Store) (order : RefundOrder) :
    Concludes config call now outcome s (.checked order)
      (executeRefund config order now outcome s.db) := by
  unfold executeRefund
  cases hselect : selectRefundByKey order.idempotencyKey s.db with
  | error e =>
      refine Concludes.next ?_ rfl (concludes_answering s .crashed)
      simp only [RefundCall.step, hselect, Bool.false_eq_true, if_false]
  | ok found =>
      cases found with
      | some existing =>
          refine Concludes.next ?_ rfl (concludes_answering s (.reported (replayReport existing)))
          simp only [RefundCall.step, hselect, Bool.false_eq_true, if_false]
      | none =>
          have hfresh : call.step config s ⟨now, false, outcome⟩ (.checked order) =
              (s, some (.inserting order)) := by
            simp only [RefundCall.step, hselect, Bool.false_eq_true, if_false]
          refine Concludes.next hfresh rfl ?_
          cases hinsert : insertRefund config order now s.db with
          | none =>
              refine Concludes.next ?_ rfl (concludes_answering s .crashed)
              simp only [RefundCall.step, hinsert, Bool.false_eq_true, if_false]
          | some refunds =>
              have hinserted : call.step config s ⟨now, false, outcome⟩ (.inserting order) =
                  ({ s with db := { s.db with refunds := refunds } },
                    some (.issuing order.transaction
                      (refundRecord config order s.db.refunds.next now))) := by
                simp only [RefundCall.step, hinsert, Bool.false_eq_true, if_false]
              exact Concludes.next hinserted rfl (concludes_issuing _ _ _)

/-- **Handling is what the session does alone.** -/
theorem handle_solo (config : RefundConfig) (call : RefundCall) (now : Instant)
    (outcome : ProviderOutcome) (s : Store) :
    Concludes config call now outcome s .requested (call.handle config now outcome s.db) := by
  unfold RefundCall.handle
  by_cases hpath : call.refund.transactionId ≠ call.transactionId
  · rw [if_pos hpath]
    refine Concludes.next ?_ rfl (concludes_answering s _)
    simp only [RefundCall.step, if_pos hpath]
  · rw [if_neg hpath]
    cases hcheck : checkRefund config call (s.db.transactions.get call.transactionId) with
    | error answer =>
        have hrefused : call.step config s ⟨now, false, outcome⟩ .requested =
            (s, some (.answering answer)) := by
          simp only [RefundCall.step, if_neg hpath, hcheck, Bool.false_eq_true, if_false]
        exact Concludes.next hrefused rfl (concludes_answering s answer)
    | ok order =>
        have hloaded : call.step config s ⟨now, false, outcome⟩ .requested =
            (s, some (.checked order)) := by
          simp only [RefundCall.step, if_neg hpath, hcheck, Bool.false_eq_true, if_false]
        exact Concludes.next hloaded rfl (concludes_checked s order)

end Alone

/-! ## What an answer must not depend on -/

/-- The refund belongs to a payment of the user. -/
def refundOf (userId : ℕ) (db : Db) (r : KoraRefund) : Bool :=
  (db.transactions.get r.transactionId).any fun t => t.userId = userId

/-- The database without the refunds of other users. -/
def purged (userId : ℕ) (db : Db) : Db :=
  { db with refunds := db.refunds.filter (refundOf userId db) }

/-- A reported refund is a refund of the payment the request names. -/
def ReportsOwn (call : RefundCall) (result : RefundAnswer × Db) : Prop :=
  ∀ report, result.1 = .reported report →
    ∃ r ∈ result.2.refunds, r.transactionId = call.transactionId ∧
      r.refundReference = report.refundReference ∧ r.paymentReference = report.paymentReference ∧
      r.amount = report.amount

/-- At any time and whatever the provider answers, the request is answered from the
payment it names, and as if there were no refunds of other users. -/
def AnswersForOwn (config : RefundConfig) (call : RefundCall) (db : Db) : Prop :=
  ∀ now outcome, ReportsOwn call (call.handle config now outcome db) ∧
    (call.handle config now outcome db).1 =
      (call.handle config now outcome (purged call.userId db)).1

/-- No refund of another payment is stored under the key of the order; and where no
refund is stored under the key and the order's row fits its columns, no refund of
another user is stored under the reference derived from the key. -/
def keyIsOwn (config : RefundConfig) (order : RefundOrder) (userId : ℕ) (db : Db) : Prop :=
  (∀ r ∈ db.refunds, r.idempotencyKey = order.idempotencyKey →
      r.transactionId = order.transaction.id) ∧
    ((∀ r ∈ db.refunds, r.idempotencyKey ≠ order.idempotencyKey) →
      (refundRecord config order 0 0).fits = true →
      ∀ r ∈ db.refunds, r.refundReference = (refundRecord config order 0 0).refundReference →
        refundOf userId db r = true)

/-! ## The lookup and the insertion -/

/-- The refund under a key is found. -/
theorem selectRefundByKey_of_mem {key : String} {db : Db} {r : KoraRefund} (hr : r ∈ db.refunds)
    (hkey : r.idempotencyKey = key) : selectRefundByKey key db = .ok (some r) := by
  refine scalarOneOrNone_eq_ok_some.mpr ?_
  refine Table.filter_eq_singleton hr (decide_eq_true hkey) fun r' hr' hkey' => ?_
  exact eq_of_idempotencyKey hr' hr ((of_decide_eq_true hkey').trans hkey.symm)

/-- Where no refund is stored under a key, none is found. -/
theorem selectRefundByKey_of_none {key : String} {db : Db}
    (h : ∀ r ∈ db.refunds, r.idempotencyKey ≠ key) : selectRefundByKey key db = .ok none := by
  refine scalarOneOrNone_eq_ok_none.mpr (List.filter_eq_nil_iff.mpr fun r hr => ?_)
  simpa using h r hr

/-! ## The answer of an executed refund -/

/-- A unit of work without a new task is refused for its column widths only. -/
theorem flush_of_no_newTask {u : UnitOfWork} (h : u.newTask = none) (db : Db) :
    (u.fits = true → ∃ db', u.flush db = .ok db') ∧
      (u.fits = false → u.flush db = .error .data) := by
  unfold UnitOfWork.flush UnitOfWork.tasksAfter
  rw [h]
  constructor
  · intro hfits
    exact ⟨_, by rw [if_pos hfits]⟩
  · intro hfits
    rw [if_neg (by simp [hfits])]

/-- The last commit answers the same on every database. -/
theorem concludeRefund_answer {work : UnitOfWork} (h : work.newTask = none)
    (answer : RefundAnswer) (db : Db) :
    (concludeRefund work answer db).1 = if work.fits then answer else .crashed := by
  obtain ⟨hok, herror⟩ := flush_of_no_newTask h db
  unfold concludeRefund
  by_cases hfits : work.fits = true
  · obtain ⟨db', hflush⟩ := hok hfits
    rw [hflush, if_pos hfits]
  · rw [herror (by simpa using hfits), if_neg hfits]

/-- From its provider call on, the route answers the same on every database. -/
theorem issueRefund_answer (outcome : ProviderOutcome) (transaction : Transaction)
    (record : KoraRefund) (db db' : Db) :
    (issueRefund outcome transaction record db).1 =
      (issueRefund outcome transaction record db').1 := by
  have hissued : ∀ result answer, (concludeRefund (refundIssued result record transaction) answer
      db).1 = (concludeRefund (refundIssued result record transaction) answer db').1 := by
    intro result answer
    rw [concludeRefund_answer rfl, concludeRefund_answer rfl]
  have hunavailable : ∀ answer, (concludeRefund (refundUnavailable record) answer db).1 =
      (concludeRefund (refundUnavailable record) answer db').1 := by
    intro answer
    rw [concludeRefund_answer rfl, concludeRefund_answer rfl]
  unfold issueRefund
  split
  · cases outcome with
    | answered result => exact hissued result _
    | refused message => exact hunavailable _
    | raised => rfl
  · exact hunavailable _

/-- A provider that answers lets the route answer. -/
theorem issueRefund_answered (transaction : Transaction) (record : KoraRefund) (db : Db) :
    (issueRefund (.answered []) transaction record db).1 ≠ .crashed := by
  have hstatus : fitsIn 20 (issuedRecord [] record).status = true := by
    show fitsIn 20 (lower "processing") = true
    decide
  have hfailed : fitsIn 20 "failed" = true := by decide
  have hissued : (refundIssued [] record transaction).fits = true := by
    simp [UnitOfWork.fits, refundIssued, hstatus]
  have hunavailable : (refundUnavailable record).fits = true := by
    simp [UnitOfWork.fits, refundUnavailable, hfailed]
  unfold issueRefund
  split
  · rw [concludeRefund_answer rfl, if_pos hissued]
    rintro ⟨⟩
  · rw [concludeRefund_answer rfl, if_pos hunavailable]
    rintro ⟨⟩

/-- What is reported of an issued refund is the refund that was stored. -/
theorem issueRefund_reports {outcome : ProviderOutcome} {transaction : Transaction}
    {record : KoraRefund} {db : Db} (hstored : record ∈ db.refunds) {report : RefundReport}
    (h : (issueRefund outcome transaction record db).1 = .reported report) :
    ∃ r ∈ (issueRefund outcome transaction record db).2.refunds,
      r.transactionId = record.transactionId ∧ r.refundReference = report.refundReference ∧
        r.paymentReference = report.paymentReference ∧ r.amount = report.amount := by
  -- a provider that is not there is answered with a refusal, never with a report
  have hunavailable : (concludeRefund (refundUnavailable record) .unavailable db).1 ≠
      .reported report := by
    rw [concludeRefund_answer rfl]
    split
    · rintro ⟨⟩
    · rintro ⟨⟩
  unfold issueRefund at h ⊢
  split at h
  · rename_i hsendable
    rw [if_pos hsendable]
    cases outcome with
    | refused message => exact absurd h hunavailable
    | raised => cases h
    | answered result =>
        simp only [concludeRefund] at h ⊢
        cases hflush : (refundIssued result record transaction).flush db with
        | error e =>
            simp only [hflush] at h
            cases h
        | ok db' =>
            simp only [hflush] at h ⊢
            cases h
            have hwritten : KoraRefund.writeBack ⟨record, issuedRecord result record⟩ record ∈
                db'.refunds := by
              rw [(UnitOfWork.flush_ok hflush).2.1]
              exact Table.mem_modify_self _ (KoraRefund.key_writeBack _) hstored
            exact ⟨_, hwritten, rfl, rfl, rfl, rfl⟩
  · exact absurd h hunavailable

/-! ## With and without the refunds of others

Taking rows out of the table can only free a key or a reference. -/

section Purged

variable {config : RefundConfig} {order : RefundOrder} {userId : ℕ} {db : Db}

/-- A row that fits and clashes with no stored refund is stored. -/
theorem insertRefund_of_free (hfits : (refundRecord config order 0 0).fits = true)
    (hkey : ∀ r ∈ db.refunds, r.idempotencyKey ≠ order.idempotencyKey)
    (hreference : ∀ r ∈ db.refunds,
      r.refundReference ≠ (refundRecord config order 0 0).refundReference) (now : Instant) :
    ∃ refunds, insertRefund config order now db = some refunds := by
  have hfree : ∀ r ∈ db.refunds, ¬ Row.Clash (Row.key r)
      (Row.key (refundRecord config order db.refunds.next now)) := by
    intro r hr hclash
    rcases hclash with hclash | hclash
    · exact hreference r hr hclash
    · exact hkey r hr hclash
  obtain ⟨refunds, hinsert⟩ :=
    Table.exists_insert (fun n => refundRecord config order n now) (fun _ => rfl) hfree
  exact ⟨refunds, (if_pos hfits).trans hinsert⟩

/-- A stored refund under the reference keeps the row out. -/
theorem insertRefund_of_taken {r : KoraRefund} (hr : r ∈ db.refunds)
    (hreference : r.refundReference = (refundRecord config order 0 0).refundReference)
    (now : Instant) : insertRefund config order now db = none := by
  cases hinsert : insertRefund config order now db with
  | none => rfl
  | some refunds =>
      exact absurd (Or.inl hreference) (Table.not_clash_of_insert (insertRefund_some hinsert) r hr)

/-- What is left are the refunds of the user. -/
theorem mem_purged {r : KoraRefund} :
    r ∈ (purged userId db).refunds ↔ r ∈ db.refunds ∧ refundOf userId db r = true :=
  Table.mem_filter

/-- Where the key is the payment's own, the order is executed as without the refunds of
others, and reports its own refund. -/
theorem executeRefund_of_own (howner : db.transactions.get order.transaction.id =
      some order.transaction) (huser : order.transaction.userId = userId)
    (hown : keyIsOwn config order userId db) (now : Instant) (outcome : ProviderOutcome) :
    (executeRefund config order now outcome db).1 =
        (executeRefund config order now outcome (purged userId db)).1 ∧
      ∀ report, (executeRefund config order now outcome db).1 = .reported report →
        ∃ r ∈ (executeRefund config order now outcome db).2.refunds,
          r.transactionId = order.transaction.id ∧ r.refundReference = report.refundReference ∧
            r.paymentReference = report.paymentReference ∧ r.amount = report.amount := by
  obtain ⟨hpayment, hreference⟩ := hown
  by_cases hstored : ∃ r ∈ db.refunds, r.idempotencyKey = order.idempotencyKey
  · -- a replay: the refund is the payment's own, so the purge keeps it
    obtain ⟨r, hr, hkey⟩ := hstored
    have hid := hpayment r hr hkey
    have hkept : r ∈ (purged userId db).refunds := by
      refine mem_purged.mpr ⟨hr, ?_⟩
      rw [refundOf, hid, howner]
      exact decide_eq_true huser
    unfold executeRefund
    rw [selectRefundByKey_of_mem hr hkey, selectRefundByKey_of_mem hkept hkey]
    refine ⟨rfl, ?_⟩
    rintro report ⟨⟩
    exact ⟨r, hr, hid, rfl, rfl, rfl⟩
  · have hnone : ∀ r ∈ db.refunds, r.idempotencyKey ≠ order.idempotencyKey :=
      fun r hr hkey => hstored ⟨r, hr, hkey⟩
    have hnone' : ∀ r ∈ (purged userId db).refunds, r.idempotencyKey ≠ order.idempotencyKey :=
      fun r hr => hnone r (mem_purged.mp hr).1
    unfold executeRefund
    rw [selectRefundByKey_of_none hnone, selectRefundByKey_of_none hnone']
    by_cases hfits : (refundRecord config order 0 0).fits = true
    · by_cases htaken : ∃ r ∈ db.refunds,
          r.refundReference = (refundRecord config order 0 0).refundReference
      · -- the reference is taken, by a refund the purge keeps
        obtain ⟨r, hr, hsame⟩ := htaken
        have hkept := mem_purged.mpr ⟨hr, hreference hnone hfits r hr hsame⟩
        rw [insertRefund_of_taken hr hsame, insertRefund_of_taken hkept hsame]
        refine ⟨rfl, ?_⟩
        rintro report ⟨⟩
      · have hfree : ∀ r ∈ db.refunds,
            r.refundReference ≠ (refundRecord config order 0 0).refundReference :=
          fun r hr hsame => htaken ⟨r, hr, hsame⟩
        obtain ⟨refunds, hinsert⟩ := insertRefund_of_free hfits hnone hfree now
        obtain ⟨refunds', hinsert'⟩ := insertRefund_of_free hfits hnone'
          (fun r hr => hfree r (mem_purged.mp hr).1) now
        rw [hinsert, hinsert']
        refine ⟨issueRefund_answer _ _ _ _ _, fun report hreport => ?_⟩
        have hnew : refundRecord config order db.refunds.next now ∈ refunds :=
          (Table.mem_insert (insertRefund_some hinsert)).mpr (Or.inr rfl)
        exact issueRefund_reports hnew hreport
    · have hrefused : ∀ db', insertRefund config order now db' = none := fun _ => if_neg hfits
      rw [hrefused, hrefused]
      refine ⟨rfl, ?_⟩
      rintro report ⟨⟩

/-- Where the key is not the payment's own, some answer of the provider shows it. -/
theorem keyIsOwn_of_answers
    (hreports : ∀ report, (executeRefund config order 0 (.answered []) db).1 = .reported report →
      ∃ r ∈ (executeRefund config order 0 (.answered []) db).2.refunds,
        r.transactionId = order.transaction.id ∧ r.refundReference = report.refundReference)
    (hsame : (executeRefund config order 0 (.answered []) db).1 =
      (executeRefund config order 0 (.answered []) (purged userId db)).1) :
    keyIsOwn config order userId db := by
  constructor
  · intro r hr hkey
    have hreplay : executeRefund config order 0 (.answered []) db =
        (.reported (replayReport r), db) := by
      unfold executeRefund
      rw [selectRefundByKey_of_mem hr hkey]
    rw [hreplay] at hreports
    obtain ⟨r', hr', hid, hreference⟩ := hreports _ rfl
    rw [← eq_of_refundReference hr' hr hreference]
    exact hid
  · intro hnone hfits r hr hreference
    by_contra hforeign
    -- without the foreign refund the reference is free, and the route answers
    have hcrashed : (executeRefund config order 0 (.answered []) db).1 = .crashed := by
      unfold executeRefund
      rw [selectRefundByKey_of_none hnone, insertRefund_of_taken hr hreference]
    have hnone' : ∀ r ∈ (purged userId db).refunds, r.idempotencyKey ≠ order.idempotencyKey :=
      fun r hr => hnone r (mem_purged.mp hr).1
    have hfree : ∀ r' ∈ (purged userId db).refunds,
        r'.refundReference ≠ (refundRecord config order 0 0).refundReference := by
      intro r' hr' hsame'
      obtain ⟨hr', hkept⟩ := mem_purged.mp hr'
      rw [eq_of_refundReference hr' hr (hsame'.trans hreference.symm)] at hkept
      exact hforeign hkept
    obtain ⟨refunds, hinsert⟩ := insertRefund_of_free hfits hnone' hfree 0
    have hanswers : (executeRefund config order 0 (.answered []) (purged userId db)).1 ≠
        .crashed := by
      unfold executeRefund
      rw [selectRefundByKey_of_none hnone', hinsert]
      exact issueRefund_answered _ _ _
    exact hanswers (hsame.symm.trans hcrashed)

end Purged

/-- **A replay answers for its own payment.**  A refund request is answered from the
payment it names, and as if there were no refunds of other users, if and only if — when
it passes its checks — no refund of another payment is stored under its key, and none of
another user under the reference its key hashes to. -/
theorem answers_for_own_iff (config : RefundConfig) (call : RefundCall) (db : Db) :
    AnswersForOwn config call db ↔
      ∀ order, call.refund.transactionId = call.transactionId →
        checkRefund config call (db.transactions.get call.transactionId) = .ok order →
        keyIsOwn config order call.userId db := by
  -- behind the checks the route is the same on both databases
  have hpassed : ∀ {order}, call.refund.transactionId = call.transactionId →
      checkRefund config call (db.transactions.get call.transactionId) = .ok order →
      ∀ now outcome, call.handle config now outcome db =
          executeRefund config order now outcome db ∧
        call.handle config now outcome (purged call.userId db) =
          executeRefund config order now outcome (purged call.userId db) := by
    intro order hpath hcheck now outcome
    unfold RefundCall.handle
    have hsame : (purged call.userId db).transactions = db.transactions := rfl
    rw [if_neg (not_not_intro hpath), if_neg (not_not_intro hpath), hsame, hcheck]
    exact ⟨rfl, rfl⟩
  constructor
  -- one clock and one answer of the provider are enough to find the foreign refund
  · intro h order hpath hcheck
    obtain ⟨hreports, hsame⟩ := h 0 (.answered [])
    obtain ⟨hhandle, hpurged⟩ := hpassed hpath hcheck 0 (.answered [])
    have hid : order.transaction.id = call.transactionId :=
      Table.ident_of_get (checkRefund_ok hcheck).1
    rw [hhandle, hpurged] at hsame
    refine keyIsOwn_of_answers (fun report hreport => ?_) hsame
    rw [hhandle] at hreports
    obtain ⟨r, hr, hown, hreference, -⟩ := hreports report hreport
    exact ⟨r, hr, hown.trans hid.symm, hreference⟩
  · intro h now outcome
    by_cases hpath : call.refund.transactionId = call.transactionId
    · cases hcheck : checkRefund config call (db.transactions.get call.transactionId) with
      | ok order =>
          obtain ⟨hhandle, hpurged⟩ := hpassed hpath hcheck now outcome
          obtain ⟨hget, -, -, howner⟩ := checkRefund_ok hcheck
          have hid : order.transaction.id = call.transactionId := Table.ident_of_get hget
          rw [← hid] at hget
          obtain ⟨hsame, hreports⟩ := executeRefund_of_own hget howner
            (h order hpath hcheck) now outcome
          rw [ReportsOwn, hhandle, hpurged, ← hid]
          exact ⟨hreports, hsame⟩
      | error answer =>
          -- a refusal looks at transactions alone
          have hrefused : ∀ db', db'.transactions = db.transactions →
              call.handle config now outcome db' = (answer, db') := by
            intro db' hdb'
            unfold RefundCall.handle
            rw [if_neg (not_not_intro hpath), hdb', hcheck]
          rw [ReportsOwn, hrefused db rfl, hrefused (purged call.userId db) rfl]
          refine ⟨?_, rfl⟩
          rintro report rfl
          exact absurd rfl (checkRefund_not_reported hcheck _)
    · have hrefused : ∀ db', call.handle config now outcome db' =
          (.rejected 422 "Transaction id does not match the request path", db') :=
        fun db' => if_pos hpath
      rw [ReportsOwn, hrefused, hrefused]
      refine ⟨?_, rfl⟩
      rintro report ⟨⟩

/-- The completed pay-in of another user. -/
def otherPayin : Transaction :=
  { payinInitiated "KPY-2" "pay-2" []
      (payinTransaction 1 "idem-2" 2 .kora 300 "XAF" (some "237690000002") [] 0) with
    status := .completed }

/-- Two completed pay-ins of two users, the first refunded under `refund-key-1`. -/
def refundedElsewhere : Db :=
  ((sampleCall "refund-key-1" none noAmount_pos).handle sampleConfig 1
    (.answered [("status", .str "success")])
    { Db.empty with
      transactions :=
        { rows := [completedPayin, otherPayin]
          next := 2
          fresh := by decide
          distinct := by decide
          unique := by decide } }).2

/-- The other user's request to refund the other pay-in, under the same key. -/
def otherCall : RefundCall where
  transactionId := 1
  refund :=
    { transactionId := 1
      amount := none
      amount_pos := noAmount_pos
      reason := none
      execute := true }
  userId := 2
  idempotencyHeader := "refund-key-1"
  confirmationHeader := some "CONFIRM"

/-- The other user is answered with the first user's refund. -/
theorem replay_for_another :
    ∃ report, (otherCall.handle sampleConfig 2 .raised refundedElsewhere).1 = .reported report ∧
      report.paymentReference = "KPY-1" ∧ report.amount = 1000 ∧
      ¬ AnswersForOwn sampleConfig otherCall refundedElsewhere := by
  have hanswer : (otherCall.handle sampleConfig 2 .raised refundedElsewhere).1 =
      .reported
        { status := "success"
          refundReference := "afm-ref-f014f53ee2ba9d908683f7393460d8a8916d5744"
          paymentReference := "KPY-1"
          amount := 1000
          currency := "XAF"
          idempotentReplay := true
          fundsMovement := true } := by
    decide +kernel
  have hrows : (otherCall.handle sampleConfig 2 .raised refundedElsewhere).2.refunds.rows.map
      (·.transactionId) = [0] := by
    decide +kernel
  refine ⟨_, hanswer, rfl, rfl, fun h => ?_⟩
  obtain ⟨r, hr, hid, -⟩ := (h 2 .raised).1 _ hanswer
  have hmem : r.transactionId ∈ [0] := hrows ▸ List.mem_map.mpr ⟨r, hr, rfl⟩
  rw [hid] at hmem
  cases List.mem_singleton.mp hmem

end AfricaFrontier
