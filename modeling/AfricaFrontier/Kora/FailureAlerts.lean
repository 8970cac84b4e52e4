import AfricaFrontier.Kora.Acknowledgement
import AfricaFrontier.Lib.Window
import AfricaFrontier.Support.SupportAi

/-!
# What a failed webhook reports (`api_gateway/kora_alerts.py`)

The rest of the `except` block of `kora_webhook`.  A delivery that has marked its receipt
failed counts the failed receipts of its event type from the last five minutes, alerts the team
if there are as many as the threshold, has the incident diagnosed, and answers with status 500.

The count is a statement of its own, after the commit of the mark, so between the two other
deliveries may fail, count and alert.  Every failure is then visible to all who count after it,
and whoever counts last counts them all: of the failures of one type that fall into five
minutes, fewer than the threshold go unalerted (`unalerted_lt_threshold`).  No alert is false
(`alert_backed`).

The sessions here take the steps of `koraWebhook` and some of their own, which are nothing to
it (`alerting_refines`).

That an alerting delivery is a delivery is not proved again but carried over: the projection that
forgets counting and alerting simulates `koraWebhook` step by step, with the new statements as
steps of nobody. So whatever holds of all runs of deliveries holds of these.

The invariant `Reported` orders the reports: each is of a failed receipt of its own, and has
counted all those before it that it covers. Hence of `n` reports that cover each other the last
has counted `n`, and was an alert if `n` reaches the threshold.
-/

namespace AfricaFrontier

open Python Relational SlidingWindow Transition

/-! ## The alert -/

/-- The settings an alert depends on. -/
structure AlertSettings where
  koraWebhookAlertUrl : Option String
  koraWebhookAlertThreshold : ℕ
  threshold_ge : 1 ≤ koraWebhookAlertThreshold
  threshold_le : koraWebhookAlertThreshold ≤ 20

/-- Where alerts are sent to; an empty setting is no destination. -/
def AlertSettings.destination (settings : AlertSettings) : Option String :=
  settings.koraWebhookAlertUrl.filter fun url => decide (url ≠ "")

/-- An alert, as it is sent. -/
structure Alert where
  source : String := "afm-kora-webhook"
  eventId : String
  eventType : String
  failureCount : ℕ
  message : String := "Repeated webhook processing failures detected"
  error : String
  deriving DecidableEq

/-- The alert that `notify_kora_failure` makes of a failure. -/
def notifyKoraFailure (settings : AlertSettings) (eventId eventType : String)
    (failureCount : ℕ) (error : String) : Option Alert :=
  if failureCount < settings.koraWebhookAlertThreshold then none
  else
    some { eventId := eventId, eventType := eventType, failureCount := failureCount
           error := slice 255 error }

/-- There is no alert below the threshold. -/
theorem notifyKoraFailure_eq_none_iff {settings : AlertSettings} {eventId eventType : String}
    {failureCount : ℕ} {error : String} :
    notifyKoraFailure settings eventId eventType failureCount error = none ↔
      failureCount < settings.koraWebhookAlertThreshold := by
  unfold notifyKoraFailure
  split
  · exact iff_of_true rfl (by assumption)
  · exact iff_of_false (fun h => by cases h) (by assumption)

/-- What an alert says: the count it was given, at or above the threshold. -/
theorem notifyKoraFailure_eq_some {settings : AlertSettings} {eventId eventType : String}
    {failureCount : ℕ} {error : String} {alert : Alert}
    (h : notifyKoraFailure settings eventId eventType failureCount error = some alert) :
    settings.koraWebhookAlertThreshold ≤ failureCount ∧ alert.eventType = eventType ∧
      alert.failureCount = failureCount := by
  unfold notifyKoraFailure at h
  split at h
  · cases h
  · rename_i hcount
    cases h
    exact ⟨Nat.le_of_not_lt hcount, rfl, rfl⟩

/-- The failed receipts of an event type from the last five minutes, by the time at which they
were received. -/
def recentFailures (eventType : String) (now : Instant) (db : Db) : List KoraWebhookEvent :=
  db.events.rows.filter fun e =>
    decide (e.eventType = eventType ∧ e.status = .failed ∧ now - minutes 5 ≤ e.receivedAt)

/-! ## The rest of the route

Counting, alerting, diagnosing and answering are four statements; a process may die before each of
them. -/

/-- What a failed delivery has counted, and the alert it made of it. The list of these is read by
no code. -/
structure FailureReport where
  /-- Its receipt, as stored. -/
  receipt : Option KoraWebhookEvent
  eventId : String
  eventType : String
  countedAt : Instant
  failures : ℕ
  alert : Option Alert

/-- The lines `notify_kora_failure` logs. -/
inductive AlertLine
  | thresholdReached (alert : Alert)
  | sent (eventId : String) (failureCount : ℕ)
  | deliveryFailed (eventId error : String)

/-- The store with what has been counted, and the lines and the diagnoses logged. -/
structure AlertStore where
  store : Store
  reports : List FailureReport
  lines : List AlertLine
  decisions : List SupportDecision

/-- Nothing was counted yet. -/
def AlertStore.start (db : Db) : AlertStore := ⟨Store.start db, [], [], []⟩

/-- Where a delivery stands. -/
inductive AlertPhase
  | handling (phase : DeliveryPhase)
  | counting (receipt : ℕ) (error : PyError)
  | notifying (alert : Alert) (error : PyError)
  | diagnosing (failures : ℕ) (error : PyError)

/-- The environment's part in a statement: also what becomes of the alert that is posted, and
of the request to the language model. -/
structure AlertTick extends Tick where
  post : Except String Unit
  llm : LlmOutcome

/-- The context of a diagnosis. -/
def incidentContext (d : Delivery) (failures : ℕ) : Mapping :=
  [("event_id", .str d.eventId), ("event_type", .str d.eventType),
    ("provider_reference", .ofJson (providerReference d.data)), ("failure_count", .int failures)]

/-- Where a delivery goes on after a statement of `koraWebhook`: once its receipt is marked
failed, it counts. -/
def AlertPhase.resume (fault : Bool) (next : Option DeliveryPhase) :
    DeliveryPhase → Option AlertPhase
  | .failing receipt error =>
      if fault then next.map .handling else some (.counting receipt error)
  | _ => next.map .handling

section Step

variable (settings : AlertSettings) (host : SupportHost)

/-- What a delivery finds when it counts. -/
def Delivery.report (d : Delivery) (s : Store) (now : Instant) (receipt : ℕ) (error : PyError) :
    FailureReport :=
  let failures := (recentFailures d.eventType now s.db).length
  { receipt := s.db.events.get receipt
    eventId := d.eventId
    eventType := d.eventType
    countedAt := now
    failures := failures
    alert := notifyKoraFailure settings d.eventId d.eventType failures error.text }

/-- The line for an alert that was posted. -/
def Alert.line (alert : Alert) : Except String Unit → AlertLine
  | .ok _ => .sent alert.eventId alert.failureCount
  | .error e => .deliveryFailed alert.eventId (slice 255 e)

/-- Where a delivery goes on from its count, and what it logs first: an alert without a
destination is logged only. -/
def FailureReport.next (report : FailureReport) (error : PyError) : List AlertLine × AlertPhase :=
  match report.alert, settings.destination with
  | none, _ => ([], .diagnosing report.failures error)
  | some alert, none => ([.thresholdReached alert], .diagnosing report.failures error)
  | some alert, some _ => ([], .notifying alert error)

/-- The next statement of a delivery. -/
def Delivery.alertStep (d : Delivery) (s : AlertStore) (tick : AlertTick) :
    AlertPhase → AlertStore × Option AlertPhase
  | .handling phase =>
      let next := d.step s.store tick.toTick phase
      ({ s with store := next.1 }, AlertPhase.resume tick.fault next.2 phase)
  | .counting receipt error =>
      if tick.fault then (s, some (.handling (.answering .failed)))
      else
        let report := d.report settings s.store tick.now receipt error
        let next := report.next settings error
        ({ s with reports := s.reports ++ [report], lines := s.lines ++ next.1 }, some next.2)
  | .notifying alert error =>
      ({ s with lines := s.lines ++ [alert.line tick.post] },
        some (.diagnosing alert.failureCount error))
  | .diagnosing failures error =>
      -- what the diagnosis raises reaches the framework, which answers with a 500 as well
      let decision := analyzeIncident host error.text (incidentContext d failures)
      match enrichWithExternalLlm host (fun _ => tick.llm) decision with
      | .ok enriched =>
          ({ s with decisions := s.decisions ++ [enriched] },
            some (.handling (.answering .failed)))
      | .error _ => (s, some (.handling (.answering .failed)))

end Step

/-- A delivery in flight. -/
structure AlertSession where
  delivery : Delivery
  phase : AlertPhase

/-- `kora_webhook`, with all of its `except` block. -/
def koraWebhookAlerting (settings : AlertSettings) (host : SupportHost) :
    Sessions AlertStore Delivery AlertSession AlertTick where
  init d := ⟨d, .handling .received⟩
  advance s t tick :=
    let next := t.delivery.alertStep settings host s tick t.phase
    some (next.1, next.2.map (AlertSession.mk t.delivery))

/-- Deliveries in any number and order, interleaved with everything else. -/
def alertingDeliveries (settings : AlertSettings) (host : SupportHost) :
    Sessions AlertStore (Delivery ⊕ Unit) (AlertSession ⊕ Unit) (AlertTick ⊕ Db) :=
  (koraWebhookAlerting settings host).sum
    (otherBusiness.lift AlertStore.store fun s _ store => { s with store := store })

/-! ## The refinement -/

/-- What a phase is to `koraWebhook`. -/
def AlertPhase.view : AlertPhase → DeliveryPhase
  | .handling phase => phase
  | _ => .answering .failed

/-- A session, as `koraWebhook` sees it. -/
def AlertSession.view (t : AlertSession) : DeliverySession := ⟨t.delivery, t.phase.view⟩

/-- A statement is one of `koraWebhook`, or nothing to it. -/
theorem Delivery.alertStep_view (settings : AlertSettings) (host : SupportHost) (d : Delivery)
    (s : AlertStore) (tick : AlertTick) (phase : AlertPhase) :
    ((d.alertStep settings host s tick phase).1.store = s.store ∧
        (d.alertStep settings host s tick phase).2.map AlertPhase.view = some phase.view) ∨
      d.step s.store tick.toTick phase.view =
        ((d.alertStep settings host s tick phase).1.store,
          (d.alertStep settings host s tick phase).2.map AlertPhase.view) := by
  cases phase with
  | handling phase =>
      refine Or.inr (Prod.ext rfl ?_)
      have hplain : ∀ next : Option DeliveryPhase,
          (next.map AlertPhase.handling).map AlertPhase.view = next := by
        intro next
        cases next <;> rfl
      cases phase with
      -- marking the receipt is the last step without alerts, and the first of an alert
      | failing receipt error =>
          simp only [Delivery.alertStep, AlertPhase.resume, AlertPhase.view]
          cases hfault : tick.fault with
          | true => exact (hplain _).symm
          | false => simp [Delivery.step, hfault, AlertPhase.view]
      | received => exact (hplain _).symm
      | conflicting => exact (hplain _).symm
      | processing receipt phase => exact (hplain _).symm
      | staged receipt work => exact (hplain _).symm
      | answering answer => exact (hplain _).symm
  -- counting, telling and diagnosing leave the store alone
  | counting receipt error =>
      refine Or.inl ?_
      simp only [Delivery.alertStep]
      split
      · exact ⟨rfl, rfl⟩
      · refine ⟨rfl, ?_⟩
        simp only [FailureReport.next]
        split <;> rfl
  | notifying alert error => exact Or.inl ⟨rfl, rfl⟩
  | diagnosing failures error =>
      refine Or.inl ?_
      simp only [Delivery.alertStep]
      split <;> exact ⟨rfl, rfl⟩

/-- Every step of the deliveries that alert is a step of the deliveries, or none. -/
theorem alerting_simulates (settings : AlertSettings) (host : SupportHost) :
    Simulates (alertingDeliveries settings host) deliveries AlertStore.store
      (Sum.map AlertSession.view id) where
  opened request := by cases request <;> rfl
  advanced s t x s' o hadv := by
    cases t with
    | inl t =>
        obtain ⟨tick, s₁, o₁, rfl, ht, hr⟩ := Sessions.sum_advance_inl hadv
        obtain ⟨rfl, rfl⟩ := Prod.mk.inj hr
        obtain ⟨rfl, rfl⟩ := Prod.mk.inj (Option.some.inj ht)
        have hview : ∀ next : Option AlertPhase,
            ((next.map (AlertSession.mk t.delivery)).map Sum.inl).map
                (Sum.map AlertSession.view (id : Unit → Unit)) =
              ((next.map AlertPhase.view).map (DeliverySession.mk t.delivery)).map Sum.inl := by
          intro next
          cases next <;> rfl
        rw [hview]
        rcases t.delivery.alertStep_view settings host s tick t.phase with
          ⟨hstore, hsame⟩ | hstep
        · refine Or.inl ⟨hstore, ?_⟩
          rw [hsame]
          rfl
        · refine Or.inr ⟨.inl tick.toTick, ?_⟩
          show ((koraWebhook.advance s.store t.view tick.toTick).map _) = _
          simp only [koraWebhook, AlertSession.view, hstep]
          rfl
    -- other business is the same with alerts and without
    | inr u =>
        obtain ⟨db, s₁, o₁, rfl, hu, hr⟩ := Sessions.sum_advance_inr hadv
        obtain ⟨rfl, rfl⟩ := Prod.mk.inj hr
        obtain ⟨s₂, hu', rfl⟩ := Sessions.lift_advance hu
        refine Or.inr ⟨.inr db, ?_⟩
        show ((otherBusiness.advance s.store u db).map _) = _
        rw [hu']
        cases o₁ <;> rfl

/-- **Refinement.**  To the webhook alerts are nothing: a run of the deliveries that alert is,
without its alerts, a run of the deliveries. -/
theorem alerting_refines {settings : AlertSettings} {host : SupportHost}
    {p p' : Pool AlertStore (AlertSession ⊕ Unit)}
    {as : List (PoolAct (Delivery ⊕ Unit) (AlertTick ⊕ Db))}
    (run : Run (alertingDeliveries settings host).machine Unguarded p as p') :
    ∃ bs, Run deliveries.machine Unguarded
      (p.mapped AlertStore.store (Sum.map AlertSession.view id)) bs
      (p'.mapped AlertStore.store (Sum.map AlertSession.view id)) :=
  (alerting_simulates settings host).run run

/-! ## What a statement touches

A receipt that has failed is not written again; one that is held is written by its own delivery
alone. -/

/-- The receipt a delivery has stored and not yet settled. -/
def DeliveryPhase.held : DeliveryPhase → Option ℕ
  | .processing receipt _ => some receipt
  | .staged receipt _ => some receipt
  | .failing receipt _ => some receipt
  | _ => none

/-- Receipts that are not held stay as they are. -/
theorem DeliveryStep.get_of_not_held {d : Delivery} {s s' : Store} {phase : DeliveryPhase}
    {next : Option DeliveryPhase} (h : DeliveryStep d s phase s' next) {i : ℕ}
    {e : KoraWebhookEvent} (hget : s.db.events.get i = some e) (hi : phase.held ≠ some i) :
    s'.db.events.get i = some e := by
  cases h with
  | recorded hinsert => exact Table.get_insert_of_get hinsert hget
  | @committed receipt work now db hflush =>
      obtain ⟨-, -, -, hevents, -⟩ := UnitOfWork.flush_ok hflush
      have hne : i ≠ receipt := fun hsame => hi (congrArg some hsame.symm)
      show (db.events.modify receipt (markProcessed now) (markProcessed_key now)).get i = some e
      rw [Table.get_modify_of_ne hne, hevents]
      exact hget
  | @marked receipt error =>
      have hne : i ≠ receipt := fun hsame => hi (congrArg some hsame.symm)
      show (s.db.events.modify receipt (markFailed error) (markFailed_key error)).get i = some e
      rw [Table.get_modify_of_ne hne]
      exact hget
  | clashed => exact hget
  | duplicate => exact hget
  | advanced hstep => exact hget
  | computed hstep => exact hget
  | raised => exact hget
  | rejected => exact hget
  | refused => exact hget
  | answered => exact hget

/-- A receipt that is held was before, or has just been stored. -/
theorem DeliveryStep.held_next {d : Delivery} {s s' : Store} {phase phase' : DeliveryPhase}
    (h : DeliveryStep d s phase s' (some phase')) {i : ℕ} (hi : phase'.held = some i) :
    (phase.held = some i ∧ s'.db.events = s.db.events) ∨
      (s.db.events.get i = none ∧ ∃ now, s'.db.events.get i = some (d.receipt now i)) := by
  generalize hnext : some phase' = next at h
  cases h with
  -- only here a delivery comes to hold a receipt, the one it has inserted
  | @recorded now events hinsert =>
      obtain rfl := Option.some.inj hnext
      obtain rfl := Option.some.inj hi
      refine Or.inr ⟨Table.get_next _, now, ?_⟩
      rw [Table.get_insert hinsert, if_pos rfl]
  | advanced hstep =>
      obtain rfl := Option.some.inj hnext
      exact Or.inl ⟨hi, rfl⟩
  | computed hstep =>
      obtain rfl := Option.some.inj hnext
      exact Or.inl ⟨hi, rfl⟩
  | raised =>
      obtain rfl := Option.some.inj hnext
      exact Or.inl ⟨hi, rfl⟩
  | rejected =>
      obtain rfl := Option.some.inj hnext
      exact Or.inl ⟨hi, rfl⟩
  | clashed =>
      obtain rfl := Option.some.inj hnext
      cases hi
  | duplicate =>
      obtain rfl := Option.some.inj hnext
      cases hi
  | committed hflush =>
      obtain rfl := Option.some.inj hnext
      cases hi
  | marked =>
      obtain rfl := Option.some.inj hnext
      cases hi
  | refused =>
      obtain rfl := Option.some.inj hnext
      cases hi
  | answered => cases hnext

/-- The store once a receipt is marked failed. -/
def Store.marked (s : Store) (receipt : ℕ) (error : PyError) : Store :=
  { s with
    db :=
      { s.db with
        events := s.db.events.modify receipt (markFailed error) (markFailed_key error) } }

/-- The receipt a delivery has stored, until it has counted. -/
def AlertPhase.held : AlertPhase → Option ℕ
  | .handling phase => phase.held
  | .counting receipt _ => some receipt
  | _ => none

/-- What its state is. -/
def AlertPhase.status : AlertPhase → ReceiptStatus
  | .counting _ _ => .failed
  | _ => .received

/-- The statements of a delivery, case by case. -/
inductive AlertStep (settings : AlertSettings) (d : Delivery) (s : AlertStore) :
    AlertPhase → AlertStore → Option AlertPhase → Prop
  | handled {phase : DeliveryPhase} {store : Store} {next : Option DeliveryPhase}
      (hstep : DeliveryStep d s.store phase store next) :
      AlertStep settings d s (.handling phase) { s with store := store } (next.map .handling)
  | marked {receipt : ℕ} {error : PyError} :
      AlertStep settings d s (.handling (.failing receipt error))
        { s with store := s.store.marked receipt error } (some (.counting receipt error))
  | counted {receipt : ℕ} {error : PyError} {now : Instant} {s' : AlertStore}
      {next : AlertPhase} (hstore : s'.store = s.store)
      (hreports : s'.reports = s.reports ++ [d.report settings s.store now receipt error])
      (hnext : next.held = none) :
      AlertStep settings d s (.counting receipt error) s' (some next)
  | told {phase : AlertPhase} {s' : AlertStore} {next : AlertPhase}
      (hstore : s'.store = s.store) (hreports : s'.reports = s.reports)
      (hnext : next.held = none) : AlertStep settings d s phase s' (some next)

/-- Once it has counted, a delivery holds nothing. -/
theorem FailureReport.next_held (settings : AlertSettings) (report : FailureReport)
    (error : PyError) : (report.next settings error).2.held = none := by
  unfold FailureReport.next
  split <;> rfl

/-- Every statement is one of them. -/
theorem Delivery.alertStep_spec (settings : AlertSettings) (host : SupportHost) (d : Delivery)
    (s : AlertStore) (tick : AlertTick) (phase : AlertPhase) :
    AlertStep settings d s phase (d.alertStep settings host s tick phase).1
      (d.alertStep settings host s tick phase).2 := by
  cases phase with
  | handling phase =>
      have hspec := d.step_spec s.store tick.toTick phase
      cases phase with
      -- where the commit of the mark fails, no alert is made
      | failing receipt error =>
          cases hfault : tick.fault with
          | true =>
              have hresume : AlertPhase.resume tick.fault
                  (d.step s.store tick.toTick (.failing receipt error)).2
                    (.failing receipt error) =
                  (d.step s.store tick.toTick (.failing receipt error)).2.map .handling := by
                simp only [AlertPhase.resume, hfault, if_true]
              simp only [Delivery.alertStep, hresume]
              exact .handled hspec
          | false =>
              simp only [Delivery.alertStep, AlertPhase.resume, Delivery.step, hfault]
              exact .marked
      | received => exact .handled hspec
      | conflicting => exact .handled hspec
      | processing receipt phase => exact .handled hspec
      | staged receipt work => exact .handled hspec
      | answering answer => exact .handled hspec
  | counting receipt error =>
      simp only [Delivery.alertStep]
      split
      · exact .told rfl rfl rfl
      · exact .counted rfl rfl (FailureReport.next_held settings _ error)
  | notifying alert error => exact .told rfl rfl rfl
  | diagnosing failures error =>
      simp only [Delivery.alertStep]
      split <;> exact .told rfl rfl rfl

/-! ## The invariant -/

/-- A report covers a failure of its type that was received within the five minutes before it
was counted. -/
def FailureReport.covers (report other : FailureReport) : Bool :=
  decide (other.eventType = report.eventType) &&
    other.receipt.any fun e => decide (report.countedAt - minutes 5 ≤ e.receivedAt)

/-- The reports are of distinct failed receipts, each of which has counted the earlier ones and
none that is not stored. -/
structure Reported (settings : AlertSettings) (s : AlertStore) : Prop where
  stored : ∀ r ∈ s.reports, ∃ e, r.receipt = some e ∧ e ∈ s.store.db.events ∧
    e.status = .failed ∧ e.eventType = r.eventType
  nodup : (s.reports.map FailureReport.receipt).Nodup
  tallied : Tallied FailureReport.covers FailureReport.failures s.reports
  counted : ∀ r ∈ s.reports,
    r.failures ≤ (recentFailures r.eventType r.countedAt s.store.db).length
  alerted : ∀ r ∈ s.reports,
    ∃ error, r.alert = notifyKoraFailure settings r.eventId r.eventType r.failures error

/-- The receipt a delivery holds is its own, and not reported yet. -/
def AlertOwn (s : AlertStore) (d : Delivery) (phase : AlertPhase) : Prop :=
  ∀ i, phase.held = some i → ∃ e, s.store.db.events.get i = some e ∧
    e.eventType = d.eventType ∧ e.status = phase.status ∧
    some e ∉ s.reports.map FailureReport.receipt

/-- Failed receipts stay. -/
def FailuresStay (s s' : AlertStore) : Prop :=
  ∀ e ∈ s.store.db.events, e.status = .failed → e ∈ s'.store.db.events

/-- A failure is counted once. -/
theorem recentFailures_nodup (eventType : String) (now : Instant) (db : Db) :
    (recentFailures eventType now db).Nodup :=
  (db.events.distinct.filter _).imp fun hne hsame => hne (congrArg ident hsame)

/-- What is counted. -/
theorem mem_recentFailures {eventType : String} {now : Instant} {db : Db}
    {e : KoraWebhookEvent} : e ∈ recentFailures eventType now db ↔
      e ∈ db.events ∧ e.eventType = eventType ∧ e.status = .failed ∧
        now - minutes 5 ≤ e.receivedAt := by
  rw [recentFailures, List.mem_filter, decide_eq_true_iff]
  exact Iff.rfl

section Invariant

variable {settings : AlertSettings} {d : Delivery} {s s' : AlertStore} {phase : AlertPhase}
  {next : Option AlertPhase}

/-- A count does not fall while the store grows. -/
theorem FailuresStay.recentFailures_le (h : FailuresStay s s') (eventType : String)
    (now : Instant) : (recentFailures eventType now s.store.db).length ≤
      (recentFailures eventType now s'.store.db).length := by
  refine ((recentFailures_nodup eventType now s.store.db).subperm fun e he => ?_).length_le
  obtain ⟨hmem, htype, hfailed, hrecent⟩ := mem_recentFailures.mp he
  exact mem_recentFailures.mpr ⟨h e hmem hfailed, htype, hfailed, hrecent⟩

/-- A statement that reports nothing. -/
theorem Reported.keep (h : Reported settings s) (hstay : FailuresStay s s')
    (hreports : s'.reports = s.reports) : Reported settings s' := by
  refine ⟨?_, ?_, ?_, ?_, ?_⟩
  · intro r hr
    rw [hreports] at hr
    obtain ⟨e, hreceipt, hmem, hfailed, htype⟩ := h.stored r hr
    exact ⟨e, hreceipt, hstay e hmem hfailed, hfailed, htype⟩
  · rw [hreports]
    exact h.nodup
  · rw [hreports]
    exact h.tallied
  · intro r hr
    rw [hreports] at hr
    exact (h.counted r hr).trans (hstay.recentFailures_le _ _)
  · intro r hr
    rw [hreports] at hr
    exact h.alerted r hr

/-- **One count.**  It finds every failure that was reported before, and its own. -/
theorem Reported.count (h : Reported settings s) {receipt : ℕ} {error : PyError} {now : Instant}
    (hown : AlertOwn s d (.counting receipt error)) (hstore : s'.store = s.store)
    (hreports : s'.reports = s.reports ++ [d.report settings s.store now receipt error]) :
    Reported settings s' := by
  obtain ⟨e, hget, htype, hfailed, hnew⟩ := hown receipt rfl
  have hstored : ∀ r ∈ s'.reports, ∃ e, r.receipt = some e ∧ e ∈ s.store.db.events ∧
      e.status = .failed ∧ e.eventType = r.eventType := by
    intro r hr
    rw [hreports] at hr
    rcases List.mem_append.mp hr with hold | hlast
    · exact h.stored r hold
    · obtain rfl := List.mem_singleton.mp hlast
      exact ⟨e, hget, Table.mem_of_get hget, hfailed, htype⟩
  have hnodup : (s'.reports.map FailureReport.receipt).Nodup := by
    rw [hreports, List.map_append]
    refine List.nodup_append.mpr ⟨h.nodup, List.pairwise_singleton _ _, ?_⟩
    intro a ha b hb
    obtain rfl := List.mem_singleton.mp hb
    rintro rfl
    exact hnew (hget ▸ ha)
  refine ⟨?_, hnodup, ?_, ?_, ?_⟩
  · intro r hr
    rw [hstore]
    exact hstored r hr
  · rw [hreports]
    refine h.tallied.snoc ?_
    rw [← hreports, List.countP_eq_length_filter]
    -- the receipts it covers are distinct, and among those it has counted
    have hsubset : (s'.reports.filter
        (d.report settings s.store now receipt error).covers).map FailureReport.receipt ⊆
          (recentFailures d.eventType now s.store.db).map some := by
      intro a ha
      obtain ⟨r, hr, rfl⟩ := List.mem_map.mp ha
      obtain ⟨hmem, hcovers⟩ := List.mem_filter.mp hr
      obtain ⟨e', hreceipt, he', hfailed', htype'⟩ := hstored r hmem
      obtain ⟨hsame, hrecent⟩ := Bool.and_eq_true_iff.mp hcovers
      rw [hreceipt, Option.any_some] at hrecent
      rw [hreceipt]
      exact List.mem_map_of_mem (mem_recentFailures.mpr
        ⟨he', htype'.trans (of_decide_eq_true hsame), hfailed', of_decide_eq_true hrecent⟩)
    have hle := ((hnodup.sublist (List.filter_sublist.map _)).subperm hsubset).length_le
    rwa [List.length_map, List.length_map] at hle
  · intro r hr
    rw [hstore]
    rw [hreports] at hr
    rcases List.mem_append.mp hr with hold | hlast
    · exact h.counted r hold
    · obtain rfl := List.mem_singleton.mp hlast
      exact le_rfl
  · intro r hr
    rw [hreports] at hr
    rcases List.mem_append.mp hr with hold | hlast
    · exact h.alerted r hold
    · obtain rfl := List.mem_singleton.mp hlast
      exact ⟨error.text, rfl⟩

/-- Receipts that are not held stay as they are. -/
theorem AlertStep.get_of_not_held (h : AlertStep settings d s phase s' next) {i : ℕ}
    {e : KoraWebhookEvent} (hget : s.store.db.events.get i = some e)
    (hi : phase.held ≠ some i) : s'.store.db.events.get i = some e := by
  cases h with
  | handled hstep => exact hstep.get_of_not_held hget hi
  | @marked receipt error =>
      have hne : i ≠ receipt := fun hsame => hi (congrArg some hsame.symm)
      show (s.store.db.events.modify receipt (markFailed error) (markFailed_key error)).get i =
        some e
      rw [Table.get_modify_of_ne hne]
      exact hget
  | counted hstore _ _ => rw [hstore]; exact hget
  | told hstore _ _ => rw [hstore]; exact hget

/-- A delivery only reports the receipt it holds. -/
theorem AlertStep.reported (h : AlertStep settings d s phase s' next) {i : ℕ}
    {e : KoraWebhookEvent} (hget : s.store.db.events.get i = some e)
    (hmem : some e ∈ s'.reports.map FailureReport.receipt) :
    some e ∈ s.reports.map FailureReport.receipt ∨ phase.held = some i := by
  cases h with
  | handled _ => exact Or.inl hmem
  | marked => exact Or.inl hmem
  | told _ hreports _ => exact Or.inl (hreports ▸ hmem)
  | @counted receipt error now _ _ _ hreports _ =>
      rw [hreports, List.map_append] at hmem
      rcases List.mem_append.mp hmem with hold | hlast
      · exact Or.inl hold
      · have hreceipt : some e = s.store.db.events.get receipt := List.mem_singleton.mp hlast
        have hsame : i = receipt :=
          (Table.ident_of_get hget).symm.trans (Table.ident_of_get hreceipt.symm)
        exact Or.inr (congrArg some hsame.symm)

/-- A receipt that is held was before, or has just been stored. -/
theorem AlertStep.held_next {phase' : AlertPhase}
    (h : AlertStep settings d s phase s' (some phase')) {i : ℕ} (hi : phase'.held = some i) :
    phase.held = some i ∨ s.store.db.events.get i = none := by
  generalize hnext : some phase' = next at h
  cases h with
  | @handled phase store next hstep =>
      cases next with
      | none => cases hnext
      | some next =>
          obtain rfl := Option.some.inj hnext
          exact (hstep.held_next hi).imp And.left And.left
  | marked =>
      obtain rfl := Option.some.inj hnext
      exact Or.inl hi
  | counted _ _ hheld =>
      obtain rfl := Option.some.inj hnext
      rw [hheld] at hi
      cases hi
  | told _ _ hheld =>
      obtain rfl := Option.some.inj hnext
      rw [hheld] at hi
      cases hi

/-- Only receipts that have not failed are rewritten. -/
theorem AlertStep.failuresStay (h : AlertStep settings d s phase s' next)
    (hown : AlertOwn s d phase) : FailuresStay s s' := by
  intro e he hfailed
  have hget : s.store.db.events.get (ident e) = some e := Table.get_ident he
  by_cases hheld : phase.held = some (ident e)
  · obtain ⟨e', hget', -, hstatus, -⟩ := hown _ hheld
    obtain rfl : e = e' := Option.some.inj (hget.symm.trans hget')
    cases h with
    | handled _ =>
        rw [hfailed] at hstatus
        cases hstatus
    | marked =>
        rw [hfailed] at hstatus
        cases hstatus
    | counted hstore _ _ => rw [hstore]; exact he
    | told hstore _ _ => rw [hstore]; exact he
  · exact Table.mem_of_get (h.get_of_not_held hget hheld)

/-- A statement that does not count. -/
theorem AlertStep.reported_keep (h : AlertStep settings d s phase s' next)
    (hreported : Reported settings s) (hown : AlertOwn s d phase) : Reported settings s' := by
  have hstay := h.failuresStay hown
  cases h with
  | handled _ => exact hreported.keep hstay rfl
  | marked => exact hreported.keep hstay rfl
  | told _ hreports _ => exact hreported.keep hstay hreports
  | counted hstore hreports _ => exact hreported.count hown hstore hreports

/-- What a delivery holds after a statement is its own. -/
theorem AlertStep.own {phase' : AlertPhase}
    (h : AlertStep settings d s phase s' (some phase')) (hreported : Reported settings s)
    (hown : AlertOwn s d phase) : AlertOwn s' d phase' := by
  -- a receipt that has not failed, or was not stored, is not reported
  have hfresh : ∀ {e : KoraWebhookEvent},
      (s.store.db.events.get (ident e) = some e → e.status ≠ .failed) →
        some e ∉ s.reports.map FailureReport.receipt := by
    intro e he hmem
    obtain ⟨r, hr, hreceipt⟩ := List.mem_map.mp hmem
    obtain ⟨e', hsame, hmem', hfailed, -⟩ := hreported.stored r hr
    obtain rfl : e = e' := Option.some.inj (hreceipt.symm.trans hsame)
    exact he (Table.get_ident hmem') hfailed
  generalize hnext : some phase' = next at h
  cases h with
  | @handled phase store next hstep =>
      cases next with
      | none => cases hnext
      | some next =>
          obtain rfl := Option.some.inj hnext
          intro i hi
          rcases hstep.held_next hi with ⟨hheld, hevents⟩ | ⟨hnone, now, hget⟩
          · obtain ⟨e, hget, htype, hstatus, hnew⟩ := hown i hheld
            exact ⟨e, (congrArg (fun t => t.get i) hevents).trans hget, htype, hstatus, hnew⟩
          · refine ⟨d.receipt now i, hget, rfl, rfl, hfresh fun hold => ?_⟩
            have hid : ident (d.receipt now i) = i := rfl
            rw [hid, hnone] at hold
            cases hold
  | @marked receipt error =>
      obtain rfl := Option.some.inj hnext
      intro i hi
      obtain rfl := Option.some.inj hi
      obtain ⟨e, hget, htype, hstatus, hnew⟩ := hown receipt rfl
      have hmarked : (s.store.db.events.modify receipt (markFailed error)
          (markFailed_key error)).get receipt = some (markFailed error e) :=
        Table.get_modify_self hget
      refine ⟨markFailed error e, hmarked, htype, rfl, hfresh fun hold => ?_⟩
      have hid : ident e = receipt := Table.ident_of_get hget
      rw [show ident (markFailed error e) = receipt from hid, hget] at hold
      rw [← Option.some.inj hold, hstatus]
      intro hfailed
      cases hfailed
  | counted _ _ hheld =>
      obtain rfl := Option.some.inj hnext
      intro i hi
      rw [hheld] at hi
      cases hi
  | told _ _ hheld =>
      obtain rfl := Option.some.inj hnext
      intro i hi
      rw [hheld] at hi
      cases hi

end Invariant

/-! ## Every run

The outline has no guard: it holds whatever fails. -/

/-- The receipt a session holds. -/
def heldReceipt : AlertSession ⊕ Unit → Option ℕ
  | .inl t => t.phase.held
  | .inr _ => none

/-- What a session holds is its own. -/
def SessionOwn (s : AlertStore) : AlertSession ⊕ Unit → Prop
  | .inl t => AlertOwn s t.delivery t.phase
  | .inr _ => True

/-- No receipt is held twice. -/
def HeldApart (t u : AlertSession ⊕ Unit) : Prop :=
  ∀ i, heldReceipt t = some i → heldReceipt u ≠ some i

/-- In either order. -/
theorem HeldApart.symm {t u : AlertSession ⊕ Unit} (h : HeldApart t u) : HeldApart u t :=
  fun i hu ht => h i ht hu

/-- What one step of a session is to the others. -/
structure LeavesOthers (s s' : AlertStore) (t : AlertSession ⊕ Unit)
    (o : Option (AlertSession ⊕ Unit)) : Prop where
  get : ∀ i e, s.store.db.events.get i = some e → heldReceipt t ≠ some i →
    s'.store.db.events.get i = some e
  reported : ∀ i e, s.store.db.events.get i = some e →
    some e ∈ s'.reports.map FailureReport.receipt →
      some e ∈ s.reports.map FailureReport.receipt ∨ heldReceipt t = some i
  held : ∀ t' i, o = some t' → heldReceipt t' = some i →
    heldReceipt t = some i ∨ s.store.db.events.get i = none

section Step

variable {settings : AlertSettings} {host : SupportHost} {s s' : AlertStore}
  {t u : AlertSession ⊕ Unit} {x : AlertTick ⊕ Db} {o : Option (AlertSession ⊕ Unit)}

/-- A step of any session, against the store and against its own session. -/
theorem alertingDeliveries_step (hadv : (alertingDeliveries settings host).advance s t x =
      some (s', o)) (hreported : Reported settings s) (hown : SessionOwn s t) :
    Reported settings s' ∧ LeavesOthers s s' t o ∧ ∀ t', o = some t' → SessionOwn s' t' := by
  cases t with
  | inl t =>
      obtain ⟨tick, s₁, o₁, -, ht, hr⟩ := Sessions.sum_advance_inl hadv
      obtain ⟨rfl, rfl⟩ := Prod.mk.inj hr
      obtain ⟨hs, rfl⟩ := Prod.mk.inj (Option.some.inj ht)
      have hstep := t.delivery.alertStep_spec settings host s tick t.phase
      rw [hs] at hstep
      generalize (t.delivery.alertStep settings host s tick t.phase).2 = next at hstep
      -- first the counted failures, then the receipts of the others, then its own
      refine ⟨hstep.reported_keep hreported hown,
        ⟨fun i e => hstep.get_of_not_held, fun i e => hstep.reported, ?_⟩, ?_⟩
      · intro t' i ht' hi
        cases next with
        | none => cases ht'
        | some phase =>
            cases ht'
            exact hstep.held_next hi
      · intro t' ht'
        cases next with
        | none => cases ht'
        | some phase =>
            cases ht'
            exact hstep.own hreported hown
  | inr u =>
      obtain ⟨db, s₁, o₁, -, hu, hr⟩ := Sessions.sum_advance_inr hadv
      obtain ⟨rfl, rfl⟩ := Prod.mk.inj hr
      obtain ⟨store, hother, rfl⟩ := Sessions.lift_advance hu
      obtain ⟨-, hevents, -⟩ := otherBusiness_lasts hother
      refine ⟨hreported.keep (fun e he _ => ?_) rfl, ⟨fun i e hget _ => ?_, ?_, ?_⟩, ?_⟩
      · show e ∈ store.db.events
        rw [hevents]
        exact he
      · show store.db.events.get i = some e
        rw [hevents]
        exact hget
      · exact fun i e _ hmem => Or.inl hmem
      · intro t' i ht' hi
        obtain ⟨v, -, rfl⟩ := Option.map_eq_some_iff.mp ht'
        cases hi
      · intro t' ht'
        obtain ⟨v, -, rfl⟩ := Option.map_eq_some_iff.mp ht'
        trivial

/-- What another session holds stays its own. -/
theorem SessionOwn.of_leavesOthers (hu : SessionOwn s u) (h : LeavesOthers s s' t o)
    (hapart : HeldApart t u) : SessionOwn s' u := by
  cases u with
  | inl u =>
      intro i hi
      obtain ⟨e, hget, htype, hstatus, hnew⟩ := hu i hi
      have hfree : heldReceipt t ≠ some i := fun ht => hapart i ht hi
      refine ⟨e, h.get i e hget hfree, htype, hstatus, fun hmem => ?_⟩
      exact (h.reported i e hget hmem).elim hnew hfree
  | inr u => trivial

/-- A step of one session leaves what the others hold. -/
theorem HeldApart.of_leavesOthers {t' : AlertSession ⊕ Unit} (hapart : HeldApart t u)
    (hu : SessionOwn s u) (h : LeavesOthers s s' t (some t')) : HeldApart t' u := by
  intro i ht' hheld
  rcases h.held t' i rfl ht' with ht | hnone
  · exact hapart i ht hheld
  · cases u with
    | inl u =>
        obtain ⟨e, hget, -⟩ := hu i hheld
        rw [hnone] at hget
        cases hget
    | inr u => cases hheld

end Step

/-- The outline of the deliveries that alert. -/
theorem alertingOutline (settings : AlertSettings) (host : SupportHost) :
    Outline (alertingDeliveries settings host) Unguarded (Reported settings) SessionOwn
      HeldApart where
  opened s request _ := by
    cases request with
    | inl d =>
        intro i hi
        cases hi
    | inr u => trivial
  openedCompat request t := by
    have hapart : HeldApart ((alertingDeliveries settings host).init request) t := by
      intro i hi
      cases request <;> cases hi
    exact ⟨hapart, hapart.symm⟩
  global p i t x s' o h ht hadv _ := (alertingDeliveries_step hadv h.global (h.each i t ht)).1
  own p i t x s' t' h ht hadv _ :=
    (alertingDeliveries_step hadv h.global (h.each i t ht)).2.2 t' rfl
  others p i t x s' o j u h ht hadv _ hne hu :=
    (h.each j u hu).of_leavesOthers (alertingDeliveries_step hadv h.global (h.each i t ht)).2.1
      (h.pairs i j t u hne.symm ht hu)
  compat p i t x s' t' j u h ht hadv _ hne hu := by
    have hapart : HeldApart t' u := (h.pairs i j t u hne.symm ht hu).of_leavesOthers
      (h.each j u hu) (alertingDeliveries_step hadv h.global (h.each i t ht)).2.1
    exact ⟨hapart, hapart.symm⟩

section Runs

variable {settings : AlertSettings} {host : SupportHost} {db : Db}
  {p : Pool AlertStore (AlertSession ⊕ Unit)}
  {as : List (PoolAct (Delivery ⊕ Unit) (AlertTick ⊕ Db))}

/-- There is no report yet. -/
theorem Reported.start (settings : AlertSettings) (db : Db) :
    Reported settings (AlertStore.start db) where
  stored _ hr := absurd hr List.not_mem_nil
  nodup := List.Pairwise.nil
  tallied := Tallied.nil
  counted _ hr := absurd hr List.not_mem_nil
  alerted _ hr := absurd hr List.not_mem_nil

/-- Every run keeps the reports in order. -/
theorem reported_of_run (run : Run (alertingDeliveries settings host).machine Unguarded
    (Pool.quiet (AlertStore.start db)) as p) : Reported settings p.store :=
  ((alertingOutline settings host).run run (Pool.Meets.quiet (Reported.start settings db))).global

/-- A failure of the type that was received at `since` or later, and counted no more than five
minutes after that. -/
def FailureReport.within (eventType : String) (since : Instant) (r : FailureReport) : Bool :=
  decide (r.eventType = eventType) && decide (r.countedAt ≤ since + minutes 5) &&
    r.receipt.any fun e => decide (since ≤ e.receivedAt)

/-- Of two failures within five minutes each covers the other. -/
theorem FailureReport.covers_of_within {eventType : String} {since : Instant}
    {r r' : FailureReport} (h : r.within eventType since = true)
    (h' : r'.within eventType since = true) : r.covers r' = true := by
  simp only [FailureReport.within, Bool.and_eq_true, decide_eq_true_eq] at h h'
  obtain ⟨⟨htype, hcounted⟩, -⟩ := h
  obtain ⟨⟨htype', -⟩, hreceived⟩ := h'
  simp only [FailureReport.covers, Bool.and_eq_true, decide_eq_true_eq]
  refine ⟨htype'.trans htype.symm, ?_⟩
  cases hreceipt : r'.receipt with
  | none => rw [hreceipt] at hreceived; cases hreceived
  | some e =>
      rw [hreceipt, Option.any_some, decide_eq_true_eq] at hreceived
      rw [Option.any_some, decide_eq_true_eq]
      exact (sub_le_iff_le_add.mpr hcounted).trans hreceived

/-- A confirmation of a payout that is not there. -/
def strayPayout (eventId : String) : Delivery where
  body :=
    [("id", .str eventId), ("event", .str "transfer.success"),
      ("data", .obj [("reference", .str "KPO-9"), ("status", .str "success")])]
  data := [("reference", .str "KPO-9"), ("status", .str "success")]
  payloadHash := "hash"
  signed := rfl

/-- The settings as they are by default. -/
def defaultAlerts : AlertSettings := ⟨none, 3, by decide, by decide⟩

/-- A support engine without a language model. -/
def plainSupport : SupportHost where
  sha256 := id
  loads := fun _ => .error .value
  dumps := fun _ => ""
  baseUrl := ""
  apiKey := ""
  model := ""

/-- The delivery `i` fails and counts, a minute after the one before. -/
def strayed (i : ℕ) (eventId : String) :
    List (PoolAct (Delivery ⊕ Unit) (AlertTick ⊕ Db)) :=
  .begin i (.inl (strayPayout eventId)) ::
    List.replicate 6 (.advance i (.inl ⟨⟨minutes i, false⟩, .ok (), .raised .http⟩))

/-- The third of three failures is alerted. -/
theorem strayed_run : ∃ p, Run (alertingDeliveries defaultAlerts plainSupport).machine Unguarded
    (Pool.quiet (AlertStore.start Db.empty))
    (strayed 0 "evt-1" ++ strayed 1 "evt-2" ++ strayed 2 "evt-3") p ∧
      p.store.reports.map (fun r => (r.failures, r.alert.isSome)) =
        [(1, false), (2, false), (3, true)] ∧
      (p.store.reports.filter fun r => r.within "transfer.success" 0).length = 3 := by
  have hcheck : ((alertingDeliveries defaultAlerts plainSupport).machine.check (fun _ _ => true)
      (Pool.quiet (AlertStore.start Db.empty))
      (strayed 0 "evt-1" ++ strayed 1 "evt-2" ++ strayed 2 "evt-3")).map
        (fun p => (p.store.reports.map (fun r => (r.failures, r.alert.isSome)),
          (p.store.reports.filter fun r => r.within "transfer.success" 0).length)) =
      some ([(1, false), (2, false), (3, true)], 3) := by
    decide +kernel
  obtain ⟨p, hp, hreached⟩ := Option.map_eq_some_iff.mp hcheck
  obtain ⟨hreports, hwithin⟩ := Prod.mk.inj hreached
  exact ⟨p, (Run.of_check hp).unguarded, hreports, hwithin⟩

/-- **No burst goes unnoticed.**  In every run, of the failures of one type that were received
and counted within five minutes, fewer than the threshold go without an alert. -/
theorem unalerted_lt_threshold (run : Run (alertingDeliveries settings host).machine Unguarded
      (Pool.quiet (AlertStore.start db)) as p) (eventType : String) (since : Instant) :
    (p.store.reports.filter fun r => r.within eventType since && r.alert.isNone).length <
      settings.koraWebhookAlertThreshold := by
  have hreported := reported_of_run run
  rw [← List.countP_eq_length_filter]
  refine hreported.tallied.countP_lt settings.threshold_ge ?_ ?_
  · intro r hr hq
    obtain ⟨error, halert⟩ := hreported.alerted r hr
    have hnone : r.alert = none := Option.isNone_iff_eq_none.mp (Bool.and_eq_true_iff.mp hq).2
    exact notifyKoraFailure_eq_none_iff.mp (halert.symm.trans hnone)
  · intro r _ r' _ hq hq'
    exact FailureReport.covers_of_within (Bool.and_eq_true_iff.mp hq).1
      (Bool.and_eq_true_iff.mp hq').1

/-- The statement on the three failures. -/
theorem unalerted_lt_threshold_strayed : ∃ p,
    Run (alertingDeliveries defaultAlerts plainSupport).machine Unguarded
      (Pool.quiet (AlertStore.start Db.empty))
      (strayed 0 "evt-1" ++ strayed 1 "evt-2" ++ strayed 2 "evt-3") p ∧
    (p.store.reports.filter fun r => r.within "transfer.success" 0).length = 3 ∧
    (p.store.reports.filter fun r =>
      r.within "transfer.success" 0 && r.alert.isNone).length < 3 := by
  obtain ⟨p, run, -, hwithin⟩ := strayed_run
  exact ⟨p, run, hwithin, unalerted_lt_threshold run "transfer.success" 0⟩

/-- **No alert is false.**  In every run, an alert says no more failures than there are failed
receipts of its type, from the five minutes before it was counted, in the store; and these are
as many as the threshold. -/
theorem alert_backed (run : Run (alertingDeliveries settings host).machine Unguarded
      (Pool.quiet (AlertStore.start db)) as p) {r : FailureReport} (hr : r ∈ p.store.reports)
    {alert : Alert} (halert : r.alert = some alert) :
    settings.koraWebhookAlertThreshold ≤ alert.failureCount ∧
      alert.failureCount ≤
        (recentFailures alert.eventType r.countedAt p.store.store.db).length := by
  have hreported := reported_of_run run
  obtain ⟨error, hnotified⟩ := hreported.alerted r hr
  obtain ⟨hthreshold, htype, hcount⟩ :=
    notifyKoraFailure_eq_some (hnotified.symm.trans halert)
  rw [htype, hcount]
  exact ⟨hthreshold, hreported.counted r hr⟩

/-- Three failures of one type within the window raise an alert that says three. -/
theorem alert_backed_strayed : ∃ p r alert,
    Run (alertingDeliveries defaultAlerts plainSupport).machine Unguarded
      (Pool.quiet (AlertStore.start Db.empty))
      (strayed 0 "evt-1" ++ strayed 1 "evt-2" ++ strayed 2 "evt-3") p ∧
    r ∈ p.store.reports ∧ r.alert = some alert ∧ 3 ≤ alert.failureCount ∧
      alert.failureCount ≤
        (recentFailures alert.eventType r.countedAt p.store.store.db).length := by
  obtain ⟨p, run, hreports, -⟩ := strayed_run
  have hmem : (3, true) ∈ p.store.reports.map fun r => (r.failures, r.alert.isSome) := by
    rw [hreports]
    decide
  obtain ⟨r, hr, hmap⟩ := List.mem_map.mp hmem
  obtain ⟨alert, halert⟩ := Option.isSome_iff_exists.mp (Prod.mk.inj hmap).2
  exact ⟨p, r, alert, run, hr, halert, alert_backed run hr halert⟩

end Runs

end AfricaFrontier
