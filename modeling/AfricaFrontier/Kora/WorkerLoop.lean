import AfricaFrontier.Lib.Run
import AfricaFrontier.Support.SupportAi

/-!
# The loop around the reconciliation worker (`payment_hub/reconciliation.py`)

`reconciliation_worker` calls `reconcile_due_once` until its stop event is set.  It sleeps
while there is nothing to do; an exception it has analysed, and enriched by the language
model, and logged.  The analysis and the enrichment are part of the handler of that
exception, so what they raise themselves ends the loop.

`worker_survives` says under which exceptions and which answers of the language model the
loop goes on until it is stopped or cancelled.

An iteration ends: the events that can come before the next one are counted down
(`LoopPhase.left`), so that a loop which goes on reaches its next iteration, and does not only not
end. The equivalence over runs is the exactness of the condition at one event
(`WorkerLoop.step_survives`), taken along a run whose states all survive.
-/

namespace AfricaFrontier

open Python Transition

/-- `str(exc)`.  A text whose first 160 characters hold half of a surrogate pair has no
encoding; anywhere else such a half stands for itself as any other character would. -/
inductive ErrorText
  | text (s : String)
  | unencodable

/-- How `reconcile_due_once` ends, unless the task is cancelled. -/
inductive ReconcileOutcome
  | processed
  | idle
  /-- An `asyncio.TimeoutError`. -/
  | timedOut
  /-- Any other `Exception`. -/
  | raised (error : ErrorText)

/-- Why the loop ended. -/
inductive LoopEnd
  | stopped
  | cancelled
  | raised (e : PyException)
  deriving DecidableEq

/-- Where the loop stands. -/
inductive LoopPhase
  | checking
  | reconciling
  /-- In `wait_for` on the stop event. -/
  | waiting
  | enriching (decision : SupportDecision)
  | sleeping
  | ended (reason : LoopEnd)

/-- The loop and its stop event. -/
structure WorkerLoop where
  phase : LoopPhase
  stop : Bool

/-- The start of the task. -/
def WorkerLoop.start : WorkerLoop := ⟨.checking, false⟩

/-- What happens next. -/
inductive LoopEvent
  /-- Somebody sets the stop event. -/
  | stop
  /-- The task is cancelled at an `await`. -/
  | cancel
  /-- The loop looks at the stop event. -/
  | check
  | reconciled (outcome : ReconcileOutcome)
  /-- The wait is over: the event is set, or a quarter of a minute has passed. -/
  | waited
  /-- The language model answers, if it is asked. -/
  | enriched (post : LlmRequest → LlmOutcome)
  | slept

/-- The context the worker's incidents are analysed in. -/
def workerContext : Mapping :=
  [("component", .str "reconciliation_worker"), ("provider", .str "kora")]

/-- Where `reconcile_due_once` leaves the loop. -/
def ReconcileOutcome.next (host : SupportHost) : ReconcileOutcome → LoopPhase
  | .processed => .checking
  | .idle => .waiting
  | .timedOut => .checking
  | .raised (.text error) => .enriching (analyzeIncident host error workerContext)
  -- the incident key cannot be encoded
  | .raised .unencodable => .ended (.raised .value)

/-- Where `enrich_with_external_llm` leaves the loop. -/
def afterEnrichment : Except PyException SupportDecision → LoopPhase
  | .ok _ => .sleeping
  | .error e => .ended (.raised e)

/-- The loop waits for something that can be cancelled. -/
def LoopPhase.busy : LoopPhase → Bool
  | .checking | .ended _ => false
  | _ => true

/-- The step of the loop. A loop that has ended takes none, and a cancellation is delivered at an
`await` only. -/
def WorkerLoop.step (host : SupportHost) (l : WorkerLoop) (event : LoopEvent) :
    Option WorkerLoop :=
  match event, l.phase with
  | .stop, _ => some { l with stop := true }
  | .cancel, phase => if phase.busy then some { l with phase := .ended .cancelled } else none
  | .check, .checking => some { l with phase := if l.stop then .ended .stopped else .reconciling }
  | .reconciled outcome, .reconciling => some { l with phase := outcome.next host }
  | .waited, .waiting => some { l with phase := .checking }
  | .enriched post, .enriching decision =>
      some { l with phase := afterEnrichment (enrichWithExternalLlm host post decision) }
  | .slept, .sleeping => some { l with phase := .checking }
  | _, _ => none

/-- `reconciliation_worker`. -/
def reconciliationLoop (host : SupportHost) : Machine WorkerLoop LoopEvent where
  step := WorkerLoop.step host

/-! ## Survival

An end by the stop event or by a cancellation is what the loop is meant for. -/

/-- How many events an iteration has before it at most. -/
def LoopPhase.left : LoopPhase → ℕ
  | .checking | .ended _ => 0
  | .sleeping | .waiting => 1
  | .enriching _ => 2
  | .reconciling => 3

/-- The loop takes a further step, and each step of an iteration brings it nearer to the
next one. -/
def WorkerLoop.GoesOn (host : SupportHost) (l : WorkerLoop) : Prop :=
  (∃ event l', event ≠ .stop ∧ l.step host event = some l') ∧
    ∀ event l', event ≠ .stop → l.step host event = some l' → l.phase.busy = true →
      l'.phase.left < l.phase.left

/-- The loop goes on, or it was stopped or cancelled. To go on means more than not to have ended:
the next iteration is in reach. -/
def WorkerLoop.Survives (host : SupportHost) (l : WorkerLoop) : Prop :=
  match l.phase with
  | .ended (.raised _) => False
  | .ended .stopped => l.stop = true
  | .ended .cancelled => True
  | _ => l.GoesOn host

/-- Its condition: the text of an exception has an encoding, and an answer of the language
model, if it is asked, is none that `enrich_with_external_llm` does not survive. -/
def handledEvent (host : SupportHost) (l : WorkerLoop) : LoopEvent → Prop
  | .reconciled (.raised .unencodable) => False
  | .enriched post =>
      ∀ decision, l.phase = .enriching decision → host.configured = true →
        ¬ (post (llmRequest host decision)).Fatal host
  | _ => True

/-- The steps, with what each presupposes. -/
inductive WorkerLoop.Next (host : SupportHost) (l : WorkerLoop) : LoopEvent → WorkerLoop → Prop
  | stop : Next host l .stop { l with stop := true }
  | cancel (h : l.phase.busy = true) : Next host l .cancel { l with phase := .ended .cancelled }
  | check (h : l.phase = .checking) :
      Next host l .check { l with phase := if l.stop then .ended .stopped else .reconciling }
  | reconciled (outcome : ReconcileOutcome) (h : l.phase = .reconciling) :
      Next host l (.reconciled outcome) { l with phase := outcome.next host }
  | waited (h : l.phase = .waiting) : Next host l .waited { l with phase := .checking }
  | enriched (post : LlmRequest → LlmOutcome) (decision : SupportDecision)
      (h : l.phase = .enriching decision) :
      Next host l (.enriched post)
        { l with phase := afterEnrichment (enrichWithExternalLlm host post decision) }
  | slept (h : l.phase = .sleeping) : Next host l .slept { l with phase := .checking }

section Survival

variable {host : SupportHost} {l l' : WorkerLoop} {event : LoopEvent}

/-- A step presupposes what its case says. -/
theorem WorkerLoop.next_of_step (hstep : l.step host event = some l') :
    l.Next host event l' := by
  unfold WorkerLoop.step at hstep
  split at hstep
  · obtain rfl := Option.some.inj hstep
    exact .stop
  · split at hstep
    · rename_i hbusy
      obtain rfl := Option.some.inj hstep
      exact .cancel hbusy
    · cases hstep
  · rename_i hphase
    obtain rfl := Option.some.inj hstep
    exact .check hphase
  · rename_i hphase
    obtain rfl := Option.some.inj hstep
    exact .reconciled _ hphase
  · rename_i hphase
    obtain rfl := Option.some.inj hstep
    exact .waited hphase
  · rename_i hphase
    obtain rfl := Option.some.inj hstep
    exact .enriched _ _ hphase
  · rename_i hphase
    obtain rfl := Option.some.inj hstep
    exact .slept hphase
  · cases hstep

/-- Every step of an iteration brings its end nearer. -/
theorem WorkerLoop.left_step (hstop : event ≠ .stop) (hstep : l.step host event = some l')
    (hbusy : l.phase.busy = true) : l'.phase.left < l.phase.left := by
  cases next_of_step hstep with
  | stop => exact absurd rfl hstop
  | cancel _ =>
      show 0 < l.phase.left
      cases hphase : l.phase <;> simp_all [LoopPhase.busy, LoopPhase.left]
  | check h => simp [h, LoopPhase.busy] at hbusy
  | reconciled outcome h =>
      rw [h]
      show (outcome.next host).left < 3
      cases outcome with
      | raised error => cases error <;> simp [ReconcileOutcome.next, LoopPhase.left]
      | _ => simp [ReconcileOutcome.next, LoopPhase.left]
  | waited h => simp [h, LoopPhase.left]
  | enriched post decision h =>
      rw [h]
      show (afterEnrichment (enrichWithExternalLlm host post decision)).left < 2
      cases enrichWithExternalLlm host post decision <;> simp [afterEnrichment, LoopPhase.left]
  | slept h => simp [h, LoopPhase.left]

/-- A loop that has not ended goes on. -/
theorem WorkerLoop.goesOn (h : ∀ reason, l.phase ≠ .ended reason) : l.GoesOn host := by
  refine ⟨?_, fun event l' hstop hstep hbusy => left_step hstop hstep hbusy⟩
  obtain ⟨phase, stop⟩ := l
  cases phase with
  | checking => exact ⟨.check, _, LoopEvent.noConfusion, rfl⟩
  | ended reason => exact absurd rfl (h reason)
  | _ => exact ⟨.cancel, _, LoopEvent.noConfusion, rfl⟩

/-- Only an end by an exception, or one without a stop, is not survived. -/
theorem WorkerLoop.survives_iff : l.Survives host ↔
    (∀ e, l.phase ≠ .ended (.raised e)) ∧ (l.phase = .ended .stopped → l.stop = true) := by
  unfold WorkerLoop.Survives
  split
  · rename_i e hphase
    simp [hphase]
  · rename_i hphase
    simp [hphase]
  · rename_i hphase
    simp [hphase]
  · rename_i hraised hstopped hcancelled
    refine iff_of_true (goesOn ?_) ⟨hraised, fun h => absurd h hstopped⟩
    intro reason
    cases reason with
    | raised e => exact hraised e
    | stopped => exact hstopped
    | cancelled => exact hcancelled

/-- A step of a surviving loop is survived exactly under the condition. -/
theorem WorkerLoop.step_survives (hstep : l.step host event = some l') (h : l.Survives host) :
    handledEvent host l event ↔ l'.Survives host := by
  rw [survives_iff] at h ⊢
  cases next_of_step hstep with
  | stop => exact iff_of_true trivial ⟨h.1, fun _ => rfl⟩
  | cancel _ => simp [handledEvent]
  | check hphase =>
      refine iff_of_true trivial ?_
      cases l.stop <;> simp
  | reconciled outcome hphase =>
      cases outcome with
      | raised error => cases error <;> simp [handledEvent, ReconcileOutcome.next]
      | _ => simp [handledEvent, ReconcileOutcome.next]
  | waited hphase => simp [handledEvent]
  | enriched post decision hphase =>
      have hreturns : (∃ enriched, enrichWithExternalLlm host post decision = .ok enriched) ↔
          (host.configured = true → ¬ (post (llmRequest host decision)).Fatal host) :=
        enrich_returns_iff
      have hhandled : handledEvent host l (.enriched post) ↔
          (host.configured = true → ¬ (post (llmRequest host decision)).Fatal host) := by
        simp [handledEvent, hphase]
      rw [hhandled, ← hreturns]
      cases enrichWithExternalLlm host post decision <;> simp [afterEnrichment]
  | slept hphase => simp [handledEvent]

/-- Before the first iteration. -/
theorem WorkerLoop.survives_start : WorkerLoop.start.Survives host :=
  survives_iff.mpr ⟨by simp [WorkerLoop.start], by simp [WorkerLoop.start]⟩

/-- **The worker survives its dependencies.**  Every event of a run meets the condition if
and only if in every state the run reaches the loop goes on, or was stopped or cancelled;
and the enrichment of a decision returns it, changed in its note at most, if and only if the
language model is not set up or does not answer in a way that it does not survive. -/
theorem worker_survives {host : SupportHost} {events : List LoopEvent} {l : WorkerLoop}
    (run : Run (reconciliationLoop host) Unguarded .start events l) :
    (Run (reconciliationLoop host) (handledEvent host) .start events l ↔
      ∀ front back mid, events = front ++ back →
        Run (reconciliationLoop host) Unguarded .start front mid → mid.Survives host) ∧
    ∀ (post : LlmRequest → LlmOutcome) (decision : SupportDecision),
      (∃ note, enrichWithExternalLlm host post decision =
        .ok { decision with llmNote := note }) ↔
      (host.configured = true → ¬ (post (llmRequest host decision)).Fatal host) := by
  refine ⟨?_, fun post decision => ?_⟩
  · exact run.guarded_iff (fun l event l' hstep h => WorkerLoop.step_survives hstep h)
      WorkerLoop.survives_start
  · rw [← enrich_returns_iff]
    constructor
    · rintro ⟨note, hnote⟩
      exact ⟨_, hnote⟩
    · rintro ⟨enriched, henriched⟩
      exact ⟨enriched.llmNote, (enrich_note_only henriched) ▸ henriched⟩

end Survival

/-! ## A reply without choices -/

/-- A note, as the language model writes it. -/
def sampleContent : String :=
  "\x7b\"note\": \"Retry later\", \"confidence\": 0.9\x7d"

/-- A host with a language model, on the texts of the runs below. -/
def sampleHost : SupportHost where
  sha256 _ := "325347517305b94e958010320926010b129863100c0c1e3bed90d5504670f8aa"
  loads text :=
    if text = sampleContent then
      .ok (.obj [("note", .str "Retry later"), ("confidence", .float (.finite false 9 (-1)))])
    else .error .value
  dumps _ :=
    "\x7b\"incident\":\"unknown\",\"severity\":\"high\",\"deterministic_diagnosis\":\"Unclassified incident; preserve financial state and request human review.\",\"context\":\x7b\"component\":\"reconciliation_worker\",\"provider\":\"kora\"\x7d,\"instruction\":\"Return JSON with only a concise note and confidence 0..1. Never propose an action, secret, SQL, PIN, OTP, payout, refund, or code mutation.\"\x7d"
  baseUrl := "https://llm.test/v1"
  apiKey := "test-key"
  model := "test-model"

/-- A reply with a note. -/
def sampleReply : Json :=
  .obj [("choices", .arr [.obj [("message", .obj [("content", .str sampleContent)])]])]

/-- A reply with an empty list of choices. -/
def emptyReply : Json := .obj [("choices", .arr [])]

/-- The database fails, and the language model answers. -/
def failedIteration (reply : Json) : List LoopEvent :=
  [.check, .reconciled (.raised (.text "connection lost")),
    .enriched fun _ => .answered 200 (.ok reply)]

/-- The loop sleeps, begins its next iteration, and is stopped after it. -/
def nextIteration : List LoopEvent := [.slept, .check, .reconciled .processed, .stop, .check]

/-- The test of the condition, for runs that are computed. -/
def handledTest (host : SupportHost) (l : WorkerLoop) : LoopEvent → Bool
  | .reconciled (.raised .unencodable) => false
  | .enriched post =>
      match l.phase with
      | .enriching decision => (enrichWithExternalLlm host post decision).toOption.isSome
      | _ => true
  | _ => true

/-- The test is of the condition. -/
theorem handledTest_spec {host : SupportHost} {l : WorkerLoop} {event : LoopEvent}
    (h : handledTest host l event = true) : handledEvent host l event := by
  cases event with
  | reconciled outcome =>
      cases outcome with
      | raised error => cases error <;> trivial
      | _ => trivial
  | enriched post =>
      intro decision hphase
      simp only [handledTest, hphase] at h
      refine enrich_returns_iff.mp ?_
      cases hresult : enrichWithExternalLlm host post decision with
      | error e => simp [hresult, Except.toOption] at h
      | ok enriched => exact ⟨enriched, rfl⟩
  | _ => trivial

/-- Why a loop ended, if it has. -/
def LoopPhase.reason : LoopPhase → Option LoopEnd
  | .ended reason => some reason
  | _ => none

/-- A loop with a reason has ended for it. -/
theorem LoopPhase.eq_ended {phase : LoopPhase} {reason : LoopEnd}
    (h : phase.reason = some reason) : phase = .ended reason := by
  cases phase <;> simp_all [LoopPhase.reason]

/-- With a note in the reply the loop goes on until it is stopped. -/
theorem worker_survives_reply : ∃ l,
    Run (reconciliationLoop sampleHost) Unguarded .start
        (failedIteration sampleReply ++ nextIteration) l ∧
      l.phase = .ended .stopped ∧ l.Survives sampleHost := by
  have hcheck : ((reconciliationLoop sampleHost).check (handledTest sampleHost) .start
      (failedIteration sampleReply ++ nextIteration)).map (fun l => l.phase.reason) =
        some (some .stopped) := by
    decide +kernel
  obtain ⟨l, hl, hreason⟩ := Option.map_eq_some_iff.mp hcheck
  have guarded := (Run.of_check hl).mono fun _ _ h => handledTest_spec h
  refine ⟨l, guarded.unguarded, LoopPhase.eq_ended hreason, ?_⟩
  exact (worker_survives guarded.unguarded).1.mp guarded _ [] l (List.append_nil _).symm
    guarded.unguarded

/-- A reply without choices ends the loop, which was neither stopped nor cancelled. -/
theorem worker_ended_by_reply : ∃ l,
    Run (reconciliationLoop sampleHost) Unguarded .start (failedIteration emptyReply) l ∧
      l.phase = .ended (.raised .index) ∧ l.stop = false ∧ ¬ l.Survives sampleHost := by
  have hcheck : ((reconciliationLoop sampleHost).check (fun _ _ => true) .start
      (failedIteration emptyReply)).map (fun l => (l.phase.reason, l.stop)) =
        some (some (.raised .index), false) := by
    decide +kernel
  obtain ⟨l, hl, hend⟩ := Option.map_eq_some_iff.mp hcheck
  obtain ⟨hreason, hstop⟩ := Prod.mk.inj hend
  have hphase := LoopPhase.eq_ended hreason
  refine ⟨l, (Run.of_check hl).unguarded, hphase, hstop, fun hsurvives => ?_⟩
  exact (WorkerLoop.survives_iff.mp hsurvives).1 .index hphase

end AfricaFrontier
