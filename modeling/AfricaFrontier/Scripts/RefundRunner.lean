import AfricaFrontier.Payments.Session
import AfricaFrontier.Scripts.Sandbox

/-!
# The sandbox refund runner (`scripts/kora_sandbox_refund_e2e.py`)

The runner starts one pay-in, polls it, refunds it once it has succeeded, and polls the refund.
What it may do is a matter of its conversations with the provider, whatever the provider
answers: which key it sends, what it starts, and when (`refundRunner_due`); and its exit
code says what it heard (`refundRunner_exit`).

What is printed on the way, and the pauses, are left out.

As for the integration script, the runner is a dialogue, and `Due` and `Exits` are stated on the
transcript of it. The polls are what is new.

* A poll sends checks, and no more than its attempts allow; it ends with an answer of success only
  if the last check was answered with one (`Polled`, `PollEnds`).
* The poll of the pay-in looks under up to three references in each attempt, and so has an inner
  loop (`tryReferences`); the poll of the refund has one path.
* A poll that goes on after checks without success is a poll with fewer attempts left
  (`poll_after`); the induction is on these.

The run is then put together from the end, as in the other script: `meets_refundPoll`,
`meets_refundPayin`, `meets_payinPoll`, `meets_authorizeOtp`, `meets_charge`.
-/

namespace AfricaFrontier

open Python Dialogue

/-! ## Statuses -/

namespace RefundRunner

/-- The statuses of success. -/
def successStatuses : List String := ["success", "successful", "completed", "settled"]

/-- The statuses after which a poll stops without success. -/
def closedStatuses : List String := ["failed", "cancelled", "canceled", "expired"]

section Runner

variable (host : ScriptHost)

/-- `status_of`. -/
def statusOf (data : Obj) : String := host.lower (data.firstText ["status", "payment_status"])

/-- The status is one of success. -/
def Succeeded (data : Obj) : Prop := statusOf host data ∈ successStatuses

instance (data : Obj) : Decidable (Succeeded host data) :=
  inferInstanceAs (Decidable (_ ∈ successStatuses))

/-- A poll stops at this status. -/
def Final (data : Obj) : Prop := Succeeded host data ∨ statusOf host data ∈ closedStatuses

instance (data : Obj) : Decidable (Final host data) := inferInstanceAs (Decidable (_ ∨ _))

/-! ## Polling -/

/-- `try: … except KoraClientError`. -/
def attempt {α : Type} (program : KoraProgram α) : KoraProgram (Except String α) :=
  (program.bind fun a => .ret (.ok a)).handle fun
    | .client message => .ret (.error message)
    | e => .raise e

/-- One attempt of `poll_charge`: the latest answer, and whether it ends the poll.  The next
reference is tried only when this one was not found. -/
def tryReferences (settings : KoraSettings) : List String → Obj → KoraProgram (Obj × Bool)
  | [], latest => .ret (latest, false)
  | reference :: rest, latest =>
      (attempt (settings.verifyCharge reference)).bind fun
        | .error message =>
            if contains message "(404)" = true ∧ rest ≠ [] then tryReferences settings rest latest
            else .ret (latest, false)
        | .ok data => .ret (data, decide (Final host data))

/-- `poll_charge` with some attempts left. -/
def pollCharge (settings : KoraSettings) (references : List String) :
    ℕ → Obj → KoraProgram Obj
  | 0, latest => .ret latest
  | n + 1, latest =>
      (tryReferences host settings references latest).bind fun r =>
        if r.2 then .ret r.1 else pollCharge settings references n r.1

/-- `poll_refund` with some attempts left. -/
def pollRefund (settings : KoraSettings) (reference : String) : ℕ → Obj → KoraProgram Obj
  | 0, latest => .ret latest
  | n + 1, latest =>
      (attempt (settings.getRefund reference)).bind fun
        | .error _ => pollRefund settings reference n latest
        | .ok data => if Final host data then .ret data else pollRefund settings reference n data

/-! ## The runner -/

/-- What the runner reads from the environment. -/
structure RefundInputs where
  amount : DecimalValue
  currency : String
  phone : String
  email : String
  webhookUrl : String
  corridor : String
  pollAttempts : ℕ

/-- The inputs; a text that is no number raises.  A negative number of attempts is none. -/
def refundInputs : Except KoraRaise RefundInputs :=
  match DecimalValue.read (host.env "KORA_TEST_AMOUNT" "100000"),
    pyInt (.str (host.env "KORA_REFUND_POLL_ATTEMPTS" "60")) with
  | some amount, .ok pollAttempts =>
      if host.isFloat (host.env "KORA_REFUND_POLL_DELAY_SECONDS" "10") then
        .ok
          { amount
            currency := host.upper (host.env "KORA_TEST_CURRENCY" "XAF")
            phone := host.env "KORA_TEST_PHONE" "237655123456"
            email := host.env "KORA_TEST_EMAIL" "sandbox@example.com"
            webhookUrl :=
              host.env "AFM_WEBHOOK_URL" "https://africafrontiermarkets.com/webhooks/kora"
            corridor := host.upper (host.env "KORA_TEST_CORRIDOR" "CM-CI")
            pollAttempts := pollAttempts.toNat }
      else .error .other
  | _, _ => .error .other

/-- The beginning of the references of one run. -/
def base : String := "afm-refund-sbx-" ++ host.urandomHex

/-- The reference of the pay-in. -/
def payinReference : String := base host ++ "-payin"

/-- The reference of the refund. -/
def refundReference : String := base host ++ "-refund"

/-- The references under which a pay-in is looked for. -/
def payinReferences (payin : Obj) : List String :=
  ([payin.firstText ["transaction_reference"], payin.firstText ["payment_reference"],
    payinReference host].filter (· ≠ "")).eraseDups

/-- `payin_reference_from_api`. -/
def payinReferenceFromApi (payin : Obj) : String :=
  ((truthy (some (payin.firstText ["transaction_reference"]))).or
    (truthy (some (payin.firstText ["payment_reference"])))).getD (payinReference host)

/-- The reference of the payment that is refunded. -/
def refundedReference (payin : Obj) : String :=
  (truthy (some (payin.firstText ["payment_reference"]))).getD (payinReferenceFromApi host payin)

/-- The charge. -/
def payinCharge (inputs : RefundInputs) : MobileMoneyCharge where
  amount := inputs.amount
  currency := inputs.currency
  reference := payinReference host
  phoneNumber := inputs.phone
  customerEmail := inputs.email
  notificationUrl := some inputs.webhookUrl
  metadata := [("afm_test", .str "refund_e2e"), ("execution_mode", .str "sandbox"),
    ("corridor", .str inputs.corridor)]

/-- The refund. -/
def refundTerms (inputs : RefundInputs) (payin : Obj) : RefundTerms where
  paymentReference := refundedReference host payin
  refundReference := refundReference host
  amount := some inputs.amount
  reason := some "AFM sandbox end-to-end refund validation"
  webhookUrl := some inputs.webhookUrl

/-- The authorization that an OTP charge needs. -/
def authorizeOtp (settings : KoraSettings) (payin : Obj) : KoraProgram Unit :=
  if host.upper (payin.getD "auth_model" (.str "")).text = "OTP" then
    if host.env "KORA_TEST_OTP" "" = "" then
      .raise (.runtime "KORA_TEST_OTP is required when Kora returns OTP")
    else
      (settings.authorizeMobileMoney (payinReferenceFromApi host payin)
        (host.env "KORA_TEST_OTP" "")).bind fun _ => .ret ()
  else .ret ()

/-- The part of `run` from the refund on. -/
def refundPayin (settings : KoraSettings) (inputs : RefundInputs) (payin : Obj) : KoraProgram ℕ :=
  (settings.initiateRefund host.toKoraHost (refundTerms host inputs payin)).bind fun refund =>
    let reference := ((truthy (some (refund.firstText ["refund_reference", "reference"])))).getD
      (refundReference host)
    (pollRefund host settings reference inputs.pollAttempts []).bind fun finalRefund =>
      .ret (if Succeeded host finalRefund then 0 else 2)

/-- `run`: the exit code. A quote, a charge and its authorization, then checks of the charge until
it is final, and, for one that succeeded, the refund with its own checks. -/
def refundRunner : KoraProgram ℕ :=
  (ofExcept host.settingsFromEnv).bind fun settings =>
    (ofExcept (refundInputs host)).bind fun inputs =>
      (settings.getExchangeRate host.toKoraHost inputs.amount inputs.currency "USD"
          (base host ++ "-quote")).bind fun _ =>
        (settings.initiateMobileMoneyCharge host.toKoraHost (payinCharge host inputs)).bind
          fun payin =>
            (authorizeOtp host settings payin).bind fun _ =>
              (pollCharge host settings (payinReferences host payin) inputs.pollAttempts []).bind
                fun finalPayin =>
                  if Succeeded host finalPayin then refundPayin host settings inputs payin
                  else .ret 2

end Runner

/-! ## What the runner may ask -/

/-- The request starts a pay-in. -/
def IsPayin (q : KoraRequest) : Prop := q.method = .post ∧ q.path = "charges/mobile-money"

/-- The request starts a refund. -/
def IsRefund (q : KoraRequest) : Prop := q.method = .post ∧ q.path = "refunds/initiate"

/-- A check of the pay-in, under one of its references, was answered with success. -/
def Confirms (host : ScriptHost) (references : List String) (x : KoraRequest × HttpOutcome) :
    Prop :=
  (∃ reference ∈ references, x.1.method = .get ∧ x.1.path = "charges/" ++ reference) ∧
    ∃ data, x.1.settings.read x.2 = .ok data ∧ Succeeded host data

/-- A check of a refund was answered with success. -/
def RefundConfirms (host : ScriptHost) (x : KoraRequest × HttpOutcome) : Prop :=
  (x.1.method = .get ∧ startsWith x.1.path "refunds/" = true) ∧
    ∃ data, x.1.settings.read x.2 = .ok data ∧ Succeeded host data

/-- The refund `q` may be started: it is the first, it is for the pay-in that was started
and has its amount, and a check of the pay-in after that was answered with success. -/
structure RefundDue (host : ScriptHost) (t : Transcript) (q : KoraRequest) : Prop where
  first : ∀ x ∈ t, ¬ IsRefund x.1
  paid : ∃ before p outcome later payin, t = before ++ (p, outcome) :: later ∧ IsPayin p ∧
    p.settings.read outcome = .ok payin ∧ q.field "amount" = p.field "amount" ∧
    q.field "payment_reference" = .str (refundedReference host payin) ∧
    ∃ x ∈ later, Confirms host (payinReferences host payin) x

/-- What the runner may ask when `t` was exchanged. -/
structure Due (host : ScriptHost) (t : Transcript) (q : KoraRequest) : Prop where
  sandbox : SandboxSettings host q.settings
  posts : q.method = .post → q.path ∈ ["conversions/rates", "charges/mobile-money",
    "charges/mobile-money/authorize", "refunds/initiate"]
  payin : IsPayin q → ∀ x ∈ t, ¬ IsPayin x.1
  refund : IsRefund q → RefundDue host t q
  bounded : ∀ inputs, refundInputs host = .ok inputs → t.length < 4 + 4 * inputs.pollAttempts

/-- The exit code says whether a refund was seen to succeed: zero if and only if a check of a
refund was answered with success. -/
def Exits (host : ScriptHost) (t : Transcript) (r : Except KoraRaise ℕ) : Prop :=
  exitCode r = 0 ↔ ∃ x ∈ t, RefundConfirms host x

/-! ## Polls

A request that raises counts as an attempt, and is no answer. -/

section Polls

variable {host : ScriptHost} {settings : KoraSettings} {t : Transcript}

/-- The condition on the end of an attempt. -/
def AttemptThen {α : Type} (pre : Transcript → KoraRequest → Prop)
    (post : Transcript → Except KoraRaise α → Prop) (f : Except String Obj → KoraProgram α)
    (t : Transcript) : Except KoraRaise Obj → Prop
  | .ok data => Meets pre post t (f (.ok data))
  | .error (.client message) => Meets pre post t (f (.error message))
  | .error e => post t (.error e)

/-- The rule for an attempt and what follows it. -/
theorem meets_attempt {α : Type} {pre : Transcript → KoraRequest → Prop}
    {post : Transcript → Except KoraRaise α → Prop} {f : Except String Obj → KoraProgram α}
    {program : KoraProgram Obj} :
    Meets pre post t ((attempt program).bind f) ↔
      Meets pre (AttemptThen pre post f) t program := by
  unfold attempt
  rw [meets_bind, meets_handle, meets_bind]
  constructor
  · intro h
    refine h.post_mono fun s r hr => ?_
    match r with
    | .ok data => exact hr
    | .error (.client message) => exact hr
    | .error (.runtime message) => exact hr
    | .error .other => exact hr
  · intro h
    refine h.post_mono fun s r hr => ?_
    match r with
    | .ok data => exact hr
    | .error (.client message) => exact hr
    | .error (.runtime message) => exact hr
    | .error .other => exact hr

/-- At most `n` checks of these paths. -/
structure Checks (settings : KoraSettings) (paths : List String) (n : ℕ) (s : Transcript) :
    Prop where
  length : s.length ≤ n
  check : ∀ x ∈ s, ∃ path ∈ paths, x.1 = ⟨settings, .get, path, none⟩

/-- Checks after checks. -/
theorem Checks.append {paths paths' : List String} {m n : ℕ} {s s' : Transcript}
    (h : Checks settings paths' m s) (h' : Checks settings paths n s') (hsubset : paths ⊆ paths') :
    Checks settings paths' (m + n) (s ++ s') where
  length := by
    rw [List.length_append]
    exact Nat.add_le_add h.length h'.length
  check x hx := by
    rcases List.mem_append.mp hx with hx | hx
    · exact h.check x hx
    · obtain ⟨path, hpath, heq⟩ := h'.check x hx
      exact ⟨path, hsubset hpath, heq⟩

/-- No check. -/
theorem Checks.nil {paths : List String} {n : ℕ} : Checks settings paths n [] :=
  ⟨Nat.zero_le n, fun _ hx => absurd hx List.not_mem_nil⟩

/-- One check. -/
theorem Checks.single {path : String} {paths : List String} (hpath : path ∈ paths)
    (outcome : HttpOutcome) :
    Checks settings paths 1 [(⟨settings, .get, path, none⟩, outcome)] where
  length := le_refl 1
  check x hx := by
    obtain rfl := List.mem_singleton.mp hx
    exact ⟨path, hpath, rfl⟩

/-- No answer was one of success. -/
def Quiet (host : ScriptHost) (settings : KoraSettings) (s : Transcript) : Prop :=
  ∀ x ∈ s, ∀ data, settings.read x.2 = .ok data → ¬ Succeeded host data

/-- A poll that has begun at `t` may send one more check. -/
def Polling (settings : KoraSettings) (paths : List String) (n : ℕ) (t t' : Transcript)
    (q : KoraRequest) : Prop :=
  ∃ s, t' = t ++ s ∧ Checks settings paths n s ∧ s.length < n ∧
    ∃ path ∈ paths, q = ⟨settings, .get, path, none⟩

/-- A poll that has begun at `t` has ended with this answer: an answer of success was the
only one. -/
structure Polled (host : ScriptHost) (settings : KoraSettings) (paths : List String) (n : ℕ)
    (s : Transcript) (answer : Option Obj) : Prop where
  checks : Checks settings paths n s
  quiet : (∀ data, answer = some data → ¬ Succeeded host data) → Quiet host settings s
  heard : ∀ data, answer = some data → Succeeded host data →
    ∃ x ∈ s, settings.read x.2 = .ok data

/-- How a poll ends, with a result that is as `valid` says. -/
def PollEnds {α : Type} (host : ScriptHost) (settings : KoraSettings) (paths : List String) (n : ℕ)
    (t : Transcript) (answer : α → Obj) (valid : α → Prop) (t' : Transcript)
    (r : Except KoraRaise α) : Prop :=
  (∃ s, t' = t ++ s ∧ Polled host settings paths n s (r.toOption.map answer)) ∧
    ∀ a, r = .ok a → valid a

variable {paths paths' : List String} {m n : ℕ}

/-- A poll with more attempts to spare. -/
theorem Polled.mono {s : Transcript} {answer : Option Obj}
    (h : Polled host settings paths m s answer) (hle : m ≤ n) :
    Polled host settings paths n s answer :=
  ⟨⟨h.checks.length.trans hle, h.checks.check⟩, h.quiet, h.heard⟩

/-- What was heard without success before does not count. -/
theorem Polled.after_quiet {s s' : Transcript} {answer : Option Obj}
    (hchecks : Checks settings paths' m s) (hquiet : Quiet host settings s)
    (h : Polled host settings paths n s' answer) (hsubset : paths ⊆ paths') :
    Polled host settings paths' (m + n) (s ++ s') answer where
  checks := hchecks.append h.checks hsubset
  quiet hanswer x hx := by
    rcases List.mem_append.mp hx with hx | hx
    · exact hquiet x hx
    · exact h.quiet hanswer x hx
  heard data hdata hsucceeded := by
    obtain ⟨x, hx, hread⟩ := h.heard data hdata hsucceeded
    exact ⟨x, List.mem_append.mpr (Or.inr hx), hread⟩

/-- What was sent before counts. -/
theorem Polling.after {s t' : Transcript} {q : KoraRequest} (hchecks : Checks settings paths' m s)
    (hsubset : paths ⊆ paths') (h : Polling settings paths n (t ++ s) t' q) :
    Polling settings paths' (m + n) t t' q := by
  obtain ⟨s', rfl, hs', hlt, path, hpath, rfl⟩ := h
  have hall := hchecks.append hs' hsubset
  refine ⟨s ++ s', List.append_assoc _ _ _, hall, ?_, path, hsubset hpath, rfl⟩
  rw [List.length_append]
  exact Nat.add_lt_add_of_le_of_lt hchecks.length hlt

/-- A poll that goes on after checks without success. -/
theorem poll_after {α : Type} {answer : α → Obj} {valid : α → Prop} {s : Transcript}
    {d : KoraProgram α} (hchecks : Checks settings paths' m s) (hquiet : Quiet host settings s)
    (hsubset : paths ⊆ paths')
    (h : Meets (Polling settings paths n (t ++ s))
      (PollEnds host settings paths n (t ++ s) answer valid) (t ++ s) d) :
    Meets (Polling settings paths' (m + n) t)
      (PollEnds host settings paths' (m + n) t answer valid) (t ++ s) d := by
  refine h.mono (fun _ _ hq => hq.after hchecks hsubset) fun _ r hr => ?_
  obtain ⟨⟨s', heq, hpolled⟩, hvalid⟩ := hr
  refine ⟨⟨s ++ s', ?_, hpolled.after_quiet hchecks hquiet hsubset⟩, hvalid⟩
  rw [heq, List.append_assoc]

/-- One check that brought an answer. -/
theorem Polled.answered {path : String} (hpath : path ∈ paths) {outcome : HttpOutcome} {data : Obj}
    (hread : settings.read outcome = .ok data) :
    Polled host settings paths 1 [(⟨settings, .get, path, none⟩, outcome)] (some data) where
  checks := .single hpath outcome
  quiet hanswer x hx found hfound := by
    obtain rfl := List.mem_singleton.mp hx
    obtain rfl := Except.ok.inj (hread.symm.trans hfound)
    exact hanswer data rfl
  heard found hfound _ := by
    obtain rfl := Option.some.inj hfound
    exact ⟨_, List.mem_singleton.mpr rfl, hread⟩

/-- One check that raised. -/
theorem quiet_of_error {q : KoraRequest} {outcome : HttpOutcome} {e : KoraRaise}
    (hread : settings.read outcome = .error e) : Quiet host settings [(q, outcome)] := by
  intro x hx data hdata
  obtain rfl := List.mem_singleton.mp hx
  cases hread.symm.trans hdata

/-- One check that raised, and brought no answer. -/
theorem Polled.raised {path : String} (hpath : path ∈ paths) {outcome : HttpOutcome}
    {e : KoraRaise} (hread : settings.read outcome = .error e) {answer : Option Obj}
    (hanswer : ∀ data, answer = some data → ¬ Succeeded host data) :
    Polled host settings paths 1 [(⟨settings, .get, path, none⟩, outcome)] answer where
  checks := .single hpath outcome
  quiet _ := quiet_of_error hread
  heard data hdata hsucceeded := absurd hsucceeded (hanswer data hdata)

/-- The paths under which a pay-in is checked. -/
def chargePaths (references : List String) : List String := references.map ("charges/" ++ ·)

/-- A result of an attempt of `poll_charge` that does not end the poll is not one of success. -/
def Ended (host : ScriptHost) (r : Obj × Bool) : Prop := r.2 = false → ¬ Succeeded host r.1

/-- A poll ends with what it had without success. -/
theorem pollEnds_unchanged {α : Type} {answer : α → Obj} {valid : α → Prop} {a : α}
    (hanswer : ¬ Succeeded host (answer a)) (hvalid : valid a) {s : Transcript}
    (hchecks : Checks settings paths n s) (hquiet : Quiet host settings s) :
    PollEnds host settings paths n t answer valid (t ++ s) (.ok a) := by
  refine ⟨⟨s, rfl, hchecks, fun _ => hquiet, ?_⟩, ?_⟩
  · intro data hdata hsucceeded
    obtain rfl := Option.some.inj hdata
    exact absurd hsucceeded hanswer
  · intro a' ha'
    obtain rfl := Except.ok.inj ha'
    exact hvalid

/-- A poll ends with an exception of its last check. -/
theorem pollEnds_raised {α : Type} {answer : α → Obj} {valid : α → Prop} {e : KoraRaise}
    {s : Transcript} (hchecks : Checks settings paths n s) (hquiet : Quiet host settings s) :
    PollEnds host settings paths n t answer valid (t ++ s) (.error e) :=
  ⟨⟨s, rfl, hchecks, fun _ => hquiet, fun _ hdata => by cases hdata⟩, fun _ ha => by cases ha⟩

/-- Nothing was answered. -/
theorem quiet_nil : Quiet host settings [] := fun _ hx => absurd hx List.not_mem_nil

/-- Fewer checks than allowed. -/
theorem Checks.mono {s : Transcript} (h : Checks settings paths m s) (hle : m ≤ n) :
    Checks settings paths n s := ⟨h.length.trans hle, h.check⟩

/-- One attempt: the references are tried in turn, and the first success ends it. -/
theorem meets_tryReferences (hkey : settings.secretKey ≠ "") {references : List String}
    {latest : Obj} (hlatest : ¬ Succeeded host latest) :
    Meets (Polling settings (chargePaths references) references.length t)
      (PollEnds host settings (chargePaths references) references.length t Prod.fst (Ended host)) t
      (tryReferences host settings references latest) := by
  -- by the references that are left; the transcript grows with each of them
  induction references generalizing t with
  | nil =>
      have hends : PollEnds host settings (chargePaths []) 0 t Prod.fst (Ended host) (t ++ [])
          (.ok (latest, false)) :=
        pollEnds_unchanged hlatest (fun _ => hlatest) .nil quiet_nil
      rwa [List.append_nil] at hends
  | cons reference rest ih =>
      have hpath : "charges/" ++ reference ∈ chargePaths (reference :: rest) :=
        List.mem_cons_self
      have hone : 1 ≤ (reference :: rest).length := Nat.succ_pos _
      unfold tryReferences KoraSettings.verifyCharge
      rw [meets_attempt, meets_request hkey]
      refine ⟨⟨[], (List.append_nil t).symm, .nil, hone, _, hpath, rfl⟩, fun outcome => ?_⟩
      have hcheck : Checks settings (chargePaths (reference :: rest)) 1
          [(⟨settings, .get, "charges/" ++ reference, none⟩, outcome)] := .single hpath outcome
      cases hread : settings.read outcome with
      | ok data =>
          refine ⟨⟨_, rfl, (Polled.answered hpath hread).mono hone⟩, ?_⟩
          rintro r hr hgoesOn hsucceeded
          obtain rfl := Except.ok.inj hr
          exact of_decide_eq_false hgoesOn (Or.inl hsucceeded)
      | error e =>
          have hquiet : Quiet host settings
              [(⟨settings, .get, "charges/" ++ reference, none⟩, outcome)] := quiet_of_error hread
          cases e with
          | other => exact pollEnds_raised (hcheck.mono hone) hquiet
          | runtime message => exact pollEnds_raised (hcheck.mono hone) hquiet
          -- only an answer of Kora that there is no such charge goes on to the next reference
          | client message =>
              simp only [AttemptThen]
              split_ifs with hnotFound
              · have hrest := poll_after hcheck hquiet
                  (List.map_subset _ (List.subset_cons_self _ _)) (ih (t := t ++ [_]))
                rwa [Nat.add_comm] at hrest
              · exact pollEnds_unchanged hlatest (fun _ => hlatest) (hcheck.mono hone) hquiet

/-- `poll_charge` ends with an answer of success only if it was given one. -/
theorem meets_pollCharge (hkey : settings.secretKey ≠ "") {references : List String}
    {attempts : ℕ} {latest : Obj} (hlatest : ¬ Succeeded host latest) :
    Meets (Polling settings (chargePaths references) (attempts * references.length) t)
      (PollEnds host settings (chargePaths references) (attempts * references.length) t id
        fun _ => True) t (pollCharge host settings references attempts latest) := by
  -- one round over all references for each attempt
  induction attempts generalizing t latest with
  | zero =>
      have hends : PollEnds host settings (chargePaths references) (0 * references.length) t id
          (fun _ => True) (t ++ []) (.ok latest) :=
        pollEnds_unchanged hlatest trivial .nil quiet_nil
      rwa [List.append_nil] at hends
  | succ attempts ih =>
      have hle : references.length ≤ (attempts + 1) * references.length :=
        Nat.le_mul_of_pos_left _ (Nat.succ_pos _)
      unfold pollCharge
      rw [meets_bind]
      refine (meets_tryReferences hkey hlatest).mono ?_ ?_
      · rintro s q ⟨s', hs', hchecks, hlt, hpath⟩
        exact ⟨s', hs', hchecks.mono hle, hlt.trans_le hle, hpath⟩
      · rintro s r ⟨⟨s', hs', hpolled⟩, hvalid⟩
        rw [hs']
        cases r with
        | error e => exact ⟨⟨s', rfl, hpolled.mono hle⟩, fun _ ha => by cases ha⟩
        | ok r =>
            simp only [Then]
            split_ifs with hfinal
            -- the round has found a final charge, and the polling ends
            · exact ⟨⟨s', rfl, hpolled.mono hle⟩, fun _ _ => trivial⟩
            · have hunsuccessful := hvalid r rfl (Bool.not_eq_true _ ▸ hfinal)
              have hquiet : Quiet host settings s' := by
                refine hpolled.quiet fun data hdata => ?_
                obtain rfl := Option.some.inj hdata
                exact hunsuccessful
              have hrest := poll_after hpolled.checks hquiet (List.Subset.refl _)
                (ih (t := t ++ s') hunsuccessful)
              rwa [Nat.add_comm, ← Nat.succ_mul] at hrest

/-- `poll_refund` ends with an answer of success only if it was given one. -/
theorem meets_pollRefund (hkey : settings.secretKey ≠ "") {reference : String} {attempts : ℕ}
    (hreference : reference ≠ "") {latest : Obj} (hlatest : ¬ Succeeded host latest) :
    Meets (Polling settings ["refunds/" ++ reference] attempts t)
      (PollEnds host settings ["refunds/" ++ reference] attempts t id fun _ => True) t
      (pollRefund host settings reference attempts latest) := by
  induction attempts generalizing t latest with
  | zero =>
      have hends : PollEnds host settings ["refunds/" ++ reference] 0 t id (fun _ => True)
          (t ++ []) (.ok latest) :=
        pollEnds_unchanged hlatest trivial .nil quiet_nil
      rwa [List.append_nil] at hends
  | succ attempts ih =>
      have hpath : "refunds/" ++ reference ∈ ["refunds/" ++ reference] := List.mem_singleton.mpr rfl
      have hone : 1 ≤ attempts + 1 := Nat.succ_pos _
      unfold pollRefund KoraSettings.getRefund
      rw [if_neg hreference, meets_attempt, meets_request hkey]
      refine ⟨⟨[], (List.append_nil t).symm, .nil, hone, _, hpath, rfl⟩, fun outcome => ?_⟩
      have hcheck : Checks settings ["refunds/" ++ reference] 1
          [(⟨settings, .get, "refunds/" ++ reference, none⟩, outcome)] := .single hpath outcome
      -- a refund that has not succeeded leads to the remaining attempts, whichever branch it
      -- comes from
      have hgoesOn : ∀ data, ¬ Succeeded host data →
          Quiet host settings [(⟨settings, .get, "refunds/" ++ reference, none⟩, outcome)] →
            Meets (Polling settings ["refunds/" ++ reference] (attempts + 1) t)
              (PollEnds host settings ["refunds/" ++ reference] (attempts + 1) t id fun _ => True)
              (t ++ [(⟨settings, .get, "refunds/" ++ reference, none⟩, outcome)])
              (pollRefund host settings reference attempts data) := by
        intro data hdata hquiet
        have hrest := poll_after hcheck hquiet (List.Subset.refl _) (ih (t := t ++ [_]) hdata)
        rwa [Nat.add_comm] at hrest
      cases hread : settings.read outcome with
      | ok data =>
          have hanswered : Polled host settings ["refunds/" ++ reference] 1
              [(⟨settings, .get, "refunds/" ++ reference, none⟩, outcome)] (some data) :=
            .answered hpath hread
          simp only [AttemptThen]
          split_ifs with hfinal
          · exact ⟨⟨_, rfl, hanswered.mono hone⟩, fun _ _ => trivial⟩
          · have hunsuccessful : ¬ Succeeded host data := fun h => hfinal (Or.inl h)
            refine hgoesOn data hunsuccessful (hanswered.quiet fun found hfound => ?_)
            obtain rfl := Option.some.inj hfound
            exact hunsuccessful
      | error e =>
          have hquiet : Quiet host settings
              [(⟨settings, .get, "refunds/" ++ reference, none⟩, outcome)] := quiet_of_error hread
          cases e with
          | other => exact pollEnds_raised (hcheck.mono hone) hquiet
          | runtime message => exact pollEnds_raised (hcheck.mono hone) hquiet
          | client message => exact hgoesOn latest hlatest hquiet

end Polls

/-! ## The run

The amount of the refund is the one that was charged, and the reference one under which the pay-in
was found. -/

section Run

variable {host : ScriptHost} {settings : KoraSettings} {inputs : RefundInputs} {payin : Obj}
  {t : Transcript} {n : ℕ}

/-- At most `n` requests were answered, none of them about a refund. -/
structure Running (host : ScriptHost) (n : ℕ) (t : Transcript) : Prop where
  length : t.length ≤ n
  noRefund : ∀ x ∈ t, ¬ IsRefund x.1
  silent : ∀ x ∈ t, ¬ RefundConfirms host x

/-- A code other than zero. -/
theorem exits_of_silent {r : Except KoraRaise ℕ} (hcode : exitCode r ≠ 0)
    (hsilent : ∀ x ∈ t, ¬ RefundConfirms host x) : Exits host t r := by
  refine ⟨fun h => absurd h hcode, ?_⟩
  rintro ⟨x, hx, hconfirms⟩
  exact absurd hconfirms (hsilent x hx)

/-- An error before the refund exits with another code. -/
theorem Running.exits_error (h : Running host n t) (e : KoraRaise) : Exits host t (.error e) :=
  exits_of_silent (exitCode_error e) h.silent

/-- Nothing was asked. -/
theorem Running.nil : Running host n [] :=
  ⟨Nat.zero_le n, fun _ hx => absurd hx List.not_mem_nil, fun _ hx => absurd hx List.not_mem_nil⟩

/-- A request that is no refund and no check was answered. -/
theorem Running.posted (h : Running host n t) {q : KoraRequest} (hpost : q.method = .post)
    (hpath : q.path ≠ "refunds/initiate") (outcome : HttpOutcome) :
    Running host (n + 1) (t ++ [(q, outcome)]) where
  length := by
    rw [List.length_append]
    exact Nat.add_le_add_right h.length 1
  noRefund x hx := by
    rcases List.mem_append.mp hx with hx | hx
    · exact h.noRefund x hx
    · obtain rfl := List.mem_singleton.mp hx
      exact fun hrefund => hpath hrefund.2
  silent x hx := by
    rcases List.mem_append.mp hx with hx | hx
    · exact h.silent x hx
    · obtain rfl := List.mem_singleton.mp hx
      exact fun hconfirms => by cases hpost.symm.trans hconfirms.1.1

/-- The path of a charge is not that of a refund. -/
theorem not_startsWith_charges (reference : String) :
    startsWith ("charges/" ++ reference) "refunds/" = false := by
  simp only [startsWith, String.toList_append]
  rfl

/-- The pay-in was checked. -/
theorem Running.checked (h : Running host n t) {references : List String} {m : ℕ}
    {s : Transcript} (hchecks : Checks settings (chargePaths references) m s) :
    Running host (n + m) (t ++ s) where
  length := by
    rw [List.length_append]
    exact Nat.add_le_add h.length hchecks.length
  noRefund x hx := by
    rcases List.mem_append.mp hx with hx | hx
    · exact h.noRefund x hx
    · obtain ⟨path, -, heq⟩ := hchecks.check x hx
      rw [heq]
      exact fun hrefund => by cases hrefund.1
  silent x hx := by
    rcases List.mem_append.mp hx with hx | hx
    · exact h.silent x hx
    · obtain ⟨path, hpath, heq⟩ := hchecks.check x hx
      obtain ⟨reference, -, rfl⟩ := List.mem_map.mp hpath
      intro hconfirms
      have hstarts := hconfirms.1.2
      rw [heq, not_startsWith_charges] at hstarts
      cases hstarts

/-- What a check needs to be due. -/
theorem due_of_get (hsandbox : SandboxSettings host settings)
    (hinputs : refundInputs host = .ok inputs) {path : String}
    (hlength : t.length < 4 + 4 * inputs.pollAttempts) :
    Due host t ⟨settings, .get, path, none⟩ where
  sandbox := hsandbox
  posts h := by cases h
  payin h := by cases h.1
  refund h := by cases h.1
  bounded inputs' hinputs' := by
    obtain rfl := Except.ok.inj (hinputs.symm.trans hinputs')
    exact hlength

/-- The pay-in that was started, and what was exchanged since. -/
structure Paid (host : ScriptHost) (inputs : RefundInputs) (payin : Obj) (t later : Transcript) :
    Prop where
  started : ∃ before p outcome, t = before ++ (p, outcome) :: later ∧ IsPayin p ∧
    p.settings.read outcome = .ok payin ∧ host.amount inputs.amount = .ok (p.field "amount")

/-- What was paid stays paid. -/
theorem Paid.append {later s : Transcript} (h : Paid host inputs payin t later) :
    Paid host inputs payin (t ++ s) (later ++ s) := by
  obtain ⟨before, p, outcome, rfl, hrest⟩ := h.started
  exact ⟨before, p, outcome, by rw [List.append_assoc, List.cons_append], hrest⟩

/-- The pay-in was started, and one of its checks was answered with success. -/
def Confirmed (host : ScriptHost) (inputs : RefundInputs) (payin : Obj) (t : Transcript) : Prop :=
  ∃ later, Paid host inputs payin t later ∧
    ∃ x ∈ later, Confirms host (payinReferences host payin) x

/-- The reference of the refund is not empty. -/
theorem refundReference_ne : refundReference host ≠ "" := by
  intro h
  have hlist := congrArg String.toList h
  simp [refundReference, base] at hlist

/-- The reference that a refund is polled under is not empty. -/
theorem getD_truthy_ne {value : Option String} {default : String} (hdefault : default ≠ "") :
    (truthy value).getD default ≠ "" := by
  cases hvalue : truthy value with
  | none => exact hdefault
  | some text =>
      obtain ⟨-, hgiven⟩ := Option.filter_eq_some_iff.mp hvalue
      exact of_decide_eq_true hgiven

/-- An answer without a status is none of success. -/
theorem not_succeeded_nil : ¬ Succeeded host [] := by
  have hstatus : statusOf host [] = "" := host.lower_empty
  simp [Succeeded, hstatus, successStatuses]

/-- The amount in the refund is the one in the charge. -/
theorem amountField_refundTerms {field : Obj} {value : Json}
    (hfield : (refundTerms host inputs payin).amountField host.toKoraHost = .ok field)
    (hamount : host.amount inputs.amount = .ok value) : field = [("amount", value)] := by
  simp only [RefundTerms.amountField, refundTerms] at hfield
  split at hfield
  · cases hfield
  · cases hfield
  · rw [hamount] at hfield
    exact (Except.ok.inj hfield).symm

/-- The refund is due. -/
theorem due_refund (hsandbox : SandboxSettings host settings)
    (hinputs : refundInputs host = .ok inputs)
    (hrunning : Running host (3 + 3 * inputs.pollAttempts) t)
    (hconfirmed : Confirmed host inputs payin t) {field : Obj}
    (hfield : (refundTerms host inputs payin).amountField host.toKoraHost = .ok field) :
    Due host t ⟨settings, .post, "refunds/initiate",
      some ((refundTerms host inputs payin).body field)⟩ where
  sandbox := hsandbox
  posts _ := by simp
  payin h := absurd h.2 (by decide : ¬ "refunds/initiate" = "charges/mobile-money")
  refund _ := by
    obtain ⟨later, ⟨before, p, outcome, hsplit, hpayin, hread, hamount⟩, hchecked⟩ := hconfirmed
    obtain rfl := amountField_refundTerms hfield hamount
    exact ⟨hrunning.noRefund, before, p, outcome, later, payin, hsplit, hpayin, hread, rfl, rfl,
      hchecked⟩
  bounded inputs' hinputs' := by
    obtain rfl := Except.ok.inj (hinputs.symm.trans hinputs')
    have hlength := hrunning.length
    omega

/-- A poll of the refund, after it was started, and the exit code. -/
theorem meets_refundPoll (hsandbox : SandboxSettings host settings)
    (hinputs : refundInputs host = .ok inputs) (hlength : t.length ≤ 4 + 3 * inputs.pollAttempts)
    (hsilent : ∀ x ∈ t, ¬ RefundConfirms host x) {reference : String}
    (hreference : reference ≠ "") :
    Meets (Due host) (Exits host) t
      ((pollRefund host settings reference inputs.pollAttempts []).bind fun finalRefund =>
        .ret (if Succeeded host finalRefund then 0 else 2)) := by
  rw [meets_bind]
  refine (meets_pollRefund hsandbox.secretKey_ne hreference not_succeeded_nil).mono ?_ ?_
  · rintro s q ⟨s', hs', hchecks, hlt, path, hpath, rfl⟩
    refine due_of_get hsandbox hinputs ?_
    rw [hs', List.length_append]
    omega
  · rintro s r ⟨⟨s', hs', hpolled⟩, -⟩
    rw [hs']
    -- if nothing in the polling confirms the refund, nothing in the whole transcript does
    have hsilent' : Quiet host settings s' → ∀ x ∈ t ++ s', ¬ RefundConfirms host x := by
      intro hquiet x hx
      rcases List.mem_append.mp hx with hx | hx
      · exact hsilent x hx
      · rintro ⟨-, data, hread, hsucceeded⟩
        obtain ⟨path, -, heq⟩ := hpolled.checks.check x hx
        rw [heq] at hread
        exact hquiet x hx data hread hsucceeded
    cases r with
    | error e =>
        exact exits_of_silent (exitCode_error e)
          (hsilent' (hpolled.quiet fun _ hdata => by cases hdata))
    | ok finalRefund =>
        simp only [Then, meets_ret]
        split_ifs with hsucceeded
        -- exit 0: the answer that was heard is in the transcript
        · refine ⟨fun _ => ?_, fun _ => rfl⟩
          obtain ⟨x, hx, hread⟩ := hpolled.heard finalRefund rfl hsucceeded
          obtain ⟨path, hpath, heq⟩ := hpolled.checks.check x hx
          obtain rfl := List.mem_singleton.mp hpath
          refine ⟨x, List.mem_append.mpr (Or.inr hx), ?_, finalRefund, ?_, hsucceeded⟩
          · rw [heq]
            exact ⟨rfl, by simp [startsWith]⟩
          · rw [heq]
            exact hread
        · refine exits_of_silent (by decide) (hsilent' (hpolled.quiet fun data hdata => ?_))
          obtain rfl := Option.some.inj hdata
          exact hsucceeded

/-- From the refund on. -/
theorem meets_refundPayin (hsandbox : SandboxSettings host settings)
    (hinputs : refundInputs host = .ok inputs)
    (hrunning : Running host (3 + 3 * inputs.pollAttempts) t)
    (hconfirmed : Confirmed host inputs payin t) :
    Meets (Due host) (Exits host) t (refundPayin host settings inputs payin) := by
  unfold refundPayin
  rw [meets_bind]
  refine meets_initiateRefund hsandbox.secretKey_ne hrunning.exits_error fun field hfield => ?_
  refine ⟨due_refund hsandbox hinputs hrunning hconfirmed hfield, fun outcome => ?_⟩
  have hsilent : ∀ x ∈ t ++ [(KoraRequest.mk settings .post "refunds/initiate"
      (some ((refundTerms host inputs payin).body field)), outcome)], ¬ RefundConfirms host x := by
    intro x hx
    rcases List.mem_append.mp hx with hx | hx
    · exact hrunning.silent x hx
    · obtain rfl := List.mem_singleton.mp hx
      exact fun hconfirms => by cases hconfirms.1.1
  cases settings.read outcome with
  | error e => exact exits_of_silent (exitCode_error e) hsilent
  | ok refund =>
      refine meets_refundPoll hsandbox hinputs ?_ hsilent (getD_truthy_ne refundReference_ne)
      have hlength := hrunning.length
      rw [List.length_append, List.length_singleton]
      omega

/-- Removing what is there already makes no list longer. -/
theorem length_eraseDups_le (texts : List String) : texts.eraseDups.length ≤ texts.length := by
  induction hn : texts.length using Nat.strong_induction_on generalizing texts with
  | _ n ih =>
      cases texts with
      | nil => exact Nat.zero_le _
      | cons text rest =>
          have hrest := List.length_filter_le (fun b => !b == text) rest
          rw [List.length_cons] at hn
          rw [List.eraseDups_cons, List.length_cons]
          have hshorter := ih _ (by omega) (rest.filter fun b => !b == text) rfl
          omega

/-- A pay-in has three references at most. -/
theorem length_payinReferences : (payinReferences host payin).length ≤ 3 :=
  (length_eraseDups_le _).trans (List.length_filter_le _ _)

/-- From the poll of the pay-in on. -/
theorem meets_payinPoll (hsandbox : SandboxSettings host settings)
    (hinputs : refundInputs host = .ok inputs) (hrunning : Running host 3 t) {later : Transcript}
    (hpaid : Paid host inputs payin t later) :
    Meets (Due host) (Exits host) t
      ((pollCharge host settings (payinReferences host payin) inputs.pollAttempts []).bind
        fun finalPayin =>
          if Succeeded host finalPayin then refundPayin host settings inputs payin
          else .ret 2) := by
  have hchecks : inputs.pollAttempts * (payinReferences host payin).length ≤
      3 * inputs.pollAttempts := by
    rw [Nat.mul_comm]
    exact Nat.mul_le_mul_right _ length_payinReferences
  have hlength := hrunning.length
  rw [meets_bind]
  refine (meets_pollCharge hsandbox.secretKey_ne not_succeeded_nil).mono ?_ ?_
  · rintro s q ⟨s', hs', hchecks', hlt, path, hpath, rfl⟩
    refine due_of_get hsandbox hinputs ?_
    rw [hs', List.length_append]
    omega
  · rintro s r ⟨⟨s', hs', hpolled⟩, -⟩
    rw [hs']
    have hchecked := hrunning.checked (hpolled.checks.mono hchecks)
    cases r with
    | error e => exact hchecked.exits_error e
    | ok finalPayin =>
        simp only [Then]
        split_ifs with hsucceeded
        -- the pay-in has succeeded, and the refund of it may be asked for
        · refine meets_refundPayin hsandbox hinputs hchecked ⟨_, hpaid.append, ?_⟩
          obtain ⟨x, hx, hread⟩ := hpolled.heard finalPayin rfl hsucceeded
          obtain ⟨path, hpath, heq⟩ := hpolled.checks.check x hx
          obtain ⟨reference, hreference, rfl⟩ := List.mem_map.mp hpath
          refine ⟨x, List.mem_append.mpr (Or.inr hx), ⟨reference, hreference, ?_⟩, finalPayin, ?_,
            hsucceeded⟩
          · rw [heq]
            exact ⟨rfl, rfl⟩
          · rw [heq]
            exact hread
        · exact exits_of_silent (by decide) hchecked.silent

/-- What another POST needs to be due. -/
theorem due_of_post (hsandbox : SandboxSettings host settings) {path : String}
    {json : Option Obj} (hlength : t.length < 4)
    (hpath : path = "conversions/rates" ∨ path = "charges/mobile-money/authorize" ∨
      (path = "charges/mobile-money" ∧ ∀ x ∈ t, ¬ IsPayin x.1)) :
    Due host t ⟨settings, .post, path, json⟩ where
  sandbox := hsandbox
  posts _ := by
    rcases hpath with rfl | rfl | ⟨rfl, -⟩ <;> simp
  payin h := by
    rcases hpath with rfl | rfl | ⟨-, hnone⟩
    · exact absurd h.2 (by decide : ¬ "conversions/rates" = "charges/mobile-money")
    · exact absurd h.2 (by decide : ¬ "charges/mobile-money/authorize" = "charges/mobile-money")
    · exact hnone
  refund h := by
    rcases hpath with rfl | rfl | ⟨rfl, -⟩
    · exact absurd h.2 (by decide : ¬ "conversions/rates" = "refunds/initiate")
    · exact absurd h.2 (by decide : ¬ "charges/mobile-money/authorize" = "refunds/initiate")
    · exact absurd h.2 (by decide : ¬ "charges/mobile-money" = "refunds/initiate")
  bounded _ _ := by omega

/-- The authorization of an OTP charge. -/
theorem meets_authorizeOtp (hsandbox : SandboxSettings host settings)
    (hrunning : Running host 2 t) {later : Transcript} (hpaid : Paid host inputs payin t later) :
    Meets (Due host) (fun t' r => (∃ later', Running host 3 t' ∧ Paid host inputs payin t' later') ∧
      ∀ e, r = .error e → Exits host t' (.error e)) t (authorizeOtp host settings payin) := by
  have hend : ∀ r : Except KoraRaise Unit,
      (∃ later', Running host 3 t ∧ Paid host inputs payin t later') ∧
        ∀ e, r = .error e → Exits host t (.error e) := fun r =>
    ⟨⟨later, ⟨hrunning.length.trans (by decide), hrunning.noRefund, hrunning.silent⟩, hpaid⟩,
      fun e _ => hrunning.exits_error e⟩
  have hlength := hrunning.length
  unfold authorizeOtp KoraSettings.authorizeMobileMoney
  split_ifs with hotp hnone
  · exact hend _
  · rw [meets_bind, meets_request hsandbox.secretKey_ne]
    refine ⟨due_of_post hsandbox (by omega) (Or.inr (Or.inl rfl)), fun outcome => ?_⟩
    have hposted := hrunning.posted (q := ⟨settings, .post, "charges/mobile-money/authorize",
      some [("reference", .str (payinReferenceFromApi host payin)),
        ("token", .str (host.env "KORA_TEST_OTP" ""))]⟩) rfl
      (by decide : ¬ "charges/mobile-money/authorize" = "refunds/initiate") outcome
    cases settings.read outcome with
    | error e => exact ⟨⟨_, hposted, hpaid.append⟩, fun _ _ => hposted.exits_error _⟩
    | ok data => exact ⟨⟨_, hposted, hpaid.append⟩, fun _ he => by cases he⟩
  · exact hend _

/-- From the charge on. -/
theorem meets_charge (hsandbox : SandboxSettings host settings)
    (hinputs : refundInputs host = .ok inputs) (hrunning : Running host 1 t)
    (hnone : ∀ x ∈ t, ¬ IsPayin x.1) :
    Meets (Due host) (Exits host) t
      ((settings.initiateMobileMoneyCharge host.toKoraHost (payinCharge host inputs)).bind
        fun payin => (authorizeOtp host settings payin).bind fun _ =>
          (pollCharge host settings (payinReferences host payin) inputs.pollAttempts []).bind
            fun finalPayin =>
              if Succeeded host finalPayin then refundPayin host settings inputs payin
              else .ret 2) := by
  have hlength := hrunning.length
  rw [meets_bind]
  refine meets_initiateMobileMoneyCharge hsandbox.secretKey_ne hrunning.exits_error
    fun value hvalue => ?_
  refine ⟨due_of_post hsandbox (by omega) (Or.inr (Or.inr ⟨rfl, hnone⟩)), fun outcome => ?_⟩
  have hposted := hrunning.posted (q := ⟨settings, .post, "charges/mobile-money",
    some ((payinCharge host inputs).body host.toKoraHost value)⟩) rfl
    (by decide : ¬ "charges/mobile-money" = "refunds/initiate") outcome
  cases hread : settings.read outcome with
  | error e => exact hposted.exits_error e
  | ok payin =>
      -- the charge that was just answered is the one that later steps are about
      have hpaid : Paid host inputs payin (t ++ [(_, outcome)]) [] :=
        ⟨t, ⟨settings, .post, "charges/mobile-money",
          some ((payinCharge host inputs).body host.toKoraHost value)⟩, outcome, rfl,
          ⟨rfl, rfl⟩, hread, hvalue⟩
      simp only [Then]
      rw [meets_bind]
      refine (meets_authorizeOtp hsandbox hposted hpaid).post_mono fun s r hr => ?_
      cases r with
      | error e => exact hr.2 e rfl
      | ok _ =>
          obtain ⟨⟨later, hauthorized, hpaid'⟩, -⟩ := hr
          exact meets_payinPoll hsandbox hinputs hauthorized hpaid'

/-- The runner asks only what is due, and its exit code says what it heard. -/
theorem meets_refundRunner (host : ScriptHost) :
    Meets (Due host) (Exits host) [] (refundRunner host) := by
  have hnil : ∀ e, Exits host [] (.error e) := Running.nil.exits_error (n := 0)
  unfold refundRunner
  rw [meets_bind, meets_ofExcept]
  cases hsettings : host.settingsFromEnv with
  | error e => exact hnil e
  | ok settings =>
  have hsandbox := SandboxSettings.of_env hsettings
  simp only [Then]
  rw [meets_bind, meets_ofExcept]
  cases hinputs : refundInputs host with
  | error e => exact hnil e
  | ok inputs =>
  simp only [Then]
  rw [meets_bind]
  refine meets_getExchangeRate hsandbox.secretKey_ne hnil fun value q hq => ?_
  subst hq
  refine ⟨due_of_post hsandbox (by decide) (Or.inl rfl), fun outcome => ?_⟩
  have hposted := (Running.nil : Running host 0 []).posted (q := ⟨settings, .post,
    "conversions/rates", some (quoteBody host.toKoraHost inputs.currency "USD"
      (base host ++ "-quote") value)⟩) rfl
    (by decide : ¬ "conversions/rates" = "refunds/initiate") outcome
  refine ⟨hposted.exits_error, fun data quote _ => ?_⟩
  refine meets_charge hsandbox hinputs hposted fun x hx hpayin => ?_
  obtain rfl := List.mem_singleton.mp hx
  exact absurd hpayin.2 (by decide : ¬ "conversions/rates" = "charges/mobile-money")

/-- **What the runner asks**, whatever it is answered, is due: it runs in the sandbox with a
test key, starts one pay-in, starts one refund once a check of that pay-in was answered with
success, for the amount of the pay-in, and sends no more requests than its attempts allow. -/
theorem refundRunner_due (host : ScriptHost) (server : Transcript → KoraRequest → HttpOutcome) :
    Throughout (Due host) (run server [] (refundRunner host)).1 :=
  (meets_refundRunner host).throughout throughout_nil server

/-- **The exit code is zero** exactly if a check of the refund was answered with success. -/
theorem refundRunner_exit (host : ScriptHost) (server : Transcript → KoraRequest → HttpOutcome) :
    exitCode (run server [] (refundRunner host)).2 = 0 ↔
      ∃ x ∈ (run server [] (refundRunner host)).1, RefundConfirms host x :=
  (meets_refundRunner host).ends server

/-- The sandbox, with one attempt for each poll. -/
def sampleHost : ScriptHost where
  lower := lower
  lower_empty := by decide
  upper := upper
  toFloat
    | .finite x => some (.finite (x < 0) x.num.natAbs 0)
    | _ => none
  getenv
    | "KORA_SANDBOX" => some "TRUE"
    | "KORA_SECRET_KEY" => some "sk_test_1"
    | "KORA_REFUND_POLL_ATTEMPTS" => some "1"
    | _ => none
  urandomHex := "00112233aabbccdd"
  isFloat _ := true
  validates := true

/-- A provider that lets everything succeed. -/
def willing (_ : Transcript) (q : KoraRequest) : HttpOutcome :=
  let data : Obj :=
    if q.path = "conversions/rates" then [("rate", .str "600"), ("to_amount", .int 166)]
    else [("status", .str "Success")]
  .response ⟨200, .value (.obj [("status", .bool true), ("data", .obj data)]), ""⟩

/-- Five requests, the third of which finds the pay-in under the runner's own reference. -/
example : ((run willing [] (refundRunner sampleHost)).1.map fun x => x.1.path) =
      ["conversions/rates", "charges/mobile-money",
        "charges/afm-refund-sbx-00112233aabbccdd-payin", "refunds/initiate",
        "refunds/afm-refund-sbx-00112233aabbccdd-refund"] ∧
    exitCode (run willing [] (refundRunner sampleHost)).2 = 0 := by
  decide +kernel

end Run

end RefundRunner

end AfricaFrontier
