import AfricaFrontier.Lib.Run
import AfricaFrontier.Payments.Session
import AfricaFrontier.Auth.Models
import Mathlib.Tactic.Linarith

/-!
# The broker's access token (`market_gateway/alpaca_broker.py`)

One client serves all requests, and keeps the access token it got last, with a time until which
it hands it out again: sixty seconds before the token expires, counted from when the answer
came.  A call that finds nothing to hand out fetches a token of its own; between its request
and the answer other calls come and go, and fetch as well.

A token out of the cache is in force exactly if the broker's answers take at most those sixty
seconds (`cached_in_force_iff`).

The token endpoint is not in the repository, and what is relied on of it is named: an answer is
delivered within `delay` of the issue of its token, it states no longer lifetime than the token
has, and one whose lifetime cannot be read comes only when the cache has run out (`Delivers`). The
last is needed since the client keeps the token before it reads the lifetime, so that an error
there leaves a new token with the old time.

The invariant `Backed` is about the token that is kept and the time until which it is handed out:
that time is at most the issue, the lifetime and the delay, less the minute.
-/

namespace AfricaFrontier

open Python Transition

/-! ## The client -/

/-- The credentials, and the token that is kept with its time. -/
structure AlpacaBrokerClient where
  clientId : Option String
  clientSecret : Option String
  /-- `_access_token`; `None` is `null`. -/
  accessToken : Json := .null
  tokenExpiresAt : Instant := 0

/-- What the token endpoint answers. -/
inductive TokenAnswer
  /-- No answer, an error status, or a body that is no JSON. -/
  | failed
  | body (payload : Json)

inductive TokenError
  | notConfigured (detail : String)
  | transport
  /-- `payload["access_token"]` without such a field, or of something that is no dict. -/
  | subscript
  | python (error : PyError)

namespace AlpacaBrokerClient

variable (client : AlpacaBrokerClient)

/-- `configured`. -/
def configured : Bool := (truthy client.clientId).isSome && (truthy client.clientSecret).isSome

/-- The lifetime an answer states: `int(payload.get("expires_in", 300))`. -/
def expiresIn (payload : Obj) : Except PyError ℤ := pyInt (payload.getD "expires_in" (.int 300))

/-- `_fetch_token` from the answer on: the token is kept before its lifetime is read. -/
def receive (now : Instant) : TokenAnswer → AlpacaBrokerClient × Except TokenError Json
  | .failed => (client, .error .transport)
  | .body (.obj payload) =>
      match Obj.find payload "access_token" with
      | none => (client, .error .subscript)
      | some token =>
          match expiresIn payload with
          | .error error => ({ client with accessToken := token }, .error (.python error))
          | .ok n =>
              ({ client with
                  accessToken := token
                  tokenExpiresAt := now + seconds n - seconds 60 }, .ok token)
  | .body _ => (client, .error .subscript)

/-- `token` up to its first suspension: the token it has, or that it has to fetch one. A token is
handed out up to a minute before the end of its stated lifetime. -/
def token (now : Instant) : Except TokenError (Option Json) :=
  if client.accessToken = .null ∨ client.tokenExpiresAt ≤ now then
    if client.configured then .ok none
    else .error (.notConfigured "Alpaca Broker credentials are not configured")
  else .ok (some client.accessToken)

end AlpacaBrokerClient

/-- What an answer does to the client. -/
inductive Receives (client : AlpacaBrokerClient) (now : Instant) :
    TokenAnswer → AlpacaBrokerClient × Except TokenError Json → Prop
  | refused {reply : TokenAnswer} (error : TokenError) :
      Receives client now reply (client, .error error)
  | unstated {payload : Obj} {token : Json} (htoken : payload.find "access_token" = some token)
      {error : PyError} (hunstated : AlpacaBrokerClient.expiresIn payload = .error error) :
      Receives client now (.body (.obj payload))
        ({ client with accessToken := token }, .error (.python error))
  | fetched {payload : Obj} {token : Json} (htoken : payload.find "access_token" = some token)
      {n : ℤ} (hstated : AlpacaBrokerClient.expiresIn payload = .ok n) :
      Receives client now (.body (.obj payload))
        ({ client with accessToken := token, tokenExpiresAt := now + seconds n - seconds 60 },
          .ok token)

/-- Every answer is one of these. -/
theorem AlpacaBrokerClient.receive_cases (client : AlpacaBrokerClient) (now : Instant)
    (reply : TokenAnswer) : Receives client now reply (client.receive now reply) := by
  unfold AlpacaBrokerClient.receive
  split
  · exact .refused _
  · rename_i payload
    split
    · exact .refused _
    · rename_i token htoken
      split
      · rename_i error hunstated
        exact .unstated htoken hunstated
      · rename_i n hstated
        exact .fetched htoken hstated
  · exact .refused _

/-! ## Calls, one among others

A call that has to fetch gives way to others until its answer comes. -/

/-- A token the broker issued. -/
structure TokenGrant where
  token : Json
  time : Instant
  /-- In seconds. -/
  lifetime : ℤ

/-- The token is in force. -/
def TokenGrant.InForceAt (g : TokenGrant) (now : Instant) : Prop :=
  now < g.time + seconds g.lifetime

/-- A token that a call was given. -/
structure TokenUse where
  token : Json
  time : Instant
  cached : Bool

/-- The client, the clock, and what was issued and handed out, which no code keeps. -/
structure TokenWorld where
  client : AlpacaBrokerClient
  clock : Instant
  /-- Calls that wait for an answer. -/
  fetching : ℕ
  grants : List TokenGrant
  uses : List TokenUse

inductive TokenEvent
  /-- A call of `token`. -/
  | call (now : Instant)
  /-- The broker issues a token. -/
  | grant (g : TokenGrant)
  /-- One of the waiting calls is answered, or fails. -/
  | answer (now : Instant) (reply : TokenAnswer)

def TokenEvent.time : TokenEvent → Instant
  | .call now => now
  | .grant g => g.time
  | .answer now _ => now

namespace TokenWorld

/-- Before the first call. -/
def start (clientId clientSecret : Option String) : TokenWorld where
  client := { clientId, clientSecret }
  clock := 0
  fetching := 0
  grants := []
  uses := []

/-- A call begins. -/
def called (w : TokenWorld) (now : Instant) : TokenWorld :=
  match w.client.token now with
  | .ok (some token) => { w with clock := now, uses := w.uses ++ [⟨token, now, true⟩] }
  | .ok none => { w with clock := now, fetching := w.fetching + 1 }
  | .error _ => { w with clock := now }

/-- A call is answered. -/
def answered (w : TokenWorld) (now : Instant) (reply : TokenAnswer) : TokenWorld where
  client := (w.client.receive now reply).1
  clock := now
  fetching := w.fetching - 1
  grants := w.grants
  uses := w.uses ++ ((w.client.receive now reply).2.toOption.map fun token =>
    ⟨token, now, false⟩).toList

end TokenWorld

/-- The client and the broker. -/
def tokenEvents : Machine TokenWorld TokenEvent where
  step w
    | .call now => some (w.called now)
    | .grant g => some { w with clock := g.time, grants := w.grants ++ [g] }
    | .answer now reply => if w.fetching = 0 then none else some (w.answered now reply)

/-- An answer brings a token that was issued at most `delay` before, and states no longer
lifetime than it has.  One that states none can be read only when the cache has run out. -/
structure Delivers (delay : ℤ) (w : TokenWorld) (now : Instant) (payload : Obj)
    (token : Json) (g : TokenGrant) : Prop where
  issued : g ∈ w.grants
  same : g.token = token
  prompt : now ≤ g.time + delay
  stated : ∀ n, AlpacaBrokerClient.expiresIn payload = .ok n → n ≤ g.lifetime
  unstated : (∀ n, AlpacaBrokerClient.expiresIn payload ≠ .ok n) →
    w.client.tokenExpiresAt ≤ now

/-- The clock does not go back, and answers are delivered within `delay`. -/
def Prompt (delay : ℤ) (w : TokenWorld) (event : TokenEvent) : Prop :=
  w.clock ≤ event.time ∧
    match event with
    | .answer now (.body (.obj payload)) => ∀ token, Obj.find payload "access_token" = some token →
        ∃ g, Delivers delay w now payload token g
    | _ => True

/-! ## What is kept -/

/-- The token that is kept was issued, and is handed out until a minute, less the delay, before
it expires; or it is not handed out. -/
def Backed (delay : ℤ) (w : TokenWorld) : Prop :=
  w.client.accessToken = .null ∨ w.client.tokenExpiresAt ≤ w.clock ∨
    ∃ g ∈ w.grants, g.token = w.client.accessToken ∧
      w.client.tokenExpiresAt ≤ g.time + seconds g.lifetime + (delay - seconds 60)

/-- What was handed out was issued. A token from the cache is in use before the issue, the
lifetime and the delay less the minute have passed. -/
structure TokenUse.From (delay : ℤ) (u : TokenUse) (g : TokenGrant) : Prop where
  same : g.token = u.token
  cached : u.cached = true → u.time < g.time + seconds g.lifetime + (delay - seconds 60)
  fresh : u.cached = false → u.time ≤ g.time + delay

/-- The invariant. -/
structure TokensBacked (delay : ℤ) (w : TokenWorld) : Prop where
  kept : Backed delay w
  used : ∀ u ∈ w.uses, ∃ g ∈ w.grants, u.From delay g

section Steps

variable {delay : ℤ} {w : TokenWorld} {now : Instant}

/-- Time passes, and more tokens are issued. -/
theorem TokensBacked.later {grants : List TokenGrant} (h : TokensBacked delay w)
    (hclock : w.clock ≤ now) (hgrants : w.grants ⊆ grants) :
    TokensBacked delay { w with clock := now, grants } where
  kept := by
    rcases h.kept with hnull | hexpired | ⟨g, hg, hsame, hbound⟩
    · exact Or.inl hnull
    · exact Or.inr (Or.inl (hexpired.trans hclock))
    · exact Or.inr (Or.inr ⟨g, hgrants hg, hsame, hbound⟩)
  used u hu := by
    obtain ⟨g, hg, hfrom⟩ := h.used u hu
    exact ⟨g, hgrants hg, hfrom⟩

/-- What a call finds. -/
theorem AlpacaBrokerClient.token_eq_ok_some {client : AlpacaBrokerClient} {token : Json}
    (h : client.token now = .ok (some token)) :
    client.accessToken = token ∧ client.accessToken ≠ .null ∧ now < client.tokenExpiresAt := by
  unfold AlpacaBrokerClient.token at h
  split_ifs at h with hnone hconfigured
  · cases h
  · obtain ⟨hsome, hvalid⟩ := not_or.mp hnone
    exact ⟨Option.some.inj (Except.ok.inj h), hsome, not_le.mp hvalid⟩

/-- A call keeps the invariant. -/
theorem TokensBacked.called (h : TokensBacked delay w) (hclock : w.clock ≤ now) :
    TokensBacked delay (w.called now) := by
  have hlater := h.later hclock (List.Subset.refl w.grants)
  unfold TokenWorld.called
  split
  · rename_i token htoken
    obtain ⟨rfl, hsome, hvalid⟩ := AlpacaBrokerClient.token_eq_ok_some htoken
    refine ⟨hlater.kept, fun u hu => ?_⟩
    rcases List.mem_append.mp hu with hold | hnew
    · exact hlater.used u hold
    · obtain rfl := List.mem_singleton.mp hnew
      -- what is handed out is not expired, so it is backed
      rcases h.kept with hnull | hexpired | ⟨g, hg, hsame, hbound⟩
      · exact absurd hnull hsome
      · exact absurd (hvalid.trans_le (hexpired.trans hclock)) (lt_irrefl now)
      · exact ⟨g, hg, hsame, fun _ => hvalid.trans_le hbound,
          fun hfresh => Bool.noConfusion hfresh⟩
  · exact ⟨hlater.kept, hlater.used⟩
  · exact hlater

/-- An answer keeps the invariant. -/
theorem TokensBacked.answered {reply : TokenAnswer} (h : TokensBacked delay w)
    (hprompt : Prompt delay w (.answer now reply)) : TokensBacked delay (w.answered now reply) := by
  obtain ⟨hclock, hdelivers⟩ := hprompt
  have hlater := h.later hclock (List.Subset.refl w.grants)
  have hreceives := w.client.receive_cases now reply
  unfold TokenWorld.answered
  generalize w.client.receive now reply = result at hreceives
  cases hreceives with
  | refused error => exact ⟨hlater.kept, by simpa [Except.toOption] using hlater.used⟩
  -- a new token with the old time, which has passed
  | @unstated payload token htoken error hunstated =>
      obtain ⟨g, hdeliver⟩ := hdelivers token htoken
      have hexpired := hdeliver.unstated fun n hn => by cases hunstated.symm.trans hn
      exact ⟨Or.inr (Or.inl hexpired), by simpa [Except.toOption] using hlater.used⟩
  | @fetched payload token htoken n hstated =>
      obtain ⟨g, hdeliver⟩ := hdelivers token htoken
      have hlifetime : seconds n ≤ seconds g.lifetime :=
        Int.mul_le_mul_of_nonneg_right (hdeliver.stated n hstated) (by decide)
      have hprompt := hdeliver.prompt
      refine ⟨Or.inr (Or.inr ⟨g, hdeliver.issued, hdeliver.same, ?_⟩), fun u hu => ?_⟩
      · show now + seconds n - seconds 60 ≤ _
        linarith
      · rcases List.mem_append.mp hu with hold | hnew
        · exact hlater.used u hold
        · obtain rfl := List.mem_singleton.mp hnew
          exact ⟨g, hdeliver.issued, hdeliver.same, fun hcached => Bool.noConfusion hcached,
            fun _ => hdeliver.prompt⟩

/-- Every event keeps the invariant. -/
theorem TokensBacked.step {w' : TokenWorld} {event : TokenEvent}
    (hstep : tokenEvents.step w event = some w') (hprompt : Prompt delay w event)
    (h : TokensBacked delay w) : TokensBacked delay w' := by
  cases event with
  | call now =>
      obtain rfl := Option.some.inj hstep
      exact h.called hprompt.1
  | grant g =>
      obtain rfl := Option.some.inj hstep
      exact h.later hprompt.1 (List.subset_append_left _ _)
  | answer now reply =>
      simp only [tokenEvents] at hstep
      split_ifs at hstep with hidle
      obtain rfl := Option.some.inj hstep
      exact h.answered hprompt

/-- There is no token yet. -/
theorem tokensBacked_start (clientId clientSecret : Option String) :
    TokensBacked delay (.start clientId clientSecret) where
  kept := Or.inl rfl
  used _ hu := absurd hu List.not_mem_nil

end Steps

/-! ## The margin

With a longer delay there is a run that hands out a token which has expired. -/

/-- In every run whose answers take at most `delay`, what comes out of the cache is in force at
that moment. -/
def CacheInForce (clientId clientSecret : Option String) (delay : ℤ) : Prop :=
  ∀ events w, Run tokenEvents (Prompt delay) (.start clientId clientSecret) events w →
    ∀ u ∈ w.uses, u.cached = true → ∃ g ∈ w.grants, g.token = u.token ∧ g.InForceAt u.time

/-- The answer to a request for a token. -/
def tokenPayload (lifetime : ℤ) : Obj := [("access_token", .str "t"), ("expires_in", .int lifetime)]

/-- A token is fetched that is on its way for `delay`, and handed out again at the last
moment. -/
def slowFetch (delay : ℤ) : List TokenEvent :=
  [.call 0, .grant ⟨.str "t", 0, 120⟩, .answer delay (.body (.obj (tokenPayload 120))),
    .call (delay + seconds 60 - 1)]

/-- What is known after that. -/
def slowlyFetched (clientId clientSecret : Option String) (delay : ℤ) : TokenWorld where
  client := { clientId, clientSecret, accessToken := .str "t",
              tokenExpiresAt := delay + seconds 120 - seconds 60 }
  clock := delay + seconds 60 - 1
  fetching := 0
  grants := [⟨.str "t", 0, 120⟩]
  uses := [⟨.str "t", delay, false⟩, ⟨.str "t", delay + seconds 60 - 1, true⟩]

/-- That is a run with the delay. -/
theorem slowFetch_run {clientId clientSecret : Option String} {delay : ℤ}
    (hconfigured : AlpacaBrokerClient.configured { clientId, clientSecret } = true)
    (hdelay : seconds 60 < delay) :
    Run tokenEvents (Prompt delay) (.start clientId clientSecret) (slowFetch delay)
      (slowlyFetched clientId clientSecret delay) := by
  let fetching : TokenWorld := { TokenWorld.start clientId clientSecret with fetching := 1 }
  let granted : TokenWorld := { fetching with grants := [⟨.str "t", 0, 120⟩] }
  let fetched : TokenWorld := { granted with
    client := { clientId, clientSecret, accessToken := .str "t",
                tokenExpiresAt := delay + seconds 120 - seconds 60 }
    clock := delay
    fetching := 0
    uses := [⟨.str "t", delay, false⟩] }
  have hpositive : 0 ≤ delay := (by decide : 0 ≤ seconds 60).trans hdelay.le
  have hcall : tokenEvents.step (.start clientId clientSecret) (.call 0) = some fetching := by
    simp [tokenEvents, TokenWorld.called, AlpacaBrokerClient.token, TokenWorld.start, hconfigured,
      fetching]
  have hgrant : tokenEvents.step fetching (.grant ⟨.str "t", 0, 120⟩) = some granted := rfl
  have hanswer : tokenEvents.step granted (.answer delay (.body (.obj (tokenPayload 120)))) =
      some fetched := rfl
  have hstored : ¬ (Json.str "t" = .null ∨
      delay + seconds 120 - seconds 60 ≤ delay + seconds 60 - 1) := by
    rintro (hnull | hexpired)
    · cases hnull
    · simp only [seconds] at hexpired
      omega
  have hagain : tokenEvents.step fetched (.call (delay + seconds 60 - 1)) =
      some (slowlyFetched clientId clientSecret delay) := by
    simp only [tokenEvents, TokenWorld.called, AlpacaBrokerClient.token, fetched, granted,
      if_neg hstored]
    rfl
  have hdelivers : Delivers delay granted delay (tokenPayload 120) (.str "t")
      ⟨.str "t", 0, 120⟩ :=
    { issued := List.mem_singleton.mpr rfl
      same := rfl
      prompt := (zero_add delay).ge
      stated := fun n hn => (Except.ok.inj hn).ge
      unstated := fun hnone => absurd rfl (hnone 120) }
  -- a fetch, its grant, the answer after the delay, and a call just before the stored time
  refine Run.cons hcall ⟨le_refl 0, trivial⟩ (Run.cons hgrant ⟨le_refl 0, trivial⟩
    (Run.cons hanswer ⟨hpositive, fun token htoken => ?_⟩ (Run.cons hagain ⟨?_, trivial⟩
      (Run.nil _))))
  · obtain rfl := Option.some.inj htoken
    exact ⟨_, hdelivers⟩
  · show delay ≤ delay + seconds 60 - 1
    simp only [seconds]
    omega

/-- **The margin is a minute**: what comes out of the cache is in force in every run whose
answers take at most `delay`, if and only if that is no more than sixty seconds. -/
theorem cached_in_force_iff {clientId clientSecret : Option String} {delay : ℤ}
    (hconfigured : AlpacaBrokerClient.configured { clientId, clientSecret } = true) :
    CacheInForce clientId clientSecret delay ↔ delay ≤ seconds 60 := by
  constructor
  · intro h
    by_contra hslow
    obtain ⟨g, hg, -, hforce⟩ := h _ _ (slowFetch_run hconfigured (not_le.mp hslow))
      ⟨.str "t", delay + seconds 60 - 1, true⟩ (List.mem_cons_of_mem _ (List.mem_singleton.mpr rfl))
      rfl
    obtain rfl := List.mem_singleton.mp hg
    have hlate : delay + 60000000 - 1 < 0 + 120000000 := hforce
    simp only [seconds] at hslow
    omega
  · intro hdelay events w run u hu hcached
    have hbacked := run.preserves (fun _ _ _ hstep hprompt h => TokensBacked.step hstep hprompt h)
      (tokensBacked_start clientId clientSecret)
    obtain ⟨g, hg, hfrom⟩ := hbacked.used u hu
    refine ⟨g, hg, hfrom.same, (hfrom.cached hcached).trans_le ?_⟩
    linarith

/-- The statement on a delay of half a minute. -/
theorem cached_in_force_iff_sandbox :
    CacheInForce (some "id") (some "secret") (seconds 30) ↔ seconds 30 ≤ seconds 60 :=
  cached_in_force_iff (by decide)

end AfricaFrontier
