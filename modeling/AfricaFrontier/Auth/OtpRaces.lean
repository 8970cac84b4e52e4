import AfricaFrontier.Auth.Histories
import AfricaFrontier.Lib.Pool

/-!
# One-time codes under concurrent requests

The four OTP routes statement by statement, any number of them at a time over one database
that shows each statement what is committed.  A verification reads a challenge, compares
the digests and counts the attempt in its own copy of the row, and only its commit, some
statements later, writes the count and the consumption.  Until then the row looks as it did,
and another verification may try it again.

The store remembers the comparisons made and the verifications that succeeded, by challenge,
which no code reads.  `tries_bounded` gives both limits for the runs in which a digest is
only compared when every earlier comparison for that challenge has been committed.

The run lemma is an outline in the sense of `Sessions`: a global invariant of the store
(`OtpCounted`), what a session in flight knows (`OtpKnows`), and what two sessions do not share
(`Apart`). Its four obligations are `OtpMove.global`, `OtpMove.own`, `OtpMove.others` and
`OtpMove.apart`. All four are cases on `OtpMove`, the list of what one statement of any of the
routes can do; that a statement does one of these things is shown per phase, in the lemmas that
end in `_move`, and nothing after them unfolds `OtpSession.step`.

A verification by itself, statement after statement, comes to what the route of `Routes` does in
one call (`verifySignup_solo`, `verifyPhone_solo`).
-/

namespace AfricaFrontier

open Python Relational Transition

/-! ## The sessions

What is a statement of its own is what another request can come between: each query, each commit,
and the call that sends a code. -/

/-- A call of one of the OTP routes. -/
inductive OtpCall
  | requestSignup (payload : OtpRequest)
  | verifySignup (payload : OtpVerifyRequest)
  | requestPhone (userId : ℕ) (payload : PhoneOtpRequest)
  | verifyPhone (userId : ℕ) (payload : PhoneOtpVerifyRequest)

/-- Where a call stands. -/
inductive OtpPhase
  | received
  /-- A phone route has read its user. -/
  | matched (user : User)
  /-- The code was right; the user is looked up next. -/
  | checked (challenge : Dirty UserOtpChallenge) (now : Instant)
  /-- A verification is about to commit, and succeeds with it or not. -/
  | staged (work : OtpWork) (succeeds : Bool)
  /-- A request is about to commit a new challenge. -/
  | admitted (challenge : UserOtpChallenge)
  | sending (challenge : UserOtpChallenge)
  /-- The code could not be sent; the challenge is about to be withdrawn. -/
  | failing (challenge : UserOtpChallenge) (now : Instant)

/-- The environment's part in one statement: the clock, whether the database fails, the
code that is drawn and whether it can be sent. -/
structure OtpTick where
  now : Instant
  fault : Bool := false
  code : String := ""
  sent : Bool := true

/-- A call in flight. -/
structure OtpSession where
  call : OtpCall
  phase : OtpPhase

/-- The database, and by challenge the comparisons made and the verifications that
succeeded. -/
structure OtpStore where
  db : AuthDb
  compared : List ℕ
  succeeded : List ℕ

/-- Before the first request: users, and no challenges. -/
def OtpStore.start (users : Table User) : OtpStore := ⟨⟨users, Table.empty⟩, [], []⟩

/-- A digest of the challenge was compared. -/
def OtpStore.compare (s : OtpStore) (challenge : ℕ) : OtpStore :=
  { s with compared := s.compared ++ [challenge] }

/-- A verification has committed. -/
def OtpStore.commit (s : OtpStore) (db : AuthDb) (challenge : ℕ) (succeeds : Bool) : OtpStore :=
  { s with
    db := db
    succeeded := s.succeeded ++ if succeeds then [challenge] else [] }

/-- The attempt the next statement of a session makes, if it makes one: the challenge is the
newest open one at that moment, and its row is read and compared in one go. -/
def OtpSession.attempt (config : AuthConfig) (db : AuthDb) (now : Instant) :
    OtpSession → Option Attempt
  | ⟨.verifySignup payload, .received⟩ =>
      let email := config.normalizeEmail payload.email
      some (config.attempt .signup email payload.code
        (checkConsents payload.identityConsent payload.termsAccepted) now
        (db.openChallenge .signup email none))
  | ⟨.verifyPhone _ payload, .matched user⟩ =>
      let phone := config.normalizePhone payload.whatsappPhone
      some (config.attempt .phoneVerify phone payload.code (.ok ()) now
        (db.openChallenge .phoneVerify user.email (some phone)))
  | _ => none

/-- The statement after an attempt. -/
def OtpSession.afterAttempt (s : OtpStore) (call : OtpCall) (attempt : Attempt)
    (accepted : Dirty UserOtpChallenge → OtpPhase) : OtpStore × Option OtpSession :=
  match attempt with
  | .refused _ => (s, none)
  | .spent d _ => (s.compare d.loaded.id, some ⟨call, .staged ⟨d, .keep⟩ false⟩)
  | .accepted d => (s.compare d.loaded.id, some ⟨call, accepted d⟩)

/-- A request for a code reads the recent challenges. -/
def OtpSession.admit (s : OtpStore) (call : OtpCall) (challenge : UserOtpChallenge)
    (now : Instant) : OtpStore × Option OtpSession :=
  if s.db.recentChallenge challenge.purpose challenge.email challenge.phone now then (s, none)
  else (s, some ⟨call, .admitted challenge⟩)

/-- The next statement of a session, where the database does not fail. A statement is what no
other request can come between. -/
def OtpSession.step (config : AuthConfig) (s : OtpStore) (tick : OtpTick) :
    OtpSession → OtpStore × Option OtpSession
  | ⟨.requestSignup payload, .received⟩ =>
      match checkConsents payload.identityConsent payload.termsAccepted with
      | .error _ => (s, none)
      | .ok () =>
          let email := config.normalizeEmail payload.email
          OtpSession.admit s (.requestSignup payload)
            (config.newChallenge .signup email none email tick.code tick.now s.db.challenges.next)
            tick.now
  | ⟨.verifySignup payload, .received⟩ =>
      let email := config.normalizeEmail payload.email
      OtpSession.afterAttempt s (.verifySignup payload)
        (config.attempt .signup email payload.code
          (checkConsents payload.identityConsent payload.termsAccepted) tick.now
          (s.db.openChallenge .signup email none))
        fun d => .checked d tick.now
  | ⟨.requestPhone userId payload, .received⟩ =>
      match s.db.users.get userId with
      | none => (s, none)
      | some user =>
          if user.emailVerifiedAt = none then (s, none)
          else if config.normalizePhone user.profilePhone ≠
              config.normalizePhone payload.whatsappPhone then (s, none)
          else (s, some ⟨.requestPhone userId payload, .matched user⟩)
  | ⟨.verifyPhone userId payload, .received⟩ =>
      match s.db.users.get userId with
      | none => (s, none)
      | some user =>
          if config.normalizePhone user.profilePhone ≠
              config.normalizePhone payload.whatsappPhone then (s, none)
          else (s, some ⟨.verifyPhone userId payload, .matched user⟩)
  | ⟨.requestPhone userId payload, .matched user⟩ =>
      let phone := config.normalizePhone payload.whatsappPhone
      OtpSession.admit s (.requestPhone userId payload)
        (config.newChallenge .phoneVerify user.email (some phone) phone tick.code tick.now
          s.db.challenges.next)
        tick.now
  | ⟨.verifyPhone userId payload, .matched user⟩ =>
      let phone := config.normalizePhone payload.whatsappPhone
      OtpSession.afterAttempt s (.verifyPhone userId payload)
        (config.attempt .phoneVerify phone payload.code (.ok ()) tick.now
          (s.db.openChallenge .phoneVerify user.email (some phone)))
        fun d => .staged ⟨d, .update ⟨user, user.phoneVerified tick.now⟩⟩ true
  | ⟨.verifySignup payload, .checked d now⟩ =>
      let email := config.normalizeEmail payload.email
      match payload.confirm config now email (s.db.userByEmail email) with
      | .error _ => (s, none)
      | .ok write => (s, some ⟨.verifySignup payload, .staged ⟨d, write⟩ true⟩)
  | ⟨_, .staged work succeeds⟩ =>
      match work.flush s.db with
      | none => (s, none)
      | some db => (s.commit db work.challenge.loaded.id succeeds, none)
  | ⟨call, .admitted challenge⟩ =>
      -- the defaults of the columns are applied as the row is written
      let row := { challenge with
        id := s.db.challenges.next, attempts := 0, consumedAt := none, createdAt := tick.now }
      ({ s with db := s.db.issue row }, some ⟨call, .sending row⟩)
  | ⟨call, .sending challenge⟩ =>
      if tick.sent then (s, none) else (s, some ⟨call, .failing challenge tick.now⟩)
  | ⟨_, .failing challenge now⟩ =>
      let d : Dirty UserOtpChallenge := ⟨challenge, { challenge with consumedAt := some now }⟩
      ({ s with db := { s.db with challenges := s.db.putChallenge d } }, none)
  | _ => (s, none)

/-- The OTP routes; a database that fails ends the request, and sending a code does not use
it. -/
def otpRoutes (config : AuthConfig) : Sessions OtpStore OtpCall OtpSession OtpTick where
  init call := ⟨call, .received⟩
  advance s t tick :=
    match t.phase with
    | .sending _ => some (t.step config s tick)
    | _ => if tick.fault then some (s, none) else some (t.step config s tick)

/-! ## A verification by itself

Nobody else in between, the statements come to what the route does in one call. -/

section Alone

variable {config : AuthConfig} {s : OtpStore}

/-- A statement that does not fail. -/
theorem otpRoutes_advance_of_step {t : OtpSession} {tick : OtpTick} (hfault : tick.fault = false)
    {r : OtpStore × Option OtpSession} (h : t.step config s tick = r) :
    (otpRoutes config).advance s t tick = some r := by
  simp only [otpRoutes, hfault]
  split
  · rw [h]
  · simpa using h

/-- The commit of a verification that nobody interrupts. -/
theorem staged_solo (config : AuthConfig) {call : OtpCall} {work : OtpWork} {succeeds : Bool}
    {tick : OtpTick} (hfault : tick.fault = false) {α : Type} (answer : Except AuthError α) :
    ∃ s', (otpRoutes config).Solo tick s ⟨call, .staged work succeeds⟩ s' ∧
      s'.db = (work.commit ⟨tick.now, false⟩ s.db answer).1 := by
  have hstep : OtpSession.step config s tick ⟨call, .staged work succeeds⟩ =
      match work.flush s.db with
      | none => (s, none)
      | some db => (s.commit db work.challenge.loaded.id succeeds, none) := by
    cases call <;> rfl
  cases hflush : work.flush s.db with
  | none =>
      rw [hflush] at hstep
      refine ⟨s, .last (otpRoutes_advance_of_step hfault hstep), ?_⟩
      simp [OtpWork.commit, hflush]
  | some db =>
      rw [hflush] at hstep
      refine ⟨_, .last (otpRoutes_advance_of_step hfault hstep), ?_⟩
      simp [OtpWork.commit, hflush, OtpStore.commit]

/-- `verify_signup_otp`, statement by statement. -/
theorem verifySignup_solo {tick : OtpTick} (hfault : tick.fault = false)
    (payload : OtpVerifyRequest) :
    ∃ s', (otpRoutes config).Solo tick s ⟨.verifySignup payload, .received⟩ s' ∧
      s'.db = (verifySignupOtp config ⟨tick.now, false⟩ payload s.db).1 := by
  simp only [verifySignupOtp]
  cases hattempt : config.attempt .signup (config.normalizeEmail payload.email) payload.code
      (checkConsents payload.identityConsent payload.termsAccepted) tick.now
      (s.db.openChallenge .signup (config.normalizeEmail payload.email) none) with
  | refused error =>
      have hstep : OtpSession.step config s tick ⟨.verifySignup payload, .received⟩ =
          (s, none) := by
        simp only [OtpSession.step, OtpSession.afterAttempt, hattempt]
      exact ⟨s, .last (otpRoutes_advance_of_step hfault hstep), rfl⟩
  -- a wrong code or a missing consent: one try more, and the challenge is written back
  | spent d error =>
      have hstep : OtpSession.step config s tick ⟨.verifySignup payload, .received⟩ =
          (s.compare d.loaded.id, some ⟨.verifySignup payload, .staged ⟨d, .keep⟩ false⟩) := by
        simp only [OtpSession.step, OtpSession.afterAttempt, hattempt]
      obtain ⟨s', hsolo, hdb⟩ := staged_solo config hfault (.error error)
      exact ⟨s', .next (otpRoutes_advance_of_step hfault hstep) hsolo, hdb⟩
  -- the code is right; the user is looked up between the comparison and the write
  | accepted d =>
      have hstep : OtpSession.step config s tick ⟨.verifySignup payload, .received⟩ =
          (s.compare d.loaded.id, some ⟨.verifySignup payload, .checked d tick.now⟩) := by
        simp only [OtpSession.step, OtpSession.afterAttempt, hattempt]
      cases hconfirm : payload.confirm config tick.now (config.normalizeEmail payload.email)
          (s.db.userByEmail (config.normalizeEmail payload.email)) with
      | error e =>
          have hlooked : OtpSession.step config (s.compare d.loaded.id) tick
              ⟨.verifySignup payload, .checked d tick.now⟩ = (s.compare d.loaded.id, none) := by
            simp only [OtpSession.step, OtpStore.compare, hconfirm]
          exact ⟨_, .next (otpRoutes_advance_of_step hfault hstep)
            (.last (otpRoutes_advance_of_step hfault hlooked)), rfl⟩
      | ok write =>
          have hlooked : OtpSession.step config (s.compare d.loaded.id) tick
              ⟨.verifySignup payload, .checked d tick.now⟩ =
                (s.compare d.loaded.id,
                  some ⟨.verifySignup payload, .staged ⟨d, write⟩ true⟩) := by
            simp only [OtpSession.step, OtpStore.compare, hconfirm]
          obtain ⟨s', hsolo, hdb⟩ := staged_solo config hfault
            (.ok (config.issueTokens (write.userId s.db.users) tick.now))
          exact ⟨s', .next (otpRoutes_advance_of_step hfault hstep)
            (.next (otpRoutes_advance_of_step hfault hlooked) hsolo), hdb⟩

/-- `verify_phone_otp`, statement by statement. -/
theorem verifyPhone_solo {tick : OtpTick} (hfault : tick.fault = false) (userId : ℕ)
    (payload : PhoneOtpVerifyRequest) :
    ∃ s', (otpRoutes config).Solo tick s ⟨.verifyPhone userId payload, .received⟩ s' ∧
      s'.db = (verifyPhoneOtp config ⟨tick.now, false⟩ userId payload s.db).1 := by
  simp only [verifyPhoneOtp]
  cases huser : s.db.users.get userId with
  | none =>
      have hstep : OtpSession.step config s tick ⟨.verifyPhone userId payload, .received⟩ =
          (s, none) := by
        simp only [OtpSession.step, huser]
      exact ⟨s, .last (otpRoutes_advance_of_step hfault hstep), rfl⟩
  | some user =>
      -- the number must be the one of the profile before any challenge is looked for
      by_cases hmatched : config.normalizePhone user.profilePhone =
          config.normalizePhone payload.whatsappPhone
      · have hread : OtpSession.step config s tick ⟨.verifyPhone userId payload, .received⟩ =
            (s, some ⟨.verifyPhone userId payload, .matched user⟩) := by
          simp only [OtpSession.step, huser, if_neg (not_not.mpr hmatched)]
        simp only [if_neg (not_not.mpr hmatched)]
        cases hattempt : config.attempt .phoneVerify (config.normalizePhone payload.whatsappPhone)
            payload.code (.ok ()) tick.now (s.db.openChallenge .phoneVerify user.email
              (some (config.normalizePhone payload.whatsappPhone))) with
        | refused error =>
            have hstep : OtpSession.step config s tick
                ⟨.verifyPhone userId payload, .matched user⟩ = (s, none) := by
              simp only [OtpSession.step, OtpSession.afterAttempt, hattempt]
            exact ⟨s, .next (otpRoutes_advance_of_step hfault hread)
              (.last (otpRoutes_advance_of_step hfault hstep)), rfl⟩
        | spent d error =>
            have hstep : OtpSession.step config s tick
                ⟨.verifyPhone userId payload, .matched user⟩ = (s.compare d.loaded.id,
                  some ⟨.verifyPhone userId payload, .staged ⟨d, .keep⟩ false⟩) := by
              simp only [OtpSession.step, OtpSession.afterAttempt, hattempt]
            obtain ⟨s', hsolo, hdb⟩ := staged_solo config hfault (.error error)
            exact ⟨s', .next (otpRoutes_advance_of_step hfault hread)
              (.next (otpRoutes_advance_of_step hfault hstep) hsolo), hdb⟩
        | accepted d =>
            have hstep : OtpSession.step config s tick
                ⟨.verifyPhone userId payload, .matched user⟩ = (s.compare d.loaded.id,
                  some ⟨.verifyPhone userId payload,
                    .staged ⟨d, .update ⟨user, user.phoneVerified tick.now⟩⟩ true⟩) := by
              simp only [OtpSession.step, OtpSession.afterAttempt, hattempt]
            obtain ⟨s', hsolo, hdb⟩ := staged_solo config hfault
              (.ok (user.phoneVerified tick.now).kycStatus)
            exact ⟨s', .next (otpRoutes_advance_of_step hfault hread)
              (.next (otpRoutes_advance_of_step hfault hstep) hsolo), hdb⟩
      · have hstep : OtpSession.step config s tick ⟨.verifyPhone userId payload, .received⟩ =
            (s, none) := by
          simp only [OtpSession.step, huser, if_pos hmatched]
        simp only [if_pos hmatched]
        exact ⟨s, .last (otpRoutes_advance_of_step hfault hstep), rfl⟩

end Alone

/-! ## The condition

It is on the row a comparison is about to be made for: its count is that of all the comparisons so
far. A second verification in flight for the same challenge has made one that the row does not
count. -/

/-- The challenge a session has compared and not committed yet. -/
def OtpPhase.held : OtpPhase → Option (Dirty UserOtpChallenge)
  | .checked d _ => some d
  | .staged work _ => some work.challenge
  | _ => none

/-- What is on its way to a success consumes its challenge. -/
def OtpPhase.Consuming : OtpPhase → Prop
  | .checked d _ => d.current.consumedAt ≠ none
  | .staged work true => work.challenge.current.consumedAt ≠ none
  | _ => True

/-- The condition on a statement: a digest is compared only if the row of the challenge
counts every comparison made for it before. -/
def countedBefore (config : AuthConfig) (s : OtpStore) (t : OtpSession) (tick : OtpTick) : Prop :=
  tick.fault = false → ∀ attempt d, t.attempt config s.db tick.now = some attempt →
    attempt.challenge = some d → s.compared.count d.loaded.id = d.loaded.attempts

/-! ## What a statement can do -/

/-- One statement of a session. -/
inductive OtpMove (config : AuthConfig) (s : OtpStore) (t : OtpSession) (tick : OtpTick) :
    OtpStore → Option OtpSession → Prop
  | ended : OtpMove config s t tick s none
  | read {phase : OtpPhase} (hfree : phase.held = none) (hconsuming : phase.Consuming) :
      OtpMove config s t tick s (some ⟨t.call, phase⟩)
  | compared {attempt : Attempt} {d : Dirty UserOtpChallenge} {phase : OtpPhase}
      (hfault : tick.fault = false) (hattempt : t.attempt config s.db tick.now = some attempt)
      (hchallenge : attempt.challenge = some d) (hstored : d.loaded ∈ s.db.challenges)
      (hopen : d.loaded.consumedAt = none) (hattempts : d.loaded.attempts < config.otpMaxAttempts)
      (hspends : d.current.attempts = d.loaded.attempts + 1) (hheld : phase.held = some d)
      (hconsuming : phase.Consuming) :
      OtpMove config s t tick (s.compare d.loaded.id) (some ⟨t.call, phase⟩)
  | confirmed {d : Dirty UserOtpChallenge} {now : Instant} {write : UserWrite}
      (hphase : t.phase = .checked d now) :
      OtpMove config s t tick s (some ⟨t.call, .staged ⟨d, write⟩ true⟩)
  | committed {work : OtpWork} {succeeds : Bool} {db : AuthDb}
      (hphase : t.phase = .staged work succeeds) (hflush : work.flush s.db = some db) :
      OtpMove config s t tick (s.commit db work.challenge.loaded.id succeeds) none
  | issued {challenge : UserOtpChallenge} (hattempts : challenge.attempts = 0) :
      OtpMove config s t tick { s with db := s.db.issue challenge }
        (some ⟨t.call, .sending challenge⟩)
  | withdrawn {challenge : UserOtpChallenge} {now : Instant} :
      OtpMove config s t tick
        { s with
          db := { s.db with
            challenges :=
              s.db.putChallenge ⟨challenge, { challenge with consumedAt := some now }⟩ } } none

section Moves

variable {config : AuthConfig} {s s' : OtpStore} {t : OtpSession} {tick : OtpTick}
  {o : Option OtpSession}

/-- A request for a code is refused, or goes on with its new challenge. -/
theorem OtpSession.admit_move {call : OtpCall} {challenge : UserOtpChallenge} {now : Instant}
    (hcall : t.call = call) (h : OtpSession.admit s call challenge now = (s', o)) :
    OtpMove config s t tick s' o := by
  unfold OtpSession.admit at h
  split at h
  · cases h
    exact .ended
  · cases h
    rw [← hcall]
    exact .read rfl trivial

/-- After an attempt a session is over, or has its work staged. -/
theorem OtpSession.afterAttempt_move {call : OtpCall} {purpose : OtpPurpose} {email : String}
    {phone : Option String} {target code : String} {consents : Except AuthError Unit}
    {accepted : Dirty UserOtpChallenge → OtpPhase} (hcall : t.call = call)
    (hfault : tick.fault = false)
    (hattempt : t.attempt config s.db tick.now = some (config.attempt purpose target code consents
      tick.now (s.db.openChallenge purpose email phone)))
    (hheld : ∀ d, (accepted d).held = some d)
    (hconsuming : ∀ d, d.current.consumedAt ≠ none → (accepted d).Consuming)
    (h : OtpSession.afterAttempt s call (config.attempt purpose target code consents tick.now
      (s.db.openChallenge purpose email phone)) accepted = (s', o)) :
    OtpMove config s t tick s' o := by
  subst hcall
  -- both outcomes of a comparison are one move, and differ in the phase they lead to
  have hcompared : ∀ {d : Dirty UserOtpChallenge} {phase : OtpPhase},
      (config.attempt purpose target code consents tick.now
        (s.db.openChallenge purpose email phone)).challenge = some d →
      phase.held = some d → phase.Consuming →
        OtpMove config s t tick (s.compare d.loaded.id) (some ⟨t.call, phase⟩) := by
    intro d phase hchallenge hphase hconsuming
    obtain ⟨hfound, hattempts, hspends⟩ := AuthConfig.attempt_challenge hchallenge
    obtain ⟨hstored, -, hopen⟩ := AuthDb.openChallenge_mem hfound
    exact .compared hfault hattempt hchallenge hstored hopen hattempts hspends hphase hconsuming
  unfold OtpSession.afterAttempt at h
  cases hresult : config.attempt purpose target code consents tick.now
      (s.db.openChallenge purpose email phone) with
  | refused error =>
      rw [hresult] at h
      cases h
      exact .ended
  | spent d error =>
      rw [hresult] at h
      cases h
      refine hcompared ?_ rfl trivial
      rw [hresult]
      rfl
  | accepted d =>
      rw [hresult] at h
      cases h
      refine hcompared ?_ (hheld d) (hconsuming d ?_)
      · rw [hresult]
        rfl
      · obtain ⟨c, -, -, -, -, rfl⟩ := AuthConfig.attempt_accepted hresult
        nofun

section Phases

variable {call : OtpCall}

/-- The first statement of a route.  `verify-signup` looks at the user and the challenge in it,
and the phone routes at the user alone. -/
theorem OtpSession.received_move (hfault : tick.fault = false)
    (h : OtpSession.step config s tick ⟨call, .received⟩ = (s', o)) :
    OtpMove config s ⟨call, .received⟩ tick s' o := by
  cases call with
  | requestSignup payload =>
      simp only [OtpSession.step] at h
      split at h
      · cases h
        exact .ended
      · exact OtpSession.admit_move rfl h
  -- the one route that compares in its first statement
  | verifySignup payload =>
      refine OtpSession.afterAttempt_move rfl hfault rfl ?_ ?_ h
      · exact fun d => rfl
      · exact fun d hd => hd
  | requestPhone userId payload =>
      simp only [OtpSession.step] at h
      split at h
      · cases h
        exact .ended
      · split at h
        · cases h
          exact .ended
        · split at h
          · cases h
            exact .ended
          · cases h
            exact .read rfl trivial
  | verifyPhone userId payload =>
      simp only [OtpSession.step] at h
      split at h
      · cases h
        exact .ended
      · split at h
        · cases h
          exact .ended
        · cases h
          exact .read rfl trivial

/-- The user is known: a phone route goes on to the challenge. -/
theorem OtpSession.matched_move {user : User} (hfault : tick.fault = false)
    (h : OtpSession.step config s tick ⟨call, .matched user⟩ = (s', o)) :
    OtpMove config s ⟨call, .matched user⟩ tick s' o := by
  cases call with
  | requestPhone userId payload => exact OtpSession.admit_move rfl h
  | verifyPhone userId payload =>
      refine OtpSession.afterAttempt_move rfl hfault rfl ?_ ?_ h
      · exact fun d => rfl
      · exact fun d hd => hd
  | _ =>
      cases h
      exact .ended

/-- The code was right: `verify-signup` looks the user up again. -/
theorem OtpSession.checked_move {d : Dirty UserOtpChallenge} {now : Instant}
    (h : OtpSession.step config s tick ⟨call, .checked d now⟩ = (s', o)) :
    OtpMove config s ⟨call, .checked d now⟩ tick s' o := by
  cases call with
  | verifySignup payload =>
      simp only [OtpSession.step] at h
      split at h
      · cases h
        exact .ended
      · cases h
        exact .confirmed rfl
  | _ =>
      cases h
      exact .ended

/-- The commit. -/
theorem OtpSession.staged_move {work : OtpWork} {succeeds : Bool}
    (h : OtpSession.step config s tick ⟨call, .staged work succeeds⟩ = (s', o)) :
    OtpMove config s ⟨call, .staged work succeeds⟩ tick s' o := by
  have hstep : (match work.flush s.db with
      | none => (s, (none : Option OtpSession))
      | some db => (s.commit db work.challenge.loaded.id succeeds, none)) = (s', o) := by
    cases call <;> exact h
  split at hstep
  · cases hstep
    exact .ended
  · rename_i db hflush
    cases hstep
    exact .committed rfl hflush

/-- A challenge is stored. -/
theorem OtpSession.admitted_move {challenge : UserOtpChallenge}
    (h : OtpSession.step config s tick ⟨call, .admitted challenge⟩ = (s', o)) :
    OtpMove config s ⟨call, .admitted challenge⟩ tick s' o := by
  let row := { challenge with
    id := s.db.challenges.next, attempts := 0, consumedAt := none, createdAt := tick.now }
  have hstep : ({ s with db := s.db.issue row },
      some (⟨call, .sending row⟩ : OtpSession)) = (s', o) := by
    cases call <;> exact h
  cases hstep
  exact .issued rfl

/-- The code is sent, or the provider fails. -/
theorem OtpSession.sending_move {challenge : UserOtpChallenge}
    (h : OtpSession.step config s tick ⟨call, .sending challenge⟩ = (s', o)) :
    OtpMove config s ⟨call, .sending challenge⟩ tick s' o := by
  have hstep : (if tick.sent then (s, none)
      else (s, some (⟨call, .failing challenge tick.now⟩ : OtpSession))) = (s', o) := by
    cases call <;> exact h
  split at hstep
  · cases hstep
    exact .ended
  · cases hstep
    exact .read rfl trivial

/-- The challenge of a code that was not sent is withdrawn. -/
theorem OtpSession.failing_move {challenge : UserOtpChallenge} {now : Instant}
    (h : OtpSession.step config s tick ⟨call, .failing challenge now⟩ = (s', o)) :
    OtpMove config s ⟨call, .failing challenge now⟩ tick s' o := by
  cases call <;> (cases h; exact .withdrawn)

end Phases

/-- The statements of the sessions. -/
theorem OtpSession.step_move (hfault : tick.fault = false ∨ ∃ c, t.phase = .sending c)
    (h : t.step config s tick = (s', o)) : OtpMove config s t tick s' o := by
  have hdatabase : (∀ c, t.phase ≠ .sending c) → tick.fault = false := fun hnot =>
    hfault.resolve_right fun ⟨c, hc⟩ => hnot c hc
  obtain ⟨call, phase⟩ := t
  cases phase with
  | received => exact OtpSession.received_move (hdatabase nofun) h
  | matched user => exact OtpSession.matched_move (hdatabase nofun) h
  | checked d now => exact OtpSession.checked_move h
  | staged work succeeds => exact OtpSession.staged_move h
  | admitted challenge => exact OtpSession.admitted_move h
  | sending challenge => exact OtpSession.sending_move h
  | failing challenge now => exact OtpSession.failing_move h

/-- A statement that fails ends the session, and any other is one of the list. -/
theorem otpRoutes_advance (h : (otpRoutes config).advance s t tick = some (s', o)) :
    OtpMove config s t tick s' o := by
  simp only [otpRoutes] at h
  split at h
  · rename_i challenge hphase
    exact OtpSession.step_move (Or.inr ⟨challenge, hphase⟩) (Option.some.inj h)
  · split at h
    · cases h
      exact .ended
    · rename_i hfault
      exact OtpSession.step_move (Or.inl (Bool.eq_false_iff.mpr hfault)) (Option.some.inj h)

/-! ## The invariant

While a session holds a challenge the row is one comparison behind, and that comparison is the
session's own. -/

/-- What the store knows of its challenges: the limits hold, a row counts no comparison that
was not made, and whoever succeeded has consumed the challenge. -/
structure OtpCounted (config : AuthConfig) (s : OtpStore) : Prop where
  tries : ∀ i, s.compared.count i ≤ config.otpMaxAttempts
  once : ∀ i, s.succeeded.count i ≤ 1
  attempts : ∀ c ∈ s.db.challenges, c.attempts ≤ s.compared.count c.id
  consumed : ∀ c ∈ s.db.challenges, s.succeeded.count c.id ≠ 0 → c.consumedAt ≠ none
  known : ∀ i, s.db.challenges.next ≤ i → s.compared.count i = 0 ∧ s.succeeded.count i = 0

/-- A session holds a challenge: it has made the one comparison that the row does not count
yet, and nobody has succeeded with it. -/
structure Holds (s : OtpStore) (d : Dirty UserOtpChallenge) : Prop where
  stored : ∃ c, s.db.challenges.get d.loaded.id = some c ∧ c.attempts = d.loaded.attempts
  counted : s.compared.count d.loaded.id = d.loaded.attempts + 1
  spends : d.current.attempts = d.loaded.attempts + 1
  opened : d.loaded.consumedAt = none
  unused : s.succeeded.count d.loaded.id = 0

/-- What is known of a session against the store. -/
structure OtpKnows (s : OtpStore) (t : OtpSession) : Prop where
  holds : ∀ d, t.phase.held = some d → Holds s d
  consuming : t.phase.Consuming

/-- Two sessions hold different challenges. -/
def Apart (t u : OtpSession) : Prop :=
  ∀ d e, t.phase.held = some d → u.phase.held = some e → d.loaded.id ≠ e.loaded.id

/-- Neither holds what the other does. -/
theorem Apart.symm {u : OtpSession} (h : Apart t u) : Apart u t :=
  fun d e hd he hsame => h e d he hd hsame.symm

/-- Who holds nothing is apart from everybody. -/
theorem apart_of_free {u : OtpSession} (h : t.phase.held = none) : Apart t u := by
  intro d e hd
  rw [h] at hd
  cases hd

/-- Who holds nothing has nothing to know. -/
theorem OtpKnows.of_free (hfree : t.phase.held = none) (hconsuming : t.phase.Consuming) :
    OtpKnows s t := by
  refine ⟨fun d hd => ?_, hconsuming⟩
  rw [hfree] at hd
  cases hd

/-- How often a challenge was compared, after one comparison more. -/
@[simp] theorem OtpStore.count_compare (i j : ℕ) :
    (s.compare j).compared.count i = s.compared.count i + if j = i then 1 else 0 := by
  simp [OtpStore.compare, List.count_append, List.count_singleton]

/-- How often it was accepted, after a commit. -/
@[simp] theorem OtpStore.count_commit (db : AuthDb) (i j : ℕ) (succeeds : Bool) :
    (s.commit db j succeeds).succeeded.count i =
      s.succeeded.count i + if succeeds = true ∧ j = i then 1 else 0 := by
  cases succeeds <;> simp [OtpStore.commit, List.count_append, List.count_singleton]

/-- What is compared has not been consumed, so nobody has succeeded with it, and it is held
by nobody whose comparison is not counted. -/
theorem OtpCounted.unused (h : OtpCounted config s) {c : UserOtpChallenge}
    (hc : c ∈ s.db.challenges) (hopen : c.consumedAt = none) : s.succeeded.count c.id = 0 := by
  by_contra hused
  exact h.consumed c hc hused hopen

/-- A comparison of another challenge. -/
theorem Holds.compare {d : Dirty UserOtpChallenge} (h : Holds s d) {i : ℕ}
    (hne : i ≠ d.loaded.id) : Holds (s.compare i) d where
  stored := h.stored
  counted := by
    rw [OtpStore.count_compare, if_neg hne]
    exact h.counted
  spends := h.spends
  opened := h.opened
  unused := h.unused

/-- A step of the table that keeps the count of a row keeps it held. -/
theorem Holds.of_stored {d : Dirty UserOtpChallenge} (h : Holds s d)
    (hcompared : s'.compared = s.compared)
    (hsucceeded : s'.succeeded.count d.loaded.id = s.succeeded.count d.loaded.id)
    (hstored : ∀ c, s.db.challenges.get d.loaded.id = some c →
      ∃ c', s'.db.challenges.get d.loaded.id = some c' ∧ c'.attempts = c.attempts) :
    Holds s' d where
  stored := by
    obtain ⟨c, hc, hattempts⟩ := h.stored
    obtain ⟨c', hc', hsame⟩ := hstored c hc
    exact ⟨c', hc', hsame.trans hattempts⟩
  counted := by
    rw [hcompared]
    exact h.counted
  spends := h.spends
  opened := h.opened
  unused := hsucceeded.trans h.unused

/-! ## What the statements do to it -/

/-- A comparison that meets the condition. -/
theorem OtpCounted.compare (h : OtpCounted config s) {d : Dirty UserOtpChallenge}
    (hstored : d.loaded ∈ s.db.challenges) (hattempts : d.loaded.attempts < config.otpMaxAttempts)
    (hcounted : s.compared.count d.loaded.id = d.loaded.attempts) :
    OtpCounted config (s.compare d.loaded.id) where
  tries i := by
    rw [OtpStore.count_compare]
    split
    · rename_i hi
      subst hi
      omega
    · exact h.tries i
  once := h.once
  attempts c hc := by
    have hbefore : c.attempts ≤ s.compared.count c.id := h.attempts c hc
    rw [OtpStore.count_compare]
    omega
  consumed := h.consumed
  known i hi := by
    have hid : d.loaded.id < s.db.challenges.next := s.db.challenges.fresh _ hstored
    have hnew : s.db.challenges.next ≤ i := hi
    rw [OtpStore.count_compare, if_neg (by omega)]
    exact h.known i hi

/-- Writing the held challenge back. -/
theorem UserOtpChallenge.writeBack_attempts {d : Dirty UserOtpChallenge} {c : UserOtpChallenge}
    (hspends : d.current.attempts = d.loaded.attempts + 1) :
    (UserOtpChallenge.writeBack d c).attempts = d.loaded.attempts + 1 := by
  show written d.loaded.attempts d.current.attempts c.attempts = _
  rw [written_of_ne (by omega), hspends]

/-- A consumption is written back. -/
theorem UserOtpChallenge.writeBack_consumed {d : Dirty UserOtpChallenge} {c : UserOtpChallenge}
    (hopen : d.loaded.consumedAt = none) (hconsumed : d.current.consumedAt ≠ none) :
    (UserOtpChallenge.writeBack d c).consumedAt ≠ none := by
  show written d.loaded.consumedAt d.current.consumedAt c.consumedAt ≠ none
  rw [written_of_ne (hopen ▸ hconsumed)]
  exact hconsumed

/-- The commit of a verification. -/
theorem OtpCounted.commit (h : OtpCounted config s) {work : OtpWork} {succeeds : Bool}
    {db : AuthDb} (hholds : Holds s work.challenge)
    (hconsuming : succeeds = true → work.challenge.current.consumedAt ≠ none)
    (hflush : work.flush s.db = some db) :
    OtpCounted config (s.commit db work.challenge.loaded.id succeeds) := by
  obtain ⟨-, hchallenges⟩ := OtpWork.flush_some hflush
  -- the commit writes the one challenge it holds back, and leaves the others
  have hmem : ∀ c' ∈ db.challenges, ∃ c ∈ s.db.challenges, c'.id = c.id ∧
      c' = if c.id = work.challenge.loaded.id then UserOtpChallenge.writeBack work.challenge c
        else c := by
    intro c' hc'
    rw [hchallenges] at hc'
    obtain ⟨c, hc, rfl⟩ := AuthDb.mem_putChallenge.mp hc'
    refine ⟨c, hc, ?_, rfl⟩
    split <;> rfl
  constructor
  · exact h.tries
  · intro i
    rw [OtpStore.count_commit]
    split
    · rename_i hi
      obtain ⟨-, rfl⟩ := hi
      rw [hholds.unused]
    · exact h.once i
  · intro c' hc'
    obtain ⟨c, hc, hid, heq⟩ := hmem c' hc'
    show c'.attempts ≤ s.compared.count c'.id
    by_cases hown : c.id = work.challenge.loaded.id
    · rw [if_pos hown] at heq
      have hwritten : c'.attempts = work.challenge.loaded.attempts + 1 := by
        rw [heq]
        exact UserOtpChallenge.writeBack_attempts hholds.spends
      rw [hwritten, hid, hown, hholds.counted]
    · rw [if_neg hown] at heq
      rw [heq]
      exact h.attempts c hc
  -- a challenge that was used is consumed, the one of this commit included
  · intro c' hc' hused
    obtain ⟨c, hc, hid, heq⟩ := hmem c' hc'
    rw [OtpStore.count_commit] at hused
    by_cases hown : c.id = work.challenge.loaded.id
    · rw [if_pos hown] at heq
      rw [hid, hown, hholds.unused] at hused
      have hsucceeds : succeeds = true := by
        by_contra hnot
        simp [hnot] at hused
      rw [heq]
      exact UserOtpChallenge.writeBack_consumed hholds.opened (hconsuming hsucceeds)
    · rw [if_neg hown] at heq
      have hother : ¬ (succeeds = true ∧ work.challenge.loaded.id = c'.id) :=
        fun hboth => hown (hid.symm.trans hboth.2.symm)
      rw [if_neg hother, Nat.add_zero, heq] at hused
      rw [heq]
      exact h.consumed c hc hused
  · intro i hi
    have hnext : db.challenges.next = s.db.challenges.next := by
      rw [hchallenges]
      rfl
    have hnew : s.db.challenges.next ≤ i := hnext ▸ hi
    obtain ⟨c, hc, -⟩ := hholds.stored
    have hid : work.challenge.loaded.id < s.db.challenges.next := by
      have hfresh : ident c < s.db.challenges.next :=
        s.db.challenges.fresh c (Table.mem_of_get hc)
      rw [Table.ident_of_get hc] at hfresh
      exact hfresh
    rw [OtpStore.count_commit, if_neg (by omega)]
    exact h.known i hnew

/-- A new challenge. -/
theorem OtpCounted.issue (h : OtpCounted config s) {challenge : UserOtpChallenge}
    (hattempts : challenge.attempts = 0) :
    OtpCounted config { s with db := s.db.issue challenge } where
  tries := h.tries
  once := h.once
  attempts c hc := by
    rcases AuthDb.mem_issue.mp hc with hold | rfl
    · exact h.attempts c hold
    · show challenge.attempts ≤ _
      omega
  consumed c hc hused := by
    rcases AuthDb.mem_issue.mp hc with hold | rfl
    · exact h.consumed c hold hused
    · exact absurd (h.known _ le_rfl).2 hused
  known i hi := by
    have hnext : (s.db.issue challenge).challenges.next = s.db.challenges.next + 1 :=
      Table.insert_next (Table.add_eq s.db.challenges _ _ fun _ _ => id)
    have hnew : (s.db.issue challenge).challenges.next ≤ i := hi
    exact h.known i (by omega)

/-- Withdrawing a challenge counts nothing and opens nothing. -/
theorem UserOtpChallenge.writeBack_withdrawn (challenge c : UserOtpChallenge) (now : Instant) :
    (UserOtpChallenge.writeBack ⟨challenge, { challenge with consumedAt := some now }⟩ c).attempts =
        c.attempts ∧
      (c.consumedAt ≠ none →
        (UserOtpChallenge.writeBack ⟨challenge, { challenge with consumedAt := some now }⟩
          c).consumedAt ≠ none) := by
  refine ⟨written_self _ _, fun hconsumed => ?_⟩
  rcases written_eq_or challenge.consumedAt (some now) c.consumedAt with hkept | hset
  · exact fun hnone => hconsumed (hkept.symm.trans hnone)
  · exact fun hnone => by cases hset.symm.trans hnone

/-- A challenge that was not sent is withdrawn. -/
theorem OtpCounted.withdraw (h : OtpCounted config s) (challenge : UserOtpChallenge)
    (now : Instant) :
    OtpCounted config
      { s with
        db := { s.db with
          challenges :=
            s.db.putChallenge ⟨challenge, { challenge with consumedAt := some now }⟩ } } where
  tries := h.tries
  once := h.once
  attempts c' hc' := by
    obtain ⟨c, hc, rfl⟩ := AuthDb.mem_putChallenge.mp hc'
    split
    · exact (UserOtpChallenge.writeBack_withdrawn challenge c now).1.trans_le (h.attempts c hc)
    · exact h.attempts c hc
  consumed c' hc' := by
    obtain ⟨c, hc, rfl⟩ := AuthDb.mem_putChallenge.mp hc'
    split
    · intro hused
      exact (UserOtpChallenge.writeBack_withdrawn challenge c now).2 (h.consumed c hc hused)
    · exact h.consumed c hc
  known := h.known

/-- The store, after a statement that meets the condition. -/
theorem OtpMove.global (hmove : OtpMove config s t tick s' o)
    (h : OtpCounted config s) (hknows : OtpKnows s t) (hguard : countedBefore config s t tick) :
    OtpCounted config s' := by
  cases hmove with
  | ended => exact h
  | read => exact h
  | compared hfault hattempt hchallenge hstored hopen hattempts =>
      exact h.compare hstored hattempts (hguard hfault _ _ hattempt hchallenge)
  | confirmed => exact h
  | @committed work succeeds db hphase hflush =>
      refine h.commit (hknows.holds _ (by rw [hphase]; rfl)) ?_ hflush
      rintro rfl
      have hconsuming := hknows.consuming
      rw [hphase] at hconsuming
      exact hconsuming
  | issued hattempts => exact h.issue hattempts
  | withdrawn => exact h.withdraw _ _

/-- What a session holds after its own statement. -/
theorem OtpMove.own {t' : OtpSession} (hmove : OtpMove config s t tick s' (some t'))
    (h : OtpCounted config s) (hknows : OtpKnows s t) (hguard : countedBefore config s t tick) :
    OtpKnows s' t' := by
  generalize ho : some t' = o at hmove
  cases hmove with
  | ended => cases ho
  | read hfree hconsuming =>
      obtain rfl := Option.some.inj ho
      exact .of_free hfree hconsuming
  -- the row was read in this very statement, and by the guard it counts all that came before
  | @compared attempt d phase hfault hattempt hchallenge hstored hopen hattempts hspends hheld
      hconsuming =>
      obtain rfl := Option.some.inj ho
      refine ⟨fun d' hd => ?_, hconsuming⟩
      obtain rfl := Option.some.inj (hheld.symm.trans hd)
      refine ⟨⟨d.loaded, Table.get_ident hstored, rfl⟩, ?_, hspends, hopen, h.unused hstored hopen⟩
      rw [OtpStore.count_compare, if_pos rfl, hguard hfault _ _ hattempt hchallenge]
  | @confirmed d now write hphase =>
      obtain rfl := Option.some.inj ho
      have hconsuming := hknows.consuming
      rw [hphase] at hconsuming
      refine ⟨fun d' hd => ?_, hconsuming⟩
      obtain rfl := Option.some.inj hd
      exact hknows.holds d (by rw [hphase]; rfl)
  | committed => cases ho
  | issued =>
      obtain rfl := Option.some.inj ho
      exact .of_free rfl trivial
  | withdrawn => cases ho

/-- A comparison that meets the condition is of a challenge nobody holds. -/
theorem Holds.ne_of_counted {d : Dirty UserOtpChallenge} (h : Holds s d) {c : UserOtpChallenge}
    (hc : c ∈ s.db.challenges) (hcounted : s.compared.count c.id = c.attempts) :
    c.id ≠ d.loaded.id := by
  intro hsame
  obtain ⟨c', hc', hattempts⟩ := h.stored
  have hget : s.db.challenges.get c.id = some c := Table.get_ident hc
  rw [hsame] at hget
  obtain rfl := Option.some.inj (hget.symm.trans hc')
  have hheld := h.counted
  rw [← hsame, hcounted] at hheld
  omega

/-- What the others hold is as it was. -/
theorem OtpMove.others {u : OtpSession} (hmove : OtpMove config s t tick s' o)
    (hguard : countedBefore config s t tick) (hu : OtpKnows s u) (hapart : Apart t u) :
    OtpKnows s' u := by
  refine ⟨fun e he => ?_, hu.consuming⟩
  have hholds := hu.holds e he
  cases hmove with
  | ended => exact hholds
  | read => exact hholds
  | compared hfault hattempt hchallenge hstored =>
      exact hholds.compare (hholds.ne_of_counted hstored
        (hguard hfault _ _ hattempt hchallenge))
  | confirmed => exact hholds
  -- the other call holds another challenge, or it would not be apart
  | @committed work succeeds db hphase hflush =>
      have hne : work.challenge.loaded.id ≠ e.loaded.id :=
        hapart work.challenge e (by rw [hphase]; rfl) he
      obtain ⟨-, hchallenges⟩ := OtpWork.flush_some hflush
      refine hholds.of_stored rfl ?_ ?_
      · rw [OtpStore.count_commit, if_neg (fun hboth => hne hboth.2), Nat.add_zero]
      · intro c hc
        refine ⟨c, ?_, rfl⟩
        show db.challenges.get e.loaded.id = some c
        rw [hchallenges, AuthDb.get_putChallenge_of_ne hne.symm]
        exact hc
  | issued =>
      refine hholds.of_stored rfl rfl fun c hc => ⟨c, ?_, rfl⟩
      exact Table.get_insert_of_get (Table.add_eq s.db.challenges _ _ fun _ _ => id) hc
  -- a withdrawn challenge keeps its count of attempts, which is all the other call knows
  | @withdrawn challenge now =>
      refine hholds.of_stored rfl rfl fun c hc => ?_
      let d : Dirty UserOtpChallenge := ⟨challenge, { challenge with consumedAt := some now }⟩
      by_cases hown : e.loaded.id = d.loaded.id
      · rw [hown] at hc ⊢
        exact ⟨_, AuthDb.get_putChallenge_self hc,
          (UserOtpChallenge.writeBack_withdrawn challenge c now).1⟩
      · exact ⟨c, (AuthDb.get_putChallenge_of_ne hown).trans hc, rfl⟩

/-- Two sessions that hold different challenges hold different ones after a step. -/
theorem OtpMove.apart {t' u : OtpSession} (hmove : OtpMove config s t tick s' (some t'))
    (hguard : countedBefore config s t tick) (hu : OtpKnows s u) (hapart : Apart t u) :
    Apart t' u := by
  generalize ho : some t' = o at hmove
  cases hmove with
  | ended => cases ho
  | read hfree =>
      obtain rfl := Option.some.inj ho
      exact apart_of_free hfree
  | @compared attempt d phase hfault hattempt hchallenge hstored hopen hattempts hspends hheld =>
      obtain rfl := Option.some.inj ho
      intro d' e hd he
      obtain rfl := Option.some.inj (hheld.symm.trans hd)
      exact (hu.holds e he).ne_of_counted hstored (hguard hfault _ _ hattempt hchallenge)
  | @confirmed d now write hphase =>
      obtain rfl := Option.some.inj ho
      intro d' e hd he
      obtain rfl := Option.some.inj hd
      exact hapart d e (by rw [hphase]; rfl) he
  | committed => cases ho
  | issued =>
      obtain rfl := Option.some.inj ho
      exact apart_of_free rfl
  | withdrawn => cases ho

/-- The outline of the OTP routes: at most one session holds a challenge. -/
theorem otpRoutes_outline (config : AuthConfig) :
    Outline (otpRoutes config) (Pool.StepMeets (countedBefore config)) (OtpCounted config)
      OtpKnows Apart where
  opened s call _ := .of_free rfl trivial
  openedCompat call t := ⟨apart_of_free rfl, (apart_of_free rfl).symm⟩
  global p i t tick s' o hmeets ht hadv hguard :=
    (otpRoutes_advance hadv).global hmeets.global (hmeets.each i t ht)
      ((Pool.stepMeets_advance ht).mp hguard)
  own p i t tick s' t' hmeets ht hadv hguard :=
    (otpRoutes_advance hadv).own hmeets.global (hmeets.each i t ht)
      ((Pool.stepMeets_advance ht).mp hguard)
  others p i t tick s' o j u hmeets ht hadv hguard hne hu :=
    (otpRoutes_advance hadv).others ((Pool.stepMeets_advance ht).mp hguard) (hmeets.each j u hu)
      (hmeets.pairs i j t u hne.symm ht hu)
  compat p i t tick s' t' j u hmeets ht hadv hguard hne hu := by
    have hapart : Apart t' u :=
      (otpRoutes_advance hadv).apart ((Pool.stepMeets_advance ht).mp hguard) (hmeets.each j u hu)
        (hmeets.pairs i j t u hne.symm ht hu)
    exact ⟨hapart, hapart.symm⟩

/-- Nothing was compared yet. -/
theorem otpCounted_start (users : Table User) : OtpCounted config (OtpStore.start users) where
  tries i := Nat.zero_le _
  once i := Nat.zero_le _
  attempts c hc := by cases hc
  consumed c hc := by cases hc
  known i _ := ⟨rfl, rfl⟩

/-- **One-time codes**, in every interleaving of requests and verifications in which a digest
is only compared once every earlier comparison for its challenge is committed: for every
challenge no more digests are compared than the limit allows, and at most one verification
succeeds with it. -/
theorem tries_bounded {users : Table User} {p : Pool OtpStore OtpSession}
    {acts : List (PoolAct OtpCall OtpTick)}
    (run : Run (otpRoutes config).machine (Pool.StepMeets (countedBefore config))
      (Pool.quiet (OtpStore.start users)) acts p) (challenge : ℕ) :
    p.store.compared.count challenge ≤ config.otpMaxAttempts ∧
      p.store.succeeded.count challenge ≤ 1 := by
  have hmeets := (otpRoutes_outline config).run run (Pool.Meets.quiet (otpCounted_start users))
  exact ⟨hmeets.global.tries challenge, hmeets.global.once challenge⟩

end Moves

/-! ## Six requests with one code -/

/-- A code is asked for and sent. -/
def codeSent : List (PoolAct OtpCall OtpTick) :=
  .begin 0 (.requestSignup ⟨"ada@example.com", true, true⟩) ::
    List.replicate 3 (.advance 0 { now := 0, code := "123456" })

/-- The next `n` statements of the verification `i`. -/
def otpSteps (i n : ℕ) : List (PoolAct OtpCall OtpTick) :=
  List.replicate n (.advance i { now := seconds 30 })

/-- A verification arrives and makes its comparison. -/
def codeTried (i : ℕ) (code : String) : List (PoolAct OtpCall OtpTick) :=
  .begin i (.verifySignup (adaProfile code "+237690000001")) :: otpSteps i 1

/-- Before the first request, without users. -/
def quietOtp : Pool OtpStore OtpSession := Pool.quiet (OtpStore.start Table.empty)

/-- A test of the condition. -/
def countedTest (config : AuthConfig) (s : OtpStore) (t : OtpSession) (tick : OtpTick) : Bool :=
  (t.attempt config s.db tick.now).all fun attempt => attempt.challenge.all fun d =>
    decide (s.compared.count d.loaded.id = d.loaded.attempts)

/-- The test is of the condition. -/
theorem countedBefore_of_test {config : AuthConfig} {s : OtpStore} {t : OtpSession}
    {tick : OtpTick} (h : countedTest config s t tick = true) : countedBefore config s t tick := by
  intro _ attempt d hattempt hchallenge
  rw [countedTest, hattempt, Option.all_some, hchallenge, Option.all_some] at h
  exact of_decide_eq_true h

/-- The statement on a wrong code that is committed, and then the right one. -/
theorem tries_bounded_twice : ∃ p,
    Run (otpRoutes sampleAuth).machine (Pool.StepMeets (countedBefore sampleAuth)) quietOtp
        (codeSent ++ codeTried 1 "000000" ++ otpSteps 1 1 ++ codeTried 2 "123456" ++
          otpSteps 2 2) p ∧
      p.store.compared = [0, 0] ∧ p.store.succeeded = [0] ∧
      p.store.compared.count 0 ≤ sampleAuth.otpMaxAttempts ∧ p.store.succeeded.count 0 ≤ 1 := by
  have hrun : ((otpRoutes sampleAuth).machine.check (Pool.stepTest (countedTest sampleAuth))
      quietOtp (codeSent ++ codeTried 1 "000000" ++ otpSteps 1 1 ++ codeTried 2 "123456" ++
        otpSteps 2 2)).map (fun p => (p.store.compared, p.store.succeeded)) =
        some ([0, 0], [0]) := by
    decide +kernel
  obtain ⟨p, hcheck, hseen⟩ := Option.map_eq_some_iff.mp hrun
  obtain ⟨hcompared, hsucceeded⟩ := Prod.mk.inj hseen
  have run := Run.of_stepTest (fun _ _ _ => countedBefore_of_test) hcheck
  exact ⟨p, run, hcompared, hsucceeded, tries_bounded run 0⟩

/-- Six verifications make their comparison before one of them commits; then the two that
had the right code go on, one after the other. -/
def sixAtOnce : List (PoolAct OtpCall OtpTick) :=
  codeSent ++ codeTried 1 "123456" ++ codeTried 2 "123456" ++ codeTried 3 "000000" ++
    codeTried 4 "000001" ++ codeTried 5 "000002" ++ codeTried 6 "000003" ++
    otpSteps 1 2 ++ otpSteps 2 2

/-- One comparison more than the limit, and two successes with one code. -/
theorem six_tries_two_successes : ∃ p,
    Run (otpRoutes sampleAuth).machine Unguarded quietOtp sixAtOnce p ∧
      p.store.compared = [0, 0, 0, 0, 0, 0] ∧ p.store.succeeded = [0, 0] ∧
      ¬ p.store.compared.count 0 ≤ sampleAuth.otpMaxAttempts ∧
      ¬ p.store.succeeded.count 0 ≤ 1 := by
  have hrun : ((otpRoutes sampleAuth).machine.check (fun _ _ => true) quietOtp sixAtOnce).map
      (fun p => (p.store.compared, p.store.succeeded)) =
        some ([0, 0, 0, 0, 0, 0], [0, 0]) := by
    decide +kernel
  obtain ⟨p, hcheck, hseen⟩ := Option.map_eq_some_iff.mp hrun
  obtain ⟨hcompared, hsucceeded⟩ := Prod.mk.inj hseen
  refine ⟨p, (Run.of_check hcheck).unguarded, hcompared, hsucceeded, ?_, ?_⟩
  · rw [hcompared]
    decide
  · rw [hsucceeded]
    decide

end AfricaFrontier
