import AfricaFrontier.Auth.Histories

/-!
# Codes issued before a verification

A request for a code leaves the earlier codes for the same address, or number, as they are,
and so does a verification, which consumes the one it accepts.  The next verification then
tries the newest of those that are left, and accepts it as long as it is neither expired nor
used up.

So a verification retires the codes issued before it only where none of the others could be
accepted any more.  `CodesRetired` is what then stays true: a code issued before a
verification is dead, and stays dead as long as the clock does not go back.

`CodesRetired` has two parts that need each other along a run: every code issued before a
remembered verification is dead, and no later verification has accepted one. A call that verifies
nothing keeps both, since challenges only age (`UserOtpChallenge.Becomes.dead`); a verification
that meets the condition kills the others itself, and the one it accepts is consumed
(`CodesRetired.after_of_success`).

Dead means consumed, used up, or expired at a given time. The last is why the clock is part of the
condition: a code that has expired is alive again when the clock is set back.
-/

namespace AfricaFrontier

open Python Relational Transition

/-! ## The property -/

/-- Of two verifications of one address, or number, the later accepted a code that was issued
after the earlier. -/
def Retired (confirmations : List Confirmation) : Prop :=
  confirmations.Pairwise fun earlier later =>
    earlier.purpose = later.purpose → earlier.target = later.target →
      earlier.issued ≤ later.challenge

/-! ## The condition -/

/-- The code was sent to confirm the address, or number. -/
def UserOtpChallenge.sentFor (c : UserOtpChallenge) (purpose : OtpPurpose) (target : String) :
    Prop :=
  c.purpose = purpose ∧
    match purpose with
    | .signup => c.email = target
    | .phoneVerify => c.phone = some target

/-- The code cannot be accepted any more. -/
def UserOtpChallenge.Dead (config : AuthConfig) (time : Instant) (c : UserOtpChallenge) : Prop :=
  c.consumedAt ≠ none ∨ c.expiresAt ≤ time ∨ config.otpMaxAttempts ≤ c.attempts

instance (config : AuthConfig) (time : Instant) (c : UserOtpChallenge) :
    Decidable (c.Dead config time) :=
  inferInstanceAs (Decidable (_ ∨ _ ∨ _))

/-- When `c` is accepted, every other code for the same address, or number, is dead, and the
clock is not behind an earlier verification of it. -/
structure Retires (config : AuthConfig) (w : AuthWorld) (purpose : OtpPurpose) (target : String)
    (now : Instant) (c : UserOtpChallenge) : Prop where
  others : ∀ c' ∈ w.db.challenges, c'.sentFor purpose target → c'.id ≠ c.id → c'.Dead config now
  clock : ∀ entry ∈ w.confirmations, entry.purpose = purpose → entry.target = target →
    entry.time ≤ now

/-- A verification that succeeds leaves no earlier code alive: at its time, every other challenge
for the address, or number, is consumed, used up or expired, and the clock is not behind an
earlier verification. Other calls are not asked anything. -/
def retiresOthers (config : AuthConfig) (w : AuthWorld) : AuthCall → Prop
  | .verifySignupOtp tick payload =>
      ∀ c write, SignsUp config tick payload w.db c write →
        Retires config w .signup (config.normalizeEmail payload.email) tick.now c
  | .verifyPhoneOtp tick userId payload =>
      ∀ c u, ConfirmsPhone config tick userId payload w.db c u →
        Retires config w .phoneVerify (config.normalizePhone payload.whatsappPhone) tick.now c
  | _ => True

/-! ## The invariant -/

/-- The codes issued before a verification are dead, and no later verification accepted
one. -/
structure CodesRetired (config : AuthConfig) (w : AuthWorld) : Prop where
  retired : Retired w.confirmations
  issued : ∀ entry ∈ w.confirmations, entry.issued ≤ w.db.challenges.next
  dead : ∀ entry ∈ w.confirmations, ∀ c ∈ w.db.challenges,
    c.sentFor entry.purpose entry.target → c.id < entry.issued → c.Dead config entry.time

section Calls

variable {config : AuthConfig} {w : AuthWorld}

/-- What a code was sent for does not change. -/
theorem UserOtpChallenge.Becomes.sentFor {c c' : UserOtpChallenge} (h : c.Becomes c')
    {purpose : OtpPurpose} {target : String} (hsent : c'.sentFor purpose target) :
    c.sentFor purpose target := by
  obtain ⟨hpurpose, htarget⟩ := hsent
  refine ⟨h.purpose.symm.trans hpurpose, ?_⟩
  cases purpose with
  | signup => exact h.email.symm.trans htarget
  | phoneVerify => exact h.phone.symm.trans htarget

/-- What is dead stays dead. -/
theorem UserOtpChallenge.Becomes.dead {c c' : UserOtpChallenge} (h : c.Becomes c')
    {time : Instant} (hdead : c.Dead config time) : c'.Dead config time := by
  rcases hdead with hconsumed | hexpired | hused
  · exact Or.inl (h.consumed hconsumed)
  · exact Or.inr (Or.inl (h.expiresAt ▸ hexpired))
  · exact Or.inr (Or.inr (hused.trans h.attempts))

/-- The verifications so far keep their codes dead. -/
theorem CodesRetired.dead_after (h : CodesRetired config w) (call : AuthCall)
    {entry : Confirmation} (hentry : entry ∈ w.confirmations) {c' : UserOtpChallenge}
    (hc' : c' ∈ (w.after config call).db.challenges)
    (hsent : c'.sentFor entry.purpose entry.target) (hid : c'.id < entry.issued) :
    c'.Dead config entry.time := by
  rcases (w.after_challenges config call).mem c' hc' with
    ⟨c, hc, hbecomes⟩ | ⟨hnew, -⟩
  · refine hbecomes.dead (h.dead entry hentry c hc (hbecomes.sentFor hsent) ?_)
    rw [← hbecomes.id]
    exact hid
  · have hissued := h.issued entry hentry
    omega

/-- A call that verifies nothing. -/
theorem CodesRetired.after_of_same (h : CodesRetired config w) {call : AuthCall}
    (hsame : (w.after config call).confirmations = w.confirmations) :
    CodesRetired config (w.after config call) where
  retired := by
    rw [hsame]
    exact h.retired
  issued entry hentry := by
    rw [hsame] at hentry
    exact (h.issued entry hentry).trans (w.after_challenges config call).next_le
  dead entry hentry c' hc' := by
    rw [hsame] at hentry
    exact h.dead_after call hentry hc'

/-- A code that is accepted is alive, so it was issued after every earlier verification. -/
theorem CodesRetired.issued_le (h : CodesRetired config w) {purpose : OtpPurpose}
    {target : String} {now : Instant} {c : UserOtpChallenge}
    (hretires : Retires config w purpose target now c) (hc : c ∈ w.db.challenges)
    (hsent : c.sentFor purpose target) (halive : ¬ c.Dead config now) {entry : Confirmation}
    (hentry : entry ∈ w.confirmations) (hpurpose : entry.purpose = purpose)
    (htarget : entry.target = target) : entry.issued ≤ c.id := by
  by_contra hbefore
  subst hpurpose htarget
  refine halive ?_
  rcases h.dead entry hentry c hc hsent (by omega) with hconsumed | hexpired | hused
  · exact Or.inl hconsumed
  · exact Or.inr (Or.inl (hexpired.trans (hretires.clock entry hentry rfl rfl)))
  · exact Or.inr (Or.inr hused)

/-- A verification that succeeds and meets the condition. -/
theorem CodesRetired.after_of_success (h : CodesRetired config w) {call : AuthCall}
    {entry : Confirmation} {c : UserOtpChallenge}
    (hmade : (w.after config call).confirmations = w.confirmations ++ [entry])
    (hissued : entry.issued = w.db.challenges.next) (hchallenge : entry.challenge = c.id)
    (hretires : Retires config w entry.purpose entry.target entry.time c)
    (hc : c ∈ w.db.challenges) (hsent : c.sentFor entry.purpose entry.target)
    (halive : ¬ c.Dead config entry.time)
    (hconsumed : ∀ c' ∈ (w.after config call).db.challenges, c'.id = c.id →
      c'.consumedAt ≠ none) : CodesRetired config (w.after config call) where
  retired := by
    rw [hmade]
    refine List.pairwise_append.mpr ⟨h.retired, List.pairwise_singleton _ _, ?_⟩
    intro earlier hearlier later hlater hpurpose htarget
    obtain rfl := List.mem_singleton.mp hlater
    rw [hchallenge]
    exact h.issued_le hretires hc hsent halive hearlier hpurpose htarget
  issued entry' hentry' := by
    have hnext := (w.after_challenges config call).next_le
    rw [hmade] at hentry'
    rcases List.mem_append.mp hentry' with hold | hnew
    · exact (h.issued entry' hold).trans hnext
    · obtain rfl := List.mem_singleton.mp hnew
      rw [hissued]
      exact hnext
  dead entry' hentry' c' hc' hsent' hid := by
    rw [hmade] at hentry'
    rcases List.mem_append.mp hentry' with hold | hnew
    · exact h.dead_after call hold hc' hsent' hid
    · obtain rfl := List.mem_singleton.mp hnew
      -- a challenge that was there, or one issued by this call
      rcases (w.after_challenges config call).mem c' hc' with
        ⟨c₀, hc₀, hbecomes⟩ | ⟨hlate, -⟩
      · by_cases hsame : c₀.id = c.id
        · exact Or.inl (hconsumed c' hc' (hbecomes.id.trans hsame))
        · exact hbecomes.dead (hretires.others c₀ hc₀ (hbecomes.sentFor hsent') hsame)
      · omega

/-- The challenge a verification has accepted is consumed. -/
theorem AuthDb.consumed_consumedAt {db : AuthDb} {users : Table User} {c c' : UserOtpChallenge}
    {now : Instant} (hc : c ∈ db.challenges) (hc' : c' ∈ (db.consumed users c now).challenges)
    (hid : c'.id = c.id) : c'.consumedAt ≠ none := by
  obtain ⟨c₀, hc₀, rfl⟩ := AuthDb.mem_putChallenge.mp hc'
  change (if c₀.id = c.id then _ else c₀).id = c.id at hid
  show (if c₀.id = c.id then _ else c₀).consumedAt ≠ none
  by_cases hsame : c₀.id = c.id
  · obtain rfl := Table.eq_of_ident hc₀ hc hsame
    rw [if_pos rfl, UserOtpChallenge.writeBack_consume]
    nofun
  · rw [if_neg hsame] at hid
    exact absurd hid hsame

/-- A challenge that was accepted was alive. -/
theorem AuthConfig.not_dead_of_attempt {purpose : OtpPurpose} {target code : String}
    {consents : Except AuthError Unit} {now : Instant} {c : UserOtpChallenge}
    (h : config.attempt purpose target code consents now (some c) = .accepted (c.consume now))
    (hopen : c.consumedAt = none) : ¬ c.Dead config now := by
  obtain ⟨c', hc', hexpires, hattempts, -⟩ := AuthConfig.attempt_accepted h
  obtain rfl := Option.some.inj hc'
  rintro (hconsumed | hexpired | hused)
  · exact hconsumed hopen
  · exact absurd hexpired (not_le_of_gt hexpires)
  · exact absurd hused (not_le_of_gt hattempts)

/-- A signup verification that meets the condition. -/
theorem CodesRetired.after_signsUp (h : CodesRetired config w) {tick : AuthTick}
    {payload : OtpVerifyRequest} {c : UserOtpChallenge} {write : UserWrite}
    (hsigns : SignsUp config tick payload w.db c write)
    (hretires : Retires config w .signup (config.normalizeEmail payload.email) tick.now c) :
    CodesRetired config (w.after config (.verifySignupOtp tick payload)) := by
  obtain ⟨hc, haddressed, hopen⟩ := AuthDb.openChallenge_mem hsigns.found
  obtain ⟨hemail, hpurpose, -⟩ := UserOtpChallenge.addressed_iff.mp haddressed
  obtain ⟨users, husers⟩ := hsigns.flush
  refine h.after_of_success hsigns.after_confirmations rfl rfl hretires hc ⟨hpurpose, hemail⟩
    (AuthConfig.not_dead_of_attempt hsigns.accepted hopen) ?_
  intro c' hc' hid
  have hdb : (w.after config (.verifySignupOtp tick payload)).db = w.db.consumed users c tick.now :=
    congrArg Prod.fst (verifySignupOtp_signsUp hsigns husers)
  rw [hdb] at hc'
  exact AuthDb.consumed_consumedAt hc hc' hid

/-- A phone verification that meets the condition keeps the invariant. -/
theorem CodesRetired.after_confirmsPhone (h : CodesRetired config w) {tick : AuthTick}
    {userId : ℕ} {payload : PhoneOtpVerifyRequest} {c : UserOtpChallenge} {u : User}
    (hconfirms : ConfirmsPhone config tick userId payload w.db c u)
    (hretires : Retires config w .phoneVerify (config.normalizePhone payload.whatsappPhone)
      tick.now c) :
    CodesRetired config (w.after config (.verifyPhoneOtp tick userId payload)) := by
  obtain ⟨hc, haddressed, hopen⟩ := AuthDb.openChallenge_mem hconfirms.found
  obtain ⟨-, hpurpose, hphone⟩ := UserOtpChallenge.addressed_iff.mp haddressed
  obtain ⟨users, husers, -⟩ := hconfirms.flush
  refine h.after_of_success hconfirms.after_confirmations rfl rfl hretires hc
    ⟨hpurpose, hphone _ rfl⟩ (AuthConfig.not_dead_of_attempt hconfirms.accepted hopen) ?_
  intro c' hc' hid
  have hdb : (w.after config (.verifyPhoneOtp tick userId payload)).db =
      w.db.consumed users c tick.now :=
    congrArg Prod.fst (verifyPhoneOtp_confirmsPhone hconfirms husers)
  rw [hdb] at hc'
  exact AuthDb.consumed_consumedAt hc hc' hid

/-- A verification that fails is not remembered. -/
theorem confirmationOf_error {α : Type} {purpose : OtpPurpose} {target : String} {time : Instant}
    {db : AuthDb} {found : Option UserOtpChallenge} {answer : Except AuthError α} {userId : α → ℕ}
    (h : ∃ error, answer = .error error) :
    confirmationOf purpose target time db found answer userId = [] := by
  obtain ⟨error, rfl⟩ := h
  cases found <;> rfl

/-- One call that meets the condition keeps the codes retired. -/
theorem CodesRetired.after (h : CodesRetired config w) (call : AuthCall)
    (hguard : retiresOthers config w call) : CodesRetired config (w.after config call) := by
  cases call with
  | verifySignupOtp tick payload =>
      by_cases hsucceeds : ∃ c write, SignsUp config tick payload w.db c write
      · obtain ⟨c, write, hsigns⟩ := hsucceeds
        exact h.after_signsUp hsigns (hguard c write hsigns)
      · have hfails := verifySignupOtp_fails fun c write hsigns => hsucceeds ⟨c, write, hsigns⟩
        refine h.after_of_same ?_
        show w.confirmations ++ confirmationOf .signup _ tick.now w.db _ _ _ = w.confirmations
        rw [confirmationOf_error hfails.2, List.append_nil]
  | verifyPhoneOtp tick userId payload =>
      by_cases hsucceeds : ∃ c u, ConfirmsPhone config tick userId payload w.db c u
      · obtain ⟨c, u, hconfirms⟩ := hsucceeds
        exact h.after_confirmsPhone hconfirms (hguard c u hconfirms)
      · have hfails := verifyPhoneOtp_fails fun c u hconfirms => hsucceeds ⟨c, u, hconfirms⟩
        refine h.after_of_same ?_
        show w.confirmations ++ confirmationOf .phoneVerify _ tick.now w.db _ _ _ = w.confirmations
        rw [confirmationOf_error hfails.2, List.append_nil]
  | _ => exact h.after_of_same rfl

/-- Nothing was verified yet. -/
theorem codesRetired_start (db : AuthDb) : CodesRetired config (AuthWorld.start db) where
  retired := List.Pairwise.nil
  issued _ hentry := by cases hentry
  dead _ hentry := by cases hentry

/-- **A verification retires the codes issued before it**, in every sequence of calls in
which each verification that succeeds leaves no other code for its address, or number, that
could still be accepted, and the clock does not go back. -/
theorem codes_retired {db : AuthDb} {calls : List AuthCall}
    (run : Run (authCalls config) (retiresOthers config) (AuthWorld.start db) calls w) :
    Retired w.confirmations := by
  have hkeep : ∀ w call w', (authCalls config).step w call = some w' →
      retiresOthers config w call → CodesRetired config w → CodesRetired config w' := by
    intro w call w' hstep hguard h
    obtain rfl := Option.some.inj hstep
    exact h.after call hguard
  exact (run.preserves hkeep (codesRetired_start db)).retired

end Calls

/-! ## Two codes -/

/-- A test of the condition on the challenge a verification tries. -/
def retiresAll (config : AuthConfig) (w : AuthWorld) (now : Instant)
    (c : UserOtpChallenge) : Bool :=
  (w.db.challenges.rows.all fun c' => decide (c'.id = c.id) || decide (c'.Dead config now)) &&
    w.confirmations.all fun entry => decide (entry.time ≤ now)

/-- The test is of the condition at the challenge that is tried. -/
theorem retires_of_all {config : AuthConfig} {w : AuthWorld} {now : Instant} {c : UserOtpChallenge}
    (h : retiresAll config w now c = true) (purpose : OtpPurpose) (target : String) :
    Retires config w purpose target now c := by
  obtain ⟨hothers, hclock⟩ := Bool.and_eq_true_iff.mp h
  constructor
  · intro c' hc' _ hid
    simpa [hid] using List.all_eq_true.mp hothers c' hc'
  · intro entry hentry _ _
    exact of_decide_eq_true (List.all_eq_true.mp hclock entry hentry)

/-- A test of the condition. -/
def retiresTest (config : AuthConfig) (w : AuthWorld) : AuthCall → Bool
  | .verifySignupOtp tick payload =>
      (w.db.openChallenge .signup (config.normalizeEmail payload.email) none).all
        (retiresAll config w tick.now)
  | .verifyPhoneOtp tick userId payload =>
      (phoneChallenge config userId payload w.db).all (retiresAll config w tick.now)
  | _ => true

/-- A call that passes the test meets the condition, whichever call it is. -/
theorem retiresOthers_of_test {config : AuthConfig} {w : AuthWorld} {call : AuthCall}
    (h : retiresTest config w call = true) : retiresOthers config w call := by
  cases call with
  | verifySignupOtp tick payload =>
      intro c write hsigns
      rw [retiresTest, hsigns.found] at h
      exact retires_of_all h _ _
  | verifyPhoneOtp tick userId payload =>
      intro c u hconfirms
      rw [retiresTest, phoneChallenge, hconfirms.stored, Option.bind_some, hconfirms.found] at h
      exact retires_of_all h _ _
  | _ => trivial

/-- One code after another, each entered before the next is asked for. -/
def oneByOne : List AuthCall :=
  [askSignup 0 "123456", enterSignup (seconds 30) "123456" "+237690000001",
    askSignup (seconds 120) "654321", enterSignup (seconds 150) "654321" "+237690000001"]

/-- The statement on two codes that are both accepted. -/
theorem codes_retired_one_by_one : ∃ w,
    Run (authCalls sampleAuth) (retiresOthers sampleAuth) (AuthWorld.start AuthDb.empty)
        oneByOne w ∧
      (w.confirmations.map fun entry => entry.challenge) = [0, 1] ∧ Retired w.confirmations := by
  have hrun : ((authCalls sampleAuth).check (retiresTest sampleAuth)
      (AuthWorld.start AuthDb.empty) oneByOne).map
        (fun w => w.confirmations.map fun entry => entry.challenge) = some [0, 1] := by
    decide +kernel
  obtain ⟨w, hcheck, haccepted⟩ := Option.map_eq_some_iff.mp hrun
  have run := (Run.of_check hcheck).mono fun w call => retiresOthers_of_test
  exact ⟨w, run, haccepted, codes_retired run⟩

/-- Two codes for one address; the second is entered first, and then the first. -/
def twoCodes : List AuthCall :=
  [askSignup 0 "123456", askSignup (seconds 120) "654321",
    enterSignup (seconds 150) "654321" "+237690000001",
    enterSignup (seconds 180) "123456" "+237690000001"]

/-- The first code is accepted although the second was, after it had been issued. -/
theorem earlier_code_accepted : ∃ w,
    Run (authCalls sampleAuth) Unguarded (AuthWorld.start AuthDb.empty) twoCodes w ∧
      (w.confirmations.map fun entry => (entry.target, entry.challenge, entry.issued)) =
        [("ada@example.com", 1, 2), ("ada@example.com", 0, 2)] ∧
      ¬ Retired w.confirmations := by
  have hrun : ((authCalls sampleAuth).check (fun _ _ => true) (AuthWorld.start AuthDb.empty)
      twoCodes).map (fun w => w.confirmations) =
        some [⟨.signup, "ada@example.com", 0, 1, 2, seconds 150⟩,
          ⟨.signup, "ada@example.com", 0, 0, 2, seconds 180⟩] := by
    decide +kernel
  obtain ⟨w, hcheck, hmade⟩ := Option.map_eq_some_iff.mp hrun
  refine ⟨w, (Run.of_check hcheck).unguarded, by rw [hmade]; rfl, fun hretired => ?_⟩
  rw [hmade] at hretired
  have hlater := (List.pairwise_cons.mp hretired).1 _ (List.mem_singleton.mpr rfl) rfl rfl
  exact absurd hlater (by decide)

end AfricaFrontier
