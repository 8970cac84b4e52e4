import AfricaFrontier.Payments.VirtualAccounts

/-!
# What a validated payout is worth

A payout request without `execute` is checked and answered `validated`.  The same request,
confirmed and sent in the same state, should then get as far as the provider.  It is checked
again on the way, by the monthly limit, which a preview is not to meet, and by the client, which
wants a bank named beside an account number: `payout_executable_iff` says which validated
requests pass.  Where the destination is complete that leaves the limit
(`executable_within_limit_iff`).

A request alone, before the provider is contacted, is `PayoutCall.Unsent`.  A preview and the
confirmed request go through the same states up to the point where the one is committed and the
other sent (`PreviewFollowed`), so what a preview has come through need not be asked again.

Both directions follow one session, alone.

* Forward: `ExecutionStands` says how far an executed request that was admitted has come, and that
  it was not rejected; each statement keeps it (`executionStands_step`).
* Backward: a request that the limit refuses is rejected on arrival
  (`PayoutCall.Executable.admitted`), and one that the client does not send is rejected where its
  row is stored (`PayoutCall.Executable.sendable`).

That the confirmed request finds an account and stores a row is known from its preview, which has
done the same (`confirmed_opens`, `confirmed_issues`); so nothing about the tables enters the
condition.
-/

namespace AfricaFrontier

open Python Relational Transition

/-! ## Requests before the provider is contacted -/

/-- The confirmed request for a payout. -/
def PayoutCall.confirmed (call : PayoutCall) : PayoutCall where
  payout := { call.payout with execute := true }
  userId := call.userId
  confirmationHeader := some "CONFIRM"

/-- The references the route draws. -/
def Drawn (reference : String) : Prop :=
  ∃ hex : String, hex.toList.length = 32 ∧ reference = "afm-payout-" ++ hex

/-- They are long enough for the client. -/
theorem Drawn.length {reference : String} (h : Drawn reference) :
    5 ≤ reference.toList.length := by
  obtain ⟨hex, hlength, rfl⟩ := h
  rw [String.toList_append, List.length_append, hlength]
  omega

/-- A statement in which the database answers. -/
def quietTick (now : Instant) : PayoutTick :=
  ⟨now, false, "afm-payout-" ++ "00000000000000000000000000000000", .raised⟩

/-- Its reference is one of them. -/
theorem quietTick_drawn (now : Instant) : Drawn (quietTick now).reference :=
  ⟨_, by decide, rfl⟩

/-- The provider is being called. -/
def PayoutPhase.contacted : PayoutPhase → Bool
  | .awaiting _ _ => true
  | _ => false

/-- What a request comes to from the state `s`, alone and with the clock at `now`, before the
provider is contacted. -/
inductive PayoutCall.Unsent (settings : TransferSettings) (call : PayoutCall) (now : Instant)
    (s : Store) : Store → PayoutPhase → Prop
  | arrived : Unsent settings call now s s .requested
  | next {s₁ s₂ : Store} {phase phase₂ : PayoutPhase} {tick : PayoutTick}
      (unsent : Unsent settings call now s s₁ phase) (hnow : tick.now = now)
      (hdrawn : Drawn tick.reference) (hbefore : phase.contacted = false)
      (hstep : call.step settings s₁ tick phase = (s₂, some phase₂)) :
      Unsent settings call now s s₂ phase₂

section Unsent

variable {settings : TransferSettings} {call : PayoutCall} {now : Instant} {s s' : Store}
  {phase : PayoutPhase}

/-- This is what its session does in a pool in which nobody else moves. -/
theorem PayoutCall.Unsent.run (h : call.Unsent settings now s s' phase)
    {p : Pool Store PayoutSession} {i : ℕ} (hstore : p.store = s)
    (hsession : p.session i = some ⟨call, .requested⟩) :
    ∃ acts p', Run (createKoraPayout settings).machine Unguarded p acts p' ∧ p'.store = s' ∧
      p'.session i = some ⟨call, phase⟩ := by
  induction h with
  | arrived => exact ⟨[], p, Run.nil p, hstore, hsession⟩
  | @next s₁ s₂ phase phase₂ tick _ _ _ _ hstep ih =>
      obtain ⟨acts, p₁, run, hstore₁, hsession₁⟩ := ih
      have hadvance : (createKoraPayout settings).machine.step p₁ (.advance i tick) =
          some (p₁.assign s₂ i (some ⟨call, phase₂⟩)) := by
        simp [Sessions.machine, hsession₁, hstore₁, createKoraPayout, hstep]
      exact ⟨acts ++ [.advance i tick], _, run.append (Run.cons hadvance trivial (Run.nil _)),
        Pool.assign_store p₁ s₂ i (some ⟨call, phase₂⟩),
        Pool.assign_session_self p₁ s₂ i (some ⟨call, phase₂⟩)⟩

/-- Taking `n` statements of a request under one tick, as long as they come before the call of
the provider. -/
def PayoutCall.ahead (settings : TransferSettings) (call : PayoutCall) (tick : PayoutTick) :
    ℕ → Store → PayoutPhase → Option (Store × PayoutPhase)
  | 0, s, phase => some (s, phase)
  | n + 1, s, phase =>
      if phase.contacted then none
      else
        match call.step settings s tick phase with
        | (s', some phase') => call.ahead settings tick n s' phase'
        | (_, none) => none

/-- The statements taken that way are those of the request. -/
theorem PayoutCall.Unsent.ahead {tick : PayoutTick} (hdrawn : Drawn tick.reference) {n : ℕ}
    {s₁ : Store} {phase₁ : PayoutPhase} (h : call.Unsent settings tick.now s s₁ phase₁)
    (hahead : call.ahead settings tick n s₁ phase₁ = some (s', phase)) :
    call.Unsent settings tick.now s s' phase := by
  fun_induction PayoutCall.ahead settings call tick n s₁ phase₁ with
  | case1 s₁ phase₁ =>
      obtain ⟨rfl, rfl⟩ := Prod.mk.inj (Option.some.inj hahead)
      exact h
  | case2 => cases hahead
  | case3 s₁ phase₁ n hbefore s₂ phase₂ hstep ih =>
      exact ih (.next h rfl hdrawn (Bool.eq_false_iff.mpr hbefore) hstep) hahead
  | case4 => cases hahead

end Unsent

/-! ## The property and its condition -/

/-- **The payout is executable**: the request is not rejected before the provider is contacted. An
exception of the database is no rejection, and promises nothing either. -/
def PayoutCall.Executable (settings : TransferSettings) (call : PayoutCall) (now : Instant)
    (s : Store) : Prop :=
  ∀ s' exception, ¬ call.Unsent settings now s s' (.answering (.rejected exception))

/-- The amount is within the monthly limit, and a bank account comes with its bank. -/
structure PayoutFits (settings : TransferSettings) (call : PayoutCall) (now : Instant)
    (db : Db) : Prop where
  limit : settings.isProduction = true → upper call.payout.currency ∈ cfaCurrencies ∧
    kyc1Total call.userId now db + call.payout.amount ≤ settings.kyc1MonthlyLimitXaf
  destination : given call.payout.mobileMoneyOperator = true ∨
    given call.payout.bankCode = true ∨ given call.payout.bankName = true

/-! ## The two checks of a destination

The route asks for a phone number with its operator, or an account number; the client asks for a
bank with the latter. -/

section Checks

variable {call : PayoutCall}

/-- The checks of a destination and an amount. -/
theorem checkPayout_ok_iff :
    checkPayout call = .ok () ↔
      given call.payout.mobileMoneyOperator = given call.payout.mobileNumber ∧
        (given call.payout.mobileMoneyOperator = true ∨ given call.payout.accountNumber = true) ∧
        (call.payout.execute = true → call.confirmationHeader = some "CONFIRM") := by
  unfold checkPayout
  dsimp only
  by_cases hboth : given call.payout.mobileMoneyOperator = given call.payout.mobileNumber
  · rw [if_neg (not_not_intro hboth), ← hboth]
    by_cases hdestination :
        given call.payout.mobileMoneyOperator = true ∨ given call.payout.accountNumber = true
    · rw [if_neg (fun h => hdestination.elim (fun hoperator => h.1 ⟨hoperator, hoperator⟩) h.2)]
      by_cases hconfirmed : call.payout.execute = true → call.confirmationHeader = some "CONFIRM"
      · rw [if_neg (fun h => h.2 (hconfirmed h.1))]
        exact iff_of_true rfl ⟨rfl, hdestination, hconfirmed⟩
      · rw [if_pos (Classical.not_imp.mp hconfirmed)]
        exact iff_of_false (fun h => by cases h) fun h => hconfirmed h.2.2
    · obtain ⟨hoperator, haccount⟩ := not_or.mp hdestination
      rw [if_pos ⟨fun h => hoperator h.1, haccount⟩]
      exact iff_of_false (fun h => by cases h) fun h => hdestination h.2.1
  · rw [if_pos hboth]
    exact iff_of_false (fun h => by cases h) fun h => hboth h.1

/-- A request that passed passes again when it is confirmed. -/
theorem checkPayout_confirmed (h : checkPayout call = .ok ()) :
    checkPayout call.confirmed = .ok () := by
  obtain ⟨hboth, hdestination, -⟩ := checkPayout_ok_iff.mp h
  exact checkPayout_ok_iff.mpr ⟨hboth, hdestination, fun _ => rfl⟩

/-- Of what the route has let through, the client sends what names an operator or a bank. -/
theorem sendable_iff (h : checkPayout call = .ok ()) {reference : String} :
    call.payout.sendable reference = true ↔
      5 ≤ reference.toList.length ∧ (given call.payout.mobileMoneyOperator = true ∨
        given call.payout.bankCode = true ∨ given call.payout.bankName = true) := by
  obtain ⟨hboth, hdestination, -⟩ := checkPayout_ok_iff.mp h
  have hemail : call.payout.customerEmail ≠ "" := by
    intro hempty
    have hlength := call.payout.customerEmail_length
    rw [hempty] at hlength
    exact absurd hlength (by decide)
  unfold PayoutRequest.sendable
  rw [← hboth, decide_eq_true hemail, Bool.or_self, Bool.and_self, Bool.and_true,
    Bool.and_eq_true, decide_eq_true_iff]
  refine and_congr_right fun _ => ?_
  cases hoperator : given call.payout.mobileMoneyOperator with
  | true => simp
  | false =>
      have haccount : given call.payout.accountNumber = true :=
        hdestination.resolve_left (by simp [hoperator])
      simp [haccount]

/-- Of the confirmed request the limit is what is left to check. -/
theorem admitPayout_confirmed {settings : TransferSettings} {now : Instant} {db : Db}
    (h : checkPayout call = .ok ()) :
    admitPayout settings call.confirmed now db =
      enforceKyc1MonthlyLimit settings call.userId call.payout.amount call.payout.currency
        now db := by
  unfold admitPayout
  rw [checkPayout_confirmed h]
  rfl

/-- The limit admits exactly what fits. -/
theorem enforceKyc1MonthlyLimit_eq_ok {settings : TransferSettings} {userId : ℕ} {amount : ℚ}
    {currency : String} {now : Instant} {db : Db} :
    enforceKyc1MonthlyLimit settings userId amount currency now db = .ok () ↔
      (settings.isProduction = true → upper currency ∈ cfaCurrencies ∧
        kyc1Total userId now db + amount ≤ settings.kyc1MonthlyLimitXaf) := by
  cases hproduction : settings.isProduction with
  | false =>
      exact iff_of_true (enforceKyc1MonthlyLimit_of_not_production hproduction _ _ _ _ _)
        fun h => by cases h
  | true =>
      rw [enforceKyc1MonthlyLimit_ok_iff hproduction]
      exact ⟨fun h _ => h, fun h => h rfl⟩

end Checks

/-! ## A confirmed request that fits

Whatever the tables are, an admitted request that can be sent gets to the provider. -/

section Confirmed

variable {settings : TransferSettings} {call : PayoutCall} {now : Instant} {s s₁ s₂ : Store}

/-- What is known of an executed request that came in the state `s`, passes the checks and is
sent to the provider. -/
def ExecutionStands (call : PayoutCall) (s s₁ : Store) : PayoutPhase → Prop
  | .requested => s₁ = s
  | .opening draft => Drawn draft.reference
  | .provisioning draft =>
      Drawn draft.reference ∧ ∀ account, ¬ AccountOf s₁.db call.userId account
  | .recording draft _ => Drawn draft.reference
  | .issuing draft _ => Drawn draft.reference
  | .awaiting _ _ => True
  | .answering answer => answer = .crashed
  | _ => False

/-- A user without an account can be given one. -/
theorem insertAccount_some {userId : ℕ} {db : Db}
    (h : ∀ account, ¬ AccountOf db userId account) :
    ∃ accounts, insertAccount userId db = some accounts :=
  Table.exists_insert _ _ fun account haccount hclash => h account ⟨haccount, hclash⟩

/-- One statement of a request that was admitted. -/
theorem executionStands_step {tick : PayoutTick} {phase phase₂ : PayoutPhase}
    (hlive : settings.isDevelopment = false) (hexecute : call.payout.execute = true)
    (hadmitted : admitPayout settings call now s.db = .ok ())
    (hsendable : ∀ reference, Drawn reference → call.payout.sendable reference = true)
    (hnow : tick.now = now) (hdrawn : Drawn tick.reference) (hbefore : phase.contacted = false)
    (hstep : call.step settings s₁ tick phase = (s₂, some phase₂))
    (h : ExecutionStands call s s₁ phase) : ExecutionStands call s s₂ phase₂ := by
  cases phase with
  | requested =>
      obtain rfl : s₁ = s := h
      simp only [PayoutCall.step, hnow, hadmitted] at hstep
      split at hstep
      · exact Sessions.own_of_eq hstep rfl
      · exact Sessions.own_of_eq hstep hdrawn
  | opening draft =>
      simp only [PayoutCall.step] at hstep
      split at hstep
      · exact Sessions.own_of_eq hstep rfl
      · rcases selectAccount_cases call.userId s₁.db with ⟨account, -, hselect⟩ | ⟨hnone, hselect⟩
        · rw [hselect] at hstep
          exact Sessions.own_of_eq hstep h
        · rw [hselect] at hstep
          exact Sessions.own_of_eq hstep ⟨h, hnone⟩
  -- the account is inserted, since nobody else is there to have inserted one
  | provisioning draft =>
      obtain ⟨accounts, hinsert⟩ := insertAccount_some h.2
      simp only [PayoutCall.step, hinsert] at hstep
      split at hstep
      · exact Sessions.own_of_eq hstep rfl
      · exact Sessions.own_of_eq hstep h.1
  | reselecting draft => exact h.elim
  | recording draft account =>
      simp only [PayoutCall.step, hexecute, hlive] at hstep
      split at hstep
      · exact Sessions.own_of_eq hstep rfl
      · split at hstep
        · exact Sessions.own_of_eq hstep rfl
        · exact Sessions.own_of_eq hstep h
  | previewing draft row => exact h.elim
  | issuing draft row =>
      simp only [PayoutCall.step, hsendable draft.reference h, if_true] at hstep
      exact Sessions.own_of_eq hstep trivial
  | awaiting draft row => cases hbefore
  | failing draft row => exact h.elim
  | accepted draft row result => exact h.elim
  | answering answer => cases hstep

/-- The execution stands at every point before the provider is contacted. -/
theorem executionStands_unsent {phase : PayoutPhase} (hlive : settings.isDevelopment = false)
    (hexecute : call.payout.execute = true)
    (hadmitted : admitPayout settings call now s.db = .ok ())
    (hsendable : ∀ reference, Drawn reference → call.payout.sendable reference = true)
    (h : call.Unsent settings now s s₁ phase) : ExecutionStands call s s₁ phase := by
  induction h with
  | arrived => rfl
  | next _ hnow hdrawn hbefore hstep ih =>
      exact executionStands_step hlive hexecute hadmitted hsendable hnow hdrawn hbefore hstep ih

/-- A request that passes the checks and is sent is executable. -/
theorem executable_of_admitted (hlive : settings.isDevelopment = false)
    (hexecute : call.payout.execute = true)
    (hadmitted : admitPayout settings call now s.db = .ok ())
    (hsendable : ∀ reference, Drawn reference → call.payout.sendable reference = true) :
    call.Executable settings now s := by
  intro s' exception h
  have hstands := executionStands_unsent hlive hexecute hadmitted hsendable h
  cases hstands

/-- One that is rejected on arrival is not. -/
theorem PayoutCall.Executable.admitted (h : call.Executable settings now s) :
    admitPayout settings call now s.db = .ok () := by
  cases hadmitted : admitPayout settings call now s.db with
  | ok u => rfl
  | error exception =>
      exfalso
      have hstep : call.step settings s (quietTick now) .requested =
          (s, some (.answering (.rejected exception))) := by
        simp only [PayoutCall.step, quietTick, hadmitted, Bool.false_eq_true, if_false]
      exact h s exception (.next .arrived rfl (quietTick_drawn now) rfl hstep)

/-- An executable request that comes to the client with a row that can be stored is one the client
sends. -/
theorem PayoutCall.Executable.sendable (h : call.Executable settings now s) {draft : PayoutDraft}
    {row : Transaction} {transactions : Table Transaction}
    (hissuing : call.Unsent settings now s s₁ (.issuing draft row))
    (hinsert : insertTransaction row s₁.db = some transactions) :
    call.payout.sendable draft.reference = true := by
  -- what the client refuses is stored as failed, and the request rejected
  by_contra hunsendable
  have hdeclined : call.step settings s₁ (quietTick now) (.issuing draft row) =
      (s₁, some (.failing draft row)) := by
    simp only [PayoutCall.step, if_neg hunsendable]
  obtain ⟨transactions', hinsert'⟩ : ∃ transactions',
      insertTransaction (payoutUnavailable row) s₁.db = some transactions' := by
    have hfresh := Table.not_clash_of_insert (insertTransaction_some hinsert)
    have hfits : row.fits = true := by
      by_contra hwide
      rw [insertTransaction, if_neg hwide] at hinsert
      cases hinsert
    obtain ⟨transactions', hadded⟩ := Table.exists_insert
      (fun n => { payoutUnavailable row with id := n }) (fun _ => rfl) hfresh
    refine ⟨transactions', ?_⟩
    rw [insertTransaction, if_pos (show (payoutUnavailable row).fits = true from hfits), hadded]
  have hanswered : call.step settings s₁ (quietTick now) (.failing draft row) =
      ({ s₁ with db := { s₁.db with transactions := transactions' } },
        some (.answering .unavailable)) := by
    simp only [PayoutCall.step, commitPayout, quietTick, hinsert', Bool.false_eq_true, if_false]
  exact h _ _ (.next (.next hissuing rfl (quietTick_drawn now) rfl hdeclined) rfl
    (quietTick_drawn now) rfl hanswered)

end Confirmed

/-! ## The confirmed request follows its preview -/

section Preview

variable {settings : TransferSettings} {call : PayoutCall} {now : Instant} {s s₁ s₂ : Store}

/-- The confirmed request comes where its preview is, or, once the preview has its row, to the
client with the same row. -/
def PreviewFollowed (settings : TransferSettings) (call : PayoutCall) (now : Instant)
    (s s₁ : Store) : PayoutPhase → Prop
  | .requested => s₁ = s
  | .previewing draft row => call.confirmed.Unsent settings now s s₁ (.issuing draft row)
  | .issuing _ _ => False
  | .awaiting _ _ => False
  | .failing _ _ => False
  | .accepted _ _ _ => False
  | .answering (.validated _ _ _ _ _) =>
      ∃ s₀ draft row, call.confirmed.Unsent settings now s s₀ (.issuing draft row) ∧
        ∃ transactions, insertTransaction row s₀.db = some transactions
  | .answering _ => True
  | phase => call.confirmed.Unsent settings now s s₁ phase

/-- Where a preview opens a session, the confirmed request does, if it is admitted. -/
theorem confirmed_opens {tick : PayoutTick} (hfault : ¬ tick.fault = true)
    (hadmitted : admitPayout settings call.confirmed tick.now s.db = .ok ()) :
    call.confirmed.step settings s tick .requested =
      (s, some (.opening ⟨tick.reference, kyc1Total call.userId tick.now s.db⟩)) := by
  simp only [PayoutCall.step, if_neg hfault, hadmitted]
  rfl

/-- Where a preview has its row, the confirmed request comes to the client with the same row, as
nothing in it says whether the payout is to be executed. -/
theorem confirmed_issues {tick : PayoutTick} {draft : PayoutDraft} {account : ℕ}
    {transactions : Table Transaction} (hlive : settings.isDevelopment = false)
    (hfault : ¬ tick.fault = true)
    (hinsert : insertTransaction (payoutTransaction 0 draft.reference call.userId account
      call.payout tick.now) s.db = some transactions) :
    call.confirmed.step settings s tick (.recording draft account) =
      (s, some (.issuing draft (payoutTransaction 0 draft.reference call.userId account
        call.payout tick.now))) := by
  have hsame : insertTransaction (payoutTransaction 0 draft.reference call.confirmed.userId
      account call.confirmed.payout tick.now) s.db = some transactions := hinsert
  simp only [PayoutCall.step, if_neg hfault, hsame, hlive]
  rfl

/-- One statement of the preview, and what the confirmed request does meanwhile. -/
theorem previewFollowed_step {tick : PayoutTick} {phase phase₂ : PayoutPhase}
    (hlive : settings.isDevelopment = false) (hpreview : call.payout.execute = false)
    (hadmitted : admitPayout settings call.confirmed now s.db = .ok ())
    (hnow : tick.now = now) (hdrawn : Drawn tick.reference)
    (hstep : call.step settings s₁ tick phase = (s₂, some phase₂))
    (h : PreviewFollowed settings call now s s₁ phase) :
    PreviewFollowed settings call now s s₂ phase₂ := by
  -- an exception ends the call, and promises nothing about an execution
  have hends : ∀ {s' : Store} {answer : PayoutAnswer},
      (s', some (.answering answer)) = (s₂, some phase₂) →
        answer = .crashed ∨ (∃ exception, answer = .rejected exception) →
          PreviewFollowed settings call now s s₂ phase₂ := by
    intro s' answer hsame hanswer
    refine Sessions.own_of_eq hsame ?_
    rcases hanswer with rfl | ⟨exception, rfl⟩
    · trivial
    · trivial
  cases phase with
  | requested =>
      obtain rfl : s₁ = s := h
      by_cases hfault : tick.fault = true
      · simp only [PayoutCall.step, hfault, if_true] at hstep
        exact hends hstep (Or.inl rfl)
      · have hfollow := confirmed_opens hfault (hnow.symm ▸ hadmitted)
        simp only [PayoutCall.step, if_neg hfault] at hstep
        split at hstep
        · exact hends hstep (Or.inr ⟨_, rfl⟩)
        · exact Sessions.own_of_eq hstep (.next .arrived hnow hdrawn rfl hfollow)
  | opening draft =>
      have hfollow := PayoutCall.Unsent.next h hnow hdrawn rfl hstep
      simp only [PayoutCall.step] at hstep
      split at hstep
      · exact hends hstep (Or.inl rfl)
      · split at hstep
        · exact hends hstep (Or.inl rfl)
        all_goals
          obtain ⟨rfl, hphase⟩ := Prod.mk.inj hstep
          obtain rfl := Option.some.inj hphase
          exact hfollow
  | provisioning draft =>
      have hfollow := PayoutCall.Unsent.next h hnow hdrawn rfl hstep
      simp only [PayoutCall.step] at hstep
      split at hstep
      · exact hends hstep (Or.inl rfl)
      · split at hstep
        all_goals
          obtain ⟨rfl, hphase⟩ := Prod.mk.inj hstep
          obtain rfl := Option.some.inj hphase
          exact hfollow
  | reselecting draft =>
      have hfollow := PayoutCall.Unsent.next h hnow hdrawn rfl hstep
      simp only [PayoutCall.step] at hstep
      split at hstep
      · exact hends hstep (Or.inl rfl)
      · split at hstep
        · exact hends hstep (Or.inl rfl)
        · obtain ⟨rfl, hphase⟩ := Prod.mk.inj hstep
          obtain rfl := Option.some.inj hphase
          exact hfollow
        · exact hends hstep (Or.inr ⟨_, rfl⟩)
  | recording draft account =>
      by_cases hfault : tick.fault = true
      · simp only [PayoutCall.step, hfault, if_true] at hstep
        exact hends hstep (Or.inl rfl)
      · cases hinsert : insertTransaction (payoutTransaction 0 draft.reference call.userId
            account call.payout tick.now) s₁.db with
        | none =>
            simp only [PayoutCall.step, if_neg hfault, hinsert] at hstep
            exact hends hstep (Or.inl rfl)
        | some transactions =>
            have hfollow := confirmed_issues hlive hfault hinsert
            simp only [PayoutCall.step, if_neg hfault, hinsert, hpreview, if_true] at hstep
            exact Sessions.own_of_eq hstep (.next h hnow hdrawn rfl hfollow)
  | previewing draft row =>
      simp only [PayoutCall.step, commitPayout] at hstep
      split at hstep
      · exact hends hstep (Or.inl rfl)
      · split at hstep
        · exact hends hstep (Or.inl rfl)
        · rename_i transactions hinsert
          refine Sessions.own_of_eq hstep ?_
          unfold previewAnswer
          split
          · exact ⟨s₁, draft, row, h, transactions, hinsert⟩
          · trivial
  | issuing draft row => exact h.elim
  | awaiting draft row => exact h.elim
  | failing draft row => exact h.elim
  | accepted draft row result => exact h.elim
  | answering answer => cases hstep

/-- The confirmed request is followed at every point before the provider is contacted. -/
theorem previewFollowed_unsent {phase : PayoutPhase} (hlive : settings.isDevelopment = false)
    (hpreview : call.payout.execute = false)
    (hadmitted : admitPayout settings call.confirmed now s.db = .ok ())
    (h : call.Unsent settings now s s₁ phase) : PreviewFollowed settings call now s s₁ phase := by
  induction h with
  | arrived => rfl
  | next _ hnow hdrawn _ hstep ih =>
      exact previewFollowed_step hlive hpreview hadmitted hnow hdrawn hstep ih

/-- A request that was validated had passed the checks that need no database. -/
theorem checkPayout_of_unsent {phase : PayoutPhase} (h : call.Unsent settings now s s₁ phase) :
    phase = .requested ∨ (∃ answer, phase = .answering answer ∧ (answer = .crashed ∨
      ∃ exception, answer = .rejected exception)) ∨ checkPayout call = .ok () := by
  induction h with
  | arrived => exact Or.inl rfl
  | @next s₁ s₂ phase phase₂ tick _ _ _ _ hstep ih =>
      rcases ih with rfl | ⟨answer, rfl, -⟩ | hchecked
      · simp only [PayoutCall.step] at hstep
        split at hstep
        · obtain ⟨rfl, hphase⟩ := Prod.mk.inj hstep
          obtain rfl := Option.some.inj hphase
          exact Or.inr (Or.inl ⟨_, rfl, Or.inl rfl⟩)
        · split at hstep
          · obtain ⟨rfl, hphase⟩ := Prod.mk.inj hstep
            obtain rfl := Option.some.inj hphase
            exact Or.inr (Or.inl ⟨_, rfl, Or.inr ⟨_, rfl⟩⟩)
          · rename_i hadmitted
            refine Or.inr (Or.inr ?_)
            cases hchecked : checkPayout call with
            | ok u => rfl
            | error exception =>
                rw [admitPayout, hchecked] at hadmitted
                cases hadmitted
      · cases hstep
      · exact Or.inr (Or.inr hchecked)

end Preview

/-! ## When a validated payout is executable -/

/-- A validated payout is executable exactly if it fits. -/
theorem payout_executable_iff {settings : TransferSettings} {call : PayoutCall} {now : Instant}
    {s s' : Store} {reference destination currency : String} {id : ℕ} {amount : ℚ}
    (hlive : settings.isDevelopment = false) (hpreview : call.payout.execute = false)
    (hvalidated : call.Unsent settings now s s'
      (.answering (.validated reference id destination amount currency))) :
    call.confirmed.Executable settings now s ↔ PayoutFits settings call now s.db := by
  have hchecked : checkPayout call = .ok () := by
    rcases checkPayout_of_unsent hvalidated with h | ⟨answer, hsame, hanswer⟩ | h
    · cases h
    · obtain rfl := PayoutPhase.answering.inj hsame
      rcases hanswer with h | ⟨exception, h⟩
      · cases h
      · cases h
    · exact h
  have hwithin : admitPayout settings call.confirmed now s.db = .ok () ↔
      (settings.isProduction = true → upper call.payout.currency ∈ cfaCurrencies ∧
        kyc1Total call.userId now s.db + call.payout.amount ≤ settings.kyc1MonthlyLimitXaf) := by
    rw [admitPayout_confirmed hchecked]
    exact enforceKyc1MonthlyLimit_eq_ok
  -- what can be sent depends on the request alone, once the reference is long enough
  have hsend : ∀ {reference : String}, call.confirmed.payout.sendable reference = true ↔
      5 ≤ reference.toList.length ∧ (given call.payout.mobileMoneyOperator = true ∨
        given call.payout.bankCode = true ∨ given call.payout.bankName = true) :=
    sendable_iff (checkPayout_confirmed hchecked)
  constructor
  · intro hexecutable
    have hadmitted := hexecutable.admitted
    refine ⟨hwithin.mp hadmitted, ?_⟩
    -- the execution takes the statements of the preview and comes to the instruction
    obtain ⟨s₀, draft, row, hissuing, transactions, hinsert⟩ :=
      previewFollowed_unsent hlive hpreview hadmitted hvalidated
    exact (hsend.mp (hexecutable.sendable hissuing hinsert)).2
  · rintro ⟨hlimit, hdestination⟩
    exact executable_of_admitted hlive rfl (hwithin.mpr hlimit)
      fun reference hdrawn => hsend.mpr ⟨hdrawn.length, hdestination⟩

/-- **Validated payouts are executable within the limit**, when their destination is complete. -/
theorem executable_within_limit_iff {settings : TransferSettings} {call : PayoutCall}
    {now : Instant} {s s' : Store} {reference destination currency : String} {id : ℕ} {amount : ℚ}
    (hlive : settings.isDevelopment = false) (hpreview : call.payout.execute = false)
    (hvalidated : call.Unsent settings now s s'
      (.answering (.validated reference id destination amount currency)))
    (hdestination : given call.payout.mobileMoneyOperator = true ∨
      given call.payout.bankCode = true ∨ given call.payout.bankName = true) :
    call.confirmed.Executable settings now s ↔
      (settings.isProduction = true → upper call.payout.currency ∈ cfaCurrencies ∧
        kyc1Total call.userId now s.db + call.payout.amount ≤ settings.kyc1MonthlyLimitXaf) := by
  rw [payout_executable_iff hlive hpreview hvalidated]
  exact ⟨fun h => h.limit, fun h => ⟨h, hdestination⟩⟩

/-- A preview of a payout to an account number alone. -/
def bareAccount : PayoutCall where
  payout :=
    { amount := 500
      amount_pos := fiveHundred_pos
      currency := "XAF"
      currency_length := xaf_length
      customerEmail := "payee@example.test"
      customerEmail_length := payeeEmail_length
      accountNumber := some "10005000010000000001" }
  userId := 1
  confirmationHeader := none

/-- The amounts of the samples are positive. -/
theorem twentyMillion_pos : (0 : ℚ) < 20000000 := by
  norm_num

/-- What an answered request has answered. -/
def PayoutPhase.answer : PayoutPhase → Option PayoutAnswer
  | .answering answer => some answer
  | _ => none

/-- A request that was answered has come to its answer. -/
theorem PayoutCall.Unsent.answered {settings : TransferSettings} {call : PayoutCall} {n : ℕ}
    {now : Instant} {s : Store} {answer : PayoutAnswer}
    (h : (call.ahead settings (quietTick now) n s .requested).bind (fun r => r.2.answer) =
      some answer) :
    ∃ s', call.Unsent settings now s s' (.answering answer) := by
  obtain ⟨⟨s', phase⟩, hahead, hanswer⟩ := Option.bind_eq_some_iff.mp h
  have hphase : phase = .answering answer := by
    cases phase with
    | answering given => exact congrArg PayoutPhase.answering (Option.some.inj hanswer)
    | _ => cases hanswer
  subst hphase
  exact ⟨s', PayoutCall.Unsent.ahead (quietTick_drawn now) .arrived hahead⟩

/-- The statement on a payout of 500 XAF to a Mobile Money number. -/
theorem executable_within_limit_fiveHundred :
    (samplePayout 500 fiveHundred_pos false).confirmed.Executable productionSettings 0
        (Store.start Db.empty) ↔
      (productionSettings.isProduction = true → upper "XAF" ∈ cfaCurrencies ∧
        kyc1Total 1 0 Db.empty + 500 ≤ productionSettings.kyc1MonthlyLimitXaf) := by
  obtain ⟨s', hvalidated⟩ : ∃ s', (samplePayout 500 fiveHundred_pos false).Unsent
      productionSettings 0 (Store.start Db.empty) s' (.answering (.validated
        "afm-payout-00000000000000000000000000000000" 0 "mobile_money" 500 "XAF")) :=
    PayoutCall.Unsent.answered (n := 5) (by decide +kernel)
  exact executable_within_limit_iff rfl rfl hvalidated (Or.inl (by decide))

/-- A payout to an account number alone and one of twenty million are validated; confirmed in
the same state, the client refuses the one and the limit the other. -/
theorem validated_not_executable :
    (∃ s', bareAccount.Unsent productionSettings 0 (Store.start Db.empty) s' (.answering
        (.validated "afm-payout-00000000000000000000000000000000" 0 "bank_account" 500 "XAF"))) ∧
      ¬ bareAccount.confirmed.Executable productionSettings 0 (Store.start Db.empty) ∧
      (∃ s', (samplePayout 20000000 twentyMillion_pos false).Unsent productionSettings 0
        (Store.start Db.empty) s' (.answering (.validated
          "afm-payout-00000000000000000000000000000000" 0 "mobile_money" 20000000 "XAF"))) ∧
      ¬ (samplePayout 20000000 twentyMillion_pos false).confirmed.Executable productionSettings 0
        (Store.start Db.empty) := by
  refine ⟨PayoutCall.Unsent.answered (n := 5) (by decide +kernel), fun h => ?_,
    PayoutCall.Unsent.answered (n := 5) (by decide +kernel), fun h => ?_⟩
  · obtain ⟨s', hrefused⟩ : ∃ s', bareAccount.confirmed.Unsent productionSettings 0
        (Store.start Db.empty) s' (.answering .unavailable) :=
      PayoutCall.Unsent.answered (n := 6) (by decide +kernel)
    exact h s' _ hrefused
  · obtain ⟨s', hrejected⟩ : ∃ s',
        (samplePayout 20000000 twentyMillion_pos false).confirmed.Unsent productionSettings 0
          (Store.start Db.empty) s' (.answering (.rejected
            ⟨403, "Monthly KYC1 limit exceeded; enhanced verification is required"⟩)) :=
      PayoutCall.Unsent.answered (n := 1) (by decide +kernel)
    exact h s' _ hrejected

end AfricaFrontier
