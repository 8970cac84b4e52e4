import AfricaFrontier.Auth.Histories

/-!
# The stored identity status

`kyc_status` is written by four routes and computed once more by `get_kyc`, from the two
verification times.  A signup verification resets it to pending and leaves the time of the
phone verification in place; every other writer computes it, or leaves both times as they
are.  The mobile sign-in sets the time of the e-mail verification and not the status, which
would matter for a user whose number is verified and whose address is not: `EmailFirst`
says that there is none.

The proof has two invariants, of different kinds. `KycAgrees` is the property; a call may break
it, and `keepsKycStatus_iff` says of one call when it does not. `EmailFirst` holds of every run
from the empty database whatever the calls are, and is what makes the condition so short: in its
presence neither the mobile sign-in nor a phone verification can separate the stored status from
the computed one.
-/

namespace AfricaFrontier

open Python Relational Transition

/-! ## Agreement -/

/-- The status of every user is the one `get_kyc` answers, which computes it from the two
verification times and does not look at the column. -/
def KycAgrees (db : AuthDb) : Prop :=
  ∀ u ∈ db.users, (getKyc u.id db).map KycResponse.status = .ok u.kycStatus

/-- The status of a user is the one its times come to. -/
def User.StatusAgrees (u : User) : Prop :=
  u.kycStatus = identityStatus u.emailVerifiedAt u.phoneVerifiedAt

/-- The agreement is one of every user by themselves. -/
theorem kycAgrees_iff_status {db : AuthDb} : KycAgrees db ↔ ∀ u ∈ db.users, u.StatusAgrees := by
  have hget : ∀ u ∈ db.users, (getKyc u.id db).map KycResponse.status =
      .ok (identityStatus u.emailVerifiedAt u.phoneVerifiedAt) := by
    intro u hu
    have hstored : db.users.get u.id = some u := Table.get_ident hu
    simp [getKyc, hstored, Except.map]
  constructor
  · intro h u hu
    exact (Except.ok.inj ((hget u hu).symm.trans (h u hu))).symm
  · intro h u hu
    rw [hget u hu, h u hu]

/-- The status is verified exactly where both times are set. -/
theorem kycAgrees_iff_verified {db : AuthDb} :
    KycAgrees db ↔ ∀ u ∈ db.users,
      (u.kycStatus = .verified ↔ u.emailVerifiedAt ≠ none ∧ u.phoneVerifiedAt ≠ none) := by
  rw [kycAgrees_iff_status]
  refine forall₂_congr fun u _ => ?_
  unfold User.StatusAgrees identityStatus
  cases u.kycStatus <;> cases u.emailVerifiedAt <;> cases u.phoneVerifiedAt <;> simp

/-- A number is verified after its address. A phone challenge is issued to a user whose address is
confirmed, and every route that sets the time of the phone verification needs such a challenge. -/
structure EmailFirst (db : AuthDb) : Prop where
  challenged : ∀ c ∈ db.challenges, c.purpose = .phoneVerify →
    ∃ u ∈ db.users, u.email = c.email ∧ u.emailVerifiedAt ≠ none
  phoned : ∀ u ∈ db.users, u.phoneVerifiedAt ≠ none → u.emailVerifiedAt ≠ none

/-- No signup verification succeeds for a user whose number is verified. It is the one writer that
sets a status without looking at the time of the phone verification; on every other call nothing
is asked. -/
def keepsKycStatus (config : AuthConfig) (w : AuthWorld) : AuthCall → Prop
  | .verifySignupOtp tick payload =>
      ∀ c d, SignsUp config tick payload w.db c (.update d) → d.loaded.phoneVerifiedAt = none
  | _ => True

/-! ## What the writers do to it

A new user has no verification at all; a profile and a phone verification store the computed
status; a signup verification stores pending. -/

section Calls

variable {config : AuthConfig} {w : AuthWorld}

/-- A new user is pending, with no number verified. -/
theorem User.IsNew.statusAgrees {u : User} (h : u.IsNew) : u.StatusAgrees := by
  unfold User.StatusAgrees identityStatus
  rw [h.status, h.phone]
  simp

/-- A new user agrees, and those that were there are as they were. -/
theorem statusAgrees_add {user : User} {users users' : Table User} (hnew : user.IsNew)
    (husers : (UserWrite.add user).flush users = some users')
    (h : ∀ u ∈ users, u.StatusAgrees) : ∀ u ∈ users', u.StatusAgrees := by
  intro u' hu'
  rcases UserWrite.mem_flush husers hu' with ⟨hold, -⟩ | ⟨user', hwrite, rfl⟩ | ⟨d, u, hwrite, -⟩
  · exact h u' hold
  · obtain rfl := UserWrite.add.inj hwrite
    exact hnew.statusAgrees
  · cases hwrite

/-- The profile a signup verification writes is pending, with the address confirmed: it
agrees exactly where the number is not. -/
theorem OtpVerifyRequest.profile_statusAgrees (payload : OtpVerifyRequest) (now : Instant)
    (u : User) : (payload.profile config now u).StatusAgrees ↔ u.phoneVerifiedAt = none := by
  unfold User.StatusAgrees identityStatus OtpVerifyRequest.profile
  cases u.phoneVerifiedAt with
  | none => simp
  | some time => simp

/-- A phone verification stores the status its times come to. -/
theorem User.phoneVerified_statusAgrees (u : User) (now : Instant) :
    (u.phoneVerified now).StatusAgrees := by
  unfold User.StatusAgrees identityStatus User.phoneVerified
  simp

/-- Confirming the address of a user changes nothing where the number waits for it. -/
theorem statusAgrees_of_same {u v : User} (hkyc : v.kycStatus = u.kycStatus)
    (hphone : v.phoneVerifiedAt = u.phoneVerifiedAt) {now : Instant}
    (hemail : v.emailVerifiedAt = u.emailVerifiedAt.or (some now))
    (hfirst : u.phoneVerifiedAt ≠ none → u.emailVerifiedAt ≠ none) (h : u.StatusAgrees) :
    v.StatusAgrees := by
  unfold User.StatusAgrees identityStatus at h ⊢
  rw [hkyc, h, hphone, hemail]
  cases hp : u.phoneVerifiedAt with
  | none => simp
  | some time =>
      obtain ⟨time', htime'⟩ := Option.ne_none_iff_exists'.mp (hfirst (by simp [hp]))
      simp [htime']

/-- One call keeps the agreement exactly when it meets the condition. -/
theorem keepsKycStatus_iff (first : EmailFirst w.db) (h : KycAgrees w.db) (call : AuthCall) :
    keepsKycStatus config w call ↔ KycAgrees (w.after config call).db := by
  rw [kycAgrees_iff_status] at h ⊢
  have heffect := w.after_users config call
  generalize (w.after config call).db.users = users at heffect
  cases heffect with
  | unchanged hquiet =>
      refine iff_of_true ?_ h
      cases call with
      | verifySignupOtp tick payload =>
          intro c d hsigns
          exact absurd hsigns (hquiet c _)
      | _ => trivial
  | registered husers =>
      exact iff_of_true trivial (statusAgrees_add (RegisterRequest.newUser_isNew _) husers h)
  | enrolled hsigns hnew husers =>
      refine iff_of_true ?_ (statusAgrees_add hnew husers h)
      intro c d hother
      cases (hsigns.unique hother).2
  -- the status is set from the address alone, whatever is known of the number
  | @signedUp tick payload c u users hsigns hrewrites =>
      rw [hrewrites.forall_iff h, OtpVerifyRequest.profile_statusAgrees]
      constructor
      · intro hkeeps
        exact hkeeps c _ hsigns
      · rintro hphone c' d hother
        obtain rfl := UserWrite.update.inj (hsigns.unique hother).2
        exact hphone
  | confirmed hconfirms hrewrites =>
      exact iff_of_true trivial
        ((hrewrites.forall_iff h).mpr (User.phoneVerified_statusAgrees _ _))
  | submitted hsubmits hrewrites =>
      exact iff_of_true trivial ((hrewrites.forall_iff h).mpr rfl)
  | exchanged hexchanges =>
      refine iff_of_true trivial ?_
      cases hexchanges with
      | nothing => exact h
      | created husers =>
          exact statusAgrees_add (MobileOAuthExchangeRequest.newUser_isNew _ _) husers h
      | rewrote hrewrites hemail hwhatsapp hphone hkyc hverified =>
          refine (hrewrites.forall_iff h).mpr ?_
          exact statusAgrees_of_same hkyc hphone hverified (first.phoned _ hrewrites.stored)
            (h _ hrewrites.stored)

/-- The user has confirmed the address. -/
def User.Reachable (email : String) (u : User) : Prop := u.email = email ∧ u.emailVerifiedAt ≠ none

/-- A confirmed address stays one. -/
theorem Rewrites.reachable {users users' : Table User} {u v : User} (h : Rewrites users users' u v)
    {email : String} (hkept : u.Reachable email → v.Reachable email)
    (hbefore : ∃ u ∈ users, u.Reachable email) : ∃ u' ∈ users', u'.Reachable email := by
  obtain ⟨u₀, hu₀, hreachable⟩ := hbefore
  by_cases hid : u₀.id = u.id
  · obtain rfl := Table.eq_of_ident hu₀ h.stored hid
    exact ⟨v, (h.mem_iff v).mpr (Or.inr rfl), hkept hreachable⟩
  · exact ⟨u₀, (h.mem_iff u₀).mpr (Or.inl ⟨hu₀, hid⟩), hreachable⟩

/-- A new user takes nobody's confirmation away. -/
theorem reachable_add {user : User} {users users' : Table User}
    (husers : (UserWrite.add user).flush users = some users') {email : String}
    (hbefore : ∃ u ∈ users, u.Reachable email) : ∃ u' ∈ users', u'.Reachable email := by
  obtain ⟨u, hu, hreachable⟩ := hbefore
  have hinsert : users.insert (fun n => { user with id := n }) (fun _ => rfl) = some users' :=
    husers
  exact ⟨u, (Table.mem_insert hinsert).mpr (Or.inl hu), hreachable⟩

/-- No call takes the confirmation of an address back. -/
theorem AuthWorld.after_reachable (w : AuthWorld) (call : AuthCall) {email : String}
    (hbefore : ∃ u ∈ w.db.users, u.Reachable email) :
    ∃ u ∈ (w.after config call).db.users, u.Reachable email := by
  have heffect := w.after_users config call
  generalize (w.after config call).db.users = users at heffect
  cases heffect with
  | unchanged => exact hbefore
  | registered husers => exact reachable_add husers hbefore
  | enrolled _ _ husers => exact reachable_add husers hbefore
  | signedUp _ hrewrites => exact hrewrites.reachable (fun h => ⟨h.1, nofun⟩) hbefore
  | confirmed _ hrewrites => exact hrewrites.reachable (fun h => h) hbefore
  | submitted _ hrewrites => exact hrewrites.reachable (fun h => h) hbefore
  | exchanged hexchanges =>
      cases hexchanges with
      | nothing => exact hbefore
      | created husers => exact reachable_add husers hbefore
      | rewrote hrewrites hemail _ _ _ hverified =>
          refine hrewrites.reachable (fun h => ⟨hemail.trans h.1, ?_⟩) hbefore
          rw [hverified]
          simp

/-- A new user has no number verified. -/
theorem phoned_add {user : User} {users users' : Table User} (hnew : user.IsNew)
    (husers : (UserWrite.add user).flush users = some users')
    (h : ∀ u ∈ users, u.phoneVerifiedAt ≠ none → u.emailVerifiedAt ≠ none) :
    ∀ u ∈ users', u.phoneVerifiedAt ≠ none → u.emailVerifiedAt ≠ none := by
  intro u' hu'
  rcases UserWrite.mem_flush husers hu' with ⟨hold, -⟩ | ⟨user', hwrite, rfl⟩ | ⟨d, u, hwrite, -⟩
  · exact h u' hold
  · obtain rfl := UserWrite.add.inj hwrite
    exact fun hphone => absurd hnew.phone hphone
  · cases hwrite

/-- Whoever confirms a number has confirmed the address its code was sent for. -/
theorem ConfirmsPhone.emailVerified {tick : AuthTick} {userId : ℕ}
    {payload : PhoneOtpVerifyRequest} {db : AuthDb} {c : UserOtpChallenge} {u : User}
    (h : ConfirmsPhone config tick userId payload db c u) (first : EmailFirst db) :
    u.emailVerifiedAt ≠ none := by
  obtain ⟨hc, haddressed, -⟩ := AuthDb.openChallenge_mem h.found
  obtain ⟨hemail, hpurpose, -⟩ := UserOtpChallenge.addressed_iff.mp haddressed
  obtain ⟨u', hu', hsame, hverified⟩ := first.challenged c hc hpurpose
  obtain rfl := User.eq_of_email hu' (Table.mem_of_get h.stored) (hsame.trans hemail)
  exact hverified

/-- One call keeps the order of the two verifications. -/
theorem EmailFirst.after (h : EmailFirst w.db) (call : AuthCall) :
    EmailFirst (w.after config call).db where
  challenged c' hc' hpurpose := by
    refine w.after_reachable call ?_
    -- a phone code is only issued to a user whose address is confirmed
    rcases (w.after_challenges config call).mem c' hc' with
      ⟨c, hc, hbecomes⟩ | ⟨-, haddress⟩
    · obtain ⟨u, hu, hemail, hverified⟩ := h.challenged c hc (hbecomes.purpose ▸ hpurpose)
      exact ⟨u, hu, hemail.trans hbecomes.email.symm, hverified⟩
    · exact haddress hpurpose
  phoned := by
    have heffect := w.after_users config call
    generalize (w.after config call).db.users = users at heffect
    cases heffect with
    | unchanged => exact h.phoned
    | registered husers => exact phoned_add (RegisterRequest.newUser_isNew _) husers h.phoned
    | enrolled _ hnew husers => exact phoned_add hnew husers h.phoned
    | signedUp _ hrewrites => exact (hrewrites.forall_iff h.phoned).mpr fun _ => nofun
    | confirmed hconfirms hrewrites =>
        exact (hrewrites.forall_iff h.phoned).mpr fun _ => hconfirms.emailVerified h
    | submitted _ hrewrites =>
        have hstored := h.phoned _ hrewrites.stored
        exact (hrewrites.forall_iff h.phoned).mpr hstored
    | exchanged hexchanges =>
        cases hexchanges with
        | nothing => exact h.phoned
        | created husers =>
            exact phoned_add (MobileOAuthExchangeRequest.newUser_isNew _ _) husers h.phoned
        | rewrote hrewrites _ _ _ _ hverified =>
            refine (hrewrites.forall_iff h.phoned).mpr fun _ => ?_
            rw [hverified]
            simp

/-- **The stored status and the computed one**: they agree in every state of a sequence of
calls exactly when no signup verification of the sequence succeeds for a user whose number
is verified. -/
theorem kyc_agrees_iff {w' : AuthWorld} {calls : List AuthCall} (start : KycAgrees w.db)
    (first : EmailFirst w.db) (run : Run (authCalls config) Unguarded w calls w') :
    Run (authCalls config) (keepsKycStatus config) w calls w' ↔
      ∀ front back mid, calls = front ++ back → Run (authCalls config) Unguarded w front mid →
        KycAgrees mid.db := by
  refine run.guarded_iff_within (J := fun w => EmailFirst w.db) ?_ ?_ first start
  · intro w call w' hstep _ hfirst
    obtain rfl := Option.some.inj hstep
    exact hfirst.after call
  · intro w call w' hstep _ hfirst hagrees
    obtain rfl := Option.some.inj hstep
    exact keepsKycStatus_iff hfirst hagrees call

end Calls

/-! ## Signing up again -/

/-- Nobody has a status yet. -/
theorem kycAgrees_empty : KycAgrees AuthDb.empty := by
  intro u hu
  cases hu

/-- Nobody has verified anything yet. -/
theorem emailFirst_empty : EmailFirst AuthDb.empty where
  challenged c hc := by cases hc
  phoned u hu := by cases hu

/-- The user signs up once more, with the same number. -/
def signUpAgain : List AuthCall :=
  signUpAndConfirm ++
    [askSignup (seconds 120) "654321", enterSignup (seconds 150) "654321" "+237690000001"]

/-- The statement on that sequence. -/
theorem kyc_agrees_iff_again : ∃ w',
    Run (authCalls sampleAuth) (keepsKycStatus sampleAuth) quietAuth signUpAgain w' ↔
      ∀ front back mid, signUpAgain = front ++ back →
        Run (authCalls sampleAuth) Unguarded quietAuth front mid → KycAgrees mid.db := by
  have hrun : ((authCalls sampleAuth).check (fun _ _ => true) quietAuth signUpAgain).map
      (fun w => w.db.users.rows.length) = some 1 := by
    decide +kernel
  obtain ⟨w', hcheck, -⟩ := Option.map_eq_some_iff.mp hrun
  exact ⟨w', kyc_agrees_iff kycAgrees_empty emailFirst_empty (Run.of_check hcheck).unguarded⟩

/-- The status that is stored is pending, the one that is answered is verified. -/
theorem kyc_status_disagrees : ∃ w',
    Run (authCalls sampleAuth) Unguarded quietAuth signUpAgain w' ∧
      (w'.db.users.rows.map fun u => u.kycStatus) = [.pending] ∧
      (getKyc 0 w'.db).map KycResponse.status = .ok .verified ∧ ¬ KycAgrees w'.db := by
  have hrun : ((authCalls sampleAuth).check (fun _ _ => true) quietAuth signUpAgain).map
      (fun w => (w.db.users.rows.map fun u => (u.id, u.kycStatus),
        (getKyc 0 w.db).map KycResponse.status)) = some ([(0, .pending)], .ok .verified) := by
    decide +kernel
  obtain ⟨w', hcheck, hseen⟩ := Option.map_eq_some_iff.mp hrun
  obtain ⟨hstored, hanswered⟩ := Prod.mk.inj hseen
  have hstatus : (w'.db.users.rows.map fun u => u.kycStatus) = [.pending] := by
    have hsecond := congrArg (List.map Prod.snd) hstored
    rw [List.map_map] at hsecond
    exact hsecond
  refine ⟨w', (Run.of_check hcheck).unguarded, hstatus, hanswered, fun hagrees => ?_⟩
  obtain ⟨u, hu, hid⟩ : ∃ u ∈ w'.db.users.rows, (u.id, u.kycStatus) = (0, .pending) := by
    rw [← List.mem_map, hstored]
    exact List.mem_singleton.mpr rfl
  obtain ⟨hid, hpending⟩ := Prod.mk.inj hid
  have hanswer := hagrees u hu
  rw [hid, hpending, hanswered] at hanswer
  cases hanswer

end AfricaFrontier
