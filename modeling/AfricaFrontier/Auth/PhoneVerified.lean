import AfricaFrontier.Auth.Histories

/-!
# The verified number

A user whose number is verified should have the number that was verified, and lose the
verification with it.  No route ever takes a verification back, so it is kept only as long
as the two routes that write the number write the same one; and a phone verification
accepts the legacy alias where there is no WhatsApp number, and then verifies a number that
the user does not have.

Two statements are followed along a run. `PhonesConfirmed` is about each state: a verified number
is the current one, and its user confirmed it at some time. `ChangeClears` is about each call:
whoever gets another number loses the verification. Since a route rewrites at most one user, both
come down to that user (`Rewrites.phones_iff`), and there to one comparison of two normalised
numbers (`numberConfirmed_and_cleared_iff`).

`NumbersGiven` holds of every run and removes the one odd case: a number column never holds the
empty text, so that a number which is there is the one a profile shows.
-/

namespace AfricaFrontier

open Python Relational Transition

/-! ## The property -/

/-- The user has confirmed the number. -/
def Confirmed (confirmations : List Confirmation) (userId : ℕ) (number : String) : Prop :=
  ∃ entry ∈ confirmations,
    entry.purpose = .phoneVerify ∧ entry.userId = userId ∧ entry.target = number

/-- A verified number is the current one, and was confirmed. -/
def User.NumberConfirmed (config : AuthConfig) (confirmations : List Confirmation) (u : User) :
    Prop :=
  u.phoneVerifiedAt ≠ none → ∃ number, u.whatsappPhone = some number ∧
    Confirmed confirmations u.id (config.normalizePhone number)

/-- The verified numbers of all users are theirs, and were confirmed by them at some time. -/
def PhonesConfirmed (config : AuthConfig) (w : AuthWorld) : Prop :=
  ∀ u ∈ w.db.users, u.NumberConfirmed config w.confirmations

/-- With another number the user has none that is verified. -/
def ClearedBy (config : AuthConfig) (u u' : User) : Prop :=
  u.phoneVerifiedAt ≠ none →
    u'.whatsappPhone.map config.normalizePhone ≠ u.whatsappPhone.map config.normalizePhone →
      u'.phoneVerifiedAt = none

/-- The call takes the verification from whoever gets another number. Two spellings of one number
are one number: both sides are normalised. -/
def ChangeClears (config : AuthConfig) (w : AuthWorld) (call : AuthCall) : Prop :=
  ∀ u ∈ w.db.users, ∀ u' ∈ (w.after config call).db.users, u'.id = u.id → ClearedBy config u u'

/-- No number is the empty text, since the routes take an empty text for no number at all. -/
def NumbersGiven (db : AuthDb) : Prop := ∀ u ∈ db.users, u.whatsappPhone ≠ some ""

/-! ## The condition -/

/-- A call that succeeds leaves a verified number as it is, and verifies a WhatsApp
number. -/
def keepsConfirmedPhone (config : AuthConfig) (w : AuthWorld) : AuthCall → Prop
  | .verifySignupOtp tick payload =>
      ∀ c d, SignsUp config tick payload w.db c (.update d) → d.loaded.phoneVerifiedAt ≠ none →
        config.normalizeOptional payload.whatsappPhone =
          d.loaded.whatsappPhone.map config.normalizePhone
  | .verifyPhoneOtp tick userId payload =>
      ∀ c u, ConfirmsPhone config tick userId payload w.db c u → u.whatsappPhone ≠ none
  | .submitKyc tick userId payload =>
      ∀ u, SubmitsKyc tick userId payload w.db u → u.phoneVerifiedAt ≠ none →
        payload.whatsappPhone ≠ "" →
          some (config.normalizePhone payload.whatsappPhone) =
            u.whatsappPhone.map config.normalizePhone
  | _ => True

section Calls

variable {config : AuthConfig} {w : AuthWorld}

/-- More confirmations confirm as much. -/
theorem User.NumberConfirmed.mono {confirmations confirmations' : List Confirmation} {u : User}
    (hsub : confirmations ⊆ confirmations') (h : u.NumberConfirmed config confirmations) :
    u.NumberConfirmed config confirmations' := by
  intro hphone
  obtain ⟨number, hnumber, entry, hentry, hmatches⟩ := h hphone
  exact ⟨number, hnumber, entry, hsub hentry, hmatches⟩

/-- Who is left as stored gets no other number. -/
theorem ClearedBy.refl (u : User) : ClearedBy config u u := fun _ hother => absurd rfl hother

/-- A new user has no verified number. -/
theorem User.IsNew.numberConfirmed {confirmations : List Confirmation} {u : User} (h : u.IsNew) :
    u.NumberConfirmed config confirmations := fun hphone => absurd h.phone hphone

/-- Normalising what is normalised changes nothing. -/
theorem AuthConfig.normalizeOptional_idem (value : Option String) :
    (config.normalizeOptional value).map config.normalizePhone =
      config.normalizeOptional value := by
  unfold AuthConfig.normalizeOptional
  cases truthy value with
  | none => rfl
  | some phone => rw [Option.map_some, Option.map_some, config.normalizePhone_idem]

/-- The number of a user whose verification is kept: it may only be written as it was. -/
theorem numberConfirmed_and_cleared_iff {confirmations : List Confirmation} {u v : User}
    (hid : v.id = u.id) (hphone : v.phoneVerifiedAt = u.phoneVerifiedAt)
    (h : u.NumberConfirmed config confirmations) :
    (u.phoneVerifiedAt ≠ none →
        v.whatsappPhone.map config.normalizePhone = u.whatsappPhone.map config.normalizePhone) ↔
      v.NumberConfirmed config confirmations ∧ ClearedBy config u v := by
  constructor
  · intro hsame
    constructor
    · intro hverified
      rw [hphone] at hverified
      obtain ⟨number, hnumber, hconfirmed⟩ := h hverified
      have hnormal := hsame hverified
      rw [hnumber, Option.map_some] at hnormal
      obtain ⟨number', hnumber', heq⟩ := Option.map_eq_some_iff.mp hnormal
      exact ⟨number', hnumber', by rw [hid, heq]; exact hconfirmed⟩
    · intro hverified hother
      exact absurd (hsame hverified) hother
  · rintro ⟨-, hcleared⟩ hverified
    by_contra hother
    exact hverified (hphone.symm.trans (hcleared hverified hother))

/-- Rewriting a user keeps the property, and clears, exactly when it does so for that user. -/
theorem Rewrites.phones_iff {call : AuthCall} {u v : User}
    (h : Rewrites w.db.users (w.after config call).db.users u v)
    (hconfirmed : PhonesConfirmed config w) :
    PhonesConfirmed config (w.after config call) ∧ ChangeClears config w call ↔
      v.NumberConfirmed config (w.after config call).confirmations ∧ ClearedBy config u v := by
  have hbefore : ∀ u ∈ w.db.users, u.NumberConfirmed config (w.after config call).confirmations :=
    fun u hu => (hconfirmed u hu).mono (w.subset_after config call)
  exact and_congr (h.forall_iff hbefore) (h.forall_same_iff ClearedBy.refl)

/-- A call that leaves the stored users as they are, and adds at most a new one. -/
theorem phones_of_kept {call : AuthCall} (hconfirmed : PhonesConfirmed config w)
    (hkept : ∀ u' ∈ (w.after config call).db.users, u' ∈ w.db.users ∨
      (u'.IsNew ∧ ∀ u ∈ w.db.users, u'.id ≠ u.id)) :
    PhonesConfirmed config (w.after config call) ∧ ChangeClears config w call := by
  constructor
  · intro u' hu'
    rcases hkept u' hu' with hold | ⟨hnew, -⟩
    · exact (hconfirmed u' hold).mono (w.subset_after config call)
    · exact hnew.numberConfirmed
  · intro u hu u' hu' hid
    rcases hkept u' hu' with hold | ⟨-, hother⟩
    · obtain rfl := Table.eq_of_ident hold hu hid
      exact ClearedBy.refl u'
    · exact absurd hid (hother u hu)

/-- Adding a new user leaves the others as they are. -/
theorem kept_of_add {user : User} {users users' : Table User} (hnew : user.IsNew)
    (husers : (UserWrite.add user).flush users = some users') :
    ∀ u' ∈ users', u' ∈ users ∨ (u'.IsNew ∧ ∀ u ∈ users, u'.id ≠ u.id) := by
  intro u' hu'
  rcases UserWrite.mem_flush husers hu' with ⟨hold, -⟩ | ⟨user', hwrite, rfl⟩ | ⟨d, u, hwrite, -⟩
  · exact Or.inl hold
  · obtain rfl := UserWrite.add.inj hwrite
    refine Or.inr ⟨⟨hnew.phone, hnew.status, hnew.whatsapp⟩, fun u hu => ?_⟩
    exact (users.fresh u hu).ne'
  · cases hwrite

/-- The number of the profile is the WhatsApp number, where there is one. -/
theorem User.profilePhone_of_some {u : User} {number : String} (h : u.whatsappPhone = some number)
    (hgiven : u.whatsappPhone ≠ some "") : u.profilePhone = number := by
  have hne : number ≠ "" := fun hempty => hgiven (hempty ▸ h)
  rw [User.profilePhone, h, truthy_some hne]
  rfl

/-- A phone verification keeps the property exactly when it is of a WhatsApp number. -/
theorem ConfirmsPhone.phones_iff {tick : AuthTick} {userId : ℕ} {payload : PhoneOtpVerifyRequest}
    {c : UserOtpChallenge} {u : User} (h : ConfirmsPhone config tick userId payload w.db c u)
    (hgiven : NumbersGiven w.db) :
    u.whatsappPhone ≠ none ↔
      (u.phoneVerified tick.now).NumberConfirmed config
          (w.after config (.verifyPhoneOtp tick userId payload)).confirmations ∧
        ClearedBy config u (u.phoneVerified tick.now) := by
  have hstored : u ∈ w.db.users := Table.mem_of_get h.stored
  have hid : u.id = userId := Table.ident_of_get h.stored
  constructor
  · intro hnumber
    obtain ⟨number, hnumber⟩ := Option.ne_none_iff_exists'.mp hnumber
    have hprofile : u.profilePhone = number :=
      User.profilePhone_of_some hnumber (hgiven u hstored)
    constructor
    · intro _
      refine ⟨number, hnumber, ?_⟩
      rw [h.after_confirmations]
      refine ⟨_, List.mem_append_right _ (List.mem_singleton.mpr rfl), rfl, hid.symm, ?_⟩
      rw [← h.matched, hprofile]
    · intro _ hother
      exact absurd rfl hother
  · rintro ⟨hconfirmed, -⟩ hnone
    obtain ⟨number, hnumber, -⟩ := hconfirmed nofun
    have hsome : u.whatsappPhone = some number := hnumber
    rw [hnone] at hsome
    cases hsome

/-- One call keeps the verified numbers exactly when it meets the condition. -/
theorem keepsConfirmedPhone_iff (hgiven : NumbersGiven w.db) (h : PhonesConfirmed config w)
    (call : AuthCall) :
    keepsConfirmedPhone config w call ↔
      PhonesConfirmed config (w.after config call) ∧ ChangeClears config w call := by
  -- by what the call does to the users; only three kinds of calls touch a number
  have heffect := w.after_users config call
  generalize husers' : (w.after config call).db.users = users at heffect
  cases heffect with
  | unchanged hquiet =>
      refine iff_of_true ?_ (phones_of_kept h fun u' hu' => Or.inl (husers' ▸ hu'))
      cases call with
      | verifySignupOtp tick payload => exact fun c d hsigns => absurd hsigns (hquiet c _)
      | verifyPhoneOtp tick userId payload =>
          exact fun c u hconfirms => absurd hconfirms (hquiet c u)
      | submitKyc tick userId payload => exact fun u hsubmits => absurd hsubmits (hquiet u)
      | _ => trivial
  | registered husers =>
      refine iff_of_true trivial (phones_of_kept h ?_)
      rw [husers']
      exact kept_of_add (RegisterRequest.newUser_isNew _) husers
  | enrolled hsigns hnew husers =>
      refine iff_of_true ?_ (phones_of_kept h ?_)
      · intro c d hother
        cases (hsigns.unique hother).2
      · rw [husers']
        exact kept_of_add hnew husers
  -- the number given at the sign-up replaces the one of the row, and the time stays
  | @signedUp tick payload c u users hsigns hrewrites =>
      rw [← husers'] at hrewrites
      have hstored := (h u hrewrites.stored).mono (w.subset_after config
        (.verifySignupOtp tick payload))
      rw [hrewrites.phones_iff h, ← numberConfirmed_and_cleared_iff hrewrites.sameId rfl hstored]
      show _ ↔ (u.phoneVerifiedAt ≠ none →
        (config.normalizeOptional payload.whatsappPhone).map config.normalizePhone = _)
      rw [AuthConfig.normalizeOptional_idem]
      constructor
      · intro hkeeps
        exact hkeeps c _ hsigns
      · rintro hsame c' d hother
        obtain rfl := UserWrite.update.inj (hsigns.unique hother).2
        exact hsame
  | @confirmed tick userId payload c u users hconfirms hrewrites =>
      rw [← husers'] at hrewrites
      rw [hrewrites.phones_iff h, ← hconfirms.phones_iff hgiven]
      constructor
      · intro hkeeps
        exact hkeeps c u hconfirms
      · intro hnumber c' u' hother
        obtain rfl := Option.some.inj (hconfirms.stored.symm.trans hother.stored)
        exact hnumber
  -- an empty number leaves the old one, any other replaces it
  | @submitted tick userId payload u users hsubmits hrewrites =>
      rw [← husers'] at hrewrites
      have hstored := (h u hrewrites.stored).mono (w.subset_after config
        (.submitKyc tick userId payload))
      rw [hrewrites.phones_iff h, ← numberConfirmed_and_cleared_iff hrewrites.sameId rfl hstored]
      have hguard : keepsConfirmedPhone config w (.submitKyc tick userId payload) ↔
          (u.phoneVerifiedAt ≠ none → payload.whatsappPhone ≠ "" →
            some (config.normalizePhone payload.whatsappPhone) =
              u.whatsappPhone.map config.normalizePhone) := by
        constructor
        · intro hkeeps
          exact hkeeps u hsubmits
        · rintro hsame u' hother
          obtain rfl := Option.some.inj (hsubmits.stored.symm.trans hother.stored)
          exact hsame
      rw [hguard]
      refine imp_congr_right fun _ => ?_
      show _ ↔ ((config.normalizeOptional (some payload.whatsappPhone)).or u.whatsappPhone).map
        config.normalizePhone = _
      by_cases hempty : payload.whatsappPhone = ""
      · rw [hempty, AuthConfig.normalizeOptional, truthy_empty]
        exact iff_of_true (fun hne => absurd rfl hne) rfl
      · rw [AuthConfig.normalizeOptional, truthy_some hempty, Option.map_some, Option.some_or,
          Option.map_some, config.normalizePhone_idem]
        exact forall_prop_of_true hempty
  | @exchanged tick exchangeSecret payload db' hexchanges =>
      cases hexchanges with
      | nothing =>
          exact iff_of_true trivial (phones_of_kept h fun u' hu' => Or.inl (husers' ▸ hu'))
      | created husers =>
          refine iff_of_true trivial (phones_of_kept h ?_)
          rw [husers']
          exact kept_of_add (MobileOAuthExchangeRequest.newUser_isNew _ _) husers
      | @rewrote users u v hrewrites hemail hwhatsapp hphone hkyc hverified =>
          change (w.after config _).db.users = users at husers'
          rw [← husers'] at hrewrites
          have hstored := (h u hrewrites.stored).mono (w.subset_after config
            (.exchangeMobileOauth tick exchangeSecret payload))
          rw [hrewrites.phones_iff h,
            ← numberConfirmed_and_cleared_iff hrewrites.sameId hphone hstored, hwhatsapp]
          exact iff_of_true trivial fun _ => rfl

/-- Numbers stay what is normalised. -/
theorem NumbersGiven.after (h : NumbersGiven w.db) (call : AuthCall) :
    NumbersGiven (w.after config call).db := by
  have heffect := w.after_users config call
  unfold NumbersGiven at h ⊢
  generalize (w.after config call).db.users = users at heffect
  -- a new user has no number, or one that is not empty
  have hadd : ∀ {user : User} {users' : Table User}, user.IsNew →
      (UserWrite.add user).flush w.db.users = some users' →
        ∀ u ∈ users', u.whatsappPhone ≠ some "" := by
    intro user users' hnew husers u hu
    rcases kept_of_add hnew husers u hu with hold | ⟨hnew', -⟩
    · exact h u hold
    · exact hnew'.whatsapp
  cases heffect with
  | unchanged => exact h
  | registered husers => exact hadd (RegisterRequest.newUser_isNew _) husers
  | enrolled _ hnew husers => exact hadd hnew husers
  | signedUp _ hrewrites =>
      exact (hrewrites.forall_iff h).mpr (AuthConfig.normalizeOptional_ne_empty _)
  | confirmed _ hrewrites =>
      have hstored := h _ hrewrites.stored
      exact (hrewrites.forall_iff h).mpr hstored
  | @submitted tick userId payload u users _ hrewrites =>
      refine (hrewrites.forall_iff h).mpr ?_
      show (config.normalizeOptional (some payload.whatsappPhone)).or u.whatsappPhone ≠ some ""
      cases hnumber : config.normalizeOptional (some payload.whatsappPhone) with
      | none => exact h u hrewrites.stored
      | some number =>
          rw [Option.some_or, ← hnumber]
          exact AuthConfig.normalizeOptional_ne_empty _
  | exchanged hexchanges =>
      cases hexchanges with
      | nothing => exact h
      | created husers => exact hadd (MobileOAuthExchangeRequest.newUser_isNew _ _) husers
      | rewrote hrewrites _ hwhatsapp _ _ _ =>
          refine (hrewrites.forall_iff h).mpr ?_
          rw [hwhatsapp]
          exact h _ hrewrites.stored

/-- **The verified number**: every user whose number is verified has a number that the same
user confirmed, and loses the verification with the number, throughout a sequence of calls
exactly when each call of it leaves verified numbers as they are and verifies only WhatsApp
numbers. -/
theorem phones_confirmed_iff {w' : AuthWorld} {calls : List AuthCall}
    (start : PhonesConfirmed config w) (given : NumbersGiven w.db)
    (run : Run (authCalls config) Unguarded w calls w') :
    Run (authCalls config) (keepsConfirmedPhone config) w calls w' ↔
      ∀ front call back mid mid', calls = front ++ call :: back →
        Run (authCalls config) Unguarded w front mid →
        (authCalls config).step mid call = some mid' →
        PhonesConfirmed config mid' ∧ ChangeClears config mid call := by
  refine run.guarded_iff_steps_within (J := fun w => NumbersGiven w.db) ?_ ?_ given start
  · intro w call w' hstep hgiven
    obtain rfl := Option.some.inj hstep
    exact hgiven.after call
  · intro w call w' hstep hgiven hconfirmed
    obtain rfl := Option.some.inj hstep
    exact keepsConfirmedPhone_iff hgiven hconfirmed call

end Calls

/-! ## Another number -/

/-- Nobody has a number yet. -/
theorem phonesConfirmed_empty : PhonesConfirmed sampleAuth quietAuth := by
  intro u hu
  cases hu

/-- In the empty database nobody has an empty number. -/
theorem numbersGiven_empty : NumbersGiven AuthDb.empty := by
  intro u hu
  cases hu

/-- The profile of the first user, with another number than the one that was confirmed. -/
def submitOther : AuthCall :=
  .submitKyc ⟨seconds 120, false⟩ 0
    { fullName := "Ada Example"
      whatsappPhone := "+237690000002"
      country := "CM"
      dateOfBirth := "1990-01-01"
      identityConsent := true }

/-- The statement on a user who confirms a number and submits another one. -/
theorem phones_confirmed_iff_other : ∃ w',
    Run (authCalls sampleAuth) (keepsConfirmedPhone sampleAuth) quietAuth
        (signUpAndConfirm ++ [submitOther]) w' ↔
      ∀ front call back mid mid', signUpAndConfirm ++ [submitOther] = front ++ call :: back →
        Run (authCalls sampleAuth) Unguarded quietAuth front mid →
        (authCalls sampleAuth).step mid call = some mid' →
        PhonesConfirmed sampleAuth mid' ∧ ChangeClears sampleAuth mid call := by
  have hrun : ((authCalls sampleAuth).check (fun _ _ => true) quietAuth
      (signUpAndConfirm ++ [submitOther])).map (fun w => w.db.users.rows.length) = some 1 := by
    decide +kernel
  obtain ⟨w', hcheck, -⟩ := Option.map_eq_some_iff.mp hrun
  exact ⟨w', phones_confirmed_iff phonesConfirmed_empty numbersGiven_empty
    (Run.of_check hcheck).unguarded⟩

/-- The user stays verified, with a number nobody confirmed. -/
theorem unconfirmed_number_verified : ∃ w',
    Run (authCalls sampleAuth) Unguarded quietAuth (signUpAndConfirm ++ [submitOther]) w' ∧
      (w'.db.users.rows.map fun u => (u.whatsappPhone, u.phoneVerifiedAt)) =
        [(some "+237690000002", some (seconds 90))] ∧
      (w'.confirmations.map fun entry => (entry.purpose, entry.target)) =
        [(.signup, "ada@example.com"), (.phoneVerify, "+237690000001")] ∧
      ¬ PhonesConfirmed sampleAuth w' := by
  have hrun : ((authCalls sampleAuth).check (fun _ _ => true) quietAuth
      (signUpAndConfirm ++ [submitOther])).map
        (fun w => (w.db.users.rows.map fun u => (u.whatsappPhone, u.phoneVerifiedAt),
          w.confirmations.map fun entry => (entry.purpose, entry.target))) =
      some ([(some "+237690000002", some (seconds 90))],
        [(.signup, "ada@example.com"), (.phoneVerify, "+237690000001")]) := by
    decide +kernel
  obtain ⟨w', hcheck, hseen⟩ := Option.map_eq_some_iff.mp hrun
  obtain ⟨hstored, hmade⟩ := Prod.mk.inj hseen
  refine ⟨w', (Run.of_check hcheck).unguarded, hstored, hmade, fun hconfirmed => ?_⟩
  obtain ⟨u, hu, hrow⟩ : ∃ u ∈ w'.db.users.rows,
      (u.whatsappPhone, u.phoneVerifiedAt) = (some "+237690000002", some (seconds 90)) := by
    rw [← List.mem_map, hstored]
    exact List.mem_singleton.mpr rfl
  obtain ⟨hnumber, hverified⟩ := Prod.mk.inj hrow
  obtain ⟨number, hsame, entry, hentry, -, -, htarget⟩ := hconfirmed u hu (by simp [hverified])
  obtain rfl := Option.some.inj (hnumber.symm.trans hsame)
  have hmem : (entry.purpose, entry.target) ∈
      [(OtpPurpose.signup, "ada@example.com"), (OtpPurpose.phoneVerify, "+237690000001")] := by
    rw [← hmade]
    exact List.mem_map_of_mem hentry
  rw [htarget] at hmem
  simp [AuthConfig.normalizePhone, sampleAuth] at hmem

end AfricaFrontier
