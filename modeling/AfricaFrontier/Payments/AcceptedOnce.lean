import AfricaFrontier.Payments.PaymentRoute

/-!
# Payments accepted once and durably

What a client may expect of `create_payment`: a payment that was accepted is in the
database and can be read back; the requests of one user under one idempotency key are
accepted, and announced, at most once; and requests under different keys are not taken
for duplicates of each other.

`accepted_once_iff` says when a run keeps this.  Nothing the service returns is stored,
so no request may be accepted at all; an event for a key may only be published once; and
a lock, which is named without the key, must not be met by a request under another key.
The statements of a request touch Redis through four operations, and each has a lemma
that says what it does to the property.

That one statement keeps the property exactly when its guard says so (`keepsAcceptedOnce_iff`) is
put together from the four operations: taking the lock, announcing, releasing, and the outcome at
the end. The guard never asks what the statement leaves; it asks whose lock is held, what was
announced under the key, and whether the request is about to be accepted at all, since what
`process_payment` returns is not durable on any database (`not_durable`).
-/

namespace AfricaFrontier

open Python Relational Transition

/-! ## The property -/

/-- The call is one of `userId` under `key`. -/
def PaymentCall.under (userId : ℕ) (key : String) (call : PaymentCall) : Bool :=
  decide (call.userId = userId) && decide (call.idempotencyKey = some key)

/-- How many payments of a user were accepted under a key. -/
def PaymentDesk.acceptedUnder (desk : PaymentDesk) (userId : ℕ) (key : String) : ℕ :=
  desk.accepted.countP fun a => a.call.under userId key

/-- How many payments of a user were announced under a key. -/
def PaymentDesk.initiatedUnder (desk : PaymentDesk) (userId : ℕ) (key : String) : ℕ :=
  desk.events.countP fun e => e.1.under userId key && decide (e.2.eventType = .initiated)

/-- An accepted payment that is stored, and that its user can read. -/
structure AcceptedPayment.Durable (payment : AcceptedPayment) (db : Db) : Prop where
  stored : ∃ t ∈ db.transactions, payment.transaction.id = some t.id
  readable : ∃ view,
    getPayment (idText payment.transaction.id) payment.call.userId db = .ok view

/-- The two requests came under different keys. -/
def RefusedDuplicate.KeysDiffer (r : RefusedDuplicate) : Prop :=
  ∃ key key', r.call.idempotencyKey = some key ∧ r.holder.idempotencyKey = some key' ∧
    key ≠ key'

/-- Payments are accepted exactly once and durably. What was accepted is stored; under a key of a
user at most one is accepted and one announced; and nobody is refused for a payment under another
key. -/
structure AcceptedOnce (s : Store × PaymentDesk) : Prop where
  durable : ∀ payment ∈ s.2.accepted, payment.Durable s.1.db
  once : ∀ userId key, s.2.acceptedUnder userId key ≤ 1
  announced : ∀ userId key, s.2.initiatedUnder userId key ≤ 1
  apart : ∀ r ∈ s.2.refused, ¬ r.KeysDiffer

/-- Before the first request. -/
theorem acceptedOnce_start (store : Store) : AcceptedOnce (store, PaymentDesk.start) where
  durable := fun _ h => nomatch h
  once := fun _ _ => Nat.zero_le 1
  announced := fun _ _ => Nat.zero_le 1
  apart := fun _ h => nomatch h

/-- What `process_payment` returns has no primary key, so it is never durable. -/
theorem not_durable (call : PaymentCall) (lockId : String) (psp : PSPType) (at' : Instant)
    (db : Db) : ¬ AcceptedPayment.Durable ⟨call, newTransaction call lockId psp, at'⟩ db := by
  intro h
  obtain ⟨t, -, hid⟩ := h.stored
  cases hid

/-! ## What the operations on Redis do to it -/

section Operations

variable {store : Store} {desk : PaymentDesk}

/-- The locks have no part in the property. -/
theorem acceptedOnce_locks (locks : String → Option PaymentLock) :
    AcceptedOnce (store, { desk with locks := locks }) ↔ AcceptedOnce (store, desk) := by
  constructor
  · intro h
    exact ⟨h.durable, h.once, h.announced, h.apart⟩
  · intro h
    exact ⟨h.durable, h.once, h.announced, h.apart⟩

/-- A call is one of its own user, under its own key only. -/
theorem PaymentCall.under_iff {userId : ℕ} {key : String} {call : PaymentCall} :
    call.under userId key = true ↔ call.userId = userId ∧ call.idempotencyKey = some key := by
  simp [PaymentCall.under]

/-- How many payments were announced, after one event more. -/
theorem initiatedUnder_publish (call : PaymentCall) (event : PaymentEvent) (userId : ℕ)
    (key : String) :
    (desk.publish call event).initiatedUnder userId key =
      desk.initiatedUnder userId key +
        if call.under userId key && decide (event.eventType = .initiated) then 1 else 0 := by
  simp [PaymentDesk.initiatedUnder, PaymentDesk.publish, List.countP_append,
    List.countP_singleton]

/-- Announcing a payment keeps the property exactly when its user has announced none under
its key. -/
theorem acceptedOnce_announce {call : PaymentCall} {event : PaymentEvent}
    (hevent : event.eventType = .initiated) (h : AcceptedOnce (store, desk)) :
    AcceptedOnce (store, desk.publish call event) ↔
      ∀ key, call.idempotencyKey = some key → desk.initiatedUnder call.userId key = 0 := by
  constructor
  · intro h' key hkey
    have hunder : call.under call.userId key = true := PaymentCall.under_iff.mpr ⟨rfl, hkey⟩
    have hle : (desk.publish call event).initiatedUnder call.userId key ≤ 1 :=
      h'.announced call.userId key
    rw [initiatedUnder_publish, hunder, hevent] at hle
    simp only [Bool.true_and, decide_true, if_true] at hle
    omega
  · intro hfresh
    refine ⟨h.durable, h.once, fun userId key => ?_, h.apart⟩
    show (desk.publish call event).initiatedUnder userId key ≤ 1
    rw [initiatedUnder_publish]
    by_cases hunder : call.under userId key = true
    · obtain ⟨rfl, hkey⟩ := PaymentCall.under_iff.mp hunder
      rw [hfresh key hkey]
      split <;> omega
    · have hbefore : desk.initiatedUnder userId key ≤ 1 := h.announced userId key
      rw [if_neg (by simp [hunder])]
      omega

/-- Events of another type have no part in it. -/
theorem acceptedOnce_publish {call : PaymentCall} {event : PaymentEvent}
    (hevent : event.eventType ≠ .initiated) (h : AcceptedOnce (store, desk)) :
    AcceptedOnce (store, desk.publish call event) := by
  refine ⟨h.durable, h.once, fun userId key => ?_, h.apart⟩
  show (desk.publish call event).initiatedUnder userId key ≤ 1
  rw [initiatedUnder_publish, if_neg (by simp [hevent])]
  exact h.announced userId key

/-- Returning a transaction breaks it. -/
theorem not_acceptedOnce_accept (call : PaymentCall) (lockId : String) (psp : PSPType)
    (at' : Instant) :
    ¬ AcceptedOnce (store, desk.accept ⟨call, newTransaction call lockId psp, at'⟩) := by
  intro h
  refine not_durable call lockId psp at' store.db (h.durable _ ?_)
  exact List.mem_append_right _ (List.mem_singleton.mpr rfl)

/-- Refusing a request keeps it exactly when the lock was not taken under another key. -/
theorem acceptedOnce_refuse {call holder : PaymentCall} (h : AcceptedOnce (store, desk)) :
    AcceptedOnce (store, desk.refuse call holder) ↔
      ¬ RefusedDuplicate.KeysDiffer ⟨call, holder⟩ := by
  constructor
  · intro h'
    exact h'.apart _ (List.mem_append_right _ (List.mem_singleton.mpr rfl))
  · intro hsame
    refine ⟨h.durable, h.once, h.announced, fun r hr => ?_⟩
    rcases List.mem_append.mp hr with hr | hr
    · exact h.apart r hr
    · obtain rfl := List.mem_singleton.mp hr
      exact hsame

end Operations

/-! ## The statements that keep it

Each of the three conditions is asked at the one statement it is about. -/

/-- The next statement of a request keeps the property: its lock is not held under another
key, its key was not announced before, and it is not about to be accepted. -/
def keepsAcceptedOnce (config : PaymentConfig) (s : Store × PaymentDesk) (t : PaymentSession)
    (tick : PaymentTick) : Prop :=
  match t.phase with
  | .admitted _ =>
      checkPayment t.call.payment = .ok () → tick.reply = .answered →
        ∀ holder, s.2.holder (config.lockId t.call tick.now) tick.redisNow = some holder →
          ¬ RefusedDuplicate.KeysDiffer ⟨t.call, holder⟩
  | .locked _ =>
      (∃ psp, selectPsp config.credentials (upper t.call.payment.currency) t.call.payment.method
        t.call.payment.region = .ok psp) → tick.reply ≠ .refused →
        ∀ key, t.call.idempotencyKey = some key → s.2.initiatedUnder t.call.userId key = 0
  | .releasing _ (some _) => tick.reply ≠ .answered
  | _ => True

section Statements

variable {config : PaymentConfig} {store : Store} {desk : PaymentDesk} {call : PaymentCall}

/-- The guard of the statement that takes the lock is exact. -/
theorem takeLock_iff (tick : PaymentTick) (ticket : PaymentTicket)
    (h : AcceptedOnce (store, desk)) :
    (tick.reply = .answered → ∀ holder, desk.holder ticket.lockId tick.redisNow = some holder →
        ¬ RefusedDuplicate.KeysDiffer ⟨call, holder⟩) ↔
      AcceptedOnce (store, (call.takeLock desk tick ticket).1) := by
  cases hholder : desk.holder ticket.lockId tick.redisNow with
  | some holder =>
      cases hreply : tick.reply with
      | answered =>
          simp only [PaymentCall.takeLock, hholder, hreply]
          rw [acceptedOnce_refuse h]
          simp
      | lost =>
          simp only [PaymentCall.takeLock, hholder, hreply]
          exact iff_of_true (fun hanswered => by cases hanswered) h
      | refused =>
          simp only [PaymentCall.takeLock, hholder, hreply]
          exact iff_of_true (fun hanswered => by cases hanswered) h
  | none =>
      -- the lock is free: taking it, or failing to, leaves the property as it is
      refine iff_of_true (fun _ holder hheld => by cases hheld) ?_
      cases hreply : tick.reply with
      | answered =>
          simp only [PaymentCall.takeLock, hholder, hreply]
          exact (acceptedOnce_locks _).mpr h
      | lost =>
          simp only [PaymentCall.takeLock, hholder, hreply]
          exact (acceptedOnce_locks _).mpr h
      | refused =>
          simp only [PaymentCall.takeLock, hholder, hreply]
          exact h

/-- The guard of the announcement is exact. -/
theorem announce_iff (tick : PaymentTick) (ticket : PaymentTicket)
    (h : AcceptedOnce (store, desk)) :
    ((∃ psp, selectPsp config.credentials (upper call.payment.currency) call.payment.method
        call.payment.region = .ok psp) → tick.reply ≠ .refused →
        ∀ key, call.idempotencyKey = some key → desk.initiatedUnder call.userId key = 0) ↔
      AcceptedOnce (store, (call.announce config desk tick ticket).1) := by
  cases hpsp : selectPsp config.credentials (upper call.payment.currency) call.payment.method
      call.payment.region with
  | error exception =>
      simp only [PaymentCall.announce, hpsp]
      exact iff_of_true (fun hselected => by cases hselected.choose_spec) h
  | ok psp =>
      let event := initiatedEvent (newTransaction call ticket.lockId psp)
      -- the event counts under the key, also where the reply of Redis is lost
      have hannounced : AcceptedOnce (store, desk.publish call event) ↔
          ∀ key, call.idempotencyKey = some key → desk.initiatedUnder call.userId key = 0 :=
        acceptedOnce_announce rfl h
      cases hreply : tick.reply with
      | answered =>
          simp only [PaymentCall.announce, hpsp, hreply]
          rw [hannounced]
          simp
      | lost =>
          simp only [PaymentCall.announce, hpsp, hreply]
          rw [hannounced]
          simp
      | refused =>
          simp only [PaymentCall.announce, hpsp, hreply]
          exact iff_of_true (fun _ hsent => absurd rfl hsent) h

/-- The guard of the release is exact. -/
theorem release_iff (tick : PaymentTick) (ticket : PaymentTicket) (psp : Option PSPType)
    (h : AcceptedOnce (store, desk)) :
    (psp.isSome = true → tick.reply ≠ .answered) ↔
      AcceptedOnce (store, (call.release desk tick ticket psp).1) := by
  cases hreply : tick.reply with
  | refused =>
      simp only [PaymentCall.release, hreply]
      exact iff_of_true (fun _ hanswered => by cases hanswered) h
  | lost =>
      simp only [PaymentCall.release, hreply]
      exact iff_of_true (fun _ hanswered => by cases hanswered) ((acceptedOnce_locks _).mpr h)
  | answered =>
      cases psp with
      | none =>
          simp only [PaymentCall.release, hreply]
          exact iff_of_true (fun hmade => by cases hmade) ((acceptedOnce_locks _).mpr h)
      | some psp =>
          simp only [PaymentCall.release, hreply]
          exact iff_of_false (fun hnot => hnot rfl rfl)
            (not_acceptedOnce_accept call ticket.lockId psp ticket.timestamp)

/-- What the route publishes at the end is never an announcement. -/
theorem outcomeEvent_not_initiated (transaction : TransientTransaction) :
    (outcomeEvent transaction).eventType ≠ .initiated := by
  unfold outcomeEvent
  split <;> simp

/-- One statement keeps the property exactly when its guard says so. -/
theorem keepsAcceptedOnce_iff (t : PaymentSession) (tick : PaymentTick)
    (h : AcceptedOnce (store, desk)) :
    keepsAcceptedOnce config (store, desk) t tick ↔
      AcceptedOnce (store, (t.call.step config (store, desk) tick t.phase).1) := by
  obtain ⟨call, phase⟩ := t
  cases phase with
  | requested =>
      refine iff_of_true trivial ?_
      simp only [PaymentCall.step]
      split
      · exact h
      · split
        · exact h
        · exact h
  | admitted counted =>
      cases hcheck : checkPayment call.payment with
      | error exception =>
          simp only [keepsAcceptedOnce, PaymentCall.step, hcheck]
          exact iff_of_true (fun hok => by cases hok) h
      | ok =>
          simp only [keepsAcceptedOnce, PaymentCall.step, hcheck, true_imp_iff]
          exact takeLock_iff tick ⟨counted, config.lockId call tick.now, tick.now⟩ h
  | locked ticket => exact announce_iff tick ticket h
  | releasing ticket psp =>
      cases psp with
      | none =>
          refine iff_of_true trivial ?_
          have hkept : AcceptedOnce (store, (call.release desk tick ticket none).1) :=
            (release_iff tick ticket none h).mp (fun hmade => by cases hmade)
          exact hkept
      | some psp =>
          rw [keepsAcceptedOnce, PaymentCall.step, ← release_iff tick ticket (some psp) h]
          simp
  -- an outcome is no acceptance
  | returned ticket psp =>
      refine iff_of_true trivial ?_
      let event := outcomeEvent (newTransaction call ticket.lockId psp)
      have hpublished : AcceptedOnce (store, desk.publish call event) :=
        acceptedOnce_publish (outcomeEvent_not_initiated _) h
      cases hreply : tick.reply with
      | answered =>
          simp only [PaymentCall.step, hreply]
          exact hpublished
      | lost =>
          simp only [PaymentCall.step, hreply]
          exact hpublished
      | refused =>
          simp only [PaymentCall.step, hreply]
          exact h

end Statements

/-- **Payments are accepted exactly once and durably** in every state of a run, exactly when
no statement of the run accepts a payment, announces a second one under a key, or refuses a
request over a lock taken under another key. -/
theorem accepted_once_iff {config : PaymentConfig}
    {p p' : Pool (Store × PaymentDesk) PaymentSession}
    {acts : List (PoolAct PaymentCall PaymentTick)} (start : AcceptedOnce p.store)
    (run : Run (createPayment config).machine Unguarded p acts p') :
    Run (createPayment config).machine (Pool.StepMeets (keepsAcceptedOnce config)) p acts p' ↔
      ∀ front back mid, acts = front ++ back →
        Run (createPayment config).machine Unguarded p front mid → AcceptedOnce mid.store := by
  refine run.guarded_iff_store ?_ start
  intro s t tick s' o hadv h
  obtain ⟨rfl, -⟩ := Prod.mk.inj (Option.some.inj hadv)
  exact keepsAcceptedOnce_iff t tick h

/-! ## A retry, and two keys for one amount -/

/-- Production, with a Flutterwave account; the digest is that of the one text hashed in
the run below. -/
def flutterwaveConfig : PaymentConfig where
  settings := ⟨.production, 10000000⟩
  credentials := { flutterwavePublicKey := some "pk-live", flutterwaveSecretKey := some "sk-live" }
  sha256 := fun text =>
    if text = "1:1000:XAF:1970-01-01" then
      "2332742ce6ff4023f1a57a4437aab117aa784049d6b4d7b7859ac7cd22517b7b"
    else ""

/-- A thousand CFA francs of user 1, under a key. -/
def thousandFrancs (key : String) : PaymentCall where
  payment :=
    { amount := ⟨1000, 0⟩
      amount_pos := by norm_num [Numeral.value]
      currency := "XAF"
      currency_length := xaf_length
      phoneNumber := some "237690000001" }
  userId := 1
  idempotencyKey := some key

/-- The next statement of a request, with Redis answering. -/
def paymentStep (i : ℕ) : PoolAct PaymentCall PaymentTick := .advance i ⟨0, 0, false, .answered⟩

/-- Two requests under two keys meet at the lock; the first one is accepted. -/
def twoKeys : List (PoolAct PaymentCall PaymentTick) :=
  [.begin 0 (thousandFrancs "key-1"), .begin 1 (thousandFrancs "key-2"), paymentStep 0,
    paymentStep 1, paymentStep 0, paymentStep 1, paymentStep 0, paymentStep 0]

/-- The client of the first key retries it. -/
def retried : List (PoolAct PaymentCall PaymentTick) :=
  [.begin 2 (thousandFrancs "key-1"), paymentStep 2, paymentStep 2, paymentStep 2, paymentStep 2]

/-- The service before its first request, on an empty database. -/
def quietDesk : Pool (Store × PaymentDesk) PaymentSession :=
  Pool.quiet (Store.start Db.empty, PaymentDesk.start)

/-- What a client sees at the end of the run. -/
theorem twoKeys_retried : ((createPayment flutterwaveConfig).machine.check (fun _ _ => true)
    quietDesk (twoKeys ++ retried)).map (fun p => (p.store.2.acceptedUnder 1 "key-1",
      p.store.2.initiatedUnder 1 "key-1",
      p.store.2.refused.map fun r => (r.call.idempotencyKey, r.holder.idempotencyKey))) =
    some (2, 2, [(some "key-2", some "key-1")]) := by
  decide +kernel

/-- The statement on that run. -/
theorem accepted_once_iff_retried : ∃ p',
    Run (createPayment flutterwaveConfig).machine
        (Pool.StepMeets (keepsAcceptedOnce flutterwaveConfig)) quietDesk (twoKeys ++ retried) p' ↔
      ∀ front back mid, twoKeys ++ retried = front ++ back →
        Run (createPayment flutterwaveConfig).machine Unguarded quietDesk front mid →
        AcceptedOnce mid.store := by
  obtain ⟨p', hcheck, -⟩ := Option.map_eq_some_iff.mp twoKeys_retried
  exact ⟨p', accepted_once_iff (acceptedOnce_start _) (Run.of_check hcheck).unguarded⟩

/-- The retry is accepted and announced a second time, the request under the other key is
refused as a duplicate, and nothing that was accepted is stored. -/
theorem accepted_twice_unstored : ∃ p,
    Run (createPayment flutterwaveConfig).machine Unguarded quietDesk (twoKeys ++ retried) p ∧
      p.store.2.acceptedUnder 1 "key-1" = 2 ∧ p.store.2.initiatedUnder 1 "key-1" = 2 ∧
      (∃ r ∈ p.store.2.refused, r.KeysDiffer) ∧
      (∃ payment ∈ p.store.2.accepted, ¬ payment.Durable p.store.1.db) ∧
      ¬ AcceptedOnce p.store := by
  obtain ⟨p, hcheck, hseen⟩ := Option.map_eq_some_iff.mp twoKeys_retried
  simp only [Prod.mk.injEq] at hseen
  obtain ⟨haccepted, hinitiated, hrefused⟩ := hseen
  -- no transaction is stored by any of the requests
  have hstored : p.store.1.db.transactions.rows = [] := by
    have hempty : ((createPayment flutterwaveConfig).machine.check (fun _ _ => true) quietDesk
        (twoKeys ++ retried)).map (fun p => p.store.1.db.transactions.rows) = some [] := by
      decide +kernel
    rw [hcheck, Option.map_some, Option.some.injEq] at hempty
    exact hempty
  refine ⟨p, (Run.of_check hcheck).unguarded, haccepted, hinitiated, ?_, ?_, ?_⟩
  · obtain ⟨r, hr, hkeys⟩ : ∃ r ∈ p.store.2.refused,
        (r.call.idempotencyKey, r.holder.idempotencyKey) = (some "key-2", some "key-1") := by
      rw [← List.mem_map, hrefused]
      exact List.mem_singleton.mpr rfl
    obtain ⟨hkey, hkey'⟩ := Prod.mk.inj hkeys
    exact ⟨r, hr, "key-2", "key-1", hkey, hkey', by decide⟩
  · have hpos : 0 < p.store.2.acceptedUnder 1 "key-1" := by omega
    obtain ⟨payment, hpayment, -⟩ := List.countP_pos_iff.mp hpos
    refine ⟨payment, hpayment, fun hdurable => ?_⟩
    obtain ⟨t, ht, -⟩ := hdurable.stored
    rw [Table.mem_iff, hstored] at ht
    cases ht
  · intro hkept
    have honce : p.store.2.acceptedUnder 1 "key-1" ≤ 1 := hkept.once 1 "key-1"
    omega

end AfricaFrontier
