import AfricaFrontier.Kora.PayoutRoute

/-!
# Retried payouts

`create_kora_payout` reads no idempotency key: the header that carries one is allowed by
the gateway, and tags the request here, but no statement looks at it.  Each request draws a
reference of its own and calls the provider under that.  So a retry is one more payout,
unless the route turns one of the two away.

`payout_called_once_iff` puts that as a condition on the requests alone.  A request is
`Live` if the route's checks can let it through; then no two calls for one user, key and
body are made in any run from any database exactly if no two live requests have the same
user, key and body (`LiveOnce`).

* If there are no two, each call is made by a live request of its own: `Unspent` is the
  invariant of a run, which looks at the calls made, the sessions that may still call and
  the requests still to come.
* If there are two, they need only arrive on a database that lets one through: nothing the
  first one leaves behind keeps the second from its call (`live_calls`).
-/

namespace AfricaFrontier

open Python Relational Transition

deriving instance DecidableEq for PayoutRequest

/-- A request to pay out, as far as a retry repeats it. -/
structure PayoutRetry where
  userId : ℕ
  idempotencyHeader : Option String
  payout : PayoutRequest
  deriving DecidableEq

/-- A request under its idempotency header. -/
def retryOf (header : Option String) (call : PayoutCall) : PayoutRetry :=
  ⟨call.userId, header, call.payout⟩

/-- The statement that calls `KoraClient.create_payout`. -/
def payoutCalls (_ : Store) (t : Option String × PayoutSession) : List PayoutRetry :=
  match t.2.phase with
  | .issuing _ _ => [retryOf t.1 t.2.call]
  | _ => []

/-- `create_kora_payout` with its idempotency headers, and a record of the calls. -/
def retriedPayouts (settings : TransferSettings) :
    Sessions (Store × List PayoutRetry) (Option String × PayoutCall)
      (Option String × PayoutSession) PayoutTick :=
  ((createKoraPayout settings).tagged (Option String)).traced payoutCalls

/-- No two calls are for one user, key and body. Requests without a key are no retries of each
other. -/
def CalledOnce (calls : List PayoutRetry) : Prop :=
  calls.Pairwise fun a b => a = b → a.idempotencyHeader = none

/-- The request is about to make its call. -/
def Issuing (t : Option String × PayoutSession) : Prop :=
  ∃ draft transaction, t.2.phase = .issuing draft transaction

/-! ## The condition

It is decided on the body, the user and the headers, with no look at a database. -/

/-- The route's checks can let the request through: it is to be executed outside of
development, its row fits the columns, and at some time and on some database the checks,
the monthly limit included, admit it. -/
structure Live (settings : TransferSettings) (call : PayoutCall) : Prop where
  execute : call.payout.execute = true
  enabled : settings.isDevelopment = false
  fits : (payoutTransaction 0 "" call.userId 0 call.payout 0).fits = true
  admitted : ∃ now db, admitPayout settings call now db = .ok ()

/-- No two live requests have a key, their user and their body in common. It is a property of the
requests: the headers play no part in what the route does. -/
def LiveOnce (settings : TransferSettings) (requests : List (Option String × PayoutCall)) :
    Prop :=
  requests.Pairwise fun a b => Live settings a.2 → Live settings b.2 →
    retryOf a.1 a.2 = retryOf b.1 b.2 → a.1 = none

section Steps

variable {settings : TransferSettings} {s s' : Store × List PayoutRetry}
variable {t t' : Option String × PayoutSession} {tick : PayoutTick}
variable {o : Option (Option String × PayoutSession)}

/-- A step makes a call exactly when its session is at that statement. -/
theorem retried_calls (hadv : (retriedPayouts settings).advance s t tick = some (s', o)) :
    s'.2 = s.2 ++ payoutCalls s.1 t :=
  (Sessions.traced_advance hadv).2

/-- Who is about to call calls. -/
theorem payoutCalls_of_issuing (h : Issuing t) (store : Store) :
    payoutCalls store t = [retryOf t.1 t.2.call] := by
  obtain ⟨draft, transaction, hphase⟩ := h
  simp [payoutCalls, hphase]

/-- Nobody else does. -/
theorem payoutCalls_of_not_issuing (h : ¬ Issuing t) (store : Store) :
    payoutCalls store t = [] := by
  unfold payoutCalls
  split
  · rename_i draft transaction hphase
    exact absurd ⟨draft, transaction, hphase⟩ h
  · rfl

/-! ## Sessions that may still call

From its arrival up to its call a live request counts once, wherever it stands. -/

/-- The statements up to the call. -/
def PayoutPhase.early : PayoutPhase → Bool
  | .requested => true
  | .opening _ => true
  | .provisioning _ => true
  | .reselecting _ => true
  | .recording _ _ => true
  | .issuing _ _ => true
  | _ => false

/-- A live request that has not made its call. -/
def MayCall (settings : TransferSettings) (t : Option String × PayoutSession) : Prop :=
  Live settings t.2.call ∧ t.2.phase.early = true

/-- What the checks have established when a request stands at a statement. -/
def Checked (settings : TransferSettings) (call : PayoutCall) : PayoutPhase → Prop
  | .issuing _ _ => Live settings call
  | .opening _ => ∃ now db, admitPayout settings call now db = .ok ()
  | .provisioning _ => ∃ now db, admitPayout settings call now db = .ok ()
  | .reselecting _ => ∃ now db, admitPayout settings call now db = .ok ()
  | .recording _ _ => ∃ now db, admitPayout settings call now db = .ok ()
  | _ => True

/-- Whether a row fits depends on the body of its request and on the reference. -/
theorem fits_of_insert {call : PayoutCall} {reference : String} {account : ℕ} {now : Instant}
    {db : Db} {transactions : Table Transaction}
    (h : insertTransaction (payoutTransaction 0 reference call.userId account call.payout now) db =
      some transactions) :
    (payoutTransaction 0 "" call.userId 0 call.payout 0).fits = true := by
  unfold insertTransaction at h
  split at h
  · rename_i hfits
    simp only [Transaction.fits, payoutTransaction, Bool.and_eq_true] at hfits ⊢
    exact ⟨⟨⟨⟨by decide, hfits.1.1.1.2⟩, hfits.1.1.2⟩, hfits.1.2⟩, hfits.2⟩
  · cases h

/-- A statement establishes what the next one takes for granted, and those up to the call
come one after the other. -/
theorem PayoutStep.checked {call : PayoutCall} {store store' : Store} {phase next : PayoutPhase}
    (hstep : PayoutStep settings call store phase store' (some next))
    (hchecked : Checked settings call phase) :
    Checked settings call next ∧ (next.early = true → phase.early = true ∧
      ∀ draft transaction, phase ≠ .issuing draft transaction) := by
  cases hstep with
  | admitted hadmitted => exact ⟨⟨_, _, hadmitted⟩, fun _ => ⟨rfl, fun _ _ => by rintro ⟨⟩⟩⟩
  | found hphase hselect =>
      rcases hphase with rfl | rfl
      · exact ⟨hchecked, fun _ => ⟨rfl, fun _ _ => by rintro ⟨⟩⟩⟩
      · exact ⟨hchecked, fun _ => ⟨rfl, fun _ _ => by rintro ⟨⟩⟩⟩
  | missing => exact ⟨hchecked, fun _ => ⟨rfl, fun _ _ => by rintro ⟨⟩⟩⟩
  | provisioned hinsert => exact ⟨hchecked, fun _ => ⟨rfl, fun _ _ => by rintro ⟨⟩⟩⟩
  | clashed => exact ⟨hchecked, fun _ => ⟨rfl, fun _ _ => by rintro ⟨⟩⟩⟩
  | recorded hexecute hlive hinsert =>
      exact ⟨⟨hexecute, hlive, fits_of_insert hinsert, hchecked⟩,
        fun _ => ⟨rfl, fun _ _ => by rintro ⟨⟩⟩⟩
  | ended hanswer => exact ⟨trivial, by rintro ⟨⟩⟩
  | previewed hexecute => exact ⟨trivial, by rintro ⟨⟩⟩
  | instructed => exact ⟨trivial, by rintro ⟨⟩⟩
  | declined => exact ⟨trivial, by rintro ⟨⟩⟩
  | refused => exact ⟨trivial, by rintro ⟨⟩⟩
  | answered => exact ⟨trivial, by rintro ⟨⟩⟩
  | committed hrow hinsert => exact ⟨trivial, by rintro ⟨⟩⟩

/-- A session keeps its header and its request; if it may still call, it might before, and
has not called in this step. -/
theorem retried_next (hadv : (retriedPayouts settings).advance s t tick = some (s', some t'))
    (hchecked : Checked settings t.2.call t.2.phase) :
    retryOf t'.1 t'.2.call = retryOf t.1 t.2.call ∧ Checked settings t'.2.call t'.2.phase ∧
      (MayCall settings t' → MayCall settings t ∧ ¬ Issuing t) := by
  obtain ⟨htagged, -⟩ := Sessions.traced_advance hadv
  obtain ⟨o', hadv', ho⟩ := Sessions.tagged_advance htagged
  obtain ⟨t₁, rfl, rfl⟩ := Option.map_eq_some_iff.mp ho.symm
  obtain ⟨next, hstep, hnext⟩ := createKoraPayout_advance hadv'
  obtain ⟨phase, rfl, rfl⟩ := Option.map_eq_some_iff.mp hnext.symm
  obtain ⟨hchecked', hearly⟩ := hstep.checked hchecked
  refine ⟨rfl, hchecked', fun hmay => ?_⟩
  obtain ⟨hbefore, hnot⟩ := hearly hmay.2
  exact ⟨⟨hmay.1, hbefore⟩, fun ⟨draft, transaction, hphase⟩ => hnot draft transaction hphase⟩

/-- Who is about to call may call. -/
theorem mayCall_of_issuing (hchecked : Checked settings t.2.call t.2.phase) (h : Issuing t) :
    MayCall settings t := by
  obtain ⟨draft, transaction, hphase⟩ := h
  rw [hphase] at hchecked
  exact ⟨hchecked, by rw [hphase]; rfl⟩

/-- One more call. -/
theorem CalledOnce.snoc {calls : List PayoutRetry} (h : CalledOnce calls) {r : PayoutRetry}
    (hnew : r.idempotencyHeader ≠ none → r ∉ calls) : CalledOnce (calls ++ [r]) := by
  refine List.pairwise_append.mpr ⟨h, List.pairwise_singleton _ _, ?_⟩
  intro a ha b hb hsame
  obtain rfl := List.mem_singleton.mp hb
  subst hsame
  by_contra hheader
  exact hnew hheader ha

end Steps

/-! ## Requests that have not been spent

The invariant is stated against the requests still to come, so that it needs no look back at the
run. -/

section Unspent

variable {settings : TransferSettings}

/-- A call for the request was made, or may still be made by a session. -/
def Spent (settings : TransferSettings)
    (p : Pool (Store × List PayoutRetry) (Option String × PayoutSession))
    (retry : PayoutRetry) : Prop :=
  retry ∈ p.store.2 ∨
    ∃ i t, p.session i = some t ∧ MayCall settings t ∧ retryOf t.1 t.2.call = retry

/-- The invariant of a run, against the requests still to come: calls made, sessions that
may still call and live requests to come are for different users, keys and bodies. -/
structure Unspent (settings : TransferSettings)
    (p : Pool (Store × List PayoutRetry) (Option String × PayoutSession))
    (coming : List (Option String × PayoutCall)) : Prop where
  sessions : p.Meets (fun s => CalledOnce s.2)
    (fun s t => Checked settings t.2.call t.2.phase ∧
      (MayCall settings t → t.1 ≠ none → retryOf t.1 t.2.call ∉ s.2))
    (fun t u => MayCall settings t → MayCall settings u → t.1 ≠ none →
      retryOf t.1 t.2.call ≠ retryOf u.1 u.2.call)
  later : ∀ request ∈ coming, Live settings request.2 → request.1 ≠ none →
    ¬ Spent settings p (retryOf request.1 request.2)
  distinct : LiveOnce settings coming

/-- A request arrives. -/
theorem Unspent.begin {p p' : Pool (Store × List PayoutRetry) (Option String × PayoutSession)}
    {i : ℕ} {request : Option String × PayoutCall}
    {coming : List (Option String × PayoutCall)}
    (hstep : (retriedPayouts settings).machine.step p (.begin i request) = some p')
    (h : Unspent settings p (request :: coming)) : Unspent settings p' coming := by
  simp only [Sessions.machine] at hstep
  split at hstep
  · cases hstep
    have hfresh := h.later request List.mem_cons_self
    obtain ⟨hapart, hdistinct⟩ := List.pairwise_cons.mp h.distinct
    refine ⟨Outline.meets_assign h.sessions.pairs h.sessions.global ?_
      (fun j u _ hu => h.sessions.each j u hu) ?_, ?_, hdistinct⟩
    · rintro t' ⟨⟩
      exact ⟨trivial, fun hmay hheader hcalled => hfresh hmay.1 hheader (Or.inl hcalled)⟩
    · rintro t' j u ⟨⟩ _ hu
      refine ⟨fun hmay hother hheader hsame => ?_, fun hother hmay hheader hsame => ?_⟩
      · exact hfresh hmay.1 hheader (Or.inr ⟨j, u, hu, hother, hsame.symm⟩)
      · have hkey : u.1 = request.1 := congrArg PayoutRetry.idempotencyHeader hsame
        exact hfresh hmay.1 (hkey ▸ hheader) (Or.inr ⟨j, u, hu, hother, hsame⟩)
    -- a request still to come has not been made, and is none of those in flight
    · intro later hlater hlive hheader hspent
      rcases hspent with hcalled | ⟨j, t, ht, hmay, hsame⟩
      · exact h.later later (List.mem_cons_of_mem _ hlater) hlive hheader (Or.inl hcalled)
      · by_cases hji : j = i
        · subst hji
          rw [Pool.assign_session_self] at ht
          obtain rfl := Option.some.inj ht
          have hkey : request.1 = later.1 := congrArg PayoutRetry.idempotencyHeader hsame
          exact hheader (hkey ▸ hapart later hlater hmay.1 hlive hsame)
        · rw [p.assign_session_of_ne _ _ hji] at ht
          exact h.later later (List.mem_cons_of_mem _ hlater) hlive hheader
            (Or.inr ⟨j, t, ht, hmay, hsame⟩)
  · cases hstep

/-- A session takes its next step. -/
theorem Unspent.advance {p p' : Pool (Store × List PayoutRetry) (Option String × PayoutSession)}
    {i : ℕ} {tick : PayoutTick} {coming : List (Option String × PayoutCall)}
    (hstep : (retriedPayouts settings).machine.step p (.advance i tick) = some p')
    (h : Unspent settings p coming) : Unspent settings p' coming := by
  obtain ⟨t, ht, hrest⟩ := Option.bind_eq_some_iff.mp hstep
  obtain ⟨⟨s', o⟩, hadv, rfl⟩ := Option.map_eq_some_iff.mp hrest
  obtain ⟨hchecked, hfresh⟩ := h.sessions.each i t ht
  have hcalls := retried_calls hadv
  -- a call in this step is for a session that might make it
  have hcalled : ∀ retry, retry ∈ s'.2 → retry ∈ p.store.2 ∨
      MayCall settings t ∧ Issuing t ∧ retryOf t.1 t.2.call = retry := by
    intro retry hmem
    rw [hcalls] at hmem
    by_cases hissuing : Issuing t
    · rw [payoutCalls_of_issuing hissuing, List.mem_append, List.mem_singleton] at hmem
      exact hmem.imp_right fun hsame => ⟨mayCall_of_issuing hchecked hissuing, hissuing, hsame.symm⟩
    · rw [payoutCalls_of_not_issuing hissuing, List.append_nil] at hmem
      exact Or.inl hmem
  refine ⟨Outline.meets_assign h.sessions.pairs ?_ ?_ ?_ ?_, ?_, h.distinct⟩
  · rw [hcalls]
    by_cases hissuing : Issuing t
    · rw [payoutCalls_of_issuing hissuing]
      exact h.sessions.global.snoc (hfresh (mayCall_of_issuing hchecked hissuing))
    · rw [payoutCalls_of_not_issuing hissuing, List.append_nil]
      exact h.sessions.global
  · rintro t' rfl
    obtain ⟨hsame, hchecked', hmayBefore⟩ := retried_next hadv hchecked
    refine ⟨hchecked', fun hmay hheader hmem => ?_⟩
    obtain ⟨hmayBefore, hnot⟩ := hmayBefore hmay
    have hkey : t'.1 = t.1 := congrArg PayoutRetry.idempotencyHeader hsame
    rw [hsame] at hmem
    rcases hcalled _ hmem with hbefore | ⟨-, hissuing, -⟩
    · exact hfresh hmayBefore (hkey ▸ hheader) hbefore
    · exact hnot hissuing
  · intro j u hne hu
    obtain ⟨hcheckedOther, hfreshOther⟩ := h.sessions.each j u hu
    refine ⟨hcheckedOther, fun hmay hheader hmem => ?_⟩
    rcases hcalled _ hmem with hbefore | ⟨hmayBefore, -, hsame⟩
    · exact hfreshOther hmay hheader hbefore
    · exact h.sessions.pairs j i u t hne hu ht hmay hmayBefore hheader hsame.symm
  · rintro t' j u rfl hne hu
    obtain ⟨hsame, -, hmayBefore⟩ := retried_next hadv hchecked
    have hkey : t'.1 = t.1 := congrArg PayoutRetry.idempotencyHeader hsame
    rw [hsame, hkey]
    exact ⟨fun hmay hother => h.sessions.pairs i j t u hne.symm ht hu (hmayBefore hmay).1 hother,
      fun hother hmay => h.sessions.pairs j i u t hne hu ht hother (hmayBefore hmay).1⟩
  · intro request hrequest hlive hheader hspent
    refine h.later request hrequest hlive hheader ?_
    rcases hspent with hmem | ⟨j, u, hu, hmay, hsame⟩
    · rcases hcalled _ hmem with hbefore | ⟨hmayBefore, -, hsame⟩
      · exact Or.inl hbefore
      · exact Or.inr ⟨i, t, ht, hmayBefore, hsame⟩
    · by_cases hji : j = i
      · subst hji
        rw [Pool.assign_session_self] at hu
        subst hu
        obtain ⟨hkept, -, hmayBefore⟩ := retried_next hadv hchecked
        exact Or.inr ⟨j, t, ht, (hmayBefore hmay).1, hkept.symm.trans hsame⟩
      · rw [p.assign_session_of_ne _ _ hji] at hu
        exact Or.inr ⟨j, u, hu, hmay, hsame⟩

/-- A process dies. -/
theorem Unspent.crash {p p' : Pool (Store × List PayoutRetry) (Option String × PayoutSession)}
    {i : ℕ} {coming : List (Option String × PayoutCall)}
    (hstep : (retriedPayouts settings).machine.step p (.crash i) = some p')
    (h : Unspent settings p coming) : Unspent settings p' coming := by
  obtain rfl : p.assign p.store i none = p' := by simpa [Sessions.machine] using hstep
  refine ⟨Outline.meets_assign h.sessions.pairs h.sessions.global (by rintro t' ⟨⟩)
    (fun j u _ hu => h.sessions.each j u hu) (by rintro t' j u ⟨⟩), ?_, h.distinct⟩
  intro request hrequest hlive hheader hspent
  refine h.later request hrequest hlive hheader (hspent.imp_right ?_)
  rintro ⟨j, t, ht, hmay, hsame⟩
  by_cases hji : j = i
  · subst hji
    rw [Pool.assign_session_self] at ht
    cases ht
  · rw [p.assign_session_of_ne _ _ hji] at ht
    exact ⟨j, t, ht, hmay, hsame⟩

/-- The invariant of a run whose requests are all still to come. -/
theorem Unspent.run {p p' : Pool (Store × List PayoutRetry) (Option String × PayoutSession)}
    {as : List (PoolAct (Option String × PayoutCall) PayoutTick)}
    (run : Run (retriedPayouts settings).machine Unguarded p as p')
    (h : Unspent settings p (requestsOf as)) : CalledOnce p'.store.2 := by
  induction run with
  | nil p => exact h.sessions.global
  | @cons p mid p' a as hstep _ _ ih =>
      cases a with
      | begin i request => exact ih (h.begin hstep)
      | advance i tick => exact ih (h.advance hstep)
      | crash i => exact ih (h.crash hstep)

end Unspent

/-! ## Two live requests

The converse needs a run: a database on which the checks let both through, one after the other. -/

section Twice

variable {settings : TransferSettings}

/-- A database with the account of a user, and a payout of the month that brings the user's
total to `total`. -/
def spendingDb (call : PayoutCall) (now : Instant) (total : ℚ) : Db :=
  { Db.holding
      { payoutTransaction 0 "afm-payout-0" call.userId 0 call.payout (monthStart now) with
        amount := total
        currency := "XAF" } with
    accounts :=
      { rows := [newAccount call.userId 0]
        next := 1
        fresh := by simp [newAccount, ident, Row.key, Row.primary]
        distinct := List.pairwise_singleton _ _
        unique := List.pairwise_singleton _ _ } }

/-- The total the limit check reads there. -/
theorem kyc1Total_spendingDb (call : PayoutCall) (now : Instant) (total : ℚ) :
    kyc1Total call.userId now (spendingDb call now total) = total := by
  show List.sum [kyc1Weight call.userId now _] = total
  rw [List.sum_singleton, kyc1Weight, if_pos]
  simp [countsTowardsKyc1, payoutTransaction, cfaCurrencies, excludedStatuses]

/-- What the checks of a request look at. -/
theorem admitPayout_ok_iff {call : PayoutCall} {now : Instant} {db : Db} :
    admitPayout settings call now db = .ok () ↔
      checkPayout call = .ok () ∧ (call.payout.execute = true →
        enforceKyc1MonthlyLimit settings call.userId call.payout.amount call.payout.currency now
          db = .ok ()) := by
  unfold admitPayout
  cases checkPayout call with
  | error e => simp [bind, Except.bind]
  | ok u => cases hexecute : call.payout.execute <;> simp [bind, Except.bind, pure, Except.pure]

/-- A live request is admitted on a database of this kind, and so is every request of the
same user and body that passes the checks which need no database. -/
theorem Live.exists_db {call : PayoutCall} (h : Live settings call) :
    ∃ now total, ∀ call' : PayoutCall, Live settings call' → call'.userId = call.userId →
      call'.payout = call.payout →
        admitPayout settings call' now (spendingDb call now total) = .ok () := by
  obtain ⟨now, db, hadmitted⟩ := h.admitted
  have hlimit := (admitPayout_ok_iff.mp hadmitted).2 h.execute
  refine ⟨now, kyc1Total call.userId now db, fun call' h' huser hpayout => ?_⟩
  obtain ⟨now', db', hadmitted'⟩ := h'.admitted
  refine admitPayout_ok_iff.mpr ⟨(admitPayout_ok_iff.mp hadmitted').1, fun _ => ?_⟩
  rw [huser, hpayout]
  unfold enforceKyc1MonthlyLimit at hlimit ⊢
  rw [kyc1Total_spendingDb]
  exact hlimit

/-- The row of a live request goes in there. -/
theorem Live.inserts {call : PayoutCall} (h : Live settings call) (other : PayoutCall)
    (now : Instant) (total : ℚ) :
    ∃ transactions, insertTransaction (payoutTransaction 0 "" call.userId 0 call.payout now)
      (spendingDb other now total) = some transactions := by
  have hfits : (payoutTransaction 0 "" call.userId 0 call.payout now).fits = true := h.fits
  unfold insertTransaction
  rw [if_pos hfits]
  refine Table.exists_insert _ _ fun r hr hclash => ?_
  obtain rfl := List.mem_singleton.mp hr
  have hreferences : "afm-payout-0" = "" := hclash
  exact absurd hreferences (by decide)

/-- One step of a retried payout is one of the payout, with its calls on record. -/
theorem retriedPayouts_advance (s : Store) (calls : List PayoutRetry) (header : Option String)
    (call : PayoutCall) (phase : PayoutPhase) (tick : PayoutTick) :
    (retriedPayouts settings).advance (s, calls) (header, ⟨call, phase⟩) tick =
      some (((call.step settings s tick phase).1,
        calls ++ payoutCalls s (header, ⟨call, phase⟩)),
        (call.step settings s tick phase).2.map fun next => (header, ⟨call, next⟩)) := by
  simp only [retriedPayouts, Sessions.traced, Sessions.tagged, createKoraPayout, Option.map_some,
    Option.map_map]
  rfl

/-- The first four statements of a live request on such a database: it calls, and leaves
the database as it is. -/
theorem live_calls {call : PayoutCall} (h : Live settings call) (header : Option String)
    {other : PayoutCall} {now : Instant} {total : ℚ} (huser : call.userId = other.userId)
    (hadmitted : admitPayout settings call now (spendingDb other now total) = .ok ())
    (calls : List PayoutRetry) :
    ∃ t, (retriedPayouts settings).after ⟨now, false, "", .raised⟩ 4
      (Store.start (spendingDb other now total), calls) (header, ⟨call, .requested⟩) =
        some ((Store.start (spendingDb other now total), calls ++ [retryOf header call]), t) := by
  let tick : PayoutTick := ⟨now, false, "", .raised⟩
  let s := Store.start (spendingDb other now total)
  let draft : PayoutDraft := ⟨"", kyc1Total call.userId now s.db⟩
  let row := payoutTransaction 0 "" call.userId 0 call.payout now
  have hadmitted' : admitPayout settings call now s.db = .ok () := hadmitted
  have hselect : selectAccount call.userId s.db = .ok (some (newAccount other.userId 0)) := by
    simp [selectAccount, s, Store.start, spendingDb, newAccount, huser, scalarOneOrNone]
  obtain ⟨transactions, hinsert⟩ := h.inserts other now total
  have hinsert' : insertTransaction row s.db = some transactions := hinsert
  -- four statements: the check, the account, the row, and the instruction
  have hrequested : call.step settings s tick .requested = (s, some (.opening draft)) := by
    simp [PayoutCall.step, tick, hadmitted', draft]
  have hopening : call.step settings s tick (.opening draft) = (s, some (.recording draft 0)) := by
    simp [PayoutCall.step, tick, hselect, newAccount]
  have hrecording : call.step settings s tick (.recording draft 0) =
      (s, some (.issuing draft row)) := by
    simp [PayoutCall.step, tick, draft, row, hinsert', h.execute, h.enabled]
  obtain ⟨next, hissuing⟩ : ∃ next, call.step settings s tick (.issuing draft row) =
      (s, some next) := by
    simp only [PayoutCall.step]
    split
    · exact ⟨_, rfl⟩
    · exact ⟨_, rfl⟩
  refine ⟨(header, ⟨call, next⟩), ?_⟩
  show (retriedPayouts settings).after tick 4 (s, calls) _ = _
  simp only [Sessions.after, retriedPayouts_advance, hrequested, hopening, hrecording, hissuing,
    payoutCalls, Option.bind_some, Option.map_some, List.append_nil]
  rfl

/-- Two live requests of a list for one user, key and body: there is a run in which both
call. -/
theorem exists_calls {requests : List (Option String × PayoutCall)}
    (h : ¬ LiveOnce settings requests) :
    ∃ db as p, Run (retriedPayouts settings).machine Unguarded
        (Pool.quiet (Store.start db, [])) as p ∧ requestsOf as = requests ∧
      ¬ CalledOnce p.store.2 := by
  rw [LiveOnce, List.pairwise_iff_getElem] at h
  push Not at h
  obtain ⟨i, j, hi, hj, hij, hfirst, hsecond, hsame, hheader⟩ := h
  generalize hrequest : requests[i] = request at *
  generalize hrequest' : requests[j] = request' at *
  obtain ⟨header, call⟩ := request
  obtain ⟨header', call'⟩ := request'
  have huser : call'.userId = call.userId := (congrArg PayoutRetry.userId hsame).symm
  have hpayout : call'.payout = call.payout := (congrArg PayoutRetry.payout hsame).symm
  obtain ⟨now, total, hadmits⟩ := hfirst.exists_db
  let tick : PayoutTick := ⟨now, false, "", .raised⟩
  let s := Store.start (spendingDb call now total)
  -- everybody arrives, then the two take their statements one after the other
  obtain ⟨p, harrive, hstore, -, hat⟩ := Sessions.arrivals_run (S := retriedPayouts settings)
    requests (p := Pool.quiet (s, [])) (k := 0) (fun _ _ => rfl)
  have hsession : p.session i = some (header, ⟨call, .requested⟩) := by
    have := hat i (header, call) (by rw [← hrequest]; exact List.getElem?_eq_getElem hi)
    rwa [Nat.zero_add] at this
  have hsession' : p.session j = some (header', ⟨call', .requested⟩) := by
    have := hat j (header', call') (by rw [← hrequest']; exact List.getElem?_eq_getElem hj)
    rwa [Nat.zero_add] at this
  obtain ⟨t, hafter⟩ := live_calls hfirst header rfl (hadmits call hfirst rfl rfl) []
  obtain ⟨p₁, run₁, hstore₁, -, hothers₁⟩ := Sessions.after_run hafter hstore hsession
  obtain ⟨t', hafter'⟩ := live_calls hsecond header' huser (hadmits call' hsecond huser hpayout)
    ([] ++ [retryOf header call])
  have hne : j ≠ i := by omega
  obtain ⟨p₂, run₂, hstore₂, -, -⟩ := Sessions.after_run hafter' hstore₁
    ((hothers₁ j hne).trans hsession')
  refine ⟨spendingDb call now total, _, p₂, (harrive.append run₁).append run₂, ?_, fun honce => ?_⟩
  · simp only [requestsOf, List.filterMap_append]
    have harrivals := requestsOf_arrivals (ι := PayoutTick) 0 requests
    have hfirstSteps := requestsOf_advances (ρ := Option String × PayoutCall) 4 i tick
    have hsecondSteps := requestsOf_advances (ρ := Option String × PayoutCall) 4 j tick
    unfold requestsOf at harrivals hfirstSteps hsecondSteps
    rw [harrivals, hfirstSteps, hsecondSteps, List.append_nil, List.append_nil]
  · rw [hstore₂] at honce
    exact hheader ((List.pairwise_cons.mp honce).1 _ (List.mem_singleton_self _) hsame)

end Twice

/-- **A payout retry does not pay twice**, in any run from any database, for exactly the
requests of which no two live ones have a key, their user and their body in common. -/
theorem payout_called_once_iff (settings : TransferSettings)
    (requests : List (Option String × PayoutCall)) :
    (∀ db as p, Run (retriedPayouts settings).machine Unguarded
        (Pool.quiet (Store.start db, [])) as p → requestsOf as = requests →
      CalledOnce p.store.2) ↔ LiveOnce settings requests := by
  constructor
  · intro honce
    by_contra htwice
    obtain ⟨db, as, p, run, hrequests, hcalls⟩ := exists_calls htwice
    exact hcalls (honce db as p run hrequests)
  · rintro hlive db as p run rfl
    refine Unspent.run run ⟨Pool.Meets.quiet List.Pairwise.nil, ?_, hlive⟩
    rintro request - - - (hcalled | ⟨i, t, ht, -⟩)
    · cases hcalled
    · cases ht

/-- The payout request `i` under a key, from its arrival through its first statements, up
to its call. -/
def payoutSent (i : ℕ) (key reference : String) :
    List (PoolAct (Option String × PayoutCall) PayoutTick) :=
  .begin i (some key, samplePayout 500 fiveHundred_pos true) ::
    List.replicate 5
      (.advance i ⟨i, false, reference, .answered [("status", .str "processing")]⟩)

/-- The rest of the request `i`. -/
def payoutFinished (i : ℕ) (reference : String) :
    List (PoolAct (Option String × PayoutCall) PayoutTick) :=
  List.replicate 3 (.advance i ⟨i, false, reference, .answered [("status", .str "processing")]⟩)

/-- A customer who forgets to confirm a payout is turned away; the retry under the same key
is the one that calls. -/
theorem payout_called_once_retried :
    let unconfirmed := { samplePayout 500 fiveHundred_pos true with confirmationHeader := none }
    ∃ p, Run (retriedPayouts productionSettings).machine Unguarded
        (Pool.quiet (Store.start Db.empty, []))
        (.begin 0 (some "payout-key-1", unconfirmed) ::
          List.replicate 2 (.advance 0 ⟨0, false, "afm-payout-0", .raised⟩) ++
          payoutSent 1 "payout-key-1" "afm-payout-1" ++ payoutFinished 1 "afm-payout-1") p ∧
      p.store.2 = [retryOf (some "payout-key-1") unconfirmed] ∧ CalledOnce p.store.2 := by
  intro unconfirmed
  have hcheck : ((retriedPayouts productionSettings).machine.check (fun _ _ => true)
      (Pool.quiet (Store.start Db.empty, []))
      (.begin 0 (some "payout-key-1", unconfirmed) ::
        List.replicate 2 (.advance 0 ⟨0, false, "afm-payout-0", .raised⟩) ++
        payoutSent 1 "payout-key-1" "afm-payout-1" ++ payoutFinished 1 "afm-payout-1")).map
        (fun p => p.store.2) = some [retryOf (some "payout-key-1") unconfirmed] := by
    decide +kernel
  obtain ⟨p, hp, hcalls⟩ := Option.map_eq_some_iff.mp hcheck
  have run := (Run.of_check hp).unguarded
  refine ⟨p, run, hcalls, (payout_called_once_iff productionSettings _).mpr ?_ _ _ p run rfl⟩
  -- the first of the two requests is not live
  refine List.pairwise_pair.mpr fun hfirst => ?_
  obtain ⟨now, db, hadmitted⟩ := hfirst.admitted
  have hconfirmed : checkPayout unconfirmed = .ok () := (admitPayout_ok_iff.mp hadmitted).1
  exact absurd hconfirmed (by decide +kernel)

/-- The request is made twice, one after the other, under one key. -/
theorem payout_called_twice : ∃ p,
    Run (retriedPayouts productionSettings).machine Unguarded
        (Pool.quiet (Store.start Db.empty, []))
        (payoutSent 0 "payout-key-1" "afm-payout-1" ++ payoutFinished 0 "afm-payout-1" ++
          payoutSent 1 "payout-key-1" "afm-payout-2") p ∧
      ¬ CalledOnce p.store.2 := by
  have hcheck : ((retriedPayouts productionSettings).machine.check (fun _ _ => true)
      (Pool.quiet (Store.start Db.empty, []))
      (payoutSent 0 "payout-key-1" "afm-payout-1" ++ payoutFinished 0 "afm-payout-1" ++
        payoutSent 1 "payout-key-1" "afm-payout-2")).map (fun p => p.store.2) =
      some (List.replicate 2
        (retryOf (some "payout-key-1") (samplePayout 500 fiveHundred_pos true))) := by
    decide +kernel
  obtain ⟨p, hp, hcalls⟩ := Option.map_eq_some_iff.mp hcheck
  refine ⟨p, (Run.of_check hp).unguarded, fun honce => ?_⟩
  rw [hcalls] at honce
  have hheader := (List.pairwise_cons.mp honce).1 _ List.mem_cons_self rfl
  cases hheader

end AfricaFrontier
