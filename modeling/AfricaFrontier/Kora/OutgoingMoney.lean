import AfricaFrontier.Kora.PayoutRoute
import AfricaFrontier.Kora.RefundRoute

/-!
# Money that leaves

Two routes move money out through the provider: `create_kora_refund` calls
`initiate_refund`, `create_kora_payout` calls `create_payout`.  They differ in the order
of their statements.  The refund route commits its row and then calls; the payout route
calls while its row is written but not committed, so a process that dies, an exception
the route does not handle or a failing commit leaves a payout under way that no row
knows of.

`moneyTraffic` is the pool of both routes and of the webhook deliveries, with a record
of every call to the provider.  Its invariant `RefundsRecorded` is about the refunds
alone and holds of every run:

* every refund that was called for is stored under its key and its reference;
* no key was called for twice, because a key is stored before its call and the unique
  column lets only one session store it.

That every payout is recorded first fails in each run that pays out at all, since the call stands
before the commit; `recorded_first_iff` says so as an equivalence: the calls of a run are recorded
at every point exactly when no payout request makes its call. The references payouts draw enter
there, because a call counts as recorded when some row has its reference.
-/

namespace AfricaFrontier

open Python Relational Transition

/-! ## The traffic and its record -/

/-- A call to the provider that moves money out. -/
inductive ProviderCall
  | refund (idempotencyKey refundReference : String)
  | payout (reference : String)
  deriving DecidableEq

/-- A session of one of the three routes. -/
abbrev MoneySession := (RefundSession ⊕ PayoutSession) ⊕ DeliverySession

/-- The provider call the next statement of a session makes. -/
def providerCalls (_ : Store) : MoneySession → List ProviderCall
  | .inl (.inl ⟨_, .issuing _ record⟩) => [.refund record.idempotencyKey record.refundReference]
  | .inl (.inr ⟨_, .issuing draft _⟩) => [.payout draft.reference]
  | _ => []

/-- The two routes that move money out, and the webhook, with a record of the calls. -/
def moneyTraffic (config : RefundConfig) (settings : TransferSettings) :
    Sessions (Store × List ProviderCall) ((RefundCall ⊕ PayoutCall) ⊕ Delivery) MoneySession
      ((RefundTick ⊕ PayoutTick) ⊕ Tick) :=
  (((createKoraRefund config).sum (createKoraPayout settings)).sum koraWebhook).traced
    providerCalls

/-- A refund is stored under its key and reference. -/
def RefundStored (idempotencyKey refundReference : String) (db : Db) : Prop :=
  ∃ r ∈ db.refunds, r.idempotencyKey = idempotencyKey ∧ r.refundReference = refundReference

/-- A transaction is stored under its key. -/
def TransactionStored (idempotencyKey : String) (db : Db) : Prop :=
  ∃ t ∈ db.transactions, t.idempotencyKey = idempotencyKey

/-- What `KoraClient` was called for is in a committed row: a refund under its key and its
reference, a payout under its reference. -/
def ProviderCall.Recorded (db : Db) : ProviderCall → Prop
  | .refund idempotencyKey refundReference => RefundStored idempotencyKey refundReference db
  | .payout reference => TransactionStored reference db

/-- Every outgoing money movement is recorded: for every call made so far there is a committed row
now. -/
def RecordedFirst (s : Store × List ProviderCall) : Prop := ∀ c ∈ s.2, c.Recorded s.1.db

/-! ## Keys stay

What identifies a refund or a transaction is never rewritten, by any of the routes. -/

/-- No refund and no transaction loses its keys. -/
structure KeepsKeys (db db' : Db) : Prop where
  refunds : ∀ key reference, RefundStored key reference db → RefundStored key reference db'
  transactions : ∀ key, TransactionStored key db → TransactionStored key db'

/-- The other tables have no such keys. -/
theorem KeepsKeys.of_eq {db db' : Db} (hrefunds : db'.refunds = db.refunds)
    (htransactions : db'.transactions = db.transactions) : KeepsKeys db db' where
  refunds key reference h := by
    rw [RefundStored, hrefunds]
    exact h
  transactions key h := by
    rw [TransactionStored, htransactions]
    exact h

/-- A flush rewrites no key. -/
theorem KeepsKeys.flush {u : UnitOfWork} {db db' : Db} (h : u.flush db = .ok db') :
    KeepsKeys db db' where
  refunds := by
    rintro key reference ⟨r, hr, hkey, hreference⟩
    rw [RefundStored, (UnitOfWork.flush_ok h).2.1]
    unfold UnitOfWork.refundsAfter
    split
    · exact ⟨r, hr, hkey, hreference⟩
    · rename_i d _
      refine ⟨_, Table.mem_modify.mpr ⟨r, hr, rfl⟩, ?_⟩
      have hsame := Table.key_ite (KoraRefund.key_writeBack d) d.loaded.id r
      have hcolumns := congrArg Prod.snd hsame
      exact ⟨(congrArg Prod.snd hcolumns).trans hkey, (congrArg Prod.fst hcolumns).trans hreference⟩
  transactions := by
    rintro key ⟨t, ht, hkey⟩
    rw [TransactionStored, (UnitOfWork.flush_ok h).1]
    unfold UnitOfWork.transactionsAfter
    split
    · exact ⟨t, ht, hkey⟩
    · rename_i d _
      refine ⟨_, Table.mem_modify.mpr ⟨t, ht, rfl⟩, ?_⟩
      have hsame := Table.key_ite (Transaction.key_writeBack d) d.loaded.id t
      exact (congrArg Prod.snd hsame).trans hkey

/-- A statement of a delivery keeps the keys. -/
theorem DeliveryStep.keepsKeys {d : Delivery} {s s' : Store} {phase : DeliveryPhase}
    {next : Option DeliveryPhase} (h : DeliveryStep d s phase s' next) :
    KeepsKeys s.db s'.db := by
  rcases h.business with ⟨htransactions, hrefunds, -⟩ |
    ⟨receipt, work, db, -, hflush, htransactions, hrefunds, -⟩
  · exact .of_eq hrefunds htransactions
  · have hkept := KeepsKeys.flush hflush
    have hsame : KeepsKeys db s'.db := .of_eq hrefunds htransactions
    exact ⟨fun key reference h => hsame.refunds key reference (hkept.refunds key reference h),
      fun key h => hsame.transactions key (hkept.transactions key h)⟩

/-- A statement of a refund request keeps the keys. -/
theorem RefundStep.keepsKeys {config : RefundConfig} {call : RefundCall} {s s' : Store}
    {phase : RefundPhase} {next : Option RefundPhase}
    (h : RefundStep config call s phase s' next) : KeepsKeys s.db s'.db := by
  cases h with
  | inserted hinsert =>
      refine ⟨?_, fun _ ht => ht⟩
      rintro key reference ⟨r, hr, hcolumns⟩
      exact ⟨r, (Table.mem_insert (insertRefund_some hinsert)).mpr (Or.inl hr), hcolumns⟩
  | committed hflush => exact KeepsKeys.flush hflush
  | ended => exact .of_eq rfl rfl
  | loaded hcheck => exact .of_eq rfl rfl
  | replayed hselect => exact .of_eq rfl rfl
  | fresh hselect => exact .of_eq rfl rfl
  | instructed => exact .of_eq rfl rfl
  | declined => exact .of_eq rfl rfl
  | issued => exact .of_eq rfl rfl
  | refused => exact .of_eq rfl rfl
  | answered => exact .of_eq rfl rfl

/-- A statement of a payout request keeps the keys. -/
theorem PayoutStep.keepsKeys {settings : TransferSettings} {call : PayoutCall} {s s' : Store}
    {phase : PayoutPhase} {next : Option PayoutPhase}
    (h : PayoutStep settings call s phase s' next) : KeepsKeys s.db s'.db := by
  cases h with
  | committed hrow hinsert =>
      refine ⟨fun _ _ hr => hr, ?_⟩
      rintro key ⟨t, ht, hkey⟩
      exact ⟨t, (Table.mem_insert (insertTransaction_some hinsert)).mpr (Or.inl ht), hkey⟩
  | provisioned hinsert => exact .of_eq rfl rfl
  | ended hanswer => exact .of_eq rfl rfl
  | admitted hadmitted => exact .of_eq rfl rfl
  | found hphase hselect => exact .of_eq rfl rfl
  | missing => exact .of_eq rfl rfl
  | clashed => exact .of_eq rfl rfl
  | previewed hexecute => exact .of_eq rfl rfl
  | recorded hexecute => exact .of_eq rfl rfl
  | instructed => exact .of_eq rfl rfl
  | declined => exact .of_eq rfl rfl
  | refused => exact .of_eq rfl rfl
  | answered => exact .of_eq rfl rfl
  | finished => exact .of_eq rfl rfl

/-! ## One statement of the traffic -/

/-- A statement of one of the three routes. -/
inductive MoneyStep (config : RefundConfig) (settings : TransferSettings) (s : Store) :
    MoneySession → Store → Option MoneySession → Prop
  | refund {call : RefundCall} {phase : RefundPhase} {s' : Store} {next : Option RefundPhase}
      (h : RefundStep config call s phase s' next) :
      MoneyStep config settings s (.inl (.inl ⟨call, phase⟩)) s'
        (next.map fun phase' => .inl (.inl ⟨call, phase'⟩))
  | payout {call : PayoutCall} {phase : PayoutPhase} {s' : Store} {next : Option PayoutPhase}
      (h : PayoutStep settings call s phase s' next) :
      MoneyStep config settings s (.inl (.inr ⟨call, phase⟩)) s'
        (next.map fun phase' => .inl (.inr ⟨call, phase'⟩))
  | delivery {d : Delivery} {phase : DeliveryPhase} {s' : Store} {next : Option DeliveryPhase}
      (h : DeliveryStep d s phase s' next) :
      MoneyStep config settings s (.inr ⟨d, phase⟩) s'
        (next.map fun phase' => .inr ⟨d, phase'⟩)

section Traffic

variable {config : RefundConfig} {settings : TransferSettings}

/-- Every step of the traffic is one of them, and the record grows by its calls. -/
theorem moneyTraffic_advance {s s' : Store × List ProviderCall} {t : MoneySession}
    {x : (RefundTick ⊕ PayoutTick) ⊕ Tick} {o : Option MoneySession}
    (h : (moneyTraffic config settings).advance s t x = some (s', o)) :
    MoneyStep config settings s.1 t s'.1 o ∧ s'.2 = s.2 ++ providerCalls s.1 t := by
  obtain ⟨hadv, htrace⟩ := Sessions.traced_advance h
  refine ⟨?_, htrace⟩
  rcases t with (t | t) | t
  · obtain ⟨y, s₁, o₁, -, hy, hr⟩ := Sessions.sum_advance_inl hadv
    obtain ⟨rfl, rfl⟩ := Prod.mk.inj hr
    obtain ⟨z, s₂, o₂, -, hz, hr⟩ := Sessions.sum_advance_inl hy
    obtain ⟨rfl, rfl⟩ := Prod.mk.inj hr
    obtain ⟨next, hstep, rfl⟩ := createKoraRefund_advance hz
    rw [Option.map_map, Option.map_map]
    exact .refund hstep
  · obtain ⟨y, s₁, o₁, -, hy, hr⟩ := Sessions.sum_advance_inl hadv
    obtain ⟨rfl, rfl⟩ := Prod.mk.inj hr
    obtain ⟨z, s₂, o₂, -, hz, hr⟩ := Sessions.sum_advance_inr hy
    obtain ⟨rfl, rfl⟩ := Prod.mk.inj hr
    obtain ⟨next, hstep, rfl⟩ := createKoraPayout_advance hz
    rw [Option.map_map, Option.map_map]
    exact .payout hstep
  · obtain ⟨y, s₁, o₁, -, hy, hr⟩ := Sessions.sum_advance_inr hadv
    obtain ⟨rfl, rfl⟩ := Prod.mk.inj hr
    obtain ⟨next, hstep, rfl⟩ := koraWebhook_advance hy
    rw [Option.map_map]
    exact .delivery hstep

/-- A statement of the traffic keeps the keys. -/
theorem MoneyStep.keepsKeys {s s' : Store} {t : MoneySession} {o : Option MoneySession}
    (h : MoneyStep config settings s t s' o) : KeepsKeys s.db s'.db := by
  cases h with
  | refund h => exact h.keepsKeys
  | payout h => exact h.keepsKeys
  | delivery h => exact h.keepsKeys

/-! ## The invariant of the refunds

A key is stored before its call, in a column that is unique; so of two sessions with one key only
one gets to the call. -/

/-- The key a call refunds under. -/
def ProviderCall.refundKey : ProviderCall → Option String
  | .refund idempotencyKey _ => some idempotencyKey
  | .payout _ => none

/-- The keys refunds were called for under, in order. -/
def refundKeys (trace : List ProviderCall) : List String := trace.filterMap ProviderCall.refundKey

/-- The refund a session is about to call for. -/
def issuingRefund : MoneySession → Option KoraRefund
  | .inl (.inl ⟨_, .issuing _ record⟩) => some record
  | _ => none

/-- Every refund called for is stored, and no key was called for twice. -/
structure RefundsRecorded (s : Store × List ProviderCall) : Prop where
  stored : ∀ key reference, .refund key reference ∈ s.2 → RefundStored key reference s.1.db
  once : (refundKeys s.2).Nodup

/-- Nothing was called for yet. -/
theorem RefundsRecorded.nothing {s : Store} : RefundsRecorded (s, []) where
  stored _ _ h := by cases h
  once := List.nodup_nil

/-- A session about to call for a refund has stored it, and nobody has called for its
key. -/
def HoldsRefund (s : Store × List ProviderCall) (t : MoneySession) : Prop :=
  ∀ record, issuingRefund t = some record →
    RefundStored record.idempotencyKey record.refundReference s.1.db ∧
      record.idempotencyKey ∉ refundKeys s.2

/-- Two sessions are not about to call for one key. -/
def KeysApart (t u : MoneySession) : Prop :=
  ∀ r r', issuingRefund t = some r → issuingRefund u = some r' →
    r.idempotencyKey ≠ r'.idempotencyKey

/-- The refund keys a step adds to the record. -/
theorem refundKeys_providerCalls (s : Store) (t : MoneySession) :
    refundKeys (providerCalls s t) = ((issuingRefund t).map (·.idempotencyKey)).toList := by
  rcases t with (⟨call, phase⟩ | ⟨call, phase⟩) | ⟨d, phase⟩
  · cases phase <;> rfl
  · cases phase <;> rfl
  · cases phase <;> rfl

/-- The keys of one record after another. -/
theorem refundKeys_append (trace trace' : List ProviderCall) :
    refundKeys (trace ++ trace') = refundKeys trace ++ refundKeys trace' :=
  List.filterMap_append

/-- The call of a session about to refund. -/
theorem refund_mem_providerCalls {s : Store} {t : MoneySession} {key reference : String}
    (h : .refund key reference ∈ providerCalls s t) :
    ∃ record, issuingRefund t = some record ∧ record.idempotencyKey = key ∧
      record.refundReference = reference := by
  rcases t with (⟨call, phase⟩ | ⟨call, phase⟩) | ⟨d, phase⟩
  · cases phase with
    | issuing transaction record =>
        obtain ⟨rfl, rfl⟩ := ProviderCall.refund.inj (List.mem_singleton.mp h)
        exact ⟨record, rfl, rfl, rfl⟩
    | requested => cases h
    | checked order => cases h
    | inserting order => cases h
    | awaiting transaction record => cases h
    | staged work answer => cases h
    | answering answer => cases h
  · cases phase with
    | issuing draft transaction => cases List.mem_singleton.mp h
    | requested => cases h
    | opening draft => cases h
    | provisioning draft => cases h
    | reselecting draft => cases h
    | recording draft account => cases h
    | previewing draft transaction => cases h
    | awaiting draft transaction => cases h
    | failing draft transaction => cases h
    | accepted draft transaction result => cases h
    | answering answer => cases h
  · cases h

/-- A session comes to the point of calling only by having stored its refund, under a
key nobody had stored. -/
theorem MoneyStep.issues {s s' : Store} {t t' : MoneySession} {record : KoraRefund}
    (h : MoneyStep config settings s t s' (some t')) (hissuing : issuingRefund t' = some record) :
    RefundStored record.idempotencyKey record.refundReference s'.db ∧
      ∀ reference, ¬ RefundStored record.idempotencyKey reference s.db := by
  generalize ho : some t' = o at h
  cases h with
  | refund h =>
      obtain ⟨phase', rfl, rfl⟩ := Option.map_eq_some_iff.mp ho.symm
      cases h with
      -- the insert leads to the call, and went through because the key was free
      | @inserted order now refunds hinsert =>
          obtain rfl := Option.some.inj hissuing
          have hstored := insertRefund_some hinsert
          refine ⟨⟨_, (Table.mem_insert hstored).mpr (Or.inr rfl), rfl, rfl⟩, ?_⟩
          rintro reference ⟨r, hr, hkey, -⟩
          exact Table.not_clash_of_insert hstored r hr (Or.inr hkey)
      | ended => cases hissuing
      | loaded hcheck => cases hissuing
      | replayed hselect => cases hissuing
      | fresh hselect => cases hissuing
      | instructed => cases hissuing
      | declined => cases hissuing
      | issued => cases hissuing
      | refused => cases hissuing
      | committed hflush => cases hissuing
  | payout h =>
      obtain ⟨phase', -, rfl⟩ := Option.map_eq_some_iff.mp ho.symm
      cases hissuing
  | delivery h =>
      obtain ⟨phase', -, rfl⟩ := Option.map_eq_some_iff.mp ho.symm
      cases hissuing

/-- The outline of the traffic; it asks nothing of the steps. -/
theorem moneyTraffic_outline (config : RefundConfig) (settings : TransferSettings) :
    Outline (moneyTraffic config settings) Unguarded RefundsRecorded HoldsRefund KeysApart where
  opened s request _ := by
    rcases request with (call | call) | d
    · rintro record ⟨⟩
    · rintro record ⟨⟩
    · rintro record ⟨⟩
  openedCompat request t := by
    have hinit : issuingRefund ((moneyTraffic config settings).init request) = none := by
      rcases request with (call | call) | d <;> rfl
    constructor
    · intro r r' hr
      rw [hinit] at hr
      cases hr
    · intro r r' _ hr'
      rw [hinit] at hr'
      cases hr'
  global p i t x s' o h ht hadv _ := by
    obtain ⟨hstep, htrace⟩ := moneyTraffic_advance hadv
    have hown := h.each i t ht
    constructor
    · intro key reference hmem
      rw [htrace] at hmem
      rcases List.mem_append.mp hmem with hold | hnew
      · exact hstep.keepsKeys.refunds key reference (h.global.stored key reference hold)
      · obtain ⟨record, hissuing, rfl, rfl⟩ := refund_mem_providerCalls hnew
        exact hstep.keepsKeys.refunds _ _ (hown record hissuing).1
    · rw [htrace, refundKeys_append, refundKeys_providerCalls]
      cases hissuing : issuingRefund t with
      | none => simpa using h.global.once
      | some record =>
          -- the key of the call was not in the record
          have hnew := (hown record hissuing).2
          refine List.nodup_append.mpr ⟨h.global.once, List.nodup_singleton _, ?_⟩
          rintro key hkey _ hmem rfl
          rw [List.mem_singleton.mp hmem] at hkey
          exact hnew hkey
  own p i t x s' t' h ht hadv _ := by
    intro record hissuing
    obtain ⟨hstep, htrace⟩ := moneyTraffic_advance hadv
    obtain ⟨hstored, hfresh⟩ := hstep.issues hissuing
    refine ⟨hstored, ?_⟩
    rw [htrace, refundKeys_append, refundKeys_providerCalls]
    intro hmem
    rcases List.mem_append.mp hmem with hold | hnew
    · -- a key that was called for is stored
      obtain ⟨c, hc, hkey⟩ := List.mem_filterMap.mp hold
      cases c with
      | payout reference => cases hkey
      | refund key reference =>
          obtain rfl := Option.some.inj hkey
          exact hfresh reference (h.global.stored _ reference hc)
    · obtain ⟨r, hr, hkey⟩ := Option.map_eq_some_iff.mp (Option.mem_toList.mp hnew)
      have hkept := (h.each i t ht r hr).1
      rw [hkey] at hkept
      exact hfresh r.refundReference hkept
  others p i t x s' o j u h ht hadv _ hne hj := by
    intro record hissuing
    obtain ⟨hstep, htrace⟩ := moneyTraffic_advance hadv
    obtain ⟨hstored, hnot⟩ := h.each j u hj record hissuing
    refine ⟨hstep.keepsKeys.refunds _ _ hstored, ?_⟩
    rw [htrace, refundKeys_append, refundKeys_providerCalls]
    intro hmem
    rcases List.mem_append.mp hmem with hold | hnew
    · exact hnot hold
    · obtain ⟨r, hr, hkey⟩ := Option.map_eq_some_iff.mp (Option.mem_toList.mp hnew)
      exact h.pairs i j t u hne.symm ht hj r record hr hissuing hkey
  compat p i t x s' t' j u h ht hadv _ hne hj := by
    obtain ⟨hstep, -⟩ := moneyTraffic_advance hadv
    have apart : KeysApart t' u := by
      intro r r' hr hr' hkey
      obtain ⟨-, hfresh⟩ := hstep.issues hr
      have hstored := (h.each j u hj r' hr').1
      rw [← hkey] at hstored
      exact hfresh r'.refundReference hstored
    exact ⟨apart, fun r r' hr hr' hkey => apart r' r hr' hr hkey.symm⟩

/-- **One provider refund per key.**  In every interleaving of refund requests, payout
requests and deliveries, with failures and crashes at any point, `initiate_refund` is
called at most once under a key. -/
theorem refund_called_once {db : Db} {p : Pool (Store × List ProviderCall) MoneySession}
    {as : List (PoolAct ((RefundCall ⊕ PayoutCall) ⊕ Delivery)
      ((RefundTick ⊕ PayoutTick) ⊕ Tick))}
    (run : Run (moneyTraffic config settings).machine Unguarded
      (Pool.quiet (Store.start db, [])) as p) (key : String) :
    (p.store.2.countP fun c => c.refundKey = some key) ≤ 1 := by
  have hmeets := (moneyTraffic_outline config settings).run run
    (Pool.Meets.quiet RefundsRecorded.nothing)
  have honce : (refundKeys p.store.2).count key ≤ 1 :=
    List.nodup_iff_count_le_one.mp hmeets.global.once key
  refine le_trans (le_of_eq ?_) honce
  rw [refundKeys, List.count, List.countP_filterMap]
  refine List.countP_congr fun c _ => ?_
  cases hkey : c.refundKey with
  | none => simp
  | some k => simp

/-! ## Payouts are called for before they are recorded -/

/-- The reference of the payout call a session is about to make. -/
def issuingPayout : MoneySession → Option String
  | .inl (.inr ⟨_, .issuing draft _⟩) => some draft.reference
  | _ => none

/-- No payout request makes its provider call in this step. A payout commits its row after its
call, so that the call itself is what has to be excluded. -/
def noPayoutCall (p : Pool (Store × List ProviderCall) MoneySession) :
    PoolAct ((RefundCall ⊕ PayoutCall) ⊕ Delivery) ((RefundTick ⊕ PayoutTick) ⊕ Tick) → Bool
  | .advance i _ => (p.session i).all fun t => (issuingPayout t).isNone
  | _ => true

/-- The reference a payout request drew is not the key of a committed row when it makes
its call: `uuid4` repeats no stored key, and the unique index keeps the key of the
uncommitted row from everybody else. -/
def drawsFreshReference (p : Pool (Store × List ProviderCall) MoneySession) :
    PoolAct ((RefundCall ⊕ PayoutCall) ⊕ Delivery) ((RefundTick ⊕ PayoutTick) ⊕ Tick) → Bool
  | .advance i _ =>
      (p.session i).all fun t =>
        (issuingPayout t).all fun reference =>
          p.store.1.db.transactions.rows.all fun t => t.idempotencyKey ≠ reference
  | _ => true

/-- A call is a session's refund or its payout. -/
theorem mem_providerCalls {s : Store} {t : MoneySession} {c : ProviderCall} :
    c ∈ providerCalls s t ↔
      (∃ r, issuingRefund t = some r ∧ c = .refund r.idempotencyKey r.refundReference) ∨
        ∃ reference, issuingPayout t = some reference ∧ c = .payout reference := by
  rcases t with (⟨call, phase⟩ | ⟨call, phase⟩) | ⟨d, phase⟩
  · cases phase <;> simp [providerCalls, issuingRefund, issuingPayout]
  · cases phase <;> simp [providerCalls, issuingRefund, issuingPayout]
  · simp [providerCalls, issuingRefund, issuingPayout]

/-- What the guard says of the session that moves. -/
theorem drawsFreshReference_advance {p : Pool (Store × List ProviderCall) MoneySession} {i : ℕ}
    {t : MoneySession} (ht : p.session i = some t) {x : (RefundTick ⊕ PayoutTick) ⊕ Tick}
    (h : drawsFreshReference p (.advance i x) = true) {reference : String}
    (hissuing : issuingPayout t = some reference) :
    ¬ TransactionStored reference p.store.1.db := by
  simp only [drawsFreshReference, ht, Option.all_some, hissuing] at h
  rintro ⟨t, hstored, hkey⟩
  exact of_decide_eq_true (List.all_eq_true.mp h t hstored) hkey

/-- A session about to call for a payout changes nothing in the database. -/
theorem MoneyStep.issuingPayout_db {s s' : Store} {t : MoneySession} {o : Option MoneySession}
    (h : MoneyStep config settings s t s' o) {reference : String}
    (hissuing : issuingPayout t = some reference) : s'.db = s.db := by
  cases h with
  | refund h => cases hissuing
  | delivery h => cases hissuing
  | @payout call phase _ next h =>
      cases h with
      | instructed => rfl
      | declined => rfl
      | ended hanswer => rfl
      | admitted hadmitted => rfl
      | found hphase hselect => rfl
      | missing => rfl
      | provisioned hinsert => cases hissuing
      | clashed => rfl
      | previewed hexecute => rfl
      | recorded hexecute => rfl
      | refused => rfl
      | answered => rfl
      -- a commit of a payout leads to an answer, not to the instruction
      | committed hrow hinsert =>
          cases phase with
          | issuing draft transaction => cases hrow
          | requested => cases hrow
          | opening draft => cases hrow
          | provisioning draft => cases hrow
          | reselecting draft => cases hrow
          | recording draft account => cases hrow
          | previewing draft transaction => cases hissuing
          | awaiting draft transaction => cases hrow
          | failing draft transaction => cases hissuing
          | accepted draft transaction result => cases hissuing
          | answering answer => cases hrow
      | finished => rfl

/-- A step keeps every call recorded exactly when it is no payout call. -/
theorem noPayoutCall_iff {p p' : Pool (Store × List ProviderCall) MoneySession}
    {a : PoolAct ((RefundCall ⊕ PayoutCall) ⊕ Delivery) ((RefundTick ⊕ PayoutTick) ⊕ Tick)}
    (hstep : (moneyTraffic config settings).machine.step p a = some p')
    (hfresh : drawsFreshReference p a = true)
    (hmeets : p.Meets RefundsRecorded HoldsRefund KeysApart) (hbefore : RecordedFirst p.store) :
    noPayoutCall p a = true ↔ RecordedFirst p'.store := by
  cases a with
  | begin i request =>
      simp only [Sessions.machine] at hstep
      split at hstep
      · cases hstep
        exact ⟨fun _ => hbefore, fun _ => rfl⟩
      · cases hstep
  | crash i =>
      cases hstep
      exact ⟨fun _ => hbefore, fun _ => rfl⟩
  | advance i x =>
      obtain ⟨t, ht, hrest⟩ := Option.bind_eq_some_iff.mp hstep
      obtain ⟨⟨s', o⟩, hadv, rfl⟩ := Option.map_eq_some_iff.mp hrest
      obtain ⟨hmoney, htrace⟩ := moneyTraffic_advance hadv
      have hguard : noPayoutCall p (.advance i x) = true ↔ issuingPayout t = none := by
        simp only [noPayoutCall, ht, Option.all_some, Option.isNone_iff_eq_none]
      rw [hguard]
      constructor
      · intro hnone c hc
        rw [Pool.assign_store, htrace] at hc
        rcases List.mem_append.mp hc with hold | hnew
        · have hrecorded := hbefore c hold
          cases c with
          | refund key reference => exact hmoney.keepsKeys.refunds key reference hrecorded
          | payout reference => exact hmoney.keepsKeys.transactions reference hrecorded
        · rcases mem_providerCalls.mp hnew with ⟨r, hissuing, rfl⟩ | ⟨reference, hissuing, -⟩
          · exact hmoney.keepsKeys.refunds _ _ (hmeets.each i t ht r hissuing).1
          · rw [hnone] at hissuing
            cases hissuing
      · intro hafter
        by_contra hsome
        obtain ⟨reference, hissuing⟩ := Option.ne_none_iff_exists'.mp hsome
        -- the call is in the record, and no committed row has its reference
        have hcall : .payout reference ∈ s'.2 := by
          rw [htrace]
          exact List.mem_append_right _ (mem_providerCalls.mpr (Or.inr ⟨reference, hissuing, rfl⟩))
        have hstored : TransactionStored reference s'.1.db := hafter _ hcall
        rw [hmoney.issuingPayout_db hissuing] at hstored
        exact drawsFreshReference_advance ht hfresh hissuing hstored

/-- **Recorded first.**  In every run of refund requests, payout requests and deliveries
whose payouts draw fresh references, with failures and crashes at any point: every state
reached has a committed row for every provider call made so far, if and only if no
payout request makes its call. -/
theorem recorded_first_iff {db : Db} {p : Pool (Store × List ProviderCall) MoneySession}
    {as : List (PoolAct ((RefundCall ⊕ PayoutCall) ⊕ Delivery)
      ((RefundTick ⊕ PayoutTick) ⊕ Tick))}
    (run : Run (moneyTraffic config settings).machine (fun p a => drawsFreshReference p a = true)
      (Pool.quiet (Store.start db, [])) as p) :
    Run (moneyTraffic config settings).machine (fun p a => noPayoutCall p a = true)
        (Pool.quiet (Store.start db, [])) as p ↔
      ∀ front back mid, as = front ++ back →
        Run (moneyTraffic config settings).machine Unguarded
          (Pool.quiet (Store.start db, [])) front mid → RecordedFirst mid.store := by
  refine run.guarded_iff_within (J := fun p => p.Meets RefundsRecorded HoldsRefund KeysApart)
    (fun p a p' hstep _ hmeets =>
      (moneyTraffic_outline config settings).step hstep trivial hmeets)
    (fun p a p' hstep hfresh hmeets hbefore => noPayoutCall_iff hstep hfresh hmeets hbefore)
    (Pool.Meets.quiet RefundsRecorded.nothing) ?_
  intro c hc
  cases hc

end Traffic

/-- The refund request `i`, from its arrival through its first `n` statements. -/
def refundTaken (i : ℕ) (call : RefundCall) (n : ℕ) :
    List (PoolAct ((RefundCall ⊕ PayoutCall) ⊕ Delivery) ((RefundTick ⊕ PayoutTick) ⊕ Tick)) :=
  .begin i (.inl (.inl call)) ::
    List.replicate n
      (.advance i (.inl (.inl ⟨i, false, .answered [("status", .str "processing")]⟩)))

/-- The payout request `i`, from its arrival through its first `n` statements. -/
def payoutTaken (i : ℕ) (call : PayoutCall) (reference : String) (n : ℕ) :
    List (PoolAct ((RefundCall ⊕ PayoutCall) ⊕ Delivery) ((RefundTick ⊕ PayoutTick) ⊕ Tick)) :=
  .begin i (.inl (.inr call)) ::
    List.replicate n
      (.advance i (.inl (.inr ⟨i, false, reference, .answered [("status", .str "processing")]⟩)))

/-- Two requests under one key.  The first has found no refund of the key and waits; the second
stores its refund and calls for it; the insert of the first then violates the unique column. -/
def racedRefunds :
    List (PoolAct ((RefundCall ⊕ PayoutCall) ⊕ Delivery) ((RefundTick ⊕ PayoutTick) ⊕ Tick)) :=
  refundTaken 0 (sampleCall "refund-key-1" none noAmount_pos) 2 ++
    refundTaken 1 (sampleCall "refund-key-1" none noAmount_pos) 7 ++
    List.replicate 2 (.advance 0 (.inl (.inl ⟨9, false, .raised⟩)))

/-- The race ends with one call under the key, and with the refund of the second request. -/
theorem refund_called_once_raced :
    ∃ p : Pool (Store × List ProviderCall) MoneySession,
      Run (moneyTraffic sampleConfig productionSettings).machine Unguarded
        (Pool.quiet (Store.start (Db.holding completedPayin), [])) racedRefunds p ∧
      p.store.2.length = 1 ∧ p.store.1.db.refunds.rows.length = 1 ∧
      p.store.1.refundAnswers.length = 2 ∧
      (p.store.2.countP fun c => c.refundKey = some "refund-key-1") ≤ 1 := by
  have hcheck : ((moneyTraffic sampleConfig productionSettings).machine.check (fun _ _ => true)
      (Pool.quiet (Store.start (Db.holding completedPayin), [])) racedRefunds).map
        (fun p => (p.store.2.length, p.store.1.db.refunds.rows.length,
          p.store.1.refundAnswers.length)) = some (1, 1, 2) := by
    decide +kernel
  obtain ⟨p, hp, hreached⟩ := Option.map_eq_some_iff.mp hcheck
  simp only [Prod.mk.injEq] at hreached
  obtain ⟨hcalls, hrows, hanswers⟩ := hreached
  have run := (Run.of_check hp).unguarded
  exact ⟨p, run, hcalls, hrows, hanswers, refund_called_once run "refund-key-1"⟩

/-- An executed refund is recorded by the time its call is made, and throughout. -/
theorem recorded_first_refund :
    ∃ p, Run (moneyTraffic sampleConfig productionSettings).machine Unguarded
        (Pool.quiet (Store.start (Db.holding completedPayin), []))
        (refundTaken 0 (sampleCall "refund-key-1" none (by simp)) 7) p ∧
      p.store.2.length = 1 ∧ RecordedFirst p.store := by
  have hcheck : ((moneyTraffic sampleConfig productionSettings).machine.check
      (fun p a => drawsFreshReference p a && noPayoutCall p a)
      (Pool.quiet (Store.start (Db.holding completedPayin), []))
      (refundTaken 0 (sampleCall "refund-key-1" none (by simp)) 7)).map
        (fun p => p.store.2.length) = some 1 := by
    decide +kernel
  obtain ⟨p, hp, hcalls⟩ := Option.map_eq_some_iff.mp hcheck
  have run := Run.of_check hp
  have hfresh := run.mono (Q := fun p a => drawsFreshReference p a = true)
    fun _ _ h => (Bool.and_eq_true _ _ ▸ h : _ ∧ _).1
  have hquiet := run.mono (Q := fun p a => noPayoutCall p a = true)
    fun _ _ h => (Bool.and_eq_true _ _ ▸ h : _ ∧ _).2
  have hrecorded := (recorded_first_iff hfresh).mp hquiet
  exact ⟨p, run.unguarded, hcalls, hrecorded _ [] p (List.append_nil _).symm run.unguarded⟩

/-- A payout request dies right after its provider call: no row knows of the payout. -/
theorem payout_unrecorded :
    ∃ p, Run (moneyTraffic sampleConfig productionSettings).machine Unguarded
        (Pool.quiet (Store.start Db.empty, []))
        (payoutTaken 0 (samplePayout 500 fiveHundred_pos true) "afm-payout-1" 5 ++ [.crash 0]) p ∧
      .payout "afm-payout-1" ∈ p.store.2 ∧ ¬ RecordedFirst p.store := by
  have hcheck : ((moneyTraffic sampleConfig productionSettings).machine.check (fun _ _ => true)
      (Pool.quiet (Store.start Db.empty, []))
      (payoutTaken 0 (samplePayout 500 fiveHundred_pos true) "afm-payout-1" 5 ++ [.crash 0])).map
        (fun p => (p.store.2, p.store.1.db.transactions.rows.length)) =
      some ([.payout "afm-payout-1"], 0) := by
    decide +kernel
  obtain ⟨p, hp, hreached⟩ := Option.map_eq_some_iff.mp hcheck
  obtain ⟨hcalls, hrows⟩ := Prod.mk.inj hreached
  have hcall : .payout "afm-payout-1" ∈ p.store.2 := by
    rw [hcalls]
    exact List.mem_singleton_self _
  refine ⟨p, (Run.of_check hp).unguarded, hcall, fun hrecorded => ?_⟩
  obtain ⟨t, ht, -⟩ := hrecorded _ hcall
  have hmem : t ∈ p.store.1.db.transactions.rows := ht
  rw [List.eq_nil_of_length_eq_zero hrows] at hmem
  cases hmem

end AfricaFrontier
