import AfricaFrontier.Kora.FinishedTasks

/-!
# Who still polls a pending transaction

A transaction an event leaves `processing` should have a task the worker will take up
again, and that has not run out of time (`LeavesPolled`); and a transaction whose
metadata says `scheduled` should have a task that will run at all (`Watched`).

Each transaction has at most one task, so both are about the row `taskOf` finds.  An
event brings forward whatever task is there unless that is finished, and never extends
its time; a worker takes the task out of the schedule at a final answer or at its expiry
and leaves the metadata of the transaction as it is.  `pollingGuard` says of each step
whether one of these happens, and `polling_iff` that there is no other way.

A step changes at most one task and one transaction, so both properties come down to these two
rows. The first half of the module says what `taskOf` finds after an update and after an
insertion; then each step is put into one of two kinds: steps that write no task
(`watched_of_flush`), and steps that write one (`watched_iff_of_task`). What a pending event does
to the task it finds is `deferral_polled`, as an equivalence, and what a worker's answer does is
`reconcile_task`.
-/

namespace AfricaFrontier

open Python Relational Transition

/-- The metadata says that a check is scheduled. -/
def Transaction.marked (t : Transaction) : Bool :=
  t.txnMetadata.get "reconciliation_status" = .str "scheduled"

/-- The worker will find the task due at some later time. -/
def KoraPaymentReconciliation.runnable (task : KoraPaymentReconciliation) : Bool :=
  (task.state = .scheduled && task.nextAttemptAt.isSome) ||
    (task.state = .processing && task.lastCheckedAt.isSome)

/-- The task expires after `now`. -/
def KoraPaymentReconciliation.lasting (now : Instant) (task : KoraPaymentReconciliation) :
    Bool :=
  task.expiresAt.any (now < ·)

/-- The task of the transaction `i`. -/
def taskOf (i : ℕ) (db : Db) : Option KoraPaymentReconciliation :=
  db.tasks.rows.find? fun task => decide (task.transactionId = i)

/-- No transaction is marked whose task will not run again. The mark is what an event leaves in
the metadata when it has scheduled a task. -/
def Watched (db : Db) : Prop :=
  ∀ i t, db.transactions.get i = some t → t.marked = true →
    (taskOf i db).any KoraPaymentReconciliation.runnable = true

/-- The task of `i` will run again, and expires after `now`. -/
def Polled (i : ℕ) (now : Instant) (db : Db) : Bool :=
  (taskOf i db).any fun task => task.runnable && task.lasting now

/-- If the step is an event that leaves its transaction `processing`, that is polled: there is a
task for it that will run. It is asked of events alone, since a worker may well end in
`processing` after its last attempt. -/
def LeavesPolled (db : Db) : SettlementStep → Prop
  | .webhook body eventType now => ∀ work d db' t,
      processKoraWebhookBusinessEvent body eventType now db = .ok work →
      work.flush db = .ok db' → work.transaction = some d →
      db'.transactions.get d.loaded.id = some t → t.status = .processing →
      Polled d.loaded.id now db' = true
  | .reconcile _ _ _ _ => True

/-! ## The task of a transaction -/

/-- The task that is found is one of the transaction. -/
theorem taskOf_mem {i : ℕ} {db : Db} {task : KoraPaymentReconciliation}
    (h : taskOf i db = some task) : task ∈ db.tasks ∧ task.transactionId = i :=
  ⟨List.mem_of_find?_eq_some h, by simpa using List.find?_some h⟩

/-- A transaction has at most one task. -/
theorem taskOf_of_mem {db : Db} {task : KoraPaymentReconciliation} (h : task ∈ db.tasks) :
    taskOf task.transactionId db = some task := by
  cases htask : taskOf task.transactionId db with
  | none =>
      have hnone := List.find?_eq_none.mp htask task h
      simp at hnone
  | some found =>
      obtain ⟨hmem, hparent⟩ := taskOf_mem htask
      rw [Table.eq_of_clash hmem h (fun _ _ => Eq.symm) hparent]

/-- The lookup of `enqueue_reconciliation` finds it. -/
theorem selectTask_eq (i : ℕ) (db : Db) : selectTask i db = .ok (taskOf i db) := by
  cases htask : taskOf i db with
  | none =>
      refine scalarOneOrNone_eq_ok_none.mpr (List.filter_eq_nil_iff.mpr ?_)
      exact List.find?_eq_none.mp htask
  | some task =>
      obtain ⟨hmem, hparent⟩ := taskOf_mem htask
      refine scalarOneOrNone_eq_ok_some.mpr (Table.filter_eq_singleton hmem ?_ ?_)
      · exact decide_eq_true hparent
      · intro task' hmem' hparent'
        exact Table.eq_of_clash hmem' hmem (fun _ _ => Eq.symm)
          ((of_decide_eq_true hparent').trans hparent.symm)

/-- Rewriting a task that keeps its transaction. -/
theorem taskOf_modify {db db' : Db} {k : ℕ}
    {f : KoraPaymentReconciliation → KoraPaymentReconciliation}
    {hf : ∀ r, Row.key (f r) = Row.key r} (htasks : db'.tasks = db.tasks.modify k f hf) (i : ℕ) :
    taskOf i db' = (taskOf i db).map fun r => if ident r = k then f r else r := by
  have hparent : (fun task : KoraPaymentReconciliation => decide (task.transactionId = i)) ∘
      (fun r => if ident r = k then f r else r) = fun task => decide (task.transactionId = i) := by
    funext r
    have hkey : Row.key (if ident r = k then f r else r) = Row.key r := Table.key_ite hf k r
    have hsame : (if ident r = k then f r else r).transactionId = r.transactionId :=
      congrArg Prod.snd hkey
    show decide ((if ident r = k then f r else r).transactionId = i) = _
    rw [hsame]
  rw [taskOf, htasks]
  show (db.tasks.rows.map fun r => if ident r = k then f r else r).find? _ = _
  rw [List.find?_map, hparent]
  rfl

/-- Only the transaction of the rewritten task is concerned. -/
theorem taskOf_modify_task {db db' : Db} {task : KoraPaymentReconciliation}
    {f : KoraPaymentReconciliation → KoraPaymentReconciliation}
    {hf : ∀ r, Row.key (f r) = Row.key r} (hmem : task ∈ db.tasks)
    (htasks : db'.tasks = db.tasks.modify task.id f hf) (i : ℕ) :
    taskOf i db' = if i = task.transactionId then some (f task) else taskOf i db := by
  rw [taskOf_modify htasks]
  by_cases hi : i = task.transactionId
  · subst hi
    rw [taskOf_of_mem hmem, if_pos rfl]
    simp
  · rw [if_neg hi]
    cases htask : taskOf i db with
    | none => rfl
    | some other =>
        obtain ⟨hmem', hparent⟩ := taskOf_mem htask
        have hne : ident other ≠ task.id := by
          intro hid
          obtain rfl : other = task := Table.eq_of_ident hmem' hmem hid
          exact hi hparent.symm
        rw [Option.map_some, if_neg hne]

/-- A new task is that of its transaction. -/
theorem taskOf_insert {db db' : Db} {mk : ℕ → KoraPaymentReconciliation}
    {hmk : ∀ n, ident (mk n) = n} (hinsert : db.tasks.insert mk hmk = some db'.tasks) {i : ℕ}
    (hparent : (mk db.tasks.next).transactionId = i) (hnone : taskOf i db = none) (j : ℕ) :
    taskOf j db' = if j = i then some (mk db.tasks.next) else taskOf j db := by
  rw [taskOf, Table.insert_rows hinsert, List.find?_append]
  by_cases hj : j = i
  · subst hj
    rw [if_pos rfl]
    show (taskOf j db).or _ = _
    rw [hnone, Option.none_or, List.find?_singleton, hparent]
    simp
  · rw [if_neg hj, List.find?_singleton, hparent]
    simp only [Ne.symm hj, decide_false]
    exact Option.or_none

/-! ## Steps that leave the tasks alone -/

/-- The mark of a row that is written back is that of the staged copy. -/
theorem marked_writeBack (t t' : Transaction) :
    (Transaction.writeBack ⟨t, t'⟩ t).marked = t'.marked := by
  simp [Transaction.marked, Transaction.writeBack]

/-- A commit that writes no task and marks nothing keeps every marked transaction
watched. -/
theorem watched_of_flush {u : UnitOfWork} {db db' : Db} (hflush : u.flush db = .ok db')
    (htask : u.task = none) (hnewTask : u.newTask = none)
    (hmark : ∀ d, u.transaction = some d → db.transactions.get d.loaded.id = some d.loaded ∧
      (d.current.marked = true → d.loaded.marked = true)) (hwatched : Watched db) :
    Watched db' := by
  obtain ⟨-, -, -, -, htasks, -⟩ := UnitOfWork.flush_ok hflush
  simp only [UnitOfWork.tasksAfter, hnewTask, UnitOfWork.tasksUpdated, htask,
    Option.some.injEq] at htasks
  intro i t' hget' hmarked
  have hsame : taskOf i db' = taskOf i db := by rw [taskOf, taskOf, htasks]
  rw [hsame]
  obtain ⟨t, hget, ⟨rfl, -⟩ | ⟨⟨loaded, current⟩, hd, hid, rfl⟩⟩ :=
    UnitOfWork.flush_transactions_get hflush hget'
  · exact hwatched i _ hget hmarked
  · obtain ⟨hstored, hkeeps⟩ := hmark _ hd
    rw [hid, hget] at hstored
    obtain rfl : t = loaded := Option.some.inj hstored
    rw [marked_writeBack] at hmarked
    exact hwatched i t hget (hkeeps hmarked)

/-! ## Steps that write one task -/

/-- A step that gives the transaction `i` the task `new`, and marks no other, is judged
by that task. -/
theorem watched_iff_of_task {db db' : Db} {i : ℕ} {new : KoraPaymentReconciliation}
    (hothers : ∀ j t', j ≠ i → db'.transactions.get j = some t' → t'.marked = true →
      ∃ t, db.transactions.get j = some t ∧ t.marked = true)
    (htask : ∀ j, taskOf j db' = if j = i then some new else taskOf j db)
    (hwatched : Watched db) :
    Watched db' ↔ ∀ t', db'.transactions.get i = some t' → t'.marked = true →
      new.runnable = true := by
  constructor
  · intro hwatched' t' hget' hmarked
    have hrun := hwatched' i t' hget' hmarked
    rw [htask, if_pos rfl, Option.any_some] at hrun
    exact hrun
  · intro hrun j t' hget' hmarked
    rw [htask]
    by_cases hj : j = i
    · subst hj
      rw [if_pos rfl, Option.any_some]
      exact hrun t' hget' hmarked
    · rw [if_neg hj]
      obtain ⟨t, hget, hmarked₀⟩ := hothers j t' hj hget' hmarked
      exact hwatched j t hget hmarked₀

/-- A pending event schedules the task unless it is finished, and leaves its expiry. -/
theorem deferral_updates (data : Obj) (now : Instant) (t : Transaction)
    (task : KoraPaymentReconciliation) :
    ∃ d, (deferPayment data now t (some task)).task = some d ∧ d.loaded = task ∧
      (KoraPaymentReconciliation.writeBack d task).runnable = !task.finished ∧
      (KoraPaymentReconciliation.writeBack d task).expiresAt = task.expiresAt := by
  refine ⟨_, rfl, rfl, ?_, rfl⟩
  simp only [KoraPaymentReconciliation.runnable, KoraPaymentReconciliation.writeBack,
    written_loaded, KoraPaymentReconciliation.finished]
  cases hstate : task.state with
  | scheduled => simp
  | processing => simp
  | completed => simp
  | failed => simp
  | expired => simp

/-- With no task yet it adds one, due at once and for a day. -/
theorem deferral_adds (data : Obj) (now : Instant) (t : Transaction) :
    ∃ new, (deferPayment data now t none).newTask = some new ∧
      (deferPayment data now t none).task = none ∧ new.transactionId = t.id ∧
      new.runnable = true ∧ new.lasting now = true := by
  refine ⟨_, rfl, rfl, rfl, rfl, ?_⟩
  have hday : now < now + hours 24 := by
    show now < now + 24 * 60 * 60 * 1000000
    exact lt_add_of_pos_right now (by norm_num)
  simp [KoraPaymentReconciliation.lasting, hday]

/-- A pending event leaves its transaction polled, and every mark true, exactly when it
finds no task or one that is not finished and lasts. -/
theorem deferral_polled {data : Obj} {now : Instant} {t : Transaction} {db db' : Db}
    (hget : db.transactions.get t.id = some t)
    (hflush : (deferPayment data now t (taskOf t.id db)).flush db = .ok db')
    (hwatched : Watched db) :
    ((taskOf t.id db).all fun task => !task.finished && task.lasting now) = true ↔
      Watched db' ∧ Polled t.id now db' = true := by
  obtain ⟨t', hstaged, hmarked⟩ : ∃ t',
      (deferPayment data now t (taskOf t.id db)).transaction = some ⟨t, t'⟩ ∧ t'.marked = true := by
    refine ⟨_, enqueueReconciliation_transaction _ _ _ _ _, ?_⟩
    simp [Transaction.marked, Obj.get_set_of_ne]
  have hothers : ∀ j s', j ≠ t.id → db'.transactions.get j = some s' → s'.marked = true →
      ∃ s, db.transactions.get j = some s ∧ s.marked = true := by
    intro j s' hj hget' hmarked'
    obtain ⟨s, hs, ⟨rfl, -⟩ | ⟨d, hd, hid, -⟩⟩ := UnitOfWork.flush_transactions_get hflush hget'
    · exact ⟨_, hs, hmarked'⟩
    · obtain rfl := Option.some.inj (hstaged.symm.trans hd)
      exact absurd hid.symm hj
  have hown : ∃ s', db'.transactions.get t.id = some s' ∧ s'.marked = true := by
    rcases UnitOfWork.flush_transactions_of_get hflush hget with
      ⟨-, huntouched⟩ | ⟨d, hd, -, hget'⟩
    · exact absurd rfl (huntouched _ hstaged)
    · obtain rfl := Option.some.inj (hstaged.symm.trans hd)
      exact ⟨_, hget', by rw [marked_writeBack, hmarked]⟩
  -- what the task of the transaction becomes
  obtain ⟨new, htask, hrunnable, hlasting⟩ : ∃ new,
      (∀ j, taskOf j db' = if j = t.id then some new else taskOf j db) ∧
        (new.runnable = (taskOf t.id db).all fun task => !task.finished) ∧
        (new.lasting now = (taskOf t.id db).all (KoraPaymentReconciliation.lasting now)) := by
    obtain ⟨-, -, -, -, htasks, -⟩ := UnitOfWork.flush_ok hflush
    cases htask : taskOf t.id db with
    | none =>
        obtain ⟨new, hnew, hnone, hparent, hrunnable, hlasting⟩ := deferral_adds data now t
        rw [htask] at htasks
        simp only [UnitOfWork.tasksAfter, hnew, UnitOfWork.tasksUpdated, hnone] at htasks
        exact ⟨_, taskOf_insert htasks hparent htask, hrunnable, hlasting⟩
    | some task =>
        obtain ⟨hmem, hparent⟩ := taskOf_mem htask
        obtain ⟨d, hd, hloaded, hrunnable, hexpires⟩ := deferral_updates data now t task
        have hnew : (deferPayment data now t (some task)).newTask = none := rfl
        rw [htask] at htasks
        simp only [UnitOfWork.tasksAfter, hnew, UnitOfWork.tasksUpdated, hd, hloaded,
          Option.some.injEq] at htasks
        refine ⟨_, fun j => ?_, hrunnable, ?_⟩
        · rw [taskOf_modify_task hmem htasks.symm, hparent]
        · rw [KoraPaymentReconciliation.lasting, hexpires]
          rfl
  rw [watched_iff_of_task hothers htask hwatched, Polled, htask, if_pos rfl, Option.any_some,
    hrunnable, hlasting]
  obtain ⟨s', hget', hmarked'⟩ := hown
  cases taskOf t.id db with
  | none => simp
  | some task =>
      simp only [Option.all_some, Bool.and_eq_true]
      constructor
      · exact fun h => ⟨fun _ _ _ => h.1, h⟩
      · exact And.right

/-! ## The guard

One condition for each kind of step, on the rows it finds. -/

/-- A payment event on its transaction is not pending, or raises, or finds no task or one
that is not finished and lasts. -/
def deferralPolled (kind : EventKind) (data : Obj) (now : Instant) (t : Transaction) (db : Db) :
    Bool :=
  classify (statusValue data) ≠ .other || paymentRefused kind data t db ||
    (taskOf t.id db).all fun task => !task.finished && task.lasting now

/-- A refund callback on its rows succeeds, or raises, or finds the payment in another
status or polled. -/
def callbackPolled (data : Obj) (now : Instant) (refund : KoraRefund) (t : Transaction) (db : Db) :
    Bool :=
  classify (statusValue data) = .success || callbackRefused data refund t db ||
    t.status ≠ .processing || Polled t.id now db

/-- An answer after which the worker does not schedule the task again. -/
def answerEnds (v : Verification) (now : Instant) (task : KoraPaymentReconciliation) : Bool :=
  v.normalized ≠ .other || task.expiresAt.any (· ≤ now)

/-- The steps that leave nobody waiting. Each case is on the rows the step finds: that a pending
event finds a task which can still run or makes one, and that an answer which ends a task finds
its transaction without the mark, or cannot be written back. -/
def pollingGuard (db : Db) : SettlementStep → Bool
  | .webhook body eventType now =>
      let data := bodyData body
      match eventKind eventType with
      | .refund =>
          match callbackTarget data db with
          | .ok (refund, t) => callbackPolled data now refund t db
          | .error _ => true
      | .payout => (paymentTarget data db).all fun t => deferralPolled .payout data now t db
      | .charge => (paymentTarget data db).all fun t => deferralPolled .charge data now t db
  | .reconcile _ claimedAt outcome answeredAt =>
      match dueTask claimedAt db, verification outcome with
      | some task, some v =>
          answerRefused v task || !answerEnds v answeredAt task ||
            (db.transactions.get task.transactionId).all fun t => !t.marked
      | _, _ => true

/-! ## Events

An event that raises has no effect; a final one touches neither task nor mark. -/

section Events

variable {body : Obj} {eventType : String} {now : Instant} {db : Db}

/-- An event that raises leaves nothing behind. -/
theorem leavesPolled_of_raises
    (h : Raises (processKoraWebhookBusinessEvent body eventType now db) db) :
    LeavesPolled db (.webhook body eventType now) :=
  fun work _ db' _ hwork hflush => absurd hflush (h work db' hwork)

/-- One that commits leaves its transaction with the status it staged. -/
theorem leavesPolled_iff {u : UnitOfWork} {db' : Db} {t t' : Transaction}
    (hprocess : processKoraWebhookBusinessEvent body eventType now db = .ok u)
    (hflush : u.flush db = .ok db') (hstaged : u.transaction = some ⟨t, t'⟩)
    (hget : db.transactions.get t.id = some t) :
    LeavesPolled db (.webhook body eventType now) ↔
      (t'.status = .processing → Polled t.id now db' = true) := by
  have hwritten : db'.transactions.get t.id = some (Transaction.writeBack ⟨t, t'⟩ t) := by
    rcases UnitOfWork.flush_transactions_of_get hflush hget with
      ⟨-, huntouched⟩ | ⟨d, hd, -, hget'⟩
    · exact absurd rfl (huntouched _ hstaged)
    · obtain rfl := Option.some.inj (hstaged.symm.trans hd)
      exact hget'
  have hstatus : (Transaction.writeBack ⟨t, t'⟩ t).status = t'.status :=
    written_loaded t.status t'.status
  constructor
  · intro hleaves hprocessing
    exact hleaves u _ db' _ hprocess hflush hstaged hwritten (hstatus.trans hprocessing)
  · intro hpolled work d db'' row hwork hcommitted hd hrow hprocessing
    obtain rfl := Except.ok.inj (hprocess.symm.trans hwork)
    obtain rfl := Except.ok.inj (hflush.symm.trans hcommitted)
    obtain rfl := Option.some.inj (hstaged.symm.trans hd)
    obtain rfl := Option.some.inj (hwritten.symm.trans hrow)
    exact hpolled (hstatus.symm.trans hprocessing)

/-- A final payment event writes no task and marks nothing. -/
theorem applyPayment_final {kind : EventKind} {data : Obj} {t : Transaction} {u : UnitOfWork}
    (hclass : classify (statusValue data) ≠ .other)
    (h : applyPayment kind data now t db = .ok u) :
    u.task = none ∧ u.newTask = none ∧
      ∀ t', u.transaction = some ⟨t, t'⟩ → t'.marked = true → t.marked = true := by
  unfold applyPayment at h
  cases hvalue : classify (statusValue data) with
  | success =>
      simp only [hvalue] at h
      obtain ⟨existing, -, h⟩ := bind_eq_ok.mp h
      unfold settlePayment at h
      split at h
      · split at h
        · obtain ⟨metadata, hmetadata, h⟩ := bind_eq_ok.mp h
          cases h
          refine ⟨rfl, rfl, ?_⟩
          rintro t' ⟨⟩ hmarked
          -- the debit was just matched
          obtain ⟨count, -, hcounted⟩ := bind_eq_ok.mp hmetadata
          cases hcounted
          simp [Transaction.marked, Obj.get_set_of_ne] at hmarked
        · cases h
          refine ⟨rfl, rfl, ?_⟩
          rintro t' ⟨⟩ hmarked
          exact hmarked
      · cases h
        refine ⟨rfl, rfl, ?_⟩
        rintro t' ⟨⟩ hmarked
        exact hmarked
  | failure =>
      simp only [hvalue] at h
      cases h
      refine ⟨rfl, rfl, ?_⟩
      rintro t' ⟨⟩ hmarked
      simp [Transaction.marked] at hmarked
  | other => exact absurd hvalue hclass

/-- The guard of a payment event is exact. -/
theorem payment_polled {kind : EventKind}
    (hprocess : processKoraWebhookBusinessEvent body eventType now db =
      processKoraPayment kind (bodyData body) now db) (hwatched : Watched db) :
    ((paymentTarget (bodyData body) db).all fun t =>
        deferralPolled kind (bodyData body) now t db) = true ↔
      Watched (webhookEffect body eventType now db) ∧
        LeavesPolled db (.webhook body eventType now) := by
  cases htarget : paymentTarget (bodyData body) db with
  -- no transaction is named: the handler stages nothing, or raises
  | none =>
      refine iff_of_true rfl ⟨?_, ?_⟩
      · rcases webhookEffect_cases body eventType now db with hsame | ⟨u, hu, hflush⟩
        · rw [hsame]
          exact hwatched
        · obtain rfl := processKoraPayment_of_no_target htarget (hprocess.symm.trans hu)
          rw [← Except.ok.inj hflush]
          exact hwatched
      · intro work d db' t hwork _ hd
        obtain rfl := processKoraPayment_of_no_target htarget (hprocess.symm.trans hwork)
        cases hd
  | some t =>
      have happly := processKoraPayment_of_target htarget kind now
      obtain ⟨hraises, hcommits⟩ := @payment_effect kind (bodyData body) t db now
      rw [Option.all_some]
      cases hrefused : paymentRefused kind (bodyData body) t db with
      | true =>
          have hraised : Raises (processKoraWebhookBusinessEvent body eventType now db) db := by
            rw [hprocess, happly]
            exact hraises hrefused
          rw [webhookEffect_of_raises hraised]
          exact iff_of_true (by simp [deferralPolled, hrefused])
            ⟨hwatched, leavesPolled_of_raises hraised⟩
      | false =>
          obtain ⟨u, t', db', hu, hstaged, hstatus, -, -, hflush⟩ := hcommits hrefused
          have hget := selectTransaction_get (paymentTarget_eq_some htarget).2
          have hok := hprocess.trans (happly.trans hu)
          rw [webhookEffect_of_ok hok hflush, leavesPolled_iff hok hflush hstaged hget, hstatus]
          -- only a pending event touches the task and the mark
          by_cases hclass : classify (statusValue (bodyData body)) = .other
          · have hdefer : u = deferPayment (bodyData body) now t (taskOf t.id db) := by
              simp only [applyPayment, hclass, selectTask_eq] at hu
              exact (Except.ok.inj hu).symm
            rw [hdefer] at hflush
            simp only [deferralPolled, hclass, hrefused, ne_eq, not_true_eq_false, decide_false,
              Bool.false_or, statusAfter, true_imp_iff]
            exact deferral_polled hget hflush hwatched
          · obtain ⟨htask, hnewTask, hmark⟩ := applyPayment_final hclass hu
            refine iff_of_true (by simp [deferralPolled, hclass]) ⟨?_, ?_⟩
            · refine watched_of_flush hflush htask hnewTask (fun d hd => ?_) hwatched
              obtain rfl := Option.some.inj (hstaged.symm.trans hd)
              exact ⟨hget, hmark t' hstaged⟩
            · intro hprocessing
              cases hvalue : classify (statusValue (bodyData body)) with
              | success => simp [hvalue, statusAfter] at hprocessing
              | failure => simp [hvalue, statusAfter] at hprocessing
              | other => exact absurd hvalue hclass

/-- A callback marks nothing. -/
theorem parentAfterCallback_marked {data : Obj} {refund : KoraRefund} {t : Transaction}
    (h : (parentAfterCallback data refund t).marked = true) : t.marked = true := by
  unfold parentAfterCallback at h
  cases hclass : classify (statusValue data) with
  | success => simp [hclass, Transaction.marked] at h
  | failure => simp [hclass, Transaction.marked] at h
  | other => simpa [hclass, Transaction.marked, Obj.get_set_of_ne] using h

/-- The guard of a refund callback is exact. -/
theorem callback_polled (hkind : eventKind eventType = .refund) {refund : KoraRefund}
    {t : Transaction} (htarget : callbackTarget (bodyData body) db = .ok (refund, t))
    (hwatched : Watched db) :
    callbackPolled (bodyData body) now refund t db = true ↔
      Watched (webhookEffect body eventType now db) ∧
        LeavesPolled db (.webhook body eventType now) := by
  have hprocess : processKoraWebhookBusinessEvent body eventType now db =
      processKoraRefundWebhook (bodyData body) now db := by
    simp only [processKoraWebhookBusinessEvent, hkind]
  obtain ⟨hraises, hcommits⟩ := callback_effect now htarget
  cases hrefused : callbackRefused (bodyData body) refund t db with
  | true =>
      have hraised : Raises (processKoraWebhookBusinessEvent body eventType now db) db := by
        rw [hprocess]
        exact hraises hrefused
      rw [webhookEffect_of_raises hraised]
      exact iff_of_true (by simp [callbackPolled, hrefused])
        ⟨hwatched, leavesPolled_of_raises hraised⟩
  | false =>
      obtain ⟨existing, db', hu, -, hflush⟩ := hcommits hrefused
      have hget : db.transactions.get t.id = some t :=
        Table.get_ident (Table.mem_of_get (callbackTarget_ok htarget).2.1)
      have hok := hprocess.trans hu
      have hkept : Watched db' := by
        refine watched_of_flush hflush rfl rfl (fun d hd => ?_) hwatched
        obtain rfl := Option.some.inj hd
        exact ⟨hget, parentAfterCallback_marked⟩
      -- the callback stages no task, so that polling sees the same one as before
      have htasks : taskOf t.id db' = taskOf t.id db := by
        obtain ⟨-, -, -, -, htasks, -⟩ := UnitOfWork.flush_ok hflush
        have hsame : db'.tasks = db.tasks := (Option.some.inj htasks).symm
        rw [taskOf, taskOf, hsame]
      rw [webhookEffect_of_ok hok hflush, leavesPolled_iff hok hflush rfl hget,
        parentAfterCallback_status, Polled, htasks, ← Polled]
      simp only [hkept, true_and, callbackPolled, hrefused, Bool.or_false]
      by_cases hclass : classify (statusValue (bodyData body)) = .success
      · simp [hclass]
      · by_cases hprocessing : t.status = .processing
        · simp [hclass, hprocessing]
        · simp [hclass, hprocessing]

end Events

/-! ## Worker calls

The worker checks the task it has claimed, and no other. -/

/-- The worker leaves every mark as it is. -/
theorem reconcile_marks (worker : String) (claimedAt : Instant) (outcome : ProviderOutcome)
    (answeredAt : Instant) (db : Db) (i : ℕ) :
    ((reconcileDueOnce worker claimedAt outcome answeredAt db).transactions.get i).map
        Transaction.marked = (db.transactions.get i).map Transaction.marked := by
  obtain ⟨hsame | ⟨task, v, t, provider, -, -, hget, hwritten⟩, -, -⟩ :=
    reconcileDueOnce_cases worker claimedAt outcome answeredAt db
  · rw [hsame]
  · rw [hwritten, Table.get_modify, Option.map_map]
    cases hrow : db.transactions.get i with
    | none => rfl
    | some row =>
        rw [Option.map_some, Option.map_some, Function.comp_apply]
        split
        · rename_i hi
          have hstored : db.transactions.get t.id = some t :=
            Table.get_ident (Table.mem_of_get hget)
          rw [hi, hstored] at hrow
          obtain rfl := Option.some.inj hrow
          rw [marked_writeBack, Transaction.marked, verifiedTransaction_txnMetadata,
            Transaction.marked]
        · rfl

/-- After a final answer, or at its expiry, a task is not scheduled again. -/
theorem verifiedTask_runnable (v : Verification) (now : Instant)
    (task : KoraPaymentReconciliation) :
    (verifiedTask v now task).runnable = !answerEnds v now task := by
  unfold verifiedTask answerEnds
  cases v.normalized with
  | success => simp [KoraPaymentReconciliation.runnable]
  | failure => simp [KoraPaymentReconciliation.runnable]
  | other =>
      by_cases hexpired : task.expiresAt.any (· ≤ now) = true
      · simp [KoraPaymentReconciliation.runnable, hexpired]
      · simp [KoraPaymentReconciliation.runnable, hexpired]

/-- Writing an unmodified copy back stores the worker's. -/
theorem writeBack_verifiedTask (v : Verification) (now : Instant)
    (task : KoraPaymentReconciliation) :
    KoraPaymentReconciliation.writeBack ⟨task, verifiedTask v now task⟩ task =
      verifiedTask v now task := by
  unfold verifiedTask
  cases v.normalized with
  | success => simp [KoraPaymentReconciliation.writeBack]
  | failure => simp [KoraPaymentReconciliation.writeBack]
  | other =>
      by_cases hexpired : task.expiresAt.any (· ≤ now) = true
      · simp [KoraPaymentReconciliation.writeBack, hexpired]
      · simp [KoraPaymentReconciliation.writeBack, hexpired]

/-- What a call makes of the task that was due. -/
theorem reconcile_task (worker : String) {claimedAt : Instant} (outcome : ProviderOutcome)
    (answeredAt : Instant) {db : Db} {task : KoraPaymentReconciliation}
    (hdue : dueTask claimedAt db = some task) :
    ∃ new, (∀ j, taskOf j (reconcileDueOnce worker claimedAt outcome answeredAt db) =
        if j = task.transactionId then some new else taskOf j db) ∧
      new.runnable = (verification outcome).all fun v =>
        answerRefused v task || !answerEnds v answeredAt task := by
  have hmem : task ∈ db.tasks := (List.mem_filter.mp (mem_of_firstBy hdue)).1
  have hstored : db.tasks.get task.id = some task := Table.get_ident hmem
  have htake : claim worker claimedAt db = some (takeTask worker claimedAt db task) := by
    rw [claim, hdue]
    rfl
  obtain ⟨c, claimed, hclaim, hid, htasks, htransactions⟩ : ∃ c claimed,
      claim worker claimedAt db = some (c, claimed) ∧ c.taskId = task.id ∧
      claimed.tasks = db.tasks.modify task.id
        (KoraPaymentReconciliation.writeBack ⟨task, claimedTask worker claimedAt task⟩)
        (KoraPaymentReconciliation.key_writeBack _) ∧
      claimed.transactions = db.transactions :=
    ⟨_, _, htake, rfl, rfl, rfl⟩
  -- the claim writes the task alone, and the task it leaves is runnable
  have hwritten : KoraPaymentReconciliation.writeBack ⟨task, claimedTask worker claimedAt task⟩
      task = claimedTask worker claimedAt task := by
    simp [KoraPaymentReconciliation.writeBack, claimedTask]
  have hclaimed : ∀ j, taskOf j claimed =
      if j = task.transactionId then some (claimedTask worker claimedAt task) else taskOf j db := by
    intro j
    rw [taskOf_modify_task hmem htasks, hwritten]
  have hrun : (claimedTask worker claimedAt task).runnable = true := by
    simp [KoraPaymentReconciliation.runnable, claimedTask]
  cases hv : verification outcome with
  -- no answer: the task stays claimed
  | none =>
      have hresult : reconcileDueOnce worker claimedAt outcome answeredAt db = claimed := by
        simp only [reconcileDueOnce, hclaim, hv]
      rw [hresult]
      exact ⟨_, hclaimed, hrun⟩
  | some v =>
      have hget : claimed.tasks.get task.id = some (claimedTask worker claimedAt task) := by
        rw [htasks, Table.get_modify_self hstored, hwritten]
      have hwrite : writeBack c v answeredAt claimed =
          (writeBackStaged v answeredAt (claimedTask worker claimedAt task)
            (claimed.transactions.get task.transactionId)).flush claimed := by
        simp only [writeBack, hid, hget, claimedTask]
      have hfits : (writeBackStaged v answeredAt (claimedTask worker claimedAt task)
          (claimed.transactions.get task.transactionId)).fits = !answerRefused v task := by
        rw [← verifiedTask_fits v worker claimedAt answeredAt]
        simp [UnitOfWork.fits, writeBackStaged]
      rw [reconcileDueOnce_claimed hclaim hv, hwrite, Option.all_some]
      cases hrefused : answerRefused v task with
      -- the write-back fails, and the claim is all that is left
      | true =>
          have herror : (writeBackStaged v answeredAt (claimedTask worker claimedAt task)
              (claimed.transactions.get task.transactionId)).flush claimed = .error .data := by
            rw [UnitOfWork.flush, hfits, hrefused]
            rfl
          rw [herror]
          exact ⟨_, hclaimed, hrun⟩
      -- the answer is written, and decides whether the task is run again
      | false =>
          rw [hrefused] at hfits
          obtain ⟨db', hflush⟩ := flush_of_fits claimed hfits rfl
          obtain ⟨-, -, -, -, hwrittenBack, -⟩ := UnitOfWork.flush_ok hflush
          have htasks' : db'.tasks = claimed.tasks.modify (claimedTask worker claimedAt task).id
              (KoraPaymentReconciliation.writeBack ⟨claimedTask worker claimedAt task,
                verifiedTask v answeredAt (claimedTask worker claimedAt task)⟩)
              (KoraPaymentReconciliation.key_writeBack _) := (Option.some.inj hwrittenBack).symm
          rw [hflush]
          refine ⟨verifiedTask v answeredAt (claimedTask worker claimedAt task), fun j => ?_, ?_⟩
          · rw [taskOf_modify_task (Table.mem_of_get hget) htasks', writeBack_verifiedTask,
              hclaimed]
            show (if j = task.transactionId then _ else _) = _
            split
            · rfl
            · rfl
          · rw [verifiedTask_runnable]
            rfl

/-- The guard of a worker call is exact. -/
theorem reconcile_polled (worker : String) (claimedAt : Instant) (outcome : ProviderOutcome)
    (answeredAt : Instant) {db : Db} (hwatched : Watched db) :
    pollingGuard db (.reconcile worker claimedAt outcome answeredAt) = true ↔
      Watched (reconcileDueOnce worker claimedAt outcome answeredAt db) := by
  cases hdue : dueTask claimedAt db with
  | none =>
      have hsame : reconcileDueOnce worker claimedAt outcome answeredAt db = db := by
        simp [reconcileDueOnce, claim, hdue]
      rw [hsame]
      exact iff_of_true (by simp only [pollingGuard, hdue]) hwatched
  | some task =>
      obtain ⟨new, htask, hrunnable⟩ := reconcile_task worker outcome answeredAt hdue
      have hmarks := reconcile_marks worker claimedAt outcome answeredAt db
      -- the worker touches one transaction; marks of the others are as they were
      have hothers : ∀ j t', j ≠ task.transactionId →
          (reconcileDueOnce worker claimedAt outcome answeredAt db).transactions.get j = some t' →
          t'.marked = true → ∃ t, db.transactions.get j = some t ∧ t.marked = true := by
        intro j t' _ hget' hmarked
        have hmark := hmarks j
        rw [hget', Option.map_some, hmarked] at hmark
        exact Option.map_eq_some_iff.mp hmark.symm
      have hmark := hmarks task.transactionId
      rw [watched_iff_of_task hothers htask hwatched, hrunnable]
      cases hv : verification outcome with
      | none => exact iff_of_true (by simp only [pollingGuard, hdue, hv]) fun _ _ _ => rfl
      | some v =>
          simp only [pollingGuard, hdue, hv, Option.all_some, Bool.or_eq_true]
          constructor
          · rintro (hopen | hall) t' hget' hmarked
            · exact hopen
            · rw [hget', Option.map_some, hmarked] at hmark
              obtain ⟨t, hget, hmarked₀⟩ := Option.map_eq_some_iff.mp hmark.symm
              rw [hget, Option.all_some, hmarked₀] at hall
              cases hall
          · intro hrun
            cases hget : db.transactions.get task.transactionId with
            | none => exact Or.inr rfl
            | some t =>
                rw [hget, Option.map_some] at hmark
                obtain ⟨t', hget', hmarked⟩ := Option.map_eq_some_iff.mp hmark
                cases ht : t.marked with
                | false => exact Or.inr (by simp [ht])
                | true => exact Or.inl (hrun t' hget' (hmarked.trans ht))

/-- The guard of a step is exact. -/
theorem pollingGuard_iff {db : Db} (step : SettlementStep) (hwatched : Watched db) :
    pollingGuard db step = true ↔ Watched (step.apply db) ∧ LeavesPolled db step := by
  cases step with
  | webhook body eventType now =>
      show _ ↔ Watched (webhookEffect body eventType now db) ∧ _
      cases hkind : eventKind eventType with
      | payout =>
          have hprocess : processKoraWebhookBusinessEvent body eventType now db =
              processKoraPayment .payout (bodyData body) now db := by
            simp only [processKoraWebhookBusinessEvent, hkind]
          simp only [pollingGuard, hkind]
          exact payment_polled hprocess hwatched
      | charge =>
          have hprocess : processKoraWebhookBusinessEvent body eventType now db =
              processKoraPayment .charge (bodyData body) now db := by
            simp only [processKoraWebhookBusinessEvent, hkind]
          simp only [pollingGuard, hkind]
          exact payment_polled hprocess hwatched
      | refund =>
          simp only [pollingGuard, hkind]
          cases htarget : callbackTarget (bodyData body) db with
          | ok target => exact callback_polled hkind htarget hwatched
          -- a callback whose refund is not found raises, and stages nothing
          | error e =>
              have hraised :
                  Raises (processKoraWebhookBusinessEvent body eventType now db) db := by
                intro u db' hu
                simp only [processKoraWebhookBusinessEvent, hkind, processKoraRefundWebhook_eq,
                  htarget] at hu
                cases hu
              rw [webhookEffect_of_raises hraised]
              exact iff_of_true rfl ⟨hwatched, leavesPolled_of_raises hraised⟩
  | reconcile worker claimedAt outcome answeredAt =>
      show _ ↔ Watched (reconcileDueOnce worker claimedAt outcome answeredAt db) ∧ True
      rw [and_true]
      exact reconcile_polled worker claimedAt outcome answeredAt hwatched

/-- **Nobody is left waiting** in a run exactly when each of its steps meets the
guard. -/
theorem polling_iff {db db' : Db} {steps : List SettlementStep} (start : Watched db)
    (run : Run settlement Unguarded db steps db') :
    Run settlement (fun db step => pollingGuard db step = true) db steps db' ↔
      ∀ front step back mid mid', steps = front ++ step :: back →
        Run settlement Unguarded db front mid → settlement.step mid step = some mid' →
        Watched mid' ∧ LeavesPolled mid step := by
  refine run.guarded_iff_steps (fun db step db' hstep hwatched => ?_) start
  obtain rfl := Option.some.inj hstep
  exact pollingGuard_iff step hwatched

/-! ## A notice that arrives late -/

/-- The worker learns that `processingPayin` succeeded. -/
def learnedSuccess : SettlementStep :=
  .reconcile "afm-reconciliation-1" 0 (.answered [("status", .str "success")]) (minutes 1)

/-- An event from before that, delivered after it. -/
def lateBody : Obj :=
  [("data", .obj [("reference", .str "KPY-1"), ("status", .str "processing")])]

/-- The notice. -/
def lateNotice : SettlementStep := .webhook lateBody "charge.pending" (minutes 2)

/-- At the start somebody is waiting. -/
theorem queuedPayin_watched : Watched queuedPayin := by
  intro i t hget hmarked
  obtain rfl : t = processingPayin := by
    have hmem := Table.mem_of_get hget
    exact List.mem_singleton.mp hmem
  have hunmarked : processingPayin.marked = false := by decide
  rw [hunmarked] at hmarked
  cases hmarked

/-- That is a run. -/
theorem lateNotice_run : Run settlement Unguarded queuedPayin [learnedSuccess, lateNotice]
    (lateNotice.apply (learnedSuccess.apply queuedPayin)) :=
  Run.cons rfl trivial (Run.cons rfl trivial (Run.nil _))

/-- The statement on that run. -/
theorem polling_iff_lateNotice :
    Run settlement (fun db step => pollingGuard db step = true) queuedPayin
        [learnedSuccess, lateNotice] (lateNotice.apply (learnedSuccess.apply queuedPayin)) ↔
      ∀ front step back mid mid', [learnedSuccess, lateNotice] = front ++ step :: back →
        Run settlement Unguarded queuedPayin front mid → settlement.step mid step = some mid' →
        Watched mid' ∧ LeavesPolled mid step :=
  polling_iff queuedPayin_watched lateNotice_run

/-- The notice leaves the transaction `processing` and marked, with a task that is
completed. -/
theorem left_unpolled : Run settlement Unguarded queuedPayin [learnedSuccess, lateNotice]
      (lateNotice.apply (learnedSuccess.apply queuedPayin)) ∧
    ¬ LeavesPolled (learnedSuccess.apply queuedPayin) lateNotice ∧
    ¬ Watched (lateNotice.apply (learnedSuccess.apply queuedPayin)) := by
  have hrow : ((lateNotice.apply (learnedSuccess.apply queuedPayin)).transactions.get 0).map
      (fun t => (t.marked, t.status)) = some (true, .processing) := by decide +kernel
  have htask : (taskOf 0 (lateNotice.apply (learnedSuccess.apply queuedPayin))).any
      KoraPaymentReconciliation.runnable = false := by decide +kernel
  have hunpolled : Polled 0 (minutes 2)
      (lateNotice.apply (learnedSuccess.apply queuedPayin)) = false := by decide +kernel
  -- the late notice names the payment, which is completed by then
  have hnamed : (processKoraWebhookBusinessEvent lateBody "charge.pending" (minutes 2)
      (learnedSuccess.apply queuedPayin)).toOption.bind
        (fun u => u.transaction.map (fun d => d.loaded.id)) = some 0 := by decide +kernel
  have hbefore : ((learnedSuccess.apply queuedPayin).transactions.get 0).map (·.status) =
      some .completed := by decide +kernel
  obtain ⟨t, hget, hvalues⟩ := Option.map_eq_some_iff.mp hrow
  obtain ⟨hmarked, hprocessing⟩ := Prod.mk.inj hvalues
  refine ⟨lateNotice_run, fun hleaves => ?_, fun hwatched => ?_⟩
  · rcases webhookEffect_cases lateBody "charge.pending" (minutes 2)
      (learnedSuccess.apply queuedPayin) with hsame | ⟨u, hu, hflush⟩
    · have hkept : (learnedSuccess.apply queuedPayin).transactions.get 0 = some t := by
        rw [← hsame]
        exact hget
      rw [hkept, Option.map_some, hprocessing] at hbefore
      cases hbefore
    · rw [hu] at hnamed
      obtain ⟨d, hd, hid⟩ := Option.map_eq_some_iff.mp hnamed
      have hpolled := hleaves u d _ t hu hflush hd (by rw [hid]; exact hget) hprocessing
      rw [hid] at hpolled
      exact Bool.false_ne_true (hunpolled.symm.trans hpolled)
  · rw [hwatched 0 t hget hmarked] at htask
    cases htask

end AfricaFrontier
