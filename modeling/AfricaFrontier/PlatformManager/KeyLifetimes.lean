import AfricaFrontier.PlatformManager.ApiKeys

/-!
# The lifetime of an API key

`validate_key` reads two tables; what it answers is a matter of what has happened.  A key is
accepted from its issue on, for 90 days, unless a rotation that had found it has been committed;
and there is nothing else that could keep it from being accepted or bring it back
(`accepted_key_iff`).

The history is kept beside the store: the keys that calls have committed, and what the committed
rotations had found.

* `KeyIssue` and `Rotation` are what is recorded, of onboardings and of rotations.
* `Remembered` is the invariant: every stored key is described by its issue and by the rotations
  that had found it, and every issue is the issue of a stored key.
* A session in flight only knows keys that are stored (`FoundStored`), so that a key which is
  issued later cannot have been found by it.

The accepted keys are then read off the history, through what `validate_key` asks of the tables.
-/

namespace AfricaFrontier.PlatformManager

open Relational Transition

/-! ## The history

It grows with every commit and is read by no code. -/

/-- A key that a call has committed. -/
structure KeyIssue where
  id : ℕ
  platformId : ℕ
  keyValue : String
  issuedAt : Instant

/-- The last instant at which the key is accepted. -/
def KeyIssue.expiry (i : KeyIssue) : Instant := i.issuedAt + hours (24 * keyValidityDays)

/-- A rotation that has committed, with the keys it had found. -/
structure Rotation where
  platformId : ℕ
  found : List ℕ

/-- The keys that were issued, and the rotations, both in their order. -/
structure KeyHistory where
  issues : List KeyIssue
  rotations : List Rotation

/-- Nothing has happened yet. -/
def KeyHistory.empty : KeyHistory := ⟨[], []⟩

/-- A rotation that had found the key has committed. That it had found it is the point: a key that
was inserted meanwhile is not touched. -/
def KeyHistory.Revoked (h : KeyHistory) (i : KeyIssue) : Prop :=
  ∃ r ∈ h.rotations, r.platformId = i.platformId ∧ i.id ∈ r.found

/-- The key that a step issues to a platform. -/
def PlatformStore.issue (s : PlatformStore) (platformId : ℕ) (tick : PlatformTick) : KeyIssue :=
  ⟨s.db.apiKeys.next, platformId, tick.keyValue, tick.now⟩

/-- The history after a step: a commit adds what it has issued, and for a rotation also what it
has revoked. -/
def KeyHistory.after (h : KeyHistory) (s : PlatformStore) (tick : PlatformTick) :
    PlatformSession → KeyHistory
  | .onboarding payload =>
      if tick.fault then h
      else
        match s.db.onboard payload tick with
        | none => h
        | some _ => { h with issues := h.issues ++ [s.issue s.db.platforms.next tick] }
  | .rotating _ => h
  | .revoking platformId found revokedAt =>
      if tick.fault then h
      else
        match s.db.rotate platformId found revokedAt tick with
        | none => h
        | some _ =>
            { issues := h.issues ++ [s.issue platformId tick]
              rotations := h.rotations ++ [⟨platformId, found⟩] }

/-- The calls, with their history. -/
def recordedCalls :
    Sessions (PlatformStore × KeyHistory) PlatformCall (PlatformSession × Unit) PlatformTick :=
  platformCalls.watched () fun s t tick => (s.2.after s.1 tick t.1, ())

/-! ## What is accepted

`validate_key`, as a statement about the rows. -/

section Validate

variable {db : PlatformDb} {keyValue : String} {now : Instant}

/-- The key that has the value, if it is active. -/
theorem PlatformDb.find_key_iff {k : APIKey} :
    (db.apiKeys.rows.find? fun k => decide (k.keyValue = keyValue) && k.isActive) = some k ↔
      k ∈ db.apiKeys ∧ k.keyValue = keyValue ∧ k.isActive = true := by
  constructor
  · intro h
    have hmeets := List.find?_some h
    exact ⟨List.mem_of_find?_eq_some h, by simpa using hmeets⟩
  · rintro ⟨hk, hvalue, hactive⟩
    cases hfind : db.apiKeys.rows.find? fun k => decide (k.keyValue = keyValue) && k.isActive with
    | none =>
        have hnot := List.find?_eq_none.mp hfind k hk
        simp [hvalue, hactive] at hnot
    | some k' =>
        have hmeets := List.find?_some hfind
        have hsame : k'.keyValue = k.keyValue := by
          rw [hvalue]
          exact (by simpa using hmeets : k'.keyValue = keyValue ∧ k'.isActive = true).1
        rw [Table.eq_of_clash (List.mem_of_find?_eq_some hfind) hk (fun _ _ => Eq.symm) hsame]

/-- A value is unknown where no active key has it. -/
theorem PlatformDb.validateKey_invalid_iff :
    db.validateKey keyValue now = .error .invalidKey ↔
      ∀ k ∈ db.apiKeys, k.keyValue = keyValue → k.isActive = false := by
  constructor
  · intro h k hk hvalue
    by_contra hactive
    have hfind := PlatformDb.find_key_iff.mpr
      ⟨hk, hvalue, Bool.not_eq_false _ ▸ hactive⟩
    rw [PlatformDb.validateKey, hfind] at h
    simp only at h
    split at h
    · cases h
    · split at h
      · cases h
      · split at h <;> cases h
  · intro h
    have hnone : (db.apiKeys.rows.find? fun k => decide (k.keyValue = keyValue) && k.isActive) =
        none := by
      refine List.find?_eq_none.mpr fun k hk hmeets => ?_
      obtain ⟨hvalue, hactive⟩ : k.keyValue = keyValue ∧ k.isActive = true := by
        simpa using hmeets
      rw [h k hk hvalue] at hactive
      cases hactive
    rw [PlatformDb.validateKey, hnone]

/-- Where all platforms are active, an active key is accepted until it expires. -/
theorem PlatformDb.validateKey_ok_iff (hactive : ∀ p ∈ db.platforms, p.isActive = true)
    {p : Platform} :
    db.validateKey keyValue now = .ok p ↔
      ∃ k ∈ db.apiKeys, k.keyValue = keyValue ∧ k.isActive = true ∧
        (∀ expiry, k.expiresAt = some expiry → now ≤ expiry) ∧
          p ∈ db.platforms ∧ p.id = k.platformId := by
  constructor
  · intro h
    unfold PlatformDb.validateKey at h
    split at h
    · cases h
    · rename_i k hfind
      obtain ⟨hk, hvalue, hlive⟩ := PlatformDb.find_key_iff.mp hfind
      split at h
      · cases h
      · rename_i hexpiry
        split at h
        · cases h
        · rename_i q hq
          split at h
          · cases h
            refine ⟨k, hk, hvalue, hlive, ?_, Table.mem_of_get hq, Table.ident_of_get hq⟩
            intro expiry hsome
            rw [hsome] at hexpiry
            by_contra hlate
            simp [Option.filter, not_le.mp hlate] at hexpiry
          · cases h
  -- the value is unique, so that the key found first is this one
  · rintro ⟨k, hk, hvalue, hlive, hexpiry, hp, hid⟩
    have hfind := PlatformDb.find_key_iff.mpr ⟨hk, hvalue, hlive⟩
    have hnone : k.expiresAt.filter (fun expiry => decide (expiry < now)) = none := by
      cases hsome : k.expiresAt with
      | none => rfl
      | some expiry => simp [Option.filter, hexpiry expiry hsome]
    have hget : db.platforms.get k.platformId = some p := Table.get_eq_some_iff.mpr ⟨hp, hid⟩
    simp only [PlatformDb.validateKey, hfind, hnone, hget, hactive p hp, if_true]

end Validate

/-! ## What the history says of the keys

The invariant, and what each of the calls does to it. -/

/-- A stored key is what an issue has left, as the rotations have left it. -/
structure KeyHistory.Describes (h : KeyHistory) (i : KeyIssue) (k : APIKey) : Prop where
  id : k.id = i.id
  platform : k.platformId = i.platformId
  value : k.keyValue = i.keyValue
  expiry : k.expiresAt = some i.expiry
  active : k.isActive = true ↔ ¬ h.Revoked i

/-- The keys are those the history describes. -/
structure Remembered (s : PlatformStore) (h : KeyHistory) : Prop where
  platforms : ∀ p ∈ s.db.platforms, p.isActive = true
  keys : ∀ k ∈ s.db.apiKeys, ∃ i ∈ h.issues, h.Describes i k
  issues : ∀ i ∈ h.issues, ∃ k ∈ s.db.apiKeys, h.Describes i k
  found : ∀ r ∈ h.rotations, ∀ id ∈ r.found, id < s.db.apiKeys.next

/-- A rotation in flight has found stored keys. -/
def FoundStored (s : PlatformStore) : PlatformSession → Prop
  | .revoking _ found _ => ∀ id ∈ found, id < s.db.apiKeys.next
  | _ => True

/-- The steps of the calls, with the history. -/
inductive KeyMove (s : PlatformStore) (h : KeyHistory) (tick : PlatformTick) :
    PlatformSession → PlatformStore → KeyHistory → Option PlatformSession → Prop
  | ended {t : PlatformSession} : KeyMove s h tick t s h none
  | found {platformId : ℕ} : KeyMove s h tick (.rotating platformId) s h
      (some (.revoking platformId (s.db.activeKeys platformId) tick.now))
  | onboarded {payload : OnboardRequest} {s' : PlatformStore}
      (hcommit : s.db.onboard payload tick = some s'.db) :
      KeyMove s h tick (.onboarding payload) s'
        { h with issues := h.issues ++ [s.issue s.db.platforms.next tick] } none
  | rotated {platformId : ℕ} {found : List ℕ} {revokedAt : Instant} {s' : PlatformStore}
      (hcommit : s.db.rotate platformId found revokedAt tick = some s'.db) :
      KeyMove s h tick (.revoking platformId found revokedAt) s'
        { issues := h.issues ++ [s.issue platformId tick]
          rotations := h.rotations ++ [⟨platformId, found⟩] } none

/-- Every step of the recorded calls is one of the moves. -/
theorem recordedCalls_step {s s' : PlatformStore × KeyHistory} {t : PlatformSession × Unit}
    {tick : PlatformTick} {o : Option (PlatformSession × Unit)}
    (hadv : recordedCalls.advance s t tick = some (s', o)) :
    KeyMove s.1 s.2 tick t.1 s'.1 s'.2 (o.map Prod.fst) := by
  obtain ⟨o', hcall, hafter, rfl⟩ := Sessions.watched_advance hadv
  have hlocal : (o'.map fun t' => (t', ())).map Prod.fst = o' := by cases o' <;> rfl
  simp only [hlocal, hafter]
  have hstep : (if tick.fault then (s.1, none) else t.1.step s.1 tick) = (s'.1, o') :=
    Option.some.inj hcall
  cases hfault : tick.fault with
  -- where the database fails, nothing is committed and nothing recorded
  | true =>
      rw [hfault] at hstep
      obtain ⟨hstore, rfl⟩ := Prod.mk.inj hstep
      have hsame : s.2.after s.1 tick t.1 = s.2 := by
        cases t.1 with
        | onboarding payload => simp [KeyHistory.after, hfault]
        | rotating platformId => rfl
        | revoking platformId found revokedAt => simp [KeyHistory.after, hfault]
      rw [hsame, ← hstore]
      exact .ended
  | false =>
      rw [hfault] at hstep
      generalize t.1 = phase at hstep
      cases phase with
      | rotating platformId =>
          obtain ⟨hstore, rfl⟩ := Prod.mk.inj hstep
          rw [← hstore]
          exact .found
      | onboarding payload =>
          obtain ⟨hstore, rfl⟩ := Prod.mk.inj hstep
          have hmove : s.1.onboard payload tick = s'.1 := hstore
          unfold PlatformStore.onboard at hmove
          split at hmove
          -- a call that is refused leaves nothing behind either
          · rename_i hrefused
            simp only [KeyHistory.after, hfault, hrefused, ← hmove]
            exact .ended
          · rename_i db hcommit
            simp only [KeyHistory.after, hfault, hcommit]
            exact .onboarded (hcommit.trans (congrArg (fun s => some s.db) hmove))
      | revoking platformId found revokedAt =>
          obtain ⟨hstore, rfl⟩ := Prod.mk.inj hstep
          have hmove : s.1.rotate platformId found revokedAt tick = s'.1 := hstore
          unfold PlatformStore.rotate at hmove
          split at hmove
          · rename_i hrefused
            simp only [KeyHistory.after, hfault, hrefused, ← hmove]
            exact .ended
          · rename_i db hcommit
            simp only [KeyHistory.after, hfault, hcommit]
            exact .rotated (hcommit.trans (congrArg (fun s => some s.db) hmove))

section Steps

variable {s s' : PlatformStore} {h h' : KeyHistory} {tick : PlatformTick} {t : PlatformSession}
  {o : Option PlatformSession}

/-- A rotation leaves the platforms alone. -/
theorem PlatformDb.rotate_platforms {db db' : PlatformDb} {platformId : ℕ} {found : List ℕ}
    {revokedAt : Instant} (hcommit : db.rotate platformId found revokedAt tick = some db') :
    db'.platforms = db.platforms := by
  unfold PlatformDb.rotate at hcommit
  split at hcommit
  · exact (PlatformDb.addKey_eq hcommit).2
  · cases hcommit

/-- Keys are only added. -/
theorem KeyMove.next_le (hmove : KeyMove s h tick t s' h' o) :
    s.db.apiKeys.next ≤ s'.db.apiKeys.next := by
  cases hmove with
  | ended => exact le_rfl
  | found => exact le_rfl
  | onboarded hcommit =>
      have hnext : s'.db.apiKeys.next = s.db.apiKeys.next + 1 :=
        Table.insert_next (PlatformDb.addKey_eq hcommit).1
      omega
  | rotated hcommit =>
      have hnext := PlatformDb.rotate_next hcommit
      omega

/-- What a rotation has found stays stored. -/
theorem FoundStored.of_move (hmove : KeyMove s h tick t s' h' o) {u : PlatformSession}
    (hu : FoundStored s u) : FoundStored s' u := by
  cases u with
  | onboarding payload => trivial
  | rotating platformId => trivial
  | revoking platformId found revokedAt =>
      exact fun id hid => (hu id hid).trans_le hmove.next_le

/-- A rotation finds stored keys. -/
theorem KeyMove.foundStored (hmove : KeyMove s h tick t s' h' o) :
    ∀ t', o = some t' → FoundStored s' t' := by
  intro t' ht'
  cases hmove with
  | ended => cases ht'
  | onboarded _ => cases ht'
  | rotated _ => cases ht'
  | found =>
      obtain rfl := Option.some.inj ht'
      intro id hid
      obtain ⟨k, hk, rfl⟩ := List.mem_map.mp hid
      exact s.db.apiKeys.fresh k (List.mem_filter.mp hk).1

/-- No rotation has found a key that is not stored yet. -/
theorem Remembered.not_revoked (hs : Remembered s h) {platformId : ℕ} :
    ¬ h.Revoked (s.issue platformId tick) := by
  rintro ⟨r, hr, -, hfound⟩
  exact lt_irrefl _ (hs.found r hr _ hfound)

/-- The first key of a new platform. -/
theorem Remembered.onboard {payload : OnboardRequest} (hs : Remembered s h)
    (hcommit : s.db.onboard payload tick = some s'.db) :
    Remembered s' { h with issues := h.issues ++ [s.issue s.db.platforms.next tick] } := by
  have hmem : ∀ k, k ∈ s'.db.apiKeys ↔
      k ∈ s.db.apiKeys ∨ k = newKey s.db.platforms.next tick s.db.apiKeys.next :=
    fun _ => PlatformDb.mem_onboard hcommit
  -- the new key, as its issue describes it
  have hnew : KeyHistory.Describes
      { h with issues := h.issues ++ [s.issue s.db.platforms.next tick] }
      (s.issue s.db.platforms.next tick)
      (newKey s.db.platforms.next tick s.db.apiKeys.next) :=
    ⟨rfl, rfl, rfl, rfl, iff_of_true rfl hs.not_revoked⟩
  refine ⟨?_, ?_, ?_, ?_⟩
  · intro p hp
    rw [(PlatformDb.addKey_eq hcommit).2] at hp
    rcases PlatformDb.mem_addPlatform.mp hp with hold | rfl
    · exact hs.platforms p hold
    · rfl
  · intro k hk
    rcases (hmem k).mp hk with hold | rfl
    · obtain ⟨i, hi, hdescribes⟩ := hs.keys k hold
      exact ⟨i, List.mem_append_left _ hi, ⟨hdescribes.id, hdescribes.platform,
        hdescribes.value, hdescribes.expiry, hdescribes.active⟩⟩
    · exact ⟨_, List.mem_append_right _ List.mem_cons_self, hnew⟩
  · intro i hi
    rcases List.mem_append.mp hi with hold | hlast
    · obtain ⟨k, hk, hdescribes⟩ := hs.issues i hold
      exact ⟨k, (hmem k).mpr (Or.inl hk), ⟨hdescribes.id, hdescribes.platform,
        hdescribes.value, hdescribes.expiry, hdescribes.active⟩⟩
    · obtain rfl := List.mem_singleton.mp hlast
      exact ⟨_, (hmem _).mpr (Or.inr rfl), hnew⟩
  · intro r hr id hid
    have hnext : s'.db.apiKeys.next = s.db.apiKeys.next + 1 :=
      Table.insert_next (PlatformDb.addKey_eq hcommit).1
    have hlt := hs.found r hr id hid
    omega

/-- What one more rotation has revoked. -/
theorem revoked_snoc {issues : List KeyIssue} {rotations : List Rotation} {r : Rotation}
    {i : KeyIssue} : KeyHistory.Revoked ⟨issues, rotations ++ [r]⟩ i ↔
      (∃ r' ∈ rotations, r'.platformId = i.platformId ∧ i.id ∈ r'.found) ∨
        (r.platformId = i.platformId ∧ i.id ∈ r.found) := by
  simp [KeyHistory.Revoked, or_and_right, exists_or]

/-- A rotation deactivates what it has found, and nothing else. -/
theorem KeyHistory.Describes.rotate {platformId : ℕ} {found : List ℕ} {revokedAt : Instant}
    {i : KeyIssue} {k : APIKey} (hk : h.Describes i k) (issues : List KeyIssue) :
    KeyHistory.Describes ⟨issues, h.rotations ++ [⟨platformId, found⟩]⟩ i
      (if k.revocable platformId found then k.revoked revokedAt else k) := by
  cases hrevocable : k.revocable platformId found with
  | true =>
      obtain ⟨⟨hplatform, -⟩, hfound⟩ : (k.platformId = platformId ∧ k.isActive = true) ∧
          k.id ∈ found := by simpa [APIKey.revocable] using hrevocable
      refine ⟨hk.id, hk.platform, hk.value, hk.expiry, iff_of_false (fun h => by cases h) ?_⟩
      intro hlive
      exact hlive (revoked_snoc.mpr
        (Or.inr ⟨hplatform.symm.trans hk.platform, hk.id ▸ hfound⟩))
  | false =>
      refine ⟨hk.id, hk.platform, hk.value, hk.expiry, ?_⟩
      rw [if_neg Bool.false_ne_true, hk.active, revoked_snoc, not_or]
      refine ⟨fun hlive => ⟨hlive, ?_⟩, And.left⟩
      rintro ⟨hplatform, hfound⟩
      have hmeets : k.revocable platformId found = true := by
        have hactive : k.isActive = true := hk.active.mpr hlive
        simp only [APIKey.revocable, hactive, Bool.and_true, Bool.and_eq_true,
          decide_eq_true_eq]
        exact ⟨hk.platform.trans hplatform.symm, hk.id.symm ▸ hfound⟩
      rw [hrevocable] at hmeets
      cases hmeets

/-- A rotation and its record. -/
theorem Remembered.rotate {platformId : ℕ} {found : List ℕ} {revokedAt : Instant}
    (hs : Remembered s h) (hfound : ∀ id ∈ found, id < s.db.apiKeys.next)
    (hcommit : s.db.rotate platformId found revokedAt tick = some s'.db) :
    Remembered s'
      ⟨h.issues ++ [s.issue platformId tick], h.rotations ++ [⟨platformId, found⟩]⟩ := by
  have hmem : ∀ k, k ∈ s'.db.apiKeys ↔
      (∃ k₀ ∈ s.db.apiKeys, k = if k₀.revocable platformId found then k₀.revoked revokedAt
        else k₀) ∨ k = newKey platformId tick s.db.apiKeys.next :=
    fun _ => PlatformDb.mem_rotate hcommit
  -- no rotation has found the key that is about to be inserted
  have hbound : ∀ r ∈ h.rotations ++ [⟨platformId, found⟩], ∀ id ∈ r.found,
      id < s.db.apiKeys.next := by
    intro r hr
    rcases List.mem_append.mp hr with hold | hlast
    · exact hs.found r hold
    · obtain rfl := List.mem_singleton.mp hlast
      exact hfound
  have hnew : KeyHistory.Describes
      ⟨h.issues ++ [s.issue platformId tick], h.rotations ++ [⟨platformId, found⟩]⟩
      (s.issue platformId tick) (newKey platformId tick s.db.apiKeys.next) := by
    refine ⟨rfl, rfl, rfl, rfl, iff_of_true rfl ?_⟩
    rintro ⟨r, hr, -, hmine⟩
    exact lt_irrefl _ (hbound r hr _ hmine)
  refine ⟨?_, ?_, ?_, ?_⟩
  · rw [PlatformDb.rotate_platforms hcommit]
    exact hs.platforms
  · intro k hk
    rcases (hmem k).mp hk with ⟨k₀, hk₀, rfl⟩ | rfl
    · obtain ⟨i, hi, hdescribes⟩ := hs.keys k₀ hk₀
      exact ⟨i, List.mem_append_left _ hi, hdescribes.rotate _⟩
    · exact ⟨_, List.mem_append_right _ List.mem_cons_self, hnew⟩
  · intro i hi
    rcases List.mem_append.mp hi with hold | hlast
    · obtain ⟨k, hk, hdescribes⟩ := hs.issues i hold
      exact ⟨_, (hmem _).mpr (Or.inl ⟨k, hk, rfl⟩), hdescribes.rotate _⟩
    · obtain rfl := List.mem_singleton.mp hlast
      exact ⟨_, (hmem _).mpr (Or.inr rfl), hnew⟩
  · intro r hr id hid
    have hnext := PlatformDb.rotate_next hcommit
    have hlt := hbound r hr id hid
    omega

/-- **One step** keeps the history true. -/
theorem KeyMove.remembered (hmove : KeyMove s h tick t s' h' o) (hs : Remembered s h)
    (ht : FoundStored s t) : Remembered s' h' := by
  cases hmove with
  | ended => exact hs
  | found => exact hs
  | onboarded hcommit => exact hs.onboard hcommit
  | rotated hcommit => exact hs.rotate ht hcommit

end Steps

/-! ## Every run

The invariant holds of every run, and gives the lifetime of each key in it. -/

/-- The outline: the history is true, and rotations in flight have found stored keys. -/
theorem keysOutline : Outline recordedCalls Unguarded (fun s => Remembered s.1 s.2)
    (fun s t => FoundStored s.1 t.1) (fun _ _ => True) where
  opened s request _ := by cases request <;> trivial
  openedCompat _ _ := ⟨trivial, trivial⟩
  global p i t x s' o h ht hadv _ := (recordedCalls_step hadv).remembered h.global (h.each i t ht)
  own p i t x s' t' h ht hadv _ := (recordedCalls_step hadv).foundStored t'.1 rfl
  others p i t x s' o j u h ht hadv _ _ hu := (h.each j u hu).of_move (recordedCalls_step hadv)
  compat _ _ _ _ _ _ _ _ _ _ _ _ _ _ := ⟨trivial, trivial⟩

/-- It is true at the start. -/
theorem Remembered.empty : Remembered PlatformStore.empty KeyHistory.empty where
  platforms _ hp := absurd hp List.not_mem_nil
  keys _ hk := absurd hk List.not_mem_nil
  issues _ hi := absurd hi List.not_mem_nil
  found _ hr := absurd hr List.not_mem_nil

/-- **The lifetime of a key.**  In every run of onboardings and rotations, a key is accepted, as
one of the platform it was issued to, exactly until 90 days after its issue and as long as no
rotation that had found it has committed; and it is called invalid exactly if every key of that
value has been revoked, or none was issued. -/
theorem accepted_key_iff {as : List (PoolAct PlatformCall PlatformTick)}
    {q : Pool (PlatformStore × KeyHistory) (PlatformSession × Unit)}
    (run : Run recordedCalls.machine Unguarded
      (Pool.quiet (PlatformStore.empty, KeyHistory.empty)) as q)
    (keyValue : String) (now : Instant) :
    (∀ p, q.store.1.db.validateKey keyValue now = .ok p ↔
      ∃ i ∈ q.store.2.issues, i.keyValue = keyValue ∧ now ≤ i.expiry ∧
        ¬ q.store.2.Revoked i ∧ p ∈ q.store.1.db.platforms ∧ p.id = i.platformId) ∧
    (q.store.1.db.validateKey keyValue now = .error .invalidKey ↔
      ∀ i ∈ q.store.2.issues, i.keyValue = keyValue → q.store.2.Revoked i) := by
  have hs := (keysOutline.run run (Pool.Meets.quiet Remembered.empty)).global
  refine ⟨fun p => ?_, ?_⟩
  · rw [PlatformDb.validateKey_ok_iff hs.platforms]
    constructor
    -- from the row to its issue, and back
    · rintro ⟨k, hk, hvalue, hactive, hexpiry, hp, hid⟩
      obtain ⟨i, hi, hdescribes⟩ := hs.keys k hk
      exact ⟨i, hi, hdescribes.value.symm.trans hvalue, hexpiry _ hdescribes.expiry,
        hdescribes.active.mp hactive, hp, hid.trans hdescribes.platform⟩
    · rintro ⟨i, hi, hvalue, hexpiry, hlive, hp, hid⟩
      obtain ⟨k, hk, hdescribes⟩ := hs.issues i hi
      refine ⟨k, hk, hdescribes.value.trans hvalue, hdescribes.active.mpr hlive, ?_, hp,
        hid.trans hdescribes.platform.symm⟩
      intro expiry hsome
      rw [hdescribes.expiry] at hsome
      exact Option.some.inj hsome ▸ hexpiry
  · rw [PlatformDb.validateKey_invalid_iff]
    constructor
    · intro hnone i hi hvalue
      obtain ⟨k, hk, hdescribes⟩ := hs.issues i hi
      have hinactive := hnone k hk (hdescribes.value.trans hvalue)
      by_contra hlive
      rw [hdescribes.active.mpr hlive] at hinactive
      cases hinactive
    · intro hrevoked k hk hvalue
      obtain ⟨i, hi, hdescribes⟩ := hs.keys k hk
      by_contra hactive
      exact hdescribes.active.mp (Bool.not_eq_false _ ▸ hactive)
        (hrevoked i hi (hdescribes.value.symm.trans hvalue))

/-- A platform is onboarded and rotates its key a minute later. -/
def rotatedOnce : List (PoolAct PlatformCall PlatformTick) :=
  keyOnboarded ++ [.begin 1 (.rotate 0), rotationStep 1 "", rotationStep 1 "afm_live_k1"]

/-- The platform as it was onboarded. -/
def acme : Platform := ⟨0, "Acme", "ops@acme.example", none, true⟩

/-- The statement on a rotation: the second key is accepted, and the first one revoked. -/
theorem accepted_key_iff_rotated : ∃ q,
    Run recordedCalls.machine Unguarded (Pool.quiet (PlatformStore.empty, KeyHistory.empty))
      rotatedOnce q ∧
    (∃ i ∈ q.store.2.issues, i.keyValue = "afm_live_k1" ∧ hours (24 * 90) ≤ i.expiry ∧
      ¬ q.store.2.Revoked i ∧ acme ∈ q.store.1.db.platforms ∧ acme.id = i.platformId) ∧
    ∀ i ∈ q.store.2.issues, i.keyValue = "afm_live_k0" → q.store.2.Revoked i := by
  have hcheck : (recordedCalls.machine.check (fun _ _ => true)
      (Pool.quiet (PlatformStore.empty, KeyHistory.empty)) rotatedOnce).map (fun q =>
        (q.store.1.db.validateKey "afm_live_k1" (hours (24 * 90)),
          q.store.1.db.validateKey "afm_live_k0" (hours (24 * 90)))) =
      some (.ok acme, .error .invalidKey) := by
    decide +kernel
  obtain ⟨q, hq, hseen⟩ := Option.map_eq_some_iff.mp hcheck
  obtain ⟨haccepted, hinvalid⟩ := Prod.mk.inj hseen
  have run := (Run.of_check hq).unguarded
  exact ⟨q, run, ((accepted_key_iff run "afm_live_k1" (hours (24 * 90))).1 acme).mp haccepted,
    (accepted_key_iff run "afm_live_k0" (hours (24 * 90))).2.mp hinvalid⟩

end AfricaFrontier.PlatformManager
