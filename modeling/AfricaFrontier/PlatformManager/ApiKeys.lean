import AfricaFrontier.Payments.Models
import AfricaFrontier.Lib.Pool

/-!
# The API keys of a platform

`PlatformService.rotate_key` deactivates the active keys of a platform with one `UPDATE`
and then inserts a new one.  Under READ COMMITTED the `UPDATE` works on the rows that are
committed when it begins: a row another rotation is about to change is waited for and
looked at again, but a row another rotation inserts meanwhile is not seen.  The rows it
changes are locked until the rotation commits, so that a rotation is two steps here: the
`UPDATE` begins, and the rotation commits, deactivating what it saw and is still active.

Nothing else keeps a platform to one key.  `coversActive` says of a rotation about to commit
that it saw every key that is active then, and `one_live_key_iff` that a platform has at
most one active key throughout a run exactly if every rotation of the run does.

The module has four layers.

* The tables carry their constraints in their types: a key value is unique, and a key belongs to a
  stored platform.
* `onboard` and `rotate` are transactions on the tables, `validate_key` a read.
* The calls in flight are the sessions of a pool; what a rotation has found is in its session.
* `PlatformMove` says once what a step can do, and the step lemma and the run lemma follow it.

The property is stated on what rotations have returned: a caller that holds a new key expects that
none of the earlier ones is accepted any more. A run that meets the condition has that
(`PlatformStore.Superseded.oneLiveKey`), and one that does not has two active keys at once.
-/

namespace AfricaFrontier.PlatformManager

open Relational Transition

/-! ## The tables

Two tables, and the constraint between them. -/

/-- A row of `platforms`. -/
structure Platform where
  id : ℕ
  name : String
  contactEmail : String
  webhookUrl : Option String
  isActive : Bool := true
  deriving DecidableEq

/-- A row of `api_keys`. -/
structure APIKey where
  id : ℕ
  platformId : ℕ
  keyValue : String
  secretHash : String
  isActive : Bool := true
  expiresAt : Option Instant
  revokedAt : Option Instant := none
  deriving DecidableEq

/-- The columns of a key that a constraint speaks about. -/
structure APIKeyKey where
  id : ℕ
  keyValue : String
  deriving DecidableEq

instance : Row Platform where
  Key := ℕ
  key r := r.id
  primary := id
  Clash _ _ := False
  decClash _ _ := inferInstance

instance : Row APIKey where
  Key := APIKeyKey
  key r := ⟨r.id, r.keyValue⟩
  primary := APIKeyKey.id
  Clash a b := a.keyValue = b.keyValue
  decClash _ _ := inferInstance

@[simp] theorem Platform.ident_eq (r : Platform) : ident r = r.id := rfl

@[simp] theorem APIKey.ident_eq (r : APIKey) : ident r = r.id := rfl

/-- The committed state of the two tables. -/
structure PlatformDb where
  platforms : Table Platform
  apiKeys : Table APIKey
  /-- The foreign key of `api_keys`. -/
  owned : ∀ k ∈ apiKeys, ∃ p ∈ platforms, p.id = k.platformId

def PlatformDb.empty : PlatformDb where
  platforms := Table.empty
  apiKeys := Table.empty
  owned := fun k hk => absurd hk (List.not_mem_nil (a := k))

/-! ## Onboarding and rotation

What the two calls commit, and how it may fail: on a value that is taken, on a platform that is
not stored. -/

/-- The environment's part in a step: the clock, whether the database fails, and the key and
the secret that are drawn. -/
structure PlatformTick where
  now : Instant
  fault : Bool := false
  keyValue : String := ""
  secret : String := ""

/-- The body of `POST /platforms`. -/
structure OnboardRequest where
  name : String
  contactEmail : String
  webhookUrl : Option String := none

/-- `KEY_VALIDITY_DAYS`. -/
def keyValidityDays : ℤ := 90

/-- The key that is issued to a platform. -/
def newKey (platformId : ℕ) (tick : PlatformTick) (id : ℕ) : APIKey where
  id := id
  platformId := platformId
  keyValue := tick.keyValue
  secretHash := tick.secret
  expiresAt := some (tick.now + hours (24 * keyValidityDays))

/-- The platform that is inserted. -/
def OnboardRequest.newPlatform (payload : OnboardRequest) (id : ℕ) : Platform where
  id := id
  name := payload.name
  contactEmail := payload.contactEmail
  webhookUrl := payload.webhookUrl

/-- Insert a key for a stored platform; `none` if another key has its value. -/
def PlatformDb.addKey (db : PlatformDb) (platformId : ℕ) (tick : PlatformTick)
    (hstored : ∃ p ∈ db.platforms, p.id = platformId) : Option PlatformDb :=
  match h : db.apiKeys.insert (newKey platformId tick) (fun _ => rfl) with
  | none => none
  | some apiKeys =>
      some
        { db with
          apiKeys := apiKeys
          owned := by
            intro k hk
            rcases (Table.mem_insert h).mp hk with hold | rfl
            · exact db.owned k hold
            · exact hstored }

/-- Insert a platform. -/
def PlatformDb.addPlatform (db : PlatformDb) (payload : OnboardRequest) : PlatformDb where
  platforms := db.platforms.add payload.newPlatform (fun _ => rfl) (fun _ _ => id)
  apiKeys := db.apiKeys
  owned := by
    intro k hk
    obtain ⟨p, hp, hid⟩ := db.owned k hk
    exact ⟨p, (Table.mem_insert (Table.add_eq _ _ _ _)).mpr (Or.inl hp), hid⟩

/-- The platforms, with the new one. -/
theorem PlatformDb.mem_addPlatform {db : PlatformDb} {payload : OnboardRequest} {p : Platform} :
    p ∈ (db.addPlatform payload).platforms ↔
      p ∈ db.platforms ∨ p = payload.newPlatform db.platforms.next :=
  Table.mem_insert (Table.add_eq db.platforms payload.newPlatform (fun _ => rfl) fun _ _ => id)

/-- `onboard_platform`: the platform and its first key are committed together. -/
def PlatformDb.onboard (db : PlatformDb) (payload : OnboardRequest) (tick : PlatformTick) :
    Option PlatformDb :=
  (db.addPlatform payload).addKey db.platforms.next tick
    ⟨_, PlatformDb.mem_addPlatform.mpr (Or.inr rfl), rfl⟩

/-- The active keys of a platform, as the `UPDATE` of a rotation finds them. -/
def PlatformDb.activeKeys (db : PlatformDb) (platformId : ℕ) : List ℕ :=
  (db.apiKeys.rows.filter fun k => decide (k.platformId = platformId) && k.isActive).map APIKey.id

/-- What the `UPDATE` makes of a key. -/
def APIKey.revoked (k : APIKey) (now : Instant) : APIKey :=
  { k with isActive := false, revokedAt := some now }

/-- Deactivating a key leaves its columns with constraints alone. -/
theorem APIKey.key_revoked (now : Instant) (k : APIKey) :
    Row.key (k.revoked now) = Row.key k := rfl

/-- The keys the `UPDATE` changes: it found them, and they still meet its condition. -/
def APIKey.revocable (platformId : ℕ) (found : List ℕ) (k : APIKey) : Bool :=
  decide (k.platformId = platformId) && k.isActive && decide (k.id ∈ found)

/-- The `UPDATE` of a rotation that found these keys. -/
def PlatformDb.revoke (db : PlatformDb) (platformId : ℕ) (found : List ℕ) (now : Instant) :
    PlatformDb where
  platforms := db.platforms
  apiKeys := db.apiKeys.update (APIKey.revocable platformId found) (fun k => k.revoked now)
    (APIKey.key_revoked now)
  owned := by
    intro k hk
    obtain ⟨k₀, hk₀, rfl⟩ := (Table.mem_update (APIKey.key_revoked now)).mp hk
    split
    · exact db.owned k₀ hk₀
    · exact db.owned k₀ hk₀

/-- What a rotation commits; `none` where the platform is not stored, or another key has the
value that was drawn. -/
def PlatformDb.rotate (db : PlatformDb) (platformId : ℕ) (found : List ℕ) (revokedAt : Instant)
    (tick : PlatformTick) : Option PlatformDb :=
  if hstored : ∃ p ∈ db.platforms.rows, p.id = platformId then
    (db.revoke platformId found revokedAt).addKey platformId tick hstored
  else none

/-! ## Validation

The read looks for an active key with the value, at its expiry, and at its platform. -/

/-- Why a key is refused. -/
inductive KeyError
  | invalidKey
  | expired (expiresAt : Instant)
  | platformInactive
  deriving DecidableEq, Repr

/-- `str(error)`, with the expiry as it is given there. -/
def KeyError.text (isoformat : Instant → String) : KeyError → String
  | .invalidKey => "Invalid API key"
  | .expired expiresAt => "API key expired on " ++ isoformat expiresAt
  | .platformInactive => "Platform not found or inactive"

/-- `validate_key`: the active key with the value, its expiry, and its platform, in this order. -/
def PlatformDb.validateKey (db : PlatformDb) (keyValue : String) (now : Instant) :
    Except KeyError Platform :=
  match db.apiKeys.rows.find? fun k => decide (k.keyValue = keyValue) && k.isActive with
  | none => .error .invalidKey
  | some k =>
      match k.expiresAt.filter (fun expiry => decide (expiry < now)) with
      | some expiry => .error (.expired expiry)
      | none =>
          match db.platforms.get k.platformId with
          | none => .error .platformInactive
          | some p => if p.isActive then .ok p else .error .platformInactive

/-! ## Calls in flight

A rotation is in two places: before its `UPDATE`, and between that and its commit. -/

/-- The database, and the keys that rotations have returned, which no code reads. A returned key
has been inserted, so its id is below the next one. -/
structure PlatformStore where
  db : PlatformDb
  rotated : List APIKey
  issued : ∀ k ∈ rotated, k.id < db.apiKeys.next

/-- Before the first call. -/
def PlatformStore.empty : PlatformStore where
  db := PlatformDb.empty
  rotated := []
  issued := fun k hk => absurd hk (List.not_mem_nil (a := k))

/-- A call of `onboard_platform` or `rotate_key`. -/
inductive PlatformCall
  | onboard (payload : OnboardRequest)
  | rotate (platformId : ℕ)

/-- Where a call stands. -/
inductive PlatformSession
  | onboarding (payload : OnboardRequest)
  | rotating (platformId : ℕ)
  /-- The `UPDATE` of the rotation has found these keys. -/
  | revoking (platformId : ℕ) (found : List ℕ) (revokedAt : Instant)

/-- An added key is the one new row of the keys. -/
theorem PlatformDb.addKey_eq {db db' : PlatformDb} {platformId : ℕ} {tick : PlatformTick}
    {hstored : ∃ p ∈ db.platforms, p.id = platformId}
    (h : db.addKey platformId tick hstored = some db') :
    db.apiKeys.insert (newKey platformId tick) (fun _ => rfl) = some db'.apiKeys ∧
      db'.platforms = db.platforms := by
  unfold PlatformDb.addKey at h
  split at h
  · cases h
  · rename_i apiKeys hinsert
    cases h
    exact ⟨hinsert, rfl⟩

/-- A rotation is its `UPDATE` and then its insert. -/
theorem PlatformDb.rotate_eq {db db' : PlatformDb} {platformId : ℕ} {found : List ℕ}
    {revokedAt : Instant} {tick : PlatformTick}
    (h : db.rotate platformId found revokedAt tick = some db') :
    (db.revoke platformId found revokedAt).apiKeys.insert (newKey platformId tick)
        (fun _ => rfl) = some db'.apiKeys := by
  unfold PlatformDb.rotate at h
  split at h
  · exact (PlatformDb.addKey_eq h).1
  · cases h

/-- A rotation takes one id. -/
theorem PlatformDb.rotate_next {db db' : PlatformDb} {platformId : ℕ} {found : List ℕ}
    {revokedAt : Instant} {tick : PlatformTick}
    (h : db.rotate platformId found revokedAt tick = some db') :
    db'.apiKeys.next = db.apiKeys.next + 1 := by
  have hnext := Table.insert_next (PlatformDb.rotate_eq h)
  exact hnext

/-- A call of `onboard_platform` commits, or leaves nothing behind. -/
def PlatformStore.onboard (s : PlatformStore) (payload : OnboardRequest) (tick : PlatformTick) :
    PlatformStore :=
  match h : s.db.onboard payload tick with
  | none => s
  | some db =>
      { s with
        db := db
        issued := by
          intro k hk
          have hnext : db.apiKeys.next = s.db.apiKeys.next + 1 :=
            Table.insert_next (PlatformDb.addKey_eq h).1
          have hlt : k.id < s.db.apiKeys.next := s.issued k hk
          omega }

/-- A rotation commits and returns its key, or leaves nothing behind. -/
def PlatformStore.rotate (s : PlatformStore) (platformId : ℕ) (found : List ℕ)
    (revokedAt : Instant) (tick : PlatformTick) : PlatformStore :=
  match h : s.db.rotate platformId found revokedAt tick with
  | none => s
  | some db =>
      { db := db
        rotated := s.rotated ++ [newKey platformId tick s.db.apiKeys.next]
        issued := by
          intro k hk
          have hnext : db.apiKeys.next = s.db.apiKeys.next + 1 :=
            PlatformDb.rotate_next h
          rcases List.mem_append.mp hk with hold | hnew
          · have hlt : k.id < s.db.apiKeys.next := s.issued k hold
            omega
          · obtain rfl := List.mem_singleton.mp hnew
            show s.db.apiKeys.next < db.apiKeys.next
            omega }

/-- The next step of a call, where the database does not fail. A rotation commits once, but its
`UPDATE` sees the keys of the moment at which it runs. -/
def PlatformSession.step (s : PlatformStore) (tick : PlatformTick) :
    PlatformSession → PlatformStore × Option PlatformSession
  | .onboarding payload => (s.onboard payload tick, none)
  | .rotating platformId =>
      (s, some (.revoking platformId (s.db.activeKeys platformId) tick.now))
  | .revoking platformId found revokedAt => (s.rotate platformId found revokedAt tick, none)

/-- Calls of `onboard_platform` and `rotate_key`; where the database fails, a call ends and
what it did is rolled back. -/
def platformCalls : Sessions PlatformStore PlatformCall PlatformSession PlatformTick where
  init
    | .onboard payload => .onboarding payload
    | .rotate platformId => .rotating platformId
  advance s t tick := some (if tick.fault then (s, none) else t.step s tick)

/-! ## The property and its condition

The property is about a state, the condition about the step that leads to it. -/

/-- A platform has at most one active key. -/
def PlatformDb.OneActive (db : PlatformDb) : Prop :=
  ∀ k ∈ db.apiKeys, ∀ k' ∈ db.apiKeys, k.platformId = k'.platformId →
    k.isActive = true → k'.isActive = true → k = k'

/-- **At most one live key**: a platform has at most one active key, and a key that was
issued to it before one that a rotation has returned is not accepted. -/
structure OneLiveKey (s : PlatformStore) : Prop where
  one : s.db.OneActive
  retired : ∀ new ∈ s.rotated, ∀ k ∈ s.db.apiKeys, k.platformId = new.platformId →
    k.id < new.id → ∀ now p, s.db.validateKey k.keyValue now ≠ .ok p

/-- The rotation can be committed: its platform is stored, and no key has the value that was
drawn for the new one. -/
structure Rotates (db : PlatformDb) (platformId : ℕ) (tick : PlatformTick) : Prop where
  stored : ∃ p ∈ db.platforms, p.id = platformId
  drawn : ∀ k ∈ db.apiKeys, k.keyValue ≠ tick.keyValue

/-- The rotation has found every key of its platform that is active. -/
def PlatformDb.Covered (db : PlatformDb) (platformId : ℕ) (found : List ℕ) : Prop :=
  ∀ k ∈ db.apiKeys, k.platformId = platformId → k.isActive = true → k.id ∈ found

/-- The condition on a step: a rotation that commits has found every key of its platform that
is active now. -/
def coversActive (s : PlatformStore) (t : PlatformSession) (tick : PlatformTick) : Prop :=
  ∀ platformId found revokedAt, t = .revoking platformId found revokedAt →
    tick.fault = false → Rotates s.db platformId tick → s.db.Covered platformId found

/-! ## What the operations do to the keys

Membership in the tables after each operation, and from that the number of active keys. -/

section Keys

variable {db db' : PlatformDb} {platformId : ℕ} {tick : PlatformTick}

/-- A key that is not active is not accepted. -/
theorem PlatformDb.validateKey_inactive {k : APIKey} (hk : k ∈ db.apiKeys)
    (hinactive : k.isActive = false) (now : Instant) (p : Platform) :
    db.validateKey k.keyValue now ≠ .ok p := by
  have hnone : (db.apiKeys.rows.find? fun r =>
      decide (r.keyValue = k.keyValue) && r.isActive) = none := by
    refine List.find?_eq_none.mpr fun r hr hmatch => ?_
    obtain ⟨hvalue, hactive⟩ : r.keyValue = k.keyValue ∧ r.isActive = true := by
      simpa using hmatch
    obtain rfl : r = k := Table.eq_of_clash hr hk (fun _ _ => Eq.symm) hvalue
    rw [hinactive] at hactive
    cases hactive
  rw [PlatformDb.validateKey, hnone]
  exact fun h => by cases h

/-- A key is added unless another key has its value. -/
theorem PlatformDb.exists_addKey (hstored : ∃ p ∈ db.platforms, p.id = platformId)
    (hdrawn : ∀ k ∈ db.apiKeys, k.keyValue ≠ tick.keyValue) :
    ∃ db', db.addKey platformId tick hstored = some db' := by
  obtain ⟨apiKeys, hinsert⟩ :=
    Table.exists_insert (newKey platformId tick) (fun _ => rfl) hdrawn
  unfold PlatformDb.addKey
  split
  · rename_i hrefused
    rw [hinsert] at hrefused
    cases hrefused
  · exact ⟨_, rfl⟩

/-- The keys once a platform is onboarded. -/
theorem PlatformDb.mem_onboard {payload : OnboardRequest} (h : db.onboard payload tick = some db')
    {k : APIKey} :
    k ∈ db'.apiKeys ↔
      k ∈ db.apiKeys ∨ k = newKey db.platforms.next tick db.apiKeys.next :=
  Table.mem_insert (PlatformDb.addKey_eq h).1

/-- The keys after the `UPDATE`. -/
theorem PlatformDb.mem_revoke {found : List ℕ} {now : Instant} {k : APIKey} :
    k ∈ (db.revoke platformId found now).apiKeys ↔
      ∃ k₀ ∈ db.apiKeys, k = if k₀.revocable platformId found then k₀.revoked now else k₀ :=
  Table.mem_update (APIKey.key_revoked now)

/-- The keys after a rotation. -/
theorem PlatformDb.mem_rotate {found : List ℕ} {revokedAt : Instant}
    (h : db.rotate platformId found revokedAt tick = some db') {k : APIKey} :
    k ∈ db'.apiKeys ↔
      (∃ k₀ ∈ db.apiKeys, k = if k₀.revocable platformId found then k₀.revoked revokedAt
        else k₀) ∨ k = newKey platformId tick db.apiKeys.next := by
  have hmem := Table.mem_insert (PlatformDb.rotate_eq h) (r := k)
  exact hmem.trans (or_congr_left PlatformDb.mem_revoke)

/-- A rotation whose platform is stored and whose key is new can be committed. -/
theorem Rotates.exists_rotate (h : Rotates db platformId tick) (found : List ℕ)
    (revokedAt : Instant) : ∃ db', db.rotate platformId found revokedAt tick = some db' := by
  unfold PlatformDb.rotate
  split
  · refine PlatformDb.exists_addKey _ ?_
    intro k hk
    obtain ⟨k₀, hk₀, rfl⟩ := PlatformDb.mem_revoke.mp hk
    split
    · exact h.drawn k₀ hk₀
    · exact h.drawn k₀ hk₀
  · rename_i hunknown
    exact absurd h.stored hunknown

/-- A rotation that is committed had its platform stored and a new key. -/
theorem PlatformDb.rotates_of_rotate {found : List ℕ} {revokedAt : Instant}
    (h : db.rotate platformId found revokedAt tick = some db') :
    Rotates db platformId tick := by
  have hclash := Table.not_clash_of_insert (PlatformDb.rotate_eq h)
  unfold PlatformDb.rotate at h
  split at h
  · rename_i hstored
    refine ⟨hstored, fun k hk hvalue => ?_⟩
    have hkept : (if k.revocable platformId found then k.revoked revokedAt else k) ∈
        (db.revoke platformId found revokedAt).apiKeys :=
      PlatformDb.mem_revoke.mpr ⟨k, hk, rfl⟩
    refine hclash _ hkept ?_
    have hsame : (if k.revocable platformId found then k.revoked revokedAt else k).keyValue =
        k.keyValue := by
      split
      · rfl
      · rfl
    exact hsame.trans hvalue
  · cases h

/-- A key a rotation leaves active was active before, and the rotation had not found it. -/
theorem APIKey.active_of_revocable {found : List ℕ} {revokedAt : Instant} {k₀ k : APIKey}
    (hk : k = if k₀.revocable platformId found then k₀.revoked revokedAt else k₀)
    (hactive : k.isActive = true) :
    k = k₀ ∧ (k₀.platformId = platformId → k₀.id ∉ found) := by
  split at hk
  · rw [hk] at hactive
    cases hactive
  · rename_i hkept
    subst hk
    refine ⟨rfl, fun hplatform hfound => hkept ?_⟩
    simp [APIKey.revocable, hplatform, hactive, hfound]

/-- The key of a new platform is alone. -/
theorem PlatformDb.OneActive.onboard {payload : OnboardRequest} (hone : db.OneActive)
    (h : db.onboard payload tick = some db') : db'.OneActive := by
  have hforeign : ∀ k ∈ db.apiKeys, k.platformId ≠ db.platforms.next := by
    intro k hk hplatform
    obtain ⟨p, hp, hid⟩ := db.owned k hk
    have hlt : p.id < db.platforms.next := db.platforms.fresh p hp
    omega
  intro k hk k' hk' hsame hactive hactive'
  rcases (PlatformDb.mem_onboard h).mp hk with hold | rfl
  · rcases (PlatformDb.mem_onboard h).mp hk' with hold' | rfl
    · exact hone k hold k' hold' hsame hactive hactive'
    · exact absurd hsame (hforeign k hold)
  · rcases (PlatformDb.mem_onboard h).mp hk' with hold' | rfl
    · exact absurd hsame.symm (hforeign k' hold')
    · rfl

/-- A rotation leaves its platform one active key exactly if it had found all of them. -/
theorem PlatformDb.OneActive.rotate_iff {found : List ℕ} {revokedAt : Instant}
    (hone : db.OneActive) (h : db.rotate platformId found revokedAt tick = some db') :
    db'.OneActive ↔ db.Covered platformId found := by
  have hmem : ∀ k, k ∈ db'.apiKeys ↔
      (∃ k₀ ∈ db.apiKeys, k = if k₀.revocable platformId found then k₀.revoked revokedAt
        else k₀) ∨ k = newKey platformId tick db.apiKeys.next := fun _ => PlatformDb.mem_rotate h
  constructor
  · intro hafter k hk hplatform hactive
    by_contra hmissed
    have hkept : k ∈ db'.apiKeys := by
      refine (hmem k).mpr (Or.inl ⟨k, hk, ?_⟩)
      rw [if_neg]
      simp [APIKey.revocable, hmissed]
    have heq : k = newKey platformId tick db.apiKeys.next :=
      hafter k hkept _ ((hmem _).mpr (Or.inr rfl)) hplatform hactive rfl
    have hlt : k.id < db.apiKeys.next := db.apiKeys.fresh k hk
    rw [heq] at hlt
    exact lt_irrefl _ hlt
  · intro hcovered
    -- the keys that stay active are those of other platforms
    have hothers : ∀ k₀ ∈ db.apiKeys, k₀.isActive = true →
        (k₀.platformId = platformId → k₀.id ∉ found) → k₀.platformId ≠ platformId :=
      fun k₀ hk₀ hactive hmissed hplatform =>
        hmissed hplatform (hcovered k₀ hk₀ hplatform hactive)
    intro k hk k' hk' hsame hactive hactive'
    rcases (hmem k).mp hk with ⟨k₀, hk₀, hkept⟩ | rfl
    · obtain ⟨rfl, hmissed⟩ := APIKey.active_of_revocable hkept hactive
      rcases (hmem k').mp hk' with ⟨k₁, hk₁, hkept'⟩ | rfl
      · obtain ⟨rfl, -⟩ := APIKey.active_of_revocable hkept' hactive'
        exact hone k hk₀ k' hk₁ hsame hactive hactive'
      · exact absurd hsame (hothers k hk₀ hactive hmissed)
    · rcases (hmem k').mp hk' with ⟨k₁, hk₁, hkept'⟩ | rfl
      · obtain ⟨rfl, hmissed'⟩ := APIKey.active_of_revocable hkept' hactive'
        exact absurd hsame.symm (hothers k' hk₁ hactive' hmissed')
      · rfl

end Keys

/-! ## Steps

Three kinds of steps, with what each leaves of the keys. -/

/-- What a step does to the store. -/
inductive PlatformMove (s : PlatformStore) (t : PlatformSession) (tick : PlatformTick)
    (s' : PlatformStore) : Prop
  | stays (hsame : s' = s) (hcovers : coversActive s t tick)
  | onboards (payload : OnboardRequest) (hphase : t = .onboarding payload)
      (hcommit : s.db.onboard payload tick = some s'.db) (hlog : s'.rotated = s.rotated)
  | rotates (platformId : ℕ) (found : List ℕ) (revokedAt : Instant)
      (hphase : t = .revoking platformId found revokedAt) (hfault : tick.fault = false)
      (hcommit : s.db.rotate platformId found revokedAt tick = some s'.db)
      (hlog : s'.rotated = s.rotated ++ [newKey platformId tick s.db.apiKeys.next])

section Moves

variable {s s' : PlatformStore} {t : PlatformSession} {tick : PlatformTick}

/-- Onboarding is one of the moves. -/
theorem PlatformStore.onboard_move {payload : OnboardRequest} :
    PlatformMove s (.onboarding payload) tick (s.onboard payload tick) := by
  unfold PlatformStore.onboard
  split
  · exact .stays rfl fun _ _ _ hphase => by cases hphase
  · rename_i db hcommit
    exact .onboards payload rfl hcommit rfl

/-- The commit of a rotation is one of the moves. -/
theorem PlatformStore.rotate_move {platformId : ℕ} {found : List ℕ} {revokedAt : Instant}
    (hfault : tick.fault = false) :
    PlatformMove s (.revoking platformId found revokedAt) tick
      (s.rotate platformId found revokedAt tick) := by
  unfold PlatformStore.rotate
  split
  · rename_i hrefused
    refine .stays rfl ?_
    rintro _ _ _ ⟨⟩ - hrotates
    obtain ⟨db', hcommit⟩ := hrotates.exists_rotate found revokedAt
    rw [hrefused] at hcommit
    cases hcommit
  · rename_i db hcommit
    exact .rotates platformId found revokedAt rfl hfault hcommit rfl

/-- Every step of a session is one of the moves. -/
theorem platformCalls_move {o : Option PlatformSession}
    (h : platformCalls.advance s t tick = some (s', o)) : PlatformMove s t tick s' := by
  have hstep : (if tick.fault then (s, none) else t.step s tick) = (s', o) := Option.some.inj h
  split at hstep
  · rename_i hfault
    cases hstep
    exact .stays rfl fun _ _ _ _ havailable => by simp [hfault] at havailable
  · rename_i hfault
    have havailable : tick.fault = false := by simpa using hfault
    cases t with
    | onboarding payload =>
        cases hstep
        exact PlatformStore.onboard_move
    | rotating platformId =>
        cases hstep
        exact .stays rfl fun _ _ _ hphase => by cases hphase
    | revoking platformId found revokedAt =>
        cases hstep
        exact PlatformStore.rotate_move havailable

/-- A step keeps a platform to one active key exactly if it meets the condition. -/
theorem PlatformMove.exact (move : PlatformMove s t tick s') (hone : s.db.OneActive) :
    coversActive s t tick ↔ s'.db.OneActive := by
  cases move with
  | stays hsame hcovers =>
      rw [hsame]
      exact iff_of_true hcovers hone
  | onboards payload hphase hcommit hlog =>
      subst hphase
      exact iff_of_true (fun _ _ _ hphase => by cases hphase) (hone.onboard hcommit)
  | rotates platformId found revokedAt hphase hfault hcommit hlog =>
      subst hphase
      rw [hone.rotate_iff hcommit]
      constructor
      · intro hcovers
        exact hcovers platformId found revokedAt rfl hfault
          (PlatformDb.rotates_of_rotate hcommit)
      · rintro hcovered _ _ _ ⟨⟩ - -
        exact hcovered

/-- Every key that was issued to a platform before one that a rotation has returned is
inactive. -/
def PlatformStore.Superseded (s : PlatformStore) : Prop :=
  ∀ new ∈ s.rotated, ∀ k ∈ s.db.apiKeys, k.platformId = new.platformId → k.id < new.id →
    k.isActive = false

/-- A step that meets the condition leaves no earlier key active. -/
theorem PlatformMove.superseded (move : PlatformMove s t tick s')
    (hcovers : coversActive s t tick) (h : s.Superseded) : s'.Superseded := by
  cases move with
  | stays hsame _ =>
      rw [hsame]
      exact h
  | onboards payload hphase hcommit hlog =>
      intro new hnew k hk hplatform hearlier
      rw [hlog] at hnew
      rcases (PlatformDb.mem_onboard hcommit).mp hk with hold | rfl
      · exact h new hnew k hold hplatform hearlier
      · have hlt : new.id < s.db.apiKeys.next := s.issued new hnew
        have hge : s.db.apiKeys.next < new.id := hearlier
        omega
  | rotates platformId found revokedAt hphase hfault hcommit hlog =>
      have hcovered : s.db.Covered platformId found :=
        hcovers platformId found revokedAt hphase hfault (PlatformDb.rotates_of_rotate hcommit)
      intro new hnew k hk hplatform hearlier
      have hle : new.id ≤ s.db.apiKeys.next := by
        rw [hlog] at hnew
        rcases List.mem_append.mp hnew with hold | hlast
        · exact le_of_lt (s.issued new hold)
        · rw [List.mem_singleton.mp hlast]
          exact le_refl _
      rcases (PlatformDb.mem_rotate hcommit).mp hk with ⟨k₀, hk₀, hkept⟩ | rfl
      · -- a key that is still active was active before, and not among those that were found
        by_contra hlive
        have hactive : k.isActive = true := by simpa using hlive
        obtain ⟨rfl, hmissed⟩ := APIKey.active_of_revocable hkept hactive
        rw [hlog] at hnew
        rcases List.mem_append.mp hnew with hold | hlast
        · exact hlive (h new hold k hk₀ hplatform hearlier)
        · rw [List.mem_singleton.mp hlast] at hplatform
          exact hmissed hplatform (hcovered k hk₀ hplatform hactive)
      · have hlt : s.db.apiKeys.next < new.id := hearlier
        omega

end Moves

/-! ## Runs

Both directions are inductions over the run, on the step that is the last one. -/

/-- With no key active beside the last one, none of the earlier ones is accepted. -/
theorem PlatformStore.Superseded.oneLiveKey {s : PlatformStore} (h : s.Superseded)
    (hone : s.db.OneActive) : OneLiveKey s where
  one := hone
  retired := fun new hnew k hk hplatform hearlier =>
    PlatformDb.validateKey_inactive hk (h new hnew k hk hplatform hearlier)

/-- Nothing is active before the first call. -/
theorem PlatformStore.empty_oneActive : PlatformStore.empty.db.OneActive :=
  fun k hk => absurd hk (List.not_mem_nil (a := k))

/-- A platform has at most one live key throughout a run exactly if every rotation of the run
had found, when it commits, all the keys of its platform that are active. -/
theorem one_live_key_iff {as : List (PoolAct PlatformCall PlatformTick)}
    {p : Pool PlatformStore PlatformSession}
    (run : Run platformCalls.machine Unguarded (Pool.quiet PlatformStore.empty) as p) :
    Run platformCalls.machine (Pool.StepMeets coversActive) (Pool.quiet PlatformStore.empty) as
        p ↔
      ∀ front back mid, as = front ++ back →
        Run platformCalls.machine Unguarded (Pool.quiet PlatformStore.empty) front mid →
          OneLiveKey mid.store := by
  have hexact : ∀ s t tick s' o, platformCalls.advance s t tick = some (s', o) →
      s.db.OneActive → (coversActive s t tick ↔ s'.db.OneActive) :=
    fun s t tick s' o hadv hone => (platformCalls_move hadv).exact hone
  have hiff := run.guarded_iff_store hexact PlatformStore.empty_oneActive
  constructor
  · rintro guarded front back mid rfl hfront
    obtain ⟨reached, hfront', -⟩ := guarded.split
    obtain rfl := hfront'.functional hfront
    have hone : reached.store.db.OneActive := hiff.mp guarded front back reached rfl hfront
    have hstart : (Pool.quiet PlatformStore.empty :
        Pool PlatformStore PlatformSession).store.Superseded :=
      fun new hnew => absurd hnew (List.not_mem_nil (a := new))
    -- that no earlier key is accepted needs the log of rotations, hence an invariant of its own
    have keeps : ∀ q a q', platformCalls.machine.step q a = some q' →
        Pool.StepMeets coversActive q a → q.store.Superseded → q'.store.Superseded := by
      intro q a q' hstep hguard hq
      rcases Pool.step_cases hstep with ⟨-, hstore⟩ | ⟨i, x, t, s', o, rfl, ht, hadv, rfl⟩
      · rw [hstore]
        exact hq
      · exact (platformCalls_move hadv).superseded (hguard i x t rfl ht) hq
    exact (hfront'.preserves keeps hstart).oneLiveKey hone
  · intro hall
    exact hiff.mpr fun front back mid hsplit hfront => (hall front back mid hsplit hfront).one

/-- A platform is onboarded. -/
def keyOnboarded : List (PoolAct PlatformCall PlatformTick) :=
  [.begin 0 (.onboard ⟨"Acme", "ops@acme.example", none⟩),
    .advance 0 { now := 0, keyValue := "afm_live_k0" }]

/-- The next step of the rotation `i`, which draws this key. -/
def rotationStep (i : ℕ) (keyValue : String) : PoolAct PlatformCall PlatformTick :=
  .advance i { now := seconds 60, keyValue := keyValue }

/-- A key with its platform and whether it is active. -/
def APIKey.summary (k : APIKey) : String × ℕ × Bool := (k.keyValue, k.platformId, k.isActive)

/-- A test of the condition. -/
def coversTest (s : PlatformStore) (t : PlatformSession) (_ : PlatformTick) : Bool :=
  match t with
  | .revoking platformId found _ =>
      s.db.apiKeys.rows.all fun k =>
        !(decide (k.platformId = platformId) && k.isActive) || decide (k.id ∈ found)
  | _ => true

/-- The test is enough for the condition. -/
theorem coversActive_of_test {s : PlatformStore} {t : PlatformSession} {tick : PlatformTick}
    (h : coversTest s t tick = true) : coversActive s t tick := by
  rintro platformId found revokedAt rfl - - k hk hplatform hactive
  have hmet := List.all_eq_true.mp h k hk
  simpa [hplatform, hactive] using hmet

/-- Two rotations, one after the other. -/
theorem one_live_key_in_turn : ∃ p,
    Run platformCalls.machine (Pool.StepMeets coversActive) (Pool.quiet PlatformStore.empty)
        (keyOnboarded ++ [.begin 1 (.rotate 0), rotationStep 1 "", rotationStep 1 "afm_live_k1",
          .begin 2 (.rotate 0), rotationStep 2 "", rotationStep 2 "afm_live_k2"]) p ∧
      p.store.db.apiKeys.rows.map APIKey.summary =
        [("afm_live_k0", 0, false), ("afm_live_k1", 0, false), ("afm_live_k2", 0, true)] ∧
      OneLiveKey p.store := by
  have hcheck : (platformCalls.machine.check (Pool.stepTest coversTest)
      (Pool.quiet PlatformStore.empty) (keyOnboarded ++ [.begin 1 (.rotate 0), rotationStep 1 "",
        rotationStep 1 "afm_live_k1", .begin 2 (.rotate 0), rotationStep 2 "",
        rotationStep 2 "afm_live_k2"])).map (fun p => p.store.db.apiKeys.rows.map APIKey.summary) =
        some [("afm_live_k0", 0, false), ("afm_live_k1", 0, false), ("afm_live_k2", 0, true)] := by
    decide +kernel
  obtain ⟨p, hp, hkeys⟩ := Option.map_eq_some_iff.mp hcheck
  have guarded := Run.of_stepTest (fun _ _ _ => coversActive_of_test) hp
  have run := guarded.unguarded
  exact ⟨p, guarded, hkeys,
    (one_live_key_iff run).mp guarded _ [] p (List.append_nil _).symm run⟩

/-- Two rotations begin, and then both commit: the second waits for the first and does not
see the key it has inserted.  Both of the new keys are active, and the one issued before the
second rotation returned is accepted after it. -/
theorem two_live_keys : ∃ p,
    Run platformCalls.machine Unguarded (Pool.quiet PlatformStore.empty)
        (keyOnboarded ++ [.begin 1 (.rotate 0), .begin 2 (.rotate 0), rotationStep 1 "",
          rotationStep 2 "", rotationStep 1 "afm_live_k1", rotationStep 2 "afm_live_k2"]) p ∧
      p.store.db.apiKeys.rows.map APIKey.summary =
        [("afm_live_k0", 0, false), ("afm_live_k1", 0, true), ("afm_live_k2", 0, true)] ∧
      p.store.rotated.map APIKey.keyValue = ["afm_live_k1", "afm_live_k2"] ∧
      (p.store.db.validateKey "afm_live_k1" (seconds 61)).isOk = true ∧
      ¬ OneLiveKey p.store := by
  have hcheck : (platformCalls.machine.check (fun _ _ => true)
      (Pool.quiet PlatformStore.empty) (keyOnboarded ++ [.begin 1 (.rotate 0),
        .begin 2 (.rotate 0), rotationStep 1 "", rotationStep 2 "", rotationStep 1 "afm_live_k1",
        rotationStep 2 "afm_live_k2"])).map (fun p => (p.store.db.apiKeys.rows.map APIKey.summary,
          p.store.rotated.map APIKey.keyValue,
          (p.store.db.validateKey "afm_live_k1" (seconds 61)).isOk)) =
        some ([("afm_live_k0", 0, false), ("afm_live_k1", 0, true), ("afm_live_k2", 0, true)],
          ["afm_live_k1", "afm_live_k2"], true) := by
    decide +kernel
  obtain ⟨p, hp, hseen⟩ := Option.map_eq_some_iff.mp hcheck
  obtain ⟨hkeys, hrest⟩ := Prod.mk.inj hseen
  obtain ⟨hreturned, haccepted⟩ := Prod.mk.inj hrest
  refine ⟨p, (Run.of_check hp).unguarded, hkeys, hreturned, haccepted, fun hlive => ?_⟩
  -- both keys are in the table, and both are active
  have hstored : ∀ x ∈ [("afm_live_k1", 0, true), ("afm_live_k2", 0, true)],
      ∃ k ∈ p.store.db.apiKeys, k.summary = x := by
    intro x hx
    have hmem : x ∈ p.store.db.apiKeys.rows.map APIKey.summary := by
      rw [hkeys]
      exact List.mem_cons_of_mem _ hx
    exact List.mem_map.mp hmem
  obtain ⟨k₁, hk₁, hsummary₁⟩ := hstored _ List.mem_cons_self
  obtain ⟨k₂, hk₂, hsummary₂⟩ := hstored _ (List.mem_cons_of_mem _ List.mem_cons_self)
  obtain ⟨hvalue₁, hplatform₁, hactive₁⟩ : k₁.keyValue = "afm_live_k1" ∧ k₁.platformId = 0 ∧
      k₁.isActive = true := by simpa [APIKey.summary] using hsummary₁
  obtain ⟨hvalue₂, hplatform₂, hactive₂⟩ : k₂.keyValue = "afm_live_k2" ∧ k₂.platformId = 0 ∧
      k₂.isActive = true := by simpa [APIKey.summary] using hsummary₂
  have hsame := hlive.one k₁ hk₁ k₂ hk₂ (hplatform₁.trans hplatform₂.symm) hactive₁ hactive₂
  rw [hsame, hvalue₂] at hvalue₁
  exact absurd hvalue₁ (by decide)

end AfricaFrontier.PlatformManager
