import AfricaFrontier.Trading.MarketData

/-!
# The market caches and their keys

An asset class is its own key, except that none and the empty one have the key `all`.  The key
of a history joins the symbols with bars and puts the days and the timeframe behind colons,
and any of them may contain either.  So an answer may be given to another request than it was
made for: `caches_answer_own_iff` has the sets of calls among which that happens in no order of
events.

Symbols without a bar and timeframes without a colon have keys of their own
(`historyKeysDiffer_of_plain`).

Both caches are instances of one memo store with a key function, and the general result on it says
that all calls of a set are answered with values made for their own requests exactly if no two of
the requests, of which the first can be answered, have the same key. What is left for this module
is to compare keys.
-/

namespace AfricaFrontier

open Python Transition

/-! ## The calls

The two functions, with a place to wait in between. -/

/-- What happens to the two caches. -/
abbrev MarketEvent (rt : Runtime) :=
  Memo.Event (Option String) MarketSource ℚ ⊕ Memo.Event (HistoryRequest rt) MarketSource ℚ

/-- `_instrument_cache` and `_market_history_cache`. -/
abbrev MarketCaches (rt : Runtime) := Memo.Store assetPolicy × Memo.Store (historyPolicy rt)

/-- Calls of both functions, each of which may wait for the provider while others go on. The two
caches have nothing in common. -/
def marketMachine (rt : Runtime) : Machine (MarketCaches rt) (MarketEvent rt) :=
  (Memo.Store.machine assetPolicy).beside (Memo.Store.machine (historyPolicy rt))

/-- The event is one of a call of the sets. -/
def Among (rt : Runtime) (S : Set (Option String)) (S' : Set HistoryCall) :
    MarketCaches rt → MarketEvent rt → Prop :=
  beside (fun _ e => e.request ∈ S) fun _ e => e.request ∈ HistoryCall.request rt '' S'

/-- What a call returns in the event was made for its own request, and a map of histories has
the symbols of the request. -/
def AnswersOwn (rt : Runtime) (caches : MarketCaches rt) : MarketEvent rt → Prop
  | .inl e => caches.1.Faithful e
  | .inr e => caches.2.Faithful e ∧ ∀ reply, caches.2.returned e = some (.ok reply) →
      reply.value.map Prod.fst = e.request.symbols

/-- Of none, the empty class and `all`, there is one at most: the three have one key between
them. -/
def AssetKeysDiffer (S : Set (Option String)) : Prop :=
  (S ∩ {none, some "", some "all"}).Subsingleton

/-- The time of the first bar can be computed, if the call is made at the right time. -/
def Startable (days : ℤ) : Prop := |days + 4| ≤ 3652058

/-- No two calls have the same key, unless they come to the same, or have no symbols, or the
first always fails. -/
def HistoryKeysDiffer (rt : Runtime) (S' : Set HistoryCall) : Prop :=
  ∀ call ∈ S', ∀ call' ∈ S', (call.request rt).symbols ≠ [] → (call'.request rt).symbols ≠ [] →
    historyKey (call.request rt) = historyKey (call'.request rt) → Startable call.days →
    call.request rt = call'.request rt

/-! ## Assets

Three classes have one key. -/

/-- What is heard of a provider that has nothing. -/
def silentSource (now : Instant) (hnow : minInstant ≤ now ∧ now ≤ maxInstant) : MarketSource where
  now := now
  now_mem := hnow
  assets _ := .ok (.arr [])
  bars _ := .ok fun _ => .obj []

/-- When two classes have one key. -/
theorem assetKey_eq_iff {c c' : Option String} :
    assetKey c = assetKey c' ↔
      c = c' ∨ c ∈ ({none, some "", some "all"} : Set (Option String)) ∧
        c' ∈ ({none, some "", some "all"} : Set (Option String)) := by
  have hall : ∀ c : Option String,
      assetKey c = "all" ↔ c ∈ ({none, some "", some "all"} : Set (Option String)) := by
    intro c
    simp only [Set.mem_insert_iff, Set.mem_singleton_iff]
    cases c with
    | none => simp [assetKey]
    | some text =>
        by_cases hempty : text = ""
        · simp [assetKey, hempty]
        · simp [assetKey, hempty]
  -- any other class is its own key
  have hself : ∀ c : Option String, assetKey c ≠ "all" → c = some (assetKey c) := by
    intro c hc
    cases c with
    | none => exact absurd rfl hc
    | some text =>
        by_cases hempty : text = ""
        · exact absurd (by simp [assetKey, hempty]) hc
        · simp [assetKey, hempty]
  constructor
  · intro hkeys
    by_cases hc : assetKey c = "all"
    · exact Or.inr ⟨(hall c).mp hc, (hall c').mp (hkeys ▸ hc)⟩
    · have hc' : assetKey c' ≠ "all" := hkeys ▸ hc
      rw [hself c hc, hself c' hc', hkeys]
      exact Or.inl rfl
  · rintro (rfl | ⟨hc, hc'⟩)
    · rfl
    · rw [(hall c).mpr hc, (hall c').mpr hc']

/-- When no two classes of a set have one key. -/
theorem separate_assets_iff {S : Set (Option String)} :
    Memo.Store.Separate assetPolicy S ↔ AssetKeysDiffer S := by
  constructor
  · intro h c hc c' hc'
    have hkeys : assetKey c = assetKey c' := assetKey_eq_iff.mpr (Or.inr ⟨hc.2, hc'.2⟩)
    refine h c hc.1 c' hc'.1 (assetKey c) rfl (congrArg Sum.inr hkeys.symm) ?_
    exact ⟨silentSource 0 (by decide), [], rfl⟩
  · intro h c hc c' hc' key hkey hkey' _
    have hkeys : assetKey c = assetKey c' :=
      (Sum.inr.inj hkey).trans (Sum.inr.inj hkey').symm
    rcases assetKey_eq_iff.mp hkeys with hsame | ⟨hin, hin'⟩
    · exact hsame
    · exact h ⟨hc, hin⟩ ⟨hc', hin'⟩

/-! ## Histories

A call whose first bar has no time always fails, and a call without symbols asks for nothing; so
these do not count. -/

/-- When the time of the first bar can be computed, and what it is. -/
theorem historyStart_eq_ok {now start : Instant} {days : ℤ} :
    historyStart now days = .ok start ↔
      (|days + 4| ≤ 999999999 ∧ minInstant ≤ now - (days + 4) * dayLength ∧
        now - (days + 4) * dayLength ≤ maxInstant) ∧ start = now - (days + 4) * dayLength := by
  unfold historyStart
  split
  · rename_i hrange
    exact ⟨fun h => ⟨hrange, (Except.ok.inj h).symm⟩, fun h => congrArg Except.ok h.2.symm⟩
  · rename_i hrange
    exact ⟨fun h => absurd h (by simp), fun h => absurd h.1 hrange⟩

/-- Two moments are so many days apart at most. -/
theorem days_between {now days : ℤ}
    (hnow : -62135596800000000 ≤ now ∧ now ≤ 253402300799999999)
    (hstart : -62135596800000000 ≤ now - days * 86400000000 ∧
      now - days * 86400000000 ≤ 253402300799999999) : |days| ≤ 3652058 := by
  rw [abs_le]
  constructor <;> omega

/-- Two moments can be so many days apart, if one of them is the first or the last there is. -/
theorem exists_between {days : ℤ} (h : |days| ≤ 3652058) :
    ∃ now : ℤ, (-62135596800000000 ≤ now ∧ now ≤ 253402300799999999) ∧
      -62135596800000000 ≤ now - days * 86400000000 ∧
      now - days * 86400000000 ≤ 253402300799999999 := by
  obtain ⟨hlow, hhigh⟩ := abs_le.mp h
  rcases le_or_gt 0 days with hpast | hfuture
  · exact ⟨253402300799999999, by omega, by omega, by omega⟩
  · exact ⟨-62135596800000000, by omega, by omega, by omega⟩

/-- There is a moment to make the call at. -/
theorem exists_historyStart {days : ℤ} (h : Startable days) :
    ∃ now start, (minInstant ≤ now ∧ now ≤ maxInstant) ∧ historyStart now days = .ok start := by
  obtain ⟨now, hnow, hstart⟩ := exists_between h
  exact ⟨now, _, hnow, historyStart_eq_ok.mpr ⟨⟨h.trans (by decide), hstart⟩, rfl⟩⟩

/-- A call that succeeds has a first bar. -/
theorem startable_of_load {rt : Runtime} {source : MarketSource} {r : HistoryRequest rt}
    {histories : Histories} (h : loadHistories rt source r = .ok histories) :
    Startable r.days := by
  obtain ⟨bars, hbars, -⟩ := loadHistories_eq_ok.mp h
  obtain ⟨start, hstart, -⟩ := bind_eq_ok.mp hbars
  exact days_between source.now_mem (historyStart_eq_ok.mp hstart).1.2

/-- Where the provider has nothing, every history is empty. -/
theorem load_silent {rt : Runtime} {r : HistoryRequest rt} {now start : Instant}
    (hnow : minInstant ≤ now ∧ now ≤ maxInstant) (hstart : historyStart now r.days = .ok start) :
    ∃ histories, loadHistories rt (silentSource now hnow) r = .ok histories := by
  have hpayloads : ∀ requests : List BarsRequest,
      barsBySymbol (requests.map fun _ => Json.obj []) = .ok [] := by
    intro requests
    unfold barsBySymbol
    induction requests with
    | nil => rfl
    | cons request requests ih => exact ih
  have hbars : r.bars (silentSource now hnow) = .ok [] := by
    refine bind_eq_ok.mpr ⟨start, hstart, ?_⟩
    exact hpayloads (r.barsRequests start)
  exact exists_loadHistories hbars fun symbol _ =>
    ⟨[], rfl, fun bar hbar => absurd hbar List.not_mem_nil⟩

/-- A request with symbols is looked up under its key. -/
theorem historyRoute_inr {rt : Runtime} {r : HistoryRequest rt} {key : String} :
    (historyPolicy rt).route r = .inr key ↔ r.symbols ≠ [] ∧ key = historyKey r := by
  unfold historyPolicy
  dsimp only
  split
  · rename_i hnone
    exact ⟨fun h => absurd h (by simp), fun h => absurd hnone h.1⟩
  · rename_i hsome
    exact ⟨fun h => ⟨hsome, (Sum.inr.inj h).symm⟩, fun h => congrArg Sum.inr h.2.symm⟩

/-- A request without symbols is answered at once. -/
theorem historyRoute_inl {rt : Runtime} {r : HistoryRequest rt} {histories : Histories}
    (h : (historyPolicy rt).route r = .inl histories) : r.symbols = [] ∧ histories = [] := by
  unfold historyPolicy at h
  dsimp only at h
  split at h
  · rename_i hnone
    exact ⟨hnone, (Sum.inl.inj h).symm⟩
  · cases h

/-- When a set of calls has no two with one key for different requests. -/
theorem separate_histories_iff {rt : Runtime} {S' : Set HistoryCall} :
    Memo.Store.Separate (historyPolicy rt) (HistoryCall.request rt '' S') ↔
      HistoryKeysDiffer rt S' := by
  constructor
  · intro h call hcall call' hcall' hsymbols hsymbols' hkeys hstartable
    obtain ⟨now, start, hnow, hstart⟩ := exists_historyStart hstartable
    refine h _ ⟨call, hcall, rfl⟩ _ ⟨call', hcall', rfl⟩ _ (historyRoute_inr.mpr ⟨hsymbols, rfl⟩)
      (historyRoute_inr.mpr ⟨hsymbols', hkeys⟩) ?_
    exact ⟨silentSource now hnow, load_silent hnow hstart⟩
  · rintro h _ ⟨call, hcall, rfl⟩ _ ⟨call', hcall', rfl⟩ key hkey hkey' ⟨source, histories, hmade⟩
    obtain ⟨hsymbols, rfl⟩ := historyRoute_inr.mp hkey
    obtain ⟨hsymbols', hkeys⟩ := historyRoute_inr.mp hkey'
    exact h call hcall call' hcall' hsymbols hsymbols' hkeys (startable_of_load hmade)

/-! ## Keys that differ

The text can be cut again at its bars and colons, if no piece has one. -/

/-- Symbols without a bar can be told apart in the text they are joined to. -/
theorem join_injective {xs ys : List String} (hxs : ∀ x ∈ xs, '|' ∉ x.toList)
    (hys : ∀ y ∈ ys, '|' ∉ y.toList) (hx : xs ≠ []) (hy : ys ≠ [])
    (h : ("|".intercalate xs).toList = ("|".intercalate ys).toList) : xs = ys := by
  have hsplit : ∀ zs : List String, (∀ z ∈ zs, '|' ∉ z.toList) → zs ≠ [] →
      (("|".intercalate zs).toList).splitOn '|' = zs.map String.toList := by
    intro zs hzs hne
    rw [String.toList_intercalate]
    refine List.splitOn_intercalate '|' ?_ (by simpa using hne)
    intro l hl
    obtain ⟨z, hz, rfl⟩ := List.mem_map.mp hl
    exact hzs z hz
  have hlists := congrArg (List.splitOn '|') h
  rw [hsplit xs hxs hx, hsplit ys hys hy] at hlists
  exact (List.map_injective_iff.mpr fun _ _ => String.toList_injective) hlists

/-- The characters of a key. -/
theorem historyKey_toList {rt : Runtime} (r : HistoryRequest rt) :
    (historyKey r).toList = ("|".intercalate r.symbols).toList ++ ':' ::
      ((toString r.days).toList ++ ':' :: r.timeframe.toList) := by
  simp only [historyKey, String.toList_append, List.append_assoc]
  rfl

/-- Symbols without a bar, and a timeframe without a colon. -/
def HistoryRequest.Plain {rt : Runtime} (r : HistoryRequest rt) : Prop :=
  (∀ symbol ∈ r.symbols, '|' ∉ symbol.toList) ∧ ':' ∉ r.timeframe.toList

/-- Plain requests have keys of their own. -/
theorem HistoryRequest.Plain.key_injective {rt : Runtime} {r r' : HistoryRequest rt} (hr : r.Plain)
    (hr' : r'.Plain) (hne : r.symbols ≠ []) (hne' : r'.symbols ≠ [])
    (h : historyKey r = historyKey r') : r = r' := by
  have hkey : ∀ r : HistoryRequest rt, (historyKey r).toList.reverse =
      r.timeframe.toList.reverse ++ ':' :: ((toString r.days).toList.reverse ++ ':' ::
        ("|".intercalate r.symbols).toList.reverse) := by
    intro r
    rw [historyKey_toList]
    simp only [List.reverse_append, List.reverse_cons, List.append_assoc, List.cons_append,
      List.nil_append]
  have hlists := congrArg (fun key : String => key.toList.reverse) h
  simp only [hkey] at hlists
  obtain ⟨htimeframe, hrest⟩ := append_cons_inj (by simpa using hr.2) (by simpa using hr'.2) hlists
  obtain ⟨hdays, hsymbols⟩ := append_cons_inj (by simpa using colon_notMem_toString r.days)
    (by simpa using colon_notMem_toString r'.days) hrest
  refine HistoryRequest.ext ?_ ?_ ?_
  · exact join_injective hr.1 hr'.1 hne hne' (List.reverse_injective hsymbols)
  · exact toString_injective (List.reverse_injective hdays)
  · exact String.toList_injective (List.reverse_injective htimeframe)

/-- Calls whose requests are plain have keys of their own. -/
theorem historyKeysDiffer_of_plain {rt : Runtime} {S' : Set HistoryCall}
    (h : ∀ call ∈ S', (call.request rt).Plain) : HistoryKeysDiffer rt S' :=
  fun call hcall call' hcall' hne hne' hkeys _ =>
    (h call hcall).key_injective (h call' hcall') hne hne' hkeys

/-! ## Answers to their own requests

Both caches, in one statement. -/

/-- **The caches answer their own requests.**  In every order of the events of calls from two
sets, what a call returns was made for its own request, if and only if the keys of the calls
differ. -/
theorem caches_answer_own_iff (rt : Runtime) (S : Set (Option String)) (S' : Set HistoryCall) :
    (∀ events caches,
      Run (marketMachine rt) (Among rt S S') (Memo.Store.empty, Memo.Store.empty) events caches →
      ∀ e caches', (marketMachine rt).step caches e = some caches' → Among rt S S' caches e →
        AnswersOwn rt caches e) ↔
      AssetKeysDiffer S ∧ HistoryKeysDiffer rt S' := by
  have hassets : ∀ k, 0 < assetPolicy.lifetime k := fun _ => by norm_num [assetPolicy]
  have hhistories : ∀ k, 0 < (historyPolicy rt).lifetime k :=
    fun _ => by norm_num [historyPolicy]
  rw [← separate_assets_iff, ← separate_histories_iff, ← Memo.Store.faithful_iff hassets,
    ← Memo.Store.faithful_iff hhistories]
  constructor
  · intro hall
    constructor
    -- a run of one cache is a run of both, in which the other is left empty
    · intro events s run e s' hstep he
      have hstepped : (marketMachine rt).step (s, Memo.Store.empty) (.inl e) =
          some (s', Memo.Store.empty) :=
        congrArg (Option.map fun s' => (s', Memo.Store.empty)) hstep
      exact hall _ _ (run.left Memo.Store.empty) (.inl e) _ hstepped he
    · intro events s run e s' hstep he
      have hstepped : (marketMachine rt).step (Memo.Store.empty, s) (.inr e) =
          some (Memo.Store.empty, s') :=
        congrArg (Option.map fun s' => (Memo.Store.empty, s')) hstep
      exact (hall _ _ (run.right Memo.Store.empty) (.inr e) _ hstepped he).1
  · rintro ⟨hleft, hright⟩ events caches run e caches' hstep he
    cases e with
    | inl e =>
        obtain ⟨s', hs', -⟩ := Option.map_eq_some_iff.mp hstep
        exact hleft _ _ run.fst e s' hs' he
    | inr e =>
        obtain ⟨s', hs', -⟩ := Option.map_eq_some_iff.mp hstep
        have hfaithful := hright _ _ run.snd e s' hs' he
        refine ⟨hfaithful, ?_⟩
        intro reply hreturned
        rcases hfaithful.value_of hreturned with hdirect | ⟨source, hmade⟩
        · obtain ⟨hsymbols, hvalue⟩ := historyRoute_inl hdirect
          rw [hsymbols, hvalue]
          rfl
        · exact loadHistories_symbols hmade

/-! ## A class by the name of all, and a symbol with a bar -/

/-- The assets of no class in particular are given to a call for the class `all`, and the
histories of one symbol, `A|B`, to a call for the two symbols `A` and `B`. -/
theorem not_answers_own :
    (∃ events caches caches', Run (marketMachine decimalRuntime) Unguarded
        (Memo.Store.empty, Memo.Store.empty) events caches ∧
      (marketMachine decimalRuntime).step caches (.inl (.ask (some "all") 0)) = some caches' ∧
      ¬ AnswersOwn decimalRuntime caches (.inl (.ask (some "all") 0))) ∧
    ∃ events caches caches', Run (marketMachine decimalRuntime) Unguarded
        (Memo.Store.empty, Memo.Store.empty) events caches ∧
      (marketMachine decimalRuntime).step caches
        (.inr (.ask (HistoryCall.request decimalRuntime { symbols := ["A", "B"] }) 0)) =
          some caches' ∧
      ¬ AnswersOwn decimalRuntime caches
        (.inr (.ask (HistoryCall.request decimalRuntime { symbols := ["A", "B"] }) 0)) := by
  constructor
  · have hmade : assetPolicy.make (silentSource 0 (by decide)) none = .ok [] := rfl
    have hroute : assetPolicy.route (some "all") = .inr "all" := rfl
    obtain ⟨kept, run, hagain, hreturned⟩ :=
      Memo.Store.exists_served (fun _ => by norm_num [assetPolicy]) rfl hroute hmade
    refine ⟨_, (kept, Memo.Store.empty), (kept, Memo.Store.empty),
      (run.left Memo.Store.empty (Q := Unguarded)).mono fun _ _ _ => trivial,
      congrArg (Option.map fun s => (s, Memo.Store.empty)) hagain, ?_⟩
    intro hown
    exact absurd (hown _ hreturned) (by simp [Memo.Event.request])
  -- both requests have the key `A|B:7:1Day`
  · have hstart : historyStart 0 7 = .ok (-11 * dayLength) := by decide +kernel
    obtain ⟨histories, hmade⟩ : ∃ histories, (historyPolicy decimalRuntime).make
        (silentSource 0 (by decide))
          (HistoryCall.request decimalRuntime { symbols := ["A|B"] }) = .ok histories :=
      load_silent (by decide) hstart
    have hroute : (historyPolicy decimalRuntime).route
        (HistoryCall.request decimalRuntime { symbols := ["A", "B"] }) = .inr "A|B:7:1Day" :=
      historyRoute_inr.mpr (by decide +kernel)
    obtain ⟨kept, run, hagain, hreturned⟩ :=
      Memo.Store.exists_served (fun _ => by norm_num [historyPolicy])
        (historyRoute_inr.mpr (by decide +kernel)) hroute hmade
    refine ⟨_, (Memo.Store.empty, kept), (Memo.Store.empty, kept),
      (run.right Memo.Store.empty (P := Unguarded)).mono fun _ _ _ => trivial,
      congrArg (Option.map fun s => (Memo.Store.empty, s)) hagain, ?_⟩
    rintro ⟨hown, -⟩
    have hsame : HistoryCall.request decimalRuntime { symbols := ["A|B"] } =
        HistoryCall.request decimalRuntime { symbols := ["A", "B"] } := hown _ hreturned
    exact absurd hsame (by decide +kernel)

end AfricaFrontier
