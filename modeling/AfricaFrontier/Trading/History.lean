import AfricaFrontier.Lib.Window
import AfricaFrontier.Trading.MarketCaches

/-!
# The history of an instrument

`broker_instrument_history` asks for a number of days, and the same number is what
`get_market_histories` cuts the list of bars to: it shows the last so many bars.  A day has more
than one bar when the bars are hourly.

`history_covers_iff` says that the bars of the period are all shown if and only if there are no
more of them than days.  The text that `t` holds is read by a parameter of this module.

A bar has three forms on its way: a JSON value of the provider, a dict with a close that is a
number, and the bar that is shown. For well-formed bars the lists of the first and of the last
form belong together element by element (`ShownAs`), so that what is said of times can be said of
either.
-/

namespace AfricaFrontier

open Python SlidingWindow

/-! ## The route

A symbol that is not one is refused before the call; the answer is the history of the one symbol
that was asked for. -/

/-- The periods the route admits: `1D`, `1W`, `1M` and `1Y`. -/
inductive Period
  | oneDay
  | oneWeek
  | oneMonth
  | oneYear
  deriving DecidableEq

/-- The days a period has. -/
def Period.days : Period → ℕ
  | .oneDay => 1
  | .oneWeek => 7
  | .oneMonth => 30
  | .oneYear => 365

/-- How far apart its bars are. -/
def Period.timeframe : Period → String
  | .oneDay => "1Hour"
  | .oneWeek => "1Hour"
  | .oneMonth => "1Day"
  | .oneYear => "1Day"

/-- The symbol without hyphens, dots and slashes is alphanumeric. -/
def Runtime.isMarketSymbol (rt : Runtime) (symbol : String) : Bool :=
  let rest := symbol.toList.filter fun c => c ≠ '-' ∧ c ≠ '.' ∧ c ≠ '/'
  !rest.isEmpty && rest.all rt.alnum

/-- The call for the history of a symbol. -/
def Period.call (period : Period) (symbol : String) : HistoryCall where
  symbols := [symbol]
  days := period.days
  timeframe := period.timeframe

/-- `broker_instrument_history`. -/
def brokerInstrumentHistory (rt : Runtime) (cache : Memo.Store (historyPolicy rt)) (symbol : String)
    (period : Period) (asked : ℚ) (source : MarketSource) : Except MarketError MarketHistory := do
  let normalized := rt.clean symbol
  if rt.isMarketSymbol normalized then
    let history ← getMarketHistories rt cache (period.call normalized) asked source
    match history.value.lookup normalized with
    | some history => .ok history
    | none => normalizeBars rt normalized []
  else .error (.http ⟨400, "Invalid market symbol"⟩)

/-! ## What it covers

The bars of the period are those with a time within its days, counted back from the call. -/

section Covers

variable (rt : Runtime) (readTime : Json → Option Instant)

/-- The time of a bar. -/
def barTime (bar : Json) : Option Instant :=
  match bar with
  | .obj fields => readTime (Obj.get fields "t")
  | _ => none

/-- The time lies within the last `days` days. -/
def withinDays (now : Instant) (days : ℕ) (time : Option Instant) : Bool :=
  decide (∃ t ∈ time, now - days * dayLength ≤ t ∧ t ≤ now)

/-- A dict with a time that can be read and a close that is a number a float can hold. -/
structure WellFormedBar (bar : Json) : Prop where
  dict : ∃ fields, bar = .obj fields ∧ isNumber (Obj.get fields "c") = true ∧
    ∃ close, rt.float (Obj.get fields "c") = .ok close
  timed : (barTime readTime bar).isSome

/-- The provider whose answer the call is given: its own, or that of the earlier call whose answer
is in the cache. -/
def answering (cache : Memo.Store (historyPolicy rt)) (symbol : String) (period : Period)
    (asked : ℚ) (source : MarketSource) : MarketSource :=
  (cache.basis ((period.call (rt.clean symbol)).request rt) asked source).2

/-- It has answered with these bars for the symbol. -/
def Answers (source : MarketSource) (symbol : String) (period : Period) (bars : List Json) :
    Prop :=
  ∃ entries, ((period.call (rt.clean symbol)).request rt).bars source = .ok entries ∧
    entries.getD (rt.clean symbol) (.arr []) = .arr bars

/-- **The history covers its period.** Every bar of the last days is shown, in order, counted from
the clock of the call whose answer it is. -/
def CoversPeriod (cache : Memo.Store (historyPolicy rt)) (symbol : String) (period : Period)
    (asked : ℚ) (source : MarketSource) (bars : List Json) : Prop :=
  ∃ history, brokerInstrumentHistory rt cache symbol period asked source = .ok history ∧
    ((bars.filter fun bar => withinDays (answering rt cache symbol period asked source).now
      period.days (barTime readTime bar)).filterMap shownBar).Sublist history.bars

end Covers

/-! ## The keys of single symbols

What is in the cache under the key of one market symbol was made for that symbol, so that a hit
need not be told from a miss. -/

variable {rt : Runtime} {readTime : Json → Option Instant}

/-- Every other symbol, or more than one, or another period has another key. -/
theorem eq_of_historyKey {r r' : HistoryRequest rt} {symbol : String}
    (hsymbols : r.symbols = [symbol])
    (hbar : '|' ∉ symbol.toList) (hcolon : ':' ∉ symbol.toList)
    (htimeframe : ':' ∉ r.timeframe.toList) (hne : r'.symbols ≠ [])
    (h : historyKey r' = historyKey r) : r' = r := by
  have hkeys := congrArg String.toList h
  rw [historyKey_toList, historyKey_toList, hsymbols, String.intercalate_singleton] at hkeys
  -- there are two colons, the two of the key itself
  have hcount := congrArg (List.count ':') hkeys
  simp only [List.count_append, List.count_cons_self,
    List.count_eq_zero_of_not_mem (colon_notMem_toString _),
    List.count_eq_zero_of_not_mem hcolon, List.count_eq_zero_of_not_mem htimeframe] at hcount
  have hjoined : ':' ∉ ("|".intercalate r'.symbols).toList :=
    List.count_eq_zero.mp (by omega)
  obtain ⟨hjoin, hrest⟩ := append_cons_inj hjoined hcolon hkeys
  obtain ⟨hdays, htimes⟩ := append_cons_inj (colon_notMem_toString _) (colon_notMem_toString _)
    hrest
  refine HistoryRequest.ext ?_ (toString_injective hdays) (String.toList_injective htimes)
  rw [hsymbols]
  -- and no bar, so that one symbol is joined
  cases hjoint : r'.symbols with
  | nil => exact absurd hjoint hne
  | cons x xs =>
      rw [hjoint] at hjoin
      cases xs with
      | nil =>
          rw [String.intercalate_singleton] at hjoin
          rw [String.toList_injective hjoin]
      | cons y ys =>
          refine absurd ?_ hbar
          rw [← hjoin, String.intercalate_cons_cons, String.toList_append, String.toList_append]
          exact List.mem_append_left _ (List.mem_append_right _ (by decide))

/-- No timeframe has a colon. -/
theorem timeframe_plain (period : Period) : ':' ∉ period.timeframe.toList := by
  cases period <;> decide

/-- The characters of a market symbol. -/
theorem notMem_of_isMarketSymbol {symbol : String} {c : Char}
    (h : rt.isMarketSymbol symbol = true) (hc : rt.alnum c = false)
    (hkept : c ≠ '-' ∧ c ≠ '.' ∧ c ≠ '/') : c ∉ symbol.toList := by
  intro hmem
  obtain ⟨-, hall⟩ := Bool.and_eq_true_iff.mp h
  have halnum := List.all_eq_true.mp hall c
    (List.mem_filter.mpr ⟨hmem, decide_eq_true hkept⟩)
  rw [hc] at halnum
  cases halnum

/-- A market symbol is not empty. -/
theorem ne_empty_of_isMarketSymbol {symbol : String} (h : rt.isMarketSymbol symbol = true) :
    symbol ≠ "" := by
  rintro rfl
  cases h

/-- The request for one market symbol. -/
theorem symbols_of_isMarketSymbol {symbol : String} (period : Period)
    (h : rt.isMarketSymbol (rt.clean symbol) = true) :
    ((period.call (rt.clean symbol)).request rt).symbols = [rt.clean symbol] := by
  have hblank : strip (rt.clean symbol) ≠ "" := by
    rw [rt.strip_clean]
    exact ne_empty_of_isMarketSymbol h
  rw [HistoryCall.request_symbols, Period.call, rt.cleanSymbols_singleton hblank, rt.clean_clean]

/-- What is kept under the key of a market symbol was made for it. -/
theorem own_of_isMarketSymbol {cache : Memo.Store (historyPolicy rt)} {symbol : String}
    {period : Period} {asked : ℚ} (h : rt.isMarketSymbol (rt.clean symbol) = true)
    {a : Memo.Answer (historyPolicy rt)}
    (hlook : cache.look ((period.call (rt.clean symbol)).request rt) asked = some (.answered a)) :
    a.request = (period.call (rt.clean symbol)).request rt := by
  obtain ⟨key, t, hroute, hentry, -⟩ := Memo.Store.look_eq_answered.mp hlook
  obtain ⟨-, rfl⟩ := historyRoute_inr.mp hroute
  obtain ⟨hne, hkey⟩ := historyRoute_inr.mp (cache.keyed _ t a hentry)
  exact eq_of_historyKey (symbols_of_isMarketSymbol period h)
    (notMem_of_isMarketSymbol h rt.alnum_bar (by decide))
    (notMem_of_isMarketSymbol h rt.alnum_colon (by decide)) (timeframe_plain period) hne hkey.symm

/-! ## The bars that are shown

The last bars are the bars of the period exactly if there are no more of these than days. -/

/-- What is shown of a well-formed bar. -/
theorem WellFormedBar.shown {bar : Json} (h : WellFormedBar rt readTime bar) :
    ∃ shown, shownBar bar = some shown ∧ barTime readTime bar = readTime shown.timestamp ∧
      ∃ close, rt.float shown.close = .ok close := by
  obtain ⟨fields, rfl, hnumber, hclose⟩ := h.dict
  exact ⟨_, if_pos hnumber, rfl, hclose⟩

/-- The bar is shown so. -/
def ShownAs (rt : Runtime) (readTime : Json → Option Instant) (bar : Json) (shown : ShownBar) :
    Prop :=
  shownBar bar = some shown ∧ barTime readTime bar = readTime shown.timestamp ∧
    ∃ close, rt.float shown.close = .ok close

variable {bars : List Json} {shown : List ShownBar} {q : Option Instant → Bool}

/-- Well-formed bars are all shown. -/
theorem exists_shown (h : ∀ bar ∈ bars, WellFormedBar rt readTime bar) :
    ∃ shown, List.Forall₂ (ShownAs rt readTime) bars shown :=
  exists_forall₂ fun bar hbar => (h bar hbar).shown

/-- Well-formed bars are shown as the list of these. -/
theorem filterMap_shown (h : List.Forall₂ (ShownAs rt readTime) bars shown) :
    bars.filterMap shownBar = shown := by
  induction h with
  | nil => rfl
  | cons hbar _ ih => rw [List.filterMap_cons_some hbar.1, ih]

/-- The bars of a time are shown as those shown of that time. -/
theorem filter_shown (h : List.Forall₂ (ShownAs rt readTime) bars shown) :
    (bars.filter fun bar => q (barTime readTime bar)).filterMap shownBar =
      shown.filter fun bar => q (readTime bar.timestamp) := by
  induction h with
  | nil => rfl
  | @cons bar first bars rest hbar _ ih =>
      cases hq : q (readTime first.timestamp) with
      | true =>
          rw [List.filter_cons_of_pos (by rw [hbar.2.1, hq]), List.filterMap_cons_some hbar.1, ih,
            List.filter_cons_of_pos (by simp [hq])]
      | false =>
          rw [List.filter_cons_of_neg (by simp [hbar.2.1, hq]), ih,
            List.filter_cons_of_neg (by simp [hq])]

/-- As many bars are passed over in front as of those shown. -/
theorem dropWhile_shown (h : List.Forall₂ (ShownAs rt readTime) bars shown) :
    (bars.dropWhile fun bar => !q (barTime readTime bar)).length =
      (shown.dropWhile fun bar => !q (readTime bar.timestamp)).length := by
  induction h with
  | nil => rfl
  | @cons bar first bars rest hbar hrest ih =>
      cases hq : q (readTime first.timestamp) with
      | true =>
          rw [List.dropWhile_cons_of_neg (by simp [hbar.2.1, hq]),
            List.dropWhile_cons_of_neg (by simp [hq]), List.length_cons, List.length_cons,
            hrest.length_eq]
      | false =>
          rw [List.dropWhile_cons_of_pos (by simp [hbar.2.1, hq]), ih,
            List.dropWhile_cons_of_pos (by simp [hq])]

/-- The history of shown bars. -/
theorem normalize_shown (symbol : String) (h : List.Forall₂ (ShownAs rt readTime) bars shown) :
    ∃ history, normalizeBars rt symbol bars = .ok history ∧ history.bars = shown := by
  obtain ⟨closes, hcloses⟩ : ∃ closes,
      List.Forall₂ (fun bar close => rt.float bar.close = .ok close) shown closes := by
    induction h with
    | nil => exact ⟨[], List.Forall₂.nil⟩
    | cons hbar _ ih =>
        obtain ⟨close, hclose⟩ := hbar.2.2
        obtain ⟨closes, hcloses⟩ := ih
        exact ⟨close :: closes, List.Forall₂.cons hclose hcloses⟩
  refine ⟨rt.history symbol shown closes, normalizeBars_eq_ok.mpr ⟨closes, ?_, ?_⟩, rfl⟩
  · rw [filterMap_shown h]
    exact hcloses
  · rw [filterMap_shown h]

/-- The last bars, as many as the period has days. -/
theorem sliceFrom_days (period : Period) {α : Type} (xs : List α) :
    sliceFrom (-(period.days : ℤ)) xs = xs.drop (xs.length - period.days) := by
  have hpos : 0 < period.days := by cases period <;> decide
  have hneg : -(period.days : ℤ) < 0 := by omega
  have hcut : ((xs.length : ℤ) + -(period.days : ℤ)).toNat = xs.length - period.days := by omega
  rw [sliceFrom, if_pos hneg, hcut]

/-- What the route returns of well-formed bars. -/
theorem history_eq {cache : Memo.Store (historyPolicy rt)} {symbol : String} {period : Period}
    {asked : ℚ} {source : MarketSource} (hsymbol : rt.isMarketSymbol (rt.clean symbol) = true)
    (hanswers : Answers rt (answering rt cache symbol period asked source) symbol period bars)
    (h : List.Forall₂ (ShownAs rt readTime) bars shown) :
    ∃ history, brokerInstrumentHistory rt cache symbol period asked source = .ok history ∧
      history.bars = shown.drop (shown.length - period.days) := by
  obtain ⟨entries, hentries, hbars⟩ := hanswers
  have hlast := List.forall₂_drop (bars.length - period.days) h
  obtain ⟨history, hhistory, hshown⟩ := normalize_shown (rt.clean symbol) hlast
  have hlength : bars.length = shown.length := h.length_eq
  refine ⟨history, ?_, by rw [hshown, hlength]⟩
  -- the one entry of the map
  have hentry : symbolHistory rt entries period.days (rt.clean symbol) =
      .ok (rt.clean symbol, history) := by
    refine symbolHistory_eq_ok.mpr ⟨_, ?_, hhistory, rfl⟩
    rw [hbars, ← sliceFrom_days]
    rfl
  have hload : loadHistories rt (answering rt cache symbol period asked source)
      ((period.call (rt.clean symbol)).request rt) = .ok [(rt.clean symbol, history)] := by
    refine loadHistories_eq_ok.mpr ⟨entries, hentries, ?_⟩
    rw [symbols_of_isMarketSymbol period hsymbol]
    exact List.Forall₂.cons hentry List.Forall₂.nil
  have hroute : (historyPolicy rt).route ((period.call (rt.clean symbol)).request rt) =
      .inr (historyKey ((period.call (rt.clean symbol)).request rt)) := by
    refine historyRoute_inr.mpr ⟨?_, rfl⟩
    rw [symbols_of_isMarketSymbol period hsymbol]
    exact List.cons_ne_nil _ _
  have hreply : (cache.reply ((period.call (rt.clean symbol)).request rt) asked source).map
      Memo.Reply.value = .ok [(rt.clean symbol, history)] := by
    rw [Memo.Store.reply_value hroute,
      Memo.Store.basis_request fun a hlook => own_of_isMarketSymbol hsymbol hlook]
    exact hload
  obtain ⟨reply, hgot, hvalue⟩ := map_eq_ok.mp hreply
  unfold brokerInstrumentHistory
  dsimp only
  rw [if_pos hsymbol]
  refine bind_eq_ok.mpr ⟨reply, hgot, ?_⟩
  rw [hvalue, List.lookup_cons_self]

/-- **When a history covers its period.**  For a symbol the route admits and well-formed bars,
wherever the answer comes from: if and only if there are as many bars as days at most, from the
first one of the period on. -/
theorem history_covers_iff (rt : Runtime) (readTime : Json → Option Instant)
    (cache : Memo.Store (historyPolicy rt)) {symbol : String} (period : Period) (asked : ℚ)
    (source : MarketSource) {bars : List Json}
    (hsymbol : rt.isMarketSymbol (rt.clean symbol) = true)
    (hanswers : Answers rt (answering rt cache symbol period asked source) symbol period bars)
    (hbars : ∀ bar ∈ bars, WellFormedBar rt readTime bar) :
    CoversPeriod rt readTime cache symbol period asked source bars ↔
      (bars.dropWhile fun bar => !withinDays (answering rt cache symbol period asked source).now
        period.days (barTime readTime bar)).length ≤ period.days := by
  obtain ⟨shown, hshown⟩ := exists_shown hbars
  obtain ⟨history, hhistory, hlast⟩ := history_eq hsymbol hanswers hshown
  unfold CoversPeriod
  rw [filter_shown hshown, dropWhile_shown hshown, ← filter_sublist_last_iff]
  constructor
  · rintro ⟨history', hhistory', hcovers⟩
    rw [hhistory] at hhistory'
    cases hhistory'
    rw [← hlast]
    exact hcovers
  · intro hcovers
    rw [← hlast] at hcovers
    exact ⟨history, hhistory, hcovers⟩

/-! ## Two hours of a day -/

/-- The time of a full hour of the first day of the epoch. -/
def firstDayTime : Json → Option Instant
  | .str text =>
      if startsWith text "1970-01-01T" then
        (readDigits ((text.toList.drop 11).take 2)).map fun hour => hour * 3600000000
      else none
  | _ => none

/-- A bar of an hour of the first day. -/
def hourBar (hour : String) : Json :=
  .obj [("t", .str ("1970-01-01T" ++ hour ++ ":00:00Z")), ("c", .int 100)]

/-- The provider has these bars of one stock, at two o'clock. -/
def stockSource (bars : List Json) : MarketSource where
  now := 7200000000
  now_mem := by decide
  assets _ := .ok (.arr [])
  bars _ := .ok fun _ => .obj [("bars", .obj [("AAPL", .arr bars)])]

/-- It is well formed, if the hour is one. -/
theorem hourBar_wellFormed {hour : String}
    (h : (firstDayTime (.str ("1970-01-01T" ++ hour ++ ":00:00Z"))).isSome) :
    WellFormedBar decimalRuntime firstDayTime (hourBar hour) where
  dict := ⟨_, rfl, rfl, _, rfl⟩
  timed := h

/-- The provider has answered with these. -/
theorem stockSource_answers (period : Period) (bars : List Json) :
    Answers decimalRuntime (answering decimalRuntime Memo.Store.empty "aapl" period 0
      (stockSource bars)) "aapl" period bars := by
  have hclean : decimalRuntime.clean "aapl" = "AAPL" := by decide +kernel
  obtain ⟨start, hstart⟩ : ∃ start, historyStart 7200000000 period.days = .ok start := by
    cases period <;> exact ⟨_, rfl⟩
  have hsymbols : ((period.call (decimalRuntime.clean "aapl")).request
      decimalRuntime).symbols = [decimalRuntime.clean "aapl"] :=
    symbols_of_isMarketSymbol period (by decide +kernel)
  rw [hclean] at hsymbols
  have hrequests : ∃ request, ((period.call (decimalRuntime.clean "aapl")).request
      decimalRuntime).barsRequests start = [request] := by
    unfold HistoryRequest.barsRequests
    rw [hclean, hsymbols]
    exact ⟨_, rfl⟩
  obtain ⟨request, hrequest⟩ := hrequests
  refine ⟨[("AAPL", .arr bars)], bind_eq_ok.mpr ⟨_, hstart, ?_⟩, ?_⟩
  · rw [hrequest]
    rfl
  · rw [hclean]
    rfl

/-- Three hourly bars are all shown in the history of a week. -/
theorem history_covers_iff_week :
    CoversPeriod decimalRuntime firstDayTime Memo.Store.empty "aapl" .oneWeek 0
      (stockSource [hourBar "00", hourBar "01", hourBar "02"])
      [hourBar "00", hourBar "01", hourBar "02"] := by
  refine (history_covers_iff decimalRuntime firstDayTime Memo.Store.empty .oneWeek 0 _
    (by decide +kernel) (stockSource_answers .oneWeek _) ?_).mpr ?_
  · intro bar hbar
    simp only [List.mem_cons, List.not_mem_nil, or_false] at hbar
    rcases hbar with rfl | rfl | rfl
    · exact hourBar_wellFormed (by decide +kernel)
    · exact hourBar_wellFormed (by decide +kernel)
    · exact hourBar_wellFormed (by decide +kernel)
  · exact (List.length_dropWhile_le _ _).trans (by decide)

/-- Of two hourly bars of the last day, in their order, the first is not shown. -/
theorem not_covers :
    (∀ bar ∈ [hourBar "00", hourBar "01"], WellFormedBar decimalRuntime firstDayTime bar) ∧
    Answers decimalRuntime (answering decimalRuntime Memo.Store.empty "aapl" .oneDay 0
      (stockSource [hourBar "00", hourBar "01"])) "aapl" .oneDay [hourBar "00", hourBar "01"] ∧
    ((brokerInstrumentHistory decimalRuntime Memo.Store.empty "aapl" .oneDay 0
      (stockSource [hourBar "00", hourBar "01"])).map fun history =>
        history.bars.map ShownBar.timestamp).toOption = some [.str "1970-01-01T01:00:00Z"] ∧
    ¬ CoversPeriod decimalRuntime firstDayTime Memo.Store.empty "aapl" .oneDay 0
      (stockSource [hourBar "00", hourBar "01"]) [hourBar "00", hourBar "01"] := by
  have hshown : ((brokerInstrumentHistory decimalRuntime Memo.Store.empty "aapl" .oneDay 0
      (stockSource [hourBar "00", hourBar "01"])).map fun history =>
        history.bars.map ShownBar.timestamp).toOption = some [.str "1970-01-01T01:00:00Z"] := by
    decide +kernel
  refine ⟨?_, stockSource_answers .oneDay _, hshown, ?_⟩
  · intro bar hbar
    simp only [List.mem_cons, List.not_mem_nil, or_false] at hbar
    rcases hbar with rfl | rfl
    · exact hourBar_wellFormed (by decide +kernel)
    · exact hourBar_wellFormed (by decide +kernel)
  · rintro ⟨history, hhistory, hcovers⟩
    rw [hhistory] at hshown
    have hone := congrArg List.length (Option.some.inj hshown)
    have htwo := hcovers.length_le
    rw [List.length_map] at hone
    rw [hone] at htwo
    exact absurd htwo (by decide +kernel)

end AfricaFrontier
