import AfricaFrontier.Lib.Memo
import AfricaFrontier.Payments.MonthlyLimit
import AfricaFrontier.Python.Subscript
import AfricaFrontier.Python.Text
import AfricaFrontier.Python.Words
import Mathlib.Algebra.Order.Ring.Rat
import Mathlib.Data.List.Dedup
import Mathlib.Data.List.Sort
import Mathlib.Data.String.Basic

/-!
# Market data

`get_tradable_trading_assets` and `get_market_histories` ask the trading provider and keep
what they made of its answers, the assets for five minutes and the histories for one.  The
provider's answers are arbitrary JSON: a value of another type than the code expects raises
what it raises in Python.

What depends on the character tables and on the arithmetic of floats is a parameter
(`Runtime`).
-/

namespace AfricaFrontier

open Python

/-! ## What the program stands on

Nothing about floats is assumed but what `Runtime` lists. -/

/-- Cases and classes of characters, and the arithmetic of floats. -/
structure Runtime where
  upper : String → String
  /-- `c.isalnum()`. -/
  alnum : Char → Bool
  /-- `float(n)`; `none` is an `OverflowError`. -/
  ofInt : ℤ → Option PyFloat
  sub : PyFloat → PyFloat → PyFloat
  mul : PyFloat → PyFloat → PyFloat
  div : PyFloat → PyFloat → PyFloat
  /-- No space turns up at the ends of a text in upper case. -/
  strip_upper : ∀ s, strip (upper (strip s)) = upper (strip s)
  upper_upper : ∀ s, upper (upper (strip s)) = upper (strip s)
  alnum_bar : alnum '|' = false
  alnum_colon : alnum ':' = false

/-- What ends a call early. -/
inductive MarketError
  | http (exception : HttpException)
  | python (exception : PyException)
  | overflow
  deriving DecidableEq

/-- `xs[start:]`. -/
def sliceFrom {α : Type} (start : ℤ) (xs : List α) : List α :=
  xs.drop (if start < 0 then (xs.length + start).toNat else start.toNat)

/-- The first and the last moment a `datetime` can have. -/
def minInstant : Instant := -62135596800000000

/-- The last moment. -/
def maxInstant : Instant := 253402300799999999

/-! ## The provider

A request goes out for the stocks, another for the pairs with a slash. -/

/-- `get_stock_bars` or `get_crypto_bars`. -/
structure BarsRequest where
  crypto : Bool
  symbols : List String
  timeframe : String
  start : Instant
  adjustment : Option String
  feed : Option String
  limit : ℤ

/-- What one call hears: the clock, and the answers of the provider. They may differ from call to
call in any way. -/
structure MarketSource where
  now : Instant
  now_mem : minInstant ≤ now ∧ now ≤ maxInstant
  /-- `list_assets`, or the text of the exception. -/
  assets : List (String × String) → Except String Json
  /-- `gather`: a payload for each request, or the text of the exception. -/
  bars : List BarsRequest → Except String (BarsRequest → Json)

/-! ## Assets

The answer is a list in the good case; any other value raises, or has no assets. -/

/-- The parameters of `list_assets`. -/
def assetParams (assetClass : Option String) : List (String × String) :=
  ("status", "active") ::
    match assetClass with
    | none => []
    | some text => if text = "" then [] else [("asset_class", text)]

/-- `asset.get("tradable") is True`. -/
def isTradable (asset : Json) : Except MarketError Bool :=
  match asset with
  | .obj fields => .ok (decide (Obj.get fields "tradable" = .bool true))
  | _ => .error (.python .attribute)

/-- `str(asset.get("symbol") or "")`. -/
def assetSymbol (asset : Json) : String :=
  match asset with
  | .obj fields => Obj.firstText fields ["symbol"]
  | _ => ""

/-- The tradable assets by symbol. -/
def loadAssets (source : MarketSource) (assetClass : Option String) :
    Except MarketError (List Json) :=
  match source.assets (assetParams assetClass) with
  | .error text => .error (.http ⟨502, text⟩)
  | .ok (.arr assets) => do
      let tradable ← assets.filterM isTradable
      .ok (tradable.insertionSort fun a b => assetSymbol a ≤ assetSymbol b)
  | .ok _ => .ok []

/-- `asset_class or "all"`. -/
def assetKey : Option String → String
  | none => "all"
  | some text => if text = "" then "all" else text

/-- `_instrument_cache`. -/
def assetPolicy : Memo.Policy (Option String) String MarketSource MarketError (List Json) ℚ where
  route assetClass := .inr (assetKey assetClass)
  make := loadAssets
  lifetime _ := 300

/-- `get_tradable_trading_assets`. -/
def getTradableTradingAssets (cache : Memo.Store assetPolicy) (assetClass : Option String)
    (asked : ℚ) (source : MarketSource) : Except MarketError (Memo.Reply assetPolicy) :=
  cache.reply assetClass asked source

/-! ## Bars

What makes a bar one that is shown, and what is computed from the closes. -/

/-- A bar as it is shown. -/
structure ShownBar where
  timestamp : Json
  opening : Json
  high : Json
  low : Json
  close : Json
  volume : Json
  deriving DecidableEq

/-- A history as the routes give it out. -/
structure MarketHistory where
  symbol : String
  bars : List ShownBar
  lastPrice : Option PyFloat
  previousClose : Option PyFloat
  change : Option PyFloat
  changePercent : Option PyFloat
  currency : String
  deriving DecidableEq

/-- `isinstance(value, (int, float))`; the truth values are integers. -/
def isNumber : Json → Bool
  | .bool _ => true
  | .int _ => true
  | .float _ => true
  | _ => false

/-- The bars that are shown: dicts with a number for a close. -/
def shownBar (bar : Json) : Option ShownBar :=
  match bar with
  | .obj fields =>
      if isNumber (Obj.get fields "c") then
        some
          { timestamp := Obj.get fields "t"
            opening := Obj.get fields "o"
            high := Obj.get fields "h"
            low := Obj.get fields "l"
            close := Obj.get fields "c"
            volume := Obj.get fields "v" }
      else none
  | _ => none

/-- `float(value)` of a number. -/
def Runtime.float (rt : Runtime) : Json → Except MarketError PyFloat
  | .bool b => ((rt.ofInt (if b then 1 else 0)).map .ok).getD (.error .overflow)
  | .int n => ((rt.ofInt n).map .ok).getD (.error .overflow)
  | .float x => .ok x
  | _ => .error (.python .type)

/-- `value == 0`. -/
def isZero : PyFloat → Bool
  | .finite _ digits _ => digits = 0
  | _ => false

/-- The history of bars with these closes. -/
def Runtime.history (rt : Runtime) (symbol : String) (normalized : List ShownBar)
    (closes : List PyFloat) : MarketHistory :=
  let latest := closes.getLast?
  let previous := closes.dropLast.getLast?
  let change := latest.bind fun latest => previous.bind fun previous =>
    if isZero previous then none else some (rt.sub latest previous)
  let changePercent := change.bind fun change => previous.map fun previous =>
    rt.mul (rt.div change previous) (.finite false 1 2)
  { symbol := symbol
    bars := normalized
    lastPrice := latest
    previousClose := previous
    change := change
    changePercent := changePercent
    currency := "USD" }

/-- `normalize_bars`. -/
def normalizeBars (rt : Runtime) (symbol : String) (bars : List Json) :
    Except MarketError MarketHistory := do
  let normalized := bars.filterMap shownBar
  let closes ← normalized.mapM fun bar => rt.float bar.close
  .ok (rt.history symbol normalized closes)

/-! ## Histories

Cleaning, cutting to so many symbols, asking, and one history for each symbol. -/

/-- The arguments of `get_market_histories`. -/
structure HistoryCall where
  symbols : List String
  days : ℤ := 7
  timeframe : String := "1Day"

/-- `symbol.strip().upper()`. -/
def Runtime.clean (rt : Runtime) (symbol : String) : String := rt.upper (strip symbol)

namespace Runtime

variable (rt : Runtime)

/-- A clean symbol is clean. -/
@[simp] theorem clean_clean (symbol : String) : rt.clean (rt.clean symbol) = rt.clean symbol := by
  rw [clean, clean, rt.strip_upper, rt.upper_upper]

/-- A clean symbol has no space around it. -/
@[simp] theorem strip_clean (symbol : String) : strip (rt.clean symbol) = rt.clean symbol :=
  rt.strip_upper symbol

/-- `clean_symbols`. -/
def cleanSymbols (symbols : List String) : List String :=
  ((((symbols.filter fun symbol => strip symbol ≠ "").map rt.clean).dedup).insertionSort
    (· ≤ ·)).take 25

/-- The symbols that are asked for are some of those that are named. -/
theorem mem_cleanSymbols {symbols : List String} {symbol : String}
    (h : symbol ∈ rt.cleanSymbols symbols) :
    ∃ named ∈ symbols, strip named ≠ "" ∧ rt.clean named = symbol := by
  have hsorted := List.mem_of_mem_take h
  rw [List.mem_insertionSort, List.mem_dedup, List.mem_map] at hsorted
  obtain ⟨named, hnamed, hclean⟩ := hsorted
  obtain ⟨hmem, hblank⟩ := List.mem_filter.mp hnamed
  exact ⟨named, hmem, of_decide_eq_true hblank, hclean⟩

/-- The symbols that are asked for are clean. -/
theorem clean_of_mem {symbols : List String} {symbol : String}
    (h : symbol ∈ rt.cleanSymbols symbols) : rt.clean symbol = symbol := by
  obtain ⟨named, -, -, rfl⟩ := rt.mem_cleanSymbols h
  exact rt.clean_clean named

/-- One symbol is asked for as itself. -/
theorem cleanSymbols_singleton {symbol : String} (h : strip symbol ≠ "") :
    rt.cleanSymbols [symbol] = [rt.clean symbol] := by
  have hkept : [symbol].filter (fun symbol => decide (strip symbol ≠ "")) = [symbol] := by
    rw [List.filter_singleton, decide_eq_true h]
    rfl
  rw [cleanSymbols, hkept]
  rfl

end Runtime

/-- The arguments with the symbols cleaned. -/
@[ext] structure HistoryRequest (rt : Runtime) where
  symbols : List String
  days : ℤ
  timeframe : String
  clean : ∀ symbol ∈ symbols, rt.clean symbol = symbol
  deriving DecidableEq

/-- The request a call comes to. -/
def HistoryCall.request (rt : Runtime) (call : HistoryCall) : HistoryRequest rt where
  symbols := rt.cleanSymbols call.symbols
  days := call.days
  timeframe := call.timeframe
  clean _ h := rt.clean_of_mem h

/-- Its symbols. -/
theorem HistoryCall.request_symbols (rt : Runtime) (call : HistoryCall) :
    (call.request rt).symbols = rt.cleanSymbols call.symbols := rfl

/-- The time of the first bar that is asked for. -/
def historyStart (now : Instant) (days : ℤ) : Except MarketError Instant :=
  if |days + 4| ≤ 999999999 ∧ minInstant ≤ now - (days + 4) * dayLength ∧
      now - (days + 4) * dayLength ≤ maxInstant then
    .ok (now - (days + 4) * dayLength)
  else .error .overflow

/-- The requests to the provider, for the stocks and for the pairs. -/
def HistoryRequest.barsRequests {rt : Runtime} (r : HistoryRequest rt) (start : Instant) :
    List BarsRequest :=
  let stocks := r.symbols.filter fun symbol => ¬ '/' ∈ symbol.toList
  let pairs := r.symbols.filter fun symbol => '/' ∈ symbol.toList
  let limit := min 1000 (r.symbols.length * (r.days * (if r.timeframe = "1Hour" then 8 else 1) + 8))
  (if stocks = [] then []
    else [⟨false, stocks, r.timeframe, start, some "all", some "iex", limit⟩]) ++
  if pairs = [] then [] else [⟨true, pairs, r.timeframe, start, none, none, limit⟩]

/-- An entry of `dict.update`: a pair of a key and a value. -/
def updateEntry (entries : Obj) (item : Json) : Except MarketError Obj :=
  let put (key value : Json) : Except MarketError Obj :=
    match key with
    | .str text => .ok (entries.set text value)
    | .arr _ => .error (.python .type)
    | .obj _ => .error (.python .type)
    -- a key that no symbol is equal to
    | _ => .ok entries
  match item with
  | .arr [key, value] => put key value
  | .obj [(key, _), (value, _)] => put (.str key) (.str value)
  | .str text =>
      match text.toList with
      | [key, value] => put (.str (String.ofList [key])) (.str (String.ofList [value]))
      | _ => .error (.python .value)
  | .arr _ => .error (.python .value)
  | .obj _ => .error (.python .value)
  | _ => .error (.python .type)

/-- `entries.update(value)`. -/
def updateWith (entries : Obj) (value : Json) : Except MarketError Obj :=
  match value with
  | .obj fields => .ok (fields.foldl (fun entries field => entries.set field.1 field.2) entries)
  | .arr items => items.foldlM updateEntry entries
  | .str text => if text = "" then .ok entries else .error (.python .value)
  | _ => .error (.python .type)

/-- `bars_by_symbol`. -/
def barsBySymbol (payloads : List Json) : Except MarketError Obj :=
  payloads.foldlM (fun entries payload =>
    match payload with
    | .obj fields => updateWith entries (Obj.getD fields "bars" (.obj []))
    | _ => .ok entries) []

/-- `bars_by_symbol` of what the provider answers to a request. -/
def HistoryRequest.bars {rt : Runtime} (r : HistoryRequest rt) (source : MarketSource) :
    Except MarketError Obj := do
  let start ← historyStart source.now r.days
  match source.bars (r.barsRequests start) with
  | .error text =>
      .error (.http ⟨502, "Unable to load Trading API market data: " ++ text⟩)
  | .ok answer => barsBySymbol ((r.barsRequests start).map answer)

/-- `value[-days:]`, as a list of what it can be iterated over. -/
def lastBars (value : Json) (days : ℤ) : Except MarketError (List Json) :=
  match value with
  | .arr items => .ok (sliceFrom (-days) items)
  | .str text => .ok ((sliceFrom (-days) text.toList).map fun c => .str (String.ofList [c]))
  | .obj _ => .error (.python .key)
  | _ => .error (.python .type)

/-- The entry of a symbol. -/
def symbolHistory (rt : Runtime) (bars : Obj) (days : ℤ) (symbol : String) :
    Except MarketError (String × MarketHistory) := do
  let last ← lastBars (bars.getD symbol (.arr [])) days
  let history ← normalizeBars rt symbol last
  .ok (symbol, history)

/-- What `get_market_histories` returns. -/
abbrev Histories := List (String × MarketHistory)

/-- The histories of the symbols, in their order. -/
def loadHistories (rt : Runtime) (source : MarketSource) (r : HistoryRequest rt) :
    Except MarketError Histories := do
  let bars ← r.bars source
  r.symbols.mapM (symbolHistory rt bars r.days)

/-- The key of `_market_history_cache`. -/
def historyKey {rt : Runtime} (r : HistoryRequest rt) : String :=
  "|".intercalate r.symbols ++ ":" ++ toString r.days ++ ":" ++ r.timeframe

/-- `_market_history_cache`: answers are kept for a minute, and a call without symbols is answered
without it. -/
def historyPolicy (rt : Runtime) :
    Memo.Policy (HistoryRequest rt) String MarketSource MarketError Histories ℚ where
  route r := if r.symbols = [] then .inl [] else .inr (historyKey r)
  make := loadHistories rt
  lifetime _ := 60

/-- `get_market_histories`. -/
def getMarketHistories (rt : Runtime) (cache : Memo.Store (historyPolicy rt)) (call : HistoryCall)
    (asked : ℚ) (source : MarketSource) : Except MarketError (Memo.Reply (historyPolicy rt)) :=
  cache.reply (call.request rt) asked source

/-- `trading_market_snapshots`. -/
def tradingMarketSnapshots (rt : Runtime) (cache : Memo.Store (historyPolicy rt)) (symbols : String)
    (asked : ℚ) (source : MarketSource) : Except MarketError (Memo.Reply (historyPolicy rt)) :=
  let requested := ((symbols.toList.splitOn ',').map String.ofList).filter
    fun symbol => strip symbol ≠ ""
  getMarketHistories rt cache { symbols := requested } asked source

/-! ## What is made of the bars

The functions above as statements, where they succeed. -/

/-- A history is made if every close is one a float can hold. -/
theorem normalizeBars_eq_ok {rt : Runtime} {symbol : String} {bars : List Json}
    {history : MarketHistory} :
    normalizeBars rt symbol bars = .ok history ↔
      ∃ closes, List.Forall₂ (fun bar close => rt.float bar.close = .ok close)
        (bars.filterMap shownBar) closes ∧
          history = rt.history symbol (bars.filterMap shownBar) closes := by
  unfold normalizeBars
  dsimp only
  rw [bind_eq_ok]
  constructor
  · rintro ⟨closes, hcloses, hhistory⟩
    exact ⟨closes, mapM_eq_ok.mp hcloses, (Except.ok.inj hhistory).symm⟩
  · rintro ⟨closes, hcloses, hhistory⟩
    exact ⟨closes, mapM_eq_ok.mpr hcloses, congrArg Except.ok hhistory.symm⟩

/-- The history of a symbol is made from the last of its bars. -/
theorem symbolHistory_eq_ok {rt : Runtime} {bars : Obj} {days : ℤ} {symbol : String}
    {entry : String × MarketHistory} :
    symbolHistory rt bars days symbol = .ok entry ↔
      ∃ last, lastBars (bars.getD symbol (.arr [])) days = .ok last ∧
        normalizeBars rt symbol last = .ok entry.2 ∧ entry.1 = symbol := by
  unfold symbolHistory
  rw [bind_eq_ok]
  constructor
  · rintro ⟨last, hlast, hrest⟩
    obtain ⟨history, hhistory, hentry⟩ := bind_eq_ok.mp hrest
    cases hentry
    exact ⟨last, hlast, hhistory, rfl⟩
  · rintro ⟨last, hlast, hhistory, rfl⟩
    exact ⟨last, hlast, bind_eq_ok.mpr ⟨entry.2, hhistory, rfl⟩⟩

/-- The histories of a request are made from the bars of its symbols. -/
theorem loadHistories_eq_ok {rt : Runtime} {source : MarketSource} {r : HistoryRequest rt}
    {histories : Histories} :
    loadHistories rt source r = .ok histories ↔
      ∃ bars, r.bars source = .ok bars ∧ List.Forall₂
        (fun symbol entry => symbolHistory rt bars r.days symbol = .ok entry) r.symbols
          histories := by
  unfold loadHistories
  rw [bind_eq_ok]
  exact exists_congr fun bars => and_congr_right fun _ => mapM_eq_ok

/-- Every list of bars makes a history. -/
theorem exists_loadHistories {rt : Runtime} {r : HistoryRequest rt} {source : MarketSource}
    {bars : Obj} (hbars : r.bars source = .ok bars)
    (hitems : ∀ symbol ∈ r.symbols, ∃ items, bars.getD symbol (.arr []) = .arr items ∧
      ∀ bar ∈ items.filterMap shownBar, ∃ close, rt.float bar.close = .ok close) :
    ∃ histories, loadHistories rt source r = .ok histories := by
  have hentry : ∀ symbol ∈ r.symbols, ∃ entry, symbolHistory rt bars r.days symbol = .ok entry := by
    intro symbol hsymbol
    obtain ⟨items, harr, hread⟩ := hitems symbol hsymbol
    have hlast : lastBars (bars.getD symbol (.arr [])) r.days =
        .ok (sliceFrom (-r.days) items) := by
      rw [harr]
      rfl
    obtain ⟨closes, hcloses⟩ : ∃ closes,
        List.Forall₂ (fun bar close => rt.float bar.close = .ok close)
          ((sliceFrom (-r.days) items).filterMap shownBar) closes := by
      refine exists_forall₂ fun bar hbar => hread bar ?_
      exact ((List.drop_sublist _ items).filterMap shownBar).subset hbar
    exact ⟨(symbol, _), symbolHistory_eq_ok.mpr ⟨_, hlast,
      normalizeBars_eq_ok.mpr ⟨closes, hcloses, rfl⟩, rfl⟩⟩
  obtain ⟨histories, hhistories⟩ := exists_forall₂ hentry
  exact ⟨histories, loadHistories_eq_ok.mpr ⟨bars, hbars, hhistories⟩⟩

/-- The histories that are made have the symbols of the request. -/
theorem loadHistories_symbols {rt : Runtime} {source : MarketSource} {r : HistoryRequest rt}
    {histories : Histories} (h : loadHistories rt source r = .ok histories) :
    histories.map Prod.fst = r.symbols := by
  obtain ⟨bars, -, hall⟩ := loadHistories_eq_ok.mp h
  generalize r.symbols = symbols at hall
  clear h
  induction hall with
  | nil => rfl
  | cons hentry _ ih =>
      obtain ⟨last, -, -, hsymbol⟩ := symbolHistory_eq_ok.mp hentry
      rw [List.map_cons, ih, hsymbol]

/-- ASCII letters in upper case, and floats as decimals: a quotient to 17 places. -/
def decimalRuntime : Runtime where
  upper := Python.upper
  alnum c := c.isAlphanum
  ofInt n := some (.finite (n < 0) n.natAbs 0)
  sub
    | .finite s m e, .finite s' m' e' =>
        let scaled (s : Bool) (m : ℕ) (e : ℤ) : ℤ :=
          (if s then -1 else 1) * (m * 10 ^ (e - min e e').toNat)
        let n := scaled s m e - scaled s' m' e'
        .finite (n < 0) n.natAbs (min e e')
    | _, _ => .nan
  mul
    | .finite s m e, .finite s' m' e' => .finite (s ^^ s') (m * m') (e + e')
    | _, _ => .nan
  div
    | .finite s m e, .finite s' m' e' => .finite (s ^^ s') (m * 10 ^ 17 / m') (e - e' - 17)
    | _, _ => .nan
  strip_upper s := by rw [upper_strip, strip_strip]
  upper_upper s := by rw [Python.upper_upper]
  alnum_bar := by decide
  alnum_colon := by decide

end AfricaFrontier
