import AfricaFrontier.Kora.CashNeutral
import AfricaFrontier.Payments.Reads
import AfricaFrontier.Python.Special
import AfricaFrontier.Trading.History

/-!
# The virtual portfolio

`build_virtual_portfolio` asks for the histories of all positions at once and looks each one up
under the symbol of the position.  `get_market_histories` has them under the cleaned symbols,
and of these only under the first so many; and it has cut each list of bars to its end.

`portfolio_values_iff` says which of this matters.  A position is priced where the provider has
bars for its cleaned symbol, and a portfolio values every priced position if and only if each
of them is stored under its cleaned symbol, is among those asked for, and has a usable bar among
the last ones.

The argument has three parts, and the sections follow them.

* The price of a position is that of its own symbol in the histories. Whether they come from the
  cache or from the provider, they are made of the bars of one answer, the *basis*
  (`histories_eq`, `snapshotPrice_eq`).
* Bars are cut to the last ones before a close is looked for, so that the price that is found is
  the last close of all exactly if one of the last bars has a close (`lastClose_of_recent`).
* The totals are added up over the positions in the order of their symbols
  (`addPositions_valued`), with an infinite or undefined value spoiling the sum; finite prices
  never do (`exists_addPositions`).

Every lemma is about one position or one symbol until the last section.
-/

namespace AfricaFrontier

open Python Relational

/-! ## Positions

No route writes a position; its symbol may be any text of the column, in any case. -/

/-- A row of `virtual_positions`. -/
structure VirtualPosition where
  id : ℕ
  virtualAccountId : ℕ
  symbol : String
  quantity : ℚ
  averageCost : ℚ
  reconciledAt : Option Instant
  deriving DecidableEq

instance : Row VirtualPosition where
  Key := ℕ × (ℕ × String)
  key r := (r.id, r.virtualAccountId, r.symbol)
  primary := Prod.fst
  Clash a b := a.2 = b.2
  decClash _ _ := inferInstance

/-- The database with the tables and columns only the trading routes read. -/
structure TradingDb extends Db where
  positions : Table VirtualPosition
  /-- `created_at` of the account with the id. -/
  createdAt : ℕ → Option Instant
  /-- The order the database has texts in. -/
  collation : String → String → Bool

/-- The positions of an account by symbol. -/
def TradingDb.positionsOf (db : TradingDb) (account : ℕ) : List VirtualPosition :=
  db.positions.sorted (fun p => decide (p.virtualAccountId = account))
    fun a b => db.collation a.symbol b.symbol

/-! ## The portfolio

The route in the order of the source: the positions, their histories, one view after the other,
the cash. -/

/-- A position as it is shown. -/
structure PositionView where
  assetId : String
  symbol : String
  assetClass : String
  qty : ℚ
  marketValue : Option Dec
  costBasis : ℚ
  unrealizedPl : Option Dec
  unrealizedPlpc : Option Dec
  currentPrice : Option Dec
  deriving DecidableEq

/-- The account as it is shown. -/
structure AccountView where
  id : String
  accountNumber : String
  status : String
  currency : String
  cash : ℚ
  equity : Dec
  buyingPower : ℚ
  portfolioValue : Dec
  unrealizedPl : Dec
  deriving DecidableEq

/-- What is reported of the reconciliation of an account. -/
inductive ReconciliationStatus
  | pending
  | reconciled
  deriving DecidableEq

/-- What `build_virtual_portfolio` returns. -/
structure Portfolio where
  accountId : String
  account : AccountView
  positions : List PositionView
  reconciliationStatus : ReconciliationStatus
  lastReconciledAt : Option Instant
  readOnly : Bool
  deriving DecidableEq

/-- What keeps a portfolio from being built. -/
inductive PortfolioError
  | market (error : MarketError)
  | invalidOperation

/-- An operation on a value that may be missing. -/
def onValue (value : Option Dec) (f : Dec → Option Dec) : Option (Option Dec) :=
  match value with
  | none => some none
  | some x => (f x).map some

/-- A position at a price. -/
def positionView (price : Option Dec) (p : VirtualPosition) : Option PositionView := do
  let marketValue ← onValue price (Dec.scale p.quantity)
  let costBasis := inContext (p.quantity * p.averageCost)
  let unrealizedPl ← onValue marketValue fun value => value.add (.finite (-costBasis))
  some
    { assetId := strUuid p.id
      symbol := p.symbol
      assetClass := if '/' ∈ p.symbol.toList then "crypto" else "us_equity"
      qty := p.quantity
      marketValue := marketValue
      costBasis := costBasis
      unrealizedPl := unrealizedPl
      unrealizedPlpc := if costBasis ≠ 0 then unrealizedPl.map (Dec.divBy costBasis) else none
      currentPrice := price }

/-- The views of the positions so far, and their totals. -/
structure PortfolioTotals where
  positions : List PositionView
  marketValue : Dec
  unrealizedPl : Dec

/-- `total += value`, if there is one. -/
def addValue (total : Dec) (value : Option Dec) : Option Dec :=
  match value with
  | none => some total
  | some value => total.add value

/-- `histories.get(symbol, {}).get("last_price")`. -/
def snapshotPrice (histories : Histories) (p : VirtualPosition) : Option PyFloat :=
  (histories.lookup p.symbol).bind MarketHistory.lastPrice

/-- The next position, with the price of its snapshot. -/
def addPosition (histories : Histories) (totals : PortfolioTotals) (p : VirtualPosition) :
    Option PortfolioTotals := do
  let view ← positionView ((snapshotPrice histories p).map Dec.ofFloat) p
  let marketValue ← addValue totals.marketValue view.marketValue
  let unrealizedPl ← addValue totals.unrealizedPl view.unrealizedPl
  some ⟨totals.positions ++ [view], marketValue, unrealizedPl⟩

/-- The histories of the positions. -/
def positionHistories (rt : Runtime) (cache : Memo.Store (historyPolicy rt))
    (positions : List VirtualPosition) (asked : ℚ) (source : MarketSource) :
    Except MarketError Histories :=
  if positions = [] then .ok []
  else (getMarketHistories rt cache { symbols := positions.map VirtualPosition.symbol } asked
    source).map Memo.Reply.value

/-- `build_virtual_portfolio`. -/
def buildVirtualPortfolio (rt : Runtime) (cache : Memo.Store (historyPolicy rt))
    (account : VirtualAccount) (db : TradingDb) (asked : ℚ) (source : MarketSource) :
    Except PortfolioError Portfolio :=
  match positionHistories rt cache (db.positionsOf account.id) asked source with
  | .error error => .error (.market error)
  | .ok histories =>
      let cash := virtualCashBalance account.id db.toDb
      let built : Option Portfolio := do
        -- an infinite price and its negative make the sum raise
        let totals ← (db.positionsOf account.id).foldlM (addPosition histories)
          ⟨[], .finite 0, .finite 0⟩
        let equity ← (Dec.finite cash).add totals.marketValue
        some
          { accountId := virtualAccountPublicId account
            account :=
              { id := virtualAccountPublicId account
                accountNumber := virtualAccountPublicId account
                status := account.status
                currency := account.currency
                cash := cash
                equity := equity
                buyingPower := max cash 0
                portfolioValue := equity
                unrealizedPl := totals.unrealizedPl }
            positions := totals.positions
            reconciliationStatus := .pending
            lastReconciledAt := none
            readOnly := true }
      match built with
      | none => .error .invalidOperation
      | some portfolio => .ok portfolio

/-! ## What it should value

The market is a function from symbols to what the provider has for them, also for those that it
was not asked for. -/

/-- The bars of a provider's value. -/
def providerBars : Json → List Json
  | .arr items => items
  | _ => []

/-- The last close that is a number. -/
def Runtime.lastClose (rt : Runtime) (bars : List Json) : Option PyFloat :=
  (bars.filterMap shownBar).getLast?.bind fun bar => (rt.float bar.close).toOption

/-- One of the last bars has a close that is a number. -/
def RecentClose (days : ℤ) (value : Json) : Prop :=
  (sliceFrom (-days) (providerBars value)).filterMap shownBar ≠ []

instance (days : ℤ) (value : Json) : Decidable (RecentClose days value) :=
  inferInstanceAs (Decidable (_ ≠ _))

/-- The quantity times the price, if there is one, is added. -/
def addPriced (total : Dec) (price : Option PyFloat) (p : VirtualPosition) : Option Dec :=
  match price with
  | none => some total
  | some x => (Dec.scale p.quantity (Dec.ofFloat x)).bind total.add

/-- The total of the positions that have a price. -/
def pricedTotal (price : VirtualPosition → Option PyFloat) (total : Dec)
    (positions : List VirtualPosition) : Option Dec :=
  positions.foldlM (fun total p => addPriced total (price p) p) total

/-- The view is one of the position, with its value at the price if there is one. -/
structure ValuedAt (price : Option PyFloat) (p : VirtualPosition) (view : PositionView) :
    Prop where
  symbol : view.symbol = p.symbol
  marketValue :
    match price with
    | none => view.marketValue = none
    | some x => ∃ value, Dec.scale p.quantity (Dec.ofFloat x) = some value ∧
        view.marketValue = some value

section Market

variable (rt : Runtime) (cache : Memo.Store (historyPolicy rt)) (account : VirtualAccount)
  (db : TradingDb) (asked : ℚ) (source : MarketSource)

/-- The request and the provider the histories of the account come from. -/
def marketBasis : HistoryRequest rt × MarketSource :=
  cache.basis (HistoryCall.request rt
    { symbols := (db.positionsOf account.id).map VirtualPosition.symbol }) asked source

/-- `market` is what the provider has for every symbol: what it answered for those asked, in the
answer the call is given. -/
def IsMarket (market : String → Json) : Prop :=
  ∀ bars, (marketBasis rt cache account db asked source).1.bars
      (marketBasis rt cache account db asked source).2 = .ok bars →
    ∀ symbol ∈ (marketBasis rt cache account db asked source).1.symbols,
      bars.getD symbol (.arr []) = market symbol

/-- The answer has a list of bars for every symbol, and every close that is a number is a
finite one. -/
def Readable : Prop :=
  ∃ bars, (marketBasis rt cache account db asked source).1.bars
      (marketBasis rt cache account db asked source).2 = .ok bars ∧
    ∀ symbol ∈ (marketBasis rt cache account db asked source).1.symbols,
      ∃ items, bars.getD symbol (.arr []) = .arr items ∧
        ∀ bar ∈ items.filterMap shownBar,
          ∃ negative digits exponent, rt.float bar.close = .ok (.finite negative digits exponent)

/-- The price of a position, whose symbol may be in either case. -/
def marketPrice (market : String → Json) (p : VirtualPosition) : Option PyFloat :=
  rt.lastClose (providerBars (market (rt.clean p.symbol)))

/-- **Every priced position is valued**, no other one is, and the equity is the cash and their
total. -/
structure ValuesPriced (market : String → Json) (portfolio : Portfolio) : Prop where
  rows : List.Forall₂ (fun p view => ValuedAt (marketPrice rt market p) p view)
    (db.positionsOf account.id) portfolio.positions
  equity : ∃ total, pricedTotal (marketPrice rt market) (.finite 0) (db.positionsOf account.id) =
      some total ∧
    (Dec.finite (virtualCashBalance account.id db.toDb)).add total = some portfolio.account.equity

/-- Every priced position is stored under its cleaned symbol, is asked for, and has a close among
the last bars. -/
def PricedFound (market : String → Json) : Prop :=
  ∀ p ∈ db.positionsOf account.id, (marketPrice rt market p).isSome →
    p.symbol ∈ (marketBasis rt cache account db asked source).1.symbols ∧
      RecentClose (marketBasis rt cache account db asked source).1.days (market p.symbol)

end Market

/-! ## Last prices

What a history has for a last price, and when that is the last close of all bars. -/

variable {rt : Runtime}

/-- The last price of a history is the last close of its bars. -/
theorem lastPrice_normalize {symbol : String} {bars : List Json} {history : MarketHistory}
    (h : normalizeBars rt symbol bars = .ok history) : history.lastPrice = rt.lastClose bars := by
  obtain ⟨closes, hcloses, rfl⟩ := normalizeBars_eq_ok.mp h
  have hlast := getLast_forall₂ hcloses
  unfold Runtime.lastClose
  change closes.getLast? = _
  revert hlast
  generalize (bars.filterMap shownBar).getLast? = bar
  generalize closes.getLast? = close
  intro hlast
  cases hlast with
  | none => rfl
  | some hclose => rw [Option.bind_some, hclose]; rfl

/-- What is shown of the bars that are cut off. -/
theorem lastClose_lastBars {value : Json} {days : ℤ} {last : List Json}
    (h : lastBars value days = .ok last) :
    rt.lastClose last = rt.lastClose (sliceFrom (-days) (providerBars value)) := by
  cases value with
  | arr items =>
      cases h
      rfl
  | str text =>
      cases h
      -- no character of a text is a bar
      have hnone : ∀ cs : List Char,
          (cs.map fun c => Json.str (String.ofList [c])).filterMap shownBar = [] := by
        intro cs
        induction cs with
        | nil => rfl
        | cons c cs ih => exact ih
      have hcut : sliceFrom (-days) (providerBars (.str text)) = [] := List.drop_nil
      rw [Runtime.lastClose, hnone, hcut]
      rfl
  | _ => cases h

/-- The last close of all is the last one of the last bars, if there is one in these. -/
theorem lastClose_of_recent {days : ℤ} {value : Json} (h : RecentClose days value) :
    rt.lastClose (sliceFrom (-days) (providerBars value)) = rt.lastClose (providerBars value) := by
  unfold RecentClose sliceFrom at h
  unfold Runtime.lastClose sliceFrom
  generalize (if -days < 0 then ((providerBars value).length + -days).toNat
    else (-days).toNat) = cut at h ⊢
  conv_rhs => rw [← (providerBars value).take_append_drop cut]
  rw [List.filterMap_append, List.getLast?_append_of_ne_nil _ h]

/-- A last close among the last bars is one of theirs. -/
theorem recent_of_lastClose (rt : Runtime) {days : ℤ} {value : Json}
    (h : (rt.lastClose (sliceFrom (-days) (providerBars value))).isSome) :
    RecentClose days value := by
  intro hnone
  rw [Runtime.lastClose, hnone] at h
  cases h

/-! ## The prices that are looked up

From a position to its symbol, to the histories, to the basis they were made of. -/

/-- The price of a symbol in the histories of a request. -/
theorem lookup_histories {r : HistoryRequest rt} {source : MarketSource} {bars : Obj}
    {histories : Histories} (hbars : r.bars source = .ok bars)
    (h : loadHistories rt source r = .ok histories) (symbol : String) :
    (histories.lookup symbol).bind MarketHistory.lastPrice =
      if symbol ∈ r.symbols then
        rt.lastClose (sliceFrom (-r.days) (providerBars (bars.getD symbol (.arr []))))
      else none := by
  obtain ⟨bars', hbars', hall⟩ := loadHistories_eq_ok.mp h
  obtain rfl : bars = bars' := Except.ok.inj (hbars.symm.trans hbars')
  generalize r.symbols = symbols at hall ⊢
  clear h
  induction hall with
  | nil => rfl
  | @cons first entry symbols histories hentry _ ih =>
      obtain ⟨last, hlast, hhistory, hsymbol⟩ := symbolHistory_eq_ok.mp hentry
      obtain ⟨key, history⟩ := entry
      obtain rfl : key = first := hsymbol
      by_cases hkey : symbol = key
      · subst hkey
        rw [List.lookup_cons_self, Option.bind_some, lastPrice_normalize hhistory,
          lastClose_lastBars hlast, if_pos List.mem_cons_self]
      · have hother : (symbol == key) = false := beq_eq_false_iff_ne.mpr hkey
        rw [List.lookup_cons, hother]
        simpa only [List.mem_cons, hkey, false_or] using ih

variable {cache : Memo.Store (historyPolicy rt)} {account : VirtualAccount} {db : TradingDb}
  {asked : ℚ} {source : MarketSource} {market : String → Json} {histories : Histories}

/-- The histories of the positions are made of their basis, if any symbol is asked for. -/
theorem histories_eq (rt : Runtime) (cache : Memo.Store (historyPolicy rt)) (asked : ℚ)
    (source : MarketSource) (hne : db.positionsOf account.id ≠ []) :
    ((marketBasis rt cache account db asked source).1.symbols = [] ∧
      positionHistories rt cache (db.positionsOf account.id) asked source = .ok []) ∨
    positionHistories rt cache (db.positionsOf account.id) asked source =
      loadHistories rt (marketBasis rt cache account db asked source).2
        (marketBasis rt cache account db asked source).1 := by
  unfold positionHistories getMarketHistories
  rw [if_neg hne]
  cases hroute : (historyPolicy rt).route (HistoryCall.request rt
      { symbols := (db.positionsOf account.id).map VirtualPosition.symbol }) with
  | inl direct =>
      obtain ⟨hsymbols, rfl⟩ := historyRoute_inl hroute
      have hlook : cache.look (HistoryCall.request rt
          { symbols := (db.positionsOf account.id).map VirtualPosition.symbol }) asked =
            some (.direct []) := by
        rw [Memo.Store.look, hroute]
      refine Or.inl ⟨?_, ?_⟩
      · rw [marketBasis, Memo.Store.basis, hlook]
        exact hsymbols
      · rw [Memo.Store.reply, hlook]
        rfl
  | inr key => exact Or.inr (Memo.Store.reply_value hroute)

/-- A position has the price of its own symbol, if that is asked for. -/
theorem snapshotPrice_eq
    (hhistories : positionHistories rt cache (db.positionsOf account.id) asked source =
      .ok histories)
    (hmarket : IsMarket rt cache account db asked source market) {p : VirtualPosition}
    (hp : p ∈ db.positionsOf account.id) :
    snapshotPrice histories p =
      if p.symbol ∈ (marketBasis rt cache account db asked source).1.symbols then
        rt.lastClose (sliceFrom (-(marketBasis rt cache account db asked source).1.days)
          (providerBars (market p.symbol)))
      else none := by
  rcases histories_eq rt cache asked source (List.ne_nil_of_mem hp) with ⟨hsymbols, hnone⟩ | hload
  · rw [hhistories] at hnone
    cases hnone
    rw [hsymbols, if_neg List.not_mem_nil]
    rfl
  · rw [hhistories] at hload
    obtain ⟨bars, hbars, -⟩ := loadHistories_eq_ok.mp hload.symm
    rw [snapshotPrice, lookup_histories hbars hload.symm]
    split
    · rename_i hasked
      rw [hmarket bars hbars _ hasked]
    · rfl

/-- A price that was found is of a symbol that was asked for, with a recent close. -/
theorem found_of_snapshotPrice
    (hhistories : positionHistories rt cache (db.positionsOf account.id) asked source =
      .ok histories)
    (hmarket : IsMarket rt cache account db asked source market) {p : VirtualPosition}
    (hp : p ∈ db.positionsOf account.id) (hpriced : (snapshotPrice histories p).isSome) :
    p.symbol ∈ (marketBasis rt cache account db asked source).1.symbols ∧
      RecentClose (marketBasis rt cache account db asked source).1.days (market p.symbol) := by
  rw [snapshotPrice_eq hhistories hmarket hp] at hpriced
  split at hpriced
  · rename_i hasked
    exact ⟨hasked, recent_of_lastClose rt hpriced⟩
  · cases hpriced

/-- A position has its price in the market, if that is found. -/
theorem snapshotPrice_eq_market
    (hhistories : positionHistories rt cache (db.positionsOf account.id) asked source =
      .ok histories)
    (hmarket : IsMarket rt cache account db asked source market) {p : VirtualPosition}
    (hp : p ∈ db.positionsOf account.id)
    (hfound : (marketPrice rt market p).isSome →
      p.symbol ∈ (marketBasis rt cache account db asked source).1.symbols ∧
        RecentClose (marketBasis rt cache account db asked source).1.days (market p.symbol)) :
    snapshotPrice histories p = marketPrice rt market p := by
  by_cases hasked : p.symbol ∈ (marketBasis rt cache account db asked source).1.symbols
  · -- what is asked for is cleaned
    have hclean : marketPrice rt market p = rt.lastClose (providerBars (market p.symbol)) := by
      rw [marketPrice, (marketBasis rt cache account db asked source).1.clean _ hasked]
    rw [hclean] at hfound
    rw [snapshotPrice_eq hhistories hmarket hp, if_pos hasked, hclean]
    by_cases hrecent : RecentClose (marketBasis rt cache account db asked source).1.days
        (market p.symbol)
    · exact lastClose_of_recent hrecent
    · have hall := Option.not_isSome_iff_eq_none.mp fun hpriced => hrecent (hfound hpriced).2
      have hlast := Option.not_isSome_iff_eq_none.mp fun hpriced =>
        hrecent (recent_of_lastClose rt hpriced)
      rw [hall, hlast]
  · have hnone := Option.not_isSome_iff_eq_none.mp fun hpriced => hasked (hfound hpriced).1
    rw [snapshotPrice_eq hhistories hmarket hp, if_neg hasked, hnone]

/-! ## One position after another

A fold over the positions; each adds one view and its value. -/

/-- The view of a position is right for the price it was given. -/
theorem positionView_valued {price : Option PyFloat} {p : VirtualPosition} {view : PositionView}
    (h : positionView (price.map Dec.ofFloat) p = some view) : ValuedAt price p view := by
  obtain ⟨marketValue, hvalue, hrest⟩ := Option.bind_eq_some_iff.mp h
  obtain ⟨unrealizedPl, -, hview⟩ := Option.bind_eq_some_iff.mp hrest
  obtain rfl := Option.some.inj hview
  refine ⟨rfl, ?_⟩
  cases price with
  | none => exact (Option.some.inj hvalue).symm
  | some x =>
      obtain ⟨value, hscaled, hsome⟩ := Option.map_eq_some_iff.mp hvalue
      exact ⟨value, hscaled, hsome.symm⟩

/-- What a position adds to the total. -/
theorem ValuedAt.addValue_eq {price : Option PyFloat} {p : VirtualPosition} {view : PositionView}
    (h : ValuedAt price p view) (total : Dec) :
    addValue total view.marketValue = addPriced total price p := by
  cases price with
  | none =>
      have hnone : view.marketValue = none := h.marketValue
      rw [hnone]
      rfl
  | some x =>
      obtain ⟨value, hscaled, hvalue⟩ := h.marketValue
      rw [hvalue, addPriced, hscaled]
      rfl

/-- What a position adds to the totals. -/
theorem addPosition_eq_some {totals totals' : PortfolioTotals} {p : VirtualPosition} :
    addPosition histories totals p = some totals' ↔
      ∃ view, positionView ((snapshotPrice histories p).map Dec.ofFloat) p = some view ∧
        totals'.positions = totals.positions ++ [view] ∧
        addValue totals.marketValue view.marketValue = some totals'.marketValue ∧
        addValue totals.unrealizedPl view.unrealizedPl = some totals'.unrealizedPl := by
  unfold addPosition
  constructor
  · intro h
    obtain ⟨view, hview, hrest⟩ := Option.bind_eq_some_iff.mp h
    obtain ⟨marketValue, hvalue, hrest⟩ := Option.bind_eq_some_iff.mp hrest
    obtain ⟨unrealizedPl, hprofit, htotals⟩ := Option.bind_eq_some_iff.mp hrest
    cases htotals
    exact ⟨view, hview, rfl, hvalue, hprofit⟩
  · rintro ⟨view, hview, hpositions, hvalue, hprofit⟩
    refine Option.bind_eq_some_iff.mpr ⟨view, hview, ?_⟩
    refine Option.bind_eq_some_iff.mpr ⟨_, hvalue, ?_⟩
    refine Option.bind_eq_some_iff.mpr ⟨_, hprofit, ?_⟩
    rw [← hpositions]

/-- Every position is valued at its price, and the values are added up. -/
theorem addPositions_valued {price : VirtualPosition → Option PyFloat}
    {positions : List VirtualPosition} {totals totals' : PortfolioTotals}
    (hprice : ∀ p ∈ positions, snapshotPrice histories p = price p)
    (h : positions.foldlM (addPosition histories) totals = some totals') :
    ∃ views, totals'.positions = totals.positions ++ views ∧
      List.Forall₂ (fun p view => ValuedAt (price p) p view) positions views ∧
      pricedTotal price totals.marketValue positions = some totals'.marketValue := by
  induction positions generalizing totals with
  | nil =>
      cases h
      exact ⟨[], (List.append_nil _).symm, List.Forall₂.nil, rfl⟩
  | cons p positions ih =>
      rw [List.foldlM_cons] at h
      obtain ⟨between, hfirst, hrest⟩ := Option.bind_eq_some_iff.mp h
      obtain ⟨view, hview, hpositions, hvalue, -⟩ := addPosition_eq_some.mp hfirst
      obtain ⟨views, hviews, hvalued, htotal⟩ :=
        ih (fun p hp => hprice p (List.mem_cons_of_mem _ hp)) hrest
      rw [hprice p List.mem_cons_self] at hview
      have hone := positionView_valued hview
      refine ⟨view :: views, ?_, List.Forall₂.cons hone hvalued, ?_⟩
      · rw [hviews, hpositions, List.append_assoc, List.singleton_append]
      · rw [hone.addValue_eq] at hvalue
        rw [pricedTotal, List.foldlM_cons]
        exact Option.bind_eq_some_iff.mpr ⟨_, hvalue, htotal⟩

/-- A position that is valued at one price and at another has both prices or none. -/
theorem priced_of_valued {price price' : VirtualPosition → Option PyFloat}
    {positions : List VirtualPosition} {views : List PositionView}
    (h : List.Forall₂ (fun p view => ValuedAt (price p) p view) positions views)
    (h' : List.Forall₂ (fun p view => ValuedAt (price' p) p view) positions views) :
    ∀ p ∈ positions, (price p).isSome → (price' p).isSome := by
  induction h with
  | nil => exact fun p hp => absurd hp List.not_mem_nil
  | @cons p view positions views hone _ ih =>
      obtain ⟨hone', hrest'⟩ := List.forall₂_cons.mp h'
      rw [List.forall_mem_cons]
      refine ⟨fun hpriced => ?_, ih hrest'⟩
      obtain ⟨x, hx⟩ := Option.isSome_iff_exists.mp hpriced
      by_contra hnot
      have hnone := hone'.marketValue
      have hvalue := hone.marketValue
      rw [Option.not_isSome_iff_eq_none.mp hnot] at hnone
      rw [hx] at hvalue
      obtain ⟨value, -, hsome⟩ := hvalue
      rw [hsome] at hnone
      cases hnone

/-! ## The whole portfolio

What a portfolio that was returned consists of. -/

/-- The parts of a portfolio that was returned. -/
theorem buildVirtualPortfolio_eq_ok {portfolio : Portfolio} :
    buildVirtualPortfolio rt cache account db asked source = .ok portfolio →
      ∃ histories totals,
        positionHistories rt cache (db.positionsOf account.id) asked source = .ok histories ∧
        (db.positionsOf account.id).foldlM (addPosition histories) ⟨[], .finite 0, .finite 0⟩ =
          some totals ∧
        portfolio.positions = totals.positions ∧
        (Dec.finite (virtualCashBalance account.id db.toDb)).add totals.marketValue =
          some portfolio.account.equity ∧
        portfolio.account.cash = virtualCashBalance account.id db.toDb ∧
        portfolio.account.currency = account.currency := by
  intro h
  unfold buildVirtualPortfolio at h
  split at h
  · cases h
  · rename_i histories hhistories
    dsimp only at h
    split at h
    · cases h
    · rename_i built hbuilt
      cases h
      obtain ⟨totals, htotals, hrest⟩ := Option.bind_eq_some_iff.mp hbuilt
      obtain ⟨equity, hequity, hportfolio⟩ := Option.bind_eq_some_iff.mp hrest
      cases hportfolio
      exact ⟨histories, totals, hhistories, htotals, rfl, hequity, rfl, rfl⟩

/-! ## Answers that can be read

Nothing raises where all closes are finite. -/

/-- A value that is missing or finite. -/
def FiniteValue (value : Option Dec) : Prop := ∀ v ∈ value, ∃ x, v = .finite x

/-- Finite values have a finite sum. -/
theorem addValue_finite {value : Option Dec} (h : FiniteValue value) (total : ℚ) :
    ∃ x, addValue (.finite total) value = some (.finite x) := by
  cases value with
  | none => exact ⟨total, rfl⟩
  | some v =>
      obtain ⟨x, rfl⟩ := h v rfl
      exact ⟨inContext (total + x), rfl⟩

/-- A finite price makes finite values. -/
theorem positionView_finite {price : Option Dec} (h : FiniteValue price) (p : VirtualPosition) :
    ∃ view, positionView price p = some view ∧ FiniteValue view.marketValue ∧
      FiniteValue view.unrealizedPl := by
  cases price with
  | none =>
      refine ⟨_, rfl, ?_, ?_⟩
      · exact fun v hv => absurd hv (Option.not_mem_none v)
      · exact fun v hv => absurd hv (Option.not_mem_none v)
  | some price =>
      obtain ⟨x, rfl⟩ := h price rfl
      refine ⟨_, rfl, ?_, ?_⟩
      · rintro v ⟨⟩
        exact ⟨_, rfl⟩
      · rintro v ⟨⟩
        exact ⟨_, rfl⟩

/-- The positions are added up if their prices are finite. -/
theorem exists_addPositions {positions : List VirtualPosition} (totals : PortfolioTotals)
    (hvalue : ∃ x, totals.marketValue = .finite x) (hprofit : ∃ x, totals.unrealizedPl = .finite x)
    (hprice : ∀ p ∈ positions, FiniteValue ((snapshotPrice histories p).map Dec.ofFloat)) :
    ∃ totals', positions.foldlM (addPosition histories) totals = some totals' ∧
      ∃ x, totals'.marketValue = .finite x := by
  induction positions generalizing totals with
  | nil => exact ⟨totals, rfl, hvalue⟩
  | cons p positions ih =>
      obtain ⟨view, hview, hviewValue, hviewProfit⟩ :=
        positionView_finite (hprice p List.mem_cons_self) p
      obtain ⟨value, hvalue⟩ := hvalue
      obtain ⟨profit, hprofit⟩ := hprofit
      obtain ⟨value', hvalue'⟩ := addValue_finite hviewValue value
      obtain ⟨profit', hprofit'⟩ := addValue_finite hviewProfit profit
      obtain ⟨totals', hrest, hfinite⟩ :=
        ih ⟨totals.positions ++ [view], .finite value', .finite profit'⟩ ⟨value', rfl⟩
          ⟨profit', rfl⟩ fun p hp => hprice p (List.mem_cons_of_mem _ hp)
      refine ⟨totals', ?_, hfinite⟩
      rw [List.foldlM_cons]
      refine Option.bind_eq_some_iff.mpr ⟨_, addPosition_eq_some.mpr ⟨view, hview, rfl, ?_, ?_⟩,
        hrest⟩
      · rw [hvalue]
        exact hvalue'
      · rw [hprofit]
        exact hprofit'

/-- A last close is that of one of the bars. -/
theorem lastClose_eq_some {bars : List Json} {x : PyFloat} (h : rt.lastClose bars = some x) :
    ∃ bar ∈ bars.filterMap shownBar, rt.float bar.close = .ok x := by
  obtain ⟨bar, hbar, hclose⟩ := Option.bind_eq_some_iff.mp h
  refine ⟨bar, List.mem_of_getLast? hbar, ?_⟩
  cases hfloat : rt.float bar.close with
  | error e =>
      rw [hfloat] at hclose
      cases hclose
  | ok y =>
      rw [hfloat] at hclose
      rw [Option.some.inj hclose]

/-- The histories of an answer that can be read have finite prices. -/
theorem exists_histories (hread : Readable rt cache account db asked source) :
    ∃ histories,
      positionHistories rt cache (db.positionsOf account.id) asked source = .ok histories ∧
      ∀ p ∈ db.positionsOf account.id,
        FiniteValue ((snapshotPrice histories p).map Dec.ofFloat) := by
  by_cases hnone : db.positionsOf account.id = []
  · refine ⟨[], if_pos hnone, ?_⟩
    rw [hnone]
    exact fun p hp => absurd hp List.not_mem_nil
  obtain ⟨bars, hbars, hitems⟩ := hread
  obtain ⟨histories, hhistories⟩ : ∃ histories,
      positionHistories rt cache (db.positionsOf account.id) asked source = .ok histories := by
    rcases histories_eq rt cache asked source hnone with
      ⟨-, hdirect⟩ | hload
    · exact ⟨[], hdirect⟩
    · rw [hload]
      refine exists_loadHistories hbars fun symbol hsymbol => ?_
      obtain ⟨items, harr, hfinite⟩ := hitems symbol hsymbol
      refine ⟨items, harr, fun bar hbar => ?_⟩
      obtain ⟨negative, digits, exponent, hclose⟩ := hfinite bar hbar
      exact ⟨_, hclose⟩
  -- the answer itself is a market, on which the prices can be read
  have hmarket : IsMarket rt cache account db asked source
      fun symbol => bars.getD symbol (.arr []) := by
    intro bars' hbars' symbol _
    rw [Except.ok.inj (hbars'.symm.trans hbars)]
  refine ⟨histories, hhistories, fun p hp => ?_⟩
  rw [snapshotPrice_eq hhistories hmarket hp]
  split
  -- a last price is the close of one of the bars, and these are finite
  · rename_i hasked
    obtain ⟨items, harr, hfinite⟩ := hitems p.symbol hasked
    intro v hv
    obtain ⟨x, hx, rfl⟩ := Option.map_eq_some_iff.mp hv
    obtain ⟨bar, hbar, hclose⟩ := lastClose_eq_some hx
    rw [harr] at hbar
    obtain ⟨negative, digits, exponent, hclose'⟩ :=
      hfinite bar (((List.drop_sublist _ items).filterMap shownBar).subset hbar)
    rw [Except.ok.inj (hclose.symm.trans hclose')]
    exact ⟨_, rfl⟩
  · exact fun v hv => absurd hv (Option.not_mem_none v)

/-- A portfolio is returned wherever the answer can be read. -/
theorem exists_portfolio (hread : Readable rt cache account db asked source) :
    ∃ portfolio, buildVirtualPortfolio rt cache account db asked source = .ok portfolio := by
  obtain ⟨histories, hhistories, hprice⟩ := exists_histories hread
  obtain ⟨totals, htotals, value, hvalue⟩ := exists_addPositions
    ⟨[], .finite 0, .finite 0⟩ ⟨0, rfl⟩ ⟨0, rfl⟩ hprice
  unfold buildVirtualPortfolio
  rw [hhistories]
  dsimp only
  rw [htotals, Option.bind_eq_bind, Option.bind_some, hvalue]
  exact ⟨_, rfl⟩

/-- A portfolio that was returned values the priced positions exactly if they are found. -/
theorem valuesPriced_iff_found {portfolio : Portfolio}
    (hmarket : IsMarket rt cache account db asked source market)
    (hbuild : buildVirtualPortfolio rt cache account db asked source = .ok portfolio) :
    ValuesPriced rt account db market portfolio ↔
      PricedFound rt cache account db asked source market := by
  obtain ⟨histories, totals, hhistories, htotals, hpositions, hequity, -, -⟩ :=
    buildVirtualPortfolio_eq_ok hbuild
  constructor
  · intro hvalues p hp hpriced
    obtain ⟨views, hviews, hvalued, -⟩ := addPositions_valued (fun p _ => rfl) htotals
    have hrows := hvalues.rows
    rw [hpositions, hviews, List.nil_append] at hrows
    exact found_of_snapshotPrice hhistories hmarket hp
      (priced_of_valued hrows hvalued p hp hpriced)
  · intro hfound
    have hsame : ∀ p ∈ db.positionsOf account.id,
        snapshotPrice histories p = marketPrice rt market p := fun p hp =>
      snapshotPrice_eq_market hhistories hmarket hp (hfound p hp)
    obtain ⟨views, hviews, hvalued, htotal⟩ := addPositions_valued hsame htotals
    refine ⟨?_, totals.marketValue, htotal, hequity⟩
    rw [hpositions, hviews, List.nil_append]
    exact hvalued

/-- **What a portfolio values.**  A portfolio is returned wherever the answer can be read; and
any one that is returned values every priced position if and only if each of them is stored
under its cleaned symbol, is asked for, and has a close among the last bars. -/
theorem portfolio_values_iff (rt : Runtime) (cache : Memo.Store (historyPolicy rt))
    (account : VirtualAccount) (db : TradingDb) (asked : ℚ) (source : MarketSource)
    (market : String → Json) (hmarket : IsMarket rt cache account db asked source market) :
    (Readable rt cache account db asked source →
      ∃ portfolio, buildVirtualPortfolio rt cache account db asked source = .ok portfolio) ∧
    ∀ portfolio, buildVirtualPortfolio rt cache account db asked source = .ok portfolio →
      (ValuesPriced rt account db market portfolio ↔
        PricedFound rt cache account db asked source market) :=
  ⟨exists_portfolio, fun _ hbuild => valuesPriced_iff_found hmarket hbuild⟩

/-- No two positions of an account have the same symbol. -/
theorem positionsOf_nodup (db : TradingDb) (account : ℕ) :
    ((db.positionsOf account).map VirtualPosition.symbol).Nodup := by
  have hrows : ((db.positions.rows.filter fun p =>
      decide (p.virtualAccountId = account)).map VirtualPosition.symbol).Nodup := by
    refine List.pairwise_map.mpr ((db.positions.unique.filter _).imp_of_mem ?_)
    intro p p' hp hp' hclash hsymbol
    have haccount := of_decide_eq_true (List.mem_filter.mp hp).2
    have haccount' := of_decide_eq_true (List.mem_filter.mp hp').2
    exact hclash (Prod.ext (haccount.trans haccount'.symm) hsymbol)
  exact ((List.mergeSort_perm _ _).map _).nodup_iff.mpr hrows

/-- Of positions that are all priced, none is left out only if there are 25 at most. -/
theorem length_le_of_found
    (hfound : PricedFound rt Memo.Store.empty account db asked source market)
    (hpriced : ∀ p ∈ db.positionsOf account.id, (marketPrice rt market p).isSome) :
    (db.positionsOf account.id).length ≤ 25 := by
  have hasked : (db.positionsOf account.id).map VirtualPosition.symbol ⊆
      rt.cleanSymbols ((db.positionsOf account.id).map VirtualPosition.symbol) := by
    intro symbol hsymbol
    obtain ⟨p, hp, rfl⟩ := List.mem_map.mp hsymbol
    have hmem := (hfound p hp (hpriced p hp)).1
    rw [marketBasis, Memo.Store.basis_empty] at hmem
    exact hmem
  have hlength := ((positionsOf_nodup db account.id).subperm hasked).length_le
  rw [List.length_map] at hlength
  exact hlength.trans (List.length_take_le _ _)

/-! ## A position in lower case -/

/-- The account of the positions. -/
def holdingAccount : VirtualAccount := ⟨7, 3, "active", "USD"⟩

/-- A database with these positions of the account, and this ledger. -/
def holdingDb (positions : Table VirtualPosition) (ledger : Table VirtualLedgerEntry) :
    TradingDb where
  toDb := { Db.empty with ledger := ledger }
  positions := positions
  createdAt _ := none
  collation a b := decide (a ≤ b)

/-- Two shares under a symbol. -/
def twoShares (symbol : String) : Table VirtualPosition where
  rows := [⟨1, 7, symbol, 2, 50, none⟩]
  next := 2
  fresh := by
    intro p hp
    rw [List.mem_singleton.mp hp]
    exact Nat.one_lt_two
  distinct := List.pairwise_singleton _ _
  unique := List.pairwise_singleton _ _

/-- Two shares of a stock, and three of one that nobody quotes. -/
def quotedAndNot : Table VirtualPosition where
  rows := [⟨1, 7, "AAPL", 2, 50, none⟩, ⟨2, 7, "ZZZZ", 3, 10, none⟩]
  next := 3
  fresh := by decide
  distinct := by decide
  unique := by decide

/-- Thirty dollars were paid in. -/
def thirtyDollars : Table VirtualLedgerEntry where
  rows := [⟨1, 7, "deposit", "credit", 30, "USD", "deposit", "D-1", "", []⟩]
  next := 2
  fresh := by decide
  distinct := by decide
  unique := by decide

/-- What the account holds, of the one symbol. -/
theorem positionsOf_twoShares (symbol : String) (ledger : Table VirtualLedgerEntry) :
    (holdingDb (twoShares symbol) ledger).positionsOf 7 = [⟨1, 7, symbol, 2, 50, none⟩] :=
  List.mergeSort_singleton _

/-- What the account holds, of the two symbols. -/
theorem positionsOf_quotedAndNot :
    (holdingDb quotedAndNot thirtyDollars).positionsOf 7 = quotedAndNot.rows := by
  refine List.mergeSort_of_pairwise (l := quotedAndNot.rows) ?_
  decide +kernel

/-- The market of one stock at a price of 100. -/
def stockMarket (symbol : String) : Json :=
  if symbol = "AAPL" then .arr [hourBar "01"] else .arr []

/-- The answer is that of the market, for every symbol. -/
theorem getD_stock (symbol : String) :
    Obj.getD [("AAPL", .arr [hourBar "01"])] symbol (.arr []) = stockMarket symbol := by
  unfold stockMarket
  split
  · rename_i hstock
    subst hstock
    rfl
  · rename_i hother
    simp [Obj.getD, Obj.find, Ne.symm hother]

section Stock

variable {db : TradingDb} {positions : List VirtualPosition}

/-- Nothing is in the cache: the provider is asked for the symbols of the account. -/
theorem stock_basis (hheld : db.positionsOf 7 = positions) :
    marketBasis decimalRuntime Memo.Store.empty holdingAccount db 0 (stockSource [hourBar "01"]) =
      (HistoryCall.request decimalRuntime { symbols := positions.map VirtualPosition.symbol },
        stockSource [hourBar "01"]) := by
  rw [marketBasis, show db.positionsOf holdingAccount.id = positions from hheld]
  exact Memo.Store.basis_empty _ _ _

variable (hheld : db.positionsOf 7 = positions)
  (hanswer : (HistoryCall.request decimalRuntime
      { symbols := positions.map VirtualPosition.symbol }).bars (stockSource [hourBar "01"]) =
    .ok [("AAPL", .arr [hourBar "01"])])

include hheld hanswer

/-- The market is that of the answer. -/
theorem isMarket_stock : IsMarket decimalRuntime Memo.Store.empty holdingAccount db 0
    (stockSource [hourBar "01"]) stockMarket := by
  intro bars hbars symbol _
  rw [stock_basis hheld, hanswer] at hbars
  cases hbars
  exact getD_stock symbol

/-- The market of the answer can be read. -/
theorem readable_stock : Readable decimalRuntime Memo.Store.empty holdingAccount db 0
    (stockSource [hourBar "01"]) := by
  unfold Readable
  rw [stock_basis hheld]
  refine ⟨_, hanswer, fun symbol _ => ?_⟩
  rw [getD_stock]
  unfold stockMarket
  split
  · refine ⟨[hourBar "01"], rfl, fun bar hbar => ?_⟩
    obtain rfl := List.mem_singleton.mp hbar
    exact ⟨_, _, _, rfl⟩
  · exact ⟨[], rfl, fun bar hbar => absurd hbar List.not_mem_nil⟩

end Stock

/-- The two shares of the stock are valued, the three shares without a price are not, and the
equity is thirty dollars more. -/
theorem portfolio_values_iff_stock :
    ∃ portfolio,
      buildVirtualPortfolio decimalRuntime Memo.Store.empty holdingAccount
        (holdingDb quotedAndNot thirtyDollars) 0 (stockSource [hourBar "01"]) = .ok portfolio ∧
      ValuesPriced decimalRuntime holdingAccount (holdingDb quotedAndNot thirtyDollars)
        stockMarket portfolio ∧
      portfolio.account.equity = .finite 230 := by
  have hanswer : (HistoryCall.request decimalRuntime
      { symbols := quotedAndNot.rows.map VirtualPosition.symbol }).bars
        (stockSource [hourBar "01"]) = .ok [("AAPL", .arr [hourBar "01"])] := by
    decide +kernel
  obtain ⟨hreturned, hvalues⟩ := portfolio_values_iff decimalRuntime Memo.Store.empty
    holdingAccount (holdingDb quotedAndNot thirtyDollars) 0 (stockSource [hourBar "01"])
    stockMarket (isMarket_stock positionsOf_quotedAndNot hanswer)
  obtain ⟨portfolio, hbuild⟩ := hreturned (readable_stock positionsOf_quotedAndNot hanswer)
  have hpositions : (holdingDb quotedAndNot thirtyDollars).positionsOf holdingAccount.id =
      quotedAndNot.rows := positionsOf_quotedAndNot
  -- the condition is checked position by position
  have hpriced : ValuesPriced decimalRuntime holdingAccount
      (holdingDb quotedAndNot thirtyDollars) stockMarket portfolio := by
    refine (hvalues portfolio hbuild).mpr fun p hp hprice => ?_
    rw [stock_basis positionsOf_quotedAndNot]
    rw [hpositions] at hp
    revert p
    decide +kernel
  obtain ⟨total, htotal, hequity⟩ := hpriced.equity
  have hshares : pricedTotal (marketPrice decimalRuntime stockMarket) (.finite 0)
      quotedAndNot.rows = some (.finite 200) := by
    decide +kernel
  have hall : (Dec.finite (virtualCashBalance holdingAccount.id
      (holdingDb quotedAndNot thirtyDollars).toDb)).add (.finite 200) = some (.finite 230) := by
    decide +kernel
  rw [hpositions, hshares] at htotal
  rw [← Option.some.inj htotal, hall] at hequity
  exact ⟨portfolio, hbuild, hpriced, (Option.some.inj hequity).symm⟩

/-- Under the symbol in lower case they are not, though the provider has a price of 100. -/
theorem not_values_priced :
    ∃ portfolio,
      buildVirtualPortfolio decimalRuntime Memo.Store.empty holdingAccount
        (holdingDb (twoShares "aapl") Table.empty) 0 (stockSource [hourBar "01"]) =
          .ok portfolio ∧
      IsMarket decimalRuntime Memo.Store.empty holdingAccount
        (holdingDb (twoShares "aapl") Table.empty) 0 (stockSource [hourBar "01"]) stockMarket ∧
      marketPrice decimalRuntime stockMarket ⟨1, 7, "aapl", 2, 50, none⟩ =
        some (.finite false 100 0) ∧
      ¬ ValuesPriced decimalRuntime holdingAccount (holdingDb (twoShares "aapl") Table.empty)
        stockMarket portfolio := by
  have hheld := positionsOf_twoShares "aapl" Table.empty
  have hanswer : (HistoryCall.request decimalRuntime { symbols := ["aapl"] }).bars
      (stockSource [hourBar "01"]) = .ok [("AAPL", .arr [hourBar "01"])] := by
    decide +kernel
  have hmarket := isMarket_stock hheld hanswer
  obtain ⟨portfolio, hbuild⟩ := exists_portfolio (readable_stock hheld hanswer)
  have hprice : marketPrice decimalRuntime stockMarket ⟨1, 7, "aapl", 2, 50, none⟩ =
      some (.finite false 100 0) := by decide +kernel
  refine ⟨portfolio, hbuild, hmarket, hprice, ?_⟩
  rw [valuesPriced_iff_found hmarket hbuild]
  intro hfound
  have hmem : (⟨1, 7, "aapl", 2, 50, none⟩ : VirtualPosition) ∈
      (holdingDb (twoShares "aapl") Table.empty).positionsOf 7 := by
    rw [hheld]
    exact List.mem_singleton.mpr rfl
  -- the provider was asked for the symbol in upper case only
  have hasked := (hfound _ hmem (by rw [hprice]; rfl)).1
  rw [stock_basis hheld] at hasked
  revert hasked
  decide +kernel

end AfricaFrontier
