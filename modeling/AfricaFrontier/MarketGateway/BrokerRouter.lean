import AfricaFrontier.Lib.Roulette
import AfricaFrontier.Python.Subscript
import AfricaFrontier.Python.Words
import Mathlib.Algebra.Group.Nat.Defs

/-!
# Broker routing (`market_gateway/broker_router.py`)

`select_broker` narrows the brokers that are active and support the market and the order
type to those that match the preferred region, if there are any, and draws one of what is
left, by weight.  The region test looks for the region among the words of the name, but in
the endpoint for `-region` and `region.` anywhere in the text: it finds them inside other
words and misses a region in front of a hyphen.

The weights are floats; their arithmetic and the numbers `random` returns are parameters.

The region test has three parts, and two of them are right: the declared region is compared as a
whole, and the words of the name are words (`reallyMatches_of_isNamed`). So the test is sound
about a broker exactly where its search of the endpoint is (`matchesRegion_sound_iff`).

The draw is the walk of `Lib/Roulette`, with weights that are computed from floats and may round.
Which broker a draw takes is not determined; which ones some draw takes is (`CanBeDrawn`,
`exists_drawBroker`), and that is what routing by region is about.
-/

namespace AfricaFrontier

open Python

/-- `Broker`: the columns routing reads.  A column whose default is not filled in yet is
`None`; `region` is an attribute a broker may have. -/
structure Broker (F : Type) where
  name : String
  apiEndpoint : String
  supportedMarkets : Option String
  supportedOrderTypes : Option String
  latencyMs : Option F
  isActive : Option Bool
  priority : Option F
  region : Option String
  deriving DecidableEq

/-- The numbers of a broker are filled in. -/
def Broker.HasNumbers {F : Type} (broker : Broker F) : Prop :=
  broker.latencyMs ≠ none ∧ broker.priority ≠ none

/-- Case tables, the JSON decoder, and floats of type `F` with random numbers drawn by `D`. -/
structure RouterHost (F D : Type) where
  tables : CaseTables
  /-- `json.loads`; `none` is a `JSONDecodeError`. -/
  loads : String → Option Json
  zero : F
  one : F
  thousand : F
  max : F → F → F
  div : F → F → F
  mul : F → F → F
  add : F → F → F
  sum : List F → F
  le : F → F → Bool
  isZero : F → Bool
  /-- `random.uniform(0, total)`. -/
  uniform : F → D → F
  /-- The index `random.choice` takes from a list of a length. -/
  choice : D → ℕ → ℕ
  choice_lt : ∀ d n, 0 < n → choice d n < n
  exists_choice : ∀ n i, i < n → ∃ d, choice d n = i

inductive RouterError
  | unavailable (detail : String)
  | python (exception : PyException)

namespace RouterHost

variable {F D : Type} (host : RouterHost F D)

/-! ## What a broker supports -/

/-- `code in value`; `none` is a `TypeError`. -/
def isIn (code : String) : Json → Option Bool
  | .arr items => some (decide (Json.str code ∈ items))
  | .obj fields => some (fields.any fun field => field.1 = code)
  | .str s => some (contains s code)
  | _ => none

/-- `_supports_market`. -/
def supportsMarket (broker : Broker F) (marketCode : String) : Bool :=
  ((broker.supportedMarkets.bind host.loads).bind (isIn marketCode)).getD false

/-- `_supports_order_type`. -/
def supportsOrderType (broker : Broker F) (orderType : String) : Bool :=
  ((broker.supportedOrderTypes.bind host.loads).bind (isIn orderType)).getD
    (decide (orderType = "market"))

/-! ## The region test -/

/-- `preferred_region.strip().upper()`. -/
def wanted (region : String) : String := host.tables.upper (strip region)

/-- The region is declared. -/
def isDeclared (broker : Broker F) (region : String) : Bool :=
  broker.region.any fun declared => declared ≠ "" ∧ host.tables.upper declared = host.wanted region

/-- The region is a word of the name. -/
def isNamed (broker : Broker F) (region : String) : Bool :=
  (words (host.tables.upper broker.name)).contains (host.wanted region)

/-- The region follows a hyphen or precedes a dot, anywhere in the endpoint. It is a search in a
text and does not stop at the ends of words. -/
def hitsEndpoint (broker : Broker F) (region : String) : Bool :=
  let endpoint := host.tables.lower (host.tables.upper broker.apiEndpoint)
  contains endpoint ("-" ++ host.tables.lower (host.wanted region)) ||
    contains endpoint (host.tables.lower (host.wanted region) ++ ".")

/-- `_matches_region`. -/
def matchesRegion (broker : Broker F) (region : String) : Bool :=
  host.isDeclared broker region || host.isNamed broker region || host.hitsEndpoint broker region

/-! ## Drawing a broker -/

/-- `b.priority * max(1.0, 1000.0 / max(b.latency_ms, 1.0))`; `none` is a `TypeError`. -/
def weight (broker : Broker F) : Option F :=
  broker.latencyMs.bind fun latency => broker.priority.map fun priority =>
    host.mul priority (host.max host.one (host.div host.thousand (host.max latency host.one)))

/-- The broker a random draw takes from candidates with these weights. Where the weights add up to
zero each candidate has the same chance. -/
def drawn (candidates : List (Broker F)) (weights : List F) (draw : D) : Option (Broker F) :=
  let total := host.sum weights
  if host.isZero total then candidates[host.choice draw candidates.length]?
  else
    (Roulette.walk host.add host.le (host.uniform total draw) host.zero
      (candidates.zip weights)).or candidates.getLast?

/-- The broker a random draw takes from the candidates. -/
def drawBroker (candidates : List (Broker F)) (draw : D) : Except RouterError (Broker F) :=
  match candidates.mapM host.weight with
  | none => .error (.python .type)
  | some weights => (host.drawn candidates weights draw).elim (.error (.python .index)) .ok

/-- The brokers that are active and support the market and the order type. -/
def eligible (brokers : List (Broker F)) (marketCode orderType : String) : List (Broker F) :=
  brokers.filter fun broker => broker.isActive = some true ∧
    host.supportsMarket broker marketCode = true ∧ host.supportsOrderType broker orderType = true

/-- The candidates that match the region, or all if there is none. -/
def narrowed (candidates : List (Broker F)) (region : String) : List (Broker F) :=
  let regionCandidates := candidates.filter fun broker => host.matchesRegion broker region
  if regionCandidates.isEmpty then candidates else regionCandidates

/-- `select_broker`. -/
def selectBroker (brokers : List (Broker F)) (marketCode orderType : String)
    (preferredRegion : Option String) (draw : D) : Except RouterError (Broker F) :=
  let candidates := host.eligible brokers marketCode orderType
  if candidates.isEmpty then
    .error (.unavailable ("No broker available for market " ++ marketCode))
  else
    match preferredRegion with
    | none => host.drawBroker candidates draw
    | some region =>
        if region = "" then host.drawBroker candidates draw
        else host.drawBroker (host.narrowed candidates region) draw

/-! ## What can be drawn

For sums that round nothing is used of addition but that the walk ends. -/

/-- The draw falls to the candidate of an index: no running sum before reaches it, and its
own does or it is the last. -/
def FallsTo (candidates : List (Broker F)) (weights : List F) (draw : D) (i : ℕ) : Prop :=
  let r := host.uniform (host.sum weights) draw
  let entries := candidates.zip weights
  Roulette.Passes host.add host.le r host.zero entries i ∧
    (host.le r (Roulette.runningSum host.add host.zero entries i) = true ∨
      i + 1 = candidates.length)

/-- Some draw falls to the broker; if the weights add up to zero, it need only be a
candidate. -/
def CanBeDrawn (candidates : List (Broker F)) (broker : Broker F) : Prop :=
  ∃ weights i, candidates.mapM host.weight = some weights ∧ candidates[i]? = some broker ∧
    (host.isZero (host.sum weights) = true ∨
      host.isZero (host.sum weights) = false ∧ ∃ draw, host.FallsTo candidates weights draw i)

variable {host} {candidates : List (Broker F)} {broker : Broker F} {weights : List F}

/-- A weight can be computed where the numbers are filled in. -/
theorem weight_isSome_iff (host : RouterHost F D) :
    (host.weight broker).isSome ↔ broker.HasNumbers := by
  unfold weight Broker.HasNumbers
  cases broker.latencyMs with
  | none => simp
  | some latency => cases broker.priority <;> simp

/-- The weights can be computed when every number is filled in. -/
theorem weights_iff (host : RouterHost F D) :
    (∃ weights, candidates.mapM host.weight = some weights) ↔
      ∀ broker ∈ candidates, broker.HasNumbers := by
  induction candidates with
  | nil => simp
  | cons broker rest ih =>
      rw [List.forall_mem_cons, ← ih, ← weight_isSome_iff host, List.mapM_cons]
      cases hweight : host.weight broker with
      | none => simp
      | some w => cases rest.mapM host.weight <;> simp

/-- A list of weights has the length of the candidates. -/
theorem length_of_weights (h : candidates.mapM host.weight = some weights) :
    weights.length = candidates.length := by
  induction candidates generalizing weights with
  | nil =>
      cases h
      rfl
  | cons broker rest ih =>
      rw [List.mapM_cons] at h
      cases hweight : host.weight broker with
      | none => simp [hweight] at h
      | some w =>
          cases hrest : rest.mapM host.weight with
          | none => simp [hweight, hrest] at h
          | some ws =>
              simp only [hweight, hrest, Option.bind_eq_bind, Option.bind_some, Option.pure_def,
                Option.some.injEq] at h
              rw [← h, List.length_cons, List.length_cons, ih hrest]

/-- The candidates keep their places beside their weights. -/
theorem getElem?_zip_weights (h : candidates.mapM host.weight = some weights) (i : ℕ) :
    ((candidates.zip weights)[i]?).map Prod.fst = candidates[i]? := by
  have hfst : (candidates.zip weights).map Prod.fst = candidates :=
    List.map_fst_zip (length_of_weights h).ge
  rw [← List.getElem?_map, hfst]

/-- A draw falls to a candidate. -/
theorem exists_fallsTo (hnonempty : candidates ≠ [])
    (h : candidates.mapM host.weight = some weights) (draw : D) :
    ∃ i < candidates.length, host.FallsTo candidates weights draw i := by
  have hpos : 0 < candidates.length := List.length_pos_of_ne_nil hnonempty
  cases hwalk : Roulette.walk host.add host.le (host.uniform (host.sum weights) draw) host.zero
      (candidates.zip weights) with
  | some broker =>
      obtain ⟨i, hi, hpasses, hreach⟩ := Roulette.walk_eq_some_iff.mp hwalk
      rw [getElem?_zip_weights h] at hi
      exact ⟨i, (List.getElem?_eq_some_iff.mp hi).1, hpasses, Or.inl hreach⟩
  | none =>
      have hpasses := Roulette.walk_eq_none_iff.mp hwalk
      rw [List.length_zip, length_of_weights h, min_self] at hpasses
      refine ⟨candidates.length - 1, Nat.sub_one_lt_of_lt hpos, fun j hj => hpasses j ?_,
        Or.inr (Nat.sub_add_cancel hpos)⟩
      exact hj.trans_le (Nat.sub_le _ 1)

/-- The candidate it falls to is drawn. -/
theorem drawn_of_fallsTo {draw : D} {i : ℕ} (h : candidates.mapM host.weight = some weights)
    (hi : candidates[i]? = some broker) (hzero : host.isZero (host.sum weights) = false)
    (hfalls : host.FallsTo candidates weights draw i) :
    host.drawn candidates weights draw = some broker := by
  obtain ⟨hpasses, hreach⟩ := hfalls
  have hzip := getElem?_zip_weights h
  simp only [drawn, hzero, Bool.false_eq_true, if_false]
  cases hle : host.le (host.uniform (host.sum weights) draw)
      (Roulette.runningSum host.add host.zero (candidates.zip weights) i) with
  | true =>
      have hwalk := Roulette.walk_eq_some_iff.mpr ⟨i, (hzip i).trans hi, hpasses, hle⟩
      rw [hwalk]
      rfl
  | false =>
      have hlast : i + 1 = candidates.length := hreach.resolve_left (by simp [hle])
      have hend : Roulette.Passes host.add host.le (host.uniform (host.sum weights) draw)
          host.zero (candidates.zip weights) (candidates.zip weights).length := by
        rw [List.length_zip, length_of_weights h, min_self, ← hlast]
        intro j hj
        rcases Nat.lt_succ_iff_lt_or_eq.mp hj with hbefore | rfl
        · exact hpasses j hbefore
        · exact hle
      rw [Roulette.walk_eq_none_iff.mpr hend, Option.none_or, List.getLast?_eq_getElem?, ← hlast,
        Nat.add_sub_cancel, hi]

/-- Every draw takes a candidate that can be drawn. -/
theorem drawBroker_sound (hnonempty : candidates ≠ [])
    (hnumbers : ∀ broker ∈ candidates, broker.HasNumbers) (draw : D) :
    ∃ broker, host.drawBroker candidates draw = .ok broker ∧ host.CanBeDrawn candidates broker := by
  obtain ⟨weights, hweights⟩ := (weights_iff host).mpr hnumbers
  have hdraw : ∀ broker, host.drawn candidates weights draw = some broker →
      host.drawBroker candidates draw = .ok broker := by
    intro broker h
    simp only [drawBroker, hweights, h, Option.elim_some]
  cases hzero : host.isZero (host.sum weights) with
  | true =>
      have hlt := host.choice_lt draw _ (List.length_pos_of_ne_nil hnonempty)
      have hi := List.getElem?_eq_getElem hlt
      refine ⟨_, hdraw _ ?_, weights, _, hweights, hi, Or.inl hzero⟩
      simp only [drawn, hzero, if_true, hi]
  | false =>
      obtain ⟨i, hlt, hfalls⟩ := exists_fallsTo hnonempty hweights draw
      have hi := List.getElem?_eq_getElem hlt
      exact ⟨_, hdraw _ (drawn_of_fallsTo hweights hi hzero hfalls), weights, i, hweights, hi,
        Or.inr ⟨hzero, draw, hfalls⟩⟩

/-- What can be drawn is drawn by some draw. -/
theorem exists_drawBroker (h : host.CanBeDrawn candidates broker) :
    ∃ draw, host.drawBroker candidates draw = .ok broker := by
  obtain ⟨weights, i, hweights, hi, hcase⟩ := h
  have hdraw : ∀ draw, host.drawn candidates weights draw = some broker →
      host.drawBroker candidates draw = .ok broker := by
    intro draw h
    simp only [drawBroker, hweights, h, Option.elim_some]
  rcases hcase with hzero | ⟨hzero, draw, hfalls⟩
  · obtain ⟨draw, hchoice⟩ :=
      host.exists_choice _ i (List.getElem?_eq_some_iff.mp hi).1
    refine ⟨draw, hdraw draw ?_⟩
    simp only [drawn, hzero, if_true, hchoice, hi]
  · exact ⟨draw, hdraw draw (drawn_of_fallsTo hweights hi hzero hfalls)⟩

/-- A candidate without its numbers lets every draw fail. -/
theorem hasNumbers_of_drawBroker {draw : D}
    (h : host.drawBroker candidates draw = .ok broker) :
    ∀ broker ∈ candidates, broker.HasNumbers := by
  rw [← weights_iff host]
  unfold drawBroker at h
  cases hweights : candidates.mapM host.weight with
  | none =>
      rw [hweights] at h
      cases h
  | some weights => exact ⟨weights, rfl⟩

/-! ## Real matches

What the source's documentation asks for: an explicit region token. -/

/-- What follows `://`, if it occurs. -/
def afterScheme : List Char → Option (List Char)
  | ':' :: '/' :: '/' :: rest => some rest
  | _ :: rest => afterScheme rest
  | [] => none

/-- The host of an endpoint: what is before a path, a query or a fragment, without user
information and port. -/
def endpointHost (endpoint : String) : List Char :=
  let rest := (afterScheme endpoint.toList).getD endpoint.toList
  let authority := rest.takeWhile fun c => c ≠ '/' ∧ c ≠ '?' ∧ c ≠ '#'
  let hostPort := (authority.reverse.takeWhile (· ≠ '@')).reverse
  hostPort.takeWhile (· ≠ ':')

/-- The parts of the host between hyphens and dots. -/
def hostParts (endpoint : String) : List String :=
  (((endpointHost endpoint).splitOnP fun c => c = '-' ∨ c = '.').filter
    fun part => !part.isEmpty).map String.ofList

/-- Equal up to case. -/
def SameText (host : RouterHost F D) (a b : String) : Prop :=
  host.tables.lower (host.tables.upper a) = host.tables.lower (host.tables.upper b)

/-- The region is the declared one, a word of the name or a whole part of the endpoint's
host. -/
def ReallyMatches (host : RouterHost F D) (broker : Broker F) (region : String) : Prop :=
  (∃ declared ∈ broker.region, declared ≠ "" ∧ host.SameText declared (strip region)) ∨
    (∃ word ∈ words broker.name, host.SameText word (strip region)) ∨
    ∃ part ∈ hostParts broker.apiEndpoint, host.SameText part (strip region)

/-- A declared region is a real match. -/
theorem reallyMatches_of_isDeclared {region : String} (h : host.isDeclared broker region = true) :
    host.ReallyMatches broker region := by
  unfold isDeclared at h
  rw [Option.any_eq_true] at h
  obtain ⟨declared, hdeclared, h⟩ := h
  obtain ⟨hne, heq⟩ := of_decide_eq_true h
  exact Or.inl ⟨declared, hdeclared, hne, congrArg host.tables.lower heq⟩

/-- A word of the name in upper case is a word of the name. -/
theorem reallyMatches_of_isNamed {region : String} (h : host.isNamed broker region = true) :
    host.ReallyMatches broker region := by
  unfold isNamed at h
  rw [host.tables.words_upper, List.contains_iff_mem, List.mem_map] at h
  obtain ⟨word, hword, heq⟩ := h
  exact Or.inr (Or.inl ⟨word, hword, congrArg host.tables.lower heq⟩)

/-- The test is right about a broker when its search of the endpoint is. -/
theorem matchesRegion_sound_iff {region : String} :
    (host.matchesRegion broker region = true → host.ReallyMatches broker region) ↔
      (host.hitsEndpoint broker region = true → host.ReallyMatches broker region) := by
  unfold matchesRegion
  simp only [Bool.or_eq_true]
  constructor
  · intro h hhit
    exact h (Or.inr hhit)
  · rintro h ((hdeclared | hnamed) | hhit)
    · exact reallyMatches_of_isDeclared hdeclared
    · exact reallyMatches_of_isNamed hnamed
    · exact h hhit

/-! ## Routing by region -/

/-- The region test accepts real matches only, and where an eligible broker really matches,
every draw selects one that is eligible and really matches. -/
def RoutesByRegion (host : RouterHost F D) (brokers : List (Broker F))
    (marketCode orderType region : String) : Prop :=
  (∀ broker ∈ brokers, host.matchesRegion broker region = true →
    host.ReallyMatches broker region) ∧
  ((∃ broker ∈ host.eligible brokers marketCode orderType, host.ReallyMatches broker region) →
    ∀ draw, ∃ broker, host.selectBroker brokers marketCode orderType (some region) draw =
        .ok broker ∧
      broker ∈ host.eligible brokers marketCode orderType ∧ host.ReallyMatches broker region)

/-- A candidate is tested positive, by one of the three tests, whether or not it really is of the
region. -/
def Tested (host : RouterHost F D) (candidates : List (Broker F)) (region : String) : Prop :=
  ∃ broker ∈ candidates, host.isDeclared broker region = true ∨
    host.isNamed broker region = true ∨ host.hitsEndpoint broker region = true

/-- A candidate is tested positive if some are left. -/
theorem tested_iff {region : String} :
    host.Tested candidates region ↔
      candidates.filter (fun broker => host.matchesRegion broker region) ≠ [] := by
  rw [ne_eq, List.filter_eq_nil_iff, not_forall]
  simp only [Tested, matchesRegion, Bool.or_eq_true, or_assoc, not_forall, not_not, exists_prop]

/-- The candidates are those that match, if there are any. -/
theorem narrowed_of_tested {region : String} (h : host.Tested candidates region) :
    host.narrowed candidates region =
      candidates.filter fun broker => host.matchesRegion broker region := by
  have hne := tested_iff.mp h
  simp only [narrowed, List.isEmpty_iff, hne, if_false]

/-- If none matches, all are candidates. -/
theorem narrowed_of_not_tested {region : String} (h : ¬ host.Tested candidates region) :
    host.narrowed candidates region = candidates := by
  rw [tested_iff, ne_eq, not_not] at h
  simp only [narrowed, h, List.isEmpty_nil, if_true]

/-- What is drawn is a candidate. -/
theorem mem_of_canBeDrawn (h : host.CanBeDrawn candidates broker) : broker ∈ candidates := by
  obtain ⟨weights, i, -, hi, -⟩ := h
  exact List.mem_of_getElem? hi

/-- Where a broker is eligible, the draw is from the narrowed candidates. -/
theorem selectBroker_of_mem (host : RouterHost F D) {brokers : List (Broker F)}
    {marketCode orderType region : String}
    (hregion : region ≠ "") (h : broker ∈ host.eligible brokers marketCode orderType) (draw : D) :
    host.selectBroker brokers marketCode orderType (some region) draw =
      host.drawBroker (host.narrowed (host.eligible brokers marketCode orderType) region) draw := by
  have hne : (host.eligible brokers marketCode orderType).isEmpty = false := by
    rw [List.isEmpty_eq_false_iff]
    exact List.ne_nil_of_mem h
  simp only [selectBroker, hne, Bool.false_eq_true, if_false, hregion]

/-- The candidates are never narrowed to none. -/
theorem narrowed_ne_nil (host : RouterHost F D) (region : String) (h : candidates ≠ []) :
    host.narrowed candidates region ≠ [] := by
  by_cases htested : host.Tested candidates region
  · rw [narrowed_of_tested htested]
    exact tested_iff.mp htested
  · rwa [narrowed_of_not_tested htested]

end RouterHost

open RouterHost

/-- **Routing by region.**  Regions are matched by whole tokens if and only if `-region` and
`region.` occur in an endpoint only where the region really matches, and, where an eligible
broker really matches, the candidates have their numbers and either one of them is found by
the test or every eligible broker that can be drawn really matches. -/
theorem region_routing_iff {F D : Type} (host : RouterHost F D) (brokers : List (Broker F))
    (marketCode orderType : String) {region : String} (hregion : region ≠ "") :
    host.RoutesByRegion brokers marketCode orderType region ↔
      (∀ broker ∈ brokers, host.hitsEndpoint broker region = true →
        host.ReallyMatches broker region) ∧
      ((∃ broker ∈ host.eligible brokers marketCode orderType,
          host.ReallyMatches broker region) →
        (∀ broker ∈ host.narrowed (host.eligible brokers marketCode orderType) region,
          broker.HasNumbers) ∧
        (host.Tested (host.eligible brokers marketCode orderType) region ∨
          ∀ broker, host.CanBeDrawn (host.eligible brokers marketCode orderType) broker →
            host.ReallyMatches broker region)) := by
  unfold RoutesByRegion
  simp only [matchesRegion_sound_iff]
  refine and_congr_right fun hsound => forall_congr' fun hreal => ?_
  obtain ⟨witness, hwitness, -⟩ := hreal
  have hselect := fun draw => selectBroker_of_mem host hregion hwitness draw
  simp only [hselect]
  constructor
  · intro hroutes
    refine ⟨?numbers, ?drawn⟩
    case numbers =>
      obtain ⟨draw, -⟩ := host.exists_choice 1 0 Nat.one_pos
      obtain ⟨broker, hdraw, -⟩ := hroutes draw
      exact hasNumbers_of_drawBroker hdraw
    case drawn =>
      refine or_iff_not_imp_left.mpr fun htested broker hcan => ?_
      -- whoever can be drawn is drawn by some draw
      obtain ⟨draw, hdraw⟩ := exists_drawBroker hcan
      obtain ⟨broker', hdraw', -, hmatches⟩ := hroutes draw
      rw [narrowed_of_not_tested htested, hdraw] at hdraw'
      rwa [Except.ok.inj hdraw']
  · rintro ⟨hnumbers, hcase⟩ draw
    have hne := narrowed_ne_nil host region (List.ne_nil_of_mem hwitness)
    obtain ⟨broker, hdraw, hcan⟩ := drawBroker_sound hne hnumbers draw
    have hmem := mem_of_canBeDrawn hcan
    by_cases htested : host.Tested (host.eligible brokers marketCode orderType) region
    · rw [narrowed_of_tested htested, List.mem_filter] at hmem
      have hregistered := (List.mem_filter.mp hmem.1).1
      exact ⟨broker, hdraw, hmem.1,
        matchesRegion_sound_iff.mpr (hsound broker hregistered) hmem.2⟩
    · rw [narrowed_of_not_tested htested] at hmem hcan
      exact ⟨broker, hdraw, hmem, hcase.resolve_left htested broker hcan⟩

/-- The case tables of the ASCII letters. -/
def asciiTables : CaseTables where
  upperOf c := if isSpace c then [c] else if isSpace c.toUpper then [c] else [c.toUpper]
  lower := lower
  upperOf_ne_nil c := by split_ifs <;> simp
  upperOf_space c hc := by simp [hc]
  upperOf_letter c hc d hd := by
    rw [if_neg (by simp [hc])] at hd
    split at hd
    · rwa [List.mem_singleton.mp hd]
    · rename_i hupper
      rw [List.mem_singleton.mp hd]
      exact Bool.eq_false_iff.mpr hupper

/-- Numbers without rounding, and the multiples of `2⁻⁵³` that `random.random` returns. -/
def exactHost : RouterHost ℚ (ℕ × ℕ) where
  tables := asciiTables
  loads text := if text = "[\"BRVM\"]" then some (.arr [.str "BRVM"]) else none
  zero := 0
  one := 1
  thousand := 1000
  max a b := if a < b then b else a
  div := (· / ·)
  mul := (· * ·)
  add := (· + ·)
  sum weights := weights.foldl (· + ·) 0
  le a b := decide (a ≤ b)
  isZero a := decide (a = 0)
  uniform total draw := total * ((draw.1 % 2 ^ 53 : ℕ) / 2 ^ 53)
  choice draw n := draw.2 % n
  choice_lt draw _ hn := Nat.mod_lt draw.2 hn
  exists_choice _ i hi := ⟨(0, i), Nat.mod_eq_of_lt hi⟩

/-- A broker of the regional exchange that takes market orders. -/
def brvmBroker (name apiEndpoint : String) : Broker ℚ where
  name := name
  apiEndpoint := apiEndpoint
  supportedMarkets := some "[\"BRVM\"]"
  supportedOrderTypes := none
  latencyMs := some 50
  isActive := some true
  priority := some 1
  region := none

/-- The broker of the routing tests. -/
theorem region_routing_iff_ci :
    exactHost.RoutesByRegion [brvmBroker "Broker CI" "https://broker-ci.com"]
      "BRVM" "market" "CI" := by
  refine (region_routing_iff exactHost _ "BRVM" "market" (by decide)).mpr ⟨?_, fun _ => ?_⟩
  · intro broker hbroker _
    rw [List.mem_singleton.mp hbroker]
    unfold ReallyMatches SameText
    decide +kernel
  · refine ⟨?_, Or.inl ?_⟩
    · unfold Broker.HasNumbers
      decide +kernel
    · unfold Tested
      decide +kernel

/-- The region is found in an unrelated word; and it is missed in front of a hyphen, so that
another broker is drawn. -/
theorem not_routesByRegion :
    ¬ exactHost.RoutesByRegion [brvmBroker "Civil" "https://broker-civil.com"]
        "BRVM" "market" "CI" ∧
      ¬ exactHost.RoutesByRegion
        [brvmBroker "Abidjan" "https://ci-broker.com", brvmBroker "Cape" "https://za.broker.com"]
        "BRVM" "market" "CI" := by
  -- the region as a part of a longer word, and the region at the beginning of the host
  constructor
  · rintro ⟨htokens, -⟩
    have hreal := htokens _ List.mem_cons_self (by decide +kernel)
    revert hreal
    unfold ReallyMatches SameText
    decide +kernel
  · rintro ⟨-, hselects⟩
    have hreal : exactHost.ReallyMatches (brvmBroker "Abidjan" "https://ci-broker.com") "CI" := by
      unfold ReallyMatches SameText
      decide +kernel
    have hother : ¬ exactHost.ReallyMatches (brvmBroker "Cape" "https://za.broker.com") "CI" := by
      unfold ReallyMatches SameText
      decide +kernel
    have hdrawn : (exactHost.selectBroker
        [brvmBroker "Abidjan" "https://ci-broker.com", brvmBroker "Cape" "https://za.broker.com"]
        "BRVM" "market" (some "CI") (2 ^ 53 - 1, 0)).toOption =
          some (brvmBroker "Cape" "https://za.broker.com") := by
      decide +kernel
    obtain ⟨broker, hselect, -, hmatches⟩ :=
      hselects ⟨_, by decide +kernel, hreal⟩ (2 ^ 53 - 1, 0)
    rw [hselect] at hdrawn
    obtain rfl := Option.some.inj hdrawn
    exact hother hmatches

end AfricaFrontier
