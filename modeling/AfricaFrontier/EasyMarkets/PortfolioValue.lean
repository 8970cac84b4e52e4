import AfricaFrontier.Lib.Dict
import AfricaFrontier.Python.Context
import AfricaFrontier.Python.Subscript

/-!
# The value of a portfolio (`DashboardService.get_portfolio_value`)

One pass over the holdings keeps a running total of their values in dollars and assigns each of
them to a dictionary under its currency.  The total counts every holding; the dictionary has the
last one of each key, and its keys are the currencies as they were written, while the conversion
takes them in upper case.

So the breakdown adds up exactly where the holdings that are overwritten, or stand under another
spelling, come to nothing: `portfolio_adds_up_iff`.  Of positive holdings there must be one of
each currency: `adds_up_iff_distinct`.

`foldlM_addHolding` says what the loop leaves, `getPortfolioValue_eq_ok` what is then returned:
the quantized total, and the dictionary of the last entries. The breakdown is read off the
dictionary as a list (`mem_byCurrency_iff`), its sum from the list without what was overwritten
(`byCurrency_sum`). Rounding never gets in the way, since every value is in whole cents already
and a sum of whole cents below the limit of the context is exact.
-/

namespace AfricaFrontier

open Python

/-! ## The service -/

/-- An entry of `holdings`. -/
structure Holding where
  currency : String
  amount : ℚ
  deriving DecidableEq

/-- An entry of `by_currency`. -/
structure CurrencyValue where
  localAmount : ℚ
  usdValue : ℚ
  deriving DecidableEq

/-- What `get_portfolio_value` returns. -/
structure PortfolioValue where
  totalUsd : ℚ
  byCurrency : List (String × CurrencyValue)
  fxRatesUsed : List (String × String)
  deriving DecidableEq

/-- What the service raises. -/
inductive DashboardError
  /-- `ValueError`. -/
  | unknownCurrency (currency : String)
  /-- `decimal.InvalidOperation`. -/
  | invalidOperation
  deriving DecidableEq

/-- `FX_TO_USD`. -/
def fxToUsd : List (String × Numeral) :=
  [("XOF", ⟨165, -5⟩), ("XAF", ⟨165, -5⟩), ("NGN", ⟨64, -5⟩), ("KES", ⟨77, -4⟩),
    ("GHS", ⟨66, -3⟩), ("ZAR", ⟨55, -3⟩), ("USD", ⟨10, -1⟩), ("EUR", ⟨108, -2⟩),
    ("GBP", ⟨127, -2⟩)]

/-- `{k: str(v) for k, v in FX_TO_USD.items()}`. -/
def fxRatesUsed : List (String × String) := fxToUsd.map fun rate => (rate.1, rate.2.text)

/-- `convert_to_usd`: the product in the context, rounded half up to cents. -/
def convertToUsd (amount : ℚ) (currency : String) : Except DashboardError ℚ :=
  match fxToUsd.lookup (upper currency) with
  | none => .error (.unknownCurrency (upper currency))
  | some rate =>
      match quantizeHalfUp cents (inContext (amount * rate.value)) with
      | none => .error .invalidOperation
      | some value => .ok value

/-- The body of the loop: the running total and the dictionary after one more holding. -/
def addHolding (sums : ℚ × List (String × CurrencyValue)) (holding : Holding) :
    Except DashboardError (ℚ × List (String × CurrencyValue)) := do
  let usdValue ← convertToUsd holding.amount holding.currency
  return (inContext (sums.1 + usdValue),
    Dict.set holding.currency ⟨holding.amount, usdValue⟩ sums.2)

/-- `get_portfolio_value`: the loop over the holdings, and the total once more rounded. -/
def getPortfolioValue (holdings : List Holding) : Except DashboardError PortfolioValue := do
  let sums ← holdings.foldlM addHolding (0, [])
  match quantize cents sums.1 with
  | none => .error .invalidOperation
  | some totalUsd => .ok ⟨totalUsd, sums.2, fxRatesUsed⟩

example : fxRatesUsed.lookup "USD" = some "1.0" ∧ fxRatesUsed.lookup "XAF" = some "0.00165" := by
  decide

/-! ## The property and its condition -/

/-- The sum of the holdings in a currency. -/
def amountIn (holdings : List Holding) (currency : String) : ℚ :=
  ((holdings.filter fun h => decide (upper h.currency = currency)).map Holding.amount).sum

/-- **The breakdown adds up.** Every holding has an entry of its currency, the local amount of an
entry is that of all holdings in its currency, and the dollars of the entries are the total. -/
structure AddsUp (holdings : List Holding) (value : PortfolioValue) : Prop where
  listed : ∀ h ∈ holdings, ∃ entry ∈ value.byCurrency, upper entry.1 = upper h.currency
  locals : ∀ entry ∈ value.byCurrency,
    entry.2.localAmount = amountIn holdings (upper entry.1)
  total : (value.byCurrency.map fun entry => entry.2.usdValue).sum = value.totalUsd

/-- There is a rate for the currency. -/
def Holding.Supported (h : Holding) : Prop := (fxToUsd.lookup (upper h.currency)).isSome = true

instance : DecidablePred Holding.Supported :=
  fun h => inferInstanceAs (Decidable ((fxToUsd.lookup (upper h.currency)).isSome = true))

/-- The rate of the currency. -/
def Holding.rate (h : Holding) : ℚ :=
  ((fxToUsd.lookup (upper h.currency)).map Numeral.value).getD 0

/-- The value in dollars: the product, rounded half up to cents. -/
def Holding.usd (h : Holding) : ℚ :=
  roundHalfUp (inContext (h.amount * h.rate) * 10 ^ cents) / 10 ^ cents

/-- What is assigned. -/
def Holding.entry (h : Holding) : String × CurrencyValue := (h.currency, ⟨h.amount, h.usd⟩)

/-- The values, added one by one. -/
def runningTotal (holdings : List Holding) : ℚ :=
  holdings.foldl (fun total h => inContext (total + h.usd)) 0

/-- The values of the holdings that a later one overwrites. -/
def overwrittenUsd (holdings : List Holding) : ℚ :=
  ((Dict.overwritten (holdings.map Holding.entry)).map fun entry => entry.2.usdValue).sum

/-- Every value and their total can be quantized; beside the last holding under a key the others
of the same currency come to nothing; and the values that are overwritten come to what the running
total lost to the context. -/
structure BreakdownFits (holdings : List Holding) : Prop where
  sizes : ∀ h ∈ holdings, |h.usd| < 10 ^ 26
  total : |runningTotal holdings| < 10 ^ 26
  locals : ∀ front h back, holdings = front ++ h :: back → (∀ x ∈ back, x.currency ≠ h.currency) →
    amountIn (front ++ back) (upper h.currency) = 0
  values : overwrittenUsd holdings = (holdings.map Holding.usd).sum - runningTotal holdings

/-! ## The pass over the holdings -/

section Pass

variable {holdings : List Holding} {h : Holding}

/-- A supported holding is converted unless its value has too many digits. -/
theorem convertToUsd_eq_ok (hsupported : h.Supported) {value : ℚ} :
    convertToUsd h.amount h.currency = .ok value ↔ |h.usd| < 10 ^ 26 ∧ value = h.usd := by
  obtain ⟨rate, hrate⟩ := Option.isSome_iff_exists.mp hsupported
  have hvalue : h.rate = rate.value := by
    rw [Holding.rate, hrate]
    rfl
  have hwhole : WholeCents h.usd := wholeCents_round roundHalfUp _
  have hquantized : quantizeHalfUp cents (inContext (h.amount * rate.value)) = some value ↔
      |h.usd| < 10 ^ 26 ∧ value = h.usd := by
    rw [quantizeHalfUp_eq_with, ← hvalue]
    constructor
    · intro hq
      obtain ⟨hlow, hhigh⟩ := quantizeWith_size hq
      obtain ⟨-, rfl⟩ := quantizeWith_eq_some.mp hq
      exact ⟨abs_lt.mpr ⟨hlow, hhigh⟩, rfl⟩
    · rintro ⟨hsize, rfl⟩
      obtain ⟨hlow, hhigh⟩ := abs_lt.mp hsize
      have hlow := lt_cents_iff.mp hlow
      have hhigh := cents_lt_iff.mp hhigh
      exact quantizeWith_eq_some.mpr ⟨by omega, rfl⟩
  rw [← hquantized]
  unfold convertToUsd
  rw [hrate]
  dsimp only
  cases quantizeHalfUp cents (inContext (h.amount * rate.value)) with
  | none => simp
  | some rounded => simp

/-- What the loop makes of the holdings. -/
theorem foldlM_addHolding (hsupported : ∀ h ∈ holdings, h.Supported)
    {sums sums' : ℚ × List (String × CurrencyValue)} :
    holdings.foldlM addHolding sums = .ok sums' ↔
      (∀ h ∈ holdings, |h.usd| < 10 ^ 26) ∧
        sums' = (holdings.foldl (fun total h => inContext (total + h.usd)) sums.1,
          (holdings.map Holding.entry).foldl (fun dict entry => Dict.set entry.1 entry.2 dict)
            sums.2) := by
  induction holdings generalizing sums with
  | nil =>
      constructor
      · intro h
        exact ⟨fun x hx => absurd hx List.not_mem_nil, (Except.ok.inj h).symm⟩
      · rintro ⟨-, rfl⟩
        rfl
  | cons first rest ih =>
      have hfirst := hsupported first List.mem_cons_self
      have hrest := fun x hx => hsupported x (List.mem_cons_of_mem first hx)
      rw [List.foldlM_cons, bind_eq_ok, List.forall_mem_cons]
      constructor
      · rintro ⟨next, hnext, h⟩
        obtain ⟨usdValue, husd, hpair⟩ := bind_eq_ok.mp hnext
        obtain ⟨hsize, rfl⟩ := (convertToUsd_eq_ok hfirst).mp husd
        obtain rfl := Except.ok.inj hpair
        obtain ⟨hsizes, rfl⟩ := (ih hrest).mp h
        exact ⟨⟨hsize, hsizes⟩, rfl⟩
      · rintro ⟨⟨hsize, hsizes⟩, rfl⟩
        refine ⟨(inContext (sums.1 + first.usd),
          Dict.set first.currency ⟨first.amount, first.usd⟩ sums.2), ?_,
          (ih hrest).mpr ⟨hsizes, rfl⟩⟩
        exact bind_eq_ok.mpr ⟨first.usd, (convertToUsd_eq_ok hfirst).mpr ⟨hsize, rfl⟩, rfl⟩

/-- The running total is in whole cents. -/
theorem runningTotal_wholeCents (holdings : List Holding) : WholeCents (runningTotal holdings) := by
  have hrun : ∀ (rest : List Holding) (start : ℚ), WholeCents start →
      WholeCents (rest.foldl (fun total h => inContext (total + h.usd)) start) := by
    intro rest
    induction rest with
    | nil => exact fun start hstart => hstart
    | cons first rest ih =>
        intro start hstart
        exact ih _ (hstart.add (wholeCents_round roundHalfUp _)).of_inContext
  exact hrun holdings 0 ⟨0, by norm_num⟩

/-- What is returned. -/
theorem getPortfolioValue_eq_ok (hsupported : ∀ h ∈ holdings, h.Supported)
    {value : PortfolioValue} :
    getPortfolioValue holdings = .ok value ↔
      (∀ h ∈ holdings, |h.usd| < 10 ^ 26) ∧ |runningTotal holdings| < 10 ^ 26 ∧
        value = ⟨runningTotal holdings, Dict.ofList (holdings.map Holding.entry), fxRatesUsed⟩ := by
  have hquantize : ∀ total, quantize cents (runningTotal holdings) = some total ↔
      |runningTotal holdings| < 10 ^ 26 ∧ total = runningTotal holdings := fun total =>
    (runningTotal_wholeCents holdings).quantizeWith_iff roundHalfEven_nearest.isRounding
  unfold getPortfolioValue
  rw [bind_eq_ok]
  constructor
  · rintro ⟨sums, hsums, h⟩
    obtain ⟨hsizes, rfl⟩ := (foldlM_addHolding hsupported).mp hsums
    dsimp only at h
    split at h
    · cases h
    · rename_i total htotal
      obtain ⟨hsize, rfl⟩ := (hquantize total).mp htotal
      obtain rfl := Except.ok.inj h
      exact ⟨hsizes, hsize, rfl⟩
  · rintro ⟨hsizes, hsize, rfl⟩
    refine ⟨_, (foldlM_addHolding hsupported).mpr ⟨hsizes, rfl⟩, ?_⟩
    have htotal := (hquantize _).mpr ⟨hsize, rfl⟩
    unfold runningTotal at htotal
    dsimp only
    rw [htotal]
    rfl

end Pass

/-! ## When it adds up -/

section Sums

variable {holdings front back : List Holding} {h : Holding} {currency : String}

/-- The sum over two lists. -/
theorem amountIn_append (front back : List Holding) (currency : String) :
    amountIn (front ++ back) currency = amountIn front currency + amountIn back currency := by
  simp only [amountIn, List.filter_append, List.map_append, List.sum_append]

/-- A holding counts in its own currency. -/
theorem amountIn_cons_self (h : Holding) (back : List Holding) :
    amountIn (h :: back) (upper h.currency) = h.amount + amountIn back (upper h.currency) := by
  rw [amountIn, List.filter_cons_of_pos (by simp), List.map_cons, List.sum_cons]
  rfl

/-- The holdings of a currency are one of them and the others. -/
theorem amountIn_split (front back : List Holding) (h : Holding) :
    amountIn (front ++ h :: back) (upper h.currency) =
      h.amount + amountIn (front ++ back) (upper h.currency) := by
  rw [amountIn_append, amountIn_cons_self, amountIn_append]
  ring

/-- The entries of the dictionary are those of the last holdings under their keys. -/
theorem mem_byCurrency_iff {entry : String × CurrencyValue} :
    entry ∈ Dict.ofList (holdings.map Holding.entry) ↔
      ∃ front h back, holdings = front ++ h :: back ∧ (∀ x ∈ back, x.currency ≠ h.currency) ∧
        entry = h.entry := by
  rw [(Dict.ofList_perm _).mem_iff, Dict.mem_kept_iff]
  constructor
  · rintro ⟨front', back', hsplit, hlast⟩
    obtain ⟨front, rest, rfl, rfl, hrest⟩ := List.map_eq_append_iff.mp hsplit
    obtain ⟨h, back, rfl, rfl, rfl⟩ := List.map_eq_cons_iff.mp hrest
    refine ⟨front, h, back, rfl, fun x hx hsame => hlast ?_, rfl⟩
    refine List.mem_map.mpr ⟨x.entry, List.mem_map_of_mem hx, hsame⟩
  · rintro ⟨front, h, back, rfl, hlast, rfl⟩
    refine ⟨front.map Holding.entry, back.map Holding.entry, by simp, ?_⟩
    intro hin
    obtain ⟨entry, hentry, hkey⟩ := List.mem_map.mp hin
    obtain ⟨x, hx, rfl⟩ := List.mem_map.mp hentry
    exact hlast x hx hkey

/-- The values in the dictionary and those that are overwritten are all values. -/
theorem byCurrency_sum (holdings : List Holding) :
    ((Dict.ofList (holdings.map Holding.entry)).map fun entry => entry.2.usdValue).sum +
        overwrittenUsd holdings = (holdings.map Holding.usd).sum := by
  have hkept := ((Dict.ofList_perm (holdings.map Holding.entry)).map
    fun entry => entry.2.usdValue).sum_eq
  have hall := ((Dict.kept_append_overwritten_perm (holdings.map Holding.entry)).map
    fun entry => entry.2.usdValue).sum_eq
  rw [List.map_append, List.sum_append, ← hkept, List.map_map] at hall
  exact hall

/-- Every holding has an entry. -/
theorem listed_byCurrency (holdings : List Holding) :
    ∀ h ∈ holdings, ∃ entry ∈ Dict.ofList (holdings.map Holding.entry),
      upper entry.1 = upper h.currency := by
  intro h hh
  have hkey : h.currency ∈ (holdings.map Holding.entry).map Prod.fst := by
    rw [List.map_map]
    exact List.mem_map.mpr ⟨h, hh, rfl⟩
  obtain ⟨entry, hentry, hsame⟩ := Dict.exists_kept hkey
  exact ⟨entry, (Dict.ofList_perm _).mem_iff.mpr hentry, congrArg upper hsame⟩

end Sums

/-- **When the breakdown adds up.** -/
theorem portfolio_adds_up_iff {holdings : List Holding}
    (hsupported : ∀ h ∈ holdings, h.Supported) :
    (∃ value, getPortfolioValue holdings = .ok value ∧ AddsUp holdings value) ↔
      BreakdownFits holdings := by
  constructor
  · rintro ⟨value, hvalue, -, hlocals, htotal⟩
    obtain ⟨hsizes, hsize, rfl⟩ := (getPortfolioValue_eq_ok hsupported).mp hvalue
    refine ⟨hsizes, hsize, ?_, ?_⟩
    · intro front h back hsplit hlast
      have hentry := hlocals h.entry (mem_byCurrency_iff.mpr ⟨front, h, back, hsplit, hlast, rfl⟩)
      -- an entry shows the last holding of its key, so the others of the currency come to nothing
      have hsum := amountIn_split front back h
      rw [← hsplit] at hsum
      have hlocal : h.amount = amountIn holdings (upper h.currency) := hentry
      linarith
    · have hsum := byCurrency_sum holdings
      dsimp only at htotal
      linarith
  · rintro ⟨hsizes, hsize, hlocals, hvalues⟩
    refine ⟨_, (getPortfolioValue_eq_ok hsupported).mpr ⟨hsizes, hsize, rfl⟩,
      listed_byCurrency holdings, ?_, ?_⟩
    · intro entry hentry
      obtain ⟨front, h, back, hsplit, hlast, rfl⟩ := mem_byCurrency_iff.mp hentry
      have hothers := hlocals front h back hsplit hlast
      have hsum := amountIn_split front back h
      rw [← hsplit, hothers, add_zero] at hsum
      exact hsum.symm
    · have hsum := byCurrency_sum holdings
      dsimp only
      linarith

/-- The statement on a portfolio in two currencies. -/
theorem portfolio_adds_up_iff_two :
    (∃ value, getPortfolioValue [⟨"USD", 100⟩, ⟨"xof", 50000⟩] = .ok value ∧
      AddsUp [⟨"USD", 100⟩, ⟨"xof", 50000⟩] value) ↔
        BreakdownFits [⟨"USD", 100⟩, ⟨"xof", 50000⟩] :=
  portfolio_adds_up_iff (by decide)

/-- Two holdings in dollars: the second replaces the first, and the total counts both.  Of two
spellings each has its own entry. -/
theorem not_adds_up :
    getPortfolioValue [⟨"USD", 100⟩, ⟨"USD", 50⟩] =
        .ok ⟨150, [("USD", ⟨50, 50⟩)], fxRatesUsed⟩ ∧
      ¬ AddsUp [⟨"USD", 100⟩, ⟨"USD", 50⟩] ⟨150, [("USD", ⟨50, 50⟩)], fxRatesUsed⟩ ∧
      getPortfolioValue [⟨"USD", 100⟩, ⟨"usd", 50⟩] =
        .ok ⟨150, [("USD", ⟨100, 100⟩), ("usd", ⟨50, 50⟩)], fxRatesUsed⟩ ∧
      ¬ AddsUp [⟨"USD", 100⟩, ⟨"usd", 50⟩]
        ⟨150, [("USD", ⟨100, 100⟩), ("usd", ⟨50, 50⟩)], fxRatesUsed⟩ := by
  refine ⟨by decide +kernel, fun h => ?_, by decide +kernel, fun h => ?_⟩
  · have htotal := h.total
    norm_num at htotal
  · have hlocal := h.locals _ List.mem_cons_self
    have hsum : amountIn [⟨"USD", 100⟩, ⟨"usd", 50⟩] (upper "USD") = 150 := by
      decide +kernel
    rw [hsum] at hlocal
    norm_num at hlocal

/-! ## Positive holdings

No cancelling is possible, so the condition becomes one on the currencies alone. -/

section Positive

variable {holdings : List Holding} {currency : String}

/-- A numeral without a sign. -/
theorem Numeral.value_nonneg (x : Numeral) : 0 ≤ x.value := by
  unfold Numeral.value
  split
  · positivity
  · positivity

/-- A holding that is not negative is worth no less than nothing. -/
theorem Holding.usd_nonneg {h : Holding} (hamount : 0 ≤ h.amount) : 0 ≤ h.usd := by
  have hrate : 0 ≤ h.rate := by
    rw [Holding.rate]
    cases fxToUsd.lookup (upper h.currency) with
    | none => exact le_rfl
    | some rate => exact Numeral.value_nonneg rate
  have hscaled : (0 : ℚ) ≤ inContext (h.amount * h.rate) * 10 ^ cents :=
    mul_nonneg (inContext_nonneg (mul_nonneg hamount hrate)) (pow_places_pos cents).le
  have hround : 0 ≤ roundHalfUp (inContext (h.amount * h.rate) * 10 ^ cents) := by
    have hmono := roundHalfUp_nearest.isRounding.mono hscaled
    rwa [← Int.cast_zero, roundHalfUp_nearest.isRounding.exact] at hmono
  exact div_nonneg (by exact_mod_cast hround) (pow_places_pos cents).le

/-- A running total that does not fall is exact as long as it stays below the limit. -/
theorem runningTotal_eq_sum (hvalues : ∀ h ∈ holdings, 0 ≤ h.usd)
    (hsize : runningTotal holdings < 10 ^ 26) :
    runningTotal holdings = (holdings.map Holding.usd).sum := by
  have hrun : ∀ (rest : List Holding) (start : ℚ), WholeCents start → 0 ≤ start →
      (∀ h ∈ rest, 0 ≤ h.usd) →
      rest.foldl (fun total h => inContext (total + h.usd)) start < 10 ^ 26 →
      start ≤ rest.foldl (fun total h => inContext (total + h.usd)) start ∧
        rest.foldl (fun total h => inContext (total + h.usd)) start =
          start + (rest.map Holding.usd).sum := by
    intro rest
    induction rest with
    | nil => exact fun start _ _ _ _ => ⟨le_rfl, (add_zero start).symm⟩
    | cons first rest ih =>
        intro start hwhole hstart hvalues hlimit
        obtain ⟨hfirst, hrest⟩ := List.forall_mem_cons.mp hvalues
        have hsum : WholeCents (start + first.usd) :=
          hwhole.add (wholeCents_round roundHalfUp _)
        have hsum₀ : 0 ≤ start + first.usd := add_nonneg hstart hfirst
        rw [List.foldl_cons] at hlimit ⊢
        obtain ⟨hle, hexact⟩ := ih _ hsum.of_inContext (inContext_nonneg hsum₀) hrest hlimit
        -- a sum that is too large would stay so, since nothing negative is added
        have hsmall : start + first.usd < 10 ^ 26 := by
          by_contra hlarge
          have hcut := le_inContext (fits28_pow 26) (not_lt.mp hlarge)
          linarith
        have hkept := inContext_eq_self (hsum.fits28 (by linarith) hsmall)
        rw [hkept] at hle hexact ⊢
        rw [List.map_cons, List.sum_cons]
        exact ⟨by linarith, by linarith⟩
  have htotal := (hrun holdings 0 ⟨0, by norm_num⟩ le_rfl hvalues hsize).2
  rwa [zero_add] at htotal

/-- Positive holdings come to nothing only where there are none. -/
theorem amountIn_eq_zero_iff (hpositive : ∀ h ∈ holdings, 0 < h.amount) :
    amountIn holdings currency = 0 ↔ currency ∉ holdings.map fun h => upper h.currency := by
  induction holdings with
  | nil => exact iff_of_true rfl List.not_mem_nil
  | cons first rest ih =>
      obtain ⟨hfirst, hrest⟩ := List.forall_mem_cons.mp hpositive
      have hnonneg : 0 ≤ amountIn rest currency := by
        refine List.sum_nonneg fun x hx => ?_
        obtain ⟨h, hh, rfl⟩ := List.mem_map.mp hx
        exact (hrest h (List.mem_of_mem_filter hh)).le
      rw [List.map_cons, List.mem_cons, not_or]
      by_cases hsame : upper first.currency = currency
      · subst hsame
        rw [amountIn_cons_self]
        refine iff_of_false (by linarith) fun h => h.1 rfl
      · have hskip : amountIn (first :: rest) currency = amountIn rest currency := by
          rw [amountIn, List.filter_cons_of_neg (by simpa using hsame)]
          rfl
        rw [hskip, ih hrest]
        exact (and_iff_right (Ne.symm hsame)).symm

/-- What is left when one holding is taken out is positive too. -/
theorem positive_others {front back : List Holding} {h : Holding}
    (hpositive : ∀ x ∈ front ++ h :: back, 0 < x.amount) : ∀ x ∈ front ++ back, 0 < x.amount := by
  intro x hx
  refine hpositive x ?_
  rw [List.mem_append, List.mem_cons]
  rcases List.mem_append.mp hx with hfront | hback
  · exact Or.inl hfront
  · exact Or.inr (Or.inr hback)

/-- Of positive holdings no two are in one currency. -/
theorem BreakdownFits.nodup (h : BreakdownFits holdings)
    (hpositive : ∀ h ∈ holdings, 0 < h.amount) :
    (holdings.map fun h => upper h.currency).Nodup := by
  refine List.nodup_iff_count_le_one.mpr fun currency => ?_
  by_cases hmem : currency ∈ holdings.map fun h => upper h.currency
  · obtain ⟨x, hx, rfl⟩ := List.mem_map.mp hmem
    -- the last holding under the key of `x` is the only one of the currency
    obtain ⟨entry, hentry, hsame⟩ := @Dict.exists_kept _ _ _
      (holdings.map Holding.entry) x.currency
      (by rw [List.map_map]; exact List.mem_map.mpr ⟨x, hx, rfl⟩)
    obtain ⟨front, last, back, rfl, hlast, rfl⟩ :=
      mem_byCurrency_iff.mp ((Dict.ofList_perm _).mem_iff.mpr hentry)
    have hkey : last.currency = x.currency := hsame
    have hnone := (amountIn_eq_zero_iff (positive_others hpositive)).mp
      (h.locals front last back rfl hlast)
    rw [hkey, ← List.count_eq_zero, List.map_append, List.count_append] at hnone
    rw [List.map_append, List.map_cons, List.count_append, hkey, List.count_cons_self]
    omega
  · rw [List.count_eq_zero.mpr hmem]
    exact Nat.zero_le 1

/-- Where no two holdings have one currency, none is overwritten. -/
theorem overwrittenUsd_of_nodup (h : (holdings.map fun h => upper h.currency).Nodup) :
    overwrittenUsd holdings = 0 := by
  have hcurrencies : (holdings.map Holding.entry).map Prod.fst =
      holdings.map Holding.currency := by
    rw [List.map_map]
    rfl
  have hupper : holdings.map (fun h => upper h.currency) =
      (holdings.map Holding.currency).map upper := by
    rw [List.map_map]
    rfl
  have hkeys : ((holdings.map Holding.entry).map Prod.fst).Nodup := by
    rw [hcurrencies]
    rw [hupper] at h
    exact List.Nodup.of_map upper h
  rw [overwrittenUsd, Dict.overwritten_eq_nil hkeys]
  rfl

/-- **Of positive holdings, there is one of each currency**, in whatever spelling. -/
theorem adds_up_iff_distinct (hpositive : ∀ h ∈ holdings, 0 < h.amount) :
    BreakdownFits holdings ↔
      (∀ h ∈ holdings, |h.usd| < 10 ^ 26) ∧ |runningTotal holdings| < 10 ^ 26 ∧
        (holdings.map fun h => upper h.currency).Nodup := by
  constructor
  · exact fun h => ⟨h.sizes, h.total, h.nodup hpositive⟩
  · rintro ⟨hsizes, hsize, hdistinct⟩
    refine ⟨hsizes, hsize, ?_, ?_⟩
    · rintro front h back rfl _
      refine (amountIn_eq_zero_iff (positive_others hpositive)).mpr fun hmem => ?_
      rw [List.map_append, List.map_cons] at hdistinct
      obtain ⟨hnew, -⟩ := List.nodup_cons.mp (List.nodup_middle.mp hdistinct)
      rw [List.map_append] at hmem
      exact hnew hmem
    · have hvalues : ∀ h ∈ holdings, 0 ≤ h.usd :=
        fun h hh => Holding.usd_nonneg (hpositive h hh).le
      rw [overwrittenUsd_of_nodup hdistinct, runningTotal_eq_sum hvalues (lt_of_abs_lt hsize),
        sub_self]

end Positive

end AfricaFrontier
