import AfricaFrontier.Lib.Pages
import AfricaFrontier.Python.Words

/-!
# Instrument pages (`api_gateway/main.py`)

`paginate_instruments` filters the catalogue by a query and cuts a page from what is left;
`trading_list_assets` answers with the page and tells, from the number of the page and the
number of matches, whether there is more.  The two agree: asking for pages until there is no
more yields the matches, each once and in order.

The page is a slice, and the number of matches does not depend on the page; so there is more
behind a page exactly if matches are left, and the pages up to the first without more put the
matches together again. Query and page size are arbitrary.
-/

namespace AfricaFrontier

open Python

/-- `xs[start : stop]`. -/
def sliceBetween {α : Type} (start stop : ℤ) (xs : List α) : List α :=
  let index (n : ℤ) : ℕ := (if n < 0 then n + xs.length else n).toNat
  (xs.take (index stop)).drop (index start)

/-- From a start that is not negative on, so many of the elements. -/
theorem sliceBetween_add {α : Type} (start length : ℕ) (xs : List α) :
    sliceBetween start (start + length) xs = (xs.drop start).take length := by
  have hstart : ¬ (start : ℤ) < 0 := by omega
  have hstop : ¬ (start : ℤ) + length < 0 := by omega
  simp only [sliceBetween, if_neg hstart, if_neg hstop]
  rw [List.drop_take]
  congr 1
  omega

section Instruments

-- `lower` is `str.lower`, with the character tables of the host.
variable (lower : String → String)

/-- The texts of an asset in which a query is looked for. -/
def searchedTexts (asset : Obj) : List String :=
  [asset.firstText ["symbol"], asset.firstText ["name"], asset.firstText ["exchange"]]

/-- The query occurs in one of the texts in lower case. -/
def matchesQuery (normalizedQuery : String) (asset : Obj) : Bool :=
  (searchedTexts asset).any fun text => contains (lower text) normalizedQuery

/-- `paginate_instruments`. -/
def paginateInstruments (assets : List Obj) (query : String) (page pageSize : ℤ) :
    List Obj × ℕ :=
  let normalizedQuery := lower (strip query)
  let assets := if normalizedQuery ≠ "" then assets.filter (matchesQuery lower normalizedQuery)
    else assets
  let offset := (page - 1) * pageSize
  (sliceBetween offset (offset + pageSize) assets, assets.length)

/-- The answer of `trading_list_assets`. -/
structure AssetPage where
  count : ℕ
  totalCount : ℕ
  assetClass : String
  page : ℤ
  pageSize : ℤ
  hasMore : Bool
  assets : List Obj

/-- `trading_list_assets`, of the tradable assets it has loaded. -/
def tradingListAssets (tradableAssets : List Obj) (assetClass : Option String) (query : String)
    (page pageSize : ℤ) : AssetPage :=
  let paginated := paginateInstruments lower tradableAssets query page pageSize
  { count := paginated.1.length
    totalCount := paginated.2
    assetClass := (assetClass.filter (· ≠ "")).getD "all"
    page := page
    pageSize := pageSize
    hasMore := page * pageSize < paginated.2
    assets := paginated.1 }

/-- The assets that match a query, in the order of the catalogue. -/
def queryMatches (assets : List Obj) (query : String) : List Obj :=
  assets.filter (matchesQuery lower (lower (strip query)))

/-- An empty query occurs in every text. -/
theorem queryMatches_eq (assets : List Obj) (query : String) :
    (if lower (strip query) ≠ "" then
      assets.filter (matchesQuery lower (lower (strip query))) else assets) =
      queryMatches lower assets query := by
  unfold queryMatches
  split
  · rfl
  · rename_i hempty
    rw [not_not.mp hempty, List.filter_eq_self.mpr]
    simp [matchesQuery, searchedTexts]

/-- The number of matches, on whatever page. -/
theorem paginateInstruments_total (assets : List Obj) (query : String) (page pageSize : ℤ) :
    (paginateInstruments lower assets query page pageSize).2 =
      (queryMatches lower assets query).length := by
  simp only [paginateInstruments, queryMatches_eq]

/-- A page of the matches. -/
theorem paginateInstruments_page (assets : List Obj) (query : String) {number : ℕ}
    (hnumber : 1 ≤ number) (size : ℕ) :
    (paginateInstruments lower assets query number size).1 =
      Pages.page (queryMatches lower assets query) size number := by
  obtain ⟨k, rfl⟩ := Nat.exists_eq_add_of_le' hnumber
  have hoffset : ((↑(k + 1) : ℤ) - 1) * size = ↑(k * size) := by
    push_cast
    rw [Int.add_sub_cancel]
  simp only [paginateInstruments, queryMatches_eq, hoffset, sliceBetween_add]
  rfl

/-- There is more when matches are left behind the page. -/
theorem tradingListAssets_hasMore (assets : List Obj) (assetClass : Option String)
    (query : String) (number size : ℕ) :
    (tradingListAssets lower assets assetClass query number size).hasMore = true ↔
      number * size < (queryMatches lower assets query).length := by
  simp only [tradingListAssets, paginateInstruments_total, decide_eq_true_eq]
  exact_mod_cast Iff.rfl

/-- The pages of a query, when the one of this number is the first without more. -/
structure PartitionedAt (assets : List Obj) (assetClass : Option String) (query : String)
    (pageSize : ℤ) (last : ℕ) : Prop where
  pos : 1 ≤ last
  done : (tradingListAssets lower assets assetClass query last pageSize).hasMore = false
  more : ∀ number : ℕ, 1 ≤ number → number < last →
    (tradingListAssets lower assets assetClass query number pageSize).hasMore = true
  /-- The pages up to it in a row are the matches, in their order. -/
  whole : ((List.range last).flatMap fun k =>
    (paginateInstruments lower assets query (k + 1 : ℕ) pageSize).1) =
      queryMatches lower assets query
  /-- Every page tells their number. -/
  total : ∀ page : ℤ, (paginateInstruments lower assets query page pageSize).2 =
    (queryMatches lower assets query).length
  /-- The pages after it are empty. -/
  rest : ∀ page : ℤ, last < page → (paginateInstruments lower assets query page pageSize).1 = []

/-- **The pages partition the matches.**  There is a first page without more, and up to it
the pages are the matches. -/
theorem instrument_pages_partition (assets : List Obj) (assetClass : Option String)
    (query : String) {pageSize : ℤ} (hsize : 1 ≤ pageSize) :
    ∃ last, PartitionedAt lower assets assetClass query pageSize last := by
  obtain ⟨size, rfl⟩ := Int.eq_ofNat_of_zero_le (by omega : 0 ≤ pageSize)
  obtain ⟨last, hlast⟩ :=
    Pages.exists_isLast (queryMatches lower assets query) (by omega : 0 < size)
  refine ⟨last, hlast.pos, ?done, ?more, ?whole, ?total, ?rest⟩
  case done =>
    rw [Bool.eq_false_iff, ne_eq, tradingListAssets_hasMore]
    exact hlast.done
  case more =>
    intro number hpos hbefore
    rw [tradingListAssets_hasMore]
    exact hlast.more number hpos hbefore
  case whole =>
    have hpage : ∀ k : ℕ, (paginateInstruments lower assets query (k + 1 : ℕ) size).1 =
        Pages.page (queryMatches lower assets query) size (k + 1) := fun k =>
      paginateInstruments_page lower assets query (Nat.le_add_left 1 k) size
    simp only [hpage]
    exact hlast.flatMap_page
  case total =>
    intro page
    exact paginateInstruments_total lower assets query page size
  case rest =>
    intro page hafter
    obtain ⟨number, rfl⟩ := Int.eq_ofNat_of_zero_le (by omega : 0 ≤ page)
    have hnumber : last < number := by exact_mod_cast hafter
    rw [paginateInstruments_page lower assets query (hlast.pos.trans hnumber.le)]
    exact hlast.page_eq_nil hnumber

/-- Three assets, two of which match "af" in a symbol or a name. -/
def sampleAssets : List Obj :=
  [[("symbol", .str "AAPL"), ("name", .str "Apple Inc."), ("exchange", .str "NASDAQ")],
    [("symbol", .str "AFRM"), ("name", .str "Affirm Holdings"), ("exchange", .str "NASDAQ")],
    [("symbol", .str "JMIA"), ("name", .str "Jumia Africa"), ("exchange", .null)]]

/-- The statement on two matches, one on a page. -/
theorem instrument_pages_partition_one :
    (queryMatches Python.lower sampleAssets " AF").length = 2 ∧
      ∃ last, PartitionedAt Python.lower sampleAssets none " AF" 1 last :=
  ⟨by decide, instrument_pages_partition Python.lower sampleAssets none " AF" (by decide)⟩

end Instruments

end AfricaFrontier
