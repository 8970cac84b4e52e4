import AfricaFrontier.Lib.Keyset
import AfricaFrontier.MarketGateway.BrokerLinks
import AfricaFrontier.Python.DecimalText

/-!
# Broker activities

`get_portfolio_transactions` passes on a page of the activities of the linked account, as the
broker lists them, newest first; each is put in a form of its own.  The token of a page is the
id of its last activity, and the broker lists what is behind the activity that a token names.

Whatever arrives between two requests, a client that follows the tokens is shown every
activity once that there was when it began (`activity_pages`).

Two things are put together here. An activity of the broker is any JSON object, and its amount is
either given or the product of price and quantity, in the decimal context, where NaN, infinities
and overflow are what Python makes of them; an activity that the feed lists is one of which this
works. The pages of such activities are keyset pages, and following the tokens is the walk of the
library (`ActivityReads.serves`).
-/

namespace Python.DecimalValue

/-! ## Products of amounts -/

/-- The signals of a product that the default context traps. -/
inductive Signal
  | invalidOperation
  | overflow
  deriving DecidableEq

/-- `x * y` of finite numbers. -/
def product (x y : ℚ) : Except Signal DecimalValue :=
  if x * y = 0 then .ok (.finite 0)
  else if -999999 ≤ Int.log 10 |x * y| then
    if 999999 < Int.log 10 |inContext (x * y)| then .error .overflow
    else .ok (.finite (inContext (x * y)))
  else .ok (.finite (roundHalfEven (x * y * 10 ^ 1000026) / 10 ^ 1000026))

/-- `a * b`. -/
def mul : DecimalValue → DecimalValue → Except Signal DecimalValue
  | .nan s, .nan s' => if s || s' then .error .invalidOperation else .ok (.nan false)
  | .nan s, _ => if s then .error .invalidOperation else .ok (.nan false)
  | _, .nan s => if s then .error .invalidOperation else .ok (.nan false)
  | .infinity a, .infinity b => .ok (.infinity (a != b))
  | .infinity a, .finite y =>
      if y = 0 then .error .invalidOperation else .ok (.infinity (a != decide (y < 0)))
  | .finite x, .infinity b =>
      if x = 0 then .error .invalidOperation else .ok (.infinity (b != decide (x < 0)))
  | .finite x, .finite y => product x y

/-- `f"\x7ba:.2f\x7d"`. -/
def fixedCents : DecimalValue → String
  | .finite x =>
      let units := (roundHalfEven (|x| * 100)).toNat
      (if x < 0 then "-" else "") ++ digitsText (units / 100) ++ "." ++
        digitsText (units % 100 / 10) ++ digitsText (units % 10)
  | .infinity negative => if negative then "-Infinity" else "Infinity"
  | .nan _ => "NaN"

/-- Ties go to the even cent, and a small debt keeps its sign. -/
example : [.finite (5 / 1000), .finite (15 / 1000), .finite (-1 / 1000), .finite 1200].map
    fixedCents = ["0.00", "0.02", "-0.00", "1200.00"] := by
  decide +kernel

end Python.DecimalValue

namespace AfricaFrontier.MarketGateway

open Python Keyset

/-! ## One activity

What is shown of an activity: an id, a time, an amount in cents, and a description that is made up
where none is given. -/

/-- An activity as it is shown. -/
structure BrokerActivity where
  id : String
  activityType : String
  symbol : Json
  side : Json
  quantity : Json
  amount : Option String
  occurredAt : Json
  description : Json
  deriving DecidableEq

/-- `str.capitalize`. -/
def capitalize (s : String) : String :=
  match s.toList with
  | [] => ""
  | c :: cs => String.ofList (upperChar c :: cs.map Char.toLower)

/-- The value of a fill, from its price and its quantity; `none` where it has none, and an
error where the product overflows. -/
def fillAmount (activity : Obj) : Except DecimalValue.Signal (Option String) :=
  match DecimalValue.read (activity.get "price").text,
      DecimalValue.read (activity.get "qty").text with
  | some price, some quantity =>
      match price.mul quantity with
      | .ok amount =>
          .ok (some (if activity.get "side" = .str "buy" then amount.neg else amount).fixedCents)
      | .error .invalidOperation => .ok none
      | .error .overflow => .error .overflow
  | _, _ => .ok none

/-- The amount of an activity. -/
def activityAmount (activity : Obj) : Except DecimalValue.Signal (Option String) :=
  let amount := activity.get "net_amount"
  if amount = .null ∨ amount = .str "" then fillAmount activity else .ok (some amount.text)

/-- The description of an activity that has none. -/
def describeActivity (activityType : String) (symbol side : Json) : String :=
  if activityType = "FILL" ∧ symbol.truthy = true then
    capitalize (side.orElse (.str "trade")).text ++ " " ++ symbol.text
  else if symbol.truthy then activityType ++ " · " ++ symbol.text
  else activityType

/-- `normalize_broker_activity`. -/
def normalizeBrokerActivity (activity : Obj) : Except DecimalValue.Signal BrokerActivity := do
  let activityType :=
    (((activity.get "activity_type").orElse (activity.get "type")).orElse (.str "OTHER")).text
  let symbol := activity.get "symbol"
  let side := activity.get "side"
  let amount ← activityAmount activity
  let description := activity.get "description"
  return {
    id := ((activity.get "id").orElse (.str "")).text
    activityType := activityType
    symbol := symbol
    side := side
    quantity := activity.get "qty"
    amount := amount
    occurredAt := ((activity.get "transaction_time").orElse (activity.get "created_at")).orElse
      (activity.get "date")
    description :=
      if description.truthy then description
      else .str (describeActivity activityType symbol side) }

/-! ## One page -/

/-- A page as it is answered. -/
structure BrokerActivityPage where
  accountId : String
  transactions : List BrokerActivity
  count : ℕ
  nextPageToken : Option String

/-- The activities of a list that are objects. -/
def activityObjects (activities : List Json) : List Obj :=
  activities.filterMap fun a =>
    match a with
    | .obj activity => some activity
    | _ => none

/-- `build_activity_page`. -/
def buildActivityPage (accountId : String) (activities : List Json) (limit : ℕ) :
    Except DecimalValue.Signal BrokerActivityPage := do
  let transactions ← (activityObjects activities).mapM normalizeBrokerActivity
  return {
    accountId := accountId
    transactions := transactions
    count := transactions.length
    nextPageToken :=
      if transactions.length = limit then transactions.getLast?.map BrokerActivity.id else none }

/-- `list_account_activities` of an account: what the broker answers to a page size and a
token, if it does. -/
def ActivityList := String → ℕ → Option String → Option Json

/-- The answers of the route. -/
inductive ActivityAnswer
  | page (page : BrokerActivityPage)
  /-- 409: no active account is linked. -/
  | unlinked
  /-- 422: the limit or the token is not one. -/
  | refused
  /-- 502: the broker did not answer. -/
  | unavailable
  /-- 500: an exception escapes. -/
  | failed

/-- `get_portfolio_transactions`. -/
def getPortfolioTransactions (s : BrokerStore) (list : ActivityList) (userId limit : ℕ)
    (pageToken : Option String) : ActivityAnswer :=
  if limit < 1 ∨ 100 < limit then .refused
  else if pageToken.any fun token => decide (token.length < 1 ∨ 300 < token.length) then .refused
  else
    match s.getLinkedBrokerAccount userId with
    | .error _ => .failed
    | .ok none => .unlinked
    | .ok (some link) =>
        match list link.alpacaAccountId limit pageToken with
        | none => .unavailable
        | some answer =>
            -- any other value counts as no activities
            let activities := match answer with
              | .arr items => items
              | _ => []
            match buildActivityPage link.alpacaAccountId activities limit with
            | .ok page => .page page
            | .error _ => .failed

/-! ## Following the tokens

What the broker promises of its list is in `ActivityFeed`. -/

/-- An activity as the broker lists it: its amount can be worked out, and its id is a token. -/
structure ListedActivity where
  fields : Obj
  view : BrokerActivity
  normalized : normalizeBrokerActivity fields = .ok view
  id_ne : 1 ≤ view.id.length
  id_le : view.id.length ≤ 300

/-- What the broker answers about an account to one request after another, while activities
arrive: the newest ones, or those behind the one that is named. -/
structure ActivityFeed (K : Type) [LinearOrder K] where
  accountId : String
  list : ℕ → ActivityList
  activities : ℕ → List ListedActivity
  key : ListedActivity → K
  arrives : ∀ k a, a ∈ activities k → a ∈ activities (k + 1)
  first : ∀ k size, ∃ page, IsPage key (· ∈ activities k) size none page ∧
    list k accountId size none = some (.arr (page.map fun a => .obj a.fields))
  next : ∀ k size, ∀ a ∈ activities k, ∃ page,
    IsPage key (· ∈ activities k) size (some (key a)) page ∧
      list k accountId size (some a.view.id) = some (.arr (page.map fun a => .obj a.fields))

/-- The requests of a user who has the account linked all the time. The links of other users may
change meanwhile. -/
structure ActivityReads (K : Type) [LinearOrder K] extends ActivityFeed K where
  userId : ℕ
  store : ℕ → BrokerStore
  linked : ∀ k, ∃ link, (store k).getLinkedBrokerAccount userId = .ok (some link) ∧
    link.alpacaAccountId = accountId

/-- What was listed stays listed. -/
theorem ActivityFeed.listed_le {K : Type} [LinearOrder K] (feed : ActivityFeed K) {j k : ℕ}
    (hle : j ≤ k) {a : ListedActivity} (h : a ∈ feed.activities j) : a ∈ feed.activities k := by
  induction hle with
  | refl => exact h
  | step _ ih => exact feed.arrives _ a ih

section Pages

variable {K : Type} [LinearOrder K] {reads : ActivityReads K} {limit k : ℕ}

/-- The request number `k`, and the token of the page it is answered with. -/
def ActivityReads.ask (reads : ActivityReads K) (limit k : ℕ) (token : Option String) :
    Option (BrokerActivityPage × Option String) :=
  match getPortfolioTransactions (reads.store k) (reads.list k) reads.userId limit token with
  | .page page => some (page, page.nextPageToken)
  | _ => none

/-- The page of these activities. -/
def ActivityFeed.page (feed : ActivityFeed K) (limit : ℕ) (activities : List ListedActivity) :
    BrokerActivityPage where
  accountId := feed.accountId
  transactions := activities.map ListedActivity.view
  count := activities.length
  nextPageToken :=
    if activities.length = limit then activities.getLast?.map fun a => a.view.id else none

/-- Listed activities are objects. -/
theorem activityObjects_listed (activities : List ListedActivity) :
    activityObjects (activities.map fun a => .obj a.fields) =
      activities.map ListedActivity.fields := by
  induction activities with
  | nil => rfl
  | cons a rest ih =>
      rw [List.map_cons, List.map_cons, ← ih]
      rfl

/-- Each of the listed activities can be shown. -/
theorem mapM_normalize (activities : List ListedActivity) :
    (activities.map ListedActivity.fields).mapM normalizeBrokerActivity =
      .ok (activities.map ListedActivity.view) := by
  induction activities with
  | nil => rfl
  | cons a rest ih =>
      rw [List.map_cons, List.mapM_cons, a.normalized, ih]
      rfl

/-- The listed activities make a page. -/
theorem buildActivityPage_listed (feed : ActivityFeed K) (activities : List ListedActivity) :
    buildActivityPage feed.accountId (activities.map fun a => .obj a.fields) limit =
      .ok (feed.page limit activities) := by
  rw [buildActivityPage, activityObjects_listed, mapM_normalize]
  simp only [bind, Except.bind, pure, Except.pure, List.length_map, ActivityFeed.page,
    List.getLast?_map, Option.map_map]
  rfl

/-- The token names the cursor: no token is no cursor, and the id of an activity is its key. -/
inductive ActivityReads.Names (reads : ActivityReads K) (k : ℕ) : Option String → Option K → Prop
  | start : Names reads k none none
  | activity {a : ListedActivity} (h : a ∈ reads.activities k) :
      Names reads k (some a.view.id) (some (reads.key a))

/-- **One request** is answered with the page behind the cursor its token names. -/
theorem ActivityReads.ask_page (hlimit : 1 ≤ limit) (hmost : limit ≤ 100)
    {token : Option String} {cursor : Option K} (h : reads.Names k token cursor) :
    ∃ page, IsPage reads.key (· ∈ reads.activities k) limit cursor page ∧
      reads.ask limit k token =
        some (reads.page limit page, (reads.page limit page).nextPageToken) := by
  obtain ⟨link, hlink, haccount⟩ := reads.linked k
  have hlist : ∃ page, IsPage reads.key (· ∈ reads.activities k) limit cursor page ∧
      reads.list k reads.accountId limit token = some (.arr (page.map fun a => .obj a.fields)) := by
    cases h with
    | start => exact reads.first k limit
    | activity ha => exact reads.next k limit _ ha
  have htoken : (token.any fun token =>
      decide (token.length < 1 ∨ 300 < token.length)) = false := by
    cases h with
    | start => rfl
    | @activity a ha =>
        have hne := a.id_ne
        have hle := a.id_le
        simp only [Option.any_some, decide_eq_false_iff_not]
        omega
  obtain ⟨page, hpage, hanswer⟩ := hlist
  refine ⟨page, hpage, ?_⟩
  have hrange : ¬ (limit < 1 ∨ 100 < limit) := by omega
  simp only [ask, getPortfolioTransactions, if_neg hrange, htoken, Bool.false_eq_true, if_false,
    hlink, haccount, hanswer, buildActivityPage_listed]

/-- The route serves the pages behind the cursors. -/
theorem ActivityReads.serves (hlimit : 1 ≤ limit) (hmost : limit ≤ 100) :
    Serves reads.key (fun k a => a ∈ reads.activities k) limit (reads.page limit) reads.Names
      (reads.ask limit) :=
  Serves.of_last hlimit (fun _ _ _ hnames => reads.ask_page hlimit hmost hnames)
    fun k _ hthere => .activity (reads.arrives k _ hthere)

/-- What following the tokens shows: activities of the account, newest first and each at most
once; and all that were there at the first request, where the last page has come. -/
structure ActivityReads.Shows (reads : ActivityReads K) (requests : ℕ)
    (run : List BrokerActivityPage × WalkEnd) (shown : List ListedActivity) : Prop where
  answered : run.2 ≠ .failed
  shown_eq : run.1.flatMap BrokerActivityPage.transactions = shown.map ListedActivity.view
  ordered : shown.Pairwise fun a b => reads.key b < reads.key a
  listed : ∀ a ∈ shown, ∃ k < requests, a ∈ reads.activities k
  complete : run.2 = .ended → ∀ a ∈ reads.activities 0, a ∈ shown

/-- **Nothing is lost and nothing repeated.**  Following the tokens from the first page, every
request is answered with a page, the pages show what `Shows` says, and the last of them comes
as soon as full pages have used up the activities there are. -/
theorem activity_pages (reads : ActivityReads K) (requests : ℕ) (hlimit : 1 ≤ limit)
    (hmost : limit ≤ 100) :
    (∃ shown, reads.Shows requests (walk (reads.ask limit) requests 0 none) shown) ∧
      ∀ most, (∀ k, (reads.activities k).length ≤ most) → most / limit < requests →
        (walk (reads.ask limit) requests 0 none).2 = .ended := by
  have hstart : reads.Names 0 none none := .start
  obtain ⟨pages, ended, hfollows, hwalk, hfew, hall⟩ :=
    (reads.serves hlimit hmost).follows requests hstart
  rw [hwalk]
  constructor
  · refine ⟨pages.flatten, ?_, ?_, hfollows.descending, ?_, ?_⟩
    · cases ended <;> exact fun hno => by cases hno
    · rw [List.flatMap_map, List.map_flatten, List.flatMap_def]
      rfl
    · intro a ha
      obtain ⟨-, j, -, huntil, hthere⟩ := hfollows.sound a ha
      exact ⟨j, by omega, hthere⟩
    · intro hended a ha
      refine hfollows.complete reads.arrives ?_ a ha fun c hc => by cases hc
      cases ended with
      | true => rfl
      | false => cases hended
  · intro most hbound henough
    have hrows : pages.flatten.length ≤ most := by
      refine (hfollows.length_le fun a ha => ?_).trans (hbound requests)
      obtain ⟨-, j, -, huntil, hthere⟩ := hfollows.sound a ha
      exact reads.listed_le (by omega) hthere
    rw [hfollows.ended_of_requests hlimit hall hrows henough]
    rfl

end Pages

/-! ## A broker that keeps a log -/

section Log

variable {K : Type} [LinearOrder K]

/-- The feed of a broker that lists a log, newest first. -/
def ActivityFeed.ofLog (accountId : String) (log : ℕ → List ListedActivity)
    (key : ListedActivity → K) (hlog : ∀ k, Descending key (log k))
    (hids : ∀ k, ∀ a ∈ log k, ∀ b ∈ log k, a.view.id = b.view.id → key a = key b)
    (arrives : ∀ k a, a ∈ log k → a ∈ log (k + 1)) : ActivityFeed K where
  accountId := accountId
  list k _ size token :=
    match token with
    | none => some (.arr (((log k).take size).map fun a => .obj a.fields))
    | some id =>
        ((log k).find? fun a => decide (a.view.id = id)).map fun a =>
          .arr ((((log k).filter fun b => decide (key b < key a)).take size).map
            fun b => .obj b.fields)
  activities := log
  key := key
  arrives := arrives
  first k size := by
    refine ⟨_, isPage_take (hlog k) (fun a => ?_) size, rfl⟩
    exact ⟨fun ha => ⟨ha, fun c hc => by cases hc⟩, And.left⟩
  next k size a ha := by
    obtain ⟨b, hfind⟩ : ∃ b, ((log k).find? fun b => decide (b.view.id = a.view.id)) = some b := by
      cases hfind : (log k).find? fun b => decide (b.view.id = a.view.id) with
      | none => exact absurd (decide_eq_true rfl) (List.find?_eq_none.mp hfind a ha)
      | some b => exact ⟨b, rfl⟩
    have hid : decide (b.view.id = a.view.id) = true :=
      List.find?_some (p := fun b : ListedActivity => decide (b.view.id = a.view.id)) hfind
    have hkey : key b = key a :=
      hids k b (List.mem_of_find?_eq_some hfind) a ha (of_decide_eq_true hid)
    refine ⟨_, isPage_take ((hlog k).filter fun b => decide (key b < key a)) (fun b => ?_) size, ?_⟩
    · rw [List.mem_filter, decide_eq_true_eq]
      refine and_congr_right fun _ => ⟨fun hlt c hc => ?_, fun hbehind => hbehind _ rfl⟩
      rw [← Option.some.inj hc]
      exact hlt
    · simp only [hfind, hkey, Option.map_some]

end Log

/-- A transfer, as the broker lists it. -/
def transferFields (id : String) : Obj :=
  [("id", .str id), ("activity_type", .str "JNLC"), ("net_amount", .str "10.00"),
    ("date", .str "2025-01-02")]

/-- Three transfers, one after the other. -/
def transfer (i : Fin 3) : ListedActivity where
  fields := transferFields (["id-0", "id-1", "id-2"].get i)
  view :=
    { id := ["id-0", "id-1", "id-2"].get i
      activityType := "JNLC"
      symbol := .null
      side := .null
      quantity := .null
      amount := some "10.00"
      occurredAt := .str "2025-01-02"
      description := .str "JNLC" }
  normalized := by
    revert i
    decide
  id_ne := by
    revert i
    decide
  id_le := by
    revert i
    decide

/-- Their order: the place in the log. -/
def transferKey (a : ListedActivity) : ℕ :=
  if a.view.id = "id-2" then 2 else if a.view.id = "id-1" then 1 else 0

/-- The third transfer arrives after the first request. -/
def transferLog : ℕ → List ListedActivity
  | 0 => [transfer 1, transfer 0]
  | _ + 1 => [transfer 2, transfer 1, transfer 0]

/-- The reads of a user who has linked an account of a broker that keeps this log. -/
def transferReads : ActivityReads ℕ where
  toActivityFeed := .ofLog "account-01" transferLog transferKey
    (by
      intro k
      cases k with
      | zero => exact List.pairwise_pair.mpr (by decide)
      | succ k =>
          refine List.pairwise_cons.mpr ⟨?_, List.pairwise_pair.mpr (by decide)⟩
          intro a ha
          rcases List.mem_cons.mp ha with rfl | ha
          · decide
          · rw [List.mem_singleton.mp ha]
            decide)
    (by
      intro k a _ b _ hsame
      rw [transferKey, transferKey, hsame])
    (by
      intro k a ha
      cases k with
      | zero => exact List.mem_cons_of_mem _ ha
      | succ k => exact ha)
  userId := 1
  store _ :=
    { BrokerStore.empty with
      links :=
        { rows := [⟨0, 1, "account-01", "active"⟩]
          next := 1
          fresh := by
            intro l hl
            rw [List.mem_singleton.mp hl]
            decide
          distinct := List.pairwise_singleton _ _
          unique := List.pairwise_singleton _ _ } }
  linked _ := ⟨_, rfl, rfl⟩

/-- The statement on pages of one transfer: four requests come to the end. -/
theorem activity_pages_transfers :
    (∃ shown, transferReads.Shows 4 (walk (transferReads.ask 1) 4 0 none) shown) ∧
      (walk (transferReads.ask 1) 4 0 none).2 = .ended := by
  have hpages := activity_pages transferReads 4 (le_refl 1) (by decide)
  refine ⟨hpages.1, hpages.2 3 (fun k => ?_) (by decide)⟩
  cases k with
  | zero => decide
  | succ k => exact le_refl 3

end AfricaFrontier.MarketGateway
