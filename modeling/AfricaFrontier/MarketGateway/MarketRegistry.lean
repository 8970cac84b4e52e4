import AfricaFrontier.Lib.Dict
import AfricaFrontier.Lib.Sessions
import AfricaFrontier.Python.Calendar
import AfricaFrontier.Python.Uuid
import AfricaFrontier.Trading.MarketData

/-!
# The market registry (`market_gateway/market_registry.py`)

`is_open` converts an instant to the market's timezone, asks for the day of the week and then
for the minute of the day.  The weekend is asked about the current day, also for the part of
a session after midnight, which opened the day before (`sessions_iff`).

Weekend and hours are texts, and `is_open` survives whatever they say.  An unknown timezone
it does not: the handler names an exception that `ZoneInfo` does not have, and neither does
it survive an instant whose local time lies beyond the years a `datetime` can have
(`market_answered_iff`).

Timezones are functions from moments to offsets, so that a conversion is an addition, and any
offset rules are covered, daylight saving included. A time that has the market's own `ZoneInfo` is
not converted by Python, and here it is not either, which only matters for a `ZoneInfo` made
outside the cache.

For well-formed hours the question of `sessions_iff` is one of the library: whether a minute is in
a session of its own day or of the day before.
-/

namespace AfricaFrontier

open Python

/-! ## Numbers in texts -/

/-- `sys.get_int_max_str_digits()`. -/
def maxStrDigits : ℕ := 4300

/-- Digits with single underscores between them, at most so many. -/
def readPlainDigits (cs : List Char) : Option ℤ :=
  let digits := cs.filter (· ≠ '_')
  if (cs.splitOn '_').any List.isEmpty ∨ maxStrDigits < digits.length then none
  else (readDigits digits).map Int.ofNat

/-- `int(text)`; `none` is a `ValueError`. -/
def intOfText (text : String) : Option ℤ :=
  let body := ((text.toList.map toAscii).dropWhile isAsciiSpace).reverse.dropWhile isAsciiSpace
  readSigned readPlainDigits Int.neg body.reverse

/-- Spaces, signs, underscores and the digits of another script; and three that are none. -/
example : ["9", " 09 ", "+0_9", "-1", "٩"].map intOfText =
      [some 9, some 9, some 9, some (-1), some 9] ∧
    ["", "1__2", "9h"].map intOfText = [none, none, none] := by
  decide

/-! ## Markets

The texts of a market, and what is read out of them. -/

/-- `Market`: the columns the registry reads. -/
structure Market where
  code : String
  name : String
  timezone : String
  openTime : String
  closeTime : String
  weekendDays : Option String
  deriving DecidableEq

/-- `_markets`. -/
abbrev MarketRegistry := List (String × Market)

/-- What ends a call early. -/
inductive StatusError
  | notFound (detail : String)
  | closed (detail : String)
  | python (exception : PyException)
  | overflow
  deriving DecidableEq

namespace MarketRegistry

/-- `register`. -/
def register (registry : MarketRegistry) (market : Market) : MarketRegistry :=
  Dict.set market.code market registry

/-- `get_market`. -/
def getMarket (registry : MarketRegistry) (code : String) : Except StatusError Market :=
  (registry.lookup code).elim (.error (.notFound ("Market " ++ code ++ " not found"))) .ok

end MarketRegistry

namespace Market

/-- `WEEKEND_DEFAULT`. -/
def weekendDefault : List ℤ := [6, 7]

/-- `{int(d) for d in weekend_days.split(",")}`; `none` is a `ValueError`. -/
def readWeekend (text : String) : Option (List ℤ) := (splitAt ',' text).mapM intOfText

/-- `weekend_days`. A text that cannot be read comes to the default, like none at all. -/
def weekend (market : Market) : List ℤ :=
  match market.weekendDays with
  | none => weekendDefault
  | some text => if text = "" then weekendDefault else (readWeekend text).getD weekendDefault

/-- `map(int, text.split(":"))` into two variables; `none` is a `ValueError`. -/
def readClock (text : String) : Option (ℤ × ℤ) :=
  match (splitAt ':' text).mapM intOfText with
  | some [hour, minute] => some (hour, minute)
  | _ => none

/-- `open_minutes` and `close_minutes`. -/
def hours (market : Market) : Option (ℤ × ℤ) :=
  (readClock market.openTime).bind fun opening => (readClock market.closeTime).map fun closing =>
    (opening.1 * 60 + opening.2, closing.1 * 60 + closing.2)

end Market

/-! ## Local time

Days and minutes are counted from 1970, on the clock in question. -/

/-- The minute since 1970 on a clock, and the day. -/
def minuteOf (clock : Instant) : ℤ := clock / 60000000

/-- The day on a clock. -/
def dayOf (clock : Instant) : ℤ := clock / dayLength

/-- `isoweekday()` of a day; 1970 began on a Thursday. -/
def isoweekday (day : ℤ) : ℤ := (day + 3) % 7 + 1

/-- `local_time.hour * 60 + local_time.minute`. -/
def currentMinutes (clock : Instant) : ℤ :=
  let hour := clock % dayLength / 3600000000
  let minute := clock % 3600000000 / 60000000
  hour * 60 + minute

/-- The days and the minutes of a clock agree. -/
theorem minuteOf_div (clock : Instant) : minuteOf clock / 1440 = dayOf clock := by
  unfold minuteOf dayOf dayLength
  omega

/-- The minute of the day. -/
theorem minuteOf_mod (clock : Instant) : minuteOf clock % 1440 = currentMinutes clock := by
  unfold minuteOf currentMinutes dayLength
  simp only
  omega

/-- A timezone: the offset of its clocks at a moment in UTC. -/
abbrev Zone := ℤ → ℤ

/-- An aware `datetime`: what it says, its offset from UTC, and the key of its timezone if it
has the `ZoneInfo` of one, of which there is one object for each key. -/
structure AwareTime where
  wall : Instant
  offset : ℤ
  zoneKey : Option String
  wall_mem : minInstant ≤ wall ∧ wall ≤ maxInstant

/-- A `datetime` can say it. -/
def Representable (clock : Instant) : Prop := minInstant ≤ clock ∧ clock ≤ maxInstant

instance (clock : Instant) : Decidable (Representable clock) :=
  inferInstanceAs (Decidable (_ ∧ _))

namespace AwareTime

/-- The moment in UTC. -/
def utc (time : AwareTime) : ℤ := time.wall - time.offset

/-- `astimezone`: a time in the timezone itself is returned as it is. -/
def astimezone (time : AwareTime) (key : String) (zone : Zone) : Except StatusError Instant :=
  if time.zoneKey = some key then .ok time.wall
  else if Representable time.utc then
    let clock := time.utc + zone time.utc
    if Representable clock then .ok clock else .error .overflow
  else .error .overflow

end AwareTime

/-! ## `is_open` and `assert_open` -/

/-- What `is_open` answers by a local clock. -/
def Market.isOpenAt (market : Market) (clock : Instant) : Bool :=
  if isoweekday (dayOf clock) ∈ market.weekend then false
  else
    match market.hours with
    | none => true
    | some (opening, closing) =>
        let current := currentMinutes clock
        if closing < opening then decide (opening ≤ current) || decide (current ≤ closing)
        else decide (opening ≤ current) && decide (current ≤ closing)

section Registry

-- `zones` is `ZoneInfo`, which raises for the other keys; `now` is the current time in UTC.
variable (zones : String → Option Zone) (now : AwareTime) (registry : MarketRegistry)
  (code : String) (time : Option AwareTime)

/-- `is_open`. -/
def isOpen : Except StatusError Bool := do
  let market ← registry.getMarket code
  let checkTime := time.getD now
  -- the handler's `ZoneInfo.NotFoundError` is an `AttributeError`
  let zone ← (zones market.timezone).elim (.error (.python .attribute)) .ok
  let clock ← checkTime.astimezone market.timezone zone
  .ok (market.isOpenAt clock)

/-- The text of a `MarketClosedError`. -/
def Market.closedDetail (market : Market) (code : String) : String :=
  "Market " ++ market.name ++ " (" ++ code ++ ") is currently closed. Trading hours: " ++
    market.openTime ++ "-" ++ market.closeTime ++ " " ++ market.timezone

/-- `assert_open`. -/
def assertOpen : Except StatusError Unit := do
  let opened ← isOpen zones now registry code time
  if opened then .ok ()
  else do
    let market ← registry.getMarket code
    .error (.closed (market.closedDetail code))

end Registry

/-! ## What the calls come to

The three ways in which a call can fail are told apart. -/

section Calls

variable {zones : String → Option Zone} {now : AwareTime} {registry : MarketRegistry}
  {code : String} {market : Market} {time : AwareTime}

/-- The clock of a time in the market's timezone, or in UTC if there is none.  A time in the
timezone itself is read as it is. -/
def localClock (zones : String → Option Zone) (market : Market) (time : AwareTime) : Instant :=
  if time.zoneKey = some market.timezone then time.wall
  else time.utc + ((zones market.timezone).getD fun _ => 0) time.utc

/-- The time can be converted to the market's timezone: it is in it already, or both clocks show a
year that Python has. -/
def Convertible (zones : String → Option Zone) (market : Market) (time : AwareTime) : Prop :=
  time.zoneKey = some market.timezone ∨
    Representable time.utc ∧ Representable (localClock zones market time)

/-- Of the timezone and of the time itself, `is_open` asks no more. -/
theorem isOpen_eq_ok_iff (hregistered : registry.getMarket code = .ok market) {opened : Bool} :
    isOpen zones now registry code (some time) = .ok opened ↔
      (zones market.timezone).isSome ∧ Convertible zones market time ∧
        opened = market.isOpenAt (localClock zones market time) := by
  unfold isOpen Convertible localClock AwareTime.astimezone
  rw [hregistered]
  simp only [bind, Except.bind, Option.getD_some]
  cases hzone : zones market.timezone with
  | none => simp
  | some zone =>
      simp only [Option.elim_some, Option.isSome_some, Option.getD_some, true_and]
      split_ifs with hshared hutc hlocal
      · simp [hshared, eq_comm]
      · simp [hshared, hutc, hlocal, eq_comm]
      · simp [hshared, hlocal]
      · simp [hshared, hutc]

/-- What `assert_open` raises is what `is_open` raises, or that the market is closed. -/
theorem assertOpen_eq_error_iff (hregistered : registry.getMarket code = .ok market)
    {e : StatusError} :
    assertOpen zones now registry code (some time) = .error e ↔
      isOpen zones now registry code (some time) = .error e ∨
        isOpen zones now registry code (some time) = .ok false ∧
          e = .closed (market.closedDetail code) := by
  unfold assertOpen
  rw [hregistered]
  cases isOpen zones now registry code (some time) with
  | error e' => simp [bind, Except.bind]
  | ok opened => cases opened <;> simp [bind, Except.bind, eq_comm]

/-! ## Status is always answered -/

/-- A call answers by the clock in the market's timezone, or in UTC if that is unknown, with
the default for a weekend that cannot be read and the whole of a trading day for hours that
cannot; and `assert_open` raises nothing but that the market is closed. -/
structure StatusAnswered (zones : String → Option Zone) (now : AwareTime)
    (registry : MarketRegistry) (code : String) (market : Market) (time : AwareTime) : Prop where
  answer : isOpen zones now registry code (some time) =
    .ok (market.isOpenAt (localClock zones market time))
  /-- A weekend that cannot be read. -/
  weekend : (∀ text ∈ market.weekendDays, Market.readWeekend text = none) →
    market.weekend = Market.weekendDefault
  /-- Hours that cannot be read. -/
  hours : market.hours = none → isOpen zones now registry code (some time) =
    .ok (decide (isoweekday (dayOf (localClock zones market time)) ∉ market.weekend))
  asserted : ∀ e, assertOpen zones now registry code (some time) = .error e →
    ∃ detail, e = .closed detail

theorem weekend_eq_default (h : ∀ text ∈ market.weekendDays, Market.readWeekend text = none) :
    market.weekend = Market.weekendDefault := by
  unfold Market.weekend
  cases htext : market.weekendDays with
  | none => rfl
  | some text =>
      simp only [h text htext, Option.getD_none]
      split <;> rfl

/-- Then only the weekend counts. -/
theorem isOpenAt_of_unreadable (h : market.hours = none) (clock : Instant) :
    market.isOpenAt clock = decide (isoweekday (dayOf clock) ∉ market.weekend) := by
  unfold Market.isOpenAt
  rw [h]
  split <;> simp_all

/-- **Status is answered.**  A call for a registered market answers as it should, and
`assert_open` raises nothing else, if and only if the timezone is known and the time can be
converted to it. -/
theorem market_answered_iff (hregistered : registry.getMarket code = .ok market) :
    StatusAnswered zones now registry code market time ↔
      (zones market.timezone).isSome ∧ Convertible zones market time := by
  constructor
  · intro h
    obtain ⟨hzone, hconvertible, -⟩ := (isOpen_eq_ok_iff hregistered).mp h.answer
    exact ⟨hzone, hconvertible⟩
  · rintro ⟨hzone, hconvertible⟩
    have hanswer : isOpen zones now registry code (some time) =
        .ok (market.isOpenAt (localClock zones market time)) :=
      (isOpen_eq_ok_iff hregistered).mpr ⟨hzone, hconvertible, rfl⟩
    refine ⟨hanswer, weekend_eq_default, fun hhours => ?_, fun e he => ?_⟩
    · rw [hanswer, isOpenAt_of_unreadable hhours]
    · rcases (assertOpen_eq_error_iff hregistered).mp he with he | ⟨-, he⟩
      · rw [hanswer] at he
        cases he
      · exact ⟨_, he⟩

/-! ## Sessions belong to the day they open -/

/-- The text is a well-formed time of day. -/
def IsClock (text : String) (minutes : ℤ) : Prop :=
  ∃ hour minute, Market.readClock text = some (hour, minute) ∧ 0 ≤ hour ∧ hour < 24 ∧
    0 ≤ minute ∧ minute < 60 ∧ minutes = hour * 60 + minute

/-- The market has a session on the day. -/
def Market.OpensOn (market : Market) (day : ℤ) : Prop := isoweekday day ∉ market.weekend

instance (market : Market) (day : ℤ) : Decidable (market.OpensOn day) :=
  inferInstanceAs (Decidable (_ ∉ _))

/-- A call answers whether the time is in a session of a day the market opens on, that of the day
before included where sessions pass midnight. -/
def SessionsBelong (zones : String → Option Zone) (now : AwareTime) (registry : MarketRegistry)
    (code : String) (market : Market) (opening closing : ℤ) (time : AwareTime) : Prop :=
  ∃ opened, isOpen zones now registry code (some time) = .ok opened ∧
    (opened = true ↔ DailySession.InSession opening closing market.OpensOn
      (minuteOf (localClock zones market time)))

variable {opening closing : ℤ} {clock : Instant}

/-- A time of day is within the day. -/
theorem IsClock.bounds {text : String} {minutes : ℤ} (h : IsClock text minutes) :
    0 ≤ minutes ∧ minutes < 1440 := by
  obtain ⟨hour, minute, -, hhour, hhour', hminute, hminute', rfl⟩ := h
  exact ⟨by omega, by omega⟩

/-- Well-formed hours are read. -/
theorem hours_eq (hopening : IsClock market.openTime opening)
    (hclosing : IsClock market.closeTime closing) : market.hours = some (opening, closing) := by
  obtain ⟨oh, om, hread, -, -, -, -, rfl⟩ := hopening
  obtain ⟨ch, cm, hread', -, -, -, -, rfl⟩ := hclosing
  simp [Market.hours, hread, hread']

/-- Within one day the weekend is that of the session. -/
theorem isOpenAt_iff_of_le (hhours : market.hours = some (opening, closing))
    (hopening : 0 ≤ opening) (hclosing : closing < 1440) (h : opening ≤ closing) :
    market.isOpenAt clock = true ↔
      DailySession.InSession opening closing market.OpensOn (minuteOf clock) := by
  rw [DailySession.inSession_iff_of_le hopening hclosing h, minuteOf_div, minuteOf_mod]
  unfold Market.isOpenAt Market.OpensOn
  rw [hhours]
  by_cases hweekend : isoweekday (dayOf clock) ∈ market.weekend
  · simp [hweekend]
  · simp [hweekend, not_lt.mpr h]

/-- Past midnight the code asks for the weekend of the next day. -/
theorem isOpenAt_iff_of_lt (hhours : market.hours = some (opening, closing))
    (hclosing : 0 ≤ closing) (hopening : opening < 1440) (h : closing < opening) :
    (market.isOpenAt clock = true ↔
        DailySession.InSession opening closing market.OpensOn (minuteOf clock)) ↔
      (currentMinutes clock ≤ closing →
        (market.OpensOn (dayOf clock) ↔ market.OpensOn (dayOf clock - 1))) := by
  rw [DailySession.inSession_iff_of_lt hclosing hopening h, minuteOf_div, minuteOf_mod]
  have hopen : market.isOpenAt clock = true ↔ market.OpensOn (dayOf clock) ∧
      (opening ≤ currentMinutes clock ∨ currentMinutes clock ≤ closing) := by
    unfold Market.isOpenAt Market.OpensOn
    rw [hhours]
    by_cases hweekend : isoweekday (dayOf clock) ∈ market.weekend
    · simp [hweekend]
    · simp [hweekend, h]
  rw [hopen]
  by_cases hcurrent : currentMinutes clock ≤ closing
  · have hbefore : ¬ opening ≤ currentMinutes clock := by omega
    simp [hcurrent, hbefore]
  · simp [hcurrent]

/-- **Sessions belong to the day they open.**  A call for a registered market with
well-formed hours answers by its sessions if and only if the timezone is known, the time can
be converted to it, and, after midnight in an overnight session, the day is in the weekend
exactly if the day before is. -/
theorem sessions_iff (hregistered : registry.getMarket code = .ok market)
    (hopening : IsClock market.openTime opening) (hclosing : IsClock market.closeTime closing) :
    SessionsBelong zones now registry code market opening closing time ↔
      (zones market.timezone).isSome ∧ Convertible zones market time ∧
        (closing < opening → currentMinutes (localClock zones market time) ≤ closing →
          (market.OpensOn (dayOf (localClock zones market time)) ↔
            market.OpensOn (dayOf (localClock zones market time) - 1))) := by
  have hhours := hours_eq hopening hclosing
  have hmeets : (market.isOpenAt (localClock zones market time) = true ↔
        DailySession.InSession opening closing market.OpensOn
          (minuteOf (localClock zones market time))) ↔
      (closing < opening → currentMinutes (localClock zones market time) ≤ closing →
        (market.OpensOn (dayOf (localClock zones market time)) ↔
          market.OpensOn (dayOf (localClock zones market time) - 1))) := by
    -- past midnight the code asks for the weekday of the wrong day
    by_cases hovernight : closing < opening
    · rw [isOpenAt_iff_of_lt hhours hclosing.bounds.1 hopening.bounds.2 hovernight]
      simp [hovernight]
    · have hday : market.isOpenAt (localClock zones market time) = true ↔
          DailySession.InSession opening closing market.OpensOn
            (minuteOf (localClock zones market time)) :=
        isOpenAt_iff_of_le hhours hopening.bounds.1 hclosing.bounds.2 (not_lt.mp hovernight)
      simp [hovernight, hday]
  rw [← hmeets]
  unfold SessionsBelong
  constructor
  · rintro ⟨opened, hopened, hsession⟩
    obtain ⟨hzone, hconvertible, rfl⟩ := (isOpen_eq_ok_iff hregistered).mp hopened
    exact ⟨hzone, hconvertible, hsession⟩
  · rintro ⟨hzone, hconvertible, hsession⟩
    exact ⟨_, (isOpen_eq_ok_iff hregistered).mpr ⟨hzone, hconvertible, rfl⟩, hsession⟩

end Calls

/-! ## Weekends of an overnight market -/

/-- A market in Abidjan, whose clocks show UTC. -/
def abidjanMarket (timezone openTime closeTime : String) : Market where
  code := "BRVM"
  name := "Bourse Regionale des Valeurs Mobilieres"
  timezone := timezone
  openTime := openTime
  closeTime := closeTime
  weekendDays := some "6,7"

/-- The one timezone that is known. -/
def abidjanZones (key : String) : Option Zone :=
  if key = "Africa/Abidjan" then some fun _ => 0
  else if key = "Africa/Lagos" then some fun _ => 3600000000 else none

/-- The beginning of 1970 is in the range. -/
theorem beginning_mem : minInstant ≤ 0 ∧ 0 ≤ maxInstant := by
  decide

/-- A moment in UTC; outside the range of `datetime` the beginning of 1970. -/
def utcTime (moment : Instant) : AwareTime :=
  if h : minInstant ≤ moment ∧ moment ≤ maxInstant then ⟨moment, 0, none, h⟩
  else ⟨0, 0, none, beginning_mem⟩

/-- An hour of a day in January 2024, which began on a Monday. -/
def january (day hour : ℤ) : AwareTime := utcTime ((19722 + day) * dayLength + hour * 3600000000)

/-- Only this market is registered. -/
def onlyMarket (market : Market) : MarketRegistry := MarketRegistry.register [] market

/-- A market that closes before midnight, on a Saturday. -/
theorem sessions_iff_saturday :
    SessionsBelong abidjanZones (january 1 0)
      (onlyMarket (abidjanMarket "Africa/Abidjan" "09:00" "15:30")) "BRVM"
      (abidjanMarket "Africa/Abidjan" "09:00" "15:30") 540 930 (january 6 10) := by
  refine (sessions_iff rfl ⟨9, 0, ?_⟩ ⟨15, 30, ?_⟩).mpr ⟨rfl, Or.inr ?_, fun h => ?_⟩
  · decide
  · decide
  · decide
  · exact absurd h (by decide)

/-- A market that closes after midnight. -/
def nightMarket : Market := abidjanMarket "Africa/Abidjan" "22:00" "04:00"

/-- Early on Saturday the session of Friday is denied, and early on Monday one of Sunday is
claimed. -/
theorem not_sessionsBelong :
    ¬ SessionsBelong abidjanZones (january 1 0) (onlyMarket nightMarket) "BRVM" nightMarket
        1320 240 (january 6 1) ∧
      ¬ SessionsBelong abidjanZones (january 1 0) (onlyMarket nightMarket) "BRVM" nightMarket
        1320 240 (january 8 1) := by
  constructor
  · rintro ⟨opened, hopened, hiff⟩
    have hdenied : isOpen abidjanZones (january 1 0) (onlyMarket nightMarket) "BRVM"
        (some (january 6 1)) = .ok false := by
      decide
    rw [DailySession.inSession_iff_of_lt (by decide) (by decide) (by decide)] at hiff
    obtain rfl := Except.ok.inj (hdenied.symm.trans hopened)
    exact absurd (hiff.mpr (Or.inr (by decide))) (by decide)
  · rintro ⟨opened, hopened, hiff⟩
    have hclaimed : isOpen abidjanZones (january 1 0) (onlyMarket nightMarket) "BRVM"
        (some (january 8 1)) = .ok true := by
      decide
    rw [DailySession.inSession_iff_of_lt (by decide) (by decide) (by decide)] at hiff
    obtain rfl := Except.ok.inj (hclaimed.symm.trans hopened)
    exact absurd (hiff.mp rfl) (by decide)

/-! ## Times that are not answered -/

/-- A market with texts that cannot be read. -/
theorem market_answered_iff_unreadable :
    StatusAnswered abidjanZones (january 1 0)
      (onlyMarket (abidjanMarket "Africa/Abidjan" "nine" "15:30:00")) "BRVM"
      (abidjanMarket "Africa/Abidjan" "nine" "15:30:00") (january 6 10) :=
  (market_answered_iff rfl).mpr ⟨rfl, Or.inr (by decide)⟩

/-- An unknown timezone, and the last hour of the year 9999 in a timezone ahead of UTC. -/
theorem not_statusAnswered :
    ¬ StatusAnswered abidjanZones (january 1 0)
        (onlyMarket (abidjanMarket "Mars/Olympus" "09:00" "15:30")) "BRVM"
        (abidjanMarket "Mars/Olympus" "09:00" "15:30") (january 8 10) ∧
      ¬ StatusAnswered abidjanZones (january 1 0)
        (onlyMarket (abidjanMarket "Africa/Lagos" "09:00" "15:30")) "BRVM"
        (abidjanMarket "Africa/Lagos" "09:00" "15:30") (utcTime maxInstant) := by
  constructor
  · intro h
    have hraised : isOpen abidjanZones (january 1 0)
        (onlyMarket (abidjanMarket "Mars/Olympus" "09:00" "15:30")) "BRVM"
        (some (january 8 10)) = .error (.python .attribute) := by
      decide
    exact absurd (hraised.symm.trans h.answer) (by simp)
  · intro h
    have hraised : isOpen abidjanZones (january 1 0)
        (onlyMarket (abidjanMarket "Africa/Lagos" "09:00" "15:30")) "BRVM"
        (some (utcTime maxInstant)) = .error .overflow := by
      decide
    exact absurd (hraised.symm.trans h.answer) (by simp)

end AfricaFrontier
