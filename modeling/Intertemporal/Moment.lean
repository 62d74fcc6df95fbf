import Intertemporal.Date

/-!
# Moments

Times of a day, as they occur in data. A moment may say how far its clock is ahead of universal
time. Two moments are compared by their clocks if neither says so, and by the instants that they
mean if both do.
-/

namespace Intertemporal

/-- A time of a day. -/
structure Moment where
  day : Date
  hour : Nat
  minute : Nat
  second : Nat
  microsecond : Nat := 0
  /-- How many minutes the clock is ahead of universal time, if that is known. -/
  ahead? : Option Int := none
deriving DecidableEq, Repr

namespace Moment

/-- Whether there is such a day with such a time. A clock is ahead or behind by less than a day. -/
def isReal (moment : Moment) : Bool :=
  moment.day.isReal && moment.hour < 24 && moment.minute < 60 && moment.second < 60 &&
    moment.ahead?.all fun ahead => ahead.natAbs < 24 * 60

/-- The number of the instant that is meant, in the order of time. -/
def instant (moment : Moment) : Int :=
  let minutes := (moment.day.number * 24 + moment.hour) * 60 + moment.minute
  let seconds := ((minutes : Int) - moment.ahead?.getD 0) * 60 + moment.second
  seconds * 1000000 + moment.microsecond

/-- Whether two moments can be brought into an order. -/
def isComparable (left right : Moment) : Bool := left.ahead?.isSome == right.ahead?.isSome

/-- Whether two moments are the same instant. -/
def isSame (left right : Moment) : Bool :=
  isComparable left right && left.instant == right.instant

/-- How far a clock is ahead of universal time, in hours and minutes. -/
def aheadText (ahead : Int) : String :=
  (if ahead < 0 then "-" else "+") ++ Date.padded 2 (ahead.natAbs / 60) ++ ":" ++
    Date.padded 2 (ahead.natAbs % 60)

/-- A moment as day and time. -/
def text (moment : Moment) : String :=
  moment.day.text ++ " " ++
    ":".intercalate ([moment.hour, moment.minute, moment.second].map (Date.padded 2)) ++
    (if moment.microsecond = 0 then "" else "." ++ Date.padded 6 moment.microsecond) ++
    ((moment.ahead?.map aheadText).getD "")

/-- How far a clock is ahead of universal time, as it is shown inside other data: a number of
seconds within a day, from a day before if the clock is behind. -/
def aheadShown (ahead : Int) : String :=
  if ahead = 0 then "datetime.timezone.utc"
  else
    let seconds := if ahead < 0 then s!"days=-1, seconds={86400 + 60 * ahead}"
      else s!"seconds={60 * ahead}"
    "datetime.timezone(datetime.timedelta(" ++ seconds ++ "))"

/-- A moment as it is shown inside other data, without seconds that are zero. -/
def shown (moment : Moment) : String :=
  let { day, hour, minute, second, microsecond, ahead? } := moment
  let seconds :=
    if microsecond ≠ 0 then [second, microsecond] else if second ≠ 0 then [second] else []
  let numbers := [day.year, day.month, day.day, hour, minute] ++ seconds
  let zone := ahead?.toList.map fun ahead => "tzinfo=" ++ aheadShown ahead
  "datetime.datetime(" ++ ", ".intercalate (numbers.map toString ++ zone) ++ ")"

end Moment

end Intertemporal
