/-!
# Dates

Days of the calendar, as they occur in data.
-/

namespace Intertemporal

/-- A day of the calendar. -/
structure Date where
  year : Nat
  month : Nat
  day : Nat
deriving DecidableEq, Repr

namespace Date

/-- Whether a year has a day in February that others do not have. -/
def isLeapYear (year : Nat) : Bool := year % 4 == 0 && (year % 100 != 0 || year % 400 == 0)

/-- The number of days of a month. -/
def daysIn (year month : Nat) : Nat :=
  if month == 2 then (if isLeapYear year then 29 else 28)
  else if [4, 6, 9, 11].contains month then 30
  else 31

/-- Whether the calendar has a day. Years have one to four digits. -/
def isReal (date : Date) : Bool :=
  1 ≤ date.year && date.year ≤ 9999 && 1 ≤ date.month && date.month ≤ 12 && 1 ≤ date.day &&
    date.day ≤ daysIn date.year date.month

/-- The number of days before a year, from the year one on. -/
def daysBeforeYear (year : Nat) : Nat :=
  let years := year - 1
  365 * years + years / 4 - years / 100 + years / 400

/-- The number of a day in the order of time. -/
def number (date : Date) : Nat :=
  let months := (List.range date.month).drop 1
  months.foldl (fun days month => days + daysIn date.year month) (daysBeforeYear date.year) +
    date.day

/-- A number with zeros in front, up to a width. -/
def padded (width number : Nat) : String :=
  let digits := toString number
  String.ofList (List.replicate (width - digits.length) '0') ++ digits

/-- A day as year, month and day. -/
def text (date : Date) : String :=
  padded 4 date.year ++ "-" ++ padded 2 date.month ++ "-" ++ padded 2 date.day

/-- A day as it is shown inside other data. -/
def shown (date : Date) : String := s!"datetime.date({date.year}, {date.month}, {date.day})"

end Date

end Intertemporal
