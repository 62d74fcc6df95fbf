import Intertemporal.Moment
import Intertemporal.Yaml.Cursor

/-!
# Timestamps

A timestamp is a day, written as year, month and day with hyphens between them, or a moment. A
moment has the time of the day behind a letter `T` or behind blanks, perhaps with a fraction of a
second, and may end with the distance from universal time, for which the letter `Z` means none.
Reading a timestamp does not ask whether the calendar has that day.
-/

namespace Intertemporal.Yaml

/-- What a timestamp stands for. -/
inductive Timestamp
  | day (value : Date)
  | moment (value : Moment)
deriving DecidableEq, Repr

namespace Timestamp

/-- The number that digits at the front of a text form, at least and at most so many of them, and
the rest of the text. -/
def number? (least most : Nat) (text : List Char) : Option (Nat × List Char) :=
  let digits := (text.take most).takeWhile Char.isDigit
  if digits.length < least then none
  else some (Text.ofDigits 10 digits, text.drop digits.length)

/-- A number of digits behind a mark. -/
def numberAfter? (mark : Char) (least most : Nat) (text : List Char) : Option (Nat × List Char) :=
  if text.head? = some mark then number? least most (text.drop 1) else none

/-- Whether a character is a blank or a tab. -/
def isSpace (char : Char) : Bool := char == ' ' || char == '\t'

/-- The text behind the letter or the blanks between a day and its time. -/
def behindDay? (text : List Char) : Option (List Char) :=
  match text with
  | [] => none
  | first :: rest =>
    if first == 'T' || first == 't' then some rest
    else if isSpace first then some (rest.dropWhile isSpace)
    else none

/-- The microseconds behind a point, if there is one; further digits are dropped. -/
def fraction (text : List Char) : Nat × List Char :=
  match text with
  | '.' :: rest =>
    let digits := rest.takeWhile Char.isDigit
    (Text.ofDigits 10 ((digits ++ List.replicate 6 '0').take 6), rest.drop digits.length)
  | _ => (0, text)

/-- A distance in minutes that is written as hours or as hours and minutes. -/
def distance? (text : List Char) : Option Int := do
  let (hours, rest) ← number? 1 2 text
  if rest.isEmpty then return 60 * hours
  let (minutes, rest) ← numberAfter? ':' 2 2 rest
  if rest.isEmpty then some (60 * hours + minutes) else none

/-- What stands behind the time: nothing, or the distance from universal time. -/
def ahead? (text : List Char) : Option (Option Int) :=
  if text.isEmpty then some none
  else
    match text.dropWhile isSpace with
    | ['Z'] => some (some 0)
    | '+' :: rest => (distance? rest).map some
    | '-' :: rest => (distance? rest).map fun distance => some (-distance)
    | _ => none

/-- The timestamp that a text is. -/
def ofText? (text : List Char) : Option Timestamp := do
  let (year, rest) ← number? 4 4 text
  let (month, rest) ← numberAfter? '-' 1 2 rest
  let (dayOfMonth, rest) ← numberAfter? '-' 1 2 rest
  let date : Date := { year, month, day := dayOfMonth }
  if rest.isEmpty then return .day date
  let (hour, rest) ← number? 1 2 (← behindDay? rest)
  let (minute, rest) ← numberAfter? ':' 2 2 rest
  let (second, rest) ← numberAfter? ':' 2 2 rest
  let (microsecond, rest) := fraction rest
  let ahead ← ahead? rest
  return .moment { day := date, hour, minute, second, microsecond, ahead? := ahead }

/-- Whether a text is a timestamp also without a tag that says so: a day alone needs two digits for
the month and for the day. -/
def isPlain (text : List Char) : Bool :=
  match ofText? text with
  | some (.day _) => text.length == "2000-01-01".length
  | some (.moment _) => true
  | none => false

end Timestamp

end Intertemporal.Yaml
