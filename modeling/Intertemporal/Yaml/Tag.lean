import Intertemporal.Yaml.Timestamp

/-!
# Tags

A tag says what kind of value a node denotes. A plain scalar without a tag has the tag of the first
form that its text has: a truth value, a number with a point, an integer, nothing at all, a
timestamp. All other ones are text. The forms are those of version 1.1 of the format: `yes` is a
truth value, `017` an octal integer, `1:30` an integer to base sixty, and `1e3` is text because it
has no point.
-/

namespace Intertemporal.Yaml

/-- The kind of value that a node denotes. -/
inductive Tag
  | missing
  | truth
  | integer
  | number
  | text
  | timestamp
  | sequence
  | mapping
  /-- The key under which the entries of other mappings are taken over. -/
  | merge
  /-- The key `=`. -/
  | standIn
  | unknown
deriving DecidableEq, Repr

namespace Tag

/-- What the full names of the tags below begin with. -/
def stem : String := "tag:yaml.org,2002:"

/-- The names of tags behind the stem. -/
def names : List (String × Tag) :=
  [("null", .missing), ("bool", .truth), ("int", .integer), ("float", .number), ("str", .text),
   ("timestamp", .timestamp), ("seq", .sequence), ("map", .mapping), ("merge", .merge),
   ("value", .standIn)]

/-- The tag of a full name. -/
def ofName (name : String) : Tag :=
  ((names.find? fun entry => stem ++ entry.1 == name).map (·.2)).getD .unknown

/-! ## Forms of plain scalars -/

/-- The words for what is true. -/
def trueWords : List String := ["yes", "Yes", "YES", "true", "True", "TRUE", "on", "On", "ON"]

/-- The words for what is false. -/
def falseWords : List String :=
  ["no", "No", "NO", "false", "False", "FALSE", "off", "Off", "OFF"]

/-- The words for nothing. -/
def missingWords : List String := ["~", "null", "Null", "NULL", ""]

/-- The words for an infinite number. -/
def infiniteWords : List String := [".inf", ".Inf", ".INF"]

/-- The words for an undefined number. -/
def undefinedWords : List String := [".nan", ".NaN", ".NAN"]

/-- A text without the sign in front of it. -/
def unsigned : List Char → List Char
  | '+' :: rest => rest
  | '-' :: rest => rest
  | digits => digits

/-- Whether a text is not empty and has no other characters than the given ones. -/
def consistsOf (belongs : Char → Bool) (text : List Char) : Bool :=
  !text.isEmpty && text.all belongs

/-- A digit of a base, or a separator. -/
def isDigitOf (base : Nat) (char : Char) : Bool := (Text.digit? base char).isSome || char == '_'

/-- Whether a text is a number below sixty. -/
def isSixtieth : List Char → Bool
  | [ones] => ones.isDigit
  | [tens, ones] => (Text.digit? 6 tens).isSome && ones.isDigit
  | _ => false

/-- The parts of a text between colons. -/
def splitColons : List Char → List (List Char)
  | [] => [[]]
  | char :: rest =>
    match splitColons rest with
    | part :: others => if char == ':' then [] :: part :: others else (char :: part) :: others
    | [] => [[char]]

/-- Whether a text is a decimal number with separators, or several of them between colons: all but
the first are below sixty. -/
def isPositional (startsWell : Char → Bool) (text : List Char) : Bool :=
  match splitColons text with
  | (first :: digits) :: others =>
    startsWell first && digits.all (isDigitOf 10) && others.all isSixtieth
  | _ => false

/-- Whether a text is an exponent with its sign, or empty. -/
def isExponent : List Char → Bool
  | [] => true
  | letter :: sign :: digits =>
    (letter == 'e' || letter == 'E') && (sign == '+' || sign == '-') &&
      consistsOf Char.isDigit digits
  | _ => false

/-- Whether a text has the form of an integer. -/
def isInteger (text : List Char) : Bool :=
  match unsigned text with
  | ['0'] => true
  | '0' :: 'b' :: digits => consistsOf (isDigitOf 2) digits
  | '0' :: 'x' :: digits => consistsOf (isDigitOf 16) digits
  | '0' :: digits => consistsOf (isDigitOf 8) digits
  | digits => isPositional Char.isDigit digits

/-- Whether a text has the form of a number with a point. -/
def isNumber (text : List Char) : Bool :=
  let body := unsigned text
  let whole := body.takeWhile (· != '.')
  match body.dropWhile (· != '.') with
  | [] => false
  | _ :: rest =>
    let places := rest.takeWhile (isDigitOf 10)
    let ending := rest.dropWhile (isDigitOf 10)
    if infiniteWords.contains (String.ofList body) then true
    else if undefinedWords.contains (String.ofList text) then true
    else if whole.isEmpty then
      body == text && places.head?.any Char.isDigit && isExponent ending
    else
      isPositional Char.isDigit whole &&
        (if whole.contains ':' then ending.isEmpty else isExponent ending)

/-- The tag of a plain scalar. -/
def ofPlain (text : String) : Tag :=
  let chars := text.toList
  if trueWords.contains text || falseWords.contains text then .truth
  else if isNumber chars then .number
  else if isInteger chars then .integer
  else if text == "<<" then .merge
  else if missingWords.contains text then .missing
  else if Timestamp.isPlain chars then .timestamp
  else if text == "=" then .standIn
  else .text

end Tag

end Intertemporal.Yaml
