import Intertemporal.Source.Term
import Intertemporal.Text.NormalForm

/-!
# Tokens

The lexical grammar of equation text. A text is one logical line: line breaks count as blanks inside
brackets and end the expression elsewhere, a backslash joins two lines, and a comment runs to the
end of its line.

`Token.scan` recognises the token that begins with a given character and says how many of the
following characters belong to it, so that the loop `Token.ofLine` visibly consumes its input.
-/

namespace Intertemporal.Source

/-- Punctuation and operators. -/
inductive Mark
  | leftParen
  | rightParen
  | leftBracket
  | rightBracket
  | leftBrace
  | rightBrace
  | comma
  | colon
  | dot
  | assign
  | ellipsis
  | plus
  | minus
  | star
  | doubleStar
  | slash
  | doubleSlash
  | percent
  | at
  | tilde
  | ampersand
  | bar
  | caret
  | shiftLeft
  | shiftRight
  | equal
  | notEqual
  | less
  | lessEqual
  | greater
  | greaterEqual
deriving DecidableEq, Repr

/-- Words that belong to the grammar of expressions. -/
inductive Word
  | and
  | or
  | not
  | when
  | otherwise
  | member
  | identical
  | truth
  | falsehood
  | nothing
deriving DecidableEq, Repr

/-- A token of equation text. -/
inductive Token (α : Type)
  | name (identifier : String)
  | literal (value : Literal α)
  | mark (mark : Mark)
  | word (word : Word)

namespace Token

variable {α : Type}

/-- Characters of which a word consists, before it is known to be an identifier. -/
def isWordChar (char : Char) : Bool :=
  char.isAlphanum || char == '_' || Text.isWide char

/-- Blanks within a line. -/
def isInlineBlank (char : Char) : Bool :=
  char == ' ' || char == '\t' || char == '\x0c'

/-- The grammar's words by their spelling. -/
def words : List (String × Word) :=
  [("and", .and), ("or", .or), ("not", .not), ("if", .when), ("else", .otherwise),
   ("in", .member), ("is", .identical), ("True", .truth), ("False", .falsehood),
   ("None", .nothing)]

/-- Words that are no names, although no expression contains them. -/
def reserved : List String :=
  ["as", "assert", "async", "await", "break", "class", "continue", "def", "del", "elif",
   "except", "finally", "for", "from", "global", "import", "lambda", "nonlocal", "pass",
   "raise", "return", "try", "while", "with", "yield"]

/-- Whether characters form an identifier. -/
def isIdentifier : List Char → Bool
  | [] => false
  | first :: rest => Text.isIdentifierStart first && rest.all Text.isIdentifierRest

/-- The token of a maximal run of word characters. A name is known by its normal form. -/
def ofWord? (characters : List Char) : Option (Token α) :=
  let spelling := String.ofList characters
  if isIdentifier characters then
    match words.lookup spelling with
    | some meant => some (.word meant)
    | none =>
      if reserved.contains spelling then none
      else some (.name (String.ofList (Text.normalName characters)))
  else none

/-! ## Numbers -/

/-- Digits with single underscores between them, and what follows. Fails on an underscore that no
digit follows. -/
def digitRun (isDigit : Char → Bool) : List Char → Option (List Char × List Char)
  | [] => some ([], [])
  | '_' :: [] => none
  | '_' :: next :: rest =>
    if isDigit next then
      (digitRun isDigit rest).map fun (digits, remaining) => (next :: digits, remaining)
    else none
  | char :: rest =>
    if isDigit char then
      (digitRun isDigit rest).map fun (digits, remaining) => (char :: digits, remaining)
    else some ([], char :: rest)

/-- Whether text begins with a word that nothing continues. -/
def startsWithWord (word text : List Char) : Bool :=
  word.isPrefixOf text && !((text.drop word.length).head?.any isWordChar)

/-- Whether a number may end before the given text. A word must not follow at once, except one that
can stand after an operand. -/
def endsNumber (text : List Char) : Bool :=
  match text with
  | [] => true
  | 'i' :: next :: _ => next == 'f' || next == 'n' || next == 's'
  | char :: _ =>
    !isWordChar char ||
      [['a', 'n', 'd'], ['e', 'l', 's', 'e'], ['f', 'o', 'r'], ['o', 'r'], ['n', 'o', 't']].any
        (startsWithWord · text)

/-- A number that nothing runs into. -/
def finishNumber (value : Literal α) (rest : List Char) : Option (Literal α × List Char) :=
  if endsNumber rest then some (value, rest) else none

/-- An integer in another base, after the letter that names the base. -/
def basedNumber (base : Nat) (text : List Char) : Option (Literal α × List Char) := do
  let (digits, rest) ← digitRun (fun char => (Text.digit? base char).isSome) text
  if digits.isEmpty then none else finishNumber (.natural (Text.ofDigits base digits)) rest

variable [Scalar α]

/-- What follows the digits of a number that is not an integer: perhaps the letter of an imaginary
one. -/
def finishReal (mantissa : Nat) (exponent : Int) : List Char → Option (Literal α × List Char)
  | 'j' :: rest => finishNumber (.imaginary (Scalar.ofDecimal mantissa exponent)) rest
  | 'J' :: rest => finishNumber (.imaginary (Scalar.ofDecimal mantissa exponent)) rest
  | rest => finishNumber (.real (Scalar.ofDecimal mantissa exponent)) rest

/-- The digits of an exponent. -/
def exponentDigits (negative : Bool) (mantissa : Nat) (shift : Int) (text : List Char) :
    Option (Literal α × List Char) := do
  let (digits, rest) ← digitRun Char.isDigit text
  let magnitude : Int := Text.ofDigits 10 digits
  finishReal mantissa (shift + if negative then -magnitude else magnitude) rest

/-- What follows the digits and the fraction of a number: perhaps an exponent. A letter `e` that
begins a word after the number is no exponent. -/
def realTail (mantissa : Nat) (shift : Int) (text : List Char) : Option (Literal α × List Char) :=
  let afterLetter (rest : List Char) : Option (Literal α × List Char) :=
    match rest with
    | '+' :: digit :: _ =>
      if digit.isDigit then exponentDigits false mantissa shift (rest.drop 1) else none
    | '-' :: digit :: _ =>
      if digit.isDigit then exponentDigits true mantissa shift (rest.drop 1) else none
    | digit :: _ =>
      if digit.isDigit then exponentDigits false mantissa shift rest
      else finishNumber (.real (Scalar.ofDecimal mantissa shift)) text
    | [] => none
  match text with
  | 'e' :: rest => afterLetter rest
  | 'E' :: rest => afterLetter rest
  | _ => finishReal mantissa shift text

/-- A number after its point. -/
def fraction (whole : List Char) (text : List Char) : Option (Literal α × List Char) :=
  match text with
  | digit :: _ =>
    if digit.isDigit then do
      let (digits, rest) ← digitRun Char.isDigit text
      realTail (Text.ofDigits 10 (whole ++ digits)) (-(digits.length : Int)) rest
    else realTail (Text.ofDigits 10 whole) 0 text
  | [] => realTail (Text.ofDigits 10 whole) 0 text

/-- A decimal number. An integer other than zero does not begin with the digit zero. -/
def decimalNumber (text : List Char) : Option (Literal α × List Char) := do
  let (digits, rest) ← digitRun Char.isDigit text
  let mantissa := Text.ofDigits 10 digits
  match rest with
  | '.' :: after => fraction digits after
  | 'e' :: next :: _ =>
    if next.isDigit || next == '+' || next == '-' then realTail mantissa 0 rest
    else wholeNumber digits mantissa rest
  | 'E' :: _ => realTail mantissa 0 rest
  | 'j' :: _ => realTail mantissa 0 rest
  | 'J' :: _ => realTail mantissa 0 rest
  | _ => wholeNumber digits mantissa rest
where
  /-- An integer, if its digits may stand for one. -/
  wholeNumber (digits : List Char) (mantissa : Nat) (rest : List Char) :
      Option (Literal α × List Char) :=
    if digits.head? = some '0' ∧ mantissa ≠ 0 then none else finishNumber (.natural mantissa) rest

/-- The number that a text begins with. -/
def number (text : List Char) : Option (Literal α × List Char) :=
  match text with
  | '0' :: 'x' :: rest => basedNumber 16 rest
  | '0' :: 'X' :: rest => basedNumber 16 rest
  | '0' :: 'o' :: rest => basedNumber 8 rest
  | '0' :: 'O' :: rest => basedNumber 8 rest
  | '0' :: 'b' :: rest => basedNumber 2 rest
  | '0' :: 'B' :: rest => basedNumber 2 rest
  | '.' :: rest => fraction [] rest
  | _ => decimalNumber text

/-! ## Quoted text -/

/-- The character of a code point, unless it is none. -/
def codePoint? (code : Nat) : Option Char :=
  if code.isValidChar then some (Char.ofNat code) else none

/-- The character that the given number of hexadecimal digits stand for. -/
def hexEscape (count : Nat) (text : List Char) : Option (List Char × Nat) :=
  let digits := text.take count
  if digits.length = count ∧ digits.all (fun char => (Text.hexDigit? char).isSome) then
    (codePoint? (Text.ofDigits 16 digits)).map fun char => ([char], count + 1)
  else none

/-- What an escape stands for, and how many characters after the backslash it takes. An unknown
escape stands for itself, backslash included. -/
def escapeSequence : List Char → Option (List Char × Nat)
  | [] => none
  | '\n' :: _ => some ([], 1)
  | '\\' :: _ => some (['\\'], 1)
  | '\x27' :: _ => some (['\x27'], 1)
  | '\x22' :: _ => some (['\x22'], 1)
  | 'a' :: _ => some (['\x07'], 1)
  | 'b' :: _ => some (['\x08'], 1)
  | 'f' :: _ => some (['\x0c'], 1)
  | 'n' :: _ => some (['\n'], 1)
  | 'r' :: _ => some (['\r'], 1)
  | 't' :: _ => some (['\t'], 1)
  | 'v' :: _ => some (['\x0b'], 1)
  | 'x' :: rest => hexEscape 2 rest
  | 'u' :: rest => hexEscape 4 rest
  | 'U' :: rest => hexEscape 8 rest
  | 'N' :: _ => none
  | char :: rest =>
    let octal := ((char :: rest).take 3).takeWhile fun digit => (Text.digit? 8 digit).isSome
    if octal.isEmpty then some (['\\', char], 1)
    else some ([Char.ofNat (Text.ofDigits 8 octal)], octal.length)

/-- The text up to the closing quotes, and what follows them. Only text in triple quotes runs over
line breaks. -/
def quotedBody (quote : Char) (triple : Bool) : List Char → Option (List Char × List Char)
  | [] => none
  | char :: rest =>
    if char = '\\' then
      match escapeSequence rest with
      | none => none
      | some (meant, count) =>
        (quotedBody quote triple (rest.drop count)).map fun (body, after) => (meant ++ body, after)
    else if char = quote ∧ (!triple ∨ rest.take 2 = [quote, quote]) then
      some ([], if triple then rest.drop 2 else rest)
    else if char = '\n' ∧ !triple then none
    else (quotedBody quote triple rest).map fun (body, after) => (char :: body, after)
termination_by text => text.length
decreasing_by all_goals simp_wf; try omega

/-- The text in quotes after its first quote. -/
def quotedText (quote : Char) (text : List Char) : Option (Literal α × List Char) :=
  let triple := text.take 2 = [quote, quote]
  (quotedBody quote triple (if triple then text.drop 2 else text)).map fun (body, after) =>
    (.text (String.ofList body), after)

/-! ## Lines -/

/-- The longest mark that begins with a character, and how many following characters it takes. The
marks of assignments are none. -/
def mark? (first : Char) (text : List Char) : Option (Mark × Nat) :=
  match first, text with
  | '(', _ => some (.leftParen, 0)
  | ')', _ => some (.rightParen, 0)
  | '[', _ => some (.leftBracket, 0)
  | ']', _ => some (.rightBracket, 0)
  | '\x7b', _ => some (.leftBrace, 0)
  | '\x7d', _ => some (.rightBrace, 0)
  | ',', _ => some (.comma, 0)
  | ':', '=' :: _ => none
  | ':', _ => some (.colon, 0)
  | '.', '.' :: '.' :: _ => some (.ellipsis, 2)
  | '.', _ => some (.dot, 0)
  | '=', '=' :: _ => some (.equal, 1)
  | '=', _ => some (.assign, 0)
  | '!', '=' :: _ => some (.notEqual, 1)
  | '*', '*' :: '=' :: _ => none
  | '*', '*' :: _ => some (.doubleStar, 1)
  | '*', '=' :: _ => none
  | '*', _ => some (.star, 0)
  | '/', '/' :: '=' :: _ => none
  | '/', '/' :: _ => some (.doubleSlash, 1)
  | '/', '=' :: _ => none
  | '/', _ => some (.slash, 0)
  | '<', '<' :: '=' :: _ => none
  | '<', '<' :: _ => some (.shiftLeft, 1)
  | '<', '=' :: _ => some (.lessEqual, 1)
  | '<', '>' :: _ => none
  | '<', _ => some (.less, 0)
  | '>', '>' :: '=' :: _ => none
  | '>', '>' :: _ => some (.shiftRight, 1)
  | '>', '=' :: _ => some (.greaterEqual, 1)
  | '>', _ => some (.greater, 0)
  | '-', '>' :: _ => none
  | '~', _ => some (.tilde, 0)
  | '+', text => compoundFree .plus text
  | '-', text => compoundFree .minus text
  | '%', text => compoundFree .percent text
  | '@', text => compoundFree .at text
  | '&', text => compoundFree .ampersand text
  | '|', text => compoundFree .bar text
  | '^', text => compoundFree .caret text
  | _, _ => none
where
  /-- A mark of one character, unless it begins an assignment. -/
  compoundFree (mark : Mark) (text : List Char) : Option (Mark × Nat) :=
    if text.head? = some '=' then none else some (mark, 0)

/-- The token that begins with a character, and how many further characters belong to it. -/
def scan (first : Char) (text : List Char) : Option (Token α × Nat) :=
  let consumed (rest : List Char) : Nat := text.length - rest.length
  if first.isDigit || (first == '.' && text.head?.any Char.isDigit) then
    (number (first :: text)).map fun (value, rest) => (.literal value, consumed rest)
  else if first == '\x27' || first == '\x22' then
    (quotedText first text).map fun (value, rest) => (.literal value, consumed rest)
  else if isWordChar first then
    let following := text.takeWhile isWordChar
    (ofWord? (first :: following)).map fun token => (token, following.length)
  else (mark? first text).map fun (found, count) => (.mark found, count)

/-- How a token changes the number of open brackets. -/
def depthAfter (depth : Nat) : Token α → Nat
  | .mark .leftParen | .mark .leftBracket | .mark .leftBrace => depth + 1
  | .mark .rightParen | .mark .rightBracket | .mark .rightBrace => depth - 1
  | _ => depth

/-- Whether nothing but blank lines and comments follows. -/
def isTrailer : List Char → Bool
  | [] => true
  | '\\' :: '\n' :: rest => !rest.isEmpty && isTrailer rest
  | '#' :: rest => isTrailer (rest.dropWhile (· != '\n'))
  | char :: rest => (isInlineBlank char || char == '\n') && isTrailer rest
termination_by text => text.length
decreasing_by
  all_goals simp only [List.length_cons]
  all_goals first | omega | exact Nat.lt_succ_of_le (List.dropWhile_sublist _).length_le

/-- The tokens of a text within the given number of open brackets. -/
def ofLine (depth : Nat) : List Char → Option (List (Token α))
  | [] => some []
  | '#' :: rest => ofLine depth (rest.dropWhile (· != '\n'))
  | '\\' :: rest =>
    match rest with
    | '\n' :: next :: after => ofLine depth (next :: after)
    | _ => none
  | '\n' :: rest =>
    if depth = 0 then if isTrailer rest then some [] else none else ofLine depth rest
  | first :: rest =>
    if isInlineBlank first then ofLine depth rest
    else
      match scan first rest with
      | none => none
      | some (token, count) => (ofLine (depthAfter depth token) (rest.drop count)).map (token :: ·)
termination_by text => text.length
decreasing_by
  all_goals simp only [List.length_cons, List.length_drop]
  all_goals first | omega | exact Nat.lt_succ_of_le (List.dropWhile_sublist _).length_le

/-- The text from the first line that is not blank. It must begin in the first column: `column`
counts the blanks so far and `joined` is the column at which a backslash joined lines. -/
def firstLine (column joined : Nat) : List Char → Option (List Char)
  | [] => some []
  | ' ' :: rest => firstLine (column + 1) joined rest
  | '\t' :: rest => firstLine ((column / 8 + 1) * 8) joined rest
  | '\x0c' :: rest => firstLine 0 joined rest
  | '\\' :: rest =>
    match rest with
    | '\n' :: next :: after =>
      firstLine column (if joined = 0 then column else joined) (next :: after)
    | _ => none
  | '#' :: rest => firstLine column joined (rest.dropWhile (· != '\n'))
  | '\n' :: rest => firstLine 0 0 rest
  | text => if (if joined = 0 then column else joined) = 0 then some text else none
termination_by text => text.length
decreasing_by
  all_goals simp only [List.length_cons]
  all_goals first | omega | exact Nat.lt_succ_of_le (List.dropWhile_sublist _).length_le

/-- Write every line break as one line feed. -/
def unifyBreaks : List Char → List Char
  | [] => []
  | '\r' :: '\n' :: rest => '\n' :: unifyBreaks rest
  | '\r' :: rest => '\n' :: unifyBreaks rest
  | char :: rest => char :: unifyBreaks rest

/-- The tokens of a text. -/
def ofText (text : List Char) : Option (List (Token α)) :=
  (firstLine 0 0 (unifyBreaks text)).bind (ofLine 0)

end Token

end Intertemporal.Source
