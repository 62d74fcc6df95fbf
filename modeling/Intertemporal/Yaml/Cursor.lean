import Intertemporal.Text.Character

/-!
# Places in a document

A document is read character by character. A cursor holds what is still to be read together with the
line and the column it has reached, because the structure of a document is in its indentation. Line
breaks are line feeds and the three other characters that Unicode calls line breaks; the pairs of
carriage return and line feed have been replaced before.
-/

namespace Intertemporal.Yaml

/-- Why a text is no document, or a document has no meaning. -/
inductive Fault
  /-- A character that no document may contain. -/
  | character
  /-- Characters that form no token. -/
  | token
  /-- Tokens that form no node. -/
  | grammar
  /-- A name that is given to no node or to two, or a second document. -/
  | reference
  /-- A node whose tag or whose keys have no meaning. -/
  | meaning
  /-- A scalar that does not denote a value of its kind. -/
  | value
  /-- A word that is no truth value. -/
  | word
  /-- An empty scalar where a number is needed. -/
  | empty
  /-- A scalar without the form of a timestamp. -/
  | form
deriving DecidableEq, Repr

/-- Whether a character ends a line. -/
def isBreak (char : Char) : Bool :=
  char == '\n' || char == '\x85' || char == '\u2028' || char == '\u2029'

/-- The character that stands for the end of the text, where nothing is left to read. -/
def endMark : Char := '\x00'

/-- Whether a character ends a line or the text. -/
def isEnd (char : Char) : Bool := char == endMark || isBreak char

/-- Whether a character separates words: a blank, a tab or an end. -/
def isGap (char : Char) : Bool := char == ' ' || char == '\t' || isEnd char

/-- Whether a document may contain a character. -/
def isAllowed (char : Char) : Bool :=
  let code := char.toNat
  code == 9 || code == 10 || (32 ≤ code && code ≤ 126) || code == 0x85 ||
    (0xa0 ≤ code && code ≤ 0xfffd) || 0x10000 ≤ code

/-- What is left to read of a text, and how far it has been read. -/
structure Cursor where
  rest : List Char
  index : Nat := 0
  line : Nat := 0
  column : Nat := 0

namespace Cursor

/-- A character further on, `0` being the next one. -/
def peek (cursor : Cursor) (distance : Nat) : Char := (cursor.rest[distance]?).getD endMark

/-- The next character. -/
def next (cursor : Cursor) : Char := cursor.rest.headD endMark

/-- Read one character. -/
def advance (cursor : Cursor) : Cursor :=
  match cursor.rest with
  | [] => cursor
  | char :: rest =>
    if isBreak char then
      { rest, index := cursor.index + 1, line := cursor.line + 1, column := 0 }
    else
      { cursor with
        rest, index := cursor.index + 1
        column := if char == '\ufeff' then cursor.column else cursor.column + 1 }

/-- Read a number of characters. -/
def skip (cursor : Cursor) : Nat → Cursor
  | 0 => cursor
  | count + 1 => cursor.advance.skip count

/-- Read the characters of a class: what was read, and the cursor behind it. -/
def span (cursor : Cursor) (belongs : Char → Bool) : List Char × Cursor :=
  let taken := cursor.rest.takeWhile belongs
  (taken, cursor.skip taken.length)

/-- Skip the characters of a class. -/
def skipWhile (cursor : Cursor) (belongs : Char → Bool) : Cursor := (cursor.span belongs).2

/-- Read a line break. All breaks but the separators of lines and of paragraphs are written as line
feeds. -/
def takeBreak (cursor : Cursor) : Char × Cursor :=
  let char := cursor.next
  (if char == '\u2028' || char == '\u2029' then char else '\n', cursor.advance)

/-- Whether the next three characters are the given one, with a gap behind them. -/
def atMarker (cursor : Cursor) (char : Char) : Bool :=
  cursor.rest.take 3 == [char, char, char] && isGap (cursor.peek 3)

/-- Whether a marker between documents comes next. -/
def atAnyMarker (cursor : Cursor) : Bool := cursor.atMarker '-' || cursor.atMarker '.'

/-- A bound on the number of steps that read at least one character each. -/
def fuel (cursor : Cursor) : Nat := cursor.rest.length + 1

end Cursor

end Intertemporal.Yaml
