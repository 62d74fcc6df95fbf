import Intertemporal.Yaml.Cursor

/-!
# Scalars as they are written

A scalar is written plain, in single or double quotes, or as a block of lines. Line breaks inside a
plain or quoted scalar are folded: a single one becomes a blank, and of several the first is
dropped. Every function here begins behind the mark that opens the scalar and returns the text
together with the cursor behind the scalar.
-/

namespace Intertemporal.Yaml

/-! ## Quoted scalars -/

/-- The line breaks and blanks between two lines of a quoted scalar; only the breaks are kept. No
marker between documents may stand there. -/
def quotedBreaks : Nat → Cursor → Except Fault (List Char × Cursor)
  | 0, cursor => .ok ([], cursor)
  | fuel + 1, cursor => do
    if cursor.atAnyMarker then throw .token
    let cursor := cursor.skipWhile fun char => char == ' ' || char == '\t'
    if isBreak cursor.next then
      let (first, cursor) := cursor.takeBreak
      let (others, cursor) ← quotedBreaks fuel cursor
      .ok (first :: others, cursor)
    else .ok ([], cursor)

/-- A line break with the ones after it, folded. -/
def foldBreaks (first : Char) (others : List Char) : List Char :=
  if first != '\n' then first :: others
  else if others.isEmpty then [' '] else others

/-- Blanks in a quoted scalar, or a folded line break. -/
def quotedGap (cursor : Cursor) : Except Fault (List Char × Cursor) := do
  let (blanks, cursor) := cursor.span fun char => char == ' ' || char == '\t'
  if cursor.rest.isEmpty then throw .token
  if isBreak cursor.next then
    let (first, cursor) := cursor.takeBreak
    let (others, cursor) ← quotedBreaks cursor.fuel cursor
    .ok (foldBreaks first others, cursor)
  else .ok (blanks, cursor)

/-- The character that an escape of one letter stands for. -/
def escaped? : Char → Option Char
  | '0' => some '\x00'
  | 'a' => some '\x07'
  | 'b' => some '\x08'
  | 't' => some '\t'
  | '\t' => some '\t'
  | 'n' => some '\n'
  | 'v' => some '\x0b'
  | 'f' => some '\x0c'
  | 'r' => some '\x0d'
  | 'e' => some '\x1b'
  | ' ' => some ' '
  | '\x22' => some '\x22'
  | '\\' => some '\\'
  | '/' => some '/'
  | 'N' => some '\x85'
  | '_' => some '\xa0'
  | 'L' => some '\u2028'
  | 'P' => some '\u2029'
  | _ => none

/-- How many hexadecimal digits follow the letter of an escape. -/
def escapeWidth? : Char → Option Nat
  | 'x' => some 2
  | 'u' => some 4
  | 'U' => some 8
  | _ => none

/-- An escape behind its backslash. -/
def escape (cursor : Cursor) : Except Fault (List Char × Cursor) :=
  match escaped? cursor.next, escapeWidth? cursor.next with
  | some char, _ => .ok ([char], cursor.advance)
  | none, some width =>
    let digits := cursor.advance.rest.take width
    if digits.length = width ∧ digits.all fun digit => (Text.hexDigit? digit).isSome then
      let code := Text.ofDigits 16 digits
      if code < 0x110000 then .ok ([Char.ofNat code], cursor.skip (width + 1)) else .error .value
    else .error .token
  | none, none =>
    if isBreak cursor.next then quotedBreaks cursor.fuel cursor.takeBreak.2 else .error .token

/-- The text of a scalar in double quotes. -/
def doubleQuoted : Nat → Cursor → Except Fault (List Char × Cursor)
  | 0, _ => .error .token
  | fuel + 1, cursor => do
    if cursor.next == '\x22' then return ([], cursor.advance)
    let (read, cursor) ←
      if cursor.next == '\\' then escape cursor.advance
      else if isGap cursor.next then quotedGap cursor
      else .ok ([cursor.next], cursor.advance)
    let (others, cursor) ← doubleQuoted fuel cursor
    return (read ++ others, cursor)

/-- The text of a scalar in single quotes, in which a quote is written twice. -/
def singleQuoted : Nat → Cursor → Except Fault (List Char × Cursor)
  | 0, _ => .error .token
  | fuel + 1, cursor => do
    let quote := cursor.next == '\x27'
    if quote && cursor.peek 1 != '\x27' then return ([], cursor.advance)
    let (read, cursor) ←
      if quote then .ok (['\x27'], cursor.skip 2)
      else if isGap cursor.next then quotedGap cursor
      else .ok ([cursor.next], cursor.advance)
    let (others, cursor) ← singleQuoted fuel cursor
    return (read ++ others, cursor)

/-! ## Plain scalars -/

/-- The word that a plain scalar goes on with. A colon ends it before a gap; in brackets, commas,
brackets and question marks end it too. -/
def plainWord (inBrackets : Bool) : List Char → List Char
  | [] => []
  | char :: rest =>
    let next := rest.headD endMark
    if isGap char then []
    else if char == ':' && (isGap next || (inBrackets && ",[]\x7b\x7d".contains next)) then []
    else if inBrackets && ",?[]\x7b\x7d".contains char then []
    else char :: plainWord inBrackets rest

/-- The line breaks and blanks between two lines of a plain scalar; only the breaks are kept. There
are none before a marker between documents. -/
def plainBreaks : Nat → Cursor → Option (List Char) × Cursor
  | 0, cursor => (some [], cursor)
  | fuel + 1, cursor =>
    if cursor.next == ' ' then plainBreaks fuel cursor.advance
    else if isBreak cursor.next then
      let (first, cursor) := cursor.takeBreak
      if cursor.atAnyMarker then (none, cursor)
      else
        let (others, cursor) := plainBreaks fuel cursor
        (others.map (first :: ·), cursor)
    else (some [], cursor)

/-- The blanks between two words of a plain scalar, or a folded line break. Nothing joins the words
if a marker between documents comes first. -/
def plainGap (cursor : Cursor) : List Char × Cursor :=
  let (blanks, cursor) := cursor.span (· == ' ')
  if isBreak cursor.next then
    let (first, cursor) := cursor.takeBreak
    if cursor.atAnyMarker then ([], cursor)
    else
      let (others, cursor) := plainBreaks cursor.fuel cursor
      ((others.map (foldBreaks first)).getD [], cursor)
  else (blanks, cursor)

/-- A plain scalar that has been read. -/
structure PlainText where
  text : List Char
  /-- Whether there is a line break in the gap behind it. -/
  endsLine : Bool
  /-- The place behind that gap. -/
  cursor : Cursor

/-- A plain scalar from a word of it on, with the given gap in front. `endsLine` says whether a line
break has just been read. The lines of a scalar outside of brackets are indented by `indent`. -/
def plainFrom (inBrackets : Bool) (indent : Nat) (gap : List Char) (endsLine : Bool) :
    Nat → Cursor → PlainText
  | 0, cursor => ⟨[], endsLine, cursor⟩
  | fuel + 1, cursor =>
    let word := if cursor.next == '#' then [] else plainWord inBrackets cursor.rest
    if word.isEmpty then ⟨[], endsLine, cursor⟩
    else
      let wordEnd := cursor.skip word.length
      let (nextGap, cursor) := plainGap wordEnd
      let endsLine := wordEnd.line != cursor.line
      if nextGap.isEmpty || (!inBrackets && cursor.column < indent) then
        ⟨gap ++ word, endsLine, cursor⟩
      else
        let others := plainFrom inBrackets indent nextGap endsLine fuel cursor
        { others with text := gap ++ word ++ others.text }

/-! ## Blocks of lines -/

/-- How the line breaks at the end of a block are treated. -/
inductive Chomping
  /-- One of them is kept. -/
  | clip
  /-- All of them are dropped. -/
  | strip
  /-- All of them are kept. -/
  | keep
deriving DecidableEq, Repr

/-- The treatment of line breaks that a sign asks for. -/
def Chomping.ofSign? : Char → Option Chomping
  | '+' => some .keep
  | '-' => some .strip
  | _ => none

/-- The digit for the indentation of a block. -/
def indentDigit (cursor : Cursor) : Except Fault (Option Nat × Cursor) :=
  if cursor.next == '0' then .error .token
  else if cursor.next.isDigit then .ok (some (cursor.next.toNat - 48), cursor.advance)
  else .ok (none, cursor)

/-- The header of a block: signs, a comment and the end of the line. -/
def blockHeader (cursor : Cursor) : Except Fault (Chomping × Option Nat × Cursor) := do
  let (chomping, indent, cursor) ← match Chomping.ofSign? cursor.next with
    | some chomping => do
      let (indent, cursor) ← indentDigit cursor.advance
      .ok (chomping, indent, cursor)
    | none => do
      let (indent, cursor) ← indentDigit cursor
      match indent, Chomping.ofSign? cursor.next with
      | some _, some chomping => .ok (chomping, indent, cursor.advance)
      | _, _ => .ok (.clip, indent, cursor)
  if !(cursor.next == ' ' || isEnd cursor.next) then throw .token
  let cursor := cursor.skipWhile (· == ' ')
  let cursor := if cursor.next == '#' then cursor.skipWhile fun char => !isEnd char else cursor
  if !isEnd cursor.next then throw .token
  .ok (chomping, indent, cursor.takeBreak.2)

/-- The empty lines in front of a block, and the largest indentation seen there. -/
def leadingLines (deepest : Nat) : Nat → Cursor → List Char × Nat × Cursor
  | 0, cursor => ([], deepest, cursor)
  | fuel + 1, cursor =>
    if cursor.next == ' ' then
      leadingLines (max deepest cursor.advance.column) fuel cursor.advance
    else if isBreak cursor.next then
      let (first, cursor) := cursor.takeBreak
      let (others, deepest, cursor) := leadingLines deepest fuel cursor
      (first :: others, deepest, cursor)
    else ([], deepest, cursor)

/-- Skip blanks up to a column. -/
def indentTo (column : Nat) : Nat → Cursor → Cursor
  | 0, cursor => cursor
  | fuel + 1, cursor =>
    if cursor.column < column && cursor.next == ' ' then indentTo column fuel cursor.advance
    else cursor

/-- The empty lines between two lines of a block, and the indentation of the second. -/
def emptyLines (indent : Nat) : Nat → Cursor → List Char × Cursor
  | 0, cursor => ([], cursor)
  | fuel + 1, cursor =>
    let cursor := indentTo indent indent cursor
    if isBreak cursor.next then
      let (first, cursor) := cursor.takeBreak
      let (others, cursor) := emptyLines indent fuel cursor
      (first :: others, cursor)
    else ([], cursor)

/-- The lines of a block, with the given empty lines in front. -/
def blockLines (folded : Bool) (chomping : Chomping) (indent : Nat) (empty : List Char)
    (ending : List Char) : Nat → Cursor → List Char × Cursor
  | 0, cursor => ([], cursor)
  | fuel + 1, cursor =>
    if cursor.column = indent ∧ !cursor.rest.isEmpty then
      let isBlank (char : Char) : Bool := char == ' ' || char == '\t'
      let flush := !isBlank cursor.next
      let (line, cursor) := cursor.span fun char => !isEnd char
      let (ending, cursor) :=
        if isBreak cursor.next then
          let (char, cursor) := cursor.takeBreak
          ([char], cursor)
        else ([], cursor)
      let (nextEmpty, cursor) := emptyLines indent cursor.fuel cursor
      let continues := cursor.column = indent ∧ !cursor.rest.isEmpty
      let joint :=
        if !continues then []
        else if folded && ending == ['\n'] && flush && !isBlank cursor.next then
          if nextEmpty.isEmpty then [' '] else []
        else ending
      let (others, cursor) := blockLines folded chomping indent nextEmpty ending fuel cursor
      (empty ++ line ++ joint ++ others, cursor)
    else
      ((if chomping = .strip then [] else ending) ++ (if chomping = .keep then empty else []),
        cursor)

/-- The text of a block behind its mark. Its lines are indented by `least` at least. -/
def block (folded : Bool) (least : Nat) (cursor : Cursor) : Except Fault (List Char × Cursor) := do
  let (chomping, increment, cursor) ← blockHeader cursor
  let (empty, indent, cursor) := match increment with
    | some increment =>
      let indent := least + increment - 1
      let (empty, cursor) := emptyLines indent cursor.fuel cursor
      (empty, indent, cursor)
    | none =>
      let (empty, deepest, cursor) := leadingLines 0 cursor.fuel cursor
      (empty, max least deepest, cursor)
  .ok (blockLines folded chomping indent empty [] cursor.fuel cursor)

end Intertemporal.Yaml
