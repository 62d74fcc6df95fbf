import Intertemporal.Yaml.Scalar

/-!
# Tokens of a document

The structure of a document is written with marks, brackets and indentation. Tokens make it
explicit: where the lines of a collection begin and end, there is a token for it.

Whether a scalar is a key is only seen at the colon behind it. Every place where a key could begin
is therefore remembered as a candidate until a colon or the end of the line settles it; the colon
puts the token for the key in front of the tokens that have been read since. A fault of the text is
a token as well, and the last one: what comes before it may be read in spite of it.
-/

namespace Intertemporal.Yaml

/-- What a line at the top of a document says about the document. -/
inductive Directive
  | version (major : Nat)
  /-- The name that tags with a given handle begin with. -/
  | tagHandle (handle stem : String)
  | other
deriving DecidableEq, Repr

/-- A tag as it is written: a handle, unless the name is complete, and the rest of the name. -/
structure WrittenTag where
  handle : Option String
  ending : String
deriving DecidableEq, Repr

/-- A token of a document. -/
inductive Token
  | directive (directive : Directive)
  | documentStart
  | documentEnd
  | blockSequenceStart
  | blockMappingStart
  /-- The end of a sequence or of a mapping that is written in lines. -/
  | blockEnd
  | flowSequenceStart
  | flowSequenceEnd
  | flowMappingStart
  | flowMappingEnd
  | blockEntry
  | flowEntry
  | key
  | value
  | reference (name : String)
  | anchor (name : String)
  | tag (tag : WrittenTag)
  | scalar (text : String) (plain : Bool)
  /-- What follows cannot be read. -/
  | fault (reason : Fault)
deriving DecidableEq, Repr

/-! ## Names and tags -/

/-- Characters of names. -/
def isNameChar (char : Char) : Bool := char.isAlphanum || char == '-' || char == '_'

/-- Characters of the names of tags. -/
def isTagChar (char : Char) : Bool := char.isAlphanum || "-;/?:@&=+$,_.!~*'()[]%".contains char

/-- The bytes of the name of a tag, in which a percent sign and two digits stand for a byte. -/
def tagBytes? : List Char → Option (List UInt8)
  | [] => some []
  | '%' :: high :: low :: rest => do
    let upper ← Text.hexDigit? high
    let lower ← Text.hexDigit? low
    (tagBytes? rest).map ((16 * upper + lower).toUInt8 :: ·)
  | char :: rest => if char == '%' then none else (tagBytes? rest).map (char.toUInt8 :: ·)

/-- The name of a tag, or a part of it. -/
def tagName (cursor : Cursor) : Except Fault (String × Cursor) :=
  let (taken, cursor) := cursor.span isTagChar
  match taken, (tagBytes? taken).bind fun bytes => String.fromUTF8? ⟨bytes.toArray⟩ with
  | _ :: _, some name => .ok (name, cursor)
  | _, _ => .error .token

/-- The handle of a tag: a name between exclamation marks, or one of them alone. -/
def tagHandle (cursor : Cursor) : Except Fault (String × Cursor) :=
  let name := cursor.advance.rest.takeWhile isNameChar
  if cursor.next != '!' then .error .token
  else if cursor.peek 1 == ' ' then .ok ("!", cursor.advance)
  else if cursor.peek (name.length + 1) == '!' then
    .ok ("!" ++ String.ofList name ++ "!", cursor.skip (name.length + 2))
  else .error .token

/-- Whether a blank or an end comes next. -/
def atBlankOrEnd (cursor : Cursor) : Bool := cursor.next == ' ' || isEnd cursor.next

/-- A tag behind which there is a blank. -/
def writtenTag (cursor : Cursor) : Except Fault (WrittenTag × Cursor) := do
  let (tag, cursor) ←
    if cursor.peek 1 == '<' then do
      let (ending, cursor) ← tagName (cursor.skip 2)
      if cursor.next != '>' then throw .token
      pure (WrittenTag.mk none ending, cursor.advance)
    else if isGap (cursor.peek 1) then pure (⟨none, "!"⟩, cursor.advance)
    else do
      let word := cursor.advance.rest.takeWhile fun char => !(char == ' ' || isEnd char)
      let (handle, cursor) ←
        if word.contains '!' then tagHandle cursor else pure ("!", cursor.advance)
      let (ending, cursor) ← tagName cursor
      pure (⟨some handle, ending⟩, cursor)
  if !atBlankOrEnd cursor then throw .token
  pure (tag, cursor)

/-! ## Directives -/

/-- Skip blanks. -/
def skipBlanks (cursor : Cursor) : Cursor := cursor.skipWhile (· == ' ')

/-- Skip a comment, if there is one. -/
def skipComment (cursor : Cursor) : Cursor :=
  if cursor.next == '#' then cursor.skipWhile fun char => !isEnd char else cursor

/-- The version that a directive names. -/
def versionDirective (cursor : Cursor) : Except Fault (Directive × Cursor) := do
  let (major, cursor) := (skipBlanks cursor).span Char.isDigit
  if major.isEmpty || cursor.next != '.' then throw .token
  let (minor, cursor) := cursor.advance.span Char.isDigit
  if minor.isEmpty || !atBlankOrEnd cursor then throw .token
  pure (.version (Text.ofDigits 10 major), cursor)

/-- The handle that a directive declares. -/
def handleDirective (cursor : Cursor) : Except Fault (Directive × Cursor) := do
  let (handle, cursor) ← tagHandle (skipBlanks cursor)
  if cursor.next != ' ' then throw .token
  let (stem, cursor) ← tagName (skipBlanks cursor)
  if !atBlankOrEnd cursor then throw .token
  pure (.tagHandle handle stem, cursor)

/-- A directive behind its percent sign, with the rest of its line. -/
def directive (cursor : Cursor) : Except Fault (Directive × Cursor) := do
  let (name, cursor) := cursor.span isNameChar
  if name.isEmpty || !atBlankOrEnd cursor then throw .token
  let (directive, cursor) ← match String.ofList name with
    | "YAML" => versionDirective cursor
    | "TAG" => handleDirective cursor
    | _ => pure (.other, cursor.skipWhile fun char => !isEnd char)
  let cursor := skipComment (skipBlanks cursor)
  if !isEnd cursor.next then throw .token
  pure (directive, cursor.advance)

/-! ## Drafts -/

/-- A place where a key may begin. -/
structure Candidate where
  /-- The number of brackets around it. -/
  depth : Nat
  /-- The number of tokens in front of it. -/
  place : Nat
  /-- Whether nothing but a key may begin there. -/
  required : Bool
  start : Cursor

/-- The tokens that have been read so far, and what is needed to go on. -/
structure Draft where
  cursor : Cursor
  /-- The number of open brackets. -/
  depth : Nat := 0
  /-- The column of the innermost collection that is written in lines. -/
  indent : Int := -1
  /-- The columns of the collections around it. -/
  outer : List Int := []
  tokens : Array Token := #[]
  /-- Whether a key may begin here. -/
  keyAllowed : Bool := true
  candidates : List Candidate := []

namespace Draft

/-- Whether the cursor is between brackets. -/
def inBrackets (draft : Draft) : Bool := draft.depth != 0

/-- Append a token. -/
def push (draft : Draft) (token : Token) : Draft :=
  { draft with tokens := draft.tokens.push token }

/-- Put a token in front of others. -/
def insertAt (draft : Draft) (place : Nat) (token : Token) : Draft :=
  { draft with tokens := (draft.tokens.take place).push token ++ draft.tokens.drop place }

/-- Whether it is too late for the colon behind a key: it has to be on the same line. -/
def isStale (draft : Draft) (candidate : Candidate) : Bool :=
  candidate.start.line != draft.cursor.line ||
    candidate.start.index + 1024 < draft.cursor.index

/-- Whether it is too late for a key that is required. -/
def isLost (draft : Draft) : Bool :=
  draft.candidates.any fun candidate => candidate.required && draft.isStale candidate

/-- Forget the candidates for which it is too late. -/
def dropStale (draft : Draft) : Except Fault Draft :=
  if draft.isLost then .error .token
  else
    .ok { draft with
      candidates := draft.candidates.filter fun candidate => !draft.isStale candidate }

/-- Forget the candidate between the innermost brackets. -/
def dropCandidate (draft : Draft) : Except Fault Draft :=
  if draft.candidates.any fun candidate =>
      candidate.depth == draft.depth && candidate.required then .error .token
  else
    .ok { draft with candidates := draft.candidates.filter (·.depth != draft.depth) }

/-- Remember the cursor as a place where a key may begin, if one may. -/
def addCandidate (draft : Draft) : Except Fault Draft :=
  if draft.keyAllowed then do
    let draft ← draft.dropCandidate
    let required := !draft.inBrackets && draft.indent == draft.cursor.column
    .ok { draft with
      candidates :=
        ⟨draft.depth, draft.tokens.size, required, draft.cursor⟩ :: draft.candidates }
  else .ok draft

/-- Begin a collection in the given column, unless one has begun there; the token for it is put in
front of others. -/
def openBlock (draft : Draft) (column : Nat) (place : Nat) (token : Token) : Draft :=
  if draft.indent < column then
    { draft with indent := column, outer := draft.indent :: draft.outer }.insertAt place token
  else draft

/-- The collections that end before a column: their number, and the columns of the other ones. -/
def closedBlocks (column : Int) : Int → List Int → Nat × Int × List Int
  | indent, [] => (0, indent, [])
  | indent, next :: outer =>
    if column < indent then
      let (count, others) := closedBlocks column next outer
      (count + 1, others)
    else (0, indent, next :: outer)

/-- End the collections that are written in lines to the right of a column. -/
def unwind (draft : Draft) (column : Int) : Draft :=
  if draft.inBrackets then draft
  else
    let (count, indent, outer) := closedBlocks column draft.indent draft.outer
    { draft with indent, outer, tokens := draft.tokens ++ Array.replicate count Token.blockEnd }

/-- Skip blanks, comments and line breaks. A key may begin on a new line. -/
def skipGaps : Nat → Draft → Draft
  | 0, draft => draft
  | fuel + 1, draft =>
    let cursor := skipComment (skipBlanks draft.cursor)
    if isBreak cursor.next then
      skipGaps fuel
        { draft with
          cursor := cursor.advance, keyAllowed := draft.keyAllowed || !draft.inBrackets }
    else { draft with cursor }

/-! ## Single tokens -/

/-- Read a number of characters as a token that no key begins with. -/
def takeMark (draft : Draft) (length : Nat) (keyAllowed : Bool) (token : Token) :
    Except Fault Draft := do
  let draft ← draft.dropCandidate
  .ok ({ draft with keyAllowed, cursor := draft.cursor.skip length }.push token)

/-- Read a directive. -/
def takeDirective (draft : Draft) : Except Fault Draft := do
  let draft ← (draft.unwind (-1)).dropCandidate
  let (directive, cursor) ← directive draft.cursor.advance
  .ok ({ draft with keyAllowed := false, cursor }.push (.directive directive))

/-- Read an opening bracket. -/
def openBracket (draft : Draft) (token : Token) : Except Fault Draft := do
  let draft ← draft.addCandidate
  .ok ({ draft with
    depth := draft.depth + 1, keyAllowed := true, cursor := draft.cursor.advance }.push token)

/-- Read a closing bracket. -/
def closeBracket (draft : Draft) (token : Token) : Except Fault Draft := do
  let draft ← draft.takeMark 1 false token
  .ok { draft with depth := draft.depth - 1 }

/-- Read the mark of an item or of a key, where `start` begins the collection. -/
def takeEntry (draft : Draft) (start token : Token) (keyAllowed : Bool) : Except Fault Draft :=
  if draft.inBrackets then draft.takeMark 1 keyAllowed token
  else if draft.keyAllowed then
    (draft.openBlock draft.cursor.column draft.tokens.size start).takeMark 1 keyAllowed token
  else .error .token

/-- Read the colon in front of a value. It makes a key of the candidate between the innermost
brackets. -/
def takeValue (draft : Draft) : Except Fault Draft :=
  match draft.candidates.find? (·.depth == draft.depth) with
  | some candidate =>
    let draft := { draft with candidates := draft.candidates.filter (·.depth != draft.depth) }
    let draft := draft.insertAt candidate.place .key
    let draft :=
      if draft.inBrackets then draft
      else draft.openBlock candidate.start.column candidate.place .blockMappingStart
    draft.takeMark 1 false .value
  | none => draft.takeEntry .blockMappingStart .value !draft.inBrackets

/-- Read a name behind its mark. -/
def takeName (draft : Draft) (token : String → Token) : Except Fault Draft := do
  let draft ← draft.addCandidate
  let (name, cursor) := draft.cursor.advance.span isNameChar
  if name.isEmpty || !(isGap cursor.next || "?:,]\x7d%@`".contains cursor.next) then throw .token
  .ok ({ draft with keyAllowed := false, cursor }.push (token (String.ofList name)))

/-- Read a tag. -/
def takeTag (draft : Draft) : Except Fault Draft := do
  let draft ← draft.addCandidate
  let (tag, cursor) ← writtenTag draft.cursor
  .ok ({ draft with keyAllowed := false, cursor }.push (.tag tag))

/-- Read a scalar in quotes. -/
def takeQuoted (draft : Draft) (double : Bool) : Except Fault Draft := do
  let draft ← draft.addCandidate
  let read := if double then doubleQuoted else singleQuoted
  let (text, cursor) ← read draft.cursor.fuel draft.cursor.advance
  .ok ({ draft with keyAllowed := false, cursor }.push (.scalar (String.ofList text) false))

/-- Read a scalar that is written as a block of lines. -/
def takeBlock (draft : Draft) (folded : Bool) : Except Fault Draft := do
  let draft ← draft.dropCandidate
  let least := max 1 (draft.indent + 1).toNat
  let (text, cursor) ← block folded least draft.cursor.advance
  .ok ({ draft with keyAllowed := true, cursor }.push (.scalar (String.ofList text) false))

/-- Read a plain scalar. -/
def takePlain (draft : Draft) : Except Fault Draft := do
  let draft ← draft.addCandidate
  let found := plainFrom draft.inBrackets (draft.indent + 1).toNat [] false draft.cursor.fuel
    draft.cursor
  .ok ({ draft with keyAllowed := found.endsLine, cursor := found.cursor }.push
    (.scalar (String.ofList found.text) true))

/-- Read the token that begins with a character. -/
def takeToken (draft : Draft) : Except Fault Draft :=
  let cursor := draft.cursor
  let marks := draft.inBrackets || isGap (cursor.peek 1)
  let atMarker (char : Char) : Bool := cursor.column == 0 && cursor.atMarker char
  match cursor.next with
  | '%' => if cursor.column == 0 then draft.takeDirective else .error .token
  | '-' =>
    if atMarker '-' then (draft.unwind (-1)).takeMark 3 false .documentStart
    else if isGap (cursor.peek 1) then draft.takeEntry .blockSequenceStart .blockEntry true
    else draft.takePlain
  | '.' =>
    if atMarker '.' then (draft.unwind (-1)).takeMark 3 false .documentEnd
    else draft.takePlain
  | '[' => draft.openBracket .flowSequenceStart
  | '\x7b' => draft.openBracket .flowMappingStart
  | ']' => draft.closeBracket .flowSequenceEnd
  | '\x7d' => draft.closeBracket .flowMappingEnd
  | ',' => draft.takeMark 1 true .flowEntry
  | '?' =>
    if marks then draft.takeEntry .blockMappingStart .key !draft.inBrackets else draft.takePlain
  | ':' => if marks then draft.takeValue else draft.takePlain
  | '*' => draft.takeName .reference
  | '&' => draft.takeName .anchor
  | '!' => draft.takeTag
  | '|' => if draft.inBrackets then .error .token else draft.takeBlock false
  | '>' => if draft.inBrackets then .error .token else draft.takeBlock true
  | '\x27' => draft.takeQuoted false
  | '\x22' => draft.takeQuoted true
  | char => if isGap char || "#@`".contains char then .error .token else draft.takePlain

/-- Read the next token, or whatever tokens the end of the text brings. -/
def step (draft : Draft) : Except Fault Draft := do
  let draft := draft.skipGaps draft.cursor.fuel
  let draft ← draft.dropStale
  let draft := draft.unwind draft.cursor.column
  if draft.cursor.rest.isEmpty then
    let ended ← (draft.unwind (-1)).dropCandidate
    .ok { ended with candidates := [] }
  else draft.takeToken

/-- The number of tokens in front of the first place that may still become a key. -/
def settled (draft : Draft) : Nat :=
  let open_ := draft.candidates.filter fun candidate => !draft.isStale candidate
  open_.foldl (fun least candidate => min least candidate.place) draft.tokens.size

/-- The tokens up to the end of the text. A fault comes in place of what is not settled. -/
def finish : Nat → Draft → List Token
  | 0, draft => draft.tokens.toList
  | fuel + 1, draft =>
    let stopped (reason : Fault) : List Token :=
      draft.tokens.toList.take draft.settled ++ [.fault reason]
    match draft.step with
    | .error reason => stopped reason
    | .ok next =>
      if next.isLost then stopped .token
      else if next.cursor.rest.isEmpty && draft.cursor.rest.isEmpty then next.tokens.toList
      else finish fuel next

end Draft

/-- Write all line breaks as line feeds. -/
def lineFeeds : List Char → List Char
  | '\x0d' :: '\n' :: rest => '\n' :: lineFeeds rest
  | char :: rest => (if char == '\x0d' then '\n' else char) :: lineFeeds rest
  | [] => []

/-- The tokens of a text. A mark of the byte order may stand in front of it. -/
def Token.ofText (text : String) : List Token :=
  let chars := lineFeeds text.toList
  if chars.all isAllowed then
    let cursor : Cursor := { rest := chars }
    let cursor := if cursor.next == '\ufeff' then cursor.advance else cursor
    Draft.finish (chars.length + 2) { cursor }
  else [.fault .character]

end Intertemporal.Yaml
