import Intertemporal.Yaml.Tag
import Intertemporal.Yaml.Token

/-!
# Nodes

A document is a tree of nodes: scalars, sequences and mappings, each with its tag. A node may be
given a name by an anchor, and a reference to the name stands for the node. A text holds one
document at most.

Reading never fails with an answer: the fault that is met first is the one that is reported. In a
collection that contains a reference to itself, the reference stands for an empty collection.
-/

namespace Intertemporal.Yaml

/-- A node of a document. -/
inductive Node
  | scalar (tag : Tag) (text : String)
  | sequence (tag : Tag) (items : List Node)
  | mapping (tag : Tag) (entries : List (Node × Node))

namespace Node

/-- The tag of a node. -/
def tag : Node → Tag
  | .scalar tag _ => tag
  | .sequence tag _ => tag
  | .mapping tag _ => tag

/-- The node where nothing is written. -/
def empty : Node := .scalar .missing ""

/-! ## Reading -/

/-- What is left of the tokens of a text, and the names that have been given so far. -/
structure Reading where
  tokens : List Token
  anchors : List (String × Node) := []
  /-- What the handles of tags stand for. -/
  handles : List (String × String) := []

/-- Reading tokens. -/
abbrev Reader := StateT Reading (Except Fault)

/-- The next token, if there is one. -/
def peek : Reader (Option Token) := do
  match (← get).tokens with
  | .fault reason :: _ => throw reason
  | token :: _ => return some token
  | [] => return none

/-- Skip the next token. -/
def skip : Reader Unit :=
  modify fun reading => { reading with tokens := reading.tokens.drop 1 }

/-- Whether the next token is one of the given ones. -/
def isNext (tokens : List Token) : Reader Bool := return (← peek).any tokens.contains

/-- Skip the next token if it is the given one, and tell whether it was. -/
def takes (token : Token) : Reader Bool := do
  let found := (← peek) == some token
  if found then skip
  return found

/-- Skip the next token, which has to be the given one. -/
def require (token : Token) : Reader Unit := do
  if !(← takes token) then throw .grammar

/-! ## Names and tags of nodes -/

/-- The name that an anchor gives, if one comes next. -/
def anchor? : Reader (Option String) := do
  match ← peek with
  | some (.anchor name) =>
    skip
    return some name
  | _ => return none

/-- The tag that comes next, if one does. -/
def writtenTag? : Reader (Option WrittenTag) := do
  match ← peek with
  | some (.tag tag) =>
    skip
    return some tag
  | _ => return none

/-- An anchor and a tag, in any order. -/
def properties : Reader (Option String × Option WrittenTag) := do
  match ← anchor? with
  | some name => return (some name, ← writtenTag?)
  | none =>
    match ← writtenTag? with
    | some tag => return (← anchor?, some tag)
    | none => return (none, none)

/-- The full name of a tag. -/
def fullName (tag : WrittenTag) : Reader String := do
  match tag.handle with
  | none => return tag.ending
  | some handle =>
    match (← get).handles.lookup handle with
    | some stem => return stem ++ tag.ending
    | none => throw .grammar

/-- The tag of a node: the one that is written, or else the given one. The tag `!` leaves the choice
open as well. -/
def tagOr (written : Option String) (fallback : Tag) : Tag :=
  match written with
  | none | some "!" => fallback
  | some name => .ofName name

/-- Refuse a name that has been given already. -/
def checkNew (anchor : Option String) : Reader Unit := do
  let anchors := (← get).anchors
  if anchor.any fun name => (anchors.lookup name).isSome then throw .reference

/-- Give a name to a node, if there is one to give. -/
def give (anchor : Option String) (node : Node) : Reader Unit :=
  modify fun reading =>
    { reading with anchors := (anchor.map fun name => (name, node)).toList ++ reading.anchors }

/-- Read the inside of a collection whose name is known from its beginning on. -/
def enclose {β : Type} (anchor : Option String) (build : List β → Node)
    (inside : Reader (List β)) : Reader Node := do
  checkNew anchor
  give anchor (build [])
  let node := build (← inside)
  give anchor node
  return node

/-! ## Collections -/

mutual

/-- A node. The steps that are left bound how deep nodes may be nested. -/
def node (inLines canHaveItems : Bool) : Nat → Reader Node
  | 0 => throw .grammar
  | steps + 1 => do
    match ← peek with
    | some (.reference name) =>
      skip
      match (← get).anchors.lookup name with
      | some node => return node
      | none => throw .reference
    | _ =>
      let (anchor, written) ← properties
      let name ← written.mapM fullName
      let sequence := Node.sequence (tagOr name .sequence)
      let mapping := Node.mapping (tagOr name .mapping)
      match ← peek, inLines, canHaveItems with
      | some .blockEntry, _, true => enclose anchor sequence (looseItems steps)
      | some (.scalar text plain), _, _ =>
        skip
        let plain := plain && name.isNone || name == some "!"
        checkNew anchor
        let node := .scalar (tagOr name (if plain then .ofPlain text else .text)) text
        give anchor node
        return node
      | some .flowSequenceStart, _, _ =>
        enclose anchor sequence (do skip; flowItems true steps)
      | some .flowMappingStart, _, _ =>
        enclose anchor mapping (do skip; flowEntries true steps)
      | some .blockSequenceStart, true, _ =>
        enclose anchor sequence (do skip; blockItems steps)
      | some .blockMappingStart, true, _ =>
        enclose anchor mapping (do skip; blockEntries steps)
      | _, _, _ =>
        if anchor.isNone && name.isNone then throw .grammar
        checkNew anchor
        let node := .scalar (tagOr name .missing) ""
        give anchor node
        return node

/-- A node, or an empty one if one of the given tokens comes next. -/
def nodeUnless (ends : List Token) (inLines canHaveItems : Bool) : Nat → Reader Node
  | 0 => throw .grammar
  | steps + 1 => do
    if ← isNext ends then return empty else node inLines canHaveItems steps

/-- The items of a sequence in lines. -/
def blockItems : Nat → Reader (List Node)
  | 0 => throw .grammar
  | steps + 1 => do
    if ← takes .blockEntry then
      let item ← nodeUnless [.blockEntry, .blockEnd] true false steps
      return item :: (← blockItems steps)
    else
      require .blockEnd
      return []

/-- The items of a sequence in lines that is not indented. -/
def looseItems : Nat → Reader (List Node)
  | 0 => throw .grammar
  | steps + 1 => do
    if ← takes .blockEntry then
      let item ← nodeUnless [.blockEntry, .key, .value, .blockEnd] true false steps
      return item :: (← looseItems steps)
    else return []

/-- The entries of a mapping in lines. -/
def blockEntries : Nat → Reader (List (Node × Node))
  | 0 => throw .grammar
  | steps + 1 => do
    if ← takes .key then
      let ends := [.key, .value, .blockEnd]
      let key ← nodeUnless ends true true steps
      let value ← valueUnless ends true steps
      return (key, value) :: (← blockEntries steps)
    else
      require .blockEnd
      return []

/-- The value of an entry, which is empty if it is not written. -/
def valueUnless (ends : List Token) (inLines : Bool) : Nat → Reader Node
  | 0 => throw .grammar
  | steps + 1 => do
    if ← takes .value then nodeUnless ends inLines inLines steps else return empty

/-- The items of a sequence in brackets. An item may be a mapping with a single entry. -/
def flowItems (first : Bool) : Nat → Reader (List Node)
  | 0 => throw .grammar
  | steps + 1 => do
    if ← takes .flowSequenceEnd then return []
    if !first then require .flowEntry
    if ← takes .key then
      let ends := [.flowEntry, .flowSequenceEnd]
      let key ← nodeUnless (.value :: ends) false false steps
      let value ← valueUnless ends false steps
      return .mapping .mapping [(key, value)] :: (← flowItems false steps)
    else if ← takes .flowSequenceEnd then return []
    else
      let item ← node false false steps
      return item :: (← flowItems false steps)

/-- The entries of a mapping in brackets. An entry may be a key alone. -/
def flowEntries (first : Bool) : Nat → Reader (List (Node × Node))
  | 0 => throw .grammar
  | steps + 1 => do
    if ← takes .flowMappingEnd then return []
    if !first then require .flowEntry
    if ← takes .key then
      let ends := [.flowEntry, .flowMappingEnd]
      let key ← nodeUnless (.value :: ends) false false steps
      let value ← valueUnless ends false steps
      return (key, value) :: (← flowEntries false steps)
    else if ← takes .flowMappingEnd then return []
    else
      let key ← node false false steps
      return (key, empty) :: (← flowEntries false steps)

end

/-! ## Documents -/

/-- The handles of tags that every document knows. -/
def knownHandles : List (String × String) := [("!", "!"), ("!!", Tag.stem)]

/-- The directives that come next. -/
def directives : List Token → List Directive
  | .directive directive :: rest => directive :: directives rest
  | _ => []

/-- The handles that directives declare. Only version 1 of the format is read, and nothing may be
declared twice. -/
def declared : List Directive → Except Fault (List (String × String))
  | [] => .ok []
  | .other :: rest => declared rest
  | .version major :: rest =>
    let isVersion : Directive → Bool
      | .version _ => true
      | _ => false
    if major == 1 && !rest.any isVersion then declared rest else .error .grammar
  | .tagHandle handle stem :: rest => do
    let others ← declared rest
    if (others.lookup handle).isSome then throw .grammar
    .ok ((handle, stem) :: others)

/-- Skip the marks for the end of a document. -/
def skipEnds : Reader Unit :=
  modify fun reading => { reading with tokens := reading.tokens.dropWhile (· == .documentEnd) }

/-- The beginning of a document that is marked. -/
def documentStart : Reader Unit := do
  let found := directives (← get).tokens
  let handles ← declared found
  modify fun reading =>
    { reading with
      tokens := reading.tokens.drop found.length
      handles := handles ++ knownHandles }
  require .documentStart

/-- Whether a token says something about documents. -/
def isOutside : Token → Bool
  | .directive _ | .documentStart | .documentEnd => true
  | _ => false

/-- The document of a text, if it holds one. -/
def document? : Reader (Option Node) := do
  let steps := 8 * (← get).tokens.length + 8
  match ← peek with
  | none => return none
  | some first =>
    let begins := (first matches .directive _) || first == .documentStart
    if begins then documentStart
    else modify fun reading => { reading with handles := knownHandles }
    let missing := begins && (← peek).all isOutside
    let root ← if missing then pure empty else node true false steps
    discard (takes .documentEnd)
    skipEnds
    if (← peek).isSome then
      documentStart
      throw .reference
    return some root

/-- The root of the document that a text holds. -/
def ofText? (text : String) : Except Fault (Option Node) :=
  document?.run' { tokens := Token.ofText text }

end Node

end Intertemporal.Yaml
