import Intertemporal.Source.Printer
import Intertemporal.Source.Token

/-!
# Reading terms

The grammar of equation text, by descent over its tokens. Operators between operands are read by
binding strength: `operation` reads an operand and then every operator that binds at least as
tightly as its place asks for. Each function returns what it read and the tokens that follow.

A call takes one unit of fuel, and `Term.ofTokens` provides a multiple of the number of tokens;
fewer than twelve calls lie between two tokens on any path, so the fuel does not run out before the
tokens do.
-/

namespace Intertemporal.Source

/-- Why a text is no term. -/
inductive Malformed
  /-- The text does not follow the grammar. -/
  | grammar
  /-- The text contains the null character. -/
  | nullCharacter
deriving DecidableEq, Repr

variable {α : Type}

/-- The operator between two operands that a mark denotes. -/
def Mark.binary? : Mark → Option BinaryOperator
  | .plus => some .add
  | .minus => some .sub
  | .star => some .mul
  | .slash => some .div
  | .doubleSlash => some .floorDiv
  | .percent => some .mod
  | .at => some .matMul
  | .doubleStar => some .power
  | .shiftLeft => some .shiftLeft
  | .shiftRight => some .shiftRight
  | .ampersand => some .bitAnd
  | .bar => some .bitOr
  | .caret => some .bitXor
  | _ => none

/-- The sign in front of an operand that a mark denotes. -/
def Mark.unary? : Mark → Option UnaryOperator
  | .plus => some .plus
  | .minus => some .minus
  | .tilde => some .invert
  | _ => none

/-- The binding that the right operand of an operator is read with. The exponent of a power may
carry a sign. -/
def BinaryOperator.rightBinding : BinaryOperator → Binding
  | .power => .sign
  | operator => operator.binding.next

/-- The connective that a token denotes. -/
def Token.connective? : Token α → Option Connective
  | .word .and => some .and
  | .word .or => some .or
  | _ => none

/-- The relation at the head of some tokens, and the tokens after it. -/
def relation? : List (Token α) → Option (Relation × List (Token α))
  | .mark .equal :: rest => some (.equal, rest)
  | .mark .notEqual :: rest => some (.notEqual, rest)
  | .mark .less :: rest => some (.less, rest)
  | .mark .lessEqual :: rest => some (.lessEqual, rest)
  | .mark .greater :: rest => some (.greater, rest)
  | .mark .greaterEqual :: rest => some (.greaterEqual, rest)
  | .word .member :: rest => some (.member, rest)
  | .word .not :: .word .member :: rest => some (.notMember, rest)
  | .word .identical :: .word .not :: rest => some (.notIdentical, rest)
  | .word .identical :: rest => some (.identical, rest)
  | _ => none

/-- Quoted texts that follow one another, joined to one. -/
def adjacentText (text : String) : List (Token α) → String × List (Token α)
  | .literal (.text next) :: rest => adjacentText (text ++ next) rest
  | rest => (text, rest)

/-- Whether a term stands for several items. -/
def Term.isStarred : Term α → Bool
  | .compound .starred _ => true
  | _ => false

/-- The kinds of arguments that a call has passed already, which restrict the ones that follow. -/
inductive Passed
  | byPosition
  | byName
  | spread
deriving DecidableEq

/-- The entries of a mapping display. -/
structure Entries (α : Type) where
  keyed : List Bool := []
  keys : List (Term α) := []
  values : List (Term α) := []

/-- The entries with another one in front. An entry without a key spreads a mapping. -/
def Entries.add (entries : Entries α) (key : Option (Term α)) (value : Term α) : Entries α :=
  { keyed := key.isSome :: entries.keyed
    keys := key.toList ++ entries.keys
    values := value :: entries.values }

/-- The display of entries. -/
def Entries.display (entries : Entries α) : Term α :=
  .compound (.mapDisplay entries.keyed) (entries.keys ++ entries.values)

namespace Term

mutual

/-- An expression: perhaps a choice between two. -/
def expression : Nat → List (Token α) → Option (Term α × List (Token α))
  | 0, _ => none
  | fuel + 1, tokens => do
    let (value, rest) ← operation fuel .or tokens
    match rest with
    | .word .when :: rest =>
      let (condition, rest) ← operation fuel .or rest
      match rest with
      | .word .otherwise :: rest =>
        let (alternative, rest) ← expression fuel rest
        some (.compound .conditional [condition, value, alternative], rest)
      | _ => none
    | _ => some (value, rest)

/-- An operand and the operators after it that bind at least as tightly as asked. -/
def operation : Nat → Binding → List (Token α) → Option (Term α × List (Token α))
  | 0, _, _ => none
  | fuel + 1, asked, tokens => do
    let (left, rest) ← operand fuel asked tokens
    continued fuel asked left rest

/-- An operand, with the operators in front of it that its place admits. -/
def operand : Nat → Binding → List (Token α) → Option (Term α × List (Token α))
  | 0, _, _ => none
  | fuel + 1, asked, .word .not :: rest =>
    if asked ≤ .not then do
      let (body, rest) ← operation fuel .not rest
      some (.unary .not body, rest)
    else none
  | fuel + 1, _, .mark mark :: rest =>
    match mark.unary? with
    | some operator => do
      let (body, rest) ← operation fuel .sign rest
      some (.unary operator body, rest)
    | none => primary fuel (.mark mark :: rest)
  | fuel + 1, _, tokens => primary fuel tokens

/-- The operators after a left operand that bind at least as tightly as asked. -/
def continued :
    Nat → Binding → Term α → List (Token α) → Option (Term α × List (Token α))
  | 0, _, _, _ => none
  | _ + 1, _, left, [] => some (left, [])
  | fuel + 1, asked, left, token :: rest =>
    match token with
    | .mark mark =>
      match mark.binary? with
      | some operator =>
        if asked ≤ operator.binding then do
          let (right, rest) ← operation fuel operator.rightBinding rest
          continued fuel asked (.binary operator left right) rest
        else some (left, token :: rest)
      | none => compared fuel asked left (token :: rest)
    | .word _ =>
      match token.connective? with
      | some connective =>
        if asked ≤ connective.binding then do
          let (others, rest) ← connected fuel connective (token :: rest)
          continued fuel asked (.compound (.connected connective) (left :: others)) rest
        else some (left, token :: rest)
      | none => compared fuel asked left (token :: rest)
    | _ => some (left, token :: rest)

/-- The operands after a left one that the same connective joins to it. -/
def connected :
    Nat → Connective → List (Token α) → Option (List (Term α) × List (Token α))
  | 0, _, _ => none
  | _ + 1, _, [] => some ([], [])
  | fuel + 1, connective, token :: rest =>
    if token.connective? = some connective then do
      let (next, rest) ← operation fuel connective.binding.next rest
      let (others, rest) ← connected fuel connective rest
      some (next :: others, rest)
    else some ([], token :: rest)

/-- The chain of comparisons that begins with a left operand, if there is one and its place admits
it, and what follows it. -/
def compared :
    Nat → Binding → Term α → List (Token α) → Option (Term α × List (Token α))
  | 0, _, _, _ => none
  | fuel + 1, asked, left, tokens =>
    if (relation? tokens).isSome ∧ asked ≤ .comparison then do
      let (relations, operands, rest) ← comparisons fuel tokens
      continued fuel asked (.compound (.comparison relations) (left :: operands)) rest
    else some (left, tokens)

/-- Relations and the operands after them. -/
def comparisons :
    Nat → List (Token α) → Option (List Relation × List (Term α) × List (Token α))
  | 0, _ => none
  | fuel + 1, tokens =>
    match relation? tokens with
    | none => some ([], [], tokens)
    | some (relation, rest) => do
      let (next, rest) ← operation fuel Binding.comparison.next rest
      let (relations, operands, rest) ← comparisons fuel rest
      some (relation :: relations, next :: operands, rest)

/-- An atom with the attributes, indices and calls after it. -/
def primary : Nat → List (Token α) → Option (Term α × List (Token α))
  | 0, _ => none
  | fuel + 1, tokens => do
    let (value, rest) ← atom fuel tokens
    trailed fuel value rest

/-- Attributes, indices and calls after a value. -/
def trailed : Nat → Term α → List (Token α) → Option (Term α × List (Token α))
  | 0, _, _ => none
  | fuel + 1, value, tokens =>
    match tokens with
    | .mark .dot :: rest =>
      match rest with
      | .name label :: rest => trailed fuel (.compound (.attribute label) [value]) rest
      | _ => none
    | .mark .leftParen :: rest => do
      let (passed, named, rest) ← arguments fuel .byPosition rest
      trailed fuel (.call value passed named) rest
    | .mark .leftBracket :: rest => do
      let (index, rest) ← index fuel rest
      trailed fuel (.subscript value index) rest
    | _ => some (value, tokens)

/-- A name, a constant, or terms between brackets. -/
def atom : Nat → List (Token α) → Option (Term α × List (Token α))
  | 0, _ => none
  | fuel + 1, tokens =>
    match tokens with
    | .name identifier :: rest => some (.name identifier, rest)
    | .literal (.text text) :: rest =>
      let (joined, rest) := adjacentText text rest
      some (.literal (.text joined), rest)
    | .literal value :: rest => some (.literal value, rest)
    | .word .truth :: rest => some (.literal (.truth true), rest)
    | .word .falsehood :: rest => some (.literal (.truth false), rest)
    | .word .nothing :: rest => some (.literal .none, rest)
    | .mark .ellipsis :: rest => some (.literal .ellipsis, rest)
    | .mark .leftParen :: .mark .rightParen :: rest => some (.tuple [], rest)
    | .mark .leftParen :: rest => do
      let (first, rest) ← item fuel rest
      match rest with
      | .mark .comma :: rest =>
        let (others, rest) ← items fuel .rightParen rest
        some (.tuple (first :: others), rest)
      | .mark .rightParen :: rest => if first.isStarred then none else some (first, rest)
      | _ => none
    | .mark .leftBracket :: rest => do
      let (parts, rest) ← items fuel .rightBracket rest
      some (.compound .listDisplay parts, rest)
    | .mark .leftBrace :: .mark .rightBrace :: rest =>
      some (.compound (.mapDisplay []) [], rest)
    | .mark .leftBrace :: rest => braced fuel rest
    | _ => none

/-- The display after an opening brace, of a set or of a mapping. -/
def braced : Nat → List (Token α) → Option (Term α × List (Token α))
  | 0, _ => none
  | fuel + 1, tokens =>
    match tokens with
    | .mark .doubleStar :: _ => do
      let (found, rest) ← entries fuel tokens
      some (found.display, rest)
    | _ => do
      let (first, rest) ← item fuel tokens
      match rest with
      | .mark .colon :: rest =>
        if first.isStarred then none
        else do
          let (value, rest) ← expression fuel rest
          let (others, rest) ← furtherEntries fuel rest
          some ((others.add (some first) value).display, rest)
      | .mark .comma :: rest =>
        let (others, rest) ← items fuel .rightBrace rest
        some (.compound .setDisplay (first :: others), rest)
      | .mark .rightBrace :: rest => some (.compound .setDisplay [first], rest)
      | _ => none

/-- The entries of a mapping display up to its closing brace. -/
def entries : Nat → List (Token α) → Option (Entries α × List (Token α))
  | 0, _ => none
  | _ + 1, .mark .rightBrace :: rest => some ({}, rest)
  | fuel + 1, tokens => do
    let (key, value, rest) ← match tokens with
      | .mark .doubleStar :: rest => do
        let (value, rest) ← operation fuel .bitOr rest
        some (none, value, rest)
      | _ => do
        let (key, rest) ← expression fuel tokens
        match rest with
        | .mark .colon :: rest =>
          let (value, rest) ← expression fuel rest
          some (some key, value, rest)
        | _ => none
    let (others, rest) ← furtherEntries fuel rest
    some (others.add key value, rest)

/-- The entries of a mapping display after one of them. -/
def furtherEntries : Nat → List (Token α) → Option (Entries α × List (Token α))
  | 0, _ => none
  | fuel + 1, tokens =>
    match tokens with
    | .mark .comma :: rest => entries fuel rest
    | .mark .rightBrace :: rest => some ({}, rest)
    | _ => none

/-- An item of a display: an expression, or a starred operand. -/
def item : Nat → List (Token α) → Option (Term α × List (Token α))
  | 0, _ => none
  | fuel + 1, .mark .star :: rest => do
    let (value, rest) ← operation fuel .bitOr rest
    some (.compound .starred [value], rest)
  | fuel + 1, tokens => expression fuel tokens

/-- Items between commas up to a closing mark, which a last comma may precede. -/
def items : Nat → Mark → List (Token α) → Option (List (Term α) × List (Token α))
  | 0, _, _ => none
  | fuel + 1, close, tokens =>
    match tokens with
    | [] => none
    | .mark mark :: rest =>
      if mark = close then some ([], rest) else moreItems fuel close (.mark mark :: rest)
    | _ => moreItems fuel close tokens

/-- At least one item, and the others up to a closing mark. -/
def moreItems : Nat → Mark → List (Token α) → Option (List (Term α) × List (Token α))
  | 0, _, _ => none
  | fuel + 1, close, tokens => do
    let (first, rest) ← item fuel tokens
    match rest with
    | .mark mark :: rest =>
      if mark = .comma then
        let (others, rest) ← items fuel close rest
        some (first :: others, rest)
      else if mark = close then some ([first], rest)
      else none
    | _ => none

/-- The arguments of a call up to its closing parenthesis: those passed by position or starred, and
those passed by name or spread. Nothing is passed by position after a name, and nothing starred
after a spread mapping. -/
def arguments :
    Nat → Passed → List (Token α) → Option (List (Term α) × List (Term α) × List (Token α))
  | 0, _, _ => none
  | _ + 1, _, .mark .rightParen :: rest => some ([], [], rest)
  | fuel + 1, passed, tokens => do
    let (found, rest) ← match tokens with
      | .mark .star :: rest =>
        if passed = .spread then none
        else do
          let (value, rest) ← expression fuel rest
          some (Sum.inl (.compound .starred [value]), rest)
      | .mark .doubleStar :: rest => do
        let (value, rest) ← expression fuel rest
        some (Sum.inr (Passed.spread, .compound .spread [value]), rest)
      | .name label :: .mark .assign :: rest => do
        let (value, rest) ← expression fuel rest
        let kind := if passed = .spread then Passed.spread else .byName
        some (Sum.inr (kind, .compound (.named label) [value]), rest)
      | _ =>
        if passed = .byPosition then do
          let (value, rest) ← expression fuel tokens
          some (Sum.inl value, rest)
        else none
    let next := match found with
      | .inl _ => passed
      | .inr (kind, _) => kind
    let (positional, named, rest) ← match rest with
      | .mark .comma :: rest => arguments fuel next rest
      | .mark .rightParen :: rest => some ([], [], rest)
      | _ => none
    match found with
    | .inl value => some (value :: positional, named, rest)
    | .inr (_, value) => some (positional, value :: named, rest)

/-- An index up to its closing bracket: one index, or a tuple of them. -/
def index : Nat → List (Token α) → Option (Term α × List (Token α))
  | 0, _ => none
  | fuel + 1, tokens => do
    let (first, rest) ← indexItem fuel tokens
    match rest with
    | .mark .rightBracket :: rest =>
      some (if first.isStarred then .tuple [first] else first, rest)
    | .mark .comma :: rest =>
      let (others, rest) ← indexItems fuel rest
      some (.tuple (first :: others), rest)
    | _ => none

/-- Further items of an index up to its closing bracket, which a last comma may precede. -/
def indexItems : Nat → List (Token α) → Option (List (Term α) × List (Token α))
  | 0, _ => none
  | _ + 1, .mark .rightBracket :: rest => some ([], rest)
  | fuel + 1, tokens => do
    let (first, rest) ← indexItem fuel tokens
    match rest with
    | .mark .rightBracket :: rest => some ([first], rest)
    | .mark .comma :: rest =>
      let (others, rest) ← indexItems fuel rest
      some (first :: others, rest)
    | _ => none

/-- An item of an index: an expression, a slice or a starred expression. -/
def indexItem : Nat → List (Token α) → Option (Term α × List (Token α))
  | 0, _ => none
  | fuel + 1, tokens =>
    match tokens with
    | .mark .star :: rest => do
      let (value, rest) ← expression fuel rest
      some (.compound .starred [value], rest)
    | .mark .colon :: rest => slice fuel none rest
    | _ => do
      let (value, rest) ← expression fuel tokens
      match rest with
      | .mark .colon :: rest => slice fuel (some value) rest
      | _ => some (value, rest)

/-- A slice after its first colon. -/
def slice : Nat → Option (Term α) → List (Token α) → Option (Term α × List (Token α))
  | 0, _, _ => none
  | fuel + 1, lower, tokens => do
    let (upper, rest) ← bound fuel tokens
    let (step, rest) ← match rest with
      | .mark .colon :: rest => bound fuel rest
      | _ => some (none, rest)
    some
      (.compound (.slice lower.isSome upper.isSome step.isSome)
        (lower.toList ++ upper.toList ++ step.toList), rest)

/-- A bound of a slice, which may be left out. -/
def bound : Nat → List (Token α) → Option (Option (Term α) × List (Token α))
  | 0, _ => none
  | fuel + 1, tokens =>
    match tokens with
    | .mark .colon :: _ => some (none, tokens)
    | .mark .comma :: _ => some (none, tokens)
    | .mark .rightBracket :: _ => some (none, tokens)
    | _ => do
      let (value, rest) ← expression fuel tokens
      some (some value, rest)

end

/-- Further expressions of a tuple without parentheses, up to the end. -/
def remaining : Nat → List (Token α) → Option (List (Term α))
  | 0, _ => none
  | _ + 1, [] => some []
  | fuel + 1, tokens => do
    let (first, rest) ← expression fuel tokens
    match rest with
    | [] => some [first]
    | .mark .comma :: rest => (remaining fuel rest).map (first :: ·)
    | _ => none

/-- The term that tokens form: an expression, or a tuple of them without parentheses. -/
def ofTokens (tokens : List (Token α)) : Option (Term α) := do
  let fuel := 12 * (tokens.length + 1)
  let (first, rest) ← expression fuel tokens
  match rest with
  | [] => some first
  | .mark .comma :: rest => (remaining fuel rest).map fun others => .tuple (first :: others)
  | _ => none

/-- The term that a text forms. -/
def ofText [Scalar α] (text : List Char) : Except Malformed (Term α) :=
  if text.contains '\x00' then .error .nullCharacter
  else
    match (Token.ofText text).bind ofTokens with
    | some term => .ok term
    | none => .error .grammar

end Term

end Intertemporal.Source
