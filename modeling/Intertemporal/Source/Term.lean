import Intertemporal.Scalar

/-!
# Terms

A term is what equation text says before anything is known about the names in it: the tree of an
expression in a general-purpose expression language. Arithmetic, indexing, calls and tuples have
constructors of their own, because time operators and equations give them a meaning. The remaining
forms (comparisons, conditionals, displays and the like) mean nothing in an equation, but a term may
contain them, the passes over terms walk through them, and messages show them; they share one
constructor, `compound`, which says its shape and lists its parts.

The parts of a compound stand in the order in which the passes visit them.
-/

namespace Intertemporal.Source

/-- A constant of equation text. -/
inductive Literal (α : Type)
  | natural (value : Nat)
  | real (value : α)
  | imaginary (value : α)
  | text (value : String)
  | truth (value : Bool)
  | none
  | ellipsis

/-- Operators in front of an operand. -/
inductive UnaryOperator
  | plus
  | minus
  | invert
  | not
deriving DecidableEq, Repr

/-- Operators between two operands. -/
inductive BinaryOperator
  | add
  | sub
  | mul
  | div
  | floorDiv
  | mod
  | matMul
  | power
  | shiftLeft
  | shiftRight
  | bitAnd
  | bitOr
  | bitXor
deriving DecidableEq, Repr

/-- The words that join conditions. -/
inductive Connective
  | and
  | or
deriving DecidableEq, Repr

/-- The relations of a chain of comparisons. -/
inductive Relation
  | equal
  | notEqual
  | less
  | lessEqual
  | greater
  | greaterEqual
  | member
  | notMember
  | identical
  | notIdentical
deriving DecidableEq, Repr

/-- The forms of a term that no equation gives a meaning to. -/
inductive Shape
  /-- Conditions joined by one connective. -/
  | connected (connective : Connective)
  /-- A chain of comparisons: one part more than relations. -/
  | comparison (relations : List Relation)
  /-- The condition, the value if it holds and the value otherwise. -/
  | conditional
  | listDisplay
  | setDisplay
  /-- The keys, then the values; an entry without a key spreads another mapping. -/
  | mapDisplay (keyed : List Bool)
  /-- The bounds and the step of a slice, as far as they are given. -/
  | slice (lower upper step : Bool)
  | attribute (name : String)
  | starred
  /-- An argument passed by name. -/
  | named (name : String)
  /-- A mapping spread into arguments passed by name. -/
  | spread
deriving DecidableEq, Repr

/-- The tree of an expression in equation text. -/
inductive Term (α : Type)
  | literal (value : Literal α)
  | name (identifier : String)
  | unary (operator : UnaryOperator) (operand : Term α)
  | binary (operator : BinaryOperator) (left right : Term α)
  | subscript (value index : Term α)
  | call (function : Term α) (arguments : List (Term α)) (keywords : List (Term α))
  | tuple (items : List (Term α))
  | compound (shape : Shape) (parts : List (Term α))

namespace Term

variable {α : Type}

/-- The name of the current date. -/
def timeName : String := "t"

mutual

/-- Whether the name `t` of the current date occurs in a term. -/
def mentionsTime : Term α → Bool
  | .literal _ => false
  | .name identifier => identifier == timeName
  | .unary _ operand => operand.mentionsTime
  | .binary _ left right => left.mentionsTime || right.mentionsTime
  | .subscript value index => value.mentionsTime || index.mentionsTime
  | .call function arguments keywords =>
    function.mentionsTime || anyMentionsTime arguments || anyMentionsTime keywords
  | .tuple items => anyMentionsTime items
  | .compound _ parts => anyMentionsTime parts

/-- Whether the name of the current date occurs in one of several terms. -/
def anyMentionsTime : List (Term α) → Bool
  | [] => false
  | term :: rest => term.mentionsTime || anyMentionsTime rest

end

/-- Several terms mention the current date if one of them does. -/
@[simp]
theorem anyMentionsTime_eq (terms : List (Term α)) :
    anyMentionsTime terms = terms.any mentionsTime := by
  induction terms with
  | nil => rfl
  | cons term rest ih => simp [anyMentionsTime, ih]

/-- A natural number. -/
def natural (value : Nat) : Term α := .literal (.natural value)

/-- A real number. -/
def real (value : α) : Term α := .literal (.real value)

/-- The current date. -/
def time : Term α := .name timeName

/-- The value of an integer with any number of signs in front. -/
def integer? : Term α → Option Int
  | .unary .minus operand => operand.integer?.map (- ·)
  | .unary .plus operand => operand.integer?
  | .literal (.natural value) => some value
  | _ => none

/-- A number written in equation text, with its signs. -/
inductive Quantity (α : Type)
  | integer (value : Int)
  | real (value : α)

/-- The same number with the opposite sign. -/
def Quantity.negate [Neg α] : Quantity α → Quantity α
  | .integer value => .integer (-value)
  | .real value => .real (-value)

/-- The value of a number with any number of signs in front. -/
def number? [Neg α] : Term α → Option (Quantity α)
  | .unary .minus operand => operand.number?.map Quantity.negate
  | .unary .plus operand => operand.number?
  | .literal (.natural value) => some (.integer value)
  | .literal (.real value) => some (.real value)
  | _ => none

end Term

end Intertemporal.Source
