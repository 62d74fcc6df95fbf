import Intertemporal.Decimal.Layout
import Intertemporal.Source.Term
import Intertemporal.Text.Quoted

/-!
# Written terms

Messages show terms in one written form: a blank around operators between operands, a comma and a
blank between items, and parentheses only where the binding strength of an operand is below what its
place asks for. Constants that no literal denotes are written as expressions that have their value.
-/

namespace Intertemporal.Source

/-- How tightly a form binds: a form is written in parentheses where more is asked for. -/
abbrev Binding := Nat

namespace Binding

/-- The place of an index, where a tuple stands without parentheses. -/
def index : Binding := 0

/-- Conditional choices, and the place of an item between commas. -/
def choice : Binding := 1

/-- Disjunctions. -/
def or : Binding := 2

/-- Conjunctions. -/
def and : Binding := 3

/-- Negations of a truth value. -/
def not : Binding := 4

/-- Chains of comparisons. -/
def comparison : Binding := 5

/-- Unions of bits. -/
def bitOr : Binding := 6

/-- Symmetric differences of bits. -/
def bitXor : Binding := 7

/-- Intersections of bits. -/
def bitAnd : Binding := 8

/-- Shifts of bits. -/
def shift : Binding := 9

/-- Sums and differences. -/
def sum : Binding := 10

/-- Products, quotients and remainders. -/
def product : Binding := 11

/-- Signed operands and inverted bits. -/
def sign : Binding := 12

/-- Powers, which bind tighter than a sign at their base. -/
def power : Binding := 13

/-- The place of the base of a power. -/
def powerBase : Binding := 14

/-- Names, constants, calls, indexings and everything in brackets. -/
def primary : Binding := 15

/-- The next tighter binding; nothing binds tighter than a primary. -/
def next (binding : Binding) : Binding := min (binding + 1) primary

/-- The given binding and the next tighter ones. -/
def rising (binding : Binding) : Nat → List Binding
  | 0 => []
  | count + 1 => binding :: rising binding.next count

end Binding

namespace UnaryOperator

/-- The sign before the operand, with the blank that a word needs. -/
def symbol : UnaryOperator → String
  | .plus => "+"
  | .minus => "-"
  | .invert => "~"
  | .not => "not "

/-- How tightly the form of an operator before its operand binds. -/
def binding : UnaryOperator → Binding
  | .not => .not
  | _ => .sign

end UnaryOperator

namespace BinaryOperator

/-- The sign between the two operands. -/
def symbol : BinaryOperator → String
  | .add => "+"
  | .sub => "-"
  | .mul => "*"
  | .div => "/"
  | .floorDiv => "//"
  | .mod => "%"
  | .matMul => "@"
  | .power => "**"
  | .shiftLeft => "<<"
  | .shiftRight => ">>"
  | .bitAnd => "&"
  | .bitOr => "|"
  | .bitXor => "^"

/-- How tightly the form of an operator between two operands binds. -/
def binding : BinaryOperator → Binding
  | .add | .sub => .sum
  | .mul | .div | .floorDiv | .mod | .matMul => .product
  | .power => .power
  | .shiftLeft | .shiftRight => .shift
  | .bitAnd => .bitAnd
  | .bitOr => .bitOr
  | .bitXor => .bitXor

/-- Powers associate to the right, all other operators to the left. -/
def associatesRight : BinaryOperator → Bool
  | .power => true
  | _ => false

end BinaryOperator

namespace Connective

/-- The word between the parts. -/
def symbol : Connective → String
  | .and => "and"
  | .or => "or"

/-- How tightly the form of a connective binds. -/
def binding : Connective → Binding
  | .and => .and
  | .or => .or

end Connective

/-- The sign or the words between the sides of a comparison. -/
def Relation.symbol : Relation → String
  | .equal => "=="
  | .notEqual => "!="
  | .less => "<"
  | .lessEqual => "<="
  | .greater => ">"
  | .greaterEqual => ">="
  | .member => "in"
  | .notMember => "not in"
  | .identical => "is"
  | .notIdentical => "is not"

variable {α : Type} [Numeral α]

/-- A number as a term: a literal too large for any number stands for infinity. -/
def numberText (value : α) : String :=
  match Numeral.exact value with
  | "inf" => "1e309"
  | "-inf" => "-1e309"
  | "nan" => "(1e309-1e309)"
  | text => text

/-- An imaginary constant, without the point of a whole number. -/
def imaginaryText (value : α) : String :=
  let text := (numberText value).toList
  let front := text.length - 2
  let whole := if text.drop front = ['.', '0'] then text.take front else text
  String.ofList (whole ++ ['j'])

/-- A constant as messages show it: numbers in the fewest digits, text in quotes. -/
def Literal.written : Literal α → String
  | .natural value => toString value
  | .real value => numberText value
  | .imaginary value => imaginaryText value
  | .text value => Text.quoted value
  | .truth value => if value then "True" else "False"
  | .none => "None"
  | .ellipsis => "..."

/-- Items between commas; a single one keeps its comma. -/
def itemsText (items : List String) : String :=
  match items with
  | [item] => item ++ ","
  | _ => ", ".intercalate items

/-- Put parentheses around a text where they are needed. -/
def parenthesized (needed : Bool) (text : String) : String :=
  if needed then "(" ++ text ++ ")" else text

/-- Operands with the given words between them. -/
def chainText : List String → List String → String
  | operand :: operands, word :: words => operand ++ " " ++ word ++ " " ++ chainText operands words
  | operand :: _, [] => operand
  | [], _ => ""

/-- The entries of a mapping display from its keys and its values. -/
def entryTexts : List Bool → List String → List String → List String
  | true :: keyed, key :: keys, value :: values =>
    (key ++ ": " ++ value) :: entryTexts keyed keys values
  | false :: keyed, keys, value :: values => ("**" ++ value) :: entryTexts keyed keys values
  | _, _, _ => []

/-- The given bounds of a slice and the texts between its colons. -/
def sliceText (lower upper step : Bool) (parts : List String) : String :=
  let (first, parts) := if lower then (parts.head?.getD "", parts.drop 1) else ("", parts)
  let (second, parts) := if upper then (parts.head?.getD "", parts.drop 1) else ("", parts)
  first ++ ":" ++ second ++ (if step then ":" ++ parts.head?.getD "" else "")

namespace Term

/-- Whether an attribute of a term has to be kept apart from its last digit. -/
def endsInInteger : Term α → Bool
  | .literal (.natural _) | .literal (.truth _) => true
  | _ => false

mutual

/-- A term at a place that asks for the given binding. -/
def textAt (asked : Binding) : Term α → String
  | .literal value => value.written
  | .name identifier => identifier
  | .unary operator operand =>
    parenthesized (operator.binding < asked) (operator.symbol ++ operand.textAt operator.binding)
  | .binary operator left right =>
    let own := operator.binding
    let sides := if operator.associatesRight then (own.next, own) else (own, own.next)
    parenthesized (own < asked)
      (left.textAt sides.1 ++ " " ++ operator.symbol ++ " " ++ right.textAt sides.2)
  | .subscript value index =>
    value.textAt .primary ++ "[" ++ index.textAt .index ++ "]"
  | .call function arguments keywords =>
    function.textAt .primary ++ "(" ++
      ", ".intercalate (textsAt [] arguments ++ textsAt [] keywords) ++ ")"
  | .tuple items =>
    parenthesized (Binding.index < asked || items.isEmpty) (itemsText (textsAt [] items))
  | .compound (.connected connective) parts =>
    let own := connective.binding
    parenthesized (own < asked)
      ((" " ++ connective.symbol ++ " ").intercalate (textsAt (own.next.rising parts.length) parts))
  | .compound (.comparison relations) parts =>
    parenthesized (Binding.comparison < asked)
      (chainText (textsAt (List.replicate parts.length Binding.comparison.next) parts)
        (relations.map Relation.symbol))
  | .compound .conditional parts =>
    parenthesized (Binding.choice < asked)
      (match textsAt [Binding.choice.next, Binding.choice.next, .choice] parts with
        | [condition, value, otherwise] => value ++ " if " ++ condition ++ " else " ++ otherwise
        | _ => "")
  | .compound .listDisplay parts => "[" ++ ", ".intercalate (textsAt [] parts) ++ "]"
  | .compound .setDisplay parts =>
    match textsAt [] parts with
    | [] => "\x7b*()\x7d"
    | items => "\x7b" ++ ", ".intercalate items ++ "\x7d"
  | .compound (.mapDisplay keyed) parts =>
    let count := (keyed.filter id).length
    let valueBindings := keyed.map fun hasKey => if hasKey then Binding.choice else .bitOr
    let texts := textsAt (List.replicate count .choice ++ valueBindings) parts
    "\x7b" ++ ", ".intercalate (entryTexts keyed (texts.take count) (texts.drop count)) ++ "\x7d"
  | .compound (.slice lower upper step) parts =>
    sliceText lower upper step (textsAt [] parts)
  | .compound (.attribute label) parts =>
    "".intercalate (textsAt [.primary] parts) ++
      (if parts.any endsInInteger then " ." else ".") ++ label
  | .compound .starred parts => "*" ++ "".intercalate (textsAt [.bitOr] parts)
  | .compound (.named label) parts => label ++ "=" ++ "".intercalate (textsAt [] parts)
  | .compound .spread parts => "**" ++ "".intercalate (textsAt [] parts)

/-- Several terms at places that ask for the given bindings; the places beyond them are those of
items between commas. -/
def textsAt : List Binding → List (Term α) → List String
  | _, [] => []
  | [], term :: rest => term.textAt .choice :: textsAt [] rest
  | asked :: bindings, term :: rest => term.textAt asked :: textsAt bindings rest

end

/-- The written form of a term. -/
def text (term : Term α) : String := term.textAt .choice

end Term

end Intertemporal.Source
