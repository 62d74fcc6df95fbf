import Intertemporal.Decimal.Layout
import Intertemporal.Symbols

/-!
# Expressions

An expression is the residual of an equation once all names are resolved: a tree over constants,
series at a date, steady-state levels and parameters. Two expressions are the same if their trees
agree and their constants are equal as numbers; the cache of compiled evaluators relies on this.
-/

namespace Intertemporal

/-- The signs in front of an expression. -/
inductive Sign
  | plus
  | minus
deriving DecidableEq, Repr

/-- The operations of arithmetic. -/
inductive Arithmetic
  | add
  | sub
  | mul
  | div
  | power
deriving DecidableEq, Repr

/-- The built-in functions. The natural logarithm has two names. -/
inductive Function
  | log
  | ln
  | exp
  | sqrt
  | abs
  | sin
  | cos
  | tan
  | pow
  | min
  | max
deriving DecidableEq, Repr

/-- The written form of a sign. -/
def Sign.symbol : Sign → String
  | .plus => "+"
  | .minus => "-"

/-- The written form of an operation. -/
def Arithmetic.symbol : Arithmetic → String
  | .add => "+"
  | .sub => "-"
  | .mul => "*"
  | .div => "/"
  | .power => "^"

/-- The name of a function in equations. -/
def Function.name : Function → String
  | .log => "log"
  | .ln => "ln"
  | .exp => "exp"
  | .sqrt => "sqrt"
  | .abs => "abs"
  | .sin => "sin"
  | .cos => "cos"
  | .tan => "tan"
  | .pow => "pow"
  | .min => "min"
  | .max => "max"

/-- The sign of a symbol. -/
def Sign.ofSymbol? (symbol : String) : Option Sign :=
  [Sign.plus, .minus].find? (·.symbol == symbol)

/-- The operation of a symbol. -/
def Arithmetic.ofSymbol? (symbol : String) : Option Arithmetic :=
  [Arithmetic.add, .sub, .mul, .div, .power].find? (·.symbol == symbol)

/-- All built-in functions. -/
def Function.all : List Function :=
  [.log, .ln, .exp, .sqrt, .abs, .sin, .cos, .tan, .pow, .min, .max]

/-- The function of a name. -/
def Function.ofName? (name : String) : Option Function := Function.all.find? (·.name == name)

/-- A residual expression. -/
inductive Expression (α : Type)
  | constant (value : α)
  | series (reference : TimedVariable)
  | steadyState (name : String)
  | parameter (name : String) (index : Option Int)
  | unary (sign : Sign) (operand : Expression α)
  | binary (operation : Arithmetic) (left right : Expression α)
  | call (function : Function) (arguments : List (Expression α))

namespace Expression

variable {α : Type}

mutual

/-- The expression and everything in it: each before its parts, parts from left to right. -/
def nodes : Expression α → List (Expression α)
  | .constant value => [.constant value]
  | .series reference => [.series reference]
  | .steadyState name => [.steadyState name]
  | .parameter name index => [.parameter name index]
  | .unary sign operand => .unary sign operand :: operand.nodes
  | .binary operation left right => .binary operation left right :: (left.nodes ++ right.nodes)
  | .call function arguments => .call function arguments :: nodesOfAll arguments

/-- Several expressions and everything in them. -/
def nodesOfAll : List (Expression α) → List (Expression α)
  | [] => []
  | expression :: rest => expression.nodes ++ nodesOfAll rest

end

mutual

/-- Whether two expressions agree, constants being compared as numbers. -/
def same [BEq α] : Expression α → Expression α → Bool
  | .constant value, .constant other => value == other
  | .series reference, .series other => reference == other
  | .steadyState name, .steadyState other => name == other
  | .parameter name index, .parameter other otherIndex => name == other && index == otherIndex
  | .unary sign operand, .unary otherSign other => sign == otherSign && operand.same other
  | .binary operation left right, .binary otherOperation otherLeft otherRight =>
    operation == otherOperation && left.same otherLeft && right.same otherRight
  | .call function arguments, .call otherFunction others =>
    function == otherFunction && allSame arguments others
  | _, _ => false

/-- Whether two lists of expressions agree item by item. -/
def allSame [BEq α] : List (Expression α) → List (Expression α) → Bool
  | [], [] => true
  | expression :: rest, other :: others => expression.same other && allSame rest others
  | _, _ => false

end

/-- Expressions are compared by structure. -/
instance [BEq α] : BEq (Expression α) := ⟨same⟩

mutual

/-- The written form of an expression, with parentheses around every operation. -/
def text [Numeral α] : Expression α → String
  | .constant value => Numeral.exact value
  | .series reference => reference.text
  | .steadyState name => "sstate(" ++ name ++ ")"
  | .parameter name none => name
  | .parameter name (some index) => name ++ "[" ++ toString index ++ "]"
  | .unary sign operand => "(" ++ sign.symbol ++ operand.text ++ ")"
  | .binary operation left right =>
    "(" ++ left.text ++ " " ++ operation.symbol ++ " " ++ right.text ++ ")"
  | .call function arguments => function.name ++ "(" ++ ", ".intercalate (texts arguments) ++ ")"

/-- The written forms of several expressions. -/
def texts [Numeral α] : List (Expression α) → List String
  | [] => []
  | expression :: rest => expression.text :: texts rest

end

end Expression

end Intertemporal
