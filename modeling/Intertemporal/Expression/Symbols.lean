import Intertemporal.Expression.Basic

/-!
# Expressions from symbols

Operations and functions are named by symbols when an expression is built from outside. Building
fails on a symbol that names nothing.
-/

namespace Intertemporal

/-- A symbol that names no operation, no sign or no function. -/
inductive UnknownSymbol
  | operation (symbol : String)
  | sign (symbol : String)
  | function (symbol : String)
deriving DecidableEq, Repr

/-- The wording of a refused symbol. -/
def UnknownSymbol.message : UnknownSymbol → String
  | .operation symbol => "Unknown binary operator: " ++ symbol
  | .sign symbol => "Unknown unary operator: " ++ symbol
  | .function symbol => "Unknown function: " ++ symbol

namespace Expression

variable {α : Type}

/-- The operation of a symbol on two expressions. -/
def ofOperation (symbol : String) (left right : Expression α) :
    Except UnknownSymbol (Expression α) :=
  match Arithmetic.ofSymbol? symbol with
  | some operation => .ok (.binary operation left right)
  | none => .error (.operation symbol)

/-- An expression with a sign. -/
def ofSign (symbol : String) (operand : Expression α) : Except UnknownSymbol (Expression α) :=
  match Sign.ofSymbol? symbol with
  | some sign => .ok (.unary sign operand)
  | none => .error (.sign symbol)

/-- The function of a name on expressions. -/
def ofFunction (name : String) (arguments : List (Expression α)) :
    Except UnknownSymbol (Expression α) :=
  match Function.ofName? name with
  | some function => .ok (.call function arguments)
  | none => .error (.function name)

end Expression

end Intertemporal
