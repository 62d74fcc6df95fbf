import Intertemporal.Expression.References
import Intertemporal.Operators.Normalize
import Intertemporal.Source.Statement

/-!
# Reading equations

Equation text becomes an expression in three steps: the text is read as a term, time operators are
expanded, and the names of the normal term are resolved in a symbol table. Expressions that were
built without text are checked against the same table by `Expression.checkReferences`.
-/

namespace Intertemporal

open Source (Term Literal StatementError)

/-- Why a text or a tree is no equation of a model. The last argument says where. -/
inductive EquationError (α : Type)
  | severalSides (text : String)
  | malformed (text : String)
  | nullCharacter
  | misuse (reason : Operator.Misuse α) (place : String)
  | timeIndex (index : Term α) (place : String)
  | overflow
  | zeroDivision
  | constant (value : Literal α) (place : String)
  | operator (term : Term α) (place : String)
  | form (term : Term α) (place : String)
  | indexing (term : Term α) (place : String)
  | call (term : Term α) (place : String)
  | bareTime (place : String)
  | parameterIndex (name : String) (place : String)
  | steadyStateArgument (place : String)
  | severalIndices (term : Term α) (place : String)
  | undeclared (name : String) (place : String)

/-- An undeclared name, with the place at which it stands. -/
def undeclaredMessage (name place : String) : String :=
  "Undeclared symbol '" ++ name ++ "'" ++ (if place.isEmpty then "" else " in " ++ place)

variable {α : Type}

/-- An index of no supported form, with the place at which it stands. -/
def timeIndexMessage [Numeral α] (index : Term α) (place : String) : String :=
  "Unsupported time index form '" ++ index.text ++ "'" ++
    (if place.isEmpty then "" else " in " ++ place) ++
    ": must use `t`, `t+n` or `t-n` with integer n"

/-- A constant that equations do not have, as messages show it. -/
def constantText [Numeral α] : Literal α → String
  | .imaginary value =>
    let text := (Numeral.exact value).toList
    let whole :=
      if text.drop (text.length - 2) = ['.', '0'] then text.take (text.length - 2) else text
    String.ofList (whole ++ ['j'])
  | .ellipsis => "Ellipsis"
  | value => value.written

/-- Why a text is no equation, if it states none. -/
def EquationError.ofStatement (text : String) : StatementError → EquationError α
  | .severalSides => .severalSides text
  | .malformed => .malformed text
  | .nullCharacter => .nullCharacter

/-- The wording of a refused equation. -/
def EquationError.message [Numeral α] : EquationError α → String
  | .severalSides text => "Equation has more than one '=': " ++ text
  | .malformed text => "Invalid equation syntax: " ++ text
  | .nullCharacter => "Equation text contains the null character"
  | .misuse reason place => reason.message ++ " in " ++ place
  | .timeIndex index place => timeIndexMessage index place
  | .overflow => "A number is out of range"
  | .zeroDivision => "Zero is raised to a negative power"
  | .constant value place => "Unsupported constant " ++ constantText value ++ " in " ++ place
  | .operator term place => "Unsupported operator in '" ++ term.text ++ "' in " ++ place
  | .form term place => "Unsupported expression '" ++ term.text ++ "' in " ++ place
  | .indexing term place => "Unsupported indexing '" ++ term.text ++ "' in " ++ place
  | .call term place => "Unsupported call '" ++ term.text ++ "' in " ++ place
  | .bareTime place => "`t` may only appear in a time index, in " ++ place
  | .parameterIndex name place =>
    "Parameter '" ++ name ++ "' must be indexed by an integer literal in " ++ place
  | .steadyStateArgument place => "sstate() takes a single variable name, in " ++ place
  | .severalIndices term place =>
    "Multiple time indices on variable '" ++ term.text ++ "'" ++
      (if place.isEmpty then "" else " in " ++ place)
  | .undeclared name place => undeclaredMessage name place

/-- The operation that an operator of equation text denotes. -/
def Source.BinaryOperator.arithmetic? : Source.BinaryOperator → Option Arithmetic
  | .add => some .add
  | .sub => some .sub
  | .mul => some .mul
  | .div => some .div
  | .power => some .power
  | _ => none

namespace Expression

/-- A name that stands alone. -/
def ofName (symbols : SymbolTable) (place name : String) :
    Except (EquationError α) (Expression α) :=
  if name == Term.timeName then .error (.bareTime place)
  else if symbols.isParameter name then .ok (.parameter name none)
  else if symbols.isSeries name then .ok (.series ⟨name, 0⟩)
  else .error (.undeclared name place)

/-- A value with an index: a series at a date, or an element of a vector parameter. -/
def ofSubscript (symbols : SymbolTable) (place : String) (value index : Term α) :
    Except (EquationError α) (Expression α) :=
  match value, index with
  | .subscript inner _, _ => .error (.severalIndices inner place)
  | .name name, .tuple _ => .error (.severalIndices (.name name) place)
  | .name name, index =>
    if symbols.isSeries name then
      match index.offset? with
      | some offset => .ok (.series ⟨name, offset⟩)
      | none => .error (.timeIndex index place)
    else if symbols.isParameter name then
      match index.integer? with
      | some element => .ok (.parameter name (some element))
      | none => .error (.parameterIndex name place)
    else .error (.undeclared name place)
  | _, _ => .error (.indexing (.subscript value index) place)

/-- A reference to the steady state of a variable. -/
def ofSteadyState (symbols : SymbolTable) (place : String) (passed : List (Term α)) :
    Except (EquationError α) (Expression α) :=
  match passed with
  | [.name name] =>
    if symbols.isVariable name then .ok (.steadyState name)
    else .error (.undeclared name ("sstate() in " ++ place))
  | _ => .error (.steadyStateArgument place)

/-- The constant of a literal. -/
def ofLiteral [Scalar α] (place : String) : Literal α → Except (EquationError α) (Expression α)
  | .natural value =>
    match Scalar.ofInt? (α := α) value with
    | some scalar => .ok (.constant scalar)
    | none => .error .overflow
  | .real value => .ok (.constant value)
  | value => .error (.constant value place)

mutual

/-- The expression of a normal term, its names resolved in a symbol table. -/
def ofTerm [Scalar α] (symbols : SymbolTable) (place : String) :
    Term α → Except (EquationError α) (Expression α)
  | .literal value => ofLiteral place value
  | .name name => ofName symbols place name
  | .subscript value index => ofSubscript symbols place value index
  | .binary operator left right =>
    match operator.arithmetic? with
    | some operation => do
      let left ← ofTerm symbols place left
      let right ← ofTerm symbols place right
      .ok (.binary operation left right)
    | none => .error (.operator (.binary operator left right) place)
  | .unary .minus operand => do
    let operand ← ofTerm symbols place operand
    .ok (.unary .minus operand)
  | .unary .plus operand => ofTerm symbols place operand
  | .unary operator operand => .error (.operator (.unary operator operand) place)
  | .call (.name name) passed [] =>
    if name == Term.steadyStateName then ofSteadyState symbols place passed
    else
      match Function.ofName? name with
      | some function => do
        let arguments ← ofTerms symbols place passed
        .ok (.call function arguments)
      | none => .error (.undeclared name ("function call in " ++ place))
  | .call function passed named => .error (.call (.call function passed named) place)
  | .tuple items => .error (.form (.tuple items) place)
  | .compound shape parts => .error (.form (.compound shape parts) place)

/-- The expressions of several normal terms. -/
def ofTerms [Scalar α] (symbols : SymbolTable) (place : String) :
    List (Term α) → Except (EquationError α) (List (Expression α))
  | [] => .ok []
  | term :: rest => do
    let first ← ofTerm symbols place term
    let others ← ofTerms symbols place rest
    .ok (first :: others)

end

/-- Whether a node refers to something that a symbol table does not declare, and to what. -/
def undeclared? (symbols : SymbolTable) (place : String) : Expression α → Option (EquationError α)
  | .series reference =>
    if symbols.isSeries reference.name then none else some (.undeclared reference.name place)
  | .steadyState name =>
    if symbols.isVariable name then none else some (.undeclared name ("sstate() in " ++ place))
  | .parameter name _ =>
    if symbols.isParameter name then none else some (.undeclared name place)
  | _ => none

/-- Refuse an expression that refers to something undeclared. -/
def checkReferences (symbols : SymbolTable) (place : String) (expression : Expression α) :
    Except (EquationError α) Unit :=
  match expression.nodes.findSome? (undeclared? symbols place) with
  | some error => .error error
  | none => .ok ()

/-- How messages refer to an equation. -/
def placeOf (name text : String) : String :=
  if name.isEmpty then "equation: " ++ text else "equation '" ++ name ++ "': " ++ text

/-- The expression that an equation text states. -/
def ofText [Scalar α] (symbols : SymbolTable) (name text : String) :
    Except (EquationError α) (Expression α) := do
  let place := placeOf name text
  let term ← (Source.Statement.residual text).mapError (.ofStatement text)
  let normal ← (term.normalize symbols.seriesNames).mapError fun
    | .misuse reason => EquationError.misuse reason place
    | .timeIndex index => .timeIndex index place
    | .overflow => .overflow
    | .zeroDivision => .zeroDivision
  ofTerm symbols place normal

end Expression

end Intertemporal
