/-!
# Symbols

Three kinds of names can stand in an equation of a model: variables and shocks, which are series
over time, and parameters, which are constant. A name belongs to at most one kind, and each kind
keeps the order of declaration, because evaluation points have a column for every variable and then
for every shock.
-/

namespace Intertemporal

/-- A series that the model determines, or that is given as data if it is exogenous. -/
structure Variable where
  name : String
  description : String := ""
  exogenous : Bool := false
deriving DecidableEq, Repr

/-- An exogenous disturbance. -/
structure Shock where
  name : String
  description : String := ""
deriving DecidableEq, Repr

/-- A constant of the model, a number or a vector. -/
structure Parameter where
  name : String
  description : String := ""
deriving DecidableEq, Repr

/-- The kinds of symbols. -/
inductive SymbolKind
  | modelVariable
  | shock
  | parameter
deriving DecidableEq, Repr

/-- The name of a kind in messages. -/
def SymbolKind.text : SymbolKind → String
  | .modelVariable => "variable"
  | .shock => "shock"
  | .parameter => "parameter"

/-- A name that cannot be declared, because it is declared already. -/
structure DuplicateSymbol where
  name : String
  existing : SymbolKind
  refused : SymbolKind
deriving DecidableEq, Repr

/-- The wording of a refusal. -/
def DuplicateSymbol.message (duplicate : DuplicateSymbol) : String :=
  "Cannot declare " ++ duplicate.refused.text ++ " '" ++ duplicate.name ++
    "': already declared as " ++ duplicate.existing.text

/-- The value of a series at a number of periods from the current date. -/
structure TimedVariable where
  name : String
  offset : Int := 0
deriving DecidableEq, Repr

/-- A timed variable in brackets: `x[t]`, `x[t-1]` or `x[t+1]`. -/
def TimedVariable.text (reference : TimedVariable) : String :=
  if reference.offset = 0 then reference.name ++ "[t]"
  else
    let sign := if 0 < reference.offset then "+" else "-"
    reference.name ++ "[t" ++ sign ++ toString reference.offset.natAbs ++ "]"

/-- The declared symbols of a model, in the order of declaration. -/
structure SymbolTable where
  allVariables : List Variable := []
  shocks : List Shock := []
  parameters : List Parameter := []
deriving DecidableEq, Repr

namespace SymbolTable

/-- The names of the variables. -/
def variableNames (symbols : SymbolTable) : List String := symbols.allVariables.map (·.name)

/-- The names of the shocks. -/
def shockNames (symbols : SymbolTable) : List String := symbols.shocks.map (·.name)

/-- The names of the parameters. -/
def parameterNames (symbols : SymbolTable) : List String := symbols.parameters.map (·.name)

/-- The names of all series: the columns of an evaluation point. -/
def seriesNames (symbols : SymbolTable) : List String :=
  symbols.variableNames ++ symbols.shockNames

/-- All series, with the mark of those that are given from outside. Shocks always are. -/
def series (symbols : SymbolTable) : List (String × Bool) :=
  symbols.allVariables.map (fun found => (found.name, found.exogenous)) ++
    symbols.shocks.map fun found => (found.name, true)

/-- The number of declared symbols. -/
def size (symbols : SymbolTable) : Nat :=
  symbols.allVariables.length + symbols.shocks.length + symbols.parameters.length

/-- Whether a name is that of a variable. -/
def isVariable (symbols : SymbolTable) (name : String) : Bool :=
  symbols.variableNames.contains name

/-- Whether a name is that of a series. -/
def isSeries (symbols : SymbolTable) (name : String) : Bool :=
  symbols.variableNames.contains name || symbols.shockNames.contains name

/-- Whether a name is that of a parameter. -/
def isParameter (symbols : SymbolTable) (name : String) : Bool :=
  symbols.parameterNames.contains name

/-- The kind of a name, if it is declared. -/
def kind? (symbols : SymbolTable) (name : String) : Option SymbolKind :=
  if symbols.variableNames.contains name then some .modelVariable
  else if symbols.shockNames.contains name then some .shock
  else if symbols.parameterNames.contains name then some .parameter
  else none

/-- Refuse a name that is declared already. -/
def checkNew (symbols : SymbolTable) (name : String) (kind : SymbolKind) :
    Except DuplicateSymbol Unit :=
  match symbols.kind? name with
  | some existing => .error ⟨name, existing, kind⟩
  | none => .ok ()

/-- Declare a variable. -/
def addVariable (symbols : SymbolTable) (added : Variable) :
    Except DuplicateSymbol SymbolTable := do
  symbols.checkNew added.name .modelVariable
  .ok { symbols with allVariables := symbols.allVariables ++ [added] }

/-- Declare a shock. -/
def addShock (symbols : SymbolTable) (added : Shock) : Except DuplicateSymbol SymbolTable := do
  symbols.checkNew added.name .shock
  .ok { symbols with shocks := symbols.shocks ++ [added] }

/-- Declare a parameter. -/
def addParameter (symbols : SymbolTable) (added : Parameter) :
    Except DuplicateSymbol SymbolTable := do
  symbols.checkNew added.name .parameter
  .ok { symbols with parameters := symbols.parameters ++ [added] }

end SymbolTable

end Intertemporal
