import Intertemporal.Proofs.Expression.Reading
import Intertemporal.Proofs.Expression.Refusals
import Intertemporal.Proofs.Source.Decimals
import Intertemporal.Proofs.Source.Operands
import Intertemporal.Proofs.Symbols

/-!
# Printed expressions

An expression is printed with parentheses around every operation and with an index on every series.
Reading the text back gives the expression: the text spells an operand, the passes over terms leave
its term as it is, and the names in it resolve to what they were printed from.

Constants are taken to be read back as they are printed. A finite double is printed as one number in
any case (`Expression.readsBack_of_finite`), so it need only be the number that is read.
-/

namespace Intertemporal

open Source (Term Token Literal Mark BinaryOperator SpellsExpression SpellsOperand)
open Source.Statement (spellPowers)

/-- A text that spells an operand states it. -/
theorem Source.SpellsOperand.residual {α : Type} [Scalar α] {text : String} {term : Term α}
    (spelled : SpellsOperand (spellPowers text.toList) term) :
    Source.Statement.residual text = .ok term := by
  rcases spelled.spelled with ⟨tokens, written, operand⟩
  have trimmed := Token.trim_eq_self spelled.trimmed
  have notEquals : '=' ∉ spellPowers text.toList := fun member =>
    absurd (written.plain _ member) (by decide)
  have notNull : (spellPowers text.toList).contains '\x00' = false := by
    rw [← Bool.not_eq_true, List.contains_iff_mem]
    exact fun member => absurd (written.plain _ member) (by decide)
  apply Source.Statement.residual_of_side
  rw [Source.Statement.sides, trimmed, Source.Statement.splitSides_eq_singleton notEquals]
  simp only [List.reverse_nil, List.nil_append, List.map_cons, List.map_nil, trimmed,
    Source.Statement.side, Term.ofText, notNull, written.ofText spelled.trimmed, Option.bind_some,
    operand.isExpression.ofTokens]
  rfl

namespace Expression

variable {α : Type} [Scalar α]

/-! ### Resolved terms -/

/-- A term that the passes over terms leave as it is, and whose names resolve to an expression. -/
structure Resolves (symbols : SymbolTable) (term : Term α) (expression : Expression α) : Prop where
  dated : term.atCurrentDate symbols.seriesNames = term
  free : term.callsOperator = false
  resolved : ∀ place, ofTerm symbols place term = .ok expression

/-- A literal that stands for a number. -/
inductive Denotes : Literal α → α → Prop
  | real {value : α} : Denotes (.real value) value
  | natural {count : Nat} {value : α} (inRange : Scalar.ofInt? count = some value) :
      Denotes (.natural count) value

variable {symbols : SymbolTable}

theorem Denotes.resolves {literal : Literal α} {value : α} (denotes : Denotes literal value) :
    Resolves symbols (.literal literal) (.constant value) where
  dated := rfl
  free := rfl
  resolved place := by
    rw [ofTerm_eq_ok]
    cases denotes with
    | real => exact .real value
    | natural inRange => exact .integer inRange

theorem Resolves.resolvesTo {term : Term α} {expression : Expression α}
    (resolves : Resolves symbols term expression) : term.ResolvesTo symbols expression :=
  ofTerm_eq_ok.mp (resolves.resolved "")

theorem Resolves.negated {term : Term α} {expression : Expression α}
    (resolves : Resolves symbols term expression) :
    Resolves symbols (.unary .minus term) (.unary .minus expression) where
  dated := by rw [Term.atCurrentDate, resolves.dated]
  free := by rw [Term.callsOperator, resolves.free]
  resolved place := ofTerm_eq_ok.mpr (.minus resolves.resolvesTo)

theorem Resolves.combined {left right : Term α} {first second : Expression α}
    {operator : BinaryOperator} {operation : Arithmetic}
    (means : operator.arithmetic? = some operation) (resolvesLeft : Resolves symbols left first)
    (resolvesRight : Resolves symbols right second) :
    Resolves symbols (.binary operator left right) (.binary operation first second) where
  dated := by rw [Term.atCurrentDate, resolvesLeft.dated, resolvesRight.dated]
  free := by rw [Term.callsOperator, resolvesLeft.free, resolvesRight.free, Bool.or_self]
  resolved place :=
    ofTerm_eq_ok.mpr (.binary means resolvesLeft.resolvesTo resolvesRight.resolvesTo)

theorem ofName?_name (function : Function) : Function.ofName? function.name = some function := by
  cases function <;> rfl

theorem resolves_call (function : Function) {terms : List (Term α)}
    {arguments : List (Expression α)} (resolves : List.Forall₂ (Resolves symbols) terms arguments) :
    Resolves symbols (.call (.name function.name) terms []) (.call function arguments) where
  dated := by
    have same : terms.map (Term.atCurrentDate symbols.seriesNames) = terms := by
      induction resolves with
      | nil => rfl
      | cons first _ ih => rw [List.map_cons, first.dated, ih]
    rw [Term.atCurrentDate, Term.isSteadyStateName,
      beq_steadyStateName_of_function (ofName?_name function), Term.allAtCurrentDate_eq, same]
    rfl
  free := by
    have free : terms.any Term.callsOperator = false := by
      induction resolves with
      | nil => rfl
      | cons first _ ih => rw [List.any_cons, first.free, ih, Bool.or_self]
    simp [Term.callsOperator, Term.operator?, ofName?_operator_of_function (ofName?_name function),
      free, Term.anyCallsOperator]
  resolved place :=
    ofTerm_eq_ok.mpr (.call (ofName?_name function) (resolves.imp fun _ _ found => found.resolvesTo))

end Expression

/-! ### Declared names -/

namespace SymbolTable

variable {symbols : SymbolTable} {name : String}

/-- A table whose names stand in equations for themselves: none is declared twice, none is a word of
the grammar, and none is the name of the current date. -/
structure IsPlain (symbols : SymbolTable) : Prop where
  distinct : symbols.IsDistinct
  plain : ∀ name ∈ symbols.names, Token.IsPlainName name
  timeless : Term.timeName ∉ symbols.names

theorem IsPlain.ne_timeName (plain : symbols.IsPlain) (declared : name ∈ symbols.names) :
    name ≠ Term.timeName := by
  rintro rfl
  exact plain.timeless declared

theorem IsPlain.isSeries_timeName (plain : symbols.IsPlain) :
    symbols.isSeries Term.timeName = false := by
  rw [← Bool.not_eq_true]
  exact fun found => plain.timeless (mem_names_of_isSeries found)

/-- No parameter is a series. -/
theorem IsDistinct.isSeries_eq_false (distinct : symbols.IsDistinct)
    (parameter : symbols.isParameter name = true) : symbols.isSeries name = false := by
  rw [← Bool.not_eq_true, isSeries, Bool.or_eq_true, List.contains_iff_mem, List.contains_iff_mem,
    ← List.mem_append]
  exact fun found => List.disjoint_of_nodup_append distinct found
    (List.contains_iff_mem.mp parameter)

end SymbolTable

namespace Expression

variable {α : Type} {symbols : SymbolTable} {name : String}

/-! ### Indices -/

/-- The term of an integer. -/
def integerTerm (value : Int) : Term α :=
  if 0 ≤ value then Term.natural value.toNat else .unary .minus (Term.natural (-value).toNat)

@[simp]
theorem integer?_integerTerm (value : Int) :
    (integerTerm value : Term α).integer? = some value := by
  unfold integerTerm
  split
  · simp [Term.natural, Term.integer?]
    omega
  · simp [Term.natural, Term.integer?]
    omega

theorem atCurrentDate_integerTerm (series : List String) (value : Int) :
    (integerTerm value : Term α).atCurrentDate series = integerTerm value := by
  unfold integerTerm
  split <;> rfl

theorem callsOperator_integerTerm (value : Int) :
    (integerTerm value : Term α).callsOperator = false := by
  unfold integerTerm
  split <;> rfl

/-- The written form of the index of a series. -/
def offsetText (offset : Int) : List Char :=
  if offset = 0 then ['t']
  else 't' :: (if 0 < offset then '+' else '-') :: Nat.toDigits 10 offset.natAbs

theorem toList_text (reference : TimedVariable) : reference.text.toList =
    reference.name.toList ++ '[' :: (offsetText reference.offset ++ [']']) := by
  unfold TimedVariable.text offsetText
  split
  · simp
  · split <;> simp [Nat.repr_eq_ofList_toDigits]

theorem isPlainName_timeName : Token.IsPlainName Term.timeName := by decide

theorem isPlainName_steadyStateName : Token.IsPlainName Term.steadyStateName := by decide

theorem isPlainName_name (function : Function) : Token.IsPlainName function.name := by
  cases function <;> decide

variable [Scalar α]

theorem spellsExpression_offset (offset : Int) :
    SpellsExpression (offsetText offset) (Term.ofOffset offset : Term α) := by
  have date : SpellsOperand Term.timeName.toList (Term.time : Term α) :=
    Source.spellsOperand_name isPlainName_timeName
  have signed {sign : Char} {mark : Mark} {operator : BinaryOperator} (count : Nat)
      (signs : Token.IsSign sign mark) (denotes : mark.binary? = some operator) :
      SpellsExpression (Term.timeName.toList ++ sign :: Nat.toDigits 10 count)
        (.binary operator (Term.time : Term α) (Term.natural count)) := by
    rcases (Source.spellsOperand_natural (α := α) count).spelled with ⟨tokens, written, operand⟩
    have ends : Token.endsWord (sign :: Nat.toDigits 10 count) = true := by cases signs <;> rfl
    exact ⟨_, (written.signed signs).named isPlainName_timeName ends,
      Term.IsOperand.combined denotes (Term.isOperand_name Term.timeName) operand⟩
  unfold offsetText Term.ofOffset
  split
  · exact date.spellsExpression
  · split
    · have size : offset.natAbs = offset.toNat := by omega
      rw [size]
      exact signed offset.toNat .plus rfl
    · have size : offset.natAbs = (-offset).toNat := by omega
      rw [size]
      exact signed (-offset).toNat .minus rfl

theorem spellsExpression_integer (value : Int) :
    SpellsExpression (toString value).toList (integerTerm value : Term α) := by
  have natural (count : Nat) : SpellsOperand count.repr.toList (Term.natural count : Term α) := by
    rw [Nat.repr_eq_ofList_toDigits, String.toList_ofList]
    exact Source.spellsOperand_natural count
  rw [Int.toString_eq_repr, Int.repr_eq_if, integerTerm]
  split
  · exact (natural value.toNat).spellsExpression
  · rw [String.toList_append]
    exact (natural (-value).toNat).negated

/-! ### References -/

theorem resolves_series (plain : symbols.IsPlain) {reference : TimedVariable}
    (series : symbols.isSeries reference.name = true) :
    Resolves symbols (.subscript (.name reference.name) (Term.ofOffset reference.offset) : Term α)
      (.series reference) where
  dated := by
    rw [Term.atCurrentDate, Term.atCurrentDate_ofOffset]
    rw [SymbolTable.contains_seriesNames, plain.isSeries_timeName]
  free := by
    rw [Term.callsOperator, Term.callsOperator_ofOffset]
    rfl
  resolved place := ofTerm_eq_ok.mpr (.dated series (Term.offset?_ofOffset reference.offset))

theorem resolves_element (plain : symbols.IsPlain) (parameter : symbols.isParameter name = true)
    (element : Int) :
    Resolves symbols (.subscript (.name name) (integerTerm element) : Term α)
      (.parameter name (some element)) where
  dated := by rw [Term.atCurrentDate, atCurrentDate_integerTerm]
  free := by
    rw [Term.callsOperator, callsOperator_integerTerm]
    rfl
  resolved place := ofTerm_eq_ok.mpr (.element (plain.distinct.isSeries_eq_false parameter)
    parameter (integer?_integerTerm element))

theorem resolves_parameter (plain : symbols.IsPlain) (parameter : symbols.isParameter name = true) :
    Resolves symbols (.name name : Term α) (.parameter name none) where
  dated := by
    rw [Term.atCurrentDate, SymbolTable.contains_seriesNames,
      plain.distinct.isSeries_eq_false parameter]
    rfl
  free := rfl
  resolved place := by
    have timeless := plain.ne_timeName (SymbolTable.mem_names_of_isParameter parameter)
    exact ofTerm_eq_ok.mpr (.parameter timeless parameter)

theorem resolves_steadyState (isVariable : symbols.isVariable name = true) :
    Resolves symbols (.call (.name Term.steadyStateName) [.name name] [] : Term α)
      (.steadyState name) where
  -- The argument names the variable itself, so it is not dated.
  dated := rfl
  free := by
    have notOperator : Operator.ofName? Term.steadyStateName = none := by decide
    simp [Term.callsOperator, Term.operator?, notOperator, Term.anyCallsOperator]
  resolved place := ofTerm_eq_ok.mpr (.steadyState isVariable)

end Expression

/-! ### Written forms -/

namespace Expression

variable {α : Type} [Numeral α]

/-- The written form of an expression as the reader sees it, with powers spelled in stars. -/
def written (expression : Expression α) : List Char := spellPowers expression.text.toList

theorem written_negated (operand : Expression α) :
    (Expression.unary .minus operand).written = '(' :: ('-' :: operand.written ++ [')']) := by
  simp only [written, text, Sign.symbol, String.toList_append, Source.Statement.spellPowers_append]
  rfl

/-- What is written between the operands of an operation. -/
def between (operation : Arithmetic) : List Char :=
  ' ' :: (spellPowers operation.symbol.toList ++ [' '])

theorem written_binary (operation : Arithmetic) (left right : Expression α) :
    (Expression.binary operation left right).written =
      '(' :: ((left.written ++ (between operation ++ right.written)) ++ [')']) := by
  simp only [written, text, between, String.toList_append, Source.Statement.spellPowers_append,
    List.append_assoc, List.cons_append]
  rfl

theorem texts_eq_map (expressions : List (Expression α)) :
    texts expressions = expressions.map text := by
  induction expressions with
  | nil => rfl
  | cons expression rest ih => rw [texts, ih, List.map_cons]

theorem spellPowers_intercalate (separator : List Char) (pieces : List (List Char)) :
    spellPowers (separator.intercalate pieces) =
      (spellPowers separator).intercalate (pieces.map spellPowers) := by
  induction pieces with
  | nil => rfl
  | cons first rest ih =>
      cases rest with
      | nil => simp
      | cons second later =>
          rw [List.intercalate_cons_cons, Source.Statement.spellPowers_append,
            Source.Statement.spellPowers_append, ih]
          exact List.intercalate_cons_cons.symm

theorem written_call (function : Function) (arguments : List (Expression α)) :
    (Expression.call function arguments).written =
      function.name.toList ++ '(' :: ([',', ' '].intercalate (arguments.map written) ++ [')']) := by
  have plain : spellPowers function.name.toList = function.name.toList := by
    cases function <;> decide
  simp only [written, text, texts_eq_map, String.toList_append, String.toList_intercalate,
    Source.Statement.spellPowers_append, spellPowers_intercalate, plain, List.map_map,
    List.append_assoc]
  rfl

variable [Scalar α]

/-- A value whose written form is a number without a sign that stands for the value. -/
structure ReadsBack (value : α) : Prop where
  unsigned : (Numeral.exact value).toList.head?.any Char.isDigit = true
  found : ∃ literal, Token.number (Numeral.exact value).toList = some (literal, []) ∧
    Denotes literal value

/-- A finite double without a sign is written as a number: if what the number is read as is the
double, it reads back. -/
theorem readsBack_of_finite {value : Float} {significand : Nat} {exponent : Int}
    (finite : Decimal.Binary64.ofFloat value = .finite false significand exponent)
    (same : ∀ read, Token.number (Numeral.exact value).toList = some (.real read, []) →
      read = value) : ReadsBack value := by
  have form : Token.IsDecimalText (Numeral.exact value).toList := by
    simp only [Numeral.exact, Decimal.shortestText, Decimal.writeWith, finite, String.toList_ofList]
    rw [if_neg Bool.false_ne_true]
    split
    · exact Token.isDecimalText_write Decimal.Digits.areDigits_zero
    · exact Token.isDecimalText_write (Decimal.Digits.areDigits_shortest significand exponent)
  rcases form.exists_number (α := Float) with ⟨read, found⟩
  refine ⟨form.head?_isDigit, .real read, found, ?_⟩
  rw [same read found]
  exact .real

variable {symbols : SymbolTable}

/-- The expressions over the symbols of a table whose constants read back. -/
inductive IsReadable (symbols : SymbolTable) : Expression α → Prop
  | constant {value : α} (readsBack : ReadsBack value) : IsReadable symbols (.constant value)
  | series {reference : TimedVariable} (declared : symbols.isSeries reference.name = true) :
      IsReadable symbols (.series reference)
  | steadyState {name : String} (declared : symbols.isVariable name = true) :
      IsReadable symbols (.steadyState name)
  | parameter {name : String} (index : Option Int) (declared : symbols.isParameter name = true) :
      IsReadable symbols (.parameter name index)
  | negated {operand : Expression α} (inside : IsReadable symbols operand) :
      IsReadable symbols (.unary .minus operand)
  | binary (operation : Arithmetic) {left right : Expression α} (first : IsReadable symbols left)
      (second : IsReadable symbols right) : IsReadable symbols (.binary operation left right)
  | call (function : Function) {arguments : List (Expression α)}
      (each : ∀ argument ∈ arguments, IsReadable symbols argument) :
      IsReadable symbols (.call function arguments)

theorem written_of_spells {expression : Expression α} {term : Term α}
    (spelled : SpellsOperand expression.text.toList term) :
    SpellsOperand expression.written term := by
  rcases spelled.spelled with ⟨tokens, printed, _⟩
  have plain : '^' ∉ expression.text.toList := fun member =>
    absurd (printed.plain _ member) (by decide)
  rw [written, Source.Statement.spellPowers_eq_self plain]
  exact spelled

theorem ReadsBack.exists_term {value : α} (readsBack : ReadsBack value) :
    ∃ term, SpellsOperand (Expression.constant value).written term ∧
      Resolves symbols term (.constant value) := by
  rcases readsBack.found with ⟨literal, read, denotes⟩
  have notText : ∀ quoted, literal ≠ .text quoted := by rintro _ rfl; cases denotes
  exact ⟨.literal literal,
    written_of_spells (Source.spellsOperand_number read readsBack.unsigned notText),
    denotes.resolves⟩

/-- What stands between two operands is the mark of the operation. -/
theorem exists_separates (operation : Arithmetic) : ∃ mark operator,
    Token.Separates (between operation) mark ∧ mark.binary? = some operator ∧
      operator.arithmetic? = some operation := by
  cases operation with
  | add => exact ⟨.plus, .add, .plus, rfl, rfl⟩
  | sub => exact ⟨.minus, .sub, .minus, rfl, rfl⟩
  | mul => exact ⟨.star, .mul, .star, rfl, rfl⟩
  | div => exact ⟨.slash, .div, .slash, rfl, rfl⟩
  | power => exact ⟨.doubleStar, .power, .doubleStar, rfl, rfl⟩

/-- Terms of the arguments of a call. -/
theorem exists_terms {arguments : List (Expression α)}
    (each : ∀ argument ∈ arguments, ∃ term, SpellsOperand argument.written term ∧
      Resolves symbols term argument) :
    ∃ terms, List.Forall₂ SpellsOperand (arguments.map written) terms ∧
      List.Forall₂ (Resolves symbols) terms arguments := by
  induction arguments with
  | nil => exact ⟨[], .nil, .nil⟩
  | cons argument rest ih =>
      rcases each argument List.mem_cons_self with ⟨term, spelled, resolves⟩
      rcases ih fun other member => each other (List.mem_cons_of_mem _ member) with
        ⟨terms, others, resolved⟩
      exact ⟨term :: terms, .cons spelled others, .cons resolves resolved⟩

/-- A written expression spells a term that resolves to it. -/
theorem IsReadable.exists_term (plain : symbols.IsPlain) {expression : Expression α}
    (readable : expression.IsReadable symbols) :
    ∃ term, SpellsOperand expression.written term ∧ Resolves symbols term expression := by
  induction readable with
  | constant readsBack => exact readsBack.exists_term
  | @series reference declared =>
      have plainName := plain.plain _ (SymbolTable.mem_names_of_isSeries declared)
      have spelled := (spellsExpression_offset (α := α) reference.offset).indexing plainName
      rw [← toList_text] at spelled
      exact ⟨_, written_of_spells spelled, resolves_series plain declared⟩
  | @steadyState name declared =>
      have plainName := plain.plain _ (SymbolTable.mem_names_of_isVariable declared)
      have spelled := Source.spellsOperand_call (α := α) isPlainName_steadyStateName
        (.cons (Source.spellsOperand_name plainName) .nil)
      have form : (Expression.steadyState name : Expression α).text.toList =
          Term.steadyStateName.toList ++
            '(' :: ([',', ' '].intercalate [name.toList] ++ [')']) := by
        simp [text, Term.steadyStateName]
      exact ⟨_, written_of_spells (form ▸ spelled), resolves_steadyState declared⟩
  | @parameter name index declared =>
      have plainName := plain.plain _ (SymbolTable.mem_names_of_isParameter declared)
      cases index with
      | none =>
          exact ⟨.name name, written_of_spells (Source.spellsOperand_name plainName),
            resolves_parameter plain declared⟩
      | some element =>
          have spelled := (spellsExpression_integer (α := α) element).indexing plainName
          have form : (Expression.parameter name (some element) : Expression α).text.toList =
              name.toList ++ '[' :: ((toString element).toList ++ [']']) := by
            simp [text]
          exact ⟨_, written_of_spells (form ▸ spelled), resolves_element plain declared element⟩
  | negated _ ih =>
      rcases ih with ⟨term, spelled, resolves⟩
      rw [written_negated]
      exact ⟨_, spelled.negated.grouped, resolves.negated⟩
  | binary operation _ _ ihLeft ihRight =>
      rcases ihLeft with ⟨left, spelledLeft, resolvesLeft⟩
      rcases ihRight with ⟨right, spelledRight, resolvesRight⟩
      rcases exists_separates operation with ⟨mark, operator, separates, denotes, means⟩
      rw [written_binary]
      exact ⟨_, (spelledLeft.combined spelledRight separates denotes).grouped,
        resolvesLeft.combined means resolvesRight⟩
  | call function _ ih =>
      rcases exists_terms ih with ⟨terms, spelled, resolves⟩
      rw [written_call]
      exact ⟨_, Source.spellsOperand_call (isPlainName_name function) spelled,
        resolves_call function resolves⟩

/-- The written form of an expression over the symbols of a table is read back as the expression. -/
theorem ofText_text (plain : symbols.IsPlain) {expression : Expression α}
    (readable : expression.IsReadable symbols) (name : String) :
    ofText symbols name expression.text = .ok expression := by
  rcases readable.exists_term plain with ⟨term, spelled, resolves⟩
  have normal : term.normalize symbols.seriesNames = .ok term := by
    rw [Term.normalize, resolves.dated]
    exact Term.expandOperators_of_not_callsOperator term resolves.free
  exact bind_eq_ok.mpr ⟨term, mapError_eq_ok.mpr spelled.residual,
    bind_eq_ok.mpr ⟨term, mapError_eq_ok.mpr normal, resolves.resolved _⟩⟩

/-- A table with symbols of every kind. -/
def ruleSymbols : SymbolTable where
  allVariables := [{ name := "y" }]
  shocks := [{ name := "e" }]
  parameters := [{ name := "rho" }, { name := "w" }]

/-- The expression `(y[t] - ((rho * y[t-1]) + max((-(w[-2] ^ 1)), sstate(y), e[t+3])))`. -/
noncomputable def ruleResidual : Expression ℝ :=
  .binary .sub (.series ⟨"y", 0⟩)
    (.binary .add (.binary .mul (.parameter "rho" none) (.series ⟨"y", -1⟩))
      (.call .max [.unary .minus (.binary .power (.parameter "w" (some (-2))) (.constant 1)),
        .steadyState "y", .series ⟨"e", 3⟩]))

theorem readsBack_one : ReadsBack (1 : ℝ) := by
  have form : Numeral.exact (1 : ℝ) = "1" := by
    simp only [Numeral.exact, Int.floor_one]
    rfl
  refine ⟨by rw [form]; rfl, .natural 1, ?_, .natural ?_⟩
  · rw [form]
    rfl
  · simp

theorem isPlain_ruleSymbols : ruleSymbols.IsPlain where
  distinct := by unfold SymbolTable.IsDistinct; decide
  plain := by decide
  timeless := by decide

theorem isReadable_ruleResidual : ruleResidual.IsReadable ruleSymbols := by
  refine .binary .sub (.series rfl) (.binary .add
    (.binary .mul (.parameter none rfl) (.series rfl)) (.call .max ?_))
  simp only [List.forall_mem_cons, List.not_mem_nil, IsEmpty.forall_iff, implies_true, and_true]
  exact ⟨.negated (.binary .power (.parameter _ rfl) (.constant readsBack_one)), .steadyState rfl,
    .series rfl⟩

theorem ofText_text_ruleResidual :
    ofText ruleSymbols "rule" ruleResidual.text = .ok ruleResidual :=
  ofText_text isPlain_ruleSymbols isReadable_ruleResidual "rule"

end Expression

end Intertemporal
