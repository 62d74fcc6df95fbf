import Intertemporal.Expression.Reading
import Intertemporal.Proofs.Source.Regular

/-!
# How terms resolve

`Expression.ofTerm` looks the names of a normal term up and refuses what equations may not contain.
`Term.ResolvesTo` has one rule for each way in which a term is accepted, and by
`Expression.ofTerm_eq_ok` these are all the ways there are. What is true of all accepted equations is
shown rule by rule.

No rule mentions the place of the equation. The place is quoted in refusals and has no other use.
-/

namespace Intertemporal

open Source (Term Literal)

namespace Source.Term

variable {α : Type} [Scalar α] {symbols : SymbolTable}

/-- What a normal term stands for, if its names are looked up in a symbol table. -/
inductive ResolvesTo (symbols : SymbolTable) : Term α → Expression α → Prop
  | integer {count : Nat} {value : α} (inRange : Scalar.ofInt? count = some value) :
      ResolvesTo symbols (.literal (.natural count)) (.constant value)
  | real (value : α) : ResolvesTo symbols (.literal (.real value)) (.constant value)
  | parameter {name : String} (timeless : name ≠ timeName)
      (declared : symbols.isParameter name = true) :
      ResolvesTo symbols (.name name) (.parameter name none)
  | series {name : String} (timeless : name ≠ timeName)
      (noParameter : symbols.isParameter name = false) (declared : symbols.isSeries name = true) :
      ResolvesTo symbols (.name name) (.series ⟨name, 0⟩)
  | dated {name : String} {index : Term α} {offset : Int}
      (declared : symbols.isSeries name = true) (read : index.offset? = some offset) :
      ResolvesTo symbols (.subscript (.name name) index) (.series ⟨name, offset⟩)
  | element {name : String} {index : Term α} {position : Int}
      (noSeries : symbols.isSeries name = false) (declared : symbols.isParameter name = true)
      (read : index.integer? = some position) :
      ResolvesTo symbols (.subscript (.name name) index) (.parameter name (some position))
  | steadyState {name : String} (declared : symbols.isVariable name = true) :
      ResolvesTo symbols (.call (.name steadyStateName) [.name name] []) (.steadyState name)
  | minus {operand : Term α} {expression : Expression α}
      (inner : ResolvesTo symbols operand expression) :
      ResolvesTo symbols (.unary .minus operand) (.unary .minus expression)
  | plus {operand : Term α} {expression : Expression α}
      (inner : ResolvesTo symbols operand expression) :
      ResolvesTo symbols (.unary .plus operand) expression
  | binary {operator : BinaryOperator} {operation : Arithmetic} {left right : Term α}
      {first second : Expression α} (known : operator.arithmetic? = some operation)
      (resolvesLeft : ResolvesTo symbols left first)
      (resolvesRight : ResolvesTo symbols right second) :
      ResolvesTo symbols (.binary operator left right) (.binary operation first second)
  | call {name : String} {function : Function} {passed : List (Term α)}
      {arguments : List (Expression α)} (known : Function.ofName? name = some function)
      (each : List.Forall₂ (ResolvesTo symbols) passed arguments) :
      ResolvesTo symbols (.call (.name name) passed []) (.call function arguments)

/-- Induction on the rules, with one hypothesis for each argument of a call. -/
@[elab_as_elim]
theorem ResolvesTo.induction
    {motive : ∀ (term : Term α) (expression : Expression α),
      ResolvesTo symbols term expression → Prop}
    (integer : ∀ {count : Nat} {value} (inRange : Scalar.ofInt? count = some value),
      motive _ _ (.integer inRange))
    (real : ∀ value, motive _ _ (.real value))
    (parameter : ∀ {name} (timeless : name ≠ timeName)
      (declared : symbols.isParameter name = true), motive _ _ (.parameter timeless declared))
    (series : ∀ {name} (timeless : name ≠ timeName)
      (noParameter : symbols.isParameter name = false) (declared : symbols.isSeries name = true),
      motive _ _ (.series timeless noParameter declared))
    (dated : ∀ {name} {index : Term α} {offset} (declared : symbols.isSeries name = true)
      (read : index.offset? = some offset), motive _ _ (.dated declared read))
    (element : ∀ {name} {index : Term α} {position} (noSeries : symbols.isSeries name = false)
      (declared : symbols.isParameter name = true) (read : index.integer? = some position),
      motive _ _ (.element noSeries declared read))
    (steadyState : ∀ {name} (declared : symbols.isVariable name = true),
      motive _ _ (.steadyState declared))
    (minus : ∀ {operand expression} (inner : ResolvesTo symbols operand expression),
      motive _ _ inner → motive _ _ (.minus inner))
    (plus : ∀ {operand expression} (inner : ResolvesTo symbols operand expression),
      motive _ _ inner → motive _ _ (.plus inner))
    (binary : ∀ {operator operation left right first second}
      (known : BinaryOperator.arithmetic? operator = some operation)
      (resolvesLeft : ResolvesTo symbols left first)
      (resolvesRight : ResolvesTo symbols right second), motive _ _ resolvesLeft →
      motive _ _ resolvesRight → motive _ _ (.binary known resolvesLeft resolvesRight))
    (call : ∀ {name function passed arguments} (known : Function.ofName? name = some function)
      (each : List.Forall₂ (ResolvesTo symbols) passed arguments),
      List.Forall₂ (fun term expression => ∃ resolves, motive term expression resolves)
        passed arguments → motive _ _ (.call known each))
    {term : Term α} {expression : Expression α} (resolves : ResolvesTo symbols term expression) :
    motive term expression resolves :=
  @ResolvesTo.rec α _ symbols motive
    (fun passed arguments _ =>
      List.Forall₂ (fun term expression => ∃ resolves, motive term expression resolves)
        passed arguments)
    integer real parameter series dated element steadyState minus plus binary call
    .nil (fun first _ here remaining => .cons ⟨first, here⟩ remaining) _ _ resolves

end Source.Term

namespace Expression

open Source.Term (ResolvesTo steadyStateName)

variable {α : Type} {symbols : SymbolTable} {place : String} {expression : Expression α}

/-- No function is called like a reference to the steady state. -/
theorem beq_steadyStateName_of_function {name : String} {function : Function}
    (found : Function.ofName? name = some function) : (name == steadyStateName) = false := by
  rw [beq_eq_false_iff_ne]
  rintro rfl
  cases found

/-- Behind a name stands the date of a series or the place of an element. -/
theorem ofSubscript_name (name : String) {index : Term α}
    (single : ∀ items, index ≠ .tuple items) :
    ofSubscript symbols place (.name name) index =
      if symbols.isSeries name then
        match index.offset? with
        | some offset => .ok (.series ⟨name, offset⟩)
        | none => .error (.timeIndex index place)
      else if symbols.isParameter name then
        match index.integer? with
        | some element => .ok (.parameter name (some element))
        | none => .error (.parameterIndex name place)
      else .error (.undeclared name place) := by
  cases index with
  | tuple items => exact absurd rfl (single items)
  | _ => rfl

variable [Scalar α]

theorem ofTerms_eq (symbols : SymbolTable) (place : String) (terms : List (Term α)) :
    ofTerms symbols place terms = terms.mapM (ofTerm symbols place) := by
  induction terms with
  | nil => rfl
  | cons term rest ih => simp only [ofTerms, ih, List.mapM_cons]; rfl

theorem resolvesTo_of_ofLiteral {value : Literal α}
    (read : ofLiteral place value = .ok expression) :
    ResolvesTo symbols (.literal value) expression := by
  unfold ofLiteral at read
  split at read
  · split at read
    · rename_i inRange
      cases read
      exact .integer inRange
    · cases read
  · cases read
    exact .real _
  · cases read

theorem resolvesTo_of_ofName {name : String} (read : ofName symbols place name = .ok expression) :
    ResolvesTo symbols (.name name) expression := by
  unfold ofName at read
  split_ifs at read with time parameter series
  · cases read
    exact .parameter (by simpa using time) parameter
  · cases read
    exact .series (by simpa using time) (by simpa using parameter) series

theorem resolvesTo_of_ofSubscript {value index : Term α}
    (read : ofSubscript symbols place value index = .ok expression) :
    ResolvesTo symbols (.subscript value index) expression := by
  unfold ofSubscript at read
  split at read
  · cases read
  · cases read
  · split_ifs at read with series parameter
    · split at read
      · rename_i found
        cases read
        exact .dated series found
      · cases read
    · split at read
      · rename_i found
        cases read
        exact .element (by simpa using series) parameter found
      · cases read
  · cases read

theorem resolvesTo_of_ofSteadyState {passed : List (Term α)}
    (read : ofSteadyState symbols place passed = .ok expression) :
    ResolvesTo symbols (.call (.name steadyStateName) passed []) expression := by
  unfold ofSteadyState at read
  split at read
  · split_ifs at read with known
    cases read
    exact .steadyState known
  · cases read

theorem resolvesTo_of_ofTerm {term : Term α} (read : ofTerm symbols place term = .ok expression) :
    ResolvesTo symbols term expression := by
  induction term using Term.induction generalizing expression with
  | literal value =>
      rw [ofTerm] at read
      exact resolvesTo_of_ofLiteral read
  | name name =>
      rw [ofTerm] at read
      exact resolvesTo_of_ofName read
  | unary operator operand ih =>
      cases operator with
      | minus =>
          obtain ⟨inner, found, ⟨⟩⟩ := bind_eq_ok.mp read
          exact .minus (ih found)
      | plus =>
          rw [ofTerm] at read
          exact .plus (ih read)
      | _ => cases read
  | binary operator left right ihLeft ihRight =>
      rw [ofTerm] at read
      split at read
      · rename_i operation known
        obtain ⟨first, foundLeft, remaining⟩ := bind_eq_ok.mp read
        obtain ⟨second, foundRight, ⟨⟩⟩ := bind_eq_ok.mp remaining
        exact .binary known (ihLeft foundLeft) (ihRight foundRight)
      · cases read
  | subscript value index _ _ =>
      rw [ofTerm] at read
      exact resolvesTo_of_ofSubscript read
  | call function passed named _ ihPassed _ =>
      cases function with
      | name name =>
          cases named with
          | nil =>
              rw [ofTerm] at read
              split at read
              · rename_i steadyState
                obtain rfl := eq_of_beq steadyState
                exact resolvesTo_of_ofSteadyState read
              · split at read
                · rename_i function known
                  rw [ofTerms_eq] at read
                  obtain ⟨arguments, collected, ⟨⟩⟩ := bind_eq_ok.mp read
                  have each := (List.forall₂_and_left _ _).mpr ⟨ihPassed, mapM_eq_ok.mp collected⟩
                  exact .call known (each.imp fun _ _ ⟨ih, found⟩ => ih found)
                · cases read
          | cons first rest => cases read
      | _ => cases read
  | tuple items _ => cases read
  | compound shape parts _ => cases read

/-- A term is accepted as an expression exactly if it resolves to it. -/
theorem ofTerm_eq_ok {term : Term α} :
    ofTerm symbols place term = .ok expression ↔ ResolvesTo symbols term expression := by
  refine ⟨resolvesTo_of_ofTerm, fun resolves => ?_⟩
  induction resolves using ResolvesTo.induction with
  | integer inRange => rw [ofTerm, ofLiteral, inRange]
  | real value => rfl
  | parameter timeless declared => simp [ofTerm, ofName, timeless, declared]
  | series timeless noParameter declared => simp [ofTerm, ofName, timeless, noParameter, declared]
  | dated declared read =>
      rw [ofTerm, ofSubscript_name _ (by rintro _ rfl; cases read), if_pos declared, read]
  | element noSeries declared read =>
      rw [ofTerm, ofSubscript_name _ (by rintro _ rfl; cases read), noSeries, if_pos declared, read]
      rfl
  | steadyState declared =>
      rw [ofTerm, if_pos (beq_self_eq_true _), ofSteadyState, if_pos declared]
  | minus inner ih => exact bind_eq_ok.mpr ⟨_, ih, rfl⟩
  | plus inner ih => exact ih
  | binary known first second ihLeft ihRight =>
      rw [ofTerm, known]
      exact bind_eq_ok.mpr ⟨_, ihLeft, bind_eq_ok.mpr ⟨_, ihRight, rfl⟩⟩
  | @call _ _ passed arguments known _ ih =>
      have collected : ofTerms symbols place passed = .ok arguments := by
        rw [ofTerms_eq, mapM_eq_ok]
        exact ih.imp fun _ _ here => here.snd
      rw [ofTerm, beq_steadyStateName_of_function known, known]
      exact bind_eq_ok.mpr ⟨arguments, collected, rfl⟩

end Expression

end Intertemporal
