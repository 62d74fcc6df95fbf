import Intertemporal.Proofs.Source.Calls
import Intertemporal.Proofs.Source.Differences
import Intertemporal.Proofs.Source.Ratios

/-!
# Expanded operators

Replacing the operator calls of a term, innermost first, keeps its meaning. The step is the
expansion of one call whose arguments are expanded already: it means what the operator does to the
meanings of the arguments. The run is an induction over the term, whose expanded parts have the
meanings of the parts. Regularity makes sure that what is read by its form is not changed by an
expansion.
-/

namespace Intertemporal

open Source (Term)
open Operator (Failure CountName)

namespace Reading

variable {reading : Reading}

/-! ### One call -/

theorem natural?_of_integer? (still : reading.IsStill) {given : Term ℝ} {value : Int}
    (read : given.integer? = some value) (positive : 0 ≤ value) :
    (reading.meaning given).natural? = some value.toNat := by
  rw [Meaning.natural?, integer?_meaning still, read, Option.bind_some, if_pos positive]

theorem window?_of_integer? (still : reading.IsStill) {given : Term ℝ} {value : Int}
    (read : given.integer? = some value) (positive : 1 ≤ value) :
    (reading.meaning given).window? = some value.toNat := by
  rw [Meaning.window?, integer?_meaning still, read, Option.bind_some, if_pos positive]

theorem orders?_of_readsOrders (still : reading.IsStill) {counts : List (Term ℝ)}
    {order span : Int} (read : Operator.ReadsOrders counts order span) (orderPositive : 0 ≤ order)
    (spanPositive : 0 ≤ span) :
    Meaning.orders? (counts.map reading.meaning) = some (order.toNat, span.toNat) := by
  cases read with
  | neither => rfl
  | order read =>
      simp only [List.map_singleton, Meaning.orders?,
        natural?_of_integer? still read orderPositive]
      rfl
  | both read readSpan =>
      simp only [List.map_cons, List.map_nil, Meaning.orders?,
        natural?_of_integer? still read orderPositive,
        natural?_of_integer? still readSpan spanPositive]
      rfl

/-- An expanded call means what the operator does. -/
theorem meaning_of_expand (still : reading.IsStill) {operator : Operator}
    {arguments : List (Term ℝ)} {result : Term ℝ} (done : operator.expand arguments = .ok result) :
    reading.meaning result =
      (reading.world.operated? reading.symbols (isOneUpTo ratioTolerance) operator
        (arguments.map reading.meaning)).getD .nothing := by
  cases Operator.expand_eq_ok.mp done with
  | lag lagged | lead lagged => exact meaning_of_lagged still lagged
  | lagBy read lagged | leadBy read lagged =>
      simp only [meaning_of_lagged still lagged, List.map_cons, List.map_nil, World.operated?,
        integer?_meaning still, read]
      rfl
  | difference read expanded =>
      obtain ⟨orderPositive, spanPositive, same⟩ := meaning_of_difference still expanded
      simp only [same, List.map_cons, World.operated?,
        orders?_of_readsOrders still read orderPositive spanPositive]
      rfl
  | logDifference read expanded =>
      obtain ⟨orderPositive, spanPositive, same⟩ := meaning_of_logDifference still expanded
      simp only [same, List.map_cons, World.operated?,
        orders?_of_readsOrders still read orderPositive spanPositive]
      rfl
  | movingSum read expanded =>
      obtain ⟨positive, same⟩ := meaning_of_movingSum still expanded
      simp only [same, List.map_cons, List.map_nil, World.operated?,
        window?_of_integer? still read positive]
      rfl
  | movingAverage read expanded =>
      obtain ⟨positive, same⟩ := meaning_of_movingAverage still expanded
      simp only [same, List.map_cons, List.map_nil, World.operated?,
        window?_of_integer? still read positive]
      rfl
  | weightedSum read expanded =>
      obtain ⟨positive, same⟩ := meaning_of_weightedSum still expanded
      simp only [same, List.map_cons, World.operated?, window?_of_integer? still read positive,
        Option.map_eq_bind]
      rfl
  | weightedAverage read expanded =>
      obtain ⟨positive, same⟩ := meaning_of_weightedAverage still expanded
      simp only [same, List.map_cons, World.operated?, window?_of_integer? still read positive,
        Option.map_eq_bind]
      rfl
  | exponentialSum read expanded =>
      obtain ⟨positive, same⟩ := meaning_of_exponentialSum still expanded
      simp only [same, List.map_cons, List.map_nil, World.operated?,
        window?_of_integer? still read positive]
      rfl
  | exponentialAverage read expanded =>
      obtain ⟨positive, same⟩ := meaning_of_exponentialAverage still expanded
      simp only [same, List.map_cons, List.map_nil, World.operated?,
        window?_of_integer? still read positive]
      rfl

/-! ### All calls -/

/-- The same reading once nothing is left to expand. -/
def withoutOperators (reading : Reading) : Reading :=
  { reading with operated := fun _ _ => .nothing }

/-- A reading in which operators mean what their expansions mean. -/
structure IsExpandable (reading : Reading) : Prop where
  still : reading.withoutOperators.IsStill
  operated : ∀ operator arguments, reading.operated operator arguments =
    (reading.world.operated? reading.symbols (isOneUpTo ratioTolerance) operator arguments).getD
      .nothing

theorem operator?_name (name : String) :
    (Term.name name : Term ℝ).operator? = Operator.ofName? name := rfl

theorem called_withoutOperators (reading : Reading) {function : Term ℝ}
    (notOperator : function.operator? = none) (passed : List (Term ℝ)) (arguments : List Meaning) :
    reading.withoutOperators.called function passed arguments =
      reading.called function passed arguments := by
  cases function with
  | name name =>
      rw [operator?_name] at notOperator
      simp only [called, notOperator]
      rcases Function.ofName? name with _ | function <;> rfl
  | _ => rfl

theorem called_steadyState (reading : Reading) {function : Term ℝ}
    (steadyState : function.isSteadyStateName = true) (passed : List (Term ℝ))
    (arguments : List Meaning) :
    reading.called function passed arguments = .ofPath (reading.steadyState? passed) := by
  cases function with
  | name name => exact if_pos steadyState
  | _ => cases steadyState

/-- Only `sstate` looks at its arguments themselves. -/
theorem called_of_not_steadyState (reading : Reading) {function : Term ℝ}
    (other : function.isSteadyStateName = false) (passed others : List (Term ℝ))
    (arguments : List Meaning) :
    reading.called function passed arguments = reading.called function others arguments := by
  cases function with
  | name name =>
      change (name == Term.steadyStateName) = false at other
      simp only [called, other]
      rfl
  | _ => rfl

theorem called_operator (reading : Reading) {function : Term ℝ} {operator : Operator}
    (found : function.operator? = some operator) (passed : List (Term ℝ))
    (arguments : List Meaning) :
    reading.called function passed arguments = reading.operated operator arguments := by
  have other := Term.isSteadyStateName_of_operator? found
  cases function with
  | name name =>
      rw [operator?_name] at found
      change (name == Term.steadyStateName) = false at other
      simp only [called, other, found]
      rfl
  | _ => cases found

/-- The step of the induction at a call. -/
theorem meaning_of_expandCall (expandable : reading.IsExpandable) {function result : Term ℝ}
    {passed expanded : List (Term ℝ)}
    (same : function.isSteadyStateName = true → expanded = passed)
    (meanings : function.isSteadyStateName = false →
      expanded.map reading.withoutOperators.meaning = passed.map reading.meaning)
    (done : Term.expandCall function expanded [] = .ok result) :
    reading.withoutOperators.meaning result = reading.meaning (.call function passed []) := by
  rw [meaning_call]
  rcases Term.expandCall_eq_ok.mp done with ⟨notOperator, rfl⟩ | ⟨operator, found, -, done⟩
  · rw [meaning_call, called_withoutOperators reading notOperator]
    rcases named : function.isSteadyStateName with _ | _
    · rw [meanings named, reading.called_of_not_steadyState named expanded passed]
    · rw [same named, reading.called_steadyState named, reading.called_steadyState named]
  · rw [meaning_of_expand expandable.still done, called_operator reading found,
      expandable.operated, meanings (Term.isSteadyStateName_of_operator? found)]
    rfl

/-- Expanding the operators of a regular term keeps its meaning. -/
theorem meaning_of_expandOperators (expandable : reading.IsExpandable) {term result : Term ℝ}
    (regular : term.isRegular = true) (done : term.expandOperators = .ok result) :
    reading.withoutOperators.meaning result = reading.meaning term := by
  induction term using Term.induction generalizing result with
  | literal value =>
      cases done
      rfl
  | name name =>
      cases done
      rfl
  | unary operator operand ih =>
      obtain ⟨expanded, found, ⟨⟩⟩ := bind_eq_ok.mp done
      rw [meaning, meaning, ih regular found]
  | binary operator left right ihLeft ihRight =>
      rw [Term.isRegular, Bool.and_eq_true] at regular
      obtain ⟨first, foundLeft, remaining⟩ := bind_eq_ok.mp done
      obtain ⟨second, foundRight, ⟨⟩⟩ := bind_eq_ok.mp remaining
      rw [meaning, meaning, ihLeft regular.1 foundLeft, ihRight regular.2 foundRight]
  | subscript value index _ _ =>
      simp only [Term.isRegular, Bool.and_eq_true, Bool.not_eq_true'] at regular
      have same := Term.expandOperators_of_not_callsOperator (.subscript value index)
        (by rw [Term.callsOperator, regular.1, regular.2]; rfl)
      rw [same] at done
      cases done
      cases value with
      | name name => rfl
      | _ =>
          rw [meaning_subscript_of_ne _ (by rintro name ⟨⟩),
            meaning_subscript_of_ne _ (by rintro name ⟨⟩)]
  | call function passed named _ ihPassed _ =>
      simp only [Term.isRegular, Bool.and_eq_true, Bool.not_eq_true', Term.allRegular_eq,
        Term.anyCallsOperator_eq] at regular
      obtain ⟨⟨freeFunction, -⟩, regularPassed⟩ := regular
      simp only [Term.expandOperators, Term.expandAll_eq, bind_eq_ok,
        Term.expandOperators_of_not_callsOperator function freeFunction] at done
      obtain ⟨_, ⟨⟩, expanded, foundPassed, keywords, foundNamed, done⟩ := done
      cases named with
      | nil =>
          cases mapM_eq_ok.mp foundNamed
          apply meaning_of_expandCall expandable _ _ done
          · intro steadyState
            rw [if_pos steadyState, Bool.not_eq_true', List.any_eq_false] at regularPassed
            have unchanged := Term.mapM_eq_self fun term member =>
              Term.expandOperators_of_not_callsOperator term
                (Bool.eq_false_iff.mpr (regularPassed term member))
            rw [unchanged] at foundPassed
            cases foundPassed
            rfl
          · intro other
            rw [if_neg (by rw [other]; exact Bool.false_ne_true), List.all_eq_true] at regularPassed
            exact map_eq_map_of_forall₂ (mapM_eq_ok.mp foundPassed) fun term member result found =>
              ihPassed term member (regularPassed term member) found
      | cons first rest =>
          have some : keywords ≠ [] := by
            rintro rfl
            cases mapM_eq_ok.mp foundNamed
          rcases Term.expandCall_eq_ok.mp done with ⟨-, rfl⟩ | ⟨_, -, none, -⟩
          · rw [meaning_call_of_ne _ _ _ some, meaning_call_of_ne _ _ _ (List.cons_ne_nil _ _)]
          · exact absurd none some
  | tuple items _ =>
      obtain ⟨expanded, -, ⟨⟩⟩ := bind_eq_ok.mp done
      rfl
  | compound shape parts _ =>
      obtain ⟨expanded, -, ⟨⟩⟩ := bind_eq_ok.mp done
      rfl

end Reading

end Intertemporal
