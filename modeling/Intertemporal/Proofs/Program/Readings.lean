import Intertemporal.Proofs.Lists
import Intertemporal.Proofs.Program.Slots

/-!
# What programs read

The inputs of a compiled equation are the values of its series, followed by the levels of the steady
states that it refers to; the values of its parameters are bound apart from them. Lists of
references name nothing twice, so reading a place in these lists is reading what the name there
stands for, and the program has the value that its expression has by name (`run_eq_valueIn`).
-/

namespace Intertemporal

variable {α β : Type}

theorem foldl_appendNew_of_nodup [BEq β] [LawfulBEq β] (items : List β) {added : List β}
    (different : (items ++ added).Nodup) : added.foldl appendNew items = items ++ added := by
  induction added generalizing items with
  | nil => simp
  | cons item rest ih =>
      have fresh : item ∉ items := fun member =>
        (List.nodup_append.mp different).2.2 item member item List.mem_cons_self rfl
      have appended : appendNew items item = items ++ [item] := by simp [appendNew, fresh]
      rw [List.foldl_cons, appended, ih _ (by simpa using different)]
      simp

theorem distinct_of_nodup [BEq β] [LawfulBEq β] {items : List β} (different : items.Nodup) :
    distinct items = items :=
  foldl_appendNew_of_nodup [] different

/-- Valuations with the same values for everything that is listed. -/
structure Valuation.AgreesOn (references : References) (valuation other : Valuation α β) :
    Prop where
  series : ∀ reference ∈ references.series, valuation.series reference = other.series reference
  steadyState : ∀ name ∈ references.steadyStates,
    valuation.steadyState name = other.steadyState name
  parameter : ∀ name ∈ references.parameters, valuation.parameter name = other.parameter name

namespace Expression

variable [NumberSystem α β]

/-- The value of an expression depends on nothing but what it refers to. -/
theorem valueIn_congr {references : References} {expression : Expression α}
    {valuation other : Valuation α β} (covers : references.Covers expression)
    (agree : valuation.AgreesOn references other) :
    expression.valueIn valuation = expression.valueIn other := by
  induction expression using Expression.induction with
  | constant value => rfl
  | series reference =>
      exact congrArg Except.ok (agree.series reference (covers _ (mem_nodes_self _)))
  | steadyState name =>
      exact congrArg Except.ok (agree.steadyState name (covers _ (mem_nodes_self _)))
  | parameter name index =>
      have same : valuation.parameterOf name = other.parameterOf name := by
        simp only [Valuation.parameterOf, agree.parameter name (covers _ (mem_nodes_self _))]
      cases index <;> rw [valueIn, valueIn, same]
  | unary sign operand ih =>
      have inner := ih (covers.of_nodes (nodes_operand_subset sign operand))
      cases sign with
      | plus => exact inner
      | minus => rw [valueIn, valueIn, inner]
  | binary operation left right ihLeft ihRight =>
      have innerLeft := ihLeft (covers.of_nodes (nodes_left_subset operation left right))
      have innerRight := ihRight (covers.of_nodes (nodes_right_subset operation left right))
      rw [valueIn, valueIn, innerLeft, innerRight]
  | call function arguments ih =>
      have each : ∀ argument ∈ arguments, argument.valueIn valuation = argument.valueIn other :=
        fun argument member =>
          ih argument member (covers.of_nodes (nodes_argument_subset function member))
      rw [valueIn, valueIn, valuesIn_eq_mapM, valuesIn_eq_mapM, mapM_congr_of_mem each]

end Expression

namespace References

variable {references : References} {valuation : Valuation α β}
  {parameters : List (ParameterValue α)}

/-- The inputs of a compiled equation: the values of its series, then its steady-state levels. -/
def inputsOf (references : References) (valuation : Valuation α β) : List β :=
  references.series.map valuation.series ++ references.steadyStates.map valuation.steadyState

/-- The place of a series holds its value. -/
theorem getElem?_inputsOf_series {place : Nat} {reference : TimedVariable}
    (listed : references.series[place]? = some reference) :
    (references.inputsOf valuation)[place]? = some (valuation.series reference) := by
  obtain ⟨inRange, -⟩ := List.getElem?_eq_some_iff.mp listed
  rw [inputsOf, List.getElem?_append_left (by simpa using inRange), List.getElem?_map, listed,
    Option.map_some]

/-- The places after the series hold the levels. -/
theorem getElem?_inputsOf_steadyState {place : Nat} {name : String}
    (listed : references.steadyStates[place]? = some name) :
    (references.inputsOf valuation)[references.series.length + place]? =
      some (valuation.steadyState name) := by
  rw [inputsOf, List.getElem?_append_right (by simp), List.length_map, Nat.add_sub_cancel_left,
    List.getElem?_map, listed, Option.map_some]

/-- The slot of a parameter holds the value that is bound to its name. -/
theorem parameter_valuation {parameters : List (ParameterValue α)}
    (bound : List.Forall₂ (fun name value => valuation.parameter name = some value)
      references.parameters parameters) (inputs : List β) (other : β) {name : String}
    (listed : name ∈ references.parameters) :
    (references.valuation inputs other parameters).parameter name = valuation.parameter name := by
  obtain ⟨slot, found⟩ := exists_lastPosition? listed
  obtain ⟨value, here, given⟩ := exists_getElem?_of_forall₂ bound (getElem?_lastPosition? found)
  simp only [References.valuation, parameterSlot?, found, Option.bind_some, here, given]

/-- Reading by place is reading by name, in lists that name nothing twice. -/
theorem valuation_inputsOf_agreesOn (different : references.IsDistinct) (other : β)
    (bound : List.Forall₂ (fun name value => valuation.parameter name = some value)
      references.parameters parameters) :
    (references.valuation (references.inputsOf valuation) other parameters).AgreesOn references
      valuation where
  series reference member := by
    obtain ⟨slot, found⟩ := exists_lastPosition? member
    have here : (references.inputsOf valuation)[slot]? = some (valuation.series reference) :=
      getElem?_inputsOf_series (getElem?_lastPosition? found)
    simp only [References.valuation, seriesSlot?, found, Option.bind_some, here,
      Option.getD_some]
  steadyState name member := by
    obtain ⟨place, found⟩ := exists_lastPosition? member
    have here : (references.inputsOf valuation)[references.series.length + place]? =
        some (valuation.steadyState name) :=
      getElem?_inputsOf_steadyState (getElem?_lastPosition? found)
    simp only [References.valuation, steadyStateSlot?, found, Option.map_some,
      distinct_of_nodup different.series, Option.bind_some, here, Option.getD_some]
  parameter _ := parameter_valuation bound (references.inputsOf valuation) other

end References

/-- A compiled equation has the value of its expression, whatever its references stand for. -/
theorem Expression.run_eq_valueIn [NumberSystem α β] {expression : Expression α}
    {references : References} {program : Program α}
    (compiled : expression.compile references = .ok program) (covers : references.Covers expression)
    (different : references.IsDistinct) {valuation : Valuation α β}
    {parameters : List (ParameterValue α)}
    (bound : List.Forall₂ (fun name value => valuation.parameter name = some value)
      references.parameters parameters) (other : β) :
    program.run (references.inputsOf valuation) parameters = expression.valueIn valuation := by
  have enough : references.inputCount ≤ (references.inputsOf valuation).length := by
    simp [References.inputCount, References.inputsOf]
  rw [run_of_compile compiled enough other]
  exact valueIn_congr covers (References.valuation_inputsOf_agreesOn different other bound)

end Intertemporal
