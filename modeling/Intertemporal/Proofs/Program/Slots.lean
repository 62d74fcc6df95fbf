import Intertemporal.Program.Denotation
import Intertemporal.Proofs.Expression.References
import Intertemporal.Proofs.Outcome

/-!
# Slots of compiled expressions

A compiled program reads its inputs and parameters by position. `References.valuation` turns
positions back into names: it gives every listed reference the value in its slot. A program then has
the value of the expression that it was compiled from, in every number system (`run_of_compile`).
Lists that cover an expression are all that compiling it takes (`exists_compile`).
-/

namespace Intertemporal

variable {α β : Type}

namespace Expression

variable [NumberSystem α β]

theorem valuesIn_eq_mapM (valuation : Valuation α β) (arguments : List (Expression α)) :
    valuesIn valuation arguments = arguments.mapM (valueIn valuation) := by
  induction arguments with
  | nil => rfl
  | cons argument rest ih => rw [valuesIn, ih, List.mapM_cons]; rfl

theorem compileAll_eq_mapM (references : References) (arguments : List (Expression α)) :
    compileAll references arguments = arguments.mapM (compile references) := by
  induction arguments with
  | nil => rfl
  | cons argument rest ih => rw [compileAll, ih, List.mapM_cons]; rfl

end Expression

theorem Function.apply_eq_ok [NumberSystem α β] {function : Function} {arguments : List β}
    {value : β} :
    function.apply arguments = .ok value ↔ function.apply? arguments = some value := by
  unfold apply
  cases function.apply? arguments <;> simp

theorem Program.runAll_eq_mapM [NumberSystem α β] (inputs : List β)
    (parameters : List (ParameterValue α)) (arguments : List (Program α)) :
    runAll inputs parameters arguments = arguments.mapM (run inputs parameters) := by
  induction arguments with
  | nil => rfl
  | cons argument rest ih => rw [runAll, ih, List.mapM_cons]; rfl

theorem getElem?_lastPosition? [BEq β] [LawfulBEq β] {item : β} {items : List β} {position : Nat}
    (found : lastPosition? item items = some position) : items[position]? = some item := by
  induction items generalizing position with
  | nil => cases found
  | cons first rest ih =>
      rw [lastPosition?] at found
      rcases later : lastPosition? item rest with _ | place
      · rw [later] at found
        simp only [beq_iff_eq, Option.ite_none_right_eq_some, Option.some.injEq] at found
        obtain ⟨rfl, rfl⟩ := found
        rfl
      · rw [later] at found
        obtain rfl := Option.some.inj found
        exact ih later

/-- The last occurrence of an item is a place in the list. -/
theorem lastPosition?_lt [BEq β] [LawfulBEq β] {item : β} {items : List β} {position : Nat}
    (found : lastPosition? item items = some position) : position < items.length :=
  (List.getElem?_eq_some_iff.mp (getElem?_lastPosition? found)).1

theorem exists_lastPosition? [BEq β] [LawfulBEq β] {item : β} {items : List β}
    (member : item ∈ items) : ∃ position, lastPosition? item items = some position := by
  induction items with
  | nil => cases member
  | cons first rest ih =>
      rw [lastPosition?]
      rcases later : lastPosition? item rest with _ | place
      · rcases List.mem_cons.mp member with rfl | inRest
        · exact ⟨0, by simp⟩
        · obtain ⟨position, found⟩ := ih inRest
          cases later.symm.trans found
      · exact ⟨place + 1, rfl⟩

theorem length_appendNew_le [BEq β] (items : List β) (item : β) :
    (appendNew items item).length ≤ items.length + 1 := by
  unfold appendNew
  split <;> simp

theorem length_foldl_appendNew_le [BEq β] (items added : List β) :
    (added.foldl appendNew items).length ≤ items.length + added.length := by
  induction added generalizing items with
  | nil => simp
  | cons item rest ih =>
      have := ih (appendNew items item)
      have := length_appendNew_le items item
      simp only [List.foldl_cons, List.length_cons]
      omega

namespace References

/-- A slot of a series is one of the inputs. -/
theorem seriesSlot?_lt {references : References} {reference : TimedVariable} {slot : Nat}
    (found : references.seriesSlot? reference = some slot) : slot < references.inputCount := by
  have := lastPosition?_lt found
  simp only [inputCount]
  omega

/-- A slot of a steady-state level is one of the inputs. -/
theorem steadyStateSlot?_lt {references : References} {name : String} {slot : Nat}
    (found : references.steadyStateSlot? name = some slot) : slot < references.inputCount := by
  obtain ⟨place, inPlace, rfl⟩ := Option.map_eq_some_iff.mp found
  have := lastPosition?_lt inPlace
  have := length_foldl_appendNew_le [] references.series
  simp only [inputCount, distinct] at *
  simp only [List.length_nil] at *
  omega

/-- The values of references in a list of inputs and a list of parameters. What is not listed has
the value `other`. -/
def valuation (references : References) (inputs : List β) (other : β)
    (parameters : List (ParameterValue α)) : Valuation α β where
  series reference :=
    ((references.seriesSlot? reference).bind (inputs[·]?)).getD other
  steadyState name := ((references.steadyStateSlot? name).bind (inputs[·]?)).getD other
  parameter name := (references.parameterSlot? name).bind (parameters[·]?)

end References

namespace Expression

/-- Only a listed reference has a slot to read. -/
theorem slotOf_eq_ok {slot : Option Nat} {program : Nat → Program α} {compiled : Program α} :
    slotOf slot program = .ok compiled ↔ ∃ position, slot = some position ∧
      program position = compiled := by
  cases slot <;> simp [slotOf]

/-- The parameter in a slot is the parameter of the name. -/
theorem parameterOf_valuation (references : References) (inputs : List β) (other : β)
    (parameters : List (ParameterValue α)) {name : String} {slot : Nat}
    (found : references.parameterSlot? name = some slot) :
    (references.valuation inputs other parameters).parameterOf name =
      Program.parameterOf parameters slot := by
  cases given : parameters[slot]? <;>
    simp only [Valuation.parameterOf, References.valuation, found, Option.bind_some,
      Program.parameterOf, given]

variable [NumberSystem α β]

theorem inputOf_of_lt {inputs : List β} {slot : Nat} (inRange : slot < inputs.length) :
    Program.inputOf inputs slot = .ok inputs[slot] := by
  simp [Program.inputOf, inRange]

/-- A program has the value of the expression that it was compiled from. -/
theorem run_of_compile {expression : Expression α} {references : References}
    {program : Program α} (compiled : expression.compile references = .ok program)
    {inputs : List β} (enough : references.inputCount ≤ inputs.length) (other : β)
    (parameters : List (ParameterValue α)) :
    program.run inputs parameters =
      expression.valueIn (references.valuation inputs other parameters) := by
  induction expression using Expression.induction generalizing program with
  | constant value =>
      cases compiled
      rfl
  | series reference =>
      obtain ⟨slot, found, rfl⟩ := slotOf_eq_ok.mp compiled
      have inRange := Nat.lt_of_lt_of_le (References.seriesSlot?_lt found) enough
      simp [Program.run, valueIn, inputOf_of_lt inRange, References.valuation, found, inRange]
  | steadyState name =>
      obtain ⟨slot, found, rfl⟩ := slotOf_eq_ok.mp compiled
      have inRange := Nat.lt_of_lt_of_le (References.steadyStateSlot?_lt found) enough
      simp [Program.run, valueIn, inputOf_of_lt inRange, References.valuation, found, inRange]
  | parameter name index =>
      cases index with
      | none =>
          obtain ⟨slot, found, rfl⟩ := slotOf_eq_ok.mp compiled
          rw [Program.run, valueIn, parameterOf_valuation references inputs other parameters found]
      | some index =>
          obtain ⟨slot, found, rfl⟩ := slotOf_eq_ok.mp compiled
          rw [Program.run, valueIn, parameterOf_valuation references inputs other parameters found]
  | unary sign operand ih =>
      cases sign with
      | plus => exact ih compiled
      | minus =>
          simp only [compile, bind_eq_ok, Except.ok.injEq] at compiled
          obtain ⟨operand', inner, rfl⟩ := compiled
          rw [Program.run, valueIn, ih inner]
  | binary operation left right ihLeft ihRight =>
      simp only [compile, bind_eq_ok, Except.ok.injEq] at compiled
      obtain ⟨left', first, right', second, rfl⟩ := compiled
      rw [Program.run, valueIn, ihLeft first, ihRight second]
  | call function arguments ih =>
      simp only [compile, compileAll_eq_mapM, bind_eq_ok, Except.ok.injEq] at compiled
      obtain ⟨programs, all, rfl⟩ := compiled
      have same : programs.mapM (Program.run inputs parameters) =
          arguments.mapM (valueIn (references.valuation inputs other parameters)) := by
        have each := mapM_eq_ok.mp all
        clear all
        induction each with
        | nil => rfl
        | cons head _ ihRest =>
            rw [List.mapM_cons, List.mapM_cons, ih _ List.mem_cons_self head,
              ihRest fun argument member => ih argument (List.mem_cons_of_mem _ member)]
      rw [Program.run, valueIn, Program.runAll_eq_mapM, valuesIn_eq_mapM, same]

/-- An expression can be compiled over every list of references that covers it. -/
theorem exists_compile {expression : Expression α} {references : References}
    (covers : references.Covers expression) :
    ∃ program, expression.compile references = .ok program := by
  induction expression using Expression.induction with
  | constant value => exact ⟨_, rfl⟩
  | series reference =>
      obtain ⟨slot, found⟩ := exists_lastPosition? (covers _ (mem_nodes_self _))
      exact ⟨_, slotOf_eq_ok.mpr ⟨slot, found, rfl⟩⟩
  | steadyState name =>
      obtain ⟨place, found⟩ := exists_lastPosition? (covers _ (mem_nodes_self _))
      exact ⟨_, slotOf_eq_ok.mpr ⟨_, Option.map_eq_some_iff.mpr ⟨place, found, rfl⟩, rfl⟩⟩
  | parameter name index =>
      obtain ⟨slot, found⟩ := exists_lastPosition? (covers _ (mem_nodes_self _))
      cases index with
      | none => exact ⟨_, slotOf_eq_ok.mpr ⟨slot, found, rfl⟩⟩
      | some index => exact ⟨_, slotOf_eq_ok.mpr ⟨slot, found, rfl⟩⟩
  | unary sign operand ih =>
      obtain ⟨program, compiled⟩ := ih (covers.of_nodes (nodes_operand_subset sign operand))
      cases sign with
      | plus => exact ⟨program, compiled⟩
      | minus => exact ⟨_, bind_eq_ok.mpr ⟨program, compiled, rfl⟩⟩
  | binary operation left right ihLeft ihRight =>
      obtain ⟨first, compiledLeft⟩ :=
        ihLeft (covers.of_nodes (nodes_left_subset operation left right))
      obtain ⟨second, compiledRight⟩ :=
        ihRight (covers.of_nodes (nodes_right_subset operation left right))
      exact ⟨_, bind_eq_ok.mpr
        ⟨first, compiledLeft, bind_eq_ok.mpr ⟨second, compiledRight, rfl⟩⟩⟩
  | call function arguments ih =>
      have each : ∀ argument ∈ arguments, ∃ program, argument.compile references = .ok program :=
        fun argument member =>
          ih argument member (covers.of_nodes (nodes_argument_subset function member))
      obtain ⟨programs, all⟩ := exists_mapM_eq_ok each
      exact ⟨_, bind_eq_ok.mpr ⟨programs, (compileAll_eq_mapM _ _).trans all, rfl⟩⟩

end Expression

end Intertemporal
