import Intertemporal.Proofs.Outcome

/-!
# Maps between number systems

A program can be run in any number system. A map that respects every operation turns a run in one
system into the run in the other, so a fact about a whole program comes from facts about single
operations (`Program.run_map`). No law of the scalars is needed for this.

Jets have two such maps for scalars of any kind. A scalar is a plain jet, and a jet may forget
partial derivatives: the rules of differentiation work entry by entry, so what they compute for one
input does not depend on which other inputs are in the same chunk.
-/

namespace Intertemporal

variable {α β γ : Type}

/-- A map between number systems over the same constants that respects every operation. -/
structure NumberSystem.IsMorphism [NumberSystem α β] [NumberSystem α γ] (change : β → γ) :
    Prop where
  constant : ∀ value, change (constant value) = constant value
  negate : ∀ operand, change (negate operand) = negate (change operand)
  arithmetic : ∀ operation left right,
    change (arithmetic operation left right) = arithmetic operation (change left) (change right)
  elementary : ∀ function argument,
    change (elementary function argument) = elementary function (change argument)
  smaller : ∀ left right, change (smaller left right) = smaller (change left) (change right)
  larger : ∀ left right, change (larger left right) = larger (change left) (change right)

open NumberSystem (IsMorphism)

section Runs

variable [NumberSystem α β] [NumberSystem α γ] {change : β → γ}

theorem Function.apply?_map (morphism : IsMorphism change) (function : Function)
    (arguments : List β) :
    function.apply? (arguments.map change) = ( function.apply? arguments).map change := by
  rcases arguments with _ | ⟨first, _ | ⟨second, _ | ⟨third, rest⟩⟩⟩
  · cases function <;> rfl
  · cases function with
    | pow | min | max => rfl
    | _ => exact congrArg some (morphism.elementary _ first).symm
  · cases function with
    | pow => exact congrArg some (morphism.arithmetic .power first second).symm
    | min => exact congrArg some (morphism.smaller first second).symm
    | max => exact congrArg some (morphism.larger first second).symm
    | _ => rfl
  · cases function <;> rfl

theorem Function.apply_map (morphism : IsMorphism change) (function : Function)
    (arguments : List β) :
    function.apply (arguments.map change) = (function.apply arguments).map change := by
  rw [apply, apply, apply?_map morphism]
  cases function.apply? arguments <;> rfl

namespace Program

theorem inputOf_map (inputs : List β) (slot : Nat) :
    inputOf (inputs.map change) slot = (inputOf inputs slot).map change := by
  rw [inputOf, inputOf, List.getElem?_map]
  cases inputs[slot]? <;> rfl

mutual

/-- Running a program commutes with a map between number systems. -/
theorem run_map (morphism : IsMorphism change) (inputs : List β)
    (parameters : List (ParameterValue α)) (program : Program α) :
    program.run (inputs.map change) parameters = (program.run inputs parameters).map change := by
  cases program with
  | constant value => exact congrArg Except.ok (morphism.constant value).symm
  | input slot => exact inputOf_map inputs slot
  | parameter slot => simp only [run, map_bind_result, map_ok_result, morphism.constant]
  | element slot index => simp only [run, map_bind_result, map_ok_result, morphism.constant]
  | negate operand =>
      simp only [run, run_map morphism inputs parameters operand, map_bind_result,
        bind_map_result, map_ok_result, morphism.negate]
  | arithmetic operation left right =>
      simp only [run, run_map morphism inputs parameters left,
        run_map morphism inputs parameters right, map_bind_result, bind_map_result, map_ok_result,
        morphism.arithmetic]
  | call function arguments =>
      simp only [run, runAll_map morphism inputs parameters arguments, map_bind_result,
        bind_map_result, function.apply_map morphism]

theorem runAll_map (morphism : IsMorphism change) (inputs : List β)
    (parameters : List (ParameterValue α)) (programs : List (Program α)) :
    runAll (inputs.map change) parameters programs =
      (runAll inputs parameters programs).map (List.map change) := by
  cases programs with
  | nil => rfl
  | cons program rest =>
      simp only [runAll, run_map morphism inputs parameters program,
        runAll_map morphism inputs parameters rest, map_bind_result, bind_map_result, map_ok_result,
        List.map_cons]

end

end Program

end Runs

variable {size chunk : Nat}

namespace Dual

/-- The partial derivatives at the given places. -/
def selected (places : Fin chunk → Fin size) (partials : Vector α size) : Vector α chunk :=
  .ofFn fun place => partials[places place]

/-- A dual that keeps the partial derivatives at the given places only. -/
def restrict (places : Fin chunk → Fin size) (operand : Dual α size) : Dual α chunk :=
  ⟨operand.value, selected places operand.partials⟩

variable (places : Fin chunk → Fin size)

theorem selected_map (change : α → α) (partials : Vector α size) :
    selected places (partials.map change) = (selected places partials).map change := by
  apply Vector.ext
  intro place inRange
  simp [selected]

theorem selected_zipWith (combine : α → α → α) (left right : Vector α size) :
    selected places (left.zipWith combine right) =
      (selected places left).zipWith combine (selected places right) := by
  apply Vector.ext
  intro place inRange
  simp [selected]

variable [Scalar α]

theorem restrict_negate (operand : Dual α size) :
    operand.negate.restrict places = (operand.restrict places).negate := by
  simp only [negate, restrict, negated, selected_map]

theorem restrict_arithmetic (operation : Arithmetic) (left right : Dual α size) :
    (arithmetic operation left right).restrict places =
      arithmetic operation (left.restrict places) (right.restrict places) := by
  cases operation with
  | add => simp only [arithmetic, add, restrict, added, selected_zipWith]
  | sub => simp only [arithmetic, sub, restrict, subtracted, selected_zipWith]
  | mul => simp only [arithmetic, mul, restrict, added, scaled, selected_zipWith, selected_map]
  | div => simp only [arithmetic, div, restrict, subtracted, scaled, selected_zipWith, selected_map]
  | power =>
      simp only [arithmetic, power, apply_ite (restrict places)]
      simp only [restrict, added, scaled, selected_zipWith, selected_map]
      rfl

theorem restrict_arithmeticPlain (operation : Arithmetic) (left : Dual α size) (right : α) :
    (arithmeticPlain operation left right).restrict places =
      arithmeticPlain operation (left.restrict places) right := by
  cases operation with
  | add => rfl
  | sub => rfl
  | mul => simp only [arithmeticPlain, mulPlain, restrict, scaled, selected_map]
  | div => simp only [arithmeticPlain, divPlain, restrict, selected_map]
  | power =>
      simp only [arithmeticPlain, powerPlain, apply_ite (restrict places)]
      simp only [restrict, scaled, selected_map]

theorem restrict_plainArithmetic (operation : Arithmetic) (left : α) (right : Dual α size) :
    (plainArithmetic operation left right).restrict places =
      plainArithmetic operation left (right.restrict places) := by
  cases operation with
  | add => rfl
  | sub => simp only [plainArithmetic, plainSub, restrict, negated, selected_map]
  | mul => simp only [plainArithmetic, mulPlain, restrict, scaled, selected_map]
  | div => simp only [plainArithmetic, plainDiv, restrict, scaled, negated, selected_map]
  | power =>
      simp only [plainArithmetic, plainPower, apply_ite (restrict places)]
      simp only [restrict, scaled, selected_map]

theorem restrict_elementary (function : Elementary) (argument : Dual α size) :
    (elementary function argument).restrict places =
      elementary function (argument.restrict places) := by
  simp only [elementary, restrict, scaled, selected_map]

end Dual

namespace Jet

/-- A jet that keeps the partial derivatives at the given places only. -/
def restrict (places : Fin chunk → Fin size) : Jet α size → Jet α chunk
  | .plain value => .plain value
  | .dual operand => .dual (operand.restrict places)

section Places

variable (places : Fin chunk → Fin size)

@[simp]
theorem value_restrict (jet : Jet α size) : (jet.restrict places).value = jet.value := by
  cases jet <;> rfl

variable [Scalar α]

@[simp]
theorem partials_restrict (jet : Jet α size) (place : Fin chunk) :
    (jet.restrict places).partials.get place = jet.partials.get (places place) := by
  cases jet with
  | plain value => simp [restrict, partials, Vector.get]
  | dual operand => exact Vector.getElem_ofFn place.isLt

theorem restrict_arithmetic (operation : Arithmetic) (left right : Jet α size) :
    (arithmetic operation left right).restrict places =
      arithmetic operation (left.restrict places) (right.restrict places) := by
  cases left with
  | plain leftValue =>
      cases right with
      | plain rightValue => rfl
      | dual rightDual =>
          exact congrArg dual (rightDual.restrict_plainArithmetic places operation leftValue)
  | dual leftDual =>
      cases right with
      | plain rightValue =>
          exact congrArg dual (leftDual.restrict_arithmeticPlain places operation rightValue)
      | dual rightDual =>
          exact congrArg dual (leftDual.restrict_arithmetic places operation rightDual)

theorem restrict_smaller (left right : Jet α size) :
    (smaller left right).restrict places =
      smaller (left.restrict places) (right.restrict places) := by
  simp only [smaller, value_restrict, apply_ite (restrict places)]

theorem restrict_larger (left right : Jet α size) :
    (larger left right).restrict places =
      larger (left.restrict places) (right.restrict places) := by
  simp only [larger, value_restrict, apply_ite (restrict places)]

/-- Forgetting partial derivatives respects every operation. -/
theorem isMorphism_restrict : IsMorphism (restrict places : Jet α size → Jet α chunk) where
  constant _ := rfl
  negate operand := by
    cases operand with
    | plain value => rfl
    | dual operand => exact congrArg dual (operand.restrict_negate places)
  arithmetic := restrict_arithmetic places
  elementary function argument := by
    cases argument with
    | plain value => rfl
    | dual operand => exact congrArg dual (operand.restrict_elementary places function)
  smaller := restrict_smaller places
  larger := restrict_larger places

end Places

/-- Taking a scalar for a plain jet respects every operation. -/
theorem isMorphism_plain [Scalar α] : IsMorphism (plain : α → Jet α size) where
  constant _ := rfl
  negate _ := rfl
  arithmetic _ _ _ := rfl
  elementary _ _ := rfl
  smaller left right := apply_ite plain _ left right
  larger left right := apply_ite plain _ left right

end Jet

end Intertemporal
