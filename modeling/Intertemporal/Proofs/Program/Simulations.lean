import Intertemporal.Proofs.Matching
import Intertemporal.Proofs.Program.Morphisms
import Intertemporal.Proofs.Program.Readings

/-!
# Relations between number systems

An expression can be evaluated in any number system. If every operation keeps a relation between two
systems, evaluating an expression keeps it too: the values in both systems are related if those of
everything that the expression refers to are (`Expression.valueIn_simulates`). A map that respects
the operations is the case of a function (`Expression.valueIn_map`). A relation is needed where one
system does not determine what happens in the other.
-/

namespace Intertemporal

variable {α β γ δ ε ζ : Type}

namespace AlikeResults

variable {alike : β → γ → Prop} {goal : δ → ζ → Prop}

theorem bind {left : Except ε β} {right : Except ε γ} {next : β → Except ε δ}
    {nextRight : γ → Except ε ζ} (results : AlikeResults alike left right)
    (rest : ∀ value other, alike value other → AlikeResults goal (next value) (nextRight other)) :
    AlikeResults goal (left >>= next) (right >>= nextRight) := by
  cases results with
  | failed reason => exact .failed reason
  | returned same => exact rest _ _ same

theorem mapM {ι : Type} {items : List ι} {step : ι → Except ε β} {stepRight : ι → Except ε γ}
    (each : ∀ item ∈ items, AlikeResults alike (step item) (stepRight item)) :
    AlikeResults (List.Forall₂ alike) (items.mapM step) (items.mapM stepRight) := by
  induction items with
  | nil => exact .returned .nil
  | cons item rest ih =>
      rw [List.mapM_cons, List.mapM_cons]
      refine (each item List.mem_cons_self).bind fun value other first => ?_
      refine (ih fun later member => each later (List.mem_cons_of_mem item member)).bind ?_
      exact fun values others remaining => .returned (.cons first remaining)

end AlikeResults

open NumberSystem (constant negate arithmetic elementary smaller larger) in
/-- A relation between number systems over the same constants that every operation keeps. -/
structure NumberSystem.IsSimulation [NumberSystem α β] [NumberSystem α γ]
    (relation : β → γ → Prop) : Prop where
  constant : ∀ value : α, relation (constant value) (constant value)
  negate : ∀ {operand other}, relation operand other → relation (negate operand) (negate other)
  arithmetic : ∀ operation {left right leftOther rightOther},
    relation left leftOther → relation right rightOther →
      relation (arithmetic operation left right) (arithmetic operation leftOther rightOther)
  elementary : ∀ function {argument other},
    relation argument other → relation (elementary function argument) (elementary function other)
  smaller : ∀ {left right leftOther rightOther},
    relation left leftOther → relation right rightOther →
      relation (smaller left right) (smaller leftOther rightOther)
  larger : ∀ {left right leftOther rightOther},
    relation left leftOther → relation right rightOther →
      relation (larger left right) (larger leftOther rightOther)

variable [NumberSystem α β] [NumberSystem α γ] {relation : β → γ → Prop}

/-- A function of related arguments has related values, or the wrong number of arguments. -/
theorem Function.apply_simulates (simulation : NumberSystem.IsSimulation relation)
    (function : Function) {arguments : List β} {others : List γ}
    (related : List.Forall₂ relation arguments others) :
    AlikeResults relation (function.apply arguments) (function.apply others) := by
  cases related with
  | nil => cases function <;> exact .failed _
  | cons first rest =>
      cases rest with
      | nil =>
          cases function with
          | pow | min | max => exact .failed _
          | _ => exact .returned (simulation.elementary _ first)
      | cons second others =>
          cases others with
          | nil =>
              cases function with
              | pow => exact .returned (simulation.arithmetic .power first second)
              | min => exact .returned (simulation.smaller first second)
              | max => exact .returned (simulation.larger first second)
              | _ => exact .failed _
          | cons => cases function <;> exact .failed _

/-- Valuations in which everything that is listed has related values, and parameters the same. -/
structure Valuation.Simulates (relation : β → γ → Prop) (references : References)
    (valuation : Valuation α β) (other : Valuation α γ) : Prop where
  series : ∀ reference ∈ references.series,
    relation (valuation.series reference) (other.series reference)
  steadyState : ∀ name ∈ references.steadyStates,
    relation (valuation.steadyState name) (other.steadyState name)
  parameter : valuation.parameter = other.parameter

/-- An expression over related values has related values, or fails alike. -/
theorem Expression.valueIn_simulates (simulation : NumberSystem.IsSimulation relation)
    {references : References} {expression : Expression α} (covers : references.Covers expression)
    {valuation : Valuation α β} {other : Valuation α γ}
    (simulates : valuation.Simulates relation references other) :
    AlikeResults relation (expression.valueIn valuation) (expression.valueIn other) := by
  induction expression using Expression.induction with
  | constant value => exact .returned (simulation.constant value)
  | series reference => exact .returned (simulates.series reference (covers _ (mem_nodes_self _)))
  | steadyState name => exact .returned (simulates.steadyState name (covers _ (mem_nodes_self _)))
  | parameter name index =>
      have same : valuation.parameterOf name = other.parameterOf name := by
        simp only [Valuation.parameterOf, simulates.parameter]
      cases index with
      | none | some index =>
          simp only [valueIn, same]
          refine (AlikeResults.of_eq rfl).bind fun value _ sameValue => ?_
          subst sameValue
          refine (AlikeResults.of_eq rfl).bind fun scalar _ sameScalar => ?_
          subst sameScalar
          exact .returned (simulation.constant scalar)
  | unary sign operand ih =>
      have inner := ih (covers.of_nodes (nodes_operand_subset sign operand))
      cases sign with
      | plus => exact inner
      | minus =>
          rw [valueIn, valueIn]
          exact inner.bind fun _ _ related => .returned (simulation.negate related)
  | binary operation left right ihLeft ihRight =>
      have innerLeft := ihLeft (covers.of_nodes (nodes_left_subset operation left right))
      have innerRight := ihRight (covers.of_nodes (nodes_right_subset operation left right))
      rw [valueIn, valueIn]
      refine innerLeft.bind fun _ _ relatedLeft => ?_
      refine innerRight.bind fun _ _ relatedRight => ?_
      exact .returned (simulation.arithmetic operation relatedLeft relatedRight)
  | call function arguments ih =>
      have each : ∀ argument ∈ arguments,
          AlikeResults relation (argument.valueIn valuation) (argument.valueIn other) :=
        fun argument member =>
          ih argument member (covers.of_nodes (nodes_argument_subset function member))
      rw [valueIn, valueIn, valuesIn_eq_mapM, valuesIn_eq_mapM]
      refine (AlikeResults.mapM each).bind fun _ _ related => ?_
      exact function.apply_simulates simulation related

section Maps

variable {change : β → γ}

/-- A map that respects the operations is a relation that they keep. -/
theorem NumberSystem.IsMorphism.isSimulation (morphism : NumberSystem.IsMorphism change) :
    NumberSystem.IsSimulation fun value other => change value = other where
  constant := morphism.constant
  negate := by
    rintro operand _ rfl
    exact morphism.negate operand
  arithmetic := by
    rintro operation left right _ _ rfl rfl
    exact morphism.arithmetic operation left right
  elementary := by
    rintro function argument _ rfl
    exact morphism.elementary function argument
  smaller := by
    rintro left right _ _ rfl rfl
    exact morphism.smaller left right
  larger := by
    rintro left right _ _ rfl rfl
    exact morphism.larger left right

/-- A valuation in another number system. -/
def Valuation.map (change : β → γ) (valuation : Valuation α β) : Valuation α γ where
  series reference := change (valuation.series reference)
  steadyState name := change (valuation.steadyState name)
  parameter := valuation.parameter

/-- Evaluating an expression commutes with a map between number systems. -/
theorem Expression.valueIn_map (morphism : NumberSystem.IsMorphism change)
    (valuation : Valuation α β) (expression : Expression α) :
    expression.valueIn (valuation.map change) = (expression.valueIn valuation).map change := by
  have simulates : valuation.Simulates (fun value other => change value = other)
      expression.references (valuation.map change) :=
    ⟨fun _ _ => rfl, fun _ _ => rfl, rfl⟩
  exact (valueIn_simulates morphism.isSimulation expression.covers_references simulates).eq_map

end Maps

end Intertemporal
