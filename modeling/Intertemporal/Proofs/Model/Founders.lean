import Intertemporal.Equation
import Intertemporal.Proofs.Program.Evaluators
import Intertemporal.Proofs.Program.Soundness

/-!
# Founders of evaluators

Every evaluator in a registry was compiled for an equation, its founder; equations that came later
share it if their keys agree. Equations are never taken out of a model, so the founder of an
evaluator is found among the equations that share it, and the evaluator computes the residual of
the founder. One call of the registry keeps the two together (`Backs.of_compile`).
-/

namespace Intertemporal

variable {α : Type}

/-- What identifies the evaluator of an equation. -/
def Equation.key (equation : Equation α) : EvaluatorKey α :=
  ⟨equation.expression, equation.references⟩

/-- Equations among which every evaluator has its founder. -/
def IsFounded (equations : List (Equation α)) : Prop :=
  ∀ equation ∈ equations, ∃ founder ∈ equations,
    founder.evaluator = equation.evaluator ∧ founder.references = equation.references ∧
      founder.key.IsCompiled equation.evaluator

/-- Equations that share an evaluator only if they have the same expression. -/
def ShareAlike (equations : List (Equation α)) : Prop :=
  ∀ first ∈ equations, ∀ second ∈ equations, first.evaluator.id = second.evaluator.id →
    first.expression = second.expression

/-- An equation that shares the evaluator of its founder might have been the founder itself. -/
theorem IsFounded.isCompiled {equations : List (Equation α)} (founded : IsFounded equations)
    (alike : ShareAlike equations) {equation : Equation α} (member : equation ∈ equations) :
    equation.key.IsCompiled equation.evaluator := by
  obtain ⟨founder, among, sameEvaluator, sameReferences, compiled⟩ := founded equation member
  have sameExpression := alike founder among equation member (congrArg (·.id) sameEvaluator)
  have sameKey : founder.key = equation.key := by
    rw [Equation.key, Equation.key, sameExpression, sameReferences]
  exact sameKey ▸ compiled

namespace Registry

/-- A registry that holds the evaluators of the given equations, each under the key of its
founder, and no others. -/
structure Backs (registry : Registry α) (equations : List (Equation α)) : Prop where
  sound : registry.IsSound
  founded : ∀ entry ∈ registry.entries, ∃ founder ∈ equations,
    founder.evaluator = entry.evaluator ∧ founder.key = entry.key
  listed : ∀ equation ∈ equations, ∃ entry ∈ registry.entries,
    entry.evaluator = equation.evaluator ∧ entry.key.references = equation.references

variable {registry later : Registry α} {equations : List (Equation α)}

theorem backs_nil (empty : registry.entries = []) : registry.Backs [] := by
  refine ⟨?_, ?_, ?_⟩
  · intro entry member
    simp [empty] at member
  · intro entry member
    simp [empty] at member
  · intro equation member
    cases member

theorem Backs.isFounded (backs : registry.Backs equations) : IsFounded equations := by
  intro equation member
  obtain ⟨entry, among, sameEvaluator, sameReferences⟩ := backs.listed equation member
  obtain ⟨founder, amongEquations, founded, sameKey⟩ := backs.founded entry among
  refine ⟨founder, amongEquations, founded.trans sameEvaluator, ?_, ?_⟩
  · rw [← sameReferences, ← sameKey]
    rfl
  · rw [sameKey, ← sameEvaluator]
    exact backs.sound entry among

variable [Scalar α]

/-- An equation that is compiled in a registry joins those that the registry backs. -/
theorem Backs.of_compile (backs : registry.Backs equations) {equation : Equation α} {name : String}
    {before after : Memory α}
    (returned : outcome (registry.compile name equation.key) before =
      (.ok (equation.evaluator, later), after)) :
    later.Backs (equations ++ [equation]) := by
  have joined : equation ∈ equations ++ [equation] := by simp
  have founded : ∀ entry ∈ registry.entries, ∃ founder ∈ equations ++ [equation],
      founder.evaluator = entry.evaluator ∧ founder.key = entry.key := by
    intro entry member
    obtain ⟨founder, among, same⟩ := backs.founded entry member
    exact ⟨founder, List.mem_append_left _ among, same⟩
  rcases Registry.of_compile returned with ⟨found, rfl, _⟩ | ⟨-, made, rfl⟩
  -- an equation whose key is found joins the entry of another founder
  · refine ⟨backs.sound, founded, ?_⟩
    intro other member
    rcases List.mem_append.mp member with old | new
    · exact backs.listed other old
    · obtain rfl := List.mem_singleton.mp new
      obtain ⟨entry, among, same, _, sameReferences⟩ := exists_entry_of_find? found
      exact ⟨entry, among, same, sameReferences⟩
  -- otherwise it is the founder of an entry of its own
  · refine ⟨?_, ?_, ?_⟩
    · intro entry member
      rcases List.mem_append.mp member with old | new
      · exact backs.sound entry old
      · obtain rfl := List.mem_singleton.mp new
        exact (of_build made).1
    · intro entry member
      rcases List.mem_append.mp member with old | new
      · exact founded entry old
      · obtain rfl := List.mem_singleton.mp new
        exact ⟨equation, joined, rfl, rfl⟩
    · intro other member
      rcases List.mem_append.mp member with old | new
      · obtain ⟨entry, among, same⟩ := backs.listed other old
        exact ⟨entry, List.mem_append_left _ among, same⟩
      · obtain rfl := List.mem_singleton.mp new
        exact ⟨_, List.mem_append_right _ (List.mem_singleton_self _), rfl, rfl⟩

end Registry

end Intertemporal
