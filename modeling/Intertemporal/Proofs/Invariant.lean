import Intertemporal.Proofs.Outcome

/-!
# Invariants of computations with a state

A failed computation leaves its state behind, so an invariant has to hold after failures as well.
`Keeps invariant action property` says that an action keeps an invariant of its state however it
ends, and that the values it returns have a property. There is one rule for each way to put actions
together; a proof about an action follows its definition line by line.
-/

namespace Intertemporal

variable {σ ε β γ : Type}

/-- An action keeps an invariant, also when it fails, and returns values with a property. -/
def Keeps (invariant : σ → Prop) (action : ExceptT ε (StateM σ) β) (property : β → Prop) : Prop :=
  ∀ state, invariant state → invariant (outcome action state).2 ∧
    ∀ value, (outcome action state).1 = .ok value → property value

namespace Keeps

variable {invariant : σ → Prop} {action : ExceptT ε (StateM σ) β} {property : β → Prop}

theorem pure {value : β} (holds : property value) :
    Keeps invariant (Pure.pure value : ExceptT ε (StateM σ) β) property := by
  intro state kept
  refine ⟨kept, ?_⟩
  rintro _ ⟨⟩
  exact holds

theorem throw (reason : ε) :
    Keeps invariant (MonadExcept.throw reason : ExceptT ε (StateM σ) β) property := by
  intro state kept
  refine ⟨kept, ?_⟩
  rintro _ ⟨⟩

theorem get : Keeps invariant (MonadState.get : ExceptT ε (StateM σ) σ) invariant := by
  intro state kept
  refine ⟨kept, ?_⟩
  rintro _ ⟨⟩
  exact kept

theorem modify {change : σ → σ} (step : ∀ state, invariant state → invariant (change state)) :
    Keeps invariant (modify change : ExceptT ε (StateM σ) PUnit) fun _ => True := by
  intro state kept
  exact ⟨step state kept, fun _ _ => trivial⟩

theorem bind {next : β → ExceptT ε (StateM σ) γ} {goal : γ → Prop}
    (first : Keeps invariant action property)
    (rest : ∀ value, property value → Keeps invariant (next value) goal) :
    Keeps invariant (action >>= next) goal := by
  intro state kept
  obtain ⟨keptBetween, returned⟩ := first state kept
  rw [outcome_bind]
  rcases ran : outcome action state with ⟨_ | value, between⟩
  · rw [ran] at keptBetween
    refine ⟨keptBetween, ?_⟩
    rintro _ ⟨⟩
  · rw [ran] at keptBetween returned
    exact rest value (returned value rfl) between keptBetween

theorem weaken {goal : β → Prop} (strong : Keeps invariant action property)
    (implies : ∀ value, property value → goal value) : Keeps invariant action goal := by
  intro state kept
  obtain ⟨keptAfter, returned⟩ := strong state kept
  exact ⟨keptAfter, fun value ran => implies value (returned value ran)⟩

theorem map {change : β → γ} {goal : γ → Prop} (kept : Keeps invariant action property)
    (implies : ∀ value, property value → goal (change value)) :
    Keeps invariant (change <$> action) goal := by
  rw [map_eq_pure_bind]
  exact kept.bind fun value found => .pure (implies value found)

theorem ite {condition : Prop} [Decidable condition] {other : ExceptT ε (StateM σ) β}
    (yes : condition → Keeps invariant action property)
    (no : ¬condition → Keeps invariant other property) :
    Keeps invariant (if condition then action else other) property := by
  by_cases holds : condition
  · rw [if_pos holds]
    exact yes holds
  · rw [if_neg holds]
    exact no holds

/-- Whatever follows a refusal may assume that nothing was refused. -/
theorem guard {condition : Prop} [Decidable condition] {reason : ε}
    {next : PUnit → ExceptT ε (StateM σ) β}
    (passed : ¬condition → Keeps invariant (next ()) property) :
    Keeps invariant
      (if condition then
        (MonadExcept.throw reason : ExceptT ε (StateM σ) PUnit) >>= next else next ())
      property := by
  refine .ite (fun _ => ?_) passed
  have refused : Keeps invariant
      (MonadExcept.throw reason : ExceptT ε (StateM σ) PUnit) fun _ => False := .throw reason
  exact refused.bind fun _ impossible => impossible.elim

theorem optional {condition : Prop} [Decidable condition]
    {extra : ExceptT ε (StateM σ) PUnit} {next : PUnit → ExceptT ε (StateM σ) β}
    (first : Keeps invariant extra fun _ => True) (rest : Keeps invariant (next ()) property) :
    Keeps invariant (if condition then extra >>= next else next ()) property :=
  .ite (fun _ => first.bind fun _ _ => rest) fun _ => rest

/-- An action on every item of a list. -/
theorem mapM {items : List γ} {step : γ → ExceptT ε (StateM σ) β} {property : γ → β → Prop}
    (each : ∀ item ∈ items, Keeps invariant (step item) (property item)) :
    Keeps invariant (items.mapM step) fun results => List.Forall₂ property items results := by
  induction items with
  | nil =>
      rw [List.mapM_nil]
      exact .pure .nil
  | cons item rest ih =>
      rw [List.mapM_cons]
      refine (each item List.mem_cons_self).bind fun value first => ?_
      refine (ih fun later member => each later (List.mem_cons_of_mem item member)).bind ?_
      intro others found
      exact .pure (.cons first found)

theorem forM {items : List γ} {step : γ → ExceptT ε (StateM σ) PUnit} {property : γ → Prop}
    (each : ∀ item ∈ items, Keeps invariant (step item) fun _ => property item) :
    Keeps invariant (items.forM step) fun _ => ∀ item ∈ items, property item := by
  induction items with
  | nil => exact .pure fun _ member => absurd member List.not_mem_nil
  | cons item rest ih =>
      rw [List.forM_eq_forM, List.forM_cons]
      refine (each item List.mem_cons_self).bind fun _ first => ?_
      refine (ih fun later member => each later (List.mem_cons_of_mem item member)).weaken ?_
      intro _ found
      exact List.forall_mem_cons.mpr ⟨first, found⟩

end Keeps

end Intertemporal
