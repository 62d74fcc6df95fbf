import Intertemporal.Proofs.Invariant

/-!
# Computations whose results are determined

What a computation returns may depend on its state in some ways and not in others. `Returns` says
that an action returns one and the same result in every state with an invariant, and keeps the
invariant. As for invariants, there is one rule for each way to put actions together.
-/

namespace Intertemporal

variable {σ ε β γ : Type}

/-- An action that keeps an invariant, and under it always returns or fails in the same way. -/
def Returns (invariant : σ → Prop) (action : ExceptT ε (StateM σ) β) (result : Except ε β) :
    Prop :=
  ∀ state, invariant state →
    invariant (outcome action state).2 ∧ (outcome action state).1 = result

namespace Returns

variable {invariant : σ → Prop} {action : ExceptT ε (StateM σ) β} {result : Except ε β}

/-- A first part that returns may establish a stronger invariant for the rest. -/
theorem enter {inner : σ → Prop} {next : β → ExceptT ε (StateM σ) γ} {goal : β → Except ε γ}
    (first : Returns invariant action result)
    (reached : ∀ state value after, invariant state →
      outcome action state = (.ok value, after) → inner after)
    (leave : ∀ state, inner state → invariant state)
    (rest : ∀ value, Returns inner (next value) (goal value)) :
    Returns invariant (action >>= next) (result >>= goal) := by
  intro state holds
  rcases first state holds with ⟨holdsBetween, returned⟩
  rw [outcome_bind]
  rcases ran : outcome action state with ⟨reason | value, between⟩
  · rw [ran] at holdsBetween returned
    subst returned
    exact ⟨holdsBetween, rfl⟩
  · rw [ran] at returned
    subst returned
    rcases rest value between (reached state value between holds ran) with ⟨holdsAfter, same⟩
    exact ⟨leave _ holdsAfter, same⟩

theorem bind {next : β → ExceptT ε (StateM σ) γ} {goal : β → Except ε γ}
    (first : Returns invariant action result)
    (rest : ∀ value, Returns invariant (next value) (goal value)) :
    Returns invariant (action >>= next) (result >>= goal) := by
  apply first.enter _ (fun _ => id) rest
  intro state value after holds ran
  have kept := (first state holds).1
  rwa [ran] at kept

theorem map {change : β → γ} (first : Returns invariant action result) :
    Returns invariant (change <$> action) (result.map change) := by
  intro state holds
  rcases first state holds with ⟨holdsAfter, returned⟩
  rw [outcome_map]
  exact ⟨holdsAfter, congrArg (Except.map change) returned⟩

theorem mapM {items : List γ} {step : γ → ExceptT ε (StateM σ) β} {goal : γ → Except ε β}
    (each : ∀ item ∈ items, Returns invariant (step item) (goal item)) :
    Returns invariant (items.mapM step) (items.mapM goal) := by
  induction items with
  | nil =>
      intro state holds
      exact ⟨holds, rfl⟩
  | cons item rest ih =>
      rw [List.mapM_cons, List.mapM_cons]
      apply (each item List.mem_cons_self).bind
      intro value
      apply (ih fun later member => each later (List.mem_cons_of_mem item member)).bind
      intro others state holds
      exact ⟨holds, rfl⟩

theorem forM {items : List γ} {step : γ → ExceptT ε (StateM σ) PUnit}
    {goal : γ → Except ε PUnit} (each : ∀ item ∈ items, Returns invariant (step item) (goal item)) :
    Returns invariant (items.forM step) (items.forM goal) := by
  induction items with
  | nil =>
      intro state holds
      exact ⟨holds, rfl⟩
  | cons item rest ih =>
      rw [List.forM_eq_forM, List.forM_eq_forM, List.forM_cons, List.forM_cons]
      apply (each item List.mem_cons_self).bind
      intro _
      exact ih fun later member => each later (List.mem_cons_of_mem item member)

/-- Other invariants that are kept do not change the result. -/
theorem alongside {other : σ → Prop} {property : β → Prop}
    (returns : Returns invariant action result) (kept : Keeps other action property) :
    Returns (fun state => invariant state ∧ other state) action result := by
  rintro state ⟨holds, holdsToo⟩
  rcases returns state holds with ⟨holdsAfter, returned⟩
  exact ⟨⟨holdsAfter, (kept state holdsToo).1⟩, returned⟩

/-- Every value that is returned is the one that is determined. -/
theorem keeps (returns : Returns invariant action result) :
    Keeps invariant action fun value => result = .ok value := by
  intro state holds
  rcases returns state holds with ⟨holdsAfter, returned⟩
  exact ⟨holdsAfter, fun value ran => returned.symm.trans ran⟩

end Returns

end Intertemporal
