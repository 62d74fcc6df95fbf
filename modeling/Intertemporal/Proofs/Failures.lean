import Intertemporal.Proofs.Outcome

/-!
# Failures of computations

`FailsWithin allowed action` says that an action, wherever it starts, fails only with allowed
reasons. As for invariants, there is one rule for each way to put actions together. `ErrsWithin`
says the same of a result that is computed without a state.
-/

namespace Intertemporal

variable {σ ε β γ : Type}

/-- An action that fails with allowed reasons only. -/
def FailsWithin (allowed : ε → Prop) (action : ExceptT ε (StateM σ) β) : Prop :=
  ∀ state reason, (outcome action state).1 = .error reason → allowed reason

namespace FailsWithin

variable {allowed : ε → Prop} {action : ExceptT ε (StateM σ) β}

theorem pure {value : β} :
    FailsWithin allowed (Pure.pure value : ExceptT ε (StateM σ) β) := by
  rintro state reason ⟨⟩

theorem throw {reason : ε} (holds : allowed reason) :
    FailsWithin allowed (MonadExcept.throw reason : ExceptT ε (StateM σ) β) := by
  rintro state _ ⟨⟩
  exact holds

theorem modify {change : σ → σ} :
    FailsWithin allowed (modify change : ExceptT ε (StateM σ) PUnit) := by
  rintro state reason ⟨⟩

theorem bind {next : β → ExceptT ε (StateM σ) γ} (first : FailsWithin allowed action)
    (rest : ∀ value, FailsWithin allowed (next value)) :
    FailsWithin allowed (action >>= next) := by
  intro state reason failed
  rw [outcome_bind] at failed
  rcases ran : outcome action state with ⟨_ | value, between⟩
  · rw [ran] at failed
    cases failed
    exact first state reason (congrArg Prod.fst ran)
  · rw [ran] at failed
    exact rest value between reason failed

theorem ite {condition : Prop} [Decidable condition] {other : ExceptT ε (StateM σ) β}
    (yes : condition → FailsWithin allowed action) (no : ¬condition → FailsWithin allowed other) :
    FailsWithin allowed (if condition then action else other) := by
  by_cases holds : condition
  · rw [if_pos holds]
    exact yes holds
  · rw [if_neg holds]
    exact no holds

/-- A refusal with an allowed reason, or one that never happens. -/
theorem guard {condition : Prop} [Decidable condition] {reason : ε}
    {next : PUnit → ExceptT ε (StateM σ) β} (refused : condition → allowed reason)
    (passed : FailsWithin allowed (next ())) :
    FailsWithin allowed
      (if condition then
        (MonadExcept.throw reason : ExceptT ε (StateM σ) PUnit) >>= next else next ()) := by
  refine .ite (fun holds => ?_) fun _ => passed
  rintro state _ ⟨⟩
  exact refused holds

theorem optional {condition : Prop} [Decidable condition] {extra : ExceptT ε (StateM σ) PUnit}
    {next : PUnit → ExceptT ε (StateM σ) β} (first : FailsWithin allowed extra)
    (rest : FailsWithin allowed (next ())) :
    FailsWithin allowed (if condition then extra >>= next else next ()) :=
  .ite (fun _ => first.bind fun _ => rest) fun _ => rest

theorem mapM {items : List γ} {step : γ → ExceptT ε (StateM σ) β}
    (each : ∀ item ∈ items, FailsWithin allowed (step item)) :
    FailsWithin allowed (items.mapM step) := by
  induction items with
  | nil => exact .pure
  | cons item rest ih =>
      rw [List.mapM_cons]
      refine (each item List.mem_cons_self).bind fun value => ?_
      exact (ih fun later member => each later (List.mem_cons_of_mem item member)).bind
        fun others => .pure

theorem forM {items : List γ} {step : γ → ExceptT ε (StateM σ) PUnit}
    (each : ∀ item ∈ items, FailsWithin allowed (step item)) :
    FailsWithin allowed (items.forM step) := by
  induction items with
  | nil => exact .pure
  | cons item rest ih =>
      rw [List.forM_eq_forM, List.forM_cons]
      refine (each item List.mem_cons_self).bind fun _ => ?_
      exact ih fun later member => each later (List.mem_cons_of_mem item member)

end FailsWithin

/-- A list fails with the failure of one of its items. -/
theorem exists_of_mapM_eq_error {change : β → Except ε γ} {items : List β} {reason : ε}
    (failed : items.mapM change = .error reason) : ∃ item ∈ items, change item = .error reason := by
  induction items with
  | nil => cases failed
  | cons item rest ih =>
      rw [List.mapM_cons] at failed
      rcases first : change item with found | value
      · rw [first] at failed
        cases failed
        exact ⟨item, List.mem_cons_self, first⟩
      · rw [first] at failed
        rcases others : rest.mapM change with found | values
        · change (rest.mapM change >>= fun values => _) = _ at failed
          rw [others] at failed
          cases failed
          obtain ⟨later, member, here⟩ := ih others
          exact ⟨later, List.mem_cons_of_mem item member, here⟩
        · change (rest.mapM change >>= fun values => _) = _ at failed
          rw [others] at failed
          cases failed

/-! ### Results without a state -/

theorem bind_eq_error {first : Except ε β} {next : β → Except ε γ} {reason : ε} :
    first >>= next = .error reason ↔
      first = .error reason ∨ ∃ value, first = .ok value ∧ next value = .error reason := by
  rcases first with found | value
  · simp [bind, Except.bind]
  · simp [bind, Except.bind]

theorem mapError_eq_error {δ : Type} {result : Except ε β} {change : ε → δ} {reason : δ} :
    result.mapError change = .error reason ↔
      ∃ found, result = .error found ∧ change found = reason := by
  rcases result with found | value
  · simp [Except.mapError]
  · simp [Except.mapError]

/-- A result that, where it is a failure, has an allowed reason. -/
def ErrsWithin (allowed : ε → Prop) (result : Except ε β) : Prop :=
  ∀ reason, result = .error reason → allowed reason

namespace ErrsWithin

variable {allowed : ε → Prop} {first : Except ε β}

theorem ok {value : β} : ErrsWithin allowed (.ok value : Except ε β) := by
  rintro reason ⟨⟩

theorem error {reason : ε} (holds : allowed reason) :
    ErrsWithin allowed (.error reason : Except ε β) := by
  rintro _ ⟨⟩
  exact holds

theorem mono {wider : ε → Prop} (errs : ErrsWithin allowed first)
    (includes : ∀ reason, allowed reason → wider reason) : ErrsWithin wider first :=
  fun reason failed => includes reason (errs reason failed)

/-- What follows a value may use where the value comes from. -/
theorem bind {next : β → Except ε γ} (errs : ErrsWithin allowed first)
    (rest : ∀ value, first = .ok value → ErrsWithin allowed (next value)) :
    ErrsWithin allowed (first >>= next) := by
  intro reason failed
  rcases bind_eq_error.mp failed with here | ⟨value, done, later⟩
  · exact errs reason here
  · exact rest value done reason later

theorem mapError {δ : Type} {change : ε → δ} {wanted : δ → Prop}
    (holds : ∀ reason, wanted (change reason)) : ErrsWithin wanted (first.mapError change) := by
  rcases first with reason | value
  · exact .error (holds reason)
  · exact .ok

theorem mapM {change : β → Except ε γ} {items : List β}
    (each : ∀ item ∈ items, ErrsWithin allowed (change item)) :
    ErrsWithin allowed (items.mapM change) := by
  intro reason failed
  obtain ⟨item, member, here⟩ := exists_of_mapM_eq_error failed
  exact each item member reason here

end ErrsWithin

end Intertemporal
