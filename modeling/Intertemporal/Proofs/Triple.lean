import Intertemporal.Proofs.Invariant

/-!
# What computations do to their states

An invariant says what does not change. To say what does, `Leads before action after failed` relates
the states before and after an action: from a state with the first property, the action either
returns a value and leaves a state behind that has the second property together with the value, or
it fails and leaves a state behind that has the third.
-/

namespace Intertemporal

variable {σ ε β γ : Type}

/-- What holds after an action that returns and after one that fails, if something holds before. -/
def Leads (before : σ → Prop) (action : ExceptT ε (StateM σ) β) (after : β → σ → Prop)
    (failed : σ → Prop) : Prop :=
  ∀ state, before state →
    (∀ value later, outcome action state = (.ok value, later) → after value later) ∧
    ∀ reason later, outcome action state = (.error reason, later) → failed later

/-- What is kept holds afterwards in any case. -/
theorem Keeps.leads {before : σ → Prop} {action : ExceptT ε (StateM σ) β} {property : β → Prop}
    (kept : Keeps before action property) :
    Leads before action (fun value state => before state ∧ property value) before := by
  intro state holds
  rcases kept state holds with ⟨keptAfter, returned⟩
  constructor
  · intro value later ran
    rw [ran] at keptAfter returned
    exact ⟨keptAfter, returned value rfl⟩
  · intro reason later ran
    rwa [ran] at keptAfter

namespace Leads

variable {before : σ → Prop} {action : ExceptT ε (StateM σ) β} {after : β → σ → Prop}
  {failed : σ → Prop}

theorem pure {value : β} (holds : ∀ state, before state → after value state) :
    Leads before (Pure.pure value : ExceptT ε (StateM σ) β) after failed := by
  intro state here
  constructor
  · rintro _ _ ⟨⟩
    exact holds state here
  · rintro _ _ ⟨⟩

theorem throw {reason : ε} (holds : ∀ state, before state → failed state) :
    Leads before (MonadExcept.throw reason : ExceptT ε (StateM σ) β) after failed := by
  intro state here
  constructor
  · rintro _ _ ⟨⟩
  · rintro _ _ ⟨⟩
    exact holds state here

/-- What is read is the state. -/
theorem get {next : σ → ExceptT ε (StateM σ) β}
    (rest : ∀ state, before state → Leads (· = state) (next state) after failed) :
    Leads before (MonadState.get >>= next) after failed :=
  fun state here => rest state here state rfl

theorem modify {change : σ → σ} {reached : σ → Prop}
    (holds : ∀ state, before state → reached (change state)) :
    Leads before (modify change : ExceptT ε (StateM σ) PUnit) (fun _ => reached) failed := by
  intro state here
  constructor
  · rintro _ _ ⟨⟩
    exact holds state here
  · rintro _ _ ⟨⟩

theorem bind {next : β → ExceptT ε (StateM σ) γ} {goal : γ → σ → Prop}
    (first : Leads before action after failed)
    (rest : ∀ value, Leads (after value) (next value) goal failed) :
    Leads before (action >>= next) goal failed := by
  intro state here
  rcases first state here with ⟨returned, failing⟩
  rw [outcome_bind]
  rcases ran : outcome action state with ⟨reason | value, between⟩
  · constructor
    · rintro _ _ ⟨⟩
    · rintro _ _ ⟨⟩
      exact failing reason between ran
  · exact rest value between (returned value between ran)

theorem weaken {goal : β → σ → Prop} {lost : σ → Prop} (leads : Leads before action after failed)
    (implies : ∀ value state, after value state → goal value state)
    (loses : ∀ state, failed state → lost state) : Leads before action goal lost := by
  intro state here
  rcases leads state here with ⟨returned, failing⟩
  exact ⟨fun value later ran => implies value later (returned value later ran),
    fun reason later ran => loses later (failing reason later ran)⟩

/-- What is known of the value of a first part may be used in the rest. -/
theorem learn {property : β → Prop} {next : β → ExceptT ε (StateM σ) γ} {goal : γ → σ → Prop}
    (first : Leads before action (fun value state => after value state ∧ property value) failed)
    (rest : ∀ value, property value → Leads (after value) (next value) goal failed) :
    Leads before (action >>= next) goal failed := by
  apply first.bind
  intro value state here
  exact rest value here.2 state here.1

/-- A first part that only keeps what holds before leads to the rest. -/
theorem keeping {property : β → Prop} {next : β → ExceptT ε (StateM σ) γ} {goal : γ → σ → Prop}
    (kept : Keeps before action property) (stays : ∀ state, before state → failed state)
    (rest : ∀ value, property value → Leads before (next value) goal failed) :
    Leads before (action >>= next) goal failed :=
  (kept.leads.weaken (fun _ _ here => here) stays).learn rest

theorem map {change : β → γ} {goal : γ → σ → Prop} (leads : Leads before action after failed)
    (implies : ∀ value state, after value state → goal (change value) state) :
    Leads before (change <$> action) goal failed := by
  rw [map_eq_pure_bind]
  exact leads.bind fun value => .pure (implies value)

/-- What an invariant says of the values that are returned may be added. -/
theorem observe {invariant : σ → Prop} {property : β → Prop}
    (leads : Leads before action after failed) (kept : Keeps invariant action property) :
    Leads (fun state => invariant state ∧ before state) action
      (fun value state => after value state ∧ property value) failed := by
  rintro state ⟨holds, here⟩
  rcases leads state here with ⟨returned, failing⟩
  refine ⟨?_, failing⟩
  intro value later ran
  exact ⟨returned value later ran, (kept state holds).2 value (congrArg Prod.fst ran)⟩

theorem guard {condition : Prop} [Decidable condition] {reason : ε}
    {next : PUnit → ExceptT ε (StateM σ) β} (stays : ∀ state, before state → failed state)
    (passed : ¬condition → Leads before (next ()) after failed) :
    Leads before
      (if condition then
        (MonadExcept.throw reason : ExceptT ε (StateM σ) PUnit) >>= next else next ())
      after failed := by
  by_cases refused : condition
  · rw [if_pos refused]
    have never : Leads before (MonadExcept.throw reason : ExceptT ε (StateM σ) PUnit)
        (fun _ _ => False) failed := .throw stays
    exact never.bind fun _ _ impossible => impossible.elim
  · rw [if_neg refused]
    exact passed refused

theorem optional {condition : Prop} [Decidable condition] {extra : ExceptT ε (StateM σ) PUnit}
    {next : PUnit → ExceptT ε (StateM σ) β} (kept : Keeps before extra fun _ => True)
    (stays : ∀ state, before state → failed state) (rest : Leads before (next ()) after failed) :
    Leads before (if condition then extra >>= next else next ()) after failed := by
  by_cases needed : condition
  · rw [if_pos needed]
    exact .keeping kept stays fun _ _ => rest
  · rw [if_neg needed]
    exact rest

end Leads

end Intertemporal
