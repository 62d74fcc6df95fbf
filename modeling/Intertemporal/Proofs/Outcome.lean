import Mathlib.Data.List.Forall2
import Mathlib.Tactic.Choose
import Intertemporal.Memory

/-!
# Outcomes of computations with a state

A computation on a memory or on a session either returns a value or fails, and leaves a state behind
either way. `outcome` runs it and gives both. The rules below say what the outcome of a composed
computation is, so that a proof never unfolds how state and failure are put together.
-/

namespace Intertemporal

variable {σ ε β γ : Type}

theorem bind_eq_ok {first : Except ε β} {next : β → Except ε γ} {result : γ} :
    first >>= next = .ok result ↔ ∃ value, first = .ok value ∧ next value = .ok result := by
  rcases first with reason | value
  · simp [bind, Except.bind]
  · simp [bind, Except.bind]

theorem map_ok_result {value : β} {change : β → γ} :
    (Except.ok value : Except ε β).map change = .ok (change value) := rfl

theorem map_bind_result {δ : Type} (first : Except ε β) (next : β → Except ε γ)
    (change : γ → δ) :
    (first >>= next).map change = first >>= fun value => (next value).map change := by
  cases first <;> rfl

theorem bind_map_result {δ : Type} (first : Except ε β) (change : β → γ)
    (next : γ → Except ε δ) :
    first.map change >>= next = first >>= fun value => next (change value) := by
  cases first <;> rfl

theorem toOption_eq_some {result : Except ε β} {value : β} :
    result.toOption = some value ↔ result = .ok value := by
  cases result <;> simp [Except.toOption]

/-- A computation that fails has no value, so a sequence has one exactly if both parts do. -/
theorem toOption_bind (first : Except ε β) (next : β → Except ε γ) :
    (first >>= next).toOption = first.toOption.bind fun value => (next value).toOption := by
  rcases first with reason | value <;> rfl

theorem toOption_mapError {δ : Type} (result : Except ε β) (change : ε → δ) :
    (result.mapError change).toOption = result.toOption := by
  cases result <;> rfl

theorem mapError_eq_ok {δ : Type} {result : Except ε β} {change : ε → δ} {value : β} :
    result.mapError change = .ok value ↔ result = .ok value := by
  cases result <;> simp [Except.mapError]

theorem mapM_eq_ok {change : β → Except ε γ} {items : List β} {results : List γ} :
    items.mapM change = .ok results ↔
      List.Forall₂ (fun item result => change item = .ok result) items results := by
  induction items generalizing results with
  | nil =>
      rw [List.mapM_nil, List.forall₂_nil_left_iff]
      exact ⟨fun same => (Except.ok.inj same).symm, fun same => same ▸ rfl⟩
  | cons item rest ih =>
      simp only [List.mapM_cons, bind_eq_ok, List.forall₂_cons_left_iff]
      constructor
      · rintro ⟨first, found, others, remaining, collected⟩
        exact ⟨first, others, found, ih.mp remaining, (Except.ok.inj collected).symm⟩
      · rintro ⟨first, others, found, remaining, rfl⟩
        exact ⟨first, found, others, ih.mpr remaining, rfl⟩

/-- Functions that agree on the items of a list give the same list, or fail alike. -/
theorem mapM_congr_of_mem {items : List β} {first second : β → Except ε γ}
    (same : ∀ item ∈ items, first item = second item) : items.mapM first = items.mapM second := by
  induction items with
  | nil => rfl
  | cons item rest ih =>
      rw [List.mapM_cons, List.mapM_cons, same item List.mem_cons_self,
        ih fun later member => same later (List.mem_cons_of_mem item member)]

theorem mapM_map_result {δ : Type} (items : List β) (first : β → Except ε γ) (change : γ → δ) :
    items.mapM (fun item => (first item).map change) =
      (items.mapM first).map (List.map change) := by
  induction items with
  | nil => rfl
  | cons item rest ih =>
      rw [List.mapM_cons, List.mapM_cons, ih]
      rcases first item with reason | value
      · rfl
      · cases rest.mapM first <;> rfl

/-- If a function succeeds on every item of a list, its results are those of a total function. -/
theorem exists_of_mapM_eq_ok [Inhabited γ] {change : β → Except ε γ} {items : List β}
    {results : List γ} (collected : items.mapM change = .ok results) :
    ∃ total : β → γ, ∀ item ∈ items, change item = .ok (total item) := by
  have each : ∀ item ∈ items, ∃ result, change item = .ok result := by
    intro item member
    have paired := mapM_eq_ok.mp collected
    clear collected
    induction paired with
    | nil => cases member
    | cons found _ ih =>
        rcases List.mem_cons.mp member with rfl | later
        · exact ⟨_, found⟩
        · exact ih later
  choose! total found using each
  exact ⟨total, found⟩

/-- A function that succeeds on every item of a list succeeds on the list. -/
theorem exists_mapM_eq_ok {change : β → Except ε γ} {items : List β}
    (each : ∀ item ∈ items, ∃ result, change item = .ok result) :
    ∃ results, items.mapM change = .ok results := by
  induction items with
  | nil => exact ⟨[], rfl⟩
  | cons item rest ih =>
      obtain ⟨first, found⟩ := each item List.mem_cons_self
      obtain ⟨others, collected⟩ := ih fun later member =>
        each later (List.mem_cons_of_mem item member)
      exact ⟨first :: others, mapM_eq_ok.mpr (.cons found (mapM_eq_ok.mp collected))⟩

theorem forM_eq_ok {items : List β} {step : β → Except ε PUnit} {done : PUnit}
    (each : ∀ item ∈ items, step item = .ok .unit) : items.forM step = .ok done := by
  induction items with
  | nil => rfl
  | cons first rest ih =>
      rw [List.forM_eq_forM, List.forM_cons, each first List.mem_cons_self]
      exact ih fun item member => each item (List.mem_cons_of_mem first member)

/-- What a computation returns or fails with in a state, and the state that it leaves behind. -/
def outcome (action : ExceptT ε (StateM σ) β) (state : σ) : Except ε β × σ :=
  action.run.run state

@[simp]
theorem outcome_pure (value : β) (state : σ) :
    outcome (pure value : ExceptT ε (StateM σ) β) state = (.ok value, state) := rfl

@[simp]
theorem outcome_throw (reason : ε) (state : σ) :
    outcome (throw reason : ExceptT ε (StateM σ) β) state = (.error reason, state) := rfl

@[simp]
theorem outcome_get (state : σ) :
    outcome (get : ExceptT ε (StateM σ) σ) state = (.ok state, state) := rfl

@[simp]
theorem outcome_modify (change : σ → σ) (state : σ) :
    outcome (modify change : ExceptT ε (StateM σ) PUnit) state = (.ok .unit, change state) := rfl

/-- A sequence goes on with the value of its first part, and ends with the failure of it. -/
theorem outcome_bind (action : ExceptT ε (StateM σ) β) (next : β → ExceptT ε (StateM σ) γ)
    (state : σ) :
    outcome (action >>= next) state =
      match outcome action state with
      | (.ok value, after) => outcome (next value) after
      | (.error reason, after) => (.error reason, after) := by
  simp only [outcome, ExceptT.run_bind, StateT.run_bind]
  rcases action.run.run state with ⟨_ | _, after⟩ <;> rfl

theorem outcome_bind_eq_ok {action : ExceptT ε (StateM σ) β}
    {next : β → ExceptT ε (StateM σ) γ} {state after : σ} {result : γ} :
    outcome (action >>= next) state = (.ok result, after) ↔
      ∃ value between, outcome action state = (.ok value, between) ∧
        outcome (next value) between = (.ok result, after) := by
  rw [outcome_bind]
  rcases outcome action state with ⟨_ | value, between⟩ <;> simp

theorem outcome_bind_eq_error {action : ExceptT ε (StateM σ) β}
    {next : β → ExceptT ε (StateM σ) γ} {state after : σ} {reason : ε} :
    outcome (action >>= next) state = (.error reason, after) ↔
      outcome action state = (.error reason, after) ∨
        ∃ value between, outcome action state = (.ok value, between) ∧
          outcome (next value) between = (.error reason, after) := by
  rw [outcome_bind]
  rcases outcome action state with ⟨_ | value, between⟩ <;> simp

theorem outcome_map (change : β → γ) (action : ExceptT ε (StateM σ) β) (state : σ) :
    outcome (change <$> action) state =
      ((outcome action state).1.map change, (outcome action state).2) := by
  rw [map_eq_pure_bind, outcome_bind]
  rcases outcome action state with ⟨_ | _, _⟩ <;> rfl

theorem outcome_map_eq_ok {change : β → γ} {action : ExceptT ε (StateM σ) β} {state after : σ}
    {result : γ} :
    outcome (change <$> action) state = (.ok result, after) ↔
      ∃ value, outcome action state = (.ok value, after) ∧ change value = result := by
  rw [outcome_map]
  rcases outcome action state with ⟨_ | value, between⟩
  · simp [Except.map]
  · simp [Except.map, and_comm]

end Intertemporal
