import Intertemporal.Proofs.Model.Serving

/-!
# Sessions that take up new values and equations

Giving parameters values stamps them with a revision that no evaluator has seen, so every evaluator
takes its values anew before it is next used. Compiling an equation adds at most one evaluator to
the known ones; changing the chunk limit compiles all equations into an empty registry, one after
another, while forms that are in use go on with the evaluators that they have. If these operations
succeed, the session serves its calibration again, with all evaluators that were known before.
-/

namespace Intertemporal

variable {α : Type}

namespace Session

variable {session after : Session α} {β : Type}

theorem outcome_ofExcept_eq_ok {ε : Type} {cause : ε → Error α} {result : Except ε β}
    {value : β} :
    outcome (ofExcept cause result) session = (.ok value, after) ↔
      result = .ok value ∧ after = session := by
  rw [ofExcept, outcome_act_eq_ok]
  simp only [Intertemporal.outcome_ofExcept_eq_ok]
  constructor
  · rintro ⟨memory, ⟨found, rfl⟩, rfl⟩
    exact ⟨found, rfl⟩
  · rintro ⟨found, rfl⟩
    exact ⟨_, ⟨found, rfl⟩, rfl⟩

theorem checkDeclared_eq_pure {isDeclared : String → Bool}
    {place : String} {names : List String} {done : Unit}
    (checked : outcome (checkDeclared isDeclared place names) session = (.ok done, after)) :
    (checkDeclared isDeclared place names : SessionAction α Unit) = pure () := by
  unfold checkDeclared at checked ⊢
  split at checked
  · cases checked
  · rfl

theorem outcome_checkDeclared_eq_ok {isDeclared : String → Bool} {place : String}
    {names : List String} {done : Unit}
    (checked : outcome (checkDeclared isDeclared place names) session = (.ok done, after)) :
    after = session := by
  rw [checkDeclared_eq_pure checked] at checked
  cases checked
  rfl

theorem outcome_checkNewEquation_eq_ok {model : Model α} {name : String} {done : Unit}
    (checked : outcome (checkNewEquation model name) session = (.ok done, after)) :
    after = session := by
  unfold checkNewEquation at checked
  split at checked <;> cases checked
  rfl

variable [Scalar α] {known : Evaluator α → Prop}

section Values

/-- New values of parameters reach the evaluators that were known before. -/
theorem Serves.of_assign (serves : session.Serves known) {values : List (String × Datum α)}
    {done : Unit} (returned : outcome (assign values) session = (.ok done, after)) :
    after.Serves known := by
  simp only [assign, outcome_bind_eq_ok, outcome_ofExcept_eq_ok] at returned
  obtain ⟨_, _, read, _, _, changed, _, _, ⟨converted, rfl⟩, stamped⟩ := returned
  cases read
  cases changed
  cases stamped
  have revision := Calibration.revision_set (Prod.ext rfl converted)
  exact ⟨⟨serves.memory.recalibrate revision, serves.backs, serves.equations⟩, serves.active⟩

theorem Serves.of_addParameter (serves : session.Serves known) {added : Parameter}
    {value : Datum α} {done : Unit}
    (returned : outcome (addParameter added value) session = (.ok done, after)) :
    after.Serves known := by
  simp only [addParameter, outcome_bind_eq_ok, outcome_ofExcept_eq_ok] at returned
  obtain ⟨_, _, read, symbols, _, ⟨_, rfl⟩, _, _, changed, assigned⟩ := returned
  cases read
  cases changed
  refine Serves.of_assign ?_ assigned
  exact ⟨⟨serves.memory, serves.backs, serves.equations⟩, serves.active⟩

theorem Serves.of_setParameters (serves : session.Serves known)
    {values : List (String × Datum α)} {done : Unit}
    (returned : outcome (setParameters values) session = (.ok done, after)) :
    after.Serves known := by
  simp only [setParameters, outcome_bind_eq_ok, outcome_ofExcept_eq_ok] at returned
  obtain ⟨_, _, ⟨_, rfl⟩, _, _, read, _, _, checked, assigned⟩ := returned
  cases read
  obtain rfl := outcome_checkDeclared_eq_ok checked
  exact serves.of_assign assigned

/-- New values of parameters depend on nothing in the memory but the next revision. -/
theorem exists_calibration_of_setParameters {values : List (String × Datum α)}
    {done : Unit} (returned : outcome (setParameters values) session = (.ok done, after)) :
    ∃ calibration : Calibration α, calibration.revision = session.memory.nextRevision ∧
      ∀ memory : Memory α, memory.nextRevision = session.memory.nextRevision →
        outcome (setParameters values) { session with memory } =
          (.ok done, {
            session with
            model := { session.model with calibration }
            memory := { memory with nextRevision := memory.nextRevision + 1 } }) := by
  simp only [setParameters, assign, outcome_bind_eq_ok, outcome_ofExcept_eq_ok] at returned
  rcases returned with
    ⟨_, _, ⟨named, rfl⟩, _, _, read, _, session, checked, _, _, again, _, _, changed, _, _,
      ⟨converted, rfl⟩, stamped⟩
  cases read
  have declared := checkDeclared_eq_pure checked
  rcases outcome_checkDeclared_eq_ok checked with rfl
  cases again
  cases changed
  cases stamped
  refine ⟨_, Calibration.revision_set (Prod.ext rfl converted), ?_⟩
  intro memory same
  simp only [setParameters, assign, outcome_bind_eq_ok, outcome_ofExcept_eq_ok]
  refine ⟨_, _, ⟨named, rfl⟩, _, _, rfl, (), { session with memory }, ?_, _, _, rfl, (), _, rfl, (),
    _, ⟨?_, rfl⟩, ?_⟩
  · rw [declared]
    rfl
  · rw [same]
    exact converted
  · rw [← same]
    rfl

end Values

section Equations

/-- A session that serves its calibration with all evaluators that were known before, and maybe
others. -/
def ServesMore (known : Evaluator α → Prop) (session : Session α) : Prop :=
  ∃ more : Evaluator α → Prop, (∀ evaluator, known evaluator → more evaluator) ∧
    session.Serves more

variable {compiled : List (Equation α)}

/-- An equation that is compiled joins those that the session supports. -/
theorem Supports.of_compile (supports : session.Supports known compiled)
    (equation : Equation α) {registry : Registry α} {memory : Memory α}
    (returned : outcome (session.model.registry.compile equation.name equation.key)
      session.memory = (.ok (equation.evaluator, registry), memory)) :
    { session with model := { session.model with registry }, memory }.Supports
      (fun other => known other ∨ other = equation.evaluator) (compiled ++ [equation]) where
  memory := by
    refine supports.memory.of_compile ?_ returned
    intro entry member
    obtain ⟨founder, among, same, _⟩ := supports.backs.founded entry member
    exact same ▸ supports.equations founder among
  backs := supports.backs.of_compile returned
  equations other member := by
    rcases List.mem_append.mp member with old | new
    · exact Or.inl (supports.equations other old)
    · exact Or.inr (congrArg _ (List.mem_singleton.mp new))

variable {equation : Equation α}

theorem Serves.of_append (serves : session.Serves known) {name source : String}
    {expression : Expression α} {linear : Bool}
    (returned : outcome (append name expression linear source) session = (.ok equation, after)) :
    after.ServesMore known := by
  simp only [append, outcome_bind_eq_ok, outcome_act_eq_ok] at returned
  obtain ⟨_, _, read, ⟨evaluator, registry⟩, _, ⟨memory, compiling, rfl⟩, _, _, changed, gave⟩ :=
    returned
  cases read
  cases changed
  cases gave
  have supports := serves.toSupports.of_compile
    ⟨name, expression, expression.references, evaluator, linear, source⟩ compiling
  refine ⟨_, fun _ => Or.inl, ⟨supports.memory, supports.backs, supports.equations⟩, ?_⟩
  rintro form ⟨⟩

theorem Serves.of_appendToHorizon (serves : session.Serves known) {name source : String}
    {expression : Expression α} {linear : Bool}
    (returned : outcome (appendToHorizon name expression linear source) session =
      (.ok equation, after)) : after.ServesMore known := by
  simp only [appendToHorizon, outcome_bind_eq_ok, outcome_act_eq_ok] at returned
  obtain ⟨_, _, appended, _, _, read, _, _, changed, _, _, ⟨_, recorded, rfl⟩, gave⟩ := returned
  cases read
  cases changed
  cases recorded
  cases gave
  obtain ⟨more, implies, servesMore⟩ := serves.of_append appended
  have recording := (Memory.Serves.isStable more _).record (.added equation) _ servesMore.memory
  exact ⟨more, implies, ⟨recording.1, servesMore.backs, servesMore.equations⟩, servesMore.active⟩

theorem Serves.of_addEquation (serves : session.Serves known) {text name : String}
    {linear : Bool}
    (returned : outcome (addEquation text name linear) session = (.ok equation, after)) :
    after.ServesMore known := by
  simp only [addEquation, outcome_bind_eq_ok, outcome_ofExcept_eq_ok] at returned
  obtain ⟨_, _, read, _, _, checked, _, _, ⟨_, rfl⟩, appended⟩ := returned
  cases read
  obtain rfl := outcome_checkNewEquation_eq_ok checked
  exact serves.of_appendToHorizon appended

theorem Serves.of_addExpression (serves : session.Serves known) {expression : Expression α}
    {name : String} {linear : Bool}
    (returned : outcome (addExpression expression name linear) session = (.ok equation, after)) :
    after.ServesMore known := by
  simp only [addExpression, outcome_bind_eq_ok, outcome_ofExcept_eq_ok] at returned
  obtain ⟨_, _, read, _, _, checked, _, _, ⟨_, rfl⟩, appended⟩ := returned
  cases read
  obtain rfl := outcome_checkNewEquation_eq_ok checked
  exact serves.of_appendToHorizon appended

/-- A session that differs from another one in what compiling changes: its registry and its
memory. -/
def IsCompiledFrom (session after : Session α) : Prop :=
  ∃ registry memory, after = { session with model := { session.model with registry }, memory }

/-- Equations that are compiled one after another join those that the session supports. -/
theorem Supports.of_recompileEach (supports : session.Supports known compiled)
    {stated again : List (Equation α)}
    (returned : outcome (stated.mapM recompileEquation) session = (.ok again, after)) :
    session.IsCompiledFrom after ∧ ∃ more : Evaluator α → Prop,
      (∀ evaluator, known evaluator → more evaluator) ∧
        after.Supports more (compiled ++ again) := by
  -- what has been compiled so far is supported, and the induction is on what is left
  induction stated generalizing session known compiled again with
  | nil =>
      cases returned
      exact ⟨⟨_, _, rfl⟩, known, fun _ => id,
        (List.append_nil compiled).symm ▸ supports⟩
  | cons first rest ih =>
      simp only [List.mapM_cons, recompileEquation, outcome_bind_eq_ok, outcome_act_eq_ok]
        at returned
      obtain ⟨_, between, ⟨_, _, read, ⟨evaluator, registry⟩, _, ⟨memory, compiling, rfl⟩, _, _,
        changed, made⟩, others, _, remaining, gave⟩ := returned
      cases read
      cases changed
      cases made
      cases gave
      have supportsFirst := supports.of_compile { first with evaluator } compiling
      obtain ⟨⟨registry, memory, rfl⟩, more, implies, supportsAll⟩ := ih supportsFirst remaining
      refine ⟨⟨registry, memory, rfl⟩, more, fun other old => implies other (Or.inl old), ?_⟩
      rw [List.append_cons]
      exact supportsAll

/-- Equations that are all compiled anew are the equations of the session. -/
theorem Serves.of_recompile (serves : session.Serves known) {done : Unit}
    (returned : outcome recompile session = (.ok done, after)) :
    ∃ more : Evaluator α → Prop, (∀ evaluator, known evaluator → more evaluator) ∧
      after.Supports more after.model.equations := by
  simp only [recompile, outcome_bind_eq_ok, outcome_act_eq_ok] at returned
  obtain ⟨_, _, read, _, _, emptied, again, _, compiling, _, _, readAgain, _, _, changed, _,
    recorded, rfl⟩ := returned
  cases read
  cases emptied
  cases readAgain
  cases changed
  cases recorded
  have none : Supports known []
      { session with
        model := { session.model with
          registry := { chunkLimit := session.model.options.chunkLimit } } } := by
    refine ⟨serves.memory, Registry.backs_nil rfl, ?_⟩
    intro equation member
    cases member
  obtain ⟨⟨registry, memory, rfl⟩, more, implies, supports⟩ := none.of_recompileEach compiling
  have recording := (Memory.Serves.isStable more _).record (.recompiled again.length
    session.model.name session.model.options.chunkLimit) memory supports.memory
  exact ⟨more, implies, recording.1, supports.backs, supports.equations⟩

/-- Putting the active form away leaves nothing to serve but the equations. -/
theorem Supports.of_restructure (supports : session.Supports known session.model.equations)
    {done : Unit}
    (returned : outcome (do restructure (← theModel)) session = (.ok done, after)) :
    after.Serves known := by
  cases returned
  refine ⟨⟨supports.memory, supports.backs, supports.equations⟩, ?_⟩
  rintro form ⟨⟩

theorem Serves.of_update [Numeral α] (serves : session.Serves known)
    {settings overrides : Settings α} {done : Unit}
    (returned : outcome (update settings overrides) session = (.ok done, after)) :
    after.ServesMore known := by
  simp only [update, outcome_bind_eq_ok, outcome_ofExcept_eq_ok] at returned
  obtain ⟨_, _, read, _, _, ⟨_, rfl⟩, options, _, ⟨_, rfl⟩, _, _, changed, rest⟩ := returned
  cases read
  cases changed
  have chosen : Serves known { session with model := { session.model with options } } :=
    ⟨⟨serves.memory, serves.backs, serves.equations⟩, serves.active⟩
  split at rest
  · obtain ⟨_, between, recompiled, restructuring⟩ := outcome_bind_eq_ok.mp rest
    obtain ⟨more, implies, supports⟩ := chosen.of_recompile recompiled
    exact ⟨more, implies, supports.of_restructure restructuring⟩
  · exact ⟨known, fun _ => id, chosen.toSupports.of_restructure rest⟩

end Equations

end Session

end Intertemporal
