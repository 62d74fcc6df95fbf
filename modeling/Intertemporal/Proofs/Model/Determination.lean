import Intertemporal.Proofs.Model.Restatement
import Intertemporal.Proofs.Model.Serving
import Intertemporal.Proofs.System.Rebuilding

/-!
# Models are determined by their contents

The contents of a model say what it has been given, in order, and nothing about how it came to be.
Two registries that have taken up the same expressions under the same names hold the same evaluators
up to their numbers, so models with the same contents have the same bare form. If all requests that
led to them have succeeded, they evaluate alike once their forms are built anew.
-/

namespace Intertemporal

variable {α : Type}

/-- The same entries with bare evaluators. -/
def Registry.bare (registry : Registry α) : Registry α :=
  { registry with
    entries := registry.entries.map fun entry => { entry with evaluator := entry.evaluator.bare } }

section Registries

variable [Scalar α]

theorem Registry.find?_bare (registry : Registry α) (key : EvaluatorKey α) :
    registry.bare.find? key = (registry.find? key).map Evaluator.bare := by
  rw [find?, find?, bare, List.find?_map, Option.map_map, Option.map_map]
  rfl

omit [Scalar α] in
/-- Evaluators that are built for the same key compute the same. -/
theorem Evaluator.IsBuiltFor.bare_eq {evaluator other : Evaluator α} {limit : Int}
    {name nameRight : String} {key : EvaluatorKey α}
    (built : evaluator.IsBuiltFor limit name key)
    (builtRight : other.IsBuiltFor limit nameRight key) : evaluator.bare = other.bare := by
  have programs : evaluator.program = other.program :=
    Except.ok.inj (built.program_eq.symm.trans builtRight.program_eq)
  rw [Evaluator.bare, Evaluator.bare, programs, built.inputs_eq, builtRight.inputs_eq,
    built.parameters_eq, builtRight.parameters_eq, built.chunk_eq, builtRight.chunk_eq]

namespace Registry

variable {registry registryRight later laterRight : Registry α}
  {equation equationRight : Equation α} {number next numberRight nextRight : Nat}

omit [Scalar α] in
theorem bare_extend (registry : Registry α) (key : EvaluatorKey α) (evaluator : Evaluator α) :
    ({ registry with
        entries := registry.entries ++ [⟨registry.fingerprint key, key, evaluator⟩] } :
      Registry α).bare =
      { registry.bare with
        entries := registry.bare.entries ++
          [⟨registry.bare.fingerprint key, key, evaluator.bare⟩] } := by
  rw [bare, List.map_append]
  rfl

/-- Registries that hold the same take up an equation alike. -/
theorem Takes.bare_eq (registries : registry.bare = registryRight.bare)
    (stated : equation.stated = equationRight.stated)
    (references : equation.references = equationRight.references)
    (taken : registry.Takes equation number next later)
    (takenRight : registryRight.Takes equationRight numberRight nextRight laterRight) :
    equation.bare = equationRight.bare ∧ later.bare = laterRight.bare := by
  have key : equation.key = equationRight.key := by
    rw [Equation.key, Equation.key, references]
    exact congrArg (EvaluatorKey.mk · _) (congrArg StatedExpression.expression stated)
  have found : (registry.find? equation.key).map Evaluator.bare =
      (registryRight.find? equationRight.key).map Evaluator.bare := by
    rw [← find?_bare, ← find?_bare, registries, key]
  have limits : registry.chunkLimit = registryRight.chunkLimit :=
    (congrArg Registry.chunkLimit registries :)
  have equations : equation.evaluator.bare = equationRight.evaluator.bare →
      equation.bare = equationRight.bare := by
    intro evaluators
    obtain ⟨name, expression, linear⟩ := StatedExpression.mk.inj stated
    rw [Equation.bare, Equation.bare, name, expression, references, evaluators, linear]
  cases taken with
  | shared foundLeft _ =>
      rw [foundLeft] at found
      cases takenRight with
      | shared foundRight _ =>
          rw [foundRight] at found
          refine ⟨equations (Option.some.inj found), ?_⟩
          exact congrArg (fun registry : Registry α =>
            { registry with hits := registry.hits + 1 }) registries
      | built missing _ _ _ =>
          rw [missing] at found
          cases found
  | built missing built _ _ =>
      rw [missing] at found
      cases takenRight with
      | shared foundRight _ =>
          rw [foundRight] at found
          cases found
      | built _ builtRight _ _ =>
          rw [limits, key] at built
          have evaluators := built.bare_eq builtRight
          refine ⟨equations evaluators, ?_⟩
          rw [bare_extend, bare_extend, registries, key, evaluators]

/-- Registries that have taken up the same expressions under the same names hold the same. -/
theorem Compiles.bare_eq {limit : Int} {equations equationsRight : List (Equation α)}
    (stated : equations.map (fun equation => (equation.stated, equation.references)) =
      equationsRight.map fun equation => (equation.stated, equation.references))
    (compiles : Compiles limit registry equations number)
    (compilesRight : Compiles limit registryRight equationsRight numberRight) :
    equations.map Equation.bare = equationsRight.map Equation.bare ∧
      registry.bare = registryRight.bare := by
  induction compiles generalizing registryRight equationsRight numberRight with
  | nothing =>
      cases compilesRight with
      | nothing => exact ⟨rfl, rfl⟩
      | further => simp at stated
  | further _ taken ih =>
      cases compilesRight with
      | nothing => simp at stated
      | further compilesRight takenRight =>
          rw [List.map_append, List.map_append] at stated
          obtain ⟨before, last⟩ := List.append_inj' stated rfl
          obtain ⟨same, references⟩ := Prod.mk.inj (List.singleton_inj.mp last)
          obtain ⟨equations, registries⟩ := ih before compilesRight
          obtain ⟨equation, later⟩ := taken.bare_eq registries same references takenRight
          rw [List.map_append, List.map_append, equations, List.map_singleton,
            List.map_singleton, equation]
          exact ⟨rfl, later⟩

end Registry

/-- Models with the same contents have the same bare form, however they were reached. -/
theorem Model.bare_eq_of_contents_eq {session other : Session α}
    (builtUp : session.model.IsBuiltUp) (filed : session.IsFiled)
    (builtUpRight : other.model.IsBuiltUp) (filedRight : other.IsFiled)
    (same : session.model.contents = other.model.contents) :
    session.model.bare = other.model.bare := by
  have options : session.model.options = other.model.options := (congrArg Contents.options same :)
  have stated : session.model.equations.map
        (fun equation => (equation.stated, equation.references)) =
      other.model.equations.map fun equation => (equation.stated, equation.references) := by
    have collected : ∀ {model : Model α}, model.IsBuiltUp →
        model.equations.map (fun equation => (equation.stated, equation.references)) =
          model.contents.equations.map fun stated => (stated, stated.expression.references) := by
      intro model builtUp
      rw [contents, List.map_map]
      exact List.map_congr_left fun equation member =>
        congrArg (Prod.mk _) (builtUp.collected equation member)
    rw [collected builtUp, same, collected builtUpRight]
  unfold Session.IsFiled at filed
  rw [options] at filed
  obtain ⟨equations, _⟩ := filed.bare_eq stated filedRight
  have horizon : session.model.horizon = other.model.horizon := by
    rw [builtUp.horizon_eq, builtUpRight.horizon_eq]
    have series := congrArg (List.flatMap (·.2.series)) stated
    rw [List.flatMap_map, List.flatMap_map] at series
    rw [series]
  have name : session.model.name = other.model.name := (congrArg Contents.name same :)
  have symbols : session.model.symbols = other.model.symbols := (congrArg Contents.symbols same :)
  have values : session.model.calibration.values = other.model.calibration.values :=
    (congrArg Contents.values same :)
  have trends : session.model.steadyState = other.model.steadyState :=
    (congrArg Contents.steadyState same :)
  simp only [Model.bare, Calibration.bare, Calibration.copy, name, symbols, equations, values,
    trends, options, horizon]

end Registries

namespace Session

variable [Scalar α]

/-- The residuals at a point, once the form that the options choose has been built anew. -/
def residualsAnew (point : NumberArray α) : SessionAction α (List α) := do
  let _ ← refresh
  residuals (← form) point

/-- The residuals and the Jacobian at a point, once the form that the options choose has been built
anew. -/
def residualsAndJacobianAnew (point : NumberArray α) :
    SessionAction α (List α × SparseMatrix α) := do
  let _ ← refresh
  residualsAndJacobian (← form) point

/-- An evaluation with the present values of parameters, once the form has been built anew. -/
def evaluateAnew {β : Type} (evaluate : ModelForm α → Calibration α → Action α β) :
    SessionAction α β := do
  let _ ← refresh
  let built ← form
  act (evaluate built (← theModel).calibration)

/-- What is evaluated with a form that was built anew does not show which form was active. -/
theorem outcome_evaluateAnew {β : Type} (evaluate : ModelForm α → Calibration α → Action α β)
    (session : Session α) :
    (outcome (evaluateAnew evaluate) session).1 =
      (outcome (do
        let built ← ModelForm.ofModel session.model session.model.options.variant
        evaluate built session.model.calibration) session.memory).1 := by
  simp only [evaluateAnew, refresh, outcome_bind, outcome_theModel, outcome_build]
  rcases outcome (ModelForm.ofModel session.model session.model.options.variant) session.memory with
    ⟨reason | built, memory⟩
  · rfl
  · rfl

/-- A session evaluates as another one does once their forms are built anew: at every point both
return the same, or fail with the same reason. -/
def EvaluatesAs (session other : Session α) : Prop :=
  ∀ point,
    (outcome (residualsAnew point) session).1 = (outcome (residualsAnew point) other).1 ∧
    (outcome (residualsAndJacobianAnew point) session).1 =
      (outcome (residualsAndJacobianAnew point) other).1

/-- Sound sessions whose evaluators serve them evaluate alike if their models have the same bare
form. -/
theorem evaluatesAs_of_bare_eq {known knownRight : Evaluator α → Prop} {session other : Session α}
    (serves : session.Serves known) (sound : session.IsSound)
    (servesRight : other.Serves knownRight) (soundRight : other.IsSound)
    (same : session.model.bare = other.model.bare) : session.EvaluatesAs other := by
  have hosts : Memory.HostBoth known knownRight session.model.calibration other.model.calibration
      session.memory other.memory :=
    ⟨⟨serves.memory, sound.memory⟩, servesRight.memory, soundRight.memory⟩
  have variants : session.model.options.variant = other.model.options.variant :=
    (congrArg (·.options.variant) same :)
  have alike : ∀ {β : Type} (evaluate : ModelForm α → Calibration α → Action α β),
      Matches
        (Memory.HostBoth known knownRight session.model.calibration other.model.calibration)
        (do
          let built ← ModelForm.ofModel session.model session.model.options.variant
          evaluate built session.model.calibration)
        (do
          let built ← ModelForm.ofModel other.model session.model.options.variant
          evaluate built other.model.calibration) Eq →
      (outcome (evaluateAnew evaluate) session).1 = (outcome (evaluateAnew evaluate) other).1 := by
    intro β evaluate followed
    rw [outcome_evaluateAnew, outcome_evaluateAnew, (followed _ _ hosts).2.eq, variants]
  intro point
  constructor
  · exact alike (fun form calibration => form.residuals calibration point)
      (ModelForm.matches_residuals serves.equations sound.model servesRight.equations
        soundRight.model same _ point)
  · exact alike (fun form calibration => form.residualsAndJacobian calibration point)
      (ModelForm.matches_residualsAndJacobian serves.equations sound.model servesRight.equations
        soundRight.model same _ point)

end Session

section Runs

variable [Scalar α] [Numeral α] {bench other : Bench α}

/-- Runs that give a model the same contents make it evaluate alike. -/
theorem Attained.evaluatesAs_of_contents_eq (attained : Attained bench)
    (attainedToo : Attained other)
    (same : bench.session.model.contents = other.session.model.contents) :
    bench.session.EvaluatesAs other.session := by
  have reachable := attained.reachable
  have reachableToo := attainedToo.reachable
  obtain ⟨known, serves⟩ := attained.exists_serves
  obtain ⟨knownToo, servesToo⟩ := attainedToo.exists_serves
  have bare := Model.bare_eq_of_contents_eq reachable.isBuiltUp reachable.isFiled
    reachableToo.isBuiltUp reachableToo.isFiled same
  exact Session.evaluatesAs_of_bare_eq serves.session reachable.isSound.session servesToo.session
    reachableToo.isSound.session bare

/-- Whatever requests have led to a model, if all of them succeeded, it can be stated again from its
contents alone, and any model with these contents evaluates as it does. -/
theorem Fulfilled.evaluatesAs_restated (fulfilled : Fulfilled bench) :
    bench.session.model.anew.allSucceed bench.session.model.restated ∧
    (bench.session.model.anew.run bench.session.model.restated).session.model.contents =
      bench.session.model.contents ∧
    bench.session.EvaluatesAs
      (bench.session.model.anew.run bench.session.model.restated).session ∧
    ∀ other, Fulfilled other → other.session.model.contents = bench.session.model.contents →
      bench.session.EvaluatesAs other.session := by
  have reachable := fulfilled.attained.reachable
  obtain ⟨succeeded, contents⟩ := Model.restates reachable.isBuiltUp fulfilled.isWhole
    reachable.isFiled.room
  have restated : Fulfilled (bench.session.model.anew.run bench.session.model.restated) :=
    (Fulfilled.start _ _).run succeeded
  have alike : ∀ other, Fulfilled other →
      other.session.model.contents = bench.session.model.contents →
      bench.session.EvaluatesAs other.session := fun other fulfilledToo same =>
    fulfilled.attained.evaluatesAs_of_contents_eq fulfilledToo.attained same.symm
  exact ⟨succeeded, contents, alike _ restated contents, alike⟩

end Runs

/-- A multiple of the value of a series, less its value a period before. -/
def growth : Expression ℝ :=
  .binary .sub (.binary .mul (.parameter "p" none) (.series ⟨"x", 0⟩)) (.series ⟨"x", -1⟩)

/-- A model that is evaluated, and whose values change, before it is complete. -/
noncomputable def wandering : Bench ℝ :=
  Bench.run { session := .start "pair" { tolerance := 0, variant := .plain, chunkLimit := 4 } }
    [.addVariable { name := "x" }, .addParameter { name := "p" } (.number 1),
      .addExpression growth "first" false, .install .plain,
      .residuals none ⟨[2, 1], [1, 4]⟩, .addShock { name := "e" },
      .setParameters [("p", .number (1 + 1))], .hold, .setSteadyState "x" (.number 4) (.number 0),
      .addExpression (.binary .sub (.series ⟨"x", 0⟩) (.series ⟨"e", 0⟩)) "second" true]

/-- The same model, declared at once and never evaluated. -/
noncomputable def straight : Bench ℝ :=
  Bench.run { session := .start "pair" { tolerance := 0, variant := .plain, chunkLimit := 4 } }
    [.addParameter { name := "p" } (.number (1 + 1)), .addVariable { name := "x" },
      .addShock { name := "e" }, .setSteadyState "x" (.number 4) (.number 0),
      .addExpression growth "first" false,
      .addExpression (.binary .sub (.series ⟨"x", 0⟩) (.series ⟨"e", 0⟩)) "second" true]

set_option maxRecDepth 1000 in
/-- Both runs give the model the same contents, so what the one evaluates tells what the other one
does. -/
theorem Fulfilled.evaluatesAs_straight :
    Fulfilled wandering ∧ wandering.session.EvaluatesAs straight.session ∧
      (outcome (Session.residualsAnew ⟨[2, 2], [1, 0, 4, 5]⟩) wandering.session).1 =
        .ok [2 * 4 - 1, 4 - 5] := by
  have wanders : Fulfilled wandering := (Fulfilled.start _ _).run (by decide +kernel)
  have runs : Fulfilled straight := (Fulfilled.start _ _).run (by decide +kernel)
  obtain ⟨_, _, _, others⟩ := wanders.evaluatesAs_restated
  have alike : wandering.session.EvaluatesAs straight.session := others straight runs rfl
  have evaluated : (outcome (Session.residualsAnew ⟨[2, 2], [1, 0, 4, 5]⟩) wandering.session).1 =
      .ok [(1 + 1) * 4 - 1, 4 - 5] := (alike _).1.trans rfl
  rw [one_add_one_eq_two] at evaluated
  exact ⟨wanders, alike, evaluated⟩

end Intertemporal
