import Intertemporal.Proofs.Expression.Declarations
import Intertemporal.Proofs.Expression.Places
import Intertemporal.Proofs.Model.Coherence
import Intertemporal.Proofs.Model.Contents
import Intertemporal.Proofs.Model.Entries

/-!
# Equations with and without words

An equation is stated by a text, or by an expression that was built without one. The two ways check
what they are given in different places: a text is resolved name by name while it is read, an
expression is searched for names that are not declared. They agree nevertheless. The expression of a
text that is accepted passes the search, and adding it gives the equation that the text gives, less
the words.

The registry finds what it has compiled before, so an expression that is added after its text is
evaluated by the evaluator of the text. This takes constants that are numbers: one that is no number
differs from itself.
-/

namespace Intertemporal

open Relation (ReflTransGen)

variable {α : Type} [Scalar α]

namespace Registry

variable {registry later : Registry α} {equations : List (Equation α)} {equation : Equation α}
  {limit : Int} {number next : Nat}

/-- What is found in a registry is found there ever after. -/
theorem Takes.find?_of_find? (taken : registry.Takes equation number next later)
    {key : EvaluatorKey α} {evaluator : Evaluator α}
    (found : registry.find? key = some evaluator) : later.find? key = some evaluator := by
  cases taken with
  | shared => exact found
  | built =>
      obtain ⟨entry, among, rfl⟩ := Option.map_eq_some_iff.mp found
      rw [find?, List.find?_append, among]
      rfl

/-- An equation of numbers is found by its key once it is taken up. -/
theorem Takes.find?_key (taken : registry.Takes equation number next later)
    (numeric : equation.expression.IsNumeric) :
    later.find? equation.key = some equation.evaluator := by
  cases taken with
  | shared found => exact found
  | built missing =>
      have absent := Option.map_eq_none_iff.mp missing
      have here : equation.key.same equation.key = true := EvaluatorKey.same_self numeric
      rw [find?, List.find?_append, absent, Option.none_or, List.find?_singleton]
      simp [here]

/-- A registry that has taken up equations finds the evaluators of those that consist of
numbers. -/
theorem Compiles.find?_key (compiles : Compiles limit registry equations number) :
    ∀ equation ∈ equations, equation.expression.IsNumeric →
      registry.find? equation.key = some equation.evaluator := by
  induction compiles with
  | nothing =>
      intro equation member
      cases member
  | further _ taken ih =>
      intro equation member numeric
      rcases List.mem_append.mp member with before | last
      · exact taken.find?_of_find? (ih equation before numeric)
      · obtain rfl := List.mem_singleton.mp last
        exact taken.find?_key numeric

/-- What is found is not compiled again. -/
theorem outcome_compile_of_find? {key : EvaluatorKey α} {evaluator : Evaluator α}
    (found : registry.find? key = some evaluator) (name : String) (memory : Memory α) :
    ∃ later after,
      outcome (registry.compile name key) memory = (.ok (evaluator, later), after) := by
  rw [compile, found]
  exact ⟨_, _, rfl⟩

end Registry

/-- An equation without the text that states it. -/
def Equation.wordless (equation : Equation α) : Equation α := { equation with source := "" }

omit [Scalar α] in
theorem Equation.Renews.trans {equation renewed last : Equation α} (first : equation.Renews renewed)
    (second : renewed.Renews last) : equation.Renews last := by
  rw [Renews, second, first]

/-- A model without the texts that state its equations. -/
def Model.wordless (model : Model α) : Model α :=
  { model with equations := model.equations.map Equation.wordless }

/-- A model that states one more equation. -/
def Model.stating (model : Model α) (equation : Equation α) (registry : Registry α) : Model α :=
  { model with
    registry
    equations := model.equations ++ [equation]
    horizon := equation.references.series.foldl Horizon.add model.horizon }

omit [Scalar α] in
theorem Model.wordless_stating (model : Model α) (equation : Equation α) (registry : Registry α) :
    (model.stating equation registry).wordless =
      model.wordless.stating equation.wordless registry := by
  rw [wordless, stating, List.map_append]
  rfl

namespace Session

variable {session : Session α} {expression : Expression α} {name : String}

/-- What is compiled is stated. -/
theorem outcome_appendToHorizon_of_compile {evaluator : Evaluator α} {registry : Registry α}
    {memory : Memory α}
    (compiled : outcome (session.model.registry.compile name ⟨expression, expression.references⟩)
      session.memory = (.ok (evaluator, registry), memory)) (linear : Bool) (source : String) :
    ∃ after,
      outcome (appendToHorizon name expression linear source) session =
        (.ok ⟨name, expression, expression.references, evaluator, linear, source⟩, after) ∧
      after.model = session.model.stating
        ⟨name, expression, expression.references, evaluator, linear, source⟩ registry := by
  simp only [appendToHorizon, append, outcome_bind, outcome_theModel, outcome_act, compiled]
  exact ⟨_, rfl, rfl⟩

/-- The text of an equation is kept and has no other effect. -/
theorem outcome_appendToHorizon_wordless (name : String) (expression : Expression α) (linear : Bool)
    (source : String) (session : Session α) :
    (outcome (appendToHorizon name expression linear "") session).1 =
        (outcome (appendToHorizon name expression linear source) session).1.map
          Equation.wordless ∧
      (outcome (appendToHorizon name expression linear "") session).2.model.wordless =
        (outcome (appendToHorizon name expression linear source) session).2.model.wordless := by
  rcases compiled : outcome (session.model.registry.compile name
    ⟨expression, expression.references⟩) session.memory with ⟨_ | ⟨evaluator, registry⟩, memory⟩
  · simp only [appendToHorizon, append, outcome_bind, outcome_theModel, outcome_act, compiled]
    exact ⟨rfl, trivial⟩
  · obtain ⟨after, ran, model⟩ := outcome_appendToHorizon_of_compile compiled linear ""
    obtain ⟨afterText, ranText, modelText⟩ :=
      outcome_appendToHorizon_of_compile compiled linear source
    rw [ran, ranText]
    refine ⟨rfl, ?_⟩
    rw [model, modelText, Model.wordless_stating, Model.wordless_stating]
    rfl

/-- A text that is accepted and its expression add the same equation, up to its words, or are
refused alike. -/
theorem outcome_addExpression_ofText {text place : String}
    (read : Expression.ofText session.model.symbols place text = .ok expression) (name : String)
    (linear : Bool) :
    (outcome (addExpression expression name linear) session).1 =
        (outcome (addEquation text name linear) session).1.map Equation.wordless ∧
      (outcome (addExpression expression name linear) session).2.model.wordless =
        (outcome (addEquation text name linear) session).2.model.wordless := by
  let fullName := nameFor session.model name
  have readHere := Expression.ofText_of_name session.model.symbols read fullName
  have checked : expression.checkReferences session.model.symbols
      ("equation '" ++ fullName ++ "'") = .ok () :=
    Expression.checkReferences_of_declares (Expression.isDeclared_ofText read).declares
  simp only [addExpression, addEquation, outcome_bind, outcome_theModel, outcome_ofExcept]
  rcases outcome_checkNewEquation session.model fullName session with ⟨fresh, -⟩ | ⟨reason, taken⟩
  · rw [fresh, checked, readHere]
    exact outcome_appendToHorizon_wordless fullName expression linear _ session
  · rw [taken]
    exact ⟨rfl, rfl⟩

/-- What has been added is stated with the references of its expression. -/
theorem of_appendToHorizon_eq_ok {linear : Bool} {source : String} {equation : Equation α}
    {after : Session α}
    (ran : outcome (appendToHorizon name expression linear source) session =
      (.ok equation, after)) :
    equation.name = name ∧ equation.expression = expression ∧
      equation.references = expression.references ∧
      after.model.equations = session.model.equations ++ [equation] := by
  rcases compiled : outcome (session.model.registry.compile name
    ⟨expression, expression.references⟩) session.memory with ⟨_ | ⟨evaluator, registry⟩, memory⟩
  · simp only [appendToHorizon, append, outcome_bind, outcome_theModel, outcome_act, compiled]
      at ran
    cases ran
  · obtain ⟨after, ranToo, model⟩ :=
      outcome_appendToHorizon_of_compile compiled linear source
    rw [ranToo] at ran
    cases ran
    exact ⟨rfl, rfl, rfl, congrArg (·.equations) model⟩

theorem of_addEquation_eq_ok {text place : String} {linear : Bool} {stated : Equation α}
    {after : Session α}
    (read : Expression.ofText session.model.symbols place text = .ok expression)
    (ran : outcome (addEquation text name linear) session = (.ok stated, after)) :
    stated.name = nameFor session.model name ∧ stated.expression = expression ∧
      stated.references = expression.references ∧
      after.model.equations = session.model.equations ++ [stated] := by
  have readHere :=
    Expression.ofText_of_name session.model.symbols read (nameFor session.model name)
  simp only [addEquation, outcome_bind, outcome_theModel, outcome_ofExcept] at ran
  rcases outcome_checkNewEquation session.model (nameFor session.model name) session with
    ⟨fresh, -⟩ | ⟨reason, taken⟩
  · rw [fresh, readHere] at ran
    exact of_appendToHorizon_eq_ok ran
  · rw [taken] at ran
    cases ran

/-- A session in which the expression of an equation can be added under every new name, and is
evaluated by the evaluator of the equation then. -/
def Repeats (session : Session α) (stated : Equation α) : Prop :=
  ∀ (name : String) (linear : Bool),
    (∀ other ∈ session.model.equations, other.name ≠ nameFor session.model name) →
    ∃ equation after,
      outcome (addExpression stated.expression name linear) session = (.ok equation, after) ∧
      equation.expression = stated.expression ∧ equation.references = stated.references ∧
      equation.evaluator = stated.evaluator

/-- An expression whose key is found gets the evaluator that is there. -/
theorem repeats_of_find? {stated : Equation α}
    (collected : stated.references = stated.expression.references)
    (declares : session.model.symbols.Declares stated.references)
    (found : session.model.registry.find? stated.key = some stated.evaluator) :
    session.Repeats stated := by
  intro name linear fresh
  rw [Equation.key, collected] at found
  rw [collected] at declares
  obtain ⟨registry, memory, compiled⟩ := Registry.outcome_compile_of_find? found
    (nameFor session.model name) session.memory
  obtain ⟨after, ran, -⟩ := outcome_appendToHorizon_of_compile compiled linear ""
  refine ⟨⟨nameFor session.model name, stated.expression, stated.expression.references,
    stated.evaluator, linear, ""⟩, after, ?_, rfl, collected.symm, rfl⟩
  simp only [addExpression, outcome_bind, outcome_theModel, outcome_ofExcept,
    outcome_checkNewEquation_of_new fresh, Expression.checkReferences_of_declares declares]
  exact ran

/-- An equation stays in the model, and is compiled anew at most. -/
theorem Step.exists_renews {whole : Prop} {after : Session α} (step : session.Step whole after)
    {stated : Equation α} (member : stated ∈ session.model.equations) :
    ∃ current ∈ after.model.equations, stated.Renews current := by
  cases step with
  | change changed grown =>
      generalize after.model = changedModel at changed
      cases changed <;> exact ⟨stated, member, rfl⟩
  | state _ _ _ _ _ restated =>
      rw [restated]
      exact ⟨stated, List.mem_append_left _ member, rfl⟩
  | recompile renewed _ _ restated =>
      rw [restated]
      exact exists_of_mem_left renewed member

theorem exists_renews_of_steps {whole : Prop} {origin : Session α}
    (steps : ReflTransGen (Step whole) origin session) {stated : Equation α}
    (member : stated ∈ origin.model.equations) :
    ∃ current ∈ session.model.equations, stated.Renews current := by
  induction steps with
  | refl => exact ⟨stated, member, rfl⟩
  | tail _ step ih =>
      obtain ⟨between, among, renewed⟩ := ih
      obtain ⟨current, amongLater, renewedToo⟩ := step.exists_renews among
      exact ⟨current, amongLater, renewed.trans renewedToo⟩

end Session

namespace Reachable

variable [Numeral α] {bench : Bench α}

/-- Whatever is requested, an equation that has been stated stays in the model. -/
theorem exists_renews (reachable : Reachable bench) (requests : List (Request α))
    {stated : Equation α} (member : stated ∈ bench.session.model.equations) :
    ∃ current ∈ (bench.run requests).session.model.equations, stated.Renews current := by
  induction requests generalizing bench stated with
  | nil => exact ⟨stated, member, rfl⟩
  | cons request rest ih =>
      have steps : ReflTransGen (Session.Step False) bench.session
          (request.perform bench).session := by
        rw [request.session_perform]
        exact request.steps_action reachable.isSound.session fun impossible => impossible.elim
      obtain ⟨between, among, renewed⟩ := Session.exists_renews_of_steps steps member
      obtain ⟨current, amongLater, renewedToo⟩ := ih (reachable.step request) among
      exact ⟨current, amongLater, renewed.trans renewedToo⟩

/-- Every equation of numbers can be repeated without its words. -/
theorem repeats (reachable : Reachable bench) {stated : Equation α}
    (member : stated ∈ bench.session.model.equations) (numeric : stated.expression.IsNumeric) :
    bench.session.Repeats stated :=
  Session.repeats_of_find? (reachable.isBuiltUp.collected stated member)
    (reachable.isBuiltUp.declares stated member)
    (reachable.isFiled.find?_key stated member numeric)

/-- The expression of an accepted text passes the check of expressions at every place. Adding it
gives the equation that the text gives, less its words, or fails alike. Once the text has been
added, the equation that states it stays in the model, and if its constants are numbers, adding its
expression under a new name succeeds and gives the evaluator of this equation, at once and after
whatever is requested in between. -/
theorem addExpression_ofText (reachable : Reachable bench) {text place : String}
    {expression : Expression α}
    (read : Expression.ofText bench.session.model.symbols place text = .ok expression) :
    (∀ place, expression.checkReferences bench.session.model.symbols place = .ok ()) ∧
      ∀ (name : String) (linear : Bool),
        (outcome (Session.addExpression expression name linear) bench.session).1 =
            (outcome (Session.addEquation text name linear) bench.session).1.map
              Equation.wordless ∧
          (outcome (Session.addExpression expression name linear) bench.session).2.model.wordless =
            (outcome (Session.addEquation text name linear) bench.session).2.model.wordless ∧
          ∀ stated after,
            outcome (Session.addEquation text name linear) bench.session = (.ok stated, after) →
            stated.expression = expression ∧ stated.references = expression.references ∧
              (expression.IsNumeric → after.Repeats stated ∧
                ∀ requests : List (Request α),
                  let later := bench.run (.addEquation text name linear :: requests)
                  ∃ current ∈ later.session.model.equations,
                    stated.Renews current ∧ later.session.Repeats current) := by
  refine ⟨fun _ => Expression.checkReferences_of_declares
    (Expression.isDeclared_ofText read).declares, fun name linear => ?_⟩
  obtain ⟨results, models⟩ := Session.outcome_addExpression_ofText read name linear
  refine ⟨results, models, fun stated after ran => ?_⟩
  obtain ⟨-, expressions, references, equations⟩ := Session.of_addEquation_eq_ok read ran
  have member : stated ∈ after.model.equations := equations ▸ List.mem_concat_self
  have performed : ((Request.addEquation text name linear).perform bench).session = after := by
    rw [Request.session_perform, Request.action, Session.outcome_then_pure, ran]
  have reachableAfter := reachable.step (.addEquation text name linear)
  subst expressions performed
  refine ⟨rfl, references, fun numeric => ⟨reachableAfter.repeats member numeric, ?_⟩⟩
  intro requests later
  obtain ⟨current, among, renewed⟩ := reachableAfter.exists_renews requests member
  have same : current.expression = stated.expression := congrArg (·.expression) renewed
  exact ⟨current, among, renewed,
    (reachableAfter.run requests).repeats among (same ▸ numeric)⟩

/-- A model of two series without equations. -/
noncomputable def pair : Bench ℝ :=
  Bench.run { session := .start "pair" { tolerance := 0, variant := .plain, chunkLimit := 4 } }
    [.addVariable { name := "x" }, .addVariable { name := "y" }]

/-- The difference of a lag and a lead, by text and then by its expression. -/
theorem addExpression_lag_sub :
    ∃ stated after, outcome (Session.addEquation "lag(x) - y[t+1]" "stated" false) pair.session =
        (.ok stated, after) ∧
      stated.references = ⟨[⟨"x", -1⟩, ⟨"y", 1⟩], [], []⟩ ∧
      ∃ repeated later,
        outcome (Session.addExpression
          (.binary .sub (.series ⟨"x", -1⟩) (.series ⟨"y", 1⟩)) "repeated" false) after =
          (.ok repeated, later) ∧
        repeated.evaluator = stated.evaluator := by
  have reachable : Reachable pair := (Reachable.start _ _).run _
  have read : Expression.ofText pair.session.model.symbols "" "lag(x) - y[t+1]" =
      .ok (.binary .sub (.series ⟨"x", -1⟩) (.series ⟨"y", 1⟩)) := Expression.ofText_lag_sub
  obtain ⟨-, added⟩ := reachable.addExpression_ofText read
  obtain ⟨results, -, once⟩ := added "stated" false
  have accepted : ∃ equation after, outcome (Session.addExpression
      (.binary .sub (.series ⟨"x", -1⟩) (.series ⟨"y", 1⟩)) "stated" false) pair.session =
        (.ok equation, after) := by
    refine (Session.exists_addExpression_of_new (fun _ => by decide) (by decide) ?_
      (Expression.isDeclared_ofText read).declares).imp fun _ => Exists.imp fun _ => And.left
    rintro other ⟨⟩
  obtain ⟨equation, _, ran⟩ := accepted
  rw [ran] at results
  rcases stating : outcome (Session.addEquation "lag(x) - y[t+1]" "stated" false) pair.session with
    ⟨_ | stated, after⟩
  · rw [stating] at results
    cases results
  · obtain ⟨expressions, references, repeats⟩ := once stated after stating
    obtain ⟨named, -, -, equations⟩ := Session.of_addEquation_eq_ok read stating
    refine ⟨stated, after, rfl, references, ?_⟩
    have numeric : Expression.IsNumeric
        (.binary .sub (.series ⟨"x", -1⟩) (.series ⟨"y", 1⟩) : Expression ℝ) := by
      simp [Expression.IsNumeric, Scalar.isNumber]
    have fresh : ∀ other ∈ after.model.equations,
        other.name ≠ Session.nameFor after.model "repeated" := by
      rw [equations]
      intro other member
      obtain rfl := List.mem_singleton.mp member
      rw [named]
      change "stated" ≠ "repeated"
      decide
    obtain ⟨repeated, later, again, -, -, same⟩ := (repeats numeric).1 "repeated" false fresh
    exact ⟨repeated, later, expressions ▸ again, same⟩

end Reachable

end Intertemporal
