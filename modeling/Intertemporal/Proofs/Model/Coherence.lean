import Intertemporal.Proofs.Exact
import Intertemporal.Proofs.Failures
import Intertemporal.Proofs.Horizon
import Intertemporal.Proofs.Model.Steps
import Intertemporal.Proofs.Tables

/-!
# Coherent models

A model keeps what it knows in several tables that are updated apart: the declared symbols, the
equations with their references, the horizon, and the steady states. In every state of a run they
fit together, also after requests that failed. Building a system therefore finds every place that it
looks up.
-/

namespace Intertemporal

variable {α : Type}

/-- A model whose tables fit together: names are declared once, equations list what they refer to
and refer to what is declared, the horizon is that of the equations, and exactly the series have a
steady state, which is zero for shocks. -/
structure Model.IsCoherent [Scalar α] (model : Model α) : Prop where
  symbols : model.symbols.names.Nodup
  equations : (model.equations.map (·.name)).Nodup
  references : ∀ equation ∈ model.equations,
    equation.references.IsRecordOf equation.expression.nodes ∧
      model.symbols.Declares equation.references
  incidence : ∀ name, (model.horizon.incidence.getD name []).Nodup ∧
    ∀ offset, offset ∈ model.horizon.incidence.getD name [] ↔
      ∃ equation ∈ model.equations, .series ⟨name, offset⟩ ∈ equation.expression.nodes
  lags : IsGreatest {lag | lag = 0 ∨ ∃ name, ∃ offset ∈ model.horizon.incidence.getD name [],
    lag = -offset} model.horizon.lags
  leads : IsGreatest {lead | lead = 0 ∨ ∃ name, ∃ offset ∈ model.horizon.incidence.getD name [],
    lead = offset} model.horizon.leads
  trends : model.steadyState.keys.Perm model.symbols.seriesNames
  shocks : ∀ name ∈ model.symbols.shockNames,
    model.steadyState.get? name = some ⟨Scalar.zero, Scalar.zero, true⟩

/-- The name of a variable or a shock. -/
def seriesName : Variable ⊕ Shock → String
  | .inl declared => declared.name
  | .inr declared => declared.name

/-- A table whose variables and shocks were declared in a given order. -/
structure SymbolTable.IsOrderedAs (symbols : SymbolTable) (series : List (Variable ⊕ Shock)) :
    Prop where
  allVariables_eq : symbols.allVariables = series.filterMap Sum.getLeft?
  shocks_eq : symbols.shocks = series.filterMap Sum.getRight?

theorem SymbolTable.IsOrderedAs.perm {symbols : SymbolTable} {series : List (Variable ⊕ Shock)}
    (ordered : symbols.IsOrderedAs series) :
    (series.map seriesName).Perm symbols.seriesNames := by
  rw [seriesNames, variableNames, shockNames, ordered.allVariables_eq, ordered.shocks_eq]
  clear ordered
  induction series with
  | nil => exact .nil
  | cons first rest ih =>
      rcases first with added | added
      · exact ih.cons added.name
      · exact (ih.cons added.name).trans List.perm_middle.symm

namespace SteadyState

variable [Scalar α] {trends : SteadyState α} {name : String}

theorem keys_register (fresh : name ∉ trends.keys) (solved : Bool) :
    (trends.register name solved).keys = trends.keys ++ [name] := by
  rw [register, Table.insertNew_of_notMem fresh, Table.keys_insert_of_notMem fresh]

theorem get?_register (fresh : name ∉ trends.keys) (solved : Bool) (other : String) :
    (trends.register name solved).get? other =
      if other = name then some ⟨Scalar.zero, Scalar.zero, solved⟩ else trends.get? other := by
  rw [register, Table.insertNew_of_notMem fresh, Table.get?_insert]
  simp only [beq_iff_eq]

/-- Setting a trend changes no other one and adds none. -/
theorem set_spec (trends : SteadyState α) (name : String) (level slope : Datum α)
    (solved : Bool) :
    (trends.set name level slope solved).1.keys = trends.keys ∧
      ∀ other, other ≠ name →
        (trends.set name level slope solved).1.get? other = trends.get? other := by
  have inserted : ∀ before after : Trend α, trends.get? name = some before →
      (trends.insert name after).keys = trends.keys ∧
        ∀ other, other ≠ name → (trends.insert name after).get? other = trends.get? other := by
    intro before after found
    refine ⟨Table.keys_insert_of_mem (Table.mem_keys_iff.mpr ⟨before, found⟩) after, ?_⟩
    intro other differs
    rw [Table.get?_insert, if_neg (by simpa using differs)]
  unfold set
  split
  · exact ⟨rfl, fun _ _ => rfl⟩
  · rename_i before found
    split
    · exact ⟨rfl, fun _ _ => rfl⟩
    · exact inserted before _ found
    · exact inserted before _ found

end SteadyState

/-- What steps keep of the tables of a model. -/
structure Model.IsBuiltUp [Scalar α] (model : Model α) : Prop where
  symbols : model.symbols.IsDistinct
  named : (model.equations.map (·.name)).Nodup
  collected : ∀ equation ∈ model.equations, equation.references = equation.expression.references
  declares : ∀ equation ∈ model.equations, model.symbols.Declares equation.references
  horizon_eq : model.horizon = (model.equations.flatMap (·.references.series)).foldl Horizon.add {}
  ordered : ∃ series, model.symbols.IsOrderedAs series ∧
    model.steadyState.keys = series.map seriesName
  shocks : ∀ name ∈ model.symbols.shockNames,
    model.steadyState.get? name = some ⟨Scalar.zero, Scalar.zero, true⟩

namespace Model

variable [Scalar α] {whole : Prop} {model later : Model α}

theorem isBuiltUp_blank (name : String) (options : Options α) :
    (Model.blank name options).IsBuiltUp where
  symbols := List.nodup_nil
  named := List.nodup_nil
  collected := by rintro equation ⟨⟩
  declares := by rintro equation ⟨⟩
  horizon_eq := rfl
  ordered := ⟨[], ⟨rfl, rfl⟩, rfl⟩
  shocks := by rintro name ⟨⟩

theorem IsBuiltUp.perm (builtUp : model.IsBuiltUp) :
    model.steadyState.keys.Perm model.symbols.seriesNames := by
  obtain ⟨series, ordered, keys⟩ := builtUp.ordered
  exact keys ▸ ordered.perm

/-- A name that is not declared has no steady state. -/
theorem IsBuiltUp.notMem_keys (builtUp : model.IsBuiltUp) {name : String}
    (fresh : name ∉ model.symbols.names) : name ∉ model.steadyState.keys :=
  fun member => fresh (List.mem_append_left _ (builtUp.perm.mem_iff.mp member))

theorem IsBuiltUp.of_declareVariable (builtUp : model.IsBuiltUp) {added : Variable}
    {symbols : SymbolTable} (declared : model.symbols.addVariable added = .ok symbols) :
    IsBuiltUp
      { model with symbols, steadyState := model.steadyState.register added.name false } := by
  have distinct := SymbolTable.isDistinct_addVariable builtUp.symbols declared
  obtain ⟨fresh, rfl⟩ := SymbolTable.of_addVariable declared
  have unregistered := builtUp.notMem_keys fresh
  obtain ⟨series, ordered, keys⟩ := builtUp.ordered
  refine ⟨distinct, builtUp.named, builtUp.collected, ?_, builtUp.horizon_eq, ?_, ?_⟩
  · intro equation member
    refine (builtUp.declares equation member).mono ?_ (List.Subset.refl _) (List.Subset.refl _)
    simp [SymbolTable.variableNames]
  · refine ⟨series ++ [.inl added], ⟨?_, ?_⟩, ?_⟩
    · simp [ordered.allVariables_eq]
    · simp [ordered.shocks_eq]
    · rw [SteadyState.keys_register unregistered, keys, List.map_append]
      rfl
  · intro name member
    rw [SteadyState.get?_register unregistered, if_neg]
    · exact builtUp.shocks name member
    · rintro rfl
      exact fresh (List.mem_append_left _ (List.mem_append_right _ member))

theorem IsBuiltUp.of_declareShock (builtUp : model.IsBuiltUp) {added : Shock}
    {symbols : SymbolTable} (declared : model.symbols.addShock added = .ok symbols) :
    IsBuiltUp
      { model with symbols, steadyState := model.steadyState.register added.name true } := by
  have distinct := SymbolTable.isDistinct_addShock builtUp.symbols declared
  obtain ⟨fresh, rfl⟩ := SymbolTable.of_addShock declared
  have unregistered := builtUp.notMem_keys fresh
  obtain ⟨series, ordered, keys⟩ := builtUp.ordered
  refine ⟨distinct, builtUp.named, builtUp.collected, ?_, builtUp.horizon_eq, ?_, ?_⟩
  · intro equation member
    refine (builtUp.declares equation member).mono (List.Subset.refl _) ?_ (List.Subset.refl _)
    simp [SymbolTable.shockNames]
  · refine ⟨series ++ [.inr added], ⟨?_, ?_⟩, ?_⟩
    · simp [ordered.allVariables_eq]
    · simp [ordered.shocks_eq]
    · rw [SteadyState.keys_register unregistered, keys, List.map_append]
      rfl
  · intro name member
    rw [SteadyState.get?_register unregistered]
    split
    · rfl
    · rename_i differs
      simp only [SymbolTable.shockNames, List.map_append, List.map_singleton, List.mem_append,
        List.mem_singleton] at member
      exact builtUp.shocks name (member.resolve_right differs)

theorem IsBuiltUp.of_changes (builtUp : model.IsBuiltUp) (changed : model.Changes whole later) :
    later.IsBuiltUp := by
  obtain ⟨symbols, named, collected, declares, horizon, ordered, shocks⟩ := builtUp
  have builtUp : model.IsBuiltUp :=
    ⟨symbols, named, collected, declares, horizon, ordered, shocks⟩
  cases changed with
  | nothing => exact builtUp
  | declareVariable declared => exact builtUp.of_declareVariable declared
  | declareShock declared => exact builtUp.of_declareShock declared
  | declareParameter declared _ =>
      have distinct := SymbolTable.isDistinct_addParameter symbols declared
      obtain ⟨_, rfl⟩ := SymbolTable.of_addParameter declared
      refine ⟨distinct, named, collected, ?_, horizon, ?_, shocks⟩
      · intro equation member
        refine (declares equation member).mono (List.Subset.refl _) (List.Subset.refl _) ?_
        simp [SymbolTable.parameterNames]
      · obtain ⟨series, ⟨ofVariables, ofShocks⟩, keys⟩ := ordered
        exact ⟨series, ⟨ofVariables, ofShocks⟩, keys⟩
  | assign => exact ⟨symbols, named, collected, declares, horizon, ordered, shocks⟩
  | @solve name level slope declared stored =>
      obtain ⟨keys, others⟩ := model.steadyState.set_spec name level slope true
      refine ⟨symbols, named, collected, declares, horizon, ?_, ?_⟩
      · obtain ⟨series, isOrdered, same⟩ := ordered
        exact ⟨series, isOrdered, keys.trans same⟩
      · intro shock member
        rw [others shock]
        · exact shocks shock member
        · rintro rfl
          exact List.disjoint_of_nodup_append symbols.nodup_seriesNames declared member
  | choose => exact ⟨symbols, named, collected, declares, horizon, ordered, shocks⟩

/-- Equations that are compiled anew state and refer to the same. -/
theorem IsBuiltUp.renew (builtUp : model.IsBuiltUp) {options : Options α}
    {equations : List (Equation α)} {registry : Registry α}
    (renewed : List.Forall₂ Equation.Renews model.equations equations) :
    IsBuiltUp { model with options, equations, registry } := by
  have same : ∀ {β : Type} (read : Equation α → β),
      (∀ equation evaluator, read { equation with evaluator } = read equation) →
        equations.map read = model.equations.map read := by
    intro β read ignores
    refine map_eq_map_of_forall₂ renewed fun equation _ again renews => ?_
    rw [renews]
    exact ignores equation again.evaluator
  have each : ∀ again ∈ equations, ∃ equation ∈ model.equations, equation.Renews again :=
    fun again member => exists_of_mem_right renewed member
  refine ⟨builtUp.symbols, ?_, ?_, ?_, ?_, builtUp.ordered, builtUp.shocks⟩
  · rw [same (·.name) fun _ _ => rfl]
    exact builtUp.named
  · intro again member
    obtain ⟨equation, among, renews⟩ := each again member
    rw [renews]
    exact builtUp.collected equation among
  · intro again member
    obtain ⟨equation, among, renews⟩ := each again member
    rw [renews]
    exact builtUp.declares equation among
  · rw [List.flatMap_def, same (·.references.series) fun _ _ => rfl, ← List.flatMap_def]
    exact builtUp.horizon_eq

theorem IsBuiltUp.of_step {before after : Session α} (builtUp : before.model.IsBuiltUp)
    (step : before.Step whole after) : after.model.IsBuiltUp := by
  cases step with
  | change changed _ => exact builtUp.of_changes changed
  | @state equation registry _ fresh collected declares _ stated =>
      rw [stated]
      refine ⟨builtUp.symbols, ?_, ?_, ?_, ?_, builtUp.ordered, builtUp.shocks⟩
      · rw [List.map_append, List.map_singleton, ← List.concat_eq_append,
          List.nodup_concat]
        refine ⟨fun member => ?_, builtUp.named⟩
        obtain ⟨other, among, same⟩ := List.mem_map.mp member
        exact fresh other among same
      · exact List.forall_mem_append.mpr
          ⟨builtUp.collected, List.forall_mem_singleton.mpr collected⟩
      · exact List.forall_mem_append.mpr
          ⟨builtUp.declares, List.forall_mem_singleton.mpr declares⟩
      · rw [List.flatMap_append, List.foldl_append, ← builtUp.horizon_eq, List.flatMap_singleton]
  | recompile renewed _ _ restated =>
      rw [restated]
      exact builtUp.renew renewed

theorem IsBuiltUp.horizon (builtUp : model.IsBuiltUp) :
    model.horizon.IsOf (model.equations.flatMap (·.references.series)) :=
  builtUp.horizon_eq ▸ Horizon.isOf_foldl _

/-- What an equation refers to is in the horizon. -/
theorem IsBuiltUp.mem_incidence_iff (builtUp : model.IsBuiltUp) {name : String} {offset : Int} :
    offset ∈ model.horizon.incidence.getD name [] ↔
      ∃ equation ∈ model.equations, ⟨name, offset⟩ ∈ equation.references.series := by
  rw [builtUp.horizon.mem_iff, List.mem_flatMap]

theorem isCoherent_of_isBuiltUp (builtUp : model.IsBuiltUp) : model.IsCoherent := by
  have recorded : ∀ equation ∈ model.equations,
      equation.references.IsRecordOf equation.expression.nodes := by
    intro equation member
    rw [builtUp.collected equation member]
    exact equation.expression.isRecordOf_references
  have offsets : ∀ (measure : Int → Int) (number : Int),
      (∃ name, ∃ offset ∈ model.horizon.incidence.getD name [], number = measure offset) ↔
        ∃ reference ∈ model.equations.flatMap (·.references.series),
          number = measure reference.offset := by
    intro measure number
    simp only [builtUp.horizon.mem_iff]
    exact ⟨fun ⟨name, offset, member, same⟩ => ⟨⟨name, offset⟩, member, same⟩,
      fun ⟨⟨name, offset⟩, member, same⟩ => ⟨name, offset, member, same⟩⟩
  refine ⟨builtUp.symbols, builtUp.named,
    fun equation member => ⟨recorded equation member, builtUp.declares equation member⟩,
    fun name => ⟨builtUp.horizon.nodup name, fun offset => ?_⟩, ?_, ?_, builtUp.perm,
    builtUp.shocks⟩
  · rw [builtUp.mem_incidence_iff]
    refine exists_congr fun equation => and_congr_right fun member => ?_
    rw [(recorded equation member).series.mem_iff, Expression.mem_filterMap_series?]
  · simp only [offsets (fun offset => -offset)]
    exact builtUp.horizon.lags
  · simp only [offsets fun offset => offset]
    exact builtUp.horizon.leads

end Model

namespace System

variable [Scalar α] {model : Model α} {equation : Equation α}

/-- Every reference of an equation names a column and a date of the window. -/
theorem exists_locate (builtUp : model.IsBuiltUp) (member : equation ∈ model.equations)
    {reference : TimedVariable} (listed : reference ∈ equation.references.series) :
    ∃ place, locate model equation reference = .ok place := by
  have column : reference.name ∈ model.columns :=
    (builtUp.declares equation member).series reference listed
  have among : reference ∈ model.equations.flatMap (·.references.series) :=
    List.mem_flatMap.mpr ⟨equation, member, listed⟩
  have back := builtUp.horizon.lags.2 (Or.inr ⟨reference, among, rfl⟩)
  have ahead := builtUp.horizon.leads.2 (Or.inr ⟨reference, among, rfl⟩)
  unfold locate
  rcases found : model.columns.idxOf? reference.name with _ | place
  · exact absurd column (List.idxOf?_eq_none_iff.mp found)
  · dsimp only
    rw [if_pos ⟨by omega, ahead⟩]
    exact ⟨_, rfl⟩

/-- Places are found, unless a row is too large to be a position in an array. -/
theorem locateAll_eq_error (builtUp : model.IsBuiltUp) (member : equation ∈ model.equations)
    {reason : Error α} (failed : locateAll model equation = .error reason) :
    reason = .conversion .overflow := by
  have located : ∀ reference ∈ equation.references.series,
      ∃ place, locate model equation reference = .ok place :=
    fun reference listed => exists_locate builtUp member listed
  obtain ⟨places, found⟩ := exists_mapM_eq_ok located
  rw [locateAll, found] at failed
  change (if _ then _ else _) = _ at failed
  split at failed
  · cases failed
  · cases failed
    rfl

/-- The steady state of everything that an equation refers to is known to the model. -/
theorem exists_trend (builtUp : model.IsBuiltUp) (member : equation ∈ model.equations)
    {name : String} (listed : name ∈ equation.references.steadyStates) :
    ∃ trend, model.steadyState.trend name = .ok trend := by
  have isVariable := (builtUp.declares equation member).steadyStates name listed
  have stored := builtUp.perm.mem_iff.mpr (List.mem_append_left _ isVariable)
  obtain ⟨trend, found⟩ := Table.mem_keys_iff.mp stored
  exact ⟨trend, by rw [SteadyState.trend, found]⟩

omit [Scalar α] in
theorem failsWithin_ofExcept {ε β : Type} {allowed : Error α → Prop} {cause : ε → Error α}
    {result : Except ε β} (admitted : ∀ reason, result = .error reason → allowed (cause reason)) :
    FailsWithin allowed (Action.ofExcept cause result) := by
  cases result with
  | error reason => exact .throw (admitted reason rfl)
  | ok value => exact .pure

theorem failsWithin_ofEquation (builtUp : model.IsBuiltUp) (member : equation ∈ model.equations)
    (tolerance : α) :
    FailsWithin (fun _ => False)
      (EquationForm.ofEquation model.steadyState tolerance equation) := by
  have known : ∀ name ∈ equation.references.steadyStates,
      ∃ trend, model.steadyState.trend name = .ok trend :=
    fun name listed => exists_trend builtUp member listed
  refine .ite (fun _ => .pure) fun _ => ?_
  refine .bind (.forM fun name listed => ?_) fun _ => ?_
  · obtain ⟨trend, found⟩ := known name listed
    refine .bind (failsWithin_ofExcept fun reason failed => ?_) fun trend => ?_
    · rw [found] at failed
      cases failed
    · exact .ite (fun _ => .modify) fun _ => .pure
  · refine .bind (failsWithin_ofExcept fun reason failed => ?_) fun found => .pure
    obtain ⟨name, listed, missing⟩ := exists_of_mapM_eq_error failed
    obtain ⟨trend, found⟩ := known name listed
    rw [found] at missing
    cases missing

/-- Building a system of a model whose tables fit together fails only if the window is too large
for an array. -/
theorem failsWithin_ofModel (builtUp : model.IsBuiltUp) :
    FailsWithin (fun reason => reason = .conversion .overflow) (ofModel model) := by
  have positive : 0 ≤ (model.columns.length : Int) *
      (model.horizon.lags + model.horizon.leads + 1) := by
    have back := builtUp.horizon.lags.2 (Or.inl rfl)
    have ahead := builtUp.horizon.leads.2 (Or.inl rfl)
    exact Int.mul_nonneg (Int.natCast_nonneg _) (by omega)
  refine .bind (failsWithin_ofExcept fun reason failed => ?_) fun places => ?_
  · obtain ⟨equation, member, here⟩ := exists_of_mapM_eq_error failed
    exact locateAll_eq_error builtUp member here
  · refine .guard (fun negative => absurd negative (Int.not_lt.mpr positive)) ?_
    refine .guard (fun _ => rfl) ?_
    refine .optional .modify ?_
    refine .bind (.mapM fun equation member state reason failed => ?_) fun forms => ?_
    · exact (failsWithin_ofEquation builtUp member _ state reason failed).elim
    · refine .bind (fun _ _ failed => by cases failed) fun number => ?_
      exact .bind .modify fun _ => .pure

/-- Every place of a system lies inside its evaluation points. -/
theorem inside_of_ofModel {system : System α} {memory : Memory α}
    (built : (outcome (ofModel model) memory).1 = .ok system) {places : List Place}
    (member : places ∈ system.places) {place : Place} (among : place ∈ places) :
    (place.row : Int) < system.periods ∧ place.column < system.columns.length := by
  have stable := Session.isStable_nextId (fun _ => True) model.calibration 0
  obtain ⟨isOf, _, found⟩ := (stable.keeps_ofModel model memory (Nat.zero_le _)).2 system built
  obtain ⟨equation, _, here⟩ := exists_of_mem_right (mapM_eq_ok.mp found) member
  obtain ⟨reference, _, column, window, row⟩ :=
    exists_of_mem_right (locates_of_locateAll here) among
  rw [isOf.columns_eq, periods, isOf.lags_eq, isOf.leads_eq]
  refine ⟨by omega, (List.getElem?_eq_some_iff.mp column).1⟩

end System

theorem Model.IsBuiltUp.of_steps [Scalar α] {whole : Prop} {origin session : Session α}
    (builtUp : origin.model.IsBuiltUp)
    (steps : Relation.ReflTransGen (Session.Step whole) origin session) :
    session.model.IsBuiltUp := by
  induction steps with
  | refl => exact builtUp
  | tail _ step ih => exact ih.of_step step

/-- The tables of every model that is reached fit together, also after requests that failed. -/
theorem Reachable.isBuiltUp [Scalar α] [Numeral α] {bench : Bench α} (reachable : Reachable bench) :
    bench.session.model.IsBuiltUp := by
  obtain ⟨name, options, steps⟩ := reachable.steps
  exact (Model.isBuiltUp_blank name options).of_steps steps

/-- In every state of a run, requests that failed included, the tables of the model fit together.
A system of the model can therefore be built in any memory, unless its window is too large for an
array, and every place that it reads lies inside its evaluation points. -/
theorem Reachable.isCoherent [Scalar α] [Numeral α] {bench : Bench α}
    (reachable : Reachable bench) :
    bench.session.model.IsCoherent ∧
    (∀ memory reason, (outcome (System.ofModel bench.session.model) memory).1 = .error reason →
      reason = .conversion .overflow) ∧
    ∀ memory system, (outcome (System.ofModel bench.session.model) memory).1 = .ok system →
      ∀ places ∈ system.places, ∀ place ∈ places,
        (place.row : Int) < system.periods ∧ place.column < system.columns.length := by
  refine ⟨Model.isCoherent_of_isBuiltUp reachable.isBuiltUp,
    System.failsWithin_ofModel reachable.isBuiltUp, ?_⟩
  intro memory system built places member place among
  exact System.inside_of_ofModel built member among

/-- A model in which a name is declared again, an equation is stated again and another one refers to
what is not declared, all in vain. -/
noncomputable def insisting : Bench ℝ :=
  Bench.run
    { session := .start "insisting" { tolerance := 0, variant := .plain, chunkLimit := 4 } }
    [.addVariable { name := "x" },
      .addShock { name := "x" },
      .addShock { name := "e" },
      .addExpression (.binary .sub (.series ⟨"x", 1⟩) (.series ⟨"x", -1⟩)) "motion" false,
      .addExpression (.series ⟨"e", 0⟩) "motion" false,
      .addExpression (.series ⟨"y", -2⟩) "unknown" false]

/-- What failed has left no trace in the tables. -/
theorem Reachable.isCoherent_insisting :
    Reachable insisting ∧ insisting.session.model.symbols.names = ["x", "e"] ∧
      insisting.session.model.equations.map (·.name) = ["motion"] ∧
      insisting.session.model.horizon.lags = 1 ∧ insisting.session.model.IsCoherent ∧
      ∃ system, (outcome (System.ofModel insisting.session.model) {}).1 = .ok system ∧
        ∀ places ∈ system.places, ∀ place ∈ places,
          (place.row : Int) < system.periods ∧ place.column < system.columns.length := by
  have reachable : Reachable insisting := (Reachable.start _ _).run _
  obtain ⟨coherent, _, inside⟩ := Reachable.isCoherent reachable
  exact ⟨reachable, by decide +kernel, by decide +kernel, by decide +kernel, coherent, _, rfl,
    inside {} _ rfl⟩

end Intertemporal
