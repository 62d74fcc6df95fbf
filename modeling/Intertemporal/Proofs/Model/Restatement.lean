import Intertemporal.Proofs.Model.Contents
import Intertemporal.Proofs.Model.Entries
import Intertemporal.Proofs.Model.Successes

/-!
# Restating a model

Whatever led to a model, it can be stated again from scratch: its series are declared in their
order, then its parameters with their values, then the trends that are known are set, and then its
equations are added as expressions under their names. If all requests that led to the model have
succeeded, these succeed as well, and the new model has the same contents.
-/

namespace Intertemporal

variable {α : Type}

/-- A datum that stands for a parameter value. -/
def Calibration.datumOf : Option (ParameterValue α) → Datum α
  | none => .missing
  | some (.scalar value) => .number value
  | some (.vector values) => .sequence (values.map .number)

/-- The declaration of a series. -/
def SymbolTable.declaration (symbols : SymbolTable) (name : String) : Request α :=
  match symbols.allVariables.find? (·.name == name) with
  | some declared => .addVariable declared
  | none => .addShock ((symbols.shocks.find? (·.name == name)).getD { name })

/-- The request that states an equation. -/
def Equation.statement (equation : Equation α) : Request α :=
  .addExpression equation.expression equation.name equation.linear

namespace Model

/-- The declaration of a parameter with its value. -/
def assignment (model : Model α) (declared : Parameter) : Request α :=
  .addParameter declared
    (Calibration.datumOf (model.calibration.values.getD declared.name none))

/-- The trends of variables that are known. -/
def solved (model : Model α) : List (String × Trend α) :=
  model.steadyState.entries.filter fun entry => entry.2.solved && model.symbols.isVariable entry.1

/-- The request that makes a trend known. -/
def solution (entry : String × Trend α) : Request α :=
  .setSteadyState entry.1 (.number entry.2.level) (.number entry.2.slope)

/-- The requests that state a model again. -/
def restated (model : Model α) : List (Request α) :=
  model.steadyState.keys.map model.symbols.declaration ++
    (model.symbols.parameters.map model.assignment ++
      (model.solved.map solution ++ model.equations.map Equation.statement))

/-- A bench with a model of the same name and options in which nothing is declared. -/
def anew (model : Model α) : Bench α := { session := .start model.name model.options }

end Model

section Conversions

variable [Scalar α]

omit [Scalar α] in
theorem Datum.shapes?_numbers (values : List α) :
    Datum.shapes? (values.map .number) = some (values.map fun _ => []) := by
  induction values with
  | nil => rfl
  | cons value rest ih => simp [shapes?, shape?, ih]

omit [Scalar α] in
theorem Datum.allLeaves_numbers (values : List α) :
    Datum.allLeaves (values.map .number) = values.map .number := by
  induction values with
  | nil => rfl
  | cons value rest ih => simp [allLeaves, leaves, ih]

theorem Datum.toArray_numbers (values : List α) :
    (Datum.sequence (values.map .number)).toArray = .ok (.ofList values) := by
  have shaped : (Datum.sequence (values.map .number)).shape? = some [values.length] := by
    rw [shape?, shapes?_numbers]
    cases values with
    | nil => rfl
    | cons value rest => simp
  have read : (values.map Datum.number).mapM toEntry = .ok values := by
    rw [mapM_eq_ok, List.forall₂_map_left_iff]
    exact List.forall₂_same.mpr fun value _ => rfl
  rw [toArray, shaped, leaves, allLeaves_numbers]
  dsimp only
  rw [read]
  rfl

/-- The datum of a value is converted back to it. -/
theorem Calibration.coerce_datumOf (name : String) (value : Option (ParameterValue α)) :
    coerce name (datumOf value) = .ok value := by
  rcases value with _ | _ | values
  · rfl
  · rfl
  · rw [datumOf, coerce, Datum.toArray_numbers]
    rfl

end Conversions

section Series

/-- The symbols of series. -/
def SymbolTable.ofSeries (series : List (Variable ⊕ Shock)) : SymbolTable where
  allVariables := series.filterMap Sum.getLeft?
  shocks := series.filterMap Sum.getRight?

/-- The trends of series that have just been declared. -/
def SteadyState.ofSeries [Scalar α] (series : List (Variable ⊕ Shock)) : SteadyState α :=
  series.foldl (fun trends item => trends.register (seriesName item) item.isRight) {}

variable {symbols : SymbolTable} {series : List (Variable ⊕ Shock)}

theorem SymbolTable.mem_names_ofSeries_iff {name : String} :
    name ∈ (ofSeries series).names ↔ name ∈ series.map seriesName := by
  have ordered : (ofSeries series).IsOrderedAs series := ⟨rfl, rfl⟩
  rw [names, show (ofSeries series).parameterNames = [] from rfl, List.append_nil]
  exact ordered.perm.mem_iff.symm

theorem SymbolTable.ofSeries_append_inl (series : List (Variable ⊕ Shock)) (added : Variable) :
    ofSeries (series ++ [.inl added]) =
      { ofSeries series with allVariables := (ofSeries series).allVariables ++ [added] } := by
  simp [ofSeries]

theorem SymbolTable.ofSeries_append_inr (series : List (Variable ⊕ Shock)) (added : Shock) :
    ofSeries (series ++ [.inr added]) =
      { ofSeries series with shocks := (ofSeries series).shocks ++ [added] } := by
  simp [ofSeries]

theorem SteadyState.ofSeries_append [Scalar α] (series : List (Variable ⊕ Shock))
    (item : Variable ⊕ Shock) :
    (ofSeries (series ++ [item]) : SteadyState α) =
      (ofSeries series).register (seriesName item) item.isRight := by
  rw [ofSeries, List.foldl_append]
  rfl

/-- Series with different names have a trend of zero each, in their order. -/
theorem SteadyState.ofSeries_spec [Scalar α] (distinct : (series.map seriesName).Nodup) :
    (ofSeries series : SteadyState α).keys = series.map seriesName ∧
      ∀ item ∈ series, (ofSeries series : SteadyState α).get? (seriesName item) =
        some ⟨Scalar.zero, Scalar.zero, item.isRight⟩ := by
  induction series using List.reverseRecOn with
  | nil => exact ⟨rfl, by rintro item ⟨⟩⟩
  | append_singleton series item ih =>
      have fresh : seriesName item ∉ series.map seriesName := notMem_map_of_nodup distinct rfl
      rw [List.map_append, List.map_singleton] at distinct ⊢
      obtain ⟨keys, trends⟩ := ih (List.nodup_append.mp distinct).1
      rw [ofSeries_append]
      refine ⟨(keys_register (keys ▸ fresh) _).trans (by rw [keys]), ?_⟩
      refine List.forall_mem_append.mpr ⟨?_, List.forall_mem_singleton.mpr ?_⟩
      · intro other member
        rw [get?_register (keys ▸ fresh), if_neg, trends other member]
        exact fun same => fresh (same ▸ List.mem_map_of_mem member)
      · rw [get?_register (keys ▸ fresh), if_pos rfl]

theorem SymbolTable.IsOrderedAs.nodup (ordered : symbols.IsOrderedAs series)
    (distinct : symbols.IsDistinct) : (series.map seriesName).Nodup :=
  ordered.perm.nodup_iff.mpr distinct.nodup_seriesNames

/-- A series is declared as it was declared before. -/
theorem SymbolTable.IsOrderedAs.declaration_eq (ordered : symbols.IsOrderedAs series)
    (distinct : symbols.IsDistinct) {item : Variable ⊕ Shock} (member : item ∈ series) :
    (symbols.declaration (seriesName item) : Request α) =
      item.elim .addVariable .addShock := by
  obtain ⟨distinctVariables, distinctShocks, apart⟩ :=
    List.nodup_append.mp distinct.nodup_seriesNames
  unfold declaration
  rcases item with added | added
  · have among : added ∈ symbols.allVariables := by
      rw [ordered.allVariables_eq, List.mem_filterMap]
      exact ⟨_, member, rfl⟩
    have found : symbols.allVariables.find? (·.name == added.name) = some added :=
      find?_eq_some_of_nodup distinctVariables among
    rw [seriesName, found]
    rfl
  · have among : added ∈ symbols.shocks := by
      rw [ordered.shocks_eq, List.mem_filterMap]
      exact ⟨_, member, rfl⟩
    have found : symbols.shocks.find? (·.name == added.name) = some added :=
      find?_eq_some_of_nodup distinctShocks among
    have none : symbols.allVariables.find? (·.name == added.name) = none := by
      rw [List.find?_eq_none]
      intro other amongVariables same
      exact apart _ (List.mem_map_of_mem amongVariables) _ (List.mem_map_of_mem among)
        (eq_of_beq same)
    rw [seriesName, none, found]
    rfl

end Series

section Stages

variable [Scalar α] [Numeral α] {model : Model α} {bench : Bench α}

/-- A series with a new name is declared after others. -/
theorem Request.gives_declaration {contents : Contents α} {done : List (Variable ⊕ Shock)}
    {item : Variable ⊕ Shock}
    (before : bench.session.model.contents =
      { contents with symbols := .ofSeries done, steadyState := .ofSeries done })
    (fresh : seriesName item ∉ done.map seriesName) :
    Request.Gives (item.elim .addVariable .addShock) bench
      { contents with
        symbols := .ofSeries (done ++ [item]), steadyState := .ofSeries (done ++ [item]) } := by
  have unused : seriesName item ∉ (SymbolTable.ofSeries done).names :=
    fun member => fresh (SymbolTable.mem_names_ofSeries_iff.mp member)
  rw [SteadyState.ofSeries_append]
  rcases item with added | added
  · rw [SymbolTable.ofSeries_append_inl]
    exact Request.gives_addVariable before unused
  · rw [SymbolTable.ofSeries_append_inr]
    exact Request.gives_addShock before unused

/-- Declaring the series of a model in their order gives another model the same series. -/
theorem Model.restates_series (builtUp : model.IsBuiltUp) {series : List (Variable ⊕ Shock)}
    (ordered : model.symbols.IsOrderedAs series)
    (keys : model.steadyState.keys = series.map seriesName) (contents : Contents α)
    (start : bench.session.model.contents =
      { contents with symbols := {}, steadyState := {} }) :
    bench.allSucceed (model.steadyState.keys.map model.symbols.declaration) ∧
      (bench.run (model.steadyState.keys.map model.symbols.declaration)).session.model.contents =
        { contents with symbols := .ofSeries series, steadyState := .ofSeries series } := by
  have distinct := ordered.nodup builtUp.symbols
  have step : ∀ done item later (bench : Bench α), done ++ item :: later = series →
      bench.session.model.contents =
        { contents with symbols := .ofSeries done, steadyState := .ofSeries done } →
      (model.symbols.declaration (seriesName item)).Gives bench
        { contents with
          symbols := .ofSeries (done ++ [item]), steadyState := .ofSeries (done ++ [item]) } := by
    intro done item later bench whole before
    have listed : item ∈ series := whole ▸ List.mem_append_right _ List.mem_cons_self
    rw [ordered.declaration_eq builtUp.symbols listed]
    exact Request.gives_declaration before (notMem_map_of_nodup distinct whole)
  have done := Bench.run_induction step start
  rwa [keys, List.map_map]

/-- Declaring the parameters of a model with their values gives another model the same. -/
theorem Model.restates_parameters (builtUp : model.IsBuiltUp) (isWhole : model.IsWhole)
    (contents : Contents α)
    (start : bench.session.model.contents =
      { contents with symbols := { model.symbols with parameters := [] }, values := {} }) :
    bench.allSucceed (model.symbols.parameters.map model.assignment) ∧
      (bench.run (model.symbols.parameters.map model.assignment)).session.model.contents =
        { contents with symbols := model.symbols, values := model.calibration.values } := by
  let values := model.calibration.values
  -- the values so far are those of the parameters so far, in the same order
  let invariant (done : List Parameter) (bench : Bench α) : Prop := ∃ given,
    bench.session.model.contents =
      { contents with symbols := { model.symbols with parameters := done }, values := given } ∧
    given.keys = done.map (·.name) ∧
    ∀ declared ∈ done, given.get? declared.name = values.get? declared.name
  obtain ⟨_, distinct, apart⟩ := List.nodup_append.mp builtUp.symbols
  have step : ∀ done added later (bench : Bench α),
      done ++ added :: later = model.symbols.parameters → invariant done bench →
      (model.assignment added).succeeds bench ∧
        invariant (done ++ [added]) ((model.assignment added).perform bench) := by
    rintro done added later bench whole ⟨given, before, keys, same⟩
    have listed : added ∈ model.symbols.parameters :=
      whole ▸ List.mem_append_right _ List.mem_cons_self
    have unlisted : added.name ∉ done.map (·.name) := notMem_map_of_nodup distinct whole
    have fresh : added.name ∉ ({ model.symbols with parameters := done } : SymbolTable).names :=
      fun member => (List.mem_append.mp member).elim
        (fun series => apart _ series _ (List.mem_map_of_mem listed) rfl) unlisted
    obtain ⟨value, found⟩ : ∃ value, values.get? added.name = some value :=
      Table.mem_keys_iff.mp (isWhole.calibrated ▸ List.mem_map_of_mem listed)
    have coerced : Calibration.coerce added.name
        (Calibration.datumOf (values.getD added.name none)) = .ok value := by
      rw [Table.getD, found, Calibration.coerce_datumOf]
      rfl
    obtain ⟨succeeded, after⟩ := Request.gives_addParameter before fresh coerced
    refine ⟨succeeded, _, after, ?_, ?_⟩
    · rw [Table.keys_insert_of_notMem (keys ▸ unlisted), keys, List.map_append]
      rfl
    · refine List.forall_mem_append.mpr ⟨?_, List.forall_mem_singleton.mpr ?_⟩
      · intro other member
        rw [Table.get?_insert, if_neg, same other member]
        exact fun equal => unlisted (eq_of_beq equal ▸ List.mem_map_of_mem member)
      · rw [Table.get?_insert, if_pos BEq.rfl, found]
  obtain ⟨succeeded, given, after, keys, same⟩ :=
    Bench.run_induction step ⟨_, start, rfl, by rintro declared ⟨⟩⟩
  refine ⟨succeeded, after.trans ?_⟩
  have stored : given = values := by
    refine Table.eq_of_get? (keys ▸ distinct) (keys.trans isWhole.calibrated.symm) ?_
    intro name member
    obtain ⟨declared, listed, rfl⟩ := List.mem_map.mp (keys ▸ member)
    exact same declared listed
  rw [stored]

omit [Numeral α] in
/-- A trend that need not be set is the one that its series began with. -/
theorem Model.IsBuiltUp.get?_ofSeries (builtUp : model.IsBuiltUp) (isWhole : model.IsWhole)
    {series : List (Variable ⊕ Shock)} (ordered : model.symbols.IsOrderedAs series)
    (keys : model.steadyState.keys = series.map seriesName) {name : String}
    (unset : name ∉ model.solved.map (·.1)) :
    (SteadyState.ofSeries series : SteadyState α).get? name = model.steadyState.get? name := by
  have distinct := ordered.nodup builtUp.symbols
  obtain ⟨keysFirst, trends⟩ := SteadyState.ofSeries_spec (α := α) distinct
  by_cases declared : name ∈ series.map seriesName
  · obtain ⟨item, member, rfl⟩ := List.mem_map.mp declared
    rw [trends item member]
    symm
    rcases item with added | added
    · obtain ⟨trend, found⟩ := Table.mem_keys_iff.mp (keys ▸ declared)
      have known : model.symbols.isVariable added.name = true := by
        rw [SymbolTable.isVariable, List.contains_iff_mem, SymbolTable.variableNames,
          ordered.allVariables_eq]
        exact List.mem_map_of_mem (List.mem_filterMap.mpr ⟨_, member, rfl⟩)
      have unknown : trend.solved = false := by
        by_contra solved
        rw [Bool.not_eq_false] at solved
        refine unset (List.mem_map.mpr ⟨(added.name, trend), List.mem_filter.mpr ⟨?_, ?_⟩, rfl⟩)
        · exact (Table.get?_eq_some_iff (keys ▸ distinct)).mp found
        · exact Bool.and_eq_true_iff.mpr ⟨solved, known⟩
      exact found.trans (congrArg some (isWhole.unsolved _ trend found unknown))
    · refine builtUp.shocks added.name ?_
      rw [SymbolTable.shockNames, ordered.shocks_eq]
      exact List.mem_map_of_mem (List.mem_filterMap.mpr ⟨_, member, rfl⟩)
  · have missing : ∀ trends : SteadyState α, trends.keys = series.map seriesName →
        trends.get? name = none := by
      intro trends keys
      rw [← keys, Table.mem_keys_iff, not_exists] at declared
      exact Option.eq_none_iff_forall_ne_some.mpr declared
    rw [missing _ keysFirst, missing _ keys]

/-- Setting the trends that are known gives another model with the same series the same trends. -/
theorem Model.restates_trends (builtUp : model.IsBuiltUp) (isWhole : model.IsWhole)
    {series : List (Variable ⊕ Shock)} (ordered : model.symbols.IsOrderedAs series)
    (keys : model.steadyState.keys = series.map seriesName) (contents : Contents α)
    (start : bench.session.model.contents =
      { contents with symbols := model.symbols, steadyState := .ofSeries series }) :
    bench.allSucceed (model.solved.map Model.solution) ∧
      (bench.run (model.solved.map Model.solution)).session.model.contents =
        { contents with symbols := model.symbols, steadyState := model.steadyState } := by
  have distinct := ordered.nodup builtUp.symbols
  -- the trends so far are those of the model, apart from those that are still to be set
  let invariant (done : List (String × Trend α)) (bench : Bench α) : Prop := ∃ trends,
    bench.session.model.contents =
      { contents with symbols := model.symbols, steadyState := trends } ∧
    trends.keys = series.map seriesName ∧
    ∀ name, name ∈ done.map (·.1) ∨ name ∉ model.solved.map (·.1) →
      trends.get? name = model.steadyState.get? name
  have step : ∀ done entry later (bench : Bench α), done ++ entry :: later = model.solved →
      invariant done bench → (Model.solution entry).succeeds bench ∧
        invariant (done ++ [entry]) ((Model.solution entry).perform bench) := by
    rintro done ⟨name, trend⟩ later bench whole ⟨trends, before, keysSoFar, same⟩
    have listed : (name, trend) ∈ model.solved :=
      whole ▸ List.mem_append_right _ List.mem_cons_self
    obtain ⟨stored, admitted⟩ := List.mem_filter.mp listed
    obtain ⟨solved, known⟩ := Bool.and_eq_true_iff.mp admitted
    have registered : name ∈ trends.keys :=
      keysSoFar ▸ keys ▸ List.mem_map_of_mem stored
    have gives : (Model.solution (name, trend)).Gives bench _ :=
      Request.gives_setSteadyState before (List.contains_iff_mem.mp known) registered
    obtain ⟨succeeded, after⟩ := gives
    refine ⟨succeeded, _, after, (Table.keys_insert_of_mem registered _).trans keysSoFar, ?_⟩
    intro other among
    rw [Table.get?_insert]
    split
    · rename_i equal
      rw [eq_of_beq equal, (Table.get?_eq_some_iff (keys ▸ distinct)).mpr stored, ← solved]
    · rename_i differs
      refine same other (among.imp_left fun member => ?_)
      rw [List.map_append, List.mem_append, List.map_singleton, List.mem_singleton] at member
      exact member.resolve_right fun equal => differs (beq_iff_eq.mpr equal)
  have begun : invariant [] bench := by
    refine ⟨_, start, (SteadyState.ofSeries_spec distinct).1, fun name among => ?_⟩
    exact builtUp.get?_ofSeries isWhole ordered keys (among.resolve_left List.not_mem_nil)
  obtain ⟨succeeded, trends, after, keysAfter, same⟩ := Bench.run_induction step begun
  refine ⟨succeeded, after.trans ?_⟩
  have stored : trends = model.steadyState :=
    Table.eq_of_get? (keysAfter ▸ distinct) (keysAfter.trans keys.symm)
      fun name _ => same name (em _)
  rw [stored]

/-- Stating the equations of a model under their names gives another model with the same symbols the
same equations. -/
theorem Model.restates_equations (builtUp : model.IsBuiltUp) (isWhole : model.IsWhole)
    (roomy : ∀ equation ∈ model.equations, 0 < equation.references.inputCount →
      1 ≤ model.options.chunkLimit)
    (reachable : Reachable bench) (contents : Contents α)
    (start : bench.session.model.contents =
      { contents with symbols := model.symbols, options := model.options, equations := [] }) :
    bench.allSucceed (model.equations.map Equation.statement) ∧
      (bench.run (model.equations.map Equation.statement)).session.model.contents =
        { contents with
          symbols := model.symbols, options := model.options
          equations := model.equations.map Equation.stated } := by
  let invariant (done : List (Equation α)) (bench : Bench α) : Prop :=
    Reachable bench ∧ bench.session.model.contents =
      { contents with
        symbols := model.symbols, options := model.options, equations := done.map Equation.stated }
  have step : ∀ done equation later (bench : Bench α),
      done ++ equation :: later = model.equations → invariant done bench →
      equation.statement.succeeds bench ∧
        invariant (done ++ [equation]) (equation.statement.perform bench) := by
    rintro done equation later bench whole ⟨reachable, before⟩
    have listed : equation ∈ model.equations :=
      whole ▸ List.mem_append_right _ List.mem_cons_self
    have collected := builtUp.collected equation listed
    have fresh : ∀ other ∈ done.map Equation.stated, other.name ≠ equation.name := by
      rintro _ member same
      obtain ⟨other, among, rfl⟩ := List.mem_map.mp member
      exact notMem_map_of_nodup builtUp.named whole (same ▸ List.mem_map_of_mem among)
    have limited : bench.session.model.registry.chunkLimit = model.options.chunkLimit :=
      reachable.isFiled.chunkLimit_eq.trans
        (congrArg (fun contents : Contents α => contents.options.chunkLimit) before :)
    have declares := builtUp.declares equation listed
    have room := roomy equation listed
    rw [← limited] at room
    rw [collected] at declares room
    have gives : equation.statement.Gives bench _ :=
      Request.gives_addExpression before (isWhole.named equation listed) fresh declares room
    obtain ⟨succeeded, after⟩ := gives
    refine ⟨succeeded, reachable.step _, after.trans ?_⟩
    rw [List.map_append]
    rfl
  obtain ⟨succeeded, _, after⟩ := Bench.run_induction step ⟨reachable, start⟩
  exact ⟨succeeded, after⟩

/-- A model with nothing left half done can be stated again, and has the same contents then. -/
theorem Model.restates (builtUp : model.IsBuiltUp) (isWhole : model.IsWhole)
    (roomy : ∀ equation ∈ model.equations, 0 < equation.references.inputCount →
      1 ≤ model.options.chunkLimit) :
    model.anew.allSucceed model.restated ∧
      (model.anew.run model.restated).session.model.contents = model.contents := by
  obtain ⟨series, ordered, keys⟩ := builtUp.ordered
  have declared : SymbolTable.ofSeries series = { model.symbols with parameters := [] } := by
    rw [SymbolTable.ofSeries, ← ordered.allVariables_eq, ← ordered.shocks_eq]
  let blank : Contents α := { name := model.name, options := model.options }
  have begun : model.anew.session.model.contents =
      { blank with symbols := {}, steadyState := {} } := rfl
  obtain ⟨first, atSeries⟩ := restates_series builtUp ordered keys blank begun
  rw [declared] at atSeries
  obtain ⟨second, atParameters⟩ := restates_parameters builtUp isWhole
    { blank with steadyState := .ofSeries series } atSeries
  obtain ⟨third, atTrends⟩ := restates_trends builtUp isWhole ordered keys
    { blank with values := model.calibration.values } atParameters
  have reachable : Reachable model.anew := .start model.name model.options
  obtain ⟨fourth, atEquations⟩ := restates_equations builtUp isWhole roomy
    (((reachable.run _).run _).run _)
    { blank with values := model.calibration.values, steadyState := model.steadyState } atTrends
  rw [restated]
  simp only [Bench.allSucceed_append, Bench.run_append, Bool.and_eq_true]
  exact ⟨⟨first, second, third, fourth⟩, atEquations⟩

end Stages

end Intertemporal
