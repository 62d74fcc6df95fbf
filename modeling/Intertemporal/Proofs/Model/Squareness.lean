import Intertemporal.Proofs.Model.Coherence
import Intertemporal.Proofs.Model.FirstOrder
import Intertemporal.Proofs.System.Balance

/-!
# Square first-order forms

The matrices of a first-order form have a row for every state, and the links leave as many of them
to the equations as the model determines variables. So a model that can be linearized in all
equations has a first-order form unless it has more equations than such variables, and nothing else
stands in the way: every entry of the linearized Jacobian belongs to a reference that an equation
makes, and the states cover the range in which a series is referenced.
-/

namespace Intertemporal

namespace Horizon

theorem foldl_min_le (first : Int) (rest : List Int) :
    rest.foldl min first ≤ first ∧ ∀ offset ∈ rest, rest.foldl min first ≤ offset := by
  induction rest generalizing first with
  | nil => exact ⟨Int.le_refl _, by rintro offset ⟨⟩⟩
  | cons next rest ih =>
      obtain ⟨below, others⟩ := ih (min first next)
      refine ⟨below.trans (min_le_left _ _), List.forall_mem_cons.mpr ⟨?_, others⟩⟩
      exact below.trans (min_le_right _ _)

theorem le_foldl_max (first : Int) (rest : List Int) :
    first ≤ rest.foldl max first ∧ ∀ offset ∈ rest, offset ≤ rest.foldl max first := by
  induction rest generalizing first with
  | nil => exact ⟨Int.le_refl _, by rintro offset ⟨⟩⟩
  | cons next rest ih =>
      obtain ⟨above, others⟩ := ih (max first next)
      refine ⟨(le_max_left _ _).trans above, List.forall_mem_cons.mpr ⟨?_, others⟩⟩
      exact (le_max_right _ _).trans above

variable {horizon : Horizon} {name : String}

/-- The range of a series includes every offset at which it is referenced. -/
theorem range_of_mem {offset : Int} (member : offset ∈ horizon.incidence.getD name []) :
    (horizon.range name).1 ≤ offset ∧ offset ≤ (horizon.range name).2 := by
  unfold range
  split
  · rename_i none
    rw [none] at member
    cases member
  · rename_i first rest listed
    rw [listed] at member
    obtain ⟨below, belowOthers⟩ := foldl_min_le first rest
    obtain ⟨above, aboveOthers⟩ := le_foldl_max first rest
    rcases List.mem_cons.mp member with rfl | among
    · exact ⟨below, above⟩
    · exact ⟨belowOthers offset among, aboveOthers offset among⟩

theorem range_ordered (horizon : Horizon) (name : String) :
    (horizon.range name).1 ≤ (horizon.range name).2 := by
  unfold range
  split
  · exact Int.le_refl _
  · rename_i first rest _
    exact (foldl_min_le first rest).1.trans (le_foldl_max first rest).1

end Horizon

namespace SymbolTable

variable {symbols : SymbolTable}

/-- The variables that a model determines: those that are not given from outside. -/
def determined (symbols : SymbolTable) : List Variable :=
  symbols.allVariables.filter fun found => !found.exogenous

theorem exists_mem_series {name : String} (declared : name ∈ symbols.seriesNames) :
    ∃ given, (name, given) ∈ symbols.series := by
  rcases List.mem_append.mp declared with isVariable | isShock
  · obtain ⟨found, member, rfl⟩ := List.mem_map.mp isVariable
    exact ⟨found.exogenous, List.mem_append_left _ (List.mem_map_of_mem member)⟩
  · obtain ⟨found, member, rfl⟩ := List.mem_map.mp isShock
    exact ⟨true, List.mem_append_right _ (List.mem_map_of_mem member)⟩

theorem mem_series_false {name : String} :
    (name, false) ∈ symbols.series ↔ name ∈ symbols.determined.map (·.name) := by
  simp only [series, determined, List.mem_append, List.mem_map, List.mem_filter, Prod.mk.injEq,
    Bool.not_eq_true', reduceCtorEq, and_false, exists_false, or_false]
  exact exists_congr fun found => by tauto

theorem IsDistinct.nodup_determined (distinct : symbols.IsDistinct) :
    (symbols.determined.map (·.name)).Nodup := by
  have named : symbols.variableNames.Nodup := (List.nodup_append.mp distinct.nodup_seriesNames).1
  exact named.sublist (List.filter_sublist.map _)

end SymbolTable

namespace StateKeys

variable {α : Type} {model : Model α}

theorem mem_names_ofModel {name : String} :
    name ∈ (ofModel model).names ↔ name ∈ model.symbols.determined.map (·.name) := by
  rw [ofModel, mem_names_foldl_append, ← SymbolTable.mem_series_false]
  simp only [List.mem_map, exists_exists_and_eq_and]
  constructor
  · rintro ⟨⟨other, given⟩, member, named⟩
    obtain ⟨rfl, rfl⟩ := (mem_names_ofSeries given (model.horizon.range_ordered other)).mp named
    exact member
  · intro member
    exact ⟨(name, false), member,
      (mem_names_ofSeries false (model.horizon.range_ordered name)).mpr ⟨rfl, rfl⟩⟩

/-- Links and determined variables together are as many as states. -/
theorem length_links_ofModel (distinct : model.symbols.IsDistinct) :
    (ofModel model).links.length + model.symbols.determined.length = (ofModel model).size := by
  rw [← (isRegular_ofModel distinct).length_links_add distinct.nodup_determined
    fun name => mem_names_ofModel.symm, List.length_map]

/-- What an equation refers to has a place in one of the matrices. -/
theorem exists_target [Scalar α] (builtUp : model.IsBuiltUp) {equation : Equation α}
    (member : equation ∈ model.equations) {reference : TimedVariable}
    (listed : reference ∈ equation.references.series) :
    ∃ place, (ofModel model).target? reference = some place := by
  obtain ⟨name, offset⟩ := reference
  obtain ⟨given, declared⟩ :=
    SymbolTable.exists_mem_series ((builtUp.declares equation member).series _ listed)
  obtain ⟨lower, upper⟩ :=
    Horizon.range_of_mem (builtUp.mem_incidence_iff.mpr ⟨equation, member, listed⟩)
  have part := List.mem_map_of_mem (f := fun (series : String × Bool) =>
    ofSeries series.1 series.2 (model.horizon.range series.1).1 (model.horizon.range series.1).2)
    declared
  obtain ⟨backward, forward, exogenous⟩ := subset_foldl_append part
  exact exists_target_of_subset backward forward exogenous lower upper

end StateKeys

namespace Linearization

variable {α : Type} [Scalar α] {model : Model α} {memory after : Memory α}
  {linearization : Linearization α}

/-- The point of expansion has the shape of the system. -/
theorem sizes_of_ofModel (builtUp : model.IsBuiltUp) {whole : Bool}
    (made : outcome (ofModel model whole) memory = (.ok linearization, after))
    (isOf : linearization.system.IsOf model) :
    linearization.point.sizes = linearization.system.shape := by
  have found : model.steadyStatePoint = .ok linearization.point := by
    obtain ⟨_, _, _, building⟩ := outcome_bind_eq_ok.mp made
    obtain ⟨_, _, _, reading⟩ := outcome_bind_eq_ok.mp building
    obtain ⟨point, _, read, binding⟩ := outcome_bind_eq_ok.mp reading
    obtain ⟨_, _, _, expanding⟩ := outcome_bind_eq_ok.mp binding
    obtain ⟨forms, _, _, recording⟩ := outcome_bind_eq_ok.mp expanding
    have same : linearization.point = point := by
      dsimp only at recording
      split at recording <;> (cases recording; rfl)
    exact same ▸ (outcome_ofExcept_eq_ok.mp read).1
  have back := builtUp.horizon.lags.2 (Or.inl rfl)
  have ahead := builtUp.horizon.leads.2 (Or.inl rfl)
  rw [NumberArray.sizes, (SteadyState.point_shape found).2, System.shape, System.periods,
    isOf.lags_eq, isOf.leads_eq, isOf.columns_eq]
  simp only [List.map_cons, List.map_nil, List.cons.injEq, and_true]
  exact ⟨Int.toNat_of_nonneg (by omega), rfl⟩

/-- The entries of the Jacobian of a linearization of all equations are labelled with what the
equations refer to. -/
theorem IsSound.exists_label (sound : linearization.IsSound) (whole : linearization.whole)
    {entry : (Nat × Nat) × α} (member : entry ∈ linearization.jacobian.triples) :
    ∃ equation ∈ linearization.system.equations, ∃ reference ∈ equation.references.series,
      linearization.system.labels[entry.1.2]? = some reference := by
  have simple := sound.system.isSimple sound.equations
  have sized := sound.system.sized (sound.length_slopes whole)
  have stored := (Pattern.triples_perm simple sized linearization.system.width).mem_iff.mp member
  obtain ⟨columns, among, inRow⟩ := Pattern.exists_of_mem_cellsFrom (List.of_mem_zip stored).1
  obtain ⟨equation, stated, located⟩ := exists_of_mem_right sound.system.isColumnOf among
  obtain ⟨reference, listed, here⟩ := exists_of_mem_right located inRow
  exact ⟨equation, stated, reference, listed, here.label⟩

end Linearization

namespace StateSpace

variable {α : Type} [Scalar α] {model : Model α} {memory between : Memory α}
  {linearization : Linearization α}

/-- Every entry of the linearized Jacobian finds its place. -/
theorem exists_places (builtUp : model.IsBuiltUp) (sound : linearization.IsSound)
    (isOf : linearization.system.IsOf model) (whole : linearization.whole) :
    ∃ entries, linearization.jacobian.triples.mapM
      (place (StateKeys.ofModel model) linearization.system.labels) = .ok entries := by
  refine exists_mapM_eq_ok fun entry member => ?_
  obtain ⟨equation, stated, reference, listed, labelled⟩ := sound.exists_label whole member
  obtain ⟨target, found⟩ := StateKeys.exists_target builtUp (isOf.equations_eq ▸ stated) listed
  have read : linearization.system.labels.getD entry.1.2 ⟨"", 0⟩ = reference := by
    rw [List.getD_eq_getElem?_getD, labelled, Option.getD_some]
  unfold place
  dsimp only
  rw [read, found]
  exact ⟨_, rfl⟩

/-- Where all equations can be linearized, the first-order form fails only for too many rows. -/
theorem ofModel_of_linearized (modelSound : model.IsSound) (memorySound : memory.IsSound)
    (builtUp : model.IsBuiltUp)
    (made : outcome (Linearization.ofModel model true) memory = (.ok linearization, between)) :
    let keys := StateKeys.ofModel model
    let rows := model.equations.length + keys.links.length
    (rows ≤ keys.size → ∃ space after, outcome (ofModel model) memory = (.ok space, after)) ∧
    (keys.size < rows → ∃ after, outcome (ofModel model) memory =
      (.error (.tooFewStates model.name rows model.equations.length keys.links.length keys.size),
        after)) := by
  intro keys rows
  obtain ⟨_, returned⟩ := Linearization.keeps_ofModel modelSound true memory memorySound
  rw [made] at returned
  obtain ⟨sound, isOf, whole⟩ := returned _ rfl
  unfold ofModel
  rw [outcome_bind, made]
  dsimp only
  constructor
  · intro enough
    rw [if_neg (not_lt.mpr enough)]
    obtain ⟨residuals, afterwards, evaluated⟩ := sound.exists_residuals whole model.calibration
      between (Linearization.sizes_of_ofModel builtUp made isOf)
    obtain ⟨entries, placed⟩ := exists_places builtUp sound isOf whole
    rw [outcome_bind, evaluated]
    dsimp only
    rw [placed]
    exact ⟨_, _, rfl⟩
  · intro few
    rw [if_pos few]
    exact ⟨_, rfl⟩

end StateSpace

namespace Reachable

variable {α : Type} [Scalar α] [Numeral α] {bench : Bench α}

/-- In every state of a run, the states less the links are as many as the variables that the model
determines. If the linearization of all equations can be built there, the first-order form can be
built if there are no more equations than such variables, and otherwise the number of states is the
reason that is given. -/
theorem build_firstOrder_of_full (reachable : Reachable bench) :
    let model := bench.session.model
    let keys := StateKeys.ofModel model
    keys.size = keys.links.length + model.symbols.determined.length ∧
    ∀ form after, outcome (Session.build .full) bench.session = (.ok form, after) →
      (model.equations.length ≤ model.symbols.determined.length →
        ∃ space later,
          outcome (Session.build .firstOrder) bench.session = (.ok (.firstOrder space), later)) ∧
      (model.symbols.determined.length < model.equations.length →
        ∃ later, outcome (Session.build .firstOrder) bench.session =
          (.error (.tooFewStates model.name (model.equations.length + keys.links.length)
            model.equations.length keys.links.length keys.size), later)) := by
  intro model keys
  have sound := reachable.isSound.session
  have balance : keys.links.length + model.symbols.determined.length = keys.size :=
    StateKeys.length_links_ofModel sound.model.symbols
  refine ⟨balance.symm, fun form after built => ?_⟩
  rw [Session.outcome_build, ModelForm.ofModel] at built
  have value := congrArg Prod.fst built
  obtain ⟨linearization, ran, _⟩ := outcome_map_eq_ok.mp (Prod.ext value rfl)
  obtain ⟨succeeds, fails⟩ := StateSpace.ofModel_of_linearized sound.model sound.memory
    reachable.isBuiltUp ran
  rw [Session.outcome_build_firstOrder]
  constructor
  · intro enough
    have rows : model.equations.length + keys.links.length ≤ keys.size := by omega
    obtain ⟨space, later, made⟩ := succeeds rows
    rw [made]
    exact ⟨space, _, rfl⟩
  · intro crowded
    have rows : keys.size < model.equations.length + keys.links.length := by omega
    obtain ⟨later, made⟩ := fails rows
    rw [made]
    exact ⟨_, rfl⟩

/-- A model of one variable that says the same twice. -/
noncomputable def crowded : Bench ℝ :=
  Bench.run { session := .start "crowded" { tolerance := 0, variant := .plain, chunkLimit := 1 } }
    [.addVariable { name := "x" },
      .addExpression (.binary .sub (.series ⟨"x", 2⟩) (.series ⟨"x", 1⟩)) "first" false,
      .addExpression (.binary .sub (.series ⟨"x", 2⟩) (.series ⟨"x", 1⟩)) "second" false,
      .setSteadyState "x" (.number 0) (.number 0)]

theorem exists_build_full {bench : Bench ℝ}
    (ready : (outcome (Linearization.ofModel bench.session.model true)
      bench.session.memory).1.toBool = true) :
    ∃ form after, outcome (Session.build .full) bench.session = (.ok form, after) := by
  rw [Session.outcome_build, ModelForm.ofModel, outcome_map]
  rcases ran : (outcome (Linearization.ofModel bench.session.model true)
    bench.session.memory).1 with reason | linearization
  · rw [ran] at ready
    cases ready
  · exact ⟨_, _, rfl⟩

/-- One equation for one variable makes a square system, and two of them are too many, although
there are two states in both cases. -/
theorem build_firstOrder_of_full_crossing :
    (∃ form after, outcome (Session.build .full) crossing.session = (.ok form, after)) ∧
    (∃ space later, outcome (Session.build .firstOrder) crossing.session =
      (.ok (.firstOrder space), later)) ∧
    (∃ form after, outcome (Session.build .full) crowded.session = (.ok form, after)) ∧
    ∃ later, outcome (Session.build .firstOrder) crowded.session =
      (.error (.tooFewStates "crowded" 3 2 1 2), later) := by
  have flatCrossing : Linearization.checkSteadyState crossing.session.model = pure () :=
    Linearization.checkSteadyState_eq_pure rfl rfl (le_of_eq (abs_zero (α := ℝ)))
  have flatCrowded : Linearization.checkSteadyState crowded.session.model = pure () :=
    Linearization.checkSteadyState_eq_pure rfl rfl (le_of_eq (abs_zero (α := ℝ)))
  obtain ⟨form, after, built⟩ : ∃ form after,
      outcome (Session.build .full) crossing.session = (.ok form, after) := by
    apply exists_build_full
    unfold Linearization.ofModel
    rw [flatCrossing]
    simp only [Linearization.expand_eq]
    decide +kernel
  obtain ⟨formCrowded, afterCrowded, builtCrowded⟩ : ∃ form after,
      outcome (Session.build .full) crowded.session = (.ok form, after) := by
    apply exists_build_full
    unfold Linearization.ofModel
    rw [flatCrowded]
    simp only [Linearization.expand_eq]
    decide +kernel
  have reachable : Reachable crossing := (Reachable.start _ _).run _
  have reachableCrowded : Reachable crowded := (Reachable.start _ _).run _
  refine ⟨⟨form, after, built⟩, ?_, ⟨formCrowded, afterCrowded, builtCrowded⟩, ?_⟩
  · exact ((Reachable.build_firstOrder_of_full reachable).2 form after built).1 (by decide +kernel)
  · exact ((Reachable.build_firstOrder_of_full reachableCrowded).2 formCrowded afterCrowded
      builtCrowded).2 (by decide +kernel)

end Reachable

end Intertemporal
