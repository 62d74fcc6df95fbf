import Intertemporal.Proofs.Model.Coherence
import Intertemporal.Proofs.Model.Entries
import Intertemporal.Proofs.Model.Slices
import Intertemporal.Proofs.System.Settled

/-!
# Evaluation along trajectories

An equation that is evaluated along a trajectory is formed and bound on its own, and its inputs are
gathered from the trajectory itself. A system of the model forms and binds all equations and reads
the slice of the trajectory about a date. Both evaluate with the values that the evaluator of the
equation settles on, with the same levels and the same inputs, so they agree wherever both return.
-/

namespace Intertemporal

variable {α : Type} [Scalar α]

namespace EquationForm

variable {trends : SteadyState α} {equation : Equation α} {form other : EquationForm α}
  {calibration : Calibration α} {origin : Memory α}

omit [Scalar α] in
/-- The levels with which an equation is evaluated follow from the trends. -/
theorem IsFormOf.levels?_eq (formed : form.IsFormOf trends equation) :
    form.levels? = ((equation.references.steadyStates.mapM trends.trend).toOption.map
      (List.map Trend.level)) := by
  cases formed with
  | dynamic none =>
      rw [none]
      rfl
  | anchored levels =>
      rw [levels]
      rfl

/-- It does not matter when the form of an equation was made. -/
theorem IsFormOf.residualFrom_eq (formed : form.IsFormOf trends equation)
    (formedToo : other.IsFormOf trends equation) (inputs : List α) :
    form.residualFrom calibration origin inputs = other.residualFrom calibration origin inputs := by
  have same : form.levels? = other.levels? := formed.levels?_eq.trans formedToo.levels?_eq.symm
  have sameEquation : form.equation = other.equation :=
    formed.equation_eq.trans formedToo.equation_eq.symm
  have stated : ∃ levels, form.levels? = some levels := by
    cases formed with
    | dynamic | anchored => exact ⟨_, rfl⟩
  rcases stated with ⟨levels, here⟩
  rw [EquationForm.residualFrom_eq here, EquationForm.residualFrom_eq (same ▸ here), sameEquation]

/-- An equation can be bound if all of its parameters have values, whatever is bound already. -/
theorem IsFormOf.bindFrom_eq_ok (formed : form.IsFormOf trends equation)
    (named : equation.evaluator.parameters = equation.references.parameters)
    (valued : ∀ name ∈ equation.references.parameters,
      ∃ value, calibration.values.get? name = some (some value)) :
    form.bindFrom calibration origin = .ok () := by
  have stated : form.levels?.isSome := by
    cases formed with
    | dynamic | anchored => rfl
  rw [bindFrom_eq stated, formed.equation_eq, Evaluator.settled]
  split
  · rfl
  · have each : ∀ name ∈ equation.evaluator.parameters,
        ∃ value, calibration.evaluationValue name = .ok value := by
      intro name member
      rcases valued name (named ▸ member) with ⟨value, given⟩
      exact ⟨value, by rw [Calibration.evaluationValue, given]⟩
    rcases exists_mapM_eq_ok each with ⟨values, found⟩
    rw [Evaluator.valuesIn, found]
    rfl

end EquationForm

namespace Session

variable {known : Evaluator α → Prop} {session : Session α} {equation : Equation α}
  {places : List Place} {trajectory : Trajectory α} {data : NumberArray α} {rows : Nat}
  {dates : List Int} {form : EquationForm α}

/-- A session in which the parameters of all equations have values, with a trajectory that has a
column for every series of the model. -/
structure Traces (known : Evaluator α → Prop) (trajectory : Trajectory α) (data : NumberArray α)
    (rows : Nat) (session : Session α) : Prop where
  builtUp : session.model.IsBuiltUp
  orderly : session.memory.IsOrderlyFor known session.model.calibration
  known : ∀ equation ∈ session.model.equations, known equation.evaluator
  named : ∀ equation ∈ session.model.equations,
    equation.evaluator.parameters = equation.references.parameters
  valued : ∀ equation ∈ session.model.equations, ∀ name ∈ equation.references.parameters,
    ∃ value, session.model.calibration.values.get? name = some (some value)
  read : trajectory.toArray session.model.columns = .ok data
  shaped : data.shape = [rows, session.model.columns.length]

/-- What is returned for an equation at a date, if the memory at the start tells what its evaluator
settles on. -/
def resultAt (session : Session α) (data : NumberArray α) (rows : Nat) (places : List Place)
    (form : EquationForm α) (date : Int) : Except (Error α) α :=
  if session.model.horizon.Fits rows date then
    form.residualFrom session.model.calibration session.memory
      (System.inputs (data.about session.model.horizon date) places)
  else .ok Scalar.undefined

omit [Scalar α] in
/-- What is determined of a memory is determined of a session whose model stays. -/
theorem returns_act {β : Type} {invariant : Memory α → Prop} {action : Action α β}
    {result : Except (Error α) β} (model : Model α) (returns : Returns invariant action result) :
    Returns (fun later => later.model = model ∧ invariant later.memory) (act action) result := by
  rintro later ⟨same, holds⟩
  rcases returns later.memory holds with ⟨kept, returned⟩
  exact ⟨⟨same, kept⟩, returned⟩

namespace Traces

variable (traces : Traces known trajectory data rows session)

include traces

theorem height : data.shape.headD 0 = rows := by
  rw [traces.shaped]
  rfl

theorem horizon_nonneg : 0 ≤ session.model.horizon.lags ∧ 0 ≤ session.model.horizon.leads :=
  ⟨traces.builtUp.horizon.lags.2 (Or.inl rfl), traces.builtUp.horizon.leads.2 (Or.inl rfl)⟩

theorem equation_eq (member : equation ∈ session.model.equations) :
    session.model.equation equation.name = .ok equation := by
  rw [Model.equation, find?_eq_some_of_nodup traces.builtUp.named member]

theorem outcome_of_outside (member : equation ∈ session.model.equations)
    (outside : ∃ date ∈ dates, date < 0 ∨ rows ≤ date) :
    (outcome (residualsAlong equation.name trajectory (some dates)) session).1 =
      .error (.rowsOutOfRange rows) := by
  have refused : dates.any (fun date => date < 0 || (rows : Int) ≤ date) = true := by
    simpa using outside
  rw [residualsAlong, outcome_theModel_bind]
  simp only [outcome_bind, outcome_ofExcept, traces.equation_eq member, traces.read,
    Except.mapError, traces.height, Option.getD_some, refused]
  rfl

/-- A date is evaluated in the window about it, if that fits. -/
theorem returns_residualAt (here : known form.equation.evaluator)
    (located : List.Forall₂ (System.Locates session.model.columns session.model.horizon.lags
      session.model.horizon.leads) equation.references.series places) (date : Int) :
    Returns (fun later => later.model = session.model ∧
        Memory.IsSettledFor known session.model.calibration session.memory [form] later.memory)
      (residualAt form data session.model.horizon
        (equation.references.series.zip (places.map (·.column))) date)
      (session.resultAt data rows places form date) := by
  rcases traces.horizon_nonneg with ⟨lags, leads⟩
  rw [residualAt, resultAt, traces.height]
  by_cases fits : session.model.horizon.Fits rows date
  · have full := Trajectory.isFull_of_toArray traces.read
    rw [window_of_fits lags leads fits, if_pos fits]
    simp only [windowInputs_eq_inputs full traces.shaped fits located]
    exact returns_act session.model
      (EquationForm.returns_residualFrom (List.mem_singleton_self form) here _)
  · rw [window_of_not_fits fits, if_neg fits]
    exact fun later holds => ⟨holds, rfl⟩

/-- An equation is bound once and then evaluated at one date after another. -/
theorem returns_bind_residualAt (here : known form.equation.evaluator)
    (located : List.Forall₂ (System.Locates session.model.columns session.model.horizon.lags
      session.model.horizon.leads) equation.references.series places) (dates : List Int) :
    Returns (fun later => later.model = session.model ∧
        Memory.Settles known session.model.calibration session.memory later.memory)
      (do
        act (form.bind session.model.calibration)
        dates.mapM (residualAt form data session.model.horizon
          (equation.references.series.zip (places.map (·.column)))))
      (do
        form.bindFrom session.model.calibration session.memory
        dates.mapM (session.resultAt data rows places form)) := by
  have each := fun date (_ : date ∈ dates) => traces.returns_residualAt here located date
  apply (returns_act session.model (EquationForm.returns_bind here)).enter _ _
    fun _ => Returns.mapM each
  · rintro later done after ⟨same, settles⟩ bound
    rcases outcome_act_eq_ok.mp bound with ⟨memory, binding, rfl⟩
    exact ⟨same, EquationForm.isSettledFor_of_bind here settles binding⟩
  · rintro later ⟨same, settled⟩
    exact ⟨same, settled.1⟩

theorem outcome_of_inside (member : equation ∈ session.model.equations)
    (located : System.locateAll session.model equation = .ok places)
    (formed : form.IsFormOf session.model.steadyState equation)
    (inside : ∀ date ∈ dates, 0 ≤ date ∧ date < rows) :
    (outcome (residualsAlong equation.name trajectory (some dates)) session).1 =
      dates.mapM (session.resultAt data rows places form) := by
  have accepted : dates.any (fun date => date < 0 || (rows : Int) ≤ date) = false := by
    simp only [List.any_eq_false, Bool.or_eq_true, decide_eq_true_eq]
    intro date member
    have := inside date member
    omega
  have columns := referenceColumns_eq traces.builtUp.symbols.nodup_seriesNames located
  have making := (Memory.isStable_settles known session.model.calibration
    session.memory).keeps_ofEquation session.model.steadyState session.model.options.tolerance
      equation session.memory ⟨traces.orderly, fun _ _ => rfl⟩
  rw [residualsAlong, outcome_theModel_bind]
  simp only [outcome_bind, outcome_ofExcept, traces.equation_eq member, traces.read,
    Except.mapError, traces.height, Option.getD_some, accepted, columns, Bool.false_eq_true,
    if_false, outcome_act]
  rcases ran : outcome (EquationForm.ofEquation session.model.steadyState
    session.model.options.tolerance equation) session.memory with ⟨reason | made, memory⟩
  · exact (System.failsWithin_ofEquation traces.builtUp member _ _ _
      (congrArg Prod.fst ran)).elim
  · rw [ran] at making
    rcases making with ⟨settles, isForm⟩
    have formedMade := isForm made rfl
    have here : known made.equation.evaluator := by
      rw [formedMade.equation_eq]
      exact traces.known equation member
    have returns := traces.returns_bind_residualAt here (System.locates_of_locateAll located) dates
      { session with memory } ⟨rfl, settles⟩
    have bound : made.bindFrom session.model.calibration session.memory = .ok () :=
      formedMade.bindFrom_eq_ok (traces.named equation member) (traces.valued equation member)
    have computed := returns.2
    rw [bound, outcome_bind, outcome_act] at computed
    refine computed.trans (mapM_congr_of_mem fun date _ => ?_)
    rw [resultAt, resultAt, formedMade.residualFrom_eq formed]

end Traces

/-- The residuals that a form returns about a date of a trajectory. -/
def residualsAbout (form : ModelForm α) (data : NumberArray α) (date : Int) :
    SessionAction α (List α) := do
  residuals form (data.about (← theModel).horizon date)

/-- A session in which a system of the model has been built, and nothing else has changed that
evaluations depend on. -/
structure HasBuilt (known : Evaluator α → Prop) (session : Session α) (system : System α)
    (after : Session α) : Prop where
  model_eq : after.model = session.model
  settles : Memory.Settles known session.model.calibration session.memory after.memory
  isOf : system.IsOf session.model
  formed : List.Forall₂ (EquationForm.IsFormOf session.model.steadyState) session.model.equations
    system.forms
  located : List.Forall₂ (fun equation places =>
    System.locateAll session.model equation = .ok places) session.model.equations system.places

variable {system : System α} {after : Session α}

theorem hasBuilt_of_build (orderly : session.memory.IsOrderlyFor known session.model.calibration)
    (built : outcome (build .plain) session = (.ok (.plain system), after)) :
    session.HasBuilt known system after := by
  have stable := Memory.isStable_settles known session.model.calibration session.memory
  rcases stable.keeps_ofModel session.model session.memory ⟨orderly, fun _ _ => rfl⟩ with
    ⟨settles, property⟩
  rw [outcome_build, ModelForm.ofModel, outcome_map] at built
  rcases made : outcome (System.ofModel session.model) session.memory with ⟨_ | found, memory⟩
  · rw [made] at built
    cases built
  · rw [made] at built settles property
    cases built
    rcases property system rfl with ⟨isOf, formed, located⟩
    exact ⟨rfl, settles, isOf, formed, mapM_eq_ok.mp located⟩

namespace HasBuilt

variable (hasBuilt : session.HasBuilt known system after)

include hasBuilt

theorem sized : system.forms.length = system.places.length := by
  rw [← hasBuilt.formed.length_eq, hasBuilt.located.length_eq]

variable (traces : Traces known trajectory data rows session)

include traces

theorem sizes_about (date : Int) :
    (data.about session.model.horizon date).sizes = system.shape := by
  rcases traces.horizon_nonneg with ⟨lags, leads⟩
  have width : data.columns = session.model.columns.length := by
    rw [NumberArray.columns, traces.shaped]
    rfl
  simp only [NumberArray.about, NumberArray.slice, NumberArray.sizes, System.shape,
    System.periods, hasBuilt.isOf.lags_eq, hasBuilt.isOf.leads_eq, hasBuilt.isOf.columns_eq,
    width, List.map_cons, List.map_nil]
  rw [Int.ofNat_eq_natCast, Int.toNat_of_nonneg (by omega)]
  rfl

/-- A system that has just been built returns what its equations return one by one. -/
theorem residualsAbout_eq_ok {date : Int} (fits : session.model.horizon.Fits rows date)
    {residuals : List α} :
    (outcome (residualsAbout (.plain system) data date) after).1 = .ok residuals ↔
      List.Forall₂ (fun item residual =>
        session.resultAt data rows item.2 item.1 date = .ok residual)
        (system.forms.zip system.places) residuals := by
  have here : ∀ form ∈ system.forms, known form.equation.evaluator := fun form member =>
    traces.known _ (IsStable.mem_of_formed hasBuilt.formed member)
  simp only [resultAt, if_pos fits]
  rw [residualsAbout, outcome_theModel_bind, Session.residuals, outcome_theModel_bind,
    outcome_act, hasBuilt.model_eq]
  exact (System.residuals_eq_ok here hasBuilt.sized hasBuilt.settles).trans
    (and_iff_right (hasBuilt.sizes_about traces date))

/-- The results for an equation are those of its form and its places in the system. -/
theorem residualsAlong_eq {row : Nat} (stated : session.model.equations[row]? = some equation)
    (atRow : (system.forms.zip system.places)[row]? = some (form, places))
    (inside : ∀ date ∈ dates, 0 ≤ date ∧ date < rows) :
    (outcome (residualsAlong equation.name trajectory (some dates)) session).1 =
      dates.mapM (session.resultAt data rows places form) := by
  rcases List.getElem?_zip_eq_some.mp atRow with ⟨formAt, placesAt⟩
  rcases exists_getElem?_of_forall₂ hasBuilt.formed stated with ⟨_, formAgain, formed⟩
  rcases exists_getElem?_of_forall₂ hasBuilt.located stated with ⟨_, placesAgain, located⟩
  cases formAt.symm.trans formAgain
  cases placesAt.symm.trans placesAgain
  exact traces.outcome_of_inside (List.mem_of_getElem? stated) located formed inside

/-- A system that has just been built returns its residuals about a date if every equation has a
result there. -/
theorem exists_residualsAbout {date : Int} (fits : session.model.horizon.Fits rows date)
    (each : ∀ equation ∈ session.model.equations, ∃ results,
      (outcome (residualsAlong equation.name trajectory (some [date])) session).1 = .ok results) :
    ∃ residuals, (outcome (residualsAbout (.plain system) data date) after).1 = .ok residuals := by
  have inside : ∀ day ∈ [date], 0 ≤ day ∧ day < rows := by
    rcases traces.horizon_nonneg with ⟨lags, leads⟩
    rcases fits with ⟨early, late⟩
    intro day member
    cases List.mem_singleton.mp member
    omega
  suffices all : ∀ item ∈ system.forms.zip system.places, ∃ residual,
      session.resultAt data rows item.2 item.1 date = .ok residual by
    rcases exists_mapM_eq_ok all with ⟨residuals, collected⟩
    exact ⟨residuals, (hasBuilt.residualsAbout_eq_ok traces fits).mpr (mapM_eq_ok.mp collected)⟩
  rintro ⟨form, places⟩ member
  rcases List.mem_iff_getElem?.mp member with ⟨row, atRow⟩
  have inRange : row < session.model.equations.length := by
    rw [hasBuilt.formed.length_eq]
    exact (List.getElem?_eq_some_iff.mp (List.getElem?_zip_eq_some.mp atRow).1).1
  have stated := List.getElem?_eq_getElem inRange
  rcases each _ (List.getElem_mem inRange) with ⟨results, returned⟩
  rw [hasBuilt.residualsAlong_eq traces stated atRow inside] at returned
  rcases List.forall₂_cons_left_iff.mp (mapM_eq_ok.mp returned) with ⟨residual, _, here, _⟩
  exact ⟨residual, here⟩

end HasBuilt

end Session

namespace Reachable

variable [Numeral α] {bench : Bench α}

open Session (residualsAlong residualsAbout)

/-- The range evaluation of an equation agrees with an evaluation of the model, in every state of a
run, requests that failed included. It refuses a list of dates if one of them is no row of the
trajectory. Otherwise its results are undefined where the window does not fit, and those of a newly
built system about the date elsewhere; they are returned if the system returns its residuals about
all of these dates, and the system returns them about a date if all equations have a result. -/
theorem residualsAlong_agrees (reachable : Reachable bench) {row : Nat} {equation : Equation α}
    (stated : bench.session.model.equations[row]? = some equation)
    (valued : ∀ other ∈ bench.session.model.equations, ∀ name ∈ other.references.parameters,
      ∃ value, bench.session.model.calibration.values.get? name = some (some value))
    {trajectory : Trajectory α} {data : NumberArray α} {rows : Nat}
    (read : trajectory.toArray bench.session.model.columns = .ok data)
    (shaped : data.shape = [rows, bench.session.model.columns.length]) (dates : List Int) :
    ((∃ date ∈ dates, date < 0 ∨ rows ≤ date) →
      (outcome (residualsAlong equation.name trajectory (some dates)) bench.session).1 =
        .error (.rowsOutOfRange rows)) ∧
    ((∀ date ∈ dates, 0 ≤ date ∧ date < rows) →
      ∀ system after, outcome (Session.build .plain) bench.session = (.ok (.plain system), after) →
        (∀ results,
          (outcome (residualsAlong equation.name trajectory (some dates)) bench.session).1 =
            .ok results →
          List.Forall₂ (fun date result =>
            if bench.session.model.horizon.Fits rows date then
              ∀ residuals, (outcome (residualsAbout (.plain system) data date) after).1 =
                .ok residuals → residuals[row]? = some result
            else result = Scalar.undefined) dates results) ∧
        ((∀ date ∈ dates, bench.session.model.horizon.Fits rows date → ∃ residuals,
          (outcome (residualsAbout (.plain system) data date) after).1 = .ok residuals) →
          ∃ results,
            (outcome (residualsAlong equation.name trajectory (some dates)) bench.session).1 =
              .ok results) ∧
        ∀ date, bench.session.model.horizon.Fits rows date →
          (∀ other ∈ bench.session.model.equations, ∃ results,
            (outcome (residualsAlong other.name trajectory (some [date])) bench.session).1 =
              .ok results) →
          ∃ residuals, (outcome (residualsAbout (.plain system) data date) after).1 =
            .ok residuals) := by
  rcases reachable.exists_accounts with ⟨used, accounts⟩
  have traces : Session.Traces used trajectory data rows bench.session :=
    ⟨reachable.isBuiltUp, accounts.session.memory, accounts.session.model.equations,
      Registry.Compiles.parameters_eq reachable.isFiled, valued, read, shaped⟩
  refine ⟨traces.outcome_of_outside (List.mem_of_getElem? stated), ?_⟩
  intro inside system after built
  have hasBuilt := Session.hasBuilt_of_build traces.orderly built
  rcases exists_getElem?_of_forall₂ hasBuilt.formed stated with ⟨form, formAt, _⟩
  rcases exists_getElem?_of_forall₂ hasBuilt.located stated with ⟨places, placesAt, _⟩
  have atRow : (system.forms.zip system.places)[row]? = some (form, places) :=
    List.getElem?_zip_eq_some.mpr ⟨formAt, placesAt⟩
  -- what the system returns for the equation is its own result at the date
  have entry : ∀ {date residuals}, bench.session.model.horizon.Fits rows date →
      (outcome (residualsAbout (.plain system) data date) after).1 = .ok residuals →
        ∃ result, residuals[row]? = some result ∧
          bench.session.resultAt data rows places form date = .ok result := by
    intro date residuals fits returned
    exact exists_getElem?_of_forall₂ ((hasBuilt.residualsAbout_eq_ok traces fits).mp returned) atRow
  rw [hasBuilt.residualsAlong_eq traces stated atRow inside]
  refine ⟨?_, ?_, fun date fits => hasBuilt.exists_residualsAbout traces fits⟩
  · intro results collected
    apply (mapM_eq_ok.mp collected).imp
    intro date result here
    split
    · rename_i fits
      intro residuals returned
      rcases entry fits returned with ⟨same, ofRow, there⟩
      cases here.symm.trans there
      exact ofRow
    · rename_i outside
      rw [Session.resultAt, if_neg outside] at here
      exact (Except.ok.inj here).symm
  · intro returns
    apply exists_mapM_eq_ok
    intro date member
    by_cases fits : bench.session.model.horizon.Fits rows date
    · rcases returns date member fits with ⟨residuals, returned⟩
      rcases entry fits returned with ⟨result, _, there⟩
      exact ⟨result, there⟩
    · exact ⟨Scalar.undefined, if_neg fits⟩

/-- What a series grows by over two periods, less a multiple of its first value. -/
def pace : Expression ℝ :=
  .binary .sub (.series ⟨"x", 1⟩) (.binary .mul (.parameter "p" none) (.series ⟨"x", -1⟩))

/-- A model whose window has a lag and a lead, after a parameter was refused a value. -/
noncomputable def paced : Bench ℝ :=
  Bench.run { session := .start "paced" { tolerance := 0, variant := .plain, chunkLimit := 1 } }
    [.addVariable { name := "x" }, .addParameter { name := "p" } (.number 0),
      .addExpression pace "pace" false, .setParameters [("p", .number 1), ("p", .mapping [] [])]]

/-- The values of the series over four periods. -/
noncomputable def strides : Trajectory ℝ :=
  .array (.sequence [.sequence [.number 1], .sequence [.number 0], .sequence [.number 1],
    .sequence [.number 1]])

/-- The range evaluation has no result in the first period, and elsewhere that of the system; a date
after the last one is refused. -/
theorem residualsAlong_agrees_paced :
    ∃ system after results, Reachable paced ∧
      outcome (Session.build .plain) paced.session = (.ok (.plain system), after) ∧
      (outcome (residualsAlong "pace" strides (some [2, 0])) paced.session).1 = .ok results ∧
      results[1]? = some Scalar.undefined ∧
      (∃ residuals, (outcome (residualsAbout (.plain system) ⟨[4, 1], [1, 0, 1, 1]⟩ 2) after).1 =
        .ok residuals ∧ residuals[0]? = results[0]?) ∧
      (outcome (residualsAlong "pace" strides (some [2, 0, 4])) paced.session).1 =
        .error (.rowsOutOfRange 4) := by
  have reachable : Reachable paced := (Reachable.start _ _).run _
  obtain ⟨equation, only, named, parameters⟩ : ∃ equation,
      paced.session.model.equations = [equation] ∧ equation.name = "pace" ∧
        equation.references.parameters = ["p"] := ⟨_, rfl, rfl, rfl⟩
  obtain ⟨system, after, built⟩ : ∃ system after,
      outcome (Session.build .plain) paced.session = (.ok (.plain system), after) := ⟨_, _, rfl⟩
  obtain ⟨results, along⟩ : ∃ results,
      (outcome (residualsAlong "pace" strides (some [2, 0])) paced.session).1 = .ok results :=
    ⟨_, rfl⟩
  obtain ⟨single, alongSingle⟩ : ∃ results,
      (outcome (residualsAlong "pace" strides (some [2])) paced.session).1 = .ok results :=
    ⟨_, rfl⟩
  have valued : ∀ other ∈ paced.session.model.equations, ∀ name ∈ other.references.parameters,
      ∃ value, paced.session.model.calibration.values.get? name = some (some value) := by
    intro other member name listed
    rw [only] at member
    rw [List.mem_singleton.mp member, parameters] at listed
    rw [List.mem_singleton.mp listed]
    exact ⟨.scalar 1, rfl⟩
  have stated : paced.session.model.equations[0]? = some equation := by
    rw [only]
    rfl
  have read : strides.toArray paced.session.model.columns = .ok ⟨[4, 1], [1, 0, 1, 1]⟩ := rfl
  have lags : paced.session.model.horizon.lags = 1 := rfl
  have leads : paced.session.model.horizon.leads = 1 := rfl
  have late : paced.session.model.horizon.Fits 4 2 := by
    rw [Horizon.Fits, lags, leads]
    decide
  have early : ¬paced.session.model.horizon.Fits 4 0 := by
    rw [Horizon.Fits, lags]
    decide
  have agrees := reachable.residualsAlong_agrees stated valued read rfl
  have refused := (agrees [2, 0, 4]).1 ⟨4, by simp, by decide⟩
  obtain ⟨same, _, returns⟩ := (agrees [2, 0]).2 (by decide) system after built
  rw [named] at same refused
  obtain ⟨residuals, returned⟩ := returns 2 late fun other member => by
    rw [only] at member
    rw [List.mem_singleton.mp member, named]
    exact ⟨single, alongSingle⟩
  obtain ⟨first, others, atTwo, rest, rfl⟩ := List.forall₂_cons_left_iff.mp (same results along)
  obtain ⟨second, _, atZero, _, rfl⟩ := List.forall₂_cons_left_iff.mp rest
  rw [if_pos late] at atTwo
  rw [if_neg early] at atZero
  exact ⟨system, after, _, reachable, built, along, congrArg some atZero,
    ⟨residuals, returned, atTwo residuals returned⟩, refused⟩

end Reachable

end Intertemporal
