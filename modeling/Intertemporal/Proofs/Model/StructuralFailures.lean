import Intertemporal.Proofs.Model.FirstOrder
import Intertemporal.Proofs.Model.Resemblance

/-!
# Structural requests that fail

A request that declares a series, states an equation, changes options or makes a form the active one
leaves the model and all forms as they were if it fails. What may change is the memory: numbers may
have been handed out, and equations may have been bound to the calibration for expansions of a form
that did not come about. The first makes no difference. The second makes none either as long as the
values of parameters change with their revision only, which they do unless an assignment breaks off
(`Reachable.failed_structural`). If one does, equations that were bound early keep the values from
before, while they would take the new ones without the failed request.
-/

namespace Intertemporal

variable {α : Type}

/-- Runs of which the second has handed out more numbers, from the first one on, where what was used
before is known. -/
def Comparison.past (used : Evaluator α → Prop) (first width : Nat) : Comparison α where
  first := first
  width := width
  known evaluator :=
    (∃ references, evaluator.IsSound references) ∧ (evaluator.id < first → used evaluator)
  sound _ here := here.1
  isNew _ references sound reached :=
    ⟨⟨references, sound⟩, fun below => absurd below (Nat.not_lt.mpr reached)⟩

theorem Comparison.move_past {used : Evaluator α → Prop} {first width number : Nat}
    (new : first ≤ number) : (past used first width).move number = number + width :=
  move_of_le new

variable [Scalar α]

/-- An orderly memory that an earlier one advances to: numbers may have been handed out, and if
`early` holds, the evaluators in use may have been bound to a calibration. -/
structure Memory.AdvancesTo (early : Prop) (used : Evaluator α → Prop) (calibration : Calibration α)
    (origin memory : Memory α) : Prop extends memory.IsOrderlyFor used calibration where
  nextRevision_eq : memory.nextRevision = origin.nextRevision
  nextId_le : origin.nextId ≤ memory.nextId
  states : ∀ evaluator, used evaluator →
    (evaluator.stateIn origin).Resembles early calibration evaluator (evaluator.stateIn memory)

namespace Memory.AdvancesTo

variable {early : Prop} {used : Evaluator α → Prop} {calibration : Calibration α}
  {origin memory after : Memory α} {evaluator : Evaluator α}

theorem refl (orderly : origin.IsOrderlyFor used calibration) :
    origin.AdvancesTo early used calibration origin :=
  ⟨orderly, rfl, Nat.le_refl _, fun _ _ => ⟨rfl, rfl, .inl rfl⟩⟩

theorem of_evaluators_eq (advances : origin.AdvancesTo early used calibration memory)
    (same : after.evaluators = memory.evaluators) (ids : memory.nextId ≤ after.nextId)
    (revisions : after.nextRevision = memory.nextRevision) :
    origin.AdvancesTo early used calibration after where
  toIsOrderlyFor := advances.toIsOrderlyFor.of_evaluators_eq same ids (Nat.le_of_eq revisions.symm)
  nextRevision_eq := revisions.trans advances.nextRevision_eq
  nextId_le := advances.nextId_le.trans ids
  states evaluator here := by
    rw [Evaluator.stateIn_of_evaluators_eq same]
    exact advances.states evaluator here

theorem storedIn (advances : origin.AdvancesTo early used calibration memory)
    (here : used evaluator) {state : EvaluatorState α}
    (orderly : (evaluator.storedIn state memory).IsOrderly used)
    (alike : (evaluator.stateIn origin).Resembles early calibration evaluator state) :
    origin.AdvancesTo early used calibration (evaluator.storedIn state memory) where
  toIsOrderlyFor := ⟨orderly, advances.revision⟩
  nextRevision_eq := advances.nextRevision_eq
  nextId_le := advances.nextId_le
  states other hereOther := by
    by_cases same : other.id = evaluator.id
    · rcases advances.identified other evaluator hereOther here same with rfl
      rw [Evaluator.stateIn_storedIn]
      exact alike
    · rw [Evaluator.stateIn_storedIn_of_ne _ _ same]
      exact advances.states other hereOther

/-- An evaluator that is bound was bound before, or it is bound early. -/
theorem isStable (early : Prop) (used : Evaluator α → Prop) (calibration : Calibration α)
    (origin : Memory α) :
    IsStable (fun evaluator => early ∧ used evaluator) calibration
      (AdvancesTo early used calibration origin) where
  record _ := .modify fun _ advances => advances.of_evaluators_eq rfl (Nat.le_refl _) rfl
  freshId := fun _ advances =>
    ⟨advances.of_evaluators_eq rfl (Nat.le_succ _) rfl, fun _ _ => trivial⟩
  storeJacobian _ _ := .modify fun _ advances => advances.of_evaluators_eq rfl (Nat.le_refl _) rfl
  bind := by
    rintro evaluator ⟨holds, here⟩ memory advances
    refine ⟨?_, fun _ _ => trivial⟩
    rw [Evaluator.outcome_bind_eq]
    split
    · exact advances
    · rename_i unbound
      rcases taken : evaluator.parameters.mapM calibration.evaluationValue with missing | values
      · exact advances
      · -- what holds no values now held none at the origin, so these are the first that it takes
        have states := advances.states evaluator here
        have none : (evaluator.stateIn origin).valuesFrom calibration.revision = none := by
          rw [Evaluator.isCurrent_iff, Option.not_isSome_iff_eq_none] at unbound
          rcases states.values with same | ⟨_, none, _⟩
          · rw [← same, unbound]
          · exact none
        apply advances.storedIn here (advances.stored_bind here advances.revision values)
        exact ⟨states.inputs_eq, states.chunk_eq,
          .inr ⟨holds, none, values, taken, EvaluatorState.valuesFrom_self _ _ _⟩⟩
  residualAndGradient := by
    rintro evaluator ⟨_, here⟩ array memory advances
    refine ⟨?_, fun _ _ => trivial⟩
    rw [Evaluator.outcome_residualAndGradient]
    split
    · exact advances
    · have states := advances.states evaluator here
      have fits := advances.fits evaluator here
      have called := Gradient.call_fits fits evaluator.program (evaluator.stateIn memory).values
        array
      apply advances.storedIn here (advances.stored_call here array)
      exact states.of_bound_eq rfl rfl
        (called.inputs_eq.trans (fits.inputs_eq.symm.trans states.inputs_eq))
        (called.chunk_eq.trans (fits.chunk_eq.symm.trans states.chunk_eq))

/-- Equations are bound for expansions only. -/
theorem keeps_ofModel {model : Model α} (known : model.IsKnown used) (variant : Variant)
    (origin : Memory α) :
    Keeps (AdvancesTo (variant ≠ .plain) used model.calibration origin)
      (ModelForm.ofModel model variant) fun _ => True := by
  have stable := isStable (variant ≠ .plain) used model.calibration origin
  by_cases plain : variant = .plain
  · -- the system itself is built without a use of its evaluators
    rcases plain with rfl
    exact (stable.keeps_ofModel model).map fun _ _ => trivial
  · have here : ∀ equation ∈ model.equations, variant ≠ .plain ∧ used equation.evaluator :=
      fun equation member => ⟨plain, known.equations equation member⟩
    exact (stable.keeps_modelForm here variant).weaken fun _ _ => trivial

/-- What is new in the earlier memory has a number that is new in the later one. -/
theorem nextId_le_move (advances : origin.AdvancesTo early used calibration memory)
    {number : Nat} (new : origin.nextId ≤ number) :
    memory.nextId ≤
      (Comparison.past used origin.nextId (memory.nextId - origin.nextId)).move number := by
  have later := advances.nextId_le
  rw [Comparison.move_past new]
  omega

/-- If also the Jacobians from before show what they showed, the memories resemble each other. -/
theorem resembles (advances : origin.AdvancesTo early used calibration memory)
    (orderly : origin.IsOrderlyFor used calibration) (sound : origin.IsSound)
    (soundAfter : memory.IsSound)
    (unused : ∀ id, origin.nextId ≤ id → origin.jacobians.get? id = none)
    (shows : memory.Shows (fun system => system.id < origin.nextId)
      fun system => system.values origin) :
    origin.Resembles (.past used origin.nextId (memory.nextId - origin.nextId)) early calibration []
      memory where
  ready := by
    refine ⟨⟨sound, orderly.revision, fun id state found => (orderly.stored id state found).2⟩, ?_⟩
    rintro ⟨form, member, _⟩
    cases member
  stamped :=
    ⟨soundAfter, advances.revision, fun id state found => (advances.stored id state found).2⟩
  nextRevision_eq := advances.nextRevision_eq
  reached := Nat.le_refl _
  nextId_eq := by
    rw [Comparison.move_past (Nat.le_refl _)]
    exact (Nat.add_sub_of_le advances.nextId_le).symm
  jacobians system := by
    rcases Nat.lt_or_ge system.id origin.nextId with old | new
    · rw [← shows.values system old, System.values, System.values, System.renumber,
        Comparison.move_of_lt old]
      rfl
    · rw [System.values, System.values, System.renumber, Table.getD, Table.getD, unused _ new,
        shows.stored _ (advances.nextId_le_move new)]
      rfl
  states evaluator here := by
    rcases Nat.lt_or_ge evaluator.id origin.nextId with old | new
    · rw [Evaluator.renumber_eq (Comparison.move_of_lt old)]
      exact advances.states evaluator (here.2 old)
    · -- nothing is stored under numbers that are new on either side
      have moved := advances.nextId_le_move new
      rw [orderly.stateIn_of_unused new, advances.stateIn_of_unused moved]
      exact ⟨rfl, rfl, .inl rfl⟩

end Memory.AdvancesTo

theorem Memory.shows_refl {memory : Memory α}
    (unused : ∀ id, memory.nextId ≤ id → memory.jacobians.get? id = none) :
    memory.Shows (fun system => system.id < memory.nextId) fun system => system.values memory :=
  ⟨unused, fun _ => id, fun _ _ => rfl⟩

namespace Session

variable {early : Prop} {used : Evaluator α → Prop} {session : Session α}

/-- What an operation may leave behind that fails: the same session, with a memory that has advanced
and in which all Jacobians from before show what they showed. -/
def OnlyAdvances (early : Prop) (used : Evaluator α → Prop) (session after : Session α) : Prop :=
  ∃ memory, after = { session with memory } ∧
    session.memory.AdvancesTo early used session.model.calibration memory ∧
    memory.Shows (fun system => system.id < session.memory.nextId)
      fun system => system.values session.memory

section Failures

variable (accounts : session.Accounts used)
  (unused : ∀ id, session.memory.nextId ≤ id → session.memory.jacobians.get? id = none)

include accounts unused

theorem advances_of_unchanged {β : Type} {action : SessionAction α β}
    (leads : Leads (· = session) action (fun _ _ => True) (· = session)) :
    Leads (· = session) action (fun _ _ => True) (session.OnlyAdvances early used) := by
  apply leads.weaken fun _ _ here => here
  rintro session rfl
  exact ⟨session.memory, rfl, .refl accounts.memory, Memory.shows_refl unused⟩

theorem advances_addVariable (added : Variable) :
    Leads (· = session) (addVariable added) (fun _ _ => True)
      (session.OnlyAdvances early used) := by
  apply advances_of_unchanged accounts unused
  apply leads_theModel
  apply leads_ofExcept
  exact fun _ _ => .modify fun _ _ => trivial

theorem advances_addShock (added : Shock) :
    Leads (· = session) (addShock added) (fun _ _ => True) (session.OnlyAdvances early used) := by
  apply advances_of_unchanged accounts unused
  apply leads_theModel
  apply leads_ofExcept
  exact fun _ _ => .modify fun _ _ => trivial

variable (sound : session.IsSound)

include sound

theorem advances_build (variant : Variant) :
    Leads (· = session) (build variant) (fun _ _ => True)
      (session.OnlyAdvances (variant ≠ .plain) used) := by
  have made : Leads (· = session.memory) (ModelForm.ofModel session.model variant)
      (fun _ _ => True) fun memory =>
        session.memory.AdvancesTo (variant ≠ .plain) used session.model.calibration memory ∧
          memory.Shows (fun system => system.id < session.memory.nextId)
            fun system => system.values session.memory := by
    rintro _ rfl
    have advanced := Memory.AdvancesTo.keeps_ofModel accounts.model variant session.memory
      session.memory (.refl accounts.memory)
    have shown := ModelForm.leads_ofModel sound.model variant session.memory
      ⟨sound.memory, Memory.shows_refl unused⟩
    refine ⟨fun _ _ _ => trivial, ?_⟩
    intro reason later failed
    rw [failed] at advanced
    exact ⟨advanced.1, shown.2 reason later failed⟩
  apply leads_theModel
  refine (leads_act ?_ made).weaken (fun _ _ _ => trivial) fun _ advanced => advanced
  rfl

/-- A form that has been built may become the active one, whatever else changes. -/
theorem advances_activate (variant : Variant) (change : ModelForm α → Session α → Session α) :
    Leads (· = session) (do let form ← build variant; modify (change form); pure form)
      (fun _ _ => True) (session.OnlyAdvances (variant ≠ .plain) used) := by
  have activated : ∀ form, Leads (fun _ => True)
      (do modify (change form); pure form : SessionAction α (ModelForm α)) (fun _ _ => True)
      (session.OnlyAdvances (variant ≠ .plain) used) := by
    rintro form later -
    exact ⟨fun _ _ _ => trivial, by rintro _ _ ⟨⟩⟩
  exact (advances_build accounts unused sound variant).bind activated

theorem advances_refresh :
    Leads (· = session) (refresh (α := α)) (fun _ _ => True)
      (session.OnlyAdvances (session.model.options.variant ≠ .plain) used) := by
  apply leads_theModel
  exact advances_activate accounts unused sound _ fun form later =>
    { later with active := some form }

theorem advances_install (variant : Variant) :
    Leads (· = session) (install variant) (fun _ _ => True)
      (session.OnlyAdvances (variant ≠ .plain) used) :=
  advances_activate accounts unused sound variant fun form later =>
    { later with
      model := { later.model with options := { later.model.options with variant } }
      active := some form }

end Failures

end Session

namespace Request

open Session

section Kinds

omit [Scalar α]

/-- Whether a request declares a series, states an equation, changes options or makes a form the
active one. -/
def isStructural : Request α → Bool
  | .addVariable .. | .addShock .. | .refresh | .install .. => true
  | request => request.states

/-- Whether a request binds equations to the calibration, to make a form with expansions the active
one. -/
def Binds (model : Model α) : Request α → Prop
  | .refresh => model.options.variant ≠ .plain
  | .install variant => variant ≠ .plain
  | _ => False

end Kinds

theorem advances_structural [Numeral α] {used : Evaluator α → Prop} {session : Session α}
    (accounts : session.Accounts used) (sound : session.IsSound)
    (unused : ∀ id, session.memory.nextId ≤ id → session.memory.jacobians.get? id = none)
    {request : Request α} (structural : request.isStructural) (held : List (ModelForm α)) :
    Leads (· = session) (request.action held) (fun _ _ => True)
      (session.OnlyAdvances (request.Binds session.model) used) := by
  have without : ∀ {early : Prop} {β : Type} {action : SessionAction α β},
      Leads (· = session) action (fun _ _ => True) (session.OnlyAdvances early used) →
        Leads (· = session) (do let _ ← action; pure [] : SessionAction α (List (ModelForm α)))
          (fun _ _ => True) (session.OnlyAdvances early used) :=
    fun leads => leads.bind fun _ => .pure fun _ _ => trivial
  cases request with
  | addVariable added => exact without (advances_addVariable accounts unused added)
  | addShock added => exact without (advances_addShock accounts unused added)
  | refresh => exact without (advances_refresh accounts unused sound)
  | install variant => exact without (advances_install accounts unused sound variant)
  | addEquation | addExpression | update =>
      apply advances_of_unchanged accounts unused
      exact (leads_states accounts sound.model rfl held).weaken (fun _ _ _ => trivial)
        fun _ here => here
  | _ => cases structural

end Request

namespace ModelForm

variable {used : Evaluator α → Prop} {form : ModelForm α} {first width : Nat}

omit [Scalar α] in
theorem isKnown_past (sound : form.IsSound) (known : form.IsKnown used) :
    form.IsKnown (Comparison.past used first width).known :=
  fun evaluated member =>
    ⟨(sound.sound_of_mem member).exists_isSound, fun _ => known evaluated member⟩

/-- Forms from before have the same numbers on both sides. -/
theorem renumber_past {memory : Memory α} (orderly : memory.IsOrderly used) (sound : form.IsSound)
    (known : form.IsKnown used) (numbered : form.system.id < memory.nextId) :
    form.renumber (Comparison.past used memory.nextId width).move = form :=
  renumber_eq sound (Comparison.move_of_lt numbered) fun evaluated member =>
    Comparison.move_of_lt (orderly.numbered _ (known evaluated member))

end ModelForm

/-- Benches that differ in their memories only resemble each other if the memories do. -/
theorem Bench.Accounts.resembles {early : Prop} {used : Evaluator α → Prop} {bench : Bench α}
    {memory : Memory α} {width : Nat} (accounts : bench.Accounts used) (sound : bench.IsSound)
    (numbered : ∀ form, bench.Uses form → form.system.id < bench.session.memory.nextId)
    (alike : bench.session.memory.Resembles (.past used bench.session.memory.nextId width) early
      bench.session.model.calibration [] memory) :
    bench.Resembles (.past used bench.session.memory.nextId width) early
      (bench.withMemory memory) := by
  rcases accounts with ⟨⟨orderly, model, active⟩, held⟩
  refine ⟨⟨?_, ?_, rfl, ⟨?_, ?_⟩, ?_, alike⟩, ?_, ?_⟩
  · refine (Model.renumber_eq ?_ ?_).symm
    · exact fun equation member =>
        Comparison.move_of_lt (orderly.numbered _ (model.equations equation member))
    · exact fun entry member =>
        Comparison.move_of_lt (orderly.numbered _ (model.entries entry member))
  · rcases current : bench.session.active with _ | form
    · exact current
    · have unmoved :
          form.renumber (Comparison.past used bench.session.memory.nextId width).move = form :=
        ModelForm.renumber_past orderly.toIsOrderly (sound.session.active form current)
          (active form current) (numbered form (.inr current))
      rw [Option.map_some, unmoved]
      exact current
  · exact fun equation member => ⟨⟨_, (sound.session.model.equations equation member).evaluator⟩,
      fun _ => model.equations equation member⟩
  · exact fun entry member => ⟨⟨_, (sound.session.model.registry entry member).isSound⟩,
      fun _ => model.entries entry member⟩
  · exact fun form here =>
      ModelForm.isKnown_past (sound.session.active form here) (active form here)
  · refine ((List.map_congr_left fun form member => ?_).trans (List.map_id _)).symm
    exact ModelForm.renumber_past orderly.toIsOrderly (sound.held form member) (held form member)
      (numbered form (.inl member))
  · exact fun form member => ModelForm.isKnown_past (sound.held form member) (held form member)

namespace Reachable

section Failures

variable [Numeral α] {bench : Bench α} {request : Request α}

/-- A structural request that fails leaves a bench behind that resembles the one from before. -/
theorem resembles_failed (reachable : Reachable bench) (structural : request.isStructural)
    (failed : request.succeeds bench = false) :
    ∃ memory, request.perform bench = bench.withMemory memory ∧ ∃ comparison,
      bench.Resembles comparison (request.Binds bench.session.model)
        (bench.withMemory memory) := by
  have sound := reachable.isSound
  have shows := reachable.isNumbered.shows_values
  rcases reachable.exists_accounts with ⟨used, accounts⟩
  rcases ran : outcome (request.action bench.held) bench.session with ⟨reason | kept, after⟩
  · have leads := Request.advances_structural accounts.session sound.session shows.memory.stored
      structural bench.held
    rcases (leads bench.session rfl).2 reason after ran with ⟨memory, rfl, advances, shown⟩
    have performed : request.perform bench = bench.withMemory memory := by
      rw [Request.perform, ran]
      rfl
    have soundAfter := (reachable.step request).isSound.session.memory
    rw [performed] at soundAfter
    refine ⟨memory, performed, _, accounts.resembles sound ?_ (advances.resembles
      accounts.session.memory sound.session.memory soundAfter shows.memory.stored shown)⟩
    exact fun form here => shows.memory.numbered _ ⟨form, here, rfl⟩
  · rw [Request.succeeds, ran] at failed
    cases failed

/-- Structural requests that fail change nothing but the memory. Whatever is requested afterwards,
everything that can be evaluated then returns what it would return without the failed request, or
fails alike. For requests that bind equations this holds as long as values of parameters change with
their revision only. -/
theorem failed_structural (reachable : Reachable bench) (structural : request.isStructural)
    (failed : request.succeeds bench = false) :
    (∃ memory, request.perform bench = bench.withMemory memory) ∧
      ∀ later, (request.Binds bench.session.model → bench.KeepsValues later) →
        (bench.run later).EvaluatesAlike ((request.perform bench).run later) := by
  rcases reachable.resembles_failed structural failed with
    ⟨memory, performed, comparison, resembles⟩
  refine ⟨⟨memory, performed⟩, ?_⟩
  intro later keeps
  rw [performed]
  rcases resembles.run keeps with ⟨_, alike⟩
  exact alike.evaluatesAlike

end Failures

/-- Two equations for one series, of which the second has a parameter without a value. -/
noncomputable def unvalued : Bench ℝ :=
  Bench.run
    { session := .start "unvalued" { tolerance := 0, variant := .plain, chunkLimit := 1 } }
    [.addVariable { name := "x" }, .addParameter { name := "p" } (.number 1),
      .addParameter { name := "q" } .missing, .addParameter { name := "r" } (.number 1),
      .addExpression (.binary .sub (.series ⟨"x", 0⟩) (.parameter "p" none)) "first" false,
      .addExpression (.binary .sub (.series ⟨"x", 0⟩) (.parameter "q" none)) "second" false,
      .setSteadyState "x" (.number 0) (.number 0)]

/-- Values for both parameters. -/
def valued : List (Request ℝ) := [.setParameters [("p", .number 0), ("q", .number 1)]]

/-- The same values in an assignment that breaks off after them. -/
def brokenOff : List (Request ℝ) :=
  [.setParameters [("p", .number 0), ("q", .number 1), ("r", .text "bad")]]

set_option maxRecDepth 4000 in
/-- The first equation is bound before the second one fails to be. -/
theorem perform_unvalued :
    ∃ memory, (Request.install .full).succeeds unvalued = false ∧
      (Request.install .full).perform unvalued = unvalued.withMemory memory ∧
      (outcome (do Session.residuals (← Request.chosen [] none) ⟨[1, 1], [1]⟩)
        ((unvalued.withMemory memory).run brokenOff).session).1 = .ok [1 - 1, 1 - 1] := by
  have flat : Linearization.checkSteadyState unvalued.session.model = pure () :=
    Linearization.checkSteadyState_eq_pure rfl rfl (le_of_eq (abs_zero (α := ℝ)))
  have broken : (outcome (Linearization.ofModel unvalued.session.model true)
      unvalued.session.memory).1 = .error (.missingValue ⟨"q"⟩) := by
    unfold Linearization.ofModel
    rw [flat]
    rfl
  have built : outcome (Session.build .full) unvalued.session =
      (.error (.missingValue ⟨"q"⟩), { unvalued.session with
        memory := (outcome (Linearization.ofModel unvalued.session.model true)
          unvalued.session.memory).2 }) := by
    rw [Session.outcome_build, ModelForm.ofModel, outcome_map, broken]
    rfl
  refine ⟨(outcome (Linearization.ofModel unvalued.session.model true)
    unvalued.session.memory).2, ?_, ?_, ?_⟩
  · simp only [Request.succeeds, Request.action, Session.install, outcome_bind, built]
    rfl
  · simp only [Request.perform, Request.action, Session.install, outcome_bind, built]
    rfl
  · unfold Linearization.ofModel
    rw [flat]
    rfl

theorem failed_structural_unvalued :
    (∃ memory, (Request.install .full).perform unvalued = unvalued.withMemory memory) ∧
      (unvalued.run valued).EvaluatesAlike
        (((Request.install .full).perform unvalued).run valued) := by
  have reachable : Reachable unvalued := (Reachable.start _ _).run _
  rcases perform_unvalued with ⟨_, failed, _⟩
  rcases reachable.failed_structural rfl failed with ⟨unchanged, alike⟩
  exact ⟨unchanged, alike valued fun _ => .inl (by decide +kernel)⟩

set_option maxRecDepth 4000 in
/-- If the assignment breaks off, the first equation is evaluated with the value from before. -/
theorem failed_structural_brokenOff :
    Reachable unvalued ∧ (Request.install (α := ℝ) .full).isStructural ∧
      (Request.install .full).succeeds unvalued = false ∧
      ¬(unvalued.run brokenOff).EvaluatesAlike
        (((Request.install .full).perform unvalued).run brokenOff) := by
  rcases perform_unvalued with ⟨memory, failed, performed, evaluated⟩
  refine ⟨(Reachable.start _ _).run _, rfl, failed, ?_⟩
  intro alike
  have same := alike.residuals none ⟨[1, 1], [1]⟩
  rw [performed] at same
  have without : (outcome (do Session.residuals (← Request.chosen [] none) ⟨[1, 1], [1]⟩)
      (unvalued.run brokenOff).session).1 = .ok [1 - 0, 1 - 1] := rfl
  have impossible := evaluated.symm.trans (same.trans without)
  simp at impossible

end Reachable

end Intertemporal
