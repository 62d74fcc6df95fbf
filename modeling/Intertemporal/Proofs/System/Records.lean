import Intertemporal.Proofs.Program.Bindings
import Intertemporal.Proofs.System.FirstOrder
import Intertemporal.Proofs.Triple

/-!
# Jacobians of several systems

The memory keeps the values of Jacobians by the numbers of their systems. A new system gets a number
that no other system has and under which nothing is kept. So building a system, copying one or
evaluating one changes what the Jacobian of this system shows, and of no other system in use, also
if it fails.
-/

namespace Intertemporal

variable {α : Type}

namespace Memory

/-- A memory that follows another one without a change to the values of Jacobians. -/
structure IsAfter (earlier memory : Memory α) : Prop where
  nextId_le : earlier.nextId ≤ memory.nextId
  jacobians_eq : memory.jacobians = earlier.jacobians

theorem IsAfter.refl (memory : Memory α) : memory.IsAfter memory := ⟨Nat.le_refl _, rfl⟩

/-- A property that lasts as long as no values of Jacobians change. -/
def IsSteady (invariant : Memory α → Prop) : Prop :=
  ∀ earlier memory, invariant earlier → IsAfter earlier memory → invariant memory

theorem IsSteady.keeps {β : Type} {invariant : Memory α → Prop} {action : Action α β}
    {property : β → Prop} (steady : IsSteady invariant)
    (follows : ∀ earlier, Keeps (IsAfter earlier) action property) :
    Keeps invariant action property := by
  intro memory holds
  rcases follows memory memory (.refl memory) with ⟨after, returned⟩
  exact ⟨steady memory _ holds after, returned⟩

variable [Scalar α]

theorem isCalm_isAfter (calibration : Calibration α) (earlier : Memory α) :
    IsCalm (fun _ => True) calibration (IsAfter earlier) where
  record _ := .modify fun _ follows => ⟨follows.nextId_le, follows.jacobians_eq⟩
  bind evaluator _ := by
    intro memory follows
    refine ⟨?_, fun _ _ => trivial⟩
    rw [Evaluator.outcome_bind_eq]
    split
    · exact follows
    · split
      · exact follows
      · exact ⟨follows.nextId_le, follows.jacobians_eq⟩
  residualAndGradient evaluator _ array := by
    intro memory follows
    refine ⟨?_, fun _ _ => trivial⟩
    rw [Evaluator.outcome_residualAndGradient]
    split
    · exact follows
    · exact ⟨follows.nextId_le, follows.jacobians_eq⟩

/-- Compiling hands out numbers at most. -/
theorem keeps_compile_isAfter (earlier : Memory α) (registry : Registry α) (name : String)
    (key : EvaluatorKey α) : Keeps (IsAfter earlier) (registry.compile name key) fun _ => True := by
  have recorded : ∀ event, Keeps (IsAfter earlier) (Action.record event) fun _ => True :=
    (isCalm_isAfter { revision := 0 } earlier).record
  have numbered : Keeps (IsAfter earlier) Action.freshId fun _ => True := by
    intro memory follows
    exact ⟨⟨Nat.le_succ_of_le follows.nextId_le, follows.jacobians_eq⟩, fun _ _ => trivial⟩
  unfold Registry.compile
  split
  · exact (recorded _).bind fun _ _ => .pure trivial
  · have built : Keeps (IsAfter earlier) (registry.build name key) fun _ => True :=
      keeps_ofExcept.bind fun _ _ => keeps_ofExcept.bind fun _ _ => numbered.bind fun _ _ =>
        .pure trivial
    exact built.bind fun _ _ => .pure trivial

theorem IsSteady.isCalm {invariant : Memory α → Prop} (steady : IsSteady invariant)
    (calibration : Calibration α) : IsCalm (fun _ => True) calibration invariant where
  record event := steady.keeps fun earlier => (isCalm_isAfter calibration earlier).record event
  bind evaluator here :=
    steady.keeps fun earlier => (isCalm_isAfter calibration earlier).bind evaluator here
  residualAndGradient evaluator here array := steady.keeps fun earlier =>
    (isCalm_isAfter calibration earlier).residualAndGradient evaluator here array

end Memory

/-- Put down the values that the Jacobian of a system shows from now on. -/
def note (system : System α) (values : List α) (shown : System α → List α) : System α → List α :=
  fun other => if other.id = system.id then values else shown other

@[simp]
theorem note_self (system : System α) (values : List α) (shown : System α → List α) :
    note system values shown system = values := if_pos rfl

theorem note_of_ne {system other : System α} (different : other.id ≠ system.id) (values : List α)
    (shown : System α → List α) : note system values shown other = shown other := if_neg different

@[simp]
theorem note_note (system : System α) (first second : List α) (shown : System α → List α) :
    note system second (note system first shown) = note system second shown := by
  funext other
  by_cases same : other.id = system.id
  · simp [note, same]
  · simp [note, same]

variable [Scalar α]

/-- The values of a Jacobian before the first evaluation. -/
def System.zeros (system : System α) : List α :=
  List.replicate system.pattern.size Scalar.zero

namespace Memory

/-- A memory in which the Jacobians of the systems in use show given values, and where nothing is
kept under numbers that have not been handed out. -/
structure Shows (used : System α → Prop) (shown : System α → List α) (memory : Memory α) :
    Prop where
  stored : ∀ id, memory.nextId ≤ id → memory.jacobians.get? id = none
  numbered : ∀ system, used system → system.id < memory.nextId
  values : ∀ system, used system → system.values memory = shown system

/-- The same with one system more, whose number no other system has. -/
structure ShowsAlso (used : System α → Prop) (shown : System α → List α) (system : System α)
    (values : List α) (memory : Memory α) : Prop where
  isNew : ∀ other, used other → other.id ≠ system.id
  shows : memory.Shows (fun other => used other ∨ other = system) (note system values shown)

variable {used fewer : System α → Prop} {shown known : System α → List α} {memory : Memory α}
  {system : System α} {values : List α}

theorem Shows.mono (shows : memory.Shows used shown) (implies : ∀ other, fewer other → used other)
    (same : ∀ other, fewer other → known other = shown other) : memory.Shows fewer known where
  stored := shows.stored
  numbered other here := shows.numbered other (implies other here)
  values other here := (shows.values other (implies other here)).trans (same other here).symm

theorem ShowsAlso.toShows (also : memory.ShowsAlso used shown system values) :
    memory.Shows used shown :=
  also.shows.mono (fun _ => Or.inl) fun other here => (note_of_ne (also.isNew other here) _ _).symm

theorem isSteady_shows (used : System α → Prop) (shown : System α → List α) :
    IsSteady (Shows used shown) := by
  intro earlier memory shows follows
  refine ⟨?_, ?_, ?_⟩
  · intro id later
    rw [follows.jacobians_eq]
    exact shows.stored id (Nat.le_trans follows.nextId_le later)
  · intro other here
    exact Nat.lt_of_lt_of_le (shows.numbered other here) follows.nextId_le
  · intro other here
    rw [System.values, follows.jacobians_eq]
    exact shows.values other here

theorem isSteady_showsAlso (used : System α → Prop) (shown : System α → List α)
    (system : System α) (values : List α) : IsSteady (ShowsAlso used shown system values) :=
  fun earlier memory also follows =>
    ⟨also.isNew, isSteady_shows _ _ earlier memory also.shows follows⟩

/-- Values that are stored under a number are shown by the systems that have it. -/
theorem Shows.store (shows : memory.Shows used shown) (here : used system) (values : List α) :
    { memory with jacobians := memory.jacobians.insert system.id values }.Shows used
      (note system values shown) where
  stored id later := by
    have numbered := shows.numbered system here
    have different : (id == system.id) = false := by
      rw [beq_eq_false_iff_ne]
      dsimp only at later
      omega
    rw [Table.get?_insert, different]
    exact shows.stored id later
  numbered := shows.numbered
  values other hereOther := by
    by_cases same : other.id = system.id
    · simp [System.values, note, same, Table.getD, Table.get?_insert]
    · rw [note_of_ne same, ← shows.values other hereOther]
      simp [System.values, same, Table.getD, Table.get?_insert]

/-- Nothing is kept under a new number. -/
theorem leads_freshId : Leads (Shows used shown) Action.freshId
    (fun number memory => ∀ system : System α, system.id = number →
      memory.ShowsAlso used shown system system.zeros) (Shows used shown) := by
  intro memory shows
  rw [outcome_freshId]
  constructor
  · rintro number _ ⟨⟩ system same
    have isNew : ∀ other, used other → other.id ≠ system.id := by
      intro other here
      rw [same]
      exact Nat.ne_of_lt (shows.numbered other here)
    refine ⟨isNew, ?_, ?_, ?_⟩
    · exact fun id later => shows.stored id (Nat.le_of_succ_le later)
    · rintro other (here | rfl)
      · exact Nat.lt_succ_of_lt (shows.numbered other here)
      · exact same ▸ Nat.lt_succ_self _
    · rintro other (here | rfl)
      · rw [note_of_ne (isNew other here)]
        exact shows.values other here
      · rw [note_self, System.values, Table.getD, same, shows.stored _ (Nat.le_refl _)]
        rfl
  · rintro reason _ ⟨⟩

end Memory

namespace System

open Memory

variable {used : System α → Prop} {shown : System α → List α} {system : System α}
  {values : List α}

/-- A system that is built shows zeros. -/
theorem leads_ofModel (model : Model α) : Leads (Shows used shown) (ofModel model)
    (fun system => ShowsAlso used shown system system.zeros) (Shows used shown) := by
  have calm := (isSteady_shows used shown).isCalm model.calibration
  apply Leads.keeping keeps_ofExcept fun _ here => here
  intro places _
  apply Leads.guard fun _ here => here
  intro _
  apply Leads.guard fun _ here => here
  intro _
  apply Leads.optional (calm.record _) fun _ here => here
  apply Leads.keeping (calm.keeps_ofEquations model) fun _ here => here
  intro forms _
  apply leads_freshId.bind
  intro number
  dsimp only
  let system : System α :=
    { id := number, equations := model.equations, columns := model.columns,
      lags := model.horizon.lags, leads := model.horizon.leads, places, forms }
  have steady := isSteady_showsAlso used shown system system.zeros
  have made : Leads (ShowsAlso used shown system system.zeros) (do
      Action.record (.built model.name model.equations.length system.pattern.size
        model.registry.size model.registry.hits)
      pure system) (fun system => ShowsAlso used shown system system.zeros)
      (Shows used shown) :=
    .keeping ((steady.isCalm model.calibration).record _) (fun _ => ShowsAlso.toShows) fun _ _ =>
      .pure fun _ here => here
  intro memory fresh
  exact made memory (fresh system rfl)

/-- A copy shows what the original shows at the time. -/
theorem leads_copy (here : used system) : Leads (Shows used shown) system.copy
    (fun copied => ShowsAlso used shown copied (shown system)) (Shows used shown) := by
  apply Leads.keeping Keeps.get fun _ here => here
  intro memory shows
  dsimp only
  rw [shows.values system here]
  apply leads_freshId.bind
  intro number
  let copied : System α := { system with id := number }
  have stored : Leads (ShowsAlso used shown copied copied.zeros) (do
      modify fun memory =>
        { memory with jacobians := memory.jacobians.insert number (shown system) }
      pure copied : Action α (System α))
      (fun copied => ShowsAlso used shown copied (shown system)) (Shows used shown) := by
    apply Leads.bind (.modify fun memory also => ?_) fun _ => .pure fun _ here => here
    refine ⟨also.isNew, ?_⟩
    have noted := also.shows.store (Or.inr rfl : used copied ∨ copied = copied) (shown system)
    rwa [note_note] at noted
  intro memory fresh
  exact stored memory (fresh _ rfl)

/-- An evaluation that succeeds changes what the system shows, to the values that it returns. -/
theorem leads_residualsAndJacobian (here : used system) (calibration : Calibration α)
    (forms : List (EquationForm α)) (point : NumberArray α) :
    Leads (Shows used shown) (system.residualsAndJacobian calibration forms point)
      (fun found => Shows used (note system found.2.values shown)) (Shows used shown) := by
  have calm := (isSteady_shows used shown).isCalm calibration
  apply Leads.keeping (IsStable.keeps_checkPoint system point) fun _ here => here
  intro _ _
  apply Leads.keeping (calm.keeps_bindAll fun _ _ => trivial) fun _ here => here
  intro _ _
  apply Leads.keeping (calm.keeps_gradients system (fun _ _ => trivial) point) fun _ here => here
  intro found _
  apply Leads.bind (.modify fun memory shows => shows.store here _)
  intro _ memory shows
  constructor
  · rintro _ _ ⟨⟩
    have returned := shows.values system here
    rw [note_self] at returned
    rw [jacobian, returned]
    exact shows
  · rintro _ _ ⟨⟩

end System

namespace Linearization

open Memory

variable {used : System α → Prop} {shown : System α → List α}

theorem leads_ofModel (model : Model α) (whole : Bool) :
    Leads (Shows used shown) (ofModel model whole)
      (fun made => ShowsAlso used shown made.system made.system.zeros) (Shows used shown) := by
  apply Leads.keeping (IsStable.keeps_checkSteadyState model) fun _ here => here
  intro _ _
  apply (System.leads_ofModel model).bind
  intro system
  have calm := (isSteady_showsAlso used shown system system.zeros).isCalm model.calibration
  apply Leads.keeping keeps_ofExcept fun _ => ShowsAlso.toShows
  intro point _
  apply Leads.keeping (calm.keeps_bindAll fun _ _ => trivial) fun _ => ShowsAlso.toShows
  intro _ _
  apply Leads.keeping (calm.keeps_expandEach (fun _ _ => trivial) whole model.options.tolerance
    point) fun _ => ShowsAlso.toShows
  intro forms _
  apply Leads.optional (calm.record _) fun _ => ShowsAlso.toShows
  apply Leads.keeping (calm.record _) fun _ => ShowsAlso.toShows
  exact fun _ _ => .pure fun _ here => here

end Linearization

namespace StateSpace

open Memory

variable {used : System α → Prop} {shown : System α → List α}

/-- A first-order form shows the Jacobian that is evaluated while it is built. -/
theorem leads_ofModel {model : Model α} (sound : model.IsSound) :
    Leads (fun memory => memory.IsSound ∧ memory.Shows used shown) (ofModel model)
      (fun space => ShowsAlso used shown space.linearization.system
        space.linearization.jacobian.values) (Shows used shown) := by
  apply ((Linearization.leads_ofModel model true).observe
    (Linearization.keeps_ofModel sound true)).learn
  rintro linearization ⟨linearizationSound, _, whole⟩
  apply Leads.guard fun _ => ShowsAlso.toShows
  intro _
  have evaluated : Leads
      (ShowsAlso used shown linearization.system linearization.system.zeros)
      (linearization.system.residualsAndJacobian model.calibration linearization.forms
        linearization.point)
      (fun _ => ShowsAlso used shown linearization.system linearization.jacobian.values)
      (Shows used shown) := by
    intro memory also
    rcases System.leads_residualsAndJacobian (Or.inr rfl) model.calibration linearization.forms
      linearization.point memory also.shows with ⟨returned, failing⟩
    constructor
    · intro found later ran
      have noted := returned found later ran
      dsimp only at noted
      rw [note_note, linearizationSound.matrix_eq whole ran] at noted
      exact ⟨also.isNew, noted⟩
    · intro reason later ran
      exact ShowsAlso.toShows ⟨also.isNew, failing reason later ran⟩
  apply evaluated.bind
  rintro ⟨residuals, jacobian⟩
  have steady := isSteady_showsAlso used shown linearization.system
    linearization.jacobian.values
  apply Leads.keeping keeps_ofExcept fun _ => ShowsAlso.toShows
  intro entries _
  apply Leads.keeping ((steady.isCalm model.calibration).record _) fun _ => ShowsAlso.toShows
  exact fun _ _ => .pure fun _ here => here

end StateSpace

namespace ModelForm

open Memory

variable {used : System α → Prop} {shown : System α → List α}

/-- What the Jacobian of a form shows when the form has just been built. -/
def initialValues : ModelForm α → List α
  | .firstOrder space => space.linearization.jacobian.values
  | form => form.system.zeros

theorem leads_ofModel {model : Model α} (sound : model.IsSound) (variant : Variant) :
    Leads (fun memory => memory.IsSound ∧ memory.Shows used shown) (ofModel model variant)
      (fun form => ShowsAlso used shown form.system form.initialValues) (Shows used shown) := by
  have linearized : ∀ whole, Leads (fun memory => memory.IsSound ∧ memory.Shows used shown)
      (linearized <$> Linearization.ofModel model whole)
      (fun form => ShowsAlso used shown form.system form.initialValues) (Shows used shown) :=
    fun whole memory here =>
      ((Linearization.leads_ofModel model whole).map fun _ _ also => also) memory here.2
  cases variant with
  | plain =>
      exact fun memory here =>
        ((System.leads_ofModel model).map fun _ _ also => also) memory here.2
  | selective => exact linearized false
  | full => exact linearized true
  | firstOrder => exact (StateSpace.leads_ofModel sound).map fun _ _ also => also

theorem leads_copy {form : ModelForm α} (here : used form.system) :
    Leads (Shows used shown) form.copy
      (fun copied => ShowsAlso used shown copied.system (shown form.system))
      (Shows used shown) := by
  cases form with
  | plain system => exact (System.leads_copy here).map fun _ _ also => also
  | linearized linearization => exact .throw fun _ shows => shows
  | firstOrder space => exact .throw fun _ shows => shows

end ModelForm

end Intertemporal
