import Intertemporal.Proofs.Model.Soundness

/-!
# Runs

A user works with a model through requests, in any order. A request that fails leaves the session as
it was at the moment of failure, and the run goes on from there. Objects that evaluate the model are
held by the user beside the session: the active one, others that are built for a variant, and
copies. They may be evaluated at any later time, also after the model has changed.

In every state that a run reaches, the model, the memory and all forms in use are sound
(`Reachable.isSound`).
-/

namespace Intertemporal

/-- What a user can ask for. Evaluations are of a held form, or of the active one if none is
named. -/
inductive Request (α : Type)
  | addVariable (added : Variable)
  | addShock (added : Shock)
  | addParameter (added : Parameter) (value : Datum α)
  | setParameters (values : List (String × Datum α))
  | setSteadyState (name : String) (level slope : Datum α)
  | addEquation (text name : String) (linear : Bool)
  | addExpression (expression : Expression α) (name : String) (linear : Bool)
  | update (settings overrides : Settings α)
  | refresh
  | install (variant : Variant)
  | hold
  | build (variant : Variant)
  | copy (place : Option Nat)
  | residuals (place : Option Nat) (point : NumberArray α)
  | residualsInto (place : Option Nat) (point : NumberArray α) (buffer : List α)
  | residualsAndJacobian (place : Option Nat) (point : NumberArray α)
  | residualsAlong (name : String) (trajectory : Trajectory α) (dates : Option (List Int))
  | equationResidual (name : String) (inputs : List α)
  | equationGradient (name : String) (inputs : NumberArray α)

/-- A session with the forms that its user holds. -/
structure Bench (α : Type) where
  session : Session α
  held : List (ModelForm α) := []

namespace Request

variable {α : Type} [Scalar α]

open Session

/-- The form in a place, or the active one. -/
def chosen (held : List (ModelForm α)) (place : Option Nat) : SessionAction α (ModelForm α) :=
  match place.bind (held[·]?) with
  | some found => pure found
  | none => form

/-- Whether a request neither compiles an equation nor gives a parameter a value. -/
def isQuiet : Request α → Bool
  | .addParameter .. | .setParameters .. | .addEquation .. | .addExpression .. | .update .. => false
  | _ => true

/-- Whether a request only declares something or evaluates an equation by itself. -/
def isCalm : Request α → Bool
  | .addVariable .. | .addShock .. | .setSteadyState .. | .residualsAlong ..
  | .equationResidual .. | .equationGradient .. => true
  | _ => false

/-- What a request does to the session, and the forms that the user gets to hold. -/
def action [Numeral α] (held : List (ModelForm α)) :
    Request α → SessionAction α (List (ModelForm α))
  | .addVariable added => do Session.addVariable added; pure []
  | .addShock added => do Session.addShock added; pure []
  | .addParameter added value => do Session.addParameter added value; pure []
  | .setParameters values => do Session.setParameters values; pure []
  | .setSteadyState name level slope => do Session.setSteadyState name level slope; pure []
  | .addEquation text name linear => do let _ ← Session.addEquation text name linear; pure []
  | .addExpression expression name linear => do
    let _ ← Session.addExpression expression name linear
    pure []
  | .update settings overrides => do Session.update settings overrides; pure []
  | .refresh => do let _ ← Session.refresh; pure []
  | .install variant => do let _ ← Session.install variant; pure []
  | .hold => do return [← form]
  | .build variant => do return [← Session.build variant]
  | .copy place => do return [← act (← chosen held place).copy]
  | .residuals place point => do
    let _ ← Session.residuals (← chosen held place) point
    pure []
  | .residualsInto place point buffer => do
    let _ ← Session.residualsInto (← chosen held place) point buffer
    pure []
  | .residualsAndJacobian place point => do
    let _ ← Session.residualsAndJacobian (← chosen held place) point
    pure []
  | .residualsAlong name trajectory dates => do
    let _ ← Session.residualsAlong name trajectory dates
    pure []
  | .equationResidual name inputs => do
    let equation ← ofExcept (fun reason => reason) ((← theModel).equation name)
    let _ ← act (equation.evaluator.residual inputs)
    pure []
  | .equationGradient name inputs => do
    let equation ← ofExcept (fun reason => reason) ((← theModel).equation name)
    let _ ← act (equation.evaluator.residualAndGradient inputs)
    pure []

/-- The state after a request, whether it succeeds or fails. -/
def perform [Numeral α] (request : Request α) (bench : Bench α) : Bench α :=
  match outcome (request.action bench.held) bench.session with
  | (.ok kept, session) => { session, held := bench.held ++ kept }
  | (.error _, session) => { bench with session }

end Request

/-- The states that runs reach from a model in which nothing is declared. -/
inductive Reachable {α : Type} [Scalar α] [Numeral α] : Bench α → Prop
  | start (name : String) (options : Options α) : Reachable { session := .start name options }
  | step {bench : Bench α} (reachable : Reachable bench) (request : Request α) :
      Reachable (request.perform bench)

/-- A bench on which the session and all held forms are sound. -/
structure Bench.IsSound {α : Type} (bench : Bench α) : Prop where
  session : bench.session.IsSound
  held : ∀ form ∈ bench.held, form.IsSound

/-- The state after requests in order. -/
def Bench.run {α : Type} [Scalar α] [Numeral α] (bench : Bench α) (requests : List (Request α)) :
    Bench α := requests.foldl (fun bench request => request.perform bench) bench

theorem Reachable.run {α : Type} [Scalar α] [Numeral α] {bench : Bench α}
    (reachable : Reachable bench) (requests : List (Request α)) :
    Reachable (bench.run requests) := by
  induction requests generalizing bench with
  | nil => exact reachable
  | cons request rest ih => exact ih (reachable.step request)

/-- The forms that a user can evaluate are those that are held and the active one. -/
def Bench.Uses {α : Type} (bench : Bench α) (form : ModelForm α) : Prop :=
  form ∈ bench.held ∨ form ∈ bench.session.active

theorem Bench.IsSound.of_uses {α : Type} {bench : Bench α} (sound : bench.IsSound)
    {form : ModelForm α} (used : bench.Uses form) : form.IsSound := by
  rcases used with held | active
  · exact sound.held form held
  · exact sound.session.active form active

namespace Request

section Rules

variable {α : Type} {invariant : Session α → Prop} {goal : ModelForm α → Prop}

/-- A request that gives the user nothing to hold. -/
theorem keeps_without {β : Type} {property : β → Prop} {action : SessionAction α β}
    (kept : Keeps invariant action property) :
    Keeps invariant (do let _ ← action; pure [] : SessionAction α (List (ModelForm α)))
      fun forms => ∀ form ∈ forms, goal form :=
  kept.bind fun _ _ => .pure fun _ member => absurd member List.not_mem_nil

theorem keeps_holding {action : SessionAction α (ModelForm α)}
    (kept : Keeps invariant action goal) :
    Keeps invariant (do return [← action] : SessionAction α (List (ModelForm α)))
      fun forms => ∀ form ∈ forms, goal form :=
  kept.bind fun _ holds => .pure fun _ member => List.mem_singleton.mp member ▸ holds

/-- The form that a request is about is held, or it is the active one. -/
theorem keeps_chosen [Scalar α] {held : List (ModelForm α)}
    (holds : ∀ form ∈ held, goal form) (active : Keeps invariant Session.form goal)
    (place : Option Nat) : Keeps invariant (chosen held place) goal := by
  unfold chosen
  split
  · rename_i found inPlace
    obtain ⟨position, _, atPosition⟩ := Option.bind_eq_some_iff.mp inPlace
    exact .pure (holds found (List.mem_of_getElem? atPosition))
  · exact active

end Rules

variable {α : Type} [Scalar α] {held : List (ModelForm α)}

theorem keeps_calm [Numeral α] {known : Evaluator α → Prop} {invariant : Session α → Prop}
    {ofModel : Model α → Prop} {ofMemory : Memory α → Prop} {ofForm goal : ModelForm α → Prop}
    (persistent : Session.IsPersistent known invariant ofModel ofMemory ofForm)
    {request : Request α} (calm : request.isCalm) :
    Keeps invariant (request.action held) fun forms => ∀ form ∈ forms, goal form := by
  cases request with
  | addVariable added => exact keeps_without (persistent.keeps_addVariable added)
  | addShock added => exact keeps_without (persistent.keeps_addShock added)
  | setSteadyState name level slope =>
      exact keeps_without (persistent.keeps_setSteadyState name level slope)
  | residualsAlong name trajectory dates =>
      exact keeps_without (persistent.keeps_residualsAlong name trajectory dates)
  | equationResidual name inputs =>
      refine persistent.keeps_theModel.bind fun model _ => ?_
      exact persistent.keeps_ofExcept.bind fun equation _ => keeps_without
        (persistent.keeps_act ((EquationForm.dynamic equation).keeps_residual inputs))
  | equationGradient name inputs =>
      refine persistent.keeps_theModel.bind fun model here => ?_
      refine persistent.keeps_ofExcept.bind fun equation found => ?_
      have known := persistent.equations model here equation (Model.mem_of_equation found)
      exact keeps_without
        (persistent.keeps_act ((persistent.calm model here).residualAndGradient _ known inputs))
  | _ => cases calm

/-- A request that is quiet keeps what lasts, and gives the user forms for which it holds. -/
theorem keeps_quiet [Numeral α] {known : Evaluator α → Prop} {invariant : Session α → Prop}
    {ofModel : Model α → Prop} {ofMemory : Memory α → Prop} {ofForm : ModelForm α → Prop}
    (lasting : Session.IsLasting known invariant ofModel ofMemory ofForm)
    (holds : ∀ form ∈ held, ofForm form) {request : Request α} (quiet : request.isQuiet) :
    Keeps invariant (request.action held) fun forms => ∀ form ∈ forms, ofForm form := by
  have chosenHolds : ∀ place, Keeps invariant (chosen held place) ofForm :=
    keeps_chosen holds lasting.keeps_form
  cases request with
  | addParameter | setParameters | addEquation | addExpression | update => cases quiet
  | addVariable | addShock | setSteadyState | residualsAlong | equationResidual
  | equationGradient => exact keeps_calm lasting.toIsPersistent rfl
  | refresh => exact keeps_without lasting.keeps_refresh
  | install variant => exact keeps_without (lasting.keeps_install variant)
  | hold => exact keeps_holding lasting.keeps_form
  | build variant => exact keeps_holding (lasting.keeps_build variant)
  | copy place =>
      exact (chosenHolds place).bind fun _ here => keeps_holding (lasting.keeps_copy here)
  | residuals place point =>
      exact (chosenHolds place).bind fun _ here =>
        keeps_without (lasting.keeps_residuals here point)
  | residualsInto place point buffer =>
      exact (chosenHolds place).bind fun _ here =>
        keeps_without (lasting.keeps_residualsInto here point buffer)
  | residualsAndJacobian place point =>
      exact (chosenHolds place).bind fun _ here =>
        keeps_without (lasting.keeps_residualsAndJacobian here point)

/-- A request that is not quiet keeps what growing sessions keep, and gives the user nothing to
hold. -/
theorem keeps_loud [Numeral α] {known : Evaluator α → Prop} {invariant : Session α → Prop}
    {ofModel : Model α → Prop} {ofMemory : Memory α → Prop} {ofForm goal : ModelForm α → Prop}
    {stated : Equation α → Prop} {compiled : EvaluatorKey α → Evaluator α → Prop}
    (growing : Session.IsGrowing known invariant ofModel ofMemory ofForm stated compiled)
    {request : Request α} (loud : request.isQuiet = false) :
    Keeps invariant (request.action held) fun forms => ∀ form ∈ forms, goal form := by
  cases request with
  | addParameter added value => exact keeps_without (growing.keeps_addParameter added value)
  | setParameters values => exact keeps_without (growing.keeps_setParameters values)
  | addEquation text name linear =>
      exact keeps_without (growing.keeps_addEquation text name linear)
  | addExpression expression name linear =>
      exact keeps_without (growing.keeps_addExpression expression name linear)
  | update settings overrides => exact keeps_without (growing.keeps_update settings overrides)
  | _ => cases loud

/-- Every request keeps the session sound and gives the user sound forms only. -/
theorem keeps_action [Numeral α] (sound : ∀ form ∈ held, form.IsSound) (request : Request α) :
    Keeps Session.IsSound (request.action held) fun forms => ∀ form ∈ forms, form.IsSound := by
  rcases quiet : request.isQuiet with _ | _
  · exact keeps_loud Session.isGrowing_isSound quiet
  · exact keeps_quiet Session.isLasting_isSound sound quiet

/-- What a request keeps is kept on the bench, whether the request succeeds or fails. -/
theorem perform_of_keeps [Numeral α] {invariant : Session α → Prop} {goal : ModelForm α → Prop}
    {request : Request α} {bench : Bench α}
    (kept : Keeps invariant (request.action bench.held) fun forms => ∀ form ∈ forms, goal form)
    (session : invariant bench.session) (held : ∀ form ∈ bench.held, goal form) :
    invariant (request.perform bench).session ∧
      ∀ form ∈ (request.perform bench).held, goal form := by
  obtain ⟨after, returned⟩ := kept bench.session session
  rw [perform]
  rcases ran : outcome (request.action bench.held) bench.session with ⟨_ | forms, later⟩
  · rw [ran] at after
    exact ⟨after, held⟩
  · rw [ran] at after returned
    refine ⟨after, fun form member => ?_⟩
    rcases List.mem_append.mp member with old | new
    · exact held form old
    · exact returned forms rfl form new

theorem isSound_perform [Numeral α] {bench : Bench α} (sound : bench.IsSound)
    (request : Request α) : (request.perform bench).IsSound := by
  obtain ⟨session, held⟩ :=
    perform_of_keeps (keeps_action sound.held request) sound.session sound.held
  exact ⟨session, held⟩

end Request

/-- Whatever a run does, the model, the memory and all forms in use are sound. -/
theorem Reachable.isSound {α : Type} [Scalar α] [Numeral α] {bench : Bench α}
    (reachable : Reachable bench) : bench.IsSound := by
  induction reachable with
  | start name options =>
      refine ⟨Session.isSound_start name options, ?_⟩
      intro form member
      cases member
  | step _ request ih => exact request.isSound_perform ih

end Intertemporal
