import Intertemporal.Proofs.Model.Evaluations
import Intertemporal.Proofs.Model.Records
import Intertemporal.Proofs.Model.Residuals
import Intertemporal.Proofs.System.Twins

/-!
# Forms that do not interfere

A model may be evaluated in many forms at once: built for any variant, copied, and evaluated in any
order while parameters are given new values. They share evaluators, but what one of them shows is
the outcome of its own last successful evaluation, and what it returns is what it would have
returned if the others had never been evaluated. Evaluations may fail at any time.
-/

namespace Intertemporal

variable {α : Type} [Scalar α]

namespace Request

/-- The form that a request evaluates. -/
def evaluated? (held : List (ModelForm α)) : Request α → Option (ModelForm α)
  | .residuals (some place) _ => held[place]?
  | .residualsInto (some place) _ _ => held[place]?
  | .residualsAndJacobian (some place) _ => held[place]?
  | _ => none

/-- Whether a request gives parameters new values, and succeeds, or builds a form or copies or
evaluates one that is held, and may fail. -/
def isUse [Numeral α] (bench : Bench α) : Request α → Bool
  | .setParameters values => (Request.setParameters values).succeeds bench
  | .build _ => true
  | .copy (some place) => bench.held[place]?.isSome
  | request => (request.evaluated? bench.held).isSome

/-- What Jacobians show after a request. A form that is built begins with zeros, or with the
Jacobian that is evaluated to build it, and a copy with what the original shows. Otherwise only an
evaluation of the Jacobian that succeeds changes what a form shows. -/
def noted (bench : Bench α) (shown : System α → List α) : Request α → System α → List α
  | .build variant =>
    match (outcome (Session.build variant) bench.session).1 with
    | .ok form => note form.system form.initialValues shown
    | .error _ => shown
  | .copy (some place) =>
    match bench.held[place]? with
    | none => shown
    | some form =>
      match (outcome (Session.act form.copy) bench.session).1 with
      | .ok copied => note copied.system (shown form.system) shown
      | .error _ => shown
  | .residualsAndJacobian (some place) point =>
    match bench.held[place]? with
    | none => shown
    | some form =>
      match (outcome (Session.residualsAndJacobian form point) bench.session).1 with
      | .ok found => note form.system found.2.values shown
      | .error _ => shown
  | _ => shown

/-- Whether a request evaluates a form with another Jacobian than that of a system. -/
def isElsewhere (system : System α) (held : List (ModelForm α)) (request : Request α) : Bool :=
  (request.evaluated? held).any fun form => form.system.id != system.id

end Request

namespace Bench

variable [Numeral α]

/-- Whether requests in order are all of the kind that a model in use admits. -/
def onlyUses (bench : Bench α) : List (Request α) → Bool
  | [] => true
  | request :: rest => request.isUse bench && (request.perform bench).onlyUses rest

/-- What Jacobians show after requests in order. -/
def noted (bench : Bench α) (shown : System α → List α) : List (Request α) → System α → List α
  | [] => shown
  | request :: rest => (request.perform bench).noted (request.noted bench shown) rest

/-- The state after requests in order, without the evaluations of all other forms. -/
def runFor (system : System α) (bench : Bench α) : List (Request α) → Bench α
  | [] => bench
  | request :: rest =>
    if request.isElsewhere system bench.held then bench.runFor system rest
    else (request.perform bench).runFor system rest

/-- A bench with another memory. -/
def withMemory (bench : Bench α) (memory : Memory α) : Bench α :=
  { bench with session := { bench.session with memory } }

end Bench

namespace Request

open Session

variable {bench : Bench α} {form : ModelForm α} {place : Nat} {request : Request α}

theorem chosen_of_getElem? {held : List (ModelForm α)} (placed : held[place]? = some form) :
    chosen held (some place) = pure form := by
  simp [chosen, placed]

omit [Scalar α] in
theorem cases_of_evaluated (evaluated : request.evaluated? bench.held = some form) :
    (∃ place point, request = .residuals (some place) point ∧ bench.held[place]? = some form) ∨
    (∃ place point buffer, request = .residualsInto (some place) point buffer ∧
      bench.held[place]? = some form) ∨
    ∃ place point, request = .residualsAndJacobian (some place) point ∧
      bench.held[place]? = some form := by
  unfold evaluated? at evaluated
  split at evaluated
  · exact Or.inl ⟨_, _, rfl, evaluated⟩
  · exact Or.inr (Or.inl ⟨_, _, _, rfl, evaluated⟩)
  · exact Or.inr (Or.inr ⟨_, _, rfl, evaluated⟩)
  · cases evaluated

variable [Numeral α]

theorem cases_of_isUse (use : request.isUse bench) :
    (∃ values, request = .setParameters values ∧ request.succeeds bench) ∨
    (∃ variant, request = .build variant) ∨
    (∃ place form, request = .copy (some place) ∧ bench.held[place]? = some form) ∨
    ∃ form, request.evaluated? bench.held = some form := by
  unfold isUse at use
  split at use
  · exact Or.inl ⟨_, rfl, use⟩
  · exact Or.inr (Or.inl ⟨_, rfl⟩)
  · rcases Option.isSome_iff_exists.mp use with ⟨form, placed⟩
    exact Or.inr (Or.inr (Or.inl ⟨_, form, rfl, placed⟩))
  · exact Or.inr (Or.inr (Or.inr (Option.isSome_iff_exists.mp use)))

/-- An evaluation changes nothing but the session. -/
theorem perform_of_evaluation {β : Type} {evaluate : ModelForm α → SessionAction α β}
    (same : request.action bench.held = do
      let _ ← evaluate (← chosen bench.held (some place))
      pure [])
    (placed : bench.held[place]? = some form) :
    request.perform bench =
      { bench with session := (outcome (evaluate form) bench.session).2 } := by
  rw [perform, same, chosen_of_getElem? placed, pure_bind, outcome_bind]
  rcases outcome (evaluate form) bench.session with ⟨reason | value, after⟩
  · rfl
  · simp

theorem perform_of_done {β : Type} {done : SessionAction α β} {value : β} {after : Session α}
    (same : request.action bench.held = do let _ ← done; pure [])
    (ran : outcome done bench.session = (.ok value, after)) :
    request.perform bench = { bench with session := after } := by
  rw [perform, same, outcome_bind, ran]
  simp

/-- What is made is held if nothing fails. -/
theorem perform_of_making {make : SessionAction α (ModelForm α)}
    (same : request.action bench.held = do return [← make]) :
    request.perform bench =
      match outcome make bench.session with
      | (.ok form, session) => { session, held := bench.held ++ [form] }
      | (.error _, session) => { bench with session } := by
  rw [perform, same, outcome_bind]
  rcases outcome make bench.session with ⟨reason | value, after⟩
  · rfl
  · rfl

theorem action_copy (placed : bench.held[place]? = some form) :
    (Request.copy (some place)).action bench.held = do return [← act form.copy] := by
  rw [action, chosen_of_getElem? placed, pure_bind]

/-- After a request of this kind every form shows what it has to. -/
theorem shows_perform (use : request.isUse bench) (sound : bench.IsSound)
    {shown : System α → List α} (shows : bench.session.Shows (· ∈ bench.held) shown) :
    (request.perform bench).session.Shows (· ∈ (request.perform bench).held)
      (request.noted bench shown) := by
  rcases cases_of_isUse use with
    ⟨values, rfl, _⟩ | ⟨variant, rfl⟩ | ⟨place, form, rfl, placed⟩ | ⟨form, evaluated⟩
  · have kept : Keeps (Session.Shows (· ∈ bench.held) shown)
        ((Request.setParameters values).action bench.held) fun kept => kept = [] := keeps_shows rfl
    rcases kept bench.session shows with ⟨after, nothing⟩
    rw [perform]
    rcases ran : outcome ((Request.setParameters values).action bench.held) bench.session with
      ⟨reason | kept, session⟩
    · rw [ran] at after
      exact after
    · rw [ran] at after nothing
      rw [nothing kept rfl]
      dsimp only
      rw [List.append_nil]
      exact after
  · rcases leads_build variant bench.session ⟨sound.session, shows⟩ with ⟨returned, failing⟩
    rw [perform_of_making rfl, noted]
    rcases ran : outcome (Session.build variant) bench.session with ⟨reason | form, session⟩
    · exact failing reason session ran
    · exact (returned form session ran).mono fun other => by simp
  · rcases leads_copy (List.mem_of_getElem? placed) bench.session shows with ⟨returned, failing⟩
    rw [perform_of_making (action_copy placed), noted, placed]
    dsimp only
    rcases ran : outcome (act form.copy) bench.session with ⟨reason | copied, session⟩
    · exact failing reason session ran
    · exact (returned copied session ran).mono fun other => by simp
  · rcases cases_of_evaluated evaluated with
      ⟨place, point, rfl, placed⟩ | ⟨place, point, buffer, rfl, placed⟩ |
      ⟨place, point, rfl, placed⟩
    · rw [perform_of_evaluation rfl placed]
      exact (keeps_residuals form point bench.session shows).1
    · rw [perform_of_evaluation rfl placed]
      exact (keeps_residualsInto form point buffer bench.session shows).1
    · rcases leads_residualsAndJacobian (List.mem_of_getElem? placed) point bench.session shows
        with ⟨returned, failing⟩
      rw [perform_of_evaluation rfl placed, noted, placed]
      dsimp only
      rcases ran : outcome (Session.residualsAndJacobian form point) bench.session with
        ⟨reason | found, session⟩
      · exact failing reason session ran
      · exact returned found session ran

end Request

section Twins

variable [Numeral α] {known : Evaluator α → Prop} {left right bench : Bench α}
  {request : Request α} {form : ModelForm α}

/-- Two benches that differ in their memories only, which are alike. -/
def Bench.Twins (known : Evaluator α → Prop) (left right : Bench α) : Prop :=
  ∃ memory, right = left.withMemory memory ∧
    Memory.Twins known left.session.model.calibration left.session.memory memory

namespace Request

open Session

omit [Numeral α] in
/-- The equations of a form in use have known evaluators and are sound. -/
theorem usable_of_mem (serves : bench.Serves known) (sound : bench.IsSound)
    (member : form ∈ bench.held) :
    ∀ evaluated ∈ form.forms, known evaluated.equation.evaluator ∧ evaluated.IsSound :=
  fun _ among => ⟨(serves.held form member).known_of_mem _ among,
    (sound.held form member).sound_of_mem among⟩

omit [Scalar α] [Numeral α] in
theorem mem_of_evaluated (evaluated : request.evaluated? bench.held = some form) :
    form ∈ bench.held := by
  rcases cases_of_evaluated evaluated with
    ⟨place, _, _, placed⟩ | ⟨place, _, _, _, placed⟩ | ⟨place, _, _, placed⟩
  · exact List.mem_of_getElem? placed
  · exact List.mem_of_getElem? placed
  · exact List.mem_of_getElem? placed

theorem perform_of_acting {β : Type} {place : Nat} {evaluate : ModelForm α → SessionAction α β}
    {inner : Action α β} (same : request.action bench.held = do
      let _ ← evaluate (← chosen bench.held (some place))
      pure [])
    (placed : bench.held[place]? = some form)
    (inside : outcome (evaluate form) bench.session = outcome (act inner) bench.session) :
    request.perform bench = bench.withMemory (outcome inner bench.session.memory).2 := by
  rw [perform_of_evaluation same placed, inside, outcome_act]
  rfl

/-- Evaluating a form hands out no numbers. -/
theorem exists_memory_of_evaluated
    (usable : ∀ evaluated ∈ form.forms, known evaluated.equation.evaluator ∧ evaluated.IsSound)
    (evaluated : request.evaluated? bench.held = some form) {number revision : Nat}
    (awaits : bench.session.memory.Awaits known bench.session.model.calibration number revision) :
    ∃ memory, request.perform bench = bench.withMemory memory ∧
      memory.Awaits known bench.session.model.calibration number revision := by
  rcases cases_of_evaluated evaluated with
    ⟨place, point, rfl, placed⟩ | ⟨place, point, buffer, rfl, placed⟩ | ⟨place, point, rfl, placed⟩
  · refine ⟨_, perform_of_acting rfl placed (outcome_theModel_bind _ _), ?_⟩
    exact (System.keeps_residualsInto_awaits usable form.system point _ _ _ _ awaits).1
  · refine ⟨_, perform_of_acting rfl placed (outcome_theModel_bind _ _), ?_⟩
    exact (System.keeps_residualsInto_awaits usable form.system point buffer _ _ _ awaits).1
  · refine ⟨_, perform_of_acting rfl placed (outcome_theModel_bind _ _), ?_⟩
    exact (System.keeps_residualsAndJacobian_awaits usable form.system point _ _ _ awaits).1

/-- What makes a form alike makes it alike on both benches. -/
theorem twins_of_making {make : SessionAction α (ModelForm α)} {inner : Action α (ModelForm α)}
    (same : request.action left.held = do return [← make])
    (inside : ∀ memory, outcome make { left.session with memory } =
      outcome (act inner) { left.session with memory })
    (respects : Respects (Memory.Twins known left.session.model.calibration) inner fun _ => True)
    (twins : left.Twins known right) :
    (request.perform left).Twins known (request.perform right) := by
  rcases twins with ⟨memory, rfl, alike⟩
  rcases respects left.session.memory memory alike with ⟨after, equal, _⟩
  have madeLeft : outcome make left.session = _ := inside left.session.memory
  have madeRight : outcome make (left.withMemory memory).session = _ := inside memory
  rw [outcome_act] at madeLeft madeRight
  dsimp only at madeLeft madeRight
  rw [← equal] at madeRight
  have sameRight : request.action (left.withMemory memory).held = _ := same
  rw [perform_of_making same, perform_of_making sameRight, madeLeft, madeRight]
  rcases (outcome inner left.session.memory).1 with reason | form
  · exact ⟨_, rfl, after⟩
  · exact ⟨_, rfl, after⟩

/-- New values of parameters are given to both benches alike. -/
theorem twins_setParameters {values : List (String × Datum α)}
    (succeeded : (Request.setParameters values).succeeds left) (twins : left.Twins known right) :
    ((Request.setParameters values).perform left).Twins known
      ((Request.setParameters values).perform right) := by
  rcases twins with ⟨memory, rfl, number, revision, awaitsLeft, awaitsRight⟩
  rcases ran : outcome (Session.setParameters values) left.session with ⟨reason | done, after⟩
  · rw [succeeds, action, outcome_bind, ran] at succeeded
    cases succeeded
  · rcases exists_calibration_of_setParameters ran with ⟨calibration, stamped, each⟩
    have alike := awaitsRight.nextRevision_eq.trans awaitsLeft.nextRevision_eq.symm
    have ranRight : outcome (Session.setParameters values) (left.withMemory memory).session = _ :=
      each memory alike
    rw [perform_of_done rfl ((each left.session.memory rfl : outcome _ left.session = _)),
      perform_of_done rfl ranRight]
    have next := stamped.trans awaitsLeft.nextRevision_eq
    exact ⟨_, rfl, number, _, awaitsLeft.recalibrate next, awaitsRight.recalibrate next⟩

theorem serves_perform (serves : bench.Serves known) (use : request.isUse bench) :
    (request.perform bench).Serves known := by
  rcases quiet : request.isQuiet with _ | _
  · rcases cases_of_isUse use with
      ⟨values, rfl, succeeded⟩ | ⟨variant, rfl⟩ | ⟨place, form, rfl, _⟩ | ⟨form, evaluated⟩
    · rcases ran : outcome (Session.setParameters values) bench.session with ⟨reason | done, after⟩
      · rw [succeeds, action, outcome_bind, ran] at succeeded
        cases succeeded
      · rw [perform_of_done rfl ran]
        exact ⟨serves.session.of_setParameters ran, serves.held⟩
    · cases quiet
    · cases quiet
    · rcases cases_of_evaluated evaluated with
        ⟨_, _, rfl, _⟩ | ⟨_, _, _, rfl, _⟩ | ⟨_, _, rfl, _⟩ <;> cases quiet
  · exact serves_perform_of_quiet serves quiet

/-- An evaluation on one of the benches leaves them alike. -/
theorem twins_perform_left (serves : left.Serves known) (sound : left.IsSound)
    (evaluated : request.evaluated? left.held = some form) (twins : left.Twins known right) :
    (request.perform left).Twins known right := by
  rcases twins with ⟨memory, rfl, number, revision, awaitsLeft, awaitsRight⟩
  have usable := usable_of_mem serves sound (mem_of_evaluated evaluated)
  rcases exists_memory_of_evaluated usable evaluated awaitsLeft with ⟨after, performed, awaits⟩
  rw [performed]
  exact ⟨memory, rfl, number, revision, awaits, awaitsRight⟩

/-- A request of this kind does the same on both benches. -/
theorem twins_perform (serves : left.Serves known) (sound : left.IsSound)
    (use : request.isUse left) (twins : left.Twins known right) :
    (request.perform left).Twins known (request.perform right) := by
  rcases cases_of_isUse use with
    ⟨values, rfl, succeeded⟩ | ⟨variant, rfl⟩ | ⟨place, form, rfl, placed⟩ | ⟨form, evaluates⟩
  · exact twins_setParameters succeeded twins
  · have inside : ∀ memory, outcome (Session.build variant) { left.session with memory } =
        outcome (act (ModelForm.ofModel left.session.model variant)) { left.session with memory } :=
      fun memory => outcome_theModel_bind _ _
    have respects :=
      ModelForm.respects_ofModel serves.session.equations sound.session.model variant
    exact twins_of_making rfl inside respects twins
  · exact twins_of_making (action_copy placed) (fun _ => rfl) form.respects_copy twins
  · rcases twins with ⟨memory, rfl, number, revision, awaitsLeft, awaitsRight⟩
    have usable := usable_of_mem serves sound (mem_of_evaluated evaluates)
    have evaluatesRight : request.evaluated? (left.withMemory memory).held = some form := evaluates
    rcases exists_memory_of_evaluated usable evaluates awaitsLeft with
      ⟨afterLeft, performedLeft, laterLeft⟩
    rcases exists_memory_of_evaluated usable evaluatesRight awaitsRight with
      ⟨afterRight, performedRight, laterRight⟩
    rw [performedLeft, performedRight]
    exact ⟨afterRight, rfl, number, revision, laterLeft, laterRight⟩

end Request

section Runs

open Request

omit [Numeral α] in
theorem Bench.Twins.held_eq (twins : left.Twins known right) : right.held = left.held := by
  rcases twins with ⟨memory, rfl, _⟩
  rfl

omit [Numeral α] in
theorem Bench.Twins.refl (serves : bench.Serves known) (sound : bench.IsSound) :
    bench.Twins known bench := by
  have awaits : bench.session.memory.Awaits known bench.session.model.calibration
      bench.session.memory.nextId bench.session.memory.nextRevision :=
    ⟨serves.session.memory, sound.session.memory, rfl, rfl⟩
  exact ⟨_, rfl, _, _, awaits, awaits⟩

theorem Bench.Serves.run (serves : bench.Serves known) {requests : List (Request α)}
    (uses : bench.onlyUses requests) : (bench.run requests).Serves known := by
  induction requests generalizing bench with
  | nil => exact serves
  | cons request rest ih =>
      rcases Bool.and_eq_true_iff.mp uses with ⟨use, others⟩
      exact ih (serves_perform serves use) others

/-- Without the evaluations of all forms but one, a run leaves a bench alike. -/
theorem Bench.Twins.run (twins : left.Twins known right) (serves : left.Serves known)
    (reachable : Reachable left) {requests : List (Request α)} (uses : left.onlyUses requests)
    (system : System α) : (left.run requests).Twins known (right.runFor system requests) := by
  induction requests generalizing left right with
  | nil => exact twins
  | cons request rest ih =>
      rcases Bool.and_eq_true_iff.mp uses with ⟨use, others⟩
      have servesNext := serves_perform serves use
      have next := reachable.step request
      rw [Bench.runFor, twins.held_eq]
      by_cases elsewhere : request.isElsewhere system left.held
      · rw [if_pos elsewhere]
        rcases (Option.any_eq_true _ _).mp elsewhere with ⟨form, evaluated, _⟩
        have alike := twins_perform_left serves reachable.isSound evaluated twins
        exact ih alike servesNext next others
      · rw [if_neg elsewhere]
        have alike := twins_perform serves reachable.isSound use twins
        exact ih alike servesNext next others

theorem Reachable.shows_run (reachable : Reachable bench) {shown : System α → List α}
    (shows : bench.session.Shows (· ∈ bench.held) shown) {requests : List (Request α)}
    (uses : bench.onlyUses requests) :
    (bench.run requests).session.Shows (· ∈ (bench.run requests).held)
      (bench.noted shown requests) := by
  induction requests generalizing bench shown with
  | nil => exact shows
  | cons request rest ih =>
      rcases Bool.and_eq_true_iff.mp uses with ⟨use, others⟩
      exact ih (reachable.step request) (shows_perform use reachable.isSound shows) others

theorem Request.held_prefix (request : Request α) (bench : Bench α) :
    bench.held <+: (request.perform bench).held := by
  rw [perform]
  split
  · exact List.prefix_append _ _
  · exact List.prefix_rfl

/-- What is held is held to the end of a run. -/
theorem Bench.held_prefix (bench : Bench α) (requests : List (Request α)) :
    bench.held <+: (bench.run requests).held := by
  induction requests generalizing bench with
  | nil => exact List.prefix_rfl
  | cons request rest ih => exact (request.held_prefix bench).trans (ih (request.perform bench))

end Runs

end Twins

/-- A form for which all evaluations return the same in two sessions, or fail alike. -/
structure ModelForm.EvaluatesAlike (form : ModelForm α) (left right : Session α) : Prop where
  residuals : ∀ point, (outcome (Session.residuals form point) left).1 =
    (outcome (Session.residuals form point) right).1
  residualsInto : ∀ point buffer, (outcome (Session.residualsInto form point buffer) left).1 =
    (outcome (Session.residualsInto form point buffer) right).1
  residualsAndJacobian : ∀ point, (outcome (Session.residualsAndJacobian form point) left).1 =
    (outcome (Session.residualsAndJacobian form point) right).1

theorem ModelForm.IsReady.evaluatesAlike {form : ModelForm α} {left right : Session α}
    (ready : form.IsReady left) (other : form.IsReady right)
    (same : right.model.calibration = left.model.calibration) : form.EvaluatesAlike left right where
  residuals point := by rw [ready.residuals_eq, other.residuals_eq, same]
  residualsInto point buffer := by rw [ready.residualsInto_eq, other.residualsInto_eq, same]
  residualsAndJacobian point := by
    rw [ready.residualsAndJacobian_eq, other.residualsAndJacobian_eq, same]

/-- Forms of a model that are built for any variant or copied, and evaluated in any order while
parameters are given new values, do not interfere. Each keeps its pattern, and its Jacobian shows
the values of its own last successful evaluation. Had the other forms never been evaluated, the
same forms would be held, and every evaluation of the form would return the same, or fail alike.
A run may end anywhere, so this is true of all evaluations along a run. -/
theorem Attained.not_interfering [Numeral α] {bench : Bench α} (attained : Attained bench)
    {requests : List (Request α)} (uses : bench.onlyUses requests) :
    bench.held <+: (bench.run requests).held ∧
    ∀ form ∈ (bench.run requests).held,
      (∀ other ∈ (bench.run requests).held, form.system.id = other.system.id → form = other) ∧
      form.system.jacobian (bench.run requests).session.memory =
        ⟨form.system.pattern, form.system.width,
          bench.noted (fun system => system.values bench.session.memory) requests form.system⟩ ∧
      (bench.runFor form.system requests).held = (bench.run requests).held ∧
      form.EvaluatesAlike (bench.run requests).session
        (bench.runFor form.system requests).session := by
  have reachable := attained.reachable
  rcases attained.exists_serves with ⟨known, serves⟩
  have shows := reachable.shows_run reachable.isNumbered.shows_values uses
  have servesRun := serves.run uses
  have soundRun := (reachable.run requests).isSound
  refine ⟨bench.held_prefix requests, fun form member => ?_⟩
  have alike := (Bench.Twins.refl serves reachable.isSound).run serves reachable uses form.system
  refine ⟨?_, ?_, alike.held_eq, ?_⟩
  · exact fun other here => shows.identified form other (Or.inl member) (Or.inl here)
  · rw [System.jacobian, shows.memory.values _ ⟨form, Or.inl member, rfl⟩]
  · have usable := Request.usable_of_mem servesRun soundRun member
    rcases alike with ⟨memory, same, _, _, _, awaits⟩
    rw [same]
    exact ModelForm.IsReady.evaluatesAlike ⟨known, servesRun.session.memory, usable⟩
      ⟨known, awaits.serves, usable⟩ rfl

/-- A model whose parameter multiplies a series, and a form of it. -/
noncomputable def Attained.scaled : Bench ℝ :=
  Bench.run { session := .start "scaled" { tolerance := 0, variant := .plain, chunkLimit := 1 } }
    [.addVariable { name := "x" }, .addParameter { name := "p" } (.number 1),
      .addExpression gain "gain" false, .build .plain]

/-- The form is evaluated and copied, an evaluation of it fails because of the shape of the point,
and it is evaluated again after the parameter has changed. -/
noncomputable def Attained.disturbances : List (Request ℝ) :=
  [.residualsAndJacobian (some 0) ⟨[2, 1], [0, 1]⟩, .copy (some 0),
    .residualsAndJacobian (some 0) ⟨[1, 1], [1]⟩, .setParameters [("p", .number 0)],
    .residualsAndJacobian (some 0) ⟨[2, 1], [1, 0]⟩]

/-- The copy is as if the form had not been evaluated. -/
theorem Attained.not_interfering_disturbances :
    ∃ original copied, (scaled.run disturbances).held = [original, copied] ∧
      original.system.id ≠ copied.system.id ∧
      copied.system.jacobian (scaled.run disturbances).session.memory =
        ⟨copied.system.pattern, copied.system.width,
          scaled.noted (fun system => system.values scaled.session.memory) disturbances
            copied.system⟩ ∧
      copied.EvaluatesAlike (scaled.run disturbances).session
        (scaled.runFor copied.system disturbances).session := by
  have attained : Attained scaled := (Attained.start _ _).run (by decide +kernel)
  have uses : scaled.onlyUses disturbances := by decide +kernel
  have numbers : (scaled.run disturbances).held.map (·.system.id) = [1, 2] := by decide +kernel
  rcases List.map_eq_cons_iff.mp numbers with ⟨original, others, held, first, rest⟩
  rcases List.map_eq_cons_iff.mp rest with ⟨copied, none, rfl, second, nothing⟩
  rcases List.map_eq_nil_iff.mp nothing with rfl
  have member : copied ∈ (scaled.run disturbances).held := by simp [held]
  rcases (attained.not_interfering uses).2 copied member with ⟨_, shown, _, alike⟩
  refine ⟨original, copied, held, ?_, shown, alike⟩
  rw [first, second]
  decide

end Intertemporal
