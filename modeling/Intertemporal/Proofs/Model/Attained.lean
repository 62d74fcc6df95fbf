import Intertemporal.Proofs.Model.Renewal

/-!
# Runs of successful requests

A request that fails while it gives parameters values may leave values that no revision tells of,
so what equations are evaluated with is the present calibration only in runs in which such requests
succeed. Requests that neither compile an equation nor give a parameter a value may fail at any
time. Along these runs there is always a collection of evaluators that serve the calibration and
that all forms in use rest on (`Attained.exists_serves`).
-/

namespace Intertemporal

/-- Whether a request succeeds. -/
def Request.succeeds {α : Type} [Scalar α] [Numeral α] (request : Request α) (bench : Bench α) :
    Bool := (outcome (request.action bench.held) bench.session).1.toBool

/-- The states that runs reach from a model in which nothing is declared, if all requests succeed.
Those that neither compile an equation nor give a parameter a value may fail. -/
inductive Attained {α : Type} [Scalar α] [Numeral α] : Bench α → Prop
  | start (name : String) (options : Options α) : Attained { session := .start name options }
  | step {bench : Bench α} (attained : Attained bench) (request : Request α)
      (ended : request.isQuiet || request.succeeds bench) : Attained (request.perform bench)

/-- A bench on which known evaluators serve the calibration, and all forms rest on them. -/
structure Bench.Serves {α : Type} [Scalar α] (known : Evaluator α → Prop) (bench : Bench α) :
    Prop where
  session : bench.session.Serves known
  held : ∀ form ∈ bench.held, form.RestsOn known

theorem Bench.Serves.of_uses {α : Type} [Scalar α] {known : Evaluator α → Prop} {bench : Bench α}
    (serves : bench.Serves known) {form : ModelForm α} (used : bench.Uses form) :
    form.RestsOn known := by
  rcases used with held | active
  · exact serves.held form held
  · exact serves.session.active form active

namespace Request

variable {α : Type} [Scalar α] [Numeral α] {known : Evaluator α → Prop} {held : List (ModelForm α)}

/-- A request that compiles or gives values, and succeeds, gives the user nothing to hold, and all
evaluators known before serve the calibration. -/
theorem servesMore_of_action {request : Request α} (loud : request.isQuiet = false)
    {session after : Session α} (serves : session.Serves known) {kept : List (ModelForm α)}
    (returned : outcome (request.action held) session = (.ok kept, after)) :
    kept = [] ∧ after.ServesMore known := by
  have nothing : ∀ {β : Type} {action : SessionAction α β},
      outcome (do let _ ← action; pure []) session = (.ok kept, after) →
        kept = [] ∧ ∃ value, outcome action session = (.ok value, after) := by
    intro β action returned
    obtain ⟨value, between, ran, gave⟩ := outcome_bind_eq_ok.mp returned
    cases gave
    exact ⟨rfl, value, ran⟩
  cases request with
  | addParameter added value =>
      obtain ⟨rfl, _, ran⟩ := nothing returned
      exact ⟨rfl, known, fun _ => id, serves.of_addParameter ran⟩
  | setParameters values =>
      obtain ⟨rfl, _, ran⟩ := nothing returned
      exact ⟨rfl, known, fun _ => id, serves.of_setParameters ran⟩
  | addEquation text name linear =>
      obtain ⟨rfl, _, ran⟩ := nothing returned
      exact ⟨rfl, serves.of_addEquation ran⟩
  | addExpression expression name linear =>
      obtain ⟨rfl, _, ran⟩ := nothing returned
      exact ⟨rfl, serves.of_addExpression ran⟩
  | update settings overrides =>
      obtain ⟨rfl, _, ran⟩ := nothing returned
      exact ⟨rfl, serves.of_update ran⟩
  | _ => cases loud

theorem serves_perform_of_quiet {bench : Bench α} (serves : bench.Serves known)
    {request : Request α} (quiet : request.isQuiet) : (request.perform bench).Serves known := by
  obtain ⟨served, held⟩ :=
    perform_of_keeps (keeps_quiet Session.isLasting_hasServed serves.held quiet)
      ⟨rfl, serves.session⟩ serves.held
  exact ⟨served.serves, held⟩

/-- What one request of such a run keeps. -/
theorem exists_serves_perform {bench : Bench α} (serves : bench.Serves known)
    {request : Request α} (ended : request.isQuiet || request.succeeds bench) :
    ∃ more, (request.perform bench).Serves more := by
  -- what compiles or gives values has succeeded; the rest keeps the invariant in any case
  rcases quiet : request.isQuiet with _ | _
  · rw [quiet, Bool.false_or, succeeds] at ended
    rcases ran : outcome (request.action bench.held) bench.session with ⟨_ | kept, after⟩
    · rw [ran] at ended
      cases ended
    · obtain ⟨rfl, more, implies, session⟩ := servesMore_of_action quiet serves.session ran
      refine ⟨more, ?_⟩
      rw [perform, ran]
      refine ⟨session, fun form member => ?_⟩
      exact (serves.held form (by simpa using member)).mono implies
  · exact ⟨known, serves_perform_of_quiet serves quiet⟩

end Request

namespace Attained

variable {α : Type} [Scalar α] [Numeral α] {bench : Bench α}

theorem reachable (attained : Attained bench) : Reachable bench := by
  induction attained with
  | start name options => exact .start name options
  | step _ request _ ih => exact ih.step request

/-- Whatever happens in such a run, evaluators that serve the calibration carry all forms in use. -/
theorem exists_serves (attained : Attained bench) : ∃ known, bench.Serves known := by
  induction attained with
  | start name options =>
      refine ⟨_, Session.serves_start name options, ?_⟩
      intro form member
      cases member
  | step _ request ended ih =>
      obtain ⟨known, serves⟩ := ih
      exact request.exists_serves_perform serves ended

/-- Every system in use was built in some session. -/
theorem exists_isBuiltIn (attained : Attained bench) {system : System α}
    (used : bench.Uses (.plain system)) : ∃ origin, system.IsBuiltIn origin := by
  obtain ⟨known, serves⟩ := attained.exists_serves
  exact (serves.of_uses used).built system rfl

end Attained

/-- Whether requests in order all succeed. -/
def Bench.allSucceed {α : Type} [Scalar α] [Numeral α] (bench : Bench α) :
    List (Request α) → Bool
  | [] => true
  | request :: rest => request.succeeds bench && (request.perform bench).allSucceed rest

theorem Attained.run {α : Type} [Scalar α] [Numeral α] {bench : Bench α}
    (attained : Attained bench) {requests : List (Request α)}
    (succeeded : bench.allSucceed requests) : Attained (bench.run requests) := by
  induction requests generalizing bench with
  | nil => exact attained
  | cons request rest ih =>
      obtain ⟨first, others⟩ := Bool.and_eq_true_iff.mp succeeded
      exact ih (attained.step request (by rw [first, Bool.or_true])) others

end Intertemporal
