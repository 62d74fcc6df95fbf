import Intertemporal.Proofs.Model.Assignments
import Intertemporal.Proofs.Model.Records

/-!
# Accounts of evaluators

Whatever a run does, also if requests fail, the evaluators in use, which are those of the equations,
of the registry and of all forms, are among some that have numbers of their own and gradients of
their size. Requests that neither compile an equation nor give a parameter a value know no others.
An equation that is compiled adds one at most, and one that cannot be compiled changes nothing.
-/

namespace Intertemporal

variable {α : Type}

/-- A form of a model whose evaluators are known. -/
def ModelForm.IsKnown (known : Evaluator α → Prop) (form : ModelForm α) : Prop :=
  ∀ evaluated ∈ form.forms, known evaluated.equation.evaluator

/-- A model whose evaluators are known. -/
structure Model.IsKnown (known : Evaluator α → Prop) (model : Model α) : Prop where
  equations : ∀ equation ∈ model.equations, known equation.evaluator
  entries : ∀ entry ∈ model.registry.entries, known entry.evaluator

theorem ModelForm.IsKnown.mono {known more : Evaluator α → Prop} {form : ModelForm α}
    (here : form.IsKnown known) (implies : ∀ evaluator, known evaluator → more evaluator) :
    form.IsKnown more :=
  fun evaluated member => implies _ (here evaluated member)

variable [Scalar α]

theorem Memory.IsOrderly.mono {used fewer : Evaluator α → Prop} {memory : Memory α}
    (orderly : memory.IsOrderly used) (implies : ∀ evaluator, fewer evaluator → used evaluator) :
    memory.IsOrderly fewer where
  numbered evaluator here := orderly.numbered evaluator (implies evaluator here)
  identified evaluator other here hereOther :=
    orderly.identified evaluator other (implies evaluator here) (implies other hereOther)
  stored := orderly.stored
  fits evaluator here := orderly.fits evaluator (implies evaluator here)

/-- What cannot be compiled changes nothing: it fails before a number is handed out. -/
theorem Registry.leads_compile (registry : Registry α) (name : String) (key : EvaluatorKey α)
    (memory : Memory α) :
    Leads (· = memory) (registry.compile name key) (fun _ _ => True) (· = memory) := by
  have recorded : ∀ event, Leads (· = memory) (Action.record event) (fun _ _ => True)
      (· = memory) := fun _ => .modify fun _ _ => trivial
  have numbered : Leads (· = memory) Action.freshId (fun _ _ => True) (· = memory) := by
    rintro _ rfl
    exact ⟨fun _ _ _ => trivial, by rintro _ _ ⟨⟩⟩
  unfold compile
  split
  · exact (recorded _).bind fun _ => .pure fun _ _ => trivial
  · have built : Leads (· = memory) (registry.build name key) (fun _ _ => True) (· = memory) := by
      apply Leads.keeping keeps_ofExcept fun _ here => here
      intro program _
      apply Leads.keeping keeps_ofExcept fun _ here => here
      exact fun _ _ => numbered.bind fun _ => .pure fun _ _ => trivial
    exact built.bind fun _ => .pure fun _ _ => trivial

/-- An orderly memory that has handed out the revision of a calibration. -/
structure Memory.IsOrderlyFor (used : Evaluator α → Prop) (calibration : Calibration α)
    (memory : Memory α) : Prop extends memory.IsOrderly used where
  revision : calibration.revision < memory.nextRevision

namespace Memory.IsOrderlyFor

variable {used : Evaluator α → Prop} {calibration : Calibration α} {memory after : Memory α}

theorem of_evaluators_eq (orderly : memory.IsOrderlyFor used calibration)
    (same : after.evaluators = memory.evaluators) (ids : memory.nextId ≤ after.nextId)
    (revisions : memory.nextRevision ≤ after.nextRevision) :
    after.IsOrderlyFor used calibration :=
  ⟨orderly.toIsOrderly.of_evaluators_eq same ids revisions,
    Nat.lt_of_lt_of_le orderly.revision revisions⟩

theorem isStable (used : Evaluator α → Prop) (calibration : Calibration α) :
    IsStable used calibration (IsOrderlyFor used calibration) where
  record _ := .modify fun _ orderly => orderly.of_evaluators_eq rfl (Nat.le_refl _) (Nat.le_refl _)
  freshId := fun _ orderly =>
    ⟨orderly.of_evaluators_eq rfl (Nat.le_succ _) (Nat.le_refl _), fun _ _ => trivial⟩
  storeJacobian _ _ := .modify fun _ orderly =>
    orderly.of_evaluators_eq rfl (Nat.le_refl _) (Nat.le_refl _)
  bind evaluator here := by
    intro memory orderly
    refine ⟨?_, fun _ _ => trivial⟩
    rw [Evaluator.outcome_bind_eq]
    split
    · exact orderly
    · split
      · exact orderly
      · exact ⟨orderly.stored_bind here orderly.revision _, orderly.revision⟩
  residualAndGradient evaluator here array := by
    intro memory orderly
    refine ⟨?_, fun _ _ => trivial⟩
    rw [Evaluator.outcome_residualAndGradient]
    split
    · exact orderly
    · exact ⟨orderly.stored_call here array, orderly.revision⟩

end Memory.IsOrderlyFor

namespace Session

variable {used : Evaluator α → Prop} {session after : Session α}

/-- A session with an account of its evaluators. -/
structure Accounts (used : Evaluator α → Prop) (session : Session α) : Prop where
  memory : session.memory.IsOrderlyFor used session.model.calibration
  model : session.model.IsKnown used
  active : ∀ form ∈ session.active, form.IsKnown used

/-- A session with an account of all evaluators that were used before, and maybe of others. -/
def AccountsMore (used : Evaluator α → Prop) (session : Session α) : Prop :=
  ∃ more : Evaluator α → Prop, (∀ evaluator, used evaluator → more evaluator) ∧
    session.Accounts more

theorem accounts_start (name : String) (options : Options α) :
    (start name options).Accounts fun _ => False := by
  refine ⟨⟨.empty fun _ none => none, Nat.one_pos⟩, ⟨?_, ?_⟩, ?_⟩
  · intro equation member
    cases member
  · intro entry member
    cases member
  · rintro form ⟨⟩

section Uses

variable {calibration : Calibration α}

/-- An account under a calibration that stays. -/
structure HasAccount (used : Evaluator α → Prop) (calibration : Calibration α)
    (session : Session α) : Prop where
  calibration_eq : session.model.calibration = calibration
  accounts : session.Accounts used

theorem isLasting_hasAccount : IsLasting used (HasAccount used calibration)
    (fun model => model.calibration = calibration ∧ model.IsKnown used)
    (Memory.IsOrderlyFor used calibration) (ModelForm.IsKnown used) where
  parts session := by
    constructor
    · rintro ⟨rfl, memory, model, active⟩
      exact ⟨⟨rfl, model⟩, memory, active⟩
    · rintro ⟨⟨rfl, model⟩, memory, active⟩
      exact ⟨rfl, memory, model, active⟩
  declare _ _ _ here _ := ⟨here.1, here.2.equations, here.2.entries⟩
  choose _ _ here := ⟨here.1, here.2.equations, here.2.entries⟩
  calm _ here := here.1 ▸ (Memory.IsOrderlyFor.isStable used _).toIsCalm
  stable _ here := here.1 ▸ Memory.IsOrderlyFor.isStable used _
  equations _ here := here.2.equations
  forms _ here := here
  built model here variant := by
    rcases here with ⟨rfl, known⟩
    have stable := Memory.IsOrderlyFor.isStable used model.calibration
    apply (stable.keeps_modelForm known.equations variant).weaken
    exact fun form isOver evaluated member => known.equations _ (isOver.stated evaluated member)
  copied form here := by
    cases form with
    | plain system =>
        apply ((Memory.IsOrderlyFor.isStable used calibration).keeps_copy system).map
        rintro _ ⟨number, rfl⟩
        exact here
    | linearized linearization => exact .throw _
    | firstOrder space => exact .throw _

end Uses

section Values

/-- New values come under a new revision, or they are stored under the old one. -/
theorem Accounts.assign (accounts : session.Accounts used) (values : List (String × Datum α)) :
    (outcome (assign values) session).2.Accounts used := by
  rcases accounts with ⟨memory, model, active⟩
  rcases Calibration.store_cases session.model.calibration.values values with ⟨stored, whole⟩ |
    ⟨_, _, _, _, stored, cause, _, _, _, broken⟩
  · rw [outcome_assign_of_stored whole]
    exact ⟨⟨memory.toIsOrderly.of_evaluators_eq rfl (Nat.le_refl _) (Nat.le_succ _),
      Nat.lt_succ_self _⟩, ⟨model.equations, model.entries⟩, active⟩
  · rw [outcome_assign_of_broken broken]
    exact ⟨⟨memory.toIsOrderly, memory.revision⟩, ⟨model.equations, model.entries⟩, active⟩

theorem Accounts.addParameter (accounts : session.Accounts used) (added : Parameter)
    (value : Datum α) : (outcome (addParameter added value) session).2.Accounts used := by
  simp only [Session.addParameter, outcome_bind, outcome_theModel, outcome_ofExcept]
  rcases session.model.symbols.addParameter added with reason | symbols
  · exact accounts
  · rcases accounts with ⟨memory, model, active⟩
    have declared : { session with model := { session.model with symbols } }.Accounts used :=
      ⟨⟨memory.toIsOrderly, memory.revision⟩, ⟨model.equations, model.entries⟩, active⟩
    exact declared.assign _

theorem Accounts.setParameters (accounts : session.Accounts used)
    (values : List (String × Datum α)) :
    (outcome (setParameters values) session).2.Accounts used := by
  simp only [Session.setParameters, outcome_bind, outcome_theModel, outcome_ofExcept]
  rcases (Error.checkNames values : Except (Error α) Unit) with reason | _
  · exact accounts
  · dsimp only [Except.mapError]
    rcases outcome_checkDeclared session.model.symbols.isParameter "parameter assignment"
      (values.map (·.1)) session with ⟨checked, _⟩ | ⟨reason, checked⟩
    · rw [checked]
      exact accounts.assign values
    · rw [checked]
      exact accounts

end Values

section Equations

variable {equation : Equation α}

theorem Accounts.of_compile (accounts : session.Accounts used) {evaluator : Evaluator α}
    {registry : Registry α} {memory : Memory α} {name : String} {key : EvaluatorKey α}
    (returned : outcome (session.model.registry.compile name key) session.memory =
      (.ok (evaluator, registry), memory)) :
    { session with model := { session.model with registry }, memory }.Accounts
      fun other => used other ∨ other = evaluator := by
  rcases accounts with ⟨orderly, model, active⟩
  have equations : ∀ equation ∈ session.model.equations,
      used equation.evaluator ∨ equation.evaluator = evaluator :=
    fun equation member => .inl (model.equations equation member)
  have forms : ∀ form ∈ session.active, form.IsKnown fun other => used other ∨ other = evaluator :=
    fun form here => (active form here).mono fun _ => .inl
  rcases Registry.of_compile returned with ⟨found, rfl, rfl⟩ | ⟨-, made, rfl⟩
  · -- what is found in the registry is used already, and only the log has changed
    rcases Registry.exists_entry_of_find? found with ⟨entry, member, rfl, _⟩
    have kept : { session.memory with
        log := session.memory.log ++ [Event.reused entry.evaluator.name name] }.IsOrderlyFor used
          session.model.calibration :=
      orderly.of_evaluators_eq rfl (Nat.le_refl _) (Nat.le_refl _)
    refine ⟨⟨kept.toIsOrderly.mono ?_, kept.revision⟩, ⟨equations, ?_⟩, forms⟩
    · rintro other (old | rfl)
      · exact old
      · exact model.entries entry member
    · exact fun other among => .inl (model.entries other among)
  · rcases Registry.of_build made with ⟨_, fresh, rfl⟩
    refine ⟨⟨orderly.join fresh, orderly.revision⟩, ⟨equations, ?_⟩, forms⟩
    intro other among
    rcases List.mem_append.mp among with old | new
    · exact .inl (model.entries other old)
    · exact .inr (congrArg _ (List.mem_singleton.mp new))

/-- An equation is appended, or it cannot be compiled and nothing changes. -/
theorem Accounts.leads_appendToHorizon (accounts : session.Accounts used) (name : String)
    (expression : Expression α) (linear : Bool) (source : String) :
    Leads (· = session) (appendToHorizon name expression linear source)
      (fun _ later => later.AccountsMore used) (· = session) := by
  rintro session rfl
  simp only [appendToHorizon, append, outcome_bind, outcome_theModel, outcome_act]
  rcases compiled : outcome (session.model.registry.compile name
    ⟨expression, expression.references⟩) session.memory with
      ⟨reason | ⟨evaluator, registry⟩, memory⟩
  · have unchanged := (session.model.registry.leads_compile name _ _ _ rfl).2 _ _ compiled
    constructor
    · rintro _ _ ⟨⟩
    · rintro _ _ ⟨⟩
      rw [unchanged]
  · constructor
    · rintro _ _ ⟨⟩
      rcases accounts.of_compile compiled with ⟨orderly, model, _⟩
      refine ⟨fun other => used other ∨ other = evaluator, fun _ => .inl, ?_,
        ⟨?_, model.entries⟩, ?_⟩
      · exact orderly.of_evaluators_eq rfl (Nat.le_refl _) (Nat.le_refl _)
      · intro equation member
        rcases List.mem_append.mp member with old | new
        · exact model.equations equation old
        · exact .inr (congrArg Equation.evaluator (List.mem_singleton.mp new))
      · rintro form ⟨⟩
    · rintro _ _ ⟨⟩

omit [Scalar α] in
theorem leads_ofExcept {ε β γ : Type} {cause : ε → Error α} {result : Except ε β}
    {next : β → SessionAction α γ} {reached : γ → Session α → Prop}
    (rest : ∀ value, result = .ok value → Leads (· = session) (next value) reached (· = session)) :
    Leads (· = session) (do next (← ofExcept cause result)) reached (· = session) := by
  cases result with
  | error reason =>
      rintro _ rfl
      exact ⟨by rintro _ _ ⟨⟩, by rintro _ _ ⟨⟩; rfl⟩
  | ok value => exact rest value rfl

theorem Accounts.leads_addEquation (accounts : session.Accounts used) (text name : String)
    (linear : Bool) :
    Leads (· = session) (addEquation text name linear) (fun _ later => later.AccountsMore used)
      (· = session) := by
  apply leads_theModel
  apply Leads.keeping (keeps_checkNewEquation _ _) fun _ here => here
  intro _ _
  apply leads_ofExcept
  exact fun expression _ => accounts.leads_appendToHorizon _ expression linear _

theorem Accounts.leads_addExpression (accounts : session.Accounts used)
    (expression : Expression α) (name : String) (linear : Bool) :
    Leads (· = session) (addExpression expression name linear)
      (fun _ later => later.AccountsMore used) (· = session) := by
  apply leads_theModel
  apply Leads.keeping (keeps_checkNewEquation _ _) fun _ here => here
  intro _ _
  apply leads_ofExcept
  exact fun _ _ => accounts.leads_appendToHorizon _ expression linear _

/-- Equations that are compiled one after another have evaluators of which there is an account. -/
theorem Accounts.of_recompileEach (accounts : session.Accounts used)
    {stated again : List (Equation α)}
    (returned : outcome (stated.mapM recompileEquation) session = (.ok again, after)) :
    ∃ more : Evaluator α → Prop, (∀ evaluator, used evaluator → more evaluator) ∧
      after.Accounts more ∧ ∀ equation ∈ again, more equation.evaluator := by
  induction stated generalizing session used again with
  | nil =>
      cases returned
      exact ⟨used, fun _ => id, accounts, fun _ none => absurd none List.not_mem_nil⟩
  | cons first rest ih =>
      simp only [List.mapM_cons, recompileEquation, outcome_bind_eq_ok, outcome_act_eq_ok]
        at returned
      -- the collection after the first equation is the one that the others start from
      rcases returned with ⟨_, between, ⟨_, _, read, ⟨evaluator, registry⟩, _,
        ⟨memory, compiling, rfl⟩, _, _, changed, made⟩, others, _, remaining, gave⟩
      cases read
      cases changed
      cases made
      cases gave
      rcases ih (accounts.of_compile compiling) remaining with ⟨more, implies, all, known⟩
      refine ⟨more, fun other old => implies other (.inl old), all, ?_⟩
      exact List.forall_mem_cons.mpr ⟨implies evaluator (.inr rfl), known⟩

theorem Accounts.of_recompile (accounts : session.Accounts used) {done : Unit}
    (returned : outcome recompile session = (.ok done, after)) : after.AccountsMore used := by
  simp only [recompile, outcome_bind_eq_ok, outcome_act_eq_ok] at returned
  rcases returned with ⟨_, _, read, _, _, emptied, again, _, compiling, _, _, readAgain, _, _,
    changed, _, recorded, rfl⟩
  cases read
  cases emptied
  cases readAgain
  cases changed
  cases recorded
  have cleared : Accounts used { session with
      model := { session.model with
        registry := { chunkLimit := session.model.options.chunkLimit } } } := by
    refine ⟨accounts.memory, ⟨accounts.model.equations, ?_⟩, accounts.active⟩
    intro entry none
    cases none
  rcases cleared.of_recompileEach compiling with ⟨more, implies, all, known⟩
  refine ⟨more, implies, ?_, ⟨known, all.model.entries⟩, all.active⟩
  exact all.memory.of_evaluators_eq rfl (Nat.le_refl _) (Nat.le_refl _)

theorem leads_restructured {failed : Session α → Prop} :
    Leads (AccountsMore used) (do restructure (← theModel)) (fun _ => AccountsMore used)
      failed := by
  rintro session ⟨more, implies, accounts⟩
  constructor
  · rintro _ _ ⟨⟩
    exact ⟨more, implies, accounts.memory, accounts.model, by rintro form ⟨⟩⟩
  · rintro _ _ ⟨⟩

/-- Options are chosen, or refused before anything changes: all equations can be compiled anew if
there is room for an input. -/
theorem Accounts.leads_update [Numeral α] (accounts : session.Accounts used)
    (sound : session.model.IsSound) (settings overrides : Settings α) :
    Leads (· = session) (update settings overrides) (fun _ => AccountsMore used)
      (· = session) := by
  apply leads_theModel
  apply leads_ofExcept
  intro _ _
  dsimp only
  apply leads_ofExcept
  intro options accepted
  have chosen : Accounts used { session with model := { session.model with options } } :=
    ⟨accounts.memory, ⟨accounts.model.equations, accounts.model.entries⟩, accounts.active⟩
  have set : Leads (· = session) (setModel { session.model with options })
      (fun _ => (· = { session with model := { session.model with options } })) (· = session) := by
    apply Leads.modify
    rintro _ rfl
    rfl
  apply set.bind
  intro _
  -- from here on nothing fails
  split
  · have recompiled : Leads (· = { session with model := { session.model with options } }) recompile
        (fun _ => AccountsMore used) (· = session) := by
      rintro _ rfl
      refine ⟨fun _ _ ran => chosen.of_recompile ran, ?_⟩
      intro reason later failed
      rcases exists_recompile { session with model := { session.model with options } }
        ⟨sound.symbols, sound.equations, sound.registry⟩ (one_le_of_override accepted) with
          ⟨_, _, _, ran, _⟩
      rw [ran] at failed
      cases failed
    exact recompiled.bind fun _ => leads_restructured
  · intro later here
    exact leads_restructured later (here ▸ ⟨used, fun _ => id, chosen⟩)

end Equations

end Session

namespace Request

open Session

variable [Numeral α] {used : Evaluator α → Prop}

theorem perform_without {β : Type} {request : Request α} {bench : Bench α}
    {done : SessionAction α β}
    (same : request.action bench.held = do let _ ← done; pure []) :
    request.perform bench = { bench with session := (outcome done bench.session).2 } := by
  rw [perform, same, outcome_then_pure]
  rcases outcome done bench.session with ⟨_ | _, after⟩
  · rfl
  · simp [Except.map]

/-- Whether a request states an equation or changes options. -/
def states : Request α → Bool
  | .addEquation .. | .addExpression .. | .update .. => true
  | _ => false

/-- A request that states an equation or changes options gives the user nothing to hold, and changes
nothing if it fails. -/
theorem leads_states {session : Session α} (accounts : session.Accounts used)
    (sound : session.model.IsSound) {request : Request α} (states : request.states)
    (held : List (ModelForm α)) :
    Leads (· = session) (request.action held)
      (fun kept later => kept = [] ∧ later.AccountsMore used) (· = session) := by
  have without : ∀ {β : Type} {action : SessionAction α β},
      Leads (· = session) action (fun _ => AccountsMore used) (· = session) →
        Leads (· = session) (do let _ ← action; pure [] : SessionAction α (List (ModelForm α)))
          (fun kept later => kept = [] ∧ later.AccountsMore used) (· = session) :=
    fun leads => leads.bind fun _ => .pure fun _ more => ⟨rfl, more⟩
  cases request with
  | addEquation text name linear => exact without (accounts.leads_addEquation text name linear)
  | addExpression expression name linear =>
      exact without (accounts.leads_addExpression expression name linear)
  | update settings overrides => exact without (accounts.leads_update sound settings overrides)
  | _ => cases states

end Request

/-- A bench with an account of the evaluators of its session and of all forms that are held. -/
structure Bench.Accounts (used : Evaluator α → Prop) (bench : Bench α) : Prop where
  session : bench.session.Accounts used
  held : ∀ form ∈ bench.held, form.IsKnown used

namespace Bench.Accounts

variable [Numeral α] {used : Evaluator α → Prop} {bench : Bench α}

theorem perform_states (accounts : bench.Accounts used) (sound : bench.IsSound)
    {request : Request α} (states : request.states) :
    ∃ more, (request.perform bench).Accounts more := by
  rcases Request.leads_states accounts.session sound.session.model states bench.held bench.session
    rfl with ⟨returned, failing⟩
  rw [Request.perform]
  rcases ran : outcome (request.action bench.held) bench.session with ⟨reason | kept, after⟩
  · exact ⟨used, failing reason after ran ▸ accounts.session, accounts.held⟩
  · rcases returned kept after ran with ⟨rfl, more, implies, session⟩
    refine ⟨more, session, ?_⟩
    intro form member
    exact (accounts.held form (by simpa using member)).mono implies

/-- Whether a request succeeds or fails, there is an account of all evaluators afterwards. -/
theorem perform (accounts : bench.Accounts used) (sound : bench.IsSound) (request : Request α) :
    ∃ more, (request.perform bench).Accounts more := by
  rcases quiet : request.isQuiet with _ | _
  · cases request with
    | addParameter added value =>
        refine ⟨used, ?_⟩
        rw [Request.perform_without rfl]
        exact ⟨accounts.session.addParameter added value, accounts.held⟩
    | setParameters values =>
        refine ⟨used, ?_⟩
        rw [Request.perform_without rfl]
        exact ⟨accounts.session.setParameters values, accounts.held⟩
    | addEquation | addExpression | update => exact accounts.perform_states sound rfl
    | _ => cases quiet
  · rcases Request.perform_of_keeps
      (Request.keeps_quiet Session.isLasting_hasAccount accounts.held quiet)
      ⟨rfl, accounts.session⟩ accounts.held with ⟨⟨_, session⟩, held⟩
    exact ⟨used, session, held⟩

end Bench.Accounts

/-- In every state of a run, there is an account of the evaluators in use. -/
theorem Reachable.exists_accounts [Numeral α] {bench : Bench α} (reachable : Reachable bench) :
    ∃ used, bench.Accounts used := by
  induction reachable with
  | start name options =>
      refine ⟨_, Session.accounts_start name options, ?_⟩
      intro form member
      cases member
  | step reachable request ih =>
      rcases ih with ⟨used, accounts⟩
      exact accounts.perform reachable.isSound request

end Intertemporal
