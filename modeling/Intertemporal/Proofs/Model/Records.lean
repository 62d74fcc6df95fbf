import Intertemporal.Proofs.Model.Runs
import Intertemporal.Proofs.System.Records

/-!
# Forms with Jacobians of their own

In every state that a run reaches, different forms in use rest on systems with different numbers, so
each has a Jacobian of its own. A form that is built or copied is new among them. What the others
show changes only when they are evaluated themselves, and if that succeeds.
-/

namespace Intertemporal

variable {α : Type}

namespace Session

/-- A session that follows another one without a form becoming active and without a change to the
values of Jacobians. -/
structure IsAfter (earlier session : Session α) : Prop where
  memory : earlier.memory.IsAfter session.memory
  active : ∀ form ∈ session.active, form ∈ earlier.active

variable [Scalar α]

theorem isGrowing_isAfter (earlier : Session α) : IsGrowing (fun _ => True) earlier.IsAfter
    (fun _ => True) earlier.memory.IsAfter (· ∈ earlier.active) (fun _ => True)
    fun _ _ => True where
  parts session := by
    constructor
    · rintro ⟨memory, active⟩
      exact ⟨trivial, memory, active⟩
    · rintro ⟨_, memory, active⟩
      exact ⟨memory, active⟩
  declare _ _ _ _ _ := trivial
  choose _ _ _ := trivial
  calm model _ := Memory.isCalm_isAfter model.calibration earlier.memory
  equations _ _ _ _ := trivial
  forms _ _ _ _ := trivial
  calibrate _ _ _ := trivial
  revise _ _ follows := ⟨follows.nextId_le, follows.jacobians_eq⟩
  extend _ _ _ := trivial
  clear _ _ := trivial
  compile model _ name key :=
    (Memory.keeps_compile_isAfter _ model.registry name key).weaken fun _ _ => ⟨trivial, trivial⟩
  states _ _ _ _ := trivial
  restate _ _ _ _ := trivial
  isNew _ _ _ := trivial
  renew _ _ _ _ := trivial

/-- The forms that can be evaluated in a session: given ones and the active one. -/
def Uses (held : ModelForm α → Prop) (session : Session α) (form : ModelForm α) : Prop :=
  held form ∨ form ∈ session.active

/-- The systems that these forms rest on. -/
def UsesSystem (held : ModelForm α → Prop) (session : Session α) (system : System α) : Prop :=
  ∃ form, session.Uses held form ∧ form.system = system

/-- A session in which the Jacobians of the forms in use show given values, and their systems have
different numbers. -/
structure Shows (held : ModelForm α → Prop) (shown : System α → List α) (session : Session α) :
    Prop where
  memory : session.memory.Shows (session.UsesSystem held) shown
  identified : ∀ form other, session.Uses held form → session.Uses held other →
    form.system.id = other.system.id → form = other

variable {held fewer : ModelForm α → Prop} {shown : System α → List α} {session after : Session α}
  {form : ModelForm α}

theorem Shows.of_uses (shows : session.Shows held shown)
    (memory : after.memory.Shows (session.UsesSystem held) shown)
    (implies : ∀ form, after.Uses fewer form → session.Uses held form) :
    after.Shows fewer shown := by
  refine ⟨?_, ?_⟩
  · apply memory.mono
    · rintro _ ⟨form, here, rfl⟩
      exact ⟨form, implies form here, rfl⟩
    · exact fun _ _ => rfl
  · exact fun form other here hereOther =>
      shows.identified form other (implies form here) (implies other hereOther)

theorem Shows.mono (shows : session.Shows held shown) (implies : ∀ form, fewer form → held form) :
    session.Shows fewer shown :=
  shows.of_uses shows.memory fun form => Or.imp_left (implies form)

/-- A form that is held may become the active one, whatever happens to the model. -/
theorem Shows.activate (shows : session.Shows held shown) (here : held form) (model : Model α) :
    { session with model, active := some form }.Shows held shown := by
  refine shows.of_uses ?_ ?_
  · exact shows.memory
  · rintro other (old | active)
    · exact Or.inl old
    · exact Or.inl (Option.mem_some.mp active ▸ here)

/-- What follows sessions without a change to them keeps what they show. -/
theorem keeps_shows {β : Type} {action : SessionAction α β} {property : β → Prop}
    (follows : ∀ earlier, Keeps (IsAfter earlier) action property) :
    Keeps (Shows held shown) action property := by
  intro session shows
  have start : session.IsAfter session := ⟨.refl _, fun _ => id⟩
  rcases follows session session start with ⟨after, returned⟩
  refine ⟨?_, returned⟩
  apply shows.of_uses (Memory.isSteady_shows _ _ _ _ shows.memory after.memory)
  exact fun form => Or.imp_right (after.active form)

/-- A form that is new joins those in use. -/
theorem Shows.join (shows : session.Shows held shown) {values : List α} {memory : Memory α}
    (also : memory.ShowsAlso (session.UsesSystem held) shown form.system values) :
    { session with memory }.Shows (fun other => held other ∨ other = form)
      (note form.system values shown) := by
  have cases : ∀ other,
      { session with memory }.Uses (fun other => held other ∨ other = form) other →
        session.Uses held other ∨ other = form := by
    rintro other ((here | rfl) | active)
    · exact Or.inl (Or.inl here)
    · exact Or.inr rfl
    · exact Or.inl (Or.inr active)
  refine ⟨?_, ?_⟩
  · apply also.shows.mono
    · rintro _ ⟨other, here, rfl⟩
      rcases cases other here with old | rfl
      · exact Or.inl ⟨other, old, rfl⟩
      · exact Or.inr rfl
    · exact fun _ _ => rfl
  · intro first second hereFirst hereSecond same
    rcases cases first hereFirst with oldFirst | rfl
    · rcases cases second hereSecond with oldSecond | rfl
      · exact shows.identified first second oldFirst oldSecond same
      · exact absurd same (also.isNew _ ⟨first, oldFirst, rfl⟩)
    · rcases cases second hereSecond with oldSecond | rfl
      · exact absurd same.symm (also.isNew _ ⟨second, oldSecond, rfl⟩)
      · rfl

omit [Scalar α] in
/-- What is done in the memory changes nothing else. -/
theorem leads_act {β : Type} {action : Action α β} {before failed : Memory α → Prop}
    {reached : β → Memory α → Prop} (here : before session.memory)
    (leads : Leads before action reached failed) :
    Leads (· = session) (act action)
      (fun value later => ∃ memory, later = { session with memory } ∧ reached value memory)
      fun later => ∃ memory, later = { session with memory } ∧ failed memory := by
  rintro _ rfl
  rcases leads _ here with ⟨returned, failing⟩
  rw [outcome_act]
  constructor
  · rintro value _ ran
    rcases Prod.mk.inj ran with ⟨result, rfl⟩
    exact ⟨_, rfl, returned value _ (Prod.ext result rfl)⟩
  · rintro reason _ ran
    rcases Prod.mk.inj ran with ⟨result, rfl⟩
    exact ⟨_, rfl, failing reason _ (Prod.ext result rfl)⟩

omit [Scalar α] in
theorem leads_theModel {β : Type} {next : Model α → SessionAction α β}
    {reached : β → Session α → Prop} {failed : Session α → Prop}
    (rest : Leads (· = session) (next session.model) reached failed) :
    Leads (· = session) (do next (← theModel)) reached failed := by
  rintro _ rfl
  exact rest _ rfl

/-- A form that is made in the memory joins those in use. -/
theorem Shows.leads_join (shows : session.Shows held shown) {action : Action α (ModelForm α)}
    {before : Memory α → Prop} {values : ModelForm α → List α} (here : before session.memory)
    (leads : Leads before action
      (fun form => Memory.ShowsAlso (session.UsesSystem held) shown form.system (values form))
      (Memory.Shows (session.UsesSystem held) shown)) :
    Leads (· = session) (act action)
      (fun form => Shows (fun other => held other ∨ other = form)
        (note form.system (values form) shown)) (Shows held shown) := by
  apply (leads_act here leads).weaken
  · rintro form _ ⟨memory, rfl, also⟩
    exact shows.join also
  · rintro _ ⟨memory, rfl, kept⟩
    exact ⟨kept, shows.identified⟩

/-- A form that is built is new, and shows zeros or what was evaluated to build it. -/
theorem leads_build (variant : Variant) :
    Leads (fun session => session.IsSound ∧ session.Shows held shown) (build variant)
      (fun form => Shows (fun other => held other ∨ other = form)
        (note form.system form.initialValues shown)) (Shows held shown) := by
  rintro session ⟨sound, shows⟩
  exact leads_theModel (shows.leads_join ⟨sound.memory, shows.memory⟩
    (ModelForm.leads_ofModel sound.model variant)) session rfl

/-- A copy is new, and shows what the original shows. -/
theorem leads_copy (here : held form) : Leads (Shows held shown) (act form.copy)
    (fun copied => Shows (fun other => held other ∨ other = copied)
      (note copied.system (shown form.system) shown)) (Shows held shown) := by
  intro session shows
  exact shows.leads_join shows.memory (ModelForm.leads_copy ⟨form, Or.inl here, rfl⟩) session rfl

/-- An evaluation that succeeds changes what the form shows, to the Jacobian that it returns. -/
theorem leads_residualsAndJacobian (here : held form) (point : NumberArray α) :
    Leads (Shows held shown) (residualsAndJacobian form point)
      (fun found => Shows held (note form.system found.2.values shown)) (Shows held shown) := by
  intro session shows
  have evaluated := leads_act shows.memory (System.leads_residualsAndJacobian
    (⟨form, Or.inl here, rfl⟩ : session.UsesSystem held form.system) session.model.calibration
    form.forms point)
  refine leads_theModel (evaluated.weaken ?_ ?_) session rfl
  · rintro found _ ⟨memory, rfl, noted⟩
    exact ⟨noted, shows.identified⟩
  · rintro _ ⟨memory, rfl, kept⟩
    exact ⟨kept, shows.identified⟩

theorem keeps_residuals (form : ModelForm α) (point : NumberArray α) :
    Keeps (Shows held shown) (residuals form point) fun _ => True := by
  apply keeps_shows
  intro earlier
  have growing := isGrowing_isAfter earlier
  exact growing.keeps_theModel.bind fun model _ => growing.keeps_act
    ((growing.calm model trivial).keeps_residualsInto _ (fun _ _ => trivial) point _)

theorem keeps_residualsInto (form : ModelForm α) (point : NumberArray α) (buffer : List α) :
    Keeps (Shows held shown) (residualsInto form point buffer) fun _ => True := by
  apply keeps_shows
  intro earlier
  have growing := isGrowing_isAfter earlier
  exact growing.keeps_theModel.bind fun model _ => growing.keeps_act
    ((growing.calm model trivial).keeps_residualsInto _ (fun _ _ => trivial) point buffer)

/-- A session in which different forms in use have Jacobians of their own. -/
def IsNumbered (held : ModelForm α → Prop) (session : Session α) : Prop :=
  ∃ shown, session.Shows held shown

/-- What the Jacobians show then is what is kept in the memory. -/
theorem IsNumbered.shows_values (numbered : session.IsNumbered held) :
    session.Shows held fun system => system.values session.memory := by
  rcases numbered with ⟨shown, shows⟩
  exact ⟨⟨shows.memory.stored, shows.memory.numbered, fun _ _ => rfl⟩, shows.identified⟩

theorem IsNumbered.mono (numbered : session.IsNumbered held)
    (implies : ∀ form, fewer form → held form) : session.IsNumbered fewer := by
  rcases numbered with ⟨shown, shows⟩
  exact ⟨shown, shows.mono implies⟩

theorem IsNumbered.activate (numbered : session.IsNumbered held) (here : held form)
    (model : Model α) : { session with model, active := some form }.IsNumbered held := by
  rcases numbered with ⟨shown, shows⟩
  exact ⟨shown, shows.activate here model⟩

section Numbers

theorem numbers_of_keeps {β : Type} {action : SessionAction α β} {property : β → Prop}
    (kept : ∀ shown, Keeps (Shows held shown) action property) :
    Keeps (IsNumbered held) action property := by
  rintro session ⟨shown, shows⟩
  rcases kept shown session shows with ⟨after, returned⟩
  exact ⟨⟨shown, after⟩, returned⟩

theorem numbers_build (variant : Variant) :
    Leads (fun session => session.IsSound ∧ session.IsNumbered held) (build variant)
      (fun form => IsNumbered fun other => held other ∨ other = form) (IsNumbered held) := by
  rintro session ⟨sound, shown, shows⟩
  exact ((leads_build variant).weaken (fun _ _ made => ⟨_, made⟩) fun _ kept => ⟨_, kept⟩) session
    ⟨sound, shows⟩

/-- A form that is built may become the active one. -/
theorem numbers_activate (variant : Variant) (change : Model α → Model α) :
    Leads (fun session => session.IsSound ∧ session.IsNumbered held)
      (do
        let form ← build variant
        modify fun session =>
          { session with model := change session.model, active := some form }
        pure form)
      (fun form => IsNumbered fun other => held other ∨ other = form) (IsNumbered held) := by
  apply (numbers_build variant).bind
  intro form
  apply Leads.bind (.modify fun session numbered => numbered.activate (Or.inr rfl) _)
  exact fun _ => .pure fun _ here => here

theorem numbers_refresh :
    Leads (fun session => session.IsSound ∧ session.IsNumbered held) (refresh (α := α))
      (fun form => IsNumbered fun other => held other ∨ other = form) (IsNumbered held) := by
  intro session here
  refine leads_theModel ?_ session rfl
  rintro _ rfl
  exact numbers_activate _ id _ here

theorem numbers_install (variant : Variant) :
    Leads (fun session => session.IsSound ∧ session.IsNumbered held) (install variant)
      (fun form => IsNumbered fun other => held other ∨ other = form) (IsNumbered held) :=
  numbers_activate variant fun model =>
    { model with options := { model.options with variant } }

theorem numbers_form :
    Leads (fun session => session.IsSound ∧ session.IsNumbered held) (Session.form (α := α))
      (fun form => IsNumbered fun other => held other ∨ other = form) (IsNumbered held) := by
  refine Leads.get fun session here => ?_
  rcases active : session.active with _ | found
  · rintro _ rfl
    exact numbers_refresh _ here
  · apply Leads.pure
    rintro _ rfl
    rcases here.2 with ⟨shown, shows⟩
    refine ⟨shown, shows.of_uses shows.memory ?_⟩
    rintro other ((old | rfl) | activeOther)
    · exact Or.inl old
    · exact Or.inr active
    · exact Or.inr activeOther

theorem numbers_copy (here : held form) : Leads (IsNumbered held) (act form.copy)
    (fun copied => IsNumbered fun other => held other ∨ other = copied) (IsNumbered held) := by
  rintro session ⟨shown, shows⟩
  exact ((leads_copy here).weaken (fun _ _ made => ⟨_, made⟩) fun _ kept => ⟨_, kept⟩) session
    shows

theorem numbers_residualsAndJacobian (here : held form) (point : NumberArray α) :
    Leads (IsNumbered held) (residualsAndJacobian form point) (fun _ => IsNumbered held)
      (IsNumbered held) := by
  rintro session ⟨shown, shows⟩
  exact ((leads_residualsAndJacobian here point).weaken (fun _ _ noted => ⟨_, noted⟩)
    fun _ kept => ⟨_, kept⟩) session shows

end Numbers

end Session

namespace Request

open Session

variable [Scalar α] {held : List (ModelForm α)}

theorem numbers_chosen (place : Option Nat) :
    Leads (fun session => session.IsSound ∧ session.IsNumbered (· ∈ held)) (chosen held place)
      (fun form => IsNumbered fun other => other ∈ held ∨ other = form)
      (IsNumbered (· ∈ held)) := by
  unfold chosen
  split
  · rename_i found inPlace
    rcases Option.bind_eq_some_iff.mp inPlace with ⟨position, _, atPosition⟩
    apply Leads.pure
    rintro session ⟨_, numbered⟩
    apply numbered.mono
    rintro other (old | rfl)
    · exact old
    · exact List.mem_of_getElem? atPosition
  · exact numbers_form

/-- A request that makes no form and evaluates none with its Jacobian changes nothing that forms
show. -/
theorem keeps_shows [Numeral α] {forms : ModelForm α → Prop} {shown : System α → List α}
    {request : Request α} (ordinary : request.isCalm || !request.isQuiet) :
    Keeps (Session.Shows forms shown) (request.action held) fun kept => kept = [] := by
  have nothing : Keeps (Session.Shows forms shown) (request.action held)
      fun kept => ∀ form ∈ kept, False := by
    apply Session.keeps_shows
    intro earlier
    have growing := Session.isGrowing_isAfter earlier
    rcases calm : request.isCalm with _ | _
    · apply keeps_loud growing
      rw [calm, Bool.false_or, Bool.not_eq_true'] at ordinary
      exact ordinary
    · exact keeps_calm growing.toIsPersistent calm
  exact nothing.weaken fun kept => List.eq_nil_iff_forall_not_mem.mpr

section Numbers

theorem numbers_ordinary [Numeral α] {request : Request α}
    (ordinary : request.isCalm || !request.isQuiet) :
    Leads (fun session => session.IsSound ∧ session.IsNumbered (· ∈ held)) (request.action held)
      (fun kept => IsNumbered fun form => form ∈ held ∨ form ∈ kept)
      (IsNumbered (· ∈ held)) := by
  rintro session ⟨_, numbered⟩
  have kept : Keeps (IsNumbered (· ∈ held)) (request.action held) fun kept => kept = [] :=
    numbers_of_keeps fun _ => keeps_shows ordinary
  apply (kept.leads.weaken _ fun _ here => here) session numbered
  rintro _ after ⟨here, rfl⟩
  exact here.mono fun form member => by simpa using member

/-- The form that is evaluated is held, or it is the active one and could be held. -/
theorem numbers_evaluation {β : Type} (place : Option Nat)
    {evaluate : ModelForm α → SessionAction α β}
    (leads : ∀ form, Leads (IsNumbered fun other => other ∈ held ∨ other = form) (evaluate form)
      (fun _ => IsNumbered fun other => other ∈ held ∨ other = form)
      (IsNumbered fun other => other ∈ held ∨ other = form)) :
    Leads (fun session => session.IsSound ∧ session.IsNumbered (· ∈ held))
      (do let _ ← evaluate (← chosen held place); pure [])
      (fun kept => IsNumbered fun form => form ∈ held ∨ form ∈ kept)
      (IsNumbered (· ∈ held)) := by
  apply (numbers_chosen place).bind
  intro form
  have forget : ∀ session : Session α,
      (session.IsNumbered fun other => other ∈ held ∨ other = form) →
        session.IsNumbered (· ∈ held) := fun _ numbered => numbered.mono fun _ => Or.inl
  apply ((leads form).weaken (fun _ _ here => here) forget).bind
  intro _
  apply Leads.pure
  intro session numbered
  exact (forget session numbered).mono fun other member => by simpa using member

theorem numbers_making {make : SessionAction α (ModelForm α)} {before : Session α → Prop}
    {forms : ModelForm α → Prop} (implies : ∀ form ∈ held, forms form)
    (leads : Leads before make (fun form => IsNumbered fun other => forms other ∨ other = form)
      (IsNumbered forms)) :
    Leads before (do return [← make])
      (fun kept => IsNumbered fun form => form ∈ held ∨ form ∈ kept)
      (IsNumbered (· ∈ held)) := by
  apply (leads.weaken (fun _ _ here => here) fun _ numbered => numbered.mono implies).bind
  intro made
  apply Leads.pure
  intro session numbered
  apply numbered.mono
  exact fun other => Or.imp (implies other) List.mem_singleton.mp

theorem numbers_replacing {make : SessionAction α (ModelForm α)} {before : Session α → Prop}
    (leads : Leads before make (fun form => IsNumbered fun other => other ∈ held ∨ other = form)
      (IsNumbered (· ∈ held))) :
    Leads before (do let _ ← make; pure [])
      (fun kept => IsNumbered fun form => form ∈ held ∨ form ∈ kept)
      (IsNumbered (· ∈ held)) := by
  apply leads.bind
  intro made
  apply Leads.pure
  intro session numbered
  apply numbered.mono
  intro other member
  exact Or.inl (by simpa using member)

/-- Whatever a request does, different forms in use have Jacobians of their own. -/
theorem numbers_action [Numeral α] (request : Request α) :
    Leads (fun session => session.IsSound ∧ session.IsNumbered (· ∈ held)) (request.action held)
      (fun kept => IsNumbered fun form => form ∈ held ∨ form ∈ kept)
      (IsNumbered (· ∈ held)) := by
  cases request with
  | refresh => exact numbers_replacing numbers_refresh
  | install variant => exact numbers_replacing (numbers_install variant)
  | hold => exact numbers_making (fun _ => id) numbers_form
  | build variant => exact numbers_making (fun _ => id) (numbers_build variant)
  | copy place =>
      apply (numbers_chosen place).bind
      exact fun form => numbers_making (fun _ => Or.inl) (numbers_copy (Or.inr rfl))
  | residuals place point =>
      exact numbers_evaluation place fun form =>
        (numbers_of_keeps fun _ => keeps_residuals form point).leads.weaken
          (fun _ _ here => here.1) fun _ here => here
  | residualsInto place point buffer =>
      exact numbers_evaluation place fun form =>
        (numbers_of_keeps fun _ => keeps_residualsInto form point buffer).leads.weaken
          (fun _ _ here => here.1) fun _ here => here
  | residualsAndJacobian place point =>
      exact numbers_evaluation place fun form =>
        numbers_residualsAndJacobian (Or.inr rfl) point
  | _ => exact numbers_ordinary rfl

end Numbers

theorem isNumbered_perform [Numeral α] {bench : Bench α} (sound : bench.IsSound)
    (numbered : bench.session.IsNumbered (· ∈ bench.held)) (request : Request α) :
    (request.perform bench).session.IsNumbered (· ∈ (request.perform bench).held) := by
  rcases numbers_action request bench.session ⟨sound.session, numbered⟩ with ⟨returned, failing⟩
  rw [perform]
  rcases ran : outcome (request.action bench.held) bench.session with ⟨reason | kept, after⟩
  · exact failing reason after ran
  · exact (returned kept after ran).mono fun form => List.mem_append.mp

end Request

/-- In every state of a run, different forms in use have Jacobians of their own. -/
theorem Reachable.isNumbered [Scalar α] [Numeral α] {bench : Bench α}
    (reachable : Reachable bench) : bench.session.IsNumbered (· ∈ bench.held) := by
  induction reachable with
  | start name options =>
      refine ⟨fun system => [], ⟨fun _ _ => rfl, ?_, ?_⟩, ?_⟩
      · rintro _ ⟨form, member | ⟨⟨⟩⟩, _⟩
        cases member
      · rintro _ ⟨form, member | ⟨⟨⟩⟩, _⟩
        cases member
      · rintro form _ (member | ⟨⟨⟩⟩)
        cases member
  | step reachable request ih => exact request.isNumbered_perform reachable.isSound ih

end Intertemporal
