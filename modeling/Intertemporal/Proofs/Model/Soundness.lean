import Intertemporal.Proofs.Model.Stability
import Intertemporal.Proofs.System.Soundness

/-!
# Sound sessions

A session is sound if its model, its memory and its active form are. Every operation on a session
keeps it sound, also when it fails, for the reasons for which any invariant lasts.
-/

namespace Intertemporal

variable {α : Type}

theorem Model.isSound_blank (name : String) (options : Options α) :
    (Model.blank name options).IsSound := by
  refine ⟨List.nodup_nil, ?_, ?_⟩
  · intro equation member
    cases member
  · intro entry member
    cases member

namespace Session

/-- A session of which all parts are sound. -/
structure IsSound (session : Session α) : Prop where
  model : session.model.IsSound
  memory : session.memory.IsSound
  active : ∀ form ∈ session.active, form.IsSound

theorem isSound_start (name : String) (options : Options α) : (start name options).IsSound := by
  refine ⟨Model.isSound_blank name options, Memory.isSound_empty, ?_⟩
  rintro form ⟨⟩

variable [Scalar α]

/-- Soundness lasts, where evaluators are known that have an input for each reference. -/
theorem isLasting_isSound : IsLasting (fun evaluator : Evaluator α =>
    ∃ references, evaluator.IsSound references) IsSound Model.IsSound Memory.IsSound
    ModelForm.IsSound where
  parts session := by
    constructor
    · rintro ⟨model, memory, active⟩
      exact ⟨model, memory, active⟩
    · rintro ⟨model, memory, active⟩
      exact ⟨model, memory, active⟩
  declare _ _ _ sound distinct := ⟨distinct sound.symbols, sound.equations, sound.registry⟩
  choose _ _ sound := ⟨sound.symbols, sound.equations, sound.registry⟩
  calm model _ := (isStable_isSound model.calibration).toIsCalm
  stable model _ := isStable_isSound model.calibration
  equations _ sound equation member := ⟨_, (sound.equations equation member).evaluator⟩
  forms _ sound _ member := (sound.sound_of_mem member).exists_isSound
  built _ sound variant := ModelForm.keeps_ofModel sound variant
  copied _ sound := sound.keeps_copy

/-- What is compiled for an equation has an input for each of its references. -/
theorem isGrowing_isSound : IsGrowing (fun evaluator : Evaluator α =>
    ∃ references, evaluator.IsSound references) IsSound Model.IsSound Memory.IsSound
    ModelForm.IsSound Equation.IsSound fun key evaluator => evaluator.IsSound key.references where
  toIsPersistent := isLasting_isSound.toIsPersistent
  calibrate _ _ sound := ⟨sound.symbols, sound.equations, sound.registry⟩
  revise _ _ sound := sound
  extend _ _ sound := ⟨sound.symbols, sound.equations, sound.registry⟩
  clear _ sound := by
    refine ⟨sound.symbols, sound.equations, ?_⟩
    intro entry member
    cases member
  compile model sound name key := (sound.registry.keeps_compile name key).weaken fun _ made =>
    ⟨made.1, sound.symbols, sound.equations, made.2⟩
  states _ sound := sound.equations
  restate _ _ sound each := ⟨sound.symbols, each, sound.registry⟩
  isNew _ same made := ⟨same, made⟩
  renew _ _ sound made := ⟨sound.references_eq, made⟩

end Session

end Intertemporal
