import Intertemporal.Proofs.Model.Founders
import Intertemporal.Proofs.Program.Slots

/-!
# How registries come about

A registry starts empty and takes up equations one after another. An equation whose key is found
gets the evaluator that is there; any other equation gets an evaluator and an entry of its own,
under a number that no evaluator had before. What a registry holds is determined by these equations,
up to the numbers.
-/

namespace Intertemporal

variable {α : Type}

/-- An evaluator as it is built under a name for a key, where a given number of inputs may be
differentiated at once. If there are inputs, there is room for one of them. -/
structure Evaluator.IsBuiltFor (evaluator : Evaluator α) (limit : Int) (name : String)
    (key : EvaluatorKey α) : Prop where
  name_eq : evaluator.name = name
  program_eq : key.expression.compile key.references = .ok evaluator.program
  inputs_eq : evaluator.inputs = key.references.inputCount
  parameters_eq : evaluator.parameters = key.references.parameters
  chunk_eq : evaluator.chunk = chunkFor key.references.inputCount limit
  room : 0 < key.references.inputCount → 1 ≤ limit

namespace Registry

variable [Scalar α]

/-- A registry takes up an equation. Numbers below the first are handed out before, and those below
the second afterwards. -/
inductive Takes (registry : Registry α) (equation : Equation α) (number next : Nat) :
    Registry α → Prop
  | shared (found : registry.find? equation.key = some equation.evaluator)
      (grown : number ≤ next) :
      Takes registry equation number next { registry with hits := registry.hits + 1 }
  | built (missing : registry.find? equation.key = none)
      (built : equation.evaluator.IsBuiltFor registry.chunkLimit equation.name equation.key)
      (fresh : number ≤ equation.evaluator.id) (numbered : equation.evaluator.id < next) :
      Takes registry equation number next
        { registry with
          entries := registry.entries ++
            [⟨registry.fingerprint equation.key, equation.key, equation.evaluator⟩] }

/-- A registry with a given limit that has taken up equations in order, and nothing else. Numbers
below the given one are handed out. -/
inductive Compiles (limit : Int) : Registry α → List (Equation α) → Nat → Prop
  | nothing (number : Nat) : Compiles limit { chunkLimit := limit } [] number
  | further {registry later : Registry α} {equations : List (Equation α)} {equation : Equation α}
      {number next : Nat} (compiles : Compiles limit registry equations number)
      (taken : registry.Takes equation number next later) :
      Compiles limit later (equations ++ [equation]) next

section Takes

variable {registry later : Registry α} {equation : Equation α} {number next : Nat}

theorem Takes.le (taken : registry.Takes equation number next later) : number ≤ next := by
  cases taken with
  | shared _ grown => exact grown
  | built _ _ fresh numbered => omega

theorem Takes.mono {more : Nat} (taken : registry.Takes equation number next later)
    (grown : next ≤ more) : registry.Takes equation number more later := by
  cases taken with
  | shared found before => exact .shared found (Nat.le_trans before grown)
  | built missing built fresh numbered => exact .built missing built fresh (by omega)

theorem isBuiltFor_of_build {name : String} {key : EvaluatorKey α} {evaluator : Evaluator α}
    {before after : Memory α}
    (made : outcome (registry.build name key) before = (.ok evaluator, after)) :
    evaluator.IsBuiltFor registry.chunkLimit name key ∧ evaluator.id = before.nextId ∧
      after.nextId = before.nextId + 1 := by
  simp only [build, outcome_bind_eq_ok, outcome_ofExcept_eq_ok] at made
  obtain ⟨program, _, ⟨compiles, rfl⟩, _, _, ⟨created, rfl⟩, id, _, counted, gave⟩ := made
  have room : 0 < key.references.inputCount → 1 ≤ registry.chunkLimit := fun nonempty =>
    Int.le_trans (Gradient.bounds_of_create created (Int.natCast_pos.mpr nonempty)).1
      (Int.min_le_right _ _)
  cases counted
  cases gave
  exact ⟨⟨rfl, compiles, rfl, rfl, rfl, room⟩, rfl, rfl⟩

/-- What is compiled for an equation is taken up. -/
theorem takes_of_compile {before after : Memory α}
    (returned : outcome (registry.compile equation.name equation.key) before =
      (.ok (equation.evaluator, later), after)) :
    registry.Takes equation before.nextId after.nextId later := by
  unfold compile at returned
  split at returned
  · rename_i known found
    obtain ⟨_, _, recorded, gave⟩ := outcome_bind_eq_ok.mp returned
    cases recorded
    cases gave
    exact .shared found (Nat.le_refl _)
  · rename_i missing
    obtain ⟨evaluator, _, made, gave⟩ := outcome_bind_eq_ok.mp returned
    obtain ⟨built, numberEq, nextEq⟩ := isBuiltFor_of_build made
    cases gave
    exact .built missing built (Nat.le_of_eq numberEq.symm) (by omega)

end Takes

section Compiling

variable {registry : Registry α} {key : EvaluatorKey α}

/-- With room for an input if there is one, everything can be compiled over references that cover
it. -/
theorem exists_compile (roomy : 0 < key.references.inputCount → 1 ≤ registry.chunkLimit)
    (covers : key.references.Covers key.expression) (name : String) (memory : Memory α) :
    ∃ evaluator later after,
      outcome (registry.compile name key) memory = (.ok (evaluator, later), after) := by
  unfold compile
  split
  · exact ⟨_, _, _, rfl⟩
  · obtain ⟨program, compiled⟩ := Expression.exists_compile covers
    have room : ∃ gradient : Gradient α, Gradient.create key.references.inputCount
        (chunkFor key.references.inputCount registry.chunkLimit) = .ok gradient := by
      unfold Gradient.create chunkFor
      rw [if_neg (by omega), if_neg (by have := roomy; omega)]
      exact ⟨_, rfl⟩
    obtain ⟨gradient, created⟩ := room
    simp only [build, outcome_bind, outcome_ofExcept, compiled, created, Except.mapError]
    exact ⟨_, _, _, rfl⟩

/-- Compiling hands out numbers, whether it succeeds or fails. -/
theorem keeps_compile_nextId (registry : Registry α) (name : String) (key : EvaluatorKey α)
    (number : Nat) :
    Keeps (fun memory => number ≤ memory.nextId) (registry.compile name key) fun _ => True := by
  have built : Keeps (fun memory : Memory α => number ≤ memory.nextId) (registry.build name key)
      fun _ => True := by
    have counted : Keeps (fun memory : Memory α => number ≤ memory.nextId)
        (Action.freshId (α := α)) fun _ => True := by
      intro memory grown
      exact ⟨Nat.le_succ_of_le grown, fun _ _ => trivial⟩
    refine keeps_ofExcept.bind fun _ _ => ?_
    refine keeps_ofExcept.bind fun _ _ => ?_
    exact counted.bind fun _ _ => .pure trivial
  unfold compile
  split
  · exact (Keeps.modify fun _ grown => grown).bind fun _ _ => .pure trivial
  · exact built.bind fun _ _ => .pure trivial

end Compiling

namespace Compiles

variable {registry later : Registry α} {equations : List (Equation α)} {equation : Equation α}
  {limit : Int} {number next : Nat}

theorem mono (compiles : Compiles limit registry equations number) (grown : number ≤ next) :
    Compiles limit registry equations next := by
  cases compiles with
  | nothing => exact .nothing next
  | further compiles taken => exact .further compiles (taken.mono grown)

theorem chunkLimit_eq (compiles : Compiles limit registry equations number) :
    registry.chunkLimit = limit := by
  induction compiles with
  | nothing => rfl
  | further _ taken ih => cases taken <;> exact ih

theorem fingerprint_eq (compiles : Compiles limit registry equations number) :
    registry.fingerprint = EvaluatorKey.size := by
  induction compiles with
  | nothing => rfl
  | further _ taken ih => cases taken <;> exact ih

/-- What an evaluator that is built has of its references, every equation that has been taken up has
as well, whether or not it shares its evaluator. -/
theorem forall_of_built (property : Evaluator α → References → Prop)
    (ofBuilt : ∀ equation : Equation α,
      equation.evaluator.IsBuiltFor limit equation.name equation.key →
        property equation.evaluator equation.references)
    (compiles : Compiles limit registry equations number) :
    ∀ equation ∈ equations, property equation.evaluator equation.references := by
  -- an equation that is found shares the references of an entry, so entries are followed as well
  suffices both : (∀ entry ∈ registry.entries, property entry.evaluator entry.key.references) ∧
      ∀ equation ∈ equations, property equation.evaluator equation.references from both.2
  induction compiles with
  | nothing => exact ⟨fun _ none => absurd none List.not_mem_nil, fun _ none =>
      absurd none List.not_mem_nil⟩
  | @further _ _ _ equation _ _ compiles taken ih =>
      obtain ⟨entries, stated⟩ := ih
      cases taken with
      | shared found _ =>
          obtain ⟨entry, among, same, _, references⟩ := exists_entry_of_find? found
          have here := entries entry among
          rw [same, references] at here
          exact ⟨entries,
            List.forall_mem_append.mpr ⟨stated, List.forall_mem_singleton.mpr here⟩⟩
      | built _ built _ _ =>
          have here := ofBuilt equation (compiles.chunkLimit_eq ▸ built)
          exact ⟨List.forall_mem_append.mpr ⟨entries, List.forall_mem_singleton.mpr here⟩,
            List.forall_mem_append.mpr ⟨stated, List.forall_mem_singleton.mpr here⟩⟩

/-- Where an equation with inputs has been taken up, there is room for one of them. -/
theorem room (compiles : Compiles limit registry equations number) :
    ∀ equation ∈ equations, 0 < equation.references.inputCount → 1 ≤ limit :=
  compiles.forall_of_built (fun _ references => 0 < references.inputCount → 1 ≤ limit)
    fun _ built => built.room

/-- The evaluators of equations that have been taken up have the parameters that these name. -/
theorem parameters_eq (compiles : Compiles limit registry equations number) :
    ∀ equation ∈ equations, equation.evaluator.parameters = equation.references.parameters :=
  compiles.forall_of_built
    (fun evaluator references => evaluator.parameters = references.parameters)
    fun _ built => built.parameters_eq

end Compiles

end Registry

end Intertemporal
