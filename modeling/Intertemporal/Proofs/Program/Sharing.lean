import Intertemporal.Proofs.Exact
import Intertemporal.Proofs.Expression.Induction
import Intertemporal.Proofs.Program.Chunks
import Intertemporal.Proofs.Program.Soundness

/-!
# Sharing of evaluators

Equations share an evaluator if their keys agree, and keys agree if their expressions do, constants
being compared as numbers. An evaluator that comes out of a registry has therefore been compiled
from a key that agrees with the one that was asked for (`Grown.exists_isCompiled`), and two
evaluators that are compiled from one key cannot be told apart by what they return
(`IsCompiled.agrees`). The two facts meet where agreeing expressions are the same, which is so
unless a constant is equal to another one. The two zeros of doubles are such constants: they are
equal as numbers, but a quotient tells them apart.
-/

namespace Intertemporal

variable {α : Type}

namespace Expression

variable [BEq α]

/-- An expression whose constants are equal to no other scalar. -/
def HasExactConstants (expression : Expression α) : Prop :=
  ∀ value, .constant value ∈ expression.nodes → ∀ other : α, (other == value) = true →
    other = value

theorem HasExactConstants.of_nodes {expression part : Expression α}
    (exact : expression.HasExactConstants) (inside : part.nodes ⊆ expression.nodes) :
    part.HasExactConstants :=
  fun value member => exact value (inside member)

theorem eq_of_allSame {arguments others : List (Expression α)}
    (each : ∀ argument ∈ arguments, ∀ other : Expression α, other.same argument = true →
      other = argument)
    (agree : allSame others arguments = true) : others = arguments := by
  induction arguments generalizing others with
  | nil =>
      cases others with
      | nil => rfl
      | cons other rest => cases agree
  | cons argument rest ih =>
      cases others with
      | nil => cases agree
      | cons other later =>
          simp only [allSame, Bool.and_eq_true] at agree
          rw [each argument List.mem_cons_self other agree.1,
            ih (fun inner member => each inner (List.mem_cons_of_mem argument member)) agree.2]

/-- An expression agrees with no expression but itself, if its constants are equal to no other
scalar. -/
theorem eq_of_same {expression : Expression α} (exact : expression.HasExactConstants)
    (other : Expression α) (agree : other.same expression = true) : other = expression := by
  induction expression using Expression.induction generalizing other with
  | constant value =>
      cases other with
      | constant otherValue => rw [exact value (mem_nodes_self _) otherValue agree]
      | _ => cases agree
  | series reference =>
      cases other with
      | series otherReference => rw [eq_of_beq agree]
      | _ => cases agree
  | steadyState name =>
      cases other with
      | steadyState otherName => rw [eq_of_beq agree]
      | _ => cases agree
  | parameter name index =>
      cases other with
      | parameter otherName otherIndex =>
          simp only [same, Bool.and_eq_true, beq_iff_eq] at agree
          rw [agree.1, agree.2]
      | _ => cases agree
  | unary sign operand ih =>
      cases other with
      | unary otherSign otherOperand =>
          simp only [same, Bool.and_eq_true, beq_iff_eq] at agree
          have inner := exact.of_nodes (nodes_operand_subset sign operand)
          rw [agree.1, ih inner otherOperand agree.2]
      | _ => cases agree
  | binary operation left right ihLeft ihRight =>
      cases other with
      | binary otherOperation otherLeft otherRight =>
          simp only [same, Bool.and_eq_true, beq_iff_eq] at agree
          have innerLeft := exact.of_nodes (nodes_left_subset operation left right)
          have innerRight := exact.of_nodes (nodes_right_subset operation left right)
          rw [agree.1.1, ihLeft innerLeft otherLeft agree.1.2,
            ihRight innerRight otherRight agree.2]
      | _ => cases agree
  | call function arguments ih =>
      cases other with
      | call otherFunction others =>
          simp only [same, Bool.and_eq_true, beq_iff_eq] at agree
          have each : ∀ argument ∈ arguments, ∀ other : Expression α,
              other.same argument = true → other = argument :=
            fun argument member =>
              ih argument member (exact.of_nodes (nodes_argument_subset function member))
          rw [agree.1, eq_of_allSame each agree.2]
      | _ => cases agree

end Expression

theorem EvaluatorState.values_eq (state : EvaluatorState α) :
    state.values = (state.bound.map (·.values)).getD [] := by
  unfold values
  cases state.bound <;> rfl

variable [Scalar α]

/-- Evaluators that return the same residuals and gradients, and fail for the same inputs, whenever
the same values are bound to their parameters, whatever calls each of them has seen. -/
def Evaluator.Agrees (evaluator other : Evaluator α) : Prop :=
  ∀ memory later : Memory α,
    (evaluator.stateIn memory).bound.map (·.values) = (other.stateIn later).bound.map (·.values) →
    (evaluator.stateIn memory).gradient.Used evaluator.inputs evaluator.chunk.toNat →
    (other.stateIn later).gradient.Used other.inputs other.chunk.toNat →
    (∀ inputs, (outcome (evaluator.residual inputs) memory).1.toOption =
      (outcome (other.residual inputs) later).1.toOption) ∧
    ∀ array, (outcome (evaluator.residualAndGradient array) memory).1.toOption =
      (outcome (other.residualAndGradient array) later).1.toOption

namespace EvaluatorKey.IsCompiled

variable {key : EvaluatorKey α} {evaluator other : Evaluator α}

/-- The evaluators of one key agree, though their numbers, names and chunks may differ. -/
theorem agrees (compiled : key.IsCompiled evaluator) (compiledOther : key.IsCompiled other) :
    evaluator.Agrees other := by
  intro memory later sameBound used usedOther
  have sameProgram : evaluator.program = other.program :=
    Except.ok.inj (compiled.program_eq.symm.trans compiledOther.program_eq)
  have sameInputs : other.inputs = evaluator.inputs :=
    compiledOther.inputs_eq.trans compiled.inputs_eq.symm
  have sameParameters : evaluator.parameters = other.parameters :=
    compiled.parameters_eq.trans compiledOther.parameters_eq.symm
  have sameValues : (evaluator.stateIn memory).values = (other.stateIn later).values := by
    rw [EvaluatorState.values_eq, EvaluatorState.values_eq, sameBound]
  have sameUnbound : evaluator.IsUnbound (evaluator.stateIn memory) =
      other.IsUnbound (other.stateIn later) := by
    have isNone := congrArg Option.isNone sameBound
    simp only [Option.isNone_map] at isNone
    rw [Evaluator.IsUnbound, Evaluator.IsUnbound, sameParameters, isNone]
  constructor
  · intro inputs
    rw [Evaluator.outcome_residual, Evaluator.outcome_residual, sameUnbound, sameProgram,
      sameValues]
    split
    · rfl
    · rfl
  · intro array
    rw [Evaluator.outcome_residualAndGradient, Evaluator.outcome_residualAndGradient, sameUnbound]
    split
    · rfl
    · simp only [toOption_mapError, sameProgram, sameValues]
      rw [Gradient.call_fst_eq_of_fits used.fits (sameInputs ▸ usedOther.fits)
        compiled.isSound.chunk_positive (sameInputs ▸ compiledOther.isSound.chunk_positive)]

end EvaluatorKey.IsCompiled

namespace Registry

/-- The registries that calls of `compile` lead to, each of them made in some memory. A call that
fails leaves the registry as it is. -/
inductive Grown (limit : Int) (fingerprint : EvaluatorKey α → Nat) : Registry α → Prop
  | empty : Grown limit fingerprint { chunkLimit := limit, fingerprint }
  | compile {registry later : Registry α} (grown : Grown limit fingerprint registry)
      {name : String} {key : EvaluatorKey α} {before after : Memory α} {evaluator : Evaluator α}
      (returned : outcome (registry.compile name key) before = (.ok (evaluator, later), after)) :
      Grown limit fingerprint later

variable {limit : Int} {fingerprint : EvaluatorKey α → Nat} {registry later : Registry α}
  {name : String} {key : EvaluatorKey α} {before after : Memory α} {evaluator : Evaluator α}

/-- One call adds at most the evaluator of the key that it was asked for. -/
theorem IsSound.of_compile (sound : registry.IsSound)
    (returned : outcome (registry.compile name key) before = (.ok (evaluator, later), after)) :
    later.IsSound := by
  rcases Registry.of_compile returned with ⟨_, rfl, _⟩ | ⟨-, made, rfl⟩
  · exact sound
  · intro entry member
    rcases List.mem_append.mp member with old | new
    · exact sound entry old
    · obtain rfl := List.mem_singleton.mp new
      exact (of_build made).1

/-- Whatever is compiled in whatever order, every evaluator stays under the key that it was compiled
from. -/
theorem Grown.isSound (grown : Grown limit fingerprint registry) : registry.IsSound := by
  induction grown with
  | empty => exact fun _ member => absurd member List.not_mem_nil
  | compile _ returned ih => exact ih.of_compile returned

/-- An evaluator that a registry returns was compiled from a key that agrees with the one asked for,
whatever the fingerprints are. -/
theorem Grown.exists_isCompiled (grown : Grown limit fingerprint registry)
    (returned : outcome (registry.compile name key) before = (.ok (evaluator, later), after)) :
    ∃ expression : Expression α, (expression = key.expression ∨
        (expression == key.expression) = true) ∧
      EvaluatorKey.IsCompiled ⟨expression, key.references⟩ evaluator := by
  rcases Registry.of_compile returned with ⟨found, _, _⟩ | ⟨-, made, _⟩
  · obtain ⟨⟨_, ⟨expression, _⟩, _⟩, member, rfl, agrees, rfl⟩ := exists_entry_of_find? found
    exact ⟨expression, .inr agrees, grown.isSound _ member⟩
  · exact ⟨key.expression, .inl rfl, (of_build made).1⟩

/-- After any calls, an evaluator that a registry returns for a key with exact constants agrees with
one that is compiled afresh from that key. -/
theorem Grown.agrees_of_compile (grown : Grown limit fingerprint registry)
    (exact : key.expression.HasExactConstants)
    (returned : outcome (registry.compile name key) before = (.ok (evaluator, later), after))
    {fresh : Registry α} {freshName : String} {empty built : Memory α} {other : Evaluator α}
    (made : outcome (fresh.build freshName key) empty = (.ok other, built)) :
    evaluator.Agrees other := by
  obtain ⟨expression, same, compiled⟩ := grown.exists_isCompiled returned
  have unchanged : expression = key.expression := by
    rcases same with rfl | agrees
    · rfl
    · exact Expression.eq_of_same exact expression agrees
  subst unchanged
  exact compiled.agrees (of_build made).1

/-- A series less one. -/
def surplus : EvaluatorKey ℝ where
  expression := .binary .sub (.series ⟨"x", 0⟩) (.constant 1)
  references := { series := [⟨"x", 0⟩] }

/-- What a series less one is compiled to. -/
def surplusEvaluator : Evaluator ℝ :=
  ⟨0, "surplus", .arithmetic .sub (.input 0) (.constant 1), 1, [], 1⟩

/-- A registry that has compiled a series less one, under a fingerprint that tells nothing apart. -/
def surplusOnce : Registry ℝ where
  chunkLimit := 1
  fingerprint _ := 0
  entries := [⟨0, surplus, surplusEvaluator⟩]

theorem outcome_compile_surplus :
    outcome (compile { chunkLimit := 1, fingerprint := fun _ => 0 } "surplus" surplus) {} =
      (.ok (surplusEvaluator, surplusOnce), { nextId := 1 }) := rfl

theorem outcome_compile_surplus_again :
    outcome (surplusOnce.compile "again" surplus) { nextId := 1 } =
      (.ok (surplusEvaluator, { surplusOnce with hits := 1 }),
        { nextId := 1, log := [.reused "surplus" "again"] }) := by
  have same : surplus.same surplus = true := by
    simp [EvaluatorKey.same, surplus, BEq.beq, Expression.same]
  have found : surplusOnce.find? surplus = some surplusEvaluator := by
    simp [find?, surplusOnce, same]
  rw [compile, found]
  rfl

/-- A key that is compiled twice comes out of the registry the second time, under a fingerprint that
tells nothing apart, and agrees with an evaluator that is compiled afresh. -/
theorem agrees_surplus_again :
    let evaluator : Evaluator ℝ :=
      ⟨0, "surplus", .arithmetic .sub (.input 0) (.constant 1), 1, [], 1⟩
    ∃ first second between after apart built,
      outcome (compile { chunkLimit := 1, fingerprint := fun _ => 0 } "surplus" surplus) {} =
        (.ok (evaluator, first), between) ∧
      outcome (first.compile "again" surplus) between = (.ok (evaluator, second), after) ∧
      second.hits = 1 ∧
      outcome (build { chunkLimit := 4 } "apart" surplus) {} = (.ok apart, built) ∧
      evaluator.Agrees apart := by
  intro evaluator
  have exact : surplus.expression.HasExactConstants := by
    intro value _ other equal
    simpa using equal
  have apart : outcome (build { chunkLimit := 4 } "apart" surplus) {} =
      (.ok { evaluator with name := "apart" }, { nextId := 1 }) := rfl
  have grown : Grown 1 (fun _ => 0) surplusOnce := Grown.empty.compile outcome_compile_surplus
  exact ⟨surplusOnce, _, _, _, _, _, outcome_compile_surplus, outcome_compile_surplus_again, rfl,
    apart, grown.agrees_of_compile exact outcome_compile_surplus_again apart⟩

end Registry

end Intertemporal
