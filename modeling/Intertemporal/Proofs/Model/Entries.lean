import Intertemporal.Proofs.Exact
import Intertemporal.Proofs.Model.Steps
import Intertemporal.Proofs.Program.Bookkeeping

/-!
# Entries of the registry

The registry of a model holds the evaluators of its equations: one entry for each key, and one hit
for every equation whose key was there already. It is replaced when all equations are compiled anew,
and it stays when options change that have nothing to do with it, so its limit is always the one in
the options. In every state of a run two equations therefore share an evaluator exactly if their
keys agree (`Reachable.sharesByKey`).

Keys are compared as numbers are, so a constant that is no number keeps an equation from sharing the
evaluator of another one, or of itself.
-/

namespace Intertemporal

variable {α : Type} [Scalar α]

/-- A registry that files equations: its entries are those of equations, under different keys and
numbers, and every equation has its evaluator from the entry that its key agrees with. -/
structure Registry.Files (registry : Registry α) (limit : Int) (equations : List (Equation α))
    (number : Nat) : Prop where
  stated : ∀ entry ∈ registry.entries, ∃ equation ∈ equations,
    equation.evaluator = entry.evaluator ∧ equation.key = entry.key
  listed : ∀ equation ∈ equations, ∃ entry ∈ registry.entries,
    entry.evaluator = equation.evaluator ∧ entry.key.same equation.key = true
  fingerprint_eq : ∀ entry ∈ registry.entries, entry.fingerprint = entry.key.size
  chunk_eq : ∀ entry ∈ registry.entries,
    entry.evaluator.chunk = chunkFor entry.key.references.inputCount limit
  below : ∀ entry ∈ registry.entries, entry.evaluator.id < number
  numbered : (registry.entries.map (·.evaluator.id)).Nodup
  apart : registry.entries.Pairwise RegistryEntry.Apart
  size_add_hits : registry.entries.length + registry.hits = equations.length

namespace Registry

variable {registry later : Registry α} {equations : List (Equation α)} {equation : Equation α}
  {limit : Int} {number next : Nat}

theorem files_nothing (limit : Int) (number : Nat) :
    Files ({ chunkLimit := limit } : Registry α) limit [] number where
  stated := by rintro entry ⟨⟩
  listed := by rintro equation ⟨⟩
  fingerprint_eq := by rintro entry ⟨⟩
  chunk_eq := by rintro entry ⟨⟩
  below := by rintro entry ⟨⟩
  numbered := List.nodup_nil
  apart := .nil
  size_add_hits := rfl

/-- No entry agrees with a key that is not found. The fingerprints do not keep them apart. -/
theorem Files.not_same_of_find?_eq_none {key : EvaluatorKey α}
    (files : registry.Files limit equations number)
    (printed : registry.fingerprint = EvaluatorKey.size) (missing : registry.find? key = none)
    {entry : RegistryEntry α} (member : entry ∈ registry.entries) :
    entry.key.same key = false := by
  rw [find?, Option.map_eq_none_iff, List.find?_eq_none] at missing
  have differs := missing entry member
  rw [printed, files.fingerprint_eq entry member] at differs
  by_contra agree
  rw [Bool.not_eq_false] at agree
  rw [EvaluatorKey.size_eq_of_same agree, agree, beq_self_eq_true] at differs
  exact differs rfl

namespace Files

variable (files : registry.Files limit equations number)

include files

theorem eq_of_id_eq {entry other : RegistryEntry α} (member : entry ∈ registry.entries)
    (memberOther : other ∈ registry.entries) (same : entry.evaluator.id = other.evaluator.id) :
    entry = other :=
  List.inj_on_of_nodup_map files.numbered member memberOther same

theorem eq_of_same {entry other : RegistryEntry α} {key : EvaluatorKey α}
    (member : entry ∈ registry.entries) (memberOther : other ∈ registry.entries)
    (agree : entry.key.same key = true) (agreeOther : other.key.same key = true) :
    entry = other := by
  by_contra differs
  exact files.apart.forall member memberOther differs key agree agreeOther

/-- The key of an equation agrees with exactly one entry. -/
theorem countP_eq_one {equation : Equation α} (member : equation ∈ equations) :
    registry.entries.countP (fun entry => entry.key.same equation.key) = 1 := by
  obtain ⟨entry, among, _, agree⟩ := files.listed equation member
  have apart := files.apart.filter fun entry => entry.key.same equation.key
  have listed : entry ∈ registry.entries.filter fun entry => entry.key.same equation.key :=
    List.mem_filter.mpr ⟨among, agree⟩
  have agrees : ∀ other ∈ registry.entries.filter fun entry => entry.key.same equation.key,
      other.key.same equation.key = true := fun other found => (List.mem_filter.mp found).2
  rw [List.countP_eq_length_filter]
  rcases found : registry.entries.filter fun entry => entry.key.same equation.key with
    _ | ⟨first, _ | ⟨second, rest⟩⟩
  · rw [found] at listed
    cases listed
  · rw [found]
    rfl
  · rw [found] at apart agrees
    have differs := List.rel_of_pairwise_cons apart List.mem_cons_self
    exact (differs equation.key (agrees first List.mem_cons_self)
      (agrees second (List.mem_cons_of_mem _ List.mem_cons_self))).elim

end Files

section Growth

variable [PartialEquivBEq α]

/-- What a registry files stays so when it takes up another equation. -/
theorem Files.of_takes (files : registry.Files limit equations number)
    (numeric : ∀ stated ∈ equations ++ [equation], stated.expression.IsNumeric)
    (limited : registry.chunkLimit = limit) (printed : registry.fingerprint = EvaluatorKey.size)
    (taken : registry.Takes equation number next later) :
    later.Files limit (equations ++ [equation]) next := by
  have joined : equation ∈ equations ++ [equation] :=
    List.mem_append_right _ (List.mem_singleton_self equation)
  have stated : ∀ entry ∈ registry.entries, ∃ founder ∈ equations ++ [equation],
      founder.evaluator = entry.evaluator ∧ founder.key = entry.key := by
    intro entry member
    obtain ⟨founder, among, same⟩ := files.stated entry member
    exact ⟨founder, List.mem_append_left _ among, same⟩
  cases taken with
  | shared found grown =>
      refine ⟨stated, ?_, files.fingerprint_eq, files.chunk_eq, ?_, files.numbered, files.apart,
        ?_⟩
      · exact List.forall_mem_append.mpr
          ⟨files.listed, List.forall_mem_singleton.mpr (exists_same_of_find? found)⟩
      · exact fun entry member => (files.below entry member).trans_le grown
      · have counted := files.size_add_hits
        rw [List.length_append, List.length_singleton]
        dsimp only
        omega
  | built missing built fresh before =>
      have own : equation.key.same equation.key = true :=
        EvaluatorKey.same_self (numeric equation joined)
      refine ⟨?_, ?_, ?_, ?_, ?_, ?_, ?_, ?_⟩
      · exact List.forall_mem_append.mpr
          ⟨stated, List.forall_mem_singleton.mpr ⟨equation, joined, rfl, rfl⟩⟩
      · refine List.forall_mem_append.mpr ⟨?_, List.forall_mem_singleton.mpr ?_⟩
        · intro other member
          obtain ⟨entry, among, same⟩ := files.listed other member
          exact ⟨entry, List.mem_append_left _ among, same⟩
        · exact ⟨_, List.mem_append_right _ (List.mem_singleton_self _), rfl, own⟩
      · exact List.forall_mem_append.mpr
          ⟨files.fingerprint_eq, List.forall_mem_singleton.mpr (congrFun printed equation.key)⟩
      · exact List.forall_mem_append.mpr
          ⟨files.chunk_eq, List.forall_mem_singleton.mpr (limited ▸ built.chunk_eq)⟩
      · refine List.forall_mem_append.mpr ⟨?_, List.forall_mem_singleton.mpr before⟩
        exact fun entry member => (files.below entry member).trans (by omega)
      · rw [List.map_append, List.map_singleton, ← List.concat_eq_append, List.nodup_concat]
        refine ⟨fun member => ?_, files.numbered⟩
        obtain ⟨entry, among, same⟩ := List.mem_map.mp member
        dsimp only at same
        have less := files.below entry among
        omega
      · refine List.pairwise_append.mpr ⟨files.apart, List.pairwise_singleton _ _, ?_⟩
        intro entry member last isLast key agree agreeLast
        rw [List.mem_singleton.mp isLast] at agreeLast
        have back := EvaluatorKey.same_symm agreeLast
        have differs := files.not_same_of_find?_eq_none printed missing member
        rw [EvaluatorKey.same_trans agree back] at differs
        cases differs
      · have counted := files.size_add_hits
        simp only [List.length_append, List.length_singleton]
        omega

/-- A registry files the equations that it has taken up. -/
theorem Compiles.files (compiles : Compiles limit registry equations number)
    (numeric : ∀ equation ∈ equations, equation.expression.IsNumeric) :
    registry.Files limit equations number := by
  induction compiles with
  | nothing number => exact files_nothing limit number
  | further compiles taken ih =>
      have before := ih fun equation member => numeric equation (List.mem_append_left _ member)
      exact before.of_takes numeric compiles.chunkLimit_eq compiles.fingerprint_eq taken

end Growth

namespace Files

variable [PartialEquivBEq α] (files : registry.Files limit equations number)

include files

/-- Equations have the evaluator of the same number exactly if their keys agree, and it is the same
evaluator then. -/
theorem same_iff {first second : Equation α} (member : first ∈ equations)
    (memberToo : second ∈ equations) :
    (first.evaluator.id = second.evaluator.id ↔ first.key.same second.key = true) ∧
      (first.evaluator = second.evaluator ↔ first.key.same second.key = true) := by
  obtain ⟨entry, among, evaluator, agree⟩ := files.listed first member
  obtain ⟨entryToo, amongToo, evaluatorToo, agreeToo⟩ := files.listed second memberToo
  have forth : first.evaluator.id = second.evaluator.id → first.key.same second.key = true := by
    intro same
    rw [← evaluator, ← evaluatorToo] at same
    obtain rfl := files.eq_of_id_eq among amongToo same
    have back := EvaluatorKey.same_symm agree
    exact EvaluatorKey.same_trans back agreeToo
  have back : first.key.same second.key = true → first.evaluator = second.evaluator := by
    intro same
    have onward := EvaluatorKey.same_trans agree same
    rw [← evaluator, ← evaluatorToo, files.eq_of_same among amongToo onward agreeToo]
  exact ⟨⟨forth, fun same => congrArg (·.id) (back same)⟩,
    ⟨fun same => forth (congrArg (·.id) same), back⟩⟩

end Files

end Registry

/-- A model in which equations have the same evaluator exactly if their keys agree. The registry has
one entry for every key among the equations and a hit for every further equation, and as many inputs
are differentiated at once as the options admit. -/
structure Model.SharesByKey (model : Model α) : Prop where
  same_iff : ∀ first ∈ model.equations, ∀ second ∈ model.equations,
    (first.evaluator.id = second.evaluator.id ↔ first.key.same second.key = true) ∧
      (first.evaluator = second.evaluator ↔ first.key.same second.key = true)
  countP_eq_one : ∀ equation ∈ model.equations,
    model.registry.entries.countP (fun entry => entry.key.same equation.key) = 1
  stated : ∀ entry ∈ model.registry.entries, ∃ equation ∈ model.equations,
    equation.evaluator = entry.evaluator ∧ equation.key = entry.key
  size_add_hits : model.registry.size + model.registry.hits = model.equations.length
  chunk_eq : ∀ equation ∈ model.equations,
    equation.evaluator.chunk = min (equation.references.inputCount : Int) model.options.chunkLimit

namespace Session

variable {whole : Prop} {origin session after : Session α}

/-- A session whose registry has taken up its equations, in order and with the limit that the
options give. -/
def IsFiled (session : Session α) : Prop :=
  Registry.Compiles session.model.options.chunkLimit session.model.registry
    session.model.equations session.memory.nextId

theorem IsFiled.of_step (filed : session.IsFiled) (step : session.Step whole after) :
    after.IsFiled := by
  unfold IsFiled at filed ⊢
  cases step with
  | change changed grown =>
      have later := filed.mono grown
      generalize after.model = changedModel at changed
      cases changed with
      | choose limited => exact limited.symm ▸ later
      | _ => exact later
  | state _ _ _ _ taken stated =>
      rw [stated]
      exact filed.further taken
  | recompile _ compiles _ restated =>
      rw [restated]
      exact compiles

theorem IsFiled.of_steps (filed : origin.IsFiled)
    (steps : Relation.ReflTransGen (Step whole) origin session) : session.IsFiled := by
  induction steps with
  | refl => exact filed
  | tail _ step ih => exact ih.of_step step

end Session

namespace Reachable

variable [Numeral α] {bench : Bench α}

theorem isFiled (reachable : Reachable bench) : bench.session.IsFiled := by
  obtain ⟨name, options, steps⟩ := reachable.steps
  have filed : (Session.start name options).IsFiled := .nothing 0
  exact filed.of_steps steps

/-- Whatever a run does, failed requests and changes of options included: if all constants of the
equations are numbers, equations share an evaluator exactly if their keys agree. -/
theorem sharesByKey [PartialEquivBEq α] (reachable : Reachable bench)
    (numeric : ∀ equation ∈ bench.session.model.equations, equation.expression.IsNumeric) :
    bench.session.model.SharesByKey := by
  have files := Registry.Compiles.files reachable.isFiled numeric
  refine ⟨fun first member second memberToo => files.same_iff member memberToo,
    fun equation member => files.countP_eq_one member, files.stated, files.size_add_hits, ?_⟩
  intro equation member
  obtain ⟨entry, among, evaluator, agree⟩ := files.listed equation member
  have references : entry.key.references = equation.references := (EvaluatorKey.same_iff.mp agree).2
  rw [← evaluator, files.chunk_eq entry among, references]
  rfl

/-- A model that states the same twice, and something else in vain. -/
noncomputable def twofold : Bench ℝ :=
  Bench.run { session := .start "twofold" { tolerance := 0, variant := .plain, chunkLimit := 4 } }
    [.addVariable { name := "x" },
      .addExpression (.binary .sub (.series ⟨"x", 1⟩) (.series ⟨"x", -1⟩)) "first" false,
      .addExpression (.binary .sub (.series ⟨"x", 1⟩) (.series ⟨"x", -1⟩)) "second" false,
      .addExpression (.series ⟨"x", 0⟩) "second" false]

/-- The request that only one input be differentiated at once. -/
def singly : Request ℝ := .update {} (.ofList [("max_chunk_size", .integer 1)])

theorem override_singly :
    Options.override ({ tolerance := 0, variant := .plain, chunkLimit := 4 } : Options ℝ)
      (.ofList [("max_chunk_size", .integer 1)]) =
        .ok { tolerance := 0, variant := .plain, chunkLimit := 1 } := by
  have admitted : Scalar.le (Scalar.zero : ℝ) 0 = true := by simp
  change (if (!Scalar.le (Scalar.zero : ℝ) 0) = true then _ else _) = _
  rw [admitted]
  rfl

/-- Compiled anew, both equations still share their evaluator. -/
theorem sharesByKey_twofold :
    Reachable (singly.perform twofold) ∧
      (singly.perform twofold).session.model.equations.map (·.evaluator.chunk) = [1, 1] ∧
      (singly.perform twofold).session.model.registry.size = 1 ∧
      (singly.perform twofold).session.model.registry.hits = 1 ∧
      (singly.perform twofold).session.model.SharesByKey := by
  have law : PartialEquivBEq ℝ :=
    { symm := by simp [eq_comm]
      trans := by simp }
  have reachable : Reachable (singly.perform twofold) := ((Reachable.start _ _).run _).step singly
  have shares := reachable.sharesByKey fun _ _ value _ => by simp [Scalar.isNumber]
  have accepted : twofold.session.model.options.override
      ((({} : Settings ℝ)).insertAll (Table.ofList [("max_chunk_size", .integer 1)]).entries) =
        .ok { tolerance := 0, variant := .plain, chunkLimit := 1 } := override_singly
  refine ⟨reachable, ?_, ?_, ?_, shares⟩
  all_goals
    rw [Request.session_perform]
    simp only [singly, Request.action, Session.update, outcome_bind, Session.outcome_theModel,
      Session.outcome_ofExcept, accepted]
    rfl

end Reachable

end Intertemporal
