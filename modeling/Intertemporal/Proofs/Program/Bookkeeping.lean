import Intertemporal.Proofs.Expression.Comparison
import Intertemporal.Proofs.Program.Sharing

/-!
# Bookkeeping of the registry

The entries of a registry are the keys that were compiled, each once, with the evaluator that came
back the first time. What a registry knows can therefore be told from the calls that were made: it
contains the keys that agree with one that was compiled, and its entries and its hits together are
the calls that returned something. A call that fails leaves no trace.

All this depends on the comparison of keys alone. A fingerprint may tell any keys apart that do not
agree, or none.
-/

namespace Intertemporal

variable {α : Type} [Scalar α]

namespace EvaluatorKey

variable {key other third : EvaluatorKey α}

theorem same_iff :
    key.same other = true ↔
      key.expression.same other.expression = true ∧ key.references = other.references := by
  rw [same, Bool.and_eq_true, beq_iff_eq (a := key.references)]
  rfl

theorem same_self (numeric : key.expression.IsNumeric) : key.same key = true :=
  same_iff.mpr ⟨Expression.same_self numeric, rfl⟩

/-- Keys that agree have the same fingerprint. -/
theorem size_eq_of_same (agree : key.same other = true) : key.size = other.size := by
  obtain ⟨expressions, references⟩ := same_iff.mp agree
  rw [size, size, Expression.length_nodes_of_same expressions, references]

variable [PartialEquivBEq α]

theorem same_symm (agree : key.same other = true) : other.same key = true := by
  obtain ⟨expressions, references⟩ := same_iff.mp agree
  exact same_iff.mpr ⟨Expression.same_symm expressions, references.symm⟩

theorem same_trans (agree : key.same other = true) (agreeToo : other.same third = true) :
    key.same third = true := by
  obtain ⟨expressions, references⟩ := same_iff.mp agree
  obtain ⟨expressionsToo, referencesToo⟩ := same_iff.mp agreeToo
  exact same_iff.mpr ⟨Expression.same_trans expressions expressionsToo,
    references.trans referencesToo⟩

end EvaluatorKey

/-- Entries such that no key agrees with both of them. -/
def RegistryEntry.Apart (entry other : RegistryEntry α) : Prop :=
  ∀ key, entry.key.same key = true → other.key.same key = true → False

instance : Std.Symm (RegistryEntry.Apart (α := α)) :=
  ⟨fun _ _ apart key first second => apart key second first⟩

namespace Registry

theorem exists_same_of_find? {registry : Registry α} {key : EvaluatorKey α}
    {evaluator : Evaluator α} (found : registry.find? key = some evaluator) :
    ∃ entry ∈ registry.entries, entry.evaluator = evaluator ∧ entry.key.same key = true := by
  obtain ⟨entry, member, same, expressions, references⟩ := exists_entry_of_find? found
  exact ⟨entry, member, same, EvaluatorKey.same_iff.mpr ⟨expressions, references⟩⟩

/-- A call of `compile`: the key that was asked for, and what came back. -/
structure Call (α : Type) where
  key : EvaluatorKey α
  answer : Except (Error α) (Evaluator α)

/-- The registries that calls lead to, with a number below which all evaluators are numbered. Other
uses of the memory may come in between. A call that fails gives no registry, so the next one is made
on the same. -/
inductive Called (limit : Int) (fingerprint : EvaluatorKey α → Nat) :
    List (Call α) → Registry α → Nat → Prop
  | start (number : Nat) : Called limit fingerprint [] { chunkLimit := limit, fingerprint } number
  | returned {calls : List (Call α)} {registry later : Registry α} {number : Nat}
      (called : Called limit fingerprint calls registry number) {name : String}
      {key : EvaluatorKey α} {evaluator : Evaluator α} {before after : Memory α}
      (grown : number ≤ before.nextId)
      (returned : outcome (registry.compile name key) before = (.ok (evaluator, later), after)) :
      Called limit fingerprint (calls ++ [⟨key, .ok evaluator⟩]) later after.nextId
  | failed {calls : List (Call α)} {registry : Registry α} {number : Nat}
      (called : Called limit fingerprint calls registry number) {name : String}
      {key : EvaluatorKey α} {reason : Error α} {before after : Memory α}
      (grown : number ≤ before.nextId)
      (failed : outcome (registry.compile name key) before = (.error reason, after)) :
      Called limit fingerprint (calls ++ [⟨key, .error reason⟩]) registry after.nextId

/-- A key that agrees with one that was compiled. -/
def Knows (calls : List (Call α)) (key : EvaluatorKey α) : Prop :=
  ∃ call ∈ calls, call.answer.isOk = true ∧ call.key.same key = true

/-- What the calls so far say about a registry and about the next call. -/
structure IsAccountOf (calls : List (Call α)) (registry : Registry α) (number : Nat) : Prop where
  /-- No two entries have keys that agree. -/
  pairwise : registry.entries.Pairwise fun entry other =>
    entry.key.same other.key = false ∧ other.key.same entry.key = false
  /-- Every call that returned is an entry or a hit. -/
  size_add_hits : registry.size + registry.hits = calls.countP (·.answer.isOk)
  /-- An object is included if it is a key that agrees with a compiled one. -/
  includes_iff : ∀ object,
    registry.includes object = true ↔ ∃ key, object = some key ∧ Knows calls key
  /-- A known key comes back with the evaluator it has had since, and that is a hit. -/
  known : ∀ {name key before evaluator later after}, Knows calls key →
    outcome (registry.compile name key) before = (.ok (evaluator, later), after) →
      later = { registry with hits := registry.hits + 1 } ∧
      ∀ call ∈ calls, call.key.same key = true → ∀ other, call.answer = .ok other →
        other = evaluator
  /-- Any other key that is compiled gets an entry with a new evaluator. -/
  unknown : ∀ {name key before evaluator later after}, number ≤ before.nextId → ¬Knows calls key →
    outcome (registry.compile name key) before = (.ok (evaluator, later), after) →
      later = { registry with
        entries := registry.entries ++ [⟨registry.fingerprint key, key, evaluator⟩] } ∧
      ∀ entry ∈ registry.entries, entry.evaluator.id ≠ evaluator.id
  /-- Only a key that is not known fails, and the memory stays as it is. -/
  failed : ∀ {name key before reason after},
    outcome (registry.compile name key) before = (.error reason, after) →
      ¬Knows calls key ∧ after = before

/-! ### What a registry keeps -/

/-- A registry that remembers what its calls returned: every entry is under its own fingerprint and
comes from a call, no entry agrees with a later one, and a call was answered from an entry of its
key or of one that agrees with it. -/
structure Remembers (registry : Registry α) (fingerprint : EvaluatorKey α → Nat)
    (calls : List (Call α)) (number : Nat) : Prop where
  printed : registry.fingerprint = fingerprint
  fingerprint_eq : ∀ entry ∈ registry.entries, entry.fingerprint = fingerprint entry.key
  stated : ∀ entry ∈ registry.entries, ⟨entry.key, .ok entry.evaluator⟩ ∈ calls
  answered : ∀ call ∈ calls, ∀ evaluator, call.answer = .ok evaluator →
    ∃ entry ∈ registry.entries, entry.evaluator = evaluator ∧
      (entry.key = call.key ∨ entry.key.same call.key = true)
  apart : registry.entries.Pairwise fun entry other => entry.key.same other.key = false
  below : ∀ entry ∈ registry.entries, entry.evaluator.id < number
  size_add_hits : registry.size + registry.hits = calls.countP (·.answer.isOk)

variable {registry later : Registry α} {fingerprint : EvaluatorKey α → Nat} {calls : List (Call α)}
  {number : Nat} {limit : Int} {name : String} {key : EvaluatorKey α} {evaluator : Evaluator α}
  {reason : Error α} {before after : Memory α}

theorem remembers_nothing (limit : Int) (fingerprint : EvaluatorKey α → Nat) (number : Nat) :
    Remembers { chunkLimit := limit, fingerprint } fingerprint [] number where
  printed := rfl
  fingerprint_eq := by rintro entry ⟨⟩
  stated := by rintro entry ⟨⟩
  answered := by rintro call ⟨⟩
  apart := .nil
  below := by rintro entry ⟨⟩
  size_add_hits := rfl

/-- A call that fails does not compile anything. -/
theorem Remembers.of_failed (remembers : registry.Remembers fingerprint calls number)
    (grown : number ≤ before.nextId) :
    registry.Remembers fingerprint (calls ++ [⟨key, .error reason⟩]) before.nextId where
  printed := remembers.printed
  fingerprint_eq := remembers.fingerprint_eq
  stated entry member := List.mem_append_left _ (remembers.stated entry member)
  answered := by
    refine List.forall_mem_append.mpr ⟨remembers.answered, List.forall_mem_singleton.mpr ?_⟩
    rintro evaluator ⟨⟩
  apart := remembers.apart
  below entry member := (remembers.below entry member).trans_le grown
  size_add_hits := by
    rw [List.countP_append, remembers.size_add_hits]
    rfl

/-- A call that fails has not changed the memory, and its key is not there. -/
theorem of_compile_eq_error
    (failed : outcome (registry.compile name key) before = (.error reason, after)) :
    registry.find? key = none ∧ after = before := by
  unfold compile at failed
  split at failed
  · rw [outcome_bind, outcome_record] at failed
    cases failed
  · rename_i missing
    refine ⟨missing, ?_⟩
    simp only [build, outcome_bind_eq_error, outcome_ofExcept, Prod.mk.injEq] at failed
    rcases failed with failed | ⟨_, _, _, ⟨⟩⟩
    rcases failed with ⟨_, rfl⟩ | ⟨_, _, ⟨_, rfl⟩, ⟨_, rfl⟩ | ⟨_, _, ⟨_, rfl⟩, numbering⟩⟩
    · rfl
    · rfl
    · rcases numbering with ⟨⟨⟩⟩ | ⟨_, _, _, ⟨⟩⟩

/-- No entry is missed if entries are under their own fingerprints and keys that agree have the same
one. -/
theorem contains_iff_exists
    (printed : ∀ entry ∈ registry.entries, entry.fingerprint = registry.fingerprint entry.key)
    (respects : ∀ key other : EvaluatorKey α, key.same other = true →
      registry.fingerprint key = registry.fingerprint other) :
    registry.contains key = true ↔ ∃ entry ∈ registry.entries, entry.key.same key = true := by
  rw [contains, find?, Option.isSome_map, List.find?_isSome]
  refine exists_congr fun entry => and_congr_right fun member => ?_
  rw [Bool.and_eq_true, beq_iff_eq, printed entry member]
  exact and_iff_right_of_imp fun agree => respects _ _ agree

namespace Remembers

variable (remembers : registry.Remembers fingerprint calls number)

include remembers

section Unique

variable [PartialEquivBEq α]

/-- Only one entry agrees with a key. -/
theorem eq_of_same {entry other : RegistryEntry α} (member : entry ∈ registry.entries)
    (memberOther : other ∈ registry.entries) (agree : entry.key.same key = true)
    (agreeOther : other.key.same key = true) : entry = other := by
  have apart : registry.entries.Pairwise RegistryEntry.Apart := by
    refine remembers.apart.imp fun differs key first second => ?_
    rw [EvaluatorKey.same_trans first (EvaluatorKey.same_symm second)] at differs
    cases differs
  by_contra differs
  exact apart.forall member memberOther differs key agree agreeOther

/-- A known key comes back with the evaluator that every call with an equal key has got. -/
theorem eq_of_answer {call : Call α} {other : Evaluator α}
    (found : registry.find? key = some evaluator) (member : call ∈ calls)
    (agree : call.key.same key = true) (answer : call.answer = .ok other) : other = evaluator := by
  obtain ⟨entry, among, rfl, agreeEntry⟩ := exists_same_of_find? found
  obtain ⟨source, amongToo, rfl, own | agreeToo⟩ := remembers.answered call member other answer
  · rw [remembers.eq_of_same among amongToo agreeEntry (own ▸ agree)]
  · rw [remembers.eq_of_same among amongToo agreeEntry (EvaluatorKey.same_trans agreeToo agree)]

end Unique

variable (respects : ∀ key other : EvaluatorKey α, key.same other = true →
  fingerprint key = fingerprint other)

include respects

theorem contains_iff_exists :
    registry.contains key = true ↔ ∃ entry ∈ registry.entries, entry.key.same key = true := by
  obtain ⟨rfl, printed, -⟩ := remembers
  exact Registry.contains_iff_exists printed respects

omit respects in
theorem countP_returned (key : EvaluatorKey α) (evaluator : Evaluator α) :
    (calls ++ [(⟨key, .ok evaluator⟩ : Call α)]).countP (·.answer.isOk) =
      registry.size + registry.hits + 1 := by
  rw [List.countP_append, remembers.size_add_hits]
  rfl

omit respects in
/-- An entry that is used again is a hit more. -/
theorem of_find? (found : registry.find? key = some evaluator) (grown : number ≤ before.nextId) :
    Remembers { registry with hits := registry.hits + 1 } fingerprint
      (calls ++ [⟨key, .ok evaluator⟩]) before.nextId where
  printed := remembers.printed
  fingerprint_eq := remembers.fingerprint_eq
  stated entry member := List.mem_append_left _ (remembers.stated entry member)
  answered := by
    obtain ⟨entry, among, rfl, agree⟩ := exists_same_of_find? found
    refine List.forall_mem_append.mpr ⟨remembers.answered, List.forall_mem_singleton.mpr ?_⟩
    rintro _ ⟨⟩
    exact ⟨entry, among, rfl, .inr agree⟩
  apart := remembers.apart
  below entry member := (remembers.below entry member).trans_le grown
  size_add_hits := (remembers.countP_returned key evaluator).symm

/-- A key that is not found gets an entry of its own. -/
theorem of_find?_eq_none (missing : registry.find? key = none) (grown : number ≤ evaluator.id) :
    Remembers
      { registry with
        entries := registry.entries ++ [⟨registry.fingerprint key, key, evaluator⟩] }
      fingerprint (calls ++ [⟨key, .ok evaluator⟩]) (evaluator.id + 1) where
  printed := remembers.printed
  fingerprint_eq := List.forall_mem_append.mpr ⟨remembers.fingerprint_eq,
    List.forall_mem_singleton.mpr (congrFun remembers.printed key)⟩
  stated := List.forall_mem_append.mpr
    ⟨fun entry member => List.mem_append_left _ (remembers.stated entry member),
      List.forall_mem_singleton.mpr (List.mem_append_right _ (List.mem_singleton_self _))⟩
  answered := by
    refine List.forall_mem_append.mpr ⟨?_, List.forall_mem_singleton.mpr ?_⟩
    · intro call member other answer
      obtain ⟨entry, among, found⟩ := remembers.answered call member other answer
      exact ⟨entry, List.mem_append_left _ among, found⟩
    · rintro _ ⟨⟩
      exact ⟨_, List.mem_append_right _ (List.mem_singleton_self _), rfl, .inl rfl⟩
  apart := by
    refine List.pairwise_append.mpr ⟨remembers.apart, List.pairwise_singleton _ _, ?_⟩
    intro entry member last isLast
    rw [List.mem_singleton.mp isLast]
    by_contra agree
    have contained : registry.contains key = true :=
      (remembers.contains_iff_exists respects).mpr ⟨entry, member, by simpa using agree⟩
    rw [contains, missing] at contained
    cases contained
  below := by
    refine List.forall_mem_append.mpr
      ⟨fun entry member => ?_, List.forall_mem_singleton.mpr (Nat.lt_succ_self _)⟩
    exact (remembers.below entry member).trans_le (Nat.le_succ_of_le grown)
  size_add_hits := by
    rw [remembers.countP_returned key evaluator, size, List.length_append, List.length_singleton,
      size]
    dsimp only
    omega

/-- A call that returns is an entry or a hit more. -/
theorem of_returned (grown : number ≤ before.nextId)
    (returned : outcome (registry.compile name key) before = (.ok (evaluator, later), after)) :
    later.Remembers fingerprint (calls ++ [⟨key, .ok evaluator⟩]) after.nextId := by
  rcases of_compile returned with ⟨found, rfl, rfl⟩ | ⟨missing, made, rfl⟩
  · exact remembers.of_find? found grown
  · obtain ⟨-, numbered, rfl⟩ := of_build made
    rw [← numbered] at grown ⊢
    exact remembers.of_find?_eq_none respects missing grown

variable [PartialEquivBEq α]

/-- The keys of a registry are those that were compiled, and those that agree with one of them. -/
theorem contains_iff_knows : registry.contains key = true ↔ Knows calls key := by
  rw [remembers.contains_iff_exists respects]
  constructor
  · rintro ⟨entry, among, agree⟩
    exact ⟨_, remembers.stated entry among, rfl, agree⟩
  · rintro ⟨⟨compiled, _ | evaluator⟩, member, returned, agree⟩
    · cases returned
    · obtain ⟨entry, among, -, own | agreeToo⟩ := remembers.answered _ member evaluator rfl
      · exact ⟨entry, among, own ▸ agree⟩
      · exact ⟨entry, among, EvaluatorKey.same_trans agreeToo agree⟩

theorem accounts : IsAccountOf calls registry number where
  pairwise := by
    refine remembers.apart.imp fun differs => ⟨differs, ?_⟩
    by_contra agree
    rw [EvaluatorKey.same_symm (by simpa using agree)] at differs
    cases differs
  size_add_hits := remembers.size_add_hits
  includes_iff object := by
    cases object with
    | none => simp [includes]
    | some key => simp [includes, remembers.contains_iff_knows respects]
  known := by
    intro name key before evaluator later after known returned
    have contained := (remembers.contains_iff_knows respects).mpr known
    rcases of_compile returned with ⟨found, rfl, -⟩ | ⟨missing, -⟩
    · exact ⟨rfl, fun call member agree other => remembers.eq_of_answer found member agree⟩
    · rw [contains, missing] at contained
      cases contained
  unknown := by
    intro name key before evaluator later after grown unknown returned
    rcases of_compile returned with ⟨found, -⟩ | ⟨-, made, rfl⟩
    · have contained : registry.contains key = true := by rw [contains, found]; rfl
      exact absurd ((remembers.contains_iff_knows respects).mp contained) unknown
    · refine ⟨rfl, fun entry member => ?_⟩
      have less := remembers.below entry member
      rw [(of_build made).2.1]
      omega
  failed := by
    intro name key before reason after failed
    obtain ⟨missing, unchanged⟩ := of_compile_eq_error failed
    refine ⟨fun known => ?_, unchanged⟩
    have contained := (remembers.contains_iff_knows respects).mpr known
    rw [contains, missing] at contained
    cases contained

end Remembers

/-- After any calls, successful or not and under any fingerprint, the calls account for what the
registry contains and for what it does with the next one. -/
theorem Called.isAccountOf [PartialEquivBEq α]
    (called : Called limit fingerprint calls registry number)
    (respects : ∀ key other : EvaluatorKey α, key.same other = true →
      fingerprint key = fingerprint other) :
    IsAccountOf calls registry number := by
  refine Remembers.accounts ?_ respects
  induction called with
  | start number => exact remembers_nothing limit fingerprint number
  | returned _ grown returned ih => exact ih.of_returned respects grown returned
  | failed _ grown failed ih =>
      rw [(of_compile_eq_error failed).2]
      exact ih.of_failed grown

/-- A key is compiled, another one fails since its series is not listed, and the first one is asked
for again. All have the same fingerprint. -/
theorem isAccountOf_surplus :
    let unlisted : EvaluatorKey ℝ := { surplus with references := {} }
    let calls : List (Call ℝ) :=
      [⟨surplus, .ok surplusEvaluator⟩, ⟨unlisted, .error .unlisted⟩,
        ⟨surplus, .ok surplusEvaluator⟩]
    ∃ registry number, Called 1 (fun _ => 0) calls registry number ∧
      registry.size = 1 ∧ registry.hits = 1 ∧ IsAccountOf calls registry number := by
  intro unlisted calls
  have law : PartialEquivBEq ℝ :=
    { symm := by simp [eq_comm]
      trans := by simp }
  have missing : surplusOnce.find? unlisted = none := by
    have differs : surplus.same unlisted = false := by
      simp [EvaluatorKey.same, surplus, unlisted]
    simp [find?, surplusOnce, differs]
  have failed : outcome (surplusOnce.compile "unlisted" unlisted) { nextId := 1 } =
      (.error .unlisted, { nextId := 1 }) := by
    rw [compile, missing]
    rfl
  have compiled := (Called.start 0).returned (by decide) outcome_compile_surplus
  have called := (compiled.failed (by decide) failed).returned (by decide)
    outcome_compile_surplus_again
  exact ⟨_, _, called, rfl, rfl, called.isAccountOf fun _ _ _ => rfl⟩

end Registry

end Intertemporal
