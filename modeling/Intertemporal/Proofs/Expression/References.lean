import Mathlib.Data.List.Basic
import Intertemporal.Expression.References
import Intertemporal.Proofs.Expression.Induction

/-!
# References of an expression

The lists of references of an expression name nothing twice, and they cover the expression: whatever
it refers to is listed.
-/

namespace Intertemporal

theorem nodup_appendNew {β : Type} [BEq β] [LawfulBEq β] {items : List β} (distinct : items.Nodup)
    (item : β) : (appendNew items item).Nodup := by
  unfold appendNew
  split
  · exact distinct
  · rename_i fresh
    have notMember : item ∉ items := by simpa using fresh
    exact List.nodup_append.mpr
      ⟨distinct, List.pairwise_singleton _ _, by
        rintro old member _ (_ | ⟨_, ⟨⟩⟩) rfl
        exact notMember member⟩

theorem mem_appendNew_self {β : Type} [BEq β] [LawfulBEq β] (items : List β) (item : β) :
    item ∈ appendNew items item := by
  unfold appendNew
  split
  · rename_i found
    simpa using found
  · simp

theorem mem_appendNew_of_mem {β : Type} [BEq β] {items : List β} {old item : β}
    (member : old ∈ items) : old ∈ appendNew items item := by
  unfold appendNew
  split
  · exact member
  · exact List.mem_append_left _ member

/-- References that name nothing twice. -/
structure References.IsDistinct (references : References) : Prop where
  series : references.series.Nodup
  steadyStates : references.steadyStates.Nodup
  parameters : references.parameters.Nodup

namespace Expression

variable {α : Type}

theorem isDistinct_addReference {references : References} (distinct : references.IsDistinct)
    (node : Expression α) : (addReference references node).IsDistinct := by
  obtain ⟨series, steadyStates, parameters⟩ := distinct
  cases node with
  | series reference => exact ⟨nodup_appendNew series reference, steadyStates, parameters⟩
  | steadyState name => exact ⟨series, nodup_appendNew steadyStates name, parameters⟩
  | parameter name index => exact ⟨series, steadyStates, nodup_appendNew parameters name⟩
  | _ => exact ⟨series, steadyStates, parameters⟩

theorem isDistinct_foldl {references : References} (distinct : references.IsDistinct)
    (nodes : List (Expression α)) : (nodes.foldl addReference references).IsDistinct := by
  induction nodes generalizing references with
  | nil => exact distinct
  | cons node rest ih => exact ih (isDistinct_addReference distinct node)

/-- What an expression refers to is listed once. -/
theorem isDistinct_references (expression : Expression α) : expression.references.IsDistinct :=
  isDistinct_foldl ⟨List.nodup_nil, List.nodup_nil, List.nodup_nil⟩ expression.nodes

end Expression

namespace References

variable {α : Type}

/-- Lists in which what a node refers to occurs. -/
def Lists (references : References) : Expression α → Prop
  | .series reference => reference ∈ references.series
  | .steadyState name => name ∈ references.steadyStates
  | .parameter name _ => name ∈ references.parameters
  | _ => True

/-- Lists in which everything that an expression refers to occurs. -/
def Covers (references : References) (expression : Expression α) : Prop :=
  ∀ node ∈ expression.nodes, references.Lists node

theorem Covers.of_nodes {references : References} {expression part : Expression α}
    (covers : references.Covers expression) (inside : part.nodes ⊆ expression.nodes) :
    references.Covers part :=
  fun node member => covers node (inside member)

theorem Lists.addReference {references : References} {node : Expression α}
    (listed : references.Lists node) (added : Expression α) :
    (added.addReference references).Lists node := by
  cases added with
  | series reference =>
      cases node with
      | series other => exact mem_appendNew_of_mem listed
      | _ => exact listed
  | steadyState name =>
      cases node with
      | steadyState other => exact mem_appendNew_of_mem listed
      | _ => exact listed
  | parameter name index =>
      cases node with
      | parameter other otherIndex => exact mem_appendNew_of_mem listed
      | _ => exact listed
  | _ => exact listed

theorem lists_addReference (references : References) (node : Expression α) :
    (node.addReference references).Lists node := by
  cases node with
  | series reference => exact mem_appendNew_self references.series reference
  | steadyState name => exact mem_appendNew_self references.steadyStates name
  | parameter name index => exact mem_appendNew_self references.parameters name
  | _ => trivial

theorem Lists.foldl {references : References} {node : Expression α}
    (listed : references.Lists node) (nodes : List (Expression α)) :
    (nodes.foldl Expression.addReference references).Lists node := by
  induction nodes generalizing references with
  | nil => exact listed
  | cons added rest ih => exact ih (listed.addReference added)

end References

/-- What an expression refers to is listed. -/
theorem Expression.covers_references {α : Type} (expression : Expression α) :
    expression.references.Covers expression := by
  have all : ∀ (nodes : List (Expression α)) (references : References),
      ∀ node ∈ nodes, (nodes.foldl addReference references).Lists node := by
    intro nodes
    induction nodes with
    | nil =>
        intro references node member
        cases member
    | cons first rest ih =>
        intro references node member
        rcases List.mem_cons.mp member with rfl | later
        · exact (references.lists_addReference node).foldl rest
        · exact ih (first.addReference references) node later
  exact all expression.nodes {}

end Intertemporal
