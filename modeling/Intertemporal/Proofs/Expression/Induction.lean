import Intertemporal.Expression.Basic

/-!
# Induction on expressions

The arguments of a call are a list of expressions, so the recursor of `Expression` comes with a
second motive for lists. Here the second motive is fixed: a property of a list is that property of
all its members.

A condition on an expression is often one on all its nodes. Its parts have no other nodes than it
has, so they meet the condition as well.
-/

namespace Intertemporal.Expression

variable {α : Type}

/-- Induction with one hypothesis for each argument of a call. -/
@[elab_as_elim]
theorem induction {motive : Expression α → Prop}
    (constant : ∀ value, motive (.constant value))
    (series : ∀ reference, motive (.series reference))
    (steadyState : ∀ name, motive (.steadyState name))
    (parameter : ∀ name index, motive (.parameter name index))
    (unary : ∀ sign operand, motive operand → motive (.unary sign operand))
    (binary : ∀ operation left right, motive left → motive right →
      motive (.binary operation left right))
    (call : ∀ function arguments, (∀ argument ∈ arguments, motive argument) →
      motive (.call function arguments))
    (expression : Expression α) : motive expression :=
  @Expression.rec α motive (fun arguments => ∀ argument ∈ arguments, motive argument)
    constant series steadyState parameter unary binary call
    (fun _ member => absurd member List.not_mem_nil)
    (fun _ _ first rest => List.forall_mem_cons.mpr ⟨first, rest⟩)
    expression

theorem mem_nodesOfAll {node : Expression α} {arguments : List (Expression α)} :
    node ∈ nodesOfAll arguments ↔ ∃ argument ∈ arguments, node ∈ argument.nodes := by
  induction arguments with
  | nil => simp [nodesOfAll]
  | cons argument rest ih => simp [nodesOfAll, ih]

/-- Every expression is one of its own nodes. -/
theorem mem_nodes_self (expression : Expression α) : expression ∈ expression.nodes := by
  cases expression <;> simp [nodes]

/-! What holds of every node of an expression holds of every node of its parts. -/

theorem nodes_operand_subset (sign : Sign) (operand : Expression α) :
    operand.nodes ⊆ (unary sign operand).nodes :=
  List.subset_cons_self _ _

theorem nodes_left_subset (operation : Arithmetic) (left right : Expression α) :
    left.nodes ⊆ (binary operation left right).nodes :=
  List.subset_cons_of_subset _ (List.subset_append_left left.nodes right.nodes)

theorem nodes_right_subset (operation : Arithmetic) (left right : Expression α) :
    right.nodes ⊆ (binary operation left right).nodes :=
  List.subset_cons_of_subset _ (List.subset_append_right left.nodes right.nodes)

theorem nodes_argument_subset (function : Function) {arguments : List (Expression α)}
    {argument : Expression α} (member : argument ∈ arguments) :
    argument.nodes ⊆ (call function arguments).nodes :=
  fun _ inside => List.mem_cons_of_mem _ (mem_nodesOfAll.mpr ⟨argument, member, inside⟩)

end Intertemporal.Expression
