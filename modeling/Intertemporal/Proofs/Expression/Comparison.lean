import Intertemporal.Proofs.Expression.Induction
import Intertemporal.Proofs.Lists
import Intertemporal.Scalar

/-!
# Comparison of expressions

Expressions are compared by structure, and their constants as numbers. Where the comparison of
numbers is symmetric and transitive, so is that of expressions, and an expression agrees with itself
unless one of its constants is no number; then it agrees with none. Expressions that agree have
equally many nodes, so a fingerprint that counts nodes never keeps them apart.
-/

namespace Intertemporal.Expression

variable {α : Type}

/-- An expression whose constants are numbers: each of them is equal to itself. -/
def IsNumeric [Scalar α] (expression : Expression α) : Prop :=
  ∀ value, .constant value ∈ expression.nodes → Scalar.isNumber value = true

theorem IsNumeric.of_nodes [Scalar α] {expression part : Expression α}
    (numeric : expression.IsNumeric) (inside : part.nodes ⊆ expression.nodes) : part.IsNumeric :=
  fun value member => numeric value (inside member)

theorem IsNumeric.of_argument [Scalar α] {function : Function} {arguments : List (Expression α)}
    (numeric : IsNumeric (.call function arguments)) {argument : Expression α}
    (member : argument ∈ arguments) : argument.IsNumeric :=
  numeric.of_nodes (nodes_argument_subset function member)

/-- Lists of expressions agree if they do so item by item. -/
theorem allSame_iff [BEq α] {arguments others : List (Expression α)} :
    allSame arguments others = true ↔
      List.Forall₂ (fun argument other => argument.same other = true) arguments others := by
  induction arguments generalizing others with
  | nil => cases others <;> simp [allSame]
  | cons argument rest ih => cases others <;> simp [allSame, ih]

/-- An expression of numbers agrees with itself. -/
theorem same_self [Scalar α] {expression : Expression α} (numeric : expression.IsNumeric) :
    expression.same expression = true := by
  induction expression using Expression.induction with
  | constant value => exact numeric value (mem_nodes_self _)
  | series reference => exact beq_self_eq_true reference
  | steadyState name => exact beq_self_eq_true name
  | parameter name index => simp [same]
  | unary sign operand ih =>
      have inner := numeric.of_nodes (nodes_operand_subset sign operand)
      simp [same, ih inner]
  | binary operation left right ihLeft ihRight =>
      have innerLeft := numeric.of_nodes (nodes_left_subset operation left right)
      have innerRight := numeric.of_nodes (nodes_right_subset operation left right)
      simp [same, ihLeft innerLeft, ihRight innerRight]
  | call function arguments ih =>
      have each : allSame arguments arguments = true :=
        allSame_iff.mpr (List.forall₂_same.mpr fun argument member =>
          ih argument member (numeric.of_argument member))
      simp [same, each]

section Laws

variable [BEq α] [PartialEquivBEq α]

/-- Expressions agree if one expression agrees with both of them. -/
theorem same_of_same (expression : Expression α) {first second : Expression α}
    (toFirst : expression.same first = true) (toSecond : expression.same second = true) :
    first.same second = true := by
  induction expression using Expression.induction generalizing first second with
  | constant value =>
      cases first with
      | constant one =>
          cases second with
          | constant other => exact PartialEquivBEq.trans (PartialEquivBEq.symm toFirst) toSecond
          | _ => cases toSecond
      | _ => cases toFirst
  | series reference =>
      cases first with
      | series one => rwa [← eq_of_beq toFirst]
      | _ => cases toFirst
  | steadyState name =>
      cases first with
      | steadyState one => rwa [← eq_of_beq toFirst]
      | _ => cases toFirst
  | parameter name index =>
      cases first with
      | parameter one oneIndex =>
          simp only [same, Bool.and_eq_true, beq_iff_eq] at toFirst
          rwa [← toFirst.1, ← toFirst.2]
      | _ => cases toFirst
  | unary sign operand ih =>
      cases first with
      | unary oneSign one =>
          cases second with
          | unary otherSign other =>
              simp only [same, Bool.and_eq_true, beq_iff_eq] at toFirst toSecond ⊢
              exact ⟨toFirst.1.symm.trans toSecond.1, ih toFirst.2 toSecond.2⟩
          | _ => cases toSecond
      | _ => cases toFirst
  | binary operation left right ihLeft ihRight =>
      cases first with
      | binary oneOperation oneLeft oneRight =>
          cases second with
          | binary otherOperation otherLeft otherRight =>
              simp only [same, Bool.and_eq_true, beq_iff_eq] at toFirst toSecond ⊢
              exact ⟨⟨toFirst.1.1.symm.trans toSecond.1.1, ihLeft toFirst.1.2 toSecond.1.2⟩,
                ihRight toFirst.2 toSecond.2⟩
          | _ => cases toSecond
      | _ => cases toFirst
  | call function arguments ih =>
      cases first with
      | call oneFunction ones =>
          cases second with
          | call otherFunction others =>
              simp only [same, Bool.and_eq_true, beq_iff_eq, allSame_iff] at toFirst toSecond ⊢
              exact ⟨toFirst.1.symm.trans toSecond.1,
                forall₂_of_common (fun argument member one other => ih argument member)
                  toFirst.2 toSecond.2⟩
          | _ => cases toSecond
      | _ => cases toFirst

/-- An expression that agrees with any agrees with itself: all its constants are numbers. -/
theorem same_self_of_same {expression other : Expression α}
    (agree : expression.same other = true) : expression.same expression = true := by
  induction expression using Expression.induction generalizing other with
  | constant value =>
      cases other with
      | constant otherValue => exact PartialEquivBEq.trans agree (PartialEquivBEq.symm agree)
      | _ => cases agree
  | series reference => exact beq_self_eq_true reference
  | steadyState name => exact beq_self_eq_true name
  | parameter name index => simp [same]
  | unary sign operand ih =>
      cases other with
      | unary otherSign otherOperand =>
          simp only [same, Bool.and_eq_true] at agree
          simp [same, ih agree.2]
      | _ => cases agree
  | binary operation left right ihLeft ihRight =>
      cases other with
      | binary otherOperation otherLeft otherRight =>
          simp only [same, Bool.and_eq_true] at agree
          simp [same, ihLeft agree.1.2, ihRight agree.2]
      | _ => cases agree
  | call function arguments ih =>
      cases other with
      | call otherFunction others =>
          simp only [same, Bool.and_eq_true, allSame_iff] at agree
          have each : allSame arguments arguments = true := by
            refine allSame_iff.mpr (List.forall₂_same.mpr fun argument member => ?_)
            obtain ⟨counterpart, -, here⟩ := exists_of_mem_left agree.2 member
            exact ih argument member here
          simp [same, each]
      | _ => cases agree

theorem same_symm {expression other : Expression α} (agree : expression.same other = true) :
    other.same expression = true :=
  same_of_same expression agree (same_self_of_same agree)

theorem same_trans {expression other third : Expression α} (agree : expression.same other = true)
    (agreeToo : other.same third = true) : expression.same third = true :=
  same_of_same other (same_symm agree) agreeToo

end Laws

section Nodes

variable [BEq α]

omit [BEq α] in
theorem nodesOfAll_eq_flatMap (arguments : List (Expression α)) :
    nodesOfAll arguments = arguments.flatMap nodes := by
  induction arguments with
  | nil => rfl
  | cons argument rest ih => rw [nodesOfAll, ih, List.flatMap_cons]

/-- Expressions that agree have equally many nodes. -/
theorem length_nodes_of_same {expression other : Expression α}
    (agree : expression.same other = true) : expression.nodes.length = other.nodes.length := by
  induction expression using Expression.induction generalizing other with
  | constant | series | steadyState | parameter => cases other <;> first | rfl | cases agree
  | unary sign operand ih =>
      cases other with
      | unary otherSign otherOperand =>
          simp only [same, Bool.and_eq_true] at agree
          simp [nodes, ih agree.2]
      | _ => cases agree
  | binary operation left right ihLeft ihRight =>
      cases other with
      | binary otherOperation otherLeft otherRight =>
          simp only [same, Bool.and_eq_true] at agree
          simp [nodes, ihLeft agree.1.2, ihRight agree.2]
      | _ => cases agree
  | call function arguments ih =>
      cases other with
      | call otherFunction others =>
          simp only [same, Bool.and_eq_true, allSame_iff] at agree
          have lengths : others.map (·.nodes.length) = arguments.map (·.nodes.length) :=
            map_eq_map_of_forall₂ agree.2 fun argument member other here =>
              (ih argument member here).symm
          simp [nodes, nodesOfAll_eq_flatMap, List.length_flatMap, lengths]
      | _ => cases agree

end Nodes

end Intertemporal.Expression
