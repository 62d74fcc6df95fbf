import Mathlib.Algebra.BigOperators.Ring.Finset
import Intertemporal.Proofs.Exact
import Intertemporal.Proofs.System.Jacobian
import Intertemporal.System.StateSpace

/-!
# Products with sparse rows

In exact arithmetic, a row of a matrix that is given by its entries, times a vector, is the sum of
the entries of the row, each times the component of the vector at its column. This holds if no place
has two entries, for matrices in compressed rows and for the matrices of a first-order form.
-/

namespace Intertemporal

section Lookup

variable {κ : Type} [BEq κ] [LawfulBEq κ] [DecidableEq κ]

/-- What is found under a key is the sum of what is listed under it, if keys are not repeated. -/
theorem sum_lookup_mul {entries : List (κ × ℝ)} (distinct : (entries.map (·.1)).Nodup)
    (key : Nat → κ) (factor : Nat → ℝ) (size : Nat) :
    ∑ column ∈ Finset.range size, (entries.lookup (key column)).getD 0 * factor column =
      (entries.map fun entry =>
        ∑ column ∈ Finset.range size,
          if entry.1 = key column then entry.2 * factor column else 0).sum := by
  induction entries with
  | nil => simp
  | cons entry rest ih =>
      obtain ⟨fresh, distinctRest⟩ := List.nodup_cons.mp distinct
      have split : ∀ column, ((entry :: rest).lookup (key column)).getD 0 * factor column =
          (if entry.1 = key column then entry.2 * factor column else 0) +
            (rest.lookup (key column)).getD 0 * factor column := by
        intro column
        rw [List.lookup_cons]
        by_cases same : entry.1 = key column
        · have none : rest.lookup (key column) = none := by
            apply Option.eq_none_iff_forall_ne_some.mpr
            intro value found
            have member := (lookup_eq_some_iff distinctRest).mp found
            exact fresh (List.mem_map.mpr ⟨_, member, same.symm⟩)
          simp [same, none]
        · have differs : (key column == entry.1) = false :=
            beq_eq_false_iff_ne.mpr (Ne.symm same)
          simp [same, differs]
      rw [List.map_cons, List.sum_cons, ← ih distinctRest, ← Finset.sum_add_distrib]
      exact Finset.sum_congr rfl fun column _ => split column

end Lookup

namespace EquationForm

/-- In exact arithmetic the order of addition does not matter. -/
theorem dot_real (left right : List ℝ) :
    dot left right = (List.zipWith (· * ·) left right).sum := by
  rw [dot, List.sum_eq_foldl, Scalar.zero_real]

theorem dot_range (component : Nat → ℝ) {size : Nat} {vector : List ℝ}
    (sized : vector.length = size) :
    dot ((List.range size).map component) vector =
      ∑ column ∈ Finset.range size, component column * vector.getD column 0 := by
  have each : List.zipWith (· * ·) ((List.range size).map component) vector =
      (List.range size).map fun column => component column * vector.getD column 0 := by
    apply List.ext_getElem
    · simp [sized]
    · intro column inRange _
      have inVector : column < vector.length := by
        simpa [sized] using inRange
      simp [inVector]
  rw [dot_real, each]
  rfl

end EquationForm

namespace SparseMatrix

/-- A row of a matrix times a vector. -/
def product {α : Type} [Scalar α] (sparse : SparseMatrix α) (row : Nat) (vector : List α) : α :=
  EquationForm.dot ((List.range sparse.width).map (sparse.dense row)) vector

/-- The product of a row is the sum of its stored entries, each times a component of the vector. -/
theorem product_eq_sum {sparse : SparseMatrix ℝ} (distinct : (sparse.triples.map (·.1)).Nodup)
    (inside : ∀ entry ∈ sparse.triples, entry.1.2 < sparse.width) {vector : List ℝ}
    (sized : vector.length = sparse.width) (row : Nat) :
    sparse.product row vector =
      (sparse.triples.map fun entry =>
        if entry.1.1 = row then entry.2 * vector.getD entry.1.2 0 else 0).sum := by
  rw [product, EquationForm.dot_range _ sized]
  simp only [dense, SparseMatrix.entry?, Scalar.zero_real]
  rw [sum_lookup_mul distinct (fun column => (row, column))]
  refine congrArg List.sum (List.map_congr_left fun entry member => ?_)
  have column := Finset.mem_range.mpr (inside entry member)
  by_cases same : entry.1.1 = row
  · subst same
    simp [Prod.ext_iff, column]
  · simp [Prod.ext_iff, same]

end SparseMatrix

namespace BlockEntry

/-- The place of an entry. -/
def key {α : Type} (entry : BlockEntry α) : Block × Nat × Nat :=
  (entry.block, entry.row, entry.column)

end BlockEntry

namespace StateSpace

variable {space : StateSpace ℝ}

/-- A row of one of the matrices times a vector. -/
def product {α : Type} [Scalar α] (space : StateSpace α) (block : Block) (row : Nat)
    (vector : List α) : α :=
  EquationForm.dot ((space.matrix block).getD row []) vector

theorem coefficient_eq_lookup (block : Block) (row column : Nat) :
    space.coefficient block row column =
      ((space.entries.map fun entry => (entry.key, entry.value)).lookup (block, row, column)).getD
        0 := by
  rw [coefficient, Scalar.zero_real]
  induction space.entries with
  | nil => rfl
  | cons entry rest ih =>
      rw [List.find?_cons, List.map_cons, List.lookup_cons]
      by_cases same : (block, row, column) = entry.key
      · obtain ⟨rfl, rfl, rfl⟩ : block = entry.block ∧ row = entry.row ∧ column = entry.column := by
          simpa [BlockEntry.key] using same
        simp [BlockEntry.key]
      · have differs : ((block, row, column) == entry.key) = false := beq_eq_false_iff_ne.mpr same
        have unmatched : (entry.block == block && entry.row == row && entry.column == column) =
            false := by
          simp only [BlockEntry.key, Prod.mk.injEq, not_and] at same
          simp only [Bool.and_eq_false_iff, beq_eq_false_iff_ne]
          by_contra matched
          push Not at matched
          exact same matched.1.1.symm matched.1.2.symm matched.2.symm
        rw [differs, unmatched]
        exact ih

/-- The product of a row of one of the matrices is the sum of its entries, each times a component of
the vector. -/
theorem product_eq_sum (distinct : (space.entries.map BlockEntry.key).Nodup)
    (inside : ∀ entry ∈ space.entries, entry.column < space.width entry.block) (block : Block)
    {vector : List ℝ} (sized : vector.length = space.width block) {row : Nat}
    (inRange : row < space.keys.size) :
    space.product block row vector =
      (space.entries.map fun entry =>
        if entry.block = block ∧ entry.row = row then entry.value * vector.getD entry.column 0
        else 0).sum := by
  have ofRow : (space.matrix block).getD row [] =
      (List.range (space.width block)).map (space.coefficient block row) := by
    simp [matrix, inRange]
  have distinctKeys :
      ((space.entries.map fun entry => (entry.key, entry.value)).map (·.1)).Nodup := by
    rw [List.map_map]
    exact distinct
  rw [product, ofRow, EquationForm.dot_range _ sized]
  simp only [coefficient_eq_lookup]
  rw [sum_lookup_mul distinctKeys (fun column => (block, row, column)), List.map_map]
  refine congrArg List.sum (List.map_congr_left fun entry member => ?_)
  by_cases same : entry.block = block ∧ entry.row = row
  · obtain ⟨rfl, rfl⟩ := same
    have column := Finset.mem_range.mpr (inside entry member)
    simp [BlockEntry.key, column]
  · rw [if_neg same]
    apply Finset.sum_eq_zero
    intro column _
    apply if_neg
    intro matched
    simp only [BlockEntry.key, Prod.mk.injEq] at matched
    exact same ⟨matched.1, matched.2.1⟩

end StateSpace

end Intertemporal
