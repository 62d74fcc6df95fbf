import Mathlib.Data.List.Sort
import Intertemporal.Proofs.System.Scatter

/-!
# Assembling sparse matrices

Assembling a matrix in compressed rows keeps every entry at its row and column, if no place has two
of them (`cellsOf_perm`). With tags for values this shows that computed values end up where their
cells are (`triples_perm`): the entries of a matrix with arranged values are the cells of the
pattern with the values computed for them, in another order.
-/

namespace Intertemporal

namespace Compressed

variable {α : Type}

/-- Sorting a list by keys that are below a bound is a permutation of it. -/
theorem flatMap_filter_perm (key : α → Nat) {items : List α} {bound : Nat}
    (bounded : ∀ item ∈ items, key item < bound) :
    ((List.range bound).flatMap fun row => items.filter fun item => key item == row).Perm
      items := by
  induction bound generalizing items with
  | zero =>
      obtain rfl : items = [] := by
        apply List.eq_nil_iff_forall_not_mem.mpr
        intro item member
        exact absurd (bounded item member) (Nat.not_lt_zero _)
      rfl
  | succ bound ih =>
      have lower : ∀ row ∈ List.range bound,
          (items.filter fun item => key item == row) =
            (items.filter fun item => key item < bound).filter fun item => key item == row := by
        intro row member
        have inRange := List.mem_range.mp member
        rw [List.filter_filter]
        apply List.filter_congr
        intro item _
        by_cases same : key item = row
        · simp [same, inRange]
        · simp [same]
      have upper : (items.filter fun item => key item == bound) =
          items.filter fun item => !decide (key item < bound) := by
        apply List.filter_congr
        intro item member
        have := bounded item member
        by_cases same : key item = bound
        · simp [same]
        · have below : key item < bound := by omega
          simp [same, below]
      rw [List.range_succ, List.flatMap_append, List.flatMap_congr lower, List.flatMap_singleton,
        upper]
      refine List.Perm.trans (List.Perm.append_right _ (ih ?_)) (List.filter_append_perm _ items)
      intro item member
      simpa using (List.mem_filter.mp member).2

/-- The entries of rows in order, each with its row and its column. -/
def cellsOf (row : Nat) : List (List (Nat × α)) → List ((Nat × Nat) × α)
  | [] => []
  | entries :: rest =>
    entries.map (fun entry => ((row, entry.1), entry.2)) ++ cellsOf (row + 1) rest

theorem rowsFrom_startsFrom_cons (row start length : Nat) (rest : List Nat) :
    SparseMatrix.rowsFrom row (startsFrom start (length :: rest)) =
      List.replicate length row ++
        SparseMatrix.rowsFrom (row + 1) (startsFrom (start + length) rest) := by
  cases rest <;> simp [startsFrom, SparseMatrix.rowsFrom]

/-- Reading rows, columns and values off compressed rows gives the entries back. -/
theorem zip_startsFrom (row start : Nat) (rows : List (List (Nat × α))) :
    ((SparseMatrix.rowsFrom row (startsFrom start (rows.map List.length))).zip
      (rows.flatten.map (·.1))).zip (rows.flatten.map (·.2)) = cellsOf row rows := by
  induction rows generalizing row start with
  | nil => simp [cellsOf]
  | cons entries rest ih =>
      have first : ((List.replicate entries.length row).zip (entries.map (·.1))).zip
          (entries.map (·.2)) = entries.map fun entry => ((row, entry.1), entry.2) := by
        clear ih
        induction entries with
        | nil => rfl
        | cons entry others ihEntries => simp [List.replicate_succ, ihEntries]
      rw [List.map_cons, rowsFrom_startsFrom_cons, List.flatten_cons, List.map_append,
        List.map_append, List.zip_append (by simp), List.zip_append (by simp), first, ih, cellsOf]

theorem map_snd_cellsOf (row : Nat) (rows : List (List (Nat × α))) :
    (cellsOf row rows).map (·.2) = rows.flatten.map (·.2) := by
  induction rows generalizing row with
  | nil => rfl
  | cons entries rest ih => simp [cellsOf, ih, Function.comp_def]

theorem cellsOf_map_range' (start count : Nat) (row : Nat → List (Nat × α)) :
    cellsOf start ((List.range' start count).map row) =
      (List.range' start count).flatMap fun index =>
        (row index).map fun entry => ((index, entry.1), entry.2) := by
  induction count generalizing start with
  | zero => rfl
  | succ count ih => rw [List.range'_succ, List.map_cons, cellsOf, ih, List.flatMap_cons]

variable {entries : List ((Nat × Nat) × α)}

theorem nodup_rowEntries (distinct : (entries.map (·.1)).Nodup) (row : Nat) :
    ((rowEntries entries row).map (·.1)).Nodup := by
  have kept : (entries.filter fun entry => entry.1.1 == row).Sublist entries :=
    List.filter_sublist
  have distinctRow := (kept.map (·.1)).nodup distinct
  rw [rowEntries, List.map_map]
  rw [List.Nodup, List.pairwise_map] at distinctRow ⊢
  apply distinctRow.imp_of_mem
  intro first second memberFirst memberSecond differ same
  apply differ
  have rowFirst : first.1.1 = row := by simpa using (List.mem_filter.mp memberFirst).2
  have rowSecond : second.1.1 = row := by simpa using (List.mem_filter.mp memberSecond).2
  exact Prod.ext (rowFirst.trans rowSecond.symm) same

variable [Add α]

/-- Where no column is repeated there is nothing to add up. -/
theorem merge_eq_self {entries : List (Nat × α)} (distinct : (entries.map (·.1)).Nodup) :
    merge entries = entries := by
  induction entries with
  | nil => rfl
  | cons entry rest ih =>
      obtain ⟨fresh, distinctRest⟩ := List.nodup_cons.mp distinct
      rw [merge, ih distinctRest]
      cases rest with
      | nil => rfl
      | cons next others =>
          have differs : entry.1 ≠ next.1 := by
            intro same
            apply fresh
            simp [same]
          exact if_neg differs

omit [Add α] in
/-- Entries of one row are sorted by column. -/
theorem foldr_insertEntry (entries : List (Nat × α)) :
    entries.foldr insertEntry [] = entries.insertionSort fun left right => left.1 ≤ right.1 := by
  have inserted : ∀ (entry : Nat × α) sorted, insertEntry entry sorted =
      sorted.orderedInsert (fun left right => left.1 ≤ right.1) entry := by
    intro entry sorted
    induction sorted with
    | nil => rfl
    | cons next rest ih => rw [insertEntry, ih, List.orderedInsert_cons]
  induction entries with
  | nil => rfl
  | cons entry rest ih => rw [List.foldr_cons, ih, inserted, List.insertionSort_cons]

/-- The stored entries of a row are those that came for it. -/
theorem rowOf_perm (distinct : (entries.map (·.1)).Nodup) (row : Nat) :
    (rowOf entries row).Perm (rowEntries entries row) := by
  have sorted := List.perm_insertionSort (fun left right : Nat × α => left.1 ≤ right.1)
    (rowEntries entries row)
  rw [rowOf, foldr_insertEntry, merge_eq_self]
  · exact sorted
  · exact (sorted.map (·.1)).nodup_iff.mpr (nodup_rowEntries distinct row)

/-- The columns of a row are stored in increasing order. -/
theorem pairwise_rowOf (distinct : (entries.map (·.1)).Nodup) (row : Nat) :
    ((rowOf entries row).map (·.1)).Pairwise (· < ·) := by
  have sorted := List.perm_insertionSort (fun left right : Nat × α => left.1 ≤ right.1)
    (rowEntries entries row)
  have distinctSorted := (sorted.map (·.1)).nodup_iff.mpr (nodup_rowEntries distinct row)
  have : Std.Total fun left right : Nat × α => left.1 ≤ right.1 := ⟨fun _ _ => Nat.le_total _ _⟩
  have : IsTrans (Nat × α) fun left right => left.1 ≤ right.1 := ⟨fun _ _ _ => Nat.le_trans⟩
  have increasing := List.pairwise_insertionSort (fun left right : Nat × α => left.1 ≤ right.1)
    (rowEntries entries row)
  rw [rowOf, foldr_insertEntry, merge_eq_self distinctSorted]
  rw [List.Nodup, List.pairwise_map] at distinctSorted
  rw [List.pairwise_map]
  apply (increasing.and distinctSorted).imp
  rintro first second ⟨below, differ⟩
  exact lt_of_le_of_ne below differ

/-- Assembling a matrix keeps all entries, if no place has two of them. -/
theorem cellsOf_perm (distinct : (entries.map (·.1)).Nodup) {height : Nat}
    (bounded : ∀ entry ∈ entries, entry.1.1 < height) :
    (cellsOf 0 ((List.range height).map (rowOf entries))).Perm entries := by
  rw [List.range_eq_range', cellsOf_map_range', ← List.range_eq_range']
  refine List.Perm.trans ?_ (flatMap_filter_perm (fun entry => entry.1.1) bounded)
  apply List.Perm.flatMap_left
  intro row _
  refine ((rowOf_perm distinct row).map _).trans ?_
  rw [rowEntries, List.map_map]
  apply List.Perm.of_eq
  rw [List.map_congr_left, List.map_id]
  intro entry member
  have ofRow : entry.1.1 = row := by simpa using (List.mem_filter.mp member).2
  simp [← ofRow]

end Compressed

namespace Pattern

/-- Patterns in which no place has two entries. -/
def IsSimple (pattern : Pattern) : Prop := ∀ columns ∈ pattern.rows, columns.Nodup

section Cells

theorem le_of_mem_cellsFrom {row : Nat} {rows : List (List Nat)} {cell : Nat × Nat}
    (member : cell ∈ cellsFrom row rows) : row ≤ cell.1 ∧ cell.1 < row + rows.length := by
  induction rows generalizing row with
  | nil => cases member
  | cons columns rest ih =>
      rw [List.length_cons]
      rcases List.mem_append.mp member with here | later
      · obtain ⟨column, _, rfl⟩ := List.mem_map.mp here
        simp
      · have := ih later
        omega

theorem nodup_cellsFrom {rows : List (List Nat)} (simple : ∀ columns ∈ rows, columns.Nodup)
    (row : Nat) : (cellsFrom row rows).Nodup := by
  induction rows generalizing row with
  | nil => exact List.nodup_nil
  | cons columns rest ih =>
      obtain ⟨distinct, simpleRest⟩ := List.forall_mem_cons.mp simple
      refine List.nodup_append.mpr ⟨?_, ih simpleRest (row + 1), ?_⟩
      · exact distinct.map fun first second same => (Prod.mk.inj same).2
      · intro cell here other later same
        obtain ⟨column, _, rfl⟩ := List.mem_map.mp here
        have := le_of_mem_cellsFrom later
        rw [← same] at this
        omega

theorem length_cellsFrom (row : Nat) (rows : List (List Nat)) :
    (cellsFrom row rows).length = rows.flatten.length := by
  induction rows generalizing row with
  | nil => rfl
  | cons columns rest ih => simp [cellsFrom, ih]

end Cells

variable {pattern : Pattern}

theorem length_cells : pattern.cells.length = pattern.size := length_cellsFrom 0 pattern.rows

theorem nodup_tagged (simple : pattern.IsSimple) :
    ((pattern.cells.zipIdx 1).map (·.1)).Nodup := by
  rw [List.zipIdx_map_fst]
  exact nodup_cellsFrom simple 0

/-- The stored entries of the tags are the tagged cells. -/
theorem tags_perm (simple : pattern.IsSimple) :
    (Compressed.cellsOf 0 ((List.range pattern.rows.length).map
      (Compressed.rowOf (pattern.cells.zipIdx 1)))).Perm (pattern.cells.zipIdx 1) := by
  apply Compressed.cellsOf_perm (nodup_tagged simple)
  rintro ⟨cell, tag⟩ member
  have bounds := le_of_mem_cellsFrom (List.fst_mem_of_mem_zipIdx member)
  omega

/-- The tags in storage order number all computed values. -/
theorem tags_values_perm (simple : pattern.IsSimple) :
    pattern.tags.values.Perm (List.range' 1 pattern.size) := by
  have stored := (tags_perm simple).map (·.2)
  rw [List.zipIdx_map_snd, Compressed.map_snd_cellsOf, length_cells] at stored
  exact stored

theorem length_flatten_eq {β : Type} {rows : List (List Nat)} {gradients : List (List β)}
    (sized : List.Forall₂ (fun columns gradient => gradient.length = columns.length) rows
      gradients) : gradients.flatten.length = rows.flatten.length := by
  induction sized with
  | nil => rfl
  | cons same _ ih => simp [same, ih]

/-- Values that come in parts may be written part by part. -/
theorem foldl_scatter_cut {α : Type} {rows : List (List Nat)} {gradients : List (List α)}
    (sized : List.Forall₂ (fun columns gradient => gradient.length = columns.length) rows
      gradients)
    {places : List Nat} (enough : places.length = rows.flatten.length) (buffer : List α) :
    ((cut rows places).zip gradients).foldl
      (fun buffer (places, found) => scatter buffer places found) buffer =
        scatter buffer places gradients.flatten := by
  induction sized generalizing places buffer with
  | nil =>
      obtain rfl : places = [] := List.eq_nil_of_length_eq_zero enough
      rfl
  | @cons columns gradient rest others same _ ih =>
      rw [List.flatten_cons, List.length_append] at enough
      have sizedRest : (places.drop columns.length).length = rest.flatten.length := by
        rw [List.length_drop]
        omega
      have sizedFirst : (places.take columns.length).length = gradient.length := by
        rw [List.length_take, same]
        omega
      rw [cut, List.zip_cons_cons, List.foldl_cons, ih sizedRest, List.flatten_cons,
        ← scatter_append sizedFirst, List.take_append_drop]

theorem map_zipIdx_getD {β γ : Type} {items : List β} {values : List γ}
    (sized : values.length = items.length) (filler : γ) :
    (items.zipIdx 1).map (fun entry => (entry.1, values.getD (entry.2 - 1) filler)) =
      items.zip values := by
  apply List.ext_getElem
  · simp [sized]
  · intro index inRange _
    have inValues : index < values.length := by simpa [sized] using inRange
    simp [inValues]

variable {α : Type} [Scalar α]

/-- Arranged values are the computed ones in the order of the tags. -/
theorem arrange_eq_map (simple : pattern.IsSimple) {gradients : List (List α)}
    (sized : List.Forall₂ (fun columns gradient => gradient.length = columns.length) pattern.rows
      gradients) :
    pattern.arrange gradients =
      pattern.tags.values.map fun tag => gradients.flatten.getD (tag - 1) Scalar.zero := by
  have enough : (inverse pattern.size pattern.tags.values).length = pattern.rows.flatten.length :=
    length_inverse
  rw [arrange, positions, foldl_scatter_cut sized enough]
  exact scatter_inverse (tags_values_perm simple) Scalar.zero (length_flatten_eq sized)

/-- The stored entries of a matrix with arranged values are the cells of its pattern with the values
that were computed for them. -/
theorem triples_perm (simple : pattern.IsSimple) {gradients : List (List α)}
    (sized : List.Forall₂ (fun columns gradient => gradient.length = columns.length) pattern.rows
      gradients) (width : Nat) :
    (SparseMatrix.mk pattern width (pattern.arrange gradients)).triples.Perm
      (pattern.cells.zip gradients.flatten) := by
  have stored := (tags_perm simple).map
    fun entry => (entry.1, gradients.flatten.getD (entry.2 - 1) (Scalar.zero : α))
  have lengths : gradients.flatten.length = pattern.cells.length :=
    (length_flatten_eq sized).trans length_cells.symm
  rw [map_zipIdx_getD lengths] at stored
  rw [SparseMatrix.triples, arrange_eq_map simple sized, List.zip_map_right, starts, columns, tags,
    Compressed.ofEntries]
  rw [Compressed.zip_startsFrom]
  exact stored

end Pattern

end Intertemporal
