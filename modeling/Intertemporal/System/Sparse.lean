import Intertemporal.Scalar

/-!
# Sparse matrices in compressed rows

A matrix in compressed rows is assembled from entries that come in any order. Entries are stored row
after row, and by column within a row; entries at the same place are added up.

A sparsity pattern lists for every row the columns that have an entry, in the order in which the
values of the row are computed, which is not the storage order. To find out where each value goes, a
matrix is assembled from tags that number the values. The tags in storage order are a permutation,
and its inverse gives the positions (`Pattern.positions`). `Pattern.arrange` brings computed values
into storage order.

A sparse matrix is a pattern with values in storage order. `SparseMatrix.triples` lists its entries
with their rows and columns.
-/

namespace Intertemporal

/-- A matrix in compressed rows: where the rows begin in storage, with the end of the storage as the
last number, and the columns and values of all entries. -/
structure Compressed (α : Type) where
  starts : List Nat
  columns : List Nat
  values : List α

namespace Compressed

variable {α : Type}

/-- Add up neighbouring entries of the same column. -/
def merge [Add α] : List (Nat × α) → List (Nat × α)
  | [] => []
  | entry :: rest =>
    match merge rest with
    | [] => [entry]
    | next :: others =>
      if entry.1 = next.1 then (entry.1, entry.2 + next.2) :: others
      else entry :: next :: others

/-- The columns and values of one row, in the order in which they come. -/
def rowEntries (entries : List ((Nat × Nat) × α)) (row : Nat) : List (Nat × α) :=
  (entries.filter fun entry => entry.1.1 == row).map fun entry => (entry.1.2, entry.2)

/-- Put an entry before the first one that does not have an earlier column. -/
def insertEntry (entry : Nat × α) : List (Nat × α) → List (Nat × α)
  | [] => [entry]
  | next :: rest =>
    if entry.1 ≤ next.1 then entry :: next :: rest else next :: insertEntry entry rest

/-- The columns and values of one row, in storage order. -/
def rowOf [Add α] (entries : List ((Nat × Nat) × α)) (row : Nat) : List (Nat × α) :=
  merge ((rowEntries entries row).foldr insertEntry [])

/-- Where rows of the given lengths begin, if the first begins at `start`; the last number is where
the last of them ends. -/
def startsFrom (start : Nat) : List Nat → List Nat
  | [] => [start]
  | length :: rest => start :: startsFrom (start + length) rest

/-- The matrix of entries with their rows and columns. -/
def ofEntries [Add α] (height : Nat) (entries : List ((Nat × Nat) × α)) : Compressed α :=
  let rows := (List.range height).map (rowOf entries)
  { starts := startsFrom 0 (rows.map List.length)
    columns := rows.flatten.map (·.1)
    values := rows.flatten.map (·.2) }

end Compressed

/-- The columns with an entry, for every row, in the order in which values are computed. -/
structure Pattern where
  rows : List (List Nat)
deriving DecidableEq, Repr

namespace Pattern

/-- The number of entries. -/
def size (pattern : Pattern) : Nat := pattern.rows.flatten.length

/-- The row and the column of every entry, from a given row on, in the order in which values are
computed. -/
def cellsFrom (row : Nat) : List (List Nat) → List (Nat × Nat)
  | [] => []
  | columns :: rest => columns.map (fun column => (row, column)) ++ cellsFrom (row + 1) rest

/-- The row and the column of every entry, in the order in which values are computed. -/
def cells (pattern : Pattern) : List (Nat × Nat) := cellsFrom 0 pattern.rows

/-- The matrix whose entries number the computed values, from one on. -/
def tags (pattern : Pattern) : Compressed Nat :=
  .ofEntries pattern.rows.length (pattern.cells.zipIdx 1)

/-- Where the rows begin in storage, and where the storage ends. -/
def starts (pattern : Pattern) : List Nat := pattern.tags.starts

/-- The columns of all entries in storage order. -/
def columns (pattern : Pattern) : List Nat := pattern.tags.columns

section Writing

variable {α : Type}

/-- Write values into places of a buffer. -/
def scatter (buffer : List α) (places : List Nat) (values : List α) : List α :=
  (places.zip values).foldl (fun buffer (place, value) => buffer.set place value) buffer

/-- Cut items into parts that are as long as the given ones. -/
def cut {β : Type} : List (List β) → List α → List (List α)
  | [], _ => []
  | part :: rest, items => items.take part.length :: cut rest (items.drop part.length)

end Writing

/-- The places of tags that number something from one on. -/
def inverse (size : Nat) (tags : List Nat) : List Nat :=
  scatter (List.replicate size 0) (tags.map (· - 1)) (List.range size)

/-- Where the computed values go in storage, for every row. -/
def positions (pattern : Pattern) : List (List Nat) :=
  cut pattern.rows (inverse pattern.size pattern.tags.values)

/-- Computed values in storage order. -/
def arrange {α : Type} [Scalar α] (pattern : Pattern) (values : List (List α)) : List α :=
  (pattern.positions.zip values).foldl
    (fun buffer (places, found) => scatter buffer places found)
    (List.replicate pattern.size Scalar.zero)

end Pattern

/-- A pattern with values in storage order. -/
structure SparseMatrix (α : Type) where
  pattern : Pattern
  width : Nat
  values : List α

namespace SparseMatrix

variable {α : Type}

/-- The row of every entry in storage, from a given row on, for rows that begin where the list
says. -/
def rowsFrom (row : Nat) : List Nat → List Nat
  | start :: stop :: rest =>
    List.replicate (stop - start) row ++ rowsFrom (row + 1) (stop :: rest)
  | _ => []

/-- The entries of a matrix in storage order, each with its row and its column. -/
def triples (sparse : SparseMatrix α) : List ((Nat × Nat) × α) :=
  ((rowsFrom 0 sparse.pattern.starts).zip sparse.pattern.columns).zip sparse.values

/-- The columns that are stored in a row. -/
def columnsOf (sparse : SparseMatrix α) (row : Nat) : List Nat :=
  let starts := sparse.pattern.starts
  (sparse.pattern.columns.take (starts.getD (row + 1) 0)).drop (starts.getD row 0)

/-- An entry of a matrix, if it is stored. -/
def entry? (sparse : SparseMatrix α) (row column : Nat) : Option α :=
  sparse.triples.lookup (row, column)

end SparseMatrix

end Intertemporal
