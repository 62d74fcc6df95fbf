/-!
# Tables in insertion order

A table maps keys to values and remembers the order in which keys first came in. Giving a new value
to a key that is already there keeps its place. Answers list parameters, steady-state entries and
incidence in this order, so the order belongs to the type.

The view of a table is its look-up `get?`; `get?_insert` says what an insertion does to it.
-/

namespace Intertemporal

/-- Keyed entries in the order in which their keys were first inserted. -/
structure Table (κ β : Type) where
  entries : List (κ × β) := []

namespace Table

variable {κ β γ : Type}

/-- The table without entries. -/
def empty : Table κ β := {}

/-- The keys, oldest first. -/
def keys (table : Table κ β) : List κ := table.entries.map (·.1)

/-- The values, in the order of their keys. -/
def values (table : Table κ β) : List β := table.entries.map (·.2)

/-- The number of entries. -/
def size (table : Table κ β) : Nat := table.entries.length

/-- Apply a function to every value. -/
def map (change : β → γ) (table : Table κ β) : Table κ γ :=
  ⟨table.entries.map fun entry => (entry.1, change entry.2)⟩

variable [BEq κ]

/-- The value stored under a key. -/
def get? (table : Table κ β) (key : κ) : Option β := table.entries.lookup key

/-- The value stored under a key, or a given one if the key is not there. -/
def getD (table : Table κ β) (key : κ) (fallback : β) : β := (table.get? key).getD fallback

/-- Whether a key has a value. -/
def contains (table : Table κ β) (key : κ) : Bool := (table.get? key).isSome

/-- Replace the value of the first entry with the given key, or append a new entry. -/
def insertEntry (key : κ) (value : β) : List (κ × β) → List (κ × β)
  | [] => [(key, value)]
  | entry :: rest =>
    if key == entry.1 then (entry.1, value) :: rest else entry :: insertEntry key value rest

/-- Store a value: an existing key keeps its place, a new one goes to the end. -/
def insert (table : Table κ β) (key : κ) (value : β) : Table κ β :=
  ⟨insertEntry key value table.entries⟩

/-- Store a value unless the key already has one. -/
def insertNew (table : Table κ β) (key : κ) (value : β) : Table κ β :=
  if table.contains key then table else table.insert key value

/-- Store the given pairs one after another. -/
def insertAll (table : Table κ β) (pairs : List (κ × β)) : Table κ β :=
  pairs.foldl (fun grown pair => grown.insert pair.1 pair.2) table

/-- The table of the given pairs; the last value of a repeated key wins. -/
def ofList (pairs : List (κ × β)) : Table κ β := empty.insertAll pairs

/-- The empty table has no value for any key. -/
@[simp]
theorem get?_empty (key : κ) : (empty : Table κ β).get? key = none := rfl

/-- Looking up in entries after an insertion. -/
theorem lookup_insertEntry [LawfulBEq κ] (key other : κ) (value : β) (entries : List (κ × β)) :
    (insertEntry key value entries).lookup other =
      if other == key then some value else entries.lookup other := by
  induction entries with
  | nil => simp only [insertEntry, List.lookup_cons, List.lookup_nil]; cases other == key <;> rfl
  | cons entry rest ih =>
    by_cases same : key = entry.1
    · subst same
      simp only [insertEntry, BEq.rfl, if_true]
      rw [List.lookup_cons, List.lookup_cons]
      cases other == entry.1 <;> rfl
    · have differs : (key == entry.1) = false := by simpa using same
      simp only [insertEntry, differs, Bool.false_eq_true, if_false]
      rw [List.lookup_cons, List.lookup_cons]
      by_cases hit : other = entry.1
      · subst hit
        simp [Ne.symm same]
      · have miss : (other == entry.1) = false := by simpa using hit
        simp only [miss]
        exact ih

/-- Looking up after an insertion finds the new value at its key and nothing new elsewhere. -/
theorem get?_insert [LawfulBEq κ] (table : Table κ β) (key other : κ) (value : β) :
    (table.insert key value).get? other =
      if other == key then some value else table.get? other :=
  lookup_insertEntry key other value table.entries

end Table

end Intertemporal
