import Mathlib.Data.List.Basic
import Intertemporal.Table
import Intertemporal.Proofs.Lists

/-!
# Keys of tables

A key that is stored keeps its place, and a new one goes to the end.
-/

namespace Intertemporal.Table

variable {κ β : Type} [BEq κ] [LawfulBEq κ] {table : Table κ β} {key : κ}

theorem keys_insertEntry (key : κ) (value : β) (entries : List (κ × β)) :
    (insertEntry key value entries).map (·.1) =
      if key ∈ entries.map (·.1) then entries.map (·.1) else entries.map (·.1) ++ [key] := by
  induction entries with
  | nil => rfl
  | cons entry rest ih =>
      rw [insertEntry]
      by_cases same : key = entry.1
      · simp [same]
      · rw [if_neg (by simpa using same), List.map_cons, ih, List.map_cons]
        by_cases later : key ∈ rest.map (·.1)
        · rw [if_pos later, if_pos (List.mem_cons_of_mem _ later)]
        · rw [if_neg later, if_neg fun either => (List.mem_cons.mp either).elim same later,
            List.cons_append]

theorem mem_keys_iff : key ∈ table.keys ↔ ∃ value, table.get? key = some value := by
  obtain ⟨entries⟩ := table
  unfold keys get?
  dsimp only
  induction entries with
  | nil => simp
  | cons entry rest ih =>
      rw [List.map_cons, List.mem_cons, List.lookup_cons]
      by_cases same : key = entry.1
      · simp [same]
      · rw [beq_false_of_ne same, ← ih]
        exact or_iff_right same

/-- In a table without repeated keys, a key has the value that it is stored with. -/
theorem get?_eq_some_iff (distinct : table.keys.Nodup) {value : β} :
    table.get? key = some value ↔ (key, value) ∈ table.entries :=
  lookup_eq_some_iff distinct

theorem keys_insert_of_mem (stored : key ∈ table.keys) (value : β) :
    (table.insert key value).keys = table.keys :=
  (keys_insertEntry key value table.entries).trans (if_pos stored)

theorem keys_insert_of_notMem (fresh : key ∉ table.keys) (value : β) :
    (table.insert key value).keys = table.keys ++ [key] :=
  (keys_insertEntry key value table.entries).trans (if_neg fresh)

/-- A key that is new gets its value. -/
theorem insertNew_of_notMem (fresh : key ∉ table.keys) (value : β) :
    table.insertNew key value = table.insert key value := by
  unfold insertNew contains
  rw [mem_keys_iff, not_exists] at fresh
  rcases found : table.get? key with _ | stored
  · rfl
  · exact absurd found (fresh stored)

/-- A table without repeated keys is determined by its keys and their values. -/
theorem eq_of_get? {other : Table κ β} (distinct : table.keys.Nodup)
    (keys : table.keys = other.keys)
    (values : ∀ key ∈ table.keys, table.get? key = other.get? key) : table = other := by
  obtain ⟨entries⟩ := table
  obtain ⟨others⟩ := other
  unfold Table.keys at distinct keys values
  unfold get? at values
  dsimp only at distinct keys values
  congr 1
  induction entries generalizing others with
  | nil => exact (List.map_eq_nil_iff.mp keys.symm).symm
  | cons entry rest ih =>
      obtain ⟨key, value⟩ := entry
      rcases others with _ | ⟨⟨_, valueRight⟩, later⟩
      · cases keys
      · obtain ⟨rfl, keysRest⟩ := List.cons.inj keys
        obtain ⟨fresh, distinctRest⟩ := List.nodup_cons.mp distinct
        have here := values key List.mem_cons_self
        rw [List.lookup_cons_self, List.lookup_cons_self] at here
        rw [Option.some.inj here, ih distinctRest later keysRest]
        intro other member
        have there := values other (List.mem_cons_of_mem _ member)
        have differs : (other == key) = false :=
          beq_false_of_ne fun same => fresh (same ▸ member)
        rwa [List.lookup_cons, List.lookup_cons, differs] at there

end Intertemporal.Table
