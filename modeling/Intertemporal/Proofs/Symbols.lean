import Mathlib.Data.List.Basic
import Intertemporal.Symbols
import Intertemporal.Proofs.Outcome

/-!
# Names of symbols

A name is declared once, whatever its kind: declaring a symbol fails if its name is there already.
-/

namespace Intertemporal.SymbolTable

variable {symbols changed : SymbolTable} {name : String}

/-- All declared names. -/
def names (symbols : SymbolTable) : List String :=
  symbols.variableNames ++ symbols.shockNames ++ symbols.parameterNames

/-- A table in which no name is declared twice. -/
def IsDistinct (symbols : SymbolTable) : Prop := symbols.names.Nodup

theorem mem_names_of_isParameter (found : symbols.isParameter name = true) :
    name ∈ symbols.names :=
  List.mem_append_right _ (List.contains_iff_mem.mp found)

theorem mem_names_of_isSeries (found : symbols.isSeries name = true) : name ∈ symbols.names := by
  rw [isSeries, Bool.or_eq_true, List.contains_iff_mem, List.contains_iff_mem] at found
  exact List.mem_append_left _ (List.mem_append.mpr found)

theorem mem_names_of_isVariable (found : symbols.isVariable name = true) : name ∈ symbols.names :=
  List.mem_append_left _ (List.mem_append_left _ (List.contains_iff_mem.mp found))

/-- A name that passes the check is new. -/
theorem notMem_names_of_checkNew {kind : SymbolKind}
    (checked : symbols.checkNew name kind = .ok ()) : name ∉ symbols.names := by
  have unknown : symbols.kind? name = none := by
    unfold checkNew at checked
    split at checked
    · cases checked
    · assumption
  simp only [kind?, List.contains_iff_mem] at unknown
  split_ifs at unknown with noVariable noShock noParameter
  simp [names, noVariable, noShock, noParameter]

/-- A new name passes the check. -/
theorem checkNew_of_notMem (fresh : name ∉ symbols.names) (kind : SymbolKind) :
    symbols.checkNew name kind = .ok () := by
  simp only [names, List.mem_append, not_or] at fresh
  simp [checkNew, kind?, fresh]

theorem of_addVariable {added : Variable} (declared : symbols.addVariable added = .ok changed) :
    added.name ∉ symbols.names ∧
      changed = { symbols with allVariables := symbols.allVariables ++ [added] } := by
  obtain ⟨_, checked, stored⟩ := bind_eq_ok.mp declared
  cases stored
  exact ⟨notMem_names_of_checkNew checked, rfl⟩

theorem of_addShock {added : Shock} (declared : symbols.addShock added = .ok changed) :
    added.name ∉ symbols.names ∧
      changed = { symbols with shocks := symbols.shocks ++ [added] } := by
  obtain ⟨_, checked, stored⟩ := bind_eq_ok.mp declared
  cases stored
  exact ⟨notMem_names_of_checkNew checked, rfl⟩

theorem of_addParameter {added : Parameter} (declared : symbols.addParameter added = .ok changed) :
    added.name ∉ symbols.names ∧
      changed = { symbols with parameters := symbols.parameters ++ [added] } := by
  obtain ⟨_, checked, stored⟩ := bind_eq_ok.mp declared
  cases stored
  exact ⟨notMem_names_of_checkNew checked, rfl⟩

theorem isDistinct_addVariable {added : Variable} (distinct : symbols.IsDistinct)
    (declared : symbols.addVariable added = .ok changed) : changed.IsDistinct := by
  obtain ⟨fresh, rfl⟩ := of_addVariable declared
  have moved : (names { symbols with allVariables := symbols.allVariables ++ [added] }).Perm
      (added.name :: symbols.names) := by
    simp only [names, variableNames, shockNames, parameterNames, List.map_append, List.map_cons,
      List.map_nil, List.append_assoc, List.singleton_append]
    exact List.perm_middle
  exact moved.nodup_iff.mpr (List.nodup_cons.mpr ⟨fresh, distinct⟩)

theorem isDistinct_addShock {added : Shock} (distinct : symbols.IsDistinct)
    (declared : symbols.addShock added = .ok changed) : changed.IsDistinct := by
  obtain ⟨fresh, rfl⟩ := of_addShock declared
  have moved : (names { symbols with shocks := symbols.shocks ++ [added] }).Perm
      (added.name :: symbols.names) := by
    simp only [names, variableNames, shockNames, parameterNames, List.map_append, List.map_cons,
      List.map_nil, List.append_assoc, List.singleton_append]
    rw [← List.append_assoc, ← List.append_assoc]
    exact List.perm_middle
  exact moved.nodup_iff.mpr (List.nodup_cons.mpr ⟨fresh, distinct⟩)

theorem isDistinct_addParameter {added : Parameter} (distinct : symbols.IsDistinct)
    (declared : symbols.addParameter added = .ok changed) : changed.IsDistinct := by
  obtain ⟨fresh, rfl⟩ := of_addParameter declared
  have moved : (names { symbols with parameters := symbols.parameters ++ [added] }).Perm
      (added.name :: symbols.names) := by
    simp only [names, variableNames, shockNames, parameterNames, List.map_append, List.map_cons,
      List.map_nil, ← List.append_assoc]
    exact List.perm_append_singleton _ _
  exact moved.nodup_iff.mpr (List.nodup_cons.mpr ⟨fresh, distinct⟩)

/-- The columns of an evaluation point have different names. -/
theorem IsDistinct.nodup_seriesNames (distinct : symbols.IsDistinct) : symbols.seriesNames.Nodup :=
  (List.nodup_append.mp distinct).1

end Intertemporal.SymbolTable
