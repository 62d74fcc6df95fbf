import Mathlib.Data.List.Induction
import Intertemporal.Program.Basic
import Intertemporal.Proofs.Expression.References
import Intertemporal.Proofs.Expression.Resolution
import Intertemporal.Proofs.Lists

/-!
# What occurs in an expression

The references of an expression are what occurs in its nodes, each once and in the order in which it
first occurs. If the expression was read from text, or has passed the check, all of them are
declared.
-/

namespace Intertemporal

/-- A list of what occurs in another one: each item once, in the order of first occurrence. -/
structure ListsOnce {β : Type} [BEq β] (occurring listed : List β) : Prop where
  nodup : listed.Nodup
  mem_iff : ∀ item, item ∈ listed ↔ item ∈ occurring
  ordered : listed.Pairwise fun first second => occurring.idxOf first < occurring.idxOf second

namespace ListsOnce

variable {β : Type} [BEq β] [LawfulBEq β] {occurring listed : List β}

omit [LawfulBEq β] in
theorem nil : ListsOnce ([] : List β) [] :=
  ⟨List.nodup_nil, fun _ => Iff.rfl, .nil⟩

/-- An item that occurs after all others is listed last, if it is not listed already. -/
theorem append (lists : ListsOnce occurring listed) (item : β) :
    ListsOnce (occurring ++ [item]) (appendNew listed item) := by
  have kept : listed.Pairwise fun first second =>
      (occurring ++ [item]).idxOf first < (occurring ++ [item]).idxOf second := by
    apply lists.ordered.imp_of_mem
    intro first second memberFirst memberSecond before
    rwa [List.idxOf_append_of_mem ((lists.mem_iff first).mp memberFirst),
      List.idxOf_append_of_mem ((lists.mem_iff second).mp memberSecond)]
  refine ⟨nodup_appendNew lists.nodup item, ?_, ?_⟩
  · intro other
    unfold appendNew
    split
    · rename_i found
      have occurs := (lists.mem_iff item).mp (List.contains_iff_mem.mp found)
      rw [lists.mem_iff, List.mem_append, List.mem_singleton]
      exact ⟨Or.inl, fun either => either.elim id fun same => same ▸ occurs⟩
    · rw [List.mem_append, List.mem_append, lists.mem_iff]
  · unfold appendNew
    split
    · exact kept
    · rename_i fresh
      have unlisted : item ∉ occurring := by
        rw [← lists.mem_iff]
        simpa using fresh
      refine List.pairwise_append.mpr ⟨kept, List.pairwise_singleton _ _, ?_⟩
      intro first memberFirst second memberSecond
      rw [List.mem_singleton.mp memberSecond,
        List.idxOf_append_of_mem ((lists.mem_iff first).mp memberFirst),
        List.idxOf_append_of_notMem unlisted]
      exact Nat.lt_add_right _ (List.idxOf_lt_length_of_mem ((lists.mem_iff first).mp memberFirst))

end ListsOnce

namespace Expression

variable {α : Type}

/-- The series that a node is. -/
def series? : Expression α → Option TimedVariable
  | .series reference => some reference
  | _ => none

/-- The variable whose steady state a node is. -/
def steadyState? : Expression α → Option String
  | .steadyState name => some name
  | _ => none

/-- The parameter that a node is, or an element of which it is. -/
def parameter? : Expression α → Option String
  | .parameter name _ => some name
  | _ => none

theorem mem_filterMap_series? {nodes : List (Expression α)} {reference : TimedVariable} :
    reference ∈ nodes.filterMap series? ↔ .series reference ∈ nodes := by
  rw [List.mem_filterMap]
  constructor
  · rintro ⟨node, member, same⟩
    cases node <;> cases same
    exact member
  · exact fun member => ⟨_, member, rfl⟩

end Expression

/-- References that list what nodes refer to, each once and in order of first occurrence. -/
structure References.IsRecordOf {α : Type} (references : References) (nodes : List (Expression α)) :
    Prop where
  series : ListsOnce (nodes.filterMap Expression.series?) references.series
  steadyStates : ListsOnce (nodes.filterMap Expression.steadyState?) references.steadyStates
  parameters : ListsOnce (nodes.filterMap Expression.parameter?) references.parameters

namespace Expression

variable {α : Type}

theorem isRecordOf_addReference {references : References} {nodes : List (Expression α)}
    (recorded : references.IsRecordOf nodes) (node : Expression α) :
    (node.addReference references).IsRecordOf (nodes ++ [node]) := by
  obtain ⟨series, steadyStates, parameters⟩ := recorded
  cases node with
  | series reference =>
      refine ⟨?_, ?_, ?_⟩ <;> rw [List.filterMap_append]
      · exact series.append reference
      · exact (List.append_nil _).symm ▸ steadyStates
      · exact (List.append_nil _).symm ▸ parameters
  | steadyState name =>
      refine ⟨?_, ?_, ?_⟩ <;> rw [List.filterMap_append]
      · exact (List.append_nil _).symm ▸ series
      · exact steadyStates.append name
      · exact (List.append_nil _).symm ▸ parameters
  | parameter name index =>
      refine ⟨?_, ?_, ?_⟩ <;> rw [List.filterMap_append]
      · exact (List.append_nil _).symm ▸ series
      · exact (List.append_nil _).symm ▸ steadyStates
      · exact parameters.append name
  | _ =>
      refine ⟨?_, ?_, ?_⟩ <;> rw [List.filterMap_append]
      · exact (List.append_nil _).symm ▸ series
      · exact (List.append_nil _).symm ▸ steadyStates
      · exact (List.append_nil _).symm ▸ parameters

/-- What an expression refers to is listed once, in the order of first occurrence. -/
theorem isRecordOf_references (expression : Expression α) :
    expression.references.IsRecordOf expression.nodes := by
  have recorded : ∀ nodes : List (Expression α),
      (nodes.foldl addReference {}).IsRecordOf nodes := by
    -- nodes are visited from left to right, so the induction is on the last of them
    intro nodes
    induction nodes using List.reverseRecOn with
    | nil => exact ⟨.nil, .nil, .nil⟩
    | append_singleton rest node ih =>
        rw [List.foldl_append]
        exact isRecordOf_addReference ih node
  exact recorded expression.nodes

end Expression

/-- A table that declares everything that is referred to, as what it is referred to. -/
structure SymbolTable.Declares (symbols : SymbolTable) (references : References) : Prop where
  series : ∀ reference ∈ references.series, reference.name ∈ symbols.seriesNames
  steadyStates : ∀ name ∈ references.steadyStates, name ∈ symbols.variableNames
  parameters : ∀ name ∈ references.parameters, name ∈ symbols.parameterNames

theorem SymbolTable.Declares.mono {symbols later : SymbolTable} {references : References}
    (declares : symbols.Declares references)
    (variablesStay : symbols.variableNames ⊆ later.variableNames)
    (shocksStay : symbols.shockNames ⊆ later.shockNames)
    (parametersStay : symbols.parameterNames ⊆ later.parameterNames) :
    later.Declares references where
  series reference member := by
    rcases List.mem_append.mp (declares.series reference member) with isVariable | isShock
    · exact List.mem_append_left _ (variablesStay isVariable)
    · exact List.mem_append_right _ (shocksStay isShock)
  steadyStates name member := variablesStay (declares.steadyStates name member)
  parameters name member := parametersStay (declares.parameters name member)

theorem SymbolTable.isSeries_iff {symbols : SymbolTable} {name : String} :
    symbols.isSeries name = true ↔ name ∈ symbols.seriesNames := by
  rw [isSeries, seriesNames, Bool.or_eq_true, List.contains_iff_mem, List.contains_iff_mem,
    List.mem_append]

namespace Expression

variable {α : Type}

/-- Whether everything that an expression refers to is declared. -/
def IsDeclared (symbols : SymbolTable) (place : String) (expression : Expression α) : Prop :=
  ∀ node ∈ expression.nodes, node.undeclared? symbols place = none

variable {symbols : SymbolTable} {place : String} {expression : Expression α}

theorem isDeclared_of_checkReferences
    (checked : expression.checkReferences symbols place = .ok ()) :
    expression.IsDeclared symbols place := by
  unfold checkReferences at checked
  split at checked
  · cases checked
  · rename_i none
    simpa [IsDeclared] using none

theorem IsDeclared.declares (declared : expression.IsDeclared symbols place) :
    symbols.Declares expression.references := by
  have recorded := expression.isRecordOf_references
  refine ⟨?_, ?_, ?_⟩
  · intro reference member
    rcases List.mem_filterMap.mp ((recorded.series.mem_iff _).mp member) with ⟨node, among, same⟩
    cases node <;> cases same
    have here := declared _ among
    rw [undeclared?, ite_eq_left_iff] at here
    refine SymbolTable.isSeries_iff.mp (not_not.mp fun unknown => ?_)
    exact Option.some_ne_none _ (here unknown)
  · intro name member
    rcases List.mem_filterMap.mp ((recorded.steadyStates.mem_iff _).mp member) with
      ⟨node, among, same⟩
    cases node <;> cases same
    have here := declared _ among
    simpa [undeclared?, SymbolTable.isVariable] using here
  · intro name member
    rcases List.mem_filterMap.mp ((recorded.parameters.mem_iff _).mp member) with
      ⟨node, among, same⟩
    cases node <;> cases same
    have here := declared _ among
    simpa [undeclared?, SymbolTable.isParameter] using here

/-- What refers to declared names only is accepted. -/
theorem checkReferences_of_declares (declares : symbols.Declares expression.references) :
    expression.checkReferences symbols place = .ok () := by
  have none : expression.nodes.findSome? (undeclared? symbols place) = none := by
    rw [List.findSome?_eq_none_iff]
    intro node member
    have listed := expression.covers_references node member
    cases node with
    | series reference =>
        exact if_pos (SymbolTable.isSeries_iff.mpr (declares.series reference listed))
    | steadyState name =>
        exact if_pos (List.contains_iff_mem.mpr (declares.steadyStates name listed))
    | parameter name index =>
        exact if_pos (List.contains_iff_mem.mpr (declares.parameters name listed))
    | _ => rfl
  rw [checkReferences, none]

/-- A node without parts is declared if it stands for something declared. -/
theorem isDeclared_of_nodes (alone : expression.nodes = [expression])
    (declared : expression.undeclared? symbols place = none) :
    expression.IsDeclared symbols place := by
  intro node member
  rw [alone, List.mem_singleton] at member
  exact member ▸ declared

section Reading

variable [Scalar α]

/-- What a normal term resolves to refers to declared names only. -/
theorem isDeclared_of_resolvesTo {term : Source.Term α}
    (resolves : term.ResolvesTo symbols expression) : expression.IsDeclared symbols place := by
  induction resolves using Source.Term.ResolvesTo.induction with
  | integer | real => exact isDeclared_of_nodes rfl rfl
  | parameter _ declared => exact isDeclared_of_nodes rfl (if_pos declared)
  | series _ _ declared => exact isDeclared_of_nodes rfl (if_pos declared)
  | dated declared => exact isDeclared_of_nodes rfl (if_pos declared)
  | element _ declared => exact isDeclared_of_nodes rfl (if_pos declared)
  | steadyState declared => exact isDeclared_of_nodes rfl (if_pos declared)
  | minus _ ih => exact List.forall_mem_cons.mpr ⟨rfl, ih⟩
  | plus _ ih => exact ih
  | binary _ _ _ ihLeft ihRight =>
      exact List.forall_mem_cons.mpr ⟨rfl, List.forall_mem_append.mpr ⟨ihLeft, ihRight⟩⟩
  | call _ _ ih =>
      refine List.forall_mem_cons.mpr ⟨rfl, fun node member => ?_⟩
      obtain ⟨argument, among, inside⟩ := mem_nodesOfAll.mp member
      obtain ⟨_, -, _, declared⟩ := exists_of_mem_right ih among
      exact declared node inside

/-- The expression that a text states refers to declared names only. -/
theorem isDeclared_ofText {name text : String}
    (read : ofText symbols name text = .ok expression) :
    expression.IsDeclared symbols (placeOf name text) := by
  obtain ⟨_, _, remaining⟩ := bind_eq_ok.mp read
  obtain ⟨_, _, converted⟩ := bind_eq_ok.mp remaining
  exact isDeclared_of_resolvesTo (ofTerm_eq_ok.mp converted)

end Reading

end Expression

end Intertemporal
