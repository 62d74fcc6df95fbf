import Intertemporal.Proofs.Expression.Refusals
import Intertemporal.Proofs.Source.Retention
import Intertemporal.Proofs.Symbols

/-!
# Declared identifiers

An equation text may contain the declared symbols, the current date inside an index, and the names
of what is called. Every identifier of a normal term is looked up, so a normal term that is accepted
contains nothing else. Of an equation text as much is true of whatever its expansion contains. What
an expansion leaves out is never looked up: the ratio of a moving sum over a single period may
contain any identifier.
-/

namespace Intertemporal

open Source (Term Occurrence Place)

variable {α : Type}

namespace SymbolTable

variable {symbols : SymbolTable}

/-- The identifiers that equations may contain, in the places where they may contain them. -/
inductive Permits (symbols : SymbolTable) : Occurrence → Prop
  | declared {identifier place} (member : identifier ∈ symbols.names) :
      Permits symbols ⟨identifier, place⟩
  | currentDate : Permits symbols ⟨Term.timeName, .index⟩
  | function {identifier function} (named : Function.ofName? identifier = some function) :
      Permits symbols ⟨identifier, .called⟩
  | operator {identifier operator} (named : Operator.ofName? identifier = some operator) :
      Permits symbols ⟨identifier, .called⟩
  | steadyState : Permits symbols ⟨Term.steadyStateName, .called⟩

/-- Where a value is used, only declared symbols are permitted. -/
theorem Permits.mem_names {occurrence : Occurrence} (permitted : symbols.Permits occurrence)
    (valued : occurrence.place = .operand) : occurrence.identifier ∈ symbols.names := by
  cases permitted with
  | declared member => exact member
  | _ => cases valued

end SymbolTable

namespace Expression

variable {symbols : SymbolTable} {place : String} {expression : Expression α}
  {occurrence : Occurrence}

variable [Scalar α]

/-- Every identifier of a normal term is looked up. -/
theorem permits_of_resolvesTo {term : Term α} (resolves : term.ResolvesTo symbols expression)
    (occurs : occurrence ∈ term.occurrences .operand) : symbols.Permits occurrence := by
  induction resolves using Term.ResolvesTo.induction with
  | integer | real => cases occurs
  | parameter _ declared =>
      rw [Term.occurrences] at occurs
      rw [List.mem_singleton.mp occurs]
      exact .declared (SymbolTable.mem_names_of_isParameter declared)
  | series _ _ declared =>
      rw [Term.occurrences] at occurs
      rw [List.mem_singleton.mp occurs]
      exact .declared (SymbolTable.mem_names_of_isSeries declared)
  | dated declared read =>
      rw [Term.occurrences, Term.occurrences, Term.occurrences_of_offset? read] at occurs
      rcases List.mem_cons.mp occurs with rfl | inIndex
      · exact .declared (SymbolTable.mem_names_of_isSeries declared)
      · rw [List.mem_singleton.mp inIndex]
        exact .currentDate
  | element _ declared read =>
      rw [Term.occurrences, Term.occurrences, Term.occurrences_of_integer? read] at occurs
      rw [List.mem_singleton.mp occurs]
      exact .declared (SymbolTable.mem_names_of_isParameter declared)
  | steadyState declared =>
      rcases List.mem_cons.mp occurs with rfl | inside
      · exact .steadyState
      · rw [List.mem_singleton.mp inside]
        exact .declared (SymbolTable.mem_names_of_isVariable declared)
  | minus _ ih => exact ih occurs
  | plus _ ih => exact ih occurs
  | binary _ _ _ ihLeft ihRight =>
      rcases List.mem_append.mp occurs with here | here
      · exact ihLeft here
      · exact ihRight here
  | call known _ ih =>
      rw [Term.occurrences, Term.occurrences, Term.allOccurrences_eq, Term.allOccurrences,
        List.append_nil, List.singleton_append] at occurs
      rcases List.mem_cons.mp occurs with rfl | inside
      · exact .function known
      · rcases List.mem_flatMap.mp inside with ⟨term, member, here⟩
        rcases exists_of_mem_left ih member with ⟨_, -, _, permitted⟩
        exact permitted here

/-- Every identifier of an accepted equation text is declared, is the current date inside an index,
or names a function, an operator or the steady state where one is called, unless it stands in the
ratio of a weighted sum over a single period. -/
theorem ofText_permits {name text : String} (accepted : ofText symbols name text = .ok expression) :
    ∃ term : Term α, Source.Statement.residual text = .ok term ∧
      ∀ occurrence ∈ term.occurrences .operand,
        symbols.Permits occurrence ∨
          (term.atCurrentDate symbols.seriesNames).LeavesOut occurrence := by
  rcases bind_eq_ok.mp accepted with ⟨term, read, remaining⟩
  rcases bind_eq_ok.mp remaining with ⟨normal, expanded, resolved⟩
  refine ⟨term, mapError_eq_ok.mp read, fun occurrence occurs => ?_⟩
  have dated := Term.occurrences_subset_atCurrentDate symbols.seriesNames term occurs
  rcases Term.occurs_of_expandOperators (mapError_eq_ok.mp expanded) dated with kept | used | left
  · exact .inl (permits_of_resolvesTo (ofTerm_eq_ok.mp resolved) kept)
  · rcases used with ⟨called, operator⟩
    rcases Option.isSome_iff_exists.mp operator with ⟨found, named⟩
    rcases occurrence with ⟨identifier, place⟩
    cases called
    exact .inl (.operator named)
  · exact .inr left

set_option maxRecDepth 100000 in
theorem ofText_lag_sub :
    ofText (α := ℝ) seriesXY "" "lag(x) - y[t+1]" =
      .ok (.binary .sub (.series ⟨"x", -1⟩) (.series ⟨"y", 1⟩)) := by
  have stated : (Source.Statement.sides "lag(x) - y[t+1]".toList).map
      (Source.Statement.side (α := ℝ)) =
      [.ok (.binary .sub (.call (.name "lag") [.name "x"] [])
        (.subscript (.name "y") (.binary .add (.name "t") (.natural 1))))] := by
    cbv
  rw [ofText, Source.Statement.residual_of_side stated]
  rfl

theorem ofText_permits_lag_sub :
    ∃ term : Term ℝ, Source.Statement.residual "lag(x) - y[t+1]" = .ok term ∧
      ∀ occurrence ∈ term.occurrences .operand,
        seriesXY.Permits occurrence ∨
          (term.atCurrentDate seriesXY.seriesNames).LeavesOut occurrence :=
  ofText_permits ofText_lag_sub

set_option maxRecDepth 100000 in
/-- The ratio of a sum over one period is not looked up. -/
theorem ofText_undeclared_ratio :
    ∃ (expression : Expression ℝ) (term : Term ℝ),
      ofText seriesXY "" "movsumew(x, 1, foo)" = .ok expression ∧
        Source.Statement.residual "movsumew(x, 1, foo)" = .ok term ∧
        ⟨"foo", .operand⟩ ∈ term.occurrences .operand ∧
        ¬seriesXY.Permits ⟨"foo", .operand⟩ := by
  have stated : (Source.Statement.sides "movsumew(x, 1, foo)".toList).map
      (Source.Statement.side (α := ℝ)) =
      [.ok (.call (.name "movsumew") [.name "x", .natural 1, .name "foo"] [])] := by
    cbv
  refine ⟨.series ⟨"x", 0⟩, _, ?_, Source.Statement.residual_of_side stated, by decide, ?_⟩
  · rw [ofText, Source.Statement.residual_of_side stated]
    rfl
  · intro permitted
    exact absurd (permitted.mem_names rfl) (by decide)

end Expression

end Intertemporal
