import Intertemporal.Proofs.Expression.Declarations
import Intertemporal.Proofs.Source.Redating

/-!
# More symbols

An equation that a symbol table accepts states the same once the table declares one more symbol
(`Expression.ofText_of_extended`). The names of the equation are declared already, so they mean what
they meant. What changes is that bare names of a new series get a date, and an accepted equation has
them only in the one place where names are not looked up, the ratio of a moving sum over a single
period.

There is a condition for names inside an index. There the current date is read as the series, if the
series is called `t`, and a date inside an index cannot be moved, if the index is part of an unused
ratio.
-/

namespace Intertemporal

open Source (Term Occurrence)

namespace SymbolTable

variable {symbols larger : SymbolTable} {name identifier : String}

/-- A table declares one symbol more than another one, of the given name. -/
inductive Extended (symbols larger : SymbolTable) : String → Prop
  | modelVariable {added : Variable} (done : symbols.addVariable added = .ok larger) :
      Extended symbols larger added.name
  | shock {added : Shock} (done : symbols.addShock added = .ok larger) :
      Extended symbols larger added.name
  | parameter {added : Parameter} (done : symbols.addParameter added = .ok larger) :
      Extended symbols larger added.name

namespace Extended

theorem notMem_names (extended : symbols.Extended larger name) : name ∉ symbols.names := by
  cases extended with
  | modelVariable done => exact (of_addVariable done).1
  | shock done => exact (of_addShock done).1
  | parameter done => exact (of_addParameter done).1

/-- Every other name is what it was. -/
theorem same (extended : symbols.Extended larger name) (other : identifier ≠ name) :
    larger.isVariable identifier = symbols.isVariable identifier ∧
      larger.isSeries identifier = symbols.isSeries identifier ∧
      larger.isParameter identifier = symbols.isParameter identifier := by
  cases extended with
  | modelVariable done =>
      obtain ⟨-, rfl⟩ := of_addVariable done
      simp [isVariable, isSeries, isParameter, variableNames, shockNames, parameterNames, other]
  | shock done =>
      obtain ⟨-, rfl⟩ := of_addShock done
      simp [isVariable, isSeries, isParameter, variableNames, shockNames, parameterNames, other]
  | parameter done =>
      obtain ⟨-, rfl⟩ := of_addParameter done
      simp [isVariable, isSeries, isParameter, variableNames, shockNames, parameterNames, other]

end Extended

end SymbolTable

namespace Expression

variable {α : Type} [Scalar α] {symbols larger : SymbolTable} {name : String}
  {expression : Expression α}

/-! ### Terms -/

/-- A normal term that is accepted is accepted by a table that declares more, also if bare names of
the new symbol have got dates. -/
theorem resolvesTo_of_extended (extended : symbols.Extended larger name) {term other : Term α}
    (redated : Term.Redated name term other) (resolves : term.ResolvesTo symbols expression) :
    other.ResolvesTo larger expression := by
  have fresh {identifier : String} (declared : identifier ∈ symbols.names) : identifier ≠ name := by
    rintro rfl
    exact extended.notMem_names declared
  induction resolves using Term.ResolvesTo.induction generalizing other with
  | integer inRange =>
      cases redated
      exact .integer inRange
  | real value =>
      cases redated
      exact .real value
  | parameter timeless declared =>
      have other := fresh (SymbolTable.mem_names_of_isParameter declared)
      cases redated with
      | name _ => exact .parameter timeless ((extended.same other).2.2 ▸ declared)
      | dated _ => exact absurd rfl other
  | series timeless noParameter declared =>
      have other := fresh (SymbolTable.mem_names_of_isSeries declared)
      obtain ⟨-, sameSeries, sameParameter⟩ := extended.same other
      cases redated with
      | name _ =>
          exact .series timeless (sameParameter ▸ noParameter) (sameSeries ▸ declared)
      | dated _ => exact absurd rfl other
  | dated declared read =>
      have other := fresh (SymbolTable.mem_names_of_isSeries declared)
      cases redated with
      | subscript _ inner =>
          cases inner with
          | name _ => exact .dated ((extended.same other).2.1 ▸ declared) read
          | dated _ => exact absurd rfl other
  | element noSeries declared read =>
      have other := fresh (SymbolTable.mem_names_of_isParameter declared)
      obtain ⟨-, sameSeries, sameParameter⟩ := extended.same other
      cases redated with
      | subscript _ inner =>
          cases inner with
          | name _ => exact .element (sameSeries ▸ noSeries) (sameParameter ▸ declared) read
          | dated _ => exact absurd rfl other
  | steadyState declared =>
      have other := fresh (SymbolTable.mem_names_of_isVariable declared)
      cases redated with
      | call _ _ each =>
          cases each with
          | cons first rest =>
              cases rest
              cases first with
              | name _ => exact .steadyState ((extended.same other).1 ▸ declared)
              | dated _ => exact absurd rfl other
  | minus _ ih =>
      cases redated with
      | unary _ inner => exact .minus (ih inner)
  | plus _ ih =>
      cases redated with
      | unary _ inner => exact .plus (ih inner)
  | binary known _ _ ihLeft ihRight =>
      cases redated with
      | binary _ first second => exact .binary known (ihLeft first) (ihRight second)
  | call known _ ih =>
      cases redated with
      | call _ _ each =>
          refine .call known (forall₂_of_common (fun _ _ _ _ => ?_) each ih)
          exact fun related ⟨_, carries⟩ => carries related

/-! ### Equations -/

/-- An undeclared name stands in an index of an accepted equation only if it is that of the current
date, or if the index is part of a ratio without use. -/
theorem notMem_occurrences_index {term normal : Term α} {identifier : String}
    (undeclared : identifier ∉ symbols.names)
    (expanded : term.normalize symbols.seriesNames = .ok normal)
    (resolves : normal.ResolvesTo symbols expression)
    (index : identifier = Term.timeName ∨
      (term.atCurrentDate symbols.seriesNames).LeavesOut ⟨identifier, .index⟩ →
      ⟨identifier, .index⟩ ∉ term.occurrences .operand) :
    ⟨identifier, .index⟩ ∉ term.occurrences .operand := by
  intro occurs
  have dated := Term.occurrences_subset_atCurrentDate symbols.seriesNames term occurs
  rcases Term.occurs_of_expandOperators expanded dated with kept | ⟨called, -⟩ | left
  · cases permits_of_resolvesTo resolves kept with
    | declared member => exact undeclared member
    | currentDate => exact index (.inl rfl) occurs
  · cases called
  · exact index (.inr left) occurs

/-- An accepted equation states the same if one more symbol is declared. If the symbol is a series,
its name must not stand in an index where it is `t`, or where it is part of a ratio that the
equation has no use for. -/
theorem ofText_of_extended {equation text : String} {term : Term α}
    (extended : symbols.Extended larger name)
    (accepted : ofText symbols equation text = .ok expression)
    (stated : Source.Statement.residual text = .ok term)
    (indices : larger.isSeries name = true →
      name = Term.timeName ∨
        (term.atCurrentDate symbols.seriesNames).LeavesOut ⟨name, .index⟩ →
      ⟨name, .index⟩ ∉ term.occurrences .operand) :
    ofText larger equation text = .ok expression := by
  simp only [ofText, stated, bind_eq_ok, mapError_eq_ok] at accepted
  obtain ⟨_, ⟨⟩, normal, expanded, resolved⟩ := accepted
  have resolves := ofTerm_eq_ok.mp resolved
  have fresh : symbols.seriesNames.contains name = false := by
    rw [SymbolTable.contains_seriesNames]
    by_contra series
    exact extended.notMem_names (SymbolTable.mem_names_of_isSeries (by simpa using series))
  have agree (identifier : String) (other : identifier ≠ name) :
      larger.seriesNames.contains identifier = symbols.seriesNames.contains identifier := by
    rw [SymbolTable.contains_seriesNames, SymbolTable.contains_seriesNames,
      (extended.same other).2.1]
  have redated : Term.Redated name (term.atCurrentDate symbols.seriesNames)
      (term.atCurrentDate larger.seriesNames) := by
    refine Term.redated_atCurrentDate fresh agree fun identifier occurs => ?_
    by_cases same : identifier = name
    · subst same
      rw [fresh, SymbolTable.contains_seriesNames]
      by_contra series
      exact notMem_occurrences_index extended.notMem_names expanded resolves
        (indices (by simpa using series)) occurs
    · exact agree identifier same
  obtain ⟨result, again, related⟩ := redated.expandOperators normal expanded
  have resolvesAgain := resolvesTo_of_extended extended related resolves
  simp only [ofText, stated, bind_eq_ok, mapError_eq_ok, ofTerm_eq_ok]
  exact ⟨term, rfl, result, again, resolvesAgain⟩

set_option maxRecDepth 100000 in
/-- The ratio of a sum over one period may contain the name of a new shock. -/
theorem ofText_of_extended_shock :
    ∃ (larger : SymbolTable) (expression : Expression ℝ),
      seriesXY.addShock { name := "e" } = .ok larger ∧
        ofText seriesXY "" "lag(x) - movsumew(y, 1, e)" = .ok expression ∧
        ofText larger "" "lag(x) - movsumew(y, 1, e)" = .ok expression := by
  have sides : (Source.Statement.sides "lag(x) - movsumew(y, 1, e)".toList).map
      (Source.Statement.side (α := ℝ)) =
      [.ok (.binary .sub (.call (.name "lag") [.name "x"] [])
        (.call (.name "movsumew") [.name "y", .natural 1, .name "e"] []))] := by
    cbv
  have stated := Source.Statement.residual_of_side sides
  have accepted : ofText (α := ℝ) seriesXY "" "lag(x) - movsumew(y, 1, e)" =
      .ok (.binary .sub (.series ⟨"x", -1⟩) (.series ⟨"y", 0⟩)) := by
    rw [ofText, stated]
    rfl
  have added : seriesXY.addShock { name := "e" } =
      .ok { seriesXY with shocks := [{ name := "e" }] } := rfl
  exact ⟨_, _, added, accepted,
    ofText_of_extended (.shock added) accepted stated fun _ _ => by decide⟩

set_option maxRecDepth 100000 in
/-- A series that is called `t` takes the place of the current date in an index. -/
theorem ofText_extended_current_date :
    ∃ (larger : SymbolTable) (expression : Expression ℝ),
      seriesXY.addVariable { name := "t" } = .ok larger ∧
        ofText seriesXY "" "x[t]" = .ok expression ∧
        ofText larger "" "x[t]" ≠ .ok expression := by
  have sides : (Source.Statement.sides "x[t]".toList).map (Source.Statement.side (α := ℝ)) =
      [.ok (.subscript (.name "x") (.name "t"))] := by
    cbv
  have stated := Source.Statement.residual_of_side sides
  refine ⟨_, .series ⟨"x", 0⟩, rfl, ?_, ?_⟩
  · rw [ofText, stated]
    rfl
  · rw [ofText, stated]
    rintro ⟨⟩

end Expression

end Intertemporal
