import Intertemporal.Proofs.Source.Congruence
import Intertemporal.Proofs.Source.Identifiers

/-!
# Terms that differ in the dates of one series

If one more name is read as that of a series, its bare occurrences come with a date, and nothing
else happens to a term as long as the name stands in no index (`redated_atCurrentDate`). Operators
move such dates and do not look at them. So a term that has an expansion still has one, and the two
expansions differ in the dates of this name alone (`Redated.expandOperators`).
-/

namespace Intertemporal

open Source (Term)

namespace Source.Term

variable {α : Type} {name : String}

/-- The second term has dates where the first one has a bare name. -/
inductive Redated (name : String) : Term α → Term α → Prop
  | literal (value : Literal α) : Redated name (.literal value) (.literal value)
  | name (identifier : String) : Redated name (.name identifier) (.name identifier)
  | dated (offset : Int) : Redated name (.name name) (.subscript (.name name) (ofOffset offset))
  | unary (operator : UnaryOperator) {operand other : Term α} (inner : Redated name operand other) :
      Redated name (.unary operator operand) (.unary operator other)
  | binary (operator : BinaryOperator) {left right otherLeft otherRight : Term α}
      (first : Redated name left otherLeft) (second : Redated name right otherRight) :
      Redated name (.binary operator left right) (.binary operator otherLeft otherRight)
  | subscript {value other : Term α} (index : Term α) (inner : Redated name value other) :
      Redated name (.subscript value index) (.subscript other index)
  | call (function : Term α) {passed others : List (Term α)} (named : List (Term α))
      (each : List.Forall₂ (Redated name) passed others) :
      Redated name (.call function passed named) (.call function others named)
  | tuple {items others : List (Term α)} (each : List.Forall₂ (Redated name) items others) :
      Redated name (.tuple items) (.tuple others)
  | compound (shape : Shape) {pieces others : List (Term α)}
      (each : List.Forall₂ (Redated name) pieces others) :
      Redated name (.compound shape pieces) (.compound shape others)

namespace Redated

theorem refl (term : Term α) : Redated name term term := by
  induction term using induction with
  | literal value => exact .literal value
  | name identifier => exact .name identifier
  | unary operator operand ih => exact .unary operator ih
  | binary operator left right ihLeft ihRight => exact .binary operator ihLeft ihRight
  | subscript value index ihValue _ => exact .subscript index ihValue
  | call function passed named _ ihPassed _ =>
      exact .call function named (List.forall₂_same.mpr ihPassed)
  | tuple items ih => exact .tuple (List.forall₂_same.mpr ih)
  | compound shape pieces ih => exact .compound shape (List.forall₂_same.mpr ih)

end Redated

/-! ### The current date -/

variable {series larger : List String}

/-- Only the identifiers of an index decide how it is dated. -/
theorem atCurrentDate_congr {index : Term α}
    (agree : ∀ identifier, ⟨identifier, .index⟩ ∈ index.occurrences .index →
      larger.contains identifier = series.contains identifier) :
    index.atCurrentDate larger = index.atCurrentDate series := by
  have each {terms : List (Term α)} (ih : ∀ term ∈ terms,
      (∀ identifier, ⟨identifier, .index⟩ ∈ term.occurrences .index →
        larger.contains identifier = series.contains identifier) →
      term.atCurrentDate larger = term.atCurrentDate series)
      (agree : ∀ identifier, ⟨identifier, .index⟩ ∈ terms.flatMap (occurrences .index) →
        larger.contains identifier = series.contains identifier) :
      terms.map (atCurrentDate larger) = terms.map (atCurrentDate series) :=
    List.map_inj_left.mpr fun term member => ih term member fun identifier occurs =>
      agree identifier (List.mem_flatMap.mpr ⟨term, member, occurs⟩)
  induction index using induction with
  | literal value => rfl
  | name identifier =>
      rw [atCurrentDate, atCurrentDate, agree identifier (List.mem_singleton_self _)]
  | unary operator operand ih => rw [atCurrentDate, atCurrentDate, ih agree]
  | binary operator left right ihLeft ihRight =>
      simp only [occurrences, List.mem_append] at agree
      rw [atCurrentDate, atCurrentDate, ihLeft fun identifier occurs => agree _ (.inl occurs),
        ihRight fun identifier occurs => agree _ (.inr occurs)]
  | subscript value index _ ihIndex =>
      simp only [occurrences, List.mem_append] at agree
      rw [atCurrentDate, atCurrentDate, ihIndex fun identifier occurs => agree _ (.inr occurs)]
  | call function passed named _ ihPassed _ =>
      simp only [occurrences, allOccurrences_eq, List.mem_append] at agree
      rw [atCurrentDate, atCurrentDate, allAtCurrentDate_eq, allAtCurrentDate_eq,
        each ihPassed fun identifier occurs => agree _ (.inl (.inr occurs))]
  | tuple items ih =>
      rw [occurrences, allOccurrences_eq] at agree
      rw [atCurrentDate, atCurrentDate, allAtCurrentDate_eq, allAtCurrentDate_eq, each ih agree]
  | compound shape pieces ih =>
      simp only [occurrences, allOccurrences_eq, List.mem_append] at agree
      rw [atCurrentDate, atCurrentDate, allAtCurrentDate_eq, allAtCurrentDate_eq,
        each ih fun identifier occurs => agree _ (.inr occurs)]

/-- With one more series, and the same identifiers in the indices, its bare name has dates. -/
theorem redated_atCurrentDate {term : Term α} (fresh : series.contains name = false)
    (agree : ∀ identifier, identifier ≠ name →
      larger.contains identifier = series.contains identifier)
    (indices : ∀ identifier, ⟨identifier, .index⟩ ∈ term.occurrences .operand →
      larger.contains identifier = series.contains identifier) :
    Redated name (term.atCurrentDate series) (term.atCurrentDate larger) := by
  have each {terms : List (Term α)} (ih : ∀ term ∈ terms,
      (∀ identifier, ⟨identifier, .index⟩ ∈ term.occurrences .operand →
        larger.contains identifier = series.contains identifier) →
      Redated name (term.atCurrentDate series) (term.atCurrentDate larger))
      (indices : ∀ identifier, ⟨identifier, .index⟩ ∈ terms.flatMap (occurrences .operand) →
        larger.contains identifier = series.contains identifier) :
      List.Forall₂ (Redated name) (terms.map (atCurrentDate series))
        (terms.map (atCurrentDate larger)) :=
    forall₂_map_map fun term member => ih term member fun identifier occurs =>
      indices identifier (List.mem_flatMap.mpr ⟨term, member, occurs⟩)
  induction term using induction with
  | literal value => exact .literal value
  | name identifier =>
      rw [atCurrentDate, atCurrentDate]
      by_cases same : identifier = name
      · rw [same, if_neg (by rw [fresh]; exact Bool.false_ne_true)]
        split
        · exact .dated 0
        · exact .name name
      · rw [agree identifier same]
        exact .refl _
  | unary operator operand ih =>
      rw [atCurrentDate, atCurrentDate]
      exact .unary operator (ih indices)
  | binary operator left right ihLeft ihRight =>
      simp only [occurrences, List.mem_append] at indices
      rw [atCurrentDate, atCurrentDate]
      exact .binary operator (ihLeft fun identifier occurs => indices _ (.inl occurs))
        (ihRight fun identifier occurs => indices _ (.inr occurs))
  | subscript value index _ _ =>
      simp only [occurrences, List.mem_append] at indices
      rw [atCurrentDate, atCurrentDate,
        atCurrentDate_congr fun identifier occurs => indices _ (.inr occurs)]
      exact .refl _
  | call function passed named _ ihPassed _ =>
      simp only [occurrences, allOccurrences_eq, List.mem_append] at indices
      rw [atCurrentDate, atCurrentDate]
      split
      · exact .refl _
      · rw [allAtCurrentDate_eq, allAtCurrentDate_eq]
        exact .call function named
          (each ihPassed fun identifier occurs => indices _ (.inl (.inr occurs)))
  | tuple items ih =>
      rw [occurrences, allOccurrences_eq] at indices
      rw [atCurrentDate, atCurrentDate, allAtCurrentDate_eq, allAtCurrentDate_eq]
      exact .tuple (each ih indices)
  | compound shape pieces ih =>
      simp only [occurrences, allOccurrences_eq, List.mem_append] at indices
      rw [atCurrentDate, atCurrentDate, allAtCurrentDate_eq, allAtCurrentDate_eq]
      exact .compound shape (each ih fun identifier occurs => indices _ (.inr occurs))

/-! ### Lags -/

theorem shift_dated (periods offset : Int) :
    (subscript (.name name) (ofOffset offset) : Term α).shift periods =
      .ok (.subscript (.name name) (ofOffset (offset - periods))) := by
  rw [shift_subscript, shiftPosition_of_offset? (offset?_ofOffset offset)]
  rfl

namespace Redated

theorem shift {term other : Term α} (related : Redated name term other) (periods : Int) :
    CarriesOver (Redated name) (term.shift periods) (other.shift periods) := by
  have each {terms others : List (Term α)}
      (ih : ∀ term ∈ terms, ∀ other, Redated name term other →
        CarriesOver (Redated name) (term.shift periods) (other.shift periods))
      (related : List.Forall₂ (Redated name) terms others) :
      CarriesOver (List.Forall₂ (Redated name)) (shiftAll periods terms)
        (shiftAll periods others) := by
    rw [shiftAll_eq, shiftAll_eq]
    exact .mapM related ih
  induction term using induction generalizing other with
  | literal value =>
      cases related
      exact .ok (.literal value)
  | name identifier =>
      cases related with
      | name _ => exact .ok (.name identifier)
      | dated offset =>
          rw [shift_dated]
          exact .ok (.dated _)
  | unary operator operand ih =>
      cases related with
      | unary _ inner => exact (ih inner).bind fun _ _ moved => .ok (.unary operator moved)
  | binary operator left right ihLeft ihRight =>
      cases related with
      | binary _ first second =>
          exact (ihLeft first).bind fun _ _ movedLeft => (ihRight second).bind
            fun _ _ movedRight => .ok (.binary operator movedLeft movedRight)
  | subscript value index ihValue _ =>
      cases related with
      | subscript _ inner =>
          rw [shift_subscript, shift_subscript]
          exact (ihValue inner).bind fun _ _ moved => .step fun position =>
            .ok (.subscript position moved)
  | call function passed named _ ihPassed _ =>
      cases related with
      | call _ _ related =>
          refine .step fun function => ?_
          exact (each (fun term member _ => ihPassed term member) related).bind
            fun _ _ moved => .step fun named => .ok (.call function named moved)
  | tuple items ih =>
      cases related with
      | tuple related =>
          exact (each (fun term member _ => ih term member) related).bind
            fun _ _ moved => .ok (.tuple moved)
  | compound shape pieces ih =>
      cases related with
      | compound _ related =>
          exact (each (fun term member _ => ih term member) related).bind
            fun _ _ moved => .ok (.compound shape moved)

theorem lagged {term other : Term α} (related : Redated name term other) (periods : Int) :
    CarriesOver (Redated name) (term.lagged periods) (other.lagged periods) := by
  intro result done
  rw [Term.lagged, mapError_eq_ok, lag] at done
  simp only [Term.lagged, mapError_eq_ok, lag]
  split
  · rename_i none
    rw [if_pos none] at done
    cases done
    exact ⟨other, rfl, related⟩
  · rename_i some
    rw [if_neg some] at done
    exact related.shift periods result done

/-! ### Expansions -/

theorem integer?_eq {term other : Term α} (related : Redated name term other) :
    other.integer? = term.integer? := by
  induction term using induction generalizing other with
  | unary operator operand ih =>
      cases related with
      | unary _ inner => cases operator <;> simp only [integer?, ih inner]
  | _ => cases related <;> rfl

theorem number?_eq [Neg α] {term other : Term α} (related : Redated name term other) :
    other.number? = term.number? := by
  induction term using induction generalizing other with
  | unary operator operand ih =>
      cases related with
      | unary _ inner => cases operator <;> simp only [number?, ih inner]
  | _ => cases related <;> rfl

variable [Scalar α]

theorem isCongruence : IsCongruence (Redated name : Term α → Term α → Prop) where
  integer?_eq := integer?_eq
  number?_eq := number?_eq
  lagged := lagged
  literal := .literal
  binary := .binary
  element position related := .subscript (.natural position) related
  logarithm related := .call (.name "log") [] (.cons related .nil)

/-- What has an expansion keeps it when one of its series has dates, up to these dates. -/
theorem expandOperators {term other : Term α} (related : Redated name term other) :
    CarriesOver (Redated name) term.expandOperators other.expandOperators := by
  induction term using induction generalizing other with
  | literal value =>
      cases related
      exact .ok (.literal value)
  | name identifier =>
      cases related with
      | name _ => exact .ok (.name identifier)
      | dated offset =>
          rw [expandOperators_of_not_callsOperator (.subscript (.name name) (ofOffset offset))
            (callsOperator_ofOffset offset)]
          exact .ok (.dated offset)
  | unary operator operand ih =>
      cases related with
      | unary _ inner => exact (ih inner).bind fun _ _ expanded => .ok (.unary operator expanded)
  | binary operator left right ihLeft ihRight =>
      cases related with
      | binary _ first second =>
          exact (ihLeft first).bind fun _ _ expandedLeft => (ihRight second).bind
            fun _ _ expandedRight => .ok (.binary operator expandedLeft expandedRight)
  | subscript value index ihValue _ =>
      cases related with
      | subscript _ inner =>
          exact (ihValue inner).bind fun _ _ expanded => .step fun position =>
            .ok (.subscript position expanded)
  | call function passed named _ ihPassed _ =>
      cases related with
      | call _ _ related =>
          simp only [Term.expandOperators, expandAll_eq]
          refine .step fun called => (CarriesOver.mapM related fun term member _ =>
            ihPassed term member).bind fun _ _ expanded => .step fun keywords => ?_
          unfold expandCall
          split
          · exact .ok (.call called keywords expanded)
          · split
            · exact isCongruence.expand _ expanded
            · exact .error
  | tuple items ih =>
      cases related with
      | tuple related =>
          simp only [Term.expandOperators, expandAll_eq]
          exact (CarriesOver.mapM related fun term member _ => ih term member).bind
            fun _ _ expanded => .ok (.tuple expanded)
  | compound shape pieces ih =>
      cases related with
      | compound _ related =>
          simp only [Term.expandOperators, expandAll_eq]
          exact (CarriesOver.mapM related fun term member _ => ih term member).bind
            fun _ _ expanded => .ok (.compound shape expanded)

end Redated

end Source.Term

end Intertemporal
