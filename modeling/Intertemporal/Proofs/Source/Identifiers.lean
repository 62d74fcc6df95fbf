import Intertemporal.Proofs.Lists
import Intertemporal.Proofs.Source.Regular

/-!
# Identifiers of a term

An identifier stands where a value is used, in an index, or in what is called. Numbers contain no
identifiers and time indices only the current date, so reading bare names at the current date adds
identifiers of one kind, and shifting a term changes none.
-/

namespace Intertemporal.Source

/-- Where an identifier stands. -/
inductive Place
  /-- Where a value is used. -/
  | operand
  | index
  /-- In what is called. -/
  | called
deriving DecidableEq, Repr

/-- An identifier in the place where it stands. -/
structure Occurrence where
  identifier : String
  place : Place
deriving DecidableEq, Repr

/-- The identifiers that belong to a shape itself. -/
def Shape.identifiers : Shape → List String
  | .attribute name => [name]
  | .named name => [name]
  | _ => []

namespace Term

variable {α : Type}

mutual

/-- The identifiers of a term that stands in a given place. -/
def occurrences (place : Place) : Term α → List Occurrence
  | .literal _ => []
  | .name identifier => [⟨identifier, place⟩]
  | .unary _ operand => operand.occurrences place
  | .binary _ left right => left.occurrences place ++ right.occurrences place
  | .subscript value index => value.occurrences place ++ index.occurrences .index
  | .call function passed named =>
    function.occurrences .called ++ allOccurrences place passed ++ allOccurrences place named
  | .tuple items => allOccurrences place items
  | .compound shape pieces => shape.identifiers.map (⟨·, place⟩) ++ allOccurrences place pieces

/-- The identifiers of several terms that stand in one place. -/
def allOccurrences (place : Place) : List (Term α) → List Occurrence
  | [] => []
  | term :: rest => term.occurrences place ++ allOccurrences place rest

end

variable {place : Place}

@[simp]
theorem allOccurrences_eq (place : Place) (terms : List (Term α)) :
    allOccurrences place terms = terms.flatMap (occurrences place) := by
  induction terms with
  | nil => rfl
  | cons term rest ih => rw [allOccurrences, ih, List.flatMap_cons]

/-! ### Dates -/

theorem flatMap_subset_flatMap_map {terms : List (Term α)} {change : Term α → Term α}
    (each : ∀ term ∈ terms, term.occurrences place ⊆ (change term).occurrences place) :
    terms.flatMap (occurrences place) ⊆ (terms.map change).flatMap (occurrences place) := by
  intro occurrence member
  rcases List.mem_flatMap.mp member with ⟨term, inside, occurs⟩
  exact List.mem_flatMap.mpr
    ⟨change term, List.mem_map_of_mem inside, each term inside occurs⟩

/-- Dates that are made explicit add identifiers and take none away. -/
theorem occurrences_subset_atCurrentDate (series : List String) (term : Term α) :
    term.occurrences place ⊆ (term.atCurrentDate series).occurrences place := by
  induction term using induction generalizing place with
  | literal value => exact List.Subset.refl _
  | name identifier =>
      rw [atCurrentDate]
      split
      · exact List.subset_append_left _ _
      · exact List.Subset.refl _
  | unary operator operand ih => exact ih
  | binary operator left right ihLeft ihRight => exact append_subset_append ihLeft ihRight
  | subscript value index _ ihIndex =>
      exact append_subset_append (List.Subset.refl _) ihIndex
  | call function passed named _ ihPassed _ =>
      rw [atCurrentDate]
      split
      · exact List.Subset.refl _
      · simp only [occurrences, allOccurrences_eq, allAtCurrentDate_eq]
        refine append_subset_append ?_ (List.Subset.refl _)
        exact append_subset_append (List.Subset.refl _)
          (flatMap_subset_flatMap_map fun term member => ihPassed term member)
  | tuple items ih =>
      simp only [atCurrentDate, occurrences, allOccurrences_eq, allAtCurrentDate_eq]
      exact flatMap_subset_flatMap_map fun term member => ih term member
  | compound shape pieces ih =>
      simp only [atCurrentDate, occurrences, allOccurrences_eq, allAtCurrentDate_eq]
      exact append_subset_append (List.Subset.refl _)
        (flatMap_subset_flatMap_map fun term member => ih term member)

/-- Numbers contain no identifiers. -/
theorem occurrences_of_integer? {term : Term α} {value : Int} (found : term.integer? = some value) :
    term.occurrences place = [] := by
  induction term using induction generalizing value with
  | literal value => rfl
  | unary operator operand ih =>
      cases operator with
      | minus =>
          rcases Option.map_eq_some_iff.mp found with ⟨opposite, inner, -⟩
          exact ih inner
      | plus => exact ih found
      | _ => cases found
  | _ => cases found

theorem occurrences_of_number? [Neg α] {term : Term α} {quantity : Quantity α}
    (found : term.number? = some quantity) : term.occurrences place = [] := by
  induction term using induction generalizing quantity with
  | literal value => rfl
  | unary operator operand ih =>
      cases operator with
      | minus =>
          rcases Option.map_eq_some_iff.mp found with ⟨opposite, inner, -⟩
          exact ih inner
      | plus => exact ih found
      | _ => cases found
  | _ => cases found

/-- An index that has an offset contains the current date and nothing else. -/
theorem occurrences_of_offset? {index : Term α} {offset : Int}
    (found : index.offset? = some offset) : index.occurrences place = [⟨timeName, place⟩] := by
  unfold offset? at found
  split at found
  · split at found
    · rename_i identifier same
      rw [occurrences, eq_of_beq same]
    · cases found
  · split at found
    · rename_i identifier amount same
      rw [occurrences, occurrences_of_integer? found, occurrences, eq_of_beq same]
      rfl
    · cases found
  · split at found
    · rename_i identifier amount same
      rcases Option.map_eq_some_iff.mp found with ⟨opposite, inner, -⟩
      rw [occurrences, occurrences_of_integer? inner, occurrences, eq_of_beq same]
      rfl
    · cases found
  · cases found

theorem occurrences_of_shiftIndex {periods : Int} {index shifted : Term α}
    (done : shiftIndex periods index = .ok shifted) :
    shifted.occurrences place = index.occurrences place := by
  rcases shiftIndex_eq_ok.mp done with ⟨-, rfl⟩ | ⟨offset, found, rfl⟩
  · rfl
  · rw [occurrences_of_offset? found, occurrences_of_offset? (offset?_ofOffset _)]

theorem flatMap_occurrences_of_mapM {ε : Type} {terms results : List (Term α)}
    {change : Term α → Except ε (Term α)} (done : terms.mapM change = .ok results)
    (each : ∀ term ∈ terms, ∀ {result}, change term = .ok result →
      result.occurrences place = term.occurrences place) :
    results.flatMap (occurrences place) = terms.flatMap (occurrences place) := by
  have paired := mapM_eq_ok.mp done
  clear done
  induction paired with
  | nil => rfl
  | cons found _ ih =>
      rw [List.flatMap_cons, List.flatMap_cons, each _ List.mem_cons_self found,
        ih fun term member => each term (List.mem_cons_of_mem _ member)]

/-- A moved position contains the same identifiers. -/
theorem occurrences_of_shiftPosition {periods : Int} {index shifted : Term α}
    (done : shiftPosition periods index = .ok shifted) :
    shifted.occurrences place = index.occurrences place := by
  rcases cases_of_shiftPosition done with single | ⟨items, moved, rfl, rfl, collected⟩
  · exact occurrences_of_shiftIndex single
  · simp only [occurrences, allOccurrences_eq]
    exact flatMap_occurrences_of_mapM collected fun _ _ _ => occurrences_of_shiftIndex

/-- Shifted dates stand in the same places. -/
theorem occurrences_of_shift {periods : Int} {term shifted : Term α}
    (done : term.shift periods = .ok shifted) :
    shifted.occurrences place = term.occurrences place := by
  induction term using induction generalizing shifted place with
  | literal value =>
      cases done
      rfl
  | name identifier =>
      cases done
      rfl
  | unary operator operand ih =>
      rcases bind_eq_ok.mp done with ⟨result, found, ⟨⟩⟩
      rw [occurrences, occurrences, ih found]
  | binary operator left right ihLeft ihRight =>
      simp only [shift, bind_eq_ok] at done
      rcases done with ⟨first, foundLeft, second, foundRight, ⟨⟩⟩
      rw [occurrences, occurrences, ihLeft foundLeft, ihRight foundRight]
  | subscript value index ihValue _ =>
      simp only [shift_subscript, bind_eq_ok] at done
      rcases done with ⟨base, found, moved, foundIndex, ⟨⟩⟩
      rw [occurrences, occurrences, ihValue found, occurrences_of_shiftPosition foundIndex]
  | call function passed named ihFunction ihPassed ihNamed =>
      simp only [shift, bind_eq_ok, shiftAll_eq] at done
      rcases done with ⟨called, foundFunction, arguments, foundPassed, keywords, foundNamed, ⟨⟩⟩
      simp only [occurrences, allOccurrences_eq]
      rw [ihFunction foundFunction,
        flatMap_occurrences_of_mapM foundPassed fun term member _ => ihPassed term member,
        flatMap_occurrences_of_mapM foundNamed fun term member _ => ihNamed term member]
  | tuple items ih =>
      simp only [shift, bind_eq_ok, shiftAll_eq] at done
      rcases done with ⟨results, found, ⟨⟩⟩
      simp only [occurrences, allOccurrences_eq]
      exact flatMap_occurrences_of_mapM found fun term member _ => ih term member
  | compound shape pieces ih =>
      simp only [shift, bind_eq_ok, shiftAll_eq] at done
      rcases done with ⟨results, found, ⟨⟩⟩
      simp only [occurrences, allOccurrences_eq]
      rw [flatMap_occurrences_of_mapM found fun term member _ => ih term member]

theorem occurrences_of_lagged {periods : Int} {argument result : Term α}
    (done : argument.lagged periods = .ok result) :
    result.occurrences place = argument.occurrences place := by
  have lagged := mapError_eq_ok.mp done
  unfold lag at lagged
  split at lagged
  · cases lagged
    rfl
  · exact occurrences_of_shift lagged

end Term

end Intertemporal.Source
