import Intertemporal.Operators.Normalize
import Intertemporal.Proofs.Outcome

/-!
# Regular terms

A term is regular if operator calls stand only where their values are used: not inside an index, not
inside `sstate`, and not in front of an index or of arguments. What stands in those places is read
by its form, so an operator that is expanded there would change the form and not a value.
-/

namespace Intertemporal.Source.Term

variable {α : Type}

/-- Induction with one hypothesis for each part of a call, a tuple or a compound. -/
@[elab_as_elim]
theorem induction {motive : Term α → Prop}
    (literal : ∀ value, motive (.literal value))
    (name : ∀ identifier, motive (.name identifier))
    (unary : ∀ operator operand, motive operand → motive (.unary operator operand))
    (binary : ∀ operator left right, motive left → motive right →
      motive (.binary operator left right))
    (subscript : ∀ value index, motive value → motive index → motive (.subscript value index))
    (call : ∀ function passed named, motive function → (∀ term ∈ passed, motive term) →
      (∀ term ∈ named, motive term) → motive (.call function passed named))
    (tuple : ∀ items, (∀ term ∈ items, motive term) → motive (.tuple items))
    (compound : ∀ shape parts, (∀ term ∈ parts, motive term) → motive (.compound shape parts))
    (term : Term α) : motive term :=
  @Term.rec α motive (fun terms => ∀ term ∈ terms, motive term)
    literal name unary binary subscript call tuple compound
    (fun _ member => absurd member List.not_mem_nil)
    (fun _ _ first rest => List.forall_mem_cons.mpr ⟨first, rest⟩)
    term

mutual

/-- Whether a time operator is called somewhere in a term. -/
def callsOperator : Term α → Bool
  | .literal _ => false
  | .name _ => false
  | .unary _ operand => operand.callsOperator
  | .binary _ left right => left.callsOperator || right.callsOperator
  | .subscript value index => value.callsOperator || index.callsOperator
  | .call function passed named =>
    function.operator?.isSome || function.callsOperator || anyCallsOperator passed ||
      anyCallsOperator named
  | .tuple items => anyCallsOperator items
  | .compound _ parts => anyCallsOperator parts

/-- Whether a time operator is called in one of several terms. -/
def anyCallsOperator : List (Term α) → Bool
  | [] => false
  | term :: rest => term.callsOperator || anyCallsOperator rest

end

mutual

/-- Whether operator calls stand only where their values are used. -/
def isRegular : Term α → Bool
  | .literal _ => true
  | .name _ => true
  | .unary _ operand => operand.isRegular
  | .binary _ left right => left.isRegular && right.isRegular
  | .subscript value index => !value.callsOperator && !index.callsOperator
  | .call function passed named =>
    !function.callsOperator && allRegular named &&
      if function.isSteadyStateName then !anyCallsOperator passed else allRegular passed
  | .tuple items => allRegular items
  | .compound _ parts => allRegular parts

/-- Whether all of several terms are regular. -/
def allRegular : List (Term α) → Bool
  | [] => true
  | term :: rest => term.isRegular && allRegular rest

end

@[simp]
theorem anyCallsOperator_eq (terms : List (Term α)) :
    anyCallsOperator terms = terms.any callsOperator := by
  induction terms with
  | nil => rfl
  | cons term rest ih => simp [anyCallsOperator, ih]

@[simp]
theorem allRegular_eq (terms : List (Term α)) : allRegular terms = terms.all isRegular := by
  induction terms with
  | nil => rfl
  | cons term rest ih => simp [allRegular, ih]

@[simp]
theorem shiftAll_eq (periods : Int) (terms : List (Term α)) :
    shiftAll periods terms = terms.mapM (shift periods) := by
  induction terms with
  | nil => rfl
  | cons term rest ih => simp only [shiftAll, ih, List.mapM_cons]; rfl

@[simp]
theorem allAtCurrentDate_eq (series : List String) (terms : List (Term α)) :
    allAtCurrentDate series terms = terms.map (atCurrentDate series) := by
  induction terms with
  | nil => rfl
  | cons term rest ih => simp only [allAtCurrentDate, ih, List.map_cons]

theorem shiftIndices_eq (periods : Int) (indices : List (Term α)) :
    shiftIndices periods indices = indices.mapM (shiftIndex periods) := by
  induction indices with
  | nil => rfl
  | cons index rest ih => simp only [shiftIndices, ih, List.mapM_cons]; rfl

/-- What stands between brackets, moved back by a number of periods: one index or several. -/
def shiftPosition (periods : Int) : Term α → Except (Term α) (Term α)
  | .tuple items => do
    let items ← shiftIndices periods items
    .ok (.tuple items)
  | index => shiftIndex periods index

theorem shift_subscript (periods : Int) (value index : Term α) :
    (subscript value index).shift periods = (do
      let value ← value.shift periods
      let index ← shiftPosition periods index
      .ok (.subscript value index)) := by
  cases index with
  | tuple items =>
      rw [shift, shiftPosition]
      rcases value.shift periods with _ | _
      · rfl
      · rcases shiftIndices periods items with _ | _ <;> rfl
  | _ => rfl

/-- Only a name is shifted to a name, and it stays the same. -/
theorem shift_eq_name {periods : Int} {term : Term α} {name : String}
    (shifted : term.shift periods = .ok (.name name)) : term = .name name := by
  cases term with
  | name identifier =>
      cases shifted
      rfl
  | literal value => cases shifted
  | _ => simp [shift, shift_subscript, bind_eq_ok] at shifted

theorem mentionsTime_of_offset? {index : Term α} {offset : Int}
    (found : index.offset? = some offset) : index.mentionsTime = true := by
  unfold offset? at found
  split at found
  · rw [mentionsTime]
    by_contra other
    rw [if_neg other] at found
    cases found
  · simp only [mentionsTime, Bool.or_eq_true]
    by_contra other
    rw [if_neg fun here => other (.inl here)] at found
    cases found
  · simp only [mentionsTime, Bool.or_eq_true]
    by_contra other
    rw [if_neg fun here => other (.inl here)] at found
    cases found
  · cases found

theorem not_mentionsTime_of_integer? {index : Term α} {value : Int}
    (found : index.integer? = some value) : index.mentionsTime = false := by
  induction index using induction generalizing value with
  | unary operator operand ih =>
      rw [mentionsTime]
      cases operator with
      | minus =>
          obtain ⟨positive, read, -⟩ := Option.map_eq_some_iff.mp found
          exact ih read
      | plus => exact ih found
      | _ => cases found
  | literal value => rfl
  | _ => cases found

/-- An index that mentions the current date is moved to the index of a date, any other one stays. -/
theorem shiftIndex_eq_ok {periods : Int} {index shifted : Term α} :
    shiftIndex periods index = .ok shifted ↔
      (index.mentionsTime = false ∧ shifted = index) ∨
        ∃ offset, index.offset? = some offset ∧ shifted = ofOffset (offset - periods) := by
  unfold shiftIndex
  split
  · rename_i timed
    cases index.offset? <;> simp [timed, eq_comm]
  · rename_i timeless
    have noOffset : ∀ offset, index.offset? ≠ some offset :=
      fun offset read => timeless (mentionsTime_of_offset? read)
    simp [timeless, noOffset, eq_comm]

/-- A position that is moved is one index, or several of which each is moved. -/
theorem cases_of_shiftPosition {periods : Int} {index shifted : Term α}
    (done : shiftPosition periods index = .ok shifted) :
    shiftIndex periods index = .ok shifted ∨ ∃ items moved, index = .tuple items ∧
      shifted = .tuple moved ∧ items.mapM (shiftIndex periods) = .ok moved := by
  cases index with
  | tuple items =>
      rw [shiftPosition, shiftIndices_eq, bind_eq_ok] at done
      obtain ⟨moved, collected, ⟨⟩⟩ := done
      exact .inr ⟨items, moved, rfl, rfl, collected⟩
  | _ => exact .inl done

/-- The index of a date is moved to the index of a date. -/
theorem shiftPosition_of_offset? {index : Term α} {offset : Int}
    (read : index.offset? = some offset) (periods : Int) :
    shiftPosition periods index = .ok (ofOffset (offset - periods)) := by
  have single : shiftPosition periods index = shiftIndex periods index := by
    cases index <;> first | rfl | cases read
  rw [single, shiftIndex, if_pos (mentionsTime_of_offset? read), read]

/-- The place of an element is not moved. -/
theorem shiftPosition_of_integer? {index : Term α} {position : Int}
    (read : index.integer? = some position) (periods : Int) :
    shiftPosition periods index = .ok index := by
  have single : shiftPosition periods index = shiftIndex periods index := by
    cases index <;> first | rfl | cases read
  rw [single, shiftIndex, not_mentionsTime_of_integer? read]
  rfl

/-- The index of a date is dated, unless the current date were a series. -/
theorem atCurrentDate_ofOffset {series : List String}
    (timeless : series.contains timeName = false) (offset : Int) :
    (ofOffset offset : Term α).atCurrentDate series = ofOffset offset := by
  have date : (time : Term α).atCurrentDate series = time := by
    rw [time, atCurrentDate, timeless]
    rfl
  unfold ofOffset
  split
  · exact date
  · split <;> rw [atCurrentDate, date] <;> rfl

theorem callsOperator_ofOffset (offset : Int) :
    (ofOffset offset : Term α).callsOperator = false := by
  unfold ofOffset
  split
  · rfl
  · split <;> rfl

/-- A window has at least one period. -/
theorem one_le_of_checkWindow {operator : Operator} {periods : Int} {checked : Unit}
    (done : (checkWindow operator periods : Except (Operator.Failure α) Unit) = .ok checked) :
    1 ≤ periods := by
  unfold checkWindow at done
  split at done
  · cases done
  · omega

variable [Scalar α]

@[simp]
theorem expandAll_eq (terms : List (Term α)) : expandAll terms = terms.mapM expandOperators := by
  induction terms with
  | nil => rfl
  | cons term rest ih => simp only [expandAll, ih, List.mapM_cons]; rfl

/-- Terms that are their own results come out as they are. -/
theorem mapM_eq_self {ε β : Type} {change : β → Except ε β} {items : List β}
    (same : ∀ item ∈ items, change item = .ok item) : items.mapM change = .ok items :=
  mapM_eq_ok.mpr (List.forall₂_same.mpr same)

/-- Without operators there is nothing to expand. -/
theorem expandOperators_of_not_callsOperator (term : Term α) (free : term.callsOperator = false) :
    term.expandOperators = .ok term := by
  induction term using induction with
  | literal value => rfl
  | name identifier => rfl
  | unary operator operand ih =>
      simp only [callsOperator] at free
      simp only [expandOperators, ih free]
      rfl
  | binary operator left right ihLeft ihRight =>
      simp only [callsOperator, Bool.or_eq_false_iff] at free
      simp only [expandOperators, ihLeft free.1, ihRight free.2]
      rfl
  | subscript value index ihValue ihIndex =>
      simp only [callsOperator, Bool.or_eq_false_iff] at free
      simp only [expandOperators, ihValue free.1, ihIndex free.2]
      rfl
  | call function passed named ihFunction ihPassed ihNamed =>
      simp only [callsOperator, anyCallsOperator_eq, Bool.or_eq_false_iff, List.any_eq_false,
        Bool.not_eq_true, Option.isSome_eq_false_iff, Option.isNone_iff_eq_none] at free
      obtain ⟨⟨⟨notOperator, freeFunction⟩, freePassed⟩, freeNamed⟩ := free
      have samePassed : passed.mapM expandOperators = .ok passed :=
        mapM_eq_self fun term member => ihPassed term member (freePassed term member)
      have sameNamed : named.mapM expandOperators = .ok named :=
        mapM_eq_self fun term member => ihNamed term member (freeNamed term member)
      simp only [expandOperators, ihFunction freeFunction, expandAll_eq, samePassed, sameNamed,
        expandCall, notOperator, bind, Except.bind]
  | tuple items ih =>
      simp only [callsOperator, anyCallsOperator_eq, List.any_eq_false, Bool.not_eq_true] at free
      have same : items.mapM expandOperators = .ok items :=
        mapM_eq_self fun term member => ih term member (free term member)
      simp only [expandOperators, expandAll_eq, same, bind, Except.bind]
  | compound shape parts ih =>
      simp only [callsOperator, anyCallsOperator_eq, List.any_eq_false, Bool.not_eq_true] at free
      have same : parts.mapM expandOperators = .ok parts :=
        mapM_eq_self fun term member => ih term member (free term member)
      simp only [expandOperators, expandAll_eq, same, bind, Except.bind]

end Intertemporal.Source.Term
