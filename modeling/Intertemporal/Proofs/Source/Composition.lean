import Intertemporal.Proofs.Source.Identifiers
import Intertemporal.Proofs.Source.Shifts

/-!
# Composed lags

A shift changes the offsets of time indices and nothing else. Changing offsets is a function on all
terms, `reindex`: it composes as the changes do (`reindex_reindex`), and the change that keeps every
offset still spells each of them in one way (`respell`).

A term is shifted unless one of its indices mentions the current date and is no date; the first such
index is the failure (`shift_eq`). Changing offsets leaves these indices and makes no new ones
(`undated?_reindex`), so a lag can be taken of a lag where it can be taken of the term. A lag by no
periods looks at nothing and can always be taken.
-/

namespace Intertemporal.Source.Term

variable {α : Type}

/-! ### Indices -/

/-- The indices of the form `t`, `t + k` or `t - k`; the number may have signs in front. -/
inductive IsDate : Term α → Prop
  | now : IsDate time
  | ahead {amount : Term α} {periods : Int} (read : amount.integer? = some periods) :
      IsDate (.binary .add time amount)
  | back {amount : Term α} {periods : Int} (read : amount.integer? = some periods) :
      IsDate (.binary .sub time amount)

/-- What stands between brackets: one index or several. -/
def bracketed : Term α → List (Term α)
  | .tuple items => items
  | index => [index]

mutual

/-- The indices of a term, also those that stand inside an index. -/
def indices : Term α → List (Term α)
  | .literal _ => []
  | .name _ => []
  | .unary _ operand => operand.indices
  | .binary _ left right => left.indices ++ right.indices
  | .subscript value index => value.indices ++ (index.bracketed ++ index.indices)
  | .call function passed named => function.indices ++ (allIndices passed ++ allIndices named)
  | .tuple items => allIndices items
  | .compound _ parts => allIndices parts

/-- The indices of several terms. -/
def allIndices : List (Term α) → List (Term α)
  | [] => []
  | term :: rest => term.indices ++ allIndices rest

end

mutual

/-- Change the offset of every time index of a term. -/
def reindex (change : Int → Int) : Term α → Term α
  | .literal value => .literal value
  | .name identifier => .name identifier
  | .unary operator operand => .unary operator (operand.reindex change)
  | .binary operator left right => .binary operator (left.reindex change) (right.reindex change)
  | .subscript value (.tuple items) =>
    .subscript (value.reindex change) (.tuple (reindexIndices change items))
  | .subscript value index =>
    .subscript (value.reindex change) (match index.offset? with
      | some offset => ofOffset (change offset)
      | none => index.reindex change)
  | .call function passed named =>
    .call (function.reindex change) (reindexAll change passed) (reindexAll change named)
  | .tuple items => .tuple (reindexAll change items)
  | .compound shape parts => .compound shape (reindexAll change parts)

/-- Change the offset of every time index of several terms. -/
def reindexAll (change : Int → Int) : List (Term α) → List (Term α)
  | [] => []
  | term :: rest => term.reindex change :: reindexAll change rest

/-- Change the offsets of several indices. -/
def reindexIndices (change : Int → Int) : List (Term α) → List (Term α)
  | [] => []
  | index :: rest =>
    (match index.offset? with
      | some offset => ofOffset (change offset)
      | none => index.reindex change) :: reindexIndices change rest

end

variable {change : Int → Int} {periods : Int}

/-- The dates are the indices that have an offset. -/
theorem isDate_iff {index : Term α} : index.IsDate ↔ index.offset?.isSome := by
  constructor
  · rintro (_ | ⟨read⟩ | ⟨read⟩)
    · rfl
    · simp [offset?, time, read]
    · simp [offset?, time, read]
  · intro found
    unfold offset? at found
    split at found
    · split at found
      · rename_i same
        rw [eq_of_beq same]
        exact .now
      · cases found
    · split at found
      · rename_i same
        obtain ⟨offset, read⟩ := Option.isSome_iff_exists.mp found
        rw [eq_of_beq same]
        exact .ahead read
      · cases found
    · split at found
      · rename_i same
        rw [Option.isSome_map] at found
        obtain ⟨offset, read⟩ := Option.isSome_iff_exists.mp found
        rw [eq_of_beq same]
        exact .back read
      · cases found
    · cases found

instance (index : Term α) : Decidable index.IsDate := decidable_of_iff _ isDate_iff.symm

/-- Whether an index mentions the current date and is no date. -/
def isUndated (index : Term α) : Bool := index.mentionsTime && index.offset?.isNone

theorem isUndated_iff {index : Term α} :
    index.isUndated = true ↔ index.mentionsTime = true ∧ ¬index.IsDate := by
  rw [isUndated, Bool.and_eq_true, isDate_iff, Bool.not_eq_true, Option.isSome_eq_false_iff]

/-- The first index of a term that mentions the current date and is no date. -/
def undated? (term : Term α) : Option (Term α) := term.indices.find? isUndated

@[simp]
theorem allIndices_eq (terms : List (Term α)) : allIndices terms = terms.flatMap indices := by
  induction terms with
  | nil => rfl
  | cons term rest ih => rw [allIndices, ih, List.flatMap_cons]

theorem indices_of_integer? {term : Term α} {value : Int} (read : term.integer? = some value) :
    term.indices = [] := by
  induction term using induction generalizing value with
  | literal value => rfl
  | unary operator operand ih =>
      cases operator with
      | minus =>
          obtain ⟨positive, inner, -⟩ := Option.map_eq_some_iff.mp read
          exact ih inner
      | plus => exact ih read
      | _ => cases read
  | _ => cases read

/-- No index stands inside a date. -/
theorem IsDate.indices_eq {index : Term α} (date : index.IsDate) : index.indices = [] := by
  cases date with
  | now => rfl
  | ahead read | back read =>
      rw [indices, indices_of_integer? read]
      rfl

theorem mentionsTime_of_mem_bracketed {index item : Term α} (member : item ∈ index.bracketed)
    (mentioned : item.mentionsTime = true) : index.mentionsTime = true := by
  cases index with
  | tuple items =>
      rw [mentionsTime, anyMentionsTime_eq]
      exact List.any_eq_true.mpr ⟨item, member, mentioned⟩
  | _ =>
      cases List.mem_singleton.mp member
      exact mentioned

/-- A term mentions the current date if one of its indices does. -/
theorem mentionsTime_of_mem_indices {term index : Term α} (member : index ∈ term.indices)
    (mentioned : index.mentionsTime = true) : term.mentionsTime = true := by
  have among {terms : List (Term α)}
      (ih : ∀ term ∈ terms, index ∈ term.indices → term.mentionsTime = true)
      (member : index ∈ terms.flatMap indices) : terms.any Term.mentionsTime = true := by
    obtain ⟨term, listed, inside⟩ := List.mem_flatMap.mp member
    exact List.any_eq_true.mpr ⟨term, listed, ih term listed inside⟩
  induction term using induction with
  | literal value => cases member
  | name identifier => cases member
  | unary operator operand ih => exact ih member
  | binary operator left right ihLeft ihRight =>
      rw [mentionsTime, Bool.or_eq_true]
      exact (List.mem_append.mp member).imp ihLeft ihRight
  | subscript value position ihValue ihPosition =>
      rw [mentionsTime, Bool.or_eq_true]
      rw [indices, List.mem_append, List.mem_append] at member
      exact member.imp ihValue fun later =>
        later.elim (mentionsTime_of_mem_bracketed · mentioned) ihPosition
  | call function passed named ihFunction ihPassed ihNamed =>
      rw [indices, allIndices_eq, allIndices_eq, List.mem_append, List.mem_append] at member
      rw [mentionsTime, anyMentionsTime_eq, anyMentionsTime_eq, Bool.or_eq_true, Bool.or_eq_true]
      rcases member with inside | inside | inside
      · exact .inl (.inl (ihFunction inside))
      · exact .inl (.inr (among ihPassed inside))
      · exact .inr (among ihNamed inside)
  | tuple items ih =>
      rw [indices, allIndices_eq] at member
      rw [mentionsTime, anyMentionsTime_eq]
      exact among ih member
  | compound shape pieces ih =>
      rw [indices, allIndices_eq] at member
      rw [mentionsTime, anyMentionsTime_eq]
      exact among ih member

/-- Around an index that is undated stands another one. -/
theorem isUndated_of_mem_indices {inner index : Term α} (member : inner ∈ index.indices)
    (undated : inner.isUndated = true) : index.isUndated = true := by
  rw [isUndated_iff] at undated ⊢
  refine ⟨mentionsTime_of_mem_indices member undated.1, fun date => ?_⟩
  rw [date.indices_eq] at member
  cases member

/-! ### Changed offsets -/

/-- Change the offset of an index, or the offsets inside it if it has none. -/
def reindexIndex (change : Int → Int) (index : Term α) : Term α :=
  match index.offset? with
  | some offset => ofOffset (change offset)
  | none => index.reindex change

/-- Change each of the indices between brackets. -/
def mapBracketed (change : Term α → Term α) : Term α → Term α
  | .tuple items => .tuple (items.map change)
  | index => change index

@[simp]
theorem reindexAll_eq (terms : List (Term α)) :
    reindexAll change terms = terms.map (reindex change) := by
  induction terms with
  | nil => rfl
  | cons term rest ih => rw [reindexAll, ih, List.map_cons]

theorem reindexIndices_eq (terms : List (Term α)) :
    reindexIndices change terms = terms.map (reindexIndex change) := by
  induction terms with
  | nil => rfl
  | cons index rest ih =>
      rw [reindexIndices, ih, List.map_cons]
      rfl

theorem reindex_subscript (value index : Term α) :
    (subscript value index).reindex change =
      .subscript (value.reindex change) (index.mapBracketed (reindexIndex change)) := by
  cases index with
  | tuple items => rw [reindex, reindexIndices_eq, mapBracketed]
  | _ => rfl

theorem reindexIndex_of_offset? {index : Term α} {offset : Int}
    (read : index.offset? = some offset) :
    index.reindexIndex change = ofOffset (change offset) := by
  rw [reindexIndex, read]

theorem reindexIndex_of_none {index : Term α} (none : index.offset? = none) :
    index.reindexIndex change = index.reindex change := by
  rw [reindexIndex, none]

/-- An index without the current date is changed as any other term is. -/
theorem reindexIndex_of_not_mentionsTime {index : Term α} (timeless : index.mentionsTime = false) :
    index.reindexIndex change = index.reindex change := by
  refine reindexIndex_of_none (Option.eq_none_iff_forall_ne_some.mpr fun offset read => ?_)
  rw [mentionsTime_of_offset? read] at timeless
  cases timeless

/-- Induction with a hypothesis for each of several indices. -/
@[elab_as_elim]
theorem bracketedInduction {motive : Term α → Prop}
    (literal : ∀ value, motive (.literal value))
    (name : ∀ identifier, motive (.name identifier))
    (unary : ∀ operator operand, motive operand → motive (.unary operator operand))
    (binary : ∀ operator left right, motive left → motive right →
      motive (.binary operator left right))
    (subscript : ∀ value index, motive value → motive index →
      (∀ item ∈ index.bracketed, motive item) → motive (.subscript value index))
    (call : ∀ function passed named, motive function → (∀ term ∈ passed, motive term) →
      (∀ term ∈ named, motive term) → motive (.call function passed named))
    (tuple : ∀ items, (∀ term ∈ items, motive term) → motive (.tuple items))
    (compound : ∀ shape parts, (∀ term ∈ parts, motive term) → motive (.compound shape parts))
    (term : Term α) : motive term := by
  have single {term : Term α} (holds : motive term) : ∀ item ∈ [term], motive item :=
    List.forall_mem_singleton.mpr holds
  have both (term : Term α) : motive term ∧ ∀ item ∈ term.bracketed, motive item := by
    induction term using induction with
    | literal value => exact ⟨literal value, single (literal value)⟩
    | name identifier => exact ⟨name identifier, single (name identifier)⟩
    | unary operator operand ih =>
        have holds := unary operator operand ih.1
        exact ⟨holds, single holds⟩
    | binary operator left right ihLeft ihRight =>
        have holds := binary operator left right ihLeft.1 ihRight.1
        exact ⟨holds, single holds⟩
    | subscript value index ihValue ihIndex =>
        have holds := subscript value index ihValue.1 ihIndex.1 ihIndex.2
        exact ⟨holds, single holds⟩
    | call function passed named ihFunction ihPassed ihNamed =>
        have holds := call function passed named ihFunction.1
          (fun term member => (ihPassed term member).1) fun term member => (ihNamed term member).1
        exact ⟨holds, single holds⟩
    | tuple items ih =>
        have each : ∀ item ∈ items, motive item := fun item member => (ih item member).1
        exact ⟨tuple items each, each⟩
    | compound shape parts ih =>
        have holds := compound shape parts fun term member => (ih term member).1
        exact ⟨holds, single holds⟩
  exact (both term).1

theorem mapBracketed_congr {index : Term α} {first second : Term α → Term α}
    (same : ∀ item ∈ index.bracketed, first item = second item) :
    index.mapBracketed first = index.mapBracketed second := by
  cases index with
  | tuple items => exact congrArg tuple (List.map_congr_left same)
  | _ => exact same _ (List.mem_singleton_self _)

theorem mapBracketed_id (index : Term α) : index.mapBracketed id = index := by
  cases index with
  | tuple items => exact congrArg tuple (List.map_id items)
  | _ => rfl

/-- Where the current date is not mentioned there are no offsets. -/
theorem reindex_of_not_mentionsTime {term : Term α} (timeless : term.mentionsTime = false) :
    term.reindex change = term := by
  have among {terms : List (Term α)} (timeless : terms.any mentionsTime = false)
      (ih : ∀ term ∈ terms, term.mentionsTime = false → term.reindex change = term) :
      terms.map (reindex change) = terms := by
    rw [List.any_eq_false] at timeless
    conv_rhs => rw [← List.map_id terms]
    refine List.map_congr_left fun term member => ih term member ?_
    exact eq_false_of_ne_true (timeless term member)
  induction term using bracketedInduction with
  | literal value => rfl
  | name identifier => rfl
  | unary operator operand ih => exact congrArg (unary operator) (ih timeless)
  | binary operator left right ihLeft ihRight =>
      rw [mentionsTime, Bool.or_eq_false_iff] at timeless
      exact congrArg₂ (binary operator) (ihLeft timeless.1) (ihRight timeless.2)
  | subscript value index ihValue _ ihItems =>
      rw [mentionsTime, Bool.or_eq_false_iff] at timeless
      have same : index.mapBracketed (reindexIndex change) = index.mapBracketed id := by
        refine mapBracketed_congr fun item member => ?_
        have timelessItem : item.mentionsTime = false := by
          refine eq_false_of_ne_true fun mentioned => ?_
          rw [mentionsTime_of_mem_bracketed member mentioned] at timeless
          cases timeless.2
        rw [reindexIndex_of_not_mentionsTime timelessItem, ihItems item member timelessItem, id]
      rw [reindex_subscript, ihValue timeless.1, same, mapBracketed_id]
  | call function passed named ihFunction ihPassed ihNamed =>
      simp only [mentionsTime, anyMentionsTime_eq, Bool.or_eq_false_iff] at timeless
      obtain ⟨⟨timelessFunction, timelessPassed⟩, timelessNamed⟩ := timeless
      simp only [reindex, reindexAll_eq, ihFunction timelessFunction, among timelessPassed ihPassed,
        among timelessNamed ihNamed]
  | tuple items ih =>
      rw [mentionsTime, anyMentionsTime_eq] at timeless
      rw [reindex, reindexAll_eq, among timeless ih]
  | compound shape pieces ih =>
      rw [mentionsTime, anyMentionsTime_eq] at timeless
      rw [reindex, reindexAll_eq, among timeless ih]

/-! ### Undated indices -/

/-- A computation that succeeds on each item unless something bad is in it succeeds on all items
unless something bad is in one of them. -/
theorem mapM_eq_elim_find? {β γ δ : Type} {compute : β → Except γ δ} {result : β → δ}
    {parts : β → List γ} {bad : γ → Bool} {items : List β}
    (each : ∀ item ∈ items,
      compute item = ((parts item).find? bad).elim (.ok (result item)) .error) :
    items.mapM compute =
      ((items.flatMap parts).find? bad).elim (.ok (items.map result)) .error := by
  induction items with
  | nil => rfl
  | cons item rest ih =>
      rw [List.mapM_cons, List.flatMap_cons, List.find?_append, each item List.mem_cons_self,
        ih fun later member => each later (List.mem_cons_of_mem item member)]
      rcases (parts item).find? bad with _ | found
      · rcases (rest.flatMap parts).find? bad with _ | found <;> rfl
      · rfl

theorem shiftIndex_eq (periods : Int) (index : Term α) :
    shiftIndex periods index =
      ([index].find? isUndated).elim (.ok (index.reindexIndex (· - periods))) .error := by
  rw [shiftIndex, List.find?_singleton, isUndated]
  rcases timed : index.mentionsTime
  · rw [reindexIndex_of_not_mentionsTime timed, reindex_of_not_mentionsTime timed]
    rfl
  · rcases read : index.offset? with _ | offset
    · rfl
    · rw [reindexIndex_of_offset? read]
      rfl

theorem shiftPosition_eq (index : Term α) :
    shiftPosition periods index = (index.bracketed.find? isUndated).elim
      (.ok (index.mapBracketed (reindexIndex (· - periods)))) .error := by
  cases index with
  | tuple items =>
      rw [shiftPosition, shiftIndices_eq,
        mapM_eq_elim_find? fun item _ => shiftIndex_eq periods item, List.flatMap_singleton',
        bracketed]
      rcases items.find? isUndated with _ | found <;> rfl
  | _ => exact shiftIndex_eq periods _

/-- What stands inside an index is undated only if an index between the same brackets is. -/
theorem find?_bracketed_append_indices (index : Term α) :
    (index.bracketed ++ index.indices).find? isUndated = index.bracketed.find? isUndated := by
  rw [List.find?_append]
  rcases outer : index.bracketed.find? isUndated with _ | found
  · rw [Option.none_or, List.find?_eq_none]
    rw [List.find?_eq_none] at outer
    intro inner member undated
    cases index with
    | tuple items =>
        rw [indices, allIndices_eq] at member
        obtain ⟨item, listed, inside⟩ := List.mem_flatMap.mp member
        exact outer item listed (isUndated_of_mem_indices inside undated)
    | _ => exact outer _ (List.mem_singleton_self _) (isUndated_of_mem_indices member undated)
  · rfl

/-- A term is shifted by changing its offsets, unless one of its indices is undated. -/
theorem shift_eq (term : Term α) :
    term.shift periods = term.undated?.elim (.ok (term.reindex (· - periods))) .error := by
  induction term using induction with
  | literal value => rfl
  | name identifier => rfl
  | unary operator operand ih =>
      rw [shift, ih, undated?, undated?, indices]
      rcases operand.indices.find? isUndated with _ | found <;> rfl
  | binary operator left right ihLeft ihRight =>
      rw [shift, ihLeft, ihRight, undated?, undated?, undated?, indices, List.find?_append]
      rcases left.indices.find? isUndated with _ | found
      · rcases right.indices.find? isUndated with _ | found <;> rfl
      · rfl
  | subscript value index ihValue _ =>
      rw [shift_subscript, ihValue, shiftPosition_eq, reindex_subscript, undated?, undated?,
        indices, List.find?_append, find?_bracketed_append_indices]
      rcases value.indices.find? isUndated with _ | found
      · rcases index.bracketed.find? isUndated with _ | found <;> rfl
      · rfl
  | call function passed named ihFunction ihPassed ihNamed =>
      simp only [shift, shiftAll_eq, ihFunction, mapM_eq_elim_find? ihPassed,
        mapM_eq_elim_find? ihNamed, undated?, indices, allIndices_eq, List.find?_append, reindex,
        reindexAll_eq]
      rcases function.indices.find? isUndated with _ | found
      · rcases (passed.flatMap indices).find? isUndated with _ | found
        · rcases (named.flatMap indices).find? isUndated with _ | found <;> rfl
        · rfl
      · rfl
  | tuple items ih =>
      rw [shift, shiftAll_eq, mapM_eq_elim_find? ih, undated?, indices, allIndices_eq, reindex,
        reindexAll_eq]
      rcases (items.flatMap indices).find? isUndated with _ | found <;> rfl
  | compound shape pieces ih =>
      rw [shift, shiftAll_eq, mapM_eq_elim_find? ih, undated?, indices, allIndices_eq, reindex,
        reindexAll_eq]
      rcases (pieces.flatMap indices).find? isUndated with _ | found <;> rfl

/-! ### Lags -/

@[simp]
theorem lagged_zero (term : Term α) : term.lagged 0 = .ok term := rfl

theorem lagged_of_ne (moves : periods ≠ 0) (term : Term α) :
    term.lagged periods = term.undated?.elim (.ok (term.reindex (· - periods)))
      fun index => .error (.timeIndex index) := by
  rw [lagged, lag, if_neg moves, shift_eq]
  rcases term.undated? with _ | index <;> rfl

variable {term first whole : Term α}

theorem lagged_eq_ok_iff (moves : periods ≠ 0) :
    term.lagged periods = .ok first ↔
      term.undated? = none ∧ first = term.reindex (· - periods) := by
  rw [lagged_of_ne moves]
  rcases term.undated? with _ | index
  · simp [eq_comm]
  · simp

end Intertemporal.Source.Term
