import Intertemporal.Proofs.Source.Calls
import Intertemporal.Proofs.Source.Identifiers
import Intertemporal.Proofs.Source.RatioFailures

/-!
# Identifiers of an expansion

Names are resolved in the expanded term, so an identifier that an expansion left out would never be
looked up. Every operator keeps the identifiers of its arguments, with one exception: a sum over a
single period that is weighted with the powers of a ratio has no lag to weigh, and the ratio is
gone. `Term.occurs_of_expandOperators` says so for whole terms.
-/

namespace Intertemporal

open Source (Term)

namespace Source.Term

variable {α : Type} {place : Place}

/-! ### Sums and windows -/

theorem occurrences_sumOf (first : Term α) (others : List (Term α)) :
    (sumOf first others).occurrences place = (first :: others).flatMap (occurrences place) := by
  induction others generalizing first with
  | nil => rw [sumOf, List.foldl_nil, List.flatMap_singleton]
  | cons second rest ih =>
      change (sumOf (.binary .add first second) rest).occurrences place = _
      rw [ih, List.flatMap_cons, List.flatMap_cons, List.flatMap_cons, occurrences,
        List.append_assoc]

theorem occurrences_sumOfAll (terms : List (Term α)) :
    (sumOfAll terms).occurrences place = terms.flatMap (occurrences place) := by
  cases terms with
  | nil => rfl
  | cons first others => exact occurrences_sumOf first others

theorem subset_occurrences_sumOf (first : Term α) (others : List (Term α)) :
    first.occurrences place ⊆ (sumOf first others).occurrences place := by
  rw [occurrences_sumOf, List.flatMap_cons]
  exact List.subset_append_left _ _

theorem subset_occurrences_addMultiple (sum : Term α) (coefficient : Int) (term : Term α) :
    sum.occurrences place ⊆ (addMultiple sum coefficient term).occurrences place := by
  unfold addMultiple
  split_ifs <;> exact List.subset_append_left _ _

theorem subset_occurrences_of_addLags {argument sum result : Term α} {lag : Nat}
    {coefficients : List Int} (done : addLags argument sum lag coefficients = .ok result) :
    sum.occurrences place ⊆ result.occurrences place := by
  induction coefficients generalizing sum lag with
  | nil =>
      cases done
      exact List.Subset.refl _
  | cons coefficient rest ih =>
      rw [addLags] at done
      split at done
      · exact ih done
      · rcases bind_eq_ok.mp done with ⟨term, -, remaining⟩
        exact List.Subset.trans (subset_occurrences_addMultiple sum coefficient term) (ih remaining)

theorem subset_occurrences_of_difference {argument result : Term α} {order span : Int}
    (done : argument.difference order span = .ok result) :
    argument.occurrences place ⊆ result.occurrences place := by
  rcases bind_eq_ok.mp done with ⟨coefficients, -, added⟩
  exact subset_occurrences_of_addLags added

theorem subset_occurrences_of_logDifference {argument result : Term α} {order span : Int}
    (done : argument.logDifference order span = .ok result) :
    argument.occurrences place ⊆ result.occurrences place := by
  refine List.Subset.trans ?_ (subset_occurrences_of_difference done)
  simp only [occurrences, allOccurrences_eq, List.flatMap_singleton, List.flatMap_nil,
    List.append_nil]
  exact List.subset_append_right _ _

/-- A sum over a window contains the term without a lag. -/
theorem subset_occurrences_of_movingSum {argument result : Term α} {periods : Int}
    (done : argument.movingSum periods = .ok result) :
    argument.occurrences place ⊆ result.occurrences place := by
  simp only [movingSum, bind_eq_ok] at done
  rcases done with ⟨checked, some, terms, collected, ⟨⟩⟩
  rcases Nat.exists_eq_add_of_le (Int.toNat_le_toNat (one_le_of_checkWindow some)) with ⟨rest, more⟩
  rw [more, Int.toNat_one, Nat.add_comm, lags] at collected
  simp only [bind_eq_ok] at collected
  rcases collected with ⟨first, lagged, others, -, ⟨⟩⟩
  rw [occurrences_sumOfAll, List.flatMap_cons, occurrences_of_lagged lagged]
  exact List.subset_append_left _ _

theorem subset_occurrences_of_movingAverage {argument result : Term α} {periods : Int}
    (done : argument.movingAverage periods = .ok result) :
    argument.occurrences place ⊆ result.occurrences place := by
  rcases bind_eq_ok.mp done with ⟨sum, summed, ⟨⟩⟩
  exact List.subset_append_of_subset_left _ (subset_occurrences_of_movingSum summed)

/-- A weighted window contains every weight, and the term once for every weight. -/
theorem occurrences_of_weighted {argument : Term α} {lag : Nat} {weights terms : List (Term α)}
    (done : weighted argument lag weights = .ok terms) :
    terms.flatMap (occurrences place) =
      weights.flatMap fun weight => weight.occurrences place ++ argument.occurrences place := by
  induction weights generalizing lag terms with
  | nil =>
      cases done
      rfl
  | cons weight rest ih =>
      simp only [weighted, bind_eq_ok] at done
      rcases done with ⟨term, lagged, others, collected, ⟨⟩⟩
      rw [List.flatMap_cons, List.flatMap_cons, ih collected, occurrences,
        occurrences_of_lagged lagged]

/-- The weights that a window is read with contain what the given weights contain. -/
theorem subset_occurrences_of_resolveWeights (place : Place) {operator : Operator} {periods : Int}
    {weights resolved : List (Term α)}
    (done : resolveWeights operator periods weights = .ok resolved) :
    weights.flatMap (occurrences place) ⊆ resolved.flatMap (occurrences place) ∧
      (weights ≠ [] → resolved ≠ []) := by
  rcases bind_eq_ok.mp done with ⟨checked, -, found⟩
  split at found
  · rename_i vector
    split at found
    · rename_i several
      cases found
      have zero : 0 ∈ List.range periods.toNat := List.mem_range.mpr (by omega)
      refine ⟨?_, fun _ => List.ne_nil_of_mem (List.mem_map_of_mem zero)⟩
      intro occurrence member
      rw [List.flatMap_singleton] at member
      refine List.mem_flatMap.mpr ⟨_, List.mem_map_of_mem zero, ?_⟩
      exact List.mem_append_left _ member
    · cases found
      exact ⟨List.Subset.refl _, id⟩
  · split at found
    · cases found
      exact ⟨List.Subset.refl _, id⟩
    · cases found

theorem subset_occurrences_of_weightedSum {argument result : Term α} {periods : Int}
    {weights : List (Term α)} (given : weights ≠ [])
    (done : argument.weightedSum periods weights = .ok result) :
    argument.occurrences place ++ weights.flatMap (occurrences place) ⊆
      result.occurrences place := by
  simp only [weightedSum, bind_eq_ok] at done
  rcases done with ⟨resolved, found, terms, collected, ⟨⟩⟩
  rcases subset_occurrences_of_resolveWeights place found with ⟨kept, some⟩
  rcases List.exists_mem_of_ne_nil _ (some given) with ⟨first, among⟩
  rw [occurrences_sumOfAll, occurrences_of_weighted collected]
  refine List.append_subset.mpr ⟨?_, fun occurrence member => ?_⟩
  · intro occurrence member
    exact List.mem_flatMap.mpr ⟨first, among, List.mem_append_right _ member⟩
  · rcases List.mem_flatMap.mp (kept member) with ⟨weight, inside, occurs⟩
    exact List.mem_flatMap.mpr ⟨weight, inside, List.mem_append_left _ occurs⟩

theorem subset_occurrences_of_weightedAverage {argument result : Term α} {periods : Int}
    {weights : List (Term α)} (given : weights ≠ [])
    (done : argument.weightedAverage periods weights = .ok result) :
    argument.occurrences place ++ weights.flatMap (occurrences place) ⊆
      result.occurrences place := by
  simp only [weightedAverage, bind_eq_ok] at done
  rcases done with ⟨divisor, -, sum, summed, ⟨⟩⟩
  exact List.subset_append_of_subset_left _ (subset_occurrences_of_weightedSum given summed)

/-! ### Powers of a ratio -/

variable [Scalar α]

theorem subset_occurrences_of_exponentialSum (place : Place) {argument ratio result : Term α}
    {periods : Int}
    (done : argument.exponentialSum periods ratio = .ok result) :
    argument.occurrences place ⊆ result.occurrences place := by
  rcases bind_eq_ok.mp done with ⟨checked, some, remaining⟩
  split at remaining
  · rcases bind_eq_ok.mp remaining with ⟨value, -, weighing⟩
    split at weighing
    · exact subset_occurrences_of_movingSum weighing
    · rcases bind_eq_ok.mp weighing with ⟨terms, -, ⟨⟩⟩
      exact subset_occurrences_sumOf argument terms
  · rcases bind_eq_ok.mp remaining with ⟨terms, -, ⟨⟩⟩
    exact subset_occurrences_sumOf argument terms

/-- A ratio stays in the sum as soon as there is a lag for it to weigh. -/
theorem ratio_subset_occurrences_of_exponentialSum {argument ratio result : Term α} {periods : Int}
    (several : periods ≠ 1) (done : argument.exponentialSum periods ratio = .ok result) :
    ratio.occurrences place ⊆ result.occurrences place := by
  rcases bind_eq_ok.mp done with ⟨checked, some, remaining⟩
  have positive := one_le_of_checkWindow some
  split at remaining
  · rename_i quantity written
    rw [occurrences_of_number? written]
    exact List.nil_subset _
  · rcases bind_eq_ok.mp remaining with ⟨terms, collected, ⟨⟩⟩
    have lagged : ∃ rest, periods.toNat - 1 = rest + 1 := ⟨periods.toNat - 2, by omega⟩
    rcases lagged with ⟨rest, more⟩
    rw [occurrences_sumOf, List.flatMap_cons, occurrences_of_weighted collected, more,
      symbolicWeights, List.flatMap_cons]
    intro occurrence member
    simp only [occurrences, List.mem_append, member, true_or, or_true]

/-- A mean contains the ratio in the sum of its weights. -/
theorem subset_occurrences_of_exponentialAverage {argument ratio result : Term α} {periods : Int}
    (done : argument.exponentialAverage periods ratio = .ok result) :
    argument.occurrences place ++ ratio.occurrences place ⊆ result.occurrences place := by
  unfold exponentialAverage at done
  split at done
  · rename_i quantity written
    rw [occurrences_of_number? written, List.append_nil]
    rcases bind_eq_ok.mp done with ⟨value, -, averaging⟩
    split at averaging
    · exact subset_occurrences_of_movingAverage averaging
    · rcases bind_eq_ok.mp averaging with ⟨power, -, dividing⟩
      dsimp only at dividing
      split at dividing
      · cases dividing
      · rcases bind_eq_ok.mp dividing with ⟨sum, summed, ⟨⟩⟩
        exact List.subset_append_of_subset_left _
          (subset_occurrences_of_exponentialSum place summed)
  · rcases bind_eq_ok.mp done with ⟨sum, summed, ⟨⟩⟩
    have kept := subset_occurrences_of_exponentialSum place summed
    refine List.append_subset.mpr ⟨fun occurrence member => ?_, fun occurrence member => ?_⟩
    · simp only [occurrences, List.mem_append, kept member, true_or]
    · simp only [occurrences, List.mem_append, member, or_true, true_or]

end Source.Term

/-! ### Operators -/

namespace Operator

variable {α : Type} {place : Source.Place}

theorem ReadsOrders.occurrences_of_mem {counts : List (Term α)} {order span : Int}
    (read : ReadsOrders counts order span) {given : Term α} (member : given ∈ counts) :
    given.occurrences place = [] := by
  cases read with
  | neither => cases member
  | order read =>
      rw [List.mem_singleton.mp member]
      exact Term.occurrences_of_integer? read
  | both read readSpan =>
      rcases List.mem_cons.mp member with rfl | later
      · exact Term.occurrences_of_integer? read
      · rw [List.mem_singleton.mp later]
        exact Term.occurrences_of_integer? readSpan

/-- A result that keeps the series keeps all arguments if the others are numbers. -/
theorem subset_occurrences_of_mem {series result : Term α} {counts : List (Term α)}
    (kept : series.occurrences place ⊆ result.occurrences place)
    (numbers : ∀ given ∈ counts, given.occurrences place = []) :
    ∀ argument ∈ series :: counts, argument.occurrences place ⊆ result.occurrences place := by
  refine List.forall_mem_cons.mpr ⟨kept, fun given among => ?_⟩
  rw [numbers given among]
  exact List.nil_subset _

theorem subset_occurrences_of_mem_pair {value : Int} {series periods result : Term α}
    (kept : series.occurrences place ⊆ result.occurrences place)
    (read : periods.integer? = some value) :
    ∀ argument ∈ [series, periods], argument.occurrences place ⊆ result.occurrences place :=
  subset_occurrences_of_mem kept
    (List.forall_mem_singleton.mpr (Term.occurrences_of_integer? read))

theorem subset_occurrences_of_mem_weights {value : Int} {series periods result : Term α}
    {weights : List (Term α)}
    (kept : series.occurrences place ++ weights.flatMap (Term.occurrences place) ⊆
      result.occurrences place)
    (read : periods.integer? = some value) :
    ∀ argument ∈ series :: periods :: weights,
      argument.occurrences place ⊆ result.occurrences place := by
  rcases List.append_subset.mp kept with ⟨keptSeries, keptWeights⟩
  refine List.forall_mem_cons.mpr ⟨keptSeries, List.forall_mem_cons.mpr ⟨?_, ?_⟩⟩
  · rw [Term.occurrences_of_integer? read]
    exact List.nil_subset _
  · intro weight among occurrence occurs
    exact keptWeights (List.mem_flatMap.mpr ⟨weight, among, occurs⟩)

variable [Scalar α]

/-- An operator keeps what its arguments contain. Only a sum over a single period that is weighted
with the powers of a ratio may be without the ratio. -/
theorem subset_occurrences_of_expand (place : Source.Place) {operator : Operator}
    {arguments : List (Term α)} {result : Term α} (done : operator.expand arguments = .ok result) :
    (∀ argument ∈ arguments, argument.occurrences place ⊆ result.occurrences place) ∨
      (operator = .exponentialSum ∧ ∃ series periods ratio,
        arguments = [series, periods, ratio] ∧ periods.integer? = some 1 ∧
          series.occurrences place ⊆ result.occurrences place) := by
  have keeps {series : Term α} {periods : Int} (lagged : series.lagged periods = .ok result) :
      series.occurrences place ⊆ result.occurrences place := by
    rw [Term.occurrences_of_lagged lagged]
    exact List.Subset.refl _
  cases expand_eq_ok.mp done with
  | lag lagged | lead lagged => exact .inl (List.forall_mem_singleton.mpr (keeps lagged))
  | lagBy read lagged | leadBy read lagged =>
      exact .inl (subset_occurrences_of_mem_pair (keeps lagged) read)
  | difference read expanded =>
      exact .inl (subset_occurrences_of_mem (Term.subset_occurrences_of_difference expanded)
        fun _ => read.occurrences_of_mem)
  | logDifference read expanded =>
      exact .inl (subset_occurrences_of_mem (Term.subset_occurrences_of_logDifference expanded)
        fun _ => read.occurrences_of_mem)
  | movingSum read summed =>
      exact .inl (subset_occurrences_of_mem_pair (Term.subset_occurrences_of_movingSum summed) read)
  | movingAverage read averaged =>
      exact .inl (subset_occurrences_of_mem_pair
        (Term.subset_occurrences_of_movingAverage averaged) read)
  | weightedSum read summed =>
      exact .inl (subset_occurrences_of_mem_weights
        (Term.subset_occurrences_of_weightedSum (List.cons_ne_nil _ _) summed) read)
  | weightedAverage read averaged =>
      exact .inl (subset_occurrences_of_mem_weights
        (Term.subset_occurrences_of_weightedAverage (List.cons_ne_nil _ _) averaged) read)
  | @exponentialSum series given ratio _ periods read summed =>
      have keptSeries := Term.subset_occurrences_of_exponentialSum place summed
      by_cases single : periods = 1
      · exact .inr ⟨rfl, series, given, ratio, rfl, single ▸ read, keptSeries⟩
      · refine .inl (subset_occurrences_of_mem_weights ?_ read)
        rw [List.flatMap_singleton]
        exact List.append_subset.mpr
          ⟨keptSeries, Term.ratio_subset_occurrences_of_exponentialSum single summed⟩
  | exponentialAverage read averaged =>
      refine .inl (subset_occurrences_of_mem_weights ?_ read)
      rw [List.flatMap_singleton]
      exact Term.subset_occurrences_of_exponentialAverage averaged

end Operator

/-! ### Terms -/

namespace Source.Term

variable {α : Type} {place : Place}

theorem eq_name_of_operator? {function : Term α} {operator : Operator}
    (calls : function.operator? = some operator) :
    ∃ name, function = .name name ∧ Operator.ofName? name = some operator := by
  cases function with
  | name name => exact ⟨name, rfl, calls⟩
  | _ => cases calls

theorem name_of_ofName? {name : String} {operator : Operator}
    (found : Operator.ofName? name = some operator) : operator.name = name := by
  simpa using List.find?_some found

variable [Scalar α]

/-- A single period is weighted with one, so a symbolic ratio does not reach the sum. -/
theorem exponentialSum_one (argument : Term α) {ratio : Term α} (symbolic : ratio.number? = none) :
    argument.exponentialSum 1 ratio = .ok argument := by
  rw [exponentialSum, symbolic]
  rfl

/-- A call of a sum over one period that is weighted with the powers of a ratio, and the ratio that
it has no use for. -/
inductive HasIdleRatio : Term α → Term α → Prop
  | call {function series periods ratio count : Term α}
      (named : function.expandOperators = .ok (.name Operator.exponentialSum.name))
      (counted : periods.expandOperators = .ok count) (single : count.integer? = some 1) :
      HasIdleRatio (.call function [series, periods, ratio] []) ratio

/-- An identifier of a term that stands in a ratio without use. -/
def LeavesOut (term : Term α) (occurrence : Occurrence) : Prop :=
  ∃ part ∈ term.parts, ∃ ratio place, part.HasIdleRatio ratio ∧
    occurrence ∈ ratio.occurrences place

/-- An identifier that the expansion of a term need not contain: it names an operator that is
called, or it stands in a ratio without use. -/
def UsesUp (term : Term α) (occurrence : Occurrence) : Prop :=
  (occurrence.place = .called ∧ (Operator.ofName? occurrence.identifier).isSome = true) ∨
    term.LeavesOut occurrence

theorem UsesUp.of_child {child whole : Term α} {occurrence : Occurrence}
    (used : child.UsesUp occurrence) (member : child ∈ whole.children) :
    whole.UsesUp occurrence :=
  used.imp_right fun ⟨part, inside, idle⟩ => ⟨part, mem_parts_of_mem_children member inside, idle⟩

/-- What becomes of the identifiers of several terms, as far as it is known for each. -/
theorem occurs_of_mapM {whole : Term α} {terms results : List (Term α)} {occurrence : Occurrence}
    (done : terms.mapM expandOperators = .ok results)
    (each : ∀ term ∈ terms, ∀ {result}, term.expandOperators = .ok result →
      occurrence ∈ term.occurrences place →
        occurrence ∈ result.occurrences place ∨ term.UsesUp occurrence)
    (includes : terms ⊆ whole.children) (occurs : occurrence ∈ terms.flatMap (occurrences place)) :
    occurrence ∈ results.flatMap (occurrences place) ∨ whole.UsesUp occurrence := by
  rcases List.mem_flatMap.mp occurs with ⟨term, inside, here⟩
  rcases exists_of_mem_left (mapM_eq_ok.mp done) inside with ⟨result, among, expanded⟩
  rcases each term inside expanded here with kept | used
  · exact .inl (List.mem_flatMap.mpr ⟨result, among, kept⟩)
  · exact .inr (used.of_child (includes inside))

/-- A call of an operator accounts for what stands in its arguments. -/
theorem occurs_of_expand {operator : Operator} {function result : Term α}
    {passed arguments : List (Term α)} {occurrence : Occurrence}
    (named : function.expandOperators = .ok (.name operator.name))
    (given : passed.mapM expandOperators = .ok arguments)
    (done : operator.expand arguments = .ok result)
    (each : ∀ term ∈ passed, ∀ {result}, term.expandOperators = .ok result →
      occurrence ∈ term.occurrences place →
        occurrence ∈ result.occurrences place ∨ term.UsesUp occurrence)
    (occurs : occurrence ∈ passed.flatMap (occurrences place)) :
    occurrence ∈ result.occurrences place ∨ (call function passed []).UsesUp occurrence := by
  have paired := mapM_eq_ok.mp given
  have includes := (subset_children_call function passed []).1
  rcases Operator.subset_occurrences_of_expand place done with kept | ⟨rfl, idle⟩
  · rcases occurs_of_mapM given each includes occurs with inside | used
    · rcases List.mem_flatMap.mp inside with ⟨argument, among, here⟩
      exact .inl (kept argument among here)
    · exact .inr used
  · -- The source has three arguments as well, and only the last one can be lost.
    rcases idle with ⟨series, periods, ratio, rfl, single, kept⟩
    rcases List.forall₂_cons_right_iff.mp paired with ⟨first, _, expandedSeries, rest, rfl⟩
    rcases List.forall₂_cons_right_iff.mp rest with ⟨second, _, expandedPeriods, last, rfl⟩
    rcases List.forall₂_cons_right_iff.mp last with ⟨third, _, -, none, rfl⟩
    cases List.forall₂_nil_right_iff.mp none
    rcases List.mem_flatMap.mp occurs with ⟨term, member, here⟩
    simp only [List.mem_cons, List.not_mem_nil, or_false] at member
    rcases member with rfl | rfl | rfl
    · refine (each term List.mem_cons_self expandedSeries here).imp (fun inside => kept inside) ?_
      exact fun used => used.of_child (includes List.mem_cons_self)
    · have second : term ∈ [first, term, third] := by simp
      rcases each term second expandedPeriods here with inside | used
      · rw [occurrences_of_integer? single] at inside
        cases inside
      · exact .inr (used.of_child (includes second))
    · exact .inr (.inr ⟨_, mem_parts _, term, place, .call named expandedPeriods single, here⟩)

/-- An expansion contains the identifiers of its term, apart from names of operators and ratios
without use. -/
theorem occurs_of_expandOperators {term result : Term α} {occurrence : Occurrence}
    (done : term.expandOperators = .ok result) (occurs : occurrence ∈ term.occurrences place) :
    occurrence ∈ result.occurrences place ∨ term.UsesUp occurrence := by
  induction term using induction generalizing result place with
  | literal value => cases occurs
  | name identifier =>
      cases done
      exact .inl occurs
  | unary operator operand ih =>
      rcases bind_eq_ok.mp done with ⟨inner, found, ⟨⟩⟩
      exact (ih found occurs).imp_right fun used => used.of_child (List.mem_singleton_self _)
  | binary operator left right ihLeft ihRight =>
      simp only [expandOperators, bind_eq_ok] at done
      rcases done with ⟨first, foundLeft, second, foundRight, ⟨⟩⟩
      rcases List.mem_append.mp occurs with here | here
      · exact (ihLeft foundLeft here).imp (List.mem_append_left _)
          fun used => used.of_child (by simp [children])
      · exact (ihRight foundRight here).imp (List.mem_append_right _)
          fun used => used.of_child (by simp [children])
  | subscript value index ihValue ihIndex =>
      simp only [expandOperators, bind_eq_ok] at done
      rcases done with ⟨base, foundValue, moved, foundIndex, ⟨⟩⟩
      rcases List.mem_append.mp occurs with here | here
      · exact (ihValue foundValue here).imp (List.mem_append_left _)
          fun used => used.of_child (by simp [children])
      · exact (ihIndex foundIndex here).imp (List.mem_append_right _)
          fun used => used.of_child (by simp [children])
  | call function passed named ihFunction ihPassed ihNamed =>
      simp only [expandOperators, expandAll_eq, bind_eq_ok] at done
      rcases done with ⟨called, foundFunction, arguments, foundPassed, keywords, foundNamed, last⟩
      rcases subset_children_call function passed named with ⟨includesPassed, includesNamed⟩
      simp only [occurrences, allOccurrences_eq, List.mem_append] at occurs
      rcases expandCall_eq_ok.mp last with ⟨-, rfl⟩ | ⟨operator, calls, rfl, expanded⟩
      · simp only [occurrences, allOccurrences_eq, List.mem_append]
        rcases occurs with (here | here) | here
        · exact (ihFunction foundFunction here).imp (fun inside => .inl (.inl inside))
            fun used => used.of_child List.mem_cons_self
        · exact (occurs_of_mapM foundPassed (fun term member => ihPassed term member)
            includesPassed here).imp_left fun inside => .inl (.inr inside)
        · exact (occurs_of_mapM foundNamed (fun term member => ihNamed term member)
            includesNamed here).imp_left .inr
      · cases List.forall₂_nil_right_iff.mp (mapM_eq_ok.mp foundNamed)
        rcases eq_name_of_operator? calls with ⟨name, rfl, found⟩
        -- The expansion is without the operator's own name.
        rcases occurs with (here | here) | here
        · rcases ihFunction foundFunction here with inside | used
          · rw [occurrences, List.mem_singleton] at inside
            subst inside
            exact .inr (.inl ⟨rfl, by rw [found]; rfl⟩)
          · exact .inr (used.of_child List.mem_cons_self)
        · rw [← name_of_ofName? found] at foundFunction
          exact occurs_of_expand foundFunction foundPassed expanded
            (fun term member => ihPassed term member) here
        · cases here
  | tuple items ih =>
      simp only [expandOperators, expandAll_eq, bind_eq_ok] at done
      rcases done with ⟨results, found, ⟨⟩⟩
      simp only [occurrences, allOccurrences_eq] at occurs ⊢
      exact occurs_of_mapM found (fun term member => ih term member) (List.Subset.refl _) occurs
  | compound shape pieces ih =>
      simp only [expandOperators, expandAll_eq, bind_eq_ok] at done
      rcases done with ⟨results, found, ⟨⟩⟩
      simp only [occurrences, allOccurrences_eq, List.mem_append] at occurs ⊢
      rcases occurs with here | here
      · exact .inl (.inl here)
      · exact (occurs_of_mapM found (fun term member => ih term member) (List.Subset.refl _)
          here).imp_left .inr

end Source.Term

end Intertemporal
