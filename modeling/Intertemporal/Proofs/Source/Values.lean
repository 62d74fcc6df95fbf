import Intertemporal.Proofs.Expression.Lags
import Intertemporal.Proofs.Expression.Places

/-!
# Values of terms

A term has a value if its operators have an expansion and the names in the expansion resolve. The
value of an expansion is put together from the values of its parts: a sum of several terms has the
sum of their values, and a window is a sum of weighted lags. Two ways of writing the weights give
the same value if the weights have the same values.

Every lag of a term that resolves resolves as well, so windows have values wherever what they are
taken of has one.
-/

namespace Intertemporal

open Source (Term)

/-- The value of something that may not resolve, and may not compute if it does. -/
abbrev Resolved (β : Type) := Option (Except ComputationError β)

namespace Resolved

variable {α β : Type} [NumberSystem α β]

/-- The value of something that resolves and computes. -/
def computed (value : β) : Resolved β := some (.ok value)

/-- There is a value, and it is computed without an error. -/
def IsComputed (value : Resolved β) : Prop := ∃ result, value = computed result

/-- An operation on two values. -/
def combine (operation : Arithmetic) (left right : Resolved β) : Resolved β :=
  left.bind fun left => right.map fun right => do
    let left ← left
    let right ← right
    .ok (NumberSystem.arithmetic operation left right)

@[simp]
theorem combine_computed (operation : Arithmetic) (left right : β) :
    combine operation (computed left) (computed right) =
      computed (NumberSystem.arithmetic operation left right) := rfl

theorem IsComputed.combine {left right : Resolved β} (first : left.IsComputed)
    (second : right.IsComputed) (operation : Arithmetic) :
    (combine operation left right).IsComputed := by
  obtain ⟨_, rfl⟩ := first
  obtain ⟨_, rfl⟩ := second
  exact ⟨_, rfl⟩

/-- A neutral number leaves every value as it is. -/
theorem combine_eq_right {operation : Arithmetic} {neutral : β}
    (same : ∀ value, NumberSystem.arithmetic operation neutral value = value)
    (value : Resolved β) : combine operation (computed neutral) value = value := by
  rcases value with _ | _ | value
  · rfl
  · rfl
  · rw [← computed, combine_computed, same]

end Resolved

namespace Source.Term

open Operator (Failure)
open Resolved (combine)

variable {α β : Type} [Scalar α] [NumberSystem α β]

/-- The value of a term without operators. -/
def resolved (symbols : SymbolTable) (valuation : Valuation α β) (term : Term α) : Resolved β :=
  (Expression.ofTerm symbols "" term).toOption.map (Expression.valueIn valuation)

/-- The value of a term. -/
def value (symbols : SymbolTable) (valuation : Valuation α β) (term : Term α) : Resolved β :=
  (term.normalize symbols.seriesNames).toOption.bind (resolved symbols valuation)

variable (symbols : SymbolTable) (valuation : Valuation α β)

/-- An equation text has the value of its residual. -/
theorem value_residual (name text : String) :
    (Expression.ofText symbols name text).toOption.map (Expression.valueIn valuation) =
      (Statement.residual text).toOption.bind (value symbols valuation) := by
  simp only [Expression.ofText, toOption_bind, toOption_mapError, Option.map_bind]
  refine Option.bind_congr fun term _ => ?_
  rw [Function.comp_apply, Option.map_bind, value]
  refine Option.bind_congr fun normal _ => ?_
  rw [Function.comp_apply, Expression.toOption_ofTerm_place symbols _ "", resolved]

/-! ### Sums -/

theorem resolved_binary {operator : BinaryOperator} {operation : Arithmetic}
    (known : operator.arithmetic? = some operation) (left right : Term α) :
    resolved symbols valuation (.binary operator left right) =
      combine operation (resolved symbols valuation left) (resolved symbols valuation right) := by
  simp only [resolved, Expression.ofTerm, known, toOption_bind, combine]
  rcases Expression.ofTerm symbols "" left with _ | first
  · rfl
  · rcases Expression.ofTerm symbols "" right with _ | second <;> rfl

theorem resolved_sumOf (first : Term α) (others : List (Term α)) :
    resolved symbols valuation (sumOf first others) =
      (others.map (resolved symbols valuation)).foldl (combine .add)
        (resolved symbols valuation first) := by
  induction others generalizing first with
  | nil => rfl
  | cons other rest ih =>
      have sum : BinaryOperator.add.arithmetic? = some .add := rfl
      rw [List.map_cons, List.foldl_cons, ← resolved_binary symbols valuation sum, ← ih]
      rfl

theorem resolved_products (factors terms : List (Term α)) :
    (List.zipWith (.binary .mul) factors terms).map (resolved symbols valuation) =
      List.zipWith (combine .mul) (factors.map (resolved symbols valuation))
        (terms.map (resolved symbols valuation)) := by
  have product : BinaryOperator.mul.arithmetic? = some .mul := rfl
  rw [List.map_zipWith, List.zipWith_map]
  simp only [resolved_binary symbols valuation product]

variable {symbols valuation}

theorem isComputed_sumOf {first : Term α} {others : List (Term α)}
    (start : (resolved symbols valuation first).IsComputed)
    (each : ∀ other ∈ others, (resolved symbols valuation other).IsComputed) :
    (resolved symbols valuation (sumOf first others)).IsComputed := by
  induction others generalizing first with
  | nil => exact start
  | cons other rest ih =>
      refine ih ?_ fun later member => each later (List.mem_cons_of_mem other member)
      rw [resolved_binary symbols valuation (rfl : BinaryOperator.add.arithmetic? = some .add)]
      exact start.combine (each other List.mem_cons_self) .add

/-! ### Windows -/

omit [Scalar α] in
/-- Whatever is weighted is lagged first. -/
theorem weighted_eq (argument : Term α) (lag : Nat) (weights : List (Term α)) :
    weighted argument lag weights =
      (lags argument lag weights.length).map (List.zipWith (.binary .mul) weights) := by
  induction weights generalizing lag with
  | nil => rfl
  | cons weight rest ih =>
      rw [weighted, List.length_cons, lags, ih]
      rcases argument.lagged lag with _ | term
      · rfl
      · rcases lags argument (lag + 1) rest.length with _ | terms <;> rfl

omit [Scalar α] in
theorem length_of_lags {argument : Term α} {lag periods : Nat} {terms : List (Term α)}
    (done : lags argument lag periods = .ok terms) : terms.length = periods := by
  induction periods generalizing lag terms with
  | zero =>
      cases done
      rfl
  | succ periods ih =>
      rw [lags] at done
      obtain ⟨first, -, done⟩ := bind_eq_ok.mp done
      obtain ⟨others, found, ⟨⟩⟩ := bind_eq_ok.mp done
      rw [List.length_cons, ih found]

theorem isComputed_resolved {term : Term α} :
    (resolved symbols valuation term).IsComputed ↔
      ∃ expression, Expression.ofTerm symbols "" term = .ok expression ∧
        expression.IsComputed valuation := by
  unfold resolved
  rcases Expression.ofTerm symbols "" term with _ | expression
  · simp [Resolved.IsComputed, Resolved.computed, Except.toOption]
  · simp [Resolved.IsComputed, Resolved.computed, Expression.IsComputed, Except.toOption]

/-- A term that resolves has all lags. -/
theorem exists_lagged {argument : Term α}
    (computed : (resolved symbols valuation argument).IsComputed) (periods : Int) :
    ∃ term, argument.lagged periods = .ok term ∧ (resolved symbols valuation term).IsComputed := by
  rw [lagged, lag]
  split_ifs with none
  · exact ⟨argument, rfl, computed⟩
  · obtain ⟨expression, found, evaluated⟩ := isComputed_resolved.mp computed
    obtain ⟨shifted, moved, done, again, kept⟩ := Expression.exists_shift_of_resolvesTo
      (Expression.ofTerm_eq_ok.mp found) valuation periods
    exact ⟨shifted, mapError_eq_ok.mpr done,
      isComputed_resolved.mpr ⟨moved, Expression.ofTerm_eq_ok.mpr again, kept evaluated⟩⟩

theorem exists_lags {argument : Term α}
    (computed : (resolved symbols valuation argument).IsComputed) (lag periods : Nat) :
    ∃ terms, lags argument lag periods = .ok terms ∧
      ∀ term ∈ terms, (resolved symbols valuation term).IsComputed := by
  induction periods generalizing lag with
  | zero => exact ⟨[], rfl, by simp⟩
  | succ periods ih =>
      obtain ⟨first, found, start⟩ := exists_lagged computed lag
      obtain ⟨others, remaining, each⟩ := ih (lag + 1)
      exact ⟨first :: others,
        bind_eq_ok.mpr ⟨first, found, bind_eq_ok.mpr ⟨others, remaining, rfl⟩⟩,
        List.forall_mem_cons.mpr ⟨start, each⟩⟩

/-- A term and its further lags, with weights for the lags. -/
def weightedWindow (argument : Term α) (weights : List (Term α)) : Except (Failure α) (Term α) :=
  (weighted argument 1 weights).map (sumOf argument)

/-- A term and its further lags. -/
def window (argument : Term α) (further : Nat) : Except (Failure α) (Term α) :=
  (lags argument 1 further).map (sumOf argument)

omit [Scalar α] in
/-- The first lag of a window is the term itself. -/
theorem movingSum_eq_window (argument : Term α) {periods : Nat} (positive : 1 ≤ periods) :
    argument.movingSum periods = window argument (periods - 1) := by
  obtain ⟨further, rfl⟩ := Nat.exists_eq_add_of_le' positive
  have first : argument.lagged (0 : Nat) = .ok argument := rfl
  rw [movingSum, checkWindow, if_neg (by omega), Int.toNat_natCast, lags, first,
    Nat.add_sub_cancel, window]
  rcases lags argument (0 + 1) further with _ | terms <;> rfl

variable (symbols valuation)

/-- The value of an expansion, if there is one. -/
def expanded (expansion : Except (Failure α) (Term α)) : Resolved β :=
  expansion.toOption.bind (resolved symbols valuation)

theorem expanded_binary {operator : BinaryOperator} {operation : Arithmetic}
    (known : operator.arithmetic? = some operation) (expansion : Except (Failure α) (Term α))
    (right : Term α) :
    expanded symbols valuation (expansion.map fun left => .binary operator left right) =
      combine operation (expanded symbols valuation expansion)
        (resolved symbols valuation right) := by
  rcases expansion with _ | left
  · rfl
  · exact resolved_binary symbols valuation known left right

theorem expanded_window (argument : Term α) (further : Nat) :
    expanded symbols valuation (window argument further) =
      (lags argument 1 further).toOption.bind fun terms =>
        (terms.map (resolved symbols valuation)).foldl (combine .add)
          (resolved symbols valuation argument) := by
  rw [window, expanded]
  rcases lags argument 1 further with _ | terms
  · rfl
  · exact resolved_sumOf symbols valuation argument terms

/-- The value of a window depends on the values of its weights only. -/
theorem expanded_weightedWindow (argument : Term α) (weights : List (Term α)) :
    expanded symbols valuation (weightedWindow argument weights) =
      (lags argument 1 weights.length).toOption.bind fun terms =>
        (List.zipWith (combine .mul) (weights.map (resolved symbols valuation))
          (terms.map (resolved symbols valuation))).foldl (combine .add)
            (resolved symbols valuation argument) := by
  rw [weightedWindow, weighted_eq, expanded]
  rcases lags argument 1 weights.length with _ | terms
  · rfl
  · refine (resolved_sumOf symbols valuation argument _).trans ?_
    rw [resolved_products]
    rfl

/-- With neutral weights a window is a plain sum. -/
theorem expanded_weightedWindow_of_neutral {neutral : β}
    (same : ∀ value, NumberSystem.arithmetic .mul neutral value = value) (argument : Term α)
    {weights : List (Term α)} (plain : weights.map (resolved symbols valuation) =
      List.replicate weights.length (.computed neutral)) :
    expanded symbols valuation (weightedWindow argument weights) =
      expanded symbols valuation (window argument weights.length) := by
  rw [expanded_weightedWindow, expanded_window, plain]
  rcases found : lags argument 1 weights.length with _ | terms
  · rfl
  · have kept : List.zipWith (combine .mul) (List.replicate terms.length (.computed neutral))
        (terms.map (resolved symbols valuation)) = terms.map (resolved symbols valuation) := by
      clear found
      induction terms with
      | nil => rfl
      | cons term rest ih =>
          rw [List.map_cons, List.length_cons, List.replicate_succ, List.zipWith_cons_cons, ih,
            Resolved.combine_eq_right same]
    rw [← length_of_lags found]
    exact congrArg (List.foldl (combine .add) (resolved symbols valuation argument)) kept

variable {symbols valuation}

theorem isComputed_window {argument : Term α}
    (computed : (resolved symbols valuation argument).IsComputed) (further : Nat) :
    (expanded symbols valuation (window argument further)).IsComputed := by
  obtain ⟨terms, found, each⟩ := exists_lags computed 1 further
  rw [window, found]
  exact isComputed_sumOf computed each

theorem isComputed_weightedWindow {argument : Term α} {weights : List (Term α)}
    (computed : (resolved symbols valuation argument).IsComputed)
    (weighted : ∀ weight ∈ weights, (resolved symbols valuation weight).IsComputed) :
    (expanded symbols valuation (weightedWindow argument weights)).IsComputed := by
  obtain ⟨terms, found, each⟩ := exists_lags computed 1 weights.length
  rw [weightedWindow, weighted_eq, found]
  refine isComputed_sumOf computed fun product member => ?_
  rw [← List.map_uncurry_zip_eq_zipWith] at member
  obtain ⟨⟨weight, term⟩, paired, rfl⟩ := List.mem_map.mp member
  have ⟨ofWeights, ofTerms⟩ := List.of_mem_zip paired
  change (resolved symbols valuation (.binary .mul weight term)).IsComputed
  rw [resolved_binary symbols valuation (rfl : BinaryOperator.mul.arithmetic? = some .mul)]
  exact (weighted weight ofWeights).combine (each term ofTerms) .mul

/-! ### Calls -/

section Calls

variable {α β : Type} {series : List String}

/-- A call of an operator on a term over a number of periods, with whatever else it takes. -/
def windowCall (operator : Operator) (argument : Term α) (periods : Nat) (others : List (Term α)) :
    Term α :=
  .call (.name operator.name) (argument :: .natural periods :: others) []

variable [Scalar α]

/-- A term that neither explicit dates nor expanded operators change. -/
def IsSettled (series : List String) (term : Term α) : Prop :=
  term.atCurrentDate series = term ∧ term.expandOperators = .ok term

theorem isSettled_of_number? {term : Term α} {quantity : Quantity α}
    (found : term.number? = some quantity) : term.IsSettled series := by
  have signed {operator : UnaryOperator} {operand : Term α} (settled : operand.IsSettled series) :
      (unary operator operand).IsSettled series :=
    ⟨congrArg (Term.unary operator) settled.1, bind_eq_ok.mpr ⟨operand, settled.2, rfl⟩⟩
  induction term using induction generalizing quantity with
  | literal value => exact ⟨rfl, rfl⟩
  | unary operator operand ih =>
      cases operator with
      | minus =>
          obtain ⟨opposite, inner, -⟩ := Option.map_eq_some_iff.mp found
          exact signed (ih inner)
      | plus => exact signed (ih found)
      | _ => cases found
  | _ => cases found

theorem isSettled_name {name : String} (other : series.contains name = false) :
    (Term.name name : Term α).IsSettled series :=
  ⟨by rw [atCurrentDate, other]; rfl, rfl⟩

/-- Reading a call of an operator reads what it is applied to, and expands it. -/
theorem normalize_windowCall (operator : Operator) (argument : Term α) (periods : Nat)
    {others : List (Term α)} (settled : ∀ other ∈ others, other.IsSettled series) :
    (windowCall operator argument periods others).normalize series =
      (argument.normalize series).bind fun argument =>
        operator.expand (argument :: .natural periods :: others) := by
  have notSteady : (operator.name == steadyStateName) = false := by cases operator <;> decide
  have named : Operator.ofName? operator.name = some operator := by cases operator <;> decide
  have dated : others.map (atCurrentDate series) = others :=
    (List.map_congr_left fun other member => (settled other member).1).trans (List.map_id' others)
  have kept : others.mapM expandOperators = .ok others :=
    mapM_eq_self fun other member => (settled other member).2
  rw [normalize, windowCall, atCurrentDate, isSteadyStateName, notSteady, allAtCurrentDate_eq,
    List.map_cons, List.map_cons, dated, if_neg Bool.false_ne_true, expandOperators, expandAll_eq,
    List.mapM_cons, List.mapM_cons, kept, normalize]
  rcases (argument.atCurrentDate series).expandOperators with _ | normal
  · rfl
  · change expandCall (.name operator.name) (normal :: .natural periods :: others) [] = _
    rw [expandCall, operator?, named]
    rfl

variable [NumberSystem α β]

theorem value_windowCall {symbols : SymbolTable} {valuation : Valuation α β} (operator : Operator)
    (argument : Term α) (periods : Nat) {others : List (Term α)}
    (settled : ∀ other ∈ others, other.IsSettled symbols.seriesNames) :
    (windowCall operator argument periods others).value symbols valuation =
      (argument.normalize symbols.seriesNames).toOption.bind fun argument =>
        expanded symbols valuation (operator.expand (argument :: .natural periods :: others)) := by
  rw [value, normalize_windowCall operator argument periods settled]
  rcases argument.normalize symbols.seriesNames with _ | normal <;> rfl

end Calls

end Source.Term

end Intertemporal
