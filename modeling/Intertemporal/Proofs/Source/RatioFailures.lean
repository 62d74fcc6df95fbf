import Intertemporal.Proofs.Failures
import Intertemporal.Proofs.Source.Calls

/-!
# Expansions that cannot be computed

An expansion is refused if an operator is called wrongly or a date cannot be moved. One more thing
can go wrong: a window weighted with the powers of a written number has its weights computed at
once, and a power can leave the range of scalars or divide by zero. `Term.NeedsFailingPower` says of
a term that it calls for such a power, and an expansion that fails without being refused comes from
a term that does.
-/

namespace Intertemporal

open Source (Term)

variable {α : Type}

/-- A failure that says what is wrong with the text. -/
def Operator.Failure.IsRefusal : Operator.Failure α → Prop
  | .misuse _ => True
  | .timeIndex _ => True
  | .overflow => False
  | .zeroDivision => False

namespace Source.Term

mutual

/-- A term and everything it is made of. -/
def parts : Term α → List (Term α)
  | .literal value => [.literal value]
  | .name identifier => [.name identifier]
  | .unary operator operand => .unary operator operand :: operand.parts
  | .binary operator left right => .binary operator left right :: (left.parts ++ right.parts)
  | .subscript value index => .subscript value index :: (value.parts ++ index.parts)
  | .call function passed named =>
    .call function passed named :: (function.parts ++ allParts passed ++ allParts named)
  | .tuple items => .tuple items :: allParts items
  | .compound shape pieces => .compound shape pieces :: allParts pieces

/-- Everything that several terms are made of. -/
def allParts : List (Term α) → List (Term α)
  | [] => []
  | term :: rest => term.parts ++ allParts rest

end

@[simp]
theorem allParts_eq (terms : List (Term α)) : allParts terms = terms.flatMap parts := by
  induction terms with
  | nil => rfl
  | cons term rest ih => rw [allParts, ih, List.flatMap_cons]

theorem mem_parts (term : Term α) : term ∈ term.parts := by
  cases term <;> exact List.mem_cons_self

/-- What a term is made of at once. -/
def children : Term α → List (Term α)
  | .literal _ | .name _ => []
  | .unary _ operand => [operand]
  | .binary _ left right => [left, right]
  | .subscript value index => [value, index]
  | .call function passed named => function :: (passed ++ named)
  | .tuple items => items
  | .compound _ pieces => pieces

theorem mem_parts_of_mem_children {child term part : Term α} (member : child ∈ term.children)
    (inside : part ∈ child.parts) : part ∈ term.parts := by
  cases term with
  | literal value => cases member
  | name identifier => cases member
  | unary operator operand =>
      cases List.mem_singleton.mp member
      exact List.mem_cons_of_mem _ inside
  | binary operator left right =>
      simp only [children, List.mem_cons, List.not_mem_nil, or_false] at member
      rcases member with rfl | rfl <;> simp [parts, inside]
  | subscript value index =>
      simp only [children, List.mem_cons, List.not_mem_nil, or_false] at member
      rcases member with rfl | rfl <;> simp [parts, inside]
  | call function passed named =>
      simp only [children, List.mem_cons, List.mem_append] at member
      simp only [parts, allParts_eq, List.mem_cons, List.mem_append, List.mem_flatMap]
      rcases member with rfl | member | member
      · exact .inr (.inl (.inl inside))
      · exact .inr (.inl (.inr ⟨child, member, inside⟩))
      · exact .inr (.inr ⟨child, member, inside⟩)
  | tuple items =>
      simp only [parts, allParts_eq, List.mem_cons, List.mem_flatMap]
      exact .inr ⟨child, member, inside⟩
  | compound shape pieces =>
      simp only [parts, allParts_eq, List.mem_cons, List.mem_flatMap]
      exact .inr ⟨child, member, inside⟩

theorem subset_children_call (function : Term α) (passed named : List (Term α)) :
    passed ⊆ (call function passed named).children ∧
      named ⊆ (call function passed named).children :=
  ⟨fun _ member => List.mem_cons_of_mem _ (List.mem_append_left _ member),
    fun _ member => List.mem_cons_of_mem _ (List.mem_append_right _ member)⟩

end Source.Term

namespace Operator

/-- The periods and the number of a call that weighs a window with the powers of a number. -/
def ratioWindow? [Neg α] (operator : Operator) (arguments : List (Term α)) :
    Option (Int × Term.Quantity α) :=
  match operator, arguments with
  | .exponentialSum, [_, periods, ratio] | .exponentialAverage, [_, periods, ratio] => do
    let count ← periods.integer?
    let quantity ← ratio.number?
    some (count, quantity)
  | _, _ => none

/-- The powers of the ratio that an operator takes for a window: those that weigh the lags, and for
an average the one in the sum of the weights. -/
def Takes (operator : Operator) (periods exponent : Int) : Prop :=
  (1 ≤ exponent ∧ exponent < periods) ∨ (operator = .exponentialAverage ∧ exponent = periods)

variable [Scalar α]

/-- A power out of range: the exponent is no scalar, or a finite ratio has no finite power. -/
def PowerOverflows (ratio : α) (exponent : Int) : Prop :=
  ∀ scalar, Scalar.ofInt? exponent = some scalar →
    Scalar.isFinite ratio = true ∧ Scalar.isFinite (Scalar.generalPower ratio scalar) = false

/-- What makes the weights of a window fail. -/
inductive RatioFails (operator : Operator) (periods : Int) :
    Term.Quantity α → Failure α → Prop
  /-- The ratio is an integer out of range. -/
  | ratio {value} (outOfRange : Scalar.ofInt? (α := α) value = none) :
      RatioFails operator periods (.integer value) .overflow
  /-- A power that the operator takes is out of range. -/
  | power {quantity value exponent} (read : Term.ratioOf quantity = .ok value)
      (other : Term.isNearOne value = false) (taken : operator.Takes periods exponent)
      (overflows : PowerOverflows value exponent) :
      RatioFails operator periods quantity .overflow
  /-- A mean over a negative number of periods takes a negative power of zero. -/
  | zero {quantity value} (mean : operator = .exponentialAverage)
      (read : Term.ratioOf quantity = .ok value) (zero : Scalar.isZero value = true)
      (negative : periods < 0) : RatioFails operator periods quantity .zeroDivision
  /-- One less a ratio vanishes that does not count as one. -/
  | one {quantity value} (mean : operator = .exponentialAverage)
      (read : Term.ratioOf quantity = .ok value) (other : Term.isNearOne value = false)
      (vanishes : Scalar.isZero (Scalar.one - value) = true) :
      RatioFails operator periods quantity .zeroDivision

/-- A failure of a call: a refusal, or one of the weights that the call asks for. -/
def FailsFor (operator : Operator) (arguments : List (Term α)) (reason : Failure α) : Prop :=
  reason.IsRefusal ∨ ∃ periods quantity,
    operator.ratioWindow? arguments = some (periods, quantity) ∧
      operator.RatioFails periods quantity reason

end Operator

namespace Source.Term

open Operator (Failure)

/-! ### Parts of expansions that are only ever refused -/

theorem errsWithin_lagged (argument : Term α) (periods : Int) :
    ErrsWithin Failure.IsRefusal (argument.lagged periods) :=
  .mapError fun _ => trivial

theorem errsWithin_addLags (argument sum : Term α) (lag : Nat) (coefficients : List Int) :
    ErrsWithin Failure.IsRefusal (addLags argument sum lag coefficients) := by
  induction coefficients generalizing sum lag with
  | nil => exact .ok
  | cons coefficient rest ih =>
      rw [addLags]
      split
      · exact ih sum (lag + 1)
      · exact (errsWithin_lagged argument lag).bind fun term _ => ih _ (lag + 1)

theorem errsWithin_difference (argument : Term α) (order span : Int) :
    ErrsWithin Failure.IsRefusal (argument.difference order span) :=
  .bind (.mapError fun _ => trivial) fun _ _ => errsWithin_addLags _ _ _ _

theorem errsWithin_checkWindow (operator : Operator) (periods : Int) :
    ErrsWithin Failure.IsRefusal (checkWindow operator periods : Except (Failure α) Unit) := by
  unfold checkWindow
  split
  · exact .error trivial
  · exact .ok

theorem errsWithin_weighted (argument : Term α) (lag : Nat) (weights : List (Term α)) :
    ErrsWithin Failure.IsRefusal (weighted argument lag weights) := by
  induction weights generalizing lag with
  | nil => exact .ok
  | cons weight rest ih =>
      exact (errsWithin_lagged argument lag).bind fun _ _ => (ih (lag + 1)).bind fun _ _ => .ok

theorem errsWithin_lags (argument : Term α) (lag periods : Nat) :
    ErrsWithin Failure.IsRefusal (lags argument lag periods) := by
  induction periods generalizing lag with
  | zero => exact .ok
  | succ periods ih =>
      exact (errsWithin_lagged argument lag).bind fun _ _ => (ih (lag + 1)).bind fun _ _ => .ok

theorem errsWithin_movingSum (argument : Term α) (periods : Int) :
    ErrsWithin Failure.IsRefusal (argument.movingSum periods) :=
  (errsWithin_checkWindow _ _).bind fun _ _ => (errsWithin_lags _ _ _).bind fun _ _ => .ok

theorem errsWithin_movingAverage (argument : Term α) (periods : Int) :
    ErrsWithin Failure.IsRefusal (argument.movingAverage periods) :=
  (errsWithin_movingSum argument periods).bind fun _ _ => .ok

theorem errsWithin_resolveWeights (operator : Operator) (periods : Int) (weights : List (Term α)) :
    ErrsWithin Failure.IsRefusal (resolveWeights operator periods weights) := by
  refine (errsWithin_checkWindow operator periods).bind fun _ _ => ?_
  split
  · split <;> exact .ok
  · split
    · exact .ok
    · exact .error trivial

theorem errsWithin_weightedSum (argument : Term α) (periods : Int) (weights : List (Term α)) :
    ErrsWithin Failure.IsRefusal (argument.weightedSum periods weights) :=
  (errsWithin_resolveWeights _ _ _).bind fun _ _ => (errsWithin_weighted _ _ _).bind fun _ _ => .ok

theorem errsWithin_weightedAverage (argument : Term α) (periods : Int) (weights : List (Term α)) :
    ErrsWithin Failure.IsRefusal (argument.weightedAverage periods weights) :=
  (errsWithin_resolveWeights _ _ _).bind fun _ _ =>
    (errsWithin_weightedSum _ _ _).bind fun _ _ => .ok

theorem errsWithin_count (operator : Operator) (argument : Operator.CountName) (given : Term α) :
    ErrsWithin Failure.IsRefusal (operator.count argument given) := by
  unfold Operator.count
  split
  · exact .ok
  · exact .error trivial

theorem errsWithin_orders (operator : Operator) (counts : List (Term α)) :
    ErrsWithin Failure.IsRefusal (operator.orders counts) := by
  unfold Operator.orders
  split
  · exact .ok
  · exact (errsWithin_count _ _ _).bind fun _ _ => .ok
  · exact (errsWithin_count _ _ _).bind fun _ _ => (errsWithin_count _ _ _).bind fun _ _ => .ok

/-! ### Powers of a written ratio -/

variable [Scalar α]

theorem ratioOf_eq_error {quantity : Quantity α} {reason : Failure α}
    (failed : ratioOf quantity = .error reason) :
    reason = .overflow ∧ ∃ value, quantity = .integer value ∧
      Scalar.ofInt? (α := α) value = none := by
  unfold ratioOf at failed
  split at failed
  · split at failed
    · cases failed
    · rename_i value _ outOfRange
      cases failed
      exact ⟨rfl, value, rfl, outOfRange⟩
  · cases failed

theorem powerOf_eq_error {ratio : α} {exponent : Int} {reason : Failure α}
    (failed : powerOf ratio exponent = .error reason) :
    (reason = .overflow ∧ Operator.PowerOverflows ratio exponent) ∨
      (reason = .zeroDivision ∧ Scalar.isZero ratio = true ∧ exponent < 0) := by
  unfold powerOf at failed
  split at failed
  · rename_i outOfRange
    cases failed
    refine .inl ⟨rfl, fun scalar found => ?_⟩
    rw [outOfRange] at found
    cases found
  · rename_i scalar inRange
    split at failed
    · rename_i negative
      cases failed
      exact .inr ⟨rfl, negative⟩
    · dsimp only at failed
      split at failed
      · rename_i overflows
        cases failed
        refine .inl ⟨rfl, fun other found => ?_⟩
        cases inRange.symm.trans found
        exact ⟨overflows.1, Bool.eq_false_iff.mpr overflows.2⟩
      · cases failed

/-- The weights of the lags fail with powers above zero only. -/
theorem errsWithin_ratioWeights (argument : Term α) (operator : Operator) (periods : Int)
    {quantity : Quantity α} {ratio : α} (read : ratioOf quantity = .ok ratio)
    (other : isNearOne ratio = false) (lag count : Nat) (positive : 1 ≤ lag)
    (few : (lag + count : Int) ≤ periods) :
    ErrsWithin (fun reason => reason.IsRefusal ∨ operator.RatioFails periods quantity reason)
      (ratioWeights argument ratio lag count) := by
  induction count generalizing lag with
  | zero => exact .ok
  | succ count ih =>
      rw [ratioWeights]
      refine .bind (fun reason failed => .inr ?_) fun weight _ => ?_
      · rcases powerOf_eq_error failed with ⟨rfl, overflows⟩ | ⟨-, -, negative⟩
        · exact .power read other (.inl ⟨by omega, by omega⟩) overflows
        · omega
      · refine .bind ((errsWithin_lagged argument lag).mono fun _ => .inl) fun term _ => ?_
        exact (ih (lag + 1) (by omega) (by push_cast at few ⊢; omega)).bind fun _ _ => .ok

theorem errsWithin_exponentialSum (argument ratio : Term α) (operator : Operator) (periods : Int) :
    ErrsWithin (fun reason => reason.IsRefusal ∨ ∃ quantity, ratio.number? = some quantity ∧
      operator.RatioFails periods quantity reason) (argument.exponentialSum periods ratio) := by
  unfold exponentialSum
  refine .bind ((errsWithin_checkWindow _ _).mono fun _ => .inl) fun _ checked => ?_
  have positive := one_le_of_checkWindow checked
  split
  · rename_i quantity written
    refine .bind (fun reason failed => .inr ⟨quantity, written, ?_⟩) fun value read => ?_
    · obtain ⟨rfl, value, rfl, outOfRange⟩ := ratioOf_eq_error failed
      exact .ratio outOfRange
    · split
      · exact (errsWithin_movingSum _ _).mono fun _ => .inl
      · rename_i other
        have weights := errsWithin_ratioWeights argument operator periods read
          (Bool.eq_false_iff.mpr other) 1 (periods.toNat - 1) (Nat.le_refl 1) (by omega)
        refine (weights.mono fun reason allowed => ?_).bind fun _ _ => .ok
        exact allowed.imp_right fun fails => ⟨quantity, written, fails⟩
  · exact .bind ((errsWithin_weighted _ _ _).mono fun _ => .inl) fun _ _ => .ok

theorem errsWithin_exponentialAverage (argument ratio : Term α) (periods : Int) :
    ErrsWithin (fun reason => reason.IsRefusal ∨ ∃ quantity, ratio.number? = some quantity ∧
      Operator.exponentialAverage.RatioFails periods quantity reason)
      (argument.exponentialAverage periods ratio) := by
  unfold exponentialAverage
  split
  · rename_i quantity written
    refine .bind (fun reason failed => .inr ⟨quantity, written, ?_⟩) fun value read => ?_
    · obtain ⟨rfl, value, rfl, outOfRange⟩ := ratioOf_eq_error failed
      exact .ratio outOfRange
    · split
      · exact (errsWithin_movingAverage _ _).mono fun _ => .inl
      · rename_i near
        have other := Bool.eq_false_iff.mpr near
        refine .bind (fun reason failed => .inr ⟨quantity, written, ?_⟩) fun power _ => ?_
        · rcases powerOf_eq_error failed with ⟨rfl, overflows⟩ | ⟨rfl, zero, negative⟩
          · exact .power read other (.inr ⟨rfl, rfl⟩) overflows
          · exact .zero rfl read zero negative
        · dsimp only
          split
          · rename_i vanishes
            exact .error (.inr ⟨quantity, written, .one rfl read other vanishes⟩)
          · exact .bind (errsWithin_exponentialSum argument ratio .exponentialAverage periods)
              fun _ _ => .ok
  · exact .bind (errsWithin_exponentialSum argument ratio .exponentialAverage periods)
      fun _ _ => .ok

/-- A failure of the weights is one of the call that asks for them. -/
theorem failsFor_of_ratioFails {operator : Operator} {argument given ratio : Term α}
    {periods : Int} {reason : Failure α}
    (weighs : operator = .exponentialSum ∨ operator = .exponentialAverage)
    (read : given.integer? = some periods)
    (failed : reason.IsRefusal ∨ ∃ quantity, ratio.number? = some quantity ∧
      operator.RatioFails periods quantity reason) :
    operator.FailsFor [argument, given, ratio] reason := by
  rcases failed with refusal | ⟨quantity, written, fails⟩
  · exact .inl refusal
  · refine .inr ⟨periods, quantity, ?_, fails⟩
    rcases weighs with rfl | rfl <;> simp only [Operator.ratioWindow?, read, written] <;> rfl

/-- The step of the induction at a call: it is refused, or its weights fail. -/
theorem errsWithin_expand (operator : Operator) (arguments : List (Term α)) :
    ErrsWithin (operator.FailsFor arguments) (operator.expand arguments) := by
  have refused {β : Type} {result : Except (Failure α) β}
      (errs : ErrsWithin Failure.IsRefusal result) :
      ErrsWithin (operator.FailsFor arguments) result := errs.mono fun _ => .inl
  have counted {given : Term α} {next : Int → Except (Failure α) (Term α)}
      (rest : ∀ periods, ErrsWithin Failure.IsRefusal (next periods)) :
      ErrsWithin (operator.FailsFor arguments) (operator.count .times given >>= next) :=
    refused ((errsWithin_count _ _ _).bind fun periods _ => rest periods)
  cases operator with
  | lag =>
      rcases arguments with _ | ⟨argument, _ | ⟨given, _ | _⟩⟩
      · exact refused (.error trivial)
      · exact refused (errsWithin_lagged _ _)
      · exact counted fun _ => errsWithin_lagged _ _
      · exact refused (.error trivial)
  | lead =>
      rcases arguments with _ | ⟨argument, _ | ⟨given, _ | _⟩⟩
      · exact refused (.error trivial)
      · exact refused (errsWithin_lagged _ _)
      · exact counted fun _ => errsWithin_lagged _ _
      · exact refused (.error trivial)
  | difference | logDifference =>
      rcases arguments with _ | ⟨argument, counts⟩
      · exact refused (.error trivial)
      · unfold Operator.expand
        dsimp only
        split
        · exact refused ((errsWithin_orders _ _).bind fun _ _ => errsWithin_difference _ _ _)
        · exact refused (.error trivial)
  | movingSum =>
      rcases arguments with _ | ⟨argument, _ | ⟨given, _ | _⟩⟩
      any_goals exact refused (.error trivial)
      exact counted fun _ => errsWithin_movingSum _ _
  | movingAverage =>
      rcases arguments with _ | ⟨argument, _ | ⟨given, _ | _⟩⟩
      any_goals exact refused (.error trivial)
      exact counted fun _ => errsWithin_movingAverage _ _
  | weightedSum =>
      rcases arguments with _ | ⟨argument, _ | ⟨given, _ | ⟨weight, weights⟩⟩⟩
      any_goals exact refused (.error trivial)
      exact counted fun _ => errsWithin_weightedSum _ _ _
  | weightedAverage =>
      rcases arguments with _ | ⟨argument, _ | ⟨given, _ | ⟨weight, weights⟩⟩⟩
      any_goals exact refused (.error trivial)
      exact counted fun _ => errsWithin_weightedAverage _ _ _
  | exponentialSum =>
      rcases arguments with _ | ⟨argument, _ | ⟨given, _ | ⟨ratio, _ | _⟩⟩⟩
      any_goals exact refused (.error trivial)
      refine (refused (errsWithin_count _ _ _)).bind fun periods read => ?_
      exact (errsWithin_exponentialSum argument ratio _ periods).mono fun _ =>
        failsFor_of_ratioFails (.inl rfl) (Operator.count_eq_ok.mp read)
  | exponentialAverage =>
      rcases arguments with _ | ⟨argument, _ | ⟨given, _ | ⟨ratio, _ | _⟩⟩⟩
      any_goals exact refused (.error trivial)
      refine (refused (errsWithin_count _ _ _)).bind fun periods read => ?_
      exact (errsWithin_exponentialAverage argument ratio periods).mono fun _ =>
        failsFor_of_ratioFails (.inr rfl) (Operator.count_eq_ok.mp read)

/-- A call of an operator whose weights fail, once the parts of the call are expanded. -/
inductive CallFails (reason : Failure α) : Term α → Prop
  | weights {function expanded : Term α} {passed arguments : List (Term α)} {operator : Operator}
      {periods : Int} {quantity : Quantity α} (named : function.expandOperators = .ok expanded)
      (calls : expanded.operator? = some operator)
      (given : passed.mapM expandOperators = .ok arguments)
      (window : operator.ratioWindow? arguments = some (periods, quantity))
      (fails : operator.RatioFails periods quantity reason) :
      CallFails reason (.call function passed [])

/-- A term needs a power that cannot be computed: a part of it is a call whose weights fail. -/
def NeedsFailingPower (term : Term α) (reason : Failure α) : Prop :=
  ∃ part ∈ term.parts, part.CallFails reason

theorem NeedsFailingPower.overflow_or_zeroDivision {term : Term α} {reason : Failure α}
    (needed : term.NeedsFailingPower reason) : reason = .overflow ∨ reason = .zeroDivision := by
  obtain ⟨part, -, ⟨-, -, -, -, fails⟩⟩ := needed
  cases fails with
  | ratio => exact .inl rfl
  | power => exact .inl rfl
  | zero => exact .inr rfl
  | one => exact .inr rfl

/-- A failure of an expansion: a refusal, or a power that the term needs. -/
def FailsFor (term : Term α) (reason : Failure α) : Prop :=
  reason.IsRefusal ∨ term.NeedsFailingPower reason

theorem FailsFor.of_child {child whole : Term α} {reason : Failure α}
    (fails : child.FailsFor reason) (member : child ∈ whole.children) : whole.FailsFor reason :=
  fails.imp_right fun ⟨part, inside, here⟩ => ⟨part, mem_parts_of_mem_children member inside, here⟩

/-- What makes one of several terms fail makes the whole fail. -/
theorem errsWithin_expandAll {whole : Term α} {terms : List (Term α)}
    (each : ∀ term ∈ terms, ErrsWithin term.FailsFor term.expandOperators)
    (includes : terms ⊆ whole.children) :
    ErrsWithin whole.FailsFor (terms.mapM expandOperators) :=
  .mapM fun term member => (each term member).mono fun _ fails => fails.of_child (includes member)

/-- An expansion fails with a refusal, or a part of the term is a call whose weights fail. -/
theorem errsWithin_expandOperators (term : Term α) :
    ErrsWithin term.FailsFor term.expandOperators := by
  induction term using induction with
  | literal value => exact .ok
  | name identifier => exact .ok
  | unary operator operand ih =>
      exact (ih.mono fun _ fails => fails.of_child List.mem_cons_self).bind fun _ _ => .ok
  | binary operator left right ihLeft ihRight =>
      exact (ihLeft.mono fun _ fails => fails.of_child (by simp [children])).bind fun _ _ =>
        (ihRight.mono fun _ fails => fails.of_child (by simp [children])).bind fun _ _ => .ok
  | subscript value index ihValue ihIndex =>
      exact (ihValue.mono fun _ fails => fails.of_child (by simp [children])).bind fun _ _ =>
        (ihIndex.mono fun _ fails => fails.of_child (by simp [children])).bind fun _ _ => .ok
  | call function passed named ihFunction ihPassed ihNamed =>
      rcases subset_children_call function passed named with ⟨includesPassed, includesNamed⟩
      simp only [expandOperators, expandAll_eq]
      refine (ihFunction.mono fun _ fails => fails.of_child List.mem_cons_self).bind
        fun expanded foundFunction => (errsWithin_expandAll ihPassed includesPassed).bind
        fun arguments foundPassed => (errsWithin_expandAll ihNamed includesNamed).bind
        fun keywords foundNamed => ?_
      unfold expandCall
      split
      · exact .ok
      · rename_i operator calls
        split
        · rename_i noKeywords
          rw [List.isEmpty_iff] at noKeywords
          subst noKeywords
          cases List.forall₂_nil_right_iff.mp (mapM_eq_ok.mp foundNamed)
          refine (errsWithin_expand operator arguments).mono fun reason fails => ?_
          rcases fails with refused | ⟨periods, quantity, window, fails⟩
          · exact .inl refused
          · exact .inr ⟨_, mem_parts _, .weights foundFunction calls foundPassed window fails⟩
        · exact .error (.inl trivial)
  | tuple items ih =>
      simp only [expandOperators, expandAll_eq]
      exact (errsWithin_expandAll ih (List.Subset.refl _)).bind fun _ _ => .ok
  | compound shape pieces ih =>
      simp only [expandOperators, expandAll_eq]
      exact (errsWithin_expandAll ih (List.Subset.refl _)).bind fun _ _ => .ok

end Source.Term

end Intertemporal
