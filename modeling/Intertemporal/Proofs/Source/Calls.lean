import Intertemporal.Proofs.Source.Regular

/-!
# Calls of time operators

An operator refuses a call with the wrong number of arguments and one in which an order, a span or a
window is no integer. `Operator.ExpandsTo` has one rule for each form of a call that is accepted, and
by `Operator.expand_eq_ok` these are all. What every expansion has in common is shown rule by rule.

A call of anything else stays a call (`Term.expandCall_eq_ok`).
-/

namespace Intertemporal

open Source (Term)

namespace Operator

variable {α : Type}

theorem count_eq_ok {operator : Operator} {argument : CountName} {given : Term α} {value : Int} :
    operator.count argument given = .ok value ↔ given.integer? = some value := by
  unfold count
  cases given.integer? <;> simp

/-- The order and the span of a difference, of which the span or both may be left out. -/
inductive ReadsOrders : List (Term α) → Int → Int → Prop
  | neither : ReadsOrders [] 1 0
  | order {first : Term α} {order : Int} (read : first.integer? = some order) :
      ReadsOrders [first] order 0
  | both {first second : Term α} {order span : Int} (read : first.integer? = some order)
      (readSpan : second.integer? = some span) : ReadsOrders [first, second] order span

theorem orders_eq_ok {operator : Operator} {counts : List (Term α)} (few : counts.length ≤ 2)
    {order span : Int} :
    operator.orders counts = .ok (order, span) ↔ ReadsOrders counts order span := by
  constructor
  · intro done
    rcases counts with _ | ⟨first, _ | ⟨second, _ | ⟨third, rest⟩⟩⟩
    · cases done
      exact .neither
    · obtain ⟨value, counted, ⟨⟩⟩ := bind_eq_ok.mp done
      exact .order (count_eq_ok.mp counted)
    · obtain ⟨value, counted, remaining⟩ := bind_eq_ok.mp done
      obtain ⟨other, countedOther, ⟨⟩⟩ := bind_eq_ok.mp remaining
      exact .both (count_eq_ok.mp counted) (count_eq_ok.mp countedOther)
    · simp at few
  · rintro (_ | read | ⟨read, readSpan⟩)
    · rfl
    · exact bind_eq_ok.mpr ⟨_, count_eq_ok.mpr read, rfl⟩
    · exact bind_eq_ok.mpr
        ⟨_, count_eq_ok.mpr read, bind_eq_ok.mpr ⟨_, count_eq_ok.mpr readSpan, rfl⟩⟩

theorem ReadsOrders.few {counts : List (Term α)} {order span : Int}
    (read : ReadsOrders counts order span) : counts.length ≤ 2 := by
  cases read <;> simp

theorem exists_of_counted {operator : Operator} {argument : CountName} {given result : Term α}
    {next : Int → Except (Failure α) (Term α)}
    (done : operator.count argument given >>= next = .ok result) :
    ∃ value, given.integer? = some value ∧ next value = .ok result := by
  obtain ⟨value, counted, remaining⟩ := bind_eq_ok.mp done
  exact ⟨value, count_eq_ok.mp counted, remaining⟩

theorem exists_of_ordered {operator : Operator} {counts : List (Term α)} {result : Term α}
    {next : Int × Int → Except (Failure α) (Term α)} {reason : Failure α}
    (done : (if counts.length ≤ 2 then operator.orders counts >>= next else .error reason) =
      .ok result) :
    ∃ order span, ReadsOrders counts order span ∧ next (order, span) = .ok result := by
  split at done
  · rename_i few
    obtain ⟨⟨order, span⟩, found, remaining⟩ := bind_eq_ok.mp done
    exact ⟨order, span, (orders_eq_ok few).mp found, remaining⟩
  · cases done

variable [Scalar α]

/-- The calls that an operator accepts, with their expansions. -/
inductive ExpandsTo : Operator → List (Term α) → Term α → Prop
  | lag {argument result : Term α} (done : argument.lagged 1 = .ok result) :
      ExpandsTo .lag [argument] result
  | lagBy {argument given result : Term α} {periods : Int} (read : given.integer? = some periods)
      (done : argument.lagged periods = .ok result) : ExpandsTo .lag [argument, given] result
  | lead {argument result : Term α} (done : argument.lagged (-1) = .ok result) :
      ExpandsTo .lead [argument] result
  | leadBy {argument given result : Term α} {periods : Int} (read : given.integer? = some periods)
      (done : argument.lagged (-periods) = .ok result) : ExpandsTo .lead [argument, given] result
  | difference {argument result : Term α} {counts : List (Term α)} {order span : Int}
      (read : ReadsOrders counts order span) (done : argument.difference order span = .ok result) :
      ExpandsTo .difference (argument :: counts) result
  | logDifference {argument result : Term α} {counts : List (Term α)} {order span : Int}
      (read : ReadsOrders counts order span)
      (done : argument.logDifference order span = .ok result) :
      ExpandsTo .logDifference (argument :: counts) result
  | movingSum {argument given result : Term α} {periods : Int}
      (read : given.integer? = some periods) (done : argument.movingSum periods = .ok result) :
      ExpandsTo .movingSum [argument, given] result
  | movingAverage {argument given result : Term α} {periods : Int}
      (read : given.integer? = some periods) (done : argument.movingAverage periods = .ok result) :
      ExpandsTo .movingAverage [argument, given] result
  | weightedSum {argument given weight result : Term α} {weights : List (Term α)} {periods : Int}
      (read : given.integer? = some periods)
      (done : argument.weightedSum periods (weight :: weights) = .ok result) :
      ExpandsTo .weightedSum (argument :: given :: weight :: weights) result
  | weightedAverage {argument given weight result : Term α} {weights : List (Term α)}
      {periods : Int} (read : given.integer? = some periods)
      (done : argument.weightedAverage periods (weight :: weights) = .ok result) :
      ExpandsTo .weightedAverage (argument :: given :: weight :: weights) result
  | exponentialSum {argument given ratio result : Term α} {periods : Int}
      (read : given.integer? = some periods)
      (done : argument.exponentialSum periods ratio = .ok result) :
      ExpandsTo .exponentialSum [argument, given, ratio] result
  | exponentialAverage {argument given ratio result : Term α} {periods : Int}
      (read : given.integer? = some periods)
      (done : argument.exponentialAverage periods ratio = .ok result) :
      ExpandsTo .exponentialAverage [argument, given, ratio] result

theorem expandsTo_of_expand {operator : Operator} {arguments : List (Term α)} {result : Term α}
    (done : operator.expand arguments = .ok result) : operator.ExpandsTo arguments result := by
  cases operator with
  | lag =>
      rcases arguments with _ | ⟨argument, _ | ⟨given, _ | _⟩⟩
      · cases done
      · exact .lag done
      · obtain ⟨_, read, done⟩ := exists_of_counted done
        exact .lagBy read done
      · cases done
  | lead =>
      rcases arguments with _ | ⟨argument, _ | ⟨given, _ | _⟩⟩
      · cases done
      · exact .lead done
      · obtain ⟨_, read, done⟩ := exists_of_counted done
        exact .leadBy read done
      · cases done
  | difference =>
      rcases arguments with _ | ⟨argument, counts⟩
      · cases done
      · obtain ⟨_, _, read, done⟩ := exists_of_ordered done
        exact .difference read done
  | logDifference =>
      rcases arguments with _ | ⟨argument, counts⟩
      · cases done
      · obtain ⟨_, _, read, done⟩ := exists_of_ordered done
        exact .logDifference read done
  | movingSum =>
      rcases arguments with _ | ⟨argument, _ | ⟨given, _ | _⟩⟩ <;> try cases done
      obtain ⟨_, read, done⟩ := exists_of_counted done
      exact .movingSum read done
  | movingAverage =>
      rcases arguments with _ | ⟨argument, _ | ⟨given, _ | _⟩⟩ <;> try cases done
      obtain ⟨_, read, done⟩ := exists_of_counted done
      exact .movingAverage read done
  | weightedSum =>
      rcases arguments with _ | ⟨argument, _ | ⟨given, _ | ⟨weight, weights⟩⟩⟩ <;> try cases done
      obtain ⟨_, read, done⟩ := exists_of_counted done
      exact .weightedSum read done
  | weightedAverage =>
      rcases arguments with _ | ⟨argument, _ | ⟨given, _ | ⟨weight, weights⟩⟩⟩ <;> try cases done
      obtain ⟨_, read, done⟩ := exists_of_counted done
      exact .weightedAverage read done
  | exponentialSum =>
      rcases arguments with _ | ⟨argument, _ | ⟨given, _ | ⟨ratio, _ | _⟩⟩⟩ <;> try cases done
      obtain ⟨_, read, done⟩ := exists_of_counted done
      exact .exponentialSum read done
  | exponentialAverage =>
      rcases arguments with _ | ⟨argument, _ | ⟨given, _ | ⟨ratio, _ | _⟩⟩⟩ <;> try cases done
      obtain ⟨_, read, done⟩ := exists_of_counted done
      exact .exponentialAverage read done

/-- A call has an expansion exactly if it has one of the accepted forms. -/
theorem expand_eq_ok {operator : Operator} {arguments : List (Term α)} {result : Term α} :
    operator.expand arguments = .ok result ↔ operator.ExpandsTo arguments result := by
  refine ⟨expandsTo_of_expand, fun expands => ?_⟩
  cases expands with
  | lag done | lead done => exact done
  | difference read done | logDifference read done =>
      exact (if_pos read.few).trans (bind_eq_ok.mpr ⟨_, (orders_eq_ok read.few).mpr read, done⟩)
  | lagBy read done | leadBy read done | movingSum read done | movingAverage read done
  | weightedSum read done | weightedAverage read done | exponentialSum read done
  | exponentialAverage read done => exact bind_eq_ok.mpr ⟨_, count_eq_ok.mpr read, done⟩

end Operator

namespace Source.Term

variable {α : Type}

/-- What is called to refer to the steady state is no operator. -/
theorem isSteadyStateName_of_operator? {function : Term α} {operator : Operator}
    (calls : function.operator? = some operator) : function.isSteadyStateName = false := by
  by_contra steadyState
  cases function with
  | name identifier =>
      obtain rfl : identifier = steadyStateName := by simpa [isSteadyStateName] using steadyState
      cases calls
  | _ => cases calls

/-- A call whose parts are expanded stays as it is, or an operator is expanded in it. -/
theorem expandCall_eq_ok [Scalar α] {function result : Term α} {passed named : List (Term α)} :
    expandCall function passed named = .ok result ↔
      (function.operator? = none ∧ result = .call function passed named) ∨
        ∃ operator, function.operator? = some operator ∧ named = [] ∧
          operator.expand passed = .ok result := by
  unfold expandCall
  cases function.operator? with
  | none => simp [eq_comm]
  | some operator => cases named <;> simp

end Source.Term

end Intertemporal
