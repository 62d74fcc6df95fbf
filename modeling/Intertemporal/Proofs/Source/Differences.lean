import Intertemporal.Proofs.Source.Windows

/-!
# Expanded differences

A difference expands to its argument and the multiples of further lags that its polynomial says. The
path of the expansion is what the polynomial in the lag operator makes of the path of the argument.
-/

namespace Intertemporal

open Source (Term)

namespace Meaning

theorem path_iterate_differenced (order : Nat) (argument : Meaning) :
    ((differenced 1)^[order] argument).path = argument.path.map (Path.differenced 1)^[order] := by
  induction order with
  | zero => simp
  | succ order ih =>
      rw [Function.iterate_succ_apply', Function.iterate_succ', differenced, path_ofPath, ih,
        Option.map_map]

/-- A difference acts like its polynomial. -/
theorem path_difference (order span : Nat) (argument : Meaning) :
    (argument.difference order span).path =
      argument.path.map (LagPolynomial.act (LagPolynomial.difference order span)) := by
  have power : LagPolynomial.act (LagPolynomial.power order) = (Path.differenced 1)^[order] :=
    funext (LagPolynomial.act_power order)
  unfold difference LagPolynomial.difference
  split
  · rw [path_iterate_differenced, power]
  · rw [differenced, path_ofPath, path_iterate_differenced, Option.map_map, ← power]
    refine congrFun (congrArg Option.map (funext fun path => ?_)) _
    exact (LagPolynomial.act_timesDifference span _ path).symm

theorem spelling_difference {order span : Nat} (proper : order ≠ 0 ∨ span ≠ 0)
    (argument : Meaning) : (argument.difference order span).spelling = none := by
  unfold difference
  split
  · rename_i none
    obtain ⟨smaller, rfl⟩ := Nat.exists_eq_succ_of_ne_zero
      (proper.resolve_right fun some => some none)
    dsimp only
    rw [Function.iterate_succ_apply']
    rfl
  · rfl

end Meaning

namespace Reading

variable {reading : Reading}

theorem meaning_addMultiple (reading : Reading) (sum term : Term ℝ) (coefficient : Int) :
    reading.meaning (Term.addMultiple sum coefficient term) =
      .ofPath (do
        let sum ← (reading.meaning sum).path
        let path ← (reading.meaning term).path
        some fun date => sum date + coefficient * path date) := by
  have cast : ∀ {amount : Int}, 0 ≤ amount → ((amount.toNat : Nat) : ℝ) = amount := by
    intro amount positive
    exact_mod_cast Int.toNat_of_nonneg positive
  unfold Term.addMultiple
  split_ifs with one minusOne positive
  all_goals
    simp only [meaning, Meaning.combined]
    rcases (reading.meaning sum).path with _ | sumPath
    · rfl
    rcases (reading.meaning term).path with _ | path
    · rfl
    refine congrArg Meaning.ofPath (congrArg some (funext fun date => ?_))
  · change sumPath date + path date = _
    rw [one, Int.cast_one, one_mul]
  · change sumPath date - path date = _
    rw [minusOne, Int.cast_neg, Int.cast_one, neg_one_mul, sub_eq_add_neg]
  · change sumPath date + ((coefficient.toNat : Nat) : ℝ) * path date = _
    rw [cast positive.le]
  · change sumPath date - (((-coefficient).toNat : Nat) : ℝ) * path date = _
    rw [cast (by omega), Int.cast_neg, neg_mul, sub_neg_eq_add]

/-- Added lags are added values of the polynomial, which starts at the first of them. -/
theorem path_of_addLags (still : reading.IsStill) {argument sum result : Term ℝ} {lag : Nat}
    {coefficients : List Int} {path sumPath : Path}
    (known : (reading.meaning argument).path = some path)
    (sumKnown : (reading.meaning sum).path = some sumPath)
    (done : Term.addLags argument sum lag coefficients = .ok result) :
    (reading.meaning result).path =
      some fun date => sumPath date + LagPolynomial.act coefficients path (date - lag) := by
  induction coefficients generalizing sum lag sumPath with
  | nil =>
      cases done
      rw [sumKnown]
      refine congrArg some (funext fun date => ?_)
      simp only [LagPolynomial.act, Pi.zero_apply, add_zero]
  | cons coefficient rest ih =>
      have next : ∀ date : Int, date - lag - 1 = date - ((lag + 1 : Nat) : Int) := by
        intro date
        omega
      unfold Term.addLags at done
      split at done
      · rename_i zero
        rw [ih sumKnown done]
        refine congrArg some (funext fun date => ?_)
        rw [LagPolynomial.act_cons, next, zero, Int.cast_zero, zero_mul, zero_add]
      · obtain ⟨term, lagged, remaining⟩ := bind_eq_ok.mp done
        have added : (reading.meaning (Term.addMultiple sum coefficient term)).path =
            some fun date => sumPath date + coefficient * path (date - lag) := by
          rw [meaning_addMultiple, Meaning.path_ofPath, sumKnown, meaning_of_lagged still lagged,
            Meaning.path_moved, known]
          rfl
        rw [ih added remaining]
        refine congrArg some (funext fun date => ?_)
        rw [LagPolynomial.act_cons, next, add_assoc]

/-- Nothing can be added to a sum without a path. -/
theorem path_of_addLags_of_none (reading : Reading) {argument sum result : Term ℝ} {lag : Nat}
    {coefficients : List Int} (unknown : (reading.meaning sum).path = none)
    (done : Term.addLags argument sum lag coefficients = .ok result) :
    (reading.meaning result).path = none := by
  induction coefficients generalizing sum lag with
  | nil =>
      cases done
      exact unknown
  | cons coefficient rest ih =>
      unfold Term.addLags at done
      split at done
      · exact ih unknown done
      · obtain ⟨term, -, remaining⟩ := bind_eq_ok.mp done
        apply ih _ remaining
        rw [meaning_addMultiple, unknown]
        rfl

theorem spelling_of_addLags (reading : Reading) {argument sum result : Term ℝ} {lag : Nat}
    {coefficients : List Int}
    (proper : (reading.meaning sum).spelling = none ∨ ∃ coefficient ∈ coefficients, coefficient ≠ 0)
    (done : Term.addLags argument sum lag coefficients = .ok result) :
    (reading.meaning result).spelling = none := by
  induction coefficients generalizing sum lag with
  | nil =>
      cases done
      rcases proper with none | ⟨coefficient, member, -⟩
      · exact none
      · cases member
  | cons coefficient rest ih =>
      unfold Term.addLags at done
      split at done
      · rename_i zero
        apply ih _ done
        rcases proper with none | ⟨other, member, notZero⟩
        · exact .inl none
        · rcases List.mem_cons.mp member with rfl | later
          · exact absurd zero notZero
          · exact .inr ⟨other, later, notZero⟩
      · obtain ⟨term, -, remaining⟩ := bind_eq_ok.mp done
        apply ih (.inl _) remaining
        rw [meaning_addMultiple, Meaning.spelling_ofPath]

/-- An expanded difference is the difference of its argument. -/
theorem meaning_of_difference (still : reading.IsStill) {argument result : Term ℝ}
    {order span : Int} (done : argument.difference order span = .ok result) :
    0 ≤ order ∧ 0 ≤ span ∧ reading.meaning result =
      (reading.meaning argument).difference order.toNat span.toNat := by
  obtain ⟨coefficients, found, added⟩ := bind_eq_ok.mp done
  have accepted := mapError_eq_ok.mp found
  unfold Operator.differenceCoefficients at accepted
  split at accepted
  · cases accepted
  · rename_i positive
    cases accepted
    refine ⟨by omega, by omega, ?_⟩
    obtain ⟨rest, polynomial⟩ := LagPolynomial.exists_difference_eq_cons order.toNat span.toNat
    rw [polynomial, List.drop_one, List.tail_cons] at added
    ext1
    · rw [Meaning.path_difference, polynomial]
      rcases known : (reading.meaning argument).path with _ | path
      · exact reading.path_of_addLags_of_none known added
      · rw [path_of_addLags still known known added]
        refine congrArg some (funext fun date => ?_)
        rw [LagPolynomial.act_cons, Int.cast_one, one_mul, Nat.cast_one]
    · by_cases proper : order.toNat ≠ 0 ∨ span.toNat ≠ 0
      · rw [Meaning.spelling_difference proper]
        have some := LagPolynomial.exists_ne_zero_of_difference polynomial proper
        exact reading.spelling_of_addLags (.inr some) added
      · obtain ⟨noOrder, noSpan⟩ := not_or.mp proper
        rw [not_not] at noOrder noSpan
        rw [noOrder, noSpan] at polynomial ⊢
        cases polynomial
        cases added
        rfl

theorem meaning_of_logDifference (still : reading.IsStill) {argument result : Term ℝ}
    {order span : Int} (done : argument.logDifference order span = .ok result) :
    0 ≤ order ∧ 0 ≤ span ∧ reading.meaning result =
      (reading.meaning argument).log.difference order.toNat span.toNat := by
  have logarithm : reading.meaning (.call (.name "log") [argument] []) =
      (reading.meaning argument).log := by
    have notSteadyState : ("log" == Term.steadyStateName) = false := by decide
    have notOperator : Operator.ofName? "log" = none := by decide
    have logarithm : Function.ofName? "log" = some .log := by decide
    rw [meaning_call, called, notSteadyState, if_neg Bool.false_ne_true, notOperator, logarithm]
    change Meaning.applied .log [reading.meaning argument] = _
    rw [Meaning.applied, List.mapM_cons, Meaning.log]
    rcases (reading.meaning argument).path with _ | path <;> rfl
  rw [← logarithm]
  exact meaning_of_difference still done

end Reading

end Intertemporal
