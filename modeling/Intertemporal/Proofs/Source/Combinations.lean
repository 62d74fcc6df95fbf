import Intertemporal.Proofs.Source.Composition
import Intertemporal.Proofs.Source.Paths

/-!
# Combinations of lags

A term that adds up other terms has a total in every commutative group in which these are worth
something. The total of a difference is the combination of the totals of all lags, with the
coefficients of the polynomial of the difference (`total_difference`).

The expansion leaves out the lags with a coefficient of zero. Nothing is lost by that: if one lag by
some periods fails, all of them fail with the same index, and a difference that does anything has
a further lag with another coefficient.
-/

namespace Intertemporal.Source.Term

open Polynomial

variable {α : Type} {G : Type*} [AddCommGroup G]

/-- The total of a term: its sums, differences and whole multiples are computed in a commutative
group, in which every other term is worth what it is said to be. -/
def total (worth : Term α → G) : Term α → G
  | .binary .add left right => left.total worth + right.total worth
  | .binary .sub left right => left.total worth - right.total worth
  | .binary .mul (.literal (.natural times)) term => times • term.total worth
  | term => worth term

/-- The totals of several terms, each taken as often as its coefficient says. -/
def combination (worth : Term α → G) (coefficients : List Int) (terms : List (Term α)) : G :=
  (List.zipWith (fun coefficient term => coefficient • term.total worth) coefficients terms).sum

variable {worth : Term α → G}

@[simp]
theorem combination_nil (terms : List (Term α)) : combination worth [] terms = 0 := rfl

@[simp]
theorem combination_cons (coefficient : Int) (rest : List Int) (term : Term α)
    (terms : List (Term α)) :
    combination worth (coefficient :: rest) (term :: terms) =
      coefficient • term.total worth + combination worth rest terms := by
  rw [combination, List.zipWith_cons_cons, List.sum_cons, combination]

/-- Whichever way a multiple is written, the multiple is added. -/
theorem total_addMultiple (sum term : Term α) (coefficient : Int) :
    (addMultiple sum coefficient term).total worth =
      sum.total worth + coefficient • term.total worth := by
  unfold addMultiple
  split_ifs with one minusOne positive
  · rw [total, one, one_zsmul]
  · rw [total, minusOne, neg_one_zsmul, sub_eq_add_neg]
  · rw [total, natural, total, ← natCast_zsmul, Int.toNat_of_nonneg positive.le]
  · rw [total, natural, total, ← natCast_zsmul, Int.toNat_of_nonneg (by omega), neg_zsmul,
      sub_neg_eq_add]

/-! ### Lags of a term whose indices are dates -/

variable {argument : Term α}

theorem exists_lagged_of_dated (dated : argument.undated? = none) (periods : Int) :
    ∃ term, argument.lagged periods = .ok term := by
  by_cases still : periods = 0
  · exact ⟨argument, by rw [still, lagged_zero]⟩
  · exact ⟨_, (lagged_eq_ok_iff still).mpr ⟨dated, rfl⟩⟩

/-- The sum grows by the combination of the lags; those left out count for nothing. -/
theorem total_addLags (dated : argument.undated? = none) (sum : Term α) (lag : Nat)
    (coefficients : List Int) :
    (addLags argument sum lag coefficients).map (total worth) =
      (lags argument lag coefficients.length).map fun terms =>
        sum.total worth + combination worth coefficients terms := by
  induction coefficients generalizing sum lag with
  | nil => simp [addLags, lags, Except.map]
  | cons coefficient rest ih =>
      obtain ⟨term, lagged⟩ := exists_lagged_of_dated dated lag
      have grown : (addLags argument sum lag (coefficient :: rest)).map (total worth) =
          (lags argument (lag + 1) rest.length).map fun terms =>
            sum.total worth + coefficient • term.total worth + combination worth rest terms := by
        rw [addLags]
        split_ifs with zero
        · rw [ih, zero, zero_zsmul, add_zero]
        · rw [lagged, ← total_addMultiple]
          exact ih (addMultiple sum coefficient term) (lag + 1)
      rw [grown, List.length_cons, lags, lagged]
      rcases lags argument (lag + 1) rest.length with _ | terms
      · rfl
      · refine congrArg Except.ok ?_
        dsimp only
        rw [combination_cons, add_assoc]

/-! ### Lags of a term with another index -/

variable {index : Term α}

theorem lagged_of_undated (undated : argument.undated? = some index) {periods : Int}
    (moves : periods ≠ 0) : argument.lagged periods = .error (.timeIndex index) := by
  rw [lagged_of_ne moves, undated]
  rfl

theorem addLags_of_undated (undated : argument.undated? = some index) {sum : Term α} {lag : Nat}
    (moves : lag ≠ 0) {coefficients : List Int}
    (some : ∃ coefficient ∈ coefficients, coefficient ≠ 0) :
    addLags argument sum lag coefficients = .error (.timeIndex index) := by
  induction coefficients generalizing lag with
  | nil =>
      obtain ⟨coefficient, member, -⟩ := some
      cases member
  | cons coefficient rest ih =>
      rw [addLags]
      split_ifs with zero
      · refine ih lag.succ_ne_zero ?_
        obtain ⟨other, member, notZero⟩ := some
        rcases List.mem_cons.mp member with rfl | later
        · exact absurd zero notZero
        · exact ⟨other, later, notZero⟩
      · rw [lagged_of_undated undated (Nat.cast_ne_zero.mpr moves)]
        rfl

theorem lags_of_undated (undated : argument.undated? = some index) {lag : Nat} (moves : lag ≠ 0)
    {periods : Nat} (some : periods ≠ 0) :
    lags argument lag periods = .error (.timeIndex index) := by
  obtain ⟨further, rfl⟩ := Nat.exists_eq_succ_of_ne_zero some
  rw [lags, lagged_of_undated undated (Nat.cast_ne_zero.mpr moves)]
  rfl

/-! ### Differences -/

theorem lags_zero_succ (argument : Term α) (further : Nat) :
    lags argument 0 (further + 1) = (lags argument 1 further).map (argument :: ·) := by
  rw [lags, Nat.cast_zero, lagged_zero]
  rcases lags argument 1 further with _ | terms <;> rfl

theorem differenceCoefficients_natCast (order span : Nat) :
    (Operator.differenceCoefficients order span : Except (Operator.Misuse α) (List Int)) =
      .ok (LagPolynomial.difference order span) := by
  rw [Operator.differenceCoefficients, if_neg (by omega), Int.toNat_natCast, Int.toNat_natCast]

theorem difference_eq_addLags {order span : Nat} {rest : List Int}
    (polynomial : LagPolynomial.difference order span = 1 :: rest) :
    argument.difference order span = addLags argument argument 1 rest := by
  rw [difference, differenceCoefficients_natCast, polynomial]
  rfl

/-- The further lags of a difference add up to their combination, and they fail alike. -/
theorem total_addLags_difference {order span : Nat} {rest : List Int}
    (polynomial : LagPolynomial.difference order span = 1 :: rest) :
    (addLags argument argument 1 rest).map (total worth) =
      (lags argument 1 rest.length).map fun terms =>
        argument.total worth + combination worth rest terms := by
  rcases found : argument.undated? with _ | index
  · exact total_addLags found argument 1 rest
  · by_cases proper : order ≠ 0 ∨ span ≠ 0
    · have some := LagPolynomial.exists_ne_zero_of_difference polynomial proper
      have further : rest.length ≠ 0 := by
        obtain ⟨coefficient, member, -⟩ := some
        exact (List.length_pos_of_mem member).ne'
      rw [addLags_of_undated found one_ne_zero some, lags_of_undated found one_ne_zero further]
      rfl
    · obtain ⟨noOrder, noSpan⟩ := not_or.mp proper
      rw [not_not] at noOrder noSpan
      rw [noOrder, noSpan] at polynomial
      cases polynomial
      simp [addLags, lags, Except.map]

/-- The coefficients of a difference are those of `(1 - X)^order (1 - X^span)`, where a span of zero
stands for no second factor. The difference of a term has the total of the combination of its lags
with these coefficients, and it fails where and as one of the lags does. -/
theorem total_difference (order span : Nat) :
    ∃ coefficients : List Int,
      (Operator.differenceCoefficients order span : Except (Operator.Misuse α) (List Int)) =
        .ok coefficients ∧
      coefficients.length = order + span + 1 ∧
      (∀ lag, coefficients.getD lag 0 = (if span = 0 then (1 - X) ^ order
        else (1 - X) ^ order * (1 - X ^ span) : ℤ[X]).coeff lag) ∧
      ∀ (worth : Term α → G) (argument : Term α),
        (argument.difference order span).map (total worth) =
          (lags argument 0 (order + span + 1)).map (combination worth coefficients) := by
  have length := LagPolynomial.length_difference order span
  refine ⟨LagPolynomial.difference order span, differenceCoefficients_natCast order span, length,
    fun lag => (LagPolynomial.coeff_difference order span lag).symm, fun worth argument => ?_⟩
  obtain ⟨rest, polynomial⟩ := LagPolynomial.exists_difference_eq_cons order span
  rw [polynomial, List.length_cons, Nat.succ_inj] at length
  rw [difference_eq_addLags polynomial, total_addLags_difference polynomial, lags_zero_succ,
    polynomial, length]
  rcases lags argument 1 (order + span) with _ | terms
  · rfl
  · refine congrArg Except.ok ?_
    rw [combination_cons, one_zsmul]

/-- Here the span is within the order, so the coefficients and their moved copy overlap. -/
example :
    let series (index : Term α) : Term α := .subscript (.name "x") index
    let back (periods : Nat) : Term α := series (.binary .sub time (natural periods))
    (series time).difference 2 1 = .ok (.binary .sub (.binary .add (.binary .sub (series time)
      (.binary .mul (natural 3) (back 1))) (.binary .mul (natural 3) (back 2))) (back 3)) := rfl

end Intertemporal.Source.Term
