import Mathlib.Algebra.Polynomial.Coeff
import Mathlib.Data.List.GetD
import Mathlib.Data.Nat.Choose.Basic
import Mathlib.Tactic.Ring
import Intertemporal.Operators.LagPolynomial

/-!
# Coefficients of differences

A factor `1 - L^span` takes from each coefficient the one `span` places before it, whether or not
the coefficients and their moved copy overlap. By Pascal's rule a factor `1 - L` leads from the
signed binomial coefficients of one order to those of the next. So these are the coefficients of a
power of `1 - X`, and those of a difference are the coefficients of its polynomial.
-/

namespace Intertemporal.LagPolynomial

open Polynomial

/-! ### Signed binomial coefficients -/

theorem binomial_eq_choose (whole part : Nat) : binomial whole part = whole.choose part := by
  induction part with
  | zero => rw [binomial, Nat.choose_zero_right]
  | succ part ih =>
      rw [binomial, ih, ← Nat.choose_succ_right_eq]
      exact Nat.mul_div_cancel _ part.succ_pos

/-- Beyond the order a binomial coefficient is zero, as one that is missing from the list is. -/
theorem getD_power (order lag : Nat) :
    (power order).getD lag 0 = order.choose lag * (-1) ^ lag := by
  rw [power, List.getD_eq_getElem?_getD, List.getElem?_map]
  by_cases within : lag < order + 1
  · rw [List.getElem?_range within, Option.map_some, Option.getD_some, binomial_eq_choose]
    rfl
  · rw [List.getElem?_eq_none (by rw [List.length_range]; omega), Option.map_none,
      Option.getD_none, Nat.choose_eq_zero_of_lt (by omega), Nat.cast_zero, zero_mul]

/-! ### Factors -/

theorem getD_zipWith_sub {first second : List Int} (same : first.length = second.length)
    (lag : Nat) :
    (List.zipWith (· - ·) first second).getD lag 0 = first.getD lag 0 - second.getD lag 0 := by
  induction first generalizing second lag with
  | nil =>
      obtain rfl := List.length_eq_zero_iff.mp same.symm
      simp
  | cons coefficient rest ih =>
      rcases second with _ | ⟨other, others⟩
      · cases same
      · cases lag with
        | zero => rfl
        | succ lag => exact ih (Nat.succ.inj same) lag

/-- A factor `1 - L^span` takes from each coefficient the one `span` places before it. -/
theorem getD_timesDifference (span : Nat) (coefficients : List Int) (lag : Nat) :
    (timesDifference span coefficients).getD lag 0 =
      coefficients.getD lag 0 - if span ≤ lag then coefficients.getD (lag - span) 0 else 0 := by
  have padded : (coefficients ++ List.replicate span 0).getD lag 0 = coefficients.getD lag 0 := by
    rcases Nat.lt_or_ge lag coefficients.length with within | beyond
    · exact List.getD_append _ _ _ _ within
    · rw [List.getD_append_right _ _ _ _ beyond, List.getD_eq_default _ _ beyond]
      exact List.getElem?_getD_replicate_default_eq _ _ _
  have moved : (List.replicate span 0 ++ coefficients).getD lag 0 =
      if span ≤ lag then coefficients.getD (lag - span) 0 else 0 := by
    split_ifs with reached
    · rw [List.getD_append_right _ _ _ _ (by rwa [List.length_replicate]), List.length_replicate]
    · rw [List.getD_append _ _ _ _ (by rw [List.length_replicate]; omega)]
      exact List.getElem?_getD_replicate_default_eq _ _ _
  rw [timesDifference, getD_zipWith_sub (by simp [Nat.add_comm]), padded, moved]

/-- Pascal's rule: one more order is one more factor `1 - L`. -/
theorem power_succ (order : Nat) : power (order + 1) = timesDifference 1 (power order) := by
  have same : (power (order + 1)).length = (timesDifference 1 (power order)).length := by
    rw [length_timesDifference, length_power, length_power]
  refine List.ext_getElem same fun lag within _ => ?_
  rw [← List.getD_eq_getElem _ 0, ← List.getD_eq_getElem _ 0, getD_timesDifference, getD_power,
    getD_power]
  cases lag with
  | zero => simp
  | succ lag =>
      rw [if_pos (by omega), Nat.add_sub_cancel, getD_power, Nat.choose_succ_succ', pow_succ]
      push_cast
      ring

/-! ### Polynomials -/

/-- The factor `1 - L^span` multiplies the polynomial by `1 - X^span`. -/
theorem coeff_mul_one_sub {polynomial : ℤ[X]} {coefficients : List Int}
    (listed : ∀ lag, polynomial.coeff lag = coefficients.getD lag 0) (span lag : Nat) :
    (polynomial * (1 - X ^ span)).coeff lag = (timesDifference span coefficients).getD lag 0 := by
  rw [mul_sub, mul_one, coeff_sub, coeff_mul_X_pow', getD_timesDifference, listed, listed]

theorem coeff_one_sub_pow (order lag : Nat) :
    ((1 - X) ^ order : ℤ[X]).coeff lag = (power order).getD lag 0 := by
  induction order generalizing lag with
  | zero =>
      rw [pow_zero, coeff_one, getD_power]
      cases lag <;> simp
  | succ order ih =>
      have factor := coeff_mul_one_sub ih 1 lag
      rwa [pow_one, ← pow_succ, ← power_succ] at factor

/-- The coefficients of a difference are those of its polynomial. -/
theorem coeff_difference (order span lag : Nat) :
    (if span = 0 then (1 - X) ^ order else (1 - X) ^ order * (1 - X ^ span) : ℤ[X]).coeff lag =
      (difference order span).getD lag 0 := by
  unfold difference
  split_ifs
  · exact coeff_one_sub_pow order lag
  · exact coeff_mul_one_sub (coeff_one_sub_pow order) span lag

end Intertemporal.LagPolynomial
