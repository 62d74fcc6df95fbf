import Mathlib.Tactic.Push
import Mathlib.Tactic.Ring
import Intertemporal.Program.Denotation
import Intertemporal.Proofs.Exact
import Intertemporal.Proofs.LagPolynomial

/-!
# Paths

A world fixes the values of all series at all dates, the steady-state levels and the parameters. In
a world a term of equation text has a path: one exact number for every date.

Paths are computed with date by date. What time operators do to them is stated on paths as well:
they move a path, take differences of it and sum it over windows. A polynomial in the lag operator
acts on a path by adding up the multiples of its lags.
-/

namespace Intertemporal

/-- A number for every date. -/
abbrev Path : Type := Int → ℝ

/-- Paths are a number system, date by date. -/
noncomputable instance : NumberSystem ℝ Path where
  constant value := fun _ => NumberSystem.constant value
  negate path := fun date => NumberSystem.negate (path date)
  arithmetic operation left right :=
    fun date => NumberSystem.arithmetic operation (left date) (right date)
  elementary function argument := fun date => NumberSystem.elementary function (argument date)
  smaller left right := fun date => NumberSystem.smaller (left date) (right date)
  larger left right := fun date => NumberSystem.larger (left date) (right date)

/-- Everything that an equation refers to. -/
structure World where
  series : String → Path
  steadyState : String → ℝ
  parameter : String → Option (ParameterValue ℝ)

/-- What expressions refer to at one date of a world. -/
def World.at (world : World) (date : Int) : Valuation ℝ ℝ where
  series reference := world.series reference.name (date + reference.offset)
  steadyState := world.steadyState
  parameter := world.parameter

namespace Path

/-- The path of a constant. -/
def constant (value : ℝ) : Path := fun _ => value

/-- A path a number of periods later. -/
def moved (periods : Int) (path : Path) : Path := fun date => path (date - periods)

/-- A path less the same path a number of periods before. -/
def differenced (span : Nat) (path : Path) : Path := fun date => path date - path (date - span)

@[simp]
theorem moved_zero (path : Path) : path.moved 0 = path := by
  funext date
  simp [moved]

@[simp]
theorem moved_constant (periods : Int) (value : ℝ) :
    (constant value).moved periods = constant value := rfl

@[simp]
theorem moved_moved (periods others : Int) (path : Path) :
    (path.moved periods).moved others = path.moved (periods + others) := by
  funext date
  simp only [moved]
  congr 1
  omega

/-- A function of paths takes the values of its arguments at each date. -/
theorem apply?_at (function : Function) (paths : List Path) (date : Int) :
    ( function.apply? paths).map (· date) = function.apply? (paths.map (· date)) := by
  rcases paths with _ | ⟨first, _ | ⟨second, _ | ⟨third, rest⟩⟩⟩
  all_goals cases function <;> rfl

/-- A function of paths that are moved alike is moved like them. -/
theorem apply?_moved (function : Function) (paths : List Path) (periods : Int) :
    function.apply? (paths.map (moved periods)) = ( function.apply? paths).map (moved periods) := by
  rcases paths with _ | ⟨first, _ | ⟨second, _ | ⟨third, rest⟩⟩⟩
  all_goals cases function <;> rfl

end Path

namespace LagPolynomial

/-- The path to which a polynomial in the lag operator takes a path. -/
noncomputable def act : List Int → Path → Path
  | [], _ => 0
  | coefficient :: rest, path => fun date => coefficient * path date + act rest path (date - 1)

theorem act_cons (coefficient : Int) (rest : List Int) (path : Path) (date : Int) :
    act (coefficient :: rest) path date = coefficient * path date + act rest path (date - 1) := rfl

theorem act_replicate_append (span : Nat) (coefficients : List Int) (path : Path) (date : Int) :
    act (List.replicate span 0 ++ coefficients) path date =
      act coefficients path (date - span) := by
  induction span generalizing date with
  | zero => simp
  | succ span ih =>
      simp only [List.replicate_succ, List.cons_append, act, ih, Int.cast_zero, zero_mul, zero_add]
      congr 1
      push_cast
      ring

theorem act_append_replicate (coefficients : List Int) (span : Nat) (path : Path) (date : Int) :
    act (coefficients ++ List.replicate span 0) path date = act coefficients path date := by
  induction coefficients generalizing date with
  | nil =>
      have zeros := act_replicate_append span [] path date
      simpa only [List.append_nil, List.nil_append, act, Pi.zero_apply] using zeros
  | cons coefficient rest ih => simp only [List.cons_append, act, ih]

theorem act_zipWith_sub {first second : List Int} (same : first.length = second.length)
    (path : Path) (date : Int) :
    act (List.zipWith (· - ·) first second) path date =
      act first path date - act second path date := by
  induction first generalizing second date with
  | nil =>
      obtain rfl := List.length_eq_zero_iff.mp same.symm
      simp [act]
  | cons coefficient rest ih =>
      rcases second with _ | ⟨other, others⟩
      · cases same
      · simp only [List.zipWith_cons_cons, act, ih (Nat.succ.inj same)]
        push_cast
        ring

/-- A factor `1 - L^span` takes one more difference. -/
theorem act_timesDifference (span : Nat) (coefficients : List Int) (path : Path) :
    act (timesDifference span coefficients) path = (act coefficients path).differenced span := by
  funext date
  simp only [timesDifference, Path.differenced]
  rw [act_zipWith_sub (by simp [Nat.add_comm]), act_append_replicate, act_replicate_append]

/-- The polynomial `(1 - L)^order` takes as many differences. -/
theorem act_power (order : Nat) (path : Path) :
    act (power order) path = (Path.differenced 1)^[order] path := by
  induction order with
  | zero =>
      funext date
      simp [power, binomial, act]
  | succ order ih => rw [power_succ, act_timesDifference, ih, Function.iterate_succ_apply']

/-- On the constant path one a polynomial adds up its coefficients. -/
theorem act_one (coefficients : List Int) (date : Int) :
    act coefficients (Path.constant 1) date = coefficients.sum := by
  induction coefficients generalizing date with
  | nil => simp [act]
  | cons coefficient rest ih =>
      simp only [act, ih, List.sum_cons, Int.cast_add, Path.constant, mul_one]

/-- The coefficients of a factor `1 - L^span` add up to zero, also in a product. -/
theorem sum_timesDifference (span : Nat) (coefficients : List Int) :
    (timesDifference span coefficients).sum = 0 := by
  have collected := act_one (timesDifference span coefficients) 0
  rw [act_timesDifference, Path.differenced, act_one, act_one, sub_self] at collected
  exact_mod_cast collected.symm

/-- The lag of no period has the coefficient one. -/
theorem exists_difference_eq_cons (order span : Nat) :
    ∃ rest, difference order span = 1 :: rest := by
  have step : ∀ (positive : Nat) {coefficients rest : List Int}, coefficients = 1 :: rest →
      ∃ others, timesDifference (positive + 1) coefficients = 1 :: others := by
    rintro positive _ rest rfl
    exact ⟨_, by rw [timesDifference, List.replicate_succ, List.cons_append, List.cons_append,
      List.zipWith_cons_cons]; rfl⟩
  have powers : ∃ rest, power order = 1 :: rest := by
    induction order with
    | zero => exact ⟨[], rfl⟩
    | succ order ih =>
        obtain ⟨rest, same⟩ := ih
        rw [power_succ]
        exact step 0 same
  obtain ⟨rest, same⟩ := powers
  rcases span with _ | span
  · exact ⟨rest, by rw [difference, if_pos rfl, same]⟩
  · obtain ⟨others, result⟩ := step span same
    exact ⟨others, by rw [difference, if_neg (Nat.succ_ne_zero span), result]⟩

/-- A difference that does anything has some further lag. -/
theorem exists_ne_zero_of_difference {order span : Nat} {rest : List Int}
    (coefficients : difference order span = 1 :: rest) (proper : order ≠ 0 ∨ span ≠ 0) :
    ∃ coefficient ∈ rest, coefficient ≠ 0 := by
  have sum : (difference order span).sum = 0 := by
    unfold difference
    split
    · rename_i none
      obtain ⟨smaller, rfl⟩ := Nat.exists_eq_succ_of_ne_zero
        (proper.resolve_right fun some => some none)
      rw [power_succ]
      exact sum_timesDifference 1 _
    · exact sum_timesDifference span _
  by_contra allZero
  push Not at allZero
  rw [coefficients, List.sum_cons, List.sum_eq_zero allZero] at sum
  exact absurd sum (by decide)

end LagPolynomial

end Intertemporal
