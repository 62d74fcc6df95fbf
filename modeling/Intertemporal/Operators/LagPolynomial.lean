/-!
# Polynomials in the lag operator

A difference of order `n` and seasonal span `s` applies `(1 - L)^n (1 - L^s)` to a series, where `L`
moves it back by one period. A polynomial in `L` is the list of its coefficients, the one of `L^0`
first. The coefficients of `(1 - L)^n` are binomial coefficients with alternating signs.
-/

namespace Intertemporal.LagPolynomial

/-- The product with `1 - L^span`: the coefficients less the same coefficients moved by `span`. -/
def timesDifference (span : Nat) (coefficients : List Int) : List Int :=
  let zeros := List.replicate span 0
  List.zipWith (· - ·) (coefficients ++ zeros) (zeros ++ coefficients)

/-- The number of ways to choose a part of the given size from a whole. -/
def binomial (whole : Nat) : Nat → Nat
  | 0 => 1
  | part + 1 => binomial whole part * (whole - part) / (part + 1)

/-- The coefficients of `(1 - L)^order`. -/
def power (order : Nat) : List Int :=
  (List.range (order + 1)).map fun lag => binomial order lag * Int.pow (-1) lag

/-- The coefficients of `(1 - L)^order (1 - L^span)`, of the first factor alone if the span is
zero. -/
def difference (order span : Nat) : List Int :=
  if span = 0 then power order else timesDifference span (power order)

/-- A factor `1 - L^span` adds as many lags as it spans. -/
theorem length_timesDifference (span : Nat) (coefficients : List Int) :
    (timesDifference span coefficients).length = coefficients.length + span := by
  simp [timesDifference, Nat.add_comm]

/-- One coefficient for each lag from zero to the order. -/
@[simp]
theorem length_power (order : Nat) : (power order).length = order + 1 := by
  simp [power]

/-- One coefficient for each lag from zero to `order + span`. -/
theorem length_difference (order span : Nat) :
    (difference order span).length = order + span + 1 := by
  unfold difference
  split
  · simp_all
  · rw [length_timesDifference, length_power]
    omega

end Intertemporal.LagPolynomial
