import Intertemporal.Proofs.Source.Windows

/-!
# Expanded windows with the powers of a ratio

A ratio that is written as a number has its powers computed at once; any other ratio is raised to a
power at the current date. Either way the window sums the lags of its argument with the powers of
the path of the ratio, and the divisor of the average is the sum of these powers.
-/

namespace Intertemporal

open Source (Term)
open Operator (Failure)

/-- The tolerance at which a written ratio counts as one. -/
noncomputable def ratioTolerance : ℝ := Scalar.ofDecimal 1 (-9)

theorem isNearOne_real : (Term.isNearOne : ℝ → Bool) = isOneUpTo ratioTolerance := by
  funext ratio
  have tolerance : (Scalar.ofDecimal 1 (-9) : ℝ) = ratioTolerance := rfl
  have positive : 0 < ratioTolerance := by
    norm_num [ratioTolerance, Scalar.ofDecimal_real]
  rw [Term.isNearOne, isOneUpTo, tolerance, Bool.eq_iff_iff]
  simp only [Bool.or_eq_true, Bool.and_eq_true, Scalar.beq_real, Scalar.le_real, Scalar.abs_real,
    Scalar.one_real, decide_eq_true_eq, mul_one, abs_mul, abs_of_pos positive,
    mul_max_of_nonneg _ _ positive.le, le_max_iff]
  constructor
  · rintro (rfl | ⟨-, near⟩)
    · left
      rw [sub_self, abs_zero]
      exact positive.le
    · exact near
  · intro near
    exact .inr ⟨rfl, near⟩

theorem ratioOf_eq_ok {quantity : Term.Quantity ℝ} {ratio : ℝ}
    (done : Term.ratioOf quantity = .ok ratio) : ratio = quantity.value := by
  cases quantity with
  | integer value =>
      rw [Term.ratioOf, Scalar.ofInt?_real] at done
      cases done
      rfl
  | real value =>
      cases done
      rfl

theorem powerOf_eq_ok {ratio power : ℝ} {exponent : Int} {natural : Nat}
    (same : exponent = natural) (done : Term.powerOf ratio exponent = .ok power) :
    power = ratio ^ natural := by
  subst same
  simp only [Term.powerOf, Scalar.ofInt?_real] at done
  split at done
  · cases done
  · split at done
    · cases done
    · cases done
      rw [Scalar.generalPower_real, Int.cast_natCast, Real.rpow_natCast]

namespace Reading

variable {reading : Reading}

/-- The first term of a window and its further lags make up a sum over the window. -/
theorem add_sum_map_range' (value : Nat → ℝ) {periods : Nat} (positive : 1 ≤ periods) :
    value 0 + ((List.range' 1 (periods - 1)).map value).sum =
      ∑ lag ∈ Finset.range periods, value lag := by
  obtain ⟨smaller, rfl⟩ := Nat.exists_eq_add_of_le' positive
  rw [Nat.add_sub_cancel, sum_map_range', Finset.sum_range_succ', add_comm]
  refine congrArg (· + value 0) (Finset.sum_congr rfl fun place _ => ?_)
  rw [add_comm]

theorem mapM_path_of_ratioWeights (still : reading.IsStill) {argument : Term ℝ} {ratio : ℝ}
    {lag periods : Nat} {terms : List (Term ℝ)} {path : Path}
    (known : (reading.meaning argument).path = some path)
    (done : Term.ratioWeights argument ratio lag periods = .ok terms) :
    (terms.map reading.meaning).mapM Meaning.path =
      some ((List.range' lag periods).map fun (place : Nat) date =>
        ratio ^ place * path (date - place)) := by
  induction periods generalizing lag terms with
  | zero =>
      cases done
      rfl
  | succ periods ih =>
      simp only [Term.ratioWeights, bind_eq_ok] at done
      obtain ⟨weight, powered, term, lagged, others, rest, ⟨⟩⟩ := done
      rw [List.map_cons, List.mapM_cons, ih rest, meaning, Meaning.combined,
        meaning_of_lagged still lagged, Meaning.path_moved, known, powerOf_eq_ok rfl powered]
      rfl

/-- The powers of a ratio that is no number are taken at each date. -/
theorem mapM_path_symbolicWeights (reading : Reading) {ratio : Term ℝ} {path : Path}
    (known : (reading.meaning ratio).path = some path) (lag periods : Nat) :
    ((Term.symbolicWeights ratio lag periods).map reading.meaning).mapM Meaning.path =
      some ((List.range' lag periods).map fun (place : Nat) date => path date ^ place) := by
  induction periods generalizing lag with
  | zero => rfl
  | succ periods ih =>
      have power : (fun date => Scalar.power (path date) ((lag : Nat) : ℝ)) =
          fun date => path date ^ lag :=
        funext fun date => by rw [Scalar.power_real, Real.rpow_natCast]
      rw [Term.symbolicWeights, List.map_cons, List.mapM_cons, ih, meaning, Meaning.combined, known,
        List.range'_succ, List.map_cons, ← power]
      rfl

theorem zipIdx_map_range' {β : Type} (value : Nat → β) (first count : Nat) :
    ((List.range' first count).map value).zipIdx first =
      (List.range' first count).map fun place => (value place, place) := by
  induction count generalizing first with
  | zero => rfl
  | succ count ih => rw [List.range'_succ, List.map_cons, List.zipIdx_cons, ih, List.map_cons]

/-- The argument and its further lags, with the powers of a path as weights, make up a window. -/
theorem meaning_sumOf_powers (reading : Reading) {argument : Term ℝ} {terms : List (Term ℝ)}
    {periods : Nat} (positive : 1 ≤ periods) (ratio : Option Path)
    (length : terms.length = periods - 1)
    (paths : ∀ path ratioPath, (reading.meaning argument).path = some path →
      ratio = some ratioPath → (terms.map reading.meaning).mapM Meaning.path =
        some ((List.range' 1 (periods - 1)).map fun (place : Nat) date =>
          ratioPath date ^ place * path (date - place)))
    (unknown : ∀ path, (reading.meaning argument).path = some path → ratio = none → terms ≠ [] →
      (terms.map reading.meaning).mapM Meaning.path = none) :
    reading.meaning (Term.sumOf argument terms) =
      if periods = 1 then reading.meaning argument
      else .ofPath (do
        let path ← (reading.meaning argument).path
        let ratio ← ratio
        some fun date => ∑ lag ∈ Finset.range periods, ratio date ^ lag * path (date - lag)) := by
  split
  · rename_i single
    obtain rfl := List.length_eq_zero_iff.mp (length.trans (by omega))
    rfl
  · rcases terms with _ | ⟨first, rest⟩
    · rw [List.length_nil] at length
      omega
    · ext1
      · rw [path_sumOf, List.map_cons, List.mapM_cons, Meaning.path_ofPath]
        rcases known : (reading.meaning argument).path with _ | path
        · rfl
        · rcases ratio with _ | ratioPath
          · rw [unknown path known rfl (List.cons_ne_nil first rest)]
            rfl
          · rw [paths path ratioPath known rfl]
            refine congrArg some (funext fun date => ?_)
            rw [← add_sum_map_range' _ positive, pow_zero, one_mul, Nat.cast_zero, sub_zero]
            simp only [List.map_cons, List.sum_cons, List.map_map]
            rfl
      · exact reading.spelling_sumOf argument first rest

theorem length_of_ratioWeights {argument : Term ℝ} {ratio : ℝ} {lag periods : Nat}
    {terms : List (Term ℝ)} (done : Term.ratioWeights argument ratio lag periods = .ok terms) :
    terms.length = periods := by
  induction periods generalizing lag terms with
  | zero =>
      cases done
      rfl
  | succ periods ih =>
      simp only [Term.ratioWeights, bind_eq_ok] at done
      obtain ⟨_, -, _, -, others, rest, ⟨⟩⟩ := done
      rw [List.length_cons, ih rest]

theorem length_of_weighted {argument : Term ℝ} {lag : Nat} {weights terms : List (Term ℝ)}
    (done : Term.weighted argument lag weights = .ok terms) : terms.length = weights.length := by
  induction weights generalizing lag terms with
  | nil =>
      cases done
      rfl
  | cons weight rest ih =>
      simp only [Term.weighted, bind_eq_ok] at done
      obtain ⟨_, -, others, remaining, ⟨⟩⟩ := done
      rw [List.length_cons, List.length_cons, ih remaining]

theorem length_symbolicWeights (ratio : Term ℝ) (lag periods : Nat) :
    (Term.symbolicWeights ratio lag periods).length = periods := by
  induction periods generalizing lag with
  | zero => rfl
  | succ periods ih => rw [Term.symbolicWeights, List.length_cons, ih]

/-- A sum with the powers of a ratio as weights. -/
theorem meaning_of_exponentialSum (still : reading.IsStill) {argument ratio result : Term ℝ}
    {periods : Int} (done : argument.exponentialSum periods ratio = .ok result) :
    1 ≤ periods ∧ reading.meaning result =
      (reading.meaning argument).exponentialSum (isOneUpTo ratioTolerance) periods.toNat
        (reading.meaning ratio) := by
  simp only [Term.exponentialSum, bind_eq_ok] at done
  obtain ⟨_, checked, done⟩ := done
  have positive := Term.one_le_of_checkWindow checked
  refine ⟨positive, ?_⟩
  have wide : 1 ≤ periods.toNat := by omega
  unfold Meaning.exponentialSum Meaning.countsAsOne
  rw [number?_meaning still]
  split at done
  · rename_i quantity spelled
    obtain ⟨value, valued, done⟩ := bind_eq_ok.mp done
    obtain rfl := ratioOf_eq_ok valued
    rw [isNearOne_real] at done
    rw [spelled, Option.any_some]
    split at done
    · rename_i near
      rw [if_pos near]
      exact (meaning_of_movingSum still done).2
    · rename_i far
      rw [if_neg far]
      obtain ⟨terms, found, ⟨⟩⟩ := bind_eq_ok.mp done
      rw [reading.path_of_number? spelled]
      apply reading.meaning_sumOf_powers wide _ (length_of_ratioWeights found)
      · rintro path _ known ⟨⟩
        exact mapM_path_of_ratioWeights still known found
      · rintro path - ⟨⟩
  · rename_i notNumber
    obtain ⟨terms, found, ⟨⟩⟩ := bind_eq_ok.mp done
    rw [notNumber, Option.any_none, if_neg Bool.false_ne_true]
    have length := length_of_weighted found
    rw [length_symbolicWeights] at length
    apply reading.meaning_sumOf_powers wide _ length
    · intro path ratioPath known ratioKnown
      rw [mapM_path_of_weighted still known found, reading.mapM_path_symbolicWeights ratioKnown,
        Option.map_some, zipIdx_map_range', List.map_map]
      rfl
    · intro path known ratioUnknown some
      rw [mapM_path_of_weighted still known found]
      rcases smaller : periods.toNat - 1 with _ | rest
      · rw [smaller] at length
        exact absurd (List.length_eq_zero_iff.mp length) some
      · rw [Term.symbolicWeights, List.map_cons, List.mapM_cons, meaning, Meaning.combined,
          ratioUnknown]
        rfl

theorem meaning_of_exponentialAverage (still : reading.IsStill) {argument ratio result : Term ℝ}
    {periods : Int} (done : argument.exponentialAverage periods ratio = .ok result) :
    1 ≤ periods ∧ reading.meaning result =
      (reading.meaning argument).exponentialAverage (isOneUpTo ratioTolerance) periods.toNat
        (reading.meaning ratio) := by
  unfold Term.exponentialAverage at done
  unfold Meaning.exponentialAverage
  rw [Meaning.countsAsOne, number?_meaning still]
  split at done
  · rename_i quantity spelled
    obtain ⟨value, valued, done⟩ := bind_eq_ok.mp done
    obtain rfl := ratioOf_eq_ok valued
    rw [isNearOne_real] at done
    rw [spelled, Option.any_some]
    split at done
    · rename_i near
      rw [if_pos near]
      exact meaning_of_movingAverage still done
    · rename_i far
      rw [if_neg far]
      obtain ⟨power, powered, done⟩ := bind_eq_ok.mp done
      dsimp only at done
      split at done
      · cases done
      · obtain ⟨sum, summed, ⟨⟩⟩ := bind_eq_ok.mp done
        obtain ⟨positive, same⟩ := meaning_of_exponentialSum still summed
        obtain rfl := powerOf_eq_ok (by omega : periods = periods.toNat) powered
        refine ⟨positive, ?_⟩
        rw [meaning, same, reading.path_of_number? spelled, Meaning.combined, Scalar.one_real]
        rcases ((reading.meaning argument).exponentialSum (isOneUpTo ratioTolerance) periods.toNat
          (reading.meaning ratio)).path with _ | path <;> rfl
  · rename_i notNumber
    obtain ⟨sum, summed, ⟨⟩⟩ := bind_eq_ok.mp done
    obtain ⟨positive, same⟩ := meaning_of_exponentialSum still summed
    refine ⟨positive, ?_⟩
    rw [notNumber, Option.any_none, if_neg Bool.false_ne_true]
    simp only [meaning, Meaning.combined, same, Meaning.path_ofPath]
    rcases ((reading.meaning argument).exponentialSum (isOneUpTo ratioTolerance) periods.toNat
      (reading.meaning ratio)).path with _ | path
    · rfl
    · rcases (reading.meaning ratio).path with _ | ratioPath
      · rfl
      · refine congrArg Meaning.ofPath (congrArg some (funext fun date => ?_))
        have power : Scalar.power (ratioPath date) ((periods.toNat : Nat) : ℝ) =
            ratioPath date ^ periods.toNat := by
          rw [Scalar.power_real, Real.rpow_natCast]
        change path date * (((1 : Nat) : ℝ) - ratioPath date) /
          (((1 : Nat) : ℝ) - Scalar.power (ratioPath date) ((periods.toNat : Nat) : ℝ)) = _
        rw [power, Nat.cast_one, div_div_eq_mul_div]

end Reading

end Intertemporal
