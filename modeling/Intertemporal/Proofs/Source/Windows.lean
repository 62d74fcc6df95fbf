import Mathlib.Algebra.BigOperators.Ring.Finset
import Intertemporal.Proofs.Source.Spelling

/-!
# Expanded windows

What the window operators expand to means what they mean. A window is a sum of terms, so the path of
the sum is found first: it adds up the paths of the terms. Then each kind of window only has to name
the paths of its terms.
-/

namespace Intertemporal

open Source (Term)

/-- The sum of a function over consecutive numbers, as a list and as a set. -/
theorem sum_map_range' (value : Nat → ℝ) (first count : Nat) :
    ((List.range' first count).map value).sum =
      ∑ place ∈ Finset.range count, value (first + place) := by
  induction count generalizing first with
  | zero => rfl
  | succ count ih =>
      rw [List.range'_succ, List.map_cons, List.sum_cons, ih, Finset.sum_range_succ', add_comm]
      refine congrArg (· + value first) (Finset.sum_congr rfl fun place _ => ?_)
      congr 1
      omega

namespace Meaning

theorem mapM_path_map {β : Type} {items : List β} {meaning : β → Meaning} (path : β → Path)
    (each : ∀ item ∈ items, (meaning item).path = some (path item)) :
    (items.map meaning).mapM Meaning.path = some (items.map path) := by
  induction items with
  | nil => rfl
  | cons item rest ih =>
      rw [List.map_cons, List.mapM_cons, each item List.mem_cons_self,
        ih fun other member => each other (List.mem_cons_of_mem _ member)]
      rfl

theorem mapM_path_eq_none {meanings : List Meaning} {meaning : Meaning}
    (member : meaning ∈ meanings) (none : meaning.path = none) :
    meanings.mapM Meaning.path = .none := by
  induction meanings with
  | nil => cases member
  | cons first rest ih =>
      rw [List.mapM_cons]
      rcases List.mem_cons.mp member with rfl | later
      · rw [none]
        rfl
      · rw [ih later]
        rcases first.path with _ | path <;> rfl

end Meaning

namespace Reading

variable {reading : Reading}

/-- Lags are moved paths. -/
theorem meaning_of_lagged (still : reading.IsStill) {periods : Int} {argument result : Term ℝ}
    (done : argument.lagged periods = .ok result) :
    reading.meaning result = (reading.meaning argument).moved periods := by
  have lagged := mapError_eq_ok.mp done
  unfold Term.lag at lagged
  split at lagged
  · rename_i none
    cases lagged
    rw [none, Meaning.moved_zero]
  · exact reading.meaning_of_shift still lagged

/-! ### Sums -/

/-- A sum adds up the paths of its terms. -/
theorem path_sumOf (reading : Reading) (first : Term ℝ) (others : List (Term ℝ)) :
    (reading.meaning (Term.sumOf first others)).path =
      (((first :: others).map reading.meaning).mapM Meaning.path).map
        fun paths date => (paths.map (· date)).sum := by
  induction others generalizing first with
  | nil =>
      rw [Term.sumOf, List.foldl_nil, List.map_singleton, List.mapM_cons]
      rcases (reading.meaning first).path with _ | path
      · rfl
      · simp
  | cons second rest ih =>
      change (reading.meaning (Term.sumOf (.binary .add first second) rest)).path = _
      rw [ih, List.map_cons, List.map_cons, List.map_cons, List.mapM_cons, List.mapM_cons,
        List.mapM_cons, meaning, Meaning.combined]
      rcases (reading.meaning first).path with _ | start
      · rfl
      · rcases (reading.meaning second).path with _ | next
        · rfl
        · rcases (rest.map reading.meaning).mapM Meaning.path with _ | paths
          · rfl
          · refine congrArg some (funext fun date => ?_)
            simp only [List.map_cons, List.sum_cons]
            exact add_assoc (start date) (next date) _

/-- A sum of several terms is spelled as neither number nor name. -/
theorem spelling_sumOf (reading : Reading) (first second : Term ℝ) (rest : List (Term ℝ)) :
    (reading.meaning (Term.sumOf first (second :: rest))).spelling = none := by
  induction rest generalizing first second with
  | nil => rfl
  | cons third rest ih => exact ih (.binary .add first second) third

theorem path_sumOfAll (reading : Reading) {terms : List (Term ℝ)} (some : terms ≠ []) :
    (reading.meaning (Term.sumOfAll terms)).path =
      ((terms.map reading.meaning).mapM Meaning.path).map
        fun paths date => (paths.map (· date)).sum := by
  cases terms with
  | nil => exact absurd rfl some
  | cons first others => exact reading.path_sumOf first others

theorem spelling_sumOfAll (reading : Reading) {terms : List (Term ℝ)}
    (several : 1 < terms.length) : (reading.meaning (Term.sumOfAll terms)).spelling = none := by
  rcases terms with _ | ⟨first, _ | ⟨second, rest⟩⟩
  · cases several
  · exact absurd several (lt_irrefl 1)
  · exact reading.spelling_sumOf first second rest

/-! ### Plain windows -/

theorem meanings_of_lags (still : reading.IsStill) {argument : Term ℝ} {lag periods : Nat}
    {terms : List (Term ℝ)} (done : Term.lags argument lag periods = .ok terms) :
    terms.map reading.meaning =
      (List.range' lag periods).map fun place : Nat => (reading.meaning argument).moved place := by
  induction periods generalizing lag terms with
  | zero =>
      cases done
      rfl
  | succ periods ih =>
      simp only [Term.lags, bind_eq_ok] at done
      obtain ⟨first, lagged, others, rest, ⟨⟩⟩ := done
      rw [List.map_cons, meaning_of_lagged still lagged, ih rest, List.range'_succ, List.map_cons]

/-- A moving sum adds up the argument over its window. -/
theorem meaning_of_movingSum (still : reading.IsStill) {argument result : Term ℝ} {periods : Int}
    (done : argument.movingSum periods = .ok result) :
    1 ≤ periods ∧
      reading.meaning result = (reading.meaning argument).movingSum periods.toNat := by
  simp only [Term.movingSum, bind_eq_ok] at done
  obtain ⟨_, checked, terms, lagged, ⟨⟩⟩ := done
  have positive := Term.one_le_of_checkWindow checked
  refine ⟨positive, ?_⟩
  have meanings := meanings_of_lags still lagged
  have length := congrArg List.length meanings
  rw [List.length_map, List.length_map, List.length_range'] at length
  unfold Meaning.movingSum
  split
  · rename_i single
    obtain ⟨only, rfl⟩ := List.length_eq_one_iff.mp (length.trans single)
    rw [single] at meanings
    have same := List.singleton_inj.mp meanings
    change reading.meaning only = reading.meaning argument
    simpa only [Nat.cast_zero, Meaning.moved_zero] using same
  · have several : 1 < terms.length := by omega
    ext1
    · rw [path_sumOfAll reading (List.ne_nil_of_length_pos (by omega)), meanings,
        Meaning.path_ofPath]
      rcases known : (reading.meaning argument).path with _ | path
      · have member : (reading.meaning argument).moved (0 : Nat) ∈
            (List.range' 0 periods.toNat).map fun place : Nat =>
              (reading.meaning argument).moved place :=
          List.mem_map_of_mem (List.mem_range'_1.mpr (by omega))
        rw [Meaning.mapM_path_eq_none member (by rw [Meaning.path_moved, known, Option.map_none]),
          Option.map_none, Option.map_none]
      · rw [Meaning.mapM_path_map fun place : Nat => path.moved place, Option.map_some,
          Option.map_some]
        · refine congrArg some (funext fun date => ?_)
          rw [List.map_map]
          exact (sum_map_range' (fun place => path (date - place)) 0 _).trans
            (by simp only [zero_add])
        · intro place _
          rw [Meaning.path_moved, known, Option.map_some]
    · exact reading.spelling_sumOfAll several

theorem meaning_of_movingAverage (still : reading.IsStill) {argument result : Term ℝ}
    {periods : Int} (done : argument.movingAverage periods = .ok result) :
    1 ≤ periods ∧
      reading.meaning result = (reading.meaning argument).movingAverage periods.toNat := by
  simp only [Term.movingAverage, bind_eq_ok] at done
  obtain ⟨sum, summed, ⟨⟩⟩ := done
  obtain ⟨positive, same⟩ := meaning_of_movingSum still summed
  refine ⟨positive, ?_⟩
  rw [meaning, same, Meaning.movingAverage, Meaning.combined]
  rcases ((reading.meaning argument).movingSum periods.toNat).path with _ | path
  · rfl
  · rfl

/-! ### Weights -/

/-- Weighted lags are products of paths, as far as all weights have paths. -/
theorem mapM_path_of_weighted (still : reading.IsStill) {argument : Term ℝ} {lag : Nat}
    {weights terms : List (Term ℝ)} {path : Path}
    (known : (reading.meaning argument).path = some path)
    (done : Term.weighted argument lag weights = .ok terms) :
    (terms.map reading.meaning).mapM Meaning.path =
      ((weights.map reading.meaning).mapM Meaning.path).map fun paths =>
        (paths.zipIdx lag).map fun (weight, place) date => weight date * path (date - place) := by
  induction weights generalizing lag terms with
  | nil =>
      cases done
      rfl
  | cons weight rest ih =>
      simp only [Term.weighted, bind_eq_ok] at done
      obtain ⟨term, lagged, others, remaining, ⟨⟩⟩ := done
      rw [List.map_cons, List.map_cons, List.mapM_cons, List.mapM_cons, ih remaining, meaning,
        Meaning.combined, meaning_of_lagged still lagged, Meaning.path_moved, known]
      rcases (reading.meaning weight).path with _ | first
      · rfl
      · rcases (rest.map reading.meaning).mapM Meaning.path with _ | paths <;> rfl

theorem mapM_path_eq_none_of_weighted (still : reading.IsStill) {argument : Term ℝ} {lag : Nat}
    {weights terms : List (Term ℝ)} (some : weights ≠ [])
    (unknown : (reading.meaning argument).path = none)
    (done : Term.weighted argument lag weights = .ok terms) :
    (terms.map reading.meaning).mapM Meaning.path = none := by
  cases weights with
  | nil => exact absurd rfl some
  | cons weight rest =>
      simp only [Term.weighted, bind_eq_ok] at done
      obtain ⟨term, lagged, others, -, ⟨⟩⟩ := done
      rw [List.map_cons, List.mapM_cons, meaning, Meaning.combined, meaning_of_lagged still lagged,
        Meaning.path_moved, unknown]
      rcases (reading.meaning weight).path with _ | first <;> rfl

/-- A sum of weighted lags is spelled as neither number nor name, even if it is a single one. -/
theorem spelling_of_weighted (reading : Reading) {argument : Term ℝ} {lag : Nat}
    {weights terms : List (Term ℝ)} (done : Term.weighted argument lag weights = .ok terms)
    (some : weights ≠ []) :
    terms ≠ [] ∧ (reading.meaning (Term.sumOfAll terms)).spelling = none := by
  cases weights with
  | nil => exact absurd rfl some
  | cons weight rest =>
      simp only [Term.weighted, bind_eq_ok] at done
      obtain ⟨term, -, others, -, ⟨⟩⟩ := done
      refine ⟨List.cons_ne_nil _ _, ?_⟩
      cases others with
      | nil => rfl
      | cons second rest => exact reading.spelling_sumOf _ second rest

/-- The weights of a window are resolved to terms that have the paths of the weights. -/
theorem weights_of_resolveWeights (still : reading.IsStill) {operator : Operator} {periods : Int}
    {weights resolved : List (Term ℝ)}
    (done : Term.resolveWeights operator periods weights = .ok resolved) :
    1 ≤ periods ∧ resolved ≠ [] ∧
      reading.world.weights? reading.symbols periods.toNat (weights.map reading.meaning) =
        (resolved.map reading.meaning).mapM Meaning.path := by
  simp only [Term.resolveWeights, bind_eq_ok] at done
  obtain ⟨_, checked, done⟩ := done
  have positive := Term.one_le_of_checkWindow checked
  refine ⟨positive, ?_⟩
  split at done
  · rename_i vector
    split at done
    · rename_i several
      cases done
      have wide : 1 < periods.toNat := by omega
      refine ⟨by simpa using (by omega : periods.toNat ≠ 0), ?_⟩
      rw [List.map_singleton, World.weights?, if_pos wide, List.map_map]
      cases vector with
      | name name =>
          rw [name?_meaning_name still, List.mapM_map]
          rfl
      | _ =>
          rw [name?_meaning_of_ne still (by rintro name ⟨⟩)]
          refine (Meaning.mapM_path_eq_none (List.mem_map_of_mem (List.mem_range.mpr wide)) ?_).symm
          rw [Function.comp_apply, meaning_subscript_of_ne reading (by rintro name ⟨⟩)]
          rfl
    · rename_i single
      cases done
      refine ⟨List.cons_ne_nil _ _, ?_⟩
      rw [List.map_singleton, World.weights?, if_neg (by omega)]
  · rename_i notSingle
    split at done
    · rename_i same
      cases done
      refine ⟨List.ne_nil_of_length_pos (by omega), ?_⟩
      rw [World.weights?, if_pos (by rw [List.length_map]; omega)]
      intro meaning single
      obtain ⟨vector, rfl, -⟩ := List.map_eq_singleton_iff.mp single
      exact notSingle vector rfl
    · cases done

/-- The path of a sum of weighted lags. -/
theorem path_of_weighted (still : reading.IsStill) {argument : Term ℝ}
    {weights terms : List (Term ℝ)} (done : Term.weighted argument 0 weights = .ok terms)
    (some : weights ≠ []) :
    (reading.meaning (Term.sumOfAll terms)).path =
      ((weights.map reading.meaning).mapM Meaning.path).bind fun paths =>
        ((reading.meaning argument).weightedSum paths).path := by
  obtain ⟨someTerms, -⟩ := reading.spelling_of_weighted done some
  rw [reading.path_sumOfAll someTerms]
  rcases known : (reading.meaning argument).path with _ | path
  · rw [mapM_path_eq_none_of_weighted still some known done]
    simp only [Meaning.weightedSum, Meaning.path_ofPath, known, Option.map_none]
    rcases (weights.map reading.meaning).mapM Meaning.path with _ | paths <;> rfl
  · rw [mapM_path_of_weighted still known done]
    simp only [Meaning.weightedSum, Meaning.path_ofPath, known, Option.map_some]
    rcases (weights.map reading.meaning).mapM Meaning.path with _ | paths
    · rfl
    · simp only [Option.map_some, Option.bind_some, List.map_map]
      rfl

/-- A weighted sum has the weights of its window. -/
theorem meaning_of_weightedSum (still : reading.IsStill) {argument result : Term ℝ} {periods : Int}
    {weights : List (Term ℝ)} (done : argument.weightedSum periods weights = .ok result) :
    1 ≤ periods ∧ reading.meaning result =
      ((reading.world.weights? reading.symbols periods.toNat (weights.map reading.meaning)).map
        fun paths => (reading.meaning argument).weightedSum paths).getD .nothing := by
  simp only [Term.weightedSum, bind_eq_ok] at done
  obtain ⟨resolved, found, terms, weighted, ⟨⟩⟩ := done
  obtain ⟨positive, some, same⟩ := weights_of_resolveWeights still found
  refine ⟨positive, ?_⟩
  obtain ⟨-, spelling⟩ := reading.spelling_of_weighted weighted some
  ext1
  · rw [path_of_weighted still weighted some, same]
    rcases (resolved.map reading.meaning).mapM Meaning.path with _ | paths <;> rfl
  · rw [spelling, same]
    rcases (resolved.map reading.meaning).mapM Meaning.path with _ | paths <;> rfl

theorem meaning_of_weightedAverage (still : reading.IsStill) {argument result : Term ℝ}
    {periods : Int} {weights : List (Term ℝ)}
    (done : argument.weightedAverage periods weights = .ok result) :
    1 ≤ periods ∧ reading.meaning result =
      ((reading.world.weights? reading.symbols periods.toNat (weights.map reading.meaning)).map
        fun paths => (reading.meaning argument).weightedAverage paths).getD .nothing := by
  simp only [Term.weightedAverage, bind_eq_ok] at done
  obtain ⟨divisor, found, sum, summed, ⟨⟩⟩ := done
  obtain ⟨positive, some, same⟩ := weights_of_resolveWeights still found
  obtain ⟨-, sumMeaning⟩ := meaning_of_weightedSum still summed
  refine ⟨positive, ?_⟩
  rw [meaning, sumMeaning, same, Meaning.combined, reading.path_sumOfAll some]
  rcases (divisor.map reading.meaning).mapM Meaning.path with _ | paths
  · rfl
  · simp only [Option.map_some, Option.getD_some, Meaning.weightedAverage]
    rcases ((reading.meaning argument).weightedSum paths).path with _ | path <;> rfl

end Reading

end Intertemporal
