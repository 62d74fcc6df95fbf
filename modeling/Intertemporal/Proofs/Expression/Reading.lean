import Mathlib
import Intertemporal.Proofs.Expression.Resolution
import Intertemporal.Proofs.Source.CurrentDate

/-!
# Expressions mean what their texts mean

An equation text is read as a term, its dates are made explicit, its operators are expanded and its
names are resolved. None of these steps changes the meaning: at every date of every world the
expression has the value that the text has.
-/

namespace Intertemporal

open Source (Term Literal)

namespace Reading

/-- The reading of normal terms at one date. -/
noncomputable def normal (symbols : SymbolTable) (world : World) (date : Int) : Reading :=
  ((ofText symbols world (isOneUpTo ratioTolerance)).atDate date).withoutOperators

@[simp]
theorem symbols_normal (symbols : SymbolTable) (world : World) (date : Int) :
    (normal symbols world date).symbols = symbols := rfl

@[simp]
theorem world_normal (symbols : SymbolTable) (world : World) (date : Int) :
    (normal symbols world date).world = world := rfl

end Reading

namespace Source.Statement

variable {α : Type} [Scalar α] {text : String} {left right : Term α}

/-- The residual of a text that states one side is that side. -/
theorem residual_of_side (stated : (sides text.toList).map side = [.ok left]) :
    residual text = .ok left := by
  obtain ⟨only, sole, read⟩ := List.map_eq_singleton_iff.mp stated
  rw [residual, sole]
  exact read

/-- The residual of a text that states two sides is their difference. -/
theorem residual_of_sides (stated : (sides text.toList).map side = [.ok left, .ok right]) :
    residual text = .ok (.binary .sub left right) := by
  obtain ⟨first, rest, split, readLeft, others⟩ := List.map_eq_cons_iff.mp stated
  obtain ⟨second, sole, readRight⟩ := List.map_eq_singleton_iff.mp others
  rw [residual, split, sole]
  exact bind_eq_ok.mpr ⟨left, readLeft, bind_eq_ok.mpr ⟨right, readRight, rfl⟩⟩

end Source.Statement

namespace Expression

variable {symbols : SymbolTable} {world : World} {date : Int} {place : String}

theorem toOption_parameterOf (valuation : Valuation ℝ ℝ) (name : String) :
    (valuation.parameterOf name).toOption = valuation.parameter name := by
  unfold Valuation.parameterOf
  split
  · rename_i value found
    exact found.symm
  · rename_i missing
    exact missing.symm

/-- What is read off a parameter has the path of a constant. -/
theorem toOption_parameter (world : World) (date : Int) (name : String)
    (read : ParameterValue ℝ → Except ComputationError ℝ) :
    Except.toOption (do
      let value ← (world.at date).parameterOf name
      let scalar ← read value
      .ok (NumberSystem.constant scalar : ℝ)) =
      ((world.parameter name).bind fun value => (read value).toOption.map .constant).map
        fun path : Path => path date := by
  rw [toOption_bind, toOption_parameterOf, Option.map_bind]
  refine congrArg (Option.bind _) (funext fun value => ?_)
  rw [Function.comp_apply, toOption_bind]
  rcases read value with reason | scalar <;> rfl

theorem toOption_apply (function : Function) (arguments : List ℝ) :
    (function.apply arguments).toOption = function.apply? arguments := by
  unfold Function.apply
  split
  · rename_i value found
    exact found.symm
  · rename_i missing
    exact missing.symm

/-- Arguments have values where they have paths. -/
theorem toOption_valuesIn {reading : Reading} {valuation : Valuation ℝ ℝ} {terms : List (Term ℝ)}
    {expressions : List (Expression ℝ)} (paired : List.Forall₂ (fun term expression =>
      (expression.valueIn valuation).toOption = (reading.meaning term).path.map (· date))
      terms expressions) :
    (valuesIn valuation expressions).toOption =
      ((terms.map reading.meaning).mapM Meaning.path).map (List.map (· date)) := by
  induction paired with
  | nil => rfl
  | @cons term _ rest _ here _ ih =>
      rw [valuesIn, toOption_bind, here, List.map_cons, List.mapM_cons]
      rcases (reading.meaning term).path with _ | path
      · rfl
      · rw [Option.map_some, Option.bind_some, toOption_bind, ih]
        rcases (rest.map reading.meaning).mapM Meaning.path with _ | paths <;> rfl

/-- No function has the name of a time operator. -/
theorem ofName?_operator_of_function {name : String} {function : Function}
    (found : Function.ofName? name = some function) : Operator.ofName? name = none := by
  have named : function.name = name := by
    simpa using List.find?_some found
  rw [← named]
  cases function <;> decide

/-- A call of a function has the value of its meaning if its arguments do. -/
theorem toOption_call {reading : Reading} {valuation : Valuation ℝ ℝ} (function : Function)
    {passed : List (Term ℝ)} {arguments : List (Expression ℝ)}
    (paired : List.Forall₂ (fun term expression =>
      (expression.valueIn valuation).toOption = (reading.meaning term).path.map (· date))
      passed arguments) :
    ((call function arguments).valueIn valuation).toOption =
      (Meaning.applied function (passed.map reading.meaning)).path.map (· date) := by
  rw [valueIn, toOption_bind, toOption_valuesIn paired]
  rcases known : (passed.map reading.meaning).mapM Meaning.path with _ | paths
  · simp only [Meaning.applied, Meaning.path_ofPath, known]
    rfl
  · simp only [Meaning.applied, Meaning.path_ofPath, known]
    exact (toOption_apply function _).trans (Path.apply?_at function paths date).symm

/-- The expression that a normal term resolves to has the value of the term. -/
theorem toOption_of_resolvesTo {term : Term ℝ} {expression : Expression ℝ}
    (resolves : term.ResolvesTo symbols expression) :
    (expression.valueIn (world.at date)).toOption =
      ((Reading.normal symbols world date).meaning term).path.map (· date) := by
  induction resolves using Term.ResolvesTo.induction with
  | integer inRange =>
      rw [Scalar.ofInt?_real] at inRange
      cases inRange
      rfl
  | real value => rfl
  | @parameter name timeless declared =>
      change _ = (Reading.standing? symbols world date name).map (· date)
      rw [Reading.standing?, Reading.parameter?, if_pos declared, if_pos ⟨timeless, declared⟩]
      exact toOption_parameter world date name ParameterValue.toScalar
  | @series name timeless noParameter declared =>
      change _ = (Reading.standing? symbols world date name).map (· date)
      rw [Reading.standing?, noParameter, if_neg Bool.false_ne_true, if_pos ⟨timeless, declared⟩]
      change some (world.series name (date + 0)) = some (world.series name date)
      rw [add_zero]
  | @dated name index offset declared read =>
      rw [Reading.meaning_subscript, Meaning.path_ofPath, Reading.symbols_normal,
        Reading.world_normal, World.indexed?, if_pos declared, read]
      change some (world.series name (date + offset)) = some (world.series name (date - -offset))
      rw [sub_neg_eq_add]
  | @element name index position noSeries declared read =>
      rw [Reading.meaning_subscript, Meaning.path_ofPath, Reading.symbols_normal,
        Reading.world_normal, World.indexed?, noSeries, if_neg Bool.false_ne_true, read,
        Option.bind_some, World.element?, if_pos declared]
      exact toOption_parameter world date name (ParameterValue.element position)
  | @steadyState name declared =>
      rw [Reading.meaning_call, Reading.called, if_pos (beq_self_eq_true _), Meaning.path_ofPath,
        Reading.steadyState?, Reading.symbols_normal, if_pos declared]
      rfl
  | @minus operand _ _ ih =>
      rw [valueIn, toOption_bind, ih, Reading.meaning, Meaning.signed]
      rcases ((Reading.normal symbols world date).meaning operand).path with _ | path <;> rfl
  | plus _ ih => exact ih
  | @binary operator operation left right _ _ known _ _ ihLeft ihRight =>
      rw [valueIn, toOption_bind, ihLeft, Reading.meaning, Meaning.combined, known]
      rcases ((Reading.normal symbols world date).meaning left).path with _ | leftPath
      · rfl
      · rw [Option.map_some, Option.bind_some, toOption_bind, ihRight]
        rcases ((Reading.normal symbols world date).meaning right).path with _ | rightPath <;> rfl
  | call known _ ih =>
      rw [Reading.meaning_call, Reading.called, beq_steadyStateName_of_function known,
        ofName?_operator_of_function known, known]
      exact toOption_call _ (ih.imp fun _ _ here => here.snd)

/-- The residual of a text has the path of the text. -/
theorem path_meaning_of_residual (reading : Reading) {text : String} {term : Term ℝ}
    (read : Source.Statement.residual text = .ok term) :
    (reading.meaning term).path = Source.Statement.path? reading text := by
  unfold Source.Statement.residual at read
  unfold Source.Statement.path?
  split at read
  · rename_i only sides
    rw [sides, List.map_singleton, read]
  · rename_i left right sides
    obtain ⟨first, readLeft, remaining⟩ := bind_eq_ok.mp read
    obtain ⟨second, readRight, ⟨⟩⟩ := bind_eq_ok.mp remaining
    rw [sides, List.map_cons, List.map_singleton, readLeft, readRight]
    rfl
  · cases read

/-- The expression of an equation text has, at every date of every world, the value that the text
has: the left side less the right one. -/
theorem valueIn_of_ofText {symbols : SymbolTable} {name text : String} {expression : Expression ℝ}
    (timeless : symbols.isSeries Term.timeName = false)
    (regular : ∀ term : Term ℝ, Source.Statement.residual text = .ok term → term.isRegular = true)
    (accepted : ofText symbols name text = .ok expression) (world : World) (date : Int) :
    (expression.valueIn (world.at date)).toOption =
      (Source.Statement.path? (Reading.ofText symbols world (isOneUpTo ratioTolerance)) text).map
        (· date) := by
  obtain ⟨term, readText, remaining⟩ := bind_eq_ok.mp accepted
  obtain ⟨normal, normalized, converted⟩ := bind_eq_ok.mp remaining
  have read := mapError_eq_ok.mp readText
  have expanded : (term.atCurrentDate symbols.seriesNames).expandOperators = .ok normal :=
    mapError_eq_ok.mp normalized
  have dated : (term.atCurrentDate symbols.seriesNames).isRegular = true := by
    rw [Term.isRegular_atCurrentDate]
    exact regular term read
  have expandable := Reading.isExpandable_atDate symbols world date
  rw [toOption_of_resolvesTo (ofTerm_eq_ok.mp converted), Reading.normal,
    Reading.meaning_of_expandOperators expandable dated expanded,
    Reading.meaning_atCurrentDate timeless, path_meaning_of_residual _ read]

/-- A table that declares the series `x` and `y`. -/
def seriesXY : SymbolTable := { allVariables := [{ name := "x" }, { name := "y" }] }

set_option maxRecDepth 100000 in
/-- The lag of a difference is the change of the period before. -/
theorem valueIn_lagged_difference :
    ∃ expression, ofText seriesXY "catch-up" "x = lag(d(y))" = .ok expression ∧
      ∀ (world : World) date, (expression.valueIn (world.at date)).toOption =
        some (world.series "x" date -
          (world.series "y" (date - 1) - world.series "y" (date - 1 - 1))) := by
  have stated : (Source.Statement.sides "x = lag(d(y))".toList).map
      (Source.Statement.side (α := ℝ)) =
      [.ok (.name "x"), .ok (.call (.name "lag") [.call (.name "d") [.name "y"] []] [])] := by
    cbv
  have read := Source.Statement.residual_of_sides stated
  have accepted : ofText (α := ℝ) seriesXY "catch-up" "x = lag(d(y))" =
      .ok (.binary .sub (.series ⟨"x", 0⟩)
        (.binary .sub (.series ⟨"y", -1⟩) (.series ⟨"y", -2⟩))) := by
    rw [ofText, read]
    rfl
  refine ⟨_, accepted, fun world date => ?_⟩
  rw [valueIn_of_ofText rfl (fun term found => ?_) accepted world date]
  · rw [Source.Statement.path?, stated]
    rfl
  · obtain rfl := Except.ok.inj (read.symm.trans found)
    rfl

set_option maxRecDepth 100000 in
/-- A ratio that is one only up to the tolerance loses its powers. Read to the letter, the text
weighs the lag with the ratio. -/
theorem valueIn_ne_of_ratio_near_one :
    ∃ expression : Expression ℝ,
      ofText seriesXY "" "movsumew(x, 2, 1.0000000005)" = .ok expression ∧
      ∃ (world : World) (date : Int), (expression.valueIn (world.at date)).toOption ≠
        (Source.Statement.path? (Reading.ofText seriesXY world fun ratio => decide (ratio = 1))
          "movsumew(x, 2, 1.0000000005)").map (· date) := by
  have stated : (Source.Statement.sides "movsumew(x, 2, 1.0000000005)".toList).map
      (Source.Statement.side (α := ℝ)) =
      [.ok (.call (.name "movsumew") [.name "x", .natural 2,
        .real (Scalar.ofDecimal 10000000005 (-10))] [])] := by
    cbv
  have near : Term.isNearOne (Scalar.ofDecimal 10000000005 (-10) : ℝ) = true := by
    simp only [isNearOne_real, isOneUpTo, ratioTolerance, Scalar.ofDecimal_real]
    norm_num [abs_of_neg, abs_of_pos]
  have written : (Scalar.ofDecimal 10000000005 (-10) : ℝ) ≠ 1 := by
    norm_num [Scalar.ofDecimal_real]
  have expanded : (Term.call (.name "movsumew") [.name "x", .natural 2,
      .real (Scalar.ofDecimal 10000000005 (-10) : ℝ)] []).normalize seriesXY.seriesNames =
      (Term.subscript (.name "x") .time).movingSum 2 := by
    change (if Term.isNearOne (Scalar.ofDecimal 10000000005 (-10) : ℝ) then
      (Term.subscript (.name "x") .time).movingSum 2 else _) = _
    rw [if_pos near]
  have accepted : ofText (α := ℝ) seriesXY "" "movsumew(x, 2, 1.0000000005)" =
      .ok (.binary .add (.series ⟨"x", 0⟩) (.series ⟨"x", -1⟩)) := by
    rw [ofText, Source.Statement.residual_of_side stated]
    change (do
      let normal ← Except.mapError _ (Term.normalize seriesXY.seriesNames _)
      ofTerm _ _ normal) = _
    rw [expanded]
    rfl
  refine ⟨_, accepted, ⟨fun _ _ => 1, fun _ => 0, fun _ => none⟩, 0, ?_⟩
  rw [Source.Statement.path?, stated]
  change some ((1 : ℝ) + 1) ≠ Option.map (· 0) (Meaning.exponentialSum _ ⟨some fun _ => 1, none⟩ 2
    ⟨some (.constant (Scalar.ofDecimal 10000000005 (-10))), some (.number (.real _))⟩).path
  have other : Meaning.countsAsOne (fun ratio => decide (ratio = 1))
      ⟨some (.constant (Scalar.ofDecimal 10000000005 (-10))),
        some (.number (.real (Scalar.ofDecimal 10000000005 (-10))))⟩ = false :=
    decide_eq_false written
  rw [Meaning.exponentialSum, other, if_neg Bool.false_ne_true, if_neg (by decide)]
  norm_num [Finset.sum_range_succ, Path.constant, Meaning.ofPath, Scalar.ofDecimal_real]

end Expression

end Intertemporal
