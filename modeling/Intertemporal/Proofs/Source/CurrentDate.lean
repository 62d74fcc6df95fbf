import Intertemporal.Proofs.Source.Expansion

/-!
# Explicit dates

Reading the bare names of series as their values at the current date makes every date explicit. From
then on a term is read at one date: a name that still stands alone does not move.
-/

namespace Intertemporal

open Source (Term BinaryOperator)

theorem SymbolTable.contains_seriesNames (symbols : SymbolTable) (name : String) :
    symbols.seriesNames.contains name = symbols.isSeries name := by
  rw [SymbolTable.seriesNames, List.contains_eq_any_beq, List.any_append,
    ← List.contains_eq_any_beq, ← List.contains_eq_any_beq, SymbolTable.isSeries]

namespace Source.Term

variable {series : List String}

theorem integer?_atCurrentDate (term : Term ℝ) :
    (term.atCurrentDate series).integer? = term.integer? := by
  induction term using induction with
  | name identifier =>
      rw [atCurrentDate]
      split <;> rfl
  | unary operator operand ih =>
      cases operator with
      | minus => exact congrArg (Option.map (- ·)) ih
      | plus => exact ih
      | _ => rfl
  | call function passed named _ _ _ =>
      rw [atCurrentDate]
      split <;> rfl
  | _ => rfl

theorem offset?_binary_of_ne {left : Term ℝ} (notName : ∀ identifier, left ≠ .name identifier)
    (operator : BinaryOperator) (right : Term ℝ) :
    (binary operator left right).offset? = none := by
  cases left with
  | name identifier => exact absurd rfl (notName identifier)
  | _ => cases operator <;> rfl

theorem atCurrentDate_ne_name {term : Term ℝ} (notName : ∀ identifier, term ≠ .name identifier)
    (identifier : String) : term.atCurrentDate series ≠ .name identifier := by
  cases term with
  | name other => exact absurd rfl (notName other)
  | call function passed named =>
      rw [atCurrentDate]
      split <;> rintro ⟨⟩
  | _ => rintro ⟨⟩

/-- The current date is no series, so indices keep their offsets. -/
theorem offset?_atCurrentDate (timeless : series.contains timeName = false) (term : Term ℝ) :
    (term.atCurrentDate series).offset? = term.offset? := by
  have notTime : ∀ {identifier : String}, series.contains identifier = true →
      (identifier == timeName) = false := by
    intro identifier contained
    rw [beq_eq_false_iff_ne]
    rintro rfl
    rw [timeless] at contained
    cases contained
  cases term with
  | name identifier =>
      rw [atCurrentDate]
      split
      · rename_i contained
        rw [offset?, notTime contained]
        rfl
      · rfl
  | binary operator left right =>
      cases left with
      | name identifier =>
          rw [atCurrentDate, atCurrentDate]
          split
          · rename_i contained
            rw [offset?_binary_of_ne (by rintro other ⟨⟩)]
            cases operator <;> simp only [offset?, notTime contained] <;> rfl
          · cases operator <;> simp only [offset?, integer?_atCurrentDate]
      | _ =>
          rw [atCurrentDate, offset?_binary_of_ne (atCurrentDate_ne_name (by rintro other ⟨⟩)),
            offset?_binary_of_ne (by rintro other ⟨⟩)]
  | call function passed named =>
      rw [atCurrentDate]
      split <;> rfl
  | _ => rfl

theorem callsOperator_atCurrentDate (term : Term ℝ) :
    (term.atCurrentDate series).callsOperator = term.callsOperator := by
  induction term using induction with
  | literal value => rfl
  | name identifier =>
      rw [atCurrentDate]
      split <;> rfl
  | unary operator operand ih => exact ih
  | binary operator left right ihLeft ihRight =>
      rw [atCurrentDate, callsOperator, callsOperator, ihLeft, ihRight]
  | subscript value index _ ihIndex => rw [atCurrentDate, callsOperator, callsOperator, ihIndex]
  | call function passed named _ ihPassed _ =>
      rw [atCurrentDate]
      split
      · rfl
      · simp only [callsOperator, anyCallsOperator_eq, allAtCurrentDate_eq, List.any_map,
          Function.comp_def]
        rw [any_congr_of_mem ihPassed]
  | tuple items ih =>
      simp only [atCurrentDate, callsOperator, anyCallsOperator_eq, allAtCurrentDate_eq,
        List.any_map]
      exact any_congr_of_mem ih
  | compound shape parts ih =>
      simp only [atCurrentDate, callsOperator, anyCallsOperator_eq, allAtCurrentDate_eq,
        List.any_map]
      exact any_congr_of_mem ih

theorem isRegular_atCurrentDate (term : Term ℝ) :
    (term.atCurrentDate series).isRegular = term.isRegular := by
  induction term using induction with
  | literal value => rfl
  | name identifier =>
      rw [atCurrentDate]
      split <;> rfl
  | unary operator operand ih => exact ih
  | binary operator left right ihLeft ihRight =>
      rw [atCurrentDate, isRegular, isRegular, ihLeft, ihRight]
  | subscript value index _ _ =>
      rw [atCurrentDate, isRegular, isRegular, callsOperator_atCurrentDate]
  | call function passed named _ ihPassed _ =>
      rw [atCurrentDate]
      split
      · rfl
      · rename_i other
        simp only [isRegular, allRegular_eq, allAtCurrentDate_eq, if_neg other, List.all_map,
          Function.comp_def]
        rw [all_congr_of_mem ihPassed]
  | tuple items ih =>
      simp only [atCurrentDate, isRegular, allRegular_eq, allAtCurrentDate_eq, List.all_map]
      exact all_congr_of_mem ih
  | compound shape parts ih =>
      simp only [atCurrentDate, isRegular, allRegular_eq, allAtCurrentDate_eq, List.all_map]
      exact all_congr_of_mem ih

end Source.Term

namespace Reading

/-- What a name that stands alone refers to at one date. -/
noncomputable def standing? (symbols : SymbolTable) (world : World) (date : Int) (name : String) :
    Option Path :=
  if symbols.isParameter name then parameter? symbols world name
  else if name ≠ Term.timeName ∧ symbols.isSeries name then
    some (.constant (world.series name date))
  else none

/-- The reading of terms with explicit dates. -/
noncomputable def atDate (reading : Reading) (date : Int) : Reading :=
  { reading with
    bare := fun name =>
      ⟨standing? reading.symbols reading.world date name, some (.name name)⟩ }

variable {symbols : SymbolTable} {world : World}

theorem parameter?_moved (name : String) (periods : Int) :
    (parameter? symbols world name).map (Path.moved periods) = parameter? symbols world name := by
  unfold parameter?
  split
  · simp only [Option.map_bind, Function.comp_def, Option.map_map, Path.moved_constant]
  · rfl

theorem standing?_moved (date : Int) (name : String) (periods : Int) :
    (standing? symbols world date name).map (Path.moved periods) =
      standing? symbols world date name := by
  unfold standing?
  split
  · exact parameter?_moved name periods
  · split <;> rfl

theorem isExpandable_atDate (symbols : SymbolTable) (world : World) (date : Int) :
    ((ofText symbols world (isOneUpTo ratioTolerance)).atDate date).IsExpandable where
  still :=
    { moved := fun name periods => Meaning.ext (standing?_moved date name periods) rfl
      spelling := fun _ => rfl
      operated := fun _ _ => rfl }
  operated _ _ := rfl

/-- A term with explicit dates means what it meant before. -/
theorem meaning_atCurrentDate (timeless : symbols.isSeries Term.timeName = false)
    (isOne : ℝ → Bool) (date : Int) (term : Term ℝ) :
    ((ofText symbols world isOne).atDate date).meaning (term.atCurrentDate symbols.seriesNames) =
      (ofText symbols world isOne).meaning term := by
  induction term using Term.induction with
  | literal value => rfl
  | name name =>
      rw [Term.atCurrentDate, SymbolTable.contains_seriesNames]
      split
      · rename_i series
        rw [meaning_subscript, meaning]
        simp only [World.indexed?, ofText, atDate, series]
        change Meaning.ofPath (some ((world.series name).moved 0)) = _
        rw [Path.moved_zero]
        rfl
      · rename_i notSeries
        have bare : (ofText symbols world isOne).bare name =
            ⟨parameter? symbols world name, some (.name name)⟩ := if_neg notSeries
        rw [meaning, meaning, bare]
        refine Meaning.ext ?_ rfl
        change standing? symbols world date name = parameter? symbols world name
        unfold standing?
        split
        · rfl
        · rename_i notParameter
          rw [if_neg fun both => notSeries both.2, parameter?,
            if_neg fun both => notParameter both.2]
  | unary operator operand ih => rw [Term.atCurrentDate, meaning, meaning, ih]
  | binary operator left right ihLeft ihRight =>
      rw [Term.atCurrentDate, meaning, meaning, ihLeft, ihRight]
  | subscript value index _ _ =>
      rw [Term.atCurrentDate]
      cases value with
      | name name =>
          rw [meaning_subscript, meaning_subscript, World.indexed?, World.indexed?,
            Term.integer?_atCurrentDate, Term.offset?_atCurrentDate
              (by rw [SymbolTable.contains_seriesNames]; exact timeless)]
          rfl
      | _ =>
          rw [meaning_subscript_of_ne _ (by rintro name ⟨⟩),
            meaning_subscript_of_ne _ (by rintro name ⟨⟩)]
  | call function passed named _ ihPassed _ =>
      rw [Term.atCurrentDate, Term.allAtCurrentDate_eq]
      cases named with
      | nil =>
          split
          · rename_i steadyState
            rw [meaning_call, meaning_call, called_steadyState _ steadyState,
              called_steadyState _ steadyState]
            rfl
          · rename_i other
            rw [Bool.not_eq_true] at other
            have same : (passed.map (Term.atCurrentDate symbols.seriesNames)).map
                ((ofText symbols world isOne).atDate date).meaning =
                  passed.map (ofText symbols world isOne).meaning := by
              rw [List.map_map]
              exact List.map_congr_left ihPassed
            rw [meaning_call, meaning_call, called_of_not_steadyState _ other _ passed, same]
            rfl
      | cons first rest =>
          split
          all_goals
            rw [meaning_call_of_ne _ _ _ (List.cons_ne_nil first rest),
              meaning_call_of_ne _ _ _ (List.cons_ne_nil first rest)]
  | tuple items _ => rfl
  | compound shape parts _ => rfl

end Reading

end Intertemporal
