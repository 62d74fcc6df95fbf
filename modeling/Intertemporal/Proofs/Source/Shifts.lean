import Intertemporal.Proofs.Lists
import Intertemporal.Proofs.Source.Meaning
import Intertemporal.Proofs.Source.Regular

/-!
# Shifted terms

Shifting every time index of a term moves its path, provided that all dates of the term are
explicit. A still reading is one in which nothing else moves: names that stand alone have constant
paths, and operators that are not expanded yet mean nothing.
-/

namespace Intertemporal

open Source (Term Literal)

namespace Reading

/-- A reading in which only time indices move. -/
structure IsStill (reading : Reading) : Prop where
  moved : ∀ name periods, (reading.bare name).moved periods = reading.bare name
  spelling : ∀ name, (reading.bare name).spelling = some (.name name)
  operated : ∀ operator arguments, reading.operated operator arguments = .nothing

@[simp]
theorem meanings_eq (reading : Reading) (terms : List (Term ℝ)) :
    reading.meanings terms = terms.map reading.meaning := by
  induction terms with
  | nil => rfl
  | cons term rest ih => rw [meanings, ih, List.map_cons]

theorem meaning_subscript (reading : Reading) (name : String) (index : Term ℝ) :
    reading.meaning (.subscript (.name name) index) =
      .ofPath (reading.world.indexed? reading.symbols name index) := by
  rw [meaning]

theorem meaning_subscript_of_ne (reading : Reading) {value : Term ℝ}
    (notName : ∀ name, value ≠ .name name) (index : Term ℝ) :
    reading.meaning (.subscript value index) = .nothing := by
  cases value with
  | name name => exact absurd rfl (notName name)
  | _ => rw [meaning] <;> simp

theorem meaning_call (reading : Reading) (function : Term ℝ) (passed : List (Term ℝ)) :
    reading.meaning (.call function passed []) =
      reading.called function passed (passed.map reading.meaning) := by
  rw [meaning, meanings_eq]

theorem meaning_call_of_ne (reading : Reading) (function : Term ℝ) (passed : List (Term ℝ))
    {named : List (Term ℝ)} (some : named ≠ []) :
    reading.meaning (.call function passed named) = .nothing := by
  cases named with
  | nil => exact absurd rfl some
  | cons first rest => rw [meaning] <;> simp

end Reading

namespace Meaning

@[simp]
theorem path_ofPath (path : Option Path) : (ofPath path).path = path := rfl

@[simp]
theorem spelling_ofPath (path : Option Path) : (ofPath path).spelling = none := rfl

@[simp]
theorem moved_nothing (periods : Int) : nothing.moved periods = nothing := rfl

@[simp]
theorem moved_ofPath (periods : Int) (path : Option Path) :
    (ofPath path).moved periods = ofPath (path.map (Path.moved periods)) := rfl

@[simp]
theorem path_moved (periods : Int) (argument : Meaning) :
    (argument.moved periods).path = argument.path.map (Path.moved periods) := rfl

@[simp]
theorem number?_moved (periods : Int) (argument : Meaning) :
    (argument.moved periods).number? = argument.number? := rfl

@[simp]
theorem moved_zero (argument : Meaning) : argument.moved 0 = argument := by
  have same : (Path.moved 0) = id := funext Path.moved_zero
  simp only [moved, same, Option.map_id_fun, id_eq]

theorem moved_ofLiteral (periods : Int) (value : Literal ℝ) :
    (ofLiteral value).moved periods = ofLiteral value := by
  cases value <;> rfl

theorem moved_signed (periods : Int) (operator : Source.UnaryOperator) (operand : Meaning) :
    (signed operator operand).moved periods = signed operator (operand.moved periods) := by
  cases operator with
  | minus =>
      simp only [signed, moved, number?, Option.map_map]
      rfl
  | _ => rfl

theorem moved_combined (periods : Int) (operator : Source.BinaryOperator) (left right : Meaning) :
    (combined operator left right).moved periods =
      combined operator (left.moved periods) (right.moved periods) := by
  simp only [combined, moved_ofPath, path_moved]
  rcases operator.arithmetic? with _ | operation
  · rfl
  · rcases left.path with _ | leftPath
    · rfl
    · rcases right.path with _ | rightPath <;> rfl

theorem mapM_path_moved (periods : Int) (arguments : List Meaning) :
    (arguments.map (moved periods)).mapM path =
      (arguments.mapM path).map (List.map (Path.moved periods)) := by
  induction arguments with
  | nil => rfl
  | cons argument rest ih =>
      simp only [List.map_cons, List.mapM_cons, ih, path_moved]
      rcases argument.path with _ | first
      · rfl
      · rcases rest.mapM path with _ | others <;> rfl

theorem moved_applied (periods : Int) (function : Function) (arguments : List Meaning) :
    (applied function arguments).moved periods =
      applied function (arguments.map (moved periods)) := by
  simp only [applied, moved_ofPath, mapM_path_moved]
  rcases arguments.mapM path with _ | paths
  · rfl
  · exact congrArg ofPath (Path.apply?_moved function paths periods).symm

end Meaning

namespace Reading

variable {reading : Reading}

theorem moved_called (still : reading.IsStill) (periods : Int) (function : Term ℝ)
    (passed : List (Term ℝ)) (arguments : List Meaning) :
    (reading.called function passed arguments).moved periods =
      reading.called function passed (arguments.map (Meaning.moved periods)) := by
  cases function with
  | name name =>
      simp only [called]
      split
      · unfold steadyState?
        split
        · split <;> rfl
        · rfl
      · split
        · rw [still.operated, still.operated, Meaning.moved_nothing]
        · exact Meaning.moved_applied periods _ arguments
        · rfl
  | _ => rfl

/-- A call of anything but a name means nothing. -/
theorem called_of_ne (reading : Reading) {function : Term ℝ}
    (notName : ∀ name, function ≠ .name name) (passed : List (Term ℝ)) (arguments : List Meaning) :
    reading.called function passed arguments = .nothing := by
  cases function with
  | name name => exact absurd rfl (notName name)
  | _ => rfl

end Reading

namespace Source.Term

@[simp]
theorem integer?_ofOffset (offset : Int) : (ofOffset offset : Term ℝ).integer? = none := by
  unfold ofOffset
  split_ifs <;> rfl

end Source.Term

namespace World

variable {world : World} {symbols : SymbolTable}

theorem element?_moved (name : String) (element periods : Int) :
    (world.element? symbols name element).map (Path.moved periods) =
      world.element? symbols name element := by
  unfold element?
  split
  · simp only [Option.map_bind, Function.comp_def, Option.map_map, Path.moved_constant]
  · rfl

/-- A shifted index moves a series and leaves an element of a parameter where it is. -/
theorem indexed?_of_shiftIndex {periods : Int} {index shifted : Term ℝ}
    (done : Term.shiftIndex periods index = .ok shifted) (name : String) :
    world.indexed? symbols name shifted =
      (world.indexed? symbols name index).map (Path.moved periods) := by
  unfold indexed?
  rcases Term.shiftIndex_eq_ok.mp done with ⟨timeless, rfl⟩ | ⟨offset, read, rfl⟩
  · split
    · have noOffset : shifted.offset? = none := by
        rw [Option.eq_none_iff_forall_ne_some]
        intro offset read
        cases timeless.symm.trans (Term.mentionsTime_of_offset? read)
      rw [noOffset]
      rfl
    · rcases shifted.integer? with _ | element
      · rfl
      · exact (element?_moved name element periods).symm
  · split
    · rw [read, Term.offset?_ofOffset, Option.map_some, Option.map_some, Option.map_some,
        Path.moved_moved]
      congr 2
      omega
    · have notInteger : index.integer? = none := by
        rw [Option.eq_none_iff_forall_ne_some]
        intro value found
        cases (Term.mentionsTime_of_offset? read).symm.trans
          (Term.not_mentionsTime_of_integer? found)
      rw [Term.integer?_ofOffset, notInteger]
      rfl

end World

namespace Reading

variable {reading : Reading}

/-- What `sstate` refers to is named without a date. -/
theorem steadyState?_of_shift (reading : Reading) {periods : Int} {passed shifted : List (Term ℝ)}
    (pairs : List.Forall₂ (fun term result => term.shift periods = .ok result) passed shifted) :
    reading.steadyState? shifted = reading.steadyState? passed := by
  rcases pairs with _ | ⟨first, _ | ⟨second, rest⟩⟩
  · rfl
  · rename_i term result
    cases result with
    | name name => rw [Source.Term.shift_eq_name first]
    | _ =>
        cases term with
        | name name =>
            rw [Source.Term.shift] at first
            cases first
        | _ => rfl
  · simp only [steadyState?]

theorem meaning_of_shift_subscript (reading : Reading) {periods : Int}
    {value index shifted : Term ℝ}
    (done : (Term.subscript value index).shift periods = .ok shifted) :
    reading.meaning shifted = (reading.meaning (.subscript value index)).moved periods := by
  rw [Term.shift_subscript, bind_eq_ok] at done
  obtain ⟨front, moved, remaining⟩ := done
  obtain ⟨back, movedIndex, ⟨⟩⟩ := bind_eq_ok.mp remaining
  cases value with
  | name name =>
      rw [Term.shift] at moved
      cases moved
      rw [meaning_subscript, meaning_subscript, Meaning.moved_ofPath]
      rcases Term.cases_of_shiftPosition movedIndex with here | ⟨items, others, rfl, rfl, -⟩
      · rw [World.indexed?_of_shiftIndex here]
      · simp only [World.indexed?, Term.offset?, Term.integer?]
        split <;> rfl
  | _ =>
      rw [meaning_subscript_of_ne reading (by rintro name ⟨⟩) index,
        meaning_subscript_of_ne reading, Meaning.moved_nothing]
      rintro name rfl
      cases Term.shift_eq_name moved

/-- Shifting a term moves its path. -/
theorem meaning_of_shift (still : reading.IsStill) {periods : Int} {term shifted : Term ℝ}
    (done : term.shift periods = .ok shifted) :
    reading.meaning shifted = (reading.meaning term).moved periods := by
  induction term using Term.induction generalizing shifted with
  | literal value =>
      rw [Term.shift] at done
      cases done
      rw [meaning, Meaning.moved_ofLiteral]
  | name name =>
      rw [Term.shift] at done
      cases done
      rw [meaning, still.moved]
  | unary operator operand ih =>
      simp only [Term.shift, bind_eq_ok] at done
      obtain ⟨result, found, ⟨⟩⟩ := done
      rw [meaning, meaning, ih found, Meaning.moved_signed]
  | binary operator left right ihLeft ihRight =>
      simp only [Term.shift, bind_eq_ok] at done
      obtain ⟨first, foundLeft, second, foundRight, ⟨⟩⟩ := done
      rw [meaning, meaning, ihLeft foundLeft, ihRight foundRight, Meaning.moved_combined]
  | subscript value index _ _ => exact reading.meaning_of_shift_subscript done
  | call function passed named _ ihPassed _ =>
      simp only [Term.shift, Term.shiftAll_eq, bind_eq_ok] at done
      obtain ⟨front, foundFront, arguments, foundPassed, keywords, foundNamed, ⟨⟩⟩ := done
      have pairs := mapM_eq_ok.mp foundPassed
      cases named with
      | cons first rest =>
          rw [meaning_call_of_ne reading _ _ (List.cons_ne_nil first rest),
            meaning_call_of_ne, Meaning.moved_nothing]
          rintro rfl
          cases mapM_eq_ok.mp foundNamed
      | nil =>
          cases mapM_eq_ok.mp foundNamed
          have moved : arguments.map reading.meaning =
              (passed.map reading.meaning).map (Meaning.moved periods) := by
            rw [List.map_map]
            exact map_eq_map_of_forall₂ pairs fun term member result => ihPassed term member
          rw [meaning_call, meaning_call, moved_called still, moved]
          cases function with
          | name name =>
              rw [Term.shift] at foundFront
              cases foundFront
              simp only [called, reading.steadyState?_of_shift pairs]
          | _ =>
              have notName : ∀ name, front ≠ .name name := by
                rintro name rfl
                cases Term.shift_eq_name foundFront
              rw [called_of_ne reading notName, called_of_ne reading (by rintro name ⟨⟩)]
  | tuple items _ =>
      simp only [Term.shift, bind_eq_ok] at done
      obtain ⟨results, -, ⟨⟩⟩ := done
      rfl
  | compound shape parts _ =>
      simp only [Term.shift, bind_eq_ok] at done
      obtain ⟨results, -, ⟨⟩⟩ := done
      rfl

end Reading

end Intertemporal
