import Intertemporal.Proofs.Expression.Reading
import Intertemporal.Proofs.Source.RatioFailures

/-!
# Refused equations

Reading an equation text gives an expression or says what is wrong with the text. Three failures are
no such refusals: a null character in the text, a number out of range and a division by zero.
`Expression.ofText_errsWithin` says where each of them comes from: the null character stands in the
text, an integer of the normal term is out of range, or the text calls for the powers of a written
ratio and one of them cannot be computed.
-/

namespace Intertemporal

open Source (Term)

variable {α : Type}

/-- A refusal says what is wrong with an equation text. -/
def EquationError.IsRefusal : EquationError α → Prop
  | .nullCharacter => False
  | .overflow => False
  | .zeroDivision => False
  | _ => True

/-! ### Null characters -/

namespace Source.Statement

theorem mem_of_mem_dropBlank {text : List Char} {char : Char}
    (member : char ∈ Text.dropBlank text) : char ∈ text :=
  (List.dropWhile_sublist _).mem member

theorem mem_of_mem_trim {text : List Char} {char : Char} (member : char ∈ Text.trim text) :
    char ∈ text := by
  rw [Text.trim, List.mem_reverse] at member
  exact mem_of_mem_dropBlank (List.mem_reverse.mp (mem_of_mem_dropBlank member))

theorem mem_of_mem_spellPowers {text : List Char} {char : Char} (other : char ≠ '*')
    (member : char ∈ spellPowers text) : char ∈ text := by
  obtain ⟨source, inside, written⟩ := List.mem_flatMap.mp member
  split at written
  · simp [other] at written
  · exact List.mem_singleton.mp written ▸ inside

theorem mem_of_mem_splitSides {previous : Option Char} {read text side : List Char} {char : Char}
    (member : side ∈ splitSides previous read text) (inside : char ∈ side) :
    char ∈ read ∨ char ∈ text := by
  induction text generalizing previous read with
  | nil =>
      rw [splitSides, List.mem_singleton] at member
      exact .inl (List.mem_reverse.mp (member ▸ inside))
  | cons first rest ih =>
      rw [splitSides] at member
      split at member
      · rcases List.mem_cons.mp member with rfl | later
        · exact .inl (List.mem_reverse.mp inside)
        · rcases ih later with read | text
          · cases read
          · exact .inr (List.mem_cons_of_mem _ text)
      · rcases ih member with read | text
        · rcases List.mem_cons.mp read with rfl | read
          · exact .inr List.mem_cons_self
          · exact .inl read
        · exact .inr (List.mem_cons_of_mem _ text)

/-- What stands on a side stands in the text, apart from the spelling of powers. -/
theorem mem_of_mem_sides {text side : List Char} {char : Char} (member : side ∈ sides text)
    (inside : char ∈ side) (other : char ≠ '*') : char ∈ text := by
  obtain ⟨part, split, rfl⟩ := List.mem_map.mp member
  rcases mem_of_mem_splitSides split (mem_of_mem_trim inside) with read | trimmed
  · cases read
  · exact mem_of_mem_spellPowers other (mem_of_mem_trim trimmed)

variable [Scalar α]

theorem mem_of_side_eq_nullCharacter {text : List Char}
    (failed : side text = (.error .nullCharacter : Except StatementError (Term α))) :
    '\x00' ∈ text := by
  unfold side at failed
  split at failed
  · cases failed
  · cases failed
  · rename_i found
    unfold Term.ofText at found
    split at found
    · rename_i contained
      exact List.contains_iff_mem.mp contained
    · split at found <;> cases found

/-- A text that states no residual because of a null character contains one. -/
theorem mem_of_residual_eq_nullCharacter {text : String}
    (failed : residual text = (.error .nullCharacter : Except StatementError (Term α))) :
    '\x00' ∈ text.toList := by
  unfold residual at failed
  split at failed
  · rename_i only stated
    exact mem_of_mem_sides (stated ▸ List.mem_singleton_self only)
      (mem_of_side_eq_nullCharacter failed) (by decide)
  · rename_i left right stated
    rcases bind_eq_error.mp failed with here | ⟨_, _, remaining⟩
    · exact mem_of_mem_sides (stated ▸ List.mem_cons_self) (mem_of_side_eq_nullCharacter here)
        (by decide)
    · rcases bind_eq_error.mp remaining with here | ⟨_, _, ⟨⟩⟩
      exact mem_of_mem_sides (stated ▸ List.mem_cons_of_mem _ (List.mem_singleton_self right))
        (mem_of_side_eq_nullCharacter here) (by decide)
  · cases failed

end Source.Statement

/-! ### Resolving names -/

namespace Expression

variable {symbols : SymbolTable} {place : String}

/-- An integer of a term that no scalar represents. -/
def HasHugeInteger (α : Type) [Scalar α] (term : Term α) : Prop :=
  ∃ value : Nat, .natural value ∈ term.parts ∧ Scalar.ofInt? (α := α) value = none

/-- A failure in resolving the names of a normal term. -/
def FailsFor [Scalar α] (term : Term α) (reason : EquationError α) : Prop :=
  reason.IsRefusal ∨ (reason = .overflow ∧ HasHugeInteger α term)

theorem errsWithin_ofName (name : String) :
    ErrsWithin EquationError.IsRefusal
      (ofName symbols place name : Except (EquationError α) (Expression α)) := by
  unfold ofName
  split
  · exact .error trivial
  · split
    · exact .ok
    · split
      · exact .ok
      · exact .error trivial

theorem errsWithin_ofSubscript (value index : Term α) :
    ErrsWithin EquationError.IsRefusal (ofSubscript symbols place value index) := by
  unfold ofSubscript
  split
  · exact .error trivial
  · exact .error trivial
  · split
    · split
      · exact .ok
      · exact .error trivial
    · split
      · split
        · exact .ok
        · exact .error trivial
      · exact .error trivial
  · exact .error trivial

theorem errsWithin_ofSteadyState (passed : List (Term α)) :
    ErrsWithin EquationError.IsRefusal (ofSteadyState symbols place passed) := by
  unfold ofSteadyState
  split
  · split
    · exact .ok
    · exact .error trivial
  · exact .error trivial

variable [Scalar α]

theorem FailsFor.of_child {child whole : Term α} {reason : EquationError α}
    (fails : FailsFor child reason) (member : child ∈ whole.children) : FailsFor whole reason :=
  fails.imp_right fun ⟨same, value, inside, huge⟩ =>
    ⟨same, value, Term.mem_parts_of_mem_children member inside, huge⟩

theorem errsWithin_ofTerm (term : Term α) :
    ErrsWithin (FailsFor term) (ofTerm symbols place term) := by
  induction term using Term.induction with
  | literal value =>
      rw [ofTerm]
      unfold ofLiteral
      split
      · split
        · exact .ok
        · rename_i value _ huge
          exact .error (.inr ⟨rfl, value, Term.mem_parts _, huge⟩)
      · exact .ok
      · exact .error (.inl trivial)
  | name name =>
      rw [ofTerm]
      exact (errsWithin_ofName name).mono fun _ => .inl
  | unary operator operand ih =>
      have inner : ErrsWithin (FailsFor (.unary operator operand)) (ofTerm symbols place operand) :=
        ih.mono fun _ fails => fails.of_child List.mem_cons_self
      cases operator with
      | minus => exact inner.bind fun _ _ => .ok
      | plus => exact inner
      | _ => exact .error (.inl trivial)
  | binary operator left right ihLeft ihRight =>
      rw [ofTerm]
      split
      · exact (ihLeft.mono fun _ fails => fails.of_child (by simp [Term.children])).bind fun _ _ =>
          (ihRight.mono fun _ fails => fails.of_child (by simp [Term.children])).bind fun _ _ => .ok
      · exact .error (.inl trivial)
  | subscript value index _ _ =>
      rw [ofTerm]
      exact (errsWithin_ofSubscript value index).mono fun _ => .inl
  | call function passed named _ ihPassed _ =>
      cases function with
      | name name =>
          cases named with
          | nil =>
              rw [ofTerm]
              split
              · exact (errsWithin_ofSteadyState passed).mono fun _ => .inl
              · split
                · rw [ofTerms_eq]
                  refine .bind (.mapM fun term member => ?_) fun _ _ => .ok
                  exact (ihPassed term member).mono fun _ fails => fails.of_child
                    ((Term.subset_children_call (.name name) passed []).1 member)
                · exact .error (.inl trivial)
          | cons first rest => exact .error (.inl trivial)
      | _ => exact .error (.inl trivial)
  | tuple items _ => exact .error (.inl trivial)
  | compound shape parts _ => exact .error (.inl trivial)

/-! ### Texts -/

/-- Where a failure comes from that is no refusal of the text. -/
inductive Leaks (symbols : SymbolTable) (text : String) : EquationError α → Prop
  /-- The text contains the null character. -/
  | nullCharacter (contained : '\x00' ∈ text.toList) : Leaks symbols text .nullCharacter
  /-- The expanded equation has an integer out of range. -/
  | hugeInteger {term normal : Term α} (stated : Source.Statement.residual text = .ok term)
      (expanded : term.normalize symbols.seriesNames = .ok normal)
      (huge : HasHugeInteger α normal) : Leaks symbols text .overflow
  /-- A written ratio or one of its powers is out of range. -/
  | power {term : Term α} (stated : Source.Statement.residual text = .ok term)
      (needed : (term.atCurrentDate symbols.seriesNames).NeedsFailingPower .overflow) :
      Leaks symbols text .overflow
  /-- The weights of a written ratio divide by zero. -/
  | division {term : Term α} (stated : Source.Statement.residual text = .ok term)
      (needed : (term.atCurrentDate symbols.seriesNames).NeedsFailingPower .zeroDivision) :
      Leaks symbols text .zeroDivision

/-- An equation text gives an expression or is refused, unless it contains a null character, an
integer out of range or a ratio whose powers cannot be computed. -/
theorem ofText_refuses (symbols : SymbolTable) (name text : String) {reason : EquationError α}
    (failed : ofText symbols name text = .error reason) :
    reason.IsRefusal ∨ Leaks symbols text reason := by
  rcases bind_eq_error.mp failed with unread | ⟨term, readText, remaining⟩
  · obtain ⟨found, stated, rfl⟩ := mapError_eq_error.mp unread
    cases found with
    | nullCharacter =>
        exact .inr (.nullCharacter (Source.Statement.mem_of_residual_eq_nullCharacter stated))
    | _ => exact .inl trivial
  · have stated := mapError_eq_ok.mp readText
    rcases bind_eq_error.mp remaining with unexpanded | ⟨normal, normalized, unresolved⟩
    · obtain ⟨found, expanding, rfl⟩ := mapError_eq_error.mp unexpanded
      rcases Term.errsWithin_expandOperators _ found expanding with refusal | needed
      · cases found with
        | misuse misuse => exact .inl trivial
        | timeIndex index => exact .inl trivial
        | _ => cases refusal
      · rcases needed.overflow_or_zeroDivision with rfl | rfl
        · exact .inr (.power stated needed)
        · exact .inr (.division stated needed)
    · rcases errsWithin_ofTerm normal reason unresolved with refusal | ⟨rfl, huge⟩
      · exact .inl refusal
      · exact .inr (.hugeInteger stated (mapError_eq_ok.mp normalized) huge)

/-- Weights of zero over a negative number of periods: zero is raised to the number of periods
before the window is looked at. -/
theorem exponentialAverage_of_zero (argument : Term ℝ) :
    argument.exponentialAverage (-1) (.natural 0) = .error .zeroDivision := by
  have read : Term.ratioOf (.integer 0) = (.ok 0 : Except (Operator.Failure ℝ) ℝ) := by
    simp [Term.ratioOf]
  have other : Term.isNearOne (0 : ℝ) = false := by
    simp only [isNearOne_real, isOneUpTo, ratioTolerance, Scalar.ofDecimal_real]
    norm_num
  have power : Term.powerOf (0 : ℝ) (-1) = .error .zeroDivision := by
    simp [Term.powerOf]
  refine bind_eq_error.mpr (.inr ⟨0, read, ?_⟩)
  rw [other, if_neg Bool.false_ne_true]
  exact bind_eq_error.mpr (.inl power)

set_option maxRecDepth 100000 in
theorem ofText_movavew :
    ofText (α := ℝ) seriesXY "" "movavew(x, -1, 0)" = .error .zeroDivision := by
  have stated : (Source.Statement.sides "movavew(x, -1, 0)".toList).map
      (Source.Statement.side (α := ℝ)) =
      [.ok (.call (.name "movavew") [.name "x", .unary .minus (.natural 1), .natural 0] [])] := by
    cbv
  have failed : (Term.call (.name "movavew")
      [.name "x", .unary .minus (.natural 1), .natural 0] [] : Term ℝ).normalize
      seriesXY.seriesNames = .error .zeroDivision :=
    exponentialAverage_of_zero _
  rw [ofText, Source.Statement.residual_of_side stated]
  change (do
    let normal ← Except.mapError _ (Term.normalize seriesXY.seriesNames _)
    ofTerm _ _ normal) = _
  rw [failed]
  rfl

theorem ofText_refuses_movavew :
    ofText (α := ℝ) seriesXY "" "movavew(x, -1, 0)" = .error .zeroDivision ∧
      Leaks (α := ℝ) seriesXY "movavew(x, -1, 0)" .zeroDivision :=
  ⟨ofText_movavew, (ofText_refuses seriesXY "" "movavew(x, -1, 0)" ofText_movavew).resolve_left id⟩

/-- A mean over a negative number of periods is not always refused. -/
theorem ofText_not_refused :
    ∃ reason : EquationError ℝ, ofText seriesXY "" "movavew(x, -1, 0)" = .error reason ∧
      ¬reason.IsRefusal :=
  ⟨.zeroDivision, ofText_movavew, id⟩

end Expression

end Intertemporal
