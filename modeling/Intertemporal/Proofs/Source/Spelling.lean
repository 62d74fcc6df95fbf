import Intertemporal.Proofs.Source.Shifts

/-!
# Spellings

In a still reading a meaning knows the number or the name that its term is spelled as, and a term
that is spelled as a number has the constant path of the number.
-/

namespace Intertemporal

open Source (Term Literal)

namespace Meaning

@[simp]
theorem number?_ofPath (path : Option Path) : (ofPath path).number? = none := rfl

@[simp]
theorem number?_nothing : nothing.number? = none := rfl

theorem number?_of_spelling (path : Option Path) (found : Option (Term.Quantity ℝ)) :
    (Meaning.mk path (found.map .number)).number? = found := by
  cases found <;> rfl

end Meaning

namespace Source.Term

theorem integer?_eq (term : Term ℝ) :
    term.integer? = term.number?.bind fun
      | .integer value => some value
      | .real _ => none := by
  induction term using induction with
  | literal value => cases value <;> rfl
  | unary operator operand ih =>
      cases operator with
      | plus => exact ih
      | minus =>
          rw [integer?, number?, ih]
          rcases operand.number? with _ | (value | value) <;> rfl
      | _ => rfl
  | _ => rfl

end Source.Term

namespace Reading

variable {reading : Reading}

theorem spelling_called (still : reading.IsStill) (function : Term ℝ) (passed : List (Term ℝ))
    (arguments : List Meaning) : (reading.called function passed arguments).spelling = none := by
  cases function with
  | name name =>
      simp only [called]
      split
      · rfl
      · split
        · rw [still.operated]
          rfl
        · rfl
        · rfl
  | _ => rfl

theorem number?_meaning (still : reading.IsStill) (term : Term ℝ) :
    (reading.meaning term).number? = term.number? := by
  induction term using Term.induction with
  | literal value => cases value <;> rfl
  | name name =>
      rw [meaning, Meaning.number?, still.spelling]
      rfl
  | unary operator operand ih =>
      rw [meaning]
      cases operator with
      | plus => rw [Meaning.signed, Meaning.number?_of_spelling, ih, Term.number?]
      | minus =>
          rw [Meaning.signed, Term.number?, ← ih]
          rcases (reading.meaning operand).number? with _ | quantity <;> rfl
      | _ => rfl
  | binary operator left right _ _ => rfl
  | subscript value index _ _ =>
      cases value with
      | name name => rfl
      | _ =>
          rw [meaning_subscript_of_ne reading (by rintro name ⟨⟩)]
          rfl
  | call function passed named _ _ _ =>
      cases named with
      | nil =>
          rw [meaning_call, Meaning.number?, spelling_called still]
          rfl
      | cons first rest =>
          rw [meaning_call_of_ne reading _ _ (List.cons_ne_nil first rest)]
          rfl
  | tuple items _ => rfl
  | compound shape parts _ => rfl

theorem integer?_meaning (still : reading.IsStill) (term : Term ℝ) :
    (reading.meaning term).integer? = term.integer? := by
  rw [Meaning.integer?, number?_meaning still, Term.integer?_eq]
  rcases term.number? with _ | (value | value) <;> rfl

theorem name?_meaning_name (still : reading.IsStill) (name : String) :
    (reading.meaning (.name name)).name? = some name := by
  rw [meaning, Meaning.name?, still.spelling]

/-- Only a name is spelled as a name. -/
theorem name?_meaning_of_ne (still : reading.IsStill) {term : Term ℝ}
    (notName : ∀ name, term ≠ .name name) : (reading.meaning term).name? = none := by
  cases term with
  | literal value => cases value <;> rfl
  | name name => exact absurd rfl (notName name)
  | unary operator operand =>
      rw [meaning]
      cases operator with
      | plus | minus =>
          rw [Meaning.signed, Meaning.name?]
          rcases (reading.meaning operand).number? with _ | quantity <;> rfl
      | _ => rfl
  | subscript value index =>
      cases value with
      | name name => rfl
      | _ =>
          rw [meaning_subscript_of_ne reading (by rintro name ⟨⟩)]
          rfl
  | call function passed named =>
      cases named with
      | nil =>
          rw [meaning_call, Meaning.name?, spelling_called still]
      | cons first rest =>
          rw [meaning_call_of_ne reading _ _ (List.cons_ne_nil first rest)]
          rfl
  | _ => rfl

/-- What is spelled as a number has the value of the number at every date. -/
theorem path_of_number? (reading : Reading) {term : Term ℝ} {quantity : Term.Quantity ℝ}
    (spelled : term.number? = some quantity) :
    (reading.meaning term).path = some (.constant quantity.value) := by
  induction term using Term.induction generalizing quantity with
  | literal value =>
      cases value with
      | natural value =>
          cases spelled
          rw [meaning, Meaning.ofLiteral, Term.Quantity.value, Int.cast_natCast]
      | real value =>
          cases spelled
          rfl
      | _ => cases spelled
  | unary operator operand ih =>
      cases operator with
      | plus => exact ih spelled
      | minus =>
          obtain ⟨positive, found, rfl⟩ := Option.map_eq_some_iff.mp spelled
          rw [meaning, Meaning.signed, ih found]
          cases positive with
          | integer value =>
              simp only [Option.map_some, Term.Quantity.negate, Term.Quantity.value, Int.cast_neg]
              rfl
          | real value => rfl
      | _ => cases spelled
  | _ => cases spelled

end Reading

end Intertemporal
