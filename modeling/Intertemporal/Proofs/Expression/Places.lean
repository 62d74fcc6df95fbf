import Intertemporal.Proofs.Expression.Reading

/-!
# Places

Reading an equation takes the place at which it stands, to quote it in messages. Whether the
equation is read, and as which expression, does not depend on the place.
-/

namespace Intertemporal

namespace Expression

open Source (Term)

variable {α : Type} [Scalar α] (symbols : SymbolTable)

/-- A term is read alike at all places. -/
theorem toOption_ofTerm_place (place other : String) (term : Term α) :
    (ofTerm symbols place term).toOption = (ofTerm symbols other term).toOption := by
  refine Option.ext fun expression => ?_
  rw [toOption_eq_some, toOption_eq_some, ofTerm_eq_ok, ofTerm_eq_ok]

/-- A text states the same expression under all names. -/
theorem toOption_ofText_name (name otherName text : String) :
    (ofText symbols name text : Except (EquationError α) _).toOption =
      (ofText symbols otherName text : Except (EquationError α) _).toOption := by
  simp only [ofText, toOption_bind, toOption_mapError, toOption_ofTerm_place symbols _ ""]

/-- A text that is read under one name is read under every other. -/
theorem ofText_of_name {name text : String} {expression : Expression α}
    (read : ofText symbols name text = .ok expression) (otherName : String) :
    ofText symbols otherName text = .ok expression := by
  have alike := toOption_ofText_name (α := α) symbols otherName name text
  rw [read] at alike
  rcases again : ofText symbols otherName text with _ | found
  · rw [again] at alike
    cases alike
  · rw [again] at alike
    exact congrArg Except.ok (Option.some.inj alike)

end Expression

end Intertemporal
