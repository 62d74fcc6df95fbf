import Intertemporal.Proofs.Expression.Resolution
import Intertemporal.Proofs.Program.Slots

/-!
# Lags of terms that resolve

A term whose names resolve can be shifted, and the names of the shifted term resolve as well: its
series stand at other dates and everything else is as it was. Whether an expression can be computed
depends on its parameters and calls alone, so the shifted expression can be computed wherever the
expression can.
-/

namespace Intertemporal

open Source (Term)

variable {α β : Type}

/-- Whether a function has a result depends on the number of its arguments only. -/
theorem Function.isSome_apply?_of_length [NumberSystem α β] (function : Function) :
    ∀ {first second : List β}, first.length = second.length →
      ( function.apply? first).isSome = ( function.apply? second).isSome
  | [], [], _ => by cases function <;> rfl
  | [_], [_], _ => by cases function <;> rfl
  | [_, _], [_, _], _ => by cases function <;> rfl
  | _ :: _ :: _ :: _, _ :: _ :: _ :: _, _ => by cases function <;> rfl

theorem Function.exists_apply_of_length [NumberSystem α β] {function : Function}
    {first second : List β} {value : β} (same : first.length = second.length)
    (computed : function.apply first = .ok value) : ∃ other, function.apply second = .ok other := by
  have alike := function.isSome_apply?_of_length same
  rw [apply_eq_ok.mp computed] at alike
  obtain ⟨other, found⟩ := Option.isSome_iff_exists.mp alike.symm
  exact ⟨other, apply_eq_ok.mpr found⟩

namespace Expression

variable {symbols : SymbolTable}

section Computed

variable [NumberSystem α β]

/-- An expression has a value, without an error. -/
def IsComputed (valuation : Valuation α β) (expression : Expression α) : Prop :=
  ∃ value, expression.valueIn valuation = .ok value

variable {valuation : Valuation α β}

theorem isComputed_minus {operand : Expression α} :
    (unary .minus operand).IsComputed valuation ↔ operand.IsComputed valuation := by
  constructor
  · rintro ⟨_, computed⟩
    obtain ⟨value, found, -⟩ := bind_eq_ok.mp computed
    exact ⟨value, found⟩
  · rintro ⟨value, found⟩
    exact ⟨_, bind_eq_ok.mpr ⟨value, found, rfl⟩⟩

theorem isComputed_binary {operation : Arithmetic} {left right : Expression α} :
    (binary operation left right).IsComputed valuation ↔
      left.IsComputed valuation ∧ right.IsComputed valuation := by
  constructor
  · rintro ⟨_, computed⟩
    obtain ⟨first, foundLeft, computed⟩ := bind_eq_ok.mp computed
    obtain ⟨second, foundRight, -⟩ := bind_eq_ok.mp computed
    exact ⟨⟨first, foundLeft⟩, second, foundRight⟩
  · rintro ⟨⟨first, foundLeft⟩, second, foundRight⟩
    exact ⟨_, bind_eq_ok.mpr ⟨first, foundLeft, bind_eq_ok.mpr ⟨second, foundRight, rfl⟩⟩⟩

theorem exists_mapM_of_alike {arguments others : List (Expression α)} {values : List β}
    (alike : List.Forall₂ (fun argument other =>
      argument.IsComputed valuation → other.IsComputed valuation) arguments others)
    (computed : arguments.mapM (valueIn valuation) = .ok values) :
    ∃ results, others.mapM (valueIn valuation) = .ok results := by
  induction alike generalizing values with
  | nil => exact ⟨[], rfl⟩
  | cons first _ ih =>
      obtain ⟨value, rest, found, remaining, -⟩ :=
        List.forall₂_cons_left_iff.mp (mapM_eq_ok.mp computed)
      obtain ⟨other, again⟩ := first ⟨value, found⟩
      obtain ⟨results, collected⟩ := ih (mapM_eq_ok.mpr remaining)
      exact ⟨other :: results, mapM_eq_ok.mpr (.cons again (mapM_eq_ok.mp collected))⟩

/-- A call can be computed with other arguments that can be computed. -/
theorem IsComputed.call {function : Function} {arguments others : List (Expression α)}
    (computed : (Expression.call function arguments).IsComputed valuation)
    (alike : List.Forall₂ (fun argument other =>
      argument.IsComputed valuation → other.IsComputed valuation) arguments others) :
    (Expression.call function others).IsComputed valuation := by
  obtain ⟨_, computed⟩ := computed
  rw [valueIn, valuesIn_eq_mapM] at computed
  obtain ⟨values, found, applied⟩ := bind_eq_ok.mp computed
  obtain ⟨results, again⟩ := exists_mapM_of_alike alike found
  have same : values.length = results.length :=
    (mapM_eq_ok.mp found).length_eq.symm.trans
      (alike.length_eq.trans (mapM_eq_ok.mp again).length_eq)
  obtain ⟨value, done⟩ := Function.exists_apply_of_length same applied
  refine ⟨value, ?_⟩
  rw [valueIn, valuesIn_eq_mapM]
  exact bind_eq_ok.mpr ⟨results, again, done⟩

end Computed

/-! ### Shifting -/

theorem shift_call {name : String} {passed others : List (Term α)} {periods : Int}
    (done : passed.mapM (Term.shift periods) = .ok others) :
    (Term.call (.name name) passed []).shift periods = .ok (.call (.name name) others []) := by
  rw [Term.shift, Term.shiftAll_eq]
  exact bind_eq_ok.mpr ⟨_, rfl, bind_eq_ok.mpr ⟨others, done, rfl⟩⟩

variable [Scalar α] [NumberSystem α β]

theorem exists_mapM_shift {valuation : Valuation α β} {periods : Int} {terms : List (Term α)}
    {expressions : List (Expression α)}
    (each : List.Forall₂ (fun term expression => ∃ shifted moved,
      term.shift periods = .ok shifted ∧ shifted.ResolvesTo symbols moved ∧
        (expression.IsComputed valuation → moved.IsComputed valuation)) terms expressions) :
    ∃ shifted moved, terms.mapM (Term.shift periods) = .ok shifted ∧
      List.Forall₂ (Term.ResolvesTo symbols) shifted moved ∧
      List.Forall₂ (fun expression other =>
        expression.IsComputed valuation → other.IsComputed valuation) expressions moved := by
  induction each with
  | nil => exact ⟨[], [], rfl, .nil, .nil⟩
  | cons here _ ih =>
      obtain ⟨shifted, moved, done, again, computed⟩ := here
      obtain ⟨shiftedRest, movedRest, doneRest, againRest, computedRest⟩ := ih
      exact ⟨shifted :: shiftedRest, moved :: movedRest,
        mapM_eq_ok.mpr (.cons done (mapM_eq_ok.mp doneRest)), .cons again againRest,
        .cons computed computedRest⟩

/-- A term that resolves can be shifted, and the shifted term resolves to something that can be
computed if the term can. -/
theorem exists_shift_of_resolvesTo {term : Term α} {expression : Expression α}
    (resolves : term.ResolvesTo symbols expression) (valuation : Valuation α β) (periods : Int) :
    ∃ shifted moved, term.shift periods = .ok shifted ∧ shifted.ResolvesTo symbols moved ∧
      (expression.IsComputed valuation → moved.IsComputed valuation) := by
  induction resolves using Term.ResolvesTo.induction with
  | integer inRange => exact ⟨_, _, rfl, .integer inRange, id⟩
  | real value => exact ⟨_, _, rfl, .real value, id⟩
  | parameter timeless declared => exact ⟨_, _, rfl, .parameter timeless declared, id⟩
  | series timeless noParameter declared =>
      exact ⟨_, _, rfl, .series timeless noParameter declared, id⟩
  | @dated name _ offset declared read =>
      refine ⟨_, .series ⟨name, offset - periods⟩, ?_,
        .dated declared (Term.offset?_ofOffset _), fun _ => ⟨_, rfl⟩⟩
      rw [Term.shift_subscript, Term.shiftPosition_of_offset? read]
      rfl
  | element noSeries declared read =>
      refine ⟨_, _, ?_, .element noSeries declared read, id⟩
      rw [Term.shift_subscript, Term.shiftPosition_of_integer? read]
      rfl
  | steadyState declared =>
      -- The argument of `sstate` is a name, and names do not move.
      exact ⟨_, _, shift_call rfl, .steadyState declared, id⟩
  | minus _ ih =>
      obtain ⟨shifted, moved, done, again, computed⟩ := ih
      exact ⟨_, _, bind_eq_ok.mpr ⟨shifted, done, rfl⟩, .minus again,
        fun negated => isComputed_minus.mpr (computed (isComputed_minus.mp negated))⟩
  | plus _ ih =>
      obtain ⟨shifted, moved, done, again, computed⟩ := ih
      exact ⟨_, _, bind_eq_ok.mpr ⟨shifted, done, rfl⟩, .plus again, computed⟩
  | binary known _ _ ihLeft ihRight =>
      obtain ⟨shiftedLeft, movedLeft, doneLeft, againLeft, computedLeft⟩ := ihLeft
      obtain ⟨shiftedRight, movedRight, doneRight, againRight, computedRight⟩ := ihRight
      refine ⟨_, _, bind_eq_ok.mpr ⟨_, doneLeft, bind_eq_ok.mpr ⟨_, doneRight, rfl⟩⟩,
        .binary known againLeft againRight, ?_⟩
      simp only [isComputed_binary]
      exact And.imp computedLeft computedRight
  | call known _ ih =>
      obtain ⟨others, moved, done, again, computed⟩ :=
        exists_mapM_shift (ih.imp fun _ _ here => here.snd)
      exact ⟨_, _, shift_call done, .call known again, fun called => called.call computed⟩

end Expression

end Intertemporal
