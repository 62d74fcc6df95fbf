import Intertemporal.Proofs.Program.Morphisms
import Intertemporal.Proofs.Program.Passes
import Intertemporal.Proofs.Program.Simulations

/-!
# Derivatives that are zero in the beginning

The rules of differentiation multiply the derivatives of their operands by factors that depend on
the values. At the edge of a domain a factor may be no number, and zero times such a factor is no
zero. So derivatives that are all zero in the beginning may come out as something else, and whether
they do depends on the point.

An idle jet stands for a jet whose derivative was zero in the beginning. It holds no derivative, but
it knows whether all rules that the derivative rests on have taken zeros to zero. If so, the
derivative is zero whatever the laws of the scalars are; if not, it is undefined, provided that an
undefined scalar makes everything undefined that is computed from it (`isSimulation_follows`).
-/

namespace Intertemporal

variable {α : Type} [Scalar α]

/-- Scalars with a zero that nothing but an undefined factor can change, and an undefined scalar
that nothing can change. -/
structure Scalar.IsAbsorbing (α : Type) [Scalar α] : Prop where
  zero_ne : (zero : α) ≠ undefined
  neg_zero : -(zero : α) = zero
  zero_add : (zero : α) + zero = zero
  zero_sub : (zero : α) - zero = zero
  zero_mul : ∀ factor : α, zero * factor = zero ∨ zero * factor = undefined
  zero_div : ∀ divisor : α, zero / divisor = zero ∨ zero / divisor = undefined
  neg : -(undefined : α) = undefined
  add_left : ∀ scalar : α, undefined + scalar = undefined
  add_right : ∀ scalar : α, scalar + undefined = undefined
  sub_left : ∀ scalar : α, undefined - scalar = undefined
  sub_right : ∀ scalar : α, scalar - undefined = undefined
  mul : ∀ factor : α, undefined * factor = undefined
  div : ∀ divisor : α, undefined / divisor = undefined

namespace Scalar

/-- A property of derivatives that lasts while they are multiplied by factors. -/
structure IsScalable (property : α → Prop) : Prop where
  neg : ∀ {scalar}, property scalar → property (-scalar)
  mul : ∀ {scalar} (factor : α), property scalar → property (scalar * factor)
  div : ∀ {scalar} (divisor : α), property scalar → property (scalar / divisor)

/-- Properties of two derivatives that give one of their sum and of their difference, and all of
which last while derivatives are multiplied by factors. -/
structure Combines (first second both : α → Prop) : Prop where
  scaleFirst : IsScalable first
  scaleSecond : IsScalable second
  scaleBoth : IsScalable both
  add : ∀ {scalar other}, first scalar → second other → both (scalar + other)
  sub : ∀ {scalar other}, first scalar → second other → both (scalar - other)

/-- What can come of a zero. -/
def IsFaint (scalar : α) : Prop := scalar = zero ∨ scalar = undefined

/-- Anything at all. -/
def IsAny (_ : α) : Prop := True

theorem isScalable_isAny : IsScalable (IsAny : α → Prop) where
  neg := id
  mul _ := id
  div _ := id

end Scalar

namespace Scalar.IsAbsorbing

variable (absorbing : IsAbsorbing α)

include absorbing

theorem isScalable_isFaint : IsScalable (IsFaint : α → Prop) where
  neg := by
    rintro _ (rfl | rfl)
    · exact .inl absorbing.neg_zero
    · exact .inr absorbing.neg
  mul factor := by
    rintro (rfl | rfl)
    · exact absorbing.zero_mul factor
    · exact .inr (absorbing.mul factor)
  div divisor := by
    rintro (rfl | rfl)
    · exact absorbing.zero_div divisor
    · exact .inr (absorbing.div divisor)

theorem isScalable_undefined : IsScalable (· = (undefined : α)) where
  neg := by
    rintro _ rfl
    exact absorbing.neg
  mul factor := by
    rintro rfl
    exact absorbing.mul factor
  div divisor := by
    rintro rfl
    exact absorbing.div divisor

theorem combines_isFaint : Combines (IsFaint : α → Prop) IsFaint IsFaint where
  scaleFirst := absorbing.isScalable_isFaint
  scaleSecond := absorbing.isScalable_isFaint
  scaleBoth := absorbing.isScalable_isFaint
  add := by
    rintro _ _ (rfl | rfl) (rfl | rfl)
    · exact .inl absorbing.zero_add
    · exact .inr (absorbing.add_right _)
    all_goals exact .inr (absorbing.add_left _)
  sub := by
    rintro _ _ (rfl | rfl) (rfl | rfl)
    · exact .inl absorbing.zero_sub
    · exact .inr (absorbing.sub_right _)
    all_goals exact .inr (absorbing.sub_left _)

theorem combines_undefined_left :
    Combines (· = (undefined : α)) IsAny (· = (undefined : α)) where
  scaleFirst := absorbing.isScalable_undefined
  scaleSecond := isScalable_isAny
  scaleBoth := absorbing.isScalable_undefined
  add := by
    rintro _ other rfl -
    exact absorbing.add_left other
  sub := by
    rintro _ other rfl -
    exact absorbing.sub_left other

theorem combines_undefined_right :
    Combines IsAny (· = (undefined : α)) (· = (undefined : α)) where
  scaleFirst := isScalable_isAny
  scaleSecond := absorbing.isScalable_undefined
  scaleBoth := absorbing.isScalable_undefined
  add := by
    rintro scalar _ - rfl
    exact absorbing.add_right scalar
  sub := by
    rintro scalar _ - rfl
    exact absorbing.sub_right scalar

end Scalar.IsAbsorbing

/-- The item of a vector that holds no other. -/
def sole {β : Type} (items : Vector β 1) : β := items.get ⟨0, Nat.one_pos⟩

section Sole

variable {β γ δ : Type}

@[simp]
theorem sole_map (change : β → γ) (items : Vector β 1) :
    sole (items.map change) = change (sole items) := Vector.getElem_map change Nat.one_pos

@[simp]
theorem sole_zipWith (combine : β → γ → δ) (items : Vector β 1) (others : Vector γ 1) :
    sole (Vector.zipWith combine items others) = combine (sole items) (sole others) :=
  Vector.getElem_zipWith Nat.one_pos

@[simp]
theorem sole_singleton (item : β) : sole #v[item] = item := rfl

end Sole

namespace Dual

variable {operand left right : Dual α 1} {property first second both : α → Prop}

theorem arithmeticPlain_scaled (scalable : Scalar.IsScalable property) (operation : Arithmetic)
    (holds : property (sole operand.partials)) (constant : α) :
    property (sole (arithmeticPlain operation operand constant).partials) := by
  cases operation with
  | add => exact holds
  | sub => exact holds
  | mul => simpa [arithmeticPlain, mulPlain, scaled] using scalable.mul _ holds
  | div => simpa [arithmeticPlain, divPlain] using scalable.div _ holds
  | power =>
      simp only [arithmeticPlain, powerPlain]
      split <;> simpa [scaled] using scalable.mul _ holds

theorem plainArithmetic_scaled (scalable : Scalar.IsScalable property) (operation : Arithmetic)
    (constant : α) (holds : property (sole operand.partials)) :
    property (sole (plainArithmetic operation constant operand).partials) := by
  cases operation with
  | add => exact holds
  | sub => simpa [plainArithmetic, plainSub, negated] using scalable.neg holds
  | mul => simpa [plainArithmetic, mulPlain, scaled] using scalable.mul _ holds
  | div =>
      simpa [plainArithmetic, plainDiv, scaled, negated]
        using scalable.mul _ (scalable.neg holds)
  | power =>
      simp only [plainArithmetic, plainPower]
      split <;> simpa [scaled] using scalable.mul _ holds

/-- A power has no use for the derivative of its exponent if its base is not positive. -/
theorem arithmetic_combined (combines : Scalar.Combines first second both)
    {operation : Arithmetic}
    (alone : operation = .power → ¬Scalar.isPositive left.value = true →
      ∀ {scalar}, first scalar → both scalar)
    (holds : first (sole left.partials)) (holdsRight : second (sole right.partials)) :
    both (sole (arithmetic operation left right).partials) := by
  cases operation with
  | add => simpa [arithmetic, add, added] using combines.add holds holdsRight
  | sub => simpa [arithmetic, sub, subtracted] using combines.sub holds holdsRight
  | mul =>
      simpa [arithmetic, mul, added, scaled]
        using combines.add (combines.scaleFirst.mul _ holds) (combines.scaleSecond.mul _ holdsRight)
  | div =>
      simpa [arithmetic, div, subtracted, scaled]
        using combines.scaleBoth.div _ (combines.sub holds (combines.scaleSecond.mul _ holdsRight))
  | power =>
      simp only [arithmetic, power]
      split
      · simpa [added, scaled] using combines.add (combines.scaleFirst.mul _ holds)
          (combines.scaleSecond.mul _ holdsRight)
      · rename_i notPositive
        simpa [scaled] using alone rfl notPositive (combines.scaleFirst.mul _ holds)

end Dual

namespace Jet

/-- A jet whose derivative is zero. -/
def IsIdle (jet : Jet α 1) : Prop := sole jet.partials = Scalar.zero

/-- A jet with a derivative that is not written down, taken to be zero. -/
def idle : Jet α 0 → Jet α 1
  | .plain value => .plain value
  | .dual operand => .dual ⟨operand.value, Gradient.unseeded 1⟩

/-- A jet without its derivatives. -/
def bare {size : Nat} (jet : Jet α size) : Jet α 0 := jet.restrict Fin.elim0

/-- Whether a rule has a use for the derivative of its right operand. A power has none if the base
is a dual that is not positive. -/
def UsesRight (operation : Arithmetic) (left : Jet α 0) : Prop :=
  match operation, left with
  | .power, .dual base => Scalar.isPositive base.value = true
  | _, _ => True

end Jet

/-- A jet in a pass over an input that it does not move with: its value, and whether its derivative
has stayed zero. -/
structure IdleJet (α : Type) where
  jet : Jet α 0
  stays : Prop

namespace IdleJet

/-- An input that is not seeded. -/
def input (value : α) : IdleJet α := ⟨.dual ⟨value, #v[]⟩, True⟩

/-- Zero is taken to zero by a rule if it comes out when all derivatives are zero. -/
instance : NumberSystem α (IdleJet α) where
  constant value := ⟨.plain value, True⟩
  negate operand := ⟨operand.jet.negate, operand.stays ∧ operand.jet.idle.negate.IsIdle⟩
  arithmetic operation left right :=
    ⟨Jet.arithmetic operation left.jet right.jet,
      left.stays ∧ (Jet.UsesRight operation left.jet → right.stays) ∧
        (Jet.arithmetic operation left.jet.idle right.jet.idle).IsIdle⟩
  elementary function argument :=
    ⟨Jet.elementary function argument.jet,
      argument.stays ∧ (Jet.elementary function argument.jet.idle).IsIdle⟩
  smaller left right := if Scalar.le left.jet.value right.jet.value then left else right
  larger left right := if Scalar.le right.jet.value left.jet.value then left else right

end IdleJet

namespace Jet

section Idle

variable {jet left right : Jet α 1}

theorem eq_idle (still : jet.IsIdle) : jet = jet.bare.idle := by
  cases jet with
  | plain value => rfl
  | dual operand =>
      obtain ⟨value, partials⟩ := operand
      refine congrArg (fun partials => dual ⟨value, partials⟩) (Vector.ext fun place inRange => ?_)
      obtain rfl : place = 0 := by omega
      rw [Gradient.unseeded, Vector.getElem_replicate]
      exact still

/-- What a rule has no use for may be taken to be zero. -/
theorem arithmetic_idle_right {operation : Arithmetic}
    (unused : ¬UsesRight operation left.bare) :
    arithmetic operation left right = arithmetic operation left right.bare.idle := by
  cases right with
  | plain value => rfl
  | dual exponent =>
      cases left with
      | plain base => cases operation <;> exact absurd trivial unused
      | dual base =>
          cases operation with
          | power =>
              have notPositive : ¬Scalar.isPositive base.value = true := unused
              simp only [arithmetic, Dual.arithmetic, Dual.power, notPositive, bare, restrict,
                Dual.restrict, idle]
              rfl
          | _ => exact absurd trivial unused

end Idle

section Rules

open Scalar (IsFaint undefined)

variable {jet left right : Jet α 1} {property : α → Prop}

theorem isFaint_plain (value : α) : IsFaint (sole (plain value : Jet α 1).partials) :=
  .inl (by simp [partials])

theorem negate_scaled (scalable : Scalar.IsScalable property)
    (holds : property (sole jet.partials)) : property (sole jet.negate.partials) := by
  cases jet with
  | plain value => exact holds
  | dual operand => simpa [negate, partials, Dual.negate, Dual.negated] using scalable.neg holds

theorem elementary_scaled (scalable : Scalar.IsScalable property) (function : Elementary)
    (holds : property (sole jet.partials)) :
    property (sole (elementary function jet).partials) := by
  cases jet with
  | plain value => exact holds
  | dual operand =>
      simpa [elementary, partials, Dual.elementary, Dual.scaled] using scalable.mul _ holds

variable (absorbing : Scalar.IsAbsorbing α)

include absorbing

theorem isFaint_arithmetic (operation : Arithmetic) (faintLeft : IsFaint (sole left.partials))
    (faintRight : IsFaint (sole right.partials)) :
    IsFaint (sole (arithmetic operation left right).partials) := by
  have scalable := absorbing.isScalable_isFaint
  cases left with
  | plain value =>
      cases right with
      | plain other => exact isFaint_plain _
      | dual operand => exact Dual.plainArithmetic_scaled scalable operation value faintRight
  | dual operand =>
      cases right with
      | plain value => exact Dual.arithmeticPlain_scaled scalable operation faintLeft value
      | dual other =>
          exact Dual.arithmetic_combined absorbing.combines_isFaint (fun _ _ _ => id) faintLeft
            faintRight

theorem exists_dual_of_undefined (lost : sole jet.partials = undefined) :
    ∃ operand : Dual α 1, jet = .dual operand ∧ sole operand.partials = undefined := by
  cases jet with
  | plain value => exact absurd (by simpa [partials] using lost) absorbing.zero_ne
  | dual operand => exact ⟨operand, rfl, lost⟩

/-- Every rule has a use for the derivative of its left operand. -/
theorem arithmetic_undefined_left (operation : Arithmetic)
    (lost : sole left.partials = undefined) :
    sole (arithmetic operation left right).partials = undefined := by
  obtain ⟨operand, rfl, here⟩ := exists_dual_of_undefined absorbing lost
  cases right with
  | plain value =>
      exact Dual.arithmeticPlain_scaled absorbing.isScalable_undefined operation here value
  | dual other =>
      exact Dual.arithmetic_combined absorbing.combines_undefined_left (fun _ _ _ => id) here
        trivial

theorem arithmetic_undefined_right {operation : Arithmetic}
    (used : UsesRight operation left.bare) (lost : sole right.partials = undefined) :
    sole (arithmetic operation left right).partials = undefined := by
  obtain ⟨operand, rfl, here⟩ := exists_dual_of_undefined absorbing lost
  cases left with
  | plain value =>
      exact Dual.plainArithmetic_scaled absorbing.isScalable_undefined operation value here
  | dual other =>
      refine Dual.arithmetic_combined absorbing.combines_undefined_right ?_ trivial here
      rintro rfl notPositive
      exact absurd used notPositive

end Rules

end Jet

namespace IdleJet

/-- A jet in a pass over an input that it does not move with, and the idle jet that stands for
it. -/
structure Follows (idle : IdleJet α) (jet : Jet α 1) : Prop where
  bare_eq : jet.bare = idle.jet
  isIdle : idle.stays → jet.IsIdle
  lost : Scalar.IsAbsorbing α → ¬idle.stays → sole jet.partials = Scalar.undefined

namespace Follows

variable {idle other : IdleJet α} {jet left right : Jet α 1}

theorem eq_idle (follows : idle.Follows jet) (stays : idle.stays) : jet = idle.jet.idle :=
  follows.bare_eq ▸ Jet.eq_idle (follows.isIdle stays)

theorem isFaint (follows : idle.Follows jet) (absorbing : Scalar.IsAbsorbing α) :
    Scalar.IsFaint (sole jet.partials) := by
  by_cases stays : idle.stays
  · exact .inl (follows.isIdle stays)
  · exact .inr (follows.lost absorbing stays)

theorem value_eq (follows : idle.Follows jet) : jet.value = idle.jet.value := by
  rw [← follows.bare_eq]
  exact (Jet.value_restrict Fin.elim0 jet).symm

theorem input (value : α) :
    (IdleJet.input value).Follows (.dual ⟨value, Gradient.unseeded 1⟩) where
  bare_eq := by
    refine congrArg (fun partials => Jet.dual ⟨value, partials⟩) (Vector.ext fun place none => ?_)
    cases none
  isIdle _ := by simp [Jet.IsIdle, Jet.partials, Gradient.unseeded]
  lost _ moved := absurd trivial moved

theorem constant (value : α) :
    (NumberSystem.constant value : IdleJet α).Follows (NumberSystem.constant value) where
  bare_eq := rfl
  isIdle _ := by simp [Jet.IsIdle, NumberSystem.constant, Jet.partials]
  lost _ moved := absurd trivial moved

theorem negate (follows : idle.Follows jet) :
    (NumberSystem.negate idle).Follows (NumberSystem.negate jet) where
  bare_eq := by
    rw [Jet.bare, (Jet.isMorphism_restrict _).negate]
    exact congrArg Jet.negate follows.bare_eq
  isIdle := by
    rintro ⟨stays, zero⟩
    rw [follows.eq_idle stays]
    exact zero
  lost absorbing moved := by
    by_cases stays : idle.stays
    · have faint := Jet.negate_scaled absorbing.isScalable_isFaint (follows.isFaint absorbing)
      refine faint.resolve_left fun zero => moved ⟨stays, ?_⟩
      rw [← follows.eq_idle stays]
      exact zero
    · exact Jet.negate_scaled absorbing.isScalable_undefined (follows.lost absorbing stays)

theorem elementary (function : Elementary) (follows : idle.Follows jet) :
    (NumberSystem.elementary function idle).Follows (NumberSystem.elementary function jet) where
  bare_eq := by
    rw [Jet.bare, (Jet.isMorphism_restrict _).elementary]
    exact congrArg (Jet.elementary function) follows.bare_eq
  isIdle := by
    rintro ⟨stays, zero⟩
    rw [follows.eq_idle stays]
    exact zero
  lost absorbing moved := by
    by_cases stays : idle.stays
    · have faint := Jet.elementary_scaled absorbing.isScalable_isFaint function
        (follows.isFaint absorbing)
      refine faint.resolve_left fun zero => moved ⟨stays, ?_⟩
      rw [← follows.eq_idle stays]
      exact zero
    · exact Jet.elementary_scaled absorbing.isScalable_undefined function
        (follows.lost absorbing stays)

variable (followsLeft : idle.Follows left) (followsRight : other.Follows right)

include followsLeft followsRight

theorem arithmetic_eq {operation : Arithmetic} (stays : idle.stays)
    (staysRight : Jet.UsesRight operation idle.jet → other.stays) :
    Jet.arithmetic operation left right =
      Jet.arithmetic operation idle.jet.idle other.jet.idle := by
  by_cases used : Jet.UsesRight operation idle.jet
  · rw [followsLeft.eq_idle stays, followsRight.eq_idle (staysRight used)]
  · rw [Jet.arithmetic_idle_right (followsLeft.bare_eq ▸ used), followsRight.bare_eq,
      followsLeft.eq_idle stays]

theorem arithmetic (operation : Arithmetic) :
    (NumberSystem.arithmetic operation idle other).Follows
      (NumberSystem.arithmetic operation left right) where
  bare_eq := by
    rw [Jet.bare, (Jet.isMorphism_restrict _).arithmetic]
    exact congrArg₂ (Jet.arithmetic operation) followsLeft.bare_eq followsRight.bare_eq
  isIdle := by
    rintro ⟨stays, staysRight, zero⟩
    rw [Jet.IsIdle, ← arithmetic_eq followsLeft followsRight stays staysRight] at zero
    exact zero
  lost absorbing moved := by
    by_cases stays : idle.stays
    · by_cases staysRight : Jet.UsesRight operation idle.jet → other.stays
      · have faint := Jet.isFaint_arithmetic absorbing operation (followsLeft.isFaint absorbing)
          (followsRight.isFaint absorbing)
        refine faint.resolve_left fun zero => moved ⟨stays, staysRight, ?_⟩
        rw [← arithmetic_eq followsLeft followsRight stays staysRight]
        exact zero
      · obtain ⟨used, movesRight⟩ := Classical.not_imp.mp staysRight
        exact Jet.arithmetic_undefined_right absorbing (followsLeft.bare_eq ▸ used)
          (followsRight.lost absorbing movesRight)
    · exact Jet.arithmetic_undefined_left absorbing operation (followsLeft.lost absorbing stays)

theorem smaller : (NumberSystem.smaller idle other).Follows (NumberSystem.smaller left right) := by
  simp only [NumberSystem.smaller, Jet.smaller, followsLeft.value_eq, followsRight.value_eq]
  split
  · exact followsLeft
  · exact followsRight

theorem larger : (NumberSystem.larger idle other).Follows (NumberSystem.larger left right) := by
  simp only [NumberSystem.larger, Jet.larger, followsLeft.value_eq, followsRight.value_eq]
  split
  · exact followsLeft
  · exact followsRight

end Follows

/-- What an idle jet knows is kept by every operation. -/
theorem isSimulation_follows : NumberSystem.IsSimulation (Follows (α := α)) where
  constant := Follows.constant
  negate follows := follows.negate
  arithmetic operation _ _ _ _ left right := left.arithmetic right operation
  elementary function _ _ follows := follows.elementary function
  smaller left right := left.smaller right
  larger left right := left.larger right

end IdleJet

end Intertemporal
