import Intertemporal.Decimal.Layout
import Intertemporal.Proofs.Source.Numerals

/-!
# Decimal numbers in equation text

The layout in which expressions show numbers writes a decimal point or an exponent into every one of
them. A number in this layout is read to its end, as a real number.
-/

namespace Intertemporal

/-- At least one digit, and nothing else. -/
structure Source.Token.AreDigits (digits : List Char) : Prop where
  given : digits ≠ []
  decimal : ∀ char ∈ digits, char.isDigit = true

namespace Decimal.Digits

open Source.Token (AreDigits)

/-! ### Digits of a double -/

theorem areDigits_ofCoefficient (coefficient : Nat) (exponent : Int) :
    AreDigits (ofCoefficient coefficient exponent).digits where
  given := Nat.toDigits_ne_nil
  decimal _ member := Nat.isDigit_of_mem_toDigits (by decide) (by decide) member

theorem areDigits_zero : AreDigits ['0'] where
  given := List.cons_ne_nil _ _
  decimal := List.forall_mem_singleton.mpr rfl

theorem areDigits_trim {value : Digits} (digits : AreDigits value.digits) :
    AreDigits value.trim.digits := by
  unfold trim
  dsimp only
  split
  · exact areDigits_zero
  · rename_i given
    refine ⟨fun none => given (List.isEmpty_iff.mpr none), fun char member => ?_⟩
    rw [List.mem_reverse] at member
    exact digits.decimal char (List.mem_reverse.mp ((List.dropWhile_sublist _).mem member))

theorem areDigits_significant (count significand : Nat) (exponent : Int) :
    AreDigits (significant count significand exponent).digits := by
  unfold significant
  dsimp only
  split <;> exact areDigits_ofCoefficient _ _

theorem areDigits_of_withCount? {significand : Nat} {exponent leading : Int} {count : Nat}
    {value : Digits} (found : withCount? significand exponent leading count = some value) :
    AreDigits value.digits := by
  rcases ite_eq_iff.mp found with ⟨_, nearest⟩ | ⟨_, others⟩
  · cases nearest
    exact areDigits_ofCoefficient _ _
  · rcases ite_eq_iff.mp others with ⟨_, other⟩ | ⟨_, none⟩
    · cases other
      exact areDigits_ofCoefficient _ _
    · cases none

/-- The digits of a double are digits. -/
theorem areDigits_shortest (significand : Nat) (exponent : Int) :
    AreDigits (shortest significand exponent).digits := by
  unfold shortest
  dsimp only
  split
  · rename_i found
    rcases List.exists_of_findSome?_eq_some found with ⟨count, _, here⟩
    exact areDigits_trim (areDigits_of_withCount? here)
  · exact areDigits_trim (areDigits_significant _ _ _)

end Decimal.Digits

namespace Source.Token

open Decimal (Digits Layout)

/-! ### Written numbers -/

/-- Numbers with a fraction, an exponent or both. -/
inductive IsDecimalText : List Char → Prop
  | point {whole digits : List Char} (first : AreDigits whole) (second : AreDigits digits) :
      IsDecimalText (whole ++ '.' :: digits)
  | exponent {whole : List Char} (first : AreDigits whole) (power : Int) :
      IsDecimalText (whole ++ Layout.exponentText power)
  | both {whole digits : List Char} (first : AreDigits whole) (second : AreDigits digits)
      (power : Int) : IsDecimalText (whole ++ '.' :: (digits ++ Layout.exponentText power))

theorem AreDigits.append_replicate {digits : List Char} (first : AreDigits digits) (count : Nat) :
    AreDigits (digits ++ List.replicate count '0') where
  given := List.append_ne_nil_of_left_ne_nil first.given _
  decimal := List.forall_mem_append.mpr
    ⟨first.decimal, fun _ member => List.eq_of_mem_replicate member ▸ rfl⟩

/-- Expressions show every number with a fraction or an exponent. -/
theorem isDecimalText_write {value : Digits} (digits : AreDigits value.digits) :
    IsDecimalText (Layout.exact.write value) := by
  unfold Layout.write
  split
  · unfold Layout.positional
    split
    · change IsDecimalText (['0'] ++ '.' :: (List.replicate _ '0' ++ value.digits))
      refine .point Digits.areDigits_zero ⟨?_, ?_⟩
      · exact List.append_ne_nil_of_right_ne_nil _ digits.given
      · exact List.forall_mem_append.mpr
          ⟨fun _ member => List.eq_of_mem_replicate member ▸ rfl, digits.decimal⟩
    · dsimp only
      split
      · exact .point (digits.append_replicate _) Digits.areDigits_zero
      · rename_i longer
        refine .point ⟨?_, fun char member => digits.decimal char (List.mem_of_mem_take member)⟩
          ⟨?_, fun char member => digits.decimal char (List.mem_of_mem_drop member)⟩
        · simp [digits.given]
        · simp only [ne_eq, List.drop_eq_nil_iff]
          exact longer
  · unfold Layout.scientific
    split
    · rename_i leading next rest spelled
      have decimal := digits.decimal
      rw [spelled] at decimal
      rcases List.forall_mem_cons.mp decimal with ⟨first, others⟩
      change IsDecimalText
        ([leading] ++ '.' :: (next :: rest ++ Layout.exponentText value.exponent))
      exact .both ⟨List.cons_ne_nil _ _, List.forall_mem_singleton.mpr first⟩
        ⟨List.cons_ne_nil _ _, others⟩ value.exponent
    · exact .exponent digits value.exponent

theorem IsDecimalText.head?_isDigit {text : List Char} (written : IsDecimalText text) :
    text.head?.any Char.isDigit = true := by
  have begins {whole : List Char} (first : AreDigits whole) (rest : List Char) :
      (whole ++ rest).head?.any Char.isDigit = true := by
    cases whole with
    | nil => exact absurd rfl first.given
    | cons digit _ => exact first.decimal digit List.mem_cons_self
  cases written <;> exact begins ‹_› _

variable {α : Type} [Scalar α]

/-- A decimal point or an exponent is no letter of another base. -/
theorem isDecimal_of_areDigits {whole rest : List Char} (first : AreDigits whole)
    (ends : ∀ char ∈ rest.head?, char = '.' ∨ char = 'e') : isDecimal (whole ++ rest) = true := by
  rcases whole with _ | ⟨digit, _ | ⟨second, others⟩⟩
  · exact absurd rfl first.given
  all_goals
    by_contra other
    rw [Bool.not_eq_true] at other
    have digits := first.decimal
    rcases cases_of_not_isDecimal other with ⟨later, same⟩ | ⟨letter, later, same, known⟩
    · cases same
      exact absurd (digits '.' List.mem_cons_self) (by decide)
  · cases same
    rcases ends letter rfl with rfl | rfl <;> exact absurd known (by decide)
  · cases same
    have digit := digits second (by simp)
    rcases known with rfl | rfl | rfl | rfl | rfl | rfl <;> cases digit

/-- An exponent consists of the letter, a sign and digits. -/
theorem exists_exponentText (power : Int) : ∃ sign digits,
    Layout.exponentText power = 'e' :: sign :: digits ∧ (sign = '+' ∨ sign = '-') ∧
      AreDigits digits := by
  have magnitude : AreDigits (Nat.toDigits 10 power.natAbs) :=
    Digits.areDigits_ofCoefficient power.natAbs 0
  unfold Layout.exponentText
  refine ⟨_, _, rfl, ?_, ?_⟩
  · split
    · exact .inr rfl
    · exact .inl rfl
  · split
    · exact ⟨List.cons_ne_nil _ _, List.forall_mem_cons.mpr ⟨rfl, magnitude.decimal⟩⟩
    · exact magnitude

theorem exists_realTail_exponentText (mantissa : Nat) (shift power : Int) :
    ∃ value : α, realTail mantissa shift (Layout.exponentText power) = some (.real value, []) := by
  rcases exists_exponentText power with ⟨sign, digits, spelled, signs, areDigits⟩
  have run := digitRun_self areDigits.decimal
  rcases digits with _ | ⟨digit, later⟩
  · exact absurd rfl areDigits.given
  · have isDigit := areDigits.decimal digit List.mem_cons_self
    rw [spelled, realTail_sign rfl signs, if_pos isDigit, exponentDigits, run]
    exact ⟨_, rfl⟩

/-- After the point, digits are read up to whatever does not continue them. -/
theorem fraction_of_areDigits (whole : List Char) {digits rest : List Char}
    (second : AreDigits digits) (ends : ∀ char ∈ rest.head?, char.isDigit = false ∧ char ≠ '_') :
    (fraction whole (digits ++ rest) : Option (Literal α × List Char)) =
      realTail (Text.ofDigits 10 (whole ++ digits)) (-(digits.length : Int)) rest := by
  have run := digitRun_of_digits second.decimal ends
  rcases digits with _ | ⟨digit, later⟩
  · exact absurd rfl second.given
  · rw [List.cons_append] at run ⊢
    rw [fraction, if_pos (second.decimal digit List.mem_cons_self), run]
    rfl

theorem decimalNumber_of_point {whole : List Char} (first : AreDigits whole) (rest : List Char) :
    (decimalNumber (whole ++ '.' :: rest) : Option (Literal α × List Char)) =
      fraction whole rest := by
  have ends : ∀ char ∈ ('.' :: rest).head?, char.isDigit = false ∧ char ≠ '_' := by
    rintro _ ⟨⟩
    decide
  rw [decimalNumber, digitRun_of_digits first.decimal ends]
  rfl

/-- A written number is read as a real number. -/
theorem IsDecimalText.exists_number {text : List Char} (written : IsDecimalText text) :
    ∃ value : α, number text = some (.real value, []) := by
  have notDigit (power : Int) :
      ∀ char ∈ (Layout.exponentText power).head?, char.isDigit = false ∧ char ≠ '_' := by
    rintro _ ⟨⟩
    decide
  cases written with
  | @point whole digits first second =>
      have ends : ∀ char ∈ ([] : List Char).head?, char.isDigit = false ∧ char ≠ '_' := by simp
      have read := fraction_of_areDigits (α := α) whole second ends
      rw [List.append_nil] at read
      rw [number_eq_decimalNumber (isDecimal_of_areDigits first (by simp)),
        decimalNumber_of_point first, read]
      exact ⟨_, rfl⟩
  | @exponent whole first power =>
      rcases exists_exponentText power with ⟨sign, digits, spelled, signs, _⟩
      rcases exists_realTail_exponentText (α := α) (Text.ofDigits 10 whole) 0 power with
        ⟨value, read⟩
      refine ⟨value, Eq.trans ?_ read⟩
      rw [number_eq_decimalNumber (isDecimal_of_areDigits first ?_), decimalNumber,
        digitRun_of_digits first.decimal (notDigit power), spelled]
      · rcases signs with rfl | rfl <;> rfl
      · rintro _ ⟨⟩
        exact .inr rfl
  | both first second power =>
      rw [number_eq_decimalNumber (isDecimal_of_areDigits first (by simp)),
        decimalNumber_of_point first, fraction_of_areDigits _ second (notDigit power)]
      exact exists_realTail_exponentText _ _ power

end Source.Token

end Intertemporal
