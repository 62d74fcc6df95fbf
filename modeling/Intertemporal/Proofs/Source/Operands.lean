import Intertemporal.Proofs.Source.Lexing
import Intertemporal.Proofs.Source.Parsing

/-!
# Spelled operands

A printed text spells a term if the lexer reads it as tokens that the parser reads as the term. The
texts of numbers and names spell operands, and so do a text in parentheses, a name with an index and
a name with arguments, whatever they contain.
-/

namespace Intertemporal.Source

variable {α : Type} [Scalar α]

/-- A text that is read as one expression. -/
def SpellsExpression (text : List Char) (term : Term α) : Prop :=
  ∃ tokens, Token.IsWritten text tokens ∧ Term.IsExpression tokens term

/-- A text that is read as one operand, without white space at its ends. -/
structure SpellsOperand (text : List Char) (term : Term α) : Prop where
  trimmed : Token.isTrimmed text = true
  spelled : ∃ tokens, Token.IsWritten text tokens ∧ Term.IsOperand tokens term

theorem spellsOperand_name {name : String} (plain : Token.IsPlainName name) :
    SpellsOperand name.toList (.name name : Term α) where
  trimmed := Token.isTrimmed_of_solid plain.isNumberChar
  spelled := by
    have written := (Token.isWritten_nil (α := α)).named plain rfl
    rw [List.append_nil] at written
    exact ⟨_, written, Term.isOperand_name name⟩

theorem spellsOperand_number {text : List Char} {value : Literal α}
    (read : Token.number text = some (value, [])) (digit : text.head?.any Char.isDigit = true)
    (notText : ∀ quoted, value ≠ .text quoted) : SpellsOperand text (.literal value) where
  trimmed := Token.isTrimmed_of_solid (Token.readsWhole_number read).plain
  spelled := ⟨_, Token.isWritten_number (Token.readsWhole_number read) digit,
    Term.isOperand_literal notText⟩

theorem spellsOperand_natural (value : Nat) :
    SpellsOperand (Nat.toDigits 10 value) (Term.natural value : Term α) := by
  apply spellsOperand_number (Token.number_toDigits value)
  · rcases spelled : Nat.toDigits 10 value with _ | ⟨first, rest⟩
    · exact absurd spelled Nat.toDigits_ne_nil
    · have member : first ∈ Nat.toDigits 10 value := by simp [spelled]
      exact Nat.isDigit_of_mem_toDigits (by decide) (by decide) member
  · rintro _ ⟨⟩

variable {text : List Char} {term : Term α}

theorem SpellsOperand.spellsExpression (spelled : SpellsOperand text term) :
    SpellsExpression text term := by
  rcases spelled.spelled with ⟨tokens, written, operand⟩
  exact ⟨tokens, written, operand.isExpression⟩

theorem SpellsOperand.negated (spelled : SpellsOperand text term) :
    SpellsExpression ('-' :: text) (.unary .minus term) := by
  rcases spelled.spelled with ⟨tokens, written, operand⟩
  exact ⟨_, written.signed .minus, operand.negated⟩

theorem SpellsOperand.combined {first second between : List Char} {left right : Term α}
    {mark : Mark} {operator : BinaryOperator} (spelledLeft : SpellsOperand first left)
    (spelledRight : SpellsOperand second right) (separates : Token.Separates between mark)
    (denotes : mark.binary? = some operator) :
    SpellsExpression (first ++ (between ++ second)) (.binary operator left right) := by
  rcases spelledLeft.spelled with ⟨tokens, written, operand⟩
  rcases spelledRight.spelled with ⟨others, further, other⟩
  exact ⟨_, written.joined further separates, Term.IsOperand.combined denotes operand other⟩

theorem SpellsExpression.grouped (spelled : SpellsExpression text term) :
    SpellsOperand ('(' :: (text ++ [')'])) term where
  trimmed := Token.isTrimmed_enclosed text .parentheses
  spelled := by
    rcases spelled with ⟨tokens, written, expression⟩
    exact ⟨_, written.enclosed .parentheses, expression.grouped⟩

theorem SpellsExpression.indexing (spelled : SpellsExpression text term) {name : String}
    (plain : Token.IsPlainName name) :
    SpellsOperand (name.toList ++ '[' :: (text ++ [']'])) (.subscript (.name name) term) where
  trimmed := Token.isTrimmed_append (Token.isTrimmed_of_solid plain.isNumberChar)
    (Token.isTrimmed_enclosed text .brackets)
  spelled := by
    rcases spelled with ⟨tokens, written, expression⟩
    exact ⟨_, (written.enclosed .brackets).named plain rfl, expression.indexing name⟩

/-- Operands with commas between them are arguments. -/
theorem exists_areArguments {texts : List (List Char)} {terms : List (Term α)}
    (spelled : List.Forall₂ SpellsOperand texts terms) (given : texts ≠ []) :
    ∃ tokens, Token.IsWritten ([',', ' '].intercalate texts) tokens ∧
      Term.AreArguments tokens terms := by
  induction spelled with
  | nil => exact absurd rfl given
  | cons first others ih =>
      rcases first.spellsExpression with ⟨tokens, written, expression⟩
      cases others with
      | nil =>
          rw [List.intercalate_singleton]
          exact ⟨tokens, written, .single expression⟩
      | cons second later =>
          rcases ih (List.cons_ne_nil _ _) with ⟨rest, further, arguments⟩
          rw [List.intercalate_cons_cons, List.append_assoc]
          exact ⟨_, written.joined further .comma, .cons expression arguments⟩

theorem spellsOperand_call {name : String} (plain : Token.IsPlainName name)
    {texts : List (List Char)} {terms : List (Term α)}
    (spelled : List.Forall₂ SpellsOperand texts terms) :
    SpellsOperand (name.toList ++ '(' :: ([',', ' '].intercalate texts ++ [')']))
      (.call (.name name) terms []) where
  trimmed := Token.isTrimmed_append (Token.isTrimmed_of_solid plain.isNumberChar)
    (Token.isTrimmed_enclosed _ .parentheses)
  spelled := by
    cases spelled with
    | nil =>
        exact ⟨_, (Token.isWritten_nil.enclosed .parentheses).named plain rfl,
          Term.isOperand_call_nil name⟩
    | cons first others =>
        rcases exists_areArguments (.cons first others) (List.cons_ne_nil _ _) with
          ⟨tokens, written, arguments⟩
        exact ⟨_, (written.enclosed .parentheses).named plain rfl, arguments.called name⟩

end Intertemporal.Source
