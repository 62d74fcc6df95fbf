import Intertemporal.Source.Parser

/-!
# Reading spelled terms

Tokens spell an operand if they are read as one wherever no token after them continues it, and they
spell an expression if they are read as one in front of whatever closes it. An operand is a name, a
constant, an indexed name, a call, or an expression in parentheses; an expression is an operand, an
operand with a minus in front, or two operands with an operator between them. One rule for each says
that these tokens are read as the term they spell.

The rules count fuel: twelve calls for each token are enough.
-/

namespace Intertemporal.Source

variable {α : Type}

/-- Marks in front of which an expression ends. -/
def Mark.closes : Mark → Bool
  | .rightParen | .rightBracket | .comma => true
  | _ => false

namespace Token

/-- What may follow an expression. -/
inductive Closes : List (Token α) → Prop
  | nothing : Closes []
  | mark {mark : Mark} {rest : List (Token α)} (closes : mark.closes = true) :
      Closes (.mark mark :: rest)

/-- What may follow an operand. -/
inductive Follows : List (Token α) → Prop
  | closing {rest : List (Token α)} (closes : Closes rest) : Follows rest
  | operator {mark : Mark} {operator : BinaryOperator} {rest : List (Token α)}
      (denotes : mark.binary? = some operator) : Follows (.mark mark :: rest)

/-- Whether tokens begin like an operand, and not like an argument passed by name. -/
def opensOperand : List (Token α) → Bool
  | .name _ :: .mark .assign :: _ => false
  | .name _ :: _ => true
  | .literal _ :: _ => true
  | .mark .leftParen :: _ => true
  | _ => false

/-- Whether tokens begin like an expression. -/
def opens : List (Token α) → Bool
  | .mark .minus :: _ => true
  | tokens => opensOperand tokens

theorem opens_of_opensOperand {tokens : List (Token α)} (begun : opensOperand tokens = true) :
    opens tokens = true := by
  unfold opens
  split
  · rfl
  · exact begun

theorem opensOperand_name (identifier : String) {rest : List (Token α)} (follows : Follows rest) :
    opensOperand (.name identifier :: rest) = true := by
  rcases follows with (_ | closes) | denotes
  · rfl
  · rename_i mark rest
    cases mark <;> cases closes <;> rfl
  · rename_i mark operator rest
    cases mark <;> cases denotes <;> rfl

end Token

open Token (Closes Follows opens opensOperand)

namespace Term

/-! ### Ends -/

theorem trailed_of_follows (fuel : Nat) (value : Term α) {rest : List (Token α)}
    (follows : Follows rest) : trailed (fuel + 1) value rest = some (value, rest) := by
  rcases follows with (_ | closes) | denotes
  · simp only [trailed]
  · rename_i mark rest
    cases mark <;> cases closes <;> simp only [trailed]
  · rename_i mark operator rest
    cases mark <;> cases denotes <;> simp only [trailed]

theorem continued_of_closes (fuel : Nat) (asked : Binding) (left : Term α)
    {rest : List (Token α)} (closes : Closes rest) :
    continued (fuel + 2) asked left rest = some (left, rest) := by
  rcases closes with _ | closes
  · simp only [continued]
  · rename_i mark rest
    cases mark <;> cases closes <;> simp [continued, compared, Mark.binary?, relation?]

theorem expression_of_operation {fuel : Nat} {tokens rest : List (Token α)} {value : Term α}
    (read : operation fuel .or tokens = some (value, rest)) (closes : Closes rest) :
    expression (fuel + 1) tokens = some (value, rest) := by
  rw [expression, read]
  cases closes <;> rfl

theorem operand_of_primary {fuel : Nat} {asked : Binding} {tokens : List (Token α)}
    (begun : opensOperand tokens = true) :
    operand (fuel + 1) asked tokens = primary fuel tokens := by
  rcases tokens with _ | ⟨_ | _ | mark | word, rest⟩
  · cases begun
  · simp only [operand]
  · simp only [operand]
  · cases mark <;> first | exact absurd begun Bool.false_ne_true | simp only [operand, Mark.unary?]
  · cases begun

theorem item_of_opens {fuel : Nat} {tokens : List (Token α)} (begun : opens tokens = true) :
    item (fuel + 1) tokens = expression fuel tokens := by
  rcases tokens with _ | ⟨_ | _ | mark | word, rest⟩
  · cases begun
  · simp only [item]
  · simp only [item]
  · cases mark <;> first | exact absurd begun Bool.false_ne_true | simp only [item]
  · cases begun

/-! ### Operands and expressions -/

/-- Tokens that are read as one operand. -/
structure IsOperand (tokens : List (Token α)) (term : Term α) : Prop where
  begun : ∀ {rest}, Follows rest → opensOperand (tokens ++ rest) = true
  unstarred : term.isStarred = false
  read : ∀ {fuel rest}, 12 * tokens.length ≤ fuel → Follows rest →
    primary fuel (tokens ++ rest) = some (term, rest)

/-- Tokens that are read as one expression. -/
structure IsExpression (tokens : List (Token α)) (term : Term α) : Prop where
  begun : ∀ {rest}, Closes rest → opens (tokens ++ rest) = true
  unstarred : term.isStarred = false
  read : ∀ {fuel rest}, 12 * tokens.length + 4 ≤ fuel → Closes rest →
    expression fuel (tokens ++ rest) = some (term, rest)

variable {tokens : List (Token α)} {term : Term α}

/-- An operand is read up to what follows it. -/
theorem IsOperand.operation (spelled : IsOperand tokens term) (asked : Binding) {fuel : Nat}
    {rest : List (Token α)} (enough : 12 * tokens.length ≤ fuel) (follows : Follows rest) :
    operation (fuel + 2) asked (tokens ++ rest) = continued (fuel + 1) asked term rest := by
  rw [Term.operation, operand_of_primary (spelled.begun follows), spelled.read enough follows]
  rfl

theorem IsOperand.operation_of_closes (spelled : IsOperand tokens term) (fuel : Nat)
    (asked : Binding) {rest : List (Token α)} (enough : 12 * tokens.length + 3 ≤ fuel)
    (closes : Closes rest) : Term.operation fuel asked (tokens ++ rest) = some (term, rest) := by
  obtain ⟨less, rfl⟩ : ∃ less, fuel = less + 3 := ⟨fuel - 3, by omega⟩
  rw [spelled.operation asked (by omega) (.closing closes),
    continued_of_closes less asked term closes]

theorem IsOperand.isExpression (spelled : IsOperand tokens term) : IsExpression tokens term where
  begun closes := Token.opens_of_opensOperand (spelled.begun (.closing closes))
  unstarred := spelled.unstarred
  read := by
    intro fuel rest enough closes
    obtain ⟨less, rfl⟩ : ∃ less, fuel = less + 1 := ⟨fuel - 1, by omega⟩
    exact expression_of_operation (spelled.operation_of_closes less .or (by omega) closes) closes

/-- A minus in front of an operand. -/
theorem IsOperand.negated (spelled : IsOperand tokens term) :
    IsExpression (.mark .minus :: tokens) (.unary .minus term) where
  begun _ := rfl
  unstarred := rfl
  read := by
    intro fuel rest enough closes
    rw [List.length_cons] at enough
    obtain ⟨less, rfl⟩ : ∃ less, fuel = less + 4 := ⟨fuel - 4, by omega⟩
    refine expression_of_operation ?_ closes
    have body := spelled.operation_of_closes (less + 1) .sign (by omega) closes
    rw [List.cons_append, Term.operation, operand]
    simp only [Mark.unary?, body, Option.bind_eq_bind, Option.bind_some]
    exact continued_of_closes less .or (.unary .minus term) closes

/-- An operator between two operands. -/
theorem IsOperand.combined {left right : List (Token α)} {first second : Term α} {mark : Mark}
    {operator : BinaryOperator} (denotes : mark.binary? = some operator)
    (spelledLeft : IsOperand left first) (spelledRight : IsOperand right second) :
    IsExpression (left ++ .mark mark :: right) (.binary operator first second) where
  begun closes := by
    rw [List.append_assoc]
    exact Token.opens_of_opensOperand (spelledLeft.begun (.operator denotes))
  unstarred := rfl
  read := by
    intro fuel rest enough closes
    rw [List.length_append, List.length_cons] at enough
    obtain ⟨less, rfl⟩ : ∃ less, fuel = less + 5 := ⟨fuel - 5, by omega⟩
    refine expression_of_operation ?_ closes
    have body := spelledRight.operation_of_closes (less + 2) operator.rightBinding (by omega) closes
    -- Nothing has been asked for yet, so any operator continues the first operand.
    have loosest : Binding.or ≤ operator.binding := by cases operator <;> decide
    rw [List.append_assoc, List.cons_append,
      spelledLeft.operation .or (by omega) (.operator denotes), continued]
    simp only [denotes, if_pos loosest, body, Option.bind_eq_bind, Option.bind_some]
    exact continued_of_closes _ .or _ closes

/-- A name stands for itself. -/
theorem isOperand_name (identifier : String) :
    IsOperand [.name identifier] (.name identifier : Term α) where
  begun := Token.opensOperand_name identifier
  unstarred := rfl
  read := by
    intro fuel rest enough follows
    rw [List.length_singleton] at enough
    obtain ⟨less, rfl⟩ : ∃ less, fuel = less + 2 := ⟨fuel - 2, by omega⟩
    rw [primary, List.singleton_append, atom]
    exact trailed_of_follows less _ follows

/-- Constants that do not join with others. -/
theorem isOperand_literal {value : Literal α} (notText : ∀ text, value ≠ .text text) :
    IsOperand [.literal value] (.literal value) where
  begun _ := rfl
  unstarred := rfl
  read := by
    intro fuel rest enough follows
    rw [List.length_singleton] at enough
    obtain ⟨less, rfl⟩ : ∃ less, fuel = less + 2 := ⟨fuel - 2, by omega⟩
    have found : atom (less + 1) (.literal value :: rest) = some (.literal value, rest) := by
      cases value with
      | text text => exact absurd rfl (notText text)
      | _ => simp only [atom]
    rw [primary, List.singleton_append, found]
    exact trailed_of_follows less _ follows

/-- An item in parentheses is read as itself. -/
theorem atom_of_item {fuel : Nat} {tokens rest : List (Token α)} {value : Term α}
    (begun : opens tokens = true)
    (read : item fuel tokens = some (value, .mark .rightParen :: rest))
    (unstarred : value.isStarred = false) :
    atom (fuel + 1) (.mark .leftParen :: tokens) = some (value, rest) := by
  rcases tokens with _ | ⟨_ | _ | mark | word, others⟩
  · cases begun
  · simp [atom, read, unstarred]
  · simp [atom, read, unstarred]
  · cases mark <;> first | exact absurd begun Bool.false_ne_true | simp [atom, read, unstarred]
  · cases begun

/-- An expression in parentheses is an operand. -/
theorem IsExpression.grouped (spelled : IsExpression tokens term) :
    IsOperand (.mark .leftParen :: (tokens ++ [.mark .rightParen])) term where
  begun _ := rfl
  unstarred := spelled.unstarred
  read := by
    intro fuel rest enough follows
    rw [List.length_cons, List.length_append, List.length_singleton] at enough
    obtain ⟨less, rfl⟩ : ∃ less, fuel = less + 4 := ⟨fuel - 4, by omega⟩
    have closes : Closes (.mark .rightParen :: rest) := .mark rfl
    have begun := spelled.begun closes
    have inside : item (less + 2) (tokens ++ .mark .rightParen :: rest) =
        some (term, .mark .rightParen :: rest) :=
      (item_of_opens begun).trans (spelled.read (by omega) closes)
    rw [primary, List.cons_append, List.append_assoc, List.singleton_append,
      atom_of_item begun inside spelled.unstarred]
    exact trailed_of_follows _ term follows

/-! ### Arguments and indices -/

/-- What follows an argument: the end of the call, or further arguments. -/
inductive Continues (fuel : Nat) : List (Token α) → List (Term α) → List (Token α) → Prop
  | last {rest : List (Token α)} : Continues fuel (.mark .rightParen :: rest) [] rest
  | more {tokens rest : List (Token α)} {others : List (Term α)}
      (read : arguments fuel .byPosition tokens = some (others, [], rest)) :
      Continues fuel (.mark .comma :: tokens) others rest

theorem arguments_of_expression {fuel : Nat} {tokens between rest : List (Token α)}
    {value : Term α} {others : List (Term α)} (begun : opens tokens = true)
    (read : expression fuel tokens = some (value, between))
    (continues : Continues fuel between others rest) :
    arguments (fuel + 1) .byPosition tokens = some (value :: others, [], rest) := by
  rcases continues with _ | further
  all_goals
    rcases tokens with _ | ⟨_ | _ | mark | word, after⟩
    · cases begun
    · rcases after with _ | ⟨_ | _ | mark | word, after⟩
      · simp [arguments, *]
      · simp [arguments, *]
      · simp [arguments, *]
      · -- A name in front of `=` would pass an argument by name.
        cases mark <;> first | exact absurd begun Bool.false_ne_true | simp [arguments, *]
      · simp [arguments, *]
    · simp [arguments, *]
    · cases mark <;> first | exact absurd begun Bool.false_ne_true | simp [arguments, *]
    · cases begun

/-- Expressions between commas, and the terms that they are read as. -/
inductive AreArguments : List (Token α) → List (Term α) → Prop
  | single {tokens : List (Token α)} {term : Term α} (spelled : IsExpression tokens term) :
      AreArguments tokens [term]
  | cons {tokens later : List (Token α)} {term : Term α} {others : List (Term α)}
      (spelled : IsExpression tokens term) (further : AreArguments later others) :
      AreArguments (tokens ++ .mark .comma :: later) (term :: others)

theorem AreArguments.read {tokens : List (Token α)} {terms : List (Term α)}
    (spelled : AreArguments tokens terms) (fuel : Nat) (rest : List (Token α))
    (enough : 12 * tokens.length + 5 ≤ fuel) :
    arguments fuel .byPosition (tokens ++ .mark .rightParen :: rest) = some (terms, [], rest) := by
  induction spelled generalizing fuel with
  | single spelled =>
      obtain ⟨less, rfl⟩ : ∃ less, fuel = less + 1 := ⟨fuel - 1, by omega⟩
      have closes : Closes (.mark .rightParen :: rest) := .mark rfl
      exact arguments_of_expression (spelled.begun closes) (spelled.read (by omega) closes) .last
  | cons spelled further ih =>
      rename_i tokens later _ _
      rw [List.length_append, List.length_cons] at enough
      obtain ⟨less, rfl⟩ : ∃ less, fuel = less + 1 := ⟨fuel - 1, by omega⟩
      have closes : Closes (.mark .comma :: (later ++ .mark .rightParen :: rest)) := .mark rfl
      rw [List.append_assoc, List.cons_append]
      exact arguments_of_expression (spelled.begun closes) (spelled.read (by omega) closes)
        (.more (ih less (by omega)))

/-- A call without arguments. -/
theorem isOperand_call_nil (identifier : String) :
    IsOperand [.name identifier, .mark .leftParen, .mark .rightParen]
      (.call (.name identifier) [] [] : Term α) where
  begun _ := rfl
  unstarred := rfl
  read := by
    intro fuel rest enough follows
    simp only [List.length_cons, List.length_nil] at enough
    obtain ⟨less, rfl⟩ : ∃ less, fuel = less + 3 := ⟨fuel - 3, by omega⟩
    have none : arguments (less + 1) .byPosition (.mark .rightParen :: rest) =
        some (([] : List (Term α)), [], rest) := by
      rw [arguments]
    rw [primary, List.cons_append, atom]
    simp only [Option.bind_eq_bind, Option.bind_some, List.cons_append, List.nil_append, trailed,
      none]
    exact trailed_of_follows less _ follows

/-- A call with arguments passed by position. -/
theorem AreArguments.called {arguments : List (Token α)} {terms : List (Term α)}
    (spelled : AreArguments arguments terms) (identifier : String) :
    IsOperand (.name identifier :: .mark .leftParen :: (arguments ++ [.mark .rightParen]))
      (.call (.name identifier) terms []) where
  begun _ := rfl
  unstarred := rfl
  read := by
    intro fuel rest enough follows
    simp only [List.length_cons, List.length_append, List.length_nil] at enough
    obtain ⟨less, rfl⟩ : ∃ less, fuel = less + 3 := ⟨fuel - 3, by omega⟩
    have inside := spelled.read (less + 1) rest (by omega)
    rw [primary, List.cons_append, atom]
    simp only [Option.bind_eq_bind, Option.bind_some, List.cons_append, List.append_assoc,
      List.nil_append, trailed, inside]
    exact trailed_of_follows less _ follows

theorem indexItem_of_expression {fuel : Nat} {tokens rest : List (Token α)} {value : Term α}
    (begun : opens tokens = true)
    (read : expression fuel tokens = some (value, .mark .rightBracket :: rest)) :
    indexItem (fuel + 1) tokens = some (value, .mark .rightBracket :: rest) := by
  rcases tokens with _ | ⟨_ | _ | mark | word, others⟩
  · cases begun
  · simp [indexItem, read]
  · simp [indexItem, read]
  · cases mark <;> first | exact absurd begun Bool.false_ne_true | simp [indexItem, read]
  · cases begun

/-- An expression in brackets after a name. -/
theorem IsExpression.indexing (spelled : IsExpression tokens term) (identifier : String) :
    IsOperand (.name identifier :: .mark .leftBracket :: (tokens ++ [.mark .rightBracket]))
      (.subscript (.name identifier) term) where
  begun _ := rfl
  unstarred := rfl
  read := by
    intro fuel rest enough follows
    simp only [List.length_cons, List.length_append, List.length_nil] at enough
    obtain ⟨less, rfl⟩ : ∃ less, fuel = less + 4 := ⟨fuel - 4, by omega⟩
    have closes : Closes (.mark .rightBracket :: rest) := .mark rfl
    have item := indexItem_of_expression (spelled.begun closes)
      (spelled.read (by omega : _ ≤ less) closes)
    have inside : index (less + 2) (tokens ++ .mark .rightBracket :: rest) = some (term, rest) := by
      simp [index, item, spelled.unstarred]
    rw [primary, List.cons_append, atom]
    simp only [Option.bind_eq_bind, Option.bind_some, List.cons_append, List.append_assoc,
      List.nil_append, trailed, inside]
    exact trailed_of_follows _ _ follows

/-! ### Whole token lists -/

/-- An expression that nothing follows is the term of its tokens. -/
theorem IsExpression.ofTokens (spelled : IsExpression tokens term) :
    ofTokens tokens = some term := by
  have enough : 12 * tokens.length + 4 ≤ 12 * (tokens.length + 1) := by omega
  have read := spelled.read enough .nothing
  rw [List.append_nil] at read
  simp [Term.ofTokens, read]

end Term

end Intertemporal.Source
