import Mathlib.Data.List.DropRight
import Intertemporal.Proofs.Expression.Refusals
import Intertemporal.Proofs.Source.Trailing

/-!
# Comments

A comment after an equation text does not change what the text states, provided that no equals sign
of the comment stands alone. The text is divided into its sides before it is read, and the division
knows no comments, so a lone equals sign behind the comment sign begins another side. A comment
without one ends up behind the last side, where the lexer drops it.
-/

namespace Intertemporal

namespace Text

/-- What does not consist of blanks alone has the same front if something follows. -/
theorem dropBlank_append {front : List Char} (given : dropBlank front ≠ []) (back : List Char) :
    dropBlank (front ++ back) = dropBlank front ++ back := by
  rw [dropBlank, List.dropWhile_append, if_neg]
  · rfl
  · rw [List.isEmpty_iff]
    exact given

/-- Blanks are dropped at the end of a text no further than up to a character that is none. -/
theorem rdropWhile_append_cons {solid : Char} (visible : isBlank solid = false)
    (front back : List Char) :
    (front ++ solid :: back).rdropWhile isBlank = front ++ solid :: back.rdropWhile isBlank := by
  have stop : (solid :: front.reverse).dropWhile isBlank = solid :: front.reverse :=
    List.dropWhile_cons_of_neg (by rw [visible]; exact Bool.false_ne_true)
  simp only [List.rdropWhile, List.reverse_append, List.reverse_cons, List.append_assoc,
    List.singleton_append, List.dropWhile_append, stop]
  split
  · rename_i blank
    rw [List.isEmpty_iff.mp blank]
    simp
  · simp

/-- The blanks at the end of a text that does not consist of blanks alone. -/
def trailingBlanks (text : List Char) : List Char := (dropBlank text).rtakeWhile isBlank

theorem trim_append_trailingBlanks (text : List Char) :
    trim text ++ trailingBlanks text = dropBlank text :=
  List.rdropWhile_append_rtakeWhile

theorem dropBlank_ne_nil {text : List Char} (given : trim text ≠ []) : dropBlank text ≠ [] := by
  intro empty
  rw [trim, empty] at given
  exact given rfl

/-- If something visible follows a text, then the blanks at its end are kept. -/
theorem trim_append_cons {front : List Char} (given : trim front ≠ []) {solid : Char}
    (visible : isBlank solid = false) (between back : List Char) :
    trim (front ++ (between ++ solid :: back)) =
      trim front ++ (trailingBlanks front ++ between ++ solid :: back.rdropWhile isBlank) := by
  calc
    _ = (dropBlank front ++ between ++ solid :: back).rdropWhile isBlank := by
      rw [trim, dropBlank_append (dropBlank_ne_nil given), List.append_assoc]
      rfl
    _ = dropBlank front ++ between ++ solid :: back.rdropWhile isBlank :=
      rdropWhile_append_cons visible _ _
    _ = _ := by
      rw [← trim_append_trailingBlanks]
      simp only [List.append_assoc]

theorem trailingBlanks_suffix (text : List Char) :
    trailingBlanks text <:+ text.rtakeWhile isBlank := by
  obtain ⟨front, split⟩ := List.dropWhile_suffix isBlank (l := text)
  rw [trailingBlanks, ← List.reverse_prefix, List.rtakeWhile, List.rtakeWhile,
    List.reverse_reverse, List.reverse_reverse]
  conv_rhs => rw [← split, List.reverse_append, List.takeWhile_append]
  split
  · exact (List.takeWhile_prefix _).trans (List.prefix_append _ _)
  · exact List.prefix_refl _

theorem not_isBlank_of_getLast?_trim {text : List Char} {char : Char}
    (last : (trim text).getLast? = some char) : isBlank char = false := by
  obtain ⟨given, rfl⟩ := List.mem_getLast?_eq_getLast last
  exact Bool.not_eq_true _ ▸ List.rdropWhile_last_not _ _ given

/-- What a trimmed text ends with ends with no blanks. -/
theorem trailingBlanks_eq_nil {text last : List Char} (ends : last <:+ trim text) :
    trailingBlanks last = [] := by
  rw [trailingBlanks, List.rtakeWhile_eq_nil_iff]
  intro given
  have inside : dropBlank last <:+ trim text := (List.dropWhile_suffix isBlank).trans ends
  rw [inside.getLast given]
  exact List.rdropWhile_last_not _ _ _

end Text

namespace Source.Statement

open Text (isBlank trim trailingBlanks)

/-! ### Lone equals signs -/

/-- Whether no equals sign of a text stands alone, given the character in front of the text. -/
def isUndivided (previous : Option Char) : List Char → Bool
  | [] => true
  | char :: rest =>
    if char = '=' ∧ !previous.any isComparisonChar ∧ rest.head? ≠ some '=' then false
    else isUndivided (some char) rest

theorem splitSides_ne_nil (previous : Option Char) (read text : List Char) :
    splitSides previous read text ≠ [] := by
  induction text generalizing previous read with
  | nil => exact List.cons_ne_nil _ _
  | cons char rest ih =>
      rw [splitSides]
      split
      · exact List.cons_ne_nil _ _
      · exact ih _ _

/-- A text is one side if and only if no equals sign in it stands alone. -/
theorem tail_splitSides_eq_nil_iff {previous : Option Char} {read text : List Char} :
    (splitSides previous read text).tail = [] ↔ isUndivided previous text = true := by
  induction text generalizing previous read with
  | nil => simp [splitSides, isUndivided]
  | cons char rest ih =>
      rw [splitSides, isUndivided]
      split
      · simp [splitSides_ne_nil]
      · exact ih

theorem isUndivided_some {char : Char} (plain : isComparisonChar char = false)
    (text : List Char) : isUndivided (some char) text = isUndivided none text := by
  cases text with
  | nil => rfl
  | cons next rest => simp [isUndivided, plain]

theorem isUndivided_cons {char : Char} (plain : isComparisonChar char = false)
    (previous : Option Char) (rest : List Char) :
    isUndivided previous (char :: rest) = isUndivided none rest := by
  have notEqual : char ≠ '=' := by
    rintro rfl
    cases plain
  rw [isUndivided, if_neg fun equals => notEqual equals.1, isUndivided_some plain]

theorem isUndivided_of_head? {text : List Char} (other : text.head? ≠ some '=')
    (first second : Option Char) : isUndivided first text = isUndivided second text := by
  cases text with
  | nil => rfl
  | cons char rest =>
      have notEqual : char ≠ '=' := fun same => other (congrArg some same)
      simp [isUndivided, notEqual]

theorem head?_append_ne_iff {rest back : List Char} (other : back.head? ≠ some '=') :
    (rest ++ back).head? ≠ some '=' ↔ rest.head? ≠ some '=' := by
  cases rest with
  | nil => simp [other]
  | cons char more => rfl

theorem isUndivided_append {back : List Char} (other : back.head? ≠ some '=')
    (previous : Option Char) (front : List Char) :
    isUndivided previous (front ++ back) =
      (isUndivided previous front && isUndivided none back) := by
  induction front generalizing previous with
  | nil => exact isUndivided_of_head? other _ _
  | cons char rest ih =>
      simp only [List.cons_append, isUndivided, ih, head?_append_ne_iff other]
      split <;> rfl

theorem head?_ne_of_blank {text : List Char} (blank : ∀ char ∈ text, isBlank char = true) :
    text.head? ≠ some '=' := by
  intro first
  cases blank _ (List.mem_of_head? first)

theorem isUndivided_of_blank {text : List Char} (blank : ∀ char ∈ text, isBlank char = true) :
    isUndivided none text = true := by
  have absent : '=' ∉ text := fun member => by cases blank _ member
  have single : (splitSides none [] text).tail = [] := by
    rw [splitSides_eq_singleton absent]
    rfl
  exact tail_splitSides_eq_nil_iff.mp single

theorem isUndivided_rdropWhile (text : List Char) :
    isUndivided none (text.rdropWhile isBlank) = isUndivided none text := by
  have blank : ∀ char ∈ text.rtakeWhile isBlank, isBlank char = true :=
    fun _ => List.mem_rtakeWhile_imp
  conv_rhs => rw [← List.rdropWhile_append_rtakeWhile (p := isBlank) (l := text)]
  rw [isUndivided_append (head?_ne_of_blank blank), isUndivided_of_blank blank, Bool.and_true]

theorem head?_spellPowers (text : List Char) :
    (spellPowers text).head? = some '=' ↔ text.head? = some '=' := by
  cases text with
  | nil => rfl
  | cons char rest =>
      by_cases caret : char = '^'
      · subst caret
        simp [spellPowers]
      · simp [spellPowers, caret]

theorem isUndivided_spellPowers (previous : Option Char) (text : List Char) :
    isUndivided previous (spellPowers text) = isUndivided previous text := by
  induction text generalizing previous with
  | nil => rfl
  | cons char rest ih =>
      by_cases caret : char = '^'
      · subst caret
        have spelled : spellPowers ('^' :: rest) = '*' :: '*' :: spellPowers rest := rfl
        rw [spelled, isUndivided_cons rfl, isUndivided_cons rfl, isUndivided_cons rfl, ih]
      · have spelled : spellPowers (char :: rest) = char :: spellPowers rest := by
          simp [spellPowers, caret]
        simp only [spelled, isUndivided, ih, ne_eq, head?_spellPowers]

/-! ### Sides -/

/-- The part read so far stands in front of the first part. -/
theorem splitSides_accumulated (previous : Option Char) (read text : List Char) :
    splitSides previous read text =
      (splitSides previous [] text).modifyHead (read.reverse ++ ·) := by
  induction text generalizing previous read with
  | nil => simp [splitSides]
  | cons char rest ih =>
      rw [splitSides, splitSides]
      split
      · simp
      · rw [ih _ (char :: read), ih _ [char], List.modifyHead_modifyHead]
        simp [Function.comp_def]

theorem splitSides_of_head? {text : List Char} (other : text.head? ≠ some '=')
    (previous : Option Char) (read : List Char) :
    splitSides previous read text = (splitSides none [] text).modifyHead (read.reverse ++ ·) := by
  rw [splitSides_accumulated]
  cases text with
  | nil => rfl
  | cons char rest =>
      have notEqual : char ≠ '=' := fun same => other (congrArg some same)
      simp [splitSides, notEqual]

/-- If something follows a text, then the last part of the text goes on with the first part of what
follows. -/
theorem exists_splitSides_append (previous : Option Char) (read front : List Char) :
    ∃ parts last, splitSides previous read front = parts ++ [last] ∧
      last <:+ read.reverse ++ front ∧
      ∀ back : List Char, back.head? ≠ some '=' →
        splitSides previous read (front ++ back) =
          parts ++ (splitSides none [] back).modifyHead (last ++ ·) := by
  induction front generalizing previous read with
  | nil =>
      refine ⟨[], read.reverse, rfl, ?_, fun back other => splitSides_of_head? other _ _⟩
      rw [List.append_nil]
  | cons char rest ih =>
      by_cases equals : char = '=' ∧ !previous.any isComparisonChar ∧ rest.head? ≠ some '='
      · obtain ⟨parts, last, split, ends, further⟩ := ih (some char) []
        refine ⟨read.reverse :: parts, last, ?_, ?_, fun back other => ?_⟩
        · rw [splitSides, if_pos equals, split, List.cons_append]
        · exact ends.trans ((List.suffix_cons _ _).trans (List.suffix_append _ _))
        · simp only [List.cons_append, splitSides, head?_append_ne_iff other, if_pos equals,
            further back other]
      · obtain ⟨parts, last, split, ends, further⟩ := ih (some char) (char :: read)
        refine ⟨parts, last, ?_, ?_, fun back other => ?_⟩
        · rw [splitSides, if_neg equals, split]
        · simpa using ends
        · simp only [List.cons_append, splitSides, head?_append_ne_iff other, if_neg equals,
            further back other]

theorem splitSides_append_of_notMem {front back : List Char} (absent : '=' ∉ front)
    (other : back.head? ≠ some '=') :
    splitSides none [] (front ++ back) = (splitSides none [] back).modifyHead (front ++ ·) := by
  obtain ⟨parts, last, split, _, further⟩ := exists_splitSides_append none [] front
  rw [splitSides_eq_singleton absent] at split
  obtain ⟨rfl, same⟩ := List.append_inj' (List.nil_append _ |>.trans split) rfl
  cases same
  exact further back other

/-- The comment sign after the blanks at the end of a text. -/
def commentSign (text : List Char) : List Char := trailingBlanks (spellPowers text) ++ [' ', '#']

/-- What stands behind the comment sign. -/
def commentBody (comment : List Char) : List Char :=
  (' ' :: spellPowers comment).rdropWhile isBlank

theorem isUndivided_commentBody (comment : List Char) :
    isUndivided none (commentBody comment) = isUndivided none comment := by
  rw [commentBody, isUndivided_rdropWhile, isUndivided_cons rfl, isUndivided_spellPowers]

theorem head?_commentBody (comment : List Char) : (commentBody comment).head? ≠ some '=' := by
  rcases split : commentBody comment with _ | ⟨char, rest⟩
  · rintro ⟨⟩
  · have front : char :: rest <+: ' ' :: spellPowers comment := split ▸ List.rdropWhile_prefix _ _
    rw [(List.cons_prefix_cons.mp front).1]
    rintro ⟨⟩

theorem trim_append_sign {front : List Char} (given : trim front ≠ []) (blanks back : List Char) :
    trim (front ++ (blanks ++ [' ', '#'] ++ back)) =
      trim front ++ (trailingBlanks front ++ blanks ++ [' ', '#'] ++ back.rdropWhile isBlank) := by
  have kept :=
    Text.trim_append_cons given (show isBlank '#' = false from rfl) (blanks ++ [' ']) back
  simpa using kept

theorem notMem_commentSign (text : List Char) : '=' ∉ commentSign text := by
  rw [commentSign, List.mem_append]
  rintro (blank | sign)
  · cases (List.mem_rtakeWhile_imp blank : isBlank '=' = true)
  · simp at sign

theorem trim_spellPowers_comment {text : List Char} (given : trim (spellPowers text) ≠ [])
    (comment : List Char) :
    trim (spellPowers (text ++ ' ' :: '#' :: ' ' :: comment)) =
      trim (spellPowers text) ++ (commentSign text ++ commentBody comment) := by
  have sign : spellPowers (' ' :: '#' :: ' ' :: comment) =
      [] ++ [' ', '#'] ++ ' ' :: spellPowers comment := rfl
  rw [spellPowers_append, sign, trim_append_sign given, List.append_nil]
  rfl

/-- A comment begins on the last side of a text and goes on with a side for each lone equals sign in
it. -/
theorem exists_sides_comment (text : List Char) :
    ∃ parts last, sides text = parts ++ [last] ∧ last.getLast? ≠ some '\r' ∧
      (last ≠ [] → ∀ comment, ∃ first others,
        splitSides none [] (commentBody comment) = first :: others ∧
          sides (text ++ ' ' :: '#' :: ' ' :: comment) =
            parts ++ (last ++ (commentSign text ++ first.rdropWhile isBlank)) ::
              others.map trim) := by
  obtain ⟨parts, last, split, ends, further⟩ :=
    exists_splitSides_append none [] (trim (spellPowers text))
  refine ⟨parts.map trim, trim last, ?_, ?_, fun given comment => ?_⟩
  · rw [sides, split, List.map_append, List.map_singleton]
  · intro ends
    cases Text.not_isBlank_of_getLast?_trim ends
  · have visible : trim (spellPowers text) ≠ [] := by
      intro empty
      rw [empty] at ends
      rw [List.suffix_nil.mp ends] at given
      exact given rfl
    obtain ⟨first, others, divided⟩ :=
      List.exists_cons_of_ne_nil (splitSides_ne_nil none [] (commentBody comment))
    refine ⟨first, others, divided, ?_⟩
    have started : (commentSign text ++ commentBody comment).head? ≠ some '=' := by
      rw [head?_append_ne_iff (head?_commentBody comment)]
      exact fun equals => notMem_commentSign text (List.mem_of_head? equals)
    have kept : trim (last ++ (commentSign text ++ first)) =
        trim last ++ (commentSign text ++ first.rdropWhile isBlank) := by
      simpa [commentSign, Text.trailingBlanks_eq_nil ends] using
        trim_append_sign given (trailingBlanks (spellPowers text)) first
    rw [sides, trim_spellPowers_comment visible, further _ started,
      splitSides_append_of_notMem (notMem_commentSign text) (head?_commentBody comment), divided]
    simp [kept]

/-! ### Residuals -/

theorem rtakeWhile_spellPowers (text : List Char) :
    (spellPowers text).rtakeWhile isBlank = text.rtakeWhile isBlank := by
  induction text using List.reverseRecOn with
  | nil => rfl
  | append_singleton front char ih =>
      rw [spellPowers_append, List.rtakeWhile_concat]
      by_cases caret : char = '^'
      · subst caret
        have spelled :
            spellPowers front ++ spellPowers ['^'] = spellPowers front ++ ['*'] ++ ['*'] := by
          simp [spellPowers]
        rw [spelled, List.rtakeWhile_concat]
        rfl
      · have spelled : spellPowers [char] = [char] := by simp [spellPowers, caret]
        rw [spelled, List.rtakeWhile_concat, ih]

variable {α : Type} [Scalar α]

theorem side_eq_ok {text : List Char} {term : Term α} :
    side text = .ok term ↔ Term.ofText text = .ok term := by
  unfold side
  split <;> simp_all

/-- A text that states a residual has one side or two, and each of them is read. -/
theorem cases_of_residual {text : String} {term : Term α} (done : residual text = .ok term) :
    (sides text.toList).map side = [.ok term] ∨
      ∃ left right, (sides text.toList).map side = [.ok left, .ok right] ∧
        term = .binary .sub left right := by
  unfold residual at done
  split at done
  · rename_i only stated
    rw [stated, List.map_singleton, done]
    exact .inl rfl
  · rename_i first second stated
    obtain ⟨left, readLeft, remaining⟩ := bind_eq_ok.mp done
    obtain ⟨right, readRight, same⟩ := bind_eq_ok.mp remaining
    cases same
    rw [stated, List.map_cons, List.map_singleton, readLeft, readRight]
    exact .inr ⟨left, right, rfl, rfl⟩
  · cases done

/-- Texts whose sides are read alike state the same residual. -/
theorem residual_of_map_side {first second : String} {term : Term α}
    (done : residual first = .ok term)
    (same : ((sides second.toList).map side : List (Except _ (Term α))) =
      (sides first.toList).map side) :
    residual second = .ok term := by
  rcases cases_of_residual done with alone | ⟨left, right, both, rfl⟩
  · exact residual_of_side (same.trans alone)
  · exact residual_of_sides (same.trans both)

theorem side_nil : (side [] : Except StatementError (Term α)) = .error .malformed := by
  cbv

/-- The last side of a text that states a residual is read. -/
theorem exists_side_of_residual {text : String} {term : Term α} (done : residual text = .ok term)
    {parts : List (List Char)} {last : List Char} (split : sides text.toList = parts ++ [last]) :
    ∃ read : Term α, side last = .ok read := by
  have ends : ((sides text.toList).map side).getLast? = some (side last : Except _ (Term α)) := by
    rw [split, List.map_append, List.map_singleton, List.getLast?_concat]
  rcases cases_of_residual done with alone | ⟨left, right, both, rfl⟩
  · rw [alone] at ends
    exact ⟨term, (Option.some.inj ends).symm⟩
  · rw [both] at ends
    exact ⟨right, (Option.some.inj ends).symm⟩

/-- Text of a comment that stays on its line. -/
structure IsRemark (comment : List Char) : Prop where
  noBreak : '\n' ∉ comment
  noReturn : '\r' ∉ comment
  noNull : '\x00' ∉ comment

/-- Equation text without quotes and comments. White space at its end is such that may also stand
between tokens. -/
structure IsCommentable (text : List Char) : Prop where
  ordinary : ∀ char ∈ text, Token.isOrdinary char = true
  ends : ∀ char ∈ text.rtakeWhile isBlank, Token.isGap char = true ∨ char = '\r'

theorem mem_of_mem_commentBody {comment : List Char} {char : Char}
    (member : char ∈ commentBody comment) (visible : char ≠ ' ') (other : char ≠ '*') :
    char ∈ comment := by
  have inside := (List.rdropWhile_prefix _ _).subset member
  exact mem_of_mem_spellPowers other (List.mem_of_ne_of_mem visible inside)

/-- The last side of a text is read whether or not a comment begins on it. -/
theorem side_append_comment {text last body : List Char} {term : Term α}
    (done : side last = .ok term) (stated : last ∈ sides text) (ends : last.getLast? ≠ some '\r')
    (commentable : IsCommentable text) (remark : IsRemark body) :
    side (last ++ (commentSign text ++ body)) = .ok term := by
  have ordinary : ∀ char ∈ last, Token.isOrdinary char = true := by
    intro char member
    by_cases star : char = '*'
    · rw [star]
      rfl
    · exact commentable.ordinary char (mem_of_mem_sides stated member star)
  have loose : ∀ char ∈ trailingBlanks (spellPowers text),
      Token.isGap char = true ∨ char = '\r' := by
    intro char member
    refine commentable.ends char ?_
    rw [← rtakeWhile_spellPowers]
    exact (Text.trailingBlanks_suffix _).subset member
  have noNull : '\x00' ∉ commentSign text ++ body := by
    rw [commentSign, List.append_assoc, List.mem_append]
    rintro (blank | following)
    · cases (List.mem_rtakeWhile_imp blank : isBlank '\x00' = true)
    · simp [remark.noNull] at following
  have trails : Token.IsTrailing (Token.unifyBreaks (commentSign text ++ body)) := by
    rw [commentSign, List.append_assoc]
    exact Token.isTrailing_unifyBreaks loose remark.noBreak remark.noReturn
  exact side_eq_ok.mpr
    (Term.ofText_append (side_eq_ok.mp done) ordinary ends trails noNull)

theorem IsRemark.first {comment first : List Char} {others : List (List Char)}
    (remark : IsRemark comment)
    (divided : splitSides none [] (commentBody comment) = first :: others) :
    IsRemark (first.rdropWhile isBlank) := by
  have inside {char : Char} (member : char ∈ first.rdropWhile isBlank) (visible : char ≠ ' ')
      (other : char ≠ '*') : char ∈ comment := by
    have kept := (List.rdropWhile_prefix _ _).subset member
    have here := mem_of_mem_splitSides (divided ▸ List.mem_cons_self) kept
    exact mem_of_mem_commentBody (here.resolve_left List.not_mem_nil) visible other
  exact ⟨fun member => remark.noBreak (inside member (by decide) (by decide)),
    fun member => remark.noReturn (inside member (by decide) (by decide)),
    fun member => remark.noNull (inside member (by decide) (by decide))⟩

/-- A text states the same residual if a comment follows it, provided that no equals sign of the
comment stands alone. With a lone one it states another residual or none. -/
theorem residual_comment_iff {text comment : String} {term : Term α} (done : residual text = .ok term)
    (commentable : IsCommentable text.toList) (remark : IsRemark comment.toList) :
    residual (text ++ " # " ++ comment) = .ok term ↔
      isUndivided none comment.toList = true := by
  obtain ⟨parts, last, split, ends, further⟩ := exists_sides_comment text.toList
  obtain ⟨read, found⟩ := exists_side_of_residual done split
  have given : last ≠ [] := by
    rintro rfl
    rw [side_nil] at found
    cases found
  obtain ⟨first, others, divided, extended⟩ := further given comment.toList
  have again := side_append_comment found (split ▸ List.mem_concat_self) ends commentable
    (remark.first divided)
  have spelled : (text ++ " # " ++ comment).toList =
      text.toList ++ ' ' :: '#' :: ' ' :: comment.toList := by
    simp [String.toList_append]
  have whole : (sides (text ++ " # " ++ comment).toList).map (side (α := α)) =
      (sides text.toList).map side ++ others.map (side ∘ trim) := by
    rw [spelled, extended, split]
    simp [again, found]
  rw [← isUndivided_commentBody, ← tail_splitSides_eq_nil_iff, divided, List.tail_cons]
  constructor
  · intro kept
    -- With a further side the residual is a difference, whose left side the text states alone.
    rcases cases_of_residual done with alone | ⟨left, right, both, rfl⟩ <;>
      rcases cases_of_residual kept with single | ⟨first, second, pair, same⟩
    · rw [single, alone] at whole
      simpa using whole
    · rw [pair, alone] at whole
      cases Except.ok.inj (List.cons.inj whole).1
      cases same
    · rw [single, both] at whole
      simp at whole
    · cases same
      rw [pair, both] at whole
      simpa using whole
  · rintro rfl
    rw [List.map_nil, List.append_nil] at whole
    exact residual_of_map_side done whole

set_option maxRecDepth 100000 in
theorem residual_comment_iff_comparison :
    ∃ term : Term ℝ, residual "x = lag(y)" = .ok term ∧
      residual ("x = lag(y)" ++ " # " ++ "y == x before") = .ok term := by
  have stated : (sides "x = lag(y)".toList).map (side (α := ℝ)) =
      [.ok (.name "x"), .ok (.call (.name "lag") [.name "y"] [])] := by
    cbv
  have done := residual_of_sides stated
  have commentable : IsCommentable "x = lag(y)".toList :=
    ⟨List.all_eq_true.mp rfl, by rintro _ ⟨⟩⟩
  exact ⟨_, done,
    (residual_comment_iff done commentable ⟨by decide, by decide, by decide⟩).mpr rfl⟩

set_option maxRecDepth 100000 in
/-- An equals sign that stands alone in a comment begins another side. -/
theorem residual_comment_lone_equals :
    residual "x" = .ok (.name "x" : Term ℝ) ∧ IsCommentable "x".toList ∧
      '\n' ∉ "a = y".toList ∧
      residual ("x" ++ " # " ++ "a = y") = .ok (.binary .sub (.name "x") (.name "y") : Term ℝ) := by
  have alone : (sides "x".toList).map (side (α := ℝ)) = [.ok (.name "x")] := by
    cbv
  have both : (sides ("x" ++ " # " ++ "a = y").toList).map (side (α := ℝ)) =
      [.ok (.name "x"), .ok (.name "y")] := by
    cbv
  exact ⟨residual_of_side alone, ⟨List.all_eq_true.mp rfl, by rintro _ ⟨⟩⟩, by decide,
    residual_of_sides both⟩

end Source.Statement

end Intertemporal
