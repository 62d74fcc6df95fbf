import Intertemporal.Proofs.Source.Numerals
import Intertemporal.Source.Statement

/-!
# Lexing printed text

Text that a printer writes consists of names, numbers and marks with single blanks between them. The
lexer is followed through such text piece by piece: each piece is read as its token wherever a
character follows that ends it. What the reader does to a text before that leaves printed text as it
is.
-/

namespace Intertemporal.Source

namespace Token

variable {α : Type}

/-! ### Names -/

/-- A name of ASCII characters that is no word of the grammar. -/
structure IsPlainName (name : String) : Prop where
  identifier : isIdentifier name.toList = true
  narrow : name.toList.any Text.isWide = false
  notWord : words.lookup name = none
  notReserved : reserved.contains name = false

instance (name : String) : Decidable (IsPlainName name) :=
  decidable_of_iff
    (isIdentifier name.toList = true ∧ name.toList.any Text.isWide = false ∧
      words.lookup name = none ∧ reserved.contains name = false)
    ⟨fun all => ⟨all.1, all.2.1, all.2.2.1, all.2.2.2⟩,
      fun plain => ⟨plain.identifier, plain.narrow, plain.notWord, plain.notReserved⟩⟩

theorem IsPlainName.not_isWide {name : String} (plain : IsPlainName name) :
    ∀ char ∈ name.toList, Text.isWide char = false := by
  simpa using plain.narrow

/-- Characters of ASCII words. -/
def isNameChar (char : Char) : Bool := char.isAlphanum || char == '_'

theorem isWordChar_of_isNameChar {char : Char} (known : isNameChar char = true) :
    isWordChar char = true := by
  rw [isWordChar]
  exact Bool.or_eq_true_iff.mpr (.inl known)

theorem isNumberChar_of_isNameChar {char : Char} (known : isNameChar char = true) :
    isNumberChar char = true := by
  simp only [isNumberChar, Bool.or_assoc]
  rw [← Bool.or_assoc]
  exact Bool.or_eq_true_iff.mpr (.inl known)

theorem toNat_of_isDigit {char : Char} (digit : char.isDigit = true) :
    48 ≤ char.toNat ∧ char.toNat ≤ 57 := by
  unfold Char.isDigit at digit
  simp only [Bool.and_eq_true, decide_eq_true_eq, UInt32.le_iff_toNat_le, ge_iff_le] at digit
  exact digit

theorem toNat_of_isAlpha {char : Char} (letter : char.isAlpha = true) :
    65 ≤ char.toNat ∧ char.toNat ≤ 90 ∨ 97 ≤ char.toNat ∧ char.toNat ≤ 122 := by
  unfold Char.isAlpha Char.isUpper Char.isLower at letter
  simp only [Bool.or_eq_true, Bool.and_eq_true, decide_eq_true_eq, UInt32.le_iff_toNat_le,
    ge_iff_le] at letter
  exact letter

theorem not_isDigit_of_isAlpha {char : Char} (letter : char.isAlpha = true) :
    char.isDigit = false := by
  rw [← Bool.not_eq_true]
  intro digit
  have decimal := toNat_of_isDigit digit
  have letters := toNat_of_isAlpha letter
  omega

/-- A plain name begins with a letter or an underscore and goes on with characters of names. -/
theorem IsPlainName.exists_eq_cons {name : String} (plain : IsPlainName name) :
    ∃ first rest, name.toList = first :: rest ∧ isNameChar first = true ∧
      first.isDigit = false ∧ ∀ char ∈ rest, isNameChar char = true := by
  have identifier := plain.identifier
  have narrow := plain.not_isWide
  rcases spelled : name.toList with _ | ⟨first, rest⟩
  · rw [spelled] at identifier
    cases identifier
  · rw [spelled] at identifier narrow
    have begins := narrow first List.mem_cons_self
    simp only [isIdentifier, Bool.and_eq_true, List.all_eq_true, Text.isIdentifierStart, begins,
      Bool.false_and, Bool.or_false] at identifier
    refine ⟨first, rest, rfl, ?_, ?_, fun char member => ?_⟩
    · rcases Bool.or_eq_true_iff.mp identifier.1 with letter | line
      · simp [isNameChar, Char.isAlphanum, letter]
      · simp [isNameChar, line]
    · rcases Bool.or_eq_true_iff.mp identifier.1 with letter | line
      · exact not_isDigit_of_isAlpha letter
      · rw [eq_of_beq line]
        rfl
    · have inside := narrow char (List.mem_cons_of_mem _ member)
      have known := identifier.2 char member
      simp only [Text.isIdentifierRest, Text.isIdentifierStart, inside, Bool.false_and,
        Bool.or_false, Bool.or_eq_true] at known
      simp only [isNameChar, Char.isAlphanum, Bool.or_eq_true]
      rcases known with (letter | line) | digit
      · exact .inl (.inl letter)
      · exact .inr line
      · exact .inl (.inr digit)

theorem IsPlainName.isNumberChar {name : String} (plain : IsPlainName name) :
    ∀ char ∈ name.toList, isNumberChar char = true := by
  rcases plain.exists_eq_cons with ⟨first, rest, spelled, known, _, following⟩
  intro char member
  rw [spelled] at member
  rcases List.mem_cons.mp member with rfl | inside
  · exact isNumberChar_of_isNameChar known
  · exact isNumberChar_of_isNameChar (following char inside)

theorem IsPlainName.ofWord?_eq {name : String} (plain : IsPlainName name) :
    (ofWord? name.toList : Option (Token α)) = some (.name name) := by
  rw [ofWord?, if_pos plain.identifier, String.ofList_toList, plain.notWord]
  simp only [plain.notReserved, Text.normalName_eq_self plain.not_isWide, String.ofList_toList]
  rfl

/-- Whether a text may follow a word. -/
def endsWord (text : List Char) : Bool := text.head?.all (!isWordChar ·)

theorem takeWhile_isWordChar {rest after : List Char}
    (known : ∀ char ∈ rest, isNameChar char = true) (ends : endsWord after = true) :
    (rest ++ after).takeWhile isWordChar = rest := by
  rw [List.takeWhile_append_of_pos fun char member => isWordChar_of_isNameChar (known char member)]
  cases after with
  | nil => exact List.append_nil rest
  | cons char later =>
      have stops : isWordChar char = false := by simpa [endsWord] using ends
      rw [List.takeWhile_cons_of_neg (by simp [stops]), List.append_nil]

variable [Scalar α]

/-! ### Pieces of a line -/

/-- Characters that do not begin a token: blanks, comments and joined lines. -/
def isLayout (char : Char) : Bool :=
  char == '#' || char == '\\' || char == '\n' || isInlineBlank char

theorem ofLine_of_scan {first : Char} {rest : List Char} {token : Token α} {count : Nat}
    (plain : isLayout first = false) (scanned : scan first rest = some (token, count))
    (depth : Nat) :
    ofLine depth (first :: rest) =
      (ofLine (depthAfter depth token) (rest.drop count)).map (token :: ·) := by
  simp only [isLayout, Bool.or_eq_false_iff, beq_eq_false_iff_ne] at plain
  rw [ofLine]
  · simp [plain, scanned]
  all_goals simp [plain]

theorem ofLine_blank (depth : Nat) (rest : List Char) :
    (ofLine depth (' ' :: rest) : Option (List (Token α))) = ofLine depth rest := by
  rw [ofLine]
  · rfl
  all_goals decide

theorem scan_word {first : Char} {rest after : List Char} (known : isNameChar first = true)
    (letter : first.isDigit = false) (following : ∀ char ∈ rest, isNameChar char = true)
    (ends : endsWord after = true) :
    (scan first (rest ++ after) : Option (Token α × Nat)) =
      (ofWord? (first :: rest)).map fun token => (token, rest.length) := by
  have notPoint : (first == '.') = false := by
    rw [beq_eq_false_iff_ne]
    rintro rfl
    cases known
  have notQuote : (first == '\x27' || first == '\x22') = false := by
    rw [Bool.or_eq_false_iff, beq_eq_false_iff_ne, beq_eq_false_iff_ne]
    constructor <;> rintro rfl <;> cases known
  simp only [scan, letter, notPoint, notQuote, isWordChar_of_isNameChar known,
    takeWhile_isWordChar following ends, Bool.false_and, Bool.or_false, Bool.false_eq_true,
    if_false, if_true]

/-- A plain name is read as a name in front of whatever ends a word. -/
theorem ofLine_name {name : String} (plain : IsPlainName name) (depth : Nat) {after : List Char}
    (ends : endsWord after = true) :
    ofLine depth (name.toList ++ after) =
      (ofLine depth after).map ((.name name : Token α) :: ·) := by
  rcases plain.exists_eq_cons with ⟨first, rest, spelled, known, letter, following⟩
  have read : (ofWord? (first :: rest) : Option (Token α)) = some (.name name) :=
    spelled ▸ plain.ofWord?_eq
  have scanned : scan first (rest ++ after) = some ((.name name : Token α), rest.length) := by
    rw [scan_word known letter following ends, read]
    rfl
  have notLayout : isLayout first = false := by
    rw [← Bool.not_eq_true]
    intro layout
    simp only [isLayout, isInlineBlank, Bool.or_eq_true, beq_iff_eq] at layout
    rcases layout with ((rfl | rfl) | rfl) | (rfl | rfl) | rfl <;> cases known
  rw [spelled, List.cons_append, ofLine_of_scan notLayout scanned, List.drop_left]
  rfl

/-- Characters that can only begin a mark. -/
def isMarkChar (char : Char) : Bool :=
  !(isLayout char || char.isDigit || char == '.' || char == '\x27' || char == '\x22' ||
    isWordChar char)

theorem ofLine_mark (first : Char) (mark : Mark) (count depth : Nat) {rest : List Char}
    (special : isMarkChar first = true) (recognised : mark? first rest = some (mark, count)) :
    ofLine depth (first :: rest) =
      (ofLine (depthAfter depth (.mark mark : Token α)) (rest.drop count)).map
        ((.mark mark : Token α) :: ·) := by
  simp only [isMarkChar, Bool.not_eq_true', Bool.or_eq_false_iff] at special
  rcases special with ⟨⟨⟨⟨⟨notLayout, notDigit⟩, notPoint⟩, notSingle⟩, notDouble⟩, notWord⟩
  refine ofLine_of_scan notLayout ?_ depth
  simp [scan, notDigit, notPoint, notSingle, notDouble, notWord, recognised]

/-- A number is read as a constant in front of whatever ends it. -/
theorem ofLine_number {text : List Char} {value : Literal α} (whole : ReadsWhole number text value)
    (digit : text.head?.any Char.isDigit = true) (depth : Nat) {after : List Char}
    (ends : stops after = true) :
    ofLine depth (text ++ after) = (ofLine depth after).map (.literal value :: ·) := by
  rcases text with _ | ⟨first, rest⟩
  · cases digit
  · have begins : first.isDigit = true := digit
    have read : number (first :: (rest ++ after)) = some (value, after) := whole.found ends
    have notLayout : isLayout first = false := by
      rw [← Bool.not_eq_true]
      intro layout
      simp only [isLayout, isInlineBlank, Bool.or_eq_true, beq_iff_eq] at layout
      rcases layout with ((rfl | rfl) | rfl) | (rfl | rfl) | rfl <;> cases begins
    have scanned : scan first (rest ++ after) = some (.literal value, rest.length) := by
      simp [scan, begins, read]
    rw [List.cons_append, ofLine_of_scan notLayout scanned, List.drop_left]
    rfl

/-! ### Printed text -/

/-- Characters of printed text. -/
def isPrinted (char : Char) : Bool :=
  isNumberChar char || char == '(' || char == ')' || char == '[' || char == ']' || char == ',' ||
    char == ' ' || char == '*' || char == '/'

theorem isPrinted_of_isNumberChar {char : Char} (known : isNumberChar char = true) :
    isPrinted char = true := by
  simp [isPrinted, known]

theorem isPrinted_of_isStop {char : Char} (stop : isStop char = true) : isPrinted char = true := by
  simp only [isStop, Bool.or_eq_true, beq_iff_eq] at stop
  rcases stop with ((rfl | rfl) | rfl) | rfl <;> rfl

/-- Printed text that is read as certain tokens in front of whatever ends it, within any number of
brackets. -/
structure IsWritten (text : List Char) (tokens : List (Token α)) : Prop where
  plain : ∀ char ∈ text, isPrinted char = true
  read : ∀ depth {after}, stops after = true →
    ofLine depth (text ++ after) = (ofLine depth after).map (tokens ++ ·)

theorem isWritten_nil : IsWritten [] ([] : List (Token α)) where
  plain _ member := absurd member List.not_mem_nil
  read depth after _ := by simp

theorem endsWord_of_stops {text : List Char} (ends : stops text = true) : endsWord text = true := by
  rcases stops_cases ends with rfl | ⟨char, rest, rfl, rfl | rfl | rfl | rfl⟩ <;> rfl

theorem endsWord_append {text after : List Char} (ends : endsWord text = true)
    (stop : stops after = true) : endsWord (text ++ after) = true := by
  cases text with
  | nil => exact endsWord_of_stops stop
  | cons _ _ => exact ends

variable {text : List Char} {tokens : List (Token α)}

/-- A name in front of printed text that does not continue it. -/
theorem IsWritten.named {name : String} (written : IsWritten text tokens)
    (plain : IsPlainName name) (ends : endsWord text = true) :
    IsWritten (name.toList ++ text) (.name name :: tokens) where
  plain := List.forall_mem_append.mpr
    ⟨fun char member => isPrinted_of_isNumberChar (plain.isNumberChar char member), written.plain⟩
  read depth after stop := by
    rw [List.append_assoc, ofLine_name plain depth (endsWord_append ends stop),
      written.read depth stop, Option.map_map]
    rfl

theorem isWritten_number {value : Literal α} (whole : ReadsWhole number text value)
    (digit : text.head?.any Char.isDigit = true) : IsWritten text [.literal value] where
  plain char member := isPrinted_of_isNumberChar (whole.plain char member)
  read depth _ stop := ofLine_number whole digit depth stop

/-! ### Marks -/

/-- The characters of a sign in front of an operand. -/
inductive IsSign : Char → Mark → Prop
  | plus : IsSign '+' .plus
  | minus : IsSign '-' .minus

/-- Signs are read as such, unless they begin an assignment or an arrow. -/
theorem ofLine_sign {sign : Char} {mark : Mark} (signs : IsSign sign mark) (depth : Nat)
    {rest : List Char} (printed : rest.head?.all isPrinted = true) :
    ofLine depth (sign :: rest) = (ofLine depth rest).map ((.mark mark : Token α) :: ·) := by
  rcases rest with _ | ⟨next, later⟩
  · cases signs
    · exact ofLine_mark '+' .plus 0 depth rfl rfl
    · exact ofLine_mark '-' .minus 0 depth rfl rfl
  · have notAssign : next ≠ '=' := by rintro rfl; cases printed
    have notArrow : next ≠ '>' := by rintro rfl; cases printed
    cases signs
    · apply ofLine_mark '+' .plus 0 depth rfl
      simp [mark?, mark?.compoundFree, notAssign]
    · apply ofLine_mark '-' .minus 0 depth rfl
      simp [mark?, mark?.compoundFree, notAssign, notArrow]

theorem IsWritten.head?_append (written : IsWritten text tokens) {after : List Char}
    (stop : stops after = true) : (text ++ after).head?.all isPrinted = true := by
  cases text with
  | nil =>
      cases after with
      | nil => rfl
      | cons char _ => exact isPrinted_of_isStop stop
  | cons char _ => exact written.plain char List.mem_cons_self

/-- A sign in front of printed text. -/
theorem IsWritten.signed (written : IsWritten text tokens) {sign : Char} {mark : Mark}
    (signs : IsSign sign mark) : IsWritten (sign :: text) (.mark mark :: tokens) where
  plain := List.forall_mem_cons.mpr ⟨by cases signs <;> rfl, written.plain⟩
  read depth after stop := by
    rw [List.cons_append, ofLine_sign signs depth (written.head?_append stop),
      written.read depth stop, Option.map_map]
    rfl

/-- What stands between two operands or two arguments. -/
inductive Separates : List Char → Mark → Prop
  | comma : Separates [',', ' '] .comma
  | plus : Separates [' ', '+', ' '] .plus
  | minus : Separates [' ', '-', ' '] .minus
  | star : Separates [' ', '*', ' '] .star
  | doubleStar : Separates [' ', '*', '*', ' '] .doubleStar
  | slash : Separates [' ', '/', ' '] .slash

theorem ofLine_separator {between : List Char} {mark : Mark} (separates : Separates between mark)
    (depth : Nat) (rest : List Char) :
    ofLine depth (between ++ rest) = (ofLine depth rest).map ((.mark mark : Token α) :: ·) := by
  rw [← ofLine_blank depth rest]
  cases separates with
  | comma => exact ofLine_mark ',' .comma 0 depth rfl rfl
  | plus => exact (ofLine_blank depth _).trans (ofLine_mark '+' .plus 0 depth rfl rfl)
  | minus => exact (ofLine_blank depth _).trans (ofLine_mark '-' .minus 0 depth rfl rfl)
  | star => exact (ofLine_blank depth _).trans (ofLine_mark '*' .star 0 depth rfl rfl)
  | doubleStar => exact (ofLine_blank depth _).trans (ofLine_mark '*' .doubleStar 1 depth rfl rfl)
  | slash => exact (ofLine_blank depth _).trans (ofLine_mark '/' .slash 0 depth rfl rfl)

/-- Printed texts with a separator between them. -/
theorem IsWritten.joined {first second between : List Char} {left right : List (Token α)}
    {mark : Mark} (written : IsWritten first left) (further : IsWritten second right)
    (separates : Separates between mark) :
    IsWritten (first ++ (between ++ second)) (left ++ .mark mark :: right) where
  plain := by
    have known : between.all isPrinted = true := by cases separates <;> rfl
    simp only [List.forall_mem_append]
    exact ⟨written.plain, List.all_eq_true.mp known, further.plain⟩
  read depth after stop := by
    have ends : stops (between ++ (second ++ after)) = true := by cases separates <;> rfl
    rw [List.append_assoc, List.append_assoc, written.read depth ends,
      ofLine_separator separates, further.read depth stop, Option.map_map, Option.map_map]
    congr 1
    funext others
    simp

/-- Brackets that belong together. -/
inductive Encloses : Char → Char → Mark → Mark → Prop
  | parentheses : Encloses '(' ')' .leftParen .rightParen
  | brackets : Encloses '[' ']' .leftBracket .rightBracket

variable {opening closing : Char} {left right : Mark}

/-- Printed text within brackets. -/
theorem IsWritten.enclosed (written : IsWritten text tokens)
    (encloses : Encloses opening closing left right) :
    IsWritten (opening :: (text ++ [closing])) (.mark left :: (tokens ++ [.mark right])) where
  plain := by
    have ends : isPrinted opening = true ∧ isPrinted closing = true := by
      cases encloses <;> exact ⟨rfl, rfl⟩
    exact List.forall_mem_cons.mpr ⟨ends.1,
      List.forall_mem_append.mpr ⟨written.plain, List.forall_mem_singleton.mpr ends.2⟩⟩
  read depth after stop := by
    have opened (rest : List Char) : ofLine depth (opening :: rest) =
        (ofLine (depth + 1) rest).map ((.mark left : Token α) :: ·) := by
      cases encloses
      · exact ofLine_mark '(' .leftParen 0 depth rfl rfl
      · exact ofLine_mark '[' .leftBracket 0 depth rfl rfl
    have closed (rest : List Char) : ofLine (depth + 1) (closing :: rest) =
        (ofLine depth rest).map ((.mark right : Token α) :: ·) := by
      cases encloses
      · exact ofLine_mark ')' .rightParen 0 (depth + 1) rfl rfl
      · exact ofLine_mark ']' .rightBracket 0 (depth + 1) rfl rfl
    have ends : stops (closing :: after) = true := by cases encloses <;> rfl
    rw [List.cons_append, List.append_assoc, List.singleton_append, opened,
      written.read (depth + 1) ends, closed, Option.map_map, Option.map_map]
    congr 1
    funext others
    simp

/-! ### Whole texts -/

/-- Whether no white space stands at the ends of a text. -/
def isTrimmed (text : List Char) : Bool :=
  text.head?.all (!Text.isBlank ·) && text.getLast?.all (!Text.isBlank ·)

theorem toNat_of_isNumberChar {char : Char} (known : isNumberChar char = true) :
    43 ≤ char.toNat ∧ char.toNat ≤ 122 := by
  simp only [isNumberChar, Char.isAlphanum, Bool.or_eq_true, beq_iff_eq] at known
  rcases known with ((((letter | digit) | rfl) | rfl) | rfl) | rfl
  · have letters := toNat_of_isAlpha letter
    omega
  · have decimal := toNat_of_isDigit digit
    omega
  all_goals decide

theorem not_isBlank_of_isNumberChar {char : Char} (known : isNumberChar char = true) :
    Text.isBlank char = false := by
  have bounds := toNat_of_isNumberChar known
  rw [← Bool.not_eq_true]
  intro blank
  simp only [Text.isBlank, Bool.or_eq_true, Bool.and_eq_true, decide_eq_true_eq,
    beq_iff_eq] at blank
  omega

theorem isTrimmed_of_solid {text : List Char} (solid : ∀ char ∈ text, isNumberChar char = true) :
    isTrimmed text = true := by
  have notBlank {char : Char} (member : char ∈ text) : (!Text.isBlank char) = true := by
    rw [not_isBlank_of_isNumberChar (solid char member)]
    rfl
  rw [isTrimmed, Bool.and_eq_true, Option.all_eq_true, Option.all_eq_true]
  exact ⟨fun char first => notBlank (List.mem_of_head? first),
    fun char last => notBlank (List.mem_of_getLast? last)⟩

theorem isTrimmed_append {front back : List Char} (first : isTrimmed front = true)
    (last : isTrimmed back = true) : isTrimmed (front ++ back) = true := by
  simp only [isTrimmed, Bool.and_eq_true, List.head?_append, List.getLast?_append] at *
  constructor
  · cases front with
    | nil => exact last.1
    | cons char rest => exact first.1
  · rcases final : back.getLast? with _ | char
    · exact first.2
    · rw [final] at last
      exact last.2

theorem isTrimmed_enclosed (text : List Char) (encloses : Encloses opening closing left right) :
    isTrimmed (opening :: (text ++ [closing])) = true := by
  have last : (opening :: (text ++ [closing])).getLast? = some closing :=
    List.getLast?_concat (l := opening :: text)
  rw [isTrimmed, last]
  cases encloses <;> rfl

theorem trim_eq_self {text : List Char} (trimmed : isTrimmed text = true) :
    Text.trim text = text := by
  have kept {text : List Char} (first : text.head?.all (!Text.isBlank ·) = true) :
      Text.dropBlank text = text := by
    cases text with
    | nil => rfl
    | cons char rest => exact List.dropWhile_cons_of_neg (by simpa using first)
  rw [isTrimmed, Bool.and_eq_true] at trimmed
  rw [Text.trim, kept trimmed.1, kept (by rw [List.head?_reverse]; exact trimmed.2),
    List.reverse_reverse]

theorem unifyBreaks_eq_self {text : List Char} (plain : '\x0d' ∉ text) :
    unifyBreaks text = text := by
  induction text with
  | nil => rfl
  | cons char rest ih =>
      rw [List.mem_cons, not_or] at plain
      rw [unifyBreaks, ih plain.2]
      · exact fun _ same _ => plain.1 same.symm
      · exact fun same => plain.1 same.symm

theorem firstLine_eq_some {text : List Char} (plain : ∀ char ∈ text, isPrinted char = true)
    (trimmed : isTrimmed text = true) : firstLine 0 0 text = some text := by
  rcases text with _ | ⟨char, rest⟩
  · rw [firstLine]
  · have printed := plain char List.mem_cons_self
    have notBlank : char ≠ ' ' := by rintro rfl; cases trimmed
    rw [firstLine]
    · rfl
    · exact List.cons_ne_nil char rest
    · rintro _ ⟨⟩
      exact notBlank rfl
    all_goals rintro _ ⟨⟩; cases printed

/-- A printed text consists of the tokens that it is read as. -/
theorem IsWritten.ofText (written : IsWritten text tokens) (trimmed : isTrimmed text = true) :
    ofText text = some tokens := by
  have ends : stops [] = true := rfl
  have read := written.read 0 ends
  rw [List.append_nil] at read
  have noReturn : '\x0d' ∉ text := fun member => by cases written.plain _ member
  rw [Token.ofText, unifyBreaks_eq_self noReturn, firstLine_eq_some written.plain trimmed]
  simp [read, ofLine]

end Token

namespace Statement

/-- Characters other than the caret stay as they are. -/
theorem spellPowers_eq_self {text : List Char} (plain : '^' ∉ text) : spellPowers text = text := by
  have kept : ∀ char ∈ text, (if char = '^' then ['*', '*'] else [char]) = [char] := by
    intro char member
    apply if_neg
    rintro rfl
    exact plain member
  rw [spellPowers, List.flatMap_congr kept, List.flatMap_singleton']

theorem spellPowers_append (first second : List Char) :
    spellPowers (first ++ second) = spellPowers first ++ spellPowers second :=
  List.flatMap_append

theorem splitSides_eq_singleton {text : List Char} (plain : '=' ∉ text) (previous : Option Char)
    (read : List Char) : splitSides previous read text = [read.reverse ++ text] := by
  induction text generalizing previous read with
  | nil => rw [splitSides, List.append_nil]
  | cons char rest ih =>
      rw [List.mem_cons, not_or] at plain
      rw [splitSides, if_neg fun equals => plain.1 equals.1.symm, ih plain.2, List.reverse_cons,
        List.append_assoc, List.singleton_append]

end Statement

end Intertemporal.Source
