import Mathlib.Data.List.Basic
import Mathlib.Tactic.IntervalCases
import Intertemporal.Source.Token

/-!
# Numbers in equation text

A number is read the same wherever nothing runs into it: in front of a blank, a line break, a comma
or a closing bracket. `Token.ReadsOn` says so of a function that reads the front of a text, and the
number of a text is followed through the functions that read its parts. `Token.ReadsWhole` is the
case of a text that is one number to its end.
-/

namespace Intertemporal.Source.Token

variable {α β γ : Type}

/-- Characters that numbers are written with. -/
def isNumberChar (char : Char) : Bool :=
  char.isAlphanum || char == '_' || char == '.' || char == '+' || char == '-'

/-- Characters that end what stands in front of them. -/
def isStop (char : Char) : Bool :=
  char == ' ' || char == ',' || char == ')' || char == ']'

/-- Whether a text may follow a number or a name: it is empty or begins with a character that ends
them. -/
def stops (text : List Char) : Bool := text.head?.all isStop

theorem stops_cases {text : List Char} (ends : stops text = true) :
    text = [] ∨ ∃ char rest, text = char :: rest ∧
      (char = ' ' ∨ char = ',' ∨ char = ')' ∨ char = ']') := by
  cases text with
  | nil => exact .inl rfl
  | cons char rest =>
      refine .inr ⟨char, rest, rfl, ?_⟩
      simpa [stops, isStop, or_assoc] using ends

/-- Characters that end a number or a name in front of them. -/
def isEnd (char : Char) : Bool := isStop char || isInlineBlank char || char == '\n'

theorem isEnd_cases {char : Char} (ends : isEnd char = true) :
    char = ' ' ∨ char = ',' ∨ char = ')' ∨ char = ']' ∨ char = '\t' ∨ char = '\x0c' ∨
      char = '\n' := by
  simp only [isEnd, isStop, isInlineBlank, Bool.or_eq_true, beq_iff_eq] at ends
  tauto

/-- A text of which a number is read: the number consists of its characters, and the same is read
if the text goes on with a character that ends numbers. -/
structure ReadsOn (read : List Char → Option (β × List Char)) (text : List Char) (value : β)
    (rest : List Char) : Prop where
  plain : ∀ char ∈ text, isNumberChar char = true ∨ char ∈ rest
  found : ∀ {last trailer}, isEnd last = true →
    read (text ++ last :: trailer) = some (value, rest ++ last :: trailer)

/-- A text that is read whole: it consists of characters of numbers, and the same is read in front
of whatever ends a number. -/
structure ReadsWhole (read : List Char → Option (Literal α × List Char)) (text : List Char)
    (value : Literal α) : Prop where
  plain : ∀ char ∈ text, isNumberChar char = true
  found : ∀ {after}, stops after = true → read (text ++ after) = some (value, after)

variable {text rest : List Char} {value : Literal α}

theorem ReadsOn.whole {read : List Char → Option (Literal α × List Char)}
    (reads : ReadsOn read text value []) (done : read text = some (value, [])) :
    ReadsWhole read text value where
  plain char member := (reads.plain char member).resolve_right List.not_mem_nil
  found {after} ends := by
    cases after with
    | nil => rwa [List.append_nil]
    | cons last trailer =>
        have stop : isStop last = true := ends
        exact reads.found (by rw [isEnd, stop, Bool.true_or, Bool.true_or])

/-- What is read by one function is read by another that goes on with it. -/
theorem ReadsOn.through {read later : List Char → Option (β × List Char)} {value : β}
    (reads : ReadsOn later text value rest)
    (enter : ∀ last trailer, isEnd last = true →
      read (text ++ last :: trailer) = later (text ++ last :: trailer)) :
    ReadsOn read text value rest where
  plain := reads.plain
  found ends := (enter _ _ ends).trans (reads.found ends)

/-- Characters in front of what another function reads. -/
theorem ReadsOn.of_append {read later : List Char → Option (β × List Char)} {value : β}
    (reads : ReadsOn later text value rest) (front : List Char)
    (known : front.all isNumberChar = true)
    (enter : ∀ after, read (front ++ (text ++ after)) = later (text ++ after)) :
    ReadsOn read (front ++ text) value rest where
  plain char member := by
    rcases List.mem_append.mp member with here | inside
    · exact .inl (List.all_eq_true.mp known char here)
    · exact reads.plain char inside
  found ends := by
    rw [List.append_assoc, enter]
    exact reads.found ends

/-- What is read by two functions in turn. -/
theorem ReadsOn.andThen {first : List Char → Option (β × List Char)} {part : β}
    {middle : List Char} (reads : ReadsOn first text part middle)
    {read later : List Char → Option (γ × List Char)} {value : γ}
    (further : ReadsOn later middle value rest)
    (enter : ∀ last trailer, isEnd last = true →
      first (text ++ last :: trailer) = some (part, middle ++ last :: trailer) →
        read (text ++ last :: trailer) = later (middle ++ last :: trailer)) :
    ReadsOn read text value rest where
  plain char member := by
    rcases reads.plain char member with known | inside
    · exact .inl known
    · exact further.plain char inside
  found ends := (enter _ _ ends (reads.found ends)).trans (further.found ends)

/-! ### Digits -/

theorem digitRun_cons {isDigit : Char → Bool} {char : Char} (other : char ≠ '_')
    (rest : List Char) :
    digitRun isDigit (char :: rest) =
      if isDigit char then (digitRun isDigit rest).map fun found => (char :: found.1, found.2)
      else some ([], char :: rest) := by
  rw [digitRun]
  · exact fun same _ => other same
  · exact fun _ _ same _ => other same

/-- Digits are read up to whatever does not continue them. -/
theorem digitRun_append {isDigit : Char → Bool} {text digits rest after : List Char}
    (found : digitRun isDigit text = some (digits, rest))
    (ends : ∀ char ∈ after.head?, isDigit char = false ∧ char ≠ '_') :
    digitRun isDigit (text ++ after) = some (digits, rest ++ after) := by
  have notUnderscore {char : Char} {later : List Char} (single : char = '_' → later = [] → False)
      (double : ∀ next rest, char = '_' → later = next :: rest → False) : char ≠ '_' := by
    rintro rfl
    cases later with
    | nil => exact single rfl rfl
    | cons next rest => exact double next rest rfl rfl
  fun_induction digitRun isDigit text generalizing digits rest with
  | case1 =>
      cases found
      cases after with
      | nil => rfl
      | cons char later =>
          have other := ends char rfl
          rw [List.nil_append, digitRun_cons other.2, other.1]
          rfl
  | case2 => cases found
  | case3 next later digit ih =>
      rcases Option.map_eq_some_iff.mp found with ⟨⟨inner, remaining⟩, here, ⟨⟩⟩
      simp [digitRun, digit, ih here]
  | case4 => cases found
  | case5 char later single double digit ih =>
      rcases Option.map_eq_some_iff.mp found with ⟨⟨inner, remaining⟩, here, ⟨⟩⟩
      rw [List.cons_append, digitRun_cons (notUnderscore single double), digit, ih here]
      rfl
  | case6 char later single double notDigit =>
      cases found
      rw [List.cons_append, digitRun_cons (notUnderscore single double), if_neg notDigit]

/-- What is read as digits consists of digits and underscores. -/
theorem mem_of_digitRun {isDigit : Char → Bool} {text digits rest : List Char} {char : Char}
    (found : digitRun isDigit text = some (digits, rest)) (member : char ∈ text) :
    isDigit char = true ∨ char = '_' ∨ char ∈ rest := by
  fun_induction digitRun isDigit text generalizing digits rest with
  | case1 => cases member
  | case2 => cases found
  | case3 next later digit ih =>
      rcases Option.map_eq_some_iff.mp found with ⟨⟨inner, remaining⟩, here, ⟨⟩⟩
      rcases List.mem_cons.mp member with rfl | inside
      · exact .inr (.inl rfl)
      · rcases List.mem_cons.mp inside with rfl | inside
        · exact .inl digit
        · exact ih here inside
  | case4 => cases found
  | case5 first later single double digit ih =>
      rcases Option.map_eq_some_iff.mp found with ⟨⟨inner, remaining⟩, here, ⟨⟩⟩
      rcases List.mem_cons.mp member with rfl | inside
      · exact .inl digit
      · exact ih here inside
  | case6 first later single double notDigit =>
      cases found
      exact .inr (.inr member)

theorem readsOn_digitRun {isDigit : Char → Bool} {digits : List Char}
    (known : ∀ char, isDigit char = true → isNumberChar char = true)
    (other : ∀ char, isEnd char = true → isDigit char = false)
    (done : digitRun isDigit text = some (digits, rest)) :
    ReadsOn (digitRun isDigit) text digits rest where
  plain char member := by
    rcases mem_of_digitRun done member with digit | rfl | inside
    · exact .inl (known char digit)
    · exact .inl rfl
    · exact .inr inside
  found {last _} ends := by
    refine digitRun_append done ?_
    rintro _ ⟨⟩
    refine ⟨other last ends, ?_⟩
    rintro rfl
    cases ends

theorem isNumberChar_of_isDigit {char : Char} (digit : char.isDigit = true) :
    isNumberChar char = true := by
  simp [isNumberChar, Char.isAlphanum, digit]

theorem isDigit_of_isEnd (char : Char) (ends : isEnd char = true) : char.isDigit = false := by
  rcases isEnd_cases ends with rfl | rfl | rfl | rfl | rfl | rfl | rfl <;> rfl

theorem readsOn_decimalDigits {digits : List Char}
    (done : digitRun Char.isDigit text = some (digits, rest)) :
    ReadsOn (digitRun Char.isDigit) text digits rest :=
  readsOn_digitRun (fun _ => isNumberChar_of_isDigit) isDigit_of_isEnd done

/-! ### Ends of numbers -/

theorem isWordChar_of_isEnd {char : Char} (ends : isEnd char = true) : isWordChar char = false := by
  rcases isEnd_cases ends with rfl | rfl | rfl | rfl | rfl | rfl | rfl <;> rfl

theorem startsWithWord_append {word trailer : List Char} {last : Char}
    (starts : startsWithWord word text = true) (ends : isEnd last = true) :
    startsWithWord word (text ++ last :: trailer) = true := by
  rw [startsWithWord, Bool.and_eq_true, List.isPrefixOf_iff_prefix] at starts ⊢
  obtain ⟨⟨rest, rfl⟩, alone⟩ := starts
  rw [List.append_assoc, List.drop_left] at *
  refine ⟨List.prefix_append _ _, ?_⟩
  cases rest with
  | nil => simp [isWordChar_of_isEnd ends]
  | cons char later => exact alone

theorem endsNumber_cons {char : Char} (other : char ≠ 'i') (rest : List Char) :
    endsNumber (char :: rest) = (!isWordChar char ||
      [['a', 'n', 'd'], ['e', 'l', 's', 'e'], ['f', 'o', 'r'], ['o', 'r'], ['n', 'o', 't']].any
        (startsWithWord · (char :: rest))) := by
  rw [endsNumber]
  exact fun _ _ same _ => other same

theorem endsNumber_append {trailer : List Char} {last : Char} (done : endsNumber text = true)
    (ends : isEnd last = true) : endsNumber (text ++ last :: trailer) = true := by
  rcases text with _ | ⟨char, rest⟩
  · rcases isEnd_cases ends with rfl | rfl | rfl | rfl | rfl | rfl | rfl <;> rfl
  · by_cases letter : char = 'i'
    · subst letter
      cases rest with
      | nil => cases done
      | cons next later => exact done
    · rw [endsNumber_cons letter, Bool.or_eq_true, List.any_eq_true] at done
      rw [List.cons_append, endsNumber_cons letter, Bool.or_eq_true, List.any_eq_true]
      refine done.imp_right ?_
      rintro ⟨word, member, starts⟩
      exact ⟨word, member, startsWithWord_append starts ends⟩

/-- A finished number is finished wherever the text goes on. -/
theorem readsOn_finishNumber {result : Literal α}
    (done : finishNumber value text = some (result, rest)) :
    ReadsOn (finishNumber value) text result rest := by
  unfold finishNumber at done
  split at done
  · rename_i finished
    cases done
    exact ⟨fun _ member => .inr member, fun ends => if_pos (endsNumber_append finished ends)⟩
  · cases done

/-- Digits that make an integer make it wherever the text goes on. -/
theorem readsOn_wholeNumber {digits : List Char} {mantissa : Nat}
    (done : decimalNumber.wholeNumber digits mantissa text = some (value, rest)) :
    ReadsOn (decimalNumber.wholeNumber digits mantissa) text value rest := by
  unfold decimalNumber.wholeNumber at done
  split at done
  · cases done
  · rename_i proper
    exact (readsOn_finishNumber done).through fun _ _ _ => if_neg proper

theorem isNumberChar_of_isAlpha {char : Char} (letter : char.isAlpha = true) :
    isNumberChar char = true := by
  simp [isNumberChar, Char.isAlphanum, letter]

theorem isNumberChar_of_digit? {base : Nat} {char : Char}
    (digit : (Text.digit? base char).isSome = true) : isNumberChar char = true := by
  rcases Option.isSome_iff_exists.mp digit with ⟨value, found⟩
  have hexadecimal := (Option.filter_eq_some_iff.mp found).1
  unfold Text.hexDigit? at hexadecimal
  split at hexadecimal
  · rename_i decimal
    exact isNumberChar_of_isDigit decimal
  · split at hexadecimal
    · rename_i letter
      apply isNumberChar_of_isAlpha
      unfold Char.isAlpha Char.isLower
      simp only [Bool.or_eq_true, Bool.and_eq_true, decide_eq_true_eq]
      exact .inr ⟨letter.1, UInt32.le_trans letter.2 (by decide)⟩
    · split at hexadecimal
      · rename_i letter
        apply isNumberChar_of_isAlpha
        unfold Char.isAlpha Char.isUpper
        simp only [Bool.or_eq_true, decide_eq_true_eq]
        exact .inl ⟨letter.1, UInt32.le_trans letter.2 (by decide)⟩
      · cases hexadecimal

theorem digit?_of_isEnd {base : Nat} (char : Char) (ends : isEnd char = true) :
    (Text.digit? base char).isSome = false := by
  rcases isEnd_cases ends with rfl | rfl | rfl | rfl | rfl | rfl | rfl <;> rfl

theorem readsOn_basedNumber {base : Nat} (done : basedNumber base text = some (value, rest)) :
    ReadsOn (basedNumber base) text value rest := by
  rcases Option.bind_eq_some_iff.mp done with ⟨⟨digits, middle⟩, found, remaining⟩
  dsimp only at remaining
  split at remaining
  · cases remaining
  · rename_i given
    refine (readsOn_digitRun (fun _ => isNumberChar_of_digit?) digit?_of_isEnd found).andThen
      (readsOn_finishNumber remaining) fun _ _ _ again => ?_
    rw [basedNumber, again]
    exact if_neg given

variable [Scalar α]

theorem finishReal_of_ne (small : text.head? ≠ some 'j') (large : text.head? ≠ some 'J')
    (mantissa : Nat) (exponent : Int) :
    finishReal mantissa exponent text =
      finishNumber (.real (Scalar.ofDecimal mantissa exponent) : Literal α) text := by
  rw [finishReal]
  · rintro _ rfl
    exact small rfl
  · rintro _ rfl
    exact large rfl

theorem head?_append_ne {trailer : List Char} {last char : Char} (ends : isEnd last = true)
    (other : isEnd char = false) (absent : text.head? ≠ some char) :
    (text ++ last :: trailer).head? ≠ some char := by
  cases text with
  | nil =>
      rintro ⟨⟩
      rw [ends] at other
      cases other
  | cons first later => exact absent

theorem readsOn_finishReal {mantissa : Nat} {exponent : Int}
    (done : finishReal mantissa exponent text = some (value, rest)) :
    ReadsOn (finishReal mantissa exponent) text value rest := by
  by_cases small : text.head? = some 'j'
  · obtain ⟨later, rfl⟩ := List.head?_eq_some_iff.mp small
    exact (readsOn_finishNumber done).of_append ['j'] rfl fun _ => rfl
  · by_cases large : text.head? = some 'J'
    · obtain ⟨later, rfl⟩ := List.head?_eq_some_iff.mp large
      exact (readsOn_finishNumber done).of_append ['J'] rfl fun _ => rfl
    · rw [finishReal_of_ne small large] at done
      exact (readsOn_finishNumber done).through fun _ _ ends =>
        finishReal_of_ne (head?_append_ne ends rfl small) (head?_append_ne ends rfl large) _ _

/-! ### Parts of a number -/

theorem readsOn_exponentDigits {negative : Bool} {mantissa : Nat} {shift : Int}
    (done : exponentDigits negative mantissa shift text = some (value, rest)) :
    ReadsOn (exponentDigits negative mantissa shift) text value rest := by
  rcases Option.bind_eq_some_iff.mp done with ⟨⟨digits, middle⟩, found, remaining⟩
  refine (readsOn_decimalDigits found).andThen (readsOn_finishReal remaining)
    fun _ _ _ again => ?_
  rw [exponentDigits, again]
  rfl

/-- The letters in front of an exponent. -/
def isExponentLetter (char : Char) : Bool := char == 'e' || char == 'E'

theorem realTail_digit {letter : Char} (known : isExponentLetter letter = true) {digit : Char}
    (isDigit : digit.isDigit = true) (mantissa : Nat) (shift : Int) (rest : List Char) :
    (realTail mantissa shift (letter :: digit :: rest) : Option (Literal α × List Char)) =
      exponentDigits false mantissa shift (digit :: rest) := by
  have notPlus : digit ≠ '+' := by rintro rfl; cases isDigit
  have notMinus : digit ≠ '-' := by rintro rfl; cases isDigit
  simp only [isExponentLetter, Bool.or_eq_true, beq_iff_eq] at known
  rcases known with rfl | rfl <;> simp [realTail, notPlus, notMinus, isDigit]

theorem realTail_sign {letter sign : Char} (known : isExponentLetter letter = true)
    (signs : sign = '+' ∨ sign = '-') (digit : Char) (mantissa : Nat) (shift : Int)
    (rest : List Char) :
    (realTail mantissa shift (letter :: sign :: digit :: rest) : Option (Literal α × List Char)) =
      if digit.isDigit then exponentDigits (sign == '-') mantissa shift (digit :: rest)
      else none := by
  simp only [isExponentLetter, Bool.or_eq_true, beq_iff_eq] at known
  rcases known with rfl | rfl <;> rcases signs with rfl | rfl <;> rfl

/-- A letter that no exponent follows is not read. -/
theorem realTail_of_not_exponent {letter : Char} (known : isExponentLetter letter = true)
    {char : Char} (notDigit : ¬char.isDigit = true) (mantissa : Nat) (shift : Int)
    {rest : List Char} (unsigned : rest = [] ∨ (char ≠ '+' ∧ char ≠ '-')) :
    (realTail mantissa shift (letter :: char :: rest) : Option (Literal α × List Char)) =
      finishNumber (.real (Scalar.ofDecimal mantissa shift)) (letter :: char :: rest) := by
  simp only [isExponentLetter, Bool.or_eq_true, beq_iff_eq] at known
  rcases unsigned with rfl | ⟨notPlus, notMinus⟩
  · rcases known with rfl | rfl <;> simp [realTail, notDigit]
  · rcases known with rfl | rfl <;> simp [realTail, notDigit, notPlus, notMinus]

theorem isNumberChar_of_isExponentLetter {char : Char} (known : isExponentLetter char = true) :
    isNumberChar char = true := by
  simp only [isExponentLetter, Bool.or_eq_true, beq_iff_eq] at known
  rcases known with rfl | rfl <;> rfl

/-- After the letter of an exponent, a sign or a digit follows, or a word begins. -/
theorem readsOn_exponent {mantissa : Nat} {shift : Int} {letter : Char} {tail : List Char}
    (known : isExponentLetter letter = true)
    (done : realTail mantissa shift (letter :: tail) = some (value, rest)) :
    ReadsOn (realTail mantissa shift) (letter :: tail) value rest := by
  have plain := isNumberChar_of_isExponentLetter known
  rcases tail with _ | ⟨char, later⟩
  · simp only [isExponentLetter, Bool.or_eq_true, beq_iff_eq] at known
    rcases known with rfl | rfl <;> cases done
  · by_cases isDigit : char.isDigit = true
    · rw [realTail_digit known isDigit] at done
      exact (readsOn_exponentDigits done).of_append [letter] (by simpa using plain)
        fun after => realTail_digit known isDigit mantissa shift (later ++ after)
    · by_cases sign : char = '+' ∨ char = '-'
      · rcases later with _ | ⟨digit, more⟩
        · rw [realTail_of_not_exponent known isDigit mantissa shift (.inl rfl), finishNumber] at done
          simp only [isExponentLetter, Bool.or_eq_true, beq_iff_eq] at known
          rcases known with rfl | rfl <;> rcases sign with rfl | rfl <;> cases done
        · have signed : isNumberChar char = true := by rcases sign with rfl | rfl <;> rfl
          rw [realTail_sign known sign] at done
          split at done
          · rename_i follows
            refine (readsOn_exponentDigits done).of_append [letter, char] (by simp [plain, signed])
              fun after => ?_
            exact (realTail_sign known sign digit mantissa shift (more ++ after)).trans
              (if_pos follows)
          · cases done
      · rw [not_or] at sign
        rw [realTail_of_not_exponent known isDigit mantissa shift (.inr sign)] at done
        exact (readsOn_finishNumber done).through fun _ _ _ =>
          realTail_of_not_exponent known isDigit mantissa shift (.inr sign)

theorem realTail_of_not_letter {char : Char} (other : isExponentLetter char = false)
    (mantissa : Nat) (shift : Int) (rest : List Char) :
    (realTail mantissa shift (char :: rest) : Option (Literal α × List Char)) =
      finishReal mantissa shift (char :: rest) := by
  simp only [isExponentLetter, Bool.or_eq_false_iff, beq_eq_false_iff_ne] at other
  rw [realTail]
  all_goals simp [other]

theorem realTail_end {last : Char} (ends : isEnd last = true) (mantissa : Nat) (shift : Int)
    (trailer : List Char) :
    (realTail mantissa shift (last :: trailer) : Option (Literal α × List Char)) =
      finishReal mantissa shift (last :: trailer) := by
  refine realTail_of_not_letter ?_ mantissa shift trailer
  rcases isEnd_cases ends with rfl | rfl | rfl | rfl | rfl | rfl | rfl <;> rfl

/-- After the digits and the fraction of a number, an exponent may follow. -/
theorem readsOn_realTail {mantissa : Nat} {shift : Int}
    (done : realTail mantissa shift text = some (value, rest)) :
    ReadsOn (realTail mantissa shift) text value rest := by
  rcases text with _ | ⟨char, later⟩
  · have finished : ReadsOn (finishReal mantissa shift) [] value rest := readsOn_finishReal done
    exact finished.through fun _ trailer ends => realTail_end ends mantissa shift trailer
  · by_cases letter : isExponentLetter char = true
    · exact readsOn_exponent letter done
    · rw [Bool.not_eq_true] at letter
      rw [realTail_of_not_letter letter] at done
      exact (readsOn_finishReal done).through fun _ _ _ =>
        realTail_of_not_letter letter mantissa shift _

theorem fraction_of_not_digit {whole : List Char} {char : Char} (notDigit : ¬char.isDigit = true)
    (later : List Char) :
    (fraction whole (char :: later) : Option (Literal α × List Char)) =
      realTail (Text.ofDigits 10 whole) 0 (char :: later) := by
  rw [fraction, if_neg notDigit]

theorem readsOn_fraction {whole : List Char} (done : fraction whole text = some (value, rest)) :
    ReadsOn (fraction whole) text value rest := by
  rcases text with _ | ⟨char, later⟩
  · have tail : ReadsOn (realTail (Text.ofDigits 10 whole) 0) [] value rest :=
      readsOn_realTail done
    exact tail.through fun last _ ends =>
      fraction_of_not_digit (by simp [isDigit_of_isEnd last ends]) _
  · by_cases isDigit : char.isDigit = true
    · rw [fraction, if_pos isDigit] at done
      rcases Option.bind_eq_some_iff.mp done with ⟨⟨digits, middle⟩, found, remaining⟩
      refine (readsOn_decimalDigits found).andThen (readsOn_realTail remaining)
        fun _ _ _ again => ?_
      rw [List.cons_append, fraction, if_pos isDigit, ← List.cons_append, again]
      rfl
    · rw [fraction_of_not_digit isDigit] at done
      exact (readsOn_realTail done).through fun _ _ _ => fraction_of_not_digit isDigit _

theorem readsOn_decimalNumber (done : decimalNumber text = some (value, rest)) :
    ReadsOn decimalNumber text value rest := by
  rcases Option.bind_eq_some_iff.mp done with ⟨⟨digits, middle⟩, found, remaining⟩
  have digitsRead := readsOn_decimalDigits found
  -- A point, an exponent, the mark of an imaginary number or nothing follows the digits.
  dsimp only at remaining
  split at remaining
  · rename_i after
    have reads : ReadsOn (fun text => fraction digits text.tail) ('.' :: after) value rest :=
      (readsOn_fraction remaining).of_append ['.'] rfl fun _ => rfl
    refine digitsRead.andThen reads fun _ _ _ again => ?_
    rw [decimalNumber, again]
    rfl
  · rename_i next after
    split at remaining
    · rename_i exponent
      refine digitsRead.andThen (readsOn_realTail remaining) fun _ _ _ again => ?_
      rw [decimalNumber, again]
      exact if_pos exponent
    · rename_i exponent
      refine digitsRead.andThen (readsOn_wholeNumber remaining) fun _ _ _ again => ?_
      rw [decimalNumber, again]
      exact if_neg exponent
  · refine digitsRead.andThen (readsOn_realTail remaining) fun _ _ _ again => ?_
    rw [decimalNumber, again]
    rfl
  · refine digitsRead.andThen (readsOn_realTail remaining) fun _ _ _ again => ?_
    rw [decimalNumber, again]
    rfl
  · refine digitsRead.andThen (readsOn_realTail remaining) fun _ _ _ again => ?_
    rw [decimalNumber, again]
    rfl
  · rename_i noPoint noExponent noLarge noImaginary noLargeImaginary
    refine digitsRead.andThen (readsOn_wholeNumber remaining) fun last trailer ends again => ?_
    rw [decimalNumber, again]
    rcases middle with _ | ⟨char, more⟩
    · rcases isEnd_cases ends with rfl | rfl | rfl | rfl | rfl | rfl | rfl <;> rfl
    · by_cases letter : char = 'e'
      · subst letter
        cases more with
        | nil => rcases isEnd_cases ends with rfl | rfl | rfl | rfl | rfl | rfl | rfl <;> rfl
        | cons next later => exact (noExponent next later rfl).elim
      · simp only [Option.bind_eq_bind, Option.bind_some, List.cons_append]
        split <;> simp_all

/-- Whether a text begins like a decimal number: without a point and without the letter of another
base. -/
def isDecimal : List Char → Bool
  | '.' :: _ => false
  | '0' :: letter :: _ => !(['x', 'X', 'o', 'O', 'b', 'B'].contains letter)
  | _ => true

theorem number_eq_decimalNumber {text : List Char} (decimal : isDecimal text = true) :
    (number text : Option (Literal α × List Char)) = decimalNumber text := by
  unfold number
  split
  all_goals first | rfl | exact absurd decimal Bool.false_ne_true

theorem isDecimal_append {text after : List Char} (decimal : isDecimal text = true)
    (ends : isDecimal after = true) (endsZero : isDecimal ('0' :: after) = true) :
    isDecimal (text ++ after) = true := by
  rcases text with _ | ⟨first, _ | ⟨second, rest⟩⟩
  · exact ends
  · by_cases zero : first = '0'
    · exact zero ▸ endsZero
    · by_cases point : first = '.'
      · subst point
        cases decimal
      · simp [isDecimal, zero, point]
  · by_cases zero : first = '0'
    · subst zero
      exact decimal
    · by_cases point : first = '.'
      · subst point
        cases decimal
      · simp [isDecimal, zero, point]

theorem cases_of_not_isDecimal {text : List Char} (other : isDecimal text = false) :
    (∃ rest, text = '.' :: rest) ∨ ∃ letter rest, text = '0' :: letter :: rest ∧
      (letter = 'x' ∨ letter = 'X' ∨ letter = 'o' ∨ letter = 'O' ∨ letter = 'b' ∨
        letter = 'B') := by
  unfold isDecimal at other
  split at other
  · exact .inl ⟨_, rfl⟩
  · refine .inr ⟨_, _, rfl, ?_⟩
    simpa only [Bool.not_eq_eq_eq_not, Bool.not_false, List.contains_iff_mem, List.mem_cons,
      List.not_mem_nil, or_false] using other
  · cases other

/-- The number of a text is read wherever the text goes on. -/
theorem readsOn_number (done : number text = some (value, rest)) :
    ReadsOn number text value rest := by
  by_cases decimal : isDecimal text = true
  · rw [number_eq_decimalNumber decimal] at done
    refine (readsOn_decimalNumber done).through fun last trailer ends => ?_
    have stop : isDecimal (last :: trailer) = true ∧ isDecimal ('0' :: last :: trailer) = true := by
      rcases isEnd_cases ends with rfl | rfl | rfl | rfl | rfl | rfl | rfl <;> exact ⟨rfl, rfl⟩
    exact number_eq_decimalNumber (isDecimal_append decimal stop.1 stop.2)
  · rw [Bool.not_eq_true] at decimal
    rcases cases_of_not_isDecimal decimal with ⟨later, rfl⟩ | ⟨letter, later, rfl, known⟩
    · exact (readsOn_fraction done).of_append ['.'] rfl fun _ => rfl
    · rcases known with rfl | rfl | rfl | rfl | rfl | rfl
      · exact (readsOn_basedNumber done).of_append ['0', 'x'] rfl fun _ => rfl
      · exact (readsOn_basedNumber done).of_append ['0', 'X'] rfl fun _ => rfl
      · exact (readsOn_basedNumber done).of_append ['0', 'o'] rfl fun _ => rfl
      · exact (readsOn_basedNumber done).of_append ['0', 'O'] rfl fun _ => rfl
      · exact (readsOn_basedNumber done).of_append ['0', 'b'] rfl fun _ => rfl
      · exact (readsOn_basedNumber done).of_append ['0', 'B'] rfl fun _ => rfl

/-- A text that is one number to its end is the same number in front of whatever ends a number. -/
theorem readsWhole_number (done : number text = some (value, [])) :
    ReadsWhole number text value :=
  (readsOn_number done).whole done

/-! ### Natural numbers -/

/-- Digits are read up to whatever does not continue them. -/
theorem digitRun_of_digits {digits rest : List Char}
    (decimal : ∀ char ∈ digits, char.isDigit = true)
    (ends : ∀ char ∈ rest.head?, char.isDigit = false ∧ char ≠ '_') :
    digitRun Char.isDigit (digits ++ rest) = some (digits, rest) := by
  induction digits with
  | nil =>
      cases rest with
      | nil => rfl
      | cons char later =>
          have stops := ends char rfl
          rw [List.nil_append, digitRun_cons stops.2, stops.1]
          rfl
  | cons char others ih =>
      have digit := decimal char List.mem_cons_self
      have notLine : char ≠ '_' := by rintro rfl; cases digit
      rw [List.cons_append, digitRun_cons notLine, if_pos digit,
        ih fun other member => decimal other (List.mem_cons_of_mem _ member)]
      rfl

theorem digitRun_self {digits : List Char} (decimal : ∀ char ∈ digits, char.isDigit = true) :
    digitRun Char.isDigit digits = some (digits, []) := by
  have ends : ∀ char ∈ ([] : List Char).head?, char.isDigit = false ∧ char ≠ '_' := by simp
  have run := digitRun_of_digits decimal ends
  rw [List.append_nil] at run
  exact run

theorem hexDigit?_of_isDigit {char : Char} (digit : char.isDigit = true) :
    Text.hexDigit? char = some (char.toNat - 48) := if_pos digit

theorem ofDigits_toDigits (value : Nat) : Text.ofDigits 10 (Nat.toDigits 10 value) = value := by
  have decimal : ∀ char ∈ Nat.toDigits 10 value, char.isDigit = true :=
    fun char member => Nat.isDigit_of_mem_toDigits (by decide) (by decide) member
  have same : ∀ (digits : List Char) (start : Nat), (∀ char ∈ digits, char.isDigit = true) →
      digits.foldl (fun value char => 10 * value + (Text.hexDigit? char).getD 0) start =
        Nat.ofDigitChars 10 digits start := by
    intro digits
    induction digits with
    | nil => intro start _; rfl
    | cons char rest ih =>
        intro start known
        rw [List.foldl_cons, hexDigit?_of_isDigit (known char List.mem_cons_self),
          ih _ fun other member => known other (List.mem_cons_of_mem _ member)]
        rfl
  exact (same _ 0 decimal).trans (Nat.ofDigitChars_toDigits (by decide) (by decide))

/-- Only zero is written with a zero in front. -/
theorem eq_zero_of_head?_toDigits {value : Nat} (zero : (Nat.toDigits 10 value).head? = some '0') :
    value = 0 := by
  induction value using Nat.strongRecOn with
  | ind value ih =>
      rw [Nat.toDigits_eq_if (by decide)] at zero
      split at zero
      · rename_i small
        interval_cases value <;> first | rfl | exact absurd zero (by decide)
      · rename_i large
        rw [List.head?_append_of_ne_nil _ Nat.toDigits_ne_nil] at zero
        have tenth := ih (value / 10) (by omega) zero
        omega

/-- The digits of a natural number are read as the number. -/
theorem number_toDigits (value : Nat) :
    (number (Nat.toDigits 10 value) : Option (Literal α × List Char)) =
      some (.natural value, []) := by
  have decimal : ∀ char ∈ Nat.toDigits 10 value, char.isDigit = true :=
    fun char member => Nat.isDigit_of_mem_toDigits (by decide) (by decide) member
  have proper : ¬((Nat.toDigits 10 value).head? = some '0' ∧ value ≠ 0) :=
    fun both => both.2 (eq_zero_of_head?_toDigits both.1)
  have plain : isDecimal (Nat.toDigits 10 value) = true := by
    by_contra other
    rw [Bool.not_eq_true] at other
    rcases cases_of_not_isDecimal other with ⟨rest, same⟩ | ⟨letter, rest, same, known⟩
    · have digit := decimal '.' (by simp [same])
      cases digit
    · have digit := decimal letter (by simp [same])
      rcases known with rfl | rfl | rfl | rfl | rfl | rfl <;> cases digit
  rw [number_eq_decimalNumber plain, decimalNumber, digitRun_self decimal]
  simp only [Option.bind_eq_bind, Option.bind_some, ofDigits_toDigits]
  exact if_neg proper

end Intertemporal.Source.Token
