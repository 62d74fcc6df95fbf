import Mathlib.Data.List.TakeWhile
import Intertemporal.Proofs.Source.Lexing

/-!
# What follows a text

A text that is read to its end is read the same if blanks, line breaks and a comment follow it. The
first character of what follows is a blank or a line break, and none of them continues a token. So
every token ends where it ended before, and the lexer reads no further one (`Token.ofText_append`).
-/

namespace Intertemporal.Source

namespace Token

variable {α : Type}

/-- Characters that may stand between tokens. -/
def isGap (char : Char) : Bool := isInlineBlank char || char == '\n'

variable {gap : Char} {trailer : List Char}

theorem isGap_cases (blank : isGap gap = true) :
    gap = ' ' ∨ gap = '\t' ∨ gap = '\x0c' ∨ gap = '\n' := by
  simpa [isGap, isInlineBlank, or_assoc] using blank

theorem isEnd_of_isGap (blank : isGap gap = true) : isEnd gap = true := by
  rw [isGap] at blank
  rw [isEnd, Bool.or_assoc, blank, Bool.or_true]

/-! ### Tokens -/

theorem ne_cons_append {char : Char} {text : List Char} (blank : isGap gap = true)
    (other : isGap char = false) (absent : ∀ tail, text = char :: tail → False) :
    ∀ tail, text ++ gap :: trailer = char :: tail → False := by
  intro tail same
  cases text with
  | nil =>
      cases same
      rw [blank] at other
      cases other
  | cons first rest =>
      cases same
      exact absent rest rfl

theorem ne_cons_cons_append {char next : Char} {text : List Char} (blank : isGap gap = true)
    (other : isGap char = false) (otherNext : isGap next = false)
    (absent : ∀ tail, text = char :: next :: tail → False) :
    ∀ tail, text ++ gap :: trailer = char :: next :: tail → False := by
  intro tail same
  cases text with
  | nil =>
      cases same
      rw [blank] at other
      cases other
  | cons first rest =>
      rw [List.cons_append, List.cons.injEq] at same
      obtain ⟨rfl, same⟩ := same
      refine ne_cons_append blank otherNext (fun later front => ?_) tail same
      exact absent later (congrArg _ front)

theorem compoundFree_append {mark found : Mark} {count : Nat} {text : List Char}
    (done : mark?.compoundFree mark text = some (found, count)) (blank : isGap gap = true) :
    mark?.compoundFree mark (text ++ gap :: trailer) = some (found, count) ∧
      count ≤ text.length := by
  have alone : count = 0 := by
    unfold mark?.compoundFree at done
    split at done <;> cases done
    rfl
  refine ⟨?_, alone ▸ Nat.zero_le _⟩
  cases text with
  | nil => rcases isGap_cases blank with rfl | rfl | rfl | rfl <;> exact done
  | cons char rest => exact done

/-- A mark takes no more characters than there are, and none that follow. -/
theorem mark?_append {first : Char} {text : List Char} {found : Mark} {count : Nat}
    (done : mark? first text = some (found, count)) (blank : isGap gap = true) :
    mark? first (text ++ gap :: trailer) = some (found, count) ∧ count ≤ text.length := by
  revert done
  fun_cases mark? first text <;> intro done
  -- Marks of one character that no equals sign may follow, and a minus sign no arrow head either.
  all_goals try exact compoundFree_append done blank
  case case35 noArrow =>
    rw [mark?]
    · exact compoundFree_append done blank
    · exact ne_cons_append blank rfl noArrow
  -- Any other mark is told from longer ones by one or two characters, and none of these is a gap.
  all_goals cases done
  all_goals
    refine ⟨?_, by simp⟩
    first
    | rfl
    | rw [mark?]
      all_goals first
        | exact ne_cons_append blank rfl ‹_›
        | exact ne_cons_cons_append blank rfl rfl ‹_›
    | rw [List.cons_append, mark?]
      exact ne_cons_append blank rfl ‹_›

theorem takeWhile_isWordChar_append (blank : isGap gap = true) (text : List Char) :
    (text ++ gap :: trailer).takeWhile isWordChar = text.takeWhile isWordChar := by
  have stop : (gap :: trailer).takeWhile isWordChar = [] := by
    rw [List.takeWhile_cons, isWordChar_of_isEnd (isEnd_of_isGap blank)]
    rfl
  rw [List.takeWhile_append, stop, List.append_nil]
  split
  · rename_i whole
    exact ((List.takeWhile_prefix _).eq_of_length whole).symm
  · rfl

/-- Characters that begin neither a comment nor quoted text. -/
def isOrdinary (char : Char) : Bool := !(char == '#' || char == '\x27' || char == '\x22')

variable [Scalar α]

/-- A token takes no more characters than there are, and none that follow. -/
theorem scan_append {first : Char} {text : List Char} {token : Token α} {count : Nat}
    (done : scan first text = some (token, count)) (ordinary : isOrdinary first = true)
    (blank : isGap gap = true) :
    scan first (text ++ gap :: trailer) = some (token, count) ∧ count ≤ text.length := by
  have noQuote : (first == '\x27' || first == '\x22') = false := by
    rw [isOrdinary, Bool.or_assoc, Bool.not_eq_true', Bool.or_eq_false_iff] at ordinary
    exact ordinary.2
  have sameHead :
      (text ++ gap :: trailer).head?.any Char.isDigit = text.head?.any Char.isDigit := by
    cases text with
    | nil => exact isDigit_of_isEnd gap (isEnd_of_isGap blank)
    | cons char rest => rfl
  rw [scan] at done ⊢
  dsimp only at done ⊢
  rw [noQuote] at done ⊢
  rw [sameHead]
  split at done
  · rename_i begins
    obtain ⟨⟨value, rest⟩, found, same⟩ := Option.map_eq_some_iff.mp done
    cases same
    have again : number (first :: (text ++ gap :: trailer)) = some (value, rest ++ gap :: trailer) :=
      (readsOn_number found).found (isEnd_of_isGap blank)
    rw [if_pos begins, again, Option.map_some]
    refine ⟨?_, Nat.sub_le _ _⟩
    simp only [List.length_append, Nat.add_sub_add_right]
  · rename_i noNumber
    rw [if_neg noNumber]
    split at done
    · contradiction
    · rename_i noText
      rw [if_neg noText]
      split at done
      · rename_i letter
        obtain ⟨found, known, same⟩ := Option.map_eq_some_iff.mp done
        cases same
        rw [if_pos letter, takeWhile_isWordChar_append blank, known]
        exact ⟨rfl, (List.takeWhile_prefix _).length_le⟩
      · rename_i noLetter
        rw [if_neg noLetter]
        obtain ⟨⟨mark, further⟩, found, same⟩ := Option.map_eq_some_iff.mp done
        cases same
        obtain ⟨again, within⟩ : mark? first (text ++ gap :: trailer) = some (mark, further) ∧
            further ≤ text.length := mark?_append found blank
        rw [again]
        exact ⟨rfl, within⟩

/-! ### Lines -/

/-- A comment after blanks and line breaks. -/
inductive IsTrailing : List Char → Prop
  | comment {gap : Char} {body : List Char} (blank : isGap gap = true) (within : '\n' ∉ body) :
      IsTrailing (gap :: '#' :: body)
  | gap {gap : Char} {rest : List Char} (blank : isGap gap = true) (further : IsTrailing rest) :
      IsTrailing (gap :: rest)

variable {trailing : List Char}

theorem IsTrailing.exists_eq_cons (trails : IsTrailing trailing) :
    ∃ gap trailer, trailing = gap :: trailer ∧ isGap gap = true := by
  cases trails with
  | comment blank within => exact ⟨_, _, rfl, blank⟩
  | gap blank further => exact ⟨_, _, rfl, blank⟩

theorem dropWhile_line {body : List Char} (within : '\n' ∉ body) :
    body.dropWhile (· != '\n') = [] := by
  refine List.dropWhile_eq_nil_iff.mpr fun char member => ?_
  rw [bne_iff_ne]
  exact fun ends => within (ends ▸ member)

theorem isTrailer_gap (blank : isGap gap = true) (rest : List Char) :
    isTrailer (gap :: rest) = isTrailer rest := by
  rcases isGap_cases blank with rfl | rfl | rfl | rfl <;> rw [isTrailer] <;> simp [isInlineBlank]

theorem IsTrailing.isTrailer (trails : IsTrailing trailing) : isTrailer trailing = true := by
  induction trails with
  | comment blank within =>
      rw [isTrailer_gap blank, Token.isTrailer, dropWhile_line within, Token.isTrailer]
  | gap blank _ ih => rw [isTrailer_gap blank, ih]

theorem isTrailer_append {text : List Char} (done : isTrailer text = true)
    (ordinary : ∀ char ∈ text, isOrdinary char = true) (trails : IsTrailing trailing) :
    isTrailer (text ++ trailing) = true := by
  fun_induction isTrailer text with
  | case1 => exact trails.isTrailer
  | case2 rest ih =>
      rw [Bool.and_eq_true, Bool.not_eq_true', List.isEmpty_eq_false_iff] at done
      have others := (List.forall_mem_cons.mp (List.forall_mem_cons.mp ordinary).2).2
      have further : (rest ++ trailing).isEmpty = false :=
        List.isEmpty_eq_false_iff.mpr (List.append_ne_nil_of_left_ne_nil done.1 _)
      rw [List.cons_append, List.cons_append, isTrailer, ih done.2 others, further]
      rfl
  | case3 rest => cases (List.forall_mem_cons.mp ordinary).1
  | case4 char rest _ _ ih =>
      rw [Bool.and_eq_true] at done
      rw [List.cons_append, isTrailer_gap done.1]
      exact ih done.2 (List.forall_mem_cons.mp ordinary).2

theorem ofLine_gap {depth : Nat} (blank : isGap gap = true) {rest : List Char}
    (last : isTrailer rest = true) (done : ofLine depth rest = some ([] : List (Token α))) :
    ofLine depth (gap :: rest) = some ([] : List (Token α)) := by
  rcases isGap_cases blank with rfl | rfl | rfl | rfl <;> rw [ofLine] <;>
    simp [isInlineBlank, last, done]

/-- Blanks and a comment are no tokens. -/
theorem IsTrailing.ofLine (trails : IsTrailing trailing) (depth : Nat) :
    ofLine depth trailing = some ([] : List (Token α)) := by
  induction trails with
  | @comment gap body blank within =>
      have none : Token.ofLine depth ('#' :: body) = some ([] : List (Token α)) := by
        rw [Token.ofLine, dropWhile_line within, Token.ofLine]
      refine ofLine_gap blank ?_ none
      rw [← isTrailer_gap blank]
      exact (IsTrailing.comment blank within).isTrailer
  | gap blank further ih => exact ofLine_gap blank further.isTrailer ih

theorem ofLine_append {depth : Nat} {text : List Char} {tokens : List (Token α)}
    (done : ofLine depth text = some tokens) (ordinary : ∀ char ∈ text, isOrdinary char = true)
    (trails : IsTrailing trailing) : ofLine depth (text ++ trailing) = some tokens := by
  fun_induction ofLine (α := α) depth text generalizing tokens with
  | case1 depth =>
      cases done
      exact trails.ofLine depth
  | case2 => cases (List.forall_mem_cons.mp ordinary).1
  | case3 depth next after ih =>
      have others := (List.forall_mem_cons.mp (List.forall_mem_cons.mp ordinary).2).2
      rw [List.cons_append, List.cons_append, List.cons_append, ofLine]
      exact ih done others
  | case4 => cases done
  | case5 rest last =>
      cases done
      rw [List.cons_append, ofLine, if_pos rfl,
        if_pos (isTrailer_append last (List.forall_mem_cons.mp ordinary).2 trails)]
  | case6 => cases done
  | case7 depth rest inside ih =>
      rw [List.cons_append, ofLine, if_neg inside]
      exact ih done (List.forall_mem_cons.mp ordinary).2
  | case8 depth first rest noComment noJoin noBreak blank ih =>
      rw [List.cons_append, ofLine]
      · rw [if_pos blank]
        exact ih done (List.forall_mem_cons.mp ordinary).2
      exacts [noComment, noJoin, noBreak]
  | case9 => cases done
  | case10 depth first rest noComment noJoin noBreak solid token count scanned ih =>
      obtain ⟨begins, others⟩ := List.forall_mem_cons.mp ordinary
      obtain ⟨gap, trailer, rfl, blank⟩ := trails.exists_eq_cons
      obtain ⟨again, within⟩ : scan first (rest ++ gap :: trailer) = some (token, count) ∧
          count ≤ rest.length := scan_append scanned begins blank
      obtain ⟨later, read, same⟩ := Option.map_eq_some_iff.mp done
      rw [List.cons_append, ofLine]
      · rw [if_neg solid, again]
        dsimp only
        rw [List.drop_append_of_le_length within,
          ih read fun char member => others char (List.mem_of_mem_drop member), ← same]
        rfl
      exacts [noComment, noJoin, noBreak]

/-! ### Whole texts -/

theorem firstLine_append {column joined : Nat} {text line : List Char}
    (done : firstLine column joined text = some line) (given : line ≠ [])
    (ordinary : ∀ char ∈ text, isOrdinary char = true) (after : List Char) :
    firstLine column joined (text ++ after) = some (line ++ after) ∧ line <:+ text := by
  fun_induction firstLine column joined text with
  | case1 =>
      cases done
      exact absurd rfl given
  | case2 column joined rest ih
  | case3 column joined rest ih
  | case4 column joined rest ih
  | case8 column joined rest ih =>
      obtain ⟨read, last⟩ := ih done (List.forall_mem_cons.mp ordinary).2
      rw [List.cons_append, firstLine]
      exact ⟨read, last.trans (List.suffix_cons _ _)⟩
  | case5 column joined next rest ih =>
      have others := (List.forall_mem_cons.mp (List.forall_mem_cons.mp ordinary).2).2
      obtain ⟨read, last⟩ := ih done others
      rw [List.cons_append, List.cons_append, List.cons_append, firstLine]
      exact ⟨read, last.trans ((List.suffix_cons _ _).trans (List.suffix_cons _ _))⟩
  | case6 => cases done
  | case7 => cases (List.forall_mem_cons.mp ordinary).1
  | case9 column joined text _ noBlank noTab noFeed noJoin noComment noBreak start =>
      cases done
      obtain ⟨char, rest, rfl⟩ := List.exists_cons_of_ne_nil given
      refine ⟨?_, List.suffix_refl _⟩
      have sameHead {head : Char} {tail : List Char}
          (front : char :: rest ++ after = head :: tail) : char :: rest = head :: rest :=
        congrArg (· :: rest) (List.cons.inj front).1
      rw [firstLine]
      · exact if_pos start
      exacts [List.cons_ne_nil _ _, fun _ front => noBlank _ (sameHead front),
        fun _ front => noTab _ (sameHead front), fun _ front => noFeed _ (sameHead front),
        fun _ front => noJoin _ (sameHead front), fun _ front => noComment _ (sameHead front),
        fun _ front => noBreak _ (sameHead front)]
  | case10 => cases done

theorem unifyBreaks_append {front back : List Char}
    (apart : front.getLast? = some '\r' → back.head? ≠ some '\n') :
    unifyBreaks (front ++ back) = unifyBreaks front ++ unifyBreaks back := by
  have later {char : Char} {rest : List Char}
      (apart : (char :: rest).getLast? = some '\r' → back.head? ≠ some '\n') :
      rest.getLast? = some '\r' → back.head? ≠ some '\n' :=
    fun last => apart (by rw [List.getLast?_cons, last, Option.getD_some])
  fun_induction unifyBreaks front with
  | case1 => rfl
  | case2 rest ih =>
      rw [List.cons_append, List.cons_append, unifyBreaks, ih (later (later apart))]
      rfl
  | case3 rest single ih =>
      rw [List.cons_append, unifyBreaks, ih (later apart)]
      · rfl
      · intro tail front
        cases rest with
        | nil => exact apart rfl (congrArg List.head? front)
        | cons next more => exact single more (congrArg (· :: more) (List.cons.inj front).1)
  | case4 char rest noPair noReturn ih =>
      rw [List.cons_append, unifyBreaks, ih (later apart)]
      · rfl
      · exact fun _ same _ => noReturn same
      · exact noReturn

theorem mem_unifyBreaks {text : List Char} {char : Char} (member : char ∈ unifyBreaks text) :
    char = '\n' ∨ char ∈ text ∧ char ≠ '\r' := by
  fun_induction unifyBreaks text with
  | case1 => cases member
  | case2 rest ih => grind
  | case3 rest _ ih => grind
  | case4 other rest _ _ ih => grind

theorem isTrailing_append {blanks body : List Char} (gaps : ∀ char ∈ blanks, isGap char = true)
    (within : '\n' ∉ body) : IsTrailing (blanks ++ ' ' :: '#' :: body) := by
  induction blanks with
  | nil => exact .comment rfl within
  | cons char rest ih =>
      obtain ⟨blank, others⟩ := List.forall_mem_cons.mp gaps
      exact .gap blank (ih others)

/-- A comment on the last line, as it stands before line breaks are unified. -/
theorem isTrailing_unifyBreaks {blanks body : List Char}
    (loose : ∀ char ∈ blanks, isGap char = true ∨ char = '\r') (within : '\n' ∉ body)
    (single : '\r' ∉ body) : IsTrailing (unifyBreaks (blanks ++ ' ' :: '#' :: body)) := by
  have plain : '\r' ∉ ' ' :: '#' :: body := by simpa using single
  rw [unifyBreaks_append (fun _ => by simp), unifyBreaks_eq_self plain]
  refine isTrailing_append (fun char member => ?_) within
  rcases mem_unifyBreaks member with rfl | ⟨inside, other⟩
  · rfl
  · exact (loose char inside).resolve_right other

/-- Blanks and a comment after a text are not read. -/
theorem ofText_append {text : List Char} {tokens : List (Token α)}
    (done : ofText text = some tokens) (given : tokens ≠ [])
    (ordinary : ∀ char ∈ text, isOrdinary char = true) (ends : text.getLast? ≠ some '\r')
    {after : List Char} (trails : IsTrailing (unifyBreaks after)) :
    ofText (text ++ after) = some tokens := by
  obtain ⟨line, found, read⟩ := Option.bind_eq_some_iff.mp done
  have unified : ∀ char ∈ unifyBreaks text, isOrdinary char = true := by
    intro char member
    rcases mem_unifyBreaks member with rfl | ⟨inside, _⟩
    · rfl
    · exact ordinary char inside
  have some : line ≠ [] := by
    rintro rfl
    rw [ofLine] at read
    cases read
    exact given rfl
  obtain ⟨again, last⟩ := firstLine_append found some unified (unifyBreaks after)
  rw [ofText, unifyBreaks_append fun last => absurd last ends, again]
  exact ofLine_append read (fun char member => unified char (last.subset member)) trails

end Token

theorem Term.ofTokens_nil {α : Type} : Term.ofTokens ([] : List (Token α)) = none := by
  cbv

/-- A term is read from its text whether or not blanks and a comment follow. -/
theorem Term.ofText_append {α : Type} [Scalar α] {text after : List Char} {term : Term α}
    (done : Term.ofText text = .ok term)
    (ordinary : ∀ char ∈ text, Token.isOrdinary char = true) (ends : text.getLast? ≠ some '\r')
    (trails : Token.IsTrailing (Token.unifyBreaks after)) (noNull : '\x00' ∉ after) :
    Term.ofText (text ++ after) = .ok term := by
  rw [Term.ofText] at done ⊢
  split at done
  · cases done
  · rename_i absent
    have stillAbsent : ¬(text ++ after).contains '\x00' = true := by
      simp only [List.contains_iff_mem, List.mem_append] at absent ⊢
      tauto
    rw [if_neg stillAbsent]
    split at done
    · rename_i found
      cases done
      obtain ⟨tokens, lexed, parsed⟩ := Option.bind_eq_some_iff.mp found
      have given : tokens ≠ [] := by
        rintro rfl
        rw [Term.ofTokens_nil] at parsed
        cases parsed
      rw [Token.ofText_append lexed given ordinary ends trails, Option.bind_some, parsed]
    · cases done

end Intertemporal.Source
