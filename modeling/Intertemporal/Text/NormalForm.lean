import Intertemporal.Text.Character
import Intertemporal.Text.Compositions

/-!
# Normal form of names

A name beyond ASCII can be spelled in several ways: with a letter that carries its mark or with the
mark after it, with a ligature or wide form or with plain letters. Names are the same if they have
the same normal form, which is the composed compatibility form of Unicode: every character is
replaced by the letters and marks it is made of, marks are put in order, and letters take up their
marks again.
-/

namespace Intertemporal.Text

namespace Composition

/-- A run of code points with the code points that belong to its first one. -/
structure Entry where
  first : Nat
  last : Nat
  parts : List Nat

/-- The number that hexadecimal digits stand for. -/
def ofHex (text : String) : Nat := ofDigits 16 text.toList

/-- The entry of a row: a code point or a run, then its parts. -/
def Entry.ofText (text : String) : Entry :=
  match text.splitOn " " with
  | [] => ⟨0, 0, []⟩
  | run :: parts =>
    match run.splitOn "-" with
    | [first, last] => ⟨ofHex first, ofHex last, parts.map ofHex⟩
    | _ => ⟨ofHex run, ofHex run, parts.map ofHex⟩

/-- The entries of a table. -/
def entriesOf (rows : List String) : List Entry :=
  rows.flatMap fun row => (row.splitOn ";").map Entry.ofText

/-- Letters that a letter and a mark make together. -/
def composites : List Entry := entriesOf compositeRows

/-- Characters that give way to others for good. -/
def replacements : List Entry := entriesOf replacementRows

/-- The classes of marks. -/
def markClasses : List Entry := entriesOf markClassRows

/-- The entry that a code point belongs to. -/
def entryOf? (entries : List Entry) (code : Nat) : Option Entry :=
  entries.find? fun entry => entry.first ≤ code && code ≤ entry.last

/-- The class of a mark; characters that are no marks have class zero. -/
def markClass (char : Char) : Nat :=
  ((entryOf? markClasses char.toNat).bind (·.parts.head?)).getD 0

/-- What a character is made of, one step down. -/
def parts? (char : Char) : Option (List Char) :=
  match entryOf? composites char.toNat, entryOf? replacements char.toNat with
  | some entry, _ => some (entry.parts.map Char.ofNat)
  | none, some entry =>
    some (entry.parts.map fun code => Char.ofNat (code + (char.toNat - entry.first)))
  | none, none => none

/-- The letters and marks that a character is made of, at most `depth` steps down. -/
def takeApart : Nat → Char → List Char
  | 0, char => [char]
  | depth + 1, char =>
    match parts? char with
    | some parts => parts.flatMap (takeApart depth)
    | none => [char]

/-- How many steps down the parts of a character are found. -/
def greatestDepth : Nat := 3

/-- Put a character in front of ordered ones: a mark goes behind the marks of lower classes. -/
def settle (char : Char) : List Char → List Char
  | [] => [char]
  | next :: rest =>
    if 0 < markClass next && markClass next < markClass char then next :: settle char rest
    else char :: next :: rest

/-- The syllable that two Korean letters, or a syllable and a letter, make together. -/
def syllable? (left right : Nat) : Option Nat :=
  if 0x1100 ≤ left && left ≤ 0x1112 && 0x1161 ≤ right && right ≤ 0x1175 then
    some (0xac00 + ((left - 0x1100) * 21 + (right - 0x1161)) * 28)
  else if 0xac00 ≤ left && left ≤ 0xd7a3 && (left - 0xac00) % 28 == 0 &&
      0x11a8 ≤ right && right ≤ 0x11c2 then
    some (left + (right - 0x11a7))
  else none

/-- The letter that two characters make together. -/
def joined? (left right : Char) : Option Char :=
  match syllable? left.toNat right.toNat with
  | some code => some (Char.ofNat code)
  | none =>
    (composites.find? (·.parts == [left.toNat, right.toNat])).map (Char.ofNat ·.first)

/-- Let a letter take up its marks. The marks that it has not taken up are given in reverse,
together with the class of the last of them; a mark behind one of the same or a higher class cannot
be taken up. -/
def takeUp (letter : Char) (left : List Char) (lastClass : Nat) : List Char → List Char
  | [] => letter :: left.reverse
  | char :: rest =>
    let own := markClass char
    let blocked := !left.isEmpty && own ≤ lastClass
    match if blocked then none else joined? letter char with
    | some composite => takeUp composite left lastClass rest
    | none =>
      if own = 0 then letter :: left.reverse ++ takeUp char [] 0 rest
      else takeUp letter (char :: left) own rest

end Composition

/-- The letters and marks of a name, with the marks on each letter in order. -/
def decomposed (name : List Char) : List Char :=
  (name.flatMap (Composition.takeApart Composition.greatestDepth)).foldr Composition.settle []

/-- The normal form of the characters of a name. -/
def composed (name : List Char) : List Char :=
  match decomposed name with
  | [] => []
  | first :: rest => Composition.takeUp first [] 0 rest

/-- The normal form of a name. Names of ASCII characters have one spelling only. -/
def normalName (name : List Char) : List Char :=
  if name.any isWide then composed name else name

/-- A name of ASCII characters is its own normal form. -/
theorem normalName_eq_self {name : List Char} (plain : ∀ char ∈ name, isWide char = false) :
    normalName name = name := by
  have narrow : name.any isWide = false := by simpa using plain
  simp [normalName, narrow]

end Intertemporal.Text
