/-!
# Letters

A host may encode a character beyond the first 65536 as a pair of units of sixteen
bits, and hand over a text in which one half of such a pair stands alone.  Half a
pair is no character, but it is a letter of the text like any other.

A text is held as a string.  Half a pair is written there as two characters: a mark
and the character that has its place among the halves for its number.  The mark
itself is written twice.  So different texts are different strings
(`letters_ofLetters`), and two texts can be put one after the other as strings
(`ofLetters_append`).
-/

namespace Chip8.Text

/-- The first unit that is half of a pair. -/
abbrev firstHalf : Nat := 0xD800

/-- How many units are half of a pair. -/
abbrev halfCount : Nat := 0x800

/-- A letter of a text. -/
inductive Letter where
  | char (c : Char)
  /-- Half of a pair, by its place among all halves. -/
  | half (place : Fin halfCount)
  deriving DecidableEq, Repr, Inhabited

/-- The character before the place of a half. -/
def halfMark : Char := Char.ofNat 0x10FFFF

namespace Letter

/-- The number of a letter, which puts letters in order. -/
def number : Letter → Nat
  | char c => c.toNat
  | half place => firstHalf + place.val

/-- The letter that a unit of sixteen bits is by itself. -/
def ofUnit (unit : Nat) : Letter :=
  if firstHalf ≤ unit ∧ unit < firstHalf + halfCount then
    .half (Fin.ofNat halfCount (unit - firstHalf))
  else .char (Char.ofNat unit)

/-- Whether a letter is one of several characters. -/
def isAmong (letter : Letter) (choice : List Char) : Bool :=
  choice.any fun c => letter = .char c

/-- The characters that a letter is written with. -/
def written : Letter → List Char
  | char c => if c = halfMark then [halfMark, halfMark] else [c]
  | half place => [halfMark, Char.ofNat place.val]

/-- The letter that is written with the mark and another character. -/
def afterMark (c : Char) : Letter :=
  if c = halfMark then .char halfMark else .half (Fin.ofNat halfCount c.toNat)

end Letter

/-- The string of some letters. -/
def ofLetters (letters : List Letter) : String :=
  String.ofList (letters.flatMap Letter.written)

/-- The letters that are written with some characters. -/
def readLetters : List Char → List Letter
  | [] => []
  | [c] => [.char c]
  | c :: d :: rest =>
      if c = halfMark then .afterMark d :: readLetters rest else .char c :: readLetters (d :: rest)

/-- The letters of a text. -/
def letters (text : String) : List Letter := readLetters text.toList

/-! ### Writing and reading back -/

theorem readLetters_cons {c : Char} (h : c ≠ halfMark) (rest : List Char) :
    readLetters (c :: rest) = .char c :: readLetters rest := by
  cases rest with
  | nil => rfl
  | cons d rest => rw [readLetters, if_neg h]

theorem readLetters_mark (c : Char) (rest : List Char) :
    readLetters (halfMark :: c :: rest) = .afterMark c :: readLetters rest := by
  rw [readLetters, if_pos rfl]

theorem halfMark_toNat : halfMark.toNat = 0x10FFFF := rfl

theorem toNat_ofNat_place (place : Fin halfCount) : (Char.ofNat place.val).toNat = place.val := by
  have hplace := place.isLt
  have hvalid : place.val.isValidChar := by
    simp only [Nat.isValidChar, halfCount] at *
    omega
  rw [Char.ofNat, dif_pos hvalid]
  rfl

/-- The character after the mark tells which half is written. -/
theorem afterMark_ofNat (place : Fin halfCount) :
    Letter.afterMark (Char.ofNat place.val) = .half place := by
  have hplace := place.isLt
  have hne : Char.ofNat place.val ≠ halfMark := by
    intro heq
    have hnumber := congrArg Char.toNat heq
    rw [toNat_ofNat_place, halfMark_toNat] at hnumber
    simp only [halfCount] at *
    omega
  rw [Letter.afterMark, if_neg hne, toNat_ofNat_place]
  congr 1
  exact Fin.ext (Nat.mod_eq_of_lt hplace)

/-- A letter is read back from its characters, whatever follows. -/
theorem readLetters_written (letter : Letter) (rest : List Char) :
    readLetters (letter.written ++ rest) = letter :: readLetters rest := by
  cases letter with
  | half place =>
      rw [Letter.written, List.cons_append, List.cons_append, List.nil_append, readLetters_mark,
        afterMark_ofNat]
  | char c =>
      rw [Letter.written]
      split
      · next h =>
          rw [h, List.cons_append, List.cons_append, List.nil_append, readLetters_mark,
            Letter.afterMark, if_pos rfl]
      · next h => rw [List.cons_append, List.nil_append, readLetters_cons h]

/-- The letters of a text are those that it was written from. -/
@[simp] theorem letters_ofLetters (text : List Letter) : letters (ofLetters text) = text := by
  rw [letters, ofLetters, String.toList_ofList]
  induction text with
  | nil => rfl
  | cons letter rest ih => rw [List.flatMap_cons, readLetters_written, ih]

/-- Texts are put one after the other as strings. -/
theorem ofLetters_append (first second : List Letter) :
    ofLetters (first ++ second) = ofLetters first ++ ofLetters second := by
  simp only [ofLetters, List.flatMap_append, String.ofList_append]

/-! ### Order -/

/-- Whether a text comes before another one: the first letters that differ decide, by
their numbers. -/
def precedes (first second : String) : Bool :=
  (letters first).map Letter.number < (letters second).map Letter.number

end Chip8.Text
