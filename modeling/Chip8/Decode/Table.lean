import Chip8.Argument.Array
import Chip8.Decode

/-!
# Decoding by table

A frame decodes one word after another and must not stop to raise an error in
the middle.  `Table.decode` therefore looks the operation up by first nibble and
last byte, and reports a word that matches nothing by having no operation.

The table is filled from words whose second nibble is zero.  That settles every
family but the first: there a word whose high byte is not zero is a call into
the host processor, whatever the table says.
-/

namespace Chip8.Decode.Table

/-- The operation for every first nibble and last byte, filled from the words
whose second nibble is zero. -/
def operations : Vector (Vector (Option Op) 256) 16 :=
  Vector.ofFn fun family => Vector.ofFn fun low =>
    select? (UInt8.ofNat (16 * family.val)) (UInt8.ofNat low.val)

/-- The last nibble of a word. -/
def nibble (word : UInt16) : Nibble := ⟨word.toNat % 16, Nat.mod_lt _ (by decide)⟩

/-- The last byte of a word, as a column of the table. -/
def column (word : UInt16) : Fin 256 := ⟨word.toNat % 256, Nat.mod_lt _ (by decide)⟩

/-- The first nibble of a word. -/
def family (word : UInt16) : Nibble := nibble (word >>> 12)

/-- The operation of a word, if it has one. -/
def lookUp (word : UInt16) : Option Op :=
  if (family word).val = 0 ∧ word >>> 8 ≠ 0 then some .sys
  else operations[family word][column word]

/-- The operand fields of a word, cut out of it by shifts and masks. -/
def operands (word : UInt16) : Operands where
  raw := word
  x := nibble (word >>> 8)
  y := nibble (word >>> 4)
  n := nibble word
  nn := word.toUInt8
  nnn := word &&& 0x0FFF

/-- Decode a word held in 32 bits, of which the last sixteen matter. -/
def decode (word : Int32) : Option Op × Operands :=
  let word := word.toUInt32.toUInt16
  (lookUp word, operands word)

/-- Decode the word that an argument stands for.  It is taken for an array of
integers of 32 bits, which must have no dimensions. -/
def decodeArgument (word : Argument) : Except Failure (Option Op × Operands) := do
  match ← word.toArray (-0x80000000) 0x7FFFFFFF with
  | ([], [value]) => .ok (decode (Int32.ofInt value))
  | _ => .error .notNumber

end Chip8.Decode.Table
