import Mathlib.Algebra.Group.Nat.Defs
import Mathlib.Tactic.ByContra
import Chip8.Decode.Table

/-!
# The two decoders agree

`decode` finds the operation of a word by families, `Table.decode` by looking it
up under the first nibble and the last byte.  The table was filled from words
whose second nibble is zero, so the two agree because no family but the first
looks at that nibble (`select?_congr`).  The operand fields are the same cuts of
the word, once through its two bytes and once by shifts and masks
(`operands_eq`).

`decode_eq_lookUp` puts both together: reading a word by families succeeds
exactly where the table has an operation, and with the same instruction.
-/

namespace Chip8.Decode

/-! ### Words and their bytes -/

theorem toNat_join (high low : UInt8) :
    (high.toUInt16 <<< 8 ||| low.toUInt16).toNat = 256 * high.toNat + low.toNat := by
  have hhigh := high.toNat_lt
  have hlow := low.toNat_lt
  have hshift : high.toNat <<< ((8 : UInt16).toNat % 16) % 2 ^ 16 = high.toNat <<< 8 := by
    have : high.toNat <<< 8 < 2 ^ 16 := by
      rw [Nat.shiftLeft_eq]
      omega
    exact Nat.mod_eq_of_lt this
  rw [UInt16.toNat_or, UInt16.toNat_shiftLeft, UInt8.toNat_toUInt16, UInt8.toNat_toUInt16,
    hshift, ← Nat.shiftLeft_add_eq_or_of_lt hlow, Nat.shiftLeft_eq]
  omega

/-- A nibble in front of a byte is an address of twelve bits. -/
theorem toNat_join_nibble (high : Nibble) (low : UInt8) :
    (UInt16.ofNat high.val <<< 8 ||| low.toUInt16).toNat = 256 * high.val + low.toNat := by
  have hhigh := high.isLt
  have hnibble : (UInt8.ofNat high.val).toNat = high.val := by
    rw [UInt8.toNat_ofNat']
    omega
  have hwide : UInt16.ofNat high.val = (UInt8.ofNat high.val).toUInt16 := by
    rw [← UInt16.toNat_inj, UInt8.toNat_toUInt16, hnibble, UInt16.toNat_ofNat']
    omega
  rw [hwide, toNat_join, hnibble]

theorem toNat_shiftDown (word : UInt16) (amount : Nat) (h : amount < 16) :
    (word >>> UInt16.ofNat amount).toNat = word.toNat / 2 ^ amount := by
  have hamount : (UInt16.ofNat amount).toNat % 16 = amount := by
    rw [UInt16.toNat_ofNat']
    omega
  rw [UInt16.toNat_shiftRight, hamount, Nat.shiftRight_eq_div_pow]

theorem toNat_highByte (word : UInt16) : (word >>> 8).toUInt8.toNat = word.toNat / 256 := by
  have hlt := word.toNat_lt
  rw [UInt16.toNat_toUInt8, show (8 : UInt16) = UInt16.ofNat 8 from rfl,
    toNat_shiftDown word 8 (by decide)]
  omega

theorem toNat_lowByte (word : UInt16) : word.toUInt8.toNat = word.toNat % 256 :=
  UInt16.toNat_toUInt8 word

/-- The bytes that `decode` cuts out of a word by division are its two bytes. -/
theorem ofNat_div (word : UInt16) :
    UInt8.ofNat ((word.toNat : Int) / 256 % 256).toNat = (word >>> 8).toUInt8 := by
  have hlt := word.toNat_lt
  rw [← UInt8.toNat_inj, toNat_highByte, UInt8.toNat_ofNat']
  omega

theorem ofNat_mod (word : UInt16) :
    UInt8.ofNat ((word.toNat : Int) % 256).toNat = word.toUInt8 := by
  rw [← UInt8.toNat_inj, toNat_lowByte, UInt8.toNat_ofNat']
  omega

/-! ### The operation -/

/-- Outside the first family the operation depends on the first nibble and the last
byte alone. -/
theorem select?_congr {first second low : UInt8}
    (hnibble : Nibble.high first.toNat = Nibble.high second.toNat)
    (hfamily : (Nibble.high first.toNat).val ≠ 0) :
    select? first low = select? second low := by
  unfold select?
  rw [← hnibble]
  split
  case h_1 hzero => exact absurd hzero hfamily
  all_goals rfl

/-- In the first family a word whose high byte is not zero is a call into the host
processor. -/
theorem select?_of_family_zero {high low : UInt8}
    (hfamily : (Nibble.high high.toNat).val = 0) (hhigh : high ≠ 0) :
    select? high low = some .sys := by
  unfold select?
  rw [hfamily]
  simp [hhigh]

namespace Table

theorem family_eq (word : UInt16) :
    (family word).val = (Nibble.high (word >>> 8).toUInt8.toNat).val := by
  have hlt := word.toNat_lt
  have hshift : (word >>> 12).toNat = word.toNat / 2 ^ 12 :=
    toNat_shiftDown word 12 (by decide)
  simp only [family, nibble, Nibble.high, hshift, toNat_highByte]
  omega

/-- The table holds for every word the operation that its family selects. -/
theorem lookUp_eq (word : UInt16) :
    lookUp word = select? (word >>> 8).toUInt8 word.toUInt8 := by
  have hfamily := family_eq word
  have hlt := (family word).isLt
  have hcolumn : UInt8.ofNat (column word).val = word.toUInt8 := by
    rw [← UInt8.toNat_inj, toNat_lowByte, UInt8.toNat_ofNat']
    exact Nat.mod_mod ..
  -- An entry of the table is the operation of the word with a zero second nibble.
  have hentry : operations[family word][column word] =
      select? (UInt8.ofNat (16 * (family word).val)) word.toUInt8 := by
    simp only [operations, Fin.getElem_fin, Vector.getElem_ofFn, hcolumn]
  have hstored : (Nibble.high (UInt8.ofNat (16 * (family word).val)).toNat).val =
      (family word).val := by
    simp only [Nibble.high, UInt8.toNat_ofNat']
    omega
  unfold lookUp
  split
  case isTrue hsys =>
    have hhigh : (word >>> 8).toUInt8 ≠ 0 := by
      intro hzero
      apply hsys.2
      have hbyte := toNat_highByte word
      have hshift : (word >>> 8).toNat = word.toNat / 2 ^ 8 :=
        toNat_shiftDown word 8 (by decide)
      rw [hzero, UInt8.toNat_zero] at hbyte
      rw [← UInt16.toNat_inj, hshift, UInt16.toNat_zero]
      exact hbyte.symm
    exact (select?_of_family_zero (hfamily ▸ hsys.1) hhigh).symm
  case isFalse hnot =>
    rw [hentry]
    by_cases hzero : (family word).val = 0
    -- In the first family the high byte is zero, as in the stored word.
    · have hhigh : word >>> 8 = 0 := by
        by_contra hne
        exact hnot ⟨hzero, hne⟩
      rw [hzero, hhigh]
      rfl
    · apply select?_congr
      · exact Fin.ext (hstored.trans hfamily)
      · rw [hstored]
        exact hzero

/-! ### The operands -/

/-- Shifts and masks cut the same fields out of a word as its two bytes hold. -/
theorem operands_eq (word : UInt16) :
    Decode.operands (word >>> 8).toUInt8 word.toUInt8 = operands word := by
  have hlt := word.toNat_lt
  have hraw : (word >>> 8).toUInt8.toUInt16 <<< 8 ||| word.toUInt8.toUInt16 = word := by
    rw [← UInt16.toNat_inj, toNat_join, toNat_highByte, toNat_lowByte]
    omega
  have hx : Nibble.low (word >>> 8).toUInt8.toNat = nibble (word >>> 8) := by
    have hshift : (word >>> 8).toNat = word.toNat / 2 ^ 8 := toNat_shiftDown word 8 (by decide)
    simp only [Nibble.low, nibble, toNat_highByte, hshift, Fin.mk.injEq]
    omega
  have hy : Nibble.high word.toUInt8.toNat = nibble (word >>> 4) := by
    have hshift : (word >>> 4).toNat = word.toNat / 2 ^ 4 := toNat_shiftDown word 4 (by decide)
    simp only [Nibble.high, nibble, toNat_lowByte, hshift, Fin.mk.injEq]
    omega
  have hn : Nibble.low word.toUInt8.toNat = nibble word := by
    simp only [Nibble.low, nibble, toNat_lowByte, Fin.mk.injEq]
    omega
  have hnnn : UInt16.ofNat (nibble (word >>> 8)).val <<< 8 ||| word.toUInt8.toUInt16 =
      word &&& 0x0FFF := by
    have hmask : (word &&& 0x0FFF).toNat = word.toNat % 2 ^ 12 := by
      rw [UInt16.toNat_and]
      exact Nat.and_two_pow_sub_one_eq_mod _ 12
    have hnibble : (nibble (word >>> 8)).val = word.toNat / 256 % 16 := by
      rw [← hx]
      simp only [Nibble.low, toNat_highByte]
      omega
    rw [← UInt16.toNat_inj, hmask, toNat_join_nibble, toNat_lowByte, hnibble]
    omega
  simp only [Decode.operands, operands, hraw, hx, hy, hn, hnnn]

/-- Reading a word by families and looking it up come to the same. -/
theorem decode_eq_lookUp (word : UInt16) :
    Chip8.decode word.toNat =
      match lookUp word with
      | some op => .ok { operands word with op }
      | none => .error (.invalidOp (word.toNat / 256 : Nat) (word.toNat % 256 : Nat)) := by
  rw [Chip8.decode, ofNat_div, ofNat_mod, ← lookUp_eq]
  cases lookUp word with
  | none =>
      simp only
      rw [toNat_highByte, toNat_lowByte]
  | some op => simp only [operands_eq]

end Table

end Chip8.Decode
