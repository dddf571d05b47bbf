import Chip8.Proofs.Decode.Agreement

/-!
# Decoding follows the documented patterns

The instruction set is documented by a pattern for each operation: four hexadecimal
places, some of them fixed digits and the others operands, such as `8XY4`.  This file
writes the patterns down (`Op.pattern`) and shows that both decoders read exactly what
they say (`decoders_exact`).

Two patterns share words with a third: every word of `00E0` and `00EE` is also one of
`0NNN`, and there the more specific pattern wins (`Op.Selected`).  Any two other
patterns differ in a fixed digit.

A byte is given by its two nibbles (`byteOf`), so every question that decoding by
families asks about a byte is one about nibbles.  `select?_of_selected` goes through the
operations and follows each of them to its family; `selected_of_select?` goes through
the families and reads off the pattern of what is found there.
-/

namespace Chip8

/-! ### Patterns -/

/-- The pattern of an operation: the digit that a place has to show, or `none` where
any operand may stand. -/
def Op.pattern : Op → List (Option Nat)
  | sys => [some 0x0, none, none, none]
  | cls => [some 0x0, some 0x0, some 0xE, some 0x0]
  | ret => [some 0x0, some 0x0, some 0xE, some 0xE]
  | jp => [some 0x1, none, none, none]
  | call => [some 0x2, none, none, none]
  | seImm => [some 0x3, none, none, none]
  | sneImm => [some 0x4, none, none, none]
  | seReg => [some 0x5, none, none, some 0x0]
  | ldImm => [some 0x6, none, none, none]
  | addImm => [some 0x7, none, none, none]
  | ldReg => [some 0x8, none, none, some 0x0]
  | or => [some 0x8, none, none, some 0x1]
  | and => [some 0x8, none, none, some 0x2]
  | xor => [some 0x8, none, none, some 0x3]
  | addReg => [some 0x8, none, none, some 0x4]
  | sub => [some 0x8, none, none, some 0x5]
  | shr => [some 0x8, none, none, some 0x6]
  | subn => [some 0x8, none, none, some 0x7]
  | shl => [some 0x8, none, none, some 0xE]
  | sneReg => [some 0x9, none, none, some 0x0]
  | ldI => [some 0xA, none, none, none]
  | jpV0 => [some 0xB, none, none, none]
  | rnd => [some 0xC, none, none, none]
  | drw => [some 0xD, none, none, none]
  | skp => [some 0xE, none, some 0x9, some 0xE]
  | sknp => [some 0xE, none, some 0xA, some 0x1]
  | ldVxDt => [some 0xF, none, some 0x0, some 0x7]
  | ldVxK => [some 0xF, none, some 0x0, some 0xA]
  | ldDtVx => [some 0xF, none, some 0x1, some 0x5]
  | ldStVx => [some 0xF, none, some 0x1, some 0x8]
  | addI => [some 0xF, none, some 0x1, some 0xE]
  | ldF => [some 0xF, none, some 0x2, some 0x9]
  | ldB => [some 0xF, none, some 0x3, some 0x3]
  | ldMemVx => [some 0xF, none, some 0x5, some 0x5]
  | ldVxMem => [some 0xF, none, some 0x6, some 0x5]

/-- Some nibbles show the digits of a pattern, place by place. -/
def Shows : List Nat → List (Option Nat) → Prop
  | [], [] => True
  | nibble :: nibbles, place :: places =>
      (∀ digit ∈ place, nibble = digit) ∧ Shows nibbles places
  | _, _ => False

@[simp] theorem shows_nil : Shows [] [] := trivial

@[simp] theorem shows_operand (nibble : Nat) (nibbles : List Nat) (places : List (Option Nat)) :
    Shows (nibble :: nibbles) (none :: places) ↔ Shows nibbles places := by
  simp [Shows]

@[simp] theorem shows_digit (nibble digit : Nat) (nibbles : List Nat)
    (places : List (Option Nat)) :
    Shows (nibble :: nibbles) (some digit :: places) ↔
      nibble = digit ∧ Shows nibbles places := by
  simp [Shows]

/-- The four nibbles of the last sixteen bits of an integer, the first one first. -/
def nibbles (word : Int) : List Nat :=
  [Nibble.high (word / 0x100), Nibble.low (word / 0x100), Nibble.high word, Nibble.low word].map
    Fin.val

/-- A word matches the pattern of an operation. -/
def Op.Matches (op : Op) (word : Int) : Prop := Shows (nibbles word) op.pattern

/-- The operation that the patterns give a word: the one whose pattern it matches, where
`00E0` and `00EE` take precedence over `0NNN`. -/
def Op.Selected (op : Op) (word : Int) : Prop :=
  op.Matches word ∧ (op = .sys → ¬Op.cls.Matches word ∧ ¬Op.ret.Matches word)

/-- The operand fields put together make the word up again. -/
structure Operands.Reassembles (fields : Operands) (word : Int) : Prop where
  raw : (fields.raw.toNat : Int) = word % 0x10000
  places : ∃ first, nibbles word = [first, fields.x.val, fields.y.val, fields.n.val] ∧
    fields.raw.toNat =
      0x1000 * first + 0x100 * fields.x.val + 0x10 * fields.y.val + fields.n.val
  nn : fields.nn.toNat = 0x10 * fields.y.val + fields.n.val
  nnn : fields.nnn.toNat = 0x100 * fields.x.val + fields.nn.toNat

namespace Decode

/-! ### Bytes and nibbles -/

/-- The byte of two nibbles. -/
def byteOf (upper lower : Nibble) : UInt8 := UInt8.ofNat (16 * upper.val + lower.val)

theorem toNat_byteOf (upper lower : Nibble) :
    (byteOf upper lower).toNat = 16 * upper.val + lower.val := by
  have hupper := upper.isLt
  have hlower := lower.isLt
  rw [byteOf, UInt8.toNat_ofNat']
  omega

@[simp] theorem high_byteOf (upper lower : Nibble) :
    Nibble.high (byteOf upper lower).toNat = upper := by
  have hupper := upper.isLt
  have hlower := lower.isLt
  apply Fin.ext
  simp only [Nibble.high, toNat_byteOf]
  omega

@[simp] theorem low_byteOf (upper lower : Nibble) :
    Nibble.low (byteOf upper lower).toNat = lower := by
  have hlower := lower.isLt
  apply Fin.ext
  simp only [Nibble.low, toNat_byteOf]
  omega

/-- Every byte is that of its nibbles. -/
theorem byteOf_nibbles (byte : UInt8) :
    byteOf (Nibble.high byte.toNat) (Nibble.low byte.toNat) = byte := by
  have hbyte := byte.toNat_lt
  rw [← UInt8.toNat_inj, toNat_byteOf]
  simp only [Nibble.high, Nibble.low]
  omega

theorem byteOf_eq_iff (upper lower first second : Nibble) :
    byteOf upper lower = byteOf first second ↔
      upper.val = first.val ∧ lower.val = second.val := by
  have hlower := lower.isLt
  have hsecond := second.isLt
  rw [← UInt8.toNat_inj, toNat_byteOf, toNat_byteOf]
  omega

/-- Two bytes as a word. -/
abbrev join (high low : UInt8) : Int := 0x100 * high.toNat + low.toNat

theorem nibbles_join (f x y n : Nibble) :
    nibbles (join (byteOf f x) (byteOf y n)) = [f.val, x.val, y.val, n.val] := by
  have hf := f.isLt
  have hx := x.isLt
  have hy := y.isLt
  have hn := n.isLt
  simp only [nibbles, Nibble.high, Nibble.low, join, toNat_byteOf, List.map_cons, List.map_nil,
    List.cons.injEq, and_true]
  omega

theorem matches_join_iff {op : Op} {f x y n : Nibble} :
    op.Matches (join (byteOf f x) (byteOf y n)) ↔
      Shows [f.val, x.val, y.val, n.val] op.pattern := by
  rw [Op.Matches, nibbles_join]

/-! ### The operation of a word -/

/-- The last nibble of an `8XYN` word selects the operation that has it in its pattern. -/
theorem arithmetic?_eq_some_iff {n : Nibble} {op : Op} :
    arithmetic? n = some op ↔ op.pattern = [some 0x8, none, none, some n.val] := by
  revert n
  cases op <;> decide

/-- So does the last byte of an `EXNN` word. -/
theorem key?_eq_some_iff {y n : Nibble} {op : Op} :
    key? (byteOf y n) = some op ↔ op.pattern = [some 0xE, none, some y.val, some n.val] := by
  have h9E : byteOf y n = 0x9E ↔ y.val = 0x9 ∧ n.val = 0xE := byteOf_eq_iff y n 0x9 0xE
  have hA1 : byteOf y n = 0xA1 ↔ y.val = 0xA ∧ n.val = 0x1 := byteOf_eq_iff y n 0xA 0x1
  simp only [key?, h9E, hA1]
  constructor
  · intro h
    repeat' split at h
    all_goals cases h
    all_goals simp_all only [Op.pattern]
  · intro h
    cases op <;> simp [Op.pattern] at h
    all_goals simp [← h]

/-- So does the last byte of an `FXNN` word. -/
theorem misc?_eq_some_iff {y n : Nibble} {op : Op} :
    misc? (byteOf y n) = some op ↔ op.pattern = [some 0xF, none, some y.val, some n.val] := by
  have h07 : byteOf y n = 0x07 ↔ y.val = 0x0 ∧ n.val = 0x7 := byteOf_eq_iff y n 0x0 0x7
  have h0A : byteOf y n = 0x0A ↔ y.val = 0x0 ∧ n.val = 0xA := byteOf_eq_iff y n 0x0 0xA
  have h15 : byteOf y n = 0x15 ↔ y.val = 0x1 ∧ n.val = 0x5 := byteOf_eq_iff y n 0x1 0x5
  have h18 : byteOf y n = 0x18 ↔ y.val = 0x1 ∧ n.val = 0x8 := byteOf_eq_iff y n 0x1 0x8
  have h1E : byteOf y n = 0x1E ↔ y.val = 0x1 ∧ n.val = 0xE := byteOf_eq_iff y n 0x1 0xE
  have h29 : byteOf y n = 0x29 ↔ y.val = 0x2 ∧ n.val = 0x9 := byteOf_eq_iff y n 0x2 0x9
  have h33 : byteOf y n = 0x33 ↔ y.val = 0x3 ∧ n.val = 0x3 := byteOf_eq_iff y n 0x3 0x3
  have h55 : byteOf y n = 0x55 ↔ y.val = 0x5 ∧ n.val = 0x5 := byteOf_eq_iff y n 0x5 0x5
  have h65 : byteOf y n = 0x65 ↔ y.val = 0x6 ∧ n.val = 0x5 := byteOf_eq_iff y n 0x6 0x5
  simp only [misc?, h07, h0A, h15, h18, h1E, h29, h33, h55, h65]
  constructor
  · intro h
    repeat' split at h
    all_goals cases h
    all_goals simp_all only [Op.pattern]
  · intro h
    cases op <;> simp [Op.pattern] at h
    all_goals simp [← h]

/-- What the patterns select is found. -/
theorem select?_of_selected {f x y n : Nibble} {op : Op}
    (h : op.Selected (join (byteOf f x) (byteOf y n))) :
    select? (byteOf f x) (byteOf y n) = some op := by
  obtain ⟨hmatch, hspecial⟩ := h
  simp only [matches_join_iff] at hmatch hspecial
  have h00 : byteOf f x = 0x00 ↔ f.val = 0x0 ∧ x.val = 0x0 := byteOf_eq_iff f x 0x0 0x0
  have hE0 : byteOf y n = 0xE0 ↔ y.val = 0xE ∧ n.val = 0x0 := byteOf_eq_iff y n 0xE 0x0
  have hEE : byteOf y n = 0xEE ↔ y.val = 0xE ∧ n.val = 0xE := byteOf_eq_iff y n 0xE 0xE
  simp only [select?, high_byteOf, low_byteOf, h00, hE0, hEE]
  cases op
  case sys =>
    simp only [Op.pattern, shows_digit, shows_operand, shows_nil, and_true] at hmatch hspecial
    obtain ⟨hcls, hret⟩ := hspecial trivial
    simp only [hmatch, true_and] at hcls hret ⊢
    rw [if_neg, if_neg]
    · exact fun h => hret ⟨h.1, h.2.1, h.2.2⟩
    · exact fun h => hcls ⟨h.1, h.2.1, h.2.2⟩
  all_goals
    simp only [Op.pattern, shows_digit, shows_operand, shows_nil, and_true] at hmatch
    simp [hmatch, arithmetic?_eq_some_iff, key?_eq_some_iff, misc?_eq_some_iff, Op.pattern]

/-- Outside the first family an operation is selected by words that show the digits of its
pattern. -/
theorem selected_of_pattern {f x y n : Nibble} {op : Op} (third fourth : Option Nat)
    (hpattern : op.pattern = [some f.val, none, third, fourth]) (hfamily : f.val ≠ 0)
    (hshows : Shows [y.val, n.val] [third, fourth]) :
    op.Selected (join (byteOf f x) (byteOf y n)) := by
  have hother : op ≠ .sys := by
    rintro rfl
    simp only [Op.pattern, List.cons.injEq, Option.some.injEq] at hpattern
    exact hfamily hpattern.1.symm
  refine ⟨?_, fun hsys => absurd hsys hother⟩
  rw [matches_join_iff, hpattern, shows_digit, shows_operand]
  exact ⟨rfl, hshows⟩

/-- What is found the patterns select. -/
theorem selected_of_select? {f x y n : Nibble} {op : Op}
    (h : select? (byteOf f x) (byteOf y n) = some op) :
    op.Selected (join (byteOf f x) (byteOf y n)) := by
  have hlt := f.isLt
  have h00 : byteOf f x = 0x00 ↔ f.val = 0x0 ∧ x.val = 0x0 := byteOf_eq_iff f x 0x0 0x0
  have hE0 : byteOf y n = 0xE0 ↔ y.val = 0xE ∧ n.val = 0x0 := byteOf_eq_iff y n 0xE 0x0
  have hEE : byteOf y n = 0xEE ↔ y.val = 0xE ∧ n.val = 0xE := byteOf_eq_iff y n 0xE 0xE
  simp only [select?, high_byteOf, low_byteOf, h00, hE0, hEE] at h
  split at h
  -- Family zero, where two patterns take precedence over the third.
  case h_1 hf =>
    simp only [Op.Selected, matches_join_iff]
    repeat' split at h
    all_goals cases h
    all_goals simp_all [Op.pattern]
  -- The families in which the last nibble or byte decides.
  case h_6 hf =>
    split at h
    case isTrue hn =>
      cases h
      exact selected_of_pattern none (some 0) (by rw [hf]; rfl) (by omega) (by simp [hn])
    case isFalse => contradiction
  case h_9 hf =>
    rw [arithmetic?_eq_some_iff, ← hf] at h
    exact selected_of_pattern none (some n.val) h (by omega) (by simp)
  case h_10 hf =>
    split at h
    case isTrue hn =>
      cases h
      exact selected_of_pattern none (some 0) (by rw [hf]; rfl) (by omega) (by simp [hn])
    case isFalse => contradiction
  case h_15 hf =>
    rw [key?_eq_some_iff, ← hf] at h
    exact selected_of_pattern _ _ h (by omega) (by simp)
  case h_16 =>
    have hf : f.val = 0xF := by grind
    rw [misc?_eq_some_iff, ← hf] at h
    exact selected_of_pattern _ _ h (by omega) (by simp)
  -- The families of a single operation.
  all_goals
    rename_i hf
    cases h
    exact selected_of_pattern none none (by rw [hf]; rfl) (by omega) (by simp)

/-- Reading a word by families finds the operation that the patterns select. -/
theorem select?_eq_some_iff {high low : UInt8} {op : Op} :
    select? high low = some op ↔ op.Selected (join high low) := by
  rw [← byteOf_nibbles high, ← byteOf_nibbles low]
  exact ⟨selected_of_select?, select?_of_selected⟩

/-- Where nothing is found, no pattern matches. -/
theorem select?_eq_none_iff {high low : UInt8} :
    select? high low = none ↔ ∀ op : Op, ¬op.Matches (join high low) := by
  constructor
  · intro hnone op hmatch
    have hselected : op.Selected (join high low) ∨ Op.cls.Selected (join high low) ∨
        Op.ret.Selected (join high low) := by
      unfold Op.Selected
      grind
    rcases hselected with h | h | h <;> simp [select?_eq_some_iff.mpr h] at hnone
  · intro hnone
    cases hop : select? high low with
    | none => rfl
    | some op => exact absurd (select?_eq_some_iff.mp hop).1 (hnone op)

/-! ### Words of any size -/

/-- The last sixteen bits of an integer. -/
def narrow (word : Int) : UInt16 := (Int32.ofInt word).toUInt32.toUInt16

theorem toNat_narrow (word : Int) : ((narrow word).toNat : Int) = word % 0x10000 := by
  have hwide : (Int32.ofInt word).toUInt32.toNat = (word % 2 ^ 32).toNat :=
    BitVec.toNat_ofInt word
  rw [narrow, UInt32.toNat_toUInt16, hwide]
  omega

theorem narrow_congr {word other : Int} (h : other % 0x10000 = word % 0x10000) :
    narrow other = narrow word := by
  have hother := toNat_narrow other
  have hword := toNat_narrow word
  rw [← UInt16.toNat_inj]
  omega

/-- Decoding by families looks at the last sixteen bits only. -/
theorem decode_eq_narrow (word : Int) : Chip8.decode word = Chip8.decode (narrow word).toNat := by
  have hword := toNat_narrow word
  have hhigh : ((narrow word).toNat : Int) / 256 % 256 = word / 256 % 256 := by omega
  have hlow : ((narrow word).toNat : Int) % 256 = word % 256 := by omega
  rw [Chip8.decode, Chip8.decode, hhigh, hlow]

theorem nibbles_join_narrow (word : Int) :
    nibbles (join (narrow word >>> 8).toUInt8 (narrow word).toUInt8) = nibbles word := by
  have hjoin : join (narrow word >>> 8).toUInt8 (narrow word).toUInt8 = word % 0x10000 := by
    rw [join, toNat_highByte, toNat_lowByte, ← toNat_narrow]
    omega
  simp only [hjoin, nibbles, Nibble.high, Nibble.low, List.map_cons, List.map_nil,
    List.cons.injEq, and_true]
  refine ⟨?_, ?_, ?_, ?_⟩ <;> omega

namespace Table

/-- So does decoding by table. -/
theorem decode_eq_narrow (wide : Int32) :
    decode wide = (lookUp (narrow wide.toInt), operands (narrow wide.toInt)) := by
  rw [narrow, Int32.ofInt_toInt]
  rfl

theorem lookUp_eq_some_iff {word : Int} {op : Op} :
    lookUp (narrow word) = some op ↔ op.Selected word := by
  rw [lookUp_eq, select?_eq_some_iff]
  simp only [Op.Selected, Op.Matches, nibbles_join_narrow]

theorem lookUp_eq_none_iff {word : Int} :
    lookUp (narrow word) = none ↔ ∀ op : Op, ¬op.Matches word := by
  rw [lookUp_eq, select?_eq_none_iff]
  simp only [Op.Matches, nibbles_join_narrow]

theorem reassembles_operands (word : Int) : (operands (narrow word)).Reassembles word := by
  have hword := toNat_narrow word
  have hx : (operands (narrow word)).x.val = (narrow word).toNat / 256 % 16 :=
    congrArg (· % 16) (toNat_shiftDown (narrow word) 8 (by decide))
  have hy : (operands (narrow word)).y.val = (narrow word).toNat / 16 % 16 :=
    congrArg (· % 16) (toNat_shiftDown (narrow word) 4 (by decide))
  have hn : (operands (narrow word)).n.val = (narrow word).toNat % 16 := rfl
  have hnn : (operands (narrow word)).nn.toNat = (narrow word).toNat % 256 :=
    toNat_lowByte (narrow word)
  have hnnn : (operands (narrow word)).nnn.toNat = (narrow word).toNat % 2 ^ 12 :=
    (UInt16.toNat_and ..).trans (Nat.and_two_pow_sub_one_eq_mod _ 12)
  have hraw : (operands (narrow word)).raw.toNat = (narrow word).toNat := rfl
  refine ⟨hword, ⟨(narrow word).toNat / 0x1000, ?_, ?_⟩, ?_, ?_⟩
  · simp only [nibbles, Nibble.high, Nibble.low, List.map_cons, List.map_nil,
      List.cons.injEq, and_true]
    omega
  all_goals omega

end Table

end Decode

/-- Both decoders read the last sixteen bits of an integer and nothing else.  They agree
on every word, operation and fields alike, and refuse the same words, of which the fault
names the two bytes.  The fields make up the word again.  The operation is the one
whose documented pattern the word matches, and a word is refused exactly if it matches
none. -/
theorem decoders_exact (word : Int) :
    let (op?, fields) := Decode.Table.decode (Int32.ofInt word)
    (∀ other : Int, other % 0x10000 = word % 0x10000 → decode other = decode word) ∧
    (∀ wide : Int32, wide.toInt % 0x10000 = word % 0x10000 →
      Decode.Table.decode wide = (op?, fields)) ∧
    decode word =
      (match op? with
      | some op => .ok { fields with op }
      | none => .error (.invalidOp (word % 0x10000 / 0x100) (word % 0x100))) ∧
    fields.Reassembles word ∧
    (∀ op, op? = some op ↔ op.Selected word) ∧
    (op? = none ↔ ∀ op : Op, ¬op.Matches word) := by
  have htable : Decode.Table.decode (Int32.ofInt word) =
      (Decode.Table.lookUp (Decode.narrow word), Decode.Table.operands (Decode.narrow word)) :=
    rfl
  rw [htable]
  refine ⟨?_, ?_, ?_, Decode.Table.reassembles_operands word,
    fun op => Decode.Table.lookUp_eq_some_iff, Decode.Table.lookUp_eq_none_iff⟩
  · intro other hother
    rw [Decode.decode_eq_narrow, Decode.decode_eq_narrow word, Decode.narrow_congr hother]
  · intro wide hwide
    rw [Decode.Table.decode_eq_narrow, Decode.narrow_congr hwide]
  · have hword := Decode.toNat_narrow word
    have hhigh : (((Decode.narrow word).toNat / 256 : Nat) : Int) = word % 0x10000 / 0x100 := by
      omega
    have hlow : (((Decode.narrow word).toNat % 256 : Nat) : Int) = word % 0x100 := by
      omega
    rw [Decode.decode_eq_narrow, Decode.Table.decode_eq_lookUp]
    cases Decode.Table.lookUp (Decode.narrow word) with
    | some op => rfl
    | none =>
        dsimp only
        rw [hhigh, hlow]

end Chip8
