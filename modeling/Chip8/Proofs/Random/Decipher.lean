import Mathlib.Algebra.Group.Int.Defs
import Mathlib.Logic.Function.Basic
import Chip8.Proofs.Random.Stream

/-!
# Enciphering can be undone

Every step of the block function can be taken back.  A rotation is undone by turning the rest
of the way round (`rotate_rotate`), a round by taking the exclusive or with its sum once more
(`unround_round`), and the key words that a group adds can be subtracted again
(`ungroup_group`).  `decipher` takes the five groups back in reverse order, so under one key no
two blocks have the same cipher (`encipher_injective`).

A seed is enciphered half by half: the lower half makes the key and the upper half the block.
Who knows the lower half can therefore read the upper one off the key of the seed
(`decipher_keyOfSeed`).  A draw splits its key by enciphering two blocks under it, and two
blocks have two ciphers (`keep_ne_spend`).
-/

namespace Chip8

namespace Random

/-! ### Rotations -/

theorem toNat_complement_mod (amount : UInt32) :
    (32 - amount).toNat % 32 = (32 - amount.toNat % 32) % 32 := by
  have hamount := amount.toNat_lt
  have hwidth : (32 : UInt32).toNat = 32 := rfl
  rw [UInt32.toNat_sub]
  omega

/-- Each bit of a rotated word comes from as many places below, round the end of the word. -/
theorem getLsbD_rotate (word amount : UInt32) {i : Nat} (hi : i < 32) :
    (rotate word amount).toBitVec.getLsbD i =
      word.toBitVec.getLsbD ((i + (32 - amount.toNat % 32)) % 32) := by
  have hup : (amount.toBitVec % 32).toNat = amount.toNat % 32 := rfl
  have hdown : ((32 - amount).toBitVec % 32).toNat = (32 - amount.toNat % 32) % 32 :=
    toNat_complement_mod amount
  simp only [rotate, UInt32.toBitVec_or, UInt32.toBitVec_shiftLeft, UInt32.toBitVec_shiftRight,
    BitVec.shiftLeft_eq', BitVec.ushiftRight_eq', hup, hdown, BitVec.getLsbD_or,
    BitVec.getLsbD_shiftLeft, BitVec.getLsbD_ushiftRight, hi, decide_true, Bool.true_and]
  generalize amount.toNat % 32 = turned, Nat.mod_lt amount.toNat (by decide : 0 < 32) = hturned
  rcases Nat.eq_zero_or_pos turned with rfl | hpos
  · -- Both shifts are by nothing, so both are the word itself.
    simp [Nat.mod_eq_of_lt hi]
  by_cases hlow : i < turned
  · have hplace : (i + (32 - turned)) % 32 = (32 - turned) % 32 + i := by omega
    simp only [hlow, hplace, decide_true, Bool.not_true, Bool.false_and, Bool.false_or]
  · have hplace : (i + (32 - turned)) % 32 = i - turned := by omega
    have hbeyond : 32 ≤ (32 - turned) % 32 + i := by omega
    simp only [hlow, hplace, BitVec.getLsbD_of_ge _ _ hbeyond, decide_false, Bool.not_false,
      Bool.true_and, Bool.or_false]

/-- Turning a word the rest of the way round gives it back. -/
theorem rotate_rotate (word amount : UInt32) :
    rotate (rotate word amount) (32 - amount) = word := by
  rw [← UInt32.toBitVec_inj]
  apply BitVec.eq_of_getLsbD_eq
  intro i hi
  rw [getLsbD_rotate _ _ hi, getLsbD_rotate _ _ (Nat.mod_lt _ (by decide)),
    toNat_complement_mod]
  congr 1
  omega

/-! ### Rounds and groups -/

/-- The block before a round. -/
def unround (amount : UInt32) (block : Pair) : Pair :=
  let second := rotate (block.second ^^^ block.first) (32 - amount)
  ⟨block.first - second, second⟩

theorem unround_round (amount : UInt32) (block : Pair) :
    unround amount (round amount block) = block := by
  simp only [unround, round, UInt32.xor_assoc, UInt32.xor_self, UInt32.xor_zero, rotate_rotate,
    UInt32.add_sub_cancel]

/-- Rounds are undone from the last one to the first. -/
theorem foldr_unround_foldl_round (amounts : List UInt32) (block : Pair) :
    amounts.foldr unround (amounts.foldl (fun block amount => round amount block) block) =
      block := by
  induction amounts generalizing block with
  | nil => rfl
  | cons amount amounts ih => rw [List.foldl_cons, List.foldr_cons, ih, unround_round]

/-- The block before a group. -/
def ungroup (amounts : List UInt32) (keyFirst keySecond : UInt32) (block : Pair) : Pair :=
  amounts.foldr unround ⟨block.first - keyFirst, block.second - keySecond⟩

theorem ungroup_group (amounts : List UInt32) (keyFirst keySecond : UInt32) (block : Pair) :
    ungroup amounts keyFirst keySecond (group amounts keyFirst keySecond block) = block := by
  simp only [ungroup, group, UInt32.add_sub_cancel]
  exact foldr_unround_foldl_round amounts block

/-! ### The block function -/

/-- The block that has a cipher under a key. -/
def decipher (key cipher : Pair) : Pair :=
  let parity := parityWord key
  let whitened := cipher
    |> ungroup evenAmounts parity (key.first + 5)
    |> ungroup oddAmounts key.second (parity + 4)
    |> ungroup evenAmounts key.first (key.second + 3)
    |> ungroup oddAmounts parity (key.first + 2)
    |> ungroup evenAmounts key.second (parity + 1)
  ⟨whitened.first - key.first, whitened.second - key.second⟩

theorem decipher_encipher (key block : Pair) : decipher key (encipher key block) = block := by
  simp only [decipher, encipher, ungroup_group, UInt32.add_sub_cancel]

/-- Under one key different blocks have different ciphers. -/
theorem encipher_injective (key : Pair) : Function.Injective (encipher key) :=
  Function.LeftInverse.injective (decipher_encipher key)

/-- The key that a draw leaves is not the one that it spends. -/
theorem keep_ne_spend (key : Pair) : keep key ≠ spend key := by
  intro h
  have hblocks : (⟨0, 0⟩ : Pair) = ⟨0, 1⟩ := encipher_injective key h
  exact absurd hblocks (by decide)

/-! ### Seeds -/

/-- The upper half of a seed can be read off its key by means of the lower half. -/
theorem decipher_keyOfSeed (seed : UInt64) :
    decipher ⟨0, seed.toUInt32⟩ (keyOfSeed seed) = ⟨0, (seed >>> 32).toUInt32⟩ :=
  decipher_encipher _ _

theorem eq_of_halves {seed other : UInt64} (hlower : seed.toUInt32 = other.toUInt32)
    (hupper : (seed >>> 32).toUInt32 = (other >>> 32).toUInt32) : seed = other := by
  have hseed := seed.toNat_lt
  have hother := other.toNat_lt
  have hshift (word : UInt64) : (word >>> 32).toNat = word.toNat / 2 ^ 32 := by
    rw [UInt64.toNat_shiftRight]
    exact Nat.shiftRight_eq_div_pow _ 32
  rw [← UInt32.toNat_inj, UInt64.toNat_toUInt32, UInt64.toNat_toUInt32] at hlower hupper
  rw [hshift, hshift] at hupper
  rw [← UInt64.toNat_inj]
  omega

/-- Seeds with one lower half have the same key only if they are the same. -/
theorem eq_of_keyOfSeed {seed other : UInt64} (hlower : seed.toUInt32 = other.toUInt32)
    (hkey : keyOfSeed seed = keyOfSeed other) : seed = other := by
  have hupper : (⟨0, (seed >>> 32).toUInt32⟩ : Pair) = ⟨0, (other >>> 32).toUInt32⟩ := by
    rw [← decipher_keyOfSeed, ← decipher_keyOfSeed, hlower, hkey]
  exact eq_of_halves hlower (congrArg Pair.second hupper)

end Random

/-- An integer of at most 64 bits is taken as a seed as it is. -/
theorem Argument.exists_toSeed {seed : Int} (hnonneg : 0 ≤ seed) (hbits : seed < 2 ^ 64) :
    ∃ word, (integer seed).toSeed = .ok word ∧ (word.toNat : Int) = seed := by
  refine ⟨UInt64.ofNat seed.toNat, ?_, ?_⟩
  · rw [toSeed, integer?_integer]
    exact if_pos ⟨hnonneg, hbits⟩
  · rw [UInt64.toNat_ofNat']
    omega

/-- No key is lost where keys are made of another.  Two different seeds of 64 bits that agree
modulo `2 ^ 32` are both accepted and have different keys, so the upper half of a seed always
counts.  And whatever the state, the key that a draw leaves in it differs from the key that it
spends on its byte. -/
theorem keys_kept_apart :
    (∀ seed other : Int, 0 ≤ seed → seed < 2 ^ 64 → 0 ≤ other → other < 2 ^ 64 →
      seed % 2 ^ 32 = other % 2 ^ 32 → seed ≠ other →
      ∃ first second, (Argument.integer seed).toSeed = .ok first ∧
        (Argument.integer other).toSeed = .ok second ∧
        Random.keyOfSeed first ≠ Random.keyOfSeed second) ∧
    ∀ (state : State) (instruction : Instruction), instruction.op = .rnd →
      (state.execute instruction).register instruction.x =
        Random.byte (Random.spend state.random) &&& instruction.nn ∧
      (state.execute instruction).random = Random.keep state.random ∧
      (state.execute instruction).random ≠ Random.spend state.random := by
  refine ⟨?_, ?_⟩
  · intro seed other hseed hseedBits hother hotherBits hagree hne
    obtain ⟨first, hfirst, hfirstNat⟩ := Argument.exists_toSeed hseed hseedBits
    obtain ⟨second, hsecond, hsecondNat⟩ := Argument.exists_toSeed hother hotherBits
    refine ⟨first, second, hfirst, hsecond, fun hkey => hne ?_⟩
    have hlower : first.toUInt32 = second.toUInt32 := by
      rw [← UInt32.toNat_inj, UInt64.toNat_toUInt32, UInt64.toNat_toUInt32]
      omega
    rw [← hfirstNat, ← hsecondNat, Random.eq_of_keyOfSeed hlower hkey]
  · intro state instruction hop
    have hrandom := State.random_execute_draw state hop
    refine ⟨State.register_execute_draw state hop, hrandom, ?_⟩
    rw [hrandom]
    exact Random.keep_ne_spend state.random

/-- Seeds that differ in their highest bit alone have different keys, and the first draw of a
machine leaves another key than it spends. -/
theorem keys_kept_apart_highest_bit :
    (∃ first second, (Argument.integer 1).toSeed = .ok first ∧
      (Argument.integer (2 ^ 63 + 1)).toSeed = .ok second ∧
      Random.keyOfSeed first ≠ Random.keyOfSeed second) ∧
    ∃ instruction, decode 0xC3FF = .ok instruction ∧
      ((State.ofSeed 1).execute instruction).random ≠ Random.spend (State.ofSeed 1).random := by
  refine ⟨keys_kept_apart.1 1 (2 ^ 63 + 1) (by decide) (by decide) (by decide) (by decide)
    (by decide) (by decide), ?_⟩
  have hdecode : decode 0xC3FF = .ok (Decode.instructionOf .rnd 0xC 0x3 0xF 0xF) := rfl
  exact ⟨_, hdecode, (keys_kept_apart.2 (State.ofSeed 1) _ rfl).2.2⟩

end Chip8
