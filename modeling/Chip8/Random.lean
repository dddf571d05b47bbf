import Chip8.Argument
import Chip8.Failure

/-!
# The random stream

Random bytes come from a keyed block function on pairs of 32-bit words: twenty
rounds of add, rotate and exclusive or, with key words added after every fourth
round.  A machine holds one key.  Every draw replaces it by the first half of
its split and spends the second half on one byte, so the stream depends on the
seed and on the number of draws alone.
-/

namespace Chip8

/-- Two 32-bit words: a key, or a block under a key. -/
structure Pair where
  first : UInt32
  second : UInt32
  deriving DecidableEq, Repr, Inhabited

namespace Random

/-- Rotate a word to the left by an amount between one and thirty-one. -/
def rotate (word amount : UInt32) : UInt32 := word <<< amount ||| word >>> (32 - amount)

/-- One round: add, rotate, exclusive or. -/
def round (amount : UInt32) (block : Pair) : Pair :=
  let sum := block.first + block.second
  ⟨sum, rotate block.second amount ^^^ sum⟩

/-- Four rounds and the addition of two key words and a counter. -/
def group (amounts : List UInt32) (keyFirst keySecond : UInt32) (block : Pair) : Pair :=
  let mixed := amounts.foldl (fun block amount => round amount block) block
  ⟨mixed.first + keyFirst, mixed.second + keySecond⟩

/-- The rotations of the first, third and fifth group. -/
def evenAmounts : List UInt32 := [13, 15, 26, 6]

/-- The rotations of the second and fourth group. -/
def oddAmounts : List UInt32 := [17, 29, 16, 24]

/-- The third key word, which completes the exclusive or of all three to a
constant. -/
def parityWord (key : Pair) : UInt32 := key.first ^^^ key.second ^^^ 0x1BD11BDA

/-- The block function: twenty rounds under a key. -/
def encipher (key block : Pair) : Pair :=
  let parity := parityWord key
  -- The three key words take turns, and the counter tells the groups apart.
  ⟨block.first + key.first, block.second + key.second⟩
    |> group evenAmounts key.second (parity + 1)
    |> group oddAmounts parity (key.first + 2)
    |> group evenAmounts key.first (key.second + 3)
    |> group oddAmounts key.second (parity + 4)
    |> group evenAmounts parity (key.first + 5)

/-- The key that stays after a draw. -/
def keep (key : Pair) : Pair := encipher key ⟨0, 0⟩

/-- The key that a draw spends. -/
def spend (key : Pair) : Pair := encipher key ⟨0, 1⟩

/-- The random byte that a spent key yields. -/
def byte (key : Pair) : UInt8 :=
  let block := encipher (spend key) ⟨0, 0⟩
  (block.first ^^^ block.second).toUInt8

/-- The byte that a draw from a key yields. -/
def draw (key : Pair) : UInt8 := byte (spend key)

/-! ### Seeds -/

/-- The key of a 64-bit seed: the high half, enciphered under a key made of the
low half. -/
def keyOfSeed (seed : UInt64) : Pair :=
  encipher ⟨0, seed.toUInt32⟩ ⟨0, (seed >>> 32).toUInt32⟩

end Random

/-- The seed that an argument stands for. -/
def Argument.toSeed (argument : Argument) : Except Failure UInt64 :=
  match argument.integer? with
  | none => .error (.seedNotInteger argument.typeName)
  | some seed =>
      if 0 ≤ seed ∧ seed < 0x10000000000000000 then .ok (UInt64.ofNat seed.toNat)
      else .error (.seedOutOfRange seed)

end Chip8
