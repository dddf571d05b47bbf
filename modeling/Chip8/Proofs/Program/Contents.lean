import Chip8.Proofs.Frame.Simulation
import Chip8.Proofs.Walk
import Chip8.Proofs.Writes
import Chip8.Program

/-!
# What a program leaves in memory

Loading a program lays its bytes over memory from the start address on, and fetching puts two
bytes of memory together, the higher one first.  So what is fetched after a program was loaded
is known byte by byte (`Bank.overlaid`): from the program inside it, from what was there
outside.  This holds for every length that fits, nothing and all of program memory included,
and for every address from which a word can be fetched, those on either side of an end of the
program among them.

Everything else is read off that.  Words that were assembled are fetched from every other
address, and what straddles two of them from the addresses in between.  Nothing below the
start address is touched, so the font stays.  A program that is loaded over another leaves
what a single one would, made of the second and of what sticks out of the first
(`load_load`).
-/

namespace Chip8

open Layout

namespace State

variable {state : State} {program : List UInt8}

/-! ### Loading -/

theorem load_of_le (h : program.length ≤ maxProgramSize) :
    state.load program =
      .ok { state with memory := Bank.lay state.memory programStart program } :=
  if_neg (Nat.not_lt.mpr h)

theorem load_of_lt (h : maxProgramSize < program.length) :
    state.load program = .error (.romTooLarge program.length maxProgramSize) :=
  if_pos h

/-- Loading twice is loading once. -/
theorem load_load (h : program.length ≤ maxProgramSize) (later : List UInt8) :
    State.load { state with memory := Bank.lay state.memory programStart program } later =
      state.load (later ++ program.drop later.length) := by
  by_cases hlater : later.length ≤ maxProgramSize
  · have hboth : (later ++ program.drop later.length).length ≤ maxProgramSize := by
      rw [List.length_append, List.length_drop]
      omega
    rw [load_of_le hlater, load_of_le hboth]
    simp only [Bank.lay_lay]
  · -- Nothing sticks out of a program that is too long itself.
    have hlong : maxProgramSize < later.length := Nat.not_le.mp hlater
    have hnone : program.drop later.length = [] :=
      List.drop_eq_nil_of_le (Nat.le_trans h (Nat.le_of_lt hlong))
    rw [hnone, List.append_nil, load_of_lt hlong, load_of_lt hlong]

/-! ### The font -/

/-- The font is where it belongs. -/
def HasFont (state : State) : Prop :=
  ∀ i < font.length, state.memory[fontStart + i]? = font[i]?

theorem fontStart_add_lt {i : Nat} (h : i < font.length) : fontStart + i < programStart :=
  Nat.lt_of_lt_of_le (Nat.add_lt_add_left h fontStart) (by decide)

theorem hasFont_fresh (random : Pair) : (fresh random).HasFont := by
  intro i hi
  have hlt : fontStart + i < memorySize := Nat.lt_trans (fontStart_add_lt hi) (by decide)
  have hlay : (fresh random).memory = Bank.lay (Vector.replicate memorySize 0) fontStart font := by
    rw [fresh, blankMemory, Bank.lay]
  rw [hlay, Vector.getElem?_eq_getElem hlt, Bank.getElem_lay,
    Bank.overlaid_of_getElem? _ hlt rfl (List.getElem?_eq_getElem hi), List.getElem?_eq_getElem hi]

theorem hasFont_lay_iff (state : State) (program : List UInt8) :
    HasFont { state with memory := Bank.lay state.memory programStart program } ↔
      state.HasFont := by
  refine forall₂_congr fun i hi => ?_
  -- The font ends before programs start.
  have hbelow := fontStart_add_lt hi
  have hlt : fontStart + i < memorySize := Nat.lt_trans hbelow (by decide)
  simp only [Vector.getElem?_eq_getElem hlt, Bank.getElem_lay, Bank.overlaid_of_lt _ _ hlt hbelow]

/-! ### Fetching -/

/-- Both ways of fetching find a word at an address. -/
structure Fetches (state : State) (pc word : Nat) : Prop where
  fetch : ∃ fetched : UInt16, { state with pc := UInt16.ofNat pc }.fetch = .ok fetched ∧
    fetched.toNat = word
  frame : (Frame.word { state with pc := UInt16.ofNat pc }).toInt = word

theorem toInt_word_at {state : State} {address : Nat} {high low : UInt8}
    (hpc : state.pc.toNat = address) (hlt : address < memorySize) (h : address + 1 < memorySize)
    (hhigh : state.memory[address] = high) (hlow : state.memory[address + 1] = low) :
    (Frame.word state).toInt = (256 * high.toNat + low.toNat : Nat) := by
  subst hpc hhigh hlow
  rw [Frame.toInt_word hlt h, Int.natCast_add, Int.natCast_mul]
  rfl

theorem fetches (state : State) {pc : Nat} (h : pc + 1 < memorySize) :
    state.Fetches pc (256 * state.memory[pc].toNat + state.memory[pc + 1].toNat) := by
  have hpc : (UInt16.ofNat pc).toNat = pc :=
    UInt16.toNat_ofNat_of_lt' (Nat.lt_trans (Nat.lt_of_succ_lt h) (by decide))
  constructor
  case fetch =>
    refine ⟨_, fetch_at hpc h rfl rfl, ?_⟩
    rw [Decode.toNat_join, Nat.mul_comm]
  case frame =>
    exact toInt_word_at hpc (Nat.lt_of_succ_lt h) h rfl rfl

theorem fetches_lay (state : State) (program : List UInt8) {pc : Nat} (h : pc + 1 < memorySize) :
    Fetches { state with memory := Bank.lay state.memory programStart program } pc
      (256 * (Bank.overlaid state.memory programStart program pc (Nat.lt_of_succ_lt h)).toNat +
        (Bank.overlaid state.memory programStart program (pc + 1) h).toNat) := by
  rw [← Bank.getElem_lay, ← Bank.getElem_lay]
  exact fetches _ h

end State

/-! ### Words -/

/-- The bytes of some words, the higher byte of each word first. -/
def assemble (words : List UInt16) : List UInt8 :=
  words.flatMap fun word : UInt16 => [(word >>> 8).toUInt8, word.toUInt8]

theorem length_assemble (words : List UInt16) : (assemble words).length = 2 * words.length := by
  induction words with
  | nil => rfl
  | cons word words ih =>
      rw [assemble, List.flatMap_cons, List.length_append, ← assemble, ih, List.length_cons]
      simp only [List.length_cons, List.length_nil]
      omega

theorem getElem?_assemble {words : List UInt16} {i : Nat} {word : UInt16}
    (h : words[i]? = some word) :
    (assemble words)[2 * i]? = some (word >>> 8).toUInt8 ∧
      (assemble words)[2 * i + 1]? = some word.toUInt8 := by
  induction words generalizing i with
  | nil => simp at h
  | cons first words ih =>
      have hassemble : assemble (first :: words) =
          (first >>> 8).toUInt8 :: first.toUInt8 :: assemble words := rfl
      rw [hassemble]
      cases i with
      | zero =>
          cases h
          exact ⟨rfl, rfl⟩
      | succ i => exact ih h

section Words

variable (state : State) {words : List UInt16} {i : Nat} {word next : UInt16}

theorem State.fetches_lay_assemble (hfits : words.length ≤ maxProgramSize / 2)
    (h : words[i]? = some word) :
    Fetches { state with memory := Bank.lay state.memory programStart (assemble words) }
      (programStart + 2 * i) word.toNat := by
  have hi := (List.getElem?_eq_some_iff.mp h).1
  have hpc : programStart + 2 * i + 1 < memorySize := by
    simp only [maxProgramSize, memorySize, programStart] at hfits ⊢
    omega
  have hfetches := fetches_lay state (assemble words) hpc
  obtain ⟨hhigh, hlow⟩ := getElem?_assemble h
  rw [Bank.overlaid_of_getElem? _ (Nat.lt_of_succ_lt hpc) rfl hhigh,
    Bank.overlaid_of_getElem? _ hpc (Nat.add_assoc _ _ _) hlow, Decode.toNat_highByte,
    UInt16.toNat_toUInt8, Nat.div_add_mod] at hfetches
  exact hfetches

/-- Between two words the lower byte of the first and the higher byte of the second are
fetched. -/
theorem State.fetches_lay_assemble_between (hfits : words.length ≤ maxProgramSize / 2)
    (h : words[i]? = some word) (hnext : words[i + 1]? = some next) :
    Fetches { state with memory := Bank.lay state.memory programStart (assemble words) }
      (programStart + 2 * i + 1) (256 * (word.toNat % 256) + next.toNat / 256) := by
  have hi := (List.getElem?_eq_some_iff.mp hnext).1
  have hpc : programStart + 2 * i + 1 + 1 < memorySize := by
    simp only [maxProgramSize, memorySize, programStart] at hfits ⊢
    omega
  have hfetches := fetches_lay state (assemble words) hpc
  have hlow := (getElem?_assemble h).2
  have hhigh := (getElem?_assemble hnext).1
  rw [Bank.overlaid_of_getElem? _ (Nat.lt_of_succ_lt hpc) (Nat.add_assoc _ _ _) hlow,
    Bank.overlaid_of_getElem? _ hpc (by omega) hhigh, Decode.toNat_highByte, UInt16.toNat_toUInt8]
    at hfetches
  exact hfetches

end Words

/-- A program that is too long is refused with its length.  Any other one changes nothing but
memory, and at every address from which a word can be fetched both ways of fetching find there
what the program and the memory under it make up; the font stays, and another program loaded
over it does what a single one would.  In particular words come back at the addresses where
they were put, and halves of two neighbours between them. -/
theorem programs_fetched_exact (state : State) :
    (∀ program : List UInt8, maxProgramSize < program.length →
      state.load program = .error (.romTooLarge program.length maxProgramSize)) ∧
    (∀ program : List UInt8, program.length ≤ maxProgramSize →
      ∃ memory, state.load program = .ok { state with memory } ∧
        (∀ pc (h : pc + 1 < memorySize),
          State.Fetches { state with memory } pc
            (256 * (Bank.overlaid state.memory programStart program pc
                (Nat.lt_of_succ_lt h)).toNat +
              (Bank.overlaid state.memory programStart program (pc + 1) h).toNat)) ∧
        (State.HasFont { state with memory } ↔ state.HasFont) ∧
        ∀ later : List UInt8,
          State.load { state with memory } later =
            state.load (later ++ program.drop later.length)) ∧
    ∀ words : List UInt16, words.length ≤ maxProgramSize / 2 →
      ∃ memory, state.load (assemble words) = .ok { state with memory } ∧
        (∀ i word, words[i]? = some word →
          State.Fetches { state with memory } (programStart + 2 * i) word.toNat) ∧
        ∀ i word next, words[i]? = some word → words[i + 1]? = some next →
          State.Fetches { state with memory } (programStart + 2 * i + 1)
            (256 * (word.toNat % 256) + next.toNat / 256) := by
  refine ⟨fun _ => State.load_of_lt, ?_, ?_⟩
  · intro program hfits
    refine ⟨Bank.lay state.memory programStart program, State.load_of_le hfits, ?_⟩
    exact ⟨fun _ => State.fetches_lay state program, State.hasFont_lay_iff state program,
      State.load_load hfits⟩
  · intro words hfits
    have hlength : (assemble words).length ≤ maxProgramSize := by
      rw [length_assemble]
      omega
    refine ⟨Bank.lay state.memory programStart (assemble words), State.load_of_le hlength, ?_⟩
    exact ⟨fun _ _ => State.fetches_lay_assemble state hfits,
      fun _ _ _ => State.fetches_lay_assemble_between state hfits⟩

/-- Two words loaded into a fresh machine, which keeps its font. -/
theorem programs_fetched_exact_words :
    [0x6A0B, 0x1202].length ≤ maxProgramSize / 2 ∧
    ∃ loaded, (State.fresh ⟨0, 0⟩).load (assemble [0x6A0B, 0x1202]) = .ok loaded ∧
      loaded.HasFont ∧ loaded.Fetches 0x200 0x6A0B ∧ loaded.Fetches 0x201 0x0B12 := by
  obtain ⟨-, hprogram, hwords⟩ := programs_fetched_exact (State.fresh ⟨0, 0⟩)
  obtain ⟨_, hload, -, hfont, -⟩ := hprogram (assemble [0x6A0B, 0x1202]) (by decide)
  obtain ⟨_, hload', hat, hbetween⟩ := hwords [0x6A0B, 0x1202] (by decide)
  have hsame := Except.ok.inj (hload'.symm.trans hload)
  refine ⟨by decide, _, hload, hfont.mpr (State.hasFont_fresh _), ?_, ?_⟩
  · exact hsame ▸ hat 0 _ rfl
  · exact hsame ▸ hbetween 0 _ _ rfl rfl

end Chip8
