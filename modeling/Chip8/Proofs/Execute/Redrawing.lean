import Mathlib.Data.Nat.Bits
import Chip8.Proofs.Execute.Locality

/-!
# Drawing in any order, and drawing twice

A sprite toggles the pixels that it covers, so what several drawings make of a pixel depends
only on how many of them cover it, and of that only on whether the number is odd.  The order
of the drawings does not matter to the screen, and two drawings of the same word might as
well be left out.

This needs that no drawing changes what a later one covers.  A drawing does change the flag
register.  Where neither coordinate is taken from there (`Drawing`), it leaves alone all that
covering and the guard look at: memory, the index and the other registers (`SameSprites`).
One drawing is settled by `Drawing.pixel_execute`, and a run of them by induction, the first
drawing first (`exists_drawn`).

Drawn twice, a sprite with a set bit covers some pixel, which is lit either before the first
drawing or before the second.
-/

namespace Chip8

open Layout

/-! ### Words one after another -/

/-- Carry out a word that a host hands over, unless it has no operation or is refused. -/
def State.carryOut (state : State) (word : Int) : Except Fault State := do
  let instruction ← decode word
  state.check instruction
  return state.execute instruction

/-- Carry out several words, the first one first. -/
def State.carryOutAll (state : State) (words : List Int) : Except Fault State :=
  words.foldlM State.carryOut state

/-! ### Drawings -/

/-- What a word draws that takes neither coordinate from the flag register. -/
structure Drawing where
  x : Nibble
  y : Nibble
  n : Nibble
  x_ne_flag : x ≠ flagRegister
  y_ne_flag : y ≠ flagRegister
  deriving DecidableEq

/-- Two states in which every drawing covers the same pixels. -/
structure SameSprites (before after : State) : Prop where
  memory : after.memory = before.memory
  index : after.index = before.index
  register : ∀ i, i ≠ flagRegister → after.register i = before.register i

namespace Drawing

def word (drawing : Drawing) : Int := drawWord drawing.x drawing.y drawing.n

def instruction (drawing : Drawing) : Instruction :=
  Chip8.drawing drawing.x drawing.y drawing.n

/-- Whether the sprite of a drawing covers a pixel. -/
def Covers (drawing : Drawing) (state : State) (r : Fin screenHeight) (c : Fin screenWidth) :
    Prop :=
  Sprite.Covers state.memory state.index.toNat drawing.n
    ((state.register drawing.x).toNat % screenWidth)
    ((state.register drawing.y).toNat % screenHeight) r c

instance (drawing : Drawing) (state : State) (r : Fin screenHeight) (c : Fin screenWidth) :
    Decidable (drawing.Covers state r c) :=
  inferInstanceAs (Decidable (Sprite.Covers ..))

/-- Whether the sprite of a drawing has a set bit. -/
def HasBit (drawing : Drawing) (state : State) : Prop :=
  ∃ i < drawing.n.val, ∃ byte, state.memory[state.index.toNat + i]? = some byte ∧ byte ≠ 0

theorem word_injective : Function.Injective word := by
  intro first second h
  obtain ⟨x, y, n, _, _⟩ := first
  obtain ⟨x', y', n', _, _⟩ := second
  have hx := x.isLt
  have hy := y.isLt
  have hn := n.isLt
  have hx' := x'.isLt
  have hy' := y'.isLt
  have hn' := n'.isLt
  simp only [word, drawWord] at h
  simp only [mk.injEq, Fin.ext_iff]
  omega

variable (drawing : Drawing) {state before after : State}

theorem covers_iff (h : SameSprites before after) (r : Fin screenHeight) (c : Fin screenWidth) :
    drawing.Covers after r c ↔ drawing.Covers before r c := by
  rw [Covers, Covers, h.memory, h.index, h.register _ drawing.x_ne_flag,
    h.register _ drawing.y_ne_flag]

theorem check_iff (h : SameSprites before after) :
    after.check drawing.instruction = .ok () ↔ before.check drawing.instruction = .ok () := by
  rw [instruction, check_drawing_eq_ok_iff, check_drawing_eq_ok_iff, h.index]

theorem execute_eq :
    state.execute drawing.instruction =
      Execute.drawSprite state.clamp drawing.x drawing.y drawing.n state := by
  simp only [State.execute, execute, instruction, op_drawing, x_drawing, y_drawing, n_drawing]

/-- A drawing changes nothing that a drawing looks at. -/
theorem sameSprites_execute : SameSprites state (state.execute drawing.instruction) := by
  have hop : drawing.instruction.op = .drw := rfl
  refine ⟨?_, ?_, ?_⟩
  · simp only [State.execute, Execute.memory_execute, Execute.memoryWrites, hop,
      Bank.writeAll_nil]
  · simp only [State.execute, Execute.index_execute, hop]
  · intro i hi
    rw [execute_eq, Execute.register_drawSprite, if_neg hi.symm]

theorem carryOut_word (h : state.check drawing.instruction = .ok ()) :
    state.carryOut drawing.word = .ok (state.execute drawing.instruction) := by
  rw [State.carryOut, word, decode_drawWord, ← instruction]
  simp only [bind, Except.bind, h, pure, Except.pure]

theorem pixel_execute (h : state.check drawing.instruction = .ok ()) (r : Fin screenHeight)
    (c : Fin screenWidth) :
    (state.execute drawing.instruction).screen.pixel r c =
      (state.screen.pixel r c ^^ decide (drawing.Covers state r c)) := by
  rw [execute_eq]
  exact Execute.pixel_drawSprite (State.check_eq_ok_iff.mp h) state.clamp r c

theorem flag_execute (h : state.check drawing.instruction = .ok ()) {r : Fin screenHeight}
    {c : Fin screenWidth} (hlit : state.screen.pixel r c) (hcovered : drawing.Covers state r c) :
    (state.execute drawing.instruction).register flagRegister = 1 := by
  have hcollides := (Execute.collides_spriteStrokes_iff (State.check_eq_ok_iff.mp h)
    state.clamp).mpr ⟨r, c, hlit, hcovered⟩
  rw [execute_eq, Execute.register_drawSprite, if_pos rfl, hcollides]
  rfl

/-- A set bit of a sprite falls on some pixel. -/
theorem exists_covers (h : drawing.HasBit state) : ∃ r c, drawing.Covers state r c := by
  obtain ⟨i, hi, byte, hread, hne⟩ := h
  obtain ⟨k, hk, hbit⟩ := Sprite.exists_testBit hne
  have hplace : 7 - (7 - k) = k := by omega
  let y := (state.register drawing.y).toNat % screenHeight
  let x := (state.register drawing.x).toNat % screenWidth
  refine ⟨⟨(y + i) % screenHeight, Nat.mod_lt _ (by decide)⟩,
    ⟨(x + (7 - k)) % screenWidth, Nat.mod_lt _ (by decide)⟩, i, hi, rfl, 7 - k, by omega, rfl, ?_⟩
  rw [hread, hplace]
  exact hbit

end Drawing

namespace SameSprites

variable {first second third : State}

theorem refl (state : State) : SameSprites state state := ⟨rfl, rfl, fun _ _ => rfl⟩

theorem trans (h : SameSprites first second) (hnext : SameSprites second third) :
    SameSprites first third :=
  ⟨hnext.memory.trans h.memory, hnext.index.trans h.index,
    fun i hi => (hnext.register i hi).trans (h.register i hi)⟩

end SameSprites

/-! ### Several drawings -/

namespace Drawing

variable (state : State) (r : Fin screenHeight) (c : Fin screenWidth)

/-- Whether an odd number of drawings cover a pixel. -/
def toggles (drawings : List Drawing) (state : State) (r : Fin screenHeight)
    (c : Fin screenWidth) : Bool :=
  (drawings.countP fun drawing => drawing.Covers state r c).bodd

@[simp] theorem toggles_nil : toggles [] state r c = false := Nat.bodd_zero

@[simp] theorem toggles_cons (drawing : Drawing) (drawings : List Drawing) :
    toggles (drawing :: drawings) state r c =
      (decide (drawing.Covers state r c) ^^ toggles drawings state r c) := by
  rw [toggles, List.countP_cons]
  by_cases hcovers : drawing.Covers state r c <;> simp [hcovers, toggles]

theorem toggles_eq_of_perm {drawings others : List Drawing} (h : others.Perm drawings) :
    toggles others state r c = toggles drawings state r c :=
  congrArg Nat.bodd (h.countP_eq _)

theorem toggles_congr {before after : State} (h : SameSprites before after)
    (drawings : List Drawing) (r : Fin screenHeight) (c : Fin screenWidth) :
    toggles drawings after r c = toggles drawings before r c := by
  simp only [toggles, covers_iff _ h]

theorem toggles_cons_cons (drawing : Drawing) (drawings : List Drawing) :
    toggles (drawing :: drawing :: drawings) state r c = toggles drawings state r c := by
  rw [toggles_cons, toggles_cons, ← Bool.xor_assoc, Bool.xor_self, Bool.false_xor]

end Drawing

/-- Of one state some drawings have made another: a pixel has changed if an odd number of
them cover it. -/
structure Drawn (drawings : List Drawing) (before after : State) : Prop where
  carryOutAll : before.carryOutAll (drawings.map Drawing.word) = .ok after
  same : SameSprites before after
  pixel : ∀ r c, after.screen.pixel r c =
    (before.screen.pixel r c ^^ Drawing.toggles drawings before r c)

theorem exists_drawn {state : State} {drawings : List Drawing}
    (h : ∀ drawing ∈ drawings, state.check drawing.instruction = .ok ()) :
    ∃ last, Drawn drawings state last := by
  induction drawings generalizing state with
  | nil => exact ⟨state, rfl, .refl state, fun r c => by simp⟩
  | cons drawing drawings ih =>
      rw [List.forall_mem_cons] at h
      obtain ⟨hfits, hrest⟩ := h
      have hsame : SameSprites state _ := drawing.sameSprites_execute
      obtain ⟨last, hlast⟩ := ih fun later hmem => (later.check_iff hsame).mpr (hrest later hmem)
      refine ⟨last, ?_, hsame.trans hlast.same, ?_⟩
      · rw [State.carryOutAll, List.map_cons, List.foldlM_cons, drawing.carryOut_word hfits]
        exact hlast.carryOutAll
      · intro r c
        rw [hlast.pixel, drawing.pixel_execute hfits, Drawing.toggles_congr hsame,
          Drawing.toggles_cons, Bool.xor_assoc]

namespace Drawn

variable {state last : State} {drawings others : List Drawing}

/-- Fewer drawings that toggle the same pixels lead to the same screen. -/
theorem exists_of_toggles (h : Drawn drawings state last)
    (hfits : ∀ drawing ∈ drawings, state.check drawing.instruction = .ok ())
    (hsub : others ⊆ drawings)
    (htoggles : ∀ r c, Drawing.toggles others state r c = Drawing.toggles drawings state r c) :
    ∃ other, state.carryOutAll (others.map Drawing.word) = .ok other ∧
      other.screen = last.screen := by
  obtain ⟨other, hother⟩ := exists_drawn fun drawing hmem => hfits drawing (hsub hmem)
  refine ⟨other, hother.carryOutAll, Screen.eq_of_pixel_eq fun r c => ?_⟩
  rw [h.pixel, hother.pixel, htoggles]

theorem exists_of_perm (h : Drawn drawings state last) (hperm : others.Perm drawings)
    (hfits : ∀ drawing ∈ drawings, state.check drawing.instruction = .ok ()) :
    ∃ other, state.carryOutAll (others.map Drawing.word) = .ok other ∧
      other.screen = last.screen :=
  h.exists_of_toggles hfits hperm.subset fun r c => Drawing.toggles_eq_of_perm state r c hperm

theorem exists_of_removed (h : Drawn drawings state last) {drawing : Drawing}
    (hperm : drawings.Perm (drawing :: drawing :: others))
    (hfits : ∀ drawing ∈ drawings, state.check drawing.instruction = .ok ()) :
    ∃ other, state.carryOutAll (others.map Drawing.word) = .ok other ∧
      other.screen = last.screen := by
  have hsub : others ⊆ drawings := fun left hmem =>
    hperm.mem_iff.mpr (List.mem_cons_of_mem _ (List.mem_cons_of_mem _ hmem))
  refine h.exists_of_toggles hfits hsub fun r c => ?_
  rw [Drawing.toggles_eq_of_perm state r c hperm, Drawing.toggles_cons_cons]

end Drawn

theorem perm_pair_front {α : Type} (early middle late : List α) (first second : α) :
    (early ++ first :: (middle ++ second :: late)).Perm
      (first :: second :: (early ++ (middle ++ late))) := by
  refine List.perm_middle.trans (List.Perm.cons first ?_)
  rw [← List.append_assoc, ← List.append_assoc]
  exact List.perm_middle

/-- Drawn twice in a row, a sprite leaves the screen as it was, and if it has a set bit, one
of the two drawings reports a collision. -/
theorem Drawing.twice {state : State} (drawing : Drawing)
    (hfits : state.check drawing.instruction = .ok ()) :
    ∃ once twice, state.carryOut drawing.word = .ok once ∧
      once.carryOut drawing.word = .ok twice ∧ twice.screen = state.screen ∧
      (drawing.HasBit state →
        once.register flagRegister = 1 ∨ twice.register flagRegister = 1) := by
  set once := state.execute drawing.instruction with honce
  have hsame : SameSprites state once := drawing.sameSprites_execute
  have hagain : once.check drawing.instruction = .ok () := (drawing.check_iff hsame).mpr hfits
  refine ⟨once, once.execute drawing.instruction, drawing.carryOut_word hfits,
    drawing.carryOut_word hagain, ?_, ?_⟩
  · apply Screen.eq_of_pixel_eq
    intro r c
    have htwice : decide (drawing.Covers once r c) = decide (drawing.Covers state r c) :=
      decide_eq_decide.mpr (drawing.covers_iff hsame r c)
    rw [drawing.pixel_execute hagain, drawing.pixel_execute hfits, htwice, Bool.xor_assoc,
      Bool.xor_self, Bool.xor_false]
  · intro hbit
    obtain ⟨r, c, hcovered⟩ := drawing.exists_covers hbit
    -- The pixel is lit before the first drawing, or it is before the second.
    cases hlit : state.screen.pixel r c with
    | true => exact Or.inl (drawing.flag_execute hfits hlit hcovered)
    | false =>
        have hdrawn : once.screen.pixel r c := by
          rw [honce, drawing.pixel_execute hfits, hlit, decide_eq_true hcovered]
          rfl
        exact Or.inr (drawing.flag_execute hagain hdrawn ((drawing.covers_iff hsame r c).mpr
          hcovered))

/-- Words that draw, take no coordinate from the flag register and pass the guard may be
carried out in any order, and any two that are the same may be left out: the screen is the
same in the end.  Such a word carried out twice in a row leaves the screen as it was, and if
its sprite has a set bit, it leaves the flag register at one at least one of these times. -/
theorem drawings_commute_and_cancel {state : State} {drawings : List Drawing}
    (hfits : ∀ drawing ∈ drawings, state.check drawing.instruction = .ok ()) :
    ∃ last, state.carryOutAll (drawings.map Drawing.word) = .ok last ∧
      (∀ others : List Drawing, others.Perm drawings →
        ∃ other, state.carryOutAll (others.map Drawing.word) = .ok other ∧
          other.screen = last.screen) ∧
      (∀ early first middle second late,
        drawings = early ++ first :: (middle ++ second :: late) → first.word = second.word →
        ∃ other, state.carryOutAll ((early ++ (middle ++ late)).map Drawing.word) = .ok other ∧
          other.screen = last.screen) ∧
      ∀ drawing ∈ drawings,
        ∃ once twice, state.carryOut drawing.word = .ok once ∧
          once.carryOut drawing.word = .ok twice ∧ twice.screen = state.screen ∧
          (drawing.HasBit state →
            once.register flagRegister = 1 ∨ twice.register flagRegister = 1) := by
  obtain ⟨last, hlast⟩ := exists_drawn hfits
  refine ⟨last, hlast.carryOutAll, fun others hperm => hlast.exists_of_perm hperm hfits, ?_,
    fun drawing hmem => drawing.twice (hfits drawing hmem)⟩
  intro early first middle second late hdrawings hword
  obtain rfl : first = second := Drawing.word_injective hword
  have hperm : drawings.Perm (first :: first :: (early ++ (middle ++ late))) := by
    rw [hdrawings]
    exact perm_pair_front early middle late first first
  exact hlast.exists_of_removed hperm hfits

/-- The glyph of zero drawn twice across a corner of the screen, with another sprite drawn
over it in between. -/
theorem drawings_commute_and_cancel_glyph :
    let state := { State.fresh ⟨0, 0⟩ with registers := Vector.replicate registerCount 61 }
    let zero : Drawing := ⟨0, 1, 5, by decide, by decide⟩
    let other : Drawing := ⟨2, 1, 7, by decide, by decide⟩
    (∀ drawing ∈ [zero, other, zero], state.check drawing.instruction = .ok ()) ∧
      zero.HasBit state ∧
      ∃ last, state.carryOutAll [0xD015, 0xD217, 0xD015] = .ok last ∧
        ∃ alone, state.carryOutAll [0xD217] = .ok alone ∧ alone.screen = last.screen := by
  intro state zero other
  have hfits : ∀ drawing ∈ [zero, other, zero], state.check drawing.instruction = .ok () := by
    decide
  obtain ⟨last, hlast, -, hremoved, -⟩ := drawings_commute_and_cancel hfits
  exact ⟨hfits, ⟨0, by decide, 0xF0, rfl, by decide⟩, last, hlast,
    hremoved [] zero [other] zero [] rfl rfl⟩

end Chip8
