import Chip8.Proofs.Screen.Grid
import Chip8.Screen.Brush

/-!
# Screens and colours handed over as bytes

A host hands over a screen as a list of its bytes and a colour as a list of its parts.
Reading such a list gives the bytes back (`toByteArray_ofBytes`), so that a screen is taken
for itself (`toScreen_ofBytes`) and a colour for the brush that uses it throughout
(`toBrush_ofColor`).
-/

namespace Chip8

open Layout

namespace Argument

/-- The argument that stands for some bytes. -/
def ofBytes (bytes : List UInt8) : Argument := .list (bytes.map fun byte => .integer byte.toNat)

theorem ofColor_eq (color : Color) :
    ofColor color = ofBytes [color.red, color.green, color.blue] := rfl

theorem sharedShape?_bytes (bytes : List UInt8) :
    sharedShape? (bytes.map fun byte => .integer byte.toNat) = some [] := by
  induction bytes with
  | nil => simp [sharedShape?]
  | cons byte rest ih =>
      cases rest with
      | nil => simp [sharedShape?, shape?]
      | cons next rest =>
          rw [List.map_cons] at ih ⊢
          rw [List.map_cons, sharedShape?, ih]
          simp [shape?]

theorem shape?_ofBytes (bytes : List UInt8) : (ofBytes bytes).shape? = some [bytes.length] := by
  rw [ofBytes, shape?, sharedShape?_bytes, List.length_map]

theorem elements_ofBytes (bytes : List UInt8) :
    (ofBytes bytes).elements = bytes.map fun byte => .integer byte.toNat := by
  rw [ofBytes, elements]
  induction bytes with
  | nil => simp [allElements]
  | cons byte rest ih => rw [List.map_cons, allElements, ih, elements, List.singleton_append]

theorem toElement_byte (byte : UInt8) :
    (integer byte.toNat).toElement 0 255 = .ok (byte.toNat : Int) := by
  have hlt := byte.toNat_lt
  have hle : (0 : Int) ≤ byte.toNat ∧ (byte.toNat : Int) ≤ 255 := by omega
  simp only [toElement, toWhole_integer, bind, Except.bind, if_pos hle]

theorem mapM_toElement_bytes (bytes : List UInt8) :
    (bytes.map fun byte => integer byte.toNat).mapM (toElement 0 255) =
      .ok (bytes.map fun byte => (byte.toNat : Int)) := by
  induction bytes with
  | nil => rfl
  | cons byte rest ih =>
      rw [List.map_cons, List.mapM_cons, toElement_byte, ih]
      rfl

theorem map_ofInt_bytes (bytes : List UInt8) :
    (bytes.map fun byte => (byte.toNat : Int)).map UInt8.ofInt = bytes := by
  have hback : ∀ byte : UInt8, UInt8.ofInt (byte.toNat : Int) = byte := by
    intro byte
    have hlt := byte.toNat_lt
    refine UInt8.toNat_inj.mp ?_
    simp only [UInt8.ofInt, UInt8.toNat_ofNat']
    omega
  rw [List.map_map]
  exact (List.map_congr_left fun byte _ => hback byte).trans (List.map_id bytes)

/-- A list of bytes is read as these bytes. -/
theorem toByteArray_ofBytes (bytes : List UInt8) :
    (ofBytes bytes).toByteArray = .ok ([bytes.length], bytes) := by
  have harray : (ofBytes bytes).toArray 0 255 =
      .ok ([bytes.length], bytes.map fun byte => (byte.toNat : Int)) := by
    rw [toArray, shape?_ofBytes, elements_ofBytes, mapM_toElement_bytes]
    rfl
  simp only [toByteArray, harray, bind, Except.bind, pure, Except.pure, map_ofInt_bytes]

/-- A list of the bytes of a screen is read as the screen. -/
theorem toScreen_ofBytes (screen : Screen) : (ofBytes screen.toList).toScreen = .ok screen := by
  rw [toScreen, toByteArray_ofBytes]
  simp [bind, Except.bind, Screen.ofBytes, Vector.toArray_toList]

/-- A colour is read as the brush that uses it throughout. -/
theorem toBrush_ofColor (color : Color) (pixels : Nat) :
    (ofColor color).toBrush pixels = .ok (Brush.solid color) := by
  rw [toBrush, ofColor_eq, toByteArray_ofBytes]
  rfl

end Argument

/-- A pixel of the screen is a bit of a byte, the leftmost of eight the highest. -/
theorem Screen.exists_byte (screen : Screen) (row : Fin screenHeight) (column : Fin screenWidth) :
    ∃ byte, screen[8 * row.val + column.val / 8]? = some byte ∧
      screen.pixel row column = byte.toNat.testBit (7 - column.val % 8) := by
  have hplace : (place row (byteColumn column)).val = 8 * row.val + column.val / 8 := by
    simp only [place, byteColumn, bytesPerRow, Nat.mul_comm]
  refine ⟨screen[place row (byteColumn column)], ?_, rfl⟩
  rw [← hplace]
  exact Vector.getElem?_eq_getElem (place row (byteColumn column)).isLt

end Chip8
