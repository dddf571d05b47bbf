import Mathlib.Data.List.Basic
import Chip8.Text.Numeral

/-!
# Columns read back

The columns of messages and log lines can be read from left to right: blanks, a minus sign if
there is one, and digits, with letters for those above nine.  Whatever integer a column shows,
in decimal or in hexadecimal, is the one that is read from it, and no column is narrower than
it should be (`isDecimal_decimal`, `isHexadecimal_hexadecimal`).

## Strategy

The last digit of a numeral comes off its end (`Nat.toDigits_of_base_le`), and reading goes on
with a digit exactly as long division left it, so the digits of a number are read as that number
by strong induction (`readOn?_toDigits`).  Zeros in front do not matter to the digits
(`readOn?_replicate_zero`), nor do blanks to a column (`readColumn?_of_digits`).
-/

namespace Chip8.Text

/-! ### Reading -/

/-- The digits up to base sixteen. -/
def digitLetters : List Char := "0123456789ABCDEF".toList

/-- The value of a digit: its place among all of them, if that is below the base. -/
def digitOf? (base : Nat) (letter : Char) : Option Nat :=
  let value := digitLetters.idxOf letter
  if value < base then some value else none

/-- The number that digits stand for, behind others that stand for a number already. -/
def readOn? (base value : Nat) (digits : List Char) : Option Nat :=
  digits.foldlM (fun value letter => (digitOf? base letter).map (base * value + ·)) value

/-- The number that digits stand for.  There has to be one at least. -/
def readNumber? (base : Nat) (digits : List Char) : Option Nat :=
  if digits = [] then none else readOn? base 0 digits

/-- The integer that a column shows. -/
def readColumn? (base : Nat) (text : String) : Option Int :=
  match text.toList.dropWhile (· = ' ') with
  | '-' :: digits => (readNumber? base digits).map fun size : Nat => -(size : Int)
  | digits => (readNumber? base digits).map fun size : Nat => (size : Int)

/-- A text is an integer in decimal, right-aligned in so many places: it is as wide, and the
integer can be read from it. -/
structure IsDecimal (width : Nat) (value : Int) (text : String) : Prop where
  eq : text = decimal width value
  width : width ≤ text.length
  value : readColumn? 10 text = some value

/-- A text is an integer in hexadecimal, with zeros up to so many places. -/
structure IsHexadecimal (width : Nat) (value : Int) (text : String) : Prop where
  eq : text = hexadecimal width value
  width : width ≤ text.length
  value : readColumn? 16 text = some value

/-! ### Digits -/

section Digits

variable {base : Nat}

theorem readOn?_append (value : Nat) (digits more : List Char) :
    readOn? base value (digits ++ more) =
      (readOn? base value digits).bind fun value => readOn? base value more :=
  List.foldlM_append

theorem readOn?_singleton (value : Nat) (letter : Char) :
    readOn? base value [letter] = (digitOf? base letter).map (base * value + ·) := by
  rw [readOn?, List.foldlM_cons]
  cases digitOf? base letter <;> rfl

theorem readOn?_replicate_zero (hbase : 0 < base) (zeros : Nat) (digits : List Char) :
    readOn? base 0 (List.replicate zeros '0' ++ digits) = readOn? base 0 digits := by
  have hzero : digitOf? base '0' = some 0 := if_pos hbase
  induction zeros with
  | zero => rfl
  | succ zeros ih =>
      have hfirst : readOn? base 0 ['0'] = some 0 := by
        rw [readOn?_singleton, hzero]
        rfl
      rw [List.replicate_succ, List.cons_append, ← List.singleton_append, readOn?_append, hfirst,
        Option.bind_some, ih]

/-- The digits of a number are read as that number, whichever letters they have been given. -/
theorem readOn?_toDigits (hbase : 1 < base) {letter : Char → Char}
    (hletter : ∀ digit < base, digitOf? base (letter digit.digitChar) = some digit)
    (value : Nat) : readOn? base 0 ((Nat.toDigits base value).map letter) = some value := by
  have hlast (first value : Nat) :
      readOn? base first [letter (value % base).digitChar] =
        some (base * first + value % base) := by
    rw [readOn?_singleton, hletter _ (Nat.mod_lt value (Nat.zero_lt_of_lt hbase))]
    rfl
  induction value using Nat.strongRecOn with
  | ind value ih =>
      rcases Nat.lt_or_ge value base with hlt | hle
      · have hdigit := hlast 0 value
        rw [Nat.mod_eq_of_lt hlt, Nat.mul_zero, Nat.zero_add] at hdigit
        rw [Nat.toDigits_of_lt_base hlt]
        exact hdigit
      · have hpos : 0 < value := Nat.lt_of_lt_of_le (Nat.zero_lt_of_lt hbase) hle
        have hrest := ih (value / base) (Nat.div_lt_self hpos hbase)
        rw [Nat.toDigits_of_base_le hbase hle, List.map_append, readOn?_append, hrest,
          Option.bind_some, List.map_singleton, hlast, Nat.div_add_mod]

end Digits

/-! ### Columns -/

section Columns

variable {base : Nat} {digits : List Char} {value : Nat}

/-- What digits begin with is neither a blank nor a sign. -/
theorem exists_cons_of_readNumber? (hbase : base ≤ 16) (h : readNumber? base digits = some value) :
    ∃ first rest, digits = first :: rest ∧ first ≠ ' ' ∧ first ≠ '-' := by
  have no_digit {letter : Char} (hletter : digitLetters.idxOf letter = 16) :
      digitOf? base letter = none := by
    rw [digitOf?, hletter]
    exact if_neg (Nat.not_lt.mpr hbase)
  cases digits with
  | nil => contradiction
  | cons first rest =>
      rw [readNumber?, if_neg (List.cons_ne_nil first rest), ← List.singleton_append,
        readOn?_append, readOn?_singleton] at h
      refine ⟨first, rest, rfl, ?_, ?_⟩
      · rintro rfl
        rw [no_digit (by decide)] at h
        contradiction
      · rintro rfl
        rw [no_digit (by decide)] at h
        contradiction

theorem dropWhile_blanks (blanks : Nat) {first : Char} (hfirst : first ≠ ' ') (rest : List Char) :
    (List.replicate blanks ' ' ++ first :: rest).dropWhile (· = ' ') = first :: rest := by
  have hblanks : ∀ letter ∈ List.replicate blanks ' ', decide (letter = ' ') = true := by
    intro letter hmem
    exact decide_eq_true (List.eq_of_mem_replicate hmem)
  rw [List.dropWhile_append_of_pos hblanks, List.dropWhile_cons_of_neg (by simpa using hfirst)]

theorem readColumn?_of_digits (hbase : base ≤ 16) (h : readNumber? base digits = some value)
    {blanks : Nat} {text : String} (htext : text.toList = List.replicate blanks ' ' ++ digits) :
    readColumn? base text = some (value : Int) := by
  obtain ⟨first, rest, rfl, hblank, hminus⟩ := exists_cons_of_readNumber? hbase h
  rw [readColumn?, htext, dropWhile_blanks blanks hblank]
  split
  case h_1 hsign => exact absurd (List.cons.inj hsign).1 hminus
  case h_2 => rw [h, Option.map_some]

theorem readColumn?_of_minus (h : readNumber? base digits = some value) {blanks : Nat}
    {text : String} (htext : text.toList = List.replicate blanks ' ' ++ '-' :: digits) :
    readColumn? base text = some (-(value : Int)) := by
  rw [readColumn?, htext, dropWhile_blanks blanks (by decide)]
  simp only [h, Option.map_some]

end Columns

/-! ### Decimal -/

theorem toList_padLeft (width : Nat) (fill : Char) (text : String) :
    (padLeft width fill text).toList =
      List.replicate (width - text.length) fill ++ text.toList := by
  rw [padLeft, String.toList_append, String.toList_ofList]

theorem readNumber?_toDigits_ten (value : Nat) :
    readNumber? 10 (Nat.toDigits 10 value) = some value := by
  have hletter : ∀ digit < 10, digitOf? 10 (id digit.digitChar) = some digit := by decide
  have hdigits := readOn?_toDigits (by decide) hletter value
  rw [List.map_id] at hdigits
  rw [readNumber?, if_neg Nat.toDigits_ne_nil, hdigits]

theorem readColumn?_decimal (width : Nat) (value : Int) :
    readColumn? 10 (decimal width value) = some value := by
  have htext := toList_padLeft width ' ' (toString value)
  rw [← decimal, Int.toString_eq_repr, Int.repr_eq_if] at htext
  by_cases hsign : 0 ≤ value
  · rw [if_pos hsign, Nat.toList_repr] at htext
    rw [readColumn?_of_digits (by decide) (readNumber?_toDigits_ten _) htext,
      Int.toNat_of_nonneg hsign]
  · rw [if_neg hsign, String.toList_append, Nat.toList_repr] at htext
    rw [readColumn?_of_minus (readNumber?_toDigits_ten _) htext]
    congr 1
    omega

theorem isDecimal_decimal (width : Nat) (value : Int) :
    IsDecimal width value (decimal width value) := by
  refine ⟨rfl, ?_, readColumn?_decimal width value⟩
  rw [decimal, length_padLeft]
  exact Nat.le_max_left _ _

/-- Without a width there are no blanks. -/
theorem decimal_zero (value : Int) : decimal 0 value = toString value := by
  rw [decimal, padLeft, Nat.zero_sub]
  exact String.empty_append

/-! ### Hexadecimal -/

theorem readNumber?_hexDigits (zeros value : Nat) :
    readNumber? 16 (List.replicate zeros '0' ++ (hexDigits value).toList) = some value := by
  have hletter : ∀ digit < 16, digitOf? 16 digit.digitChar.toUpper = some digit := by decide
  have hdigits := readOn?_toDigits (by decide) hletter value
  have hnonempty : List.replicate zeros '0' ++ (hexDigits value).toList ≠ [] := by
    simp [hexDigits, Nat.toDigits_ne_nil]
  rw [readNumber?, if_neg hnonempty, readOn?_replicate_zero (by decide), hexDigits,
    String.toList_ofList, hdigits]

theorem readColumn?_hexadecimal (width : Nat) (value : Int) :
    readColumn? 16 (hexadecimal width value) = some value := by
  by_cases hsign : value < 0
  · have htext : (hexadecimal width value).toList =
        List.replicate 0 ' ' ++ '-' :: (List.replicate (width - 1 - (hexDigits value.natAbs).length)
          '0' ++ (hexDigits value.natAbs).toList) := by
      rw [hexadecimal, if_pos hsign, String.toList_append, toList_padLeft]
      rfl
    rw [readColumn?_of_minus (readNumber?_hexDigits _ _) htext]
    congr 1
    omega
  · have htext : (hexadecimal width value).toList =
        List.replicate 0 ' ' ++ (List.replicate (width - (hexDigits value.natAbs).length) '0' ++
          (hexDigits value.natAbs).toList) := by
      rw [hexadecimal, if_neg hsign, toList_padLeft]
      rfl
    rw [readColumn?_of_digits (by decide) (readNumber?_hexDigits _ _) htext]
    congr 1
    omega

theorem isHexadecimal_hexadecimal (width : Nat) (value : Int) :
    IsHexadecimal width value (hexadecimal width value) := by
  refine ⟨rfl, ?_, readColumn?_hexadecimal width value⟩
  unfold hexadecimal
  split
  · rw [String.length_append, length_padLeft]
    have hsign : "-".length = 1 := rfl
    omega
  · rw [length_padLeft]
    exact Nat.le_max_left _ _

example : decimal 6 (-12) = "   -12" := by decide
example : hexadecimal 4 (-1) = "-001" := by decide

end Chip8.Text
