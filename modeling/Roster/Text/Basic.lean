/-!
# White space, digits and lines

The classes of characters by which texts are read. Dates, times and import lines are read with the white space of the
Unicode standard, which is wider than the blanks that a JSON text allows between its tokens; `trim` removes it at both ends
of a text. Digits are those of all scripts. No character is both (`isBlank_eq_false_of_isNumeral`).

Input is cut into lines after each line feed. The last line may lack it; nothing follows the last line feed. Input of
bytes is cut before it is decoded, so that bytes which are not UTF-8 spoil their own line only.
-/

namespace Roster.Text

/-! ### White space -/

/-- The Unicode property `White_Space`. -/
def isBlank (c : Char) : Bool :=
  let n := c.toNat
  (0x9 ≤ n && n ≤ 0xd) || n == 0x20 || n == 0x85 || n == 0xa0 || n == 0x1680 ||
    (0x2000 ≤ n && n ≤ 0x200a) || n == 0x2028 || n == 0x2029 || n == 0x202f || n == 0x205f ||
    n == 0x3000

def dropBlanks (s : List Char) : List Char := s.dropWhile isBlank

def trim (s : List Char) : List Char := (dropBlanks (dropBlanks s).reverse).reverse

theorem dropBlanks_cons_of_not_isBlank {c : Char} (s : List Char) (hc : isBlank c = false) :
    dropBlanks (c :: s) = c :: s := by
  simp [dropBlanks, hc]

/-! ### Digits -/

/-- The code points of the zeros in Unicode 16. Each script has its ten digits in a row. -/
def zeros : List Nat := [
  0x30, 0x660, 0x6f0, 0x7c0, 0x966, 0x9e6, 0xa66, 0xae6, 0xb66, 0xbe6, 0xc66, 0xce6, 0xd66, 0xde6,
  0xe50, 0xed0, 0xf20, 0x1040, 0x1090, 0x17e0, 0x1810, 0x1946, 0x19d0, 0x1a80, 0x1a90, 0x1b50,
  0x1bb0, 0x1c40, 0x1c50, 0xa620, 0xa8d0, 0xa900, 0xa9d0, 0xa9f0, 0xaa50, 0xabf0, 0xff10, 0x104a0,
  0x10d30, 0x10d40, 0x11066, 0x110f0, 0x11136, 0x111d0, 0x112f0, 0x11450, 0x114d0, 0x11650, 0x116c0,
  0x116d0, 0x116da, 0x11730, 0x118e0, 0x11950, 0x11bf0, 0x11c50, 0x11d50, 0x11da0, 0x11f50, 0x16130,
  0x16a60, 0x16ac0, 0x16b50, 0x16d70, 0x1ccf0, 0x1d7ce, 0x1d7d8, 0x1d7e2, 0x1d7ec, 0x1d7f6, 0x1e140,
  0x1e2f0, 0x1e4f0, 0x1e5f1, 0x1e950, 0x1fbf0]

def isNumeral (c : Char) : Bool := zeros.any fun first => first ≤ c.toNat && c.toNat ≤ first + 9

/-- The digits that core knows are among them. -/
theorem isNumeral_of_isDigit {c : Char} (hc : c.isDigit = true) : isNumeral c = true := by
  have hc : 48 ≤ c.toNat ∧ c.toNat ≤ 57 := by
    simpa [Char.isDigit, UInt32.le_iff_toNat_le] using hc
  simp [isNumeral, zeros, hc.1, hc.2]

theorem isBlank_eq_false_of_isNumeral {c : Char} (hc : isNumeral c = true) : isBlank c = false := by
  have hzeros : ∀ first ∈ zeros, 0x20 < first ∧ (first + 9 < 0x85 ∨ 0xa0 < first) ∧
      (first + 9 < 0x1680 ∨ 0x1680 < first) ∧ (first + 9 < 0x2000 ∨ 0x3000 < first) := by decide
  obtain ⟨first, hmem, hbounds⟩ := List.any_eq_true.1 hc
  have hfirst := hzeros first hmem
  simp only [Bool.and_eq_true, decide_eq_true_eq] at hbounds
  simp only [isBlank, Bool.or_eq_false_iff, Bool.and_eq_false_iff, beq_eq_false_iff_ne, decide_eq_false_iff_not]
  omega

theorem isBlank_eq_false_of_isDigit {c : Char} (hc : c.isDigit = true) : isBlank c = false :=
  isBlank_eq_false_of_isNumeral (isNumeral_of_isDigit hc)

/-! ### Lines -/

/-- Puts an element in front of lines. -/
def consLine {α : Type} (isNewline : α → Bool) (c : α) : List (List α) → List (List α)
  | [] => if isNewline c then [[]] else [[c]]
  | l :: ls => if isNewline c then [] :: l :: ls else (c :: l) :: ls

def splitLines {α : Type} (isNewline : α → Bool) (s : List α) : List (List α) :=
  s.foldr (consLine isNewline) []

/-- The lines of a text. -/
def linesOfChars (s : List Char) : List (List Char) := splitLines (· == '\n') s

/-- The lines of input in bytes; none where they are not UTF-8. -/
def linesOfBytes (bytes : List UInt8) : List (Option (List Char)) :=
  (splitLines (· == 10) bytes).map fun line =>
    (String.fromUTF8? ⟨line.toArray⟩).map String.toList

end Roster.Text
