import Roster.Proofs.Text.Lines
import Roster.Proofs.Text.Scan
/-!
# Texts are in the order of their bytes

Texts are compared character by character. UTF-8 is made so that comparing their bytes gives the same answer. A
character has from one to four bytes, which hold its number in digits of base 64, the first byte also how many there are
(`Encodes`). Of two characters the one with the smaller number has the smaller bytes, and they differ before either
ends, so whatever follows does not matter (`utf8EncodeChar_append_lt`).
-/

namespace Roster.Text

/-! ### One character -/

/-- Numbers below 256 are in the order of their bytes. -/
theorem ofNat_cons_lt_iff {m n : Nat} (hm : m < 256) (hn : n < 256) (x y : List UInt8) :
    UInt8.ofNat m :: x < UInt8.ofNat n :: y ↔ m < n ∨ m = n ∧ x < y := by
  rw [List.cons_lt_cons_iff, UInt8.lt_iff_toNat_lt, ← UInt8.toNat_inj, UInt8.toNat_ofNat_of_lt' hm,
    UInt8.toNat_ofNat_of_lt' hn]

/-- The bytes hold the digits of the number in base 64, and no more of them than it needs. -/
inductive Encodes (n : Nat) : List UInt8 → Prop
  | one (hn : n < 128) : Encodes n [UInt8.ofNat n]
  | two {a b : Nat} (hn : n = a * 64 + b) (ha : 2 ≤ a ∧ a < 32) (hb : b < 64) :
      Encodes n [UInt8.ofNat (a + 192), UInt8.ofNat (b + 128)]
  | three {a b c : Nat} (hn : n = (a * 64 + b) * 64 + c) (ha : 32 ≤ a * 64 + b ∧ a < 16) (hb : b < 64) (hc : c < 64) :
      Encodes n [UInt8.ofNat (a + 224), UInt8.ofNat (b + 128), UInt8.ofNat (c + 128)]
  | four {a b c d : Nat} (hn : n = ((a * 64 + b) * 64 + c) * 64 + d) (ha : 16 ≤ a * 64 + b ∧ a < 8) (hb : b < 64)
      (hc : c < 64) (hd : d < 64) :
      Encodes n [UInt8.ofNat (a + 240), UInt8.ofNat (b + 128), UInt8.ofNat (c + 128), UInt8.ofNat (d + 128)]

theorem encodes_utf8EncodeChar (c : Char) : Encodes c.val.toNat (String.utf8EncodeChar c) := by
  have hlt : c.val.toNat < 1114112 := by
    rcases c.valid with h | h
    · exact Nat.lt_trans h (by decide)
    · exact h.2
  unfold String.utf8EncodeChar
  dsimp only
  generalize c.val.toNat = n at *
  split
  · exact .one (by omega)
  · split
    · exact .two (by omega) (by omega) (by omega)
    · split
      · exact .three (by omega) (by omega) (by omega) (by omega)
      · exact .four (by omega) (by omega) (by omega) (by omega) (by omega)

/-- With fewer bytes the first one is smaller; with as many, the first in which the digits differ. -/
theorem Encodes.append_lt {m n : Nat} {u v : List UInt8} (hu : Encodes m u) (hv : Encodes n v) (hlt : m < n)
    (x y : List UInt8) : u ++ x < v ++ y := by
  cases hu <;> cases hv <;> simp (disch := omega) only [List.cons_append, List.nil_append, ofNat_cons_lt_iff] <;> omega

theorem utf8EncodeChar_append_lt {c d : Char} (hlt : c < d) (x y : List UInt8) :
    String.utf8EncodeChar c ++ x < String.utf8EncodeChar d ++ y :=
  (encodes_utf8EncodeChar c).append_lt (encodes_utf8EncodeChar d) hlt x y

/-! ### Texts -/

theorem flatMap_utf8EncodeChar_lt_iff (s t : List Char) :
    s.flatMap String.utf8EncodeChar < t.flatMap String.utf8EncodeChar ↔ s < t := by
  induction s generalizing t with
  | nil =>
      cases t with
      | nil => simp
      | cons d t =>
          obtain ⟨byte, bytes, hbytes⟩ := List.exists_cons_of_ne_nil (String.utf8EncodeChar_ne_nil (c := d))
          simp [List.flatMap_cons, hbytes]
  | cons c s ih =>
      cases t with
      | nil => simp
      | cons d t =>
          rw [List.flatMap_cons, List.flatMap_cons, List.cons_lt_cons_iff]
          rcases Nat.lt_trichotomy c.val.toNat d.val.toNat with hlt | heq | hgt
          · have hlt : c < d := hlt
            exact iff_of_true (utf8EncodeChar_append_lt hlt _ _) (.inl hlt)
          · obtain rfl : c = d := Char.ext (UInt32.toNat_inj.1 heq)
            rw [append_lt_append_iff, ih]
            simp only [Char.lt_irrefl, true_and, false_or]
          · have hgt : d < c := hgt
            refine iff_of_false (List.lt_asymm (utf8EncodeChar_append_lt hgt _ _)) ?_
            rintro (hlt | ⟨rfl, -⟩)
            · exact Char.lt_asymm hgt hlt
            · exact Char.lt_irrefl c hgt

theorem lt_iff_toUTF8_lt (s t : String) : s < t ↔ s.toUTF8.toList < t.toUTF8.toList := by
  rw [toUTF8_toList, toUTF8_toList, flatMap_utf8EncodeChar_lt_iff, String.lt_iff]

end Roster.Text
