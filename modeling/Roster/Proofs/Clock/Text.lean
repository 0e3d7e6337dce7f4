import Roster.Clock.Text
import Roster.Proofs.Calendar.Text
/-!
# The texts of times

A time of day is read back from its text, with either spacing: the fraction is written in as many columns as it needs,
and the leap second as second 60, which is how the parts give the time again.
-/

namespace Roster.TimeOfDay

open Text

/-- A fraction in columns counts in units of the last column. -/
private theorem scanFraction_columns {width n : Nat} (hwidth : 0 < width) (hwidth' : width ≤ 9)
    (hn : n < Nat.pow 10 width) (hbound : Nat.pow 10 width ≤ Bound.signed64) :
    scanFraction ('.' :: columns width n) = .ok (n * Nat.pow 10 (9 - width), []) := by
  have hdigits : ∀ c ∈ columns width n, c.isDigit = true := fun c hc => isDigit_of_mem_columns hc
  have hscan : scanNumber 9 (columns width n ++ []) = .ok (n, []) :=
    scanNumber_columns hwidth hn hbound hwidth' (.inr endsNumber_nil)
  have htake : takeDigits 9 (columns width n ++ []) = (columns width n, []) :=
    takeDigits_append_of hdigits (by rwa [length_columns]) (.inr endsNumber_nil)
  rw [List.append_nil] at hscan htake
  rw [scanFraction, bind_of_eq_ok hscan]
  simp only [htake, length_columns, value_columns hn, List.dropWhile_nil]

theorem scanFraction_fractionChars {nano : Nat} (hnano : nano < 1000000000) :
    scanFraction (fractionChars nano) = .ok (nano, []) := by
  unfold fractionChars
  split
  · rename_i h
    rw [h]
    rfl
  · split
    · rw [scanFraction_columns (by decide) (by decide) (show nano / 1000000 < 1000 by omega) (by decide)]
      congr 2
      show nano / 1000000 * 1000000 = nano
      omega
    · split
      · rw [scanFraction_columns (by decide) (by decide) (show nano / 1000 < 1000000 by omega) (by decide)]
        congr 2
        show nano / 1000 * 1000 = nano
        omega
      · rw [scanFraction_columns (by decide) (by decide) (show nano < 1000000000 from hnano) (by decide)]
        congr 2
        exact Nat.mul_one nano

/-- The parts of the text give the time back, also in a leap second. -/
theorem ofParts?_parts (t : TimeOfDay) :
    ofParts? (t.second / 3600) (t.second / 60 % 60) t.secondOfMinute (t.fraction % 1000000000) = some t := by
  have hsecond := t.second_lt
  have hfraction := t.fraction_lt
  unfold ofParts? secondOfMinute
  by_cases hleap : 1000000000 ≤ t.fraction
  · have hlast := t.leap hleap
    rw [dif_neg (by omega), dif_pos (by omega), Option.some.injEq, ext_iff]
    dsimp only
    omega
  · rw [dif_pos (by omega), Option.some.injEq, ext_iff]
    dsimp only
    omega

theorem secondOfMinute_le (t : TimeOfDay) : t.secondOfMinute ≤ 60 := by
  have hfraction := t.fraction_lt
  unfold secondOfMinute
  by_cases hleap : 1000000000 ≤ t.fraction
  · have hlast := t.leap hleap
    omega
  · omega

theorem scanSeconds_columns (spacing : Spacing) {second nano : Nat} (hsecond : second ≤ 60)
    (hnano : nano < 1000000000) :
    scanSeconds spacing (':' :: (columns 2 second ++ fractionChars nano)) = .ok (second, nano, []) := by
  have hcolon : scanChar ':' (spacing.gap (':' :: (columns 2 second ++ fractionChars nano))) =
      .ok (columns 2 second ++ fractionChars nano) := by
    rw [spacing.gap_cons _ rfl]
    rfl
  have hpart := scanPart_columns (Nat.zero_le second) hsecond (by omega) (fractionChars nano)
  simp only [scanSeconds, bind_of_eq_ok hcolon, bind_of_eq_ok hpart, bind_of_eq_ok (scanFraction_fractionChars hnano),
    spacing.gap_nil]

theorem scanOptionalSeconds_columns (spacing : Spacing) {second nano : Nat} (hsecond : second ≤ 60)
    (hnano : nano < 1000000000) :
    scanOptionalSeconds spacing (':' :: (columns 2 second ++ fractionChars nano)) = .ok (second, nano, []) := by
  cases spacing with
  | free => rw [scanOptionalSeconds, scanSeconds_columns .free hsecond hnano]
  | tight => exact scanSeconds_columns .tight hsecond hnano

theorem scanHourMinute_columns (spacing : Spacing) {hour minute : Nat} (hhour : hour < 24) (hminute : minute < 60)
    (rest : List Char) :
    scanHourMinute spacing (columns 2 hour ++ ':' :: (columns 2 minute ++ rest)) = .ok (hour, minute, rest) := by
  have hcolon : scanChar ':' (spacing.gap (':' :: (columns 2 minute ++ rest))) = .ok (columns 2 minute ++ rest) := by
    rw [spacing.gap_cons _ rfl]
    rfl
  have hhourPart := scanPart_columns (Nat.zero_le hour) (show hour ≤ 23 by omega) (by omega)
    (':' :: (columns 2 minute ++ rest))
  have hminutePart := scanPart_columns (Nat.zero_le minute) (show minute ≤ 59 by omega) (by omega) rest
  simp only [scanHourMinute, bind_of_eq_ok hhourPart, bind_of_eq_ok hcolon, bind_of_eq_ok hminutePart]

theorem toChars_eq (t : TimeOfDay) :
    t.toChars = columns 2 (t.second / 3600) ++ ':' :: (columns 2 (t.second / 60 % 60) ++
      ':' :: (columns 2 t.secondOfMinute ++ fractionChars (t.fraction % 1000000000))) := by
  simp only [toChars, wholeChars, List.append_assoc, List.cons_append]

theorem ofChars_toChars (spacing : Spacing) (t : TimeOfDay) : ofChars spacing t.toChars = .ok t := by
  have hsecond := t.second_lt
  have hhourMinute := scanHourMinute_columns spacing (show t.second / 3600 < 24 by omega)
    (show t.second / 60 % 60 < 60 by omega)
    (':' :: (columns 2 t.secondOfMinute ++ fractionChars (t.fraction % 1000000000)))
  have hseconds := scanOptionalSeconds_columns spacing t.secondOfMinute_le
    (show t.fraction % 1000000000 < 1000000000 by omega)
  have hend : scanEnd (spacing.gap []) = .ok () := by
    rw [spacing.gap_nil]
    rfl
  simp only [toChars_eq, ofChars, bind_of_eq_ok hhourMinute, bind_of_eq_ok hseconds, bind_of_eq_ok hend,
    ofParts?_parts]

theorem ofText_toText (spacing : Spacing) (t : TimeOfDay) : ofText spacing t.toText = .ok t := by
  rw [ofText, toText, String.toList_ofList, ofChars_toChars]

/-! ### Order -/

/-- The fewest groups of three columns that hold all digits but closing zeros. -/
private theorem fractionChars_cases {n : Nat} (hn : n ≠ 0) :
    n % 1000000 = 0 ∧ fractionChars n = '.' :: columns 3 (n / 1000000) ∨
      n % 1000000 ≠ 0 ∧ n % 1000 = 0 ∧ fractionChars n = '.' :: columns 6 (n / 1000) ∨
      n % 1000000 ≠ 0 ∧ n % 1000 ≠ 0 ∧ fractionChars n = '.' :: columns 9 n := by
  unfold fractionChars
  rw [if_neg hn]
  by_cases hmilli : n % 1000000 = 0
  · exact .inl ⟨hmilli, if_pos hmilli⟩
  · rw [if_neg hmilli]
    by_cases hmicro : n % 1000 = 0
    · exact .inr (.inl ⟨hmilli, hmicro, if_pos hmicro⟩)
    · exact .inr (.inr ⟨hmilli, hmicro, if_neg hmicro⟩)

private theorem dot_cons_lt_iff {s t : List Char} : '.' :: s < '.' :: t ↔ s < t := by
  have hdot : ¬ ('.' : Char) < '.' := by decide
  simp only [List.cons_lt_cons_iff, hdot, false_or, true_and]

private theorem fractionChars_lt {n m : Nat} (hm : m < 1000000000) (hlt : n < m) :
    fractionChars n < fractionChars m := by
  have hpow3 : Nat.pow 10 3 = 1000 := rfl
  have hpow6 : Nat.pow 10 6 = 1000000 := rfl
  have hpow9 : Nat.pow 10 9 = 1000000000 := rfl
  have hm0 : m ≠ 0 := by omega
  by_cases hn : n = 0
  · rw [hn]
    obtain ⟨-, h⟩ | ⟨-, -, h⟩ | ⟨-, -, h⟩ := fractionChars_cases hm0 <;> rw [h] <;> exact List.nil_lt_cons _ _
  · -- Of texts that agree in the columns of both, the longer one has digits that are not zeros in the rest.
    obtain ⟨hn3, h⟩ | ⟨hn3, hn6, h⟩ | ⟨hn3, hn6, h⟩ := fractionChars_cases hn <;>
      obtain ⟨hm3, h'⟩ | ⟨hm3, hm6, h'⟩ | ⟨hm3, hm6, h'⟩ := fractionChars_cases hm0 <;>
      rw [h, h', dot_cons_lt_iff]
    · exact (columns_lt_iff (by omega) (by omega)).2 (by omega)
    · exact (columns_lt_columns_add_iff hpow3 (by decide) (by omega) (by omega)).2 (by omega)
    · exact (columns_lt_columns_add_iff hpow6 (by decide) (by omega) (by omega)).2 (by omega)
    · exact (columns_add_lt_columns_iff hpow3 (by omega) (by omega)).2 (by omega)
    · exact (columns_lt_iff (by omega) (by omega)).2 (by omega)
    · exact (columns_lt_columns_add_iff hpow3 (by decide) (by omega) (by omega)).2 (by omega)
    · exact (columns_add_lt_columns_iff hpow6 (by omega) (by omega)).2 (by omega)
    · exact (columns_add_lt_columns_iff hpow3 (by omega) (by omega)).2 (by omega)
    · exact (columns_lt_iff (by omega) (by omega)).2 (by omega)

theorem fractionChars_lt_iff {n m : Nat} (hn : n < 1000000000) (hm : m < 1000000000) :
    fractionChars n < fractionChars m ↔ n < m := by
  constructor
  · intro h
    rcases Nat.lt_trichotomy n m with hlt | rfl | hgt
    · exact hlt
    · exact absurd h (List.lt_irrefl _)
    · exact absurd h (List.lt_asymm (fractionChars_lt hn hgt))
  · exact fractionChars_lt hm

/-- The texts of times are ordered as the times are, also around leap seconds. -/
theorem toText_lt_iff {a b : TimeOfDay} : a.toText < b.toText ↔ a < b := by
  have ha := a.second_lt
  have hb := b.second_lt
  have hafraction := a.fraction_lt
  have hbfraction := b.fraction_lt
  have haleap := a.leap
  have hbleap := b.leap
  have hcolon : ¬ (':' : Char) < ':' := by decide
  have htwo : ∀ {n m : Nat}, n ≤ 60 → m ≤ 60 → ∀ s t : List Char,
      columns 2 n ++ s < columns 2 m ++ t ↔ n < m ∨ n = m ∧ s < t :=
    fun hn hm => columns_append_lt_iff (show _ < 100 by omega) (show _ < 100 by omega)
  show a.toText.toList < b.toText.toList ↔ _
  rw [toText, toText, String.toList_ofList, String.toList_ofList, toChars_eq, toChars_eq,
    htwo (by omega) (by omega), List.cons_lt_cons_iff, htwo (by omega) (by omega),
    List.cons_lt_cons_iff, htwo a.secondOfMinute_le b.secondOfMinute_le, fractionChars_lt_iff (by omega) (by omega)]
  simp only [hcolon, false_or, true_and, lt_iff, secondOfMinute]
  omega

theorem toText_inj {a b : TimeOfDay} : a.toText = b.toText ↔ a = b := (injective_of_reads (ofText_toText .free)).eq_iff

end Roster.TimeOfDay
