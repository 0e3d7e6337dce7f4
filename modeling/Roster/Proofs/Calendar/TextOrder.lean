import Mathlib.Data.String.Basic
import Roster.Proofs.Calendar.Text
/-!
# How the texts of dates are ordered

Texts are compared character by character, and the text of a year changes its form: without a sign up to 9999, with a sign
before and after, and with more digits far from year 0. A plus sign comes before a minus sign and both before digits, so the
years beyond 9999 come first. Behind a sign, numbers are compared by their leading digits, whatever their number of digits
(`padded_append_lt_iff`), and the years before 0 run backwards. `Date.SortsWith` says which dates nevertheless have their
texts in order (`Date.toText_lt_iff_lt`); all dates of four-digit years do.
-/

namespace Roster

open Text

namespace Calendar

/-- The digits of a number of up to six, and at least four, filled up to six with zeros behind them. -/
def filled (n : Nat) : Nat := if n < 10000 then n * 100 else if n < 100000 then n * 10 else n

/-- Of two years in order, the texts of the first come before those of the second. -/
def TextsAscend (year later : Int) : Prop :=
  if 9999 < later then 9999 < year ∧ filled year.natAbs ≤ filled later.natAbs
  else 0 ≤ later ∨ filled year.natAbs < filled later.natAbs

instance (year later : Int) : Decidable (TextsAscend year later) := by
  unfold TextsAscend; infer_instance

end Calendar

open Calendar

/-- The years of the two dates have texts in their order, or are the same. -/
structure Date.SortsWith (a b : Date) : Prop where
  before : a.year < b.year → TextsAscend a.year b.year
  after : b.year < a.year → TextsAscend b.year a.year

/-! ### Numbers behind a sign -/

namespace Text

/-- The number of digits of a year behind its sign. -/
inductive YearColumns (n : Nat) : Nat → Prop
  | four (hn : n < 10000) : YearColumns n 4
  | five (hleast : 10000 ≤ n) (hn : n < 100000) : YearColumns n 5
  | six (hleast : 100000 ≤ n) (hn : n < 1000000) : YearColumns n 6

theorem exists_yearColumns {n : Nat} (hn : n < 1000000) : ∃ width, YearColumns n width := by
  by_cases hfour : n < 10000
  · exact ⟨4, .four hfour⟩
  · by_cases hfive : n < 100000
    · exact ⟨5, .five (Nat.not_lt.1 hfour) hfive⟩
    · exact ⟨6, .six (Nat.not_lt.1 hfive) hn⟩

namespace YearColumns

variable {n width : Nat}

theorem lt_pow (h : YearColumns n width) : n < Nat.pow 10 width := by
  cases h <;> assumption

/-- The number has as many digits as columns, or less than four. -/
theorem le_length (h : YearColumns n width) : width = 4 ∨ width ≤ (Nat.toDigits 10 n).length := by
  have hlength : ∀ k, 0 < k → Nat.pow 10 k ≤ n → k + 1 ≤ (Nat.toDigits 10 n).length := by
    intro k hk hle
    have hlt := mt (Nat.length_toDigits_le_iff (b := 10) (by decide) hk).1 (Nat.not_lt.2 hle)
    omega
  cases h with
  | four => exact .inl rfl
  | five hleast => exact .inr (hlength 4 (by decide) hleast)
  | six hleast => exact .inr (hlength 5 (by decide) hleast)

theorem padded_eq (h : YearColumns n width) : padded 4 n = columns width n := by
  have hwidth : 4 ≤ width := by cases h <;> decide
  rw [← padded_eq_columns (by omega) h.lt_pow]
  rcases h.le_length with rfl | hlength
  · rfl
  · exact padded_of_length_le hwidth hlength

theorem filled_eq (h : YearColumns n width) : filled n = n * Nat.pow 10 (6 - width) := by
  unfold filled
  cases h with
  | four hn => exact if_pos hn
  | five hleast hn => rw [if_neg (Nat.not_lt.2 hleast), if_pos hn]
  | six hleast hn => rw [if_neg (by omega), if_neg (Nat.not_lt.2 hleast)]; exact (Nat.mul_one n).symm

end YearColumns

private theorem dash_cons_lt_columns {extra : Nat} (hextra : 0 < extra) (m : Nat) (s t : List Char) :
    '-' :: s < columns extra m ++ t := by
  obtain ⟨c, digits, hcons⟩ := List.exists_cons_of_ne_nil (columns_ne_nil hextra m)
  have hc : c ∈ columns extra m := hcons ▸ List.mem_cons_self
  rw [hcons]
  exact List.Lex.rel (Date.dash_lt_of_isDigit (isDigit_of_mem_columns hc))

/-- Numbers that are closed by a dash are ordered by their digits from the left on. -/
theorem padded_append_lt_iff {n m : Nat} (hn : n < 1000000) (hm : m < 1000000) (hne : n ≠ m) (s t : List Char) :
    padded 4 n ++ '-' :: s < padded 4 m ++ '-' :: t ↔
      filled n < filled m ∨ filled n = filled m ∧ n < m := by
  have hpow1 : Nat.pow 10 1 = 10 := rfl
  have hpow2 : Nat.pow 10 2 = 100 := rfl
  have hpow4 : Nat.pow 10 4 = 10000 := rfl
  have hpow5 : Nat.pow 10 5 = 100000 := rfl
  have hshort : ∀ extra, 0 < extra → '-' :: s < columns extra m ++ '-' :: t :=
    fun extra hextra => dash_cons_lt_columns hextra m s _
  have hlong : ∀ extra, 0 < extra → ¬ columns extra n ++ '-' :: s < '-' :: t :=
    fun extra hextra => List.lt_asymm (dash_cons_lt_columns hextra n t _)
  obtain ⟨width, hwidth⟩ := exists_yearColumns hn
  obtain ⟨width', hwidth'⟩ := exists_yearColumns hm
  have hfilled := hwidth.filled_eq
  have hfilled' := hwidth'.filled_eq
  rw [hwidth.padded_eq, hwidth'.padded_eq]
  -- The longer number is cut where the shorter one ends.
  cases hwidth <;> cases hwidth' <;> simp only [Nat.pow_eq, Nat.reduceSub, Nat.reducePow, Nat.mul_one] at hfilled hfilled'
  case four.four => rw [columns_append_lt_iff (by omega) (by omega)]; omega
  case five.five => rw [columns_append_lt_iff (by omega) (by omega)]; omega
  case six.six => rw [columns_append_lt_iff (by omega) (by omega)]; omega
  case four.five =>
    rw [columns_append_lt_columns_add_append_iff hpow1 (by omega) (by omega) (hshort 1 (by decide))]
    omega
  case four.six =>
    rw [columns_append_lt_columns_add_append_iff hpow2 (by omega) (by omega) (hshort 2 (by decide))]
    omega
  case five.six =>
    rw [columns_append_lt_columns_add_append_iff hpow1 (by omega) (by omega) (hshort 1 (by decide))]
    omega
  case five.four =>
    rw [columns_add_append_lt_columns_append_iff hpow1 (by omega) (by omega) (hlong 1 (by decide))]
    omega
  case six.four =>
    rw [columns_add_append_lt_columns_append_iff hpow2 (by omega) (by omega) (hlong 2 (by decide))]
    omega
  case six.five =>
    rw [columns_add_append_lt_columns_append_iff hpow1 (by omega) (by omega) (hlong 1 (by decide))]
    omega

end Text

/-! ### Dates -/

namespace Date

variable {a b : Date}

theorem toChars_of_signed {d : Date} (hd : ¬ d.FourDigitYear) :
    d.toChars = (if d.year < 0 then '-' else '+') ::
      (padded 4 d.year.natAbs ++ '-' :: (columns 2 d.month ++ '-' :: columns 2 d.day)) := by
  have hyear : yearText d.year = (if d.year < 0 then '-' else '+') :: padded 4 d.year.natAbs := if_neg hd
  rw [toChars_eq, hyear, List.cons_append]

/-- Up to 9999, the text of a date starts with a digit or a minus sign. -/
theorem exists_toChars_eq_cons {d : Date} (hd : d.year ≤ 9999) : ∃ c rest, d.toChars = c :: rest ∧ '+' < c := by
  by_cases hneg : d.year < 0
  · have hsigned : ¬ d.FourDigitYear := fun hfour => Int.not_le.2 hneg hfour.1
    rw [toChars_of_signed hsigned, if_pos hneg]
    exact ⟨_, _, rfl, by decide⟩
  · have hfour : d.FourDigitYear := ⟨Int.not_lt.1 hneg, hd⟩
    obtain ⟨c, digits, hcons⟩ := List.exists_cons_of_ne_nil (columns_ne_nil (show 0 < 4 by decide) d.year.toNat)
    have hc : c ∈ columns 4 d.year.toNat := hcons ▸ List.mem_cons_self
    have hdash : '-' < c := dash_lt_of_isDigit (isDigit_of_mem_columns hc)
    rw [toChars_eq, hfour.yearText_eq, hcons]
    exact ⟨_, _, rfl, Char.lt_trans (by decide) hdash⟩

theorem toText_lt_of_wide (ha : a.year ≤ 9999) (hb : 9999 < b.year) : b.toText < a.toText := by
  have hsigned : ¬ b.FourDigitYear := fun hfour => Int.not_le.2 hb hfour.2
  obtain ⟨c, rest, hcons, hplus⟩ := exists_toChars_eq_cons ha
  rw [toText_lt_iff_toChars, toChars_of_signed hsigned, if_neg (by omega), hcons]
  exact List.Lex.rel hplus

theorem toText_lt_iff_of_same_sign (hsign : a.year < 0 ∧ b.year < 0 ∨ 9999 < a.year ∧ 9999 < b.year)
    (hyear : a.year ≠ b.year) :
    a.toText < b.toText ↔ filled a.year.natAbs < filled b.year.natAbs ∨
      filled a.year.natAbs = filled b.year.natAbs ∧ a.year.natAbs < b.year.natAbs := by
  have hbounds := a.year_bounds
  have hbounds' := b.year_bounds
  have ha : ¬ a.FourDigitYear := by
    unfold FourDigitYear
    omega
  have hb : ¬ b.FourDigitYear := by
    unfold FourDigitYear
    omega
  have hsame : (if a.year < 0 then '-' else '+') = if b.year < 0 then '-' else '+' := by
    rcases hsign with ⟨hneg, hneg'⟩ | ⟨hwide, hwide'⟩
    · rw [if_pos hneg, if_pos hneg']
    · rw [if_neg (by omega), if_neg (by omega)]
  rw [toText_lt_iff_toChars, toChars_of_signed ha, toChars_of_signed hb, hsame, List.cons_lt_cons_iff,
    padded_append_lt_iff (by omega) (by omega) (by omega)]
  simp only [Char.lt_irrefl, false_or, true_and]

theorem toText_lt_iff_textsAscend (hyear : a.year < b.year) : a.toText < b.toText ↔ TextsAscend a.year b.year := by
  unfold TextsAscend
  by_cases hwide : 9999 < b.year
  · rw [if_pos hwide]
    by_cases hwide' : 9999 < a.year
    · rw [toText_lt_iff_of_same_sign (.inr ⟨hwide', hwide⟩) (Int.ne_of_lt hyear)]
      omega
    · have htext := String.lt_asymm (toText_lt_of_wide (Int.not_lt.1 hwide') hwide)
      simp only [htext, hwide', false_and]
  · rw [if_neg hwide]
    by_cases hneg : b.year < 0
    · rw [toText_lt_iff_of_same_sign (.inl ⟨by omega, hneg⟩) (Int.ne_of_lt hyear)]
      omega
    · have hfour : b.FourDigitYear := ⟨Int.not_lt.1 hneg, Int.not_lt.1 hwide⟩
      have htext : a.toText < b.toText := by
        by_cases hneg' : a.year < 0
        · exact FourDigitYear.toText_lt_of_neg hneg' hfour
        · have hfour' : a.FourDigitYear := ⟨Int.not_lt.1 hneg', by omega⟩
          exact (hfour'.toText_lt_iff hfour).2 (lt_iff.2 (.inl hyear))
      exact iff_of_true htext (.inl hfour.1)

/-- The texts of two dates are ordered as the dates are exactly if those of their years are. -/
theorem toText_lt_iff_lt : (a.toText < b.toText ↔ a < b) ↔ a.SortsWith b := by
  rcases Int.lt_trichotomy a.year b.year with hyear | hyear | hyear
  · have hlt : a < b := lt_iff.2 (.inl hyear)
    rw [iff_true_right hlt, toText_lt_iff_textsAscend hyear]
    exact ⟨fun h => ⟨fun _ => h, fun hafter => absurd hafter (Int.lt_asymm hyear)⟩, fun h => h.before hyear⟩
  · refine iff_of_true (toText_lt_iff_of_year_eq hyear) ⟨fun h => ?_, fun h => ?_⟩ <;> omega
  · have hlt : ¬ a < b := by
      rw [lt_iff]
      omega
    have hne : a.toText ≠ b.toText := fun heq => Int.ne_of_gt hyear (congrArg year (toText_inj.1 heq))
    have htext : ¬ a.toText < b.toText ↔ b.toText < a.toText :=
      ⟨fun h => (lt_or_gt_of_ne hne).resolve_left h, fun h => String.lt_asymm h⟩
    rw [iff_false_right hlt, htext, toText_lt_iff_textsAscend hyear]
    exact ⟨fun h => ⟨fun hbefore => absurd hbefore (Int.lt_asymm hyear), fun _ => h⟩, fun h => h.after hyear⟩

theorem FourDigitYear.sortsWith (ha : a.FourDigitYear) (hb : b.FourDigitYear) : a.SortsWith b :=
  toText_lt_iff_lt.1 (ha.toText_lt_iff hb)

end Date

end Roster
