import Roster.Calendar.Text
import Roster.Proofs.Calendar.Order
import Roster.Proofs.Text.Scan
/-!
# The texts of dates

A date is read back from its text, with either spacing. In years of four digits the texts are ordered as the dates are;
the text of a date before year 0 starts with a sign and so comes before all of them. Either way, a date up to one with
four digits has a text up to its text (`Date.FourDigitYear.not_toText_lt`).
-/

namespace Roster

open Text

theorem Text.Spacing.gap_cons (spacing : Spacing) {c : Char} (rest : List Char) (hc : isBlank c = false) :
    spacing.gap (c :: rest) = c :: rest := by
  cases spacing with
  | free => exact dropBlanks_cons_of_not_isBlank rest hc
  | tight => rfl

theorem Text.Spacing.gap_nil (spacing : Spacing) : spacing.gap [] = [] := by
  cases spacing <;> rfl

namespace Date

theorem year_bounds (d : Date) : -262143 ≤ d.year ∧ d.year ≤ 262142 := ⟨d.valid.1, d.valid.2.1⟩

theorem checkYear_year (d : Date) : checkYear d.year = .ok d.year := by
  have hyear := d.year_bounds
  refine if_pos ?_
  simp only [Bound.Fits, Bound.signed32]
  omega

theorem scanYear_digit {c : Char} (hc : c.isDigit = true) {year : Nat} {s rest : List Char}
    (hscan : scanNumber 4 (c :: s) = .ok (year, rest)) (hcheck : checkYear year = .ok (year : Int)) :
    scanYear (c :: s) = .ok ((year : Int), rest) := by
  rw [scanYear, dropBlanks_cons_of_not_isBlank s (isBlank_eq_false_of_isDigit hc)]
  split
  · rename_i heq
    rw [(List.cons.inj heq).1] at hc
    exact absurd hc (by decide)
  · rename_i heq
    rw [(List.cons.inj heq).1] at hc
    exact absurd hc (by decide)
  · rw [bind_of_eq_ok hscan]
    exact bind_of_eq_ok hcheck _

theorem scanYear_minus (s : List Char) :
    scanYear ('-' :: s) = scanNumber s.length s >>= fun p => checkYear (-(p.1 : Int)) >>= fun year => .ok (year, p.2) :=
  rfl

theorem scanYear_plus (s : List Char) :
    scanYear ('+' :: s) = scanNumber s.length s >>= fun p => checkYear p.1 >>= fun year => .ok (year, p.2) :=
  rfl

private theorem scanNumber_padded (n : Nat) (hn : n ≤ 262143) (rest : List Char) :
    scanNumber (padded 4 n ++ '-' :: rest).length (padded 4 n ++ '-' :: rest) = .ok (n, '-' :: rest) := by
  have hvalue := value_padded 4 n
  have hscan : scanNumber (padded 4 n ++ '-' :: rest).length (padded 4 n ++ '-' :: rest) =
      .ok (value (padded 4 n), '-' :: rest) :=
    scanNumber_append (padded_ne_nil n) (fun c hc => isDigit_of_mem_padded hc) (by rw [List.length_append]; omega)
      (.inr (endsNumber_cons rest rfl)) (by rw [hvalue, Bound.signed64]; omega)
  rwa [hvalue] at hscan

theorem scanYear_yearText (d : Date) (rest : List Char) :
    scanYear (yearText d.year ++ '-' :: rest) = .ok (d.year, '-' :: rest) := by
  have hyear := d.year_bounds
  have hcheck := d.checkYear_year
  unfold yearText
  split
  · rename_i hfour
    have hnat : (d.year.toNat : Int) = d.year := Int.toNat_of_nonneg hfour.1
    have hscan : scanNumber 4 (columns 4 d.year.toNat ++ '-' :: rest) = .ok (d.year.toNat, '-' :: rest) :=
      scanNumber_columns (by decide) (show d.year.toNat < 10000 by omega) (by decide) (Nat.le_refl _) (.inl rfl)
    obtain ⟨c, digits, hcons⟩ := List.exists_cons_of_ne_nil (columns_ne_nil (show 0 < 4 by decide) d.year.toNat)
    have hc : c ∈ columns 4 d.year.toNat := hcons ▸ List.mem_cons_self
    rw [hcons, List.cons_append] at hscan ⊢
    rw [scanYear_digit (isDigit_of_mem_columns hc) hscan (by rwa [hnat]), hnat]
  · have hscan := scanNumber_padded d.year.natAbs (by omega) rest
    split
    · have habs : -(d.year.natAbs : Int) = d.year := by omega
      rw [List.cons_append, scanYear_minus, bind_of_eq_ok hscan, habs]
      exact bind_of_eq_ok hcheck _
    · have habs : (d.year.natAbs : Int) = d.year := by omega
      rw [List.cons_append, scanYear_plus, bind_of_eq_ok hscan, habs]
      exact bind_of_eq_ok hcheck _

theorem ofChars_toChars (spacing : Spacing) (d : Date) : ofChars spacing d.toChars = .ok d := by
  have hmonth := d.month_bounds
  have hday := d.day_bounds.1
  have hday' := d.day_le
  have hyear := d.scanYear_yearText (columns 2 d.month ++ '-' :: columns 2 d.day)
  have hmonthPart := scanPart_columns hmonth.1 hmonth.2 (by omega) ('-' :: columns 2 d.day)
  have hdayPart := scanPart_columns hday hday' (by omega) []
  rw [List.append_nil] at hdayPart
  have hgap : ∀ rest, spacing.gap ('-' :: rest) = '-' :: rest := fun rest => spacing.gap_cons rest rfl
  simp only [ofChars, toChars, List.append_assoc, List.cons_append, hyear, bind, Except.bind, hgap, scanChar, if_true,
    hmonthPart, hdayPart, spacing.gap_nil, scanEnd, ofCivil?_parts]

theorem ofText_toText (spacing : Spacing) (d : Date) : ofText spacing d.toText = .ok d := by
  rw [ofText, toText, String.toList_ofList, ofChars_toChars]

/-! ### Order -/

theorem dash_lt_of_isDigit {c : Char} (hc : c.isDigit = true) : '-' < c := by
  have hbounds : 48 ≤ c.toNat ∧ c.toNat ≤ 57 := by
    simpa [Char.isDigit, UInt32.le_iff_toNat_le] using hc
  show 45 < c.toNat
  omega

/-- The year has four digits and no sign. -/
def FourDigitYear (d : Date) : Prop := 0 ≤ d.year ∧ d.year ≤ 9999

instance (d : Date) : Decidable d.FourDigitYear := by
  unfold FourDigitYear; infer_instance

theorem FourDigitYear.of_between {a b d : Date} (ha : a.FourDigitYear) (hb : b.FourDigitYear) (had : a ≤ d)
    (hdb : d ≤ b) : d.FourDigitYear := by
  unfold FourDigitYear at *
  rw [le_iff, lt_iff] at had hdb
  omega

theorem toChars_eq (d : Date) :
    d.toChars = yearText d.year ++ '-' :: (columns 2 d.month ++ '-' :: columns 2 d.day) := by
  rw [toChars, List.append_assoc, List.cons_append]

theorem FourDigitYear.yearText_eq {d : Date} (hd : d.FourDigitYear) : yearText d.year = columns 4 d.year.toNat :=
  if_pos hd

theorem toText_lt_iff_toChars {a b : Date} : a.toText < b.toText ↔ a.toChars < b.toChars := by
  show a.toText.toList < b.toText.toList ↔ _
  rw [toText, toText, String.toList_ofList, String.toList_ofList]

/-- Within a year, the texts are ordered as month and day are. -/
private theorem monthDay_lt_iff (a b : Date) :
    '-' :: (columns 2 a.month ++ '-' :: columns 2 a.day) < '-' :: (columns 2 b.month ++ '-' :: columns 2 b.day) ↔
      a.month < b.month ∨ a.month = b.month ∧ a.day < b.day := by
  have hdash : ¬ ('-' : Char) < '-' := by decide
  have hmonth := a.month_bounds
  have hmonth' := b.month_bounds
  have hday := a.day_le
  have hday' := b.day_le
  rw [List.cons_lt_cons_iff, columns_append_lt_iff (show a.month < 100 by omega) (show b.month < 100 by omega),
    List.cons_lt_cons_iff, columns_lt_iff (show a.day < 100 by omega) (show b.day < 100 by omega)]
  simp only [hdash, false_or, true_and]

theorem toText_lt_iff_of_year_eq {a b : Date} (hyear : a.year = b.year) : a.toText < b.toText ↔ a < b := by
  rw [toText_lt_iff_toChars, toChars_eq, toChars_eq, hyear, append_lt_append_iff, monthDay_lt_iff, lt_iff]
  omega

theorem FourDigitYear.toText_lt_iff {a b : Date} (ha : a.FourDigitYear) (hb : b.FourDigitYear) :
    a.toText < b.toText ↔ a < b := by
  have hyear : a.year.toNat < 10000 := by have := ha.2; omega
  have hyear' : b.year.toNat < 10000 := by have := hb.2; omega
  rw [toText_lt_iff_toChars, toChars_eq, toChars_eq, ha.yearText_eq, hb.yearText_eq,
    columns_append_lt_iff hyear hyear', monthDay_lt_iff, lt_iff]
  have := ha.1
  have := hb.1
  omega

theorem FourDigitYear.toText_lt_of_neg {a b : Date} (ha : a.year < 0) (hb : b.FourDigitYear) :
    a.toText < b.toText := by
  have hsign : yearText a.year = '-' :: padded 4 a.year.natAbs := by
    rw [yearText, if_neg (by omega), if_pos ha]
  obtain ⟨c, digits, hcons⟩ := List.exists_cons_of_ne_nil (columns_ne_nil (show 0 < 4 by decide) b.year.toNat)
  have hc : c ∈ columns 4 b.year.toNat := hcons ▸ List.mem_cons_self
  rw [toText_lt_iff_toChars, toChars_eq, toChars_eq, hsign, hb.yearText_eq, hcons]
  exact List.Lex.rel (dash_lt_of_isDigit (isDigit_of_mem_columns hc))

/-- Below the years of five digits, texts are compared with that of a date of four digits as the dates are. -/
theorem FourDigitYear.toText_lt_toText_iff {a b : Date} (ha : a.FourDigitYear) (hb : b.year ≤ 9999) :
    a.toText < b.toText ↔ a < b := by
  by_cases hneg : b.year < 0
  · have htext := String.lt_asymm (toText_lt_of_neg hneg ha)
    have hdate : ¬ a < b := by
      have := ha.1
      rw [lt_iff]
      omega
    simp only [htext, hdate]
  · exact ha.toText_lt_iff ⟨Int.not_lt.1 hneg, hb⟩

theorem toText_inj {a b : Date} : a.toText = b.toText ↔ a = b := (injective_of_reads (ofText_toText .free)).eq_iff

theorem FourDigitYear.not_toText_lt {a b : Date} (hb : b.FourDigitYear) (hab : a ≤ b) : ¬ b.toText < a.toText := by
  by_cases hneg : a.year < 0
  · exact String.lt_asymm (toText_lt_of_neg hneg hb)
  · have ha : a.FourDigitYear := by
      rw [le_iff, lt_iff] at hab
      unfold FourDigitYear at *
      omega
    rw [hb.toText_lt_iff ha]
    exact hab

end Date

end Roster
