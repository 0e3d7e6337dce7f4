import Mathlib.Tactic.ByContra
import Roster.Calendar.Date
/-!
# Dates as numbers of days

`Date.dayNumber` counts days without gaps: it orders the dates as the calendar does, the following day has the next
number and the preceding day the one before. The first and the last date are the only ones without a neighbour, so
what has no following day comes after every other date. Everything later proofs say about neighbouring days goes
through these numbers; none of them looks at months or leap years again.
-/

namespace Roster

namespace Calendar

theorem isLeapYear_iff {year : Int} :
    isLeapYear year = true ↔ year % 4 = 0 ∧ (year % 100 ≠ 0 ∨ year % 400 = 0) := by
  simp only [isLeapYear, Bool.and_eq_true, Bool.or_eq_true, beq_iff_eq, bne_iff_ne]

theorem daysInMonth_pos (year : Int) (month : Nat) : 0 < daysInMonth year month := by
  unfold daysInMonth
  split <;> (try split) <;> decide

theorem daysInMonth_le (year : Int) (month : Nat) : daysInMonth year month ≤ 31 := by
  unfold daysInMonth
  split <;> (try split) <;> decide

theorem daysBeforeMonth_succ (year : Int) {month : Nat} (hmonth : 1 ≤ month) :
    daysBeforeMonth year (month + 1) = daysBeforeMonth year month + daysInMonth year month := by
  obtain ⟨m, rfl⟩ : ∃ m, month = m + 1 := ⟨month - 1, by omega⟩
  rfl

/-- A whole month lies between the first of it and the first of any later one. -/
theorem daysBeforeMonth_add_le (year : Int) {month later : Nat} (hmonth : 1 ≤ month) (hlater : month < later) :
    daysBeforeMonth year month + daysInMonth year month ≤ daysBeforeMonth year later := by
  induction later with
  | zero => omega
  | succ later ih =>
      rw [daysBeforeMonth_succ year (by omega)]
      rcases Nat.lt_or_ge month later with hlt | hge
      · have := ih hlt
        omega
      · obtain rfl : month = later := by omega
        exact Nat.le_refl _

theorem yearStart_succ (year : Int) : yearStart (year + 1) = yearStart year + daysBeforeMonth year 13 := by
  have hmonths : daysBeforeMonth year 13 = 337 + daysInMonth year 2 := by
    simp only [daysBeforeMonth, daysInMonth]
    omega
  have hleap := @isLeapYear_iff year
  rw [hmonths]
  simp only [yearStart, daysInMonth]
  split
  · have := hleap.1 ‹_›
    omega
  · have := mt hleap.2 ‹_›
    omega

theorem yearStart_succ_eq (year : Int) :
    yearStart (year + 1) = yearStart year + daysBeforeMonth year 12 + 31 := by
  have hdecember : daysInMonth year 12 = 31 := rfl
  have hyear := daysBeforeMonth_succ year (show 1 ≤ 12 by decide)
  rw [yearStart_succ, hyear, hdecember]
  omega

theorem yearStart_add_le {year later : Int} (hlater : year < later) :
    yearStart year + daysBeforeMonth year 13 ≤ yearStart later := by
  rw [← yearStart_succ]
  simp only [yearStart]
  omega

end Calendar

namespace Date

open Calendar

theorem month_bounds (d : Date) : 1 ≤ d.month ∧ d.month ≤ 12 := ⟨d.valid.2.2.1, d.valid.2.2.2.1⟩

theorem day_bounds (d : Date) : 1 ≤ d.day ∧ d.day ≤ daysInMonth d.year d.month := d.valid.2.2.2.2

theorem day_le (d : Date) : d.day ≤ 31 := Nat.le_trans d.day_bounds.2 (daysInMonth_le _ _)

theorem dayNumber_lt_of_lt {a b : Date} (hlt : a < b) : a.dayNumber < b.dayNumber := by
  have ha := a.day_bounds
  have hb := b.day_bounds
  have hamonth := a.month_bounds
  have hbmonth := b.month_bounds
  simp only [dayNumber]
  rcases lt_iff.1 hlt with hyear | ⟨hyear, hmonth | ⟨hmonth, hday⟩⟩
  · have hstart := yearStart_add_le hyear
    have hrest := daysBeforeMonth_add_le a.year hamonth.1 (show a.month < 13 by omega)
    omega
  · have hrest := daysBeforeMonth_add_le a.year hamonth.1 hmonth
    rw [← hyear]
    omega
  · rw [← hyear, ← hmonth]
    omega

/-- The numbers of days order the dates as the calendar does. -/
theorem dayNumber_lt_iff {a b : Date} : a.dayNumber < b.dayNumber ↔ a < b := by
  constructor
  · intro hlt
    rcases lt_trichotomy a b with h | rfl | h
    · exact h
    · omega
    · have := dayNumber_lt_of_lt h
      omega
  · exact dayNumber_lt_of_lt

theorem dayNumber_le_iff {a b : Date} : a.dayNumber ≤ b.dayNumber ↔ a ≤ b := by
  rw [le_iff, ← dayNumber_lt_iff, Int.not_lt]

theorem dayNumber_inj {a b : Date} : a.dayNumber = b.dayNumber ↔ a = b := by
  constructor
  · intro heq
    rcases lt_trichotomy a b with h | h | h
    · have := dayNumber_lt_of_lt h
      omega
    · exact h
    · have := dayNumber_lt_of_lt h
      omega
  · rintro rfl
    rfl

theorem le_refl (a : Date) : a ≤ a := lt_irrefl a

theorem le_trans {a b c : Date} (hab : a ≤ b) (hbc : b ≤ c) : a ≤ c := by
  rw [← dayNumber_le_iff] at *
  omega

theorem ofCivil?_eq_none_iff {year : Int} {month day : Nat} :
    ofCivil? year month day = none ↔ ¬ Calendar.Exists year month day := by
  unfold ofCivil?
  split <;> simp_all

theorem dayNumber_of_succ? {d e : Date} (he : d.succ? = some e) : e.dayNumber = d.dayNumber + 1 := by
  have hday := d.day_bounds
  have hmonth := d.month_bounds
  unfold succ? at he
  split at he
  · obtain ⟨hy, hm, hd⟩ := ofCivil?_eq_some.1 he
    simp only [dayNumber, hy, hm, hd]
    omega
  · split at he
    · obtain ⟨hy, hm, hd⟩ := ofCivil?_eq_some.1 he
      simp only [dayNumber, hy, hm, hd, daysBeforeMonth_succ d.year hmonth.1]
      omega
    · obtain ⟨hy, hm, hd⟩ := ofCivil?_eq_some.1 he
      have hlast : d.month = 12 := by omega
      have hdecember : daysInMonth d.year 12 = 31 := rfl
      have hfirst : daysBeforeMonth (d.year + 1) 1 = 0 := rfl
      rename_i hfull _
      rw [hlast, hdecember] at hday hfull
      rw [dayNumber, dayNumber, hy, hm, hd, hlast, yearStart_succ_eq, hfirst]
      omega

theorem dayNumber_of_pred? {d e : Date} (he : d.pred? = some e) : e.dayNumber = d.dayNumber - 1 := by
  have hday := d.day_bounds
  have hmonth := d.month_bounds
  unfold pred? at he
  split at he
  · obtain ⟨hy, hm, hd⟩ := ofCivil?_eq_some.1 he
    simp only [dayNumber, hy, hm, hd]
    omega
  · split at he
    · obtain ⟨hy, hm, hd⟩ := ofCivil?_eq_some.1 he
      have hbefore := daysBeforeMonth_succ d.year (show 1 ≤ d.month - 1 by omega)
      rw [show d.month - 1 + 1 = d.month by omega] at hbefore
      simp only [dayNumber, hy, hm, hd, hbefore]
      omega
    · obtain ⟨hy, hm, hd⟩ := ofCivil?_eq_some.1 he
      have hfirst : d.month = 1 := by omega
      have hjanuary : daysBeforeMonth d.year 1 = 0 := rfl
      have hyear := yearStart_succ_eq (d.year - 1)
      rw [show d.year - 1 + 1 = d.year by omega] at hyear
      rw [dayNumber, dayNumber, hy, hm, hd, hfirst, hyear, hjanuary]
      omega

/-- Only the last date has no following day. -/
theorem le_of_succ?_eq_none {d : Date} (hd : d.succ? = none) (e : Date) : e ≤ d := by
  obtain ⟨hfirstYear, hlastYear, hmonth, hmonth', hday, hday'⟩ := d.valid
  unfold succ? at hd
  split at hd
  · have hnone := ofCivil?_eq_none_iff.1 hd
    exact absurd ⟨hfirstYear, hlastYear, hmonth, hmonth', by omega, by omega⟩ hnone
  · split at hd
    · have hnone := ofCivil?_eq_none_iff.1 hd
      exact absurd ⟨hfirstYear, hlastYear, by omega, by omega, by decide, daysInMonth_pos _ _⟩ hnone
    · have hyear : d.year = lastYear := by
        by_contra hne
        exact ofCivil?_eq_none_iff.1 hd ⟨by omega, by omega, by decide, by decide, by decide, Nat.le_of_ble_eq_true rfl⟩
      have hlast : d.month = 12 := by omega
      have hdecember : daysInMonth d.year 12 = 31 := rfl
      rename_i hfull _
      rw [hlast, hdecember] at hfull
      have he := e.valid.2.1
      have hemonth := e.month_bounds
      have heday := e.day_le
      rw [le_iff, lt_iff]
      omega

/-- Only the first date has no preceding day. -/
theorem le_of_pred?_eq_none {d : Date} (hd : d.pred? = none) (e : Date) : d ≤ e := by
  obtain ⟨hfirstYear, hlastYear, hmonth, hmonth', hday, hday'⟩ := d.valid
  unfold pred? at hd
  split at hd
  · have hnone := ofCivil?_eq_none_iff.1 hd
    exact absurd ⟨hfirstYear, hlastYear, hmonth, hmonth', by omega, by omega⟩ hnone
  · split at hd
    · have hnone := ofCivil?_eq_none_iff.1 hd
      exact absurd ⟨hfirstYear, hlastYear, by omega, by omega, daysInMonth_pos _ _, Nat.le_refl _⟩ hnone
    · have hyear : d.year = firstYear := by
        by_contra hne
        exact ofCivil?_eq_none_iff.1 hd ⟨by omega, by omega, by decide, by decide, by decide, Nat.le_of_ble_eq_true rfl⟩
      have he := e.valid.1
      have hemonth := e.month_bounds
      have heday := e.day_bounds
      rw [le_iff, lt_iff]
      omega

end Date

end Roster
