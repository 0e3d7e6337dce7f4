import Mathlib.Data.Int.Interval
import Mathlib.Data.Set.Card
import Roster.Proofs.Calendar.Order
/-!
# From numbers of days to dates

`Date.ofDayNumber?` finds the date of a day: the year from its mean length (`Calendar.yearOfDay_bounds`), then month and day
by passing over whole months (`Calendar.daysBeforeMonth_monthAndDay`). It finds every date there is and no other
(`Date.ofDayNumber?_eq_some_iff`), so counting days back is subtraction as long as there is a date to arrive at. Between two
dates there is one for each number (`Date.exists_dayNumber_eq`), so as many dates as there are numbers
(`Date.ncard_between`).
-/

namespace Roster

namespace Calendar

/-- The mean length of a year leads to the year of a day or to one beside it. -/
theorem yearOfDay_bounds (n : Int) : yearStart (yearOfDay n) ≤ n ∧ n < yearStart (yearOfDay n + 1) := by
  have hguess : 146097 * (n * 400 / 146097) ≤ n * 400 ∧ n * 400 < 146097 * (n * 400 / 146097) + 146097 := by omega
  unfold yearOfDay
  generalize n * 400 / 146097 = guess at *
  have hbefore : yearStart (guess - 1) ≤ n := by
    simp only [yearStart]
    omega
  have hbehind : n < yearStart (guess + 1 + 1) := by
    simp only [yearStart]
    omega
  dsimp only
  split
  · rw [Int.sub_add_cancel]
    omega
  · split <;> omega

theorem yearOfDay_eq {n year : Int} (hfirst : yearStart year ≤ n) (hlast : n < yearStart (year + 1)) :
    yearOfDay n = year := by
  have hbounds := yearOfDay_bounds n
  rcases Int.lt_trichotomy (yearOfDay n) year with hlt | heq | hgt
  · have := yearStart_add_le hlt
    rw [← yearStart_succ] at this
    omega
  · exact heq
  · have := yearStart_add_le hgt
    rw [← yearStart_succ] at this
    omega

/-- Looking for a month loses no days. -/
theorem daysBeforeMonth_monthAndDay (year : Int) (ahead : Nat) {month : Nat} (hmonth : 1 ≤ month) (offset : Nat) :
    daysBeforeMonth year (monthAndDay year ahead month offset).1 + (monthAndDay year ahead month offset).2 =
      daysBeforeMonth year month + offset + 1 := by
  induction ahead generalizing month offset with
  | zero => rfl
  | succ ahead ih =>
      unfold monthAndDay
      split
      · rfl
      · have hmonth' := daysBeforeMonth_succ year hmonth
        rw [ih (by omega)]
        omega

theorem monthAndDay_eq (year : Int) {ahead month month' day : Nat} (hmonth : 1 ≤ month) (hle : month ≤ month')
    (hahead : month' ≤ month + ahead) (hday : 1 ≤ day ∧ day ≤ daysInMonth year month') {offset : Nat}
    (hoffset : daysBeforeMonth year month + offset + 1 = daysBeforeMonth year month' + day) :
    monthAndDay year ahead month offset = (month', day) := by
  induction ahead generalizing month offset with
  | zero =>
      obtain rfl : month' = month := by omega
      rw [monthAndDay, show offset + 1 = day by omega]
  | succ ahead ih =>
      have hnext := daysBeforeMonth_succ year hmonth
      unfold monthAndDay
      rcases Nat.eq_or_lt_of_le hle with rfl | hlt
      · rw [if_pos (by omega), show offset + 1 = day by omega]
      · have hlater := daysBeforeMonth_add_le year hmonth hlt
        rw [if_neg (by omega)]
        exact ih (by omega) (show month + 1 ≤ month' from hlt) (by omega) (by omega)

end Calendar

namespace Date

open Calendar

/-- The days are numbered without gaps. -/
theorem ofDayNumber?_eq_some_iff {n : Int} {d : Date} : ofDayNumber? n = some d ↔ d.dayNumber = n := by
  unfold ofDayNumber?
  rw [ofCivil?_eq_some]
  constructor
  · rintro ⟨hyear, hmonth, hday⟩
    have hbounds := yearOfDay_bounds n
    have hmonths := daysBeforeMonth_monthAndDay (yearOfDay n) 11 (Nat.le_refl 1) (n - yearStart (yearOfDay n)).toNat
    have hjanuary : daysBeforeMonth (yearOfDay n) 1 = 0 := rfl
    rw [dayNumber, hyear, hmonth, hday]
    omega
  · rintro rfl
    have hmonth := d.month_bounds
    have hday := d.day_bounds
    have hjanuary : daysBeforeMonth d.year 1 = 0 := rfl
    have hrest := daysBeforeMonth_add_le d.year hmonth.1 (show d.month < 13 by omega)
    have hyear : yearOfDay d.dayNumber = d.year := by
      apply yearOfDay_eq
      · rw [dayNumber]
        omega
      · rw [yearStart_succ, dayNumber]
        omega
    have hcivil : monthAndDay d.year 11 1 (d.dayNumber - yearStart d.year).toNat = (d.month, d.day) := by
      apply monthAndDay_eq d.year (Nat.le_refl 1) hmonth.1 (by omega) hday
      rw [dayNumber]
      omega
    rw [hyear, hcivil]
    exact ⟨rfl, rfl, rfl⟩

theorem daysBefore?_eq_some_iff {d e : Date} {days : Nat} :
    d.daysBefore? days = some e ↔ e.dayNumber + days = d.dayNumber := by
  rw [daysBefore?, ofDayNumber?_eq_some_iff]
  omega

/-- Going on from one date to the next leads to every day up to a later one. -/
theorem exists_dayNumber_eq {a b : Date} (n : Nat) (hn : a.dayNumber + n ≤ b.dayNumber) :
    ∃ d : Date, d.dayNumber = a.dayNumber + n := by
  induction n with
  | zero => exact ⟨a, (Int.add_zero _).symm⟩
  | succ n ih =>
      obtain ⟨d, hd⟩ := ih (by omega)
      cases hnext : d.succ? with
      | none =>
          have hlast := dayNumber_le_iff.2 (le_of_succ?_eq_none hnext b)
          omega
      | some next =>
          have hnumber := dayNumber_of_succ? hnext
          exact ⟨next, by omega⟩

theorem ncard_between (a b : Date) :
    {d : Date | a ≤ d ∧ d ≤ b}.ncard = (b.dayNumber + 1 - a.dayNumber).toNat := by
  have himage : dayNumber '' {d : Date | a ≤ d ∧ d ≤ b} = Finset.Icc a.dayNumber b.dayNumber := by
    ext n
    simp only [Set.mem_image, Set.mem_ofPred_eq, Finset.coe_Icc, Set.mem_Icc, ← dayNumber_le_iff]
    constructor
    · rintro ⟨d, hd, rfl⟩
      exact hd
    · rintro ⟨hfirst, hlast⟩
      obtain ⟨d, hd⟩ := exists_dayNumber_eq (a := a) (b := b) (n - a.dayNumber).toNat (by omega)
      exact ⟨d, by omega, by omega⟩
  have hinjective : Function.Injective dayNumber := fun _ _ h => dayNumber_inj.1 h
  rw [← Set.ncard_image_of_injective _ hinjective, himage, Set.ncard_coe_finset, Int.card_Icc]

end Date

end Roster
