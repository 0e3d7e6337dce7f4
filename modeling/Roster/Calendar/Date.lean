/-!
# Calendar dates

Days of the proleptic Gregorian calendar, from `-262143-01-01` to `+262142-12-31`. A `Date` is a year, a
month and a day that exist; `dayNumber` lays the dates out on the integers, so that counting days back is
a subtraction, and `ofDayNumber?` is its inverse where the result is still a date.
-/

namespace Roster

namespace Calendar

def firstYear : Int := -262143

def lastYear : Int := 262142

def isLeapYear (year : Int) : Bool :=
  year % 4 == 0 && (year % 100 != 0 || year % 400 == 0)

def daysInMonth (year : Int) : Nat → Nat
  | 2 => if isLeapYear year then 29 else 28
  | 4 | 6 | 9 | 11 => 30
  | _ => 31

/-- The days of a year before the first of a month. -/
def daysBeforeMonth (year : Int) : Nat → Nat
  | 0 => 0
  | 1 => 0
  | month + 1 => daysBeforeMonth year month + daysInMonth year month

/-- The number of the first day of a year; year 0 starts at 0. -/
def yearStart (year : Int) : Int :=
  365 * year + (year + 3) / 4 - (year + 99) / 100 + (year + 399) / 400

/-- The year that holds a day. The mean length of a year gives it up to one. -/
def yearOfDay (day : Int) : Int :=
  let guess := day * 400 / 146097
  if day < yearStart guess then guess - 1
  else if day < yearStart (guess + 1) then guess
  else guess + 1

/-- The month and the day in it at an offset from the first of `month`, looking at most `ahead` months on. -/
def monthAndDay (year : Int) : (ahead month offset : Nat) → Nat × Nat
  | 0, month, offset => (month, offset + 1)
  | ahead + 1, month, offset =>
      if offset < daysInMonth year month then (month, offset + 1)
      else monthAndDay year ahead (month + 1) (offset - daysInMonth year month)

/-- The year, month and day that make up an existing date. -/
def Exists (year : Int) (month day : Nat) : Prop :=
  firstYear ≤ year ∧ year ≤ lastYear ∧ 1 ≤ month ∧ month ≤ 12 ∧ 1 ≤ day ∧ day ≤ daysInMonth year month

instance (year : Int) (month day : Nat) : Decidable (Exists year month day) := by
  unfold Exists; infer_instance

end Calendar

open Calendar

structure Date where
  year : Int
  month : Nat
  day : Nat
  valid : Calendar.Exists year month day
deriving DecidableEq

namespace Date

def ofCivil? (year : Int) (month day : Nat) : Option Date :=
  if h : Calendar.Exists year month day then some ⟨year, month, day, h⟩ else none

def Before (a b : Date) : Prop :=
  a.year < b.year ∨
    a.year = b.year ∧ (a.month < b.month ∨ a.month = b.month ∧ a.day < b.day)

instance : LT Date := ⟨Before⟩

instance : LE Date := ⟨fun a b => ¬ b < a⟩

instance (a b : Date) : Decidable (a < b) := by
  unfold LT.lt instLT Before; infer_instance

instance (a b : Date) : Decidable (a ≤ b) := inferInstanceAs (Decidable (¬ b < a))

/-- Days since the first of January of year 0. -/
def dayNumber (d : Date) : Int :=
  yearStart d.year + daysBeforeMonth d.year d.month + d.day - 1

def ofDayNumber? (n : Int) : Option Date :=
  let year := yearOfDay n
  let (month, day) := monthAndDay year 11 1 (n - yearStart year).toNat
  ofCivil? year month day

def daysBefore? (d : Date) (days : Nat) : Option Date := ofDayNumber? (d.dayNumber - days)

/-- The following day; the last date has none. -/
def succ? (d : Date) : Option Date :=
  if d.day < daysInMonth d.year d.month then ofCivil? d.year d.month (d.day + 1)
  else if d.month < 12 then ofCivil? d.year (d.month + 1) 1
  else ofCivil? (d.year + 1) 1 1

/-- The preceding day; the first date has none. -/
def pred? (d : Date) : Option Date :=
  if 1 < d.day then ofCivil? d.year d.month (d.day - 1)
  else if 1 < d.month then ofCivil? d.year (d.month - 1) (daysInMonth d.year (d.month - 1))
  else ofCivil? (d.year - 1) 12 31

theorem lt_iff {a b : Date} : a < b ↔ a.year < b.year ∨
    a.year = b.year ∧ (a.month < b.month ∨ a.month = b.month ∧ a.day < b.day) := Iff.rfl

theorem le_iff {a b : Date} : a ≤ b ↔ ¬ b < a := Iff.rfl

theorem ext_iff {a b : Date} : a = b ↔ a.year = b.year ∧ a.month = b.month ∧ a.day = b.day := by
  cases a; cases b; simp

theorem lt_trichotomy (a b : Date) : a < b ∨ a = b ∨ b < a := by
  rw [lt_iff, lt_iff, ext_iff]; omega

theorem lt_irrefl (a : Date) : ¬ a < a := by rw [lt_iff]; omega

theorem lt_trans {a b c : Date} (hab : a < b) (hbc : b < c) : a < c := by
  rw [lt_iff] at *; omega

theorem ofCivil?_eq_some {year : Int} {month day : Nat} {d : Date} :
    ofCivil? year month day = some d ↔ d.year = year ∧ d.month = month ∧ d.day = day := by
  unfold ofCivil?
  constructor
  · intro h
    split at h
    · cases h; exact ⟨rfl, rfl, rfl⟩
    · cases h
  · rintro ⟨rfl, rfl, rfl⟩
    simp [d.valid]

theorem ofCivil?_parts (d : Date) : ofCivil? d.year d.month d.day = some d :=
  ofCivil?_eq_some.2 ⟨rfl, rfl, rfl⟩

end Date

end Roster
