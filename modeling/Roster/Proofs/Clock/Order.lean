import Mathlib.Order.Lattice
import Roster.Frame
/-!
# The order of times of day

The times of a day are linearly ordered, and a later time is always a positive distance ahead, also across leap seconds
(`since_pos`). Away from leap seconds, `TimeOfDay.nanos` places the times on the integers: the order of times is the
order of their places, and going forward around the clock is subtraction modulo a day.
-/

namespace Roster.TimeOfDay

theorem lt_asymm {a b : TimeOfDay} (hab : a < b) : ¬ b < a := by
  rw [lt_iff] at *
  omega

/-- The later and the earlier of two times are their maximum and minimum. -/
instance : LinearOrder TimeOfDay where
  le_refl := lt_irrefl
  le_trans a b c hab hbc := by
    rw [le_iff, lt_iff] at *
    omega
  le_antisymm a b hab hba := by
    rw [le_iff, lt_iff] at hab hba
    rw [ext_iff]
    omega
  le_total a b := by
    rw [le_iff, le_iff, lt_iff, lt_iff]
    omega
  lt_iff_le_not_ge a b := by
    rw [le_iff, le_iff, lt_iff, lt_iff]
    omega
  toDecidableLE := inferInstance
  toDecidableLT := inferInstance
  min := earlier
  max := later
  min_def a b := (ite_not (b < a) a b).symm
  max_def a b := by
    rcases lt_trichotomy a b with h | rfl | h
    · exact (if_pos h).trans (if_pos (c := a ≤ b) (lt_asymm h)).symm
    · exact (ite_self a).trans (ite_self a).symm
    · exact (if_neg (lt_asymm h)).trans (if_neg (c := a ≤ b) (not_not_intro h)).symm

theorem later_eq_max (a b : TimeOfDay) : a.later b = max a b := rfl

theorem earlier_eq_min (a b : TimeOfDay) : a.earlier b = min a b := rfl

theorem nanos_dayStart : dayStart.nanos = 0 := rfl

theorem nanos_dayEnd : dayEnd.nanos = nanosPerDay - 1 := rfl

theorem nanos_lt_iff {a b : TimeOfDay} (ha : a.isLeap = false) (hb : b.isLeap = false) :
    a.nanos < b.nanos ↔ a < b := by
  rw [isLeap_eq_false_iff] at ha hb
  simp only [lt_iff, nanos, nanosPerSecond]
  omega

theorem nanos_le_iff {a b : TimeOfDay} (ha : a.isLeap = false) (hb : b.isLeap = false) :
    a.nanos ≤ b.nanos ↔ a ≤ b := by
  rw [le_iff, ← nanos_lt_iff hb ha, Int.not_lt]

theorem nanos_inj {a b : TimeOfDay} (ha : a.isLeap = false) (hb : b.isLeap = false) :
    a.nanos = b.nanos ↔ a = b := by
  rw [isLeap_eq_false_iff] at ha hb
  simp only [ext_iff, nanos, nanosPerSecond]
  omega

theorem dayStart_le (t : TimeOfDay) : dayStart ≤ t := by
  rw [le_iff, lt_iff]
  simp only [dayStart]
  omega

theorem le_dayEnd {t : TimeOfDay} (ht : t.isLeap = false) : t ≤ dayEnd := by
  have hbounds := nanos_bounds ht
  rw [← nanos_le_iff ht rfl, nanos_dayEnd]
  omega

theorem ofNanos_nanos {t : TimeOfDay} (ht : t.isLeap = false) : ofNanos t.nanos = t := by
  obtain ⟨hnonneg, hlt⟩ := nanos_bounds ht
  rw [← nanos_inj (isLeap_ofNanos _) ht, nanos_ofNanos, Int.emod_eq_of_lt hnonneg hlt]

/-- A later time lies a positive distance ahead. A leap second runs for up to two seconds, so to leave it for the next
second may cost up to one; then it is counted as passed. -/
theorem since_pos {a b : TimeOfDay} (hab : a < b) : 0 < b.since a := by
  unfold since
  rcases lt_iff.1 hab with hsecond | ⟨hsecond, hfraction⟩
  · have hbehind : ¬ b.second < a.second := Nat.lt_asymm hsecond
    cases hleap : a.isLeap with
    | true =>
        have hbound := a.fraction_lt
        simp only [hsecond, and_self, if_true, nanosPerSecond]
        omega
    | false =>
        have hbound := isLeap_eq_false_iff.1 hleap
        simp only [hbehind, Bool.false_eq_true, and_false, false_and, if_false, nanosPerSecond]
        omega
  · simp only [hsecond, Nat.lt_irrefl, false_and, if_false, nanosPerSecond]
    omega

theorem forwardTo_eq {a b : TimeOfDay} (ha : a.isLeap = false) (hb : b.isLeap = false) :
    a.forwardTo b = (b.nanos - a.nanos) % nanosPerDay := by
  have hbounds := nanos_bounds ha
  have hbounds' := nanos_bounds hb
  rw [forwardTo, since_eq hb ha]
  simp only [nanosPerDay] at *
  split <;> omega

theorem forwardTo_of_le {a b : TimeOfDay} (ha : a.isLeap = false) (hb : b.isLeap = false) (hab : a ≤ b) :
    a.forwardTo b = b.nanos - a.nanos := by
  have hbounds := nanos_bounds ha
  have hbounds' := nanos_bounds hb
  have hle := (nanos_le_iff ha hb).2 hab
  rw [forwardTo_eq ha hb, Int.emod_eq_of_lt (by omega) (by omega)]

end Roster.TimeOfDay
