/-!
# Times of day

A `TimeOfDay` is a second of the day and a fraction in nanoseconds. The fraction of the last second of any
minute may run over one second, to two: this is how a leap second `HH:MM:60` is counted. Times are ordered
by second, then fraction, so a leap second lies after every other time of its minute.

`since` and `plus` are the two operations the schedule needs. Away from leap seconds they are subtraction
of, and addition to, `nanos` modulo a day; around a leap second they count it only where it has been passed.
-/

namespace Roster

abbrev nanosPerSecond : Int := 1000000000

/-- Nanoseconds in a day without leap seconds. -/
abbrev nanosPerDay : Int := 86400000000000

structure TimeOfDay where
  second : Nat
  fraction : Nat
  second_lt : second < 86400
  fraction_lt : fraction < 2000000000
  leap : 1000000000 ≤ fraction → second % 60 = 59
deriving DecidableEq

namespace TimeOfDay

def isLeap (t : TimeOfDay) : Bool := 1000000000 ≤ t.fraction

instance : LT TimeOfDay :=
  ⟨fun a b => a.second < b.second ∨ a.second = b.second ∧ a.fraction < b.fraction⟩

instance : LE TimeOfDay := ⟨fun a b => ¬ b < a⟩

instance (a b : TimeOfDay) : Decidable (a < b) := by
  unfold LT.lt instLT; infer_instance

instance (a b : TimeOfDay) : Decidable (a ≤ b) := inferInstanceAs (Decidable (¬ b < a))

def earlier (a b : TimeOfDay) : TimeOfDay := if b < a then b else a

def later (a b : TimeOfDay) : TimeOfDay := if a < b then b else a

def dayStart : TimeOfDay := ⟨0, 0, by decide, by decide, by decide⟩

/-- The last time of a day that is not a leap second; it stands for the midnight that follows. -/
def dayEnd : TimeOfDay := ⟨86399, 999999999, by decide, by decide, by decide⟩

/-- A time from hour, minute, second and nanoseconds; second 60 is a leap second. -/
def ofParts? (hour minute second nano : Nat) : Option TimeOfDay :=
  if h : hour < 24 ∧ minute < 60 ∧ second < 60 ∧ nano < 1000000000 then
    some ⟨hour * 3600 + minute * 60 + second, nano, by omega, by omega, by omega⟩
  else if h : hour < 24 ∧ minute < 60 ∧ second = 60 ∧ nano < 1000000000 then
    some ⟨hour * 3600 + minute * 60 + 59, 1000000000 + nano, by omega, by omega, by omega⟩
  else none

def nanos (t : TimeOfDay) : Int := t.second * nanosPerSecond + t.fraction

/-- A time that is no leap second, from any number of nanoseconds since some midnight. -/
def ofNanos (n : Int) : TimeOfDay :=
  ⟨(n % nanosPerDay).toNat / 1000000000, (n % nanosPerDay).toNat % 1000000000,
    by simp only [nanosPerDay]; omega, by omega, by omega⟩

/-- Nanoseconds from `b` to `a` on one day. A leap second counts in full once it lies between them. -/
def since (a b : TimeOfDay) : Int :=
  let passed : Int :=
    if b.second < a.second ∧ b.isLeap then 1
    else if a.second < b.second ∧ a.isLeap then -1
    else 0
  ((a.second : Int) - b.second + passed) * nanosPerSecond + (a.fraction - b.fraction)

/-- The time a number of nanoseconds later, around the clock. A step that fits into the leap second it
starts from stays in it; going forward out of it, the second before is what has passed. -/
def plus (t : TimeOfDay) (n : Int) : TimeOfDay :=
  if hleap : 1000000000 ≤ t.fraction then
    if hon : 2000000000 ≤ t.fraction + n then ofNanos (t.nanos - nanosPerSecond + n)
    else if hback : n ≤ -nanosPerSecond then ofNanos (t.nanos + n)
    else ⟨t.second, (t.fraction + n).toNat, t.second_lt, by omega, fun _ => t.leap hleap⟩
  else ofNanos (t.nanos + n)

theorem lt_iff {a b : TimeOfDay} :
    a < b ↔ a.second < b.second ∨ a.second = b.second ∧ a.fraction < b.fraction := Iff.rfl

theorem le_iff {a b : TimeOfDay} : a ≤ b ↔ ¬ b < a := Iff.rfl

theorem ext_iff {a b : TimeOfDay} : a = b ↔ a.second = b.second ∧ a.fraction = b.fraction := by
  cases a; cases b; simp

theorem lt_irrefl (a : TimeOfDay) : ¬ a < a := by rw [lt_iff]; omega

theorem lt_trichotomy (a b : TimeOfDay) : a < b ∨ a = b ∨ b < a := by
  rw [lt_iff, lt_iff, ext_iff]; omega

theorem isLeap_eq_false_iff {t : TimeOfDay} : t.isLeap = false ↔ t.fraction < 1000000000 := by
  simp [isLeap]

theorem nanos_bounds {t : TimeOfDay} (ht : t.isLeap = false) : 0 ≤ t.nanos ∧ t.nanos < nanosPerDay := by
  rw [isLeap_eq_false_iff] at ht
  have := t.second_lt
  simp only [nanos, nanosPerSecond, nanosPerDay]
  omega

theorem isLeap_ofNanos (n : Int) : (ofNanos n).isLeap = false := by
  rw [isLeap_eq_false_iff]
  exact Nat.mod_lt _ (by decide)

theorem nanos_ofNanos (n : Int) : (ofNanos n).nanos = n % nanosPerDay := by
  simp only [nanos, ofNanos, nanosPerSecond, nanosPerDay]
  omega

/-- Away from leap seconds, the distance is the difference of the counts since midnight. -/
theorem since_eq {a b : TimeOfDay} (ha : a.isLeap = false) (hb : b.isLeap = false) :
    a.since b = a.nanos - b.nanos := by
  simp only [since, ha, hb, nanos, nanosPerSecond, Bool.false_eq_true, and_false, if_false]
  omega

/-- Away from leap seconds, going on is addition modulo a day. -/
theorem plus_eq {t : TimeOfDay} (ht : t.isLeap = false) (n : Int) :
    t.plus n = ofNanos (t.nanos + n) := by
  rw [isLeap_eq_false_iff] at ht
  have hfraction : ¬ 1000000000 ≤ t.fraction := by omega
  simp [plus, hfraction]

end TimeOfDay

end Roster
