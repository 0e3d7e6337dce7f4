import Roster.Proofs.Clock.Order
/-!
# Measuring a distance and going it again

`TimeOfDay.forwardTo` measures the way around the clock from one time to another, and `TimeOfDay.plus` goes a way of any
length. Away from leap seconds, going the way that was measured ends where it should. Going on out of a leap second always
counts it as passed, but measuring counts it only on the way to a later time of the day, not past midnight; and no way that
leaves its second ends in a leap second (`TimeOfDay.second_plus_of_isLeap`). So the way leads back to the times that
`TimeOfDay.Recovers` describes and to no others (`TimeOfDay.plus_forwardTo_iff`).
-/

namespace Roster.TimeOfDay

/-- A leap second is left only for a later time of the day, and reached only from within. -/
structure Recovers (a b : TimeOfDay) : Prop where
  leaves : a.isLeap = true → a ≤ b
  reaches : b.isLeap = true → a.isLeap = true ∧ a.second = b.second

instance (a b : TimeOfDay) : Decidable (a.Recovers b) :=
  decidable_of_iff ((a.isLeap = true → a ≤ b) ∧ (b.isLeap = true → a.isLeap = true ∧ a.second = b.second))
    ⟨fun h => ⟨h.1, h.2⟩, fun h => ⟨h.leaves, h.reaches⟩⟩

variable {a b t : TimeOfDay}

theorem isLeap_iff : t.isLeap = true ↔ 1000000000 ≤ t.fraction := by
  rw [isLeap, decide_eq_true_iff]

theorem nanos_bounds_of_any (t : TimeOfDay) : 0 ≤ t.nanos ∧ t.nanos < nanosPerDay + nanosPerSecond := by
  have hsecond := t.second_lt
  have hfraction := t.fraction_lt
  simp only [nanos, nanosPerSecond, nanosPerDay]
  omega

/-! ### Going a way -/

theorem plus_zero (t : TimeOfDay) : t.plus 0 = t := by
  cases ht : t.isLeap with
  | false => rw [plus_eq ht, Int.add_zero, ofNanos_nanos ht]
  | true =>
      have hleap := isLeap_iff.1 ht
      have hfraction := t.fraction_lt
      rw [plus, dif_pos hleap, dif_neg (by omega), dif_neg (by simp only [nanosPerSecond]; omega), ext_iff]
      exact ⟨rfl, by dsimp only; omega⟩

/-- Out of a leap second, the second before it is what has passed. -/
theorem plus_of_leaves (ht : t.isLeap = true) {n : Int} (hn : 2000000000 ≤ t.fraction + n) :
    t.plus n = ofNanos (t.nanos - nanosPerSecond + n) := by
  rw [plus, dif_pos (isLeap_iff.1 ht), dif_pos hn]

theorem plus_of_stays (ht : t.isLeap = true) {n : Int} (hn : t.fraction + n < 2000000000) (hback : -nanosPerSecond < n) :
    (t.plus n).second = t.second ∧ ((t.plus n).fraction : Int) = t.fraction + n := by
  have hleap := isLeap_iff.1 ht
  rw [plus, dif_pos hleap, dif_neg (by omega), dif_neg (by omega)]
  simp only [nanosPerSecond] at hback
  exact ⟨rfl, by dsimp only; omega⟩

/-! ### Measuring a way -/

theorem since_of_le (hab : a ≤ b) :
    b.since a = b.nanos - a.nanos + if a.second < b.second ∧ a.isLeap = true then nanosPerSecond else 0 := by
  rw [le_iff, lt_iff] at hab
  have hbehind : ¬ b.second < a.second := by omega
  simp only [since, hbehind, false_and, if_false, nanos, nanosPerSecond]
  split <;> omega

theorem since_of_lt (hba : b < a) :
    b.since a = b.nanos - a.nanos - if b.second < a.second ∧ b.isLeap = true then nanosPerSecond else 0 := by
  rw [lt_iff] at hba
  have hbehind : ¬ a.second < b.second := by omega
  simp only [since, hbehind, false_and, if_false, nanos, nanosPerSecond]
  split <;> omega

theorem since_nonneg (hab : a ≤ b) : 0 ≤ b.since a := by
  rcases hab.eq_or_lt with rfl | hlt
  · simp [since]
  · exact (since_pos hlt).le

theorem forwardTo_nonneg_of_le (hab : a ≤ b) : 0 ≤ a.forwardTo b := by
  rw [forwardTo, if_neg (not_lt.2 (since_nonneg hab))]
  exact since_nonneg hab

theorem forwardTo_ahead (hab : a ≤ b) :
    a.forwardTo b = b.nanos - a.nanos + if a.second < b.second ∧ a.isLeap = true then nanosPerSecond else 0 := by
  rw [forwardTo, if_neg (not_lt.2 (since_nonneg hab)), since_of_le hab]

theorem forwardTo_around (hba : b < a) :
    a.forwardTo b = b.nanos - a.nanos + nanosPerDay -
      if b.second < a.second ∧ b.isLeap = true then nanosPerSecond else 0 := by
  have hsince : b.since a < 0 := by
    have hfraction := b.fraction_lt
    have hplain := isLeap_eq_false_iff (t := b)
    rw [since_of_lt hba]
    rw [lt_iff] at hba
    simp only [nanos, nanosPerSecond]
    split
    · omega
    · rename_i hpassed
      cases hb : b.isLeap with
      | false => have := hplain.1 hb; omega
      | true => simp only [hb, and_true] at hpassed; omega
  rw [forwardTo, if_pos hsince, since_of_lt hba]
  omega

/-! ### Going the way that was measured -/

theorem plus_forwardTo_of_plain (ha : a.isLeap = false) (hb : b.isLeap = false) : a.plus (a.forwardTo b) = b := by
  have hbounds := nanos_bounds hb
  rw [plus_eq ha, forwardTo_eq ha hb, ← nanos_inj (isLeap_ofNanos _) hb, nanos_ofNanos]
  simp only [nanosPerDay] at *
  omega

theorem plus_forwardTo_of_leaves (ha : a.isLeap = true) (hb : b.isLeap = false) (hab : a ≤ b) :
    a.plus (a.forwardTo b) = b := by
  have hleap := isLeap_iff.1 ha
  have hplain := isLeap_eq_false_iff.1 hb
  have hsecond : a.second < b.second := by
    rw [le_iff, lt_iff] at hab
    omega
  have hforward := forwardTo_ahead hab
  rw [if_pos ⟨hsecond, ha⟩] at hforward
  have hn : 2000000000 ≤ a.fraction + a.forwardTo b := by
    simp only [nanos, nanosPerSecond] at hforward
    omega
  rw [plus_of_leaves ha hn, hforward, show a.nanos - nanosPerSecond + (b.nanos - a.nanos + nanosPerSecond) = b.nanos by omega,
    ofNanos_nanos hb]

theorem plus_forwardTo_of_same_second (ha : a.isLeap = true) (hsecond : a.second = b.second) (hab : a ≤ b) :
    a.plus (a.forwardTo b) = b := by
  have hfraction := b.fraction_lt
  have hle : a.fraction ≤ b.fraction := by
    rw [le_iff, lt_iff] at hab
    omega
  have hforward := forwardTo_ahead hab
  rw [if_neg (by omega)] at hforward
  simp only [nanos, nanosPerSecond] at hforward
  obtain ⟨hstays, hends⟩ := plus_of_stays ha (n := a.forwardTo b) (by omega) (by simp only [nanosPerSecond]; omega)
  rw [ext_iff]
  omega

/-- A way ends in a leap second only if it does not leave the second. -/
theorem second_plus_of_isLeap {n : Int} (h : (t.plus n).isLeap = true) :
    t.isLeap = true ∧ (t.plus n).second = t.second := by
  cases ht : t.isLeap with
  | false =>
      rw [plus_eq ht, isLeap_ofNanos] at h
      cases h
  | true =>
      refine ⟨rfl, ?_⟩
      unfold plus at h ⊢
      rw [dif_pos (isLeap_iff.1 ht)] at h ⊢
      split
      · rename_i hn
        rw [dif_pos hn, isLeap_ofNanos] at h
        cases h
      · rename_i hn
        rw [dif_neg hn] at h
        split
        · rename_i hback
          rw [dif_pos hback, isLeap_ofNanos] at h
          cases h
        · rfl

/-- Past midnight, the way out of a leap second is measured a second too short. -/
theorem plus_forwardTo_ne_of_around (ha : a.isLeap = true) (hba : b < a) : a.plus (a.forwardTo b) ≠ b := by
  intro hends
  have hforward := forwardTo_around hba
  have hday := a.nanos_bounds_of_any
  have hday' := b.nanos_bounds_of_any
  -- A way that is too short to leave the leap second ends in it, but then it would be a whole day.
  by_cases hn : 2000000000 ≤ a.fraction + a.forwardTo b
  · have hplain : b.isLeap = false := by rw [← hends, plus_of_leaves ha hn, isLeap_ofNanos]
    have hbounds := nanos_bounds hplain
    rw [if_neg (by simp [hplain])] at hforward
    have hnanos := congrArg nanos hends
    rw [plus_of_leaves ha hn, nanos_ofNanos, hforward] at hnanos
    simp only [nanosPerDay, nanosPerSecond] at *
    omega
  · have hback : -nanosPerSecond < a.forwardTo b := by
      rw [hforward]
      split
      · rename_i hpassed
        have := isLeap_iff.1 hpassed.2
        have := b.leap this
        simp only [nanos, nanosPerSecond, nanosPerDay] at *
        omega
      · omega
    obtain ⟨hsecond, hfraction⟩ := plus_of_stays ha (Int.not_le.1 hn) hback
    rw [hends] at hsecond hfraction
    rw [if_neg (by omega)] at hforward
    simp only [nanos, nanosPerSecond, nanosPerDay] at *
    omega

theorem plus_forwardTo_iff : a.plus (a.forwardTo b) = b ↔ a.Recovers b := by
  constructor
  · intro hends
    constructor
    · intro ha
      exact not_lt.1 fun hba => plus_forwardTo_ne_of_around ha hba hends
    · intro hb
      rw [← hends] at hb
      obtain ⟨ha, hsecond⟩ := second_plus_of_isLeap hb
      exact ⟨ha, by rw [← hsecond, hends]⟩
  · intro h
    cases hb : b.isLeap with
    | true => exact plus_forwardTo_of_same_second (h.reaches hb).1 (h.reaches hb).2 (h.leaves (h.reaches hb).1)
    | false =>
        cases ha : a.isLeap with
        | true => exact plus_forwardTo_of_leaves ha hb (h.leaves ha)
        | false => exact plus_forwardTo_of_plain ha hb

theorem recovers_of_plain (ha : a.isLeap = false) (hb : b.isLeap = false) : a.Recovers b where
  leaves := fun h => absurd h (by rw [ha]; decide)
  reaches := fun h => absurd h (by rw [hb]; decide)

theorem Recovers.forwardTo_nonneg (h : a.Recovers b) : 0 ≤ a.forwardTo b := by
  cases ha : a.isLeap with
  | true => exact forwardTo_nonneg_of_le (h.leaves ha)
  | false =>
      have hb : b.isLeap = false := Bool.eq_false_iff.2 fun hb => Bool.noConfusion (ha.symm.trans (h.reaches hb).1)
      rw [forwardTo_eq ha hb]
      exact Int.emod_nonneg _ (by decide)

end Roster.TimeOfDay
