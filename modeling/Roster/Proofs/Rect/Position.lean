import Roster.Proofs.Clock.LeapSecond
import Roster.Proofs.Rect.Anchoring
import Roster.Proofs.Rect.HandOver
/-!
# The axis of a work as the clock unrolled

The axis of a work shows every time of day once in each stretch of a day (`TimeOfDay.plus_eq_iff`), and of its places the
position of a time is the one nearest to the work. A work is shorter than a day, so at most one of the places lies within it,
and then the time is reached on the way from the start to the finish (`Work.reaches_iff`). Otherwise one place lies on
either side. They may be equally far from the work, and then the place behind it counts, so there is never a choice
(`Frame.Places.unique`). Since a place shows only one time, no two times have the same position.
-/

namespace Roster

/-- Going on from one time for so long leads to another exactly if this is the way to it, up to whole days. -/
theorem TimeOfDay.plus_eq_iff {a b : TimeOfDay} (ha : a.isLeap = false) (hb : b.isLeap = false) {n : Int} :
    a.plus n = b ↔ n % nanosPerDay = a.forwardTo b := by
  have hbounds := nanos_bounds hb
  rw [plus_eq ha, ← nanos_inj (isLeap_ofNanos _) hb, nanos_ofNanos, forwardTo_eq ha hb]
  simp only [nanosPerDay] at *
  omega

/-- Going forward from the start of the work, the time is reached no later than the finish. -/
def Work.Reaches (w : Work) (t : TimeOfDay) : Prop :=
  ∀ n, 0 ≤ n → w.start.plus n = w.finish → ∃ m, 0 ≤ m ∧ m ≤ n ∧ w.start.plus m = t

theorem Work.reaches_iff {w : Work} (hstart : w.start.isLeap = false) (hfinish : w.finish.isLeap = false)
    {t : TimeOfDay} (ht : t.isLeap = false) : w.Reaches t ↔ w.start.forwardTo t ≤ w.start.forwardTo w.finish := by
  have hway := TimeOfDay.forwardTo_bounds hstart ht
  have hlength := TimeOfDay.forwardTo_bounds hstart hfinish
  constructor
  · intro h
    obtain ⟨m, hm, hle, hreached⟩ := h _ hlength.1 (TimeOfDay.plus_forwardTo_of_plain hstart hfinish)
    rw [TimeOfDay.plus_eq_iff hstart ht] at hreached
    simp only [nanosPerDay] at *
    omega
  · intro hle n hn hends
    refine ⟨w.start.forwardTo t, hway.1, ?_, TimeOfDay.plus_forwardTo_of_plain hstart ht⟩
    rw [TimeOfDay.plus_eq_iff hstart hfinish] at hends
    simp only [nanosPerDay] at *
    omega

namespace Frame

/-- How far a place lies outside of the work. -/
def gap (f : Frame) (p : Int) : Int := max 0 (max (-p) (p - f.length))

/-- The place shows the time. Any other that does lies further from the work, or as far in front of the work as this one
lies behind it. -/
structure Places (f : Frame) (t : TimeOfDay) (p : Int) : Prop where
  timeAt_eq : f.timeAt p = t
  nearest : ∀ q, f.timeAt q = t → q ≠ p → f.gap p < f.gap q ∨ f.gap p = f.gap q ∧ q < 0 ∧ f.length < p

variable {f : Frame} {t : TimeOfDay} {p q : Int}

theorem Places.unique (hlength : 0 ≤ f.length) (hp : f.Places t p) (hq : f.Places t q) : p = q := by
  by_contra hne
  have hfirst := hp.nearest q hq.timeAt_eq (Ne.symm hne)
  have hsecond := hq.nearest p hp.timeAt_eq hne
  omega

/-- A time off the way from the start to the finish is put outside of the work. -/
theorem position_within_iff (horigin : f.origin.isLeap = false) (ht : t.isLeap = false) :
    0 ≤ f.position t ∧ f.position t ≤ f.length ↔ f.origin.forwardTo t ≤ f.length := by
  have hway := TimeOfDay.forwardTo_bounds horigin ht
  unfold position
  simp only [nanosPerDay] at *
  split
  · omega
  · split <;> omega

section Positions

variable (horigin : f.origin.isLeap = false) (hlength : 0 ≤ f.length ∧ f.length < nanosPerDay) (ht : t.isLeap = false)

include horigin hlength ht

/-- The other places of a time lie whole days away from its position. -/
theorem places_position : f.Places t (f.position t) where
  timeAt_eq := timeAt_position horigin ht
  nearest := by
    intro q hq hne
    have hway := TimeOfDay.forwardTo_bounds horigin ht
    have hplace := (TimeOfDay.plus_eq_iff horigin ht).1 hq
    unfold position at *
    unfold gap
    simp only [nanosPerDay] at *
    split at hne
    · omega
    · split at hne <;> omega

theorem eq_position_iff : p = f.position t ↔ f.Places t p := by
  constructor
  · rintro rfl
    exact places_position horigin hlength ht
  · intro hp
    exact hp.unique hlength.1 (places_position horigin hlength ht)

end Positions

end Frame

/-- Away from leap seconds, going forward from one time to another takes less than a day and ends there; and the position
of a time in the frame of a work is the one place nearest to the work that shows it. It lies within the work if the time
is reached on the way from the start to the finish, and otherwise outside by no more than half of what the work leaves of
a day. -/
theorem frame_unrolls_clock {w : Work} (hstart : w.start.isLeap = false) (hfinish : w.finish.isLeap = false) :
    let f := Frame.ofWork w
    (∀ a b : TimeOfDay, a.isLeap = false → b.isLeap = false →
        0 ≤ a.forwardTo b ∧ a.forwardTo b < nanosPerDay ∧ a.plus (a.forwardTo b) = b) ∧
      (∀ t, t.isLeap = false →
        f.timeAt (f.position t) = t ∧
          (0 ≤ f.position t ∧ f.position t ≤ f.length ↔ w.Reaches t) ∧
          (∀ p, p = f.position t ↔ f.Places t p) ∧
          -(nanosPerDay - f.length) < 2 * f.position t ∧
          2 * f.position t ≤ 2 * f.length + (nanosPerDay - f.length)) ∧
      Set.InjOn f.position {t | t.isLeap = false} := by
  intro f
  have horigin : f.origin.isLeap = false := hstart
  have hlength : 0 ≤ f.length ∧ f.length < nanosPerDay := TimeOfDay.forwardTo_bounds hstart hfinish
  refine ⟨?_, ?_, ?_⟩
  · intro a b ha hb
    have hbounds := TimeOfDay.forwardTo_bounds ha hb
    exact ⟨hbounds.1, hbounds.2, TimeOfDay.plus_forwardTo_of_plain ha hb⟩
  · intro t ht
    have hreaches : 0 ≤ f.position t ∧ f.position t ≤ f.length ↔ w.Reaches t := by
      rw [Frame.position_within_iff horigin ht, Work.reaches_iff hstart hfinish ht]
      rfl
    have hbounds := Frame.position_bounds horigin hlength ht
    exact ⟨Frame.timeAt_position horigin ht, hreaches, fun p => Frame.eq_position_iff horigin hlength ht, by omega,
      by omega⟩
  · intro s hs t ht heq
    rw [← Frame.timeAt_position horigin hs, heq, Frame.timeAt_position horigin ht]

/-- A night at the mill. Two in the afternoon is as far from its end as from its beginning. -/
def millNight : Work :=
  ⟨⟨"mill", by decide⟩, ⟨"C33", by decide⟩, ⟨"S27", by decide⟩, ⟨2025, 11, 4, by decide⟩,
    .ofNanos (22 * 3600 * nanosPerSecond), .ofNanos (6 * 3600 * nanosPerSecond)⟩

theorem millNight_puts_tie_behind :
    let f := Frame.ofWork millNight
    let afternoon := TimeOfDay.ofNanos (14 * 3600 * nanosPerSecond)
    millNight.start.isLeap = false ∧ millNight.finish.isLeap = false ∧ afternoon.isLeap = false ∧
      f.timeAt (16 * 3600 * nanosPerSecond) = afternoon ∧ f.timeAt (-8 * 3600 * nanosPerSecond) = afternoon ∧
      f.Places afternoon (16 * 3600 * nanosPerSecond) ∧ ¬ millNight.Reaches afternoon := by
  intro f afternoon
  have hposition : f.position afternoon = 16 * 3600 * nanosPerSecond := by decide
  obtain ⟨-, hplaces, -⟩ := frame_unrolls_clock (w := millNight) (by decide) (by decide)
  obtain ⟨-, hreaches, hplaces, -, -⟩ := hplaces afternoon (by decide)
  refine ⟨by decide, by decide, by decide, by decide, by decide, (hplaces _).1 hposition.symm, ?_⟩
  rw [← hreaches]
  decide

end Roster
