import Roster.Proofs.Calendar.Order
import Roster.Proofs.Rect.ClosedForm
/-!
# Where what remains of a work lies

Changes whose new ends lie within a work leave a part of it: on the axis of the work the rest lies between 0 and the
length (`Work.remaining_within`). On the calendar this holds only while the rest begins before midnight. Its interval
is put on the date of the work, and so a rest that begins before midnight is contained in the spans of the whole work
(`Frame.exists_span_covering`), while one that begins after midnight lies a day before the part of the work that it is
(`Frame.exists_next_span_covering`).
-/

namespace Roster

/-- The new end lies within the work. -/
structure Change.Shortens (c : Change) (w : Work) : Prop where
  plain : c.boundary.isLeap = false
  within : w.start.forwardTo c.boundary ≤ w.start.forwardTo w.finish

/-! ### On the axis of the work -/

theorem TimeOfDay.forwardTo_bounds {a b : TimeOfDay} (ha : a.isLeap = false) (hb : b.isLeap = false) :
    0 ≤ a.forwardTo b ∧ a.forwardTo b < nanosPerDay := by
  rw [forwardTo_eq ha hb]
  exact ⟨Int.emod_nonneg _ (by decide), Int.emod_lt_of_pos _ (by decide)⟩

theorem Frame.position_of_le {f : Frame} {t : TimeOfDay} (h : f.origin.forwardTo t ≤ f.length) :
    f.position t = f.origin.forwardTo t := if_pos h

theorem Change.Shortens.position_bounds {c : Change} {w : Work} (hc : c.Shortens w) (hstart : w.start.isLeap = false) :
    0 ≤ (Frame.ofWork w).position c.boundary ∧
      (Frame.ofWork w).position c.boundary ≤ (Frame.ofWork w).length := by
  have hwithin : (Frame.ofWork w).origin.forwardTo c.boundary ≤ (Frame.ofWork w).length := hc.within
  rw [Frame.position_of_le hwithin]
  exact ⟨(TimeOfDay.forwardTo_bounds hstart hc.plain).1, hwithin⟩

theorem Work.remaining_within {w : Work} (hstart : w.start.isLeap = false) (hfinish : w.finish.isLeap = false)
    {changes : List Change} (hchanges : ∀ c ∈ changes, c.Shortens w) :
    0 ≤ (w.remaining changes).1 ∧ (w.remaining changes).1 ≤ (w.remaining changes).2 ∧
      (w.remaining changes).2 ≤ (Frame.ofWork w).length := by
  have hlength := length_nonneg hstart hfinish
  have hends := forall_remaining (P := fun p => 0 ≤ p ∧ p ≤ (Frame.ofWork w).length) ⟨Int.le_refl 0, hlength⟩
    ⟨hlength, Int.le_refl _⟩ fun c hc => (hchanges c hc).position_bounds hstart
  exact ⟨hends.1.1, w.remaining_le changes, hends.2.2⟩

/-! ### On the calendar -/

theorem mem_splitAtMidnight {date : Date} {start finish : TimeOfDay} {span : DaySpan} :
    span ∈ splitAtMidnight date start finish ↔
      start ≤ finish ∧ span = ⟨date, start, finish⟩ ∨
        finish < start ∧
          (span = ⟨date, start, .dayEnd⟩ ∨ ∃ next, date.succ? = some next ∧ span = ⟨next, .dayStart, finish⟩) := by
  unfold splitAtMidnight
  by_cases hle : start ≤ finish
  · have hlt : ¬ finish < start := hle
    simp [hle, hlt]
  · have hlt : finish < start := Decidable.not_not.1 hle
    rw [if_neg hle]
    cases date.succ? with
    | none => simp [hle, hlt]
    | some next => simp [hle, hlt]

/-- The span runs within the other, on the same date. -/
structure DaySpan.Within (a b : DaySpan) : Prop where
  date : a.date = b.date
  start : b.start ≤ a.start
  finish : a.finish ≤ b.finish

namespace Frame

variable {f : Frame}

theorem isLeap_timeAt (horigin : f.origin.isLeap = false) (p : Int) : (f.timeAt p).isLeap = false := by
  rw [timeAt, TimeOfDay.plus_eq horigin, TimeOfDay.isLeap_ofNanos]

theorem nanos_timeAt (horigin : f.origin.isLeap = false) (p : Int) :
    (f.timeAt p).nanos = (f.origin.nanos + p) % nanosPerDay := by
  rw [timeAt, TimeOfDay.plus_eq horigin, TimeOfDay.nanos_ofNanos]

/-- Two times of a frame are in order unless midnight falls between them. -/
theorem timeAt_le_iff (horigin : f.origin.isLeap = false) {p q : Int} (hp : 0 ≤ p) (hpq : p ≤ q)
    (hq : q < nanosPerDay) :
    f.timeAt p ≤ f.timeAt q ↔ (nanosPerDay ≤ f.origin.nanos + q → nanosPerDay ≤ f.origin.nanos + p) := by
  have hbounds := TimeOfDay.nanos_bounds horigin
  rw [← TimeOfDay.nanos_le_iff (isLeap_timeAt horigin p) (isLeap_timeAt horigin q), nanos_timeAt horigin,
    nanos_timeAt horigin]
  simp only [nanosPerDay] at *
  omega

variable {p q p' q' : Int} {date : Date} {span : DaySpan}

theorem exists_span_covering (horigin : f.origin.isLeap = false) (hp : 0 ≤ p') (hpp : p' ≤ p) (hpq : p ≤ q)
    (hqq : q ≤ q') (hq : q' < nanosPerDay) (hbefore : f.origin.nanos + p < nanosPerDay)
    (hspan : span ∈ splitAtMidnight date (f.timeAt p) (f.timeAt q)) :
    ∃ whole ∈ splitAtMidnight date (f.timeAt p') (f.timeAt q'), span.Within whole := by
  have hpart := timeAt_le_iff horigin (show 0 ≤ p by omega) hpq (by omega)
  have hwhole := timeAt_le_iff horigin hp (show p' ≤ q' by omega) hq
  have hstart := (timeAt_le_iff horigin hp hpp (by omega)).2 (by omega)
  have hfinish := timeAt_le_iff horigin (show 0 ≤ q by omega) hqq hq
  -- An uncut part may still be the evening of a whole that is cut; a cut part has a cut whole.
  rcases mem_splitAtMidnight.1 hspan with ⟨hle, rfl⟩ | ⟨hlt, rfl | ⟨next, hnext, rfl⟩⟩
  · rw [hpart] at hle
    by_cases hcut : f.timeAt p' ≤ f.timeAt q'
    · refine ⟨_, mem_splitAtMidnight.2 (.inl ⟨hcut, rfl⟩), rfl, hstart, hfinish.2 ?_⟩
      rw [hwhole] at hcut
      omega
    · refine ⟨_, mem_splitAtMidnight.2 (.inr ⟨not_le.1 hcut, .inl rfl⟩), rfl, hstart, ?_⟩
      exact TimeOfDay.le_dayEnd (isLeap_timeAt horigin q)
  · have hcut : f.timeAt q' < f.timeAt p' := by
      rw [← not_le, hpart] at hlt
      rw [← not_le, hwhole]
      omega
    exact ⟨_, mem_splitAtMidnight.2 (.inr ⟨hcut, .inl rfl⟩), rfl, hstart, le_refl _⟩
  · rw [← not_le, hpart] at hlt
    have hcut : f.timeAt q' < f.timeAt p' := by
      rw [← not_le, hwhole]
      omega
    refine ⟨_, mem_splitAtMidnight.2 (.inr ⟨hcut, .inr ⟨next, hnext, rfl⟩⟩), rfl, le_refl _, hfinish.2 ?_⟩
    omega

/-- A part that begins after midnight keeps the date; a day later it lies in the spans of the whole. -/
theorem exists_next_span_covering (horigin : f.origin.isLeap = false) (hp : 0 ≤ p') (hpq : p ≤ q)
    (hqq : q ≤ q') (hq : q' < nanosPerDay) (hwhole : f.origin.nanos + p' < nanosPerDay)
    (hafter : nanosPerDay ≤ f.origin.nanos + p) (hspan : span ∈ splitAtMidnight date (f.timeAt p) (f.timeAt q)) :
    span.date = date ∧ ∀ next, date.succ? = some next →
      ∃ whole ∈ splitAtMidnight date (f.timeAt p') (f.timeAt q'), DaySpan.Within { span with date := next } whole := by
  have hle : f.timeAt p ≤ f.timeAt q := (timeAt_le_iff horigin (by omega) hpq (by omega)).2 fun _ => hafter
  have hcut : f.timeAt q' < f.timeAt p' := by
    rw [← not_le, timeAt_le_iff horigin hp (by omega) hq]
    omega
  rcases mem_splitAtMidnight.1 hspan with ⟨-, rfl⟩ | ⟨hlt, -⟩
  · refine ⟨rfl, ?_⟩
    intro next hnext
    refine ⟨_, mem_splitAtMidnight.2 (.inr ⟨hcut, .inr ⟨next, hnext, rfl⟩⟩), rfl, ?_, ?_⟩
    · exact TimeOfDay.dayStart_le _
    · exact (timeAt_le_iff horigin (by omega) hqq hq).2 (by omega)
  · exact absurd hle (not_le.2 hlt)

end Frame

end Roster
