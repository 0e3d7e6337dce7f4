import Roster.Proofs.Rect.Entries
import Roster.Proofs.Report.Pass
import Roster.Proofs.Timeline.Overlap
import Roster.Report.Text
/-!
# The minutes of a collision and its bounds

Records of whole minutes have rects of whole minutes, for their positions on the axis of a work are whole minutes too
(`Frame.position_dvd`). The exception is the evening of an interval that is cut at midnight: it finishes at the end of the
day, which is shown as the midnight that follows and comes a nanosecond before it. Minutes are counted up to the time and
not up to what is shown, and a part of a minute is dropped, so the minutes of a collision are those between its bounds
unless it lasts to the end of the day, and then one less (`Collision.WholeMinutes.minutes_eq`).
-/

namespace Roster

open Text

/-- The minutes since midnight that a text of the form `HH:MM` stands for; midnight at the end of a day is `24:00`. -/
def minutesOf? (text : String) : Option Nat :=
  match text.toList with
  | [h, h', ':', m, m'] => some (value [h, h'] * 60 + value [m, m'])
  | _ => none

abbrev nanosPerMinute : Int := 60 * nanosPerSecond

namespace TimeOfDay

/-- The time has no seconds, nor a fraction of one. -/
structure WholeMinute (t : TimeOfDay) : Prop where
  second : t.second % 60 = 0
  fraction : t.fraction = 0

instance (t : TimeOfDay) : Decidable t.WholeMinute :=
  decidable_of_iff (t.second % 60 = 0 ∧ t.fraction = 0) ⟨fun h => ⟨h.1, h.2⟩, fun h => ⟨h.second, h.fraction⟩⟩

/-- Whole minutes, and the end of the day, which is shown as one. -/
def ShownWhole (t : TimeOfDay) : Prop := t.WholeMinute ∨ t = dayEnd

/-- The minutes since midnight that the time is shown as. -/
def shownMinutes (t : TimeOfDay) : Nat := if t = dayEnd then 1440 else t.second / 60

end TimeOfDay

/-- All times of the records are whole minutes. -/
structure RecordSet.WholeMinutes (r : RecordSet) : Prop where
  works : ∀ w ∈ r.works, w.start.WholeMinute ∧ w.finish.WholeMinute
  changes : ∀ c ∈ r.changes, c.start.WholeMinute ∧ c.finish.WholeMinute
  breaks : ∀ b ∈ r.breaks, b.start.WholeMinute ∧ b.finish.WholeMinute

structure Rect.WholeMinutes (t : Rect) : Prop where
  start : t.start.WholeMinute
  finish : t.finish.ShownWhole
  ordered : t.start ≤ t.finish

namespace Collision

structure WholeMinutes (c : Collision) : Prop where
  start : c.overlapStart.WholeMinute
  finish : c.overlapFinish.ShownWhole
  ordered : c.overlapStart ≤ c.overlapFinish

/-- The line of the collision ends with two bounds and the minutes between them, less one if the second is midnight. -/
def CountsMinutes (c : Collision) : Prop :=
  ∃ start finish : String, ∃ first last : Nat, ∃ n : Int,
    c.line = s!"{c.first.line} overlaps {c.second.line} at {start}-{finish} ({n} min)" ∧
      minutesOf? start = some first ∧ minutesOf? finish = some last ∧ first ≤ last ∧
        n = if finish = "24:00" then (last : Int) - first - 1 else last - first

end Collision

/-! ### Whole minutes -/

theorem minutesOf?_ofList {hour minute : Nat} (hhour : hour < 100) (hminute : minute < 100) :
    minutesOf? (String.ofList (columns 2 hour ++ ':' :: columns 2 minute)) = some (hour * 60 + minute) := by
  unfold minutesOf?
  rw [String.toList_ofList]
  show some (value (columns 2 hour) * 60 + value (columns 2 minute)) = _
  rw [value_columns hhour, value_columns hminute]

namespace TimeOfDay

variable {a b t : TimeOfDay}

theorem WholeMinute.isLeap_eq (h : t.WholeMinute) : t.isLeap = false := by
  rw [isLeap_eq_false_iff, h.fraction]
  decide

theorem wholeMinute_iff_dvd (ht : t.isLeap = false) : t.WholeMinute ↔ nanosPerMinute ∣ t.nanos := by
  rw [isLeap_eq_false_iff] at ht
  simp only [nanos, nanosPerMinute, nanosPerSecond]
  constructor
  · intro h
    have hsecond := h.second
    have hfraction := h.fraction
    omega
  · intro h
    constructor <;> omega

theorem WholeMinute.nanos_dvd (h : t.WholeMinute) : nanosPerMinute ∣ t.nanos := (wholeMinute_iff_dvd h.isLeap_eq).1 h

theorem WholeMinute.ne_dayEnd (h : t.WholeMinute) : t ≠ dayEnd := by
  rintro rfl
  exact absurd h (by decide)

theorem wholeMinute_dayStart : dayStart.WholeMinute := by decide

/-- Midnight is at a whole minute. -/
theorem emod_day_dvd {n : Int} (hn : nanosPerMinute ∣ n) : nanosPerMinute ∣ n % nanosPerDay := by
  have hday : nanosPerMinute ∣ nanosPerDay := by decide
  apply Int.dvd_of_emod_eq_zero
  rw [Int.emod_emod_of_dvd n hday, Int.emod_eq_zero_of_dvd hn]

theorem WholeMinute.forwardTo_dvd (ha : a.WholeMinute) (hb : b.WholeMinute) : nanosPerMinute ∣ a.forwardTo b := by
  rw [forwardTo_eq ha.isLeap_eq hb.isLeap_eq]
  exact emod_day_dvd (Int.dvd_sub hb.nanos_dvd ha.nanos_dvd)

end TimeOfDay

namespace Frame

variable {f : Frame}

theorem position_dvd (horigin : f.origin.WholeMinute) {t : TimeOfDay} (ht : t.WholeMinute) :
    nanosPerMinute ∣ f.position t := by
  have hafter := horigin.forwardTo_dvd ht
  have hday : nanosPerMinute ∣ nanosPerDay := by decide
  simp only [position]
  split
  · exact hafter
  · split
    · exact Int.dvd_sub hafter hday
    · exact hafter

theorem wholeMinute_timeAt (horigin : f.origin.WholeMinute) {p : Int} (hp : nanosPerMinute ∣ p) :
    (f.timeAt p).WholeMinute := by
  rw [TimeOfDay.wholeMinute_iff_dvd (isLeap_timeAt horigin.isLeap_eq p), nanos_timeAt horigin.isLeap_eq]
  exact TimeOfDay.emod_day_dvd (Int.dvd_add horigin.nanos_dvd hp)

end Frame

/-! ### Rects -/

theorem LaidOut.wholeMinutes {date : Date} {start finish : TimeOfDay} {group : List Rect}
    (h : LaidOut date start finish group) (hstart : start.WholeMinute) (hfinish : finish.WholeMinute) :
    ∀ t ∈ group, t.WholeMinutes := by
  intro t ht
  have hordered := h.ordered hstart.isLeap_eq t ht
  cases h with
  | whole _ _ hs hf =>
      obtain rfl := List.mem_singleton.1 ht
      exact ⟨hs ▸ hstart, .inl (hf ▸ hfinish), hordered⟩
  | cut _ _ hs hdayEnd _ hdayStart hf =>
      rcases List.mem_cons.1 ht with rfl | ht
      · exact ⟨hs ▸ hstart, .inr hdayEnd, hordered⟩
      · obtain rfl := List.mem_singleton.1 ht
        exact ⟨hdayStart ▸ TimeOfDay.wholeMinute_dayStart, .inl (hf ▸ hfinish), hordered⟩
  | last _ _ hs hdayEnd _ =>
      obtain rfl := List.mem_singleton.1 ht
      exact ⟨hs ▸ hstart, .inr hdayEnd, hordered⟩

namespace RecordSet.WholeMinutes

variable {r : RecordSet} (hr : r.WholeMinutes)

include hr

theorem boundary {c : Change} (hc : c ∈ r.changes) : c.boundary.WholeMinute := by
  obtain ⟨hstart, hfinish⟩ := hr.changes c hc
  unfold Change.boundary
  split
  · exact hfinish
  · exact hstart

theorem interval {e : Entry} (he : r.Holds e) :
    (e.interval r.changes).1.WholeMinute ∧ (e.interval r.changes).2.WholeMinute := by
  cases he with
  | change _ hc _ => exact hr.changes _ hc
  | «break» hb => exact hr.breaks _ hb
  | @work w hw =>
      obtain ⟨hstart, hfinish⟩ := hr.works w hw
      have hchanges : ∀ c ∈ w.ownChanges r.changes, nanosPerMinute ∣ (Frame.ofWork w).position c.boundary := by
        intro c hc
        exact Frame.position_dvd hstart (hr.boundary (Work.mem_ownChanges.1 hc).1)
      have hends := Work.forall_remaining (P := fun p => nanosPerMinute ∣ p) (Int.dvd_zero _)
        (hstart.forwardTo_dvd hfinish) hchanges
      exact hends.imp (Frame.wholeMinute_timeAt hstart) (Frame.wholeMinute_timeAt hstart)

theorem rects : ∀ t ∈ r.rects, t.WholeMinutes := by
  intro t ht
  rw [r.rects_eq_flatMap] at ht
  obtain ⟨e, he, ht⟩ := List.mem_flatMap.1 ht
  obtain ⟨hstart, hfinish⟩ := hr.interval (RecordSet.mem_entries.1 he)
  exact (e.laysOut_rects r.changes).wholeMinutes hstart hfinish t ht

end RecordSet.WholeMinutes

/-! ### Collisions -/

namespace TimeOfDay

variable {a b t : TimeOfDay}

theorem WholeMinute.later (ha : a.WholeMinute) (hb : b.WholeMinute) : (a.later b).WholeMinute := by
  unfold TimeOfDay.later
  split <;> assumption

theorem ShownWhole.earlier (ha : a.ShownWhole) (hb : b.ShownWhole) : (a.earlier b).ShownWhole := by
  unfold TimeOfDay.earlier
  split <;> assumption

theorem WholeMinute.shownMinutes_eq (h : t.WholeMinute) : t.shownMinutes = t.second / 60 := if_neg h.ne_dayEnd

theorem WholeMinute.nanos_eq (h : t.WholeMinute) : t.nanos = t.shownMinutes * nanosPerMinute := by
  have hsecond := h.second
  rw [h.shownMinutes_eq, nanos, h.fraction]
  simp only [nanosPerMinute, nanosPerSecond]
  omega

theorem ShownWhole.isLeap_eq (h : t.ShownWhole) : t.isLeap = false := by
  rcases h with h | rfl
  · exact h.isLeap_eq
  · rfl

theorem WholeMinute.minutesOf?_display (h : t.WholeMinute) : minutesOf? t.display = some t.shownMinutes := by
  have hsecond := t.second_lt
  rw [display, if_neg h.ne_dayEnd, if_pos ⟨h.second, h.fraction⟩, minutesOf?_ofList (by omega) (by omega),
    h.shownMinutes_eq]
  congr 1
  omega

theorem ShownWhole.minutesOf?_display (h : t.ShownWhole) : minutesOf? t.display = some t.shownMinutes := by
  rcases h with h | rfl
  · exact h.minutesOf?_display
  · decide

theorem ShownWhole.display_eq_iff (h : t.ShownWhole) : t.display = "24:00" ↔ t = dayEnd := by
  constructor
  · intro hdisplay
    refine h.resolve_left fun hwhole => ?_
    have hminutes := hwhole.minutesOf?_display
    have hmidnight : minutesOf? "24:00" = some 1440 := by decide
    have hsecond := t.second_lt
    rw [hdisplay, hmidnight, Option.some.injEq, hwhole.shownMinutes_eq] at hminutes
    omega
  · rintro rfl
    rfl

end TimeOfDay

namespace Collision

theorem wholeMinutes_ofRects {a b : Rect} (ha : a.WholeMinutes) (hb : b.WholeMinutes) (h : a.Overlaps b) :
    (ofRects a b).WholeMinutes where
  start := ha.start.later hb.start
  finish := ha.finish.earlier hb.finish
  ordered := (genuine_ofRects ha.ordered hb.ordered h).ordered

namespace WholeMinutes

variable {c : Collision}

theorem overlap_eq (h : c.WholeMinutes) : c.overlap = c.overlapFinish.nanos - c.overlapStart.nanos := by
  unfold overlap
  split
  · rename_i hle
    rw [le_antisymm hle h.ordered, Int.sub_self]
  · exact TimeOfDay.since_eq h.finish.isLeap_eq h.start.isLeap_eq

/-- Up to the end of the day, the last minute is not counted. -/
theorem minutes_eq (h : c.WholeMinutes) :
    c.minutes = c.overlapFinish.shownMinutes - c.overlapStart.shownMinutes -
      if c.overlapFinish = .dayEnd then 1 else 0 := by
  have hstart := h.start.nanos_eq
  rw [minutes, Int.tdiv_eq_ediv_of_nonneg c.overlap_nonneg, h.overlap_eq, hstart]
  rcases h.finish with hfinish | hfinish
  · rw [hfinish.nanos_eq, if_neg hfinish.ne_dayEnd]
    simp only [nanosPerMinute, nanosPerSecond]
    omega
  · have hminutes : TimeOfDay.dayEnd.shownMinutes = 1440 := if_pos rfl
    rw [hfinish, TimeOfDay.nanos_dayEnd, hminutes, if_pos rfl]
    simp only [nanosPerMinute, nanosPerSecond, nanosPerDay]
    omega

theorem shownMinutes_le (h : c.WholeMinutes) : c.overlapStart.shownMinutes ≤ c.overlapFinish.shownMinutes := by
  have hle := (TimeOfDay.nanos_le_iff h.start.isLeap_eq h.finish.isLeap_eq).2 h.ordered
  rw [h.start.nanos_eq] at hle
  rcases h.finish with hfinish | hfinish
  · rw [hfinish.nanos_eq] at hle
    exact Int.ofNat_le.1 (Int.le_of_mul_le_mul_right hle (by decide))
  · have hsecond := c.overlapStart.second_lt
    rw [hfinish, h.start.shownMinutes_eq, TimeOfDay.shownMinutes, if_pos rfl]
    omega

theorem countsMinutes (h : c.WholeMinutes) : c.CountsMinutes := by
  refine ⟨_, _, _, _, c.minutes, ?_, h.start.minutesOf?_display, h.finish.minutesOf?_display, h.shownMinutes_le, ?_⟩
  · simp only [line, String.append_assoc]
  · rw [h.minutes_eq]
    simp only [h.finish.display_eq_iff]
    split <;> omega

end WholeMinutes

end Collision

/-! ### Reports -/

namespace Report

theorem collisions_wholeMinutes {r : RecordSet} (hr : r.WholeMinutes) {run : String} {w : Window} {d : DayCollisions}
    (hd : d ∈ (ofRecords run w false r).days) {c : Collision} (hc : c ∈ d.collisions) : c.WholeMinutes := by
  obtain ⟨hcollisions, -⟩ := (mem_days run w r).1 hd
  rw [hcollisions, collisionsAmong_eq] at hc
  obtain ⟨⟨a, b⟩, hab, rfl⟩ := List.mem_map.1 hc
  obtain ⟨ha, hb, hcollides⟩ := mem_of_mem_pairsAmong hab
  have hrects : ∀ t ∈ (w.covered r.rects).filter fun s => s.clientDay = d.clientDay, t.WholeMinutes := fun t ht =>
    hr.rects t (List.mem_filter.1 (List.mem_filter.1 ht).1).1
  exact Collision.wholeMinutes_ofRects (hrects a ha) (hrects b hb) (of_decide_eq_true hcollides).2.2.2

/-- Every collision of a report stands on a line of its own. -/
theorem exists_text_eq {r : Report} {d : DayCollisions} (hd : d ∈ r.days) {c : Collision} (hc : c ∈ d.collisions) :
    ∃ before after, r.text = Roster.lines (before ++ ("  " ++ c.line) :: after) := by
  have hline : "  " ++ c.line ∈ d.lines := List.mem_cons_of_mem _ (List.mem_map_of_mem hc)
  have hdays : r.isClean = false := List.isEmpty_eq_false_iff.2 (List.ne_nil_of_mem hd)
  have hlines : "  " ++ c.line ∈ r.days.flatMap DayCollisions.lines := List.mem_flatMap.2 ⟨d, hd, hline⟩
  suffices hmem : ∃ all, r.text = Roster.lines all ∧ "  " ++ c.line ∈ all by
    obtain ⟨all, htext, hmem⟩ := hmem
    obtain ⟨before, after, rfl⟩ := List.append_of_mem hmem
    exact ⟨before, after, htext⟩
  refine ⟨_, rfl, List.mem_append_right _ ?_⟩
  rwa [hdays, if_neg Bool.false_ne_true]

end Report

/-- In the printed report of records of whole minutes, the minutes of a collision are those between its bounds, less one
if it lasts to midnight. -/
theorem collision_minutes_miss_last_before_midnight {r : RecordSet} (hr : r.WholeMinutes) (run : String) (w : Window) :
    ∃ report, recompute r.source (Sink.writing .text) .never run w "" = (report.text, .ok report) ∧
      ∀ d ∈ report.days, ∀ c ∈ d.collisions, c.CountsMinutes ∧
        ∃ before after, report.text = Roster.lines (before ++ ("  " ++ c.line) :: after) := by
  refine ⟨Report.ofRecords run w false r, ?_, fun d hd c hc => ⟨?_, Report.exists_text_eq hd hc⟩⟩
  · have hpublish : ("" ++ (Report.ofRecords run w false r).text) = (Report.ofRecords run w false r).text :=
      String.empty_append
    show (_, Except.ok _) = _
    rw [← hpublish]
    rfl
  · exact (Report.collisions_wholeMinutes hr hd hc).countsMinutes

/-- Three works of one client, two of which last to midnight. -/
def tugNight : RecordSet :=
  ⟨[⟨⟨"tug", by decide⟩, ⟨"C36", by decide⟩, ⟨"S30", by decide⟩, ⟨2025, 10, 24, by decide⟩,
      .ofNanos (20 * 3600 * nanosPerSecond), .ofNanos 0⟩,
    ⟨⟨"barge", by decide⟩, ⟨"C36", by decide⟩, ⟨"S31", by decide⟩, ⟨2025, 10, 24, by decide⟩,
      .ofNanos (22 * 3600 * nanosPerSecond), .ofNanos 0⟩,
    ⟨⟨"launch", by decide⟩, ⟨"C36", by decide⟩, ⟨"S30", by decide⟩, ⟨2025, 10, 24, by decide⟩,
      .ofNanos (20 * 3600 * nanosPerSecond), .ofNanos (21 * 3600 * nanosPerSecond)⟩], [], []⟩

def tugDay : Window := ⟨⟨2025, 10, 24, by decide⟩, ⟨2025, 10, 24, by decide⟩, none, by decide⟩

theorem tugNight_counts_minutes :
    tugNight.WholeMinutes ∧
      ∃ report, recompute tugNight.source (Sink.writing .text) .never "R2" tugDay "" = (report.text, .ok report) ∧
        ∀ d ∈ report.days, ∀ c ∈ d.collisions, c.CountsMinutes ∧
          ∃ before after, report.text = Roster.lines (before ++ ("  " ++ c.line) :: after) := by
  have hminutes : tugNight.WholeMinutes := ⟨by decide, by decide, by decide⟩
  exact ⟨hminutes, collision_minutes_miss_last_before_midnight hminutes "R2" tugDay⟩

/-- Of the two hours before midnight one minute is missing, of the hour before them none. -/
theorem tugNight_misses_a_minute :
    tugNight.WholeMinutes ∧ minutesOf? "22:00" = some 1320 ∧ minutesOf? "24:00" = some 1440 ∧
      (recompute tugNight.source (Sink.writing .text) .never "R2" tugDay "").1 = Roster.lines
        ["Run R2", "Window: 2025-10-24 to 2025-10-24 (all clients)", "Checked 1 timeline, 3 rects from 3 records",
          "C36 2025-10-24: 2 collisions",
          "  20:00-24:00 work tug overlaps 22:00-24:00 work barge at 22:00-24:00 (119 min)",
          "  20:00-24:00 work tug overlaps 20:00-21:00 work launch at 20:00-21:00 (60 min)"] := by
  refine ⟨⟨by decide, by decide, by decide⟩, by decide, by decide, ?_⟩
  decide +kernel

end Roster
