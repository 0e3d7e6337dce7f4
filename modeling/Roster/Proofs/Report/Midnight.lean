import Roster.Proofs.Rect.Build
import Roster.Proofs.Report.DoubleBooking
/-!
# Cutting works at midnight keeps what overlaps

A work occupies an interval of nanoseconds on an axis that runs through all days (`Work.Occupies`). Rects know only
their own day, and the first half of a work that is cut ends a nanosecond before midnight. Still, works without changes
collide on some day of the report exactly if their intervals have an instant in common
(`reports_collision_iff_occupy`).

The spans of a work come in three forms (`splitAtMidnight_cases`): one span; two spans on neighbouring days; or, on the
last date there is, the first half alone. Written as numbers of days and nanoseconds, each pair of forms is settled by
arithmetic (`spans_meet_iff`). What the first half lacks at its end never matters: neither work starts there, and a
finish in the last nanosecond of a day belongs to a work that does not go on past it.
-/

namespace Roster

/-- The instant at which a work starts, counted in nanoseconds through all days. -/
def Work.begins (w : Work) : Int := w.date.dayNumber * nanosPerDay + w.start.nanos

/-- How long a work lasts, going forward around the clock. -/
def Work.lasts (w : Work) : Int := (w.finish.nanos - w.start.nanos) % nanosPerDay

/-- The work is under way at an instant. -/
def Work.Occupies (w : Work) (instant : Int) : Prop := w.begins ≤ instant ∧ instant < w.begins + w.lasts

/-- One rect of the collision comes from the one work, the other from the other work. -/
def Collision.Joins (c : Collision) (a b : Work) : Prop :=
  c.first.source = a.id.toSource ∧ c.second.source = b.id.toSource ∨
    c.first.source = b.id.toSource ∧ c.second.source = a.id.toSource

/-- The date lies in the window, whichever client it reports on. -/
def Window.Contains (w : Window) (date : Date) : Prop := w.first ≤ date ∧ date ≤ w.last

instance (w : Window) (date : Date) : Decidable (w.Contains date) := by
  unfold Window.Contains; infer_instance

/-- Both days that a work of the date may run on lie in the window, where there is a following day. -/
def Window.ContainsNight (w : Window) (date : Date) : Prop :=
  w.Contains date ∧ ∀ next ∈ date.succ?, w.Contains next

instance (w : Window) (date : Date) : Decidable (w.ContainsNight date) := by
  unfold Window.ContainsNight; infer_instance

/-! ### Collisions of a report as pairs of rects -/

theorem Window.coversRect_of_clientDay_eq (w : Window) {r s : Rect} (hday : r.clientDay = s.clientDay)
    (hcovers : w.CoversRect r) : w.CoversRect s := by
  obtain ⟨hclient, hdate⟩ := Rect.clientDay_eq_iff.1 hday
  rw [CoversRect, hclient, hdate] at hcovers
  exact hcovers

namespace Report

theorem exists_collision_iff (run : String) (w : Window) (r : RecordSet) (p : Collision → Prop) :
    (∃ d ∈ (ofRecords run w false r).days, ∃ c ∈ d.collisions, p c) ↔
      ∃ i j, DoubleBooked r.rects w i j ∧ p (Collision.ofRects (r.rects.get i) (r.rects.get j)) := by
  constructor
  · intro h
    obtain ⟨d, hd, c, hc, hp⟩ := h
    obtain ⟨places, -, hmem, hcollisions⟩ := listsPlaces_of_mem_days run w r hd
    rw [hcollisions] at hc
    obtain ⟨⟨i, j⟩, hij, rfl⟩ := List.mem_map.1 hc
    exact ⟨i, j, ((hmem i j).1 hij).1, hp⟩
  · intro h
    obtain ⟨i, j, hij, hp⟩ := h
    obtain ⟨d, hd, hday⟩ := exists_day_of_doubleBooked run w r hij
    obtain ⟨places, -, hmem, hcollisions⟩ := listsPlaces_of_mem_days run w r hd
    refine ⟨d, hd, _, ?_, hp⟩
    rw [hcollisions]
    exact List.mem_map.2 ⟨(i, j), (hmem i j).2 ⟨hij, hday.symm⟩, rfl⟩

/-- Two works are joined by a collision of the report exactly if rects of theirs collide on a covered day. -/
theorem exists_joins_iff (run : String) (w : Window) {r : RecordSet} (hdistinct : (r.works.map Work.id).Nodup)
    {a b : Work} (ha : a ∈ r.works) (hb : b ∈ r.works) :
    (∃ d ∈ (ofRecords run w false r).days, ∃ c ∈ d.collisions, c.Joins a b) ↔
      ∃ s ∈ a.rects r.changes, ∃ t ∈ b.rects r.changes, s.clientDay = t.clientDay ∧ w.CoversRect s ∧
        s.CollidesWith t := by
  rw [exists_collision_iff]
  constructor
  · intro h
    obtain ⟨i, j, hij, hjoins⟩ := h
    obtain ⟨-, hday, hcovers, hcollide⟩ := doubleBooked_iff.1 hij
    have hi : r.rects.get i ∈ r.rects := List.get_mem _ i
    have hj : r.rects.get j ∈ r.rects := List.get_mem _ j
    rcases hjoins with ⟨hfirst, hsecond⟩ | ⟨hfirst, hsecond⟩
    · refine ⟨_, RecordSet.mem_work_rects hdistinct ha hi hfirst hij.kind_ne_left, _,
        RecordSet.mem_work_rects hdistinct hb hj hsecond hij.kind_ne_right, hday, hcovers, hcollide⟩
    · refine ⟨_, RecordSet.mem_work_rects hdistinct ha hj hsecond hij.kind_ne_right, _,
        RecordSet.mem_work_rects hdistinct hb hi hfirst hij.kind_ne_left, hday.symm, ?_,
        Rect.collidesWith_comm.1 hcollide⟩
      exact w.coversRect_of_clientDay_eq hday hcovers
  · intro h
    obtain ⟨s, hs, t, ht, hday, hcovers, hcollide⟩ := h
    have hsource := (Work.source_of_mem_rects hs).1
    have hsource' := (Work.source_of_mem_rects ht).1
    obtain ⟨i, rfl⟩ := List.mem_iff_get.1 (RecordSet.rects_of_mem_works ha hs)
    obtain ⟨j, rfl⟩ := List.mem_iff_get.1 (RecordSet.rects_of_mem_works hb ht)
    rcases lt_trichotomy i j with hij | rfl | hij
    · exact ⟨i, j, doubleBooked_iff.2 ⟨hij, hday, hcovers, hcollide⟩, .inl ⟨hsource, hsource'⟩⟩
    · exact absurd rfl hcollide.2.2.1
    · refine ⟨j, i, doubleBooked_iff.2 ⟨hij, hday.symm, ?_, Rect.collidesWith_comm.1 hcollide⟩,
        .inr ⟨hsource', hsource⟩⟩
      exact w.coversRect_of_clientDay_eq hday hcovers

end Report

/-! ### The spans of a work as numbers -/

/-- Two spans lie on one date and overlap. -/
def DaySpan.Meets (a b : DaySpan) : Prop := a.date = b.date ∧ a.start < b.finish ∧ b.start < a.finish

/-- The day and the nanoseconds at which a span starts and finishes. -/
def DaySpan.numbers (s : DaySpan) : Int × Int × Int := (s.date.dayNumber, s.start.nanos, s.finish.nanos)

theorem DaySpan.numbers_mk (date : Date) (start finish : TimeOfDay) :
    (⟨date, start, finish⟩ : DaySpan).numbers = (date.dayNumber, start.nanos, finish.nanos) := rfl

def Work.spans (w : Work) : List DaySpan := splitAtMidnight w.date w.start w.finish

/-- No time is a leap second. -/
structure DaySpan.Plain (s : DaySpan) : Prop where
  start : s.start.isLeap = false
  finish : s.finish.isLeap = false

theorem DaySpan.meets_iff {s t : DaySpan} (hs : s.Plain) (ht : t.Plain) :
    s.Meets t ↔ s.date.dayNumber = t.date.dayNumber ∧ s.start.nanos < t.finish.nanos ∧
      t.start.nanos < s.finish.nanos := by
  rw [Meets, Date.dayNumber_inj, TimeOfDay.nanos_lt_iff hs.start ht.finish, TimeOfDay.nanos_lt_iff ht.start hs.finish]

/-- The work has a length, and its times are neither leap seconds nor, for its start, the last nanosecond of the day. -/
structure Work.Plain (w : Work) : Prop where
  start : w.start.isLeap = false
  finish : w.finish.isLeap = false
  start_ne_finish : w.start ≠ w.finish
  start_ne_dayEnd : w.start ≠ .dayEnd

namespace Work.Plain

variable {w : Work}

theorem plain_spans (hw : w.Plain) : ∀ s ∈ w.spans, s.Plain := by
  rcases splitAtMidnight_cases w.date w.start w.finish with ⟨-, h⟩ | ⟨-, next, -, h⟩ | ⟨-, -, h⟩ <;>
    simp only [spans, h, List.forall_mem_cons, List.not_mem_nil, false_imp_iff, implies_true, and_true]
  · exact ⟨hw.start, hw.finish⟩
  · exact ⟨⟨hw.start, rfl⟩, rfl, hw.finish⟩
  · exact ⟨hw.start, rfl⟩

theorem bounds (hw : w.Plain) :
    0 ≤ w.start.nanos ∧ w.start.nanos < nanosPerDay - 1 ∧ 0 ≤ w.finish.nanos ∧ w.finish.nanos < nanosPerDay ∧
      w.start.nanos ≠ w.finish.nanos := by
  have hstart := TimeOfDay.nanos_bounds hw.start
  have hfinish := TimeOfDay.nanos_bounds hw.finish
  have hne := mt (TimeOfDay.nanos_inj hw.start hw.finish).1 hw.start_ne_finish
  have hend := mt (TimeOfDay.nanos_inj hw.start (show TimeOfDay.dayEnd.isLeap = false from rfl)).1 hw.start_ne_dayEnd
  rw [TimeOfDay.nanos_dayEnd] at hend
  omega

theorem lasts_of_lt (hw : w.Plain) (h : w.start.nanos < w.finish.nanos) :
    w.lasts = w.finish.nanos - w.start.nanos := by
  have := hw.bounds
  exact Int.emod_eq_of_lt (by omega) (by omega)

theorem lasts_of_gt (hw : w.Plain) (h : w.finish.nanos < w.start.nanos) :
    w.lasts = w.finish.nanos - w.start.nanos + nanosPerDay := by
  have := hw.bounds
  rw [lasts, ← Int.add_emod_right]
  exact Int.emod_eq_of_lt (by omega) (by omega)

/-- The three forms in numbers, and how long the work lasts in each. -/
theorem numbers_cases (hw : w.Plain) :
    (w.start.nanos < w.finish.nanos ∧ w.lasts = w.finish.nanos - w.start.nanos ∧
      w.spans.map DaySpan.numbers = [(w.date.dayNumber, w.start.nanos, w.finish.nanos)]) ∨
    (w.finish.nanos < w.start.nanos ∧ w.lasts = w.finish.nanos - w.start.nanos + nanosPerDay ∧
      w.spans.map DaySpan.numbers =
        [(w.date.dayNumber, w.start.nanos, nanosPerDay - 1), (w.date.dayNumber + 1, 0, w.finish.nanos)]) ∨
    (w.finish.nanos < w.start.nanos ∧ w.lasts = w.finish.nanos - w.start.nanos + nanosPerDay ∧
      (∀ other : Date, other.dayNumber ≤ w.date.dayNumber) ∧
      w.spans.map DaySpan.numbers = [(w.date.dayNumber, w.start.nanos, nanosPerDay - 1)]) := by
  have hbounds := hw.bounds
  rcases splitAtMidnight_cases w.date w.start w.finish with ⟨hle, h⟩ | ⟨hlt, next, hnext, h⟩ | ⟨hlt, hnone, h⟩
  · have hle := (TimeOfDay.nanos_le_iff hw.start hw.finish).2 hle
    refine .inl ⟨by omega, hw.lasts_of_lt (by omega), ?_⟩
    rw [spans, h, List.map_singleton, DaySpan.numbers_mk]
  · have hlt := (TimeOfDay.nanos_lt_iff hw.finish hw.start).2 hlt
    refine .inr (.inl ⟨hlt, hw.lasts_of_gt hlt, ?_⟩)
    rw [spans, h, List.map_cons, List.map_singleton, DaySpan.numbers_mk, DaySpan.numbers_mk,
      Date.dayNumber_of_succ? hnext,
      TimeOfDay.nanos_dayEnd, TimeOfDay.nanos_dayStart]
  · have hlt := (TimeOfDay.nanos_lt_iff hw.finish hw.start).2 hlt
    have hlast : ∀ other : Date, other.dayNumber ≤ w.date.dayNumber := fun other =>
      Date.dayNumber_le_iff.2 (Date.le_of_succ?_eq_none hnone other)
    refine .inr (.inr ⟨hlt, hw.lasts_of_gt hlt, hlast, ?_⟩)
    rw [spans, h, List.map_singleton, DaySpan.numbers_mk, TimeOfDay.nanos_dayEnd]

end Work.Plain

/-- Two works have an instant in common exactly if two of their spans overlap on one date. -/
theorem spans_meet_iff {a b : Work} (ha : a.Plain) (hb : b.Plain) :
    (∃ s ∈ a.spans, ∃ t ∈ b.spans, s.Meets t) ↔ ∃ n, a.Occupies n ∧ b.Occupies n := by
  have hmeets : (∃ s ∈ a.spans, ∃ t ∈ b.spans, s.Meets t) ↔
      ∃ x ∈ a.spans.map DaySpan.numbers, ∃ y ∈ b.spans.map DaySpan.numbers,
        x.1 = y.1 ∧ x.2.1 < y.2.2 ∧ y.2.1 < x.2.2 := by
    simp only [List.mem_map, exists_exists_and_eq_and]
    refine exists_congr fun s => and_congr_right fun hs => exists_congr fun t => and_congr_right fun ht => ?_
    exact DaySpan.meets_iff (ha.plain_spans s hs) (hb.plain_spans t ht)
  have hinstant : (∃ n, a.Occupies n ∧ b.Occupies n) ↔
      a.begins < b.begins + b.lasts ∧ b.begins < a.begins + a.lasts ∧ 0 < a.lasts ∧ 0 < b.lasts := by
    unfold Work.Occupies
    constructor
    · intro h
      obtain ⟨n, han, hbn⟩ := h
      omega
    · intro h
      obtain ⟨hab, hba, halasts, hblasts⟩ := h
      exact ⟨max a.begins b.begins, by omega, by omega⟩
  have habounds := ha.bounds
  have hbbounds := hb.bounds
  rw [hmeets, hinstant, Work.begins, Work.begins]
  rcases ha.numbers_cases with ⟨halt, halasts, has⟩ | ⟨halt, halasts, has⟩ | ⟨halt, halasts, hlast, has⟩ <;>
    rcases hb.numbers_cases with ⟨hblt, hblasts, hbs⟩ | ⟨hblt, hblasts, hbs⟩ | ⟨hblt, hblasts, hlast', hbs⟩ <;>
    simp only [has, hbs, halasts, hblasts, List.mem_cons, List.not_mem_nil, or_false, exists_eq_or_imp, exists_eq_left,
      nanosPerDay] at *
  · omega
  · omega
  · have := hlast' a.date
    omega
  · omega
  · omega
  · have := hlast' a.date
    omega
  · have := hlast b.date
    omega
  · have := hlast b.date
    omega
  · have := hlast b.date
    have := hlast' a.date
    omega

/-! ### Spans as rects -/

theorem Window.contains_of_fallsOn {w : Window} {date day : Date} (hnight : w.ContainsNight date)
    (hday : date.FallsOn day) : w.Contains day := by
  rcases hday with rfl | hnext
  · exact hnight.1
  · exact hnight.2 day hnext

/-- Among works without changes, colliding rects on a covered day are spans that overlap on one date. -/
theorem exists_colliding_rects_iff {w : Window} (hclient : w.client = none) {a b : Work} (hid : a.id ≠ b.id)
    (hsame : a.client = b.client) (hnight : w.ContainsNight a.date) :
    (∃ s ∈ a.origin.rects a.date a.start a.finish, ∃ t ∈ b.origin.rects b.date b.start b.finish,
        s.clientDay = t.clientDay ∧ w.CoversRect s ∧ s.CollidesWith t) ↔
      ∃ s ∈ a.spans, ∃ t ∈ b.spans, s.Meets t := by
  have hsource : a.id.toSource ≠ b.id.toSource := mt Ident.toSource_inj.1 hid
  have hcovers : ∀ s ∈ a.spans, w.CoversRect (a.origin.rect s) := by
    intro s hs
    obtain ⟨hfirst, hlast⟩ := Window.contains_of_fallsOn hnight (fallsOn_of_mem_splitAtMidnight hs)
    refine ⟨hfirst, hlast, ?_⟩
    rw [hclient]
    exact fun _ hc => nomatch hc
  simp only [Origin.rects, List.mem_map, exists_exists_and_eq_and]
  refine exists_congr fun s => and_congr_right fun hs => exists_congr fun t => and_congr_right fun _ => ?_
  rw [Rect.clientDay_eq_iff]
  constructor
  · intro h
    obtain ⟨⟨-, hdate⟩, -, -, -, -, hoverlap⟩ := h
    exact ⟨hdate, hoverlap⟩
  · intro h
    obtain ⟨hdate, hoverlap⟩ := h
    exact ⟨⟨hsame, hdate⟩, hcovers s hs, rfl, rfl, hsource, hoverlap⟩

/-- Two works without changes collide on some day of the report exactly if their intervals have an instant in common. -/
theorem reports_collision_iff_occupy {r : RecordSet} {w : Window} {a b : Work}
    (hdistinct : (r.works.map Work.id).Nodup) (ha : a ∈ r.works) (hb : b ∈ r.works) (hid : a.id ≠ b.id)
    (hsame : a.client = b.client) (hchanges : ∀ c ∈ r.changes, c.work ≠ a.id ∧ c.work ≠ b.id)
    (hplain : a.Plain) (hplain' : b.Plain) (hclient : w.client = none) (hnight : w.ContainsNight a.date)
    (run : String) (taken : List Report) :
    ∃ report : Report,
      recompute r.source Sink.collecting .never run w taken = (taken ++ [report], .ok report) ∧
      ((∃ d ∈ report.days, ∃ c ∈ d.collisions, c.Joins a b) ↔ ∃ n, a.Occupies n ∧ b.Occupies n) := by
  refine ⟨Report.ofRecords run w false r, recompute_collecting rfl .never run taken, ?_⟩
  have hrects := Work.rects_of_unchanged hplain.start hplain.finish fun c hc => (hchanges c hc).1
  have hrects' := Work.rects_of_unchanged hplain'.start hplain'.finish fun c hc => (hchanges c hc).2
  rw [Report.exists_joins_iff run w hdistinct ha hb, hrects, hrects',
    exists_colliding_rects_iff hclient hid hsame hnight, spans_meet_iff hplain hplain']

/-- A night shift that runs into the morning of the next day. -/
def nightShift : Work :=
  ⟨⟨"W1", by decide⟩, ⟨"C1", by decide⟩, ⟨"night", by decide⟩, ⟨2024, 1, 31, by decide⟩,
    .ofNanos (22 * 3600 * nanosPerSecond), .ofNanos (6 * 3600 * nanosPerSecond)⟩

/-- A shift of the same client that starts before the night shift is over. -/
def earlyShift : Work :=
  ⟨⟨"W2", by decide⟩, ⟨"C1", by decide⟩, ⟨"early", by decide⟩, ⟨2024, 2, 1, by decide⟩,
    .ofNanos (5 * 3600 * nanosPerSecond), .ofNanos (12 * 3600 * nanosPerSecond)⟩

def monthTurn : Window := ⟨⟨2024, 1, 31, by decide⟩, ⟨2024, 2, 2, by decide⟩, none, by decide⟩

theorem nightShift_joins_earlyShift :
    ∃ report : Report,
      recompute (⟨[nightShift, earlyShift], [], []⟩ : RecordSet).source Sink.collecting .never "R" monthTurn [] =
        ([report], .ok report) ∧
      ∃ d ∈ report.days, ∃ c ∈ d.collisions, c.Joins nightShift earlyShift := by
  obtain ⟨report, hreport, hjoins⟩ := reports_collision_iff_occupy (r := ⟨[nightShift, earlyShift], [], []⟩)
    (w := monthTurn) (a := nightShift) (b := earlyShift) (by decide) (by decide) (by decide) (by decide) (by decide)
    (by decide) ⟨by decide, by decide, by decide, by decide⟩ ⟨by decide, by decide, by decide, by decide⟩ rfl
    (by decide) "R" []
  refine ⟨report, hreport, hjoins.2 ⟨earlyShift.begins, ?_, ?_⟩⟩
  · unfold Work.Occupies
    decide
  · unfold Work.Occupies
    decide

end Roster
