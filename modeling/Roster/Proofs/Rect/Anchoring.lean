import Roster.Proofs.Rect.Remaining
/-!
# The day on which the rest of a work is put

A change may move an end of a work out of the work, to either side, but by no more than half of what the work leaves of
a day (`Frame.position_bounds`). So the rest is always shorter than a day, and reducing its two ends to times of day,
each on its own, loses nothing: going forward from one to the other takes as long as the rest lasts
(`Frame.forwardTo_timeAt`), and the rects of the rest run through one interval of that length
(`Origin.runThrough_rects`).

What is lost is the day. The interval always begins on the date of the work, while the rest may begin before that date
or after it, on the day before or the day after. Then, and only then, it lies a day away from where it belongs
(`rest_keeps_length_on_date`).
-/

namespace Roster

/-- The instant so many nanoseconds after the midnight that begins the date, counted through all days. -/
def Date.instant (date : Date) (nanos : Int) : Int := date.dayNumber * nanosPerDay + nanos

theorem Date.instant_of_succ? {date next : Date} (hnext : date.succ? = some next) (nanos : Int) :
    next.instant nanos = date.instant (nanosPerDay + nanos) := by
  rw [instant, instant, dayNumber_of_succ? hnext]
  simp only [nanosPerDay]
  omega

/-! ### On the axis of the work -/

namespace Frame

variable {f : Frame}

/-- A time is placed on the side of the work that it is closer to, and behind the work if it is as close to both. -/
theorem position_bounds (horigin : f.origin.isLeap = false) (hlength : 0 ≤ f.length ∧ f.length < nanosPerDay)
    {t : TimeOfDay} (ht : t.isLeap = false) :
    f.length - nanosPerDay < 2 * f.position t ∧ 2 * f.position t ≤ f.length + nanosPerDay := by
  have hafter := TimeOfDay.forwardTo_bounds horigin ht
  unfold position
  dsimp only
  split
  · omega
  · split <;> omega

/-- Going forward from one time of a frame to a later one takes as long as on the axis. -/
theorem forwardTo_timeAt (horigin : f.origin.isLeap = false) {p q : Int} (hle : p ≤ q) (hlt : q - p < nanosPerDay) :
    (f.timeAt p).forwardTo (f.timeAt q) = q - p := by
  rw [TimeOfDay.forwardTo_eq (isLeap_timeAt horigin p) (isLeap_timeAt horigin q), nanos_timeAt horigin,
    nanos_timeAt horigin]
  simp only [nanosPerDay] at *
  omega

end Frame

namespace Work

variable {w : Work} {changes : List Change} (hstart : w.start.isLeap = false) (hfinish : w.finish.isLeap = false)
  (hchanges : ∀ c ∈ changes, c.boundary.isLeap = false)

include hstart hfinish hchanges

theorem remaining_bounds :
    (Frame.ofWork w).length - nanosPerDay < 2 * (w.remaining changes).1 ∧
      2 * (w.remaining changes).2 ≤ (Frame.ofWork w).length + nanosPerDay := by
  have hlength : 0 ≤ (Frame.ofWork w).length ∧ (Frame.ofWork w).length < nanosPerDay :=
    TimeOfDay.forwardTo_bounds hstart hfinish
  have hends := forall_remaining
    (P := fun p => (Frame.ofWork w).length - nanosPerDay < 2 * p ∧ 2 * p ≤ (Frame.ofWork w).length + nanosPerDay)
    (by omega) (by omega) fun c hc => Frame.position_bounds (f := Frame.ofWork w) hstart hlength (hchanges c hc)
  exact ⟨hends.1.1, hends.2.2⟩

theorem remaining_lt_day : (w.remaining changes).2 - (w.remaining changes).1 < nanosPerDay := by
  have hbounds := remaining_bounds hstart hfinish hchanges
  omega

/-- The rest begins at most a day from the date of the work. -/
theorem restBegins_bounds :
    -nanosPerDay ≤ w.start.nanos + (w.remaining changes).1 ∧
      w.start.nanos + (w.remaining changes).1 < 2 * nanosPerDay := by
  have hlength := TimeOfDay.forwardTo_bounds hstart hfinish
  have hbegins := TimeOfDay.nanos_bounds hstart
  have hbounds := remaining_bounds hstart hfinish hchanges
  have hle := w.remaining_le changes
  have hframe : (Frame.ofWork w).length = w.start.forwardTo w.finish := rfl
  omega

end Work

/-! ### On the calendar -/

/-- The rects run through all instants from one to another: a rect of its own within its day, or an evening that lasts
until the midnight that follows and the morning behind it. -/
inductive RunThrough : List Rect → Int → Int → Prop
  | whole (t : Rect) : RunThrough [t] (t.date.instant t.start.nanos) (t.date.instant t.finish.nanos)
  | cut {evening morning : Rect} (hdayEnd : evening.finish = .dayEnd) (hdayStart : morning.start = .dayStart)
      (hmidnight : morning.date.instant 0 = evening.date.instant nanosPerDay) :
      RunThrough [evening, morning] (evening.date.instant evening.start.nanos)
        (morning.date.instant morning.finish.nanos)

/-- An interval that has a following day to go on in is cut into rects that run through all of it. -/
theorem Origin.runThrough_rects (o : Origin) {date next : Date} (hnext : date.succ? = some next)
    {start finish : TimeOfDay} (hstart : start.isLeap = false) (hfinish : finish.isLeap = false) :
    RunThrough (o.rects date start finish) (date.instant start.nanos)
      (date.instant start.nanos + start.forwardTo finish) := by
  have hbegins := TimeOfDay.nanos_bounds hstart
  have hends := TimeOfDay.nanos_bounds hfinish
  rw [TimeOfDay.forwardTo_eq hstart hfinish, rects]
  rcases splitAtMidnight_cases date start finish with ⟨hle, h⟩ | ⟨hlt, next', hnext', h⟩ | ⟨-, hnone, -⟩
  · have hle := (TimeOfDay.nanos_le_iff hstart hfinish).2 hle
    have hlasts : date.instant start.nanos + (finish.nanos - start.nanos) % nanosPerDay =
        date.instant finish.nanos := by
      rw [Date.instant, Date.instant, Int.emod_eq_of_lt (by omega) (by omega)]
      omega
    rw [h, hlasts]
    exact .whole _
  · obtain rfl := Option.some.inj (hnext.symm.trans hnext')
    have hlt := (TimeOfDay.nanos_lt_iff hfinish hstart).2 hlt
    have hlasts : date.instant start.nanos + (finish.nanos - start.nanos) % nanosPerDay =
        next.instant finish.nanos := by
      rw [Date.instant_of_succ? hnext, Date.instant, Date.instant]
      simp only [nanosPerDay] at *
      omega
    rw [h, hlasts]
    exact .cut rfl rfl (Date.instant_of_succ? hnext 0)
  · rw [hnext] at hnone
    cases hnone

theorem Work.runThrough_remainingRects (w : Work) {changes : List Change} (hstart : w.start.isLeap = false)
    (hlt : (w.remaining changes).2 - (w.remaining changes).1 < nanosPerDay) {next : Date}
    (hnext : w.date.succ? = some next) :
    RunThrough (w.remainingRects changes)
      (w.date.instant ((w.start.nanos + (w.remaining changes).1) % nanosPerDay))
      (w.date.instant ((w.start.nanos + (w.remaining changes).1) % nanosPerDay) +
        ((w.remaining changes).2 - (w.remaining changes).1)) := by
  have horigin : (Frame.ofWork w).origin.isLeap = false := hstart
  have hruns := w.origin.runThrough_rects hnext (Frame.isLeap_timeAt horigin (w.remaining changes).1)
    (Frame.isLeap_timeAt horigin (w.remaining changes).2)
  rwa [Frame.forwardTo_timeAt horigin (w.remaining_le changes) hlt, Frame.nanos_timeAt horigin] at hruns

/-- The interval is that of the rest of the work, moved by so many nanoseconds. -/
def Work.Displaced (w : Work) (rest : Int × Int) (begins ends shift : Int) : Prop :=
  begins = w.date.instant (w.start.nanos + rest.1) + shift ∧ ends = w.date.instant (w.start.nanos + rest.2) + shift

/-- The interval is as long as the rest of the work and begins on the date of the work, at the time of day at which the
rest begins. It is where it belongs if that is a time of this date, and otherwise a day off. -/
structure Work.Anchored (w : Work) (rest : Int × Int) (begins ends : Int) : Prop where
  lasts : ends - begins = rest.2 - rest.1
  onDate : begins = w.date.instant ((w.start.nanos + rest.1) % nanosPerDay)
  inPlace : w.Displaced rest begins ends 0 ↔ 0 ≤ w.start.nanos + rest.1 ∧ w.start.nanos + rest.1 < nanosPerDay
  dayEarly : w.Displaced rest begins ends (-nanosPerDay) ↔ nanosPerDay ≤ w.start.nanos + rest.1
  dayLate : w.Displaced rest begins ends nanosPerDay ↔ w.start.nanos + rest.1 < 0
  noOther : ∀ shift, w.Displaced rest begins ends shift →
    shift = 0 ∨ shift = -nanosPerDay ∨ shift = nanosPerDay

theorem Work.anchored_of_bounds {w : Work} {rest : Int × Int} (hfirst : -nanosPerDay ≤ w.start.nanos + rest.1)
    (hlast : w.start.nanos + rest.1 < 2 * nanosPerDay) :
    w.Anchored rest (w.date.instant ((w.start.nanos + rest.1) % nanosPerDay))
      (w.date.instant ((w.start.nanos + rest.1) % nanosPerDay) + (rest.2 - rest.1)) := by
  constructor
  case lasts => omega
  case onDate => rfl
  all_goals
    simp only [Displaced, Date.instant, nanosPerDay] at *
    omega

/-- What remains of a work lasts less than a day, and its rects run through an interval of just that length on the date
of the work. -/
theorem rest_keeps_length_on_date {w : Work} {changes : List Change} (hstart : w.start.isLeap = false)
    (hfinish : w.finish.isLeap = false)
    (hchanges : ∀ c ∈ changes, c.work = w.id → c.start.isLeap = false ∧ c.finish.isLeap = false) :
    let rest := w.remaining (w.ownChanges changes)
    0 ≤ rest.2 - rest.1 ∧ rest.2 - rest.1 < nanosPerDay ∧
      ∀ next, w.date.succ? = some next →
        ∃ begins ends, RunThrough ((w.rects changes).filter fun t => t.kind = .work) begins ends ∧
          w.Anchored rest begins ends := by
  have hboundary : ∀ c ∈ w.ownChanges changes, c.boundary.isLeap = false := by
    intro c hc
    obtain ⟨hc, hwork⟩ := Work.mem_ownChanges.1 hc
    unfold Change.boundary
    split
    · exact (hchanges c hc hwork).2
    · exact (hchanges c hc hwork).1
  have hle := w.remaining_le (w.ownChanges changes)
  have hlt := Work.remaining_lt_day hstart hfinish hboundary
  have hbegins := Work.restBegins_bounds hstart hfinish hboundary
  refine ⟨by omega, hlt, ?_⟩
  intro next hnext
  have hruns := w.runThrough_remainingRects hstart hlt hnext
  rw [w.filter_rects_work]
  exact ⟨_, _, hruns, Work.anchored_of_bounds hbegins.1 hbegins.2⟩

/-- A night in the bakery, of which a replacement takes the hours until two in the morning. -/
def bakery : Work :=
  ⟨⟨"bakery", by decide⟩, ⟨"C25", by decide⟩, ⟨"S21", by decide⟩, ⟨2025, 7, 18, by decide⟩,
    .ofNanos (21 * 3600 * nanosPerSecond), .ofNanos (5 * 3600 * nanosPerSecond)⟩

def bakeryUntilTwo : Change :=
  ⟨⟨"oven cold", by decide⟩, ⟨"bakery", by decide⟩, .startReplacement, .ofNanos (21 * 3600 * nanosPerSecond),
    .ofNanos (2 * 3600 * nanosPerSecond), some ⟨"C26", by decide⟩⟩

/-- The three hours that are left belong to the following day. -/
theorem bakery_rest_lies_day_early :
    ∃ begins ends, RunThrough ((bakery.rects [bakeryUntilTwo]).filter fun t => t.kind = .work) begins ends ∧
      ends - begins = 3 * 3600 * nanosPerSecond ∧
      bakery.Displaced (bakery.remaining [bakeryUntilTwo]) begins ends (-nanosPerDay) := by
  obtain ⟨-, -, hruns⟩ := @rest_keeps_length_on_date bakery [bakeryUntilTwo] (by decide) (by decide) (by decide)
  obtain ⟨begins, ends, hrun, hanchored⟩ := hruns ⟨2025, 7, 19, by decide⟩ (by decide)
  have hlasts : (bakery.remaining (bakery.ownChanges [bakeryUntilTwo])).2 -
      (bakery.remaining (bakery.ownChanges [bakeryUntilTwo])).1 = 3 * 3600 * nanosPerSecond := by decide
  exact ⟨begins, ends, hrun, hanchored.lasts.trans hlasts, hanchored.dayEarly.2 (by decide)⟩

end Roster
