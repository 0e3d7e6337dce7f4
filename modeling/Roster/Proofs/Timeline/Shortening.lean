import Roster.Proofs.Rect.Remaining
import Roster.Proofs.Timeline.Collisions
/-!
# Shortening a work and its collisions

Changes that only shorten a work leave a rest of it that collides with nothing that the whole work would not collide
with, as long as the rest begins before midnight (`shortened_work_collides_as_whole`). The rest of a night's work may
also begin after midnight. It keeps the date of the work even so, a day before the part of the work that it is, and may
collide there with what the whole work is clear of (`lateStart_collides_only_shortened`).
-/

namespace Roster

namespace RecordSet

/-- The same records, but for the changes of one work. -/
def withoutChanges (r : RecordSet) (w : Work) : RecordSet :=
  ⟨r.works, r.changes.filter fun c => c.work ≠ w.id, r.breaks⟩

variable {r : RecordSet} {w : Work}

theorem work_ne_of_mem_withoutChanges {c : Change} (hc : c ∈ (r.withoutChanges w).changes) : c.work ≠ w.id :=
  of_decide_eq_true (List.mem_filter.1 hc).2

theorem rects_withoutChanges_of_ne {v : Work} (hv : v.id ≠ w.id) :
    v.rects (r.withoutChanges w).changes = v.rects r.changes := by
  apply Work.rects_congr
  rw [Work.ownChanges, Work.ownChanges, withoutChanges, List.filter_filter]
  apply List.filter_congr
  intro c _
  by_cases hc : c.work = v.id
  · simp [hc, hv]
  · simp [hc]

theorem mem_rects_withoutChanges {t : Rect} (ht : t ∈ r.rects) (hsource : t.source ≠ w.id.toSource) :
    t ∈ (r.withoutChanges w).rects := by
  rw [rects_eq] at ht
  rcases List.mem_append.1 ht with ht | ht
  · obtain ⟨v, hv, ht⟩ := List.mem_flatMap.1 ht
    have hne : v.id ≠ w.id := by
      intro hid
      apply hsource
      rw [(Work.source_of_mem_rects ht).1, hid]
    rw [← rects_withoutChanges_of_ne hne] at ht
    exact rects_of_mem_works (r := r.withoutChanges w) hv ht
  · rw [rects_eq]
    exact List.mem_append_right _ ht

end RecordSet

/-! ### The rest as part of the whole -/

/-- Moved to the date, the rect runs within the other, which has the same source, kind and client. -/
structure Rect.PartOn (s : Rect) (date : Date) (whole : Rect) : Prop where
  source : whole.source = s.source
  kind : whole.kind = s.kind
  client : whole.client = s.client
  date : whole.date = date
  start : whole.start ≤ s.start
  finish : s.finish ≤ whole.finish

theorem Rect.PartOn.collidesWith {s whole t : Rect} (hpart : s.PartOn s.date whole) (hday : s.clientDay = t.clientDay)
    (hcollides : s.CollidesWith t) : whole.clientDay = t.clientDay ∧ whole.CollidesWith t := by
  obtain ⟨hbreak, hbreak', hsource, hstart, hstart'⟩ := hcollides
  refine ⟨?_, ?_, hbreak', ?_, ?_, ?_⟩
  · rw [← hday, Rect.clientDay, Rect.clientDay, hpart.client, hpart.date]
  · rwa [Rect.isBreak, hpart.kind]
  · rwa [hpart.source]
  · exact lt_of_le_of_lt hpart.start hstart
  · exact lt_of_lt_of_le hstart' hpart.finish

namespace Work

/-- When the rest of the work begins, in nanoseconds since the midnight before the work. -/
def restBegins (w : Work) (changes : List Change) : Int :=
  w.start.nanos + (w.remaining (w.ownChanges changes)).1

variable {w : Work} {changes : List Change}

theorem partOn_rect {span whole : DaySpan} {date : Date} (h : DaySpan.Within { span with date := date } whole) :
    (w.origin.rect span).PartOn date (w.origin.rect whole) :=
  ⟨rfl, rfl, rfl, h.date.symm, h.start, h.finish⟩

theorem exists_span_of_mem_rects {s : Rect} (hs : s ∈ w.rects changes) (hkind : s.kind = .work) :
    ∃ span ∈ splitAtMidnight w.date ((Frame.ofWork w).timeAt (w.remaining (w.ownChanges changes)).1)
      ((Frame.ofWork w).timeAt (w.remaining (w.ownChanges changes)).2), s = w.origin.rect span := by
  have hrest : s ∈ w.remainingRects (w.ownChanges changes) := by
    rw [← w.filter_rects_work]
    exact List.mem_filter.2 ⟨hs, decide_eq_true hkind⟩
  obtain ⟨span, hspan, heq⟩ := List.mem_map.1 hrest
  exact ⟨span, hspan, heq.symm⟩

section Whole

variable (hstart : w.start.isLeap = false) (hfinish : w.finish.isLeap = false)

include hstart hfinish

theorem mem_rects_of_whole {changes' : List Change} (hchanges' : ∀ c ∈ changes', c.work ≠ w.id) {whole : DaySpan}
    (hwhole : whole ∈ splitAtMidnight w.date ((Frame.ofWork w).timeAt 0)
      ((Frame.ofWork w).timeAt (Frame.ofWork w).length)) : w.origin.rect whole ∈ w.rects changes' := by
  rw [timeAt_zero, timeAt_length hstart hfinish] at hwhole
  rw [rects_of_unchanged hstart hfinish hchanges']
  exact List.mem_map_of_mem hwhole

variable (hchanges : ∀ c ∈ changes, c.work = w.id → c.Shortens w)

include hchanges

theorem remaining_ownChanges_within :
    0 ≤ (w.remaining (w.ownChanges changes)).1 ∧
      (w.remaining (w.ownChanges changes)).1 ≤ (w.remaining (w.ownChanges changes)).2 ∧
      (w.remaining (w.ownChanges changes)).2 ≤ (Frame.ofWork w).length := by
  apply remaining_within hstart hfinish
  intro c hc
  obtain ⟨hc, hwork⟩ := mem_ownChanges.1 hc
  exact hchanges c hc hwork

theorem exists_partOn_of_begins_before {changes' : List Change} (hchanges' : ∀ c ∈ changes', c.work ≠ w.id)
    (hbefore : w.restBegins changes < nanosPerDay) {s : Rect} (hs : s ∈ w.rects changes) (hkind : s.kind = .work) :
    ∃ whole ∈ w.rects changes', s.PartOn s.date whole := by
  obtain ⟨hnonneg, hle, hlength⟩ := remaining_ownChanges_within hstart hfinish hchanges
  have hday := (TimeOfDay.forwardTo_bounds hstart hfinish).2
  obtain ⟨span, hspan, rfl⟩ := exists_span_of_mem_rects hs hkind
  obtain ⟨whole, hwhole, hwithin⟩ :=
    Frame.exists_span_covering (f := Frame.ofWork w) hstart (Int.le_refl 0) hnonneg hle hlength hday hbefore hspan
  exact ⟨_, mem_rects_of_whole hstart hfinish hchanges' hwhole, partOn_rect hwithin⟩

theorem exists_partOn_of_begins_after {changes' : List Change} (hchanges' : ∀ c ∈ changes', c.work ≠ w.id)
    (hafter : nanosPerDay ≤ w.restBegins changes) {s : Rect} (hs : s ∈ w.rects changes) (hkind : s.kind = .work) :
    s.date = w.date ∧ ∀ next, w.date.succ? = some next → ∃ whole ∈ w.rects changes', s.PartOn next whole := by
  obtain ⟨hnonneg, hle, hlength⟩ := remaining_ownChanges_within hstart hfinish hchanges
  have hday := (TimeOfDay.forwardTo_bounds hstart hfinish).2
  have hbegins : (Frame.ofWork w).origin.nanos + 0 < nanosPerDay := by
    rw [Int.add_zero]
    exact (TimeOfDay.nanos_bounds hstart).2
  obtain ⟨span, hspan, rfl⟩ := exists_span_of_mem_rects hs hkind
  obtain ⟨hdate, hnext⟩ :=
    Frame.exists_next_span_covering (f := Frame.ofWork w) hstart (Int.le_refl 0) hle hlength hday hbegins hafter hspan
  refine ⟨hdate, ?_⟩
  intro next hsucc
  obtain ⟨whole, hwhole, hwithin⟩ := hnext next hsucc
  exact ⟨_, mem_rects_of_whole hstart hfinish hchanges' hwhole, partOn_rect hwithin⟩

/-- Only the rest of a work that runs past midnight can begin after midnight. -/
theorem restBegins_lt_of_le (hle : w.start ≤ w.finish) : w.restBegins changes < nanosPerDay := by
  obtain ⟨-, hrest, hlength⟩ := remaining_ownChanges_within hstart hfinish hchanges
  have hbounds := TimeOfDay.nanos_bounds hstart
  have hbounds' := TimeOfDay.nanos_bounds hfinish
  have hframe : (Frame.ofWork w).length = w.finish.nanos - w.start.nanos :=
    TimeOfDay.forwardTo_of_le hstart hfinish hle
  unfold restBegins
  omega

end Whole

end Work

/-- What collides with the rest of a shortened work collides with the whole work, unless the rest begins after
midnight. Then the rest is a part of the whole work on the following day. -/
theorem shortened_work_collides_as_whole {r : RecordSet} (hdistinct : (r.works.map Work.id).Nodup) {w : Work}
    (hw : w ∈ r.works) (hstart : w.start.isLeap = false) (hfinish : w.finish.isLeap = false)
    (hchanges : ∀ c ∈ r.changes, c.work = w.id → c.Shortens w) {s t : Rect} (hcollide : CollideAmong r.rects s t)
    (hkind : s.kind = .work) (hsource : s.source = w.id.toSource) :
    (w.start ≤ w.finish → w.restBegins r.changes < nanosPerDay) ∧
      (w.restBegins r.changes < nanosPerDay →
        ∃ whole, whole.source = w.id.toSource ∧ CollideAmong (r.withoutChanges w).rects whole t) ∧
      (nanosPerDay ≤ w.restBegins r.changes →
        s.date = w.date ∧ ∀ next, w.date.succ? = some next →
          ∃ whole ∈ (r.withoutChanges w).rects, s.PartOn next whole) := by
  obtain ⟨hs, ht, hday, hcollides⟩ := collideAmong_iff.1 hcollide
  have hown : s ∈ w.rects r.changes :=
    RecordSet.mem_work_rects hdistinct hw hs hsource fun hbreak => RectKind.noConfusion (hkind.symm.trans hbreak)
  have hchanges' : ∀ c ∈ (r.withoutChanges w).changes, c.work ≠ w.id := fun c hc =>
    RecordSet.work_ne_of_mem_withoutChanges hc
  have hsub : w.rects (r.withoutChanges w).changes ⊆ (r.withoutChanges w).rects :=
    RecordSet.rects_of_mem_works (r := r.withoutChanges w) hw
  refine ⟨fun hle => Work.restBegins_lt_of_le hstart hfinish hchanges hle, fun hbefore => ?_, fun hafter => ?_⟩
  · obtain ⟨whole, hwhole, hpart⟩ :=
      Work.exists_partOn_of_begins_before hstart hfinish hchanges hchanges' hbefore hown hkind
    obtain ⟨hday', hcollides'⟩ := hpart.collidesWith hday hcollides
    have hother : t.source ≠ w.id.toSource := fun heq => hcollides.2.2.1 (hsource.trans heq.symm)
    refine ⟨whole, hpart.source.trans hsource, collideAmong_iff.2 ⟨hsub hwhole, ?_, hday', hcollides'⟩⟩
    exact RecordSet.mem_rects_withoutChanges ht hother
  · obtain ⟨hdate, hnext⟩ :=
      Work.exists_partOn_of_begins_after hstart hfinish hchanges hchanges' hafter hown hkind
    refine ⟨hdate, fun next hsucc => ?_⟩
    obtain ⟨whole, hwhole, hpart⟩ := hnext next hsucc
    exact ⟨whole, hsub hwhole, hpart⟩

/-- A night watch that a correction makes start an hour late, still before midnight. -/
def watch : Work :=
  ⟨⟨"watch", by decide⟩, ⟨"C5", by decide⟩, ⟨"S5", by decide⟩, ⟨2025, 4, 7, by decide⟩,
    .ofNanos (22 * 3600 * nanosPerSecond), .ofNanos (6 * 3600 * nanosPerSecond)⟩

def watchHourLate : Change :=
  ⟨⟨"hour late", by decide⟩, ⟨"watch", by decide⟩, .startCorrection, .ofNanos (22 * 3600 * nanosPerSecond),
    .ofNanos (23 * 3600 * nanosPerSecond), none⟩

/-- The watch, and a round that its client makes before the watch is over. -/
def watchAndRound : RecordSet :=
  ⟨[watch, ⟨⟨"round", by decide⟩, ⟨"C5", by decide⟩, ⟨"S6", by decide⟩, ⟨2025, 4, 8, by decide⟩,
      .ofNanos (5 * 3600 * nanosPerSecond), .ofNanos (7 * 3600 * nanosPerSecond)⟩], [watchHourLate], []⟩

theorem watch_collides_as_whole :
    ∃ s t whole, s.kind = .work ∧ CollideAmong watchAndRound.rects s t ∧ whole.source = watch.id.toSource ∧
      CollideAmong (watchAndRound.withoutChanges watch).rects whole t := by
  have hcollide : CollideAmong watchAndRound.rects (watchAndRound.rects.get ⟨1, by decide⟩)
      (watchAndRound.rects.get ⟨3, by decide⟩) := by
    rw [collideAmong_iff]
    decide
  have hchanges : ∀ c ∈ watchAndRound.changes, c.work = watch.id → c.Shortens watch := by
    intro c hc _
    obtain rfl := List.mem_singleton.1 hc
    exact ⟨by decide, by decide⟩
  obtain ⟨-, hbefore, -⟩ := shortened_work_collides_as_whole (w := watch) (by decide) List.mem_cons_self (by decide)
    (by decide) hchanges hcollide (by decide) (by decide)
  obtain ⟨whole, hsource, hwhole⟩ := hbefore (by decide)
  exact ⟨_, _, whole, by decide, hcollide, hsource, hwhole⟩

/-! ### A rest that begins after midnight -/

def watchFromOne : Change :=
  ⟨⟨"from one", by decide⟩, ⟨"watch", by decide⟩, .startCorrection, .ofNanos (22 * 3600 * nanosPerSecond),
    .ofNanos (1 * 3600 * nanosPerSecond), none⟩

/-- The watch, of which only the hours after midnight remain, and a round of its client the night before. -/
def lateStart : RecordSet :=
  ⟨[watch, ⟨⟨"round", by decide⟩, ⟨"C5", by decide⟩, ⟨"S6", by decide⟩, ⟨2025, 4, 7, by decide⟩,
      .ofNanos (2 * 3600 * nanosPerSecond), .ofNanos (4 * 3600 * nanosPerSecond)⟩], [watchFromOne], []⟩

/-- The rest from one to six o'clock stays on the date of the watch, where it collides with the round; the whole watch
is clear of it. -/
theorem lateStart_collides_only_shortened :
    (lateStart.works.map Work.id).Nodup ∧ watch ∈ lateStart.works ∧
      (∀ x ∈ lateStart.works, x.start.isLeap = false ∧ x.finish.isLeap = false) ∧
      (∀ c ∈ lateStart.changes, c.start.isLeap = false ∧ c.finish.isLeap = false ∧ c.work = watch.id ∧
        c.Shortens watch) ∧
      ∃ s t, s.kind = .work ∧ s.source = watch.id.toSource ∧ CollideAmong lateStart.rects s t ∧
        ¬ ∃ whole, whole.source = watch.id.toSource ∧
          CollideAmong (lateStart.withoutChanges watch).rects whole t := by
  have hcollide : CollideAmong lateStart.rects (lateStart.rects.get ⟨0, by decide⟩)
      (lateStart.rects.get ⟨3, by decide⟩) := by
    rw [collideAmong_iff]
    decide
  refine ⟨by decide, List.mem_cons_self, by decide, ?_, _, _, by decide, by decide, hcollide, ?_⟩
  · intro c hc
    obtain rfl := List.mem_singleton.1 hc
    exact ⟨by decide, by decide, by decide, by decide, by decide⟩
  · rintro ⟨whole, hsource, hwhole⟩
    have hnone : ∀ x ∈ (lateStart.withoutChanges watch).rects,
        ¬ (x.clientDay = (lateStart.rects.get ⟨3, by decide⟩).clientDay ∧
          x.CollidesWith (lateStart.rects.get ⟨3, by decide⟩)) := by decide
    obtain ⟨hmem, -, hday, hcollides⟩ := collideAmong_iff.1 hwhole
    exact hnone whole hmem ⟨hday, hcollides⟩

end Roster
