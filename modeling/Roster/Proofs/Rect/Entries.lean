import Mathlib.Data.List.Forall2
import Roster.Proofs.Rect.Remaining
/-!
# Every rect comes from a record, and every record has its rects

A record set is read as a list of entries: each work, the changes that each work has, and each break
(`RecordSet.entries`). The rects of the set are the rects of its entries, group after group
(`RecordSet.rects_eq_flatMap`). The group of an entry bears its marks, that is, its source, its kind, its owner and its
change (`Entry.marks_of_mem_rects`), and lays out its interval on the date of its record (`Entry.laidOut_rects`). Without
leap seconds no rect finishes before it starts: the one place where an order has to be shown is the evening of an
interval that is cut, which has to start before the end of the day (`LaidOut.ordered`).
-/

namespace Roster

/-- What has an interval of its own among the rects: what remains of a work, a change for one work that has it, or a
break. -/
inductive Entry
  | work (w : Work)
  | change (w : Work) (c : Change)
  | break (b : Break)

namespace Entry

/-- The date from which the interval is counted. -/
def date : Entry → Date
  | work w => w.date
  | change w _ => w.date
  | .break b => b.date

/-- The start and the finish of the interval, before it is cut at midnight. -/
def interval (changes : List Change) : Entry → TimeOfDay × TimeOfDay
  | work w =>
      let (start, finish) := w.remaining (w.ownChanges changes)
      ((Frame.ofWork w).timeAt start, (Frame.ofWork w).timeAt finish)
  | change _ c => (c.start, c.finish)
  | .break b => (b.start, b.finish)

/-- The rect says of itself that it comes from the entry. A correction stays with the client of the work, a replacement
goes to the client it names, if it names one. -/
def Marks (t : Rect) : Entry → Prop
  | work w => t.kind = .work ∧ t.source = w.id.toSource ∧ t.client = w.client ∧ t.change = none
  | change w c =>
      t.source = c.work.toSource ∧ t.change = some c.id ∧
        if c.kind.isReplacement then t.kind = .replacement ∧ t.client = c.replacement.getD w.client
        else t.kind = .correction ∧ t.client = w.client
  | .break b => t.kind = .break ∧ t.source = b.id.toSource ∧ t.client = b.client ∧ t.change = none

def rects (changes : List Change) : Entry → List Rect
  | work w => w.remainingRects (w.ownChanges changes)
  | change w c => c.rects w
  | .break b => b.rects

end Entry

namespace RecordSet

/-- The entry is made of records of the set; a change only of a work that it names. -/
inductive Holds (r : RecordSet) : Entry → Prop
  | work {w : Work} (hw : w ∈ r.works) : Holds r (.work w)
  | change {w : Work} {c : Change} (hw : w ∈ r.works) (hc : c ∈ r.changes) (hwork : c.work = w.id) :
      Holds r (.change w c)
  | break {b : Break} (hb : b ∈ r.breaks) : Holds r (.break b)

/-- Every work with its changes behind it, and the breaks behind all works. -/
def entries (r : RecordSet) : List Entry :=
  (r.works.flatMap fun w => .work w :: (w.ownChanges r.changes).map (.change w)) ++ r.breaks.map .break

/-- No time of a record is a leap second. -/
structure Plain (r : RecordSet) : Prop where
  works : ∀ w ∈ r.works, w.start.isLeap = false ∧ w.finish.isLeap = false
  changes : ∀ c ∈ r.changes, c.start.isLeap = false ∧ c.finish.isLeap = false
  breaks : ∀ b ∈ r.breaks, b.start.isLeap = false ∧ b.finish.isLeap = false

theorem mem_entries {r : RecordSet} {e : Entry} : e ∈ r.entries ↔ r.Holds e := by
  rw [entries, List.mem_append, List.mem_flatMap, List.mem_map]
  constructor
  · rintro (⟨w, hw, he⟩ | ⟨b, hb, rfl⟩)
    · rcases List.mem_cons.1 he with rfl | he
      · exact .work hw
      · obtain ⟨c, hc, rfl⟩ := List.mem_map.1 he
        obtain ⟨hc, hwork⟩ := Work.mem_ownChanges.1 hc
        exact .change hw hc hwork
    · exact .break hb
  · intro h
    cases h with
    | work hw => exact .inl ⟨_, hw, List.mem_cons_self⟩
    | change hw hc hwork =>
        have hown := Work.mem_ownChanges.2 ⟨hc, hwork⟩
        exact .inl ⟨_, hw, List.mem_cons_of_mem _ (List.mem_map_of_mem hown)⟩
    | «break» hb => exact .inr ⟨_, hb, rfl⟩

theorem rects_eq_flatMap (r : RecordSet) : r.rects = r.entries.flatMap (Entry.rects r.changes) := by
  rw [entries, List.flatMap_append, List.flatMap_assoc, List.flatMap_map]
  simp only [List.flatMap_cons, List.flatMap_map, rects_eq, Work.rects_eq]
  rfl

end RecordSet

/-! ### The rects of one entry -/

theorem Entry.marks_of_mem_rects {r : RecordSet} {e : Entry} (he : r.Holds e) {t : Rect}
    (ht : t ∈ e.rects r.changes) : e.Marks t := by
  cases he with
  | work hw =>
      obtain ⟨span, -, rfl⟩ := List.mem_map.1 ht
      exact ⟨rfl, rfl, rfl, rfl⟩
  | change hw hc hwork =>
      obtain ⟨span, -, rfl⟩ := List.mem_map.1 ht
      refine ⟨by rw [hwork]; rfl, rfl, ?_⟩
      split
      · rename_i hreplacement
        exact ⟨if_pos hreplacement, if_pos hreplacement⟩
      · rename_i hreplacement
        exact ⟨if_neg hreplacement, if_neg hreplacement⟩
  | «break» hb =>
      obtain ⟨span, -, rfl⟩ := List.mem_map.1 ht
      exact ⟨rfl, rfl, rfl, rfl⟩

/-- How an interval that is counted from a date lies in rects: in one rect on the date; cut at midnight, with the
morning right behind the evening; or as the evening alone, where no day follows. -/
inductive LaidOut (date : Date) (start finish : TimeOfDay) : List Rect → Prop
  | whole {t : Rect} (horder : start ≤ finish) (hdate : t.date = date) (hstart : t.start = start)
      (hfinish : t.finish = finish) : LaidOut date start finish [t]
  | cut {evening morning : Rect} (horder : finish < start) (hdate : evening.date = date)
      (hstart : evening.start = start) (hdayEnd : evening.finish = .dayEnd) (hnext : date.succ? = some morning.date)
      (hdayStart : morning.start = .dayStart) (hfinish : morning.finish = finish) :
      LaidOut date start finish [evening, morning]
  | last {evening : Rect} (horder : finish < start) (hdate : evening.date = date) (hstart : evening.start = start)
      (hdayEnd : evening.finish = .dayEnd) (hnone : date.succ? = none) : LaidOut date start finish [evening]

theorem Origin.laidOut_rects (o : Origin) (date : Date) (start finish : TimeOfDay) :
    LaidOut date start finish (o.rects date start finish) := by
  unfold rects
  rcases splitAtMidnight_cases date start finish with ⟨hle, h⟩ | ⟨hlt, next, hnext, h⟩ | ⟨hlt, hnone, h⟩ <;> rw [h]
  · exact .whole hle rfl rfl rfl
  · exact .cut hlt rfl rfl rfl hnext rfl rfl
  · exact .last hlt rfl rfl rfl hnone

theorem LaidOut.ordered {date : Date} {start finish : TimeOfDay} {group : List Rect}
    (h : LaidOut date start finish group) (hplain : start.isLeap = false) : ∀ t ∈ group, t.start ≤ t.finish := by
  cases h with
  | whole horder _ hstart hfinish =>
      rw [List.forall_mem_singleton, hstart, hfinish]
      exact horder
  | cut _ _ hstart hdayEnd _ hdayStart _ =>
      rw [List.forall_mem_cons, List.forall_mem_singleton, hstart, hdayEnd, hdayStart]
      exact ⟨TimeOfDay.le_dayEnd hplain, TimeOfDay.dayStart_le _⟩
  | last _ _ hstart hdayEnd _ =>
      rw [List.forall_mem_singleton, hstart, hdayEnd]
      exact TimeOfDay.le_dayEnd hplain

namespace Entry

/-- The rects lay out the interval of the entry, counted from its date. -/
def LaysOut (e : Entry) (changes : List Change) (group : List Rect) : Prop :=
  LaidOut e.date (e.interval changes).1 (e.interval changes).2 group

theorem laysOut_rects (e : Entry) (changes : List Change) : e.LaysOut changes (e.rects changes) := by
  cases e with
  | work w => exact Origin.laidOut_rects _ _ _ _
  | change w c => exact Origin.laidOut_rects _ _ _ _
  | «break» b => exact Origin.laidOut_rects _ _ _ _

end Entry

theorem RecordSet.Plain.isLeap_interval {r : RecordSet} (hr : r.Plain) {e : Entry} (he : r.Holds e) :
    (e.interval r.changes).1.isLeap = false := by
  cases he with
  | work hw => exact Frame.isLeap_timeAt (hr.works _ hw).1 _
  | change _ hc _ => exact (hr.changes _ hc).1
  | «break» hb => exact (hr.breaks _ hb).1

/-- No rect finishes before it starts. Each comes from a record that it is marked with, and the rects are those of the
entries, one group for each: one rect on the date of the entry, or two on that date and the next. -/
theorem rects_come_from_entries {r : RecordSet} (hr : r.Plain) :
    (∀ t ∈ r.rects, t.start ≤ t.finish ∧ ∃ e, r.Holds e ∧ e.Marks t) ∧
      (∀ e, e ∈ r.entries ↔ r.Holds e) ∧
      ∃ groups : List (List Rect), r.rects = groups.flatten ∧
        List.Forall₂ (fun e group => e.LaysOut r.changes group ∧ ∀ t ∈ group, e.Marks t) r.entries groups := by
  refine ⟨fun t ht => ?_, fun e => RecordSet.mem_entries, r.entries.map (Entry.rects r.changes), ?_, ?_⟩
  · rw [r.rects_eq_flatMap] at ht
    obtain ⟨e, he, ht⟩ := List.mem_flatMap.1 ht
    have he := RecordSet.mem_entries.1 he
    exact ⟨(e.laysOut_rects r.changes).ordered (hr.isLeap_interval he) t ht, e, he, Entry.marks_of_mem_rects he ht⟩
  · rw [r.rects_eq_flatMap, List.flatMap_def]
  · rw [List.forall₂_map_right_iff, List.forall₂_same]
    intro e he
    exact ⟨e.laysOut_rects r.changes, fun t => Entry.marks_of_mem_rects (RecordSet.mem_entries.1 he)⟩

/-- A night's work with a change at each end, a change of a work that is not there, and a break that would run past the
last date. -/
def beaconWatch : RecordSet :=
  ⟨[⟨⟨"beacon", by decide⟩, ⟨"C23", by decide⟩, ⟨"S20", by decide⟩, ⟨2025, 11, 29, by decide⟩,
      .ofNanos (20 * 3600 * nanosPerSecond), .ofNanos (4 * 3600 * nanosPerSecond)⟩],
    [⟨⟨"lamp lit", by decide⟩, ⟨"beacon", by decide⟩, .startCorrection, .ofNanos (20 * 3600 * nanosPerSecond),
      .ofNanos (21 * 3600 * nanosPerSecond), none⟩,
    ⟨⟨"half shift", by decide⟩, ⟨"beacon", by decide⟩, .endReplacement, .ofNanos (3 * 3600 * nanosPerSecond),
      .ofNanos (4 * 3600 * nanosPerSecond), some ⟨"C24", by decide⟩⟩,
    ⟨⟨"lost call", by decide⟩, ⟨"buoy", by decide⟩, .endCorrection, .ofNanos (3 * 3600 * nanosPerSecond),
      .ofNanos (4 * 3600 * nanosPerSecond), none⟩],
    [⟨⟨"new year", by decide⟩, ⟨"C23", by decide⟩, ⟨262142, 12, 31, by decide⟩,
      .ofNanos (23 * 3600 * nanosPerSecond), .ofNanos (1 * 3600 * nanosPerSecond)⟩]⟩

theorem beaconWatch_comes_from_entries :
    beaconWatch.Plain ∧ beaconWatch.rects.length = 5 ∧
      (∀ t ∈ beaconWatch.rects, t.start ≤ t.finish ∧ ∃ e, beaconWatch.Holds e ∧ e.Marks t) ∧
      ∃ groups : List (List Rect), beaconWatch.rects = groups.flatten ∧
        List.Forall₂ (fun e group => e.LaysOut beaconWatch.changes group ∧ ∀ t ∈ group, e.Marks t)
          beaconWatch.entries groups := by
  have hplain : beaconWatch.Plain := ⟨by decide, by decide, by decide⟩
  obtain ⟨hrects, -, hgroups⟩ := rects_come_from_entries hplain
  exact ⟨hplain, by decide, hrects, hgroups⟩

end Roster
