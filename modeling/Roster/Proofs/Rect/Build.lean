import Mathlib.Data.List.Nodup
import Mathlib.Data.List.Perm.Basic
import Mathlib.Order.MinMax
import Roster.Proofs.Clock.LeapSecond
import Roster.Proofs.Rect.Grouping
/-!
# Where the rects of records lie, and that the order of records does not matter

A rect lies on the date of its record or the day after, and belongs to the client of its record or to a client that a
change of the work names. The offers of changes commute (`Adjustment.add_comm`), so the changes of a work may be taken
in any order, and record sets that are permutations of one another have the same rects up to order
(`RecordSet.rects_perm`).

On its date a rect runs at the times of its half-open interval. The comparison of ends that `Rect.Overlaps` makes is about
times only for rects that have length: those overlap exactly if they run at a common time (`Rect.overlaps_iff_runsAt`). A
rect without length runs at no time, but still overlaps one that runs before and after it.
-/

namespace Roster

/-! ### Times -/

namespace Rect

/-- The time lies in the interval of the rect, whatever its date. -/
def RunsAt (r : Rect) (time : TimeOfDay) : Prop := r.start ≤ time ∧ time < r.finish

theorem runsAt_and_runsAt_iff {a b : Rect} {time : TimeOfDay} :
    a.RunsAt time ∧ b.RunsAt time ↔ max a.start b.start ≤ time ∧ time < min a.finish b.finish := by
  rw [RunsAt, RunsAt, max_le_iff, lt_min_iff, and_and_and_comm]

theorem max_start_lt_iff {a b : Rect} :
    max a.start b.start < min a.finish b.finish ↔
      a.Overlaps b ∧ a.start < a.finish ∧ b.start < b.finish := by
  rw [max_lt_iff, lt_min_iff, lt_min_iff]
  constructor
  · rintro ⟨⟨ha, hab⟩, hba, hb⟩
    exact ⟨⟨hab, hba⟩, ha, hb⟩
  · rintro ⟨⟨hab, hba⟩, ha, hb⟩
    exact ⟨⟨ha, hab⟩, hba, hb⟩

theorem overlaps_iff_runsAt {a b : Rect} (ha : a.start < a.finish) (hb : b.start < b.finish) :
    a.Overlaps b ↔ ∃ time, a.RunsAt time ∧ b.RunsAt time := by
  simp only [runsAt_and_runsAt_iff]
  constructor
  · intro h
    exact ⟨max a.start b.start, le_rfl, max_start_lt_iff.2 ⟨h, ha, hb⟩⟩
  · rintro ⟨time, hstart, hfinish⟩
    exact (max_start_lt_iff.1 (hstart.trans_lt hfinish)).1

end Rect

/-! ### Dates and owners -/

/-- The date is that of the record or the day after. -/
def Date.FallsOn (anchor date : Date) : Prop := date = anchor ∨ anchor.succ? = some date

/-- An interval stays within its day, is cut into parts of two neighbouring days, or loses what lies after the last
date. -/
theorem splitAtMidnight_cases (date : Date) (start finish : TimeOfDay) :
    (start ≤ finish ∧ splitAtMidnight date start finish = [⟨date, start, finish⟩]) ∨
      (finish < start ∧ ∃ next, date.succ? = some next ∧
        splitAtMidnight date start finish = [⟨date, start, .dayEnd⟩, ⟨next, .dayStart, finish⟩]) ∨
      (finish < start ∧ date.succ? = none ∧ splitAtMidnight date start finish = [⟨date, start, .dayEnd⟩]) := by
  unfold splitAtMidnight
  by_cases hle : start ≤ finish
  · exact .inl ⟨hle, if_pos hle⟩
  · have hlt : finish < start := not_le.1 hle
    rw [if_neg hle]
    cases hnext : date.succ? with
    | some next => exact .inr (.inl ⟨hlt, next, rfl, rfl⟩)
    | none => exact .inr (.inr ⟨hlt, rfl, rfl⟩)

theorem fallsOn_of_mem_splitAtMidnight {date : Date} {start finish : TimeOfDay} {span : DaySpan}
    (hspan : span ∈ splitAtMidnight date start finish) : date.FallsOn span.date := by
  rcases splitAtMidnight_cases date start finish with ⟨-, h⟩ | ⟨-, next, hnext, h⟩ | ⟨-, -, h⟩ <;> rw [h] at hspan
  · rw [List.mem_singleton.1 hspan]
    exact .inl rfl
  · rcases List.mem_pair.1 hspan with rfl | rfl
    · exact .inl rfl
    · exact .inr hnext
  · rw [List.mem_singleton.1 hspan]
    exact .inl rfl

theorem Origin.mem_rects {o : Origin} {date : Date} {start finish : TimeOfDay} {r : Rect}
    (hr : r ∈ o.rects date start finish) : date.FallsOn r.date ∧ r.client = o.client := by
  obtain ⟨span, hspan, rfl⟩ := List.mem_map.1 hr
  exact ⟨fallsOn_of_mem_splitAtMidnight hspan, rfl⟩

theorem Work.mem_ownChanges {w : Work} {changes : List Change} {c : Change} :
    c ∈ w.ownChanges changes ↔ c ∈ changes ∧ c.work = w.id := by
  rw [ownChanges, List.mem_filter, decide_eq_true_iff]

theorem Work.mem_rects_iff {w : Work} {changes : List Change} {t : Rect} :
    t ∈ w.rects changes ↔
      t ∈ w.remainingRects (w.ownChanges changes) ∨ ∃ c ∈ changes, c.work = w.id ∧ t ∈ c.rects w := by
  simp only [rects_eq, List.mem_append, List.mem_flatMap, mem_ownChanges, and_assoc]

theorem Change.owner_eq_or (c : Change) (w : Work) : c.owner w = w.client ∨ c.replacement = some (c.owner w) := by
  unfold owner
  split
  · cases c.replacement with
    | none => exact .inl rfl
    | some client => exact .inr rfl
  · exact .inl rfl

/-- The rects of a work lie on its date or the day after, and belong to its client or to one that a change names. -/
theorem Work.mem_rects {w : Work} {changes : List Change} {r : Rect} (hr : r ∈ w.rects changes) :
    w.date.FallsOn r.date ∧
      (r.client = w.client ∨ ∃ c ∈ changes, c.work = w.id ∧ c.replacement = some r.client) := by
  rcases mem_rects_iff.1 hr with hr | ⟨c, hc, hwork, hr⟩
  · obtain ⟨hdate, hclient⟩ := Origin.mem_rects hr
    exact ⟨hdate, .inl hclient⟩
  · obtain ⟨hdate, hclient⟩ := Origin.mem_rects hr
    refine ⟨hdate, ?_⟩
    rcases c.owner_eq_or w with howner | howner
    · exact .inl (hclient.trans howner)
    · exact .inr ⟨c, hc, hwork, hclient ▸ howner⟩

theorem Break.mem_rects {b : Break} {r : Rect} (hr : r ∈ b.rects) : b.date.FallsOn r.date ∧ r.client = b.client :=
  Origin.mem_rects hr

/-! ### Sources -/

theorem Ident.toSource_inj {kind : IdentKind} {a b : Ident kind} : a.toSource = b.toSource ↔ a = b := by
  rw [Ident.ext_iff, Ident.ext_iff, toSource, toSource]

theorem Origin.source_of_mem_rects {o : Origin} {date : Date} {start finish : TimeOfDay} {r : Rect}
    (hr : r ∈ o.rects date start finish) : r.source = o.source ∧ r.kind = o.kind := by
  obtain ⟨span, -, rfl⟩ := List.mem_map.1 hr
  exact ⟨rfl, rfl⟩

theorem Change.rectKind_ne_break (c : Change) : c.rectKind ≠ .break := by
  unfold rectKind
  split <;> decide

theorem Change.rectKind_ne_work (c : Change) : c.rectKind ≠ .work := by
  unfold rectKind
  split <;> decide

theorem Work.source_of_mem_rects {w : Work} {changes : List Change} {r : Rect} (hr : r ∈ w.rects changes) :
    r.source = w.id.toSource ∧ r.kind ≠ .break := by
  rcases mem_rects_iff.1 hr with hr | ⟨c, -, -, hr⟩
  · obtain ⟨hsource, hkind⟩ := Origin.source_of_mem_rects hr
    exact ⟨hsource, fun hbreak => RectKind.noConfusion (hkind.symm.trans hbreak)⟩
  · obtain ⟨hsource, hkind⟩ := Origin.source_of_mem_rects hr
    exact ⟨hsource, fun hbreak => c.rectKind_ne_break (hkind.symm.trans hbreak)⟩

theorem Break.kind_of_mem_rects {b : Break} {r : Rect} (hr : r ∈ b.rects) : r.kind = .break :=
  (Origin.source_of_mem_rects hr).2

/-- Where works have identifiers of their own, a rect that names a work as its source is one of that work. -/
theorem RecordSet.mem_work_rects {r : RecordSet} (hdistinct : (r.works.map Work.id).Nodup) {w : Work}
    (hw : w ∈ r.works) {s : Rect} (hs : s ∈ r.rects) (hsource : s.source = w.id.toSource) (hkind : s.kind ≠ .break) :
    s ∈ w.rects r.changes := by
  rw [rects_eq] at hs
  rcases List.mem_append.1 hs with hs | hs
  · obtain ⟨v, hv, hs⟩ := List.mem_flatMap.1 hs
    have hid : v.id = w.id := Ident.toSource_inj.1 ((Work.source_of_mem_rects hs).1.symm.trans hsource)
    rwa [List.inj_on_of_nodup_map hdistinct hv hw hid] at hs
  · obtain ⟨b, -, hs⟩ := List.mem_flatMap.1 hs
    exact absurd (Break.kind_of_mem_rects hs) hkind

theorem RecordSet.rects_of_mem_works {r : RecordSet} {w : Work} (hw : w ∈ r.works) : w.rects r.changes ⊆ r.rects := by
  rw [rects_eq]
  exact fun _ hs => List.mem_append_left _ (List.mem_flatMap.2 ⟨w, hw, hs⟩)

/-! ### Own changes -/

theorem Work.rects_congr {w : Work} {changes changes' : List Change}
    (h : w.ownChanges changes = w.ownChanges changes') : w.rects changes = w.rects changes' := by
  rw [rects_eq, rects_eq, h]

/-- The changes whose work is there. -/
def RecordSet.attached (r : RecordSet) : List Change := r.changes.filter fun c => r.works.any fun w => w.id = c.work

/-- Changes of works that are not there give no work a change. -/
theorem RecordSet.ownChanges_attached {r : RecordSet} {w : Work} (hw : w ∈ r.works) :
    w.ownChanges r.attached = w.ownChanges r.changes := by
  rw [Work.ownChanges, attached, List.filter_filter]
  apply List.filter_congr
  intro c _
  by_cases hwork : c.work = w.id
  · have hany : (r.works.any fun v => v.id = c.work) = true :=
      List.any_eq_true.2 ⟨w, hw, decide_eq_true hwork.symm⟩
    rw [hany, Bool.and_true]
  · simp [hwork]

/-! ### Works without changes -/

/-- Where the rects of what remains of a work come from. -/
def Work.origin (w : Work) : Origin := ⟨w.id.toSource, .work, w.client, none⟩

theorem Work.length_nonneg {w : Work} (hstart : w.start.isLeap = false) (hfinish : w.finish.isLeap = false) :
    0 ≤ (Frame.ofWork w).length := (TimeOfDay.recovers_of_plain hstart hfinish).forwardTo_nonneg

theorem Work.timeAt_zero (w : Work) : (Frame.ofWork w).timeAt 0 = w.start := w.start.plus_zero

theorem Work.timeAt_length {w : Work} (hstart : w.start.isLeap = false) (hfinish : w.finish.isLeap = false) :
    (Frame.ofWork w).timeAt (Frame.ofWork w).length = w.finish := TimeOfDay.plus_forwardTo_of_plain hstart hfinish

theorem Work.rects_of_no_changes {w : Work} {changes : List Change} (hchanges : ∀ c ∈ changes, c.work ≠ w.id) :
    w.rects changes = w.remainingRects [] := by
  have hown : w.ownChanges changes = [] :=
    List.filter_eq_nil_iff.2 fun c hc heq => hchanges c hc (of_decide_eq_true heq)
  rw [rects_eq, hown, List.flatMap_nil, List.append_nil]

theorem Work.remainingRects_nil (w : Work) :
    w.remainingRects [] = w.origin.rects w.date ((Frame.ofWork w).timeAt (min 0 (Frame.ofWork w).length))
      ((Frame.ofWork w).timeAt (Frame.ofWork w).length) := rfl

/-- A work that no change refers to gives the rects of its own interval. -/
theorem Work.rects_of_unchanged {w : Work} {changes : List Change} (hstart : w.start.isLeap = false)
    (hfinish : w.finish.isLeap = false) (hchanges : ∀ c ∈ changes, c.work ≠ w.id) :
    w.rects changes = w.origin.rects w.date w.start w.finish := by
  rw [rects_of_no_changes hchanges, remainingRects_nil, Int.min_eq_left (length_nonneg hstart hfinish), timeAt_zero,
    timeAt_length hstart hfinish]

/-! ### Order -/

theorem Adjustment.add_comm (f : Frame) (a : Adjustment) (c d : Change) :
    (a.add f c).add f d = (a.add f d).add f c := by
  obtain ⟨start, finish⟩ := a
  unfold add
  by_cases hc : c.kind.adjustsStart <;> by_cases hd : d.kind.adjustsStart <;>
    simp only [hc, hd, if_true, if_false, Bool.false_eq_true, Adjustment.mk.injEq, Option.some.injEq, true_and,
      and_true]
  · cases start <;> dsimp only <;> omega
  · cases finish <;> dsimp only <;> omega

theorem Adjustment.ofChanges_perm (f : Frame) {changes changes' : List Change} (h : changes.Perm changes') :
    ofChanges f changes = ofChanges f changes' :=
  h.foldl_eq' (fun c _ d _ a => a.add_comm f c d) none

theorem Work.remaining_perm (w : Work) {changes changes' : List Change} (h : changes.Perm changes') :
    w.remaining changes = w.remaining changes' := by
  rw [remaining, remaining, Adjustment.ofChanges_perm _ h]

theorem Work.rects_perm {w : Work} {changes changes' : List Change}
    (h : (w.ownChanges changes).Perm (w.ownChanges changes')) : (w.rects changes).Perm (w.rects changes') := by
  have hremaining : w.remainingRects (w.ownChanges changes) = w.remainingRects (w.ownChanges changes') := by
    rw [remainingRects, remainingRects, w.remaining_perm h]
  rw [rects_eq, rects_eq, hremaining]
  exact (h.flatMap_right _).append_left _

theorem RecordSet.rects_perm {r s : RecordSet} (hworks : r.works.Perm s.works)
    (hchanges : ∀ w ∈ r.works, (w.ownChanges r.changes).Perm (w.ownChanges s.changes))
    (hbreaks : r.breaks.Perm s.breaks) : r.rects.Perm s.rects := by
  rw [rects_eq, rects_eq]
  exact (hworks.flatMap fun w hw => Work.rects_perm (hchanges w hw)).append (hbreaks.flatMap_right _)

end Roster
