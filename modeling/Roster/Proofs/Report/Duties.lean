import Mathlib.Data.List.Forall2
import Roster.Proofs.Rect.Build
import Roster.Proofs.Report.Pass
/-!
# What the days of a report depend on

The days of a report depend on the duties of clients alone: the rects of works and of their changes
(`Report.days_eq_of_duties`). A break stands between other rects of its timeline and may open one of its own, but no
pair with it counts (`collisionsAmong_duties`). Duties in turn look at neither the shift of a work, nor the client that
a correction names, nor changes of works that are not there (`RecordSet.SameDuties.duties_eq`). Two record sets that
differ in nothing else are told apart by no window (`same_duties_same_days`).
-/

namespace Roster

/-- The rects that are no breaks, in the order given. -/
def Rect.duties (rects : List Rect) : List Rect := rects.filter fun r => !r.isBreak

/-! ### Breaks among rects -/

theorem collisionsAmong_duties (rects : List Rect) : collisionsAmong (Rect.duties rects) = collisionsAmong rects := by
  induction rects with
  | nil => rfl
  | cons a rects ih =>
      cases hbreak : a.isBreak with
      | true =>
          have hnone : (rects.filter fun b => a.CollidesWith b) = [] := by
            simp [Rect.CollidesWith, hbreak]
          simp [Rect.duties, hbreak, collisionsAmong, hnone, ← ih]
      | false =>
          have hkept : ((Rect.duties rects).filter fun b => a.CollidesWith b) =
              rects.filter fun b => a.CollidesWith b := by
            rw [Rect.duties, List.filter_filter]
            apply List.filter_congr
            intro b _
            cases hb : b.isBreak <;> simp [Rect.CollidesWith, hb]
          have hduties : Rect.duties (a :: rects) = a :: Rect.duties rects := by simp [Rect.duties, hbreak]
          rw [hduties, collisionsAmong, collisionsAmong, hkept, ih]

instance : Std.Antisymm fun d e : DayCollisions => d.clientDay < e.clientDay :=
  ⟨fun _ _ hde hed => absurd hed (Std.Asymm.asymm _ _ hde)⟩

instance : Std.Irrefl fun d e : DayCollisions => d.clientDay < e.clientDay :=
  ⟨fun d => ClientDay.lt_irrefl d.clientDay⟩

theorem Report.days_eq_of_duties {r s : RecordSet} (h : Rect.duties r.rects = Rect.duties s.rects) (w : Window)
    (run run' : String) : (ofRecords run w false r).days = (ofRecords run' w false s).days := by
  have hcollisions : ∀ d : ClientDay,
      collisionsAmong ((w.covered r.rects).filter fun t => t.clientDay = d) =
        collisionsAmong ((w.covered s.rects).filter fun t => t.clientDay = d) := by
    intro d
    have hcomm : ∀ rects : List Rect, Rect.duties ((w.covered rects).filter fun t => t.clientDay = d) =
        ((w.covered (Rect.duties rects)).filter fun t => t.clientDay = d) := by
      intro rects
      simp only [Rect.duties, Window.covered, List.filter_filter]
      apply List.filter_congr
      intro t _
      ac_rfl
    rw [← collisionsAmong_duties, hcomm, h, ← hcomm, collisionsAmong_duties]
  apply (days_pairwise run w r).eq_of_mem_iff (days_pairwise run' w s)
  intro d
  rw [mem_days, mem_days, hcollisions]

/-! ### Records with the same duties -/

/-- The same work, though perhaps for another shift. -/
structure Work.SameDuty (w v : Work) : Prop where
  id : w.id = v.id
  client : w.client = v.client
  date : w.date = v.date
  start : w.start = v.start
  finish : w.finish = v.finish

/-- The same change; only a correction may name another client. -/
structure Change.SameDuty (c d : Change) : Prop where
  id : c.id = d.id
  work : c.work = d.work
  kind : c.kind = d.kind
  start : c.start = d.start
  finish : c.finish = d.finish
  replacement : c.kind.isReplacement = true → c.replacement = d.replacement

/-- The same works in the same order, and the same changes of them; breaks may differ, and changes of other works. -/
structure RecordSet.SameDuties (r s : RecordSet) : Prop where
  works : List.Forall₂ Work.SameDuty r.works s.works
  changes : List.Forall₂ Change.SameDuty r.attached s.attached

variable {w v : Work} {c d : Change}

theorem Change.SameDuty.owner_eq (hc : c.SameDuty d) (hw : w.SameDuty v) : c.owner w = d.owner v := by
  unfold owner
  rw [← hc.kind, ← hw.client]
  by_cases hkind : c.kind.isReplacement = true
  · rw [hc.replacement hkind]
  · rw [if_neg hkind, if_neg hkind]

theorem Change.SameDuty.rects_eq (hc : c.SameDuty d) (hw : w.SameDuty v) : c.rects w = d.rects v := by
  simp only [rects, hc.owner_eq hw, rectKind, hc.id, hc.kind, hc.start, hc.finish, hw.id, hw.date]

theorem Change.SameDuty.add_eq (hc : c.SameDuty d) (f : Frame) (a : Adjustment) : a.add f c = a.add f d := by
  simp only [Adjustment.add, hc.kind, hc.start, hc.finish]

namespace Work.SameDuty

variable {own own' changes changes' : List Change}

theorem remaining_eq (hw : w.SameDuty v) (hown : List.Forall₂ Change.SameDuty own own') :
    w.remaining own = v.remaining own' := by
  have hframe : Frame.ofWork w = Frame.ofWork v := by simp only [Frame.ofWork, hw.start, hw.finish]
  have hoffers : Adjustment.ofChanges (Frame.ofWork v) own = Adjustment.ofChanges (Frame.ofWork v) own' := by
    apply List.rel_foldl (R := Change.SameDuty) (P := Eq) _ rfl hown
    rintro a _ rfl c d hc
    exact hc.add_eq _ a
  rw [remaining, remaining, hframe, hoffers]

theorem ownChanges_related (hw : w.SameDuty v) (hchanges : List.Forall₂ Change.SameDuty changes changes') :
    List.Forall₂ Change.SameDuty (w.ownChanges changes) (v.ownChanges changes') := by
  apply List.rel_filter _ hchanges
  intro c d hc
  simp only [hc.work, hw.id]

theorem rects_eq (hw : w.SameDuty v) (hchanges : List.Forall₂ Change.SameDuty changes changes') :
    w.rects changes = v.rects changes' := by
  have hown := hw.ownChanges_related hchanges
  have hrest : w.remainingRects (w.ownChanges changes) = v.remainingRects (v.ownChanges changes') := by
    simp only [remainingRects, hw.remaining_eq hown, Frame.ofWork, hw.id, hw.client, hw.date, hw.start, hw.finish]
  have hmoved : (w.ownChanges changes).flatMap (fun c => c.rects w) =
      (v.ownChanges changes').flatMap fun d => d.rects v := by
    rw [← List.forall₂_eq_eq_eq]
    apply List.rel_flatMap hown
    intro c d hc
    rw [List.forall₂_eq_eq_eq]
    exact hc.rects_eq hw
  rw [Work.rects_eq, Work.rects_eq, hrest, hmoved]

end Work.SameDuty

namespace RecordSet

theorem duties_rects (r : RecordSet) : Rect.duties r.rects = r.works.flatMap fun w => w.rects r.attached := by
  have hworks : Rect.duties (r.works.flatMap fun w => w.rects r.changes) = r.works.flatMap fun w => w.rects r.changes := by
    apply List.filter_eq_self.2
    intro t ht
    obtain ⟨w, -, ht⟩ := List.mem_flatMap.1 ht
    simp [Rect.isBreak, (Work.source_of_mem_rects ht).2]
  have hbreaks : Rect.duties (r.breaks.flatMap Break.rects) = [] := by
    apply List.filter_eq_nil_iff.2
    intro t ht
    obtain ⟨b, -, ht⟩ := List.mem_flatMap.1 ht
    simp [Rect.isBreak, Break.kind_of_mem_rects ht]
  have happend : Rect.duties r.rects =
      Rect.duties (r.works.flatMap fun w => w.rects r.changes) ++ Rect.duties (r.breaks.flatMap Break.rects) := by
    rw [rects_eq]
    exact List.filter_append ..
  rw [happend, hworks, hbreaks, List.append_nil]
  apply List.flatMap_congr
  intro w hw
  exact Work.rects_congr (ownChanges_attached hw).symm

theorem SameDuties.duties_eq {r s : RecordSet} (h : r.SameDuties s) : Rect.duties r.rects = Rect.duties s.rects := by
  rw [duties_rects, duties_rects, ← List.forall₂_eq_eq_eq]
  apply List.rel_flatMap h.works
  intro w v hw
  rw [List.forall₂_eq_eq_eq]
  exact hw.rects_eq h.changes

end RecordSet

/-- Record sets with the same duties have the same collisions on the same days, whatever the window. -/
theorem same_duties_same_days {r s : RecordSet} (h : r.SameDuties s) (w : Window) (run run' : String)
    (taken taken' : List Report) :
    ∃ report report' : Report,
      recompute r.source Sink.collecting .never run w taken = (taken ++ [report], .ok report) ∧
      recompute s.source Sink.collecting .never run' w taken' = (taken' ++ [report'], .ok report') ∧
      report.days = report'.days ∧ report.collisionCount = report'.collisionCount ∧
      report.isClean = report'.isClean := by
  have hdays := Report.days_eq_of_duties h.duties_eq w run run'
  refine ⟨_, _, recompute_collecting rfl .never run taken, recompute_collecting rfl .never run' taken', hdays, ?_, ?_⟩
  · exact congrArg (fun days => (days.flatMap DayCollisions.collisions).length) hdays
  · exact congrArg List.isEmpty hdays

/-- A morning and a late shift of one client, the first of which ends early. -/
def quayDay : RecordSet :=
  ⟨[⟨⟨"quay", by decide⟩, ⟨"C18", by decide⟩, ⟨"S16", by decide⟩, ⟨2025, 3, 3, by decide⟩,
      .ofNanos (6 * 3600 * nanosPerSecond), .ofNanos (14 * 3600 * nanosPerSecond)⟩,
    ⟨⟨"crane", by decide⟩, ⟨"C18", by decide⟩, ⟨"S17", by decide⟩, ⟨2025, 3, 3, by decide⟩,
      .ofNanos (12 * 3600 * nanosPerSecond), .ofNanos (20 * 3600 * nanosPerSecond)⟩],
    [⟨⟨"low tide", by decide⟩, ⟨"quay", by decide⟩, .endCorrection, .ofNanos (13 * 3600 * nanosPerSecond),
      .ofNanos (14 * 3600 * nanosPerSecond), none⟩], []⟩

/-- The same duties under other shifts. The correction names a client, a replacement belongs to no work, and a break
that goes by the name of a work lies across both shifts. -/
def quayDayAnnotated : RecordSet :=
  ⟨quayDay.works.map fun w => { w with shift := ⟨"S18", by decide⟩ },
    ⟨⟨"fog", by decide⟩, ⟨"pilot boat", by decide⟩, .endReplacement, .ofNanos (12 * 3600 * nanosPerSecond),
        .ofNanos (13 * 3600 * nanosPerSecond), some ⟨"C18", by decide⟩⟩ ::
      quayDay.changes.map fun c => { c with replacement := some ⟨"C19", by decide⟩ },
    [⟨⟨"quay", by decide⟩, ⟨"C18", by decide⟩, ⟨2025, 3, 3, by decide⟩, .ofNanos (11 * 3600 * nanosPerSecond),
      .ofNanos (15 * 3600 * nanosPerSecond)⟩]⟩

def quayWeek : Window := ⟨⟨2025, 3, 3, by decide⟩, ⟨2025, 3, 9, by decide⟩, none, by decide⟩

theorem quayDay_annotated_same_days :
    quayDay.SameDuties quayDayAnnotated ∧
      ∃ report report' : Report,
        recompute quayDay.source Sink.collecting .never "R" quayWeek [] = ([report], .ok report) ∧
        recompute quayDayAnnotated.source Sink.collecting .never "Q" quayWeek [] = ([report'], .ok report') ∧
        report.days = report'.days ∧ report.collisionCount = report'.collisionCount ∧
        report.isClean = report'.isClean ∧ report'.collisionCount = 2 := by
  have hduties : quayDay.SameDuties quayDayAnnotated := by
    constructor
    · exact .cons ⟨rfl, rfl, rfl, rfl, rfl⟩ (.cons ⟨rfl, rfl, rfl, rfl, rfl⟩ .nil)
    · have hattached : quayDay.attached = quayDay.changes := by decide
      have hattached' : quayDayAnnotated.attached = quayDayAnnotated.changes.tail := by decide
      rw [hattached, hattached']
      exact .cons ⟨rfl, rfl, rfl, rfl, rfl, nofun⟩ .nil
  have hcount : (recompute quayDayAnnotated.source Sink.collecting .never "Q" quayWeek []).1.map
      Report.collisionCount = [2] := by decide +kernel
  obtain ⟨report, report', hrun, hrun', hdays, hcounts, hclean⟩ :=
    same_duties_same_days hduties quayWeek "R" "Q" [] []
  rw [hrun'] at hcount
  exact ⟨hduties, report, report', hrun, hrun', hdays, hcounts, hclean, List.singleton_inj.1 hcount⟩

end Roster
