import Roster.Proofs.Rect.Build
/-!
# The bounds of a work that no change refers to

What remains of a work is found on its axis, also if nothing is taken off: the finish is measured from the start and put
back on the clock. So a work without changes keeps its bounds exactly if its finish is recovered from its start
(`unchanged_work_keeps_bounds`), which it is unless one of the two is a leap second. A work that finishes in a leap second
but starts before it has its finish moved out of it, and one that starts in a leap second and runs past midnight finishes
too early. Breaks and changes have no axis, and keep such bounds.
-/

namespace Roster

namespace Origin

variable (o : Origin) (date : Date) (start finish : TimeOfDay)

theorem head?_rects : (o.rects date start finish).head?.map Rect.start = some start := by
  unfold rects
  rcases splitAtMidnight_cases date start finish with ⟨-, h⟩ | ⟨-, next, -, h⟩ | ⟨-, -, h⟩ <;> rw [h] <;> rfl

/-- Only where no day follows, the finish may be lost. -/
theorem getLast?_rects (hday : start ≤ finish ∨ ∃ next, date.succ? = some next) :
    (o.rects date start finish).getLast?.map Rect.finish = some finish := by
  unfold rects
  rcases splitAtMidnight_cases date start finish with ⟨-, h⟩ | ⟨-, next, -, h⟩ | ⟨hlt, hnone, -⟩
  · rw [h]
    rfl
  · rw [h]
    rfl
  · obtain hle | ⟨next, hnext⟩ := hday
    · exact absurd hlt (not_lt.2 hle)
    · rw [hnext] at hnone
      cases hnone

variable {o date start finish}

theorem finish_of_rects_eq (hday : ∃ next, date.succ? = some next) {start' finish' : TimeOfDay}
    (h : o.rects date start finish = o.rects date start' finish') : finish = finish' := by
  have hlast := o.getLast?_rects date start finish (.inr hday)
  rw [h, o.getLast?_rects date start' finish' (.inr hday)] at hlast
  exact (Option.some.inj hlast).symm

end Origin

namespace Work

variable {w : Work}

theorem remainingRects_of_recovers (h : w.start.Recovers w.finish) :
    w.remainingRects [] = w.origin.rects w.date w.start w.finish := by
  have hlength : 0 ≤ (Frame.ofWork w).length := h.forwardTo_nonneg
  have hfinish : (Frame.ofWork w).timeAt (Frame.ofWork w).length = w.finish := TimeOfDay.plus_forwardTo_iff.2 h
  rw [remainingRects_nil, Int.min_eq_left hlength, timeAt_zero, hfinish]

theorem recovers_of_remainingRects (hday : ∃ next, w.date.succ? = some next)
    (h : w.remainingRects [] = w.origin.rects w.date w.start w.finish) : w.start.Recovers w.finish := by
  rw [remainingRects_nil] at h
  exact TimeOfDay.plus_forwardTo_iff.1 (Origin.finish_of_rects_eq hday h)

end Work

theorem RecordSet.rects_cons_between (before after : List Work) (w : Work) (changes : List Change)
    (breaks : List Break) :
    (⟨before ++ w :: after, changes, breaks⟩ : RecordSet).rects =
      (⟨before, changes, []⟩ : RecordSet).rects ++ w.rects changes ++
        (⟨after, changes, breaks⟩ : RecordSet).rects := by
  simp only [rects_eq, List.flatMap_append, List.flatMap_cons, List.flatMap_nil, List.append_nil, List.append_assoc]

/-- Among whatever other records, the rects of a work that no change refers to are its own interval, cut at midnight, if its
finish is recovered from its start, and only then if a day follows for a cut interval to go on in. -/
theorem unchanged_work_keeps_bounds (before after : List Work) {w : Work} {changes : List Change} (breaks : List Break)
    (hchanges : ∀ c ∈ changes, c.work ≠ w.id) :
    (⟨before ++ w :: after, changes, breaks⟩ : RecordSet).rects =
        (⟨before, changes, []⟩ : RecordSet).rects ++ w.rects changes ++
          (⟨after, changes, breaks⟩ : RecordSet).rects ∧
      (∀ t ∈ w.rects changes, t.kind = .work) ∧
      (w.start.Recovers w.finish →
        w.rects changes = w.origin.rects w.date w.start w.finish ∧
          (w.rects changes).head?.map Rect.start = some w.start ∧
          ((w.start ≤ w.finish ∨ ∃ next, w.date.succ? = some next) →
            (w.rects changes).getLast?.map Rect.finish = some w.finish)) ∧
      ((∃ next, w.date.succ? = some next) → w.rects changes = w.origin.rects w.date w.start w.finish →
        w.start.Recovers w.finish) := by
  have hrects := Work.rects_of_no_changes hchanges
  refine ⟨RecordSet.rects_cons_between before after w changes breaks, ?_, ?_, ?_⟩
  · intro t ht
    rw [hrects] at ht
    exact (Origin.source_of_mem_rects ht).2
  · intro h
    have hown : w.rects changes = w.origin.rects w.date w.start w.finish :=
      hrects.trans (Work.remainingRects_of_recovers h)
    rw [hown]
    exact ⟨rfl, w.origin.head?_rects _ _ _, w.origin.getLast?_rects _ _ _⟩
  · intro hday hown
    exact Work.recovers_of_remainingRects hday (hrects.symm.trans hown)

/-- A watch at the weir that begins half way through the leap second before six. -/
def weirWatch : Work :=
  ⟨⟨"weir", by decide⟩, ⟨"harbour master", by decide⟩, ⟨"ebb", by decide⟩, ⟨2025, 10, 14, by decide⟩,
    ⟨21599, 1600000000, by decide, by decide, by decide⟩, .ofNanos (13 * 3600 * nanosPerSecond)⟩

def sluiceWatch : Work :=
  ⟨⟨"sluice", by decide⟩, ⟨"lock keeper", by decide⟩, ⟨"flood", by decide⟩, ⟨2025, 10, 14, by decide⟩,
    .ofNanos (9 * 3600 * nanosPerSecond), .ofNanos (11 * 3600 * nanosPerSecond)⟩

def sluiceClosed : Change :=
  ⟨⟨"low water", by decide⟩, sluiceWatch.id, .endCorrection, .ofNanos (10 * 3600 * nanosPerSecond), sluiceWatch.finish, none⟩

theorem weirWatch_keeps_bounds :
    (∀ c ∈ [sluiceClosed], c.work ≠ weirWatch.id) ∧ weirWatch.start.isLeap = true ∧
      weirWatch.rects [sluiceClosed] = weirWatch.origin.rects weirWatch.date weirWatch.start weirWatch.finish := by
  have hchanges : ∀ c ∈ [sluiceClosed], c.work ≠ weirWatch.id := by decide
  obtain ⟨-, -, hkeeps, -⟩ := unchanged_work_keeps_bounds [sluiceWatch] [] [] hchanges
  exact ⟨hchanges, rfl, (hkeeps (by decide)).1⟩

/-- A watch that is to finish with the leap second before ten. -/
def pilotWatch : Work :=
  ⟨⟨"pilot", by decide⟩, ⟨"coast guard", by decide⟩, ⟨"spring tide", by decide⟩, ⟨2025, 10, 15, by decide⟩,
    .ofNanos (8 * 3600 * nanosPerSecond), ⟨35999, 1000000000, by decide, by decide, by decide⟩⟩

/-- It has no changes, and still finishes at ten. -/
theorem pilotWatch_finishes_later :
    (⟨[pilotWatch], [], []⟩ : RecordSet).rects =
        pilotWatch.origin.rects pilotWatch.date pilotWatch.start (.ofNanos (10 * 3600 * nanosPerSecond)) ∧
      (⟨[pilotWatch], [], []⟩ : RecordSet).rects ≠
        pilotWatch.origin.rects pilotWatch.date pilotWatch.start pilotWatch.finish := by
  decide

end Roster
