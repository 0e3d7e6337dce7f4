import Roster.Proofs.Rect.Build
import Roster.Proofs.Report.Agreement
/-!
# The order of records does not matter

Records that come in another order give the same rects up to order, because the offers that changes make for the ends
of a work are taken together whatever their order. All windows report the same on them (`reordered_records_agree`).
Nothing is asked of the records: works may share identifiers, and then each of them takes all changes of that
identifier.
-/

namespace Roster

namespace RecordSet

/-- The same records, with those of each kind in any order. -/
structure Reorders (r s : RecordSet) : Prop where
  works : r.works.Perm s.works
  changes : r.changes.Perm s.changes
  breaks : r.breaks.Perm s.breaks

variable {r s : RecordSet}

theorem Reorders.size_eq (h : r.Reorders s) : r.size = s.size := by
  rw [size, size, h.works.length_eq, h.changes.length_eq, h.breaks.length_eq]

theorem Reorders.rects_perm (h : r.Reorders s) : r.rects.Perm s.rects := by
  apply RecordSet.rects_perm h.works ?_ h.breaks
  intro w _
  exact h.changes.filter _

end RecordSet

theorem reordered_records_agree {r s : RecordSet} (h : r.Reorders s) :
    r.rects.Perm s.rects ∧
      ∀ (w : Window) (run run' : String) (taken taken' : List Report), ∃ report report',
        recompute r.source Sink.collecting .never run w taken = (taken ++ [report], .ok report) ∧
        recompute s.source Sink.collecting .never run' w taken' = (taken' ++ [report'], .ok report') ∧
        report.records = report'.records ∧ report.Agrees report' := by
  refine ⟨h.rects_perm, ?_⟩
  intro w run run' taken taken'
  have hcovered : (w.covered r.rects).Perm (w.covered s.rects) := h.rects_perm.filter _
  refine ⟨_, _, recompute_collecting rfl .never run taken, recompute_collecting rfl .never run' taken', ?_, ?_⟩
  · exact h.size_eq
  · exact Report.agrees_of_perm hcovered run run'

/-- Two shifts of one client, the first of which starts late and goes to another client before it is over. -/
def twoShifts : RecordSet :=
  ⟨[⟨⟨"forenoon", by decide⟩, ⟨"C6", by decide⟩, ⟨"S7", by decide⟩, ⟨2025, 5, 12, by decide⟩,
      .ofNanos (6 * 3600 * nanosPerSecond), .ofNanos (14 * 3600 * nanosPerSecond)⟩,
    ⟨⟨"noon", by decide⟩, ⟨"C6", by decide⟩, ⟨"S8", by decide⟩, ⟨2025, 5, 12, by decide⟩,
      .ofNanos (10 * 3600 * nanosPerSecond), .ofNanos (18 * 3600 * nanosPerSecond)⟩],
    [⟨⟨"later", by decide⟩, ⟨"forenoon", by decide⟩, .startCorrection, .ofNanos (6 * 3600 * nanosPerSecond),
      .ofNanos (7 * 3600 * nanosPerSecond), none⟩,
    ⟨⟨"shorter", by decide⟩, ⟨"forenoon", by decide⟩, .endReplacement, .ofNanos (12 * 3600 * nanosPerSecond),
      .ofNanos (14 * 3600 * nanosPerSecond), some ⟨"C7", by decide⟩⟩], []⟩

/-- The shifts and the changes, each the other way round. -/
def twoShiftsReversed : RecordSet := ⟨twoShifts.works.reverse, twoShifts.changes.reverse, twoShifts.breaks⟩

def dayOfShifts : Window := ⟨⟨2025, 5, 12, by decide⟩, ⟨2025, 5, 13, by decide⟩, none, by decide⟩

theorem twoShifts_reversed_agree :
    twoShifts.Reorders twoShiftsReversed ∧ twoShifts.rects.Perm twoShiftsReversed.rects ∧
      ∃ report report',
        recompute twoShifts.source Sink.collecting .never "R" dayOfShifts [] = ([report], .ok report) ∧
        recompute twoShiftsReversed.source Sink.collecting .never "R" dayOfShifts [] = ([report'], .ok report') ∧
        report.records = report'.records ∧ report.Agrees report' := by
  have hreorders : twoShifts.Reorders twoShiftsReversed :=
    ⟨(List.reverse_perm _).symm, (List.reverse_perm _).symm, List.Perm.refl _⟩
  obtain ⟨hrects, hreports⟩ := reordered_records_agree hreorders
  exact ⟨hreorders, hrects, hreports dayOfShifts "R" "R" [] []⟩

end Roster
