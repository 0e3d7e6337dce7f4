import Roster.Proofs.Timeline.Collisions
/-!
# What a pass reports

The report of an uncancelled pass, read off the timelines of the loaded records: it checks all of them and lists the
ones with collisions. Its days are thus those clients and dates among the covered rects that have collisions
(`Report.mem_days`), in strict order (`Report.days_pairwise`), and each lists what `collisionsAmong` finds.
-/

namespace Roster

def DayCollisions.clientDay (d : DayCollisions) : ClientDay := ⟨d.client, d.date⟩

def Timeline.findings (t : Timeline) : DayCollisions := ⟨t.client, t.date, t.collisions⟩

theorem Timeline.filterMap_check_false (ts : List Timeline) :
    ts.filterMap (Timeline.check false) = ts.map Timeline.findings := by
  rw [← List.filterMap_eq_map]
  rfl

namespace Report

variable (run : String) (w : Window) (r : RecordSet)

theorem timelinesChecked_ofRecords : (ofRecords run w false r).timelinesChecked = (r.timelines w).length := by
  rw [ofRecords, Timeline.filterMap_check_false, List.length_map]

theorem cancelled_ofRecords : (ofRecords run w false r).cancelled = false := by
  rw [ofRecords, Timeline.filterMap_check_false, List.length_map]
  exact decide_eq_false (Nat.lt_irrefl _)

theorem days_ofRecords :
    (ofRecords run w false r).days = ((r.timelines w).map Timeline.findings).filter fun d => !d.collisions.isEmpty := by
  rw [ofRecords, Timeline.filterMap_check_false]

/-- If the timelines of one pass are those of another that a window covers, then so are the days. -/
theorem days_ofRecords_filter {w w' : Window} {r r' : RecordSet}
    (h : r.timelines w = (r'.timelines w').filter fun t => w.Covers t.client t.date) (run run' : String) :
    (ofRecords run w false r).days = (ofRecords run' w' false r').days.filter fun d => w.Covers d.client d.date := by
  have hcovered : ((r'.timelines w').map Timeline.findings).filter (fun d => w.Covers d.client d.date) =
      (r.timelines w).map Timeline.findings := by
    rw [h, List.filter_map]
    rfl
  rw [days_ofRecords, days_ofRecords, ← hcovered]
  exact List.filter_comm _ _ _

theorem days_pairwise : (ofRecords run w false r).days.Pairwise fun d e => d.clientDay < e.clientDay := by
  rw [days_ofRecords, RecordSet.timelines_eq]
  refine List.Pairwise.filter _ (List.pairwise_map.2 ?_)
  exact (Timeline.files_ofRects _).increasing

theorem mem_days {d : DayCollisions} :
    d ∈ (ofRecords run w false r).days ↔
      d.collisions = collisionsAmong ((w.covered r.rects).filter fun s => s.clientDay = d.clientDay) ∧
        d.collisions ≠ [] := by
  have hfound : ∀ k, (Timeline.among (w.covered r.rects) k).findings =
      ⟨k.client, k.date, collisionsAmong ((w.covered r.rects).filter fun s => s.clientDay = k)⟩ := fun _ => rfl
  rw [days_ofRecords, RecordSet.timelines_eq, Timeline.ofRects_eq, List.mem_filter, List.map_map, List.mem_map,
    Bool.not_eq_true', List.isEmpty_eq_false_iff]
  refine and_congr_left fun hnonempty => ⟨?_, fun hcollisions => ?_⟩
  · intro h
    obtain ⟨k, -, rfl⟩ := h
    exact congrArg DayCollisions.collisions (hfound k)
  · refine ⟨d.clientDay, Timeline.mem_clientDays.2 ?_, ?_⟩
    · have hrects : ((w.covered r.rects).filter fun s => s.clientDay = d.clientDay) ≠ [] := by
        intro hnil
        rw [hnil] at hcollisions
        exact hnonempty hcollisions
      obtain ⟨s, hs⟩ := List.exists_mem_of_ne_nil _ hrects
      obtain ⟨hs, hday⟩ := List.mem_filter.1 hs
      exact ⟨s, hs, of_decide_eq_true hday⟩
    · rw [Function.comp_apply, hfound, ← hcollisions]
      rfl

end Report

/-- A pass into a sink that takes everything reports on what the source has loaded. -/
theorem recompute_collecting {ε : Type} {source : Source ε} {w : Window} {r : RecordSet} (hload : source.load w = .ok r)
    (cancellation : Cancellation) (run : String) (taken : List Report) :
    recompute source Sink.collecting cancellation run w taken =
      (taken ++ [Report.ofRecords run w cancellation.isSet r], .ok (Report.ofRecords run w cancellation.isSet r)) := by
  simp only [recompute, hload, Sink.collecting]

end Roster
