import Roster.Proofs.Report.Agreement
import Roster.Proofs.Store.Coverage
/-!
# Passes over a store

What a pass reports does not depend on how the store selects rows. A narrower window reports its share of what a wider
one reports, in the same order (`narrowing_keeps_days`); and a store into which records were inserted gives a report
that agrees with the one on the records themselves (`insert_recompute_agrees`). Both follow from
`RecordSet.covered_rects_snapshot`: the covered rects are those of the arranged records, whatever was loaded.
-/

namespace Roster

namespace RecordSet

variable {r : RecordSet} {w w' : Window}

theorem timelines_snapshot (hr : r.Distinct) (hfour : r.FourDigitYears) (hlast : w.last.FourDigitYear) :
    (r.snapshot w).timelines w = Timeline.ofRects (w.covered r.arranged.rects) := by
  rw [timelines_eq, covered_rects_snapshot hr hfour hlast (Window.Within.refl w)]

theorem timelines_snapshot_filter (hr : r.Distinct) (hfour : r.FourDigitYears) (hlast : w.last.FourDigitYear)
    (hlast' : w'.last.FourDigitYear) (h : w.Within w') :
    (r.snapshot w).timelines w =
      ((r.snapshot w').timelines w').filter fun t => w.Covers t.client t.date := by
  have hfilter := Timeline.filter_ofRects (fun d => w.Covers d.client d.date) (w'.covered (r.snapshot w').rects)
  rw [timelines_snapshot hr hfour hlast, timelines_eq]
  refine Eq.trans (congrArg _ ?_) hfilter.symm
  exact ((h.covered_covered _).trans (covered_rects_snapshot hr hfour hlast' h)).symm

end RecordSet

theorem Store.recompute_holding {r : RecordSet} (hr : r.Distinct) (w : Window) (run : String) (taken : List Report) :
    recompute (holding r).source Sink.collecting .never run w taken =
      (taken ++ [Report.ofRecords run w false (r.snapshot w)], .ok (Report.ofRecords run w false (r.snapshot w))) :=
  recompute_collecting (load_holding hr w) .never run taken

/-- Narrowing a window changes nothing inside it: timelines and days are the wider window's that it covers. -/
theorem narrowing_keeps_days {batches : List RecordSet} (hyears : ∀ r ∈ batches, r.FourDigitYears) {w w' : Window}
    (hfirst : w'.first.FourDigitYear) (hlast : w'.last.FourDigitYear) (hwithin : w.Within w') (run run' : String)
    (taken taken' : List Report) :
    ∃ loaded loaded' report report',
      (Store.empty.insertAll batches).load w = .ok loaded ∧
      (Store.empty.insertAll batches).load w' = .ok loaded' ∧
      loaded.timelines w = (loaded'.timelines w').filter (fun t => w.Covers t.client t.date) ∧
      recompute (Store.empty.insertAll batches).source Sink.collecting .never run w taken =
        (taken ++ [report], .ok report) ∧
      recompute (Store.empty.insertAll batches).source Sink.collecting .never run' w' taken' =
        (taken' ++ [report'], .ok report') ∧
      report.days = report'.days.filter fun d => w.Covers d.client d.date := by
  have hdistinct := RecordSet.distinct_mergeAll batches
  have hfour := RecordSet.fourDigitYears_mergeAll hyears
  have hmiddle : w'.first ≤ w.last := Date.le_trans hwithin.first_le w.first_le_last
  have htimelines := RecordSet.timelines_snapshot_filter hdistinct hfour
    (hfirst.of_between hlast hmiddle hwithin.le_last) hlast hwithin
  rw [Store.insertAll_empty]
  refine ⟨_, _, _, _, Store.load_holding hdistinct w, Store.load_holding hdistinct w', htimelines,
    Store.recompute_holding hdistinct w run taken, Store.recompute_holding hdistinct w' run' taken', ?_⟩
  exact Report.days_ofRecords_filter htimelines run run'

/-- A night shift whose end goes to another client, and a shift of that client on the morning after. -/
def handover : RecordSet :=
  ⟨[⟨⟨"late", by decide⟩, ⟨"C3", by decide⟩, ⟨"S1", by decide⟩, ⟨2023, 12, 31, by decide⟩,
      .ofNanos (22 * 3600 * nanosPerSecond), .ofNanos (6 * 3600 * nanosPerSecond)⟩,
    ⟨⟨"morning", by decide⟩, ⟨"C4", by decide⟩, ⟨"S2", by decide⟩, ⟨2024, 1, 1, by decide⟩,
      .ofNanos (5 * 3600 * nanosPerSecond), .ofNanos (12 * 3600 * nanosPerSecond)⟩],
    [⟨⟨"handover", by decide⟩, ⟨"late", by decide⟩, .endReplacement, .ofNanos (23 * 3600 * nanosPerSecond),
      .ofNanos (6 * 3600 * nanosPerSecond), some ⟨"C4", by decide⟩⟩], []⟩

/-- The night of the handover and the day after, for all clients. -/
def handoverNight : Window := ⟨⟨2023, 12, 31, by decide⟩, ⟨2024, 1, 1, by decide⟩, none, by decide⟩

/-- The day after the handover, for the client who takes over. -/
def handoverMorning : Window :=
  ⟨⟨2024, 1, 1, by decide⟩, ⟨2024, 1, 1, by decide⟩, some ⟨"C4", by decide⟩, by decide⟩

theorem handoverMorning_keeps_days :
    ∃ report report',
      recompute (Store.empty.insertAll [handover]).source Sink.collecting .never "R" handoverMorning [] =
        ([report], .ok report) ∧
      recompute (Store.empty.insertAll [handover]).source Sink.collecting .never "R" handoverNight [] =
        ([report'], .ok report') ∧
      report.days = report'.days.filter fun d => handoverMorning.Covers d.client d.date := by
  have hyears : ∀ r ∈ [handover], r.FourDigitYears := List.forall_mem_singleton.2 ⟨by decide, by decide⟩
  have hwithin : handoverMorning.Within handoverNight := ⟨by decide, by decide, .inl rfl⟩
  obtain ⟨_, _, report, report', -, -, -, hnarrow, hwide, hdays⟩ :=
    narrowing_keeps_days hyears (by decide) (by decide) hwithin "R" "R" [] []
  exact ⟨report, report', hnarrow, hwide, hdays⟩

/-- Records and a new store into which they were inserted have reports that agree. -/
theorem insert_recompute_agrees {r : RecordSet} (hdistinct : r.Distinct) (hyears : r.FourDigitYears) {w : Window}
    (hlast : w.last.FourDigitYear) (run run' : String) (taken taken' : List Report) :
    ∃ added report report',
      (Store.empty.insert r).2 = .ok added ∧
      recompute (Store.empty.insert r).1.source Sink.collecting .never run w taken = (taken ++ [report], .ok report) ∧
      recompute r.source Sink.collecting .never run' w taken' = (taken' ++ [report'], .ok report') ∧
      report.Agrees report' := by
  have hinsert : Store.empty.insert r = (Store.holding r, .ok (RecordSet.empty.added r)) := by
    have hholding := Store.insert_holding .empty r
    rwa [RecordSet.empty_merge hdistinct] at hholding
  have hcovered : (w.covered (r.snapshot w).rects).Perm (w.covered r.rects) := by
    rw [RecordSet.covered_rects_snapshot hdistinct hyears hlast (Window.Within.refl w)]
    exact RecordSet.rects_arranged_perm.filter _
  rw [hinsert]
  refine ⟨_, _, _, rfl, Store.recompute_holding hdistinct w run taken, recompute_collecting rfl .never run' taken', ?_⟩
  exact Report.agrees_of_perm hcovered run run'

theorem handover_insert_agrees :
    ∃ added report report',
      (Store.empty.insert handover).2 = .ok added ∧
      recompute (Store.empty.insert handover).1.source Sink.collecting .never "R" handoverMorning [] =
        ([report], .ok report) ∧
      recompute handover.source Sink.collecting .never "R" handoverMorning [] = ([report'], .ok report') ∧
      report.Agrees report' := by
  have hdistinct : handover.Distinct := ⟨by decide, by decide, by decide⟩
  have hyears : handover.FourDigitYears := ⟨by decide, by decide⟩
  exact insert_recompute_agrees hdistinct hyears (by decide) "R" "R" [] []

end Roster
