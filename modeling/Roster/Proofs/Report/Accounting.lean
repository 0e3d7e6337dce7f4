import Mathlib.Algebra.Ring.Nat
import Roster.Proofs.Report.Pass
/-!
# What a report accounts for

The numbers of a report are taken at different stages of a pass: records and rects when they have been loaded, timelines
as they are checked, collisions from the days that are left in the end. A cancelled pass checks no timeline
(`Timeline.filterMap_check_true`), so it tells the same of what was loaded and nothing of collisions. In every report
the days are some of the checked timelines, each with a collision, so that no collisions means no days
(`Report.isClean_iff`). A pass whose records cannot be loaded reports nothing at all
(`pass_accounts_for_what_it_loads`).
-/

namespace Roster

theorem Timeline.filterMap_check_true (ts : List Timeline) : ts.filterMap (Timeline.check true) = [] := by
  rw [List.filterMap_eq_nil_iff]
  intro t _
  rfl

namespace Report

theorem collisionCount_eq_sum (report : Report) :
    report.collisionCount = (report.days.map fun d => d.collisions.length).sum :=
  List.length_flatMap

/-- Where every day has a collision, there are no days only if there are no collisions. -/
theorem isClean_iff {report : Report} (hdays : ∀ d ∈ report.days, d.collisions ≠ []) :
    report.isClean = true ↔ report.collisionCount = 0 := by
  rw [isClean, List.isEmpty_iff, collisionCount, List.length_eq_zero_iff, List.flatMap_eq_nil_iff]
  constructor
  · intro hnone d hd
    rw [hnone] at hd
    cases hd
  · intro hnone
    rw [List.eq_nil_iff_forall_not_mem]
    intro d hd
    exact hdays d hd (hnone d hd)

variable (run : String) (w : Window) (cancelled : Bool) (r : RecordSet)

theorem rects_ofRecords :
    (ofRecords run w cancelled r).rects = ((r.timelines w).map fun t => t.rects.length).sum :=
  List.length_flatMap

theorem collisions_ne_nil : ∀ d ∈ (ofRecords run w cancelled r).days, d.collisions ≠ [] := by
  intro d hd
  have hfound := (List.mem_filter.1 hd).2
  rwa [Bool.not_eq_true', List.isEmpty_eq_false_iff] at hfound

theorem length_days_le : (ofRecords run w cancelled r).days.length ≤ (ofRecords run w cancelled r).timelinesChecked :=
  List.length_filter_le _ _

theorem timelinesChecked_of_cancelled : (ofRecords run w true r).timelinesChecked = 0 := by
  rw [ofRecords, Timeline.filterMap_check_true, List.length_nil]

theorem days_of_cancelled : (ofRecords run w true r).days = [] := by
  rw [ofRecords, Timeline.filterMap_check_true, List.filter_nil]

theorem cancelled_of_cancelled : (ofRecords run w true r).cancelled = true ↔ 0 < (r.timelines w).length := by
  rw [ofRecords, Timeline.filterMap_check_true, List.length_nil, decide_eq_true_iff]

/-- The report tells what was loaded, whether or not the pass was cancelled, and of the timelines among it either all or
none. -/
structure Accounts (report : Report) (w : Window) (r : RecordSet) (cancellation : Cancellation) : Prop where
  window : report.window = w
  records : report.records = r.works.length + r.changes.length + r.breaks.length
  rects : report.rects = ((r.timelines w).map fun t => t.rects.length).sum
  completed : cancellation = .never →
    report.timelinesChecked = (r.timelines w).length ∧ report.cancelled = false
  brokenOff : cancellation ≠ .never →
    report.timelinesChecked = 0 ∧ report.days = [] ∧ (report.cancelled = true ↔ 0 < (r.timelines w).length)
  collisions : ∀ d ∈ report.days, d.collisions ≠ []
  increasing : report.days.Pairwise fun d e => d.clientDay < e.clientDay
  days : report.days.length ≤ report.timelinesChecked
  count : report.collisionCount = (report.days.map fun d => d.collisions.length).sum
  clean : report.isClean = true ↔ report.collisionCount = 0

theorem accounts_ofRecords (cancellation : Cancellation) :
    (ofRecords run w cancellation.isSet r).Accounts w r cancellation where
  window := rfl
  records := rfl
  rects := rects_ofRecords run w _ r
  completed := by
    rintro rfl
    exact ⟨timelinesChecked_ofRecords run w r, cancelled_ofRecords run w r⟩
  brokenOff := by
    intro hset
    have hset : cancellation.isSet = true := by
      cases cancellation with
      | never => exact absurd rfl hset
      | beforePass => rfl
      | whileLoading => rfl
    rw [hset]
    exact ⟨timelinesChecked_of_cancelled run w r, days_of_cancelled run w r, cancelled_of_cancelled run w r⟩
  collisions := collisions_ne_nil run w _ r
  increasing := by
    cases cancellation.isSet with
    | false => exact days_pairwise run w r
    | true =>
        rw [days_of_cancelled]
        exact List.Pairwise.nil
  days := length_days_le run w _ r
  count := collisionCount_eq_sum _
  clean := isClean_iff (collisions_ne_nil run w _ r)

end Report

/-- A pass that cannot load its records fails and reports nothing. Any other pass adds one report, the one it answers,
and this accounts for the records and timelines that were loaded. -/
theorem pass_accounts_for_what_it_loads {ε : Type} (source : Source ε) (w : Window) (cancellation : Cancellation)
    (run : String) (taken : List Report) :
    match source.load w with
    | .error cause => recompute source Sink.collecting cancellation run w taken = (taken, .error (.load cause))
    | .ok r => ∃ report, recompute source Sink.collecting cancellation run w taken = (taken ++ [report], .ok report) ∧
        report.Accounts w r cancellation := by
  cases hload : source.load w with
  | error cause =>
      dsimp only
      rw [recompute, hload]
  | ok r =>
      exact ⟨_, recompute_collecting hload cancellation run taken, Report.accounts_ofRecords run w r cancellation⟩

end Roster
