import Roster.Proofs.Report.Reordering
import Roster.Proofs.Store.FirstWins
import Roster.Proofs.Store.Recompute
/-!
# How records came in leaves no trace

Batches merge as if they were one (`RecordSet.mergeAll_of_distinct`), so of records with distinct identifiers nothing is
lost wherever they are cut. Their order shows in the tables, but in nothing that is loaded: works, changes and breaks
are selected by what the tables hold, not where, and their keys end with identifiers, so that sorting by them leaves no
choice (`RecordSet.Reorders.snapshot_eq`). Hence the same records give the same answers however they came in
(`batching_leaves_no_trace`).
-/

namespace Roster

namespace RecordSet

/-- The records of all batches. -/
def concat (batches : List RecordSet) : RecordSet :=
  ⟨batches.flatMap works, batches.flatMap changes, batches.flatMap breaks⟩

/-- The batches hold the records, ordered and cut in whatever way. -/
def CutInto (r : RecordSet) (batches : List RecordSet) : Prop := r.Reorders (concat batches)

variable {r s : RecordSet}

theorem merge_append (r s t : RecordSet) : r.merge (s ++ t) = (r.merge s).merge t := by
  show r.merge (s.append t) = _
  simp only [merge, append, addRows_append]

theorem foldl_merge (r : RecordSet) (batches : List RecordSet) :
    batches.foldl merge r = r.merge (concat batches) := by
  induction batches generalizing r with
  | nil => rfl
  | cons s batches ih =>
      have hconcat : concat (s :: batches) = s ++ concat batches := rfl
      rw [List.foldl_cons, ih, hconcat, merge_append]

theorem mergeAll_of_distinct {batches : List RecordSet} (h : (concat batches).Distinct) :
    mergeAll batches = concat batches := by
  rw [mergeAll, foldl_merge, empty_merge h]

namespace Reorders

theorem distinct (h : r.Reorders s) (hr : r.Distinct) : s.Distinct where
  works := (h.works.map Work.id).nodup_iff.1 hr.works
  changes := (h.changes.map Change.id).nodup_iff.1 hr.changes
  breaks := (h.breaks.map Break.id).nodup_iff.1 hr.breaks

theorem needsWork_iff (h : r.Reorders s) (w : Window) (x : Work) :
    w.NeedsWork r.changes x ↔ w.NeedsWork s.changes x := by
  simp only [Window.NeedsWork, Selection.SelectsWork, Selection.Concerns, (h.changes.map ChangeRow.ofChange).mem_iff]

/-- A change is joined with its work wherever that stands. -/
theorem joined_perm (h : r.Reorders s) (hr : r.Distinct) : r.joined.Perm s.joined := by
  have hfind : ∀ id : WorkId, (r.works.find? fun x => x.id = id) = s.works.find? fun x => x.id = id := by
    intro id
    ext x
    rw [find?_work_eq_some_iff hr, find?_work_eq_some_iff (h.distinct hr), h.works.mem_iff]
  simp only [joined, hfind]
  exact h.changes.filterMap _

theorem snapshot_eq (h : r.Reorders s) (hr : r.Distinct) (w : Window) : r.snapshot w = s.snapshot w := by
  simp only [snapshot, sortByKey_of_perm Work.rowKey hr.workKeys h.works,
    sortByKey_of_perm JoinedChange.pairKey hr.pairKeys (h.joined_perm hr),
    sortByKey_of_perm Break.rowKey hr.breakKeys h.breaks, h.needsWork_iff]

end Reorders

/-- What is loaded can be told from the records alone. -/
theorem CutInto.load_eq {batches : List RecordSet} (h : r.CutInto batches) (hr : r.Distinct) (w : Window) :
    (Store.empty.insertAll batches).load w = .ok (r.snapshot w) := by
  have hconcat : (concat batches).Distinct := Reorders.distinct h hr
  rw [Store.insertAll_empty, mergeAll_of_distinct hconcat, Store.load_holding hconcat, Reorders.snapshot_eq h hr]

end RecordSet

theorem batching_leaves_no_trace {r : RecordSet} (hr : r.Distinct) {batches batches' : List RecordSet}
    (h : r.CutInto batches) (h' : r.CutInto batches') (w : Window) (run run' : String) (taken taken' : List Report) :
    ∃ loaded report report',
      (Store.empty.insertAll batches).load w = .ok loaded ∧
      (Store.empty.insertAll batches').load w = .ok loaded ∧
      recompute (Store.empty.insertAll batches).source Sink.collecting .never run w taken =
        (taken ++ [report], .ok report) ∧
      recompute (Store.empty.insertAll batches').source Sink.collecting .never run' w taken' =
        (taken' ++ [report'], .ok report') ∧
      report' = { report with run := run' } := by
  have hload := h.load_eq hr w
  have hload' := h'.load_eq hr w
  exact ⟨_, _, _, hload, hload', recompute_collecting hload .never run taken,
    recompute_collecting hload' .never run' taken', rfl⟩

/-- Two works of one client that begin together, and two changes of one of them. -/
def evening : RecordSet :=
  ⟨[⟨⟨"foyer", by decide⟩, ⟨"C14", by decide⟩, ⟨"S14", by decide⟩, ⟨2025, 11, 8, by decide⟩,
      .ofNanos (18 * 3600 * nanosPerSecond), .ofNanos (23 * 3600 * nanosPerSecond)⟩,
    ⟨⟨"cloakroom", by decide⟩, ⟨"C14", by decide⟩, ⟨"S15", by decide⟩, ⟨2025, 11, 8, by decide⟩,
      .ofNanos (18 * 3600 * nanosPerSecond), .ofNanos (1 * 3600 * nanosPerSecond)⟩],
    [⟨⟨"doors open", by decide⟩, ⟨"cloakroom", by decide⟩, .startCorrection, .ofNanos (18 * 3600 * nanosPerSecond),
      .ofNanos (19 * 3600 * nanosPerSecond), none⟩,
    ⟨⟨"last tram", by decide⟩, ⟨"cloakroom", by decide⟩, .endReplacement, .ofNanos (0 * 3600 * nanosPerSecond),
      .ofNanos (1 * 3600 * nanosPerSecond), some ⟨"C15", by decide⟩⟩],
    [⟨⟨"interval", by decide⟩, ⟨"C15", by decide⟩, ⟨2025, 11, 8, by decide⟩, .ofNanos (20 * 3600 * nanosPerSecond),
      .ofNanos (21 * 3600 * nanosPerSecond)⟩]⟩

/-- Works before changes before breaks, each kind backwards. -/
def eveningByKind : List RecordSet :=
  [⟨evening.works.reverse, [], []⟩, ⟨[], evening.changes.reverse, []⟩, ⟨[], [], evening.breaks⟩]

/-- Changes before the works they belong to. -/
def eveningChangesFirst : List RecordSet := [⟨[], evening.changes, evening.breaks⟩, ⟨evening.works, [], []⟩]

def eveningOfBoth : Window := ⟨⟨2025, 11, 8, by decide⟩, ⟨2025, 11, 9, by decide⟩, none, by decide⟩

theorem evening_leaves_no_trace :
    evening.Distinct ∧ evening.CutInto eveningByKind ∧ evening.CutInto eveningChangesFirst ∧
      ∃ loaded report report',
        (Store.empty.insertAll eveningByKind).load eveningOfBoth = .ok loaded ∧
        (Store.empty.insertAll eveningChangesFirst).load eveningOfBoth = .ok loaded ∧
        recompute (Store.empty.insertAll eveningByKind).source Sink.collecting .never "R" eveningOfBoth [] =
          ([report], .ok report) ∧
        recompute (Store.empty.insertAll eveningChangesFirst).source Sink.collecting .never "Q" eveningOfBoth [] =
          ([report'], .ok report') ∧
        report' = { report with run := "Q" } := by
  have hdistinct : evening.Distinct := ⟨by decide, by decide, by decide⟩
  have hbyKind : evening.CutInto eveningByKind :=
    ⟨(List.reverse_perm _).symm, (List.reverse_perm _).symm, List.Perm.refl _⟩
  have hchangesFirst : evening.CutInto eveningChangesFirst :=
    ⟨List.Perm.refl _, List.Perm.refl _, List.Perm.refl _⟩
  exact ⟨hdistinct, hbyKind, hchangesFirst,
    batching_leaves_no_trace hdistinct hbyKind hchangesFirst eveningOfBoth "R" "Q" [] []⟩

end Roster
