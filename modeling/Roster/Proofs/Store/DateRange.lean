import Roster.Proofs.Calendar.TextOrder
import Roster.Proofs.Store.Query
/-!
# Which dates a range of texts selects

A query selects the dates whose texts lie between those of two dates, in the order of texts. These are the dates in
between if the texts are ordered as the dates are (`Date.toText_lt_iff_lt`), and also if both ends have years of four
digits: whatever else is stored, only years of four digits have their texts between two such texts
(`Window.Sorts.dated_iff`). For other windows, a query may miss dates that are in reach, and return some that are not.
-/

namespace Roster

/-- Comparing texts decides rightly whether the date is in reach of the window. -/
inductive Window.Sorts (w : Window) (date : Date) : Prop
  | fourDigits (hfrom : w.loadFrom.FourDigitYear) (hlast : w.last.FourDigitYear)
  | inOrder (hfrom : date.SortsWith w.loadFrom) (hlast : w.last.SortsWith date)

/-- The second records are what a query of the window returns of the first, as far as their dates are compared rightly. -/
structure Window.Answered (w : Window) (stored loaded : RecordSet) : Prop where
  works_subset : ∀ x ∈ loaded.works, x ∈ stored.works
  mem_works : ∀ x ∈ stored.works, w.Sorts x.date →
    (x ∈ loaded.works ↔ w.Reaches x.date ∧ ∀ client ∈ w.client, x.Concerns client stored.changes)
  mem_changes : ∀ c, c ∈ loaded.changes ↔ c ∈ stored.changes ∧ ∃ x ∈ loaded.works, c.work = x.id
  breaks_subset : ∀ b ∈ loaded.breaks, b ∈ stored.breaks
  mem_breaks : ∀ b ∈ stored.breaks, w.Sorts b.date →
    (b ∈ loaded.breaks ↔ w.Reaches b.date ∧ ∀ client ∈ w.client, b.client = client)

namespace Window

variable {w : Window} {date : Date}

/-- Years that are written with a sign have their texts before all years of four digits. -/
theorem Sorts.dated_iff (h : w.Sorts date) : (Selection.ofWindow w).Dated date.toText ↔ w.Reaches date := by
  cases h with
  | inOrder hfrom hlast =>
      rw [Selection.Dated, Selection.ofWindow, Date.toText_lt_iff_lt.2 hfrom, Date.toText_lt_iff_lt.2 hlast]
      exact Iff.rfl
  | fourDigits hfrom hlast =>
      by_cases hdate : date.FourDigitYear
      · exact Window.dated_iff hlast hdate
      · have htext : date.toText < w.loadFrom.toText := by
          by_cases hneg : date.year < 0
          · exact Date.FourDigitYear.toText_lt_of_neg hneg hfrom
          · exact Date.toText_lt_of_wide hfrom.2 (by unfold Date.FourDigitYear at hdate; omega)
        have hreaches : ¬ w.Reaches date := by
          intro hreaches
          obtain ⟨hfirst, hle⟩ := hreaches
          rw [Date.le_iff, Date.lt_iff] at hfirst hle
          unfold Date.FourDigitYear at *
          omega
        exact iff_of_false (fun hdated => hdated.1 htext) hreaches

end Window

theorem RecordSet.answered_snapshot {r : RecordSet} (hr : r.Distinct) (w : Window) : w.Answered r (r.snapshot w) where
  works_subset _ hx := (mem_snapshot_works.1 hx).1
  mem_works x hx hsorts := by
    rw [mem_snapshot_works, Window.needsWork_iff hsorts.dated_iff]
    exact and_iff_right hx
  mem_changes _ := mem_snapshot_changes hr
  breaks_subset _ hb := (mem_snapshot_breaks.1 hb).1
  mem_breaks b hb hsorts := by
    rw [mem_snapshot_breaks, Window.needsBreak_iff hsorts.dated_iff]
    exact and_iff_right hb

/-- Two dates have their texts in order exactly if `Date.SortsWith` says so, as in years of four digits. A query decides
by the dates of the stored records wherever it compares them with dates whose texts are in order. -/
theorem texts_sort_as_dates (a b : Date) (batches : List RecordSet) (w : Window) :
    ((a.toText < b.toText ↔ a < b) ↔ a.SortsWith b) ∧
      (a.FourDigitYear → b.FourDigitYear → a.SortsWith b) ∧
      ∃ stored loaded, Store.empty.insertAll batches = Store.holding stored ∧
        (Store.empty.insertAll batches).load w = .ok loaded ∧ w.Answered stored loaded := by
  have hdistinct := RecordSet.distinct_mergeAll batches
  have hstored := Store.insertAll_empty batches
  refine ⟨Date.toText_lt_iff_lt, Date.FourDigitYear.sortsWith, _, _, hstored, ?_,
    RecordSet.answered_snapshot hdistinct w⟩
  rw [hstored]
  exact Store.load_holding hdistinct w

/-- A round on the first morning of the year 10000. -/
def firstRound : RecordSet :=
  ⟨[⟨⟨"first round", by decide⟩, ⟨"C31", by decide⟩, ⟨"S24", by decide⟩, ⟨10000, 1, 1, by decide⟩,
    .ofNanos (6 * 3600 * nanosPerSecond), .ofNanos (7 * 3600 * nanosPerSecond)⟩], [], []⟩

/-- The turn of the year 10000. -/
def turnOfYear : Window := ⟨⟨9999, 12, 31, by decide⟩, ⟨10000, 1, 1, by decide⟩, none, by decide⟩

/-- The text of the new year's date comes first, and the query for it finds nothing. -/
theorem firstRound_is_missed :
    turnOfYear.first < turnOfYear.last ∧ turnOfYear.last.toText < turnOfYear.first.toText ∧
      (∀ x ∈ firstRound.works, turnOfYear.Reaches x.date) ∧
      (Store.empty.insertAll [firstRound]).load turnOfYear = .ok ⟨[], [], []⟩ := by
  refine ⟨by decide, Date.toText_lt_of_wide (by decide) (by decide), ?_, ?_⟩
  · decide
  · cbv

end Roster
