import Roster.Proofs.Report.Pass
/-!
# Reports list the double-bookings, each once

`DoubleBooked` says when the rects in two places of a list double-book a client whom the window reports on. A pass
lists exactly these pairs of places: each under the client and date of its rects, the earlier place first, and within a
day in lexicographic order of the places (`reports_double_bookings`). Nothing is asked of the records, so rects that are
equal in different places are told apart, and works may share identifiers.
-/

namespace Roster

/-- The rects in two places double-book their client on their date, which the window reports on. -/
structure DoubleBooked (rects : List Rect) (w : Window) (i j : Fin rects.length) : Prop where
  lt : i < j
  client_eq : (rects.get i).client = (rects.get j).client
  date_eq : (rects.get i).date = (rects.get j).date
  first_le : w.first ≤ (rects.get i).date
  le_last : (rects.get i).date ≤ w.last
  client_mem : ∀ client ∈ w.client, client = (rects.get i).client
  kind_ne_left : (rects.get i).kind ≠ .break
  kind_ne_right : (rects.get j).kind ≠ .break
  source_ne : (rects.get i).source ≠ (rects.get j).source
  start_lt_left : (rects.get i).start < (rects.get j).finish
  start_lt_right : (rects.get j).start < (rects.get i).finish

/-- The collisions are those of the pairs of places that the relation holds of, in lexicographic order. -/
def ListsPlaces (rects : List Rect) (q : Fin rects.length → Fin rects.length → Prop) (collisions : List Collision) :
    Prop :=
  ∃ places : List (Fin rects.length × Fin rects.length),
    places.Pairwise (Prod.Lex (· < ·) (· < ·)) ∧ (∀ i j, (i, j) ∈ places ↔ q i j) ∧
      collisions = places.map fun ij => Collision.ofRects (rects.get ij.1) (rects.get ij.2)

theorem Rect.isBreak_eq_false_iff {r : Rect} : r.isBreak = false ↔ r.kind ≠ .break := by
  rw [isBreak, decide_eq_false_iff_not]

theorem Rect.clientDay_eq_iff {r s : Rect} : r.clientDay = s.clientDay ↔ r.client = s.client ∧ r.date = s.date := by
  rw [clientDay, clientDay, ClientDay.mk.injEq]

theorem doubleBooked_iff {rects : List Rect} {w : Window} {i j : Fin rects.length} :
    DoubleBooked rects w i j ↔
      i < j ∧ (rects.get i).clientDay = (rects.get j).clientDay ∧ w.CoversRect (rects.get i) ∧
        (rects.get i).CollidesWith (rects.get j) := by
  rw [Rect.clientDay_eq_iff, Window.CoversRect, Window.Covers, Rect.CollidesWith, Rect.Overlaps,
    Rect.isBreak_eq_false_iff, Rect.isBreak_eq_false_iff]
  constructor
  · intro h
    exact ⟨h.lt, ⟨h.client_eq, h.date_eq⟩, ⟨h.first_le, h.le_last, h.client_mem⟩, h.kind_ne_left, h.kind_ne_right,
      h.source_ne, h.start_lt_left, h.start_lt_right⟩
  · intro h
    obtain ⟨hlt, ⟨hclient, hdate⟩, ⟨hfirst, hlast, hmem⟩, hkind, hkind', hsource, hstart, hstart'⟩ := h
    exact ⟨hlt, hclient, hdate, hfirst, hlast, hmem, hkind, hkind', hsource, hstart, hstart'⟩

/-- Within a day that a window covers, the covered rects are all rects of the day. -/
theorem Window.filter_covered (w : Window) (rects : List Rect) (d : ClientDay) :
    ((w.covered rects).filter fun r => r.clientDay = d) =
      rects.filter fun r => r.clientDay = d ∧ w.Covers d.client d.date := by
  rw [covered, List.filter_filter]
  apply List.filter_congr
  intro r _
  by_cases hday : r.clientDay = d
  · subst hday
    simp [CoversRect, Rect.clientDay]
  · simp [hday]

def Window.placesOn (w : Window) (rects : List Rect) (d : ClientDay) : List (Fin rects.length × Fin rects.length) :=
  collidingPlaces rects fun r => r.clientDay = d ∧ w.Covers d.client d.date

theorem Window.mem_placesOn {w : Window} {rects : List Rect} {d : ClientDay} {i j : Fin rects.length} :
    (i, j) ∈ w.placesOn rects d ↔ DoubleBooked rects w i j ∧ (rects.get i).clientDay = d := by
  rw [placesOn, mem_collidingPlaces, doubleBooked_iff, decide_eq_true_iff, decide_eq_true_iff]
  constructor
  · intro h
    obtain ⟨⟨rfl, hcovers⟩, ⟨hj, -⟩, hlt, hcollide⟩ := h
    exact ⟨⟨hlt, hj.symm, hcovers, hcollide⟩, rfl⟩
  · intro h
    obtain ⟨⟨hlt, hij, hcovers, hcollide⟩, rfl⟩ := h
    exact ⟨⟨rfl, hcovers⟩, ⟨hij.symm, hcovers⟩, hlt, hcollide⟩

theorem Window.collisionsAmong_covered (w : Window) (rects : List Rect) (d : ClientDay) :
    collisionsAmong ((w.covered rects).filter fun r => r.clientDay = d) =
      (w.placesOn rects d).map fun ij => Collision.ofRects (rects.get ij.1) (rects.get ij.2) := by
  rw [w.filter_covered, collisionsAmong_filter, placesOn]

namespace Report

variable (run : String) (w : Window) (r : RecordSet)

theorem listsPlaces_of_mem_days {d : DayCollisions} (hd : d ∈ (ofRecords run w false r).days) :
    ListsPlaces r.rects (fun i j => DoubleBooked r.rects w i j ∧ (r.rects.get i).clientDay = d.clientDay)
      d.collisions := by
  obtain ⟨hcollisions, -⟩ := (mem_days run w r).1 hd
  rw [w.collisionsAmong_covered] at hcollisions
  exact ⟨w.placesOn r.rects d.clientDay, collidingPlaces_pairwise _ _, fun _ _ => Window.mem_placesOn, hcollisions⟩

theorem exists_day_of_doubleBooked {i j : Fin r.rects.length} (h : DoubleBooked r.rects w i j) :
    ∃ d ∈ (ofRecords run w false r).days, d.clientDay = (r.rects.get i).clientDay := by
  let k := (r.rects.get i).clientDay
  let found := collisionsAmong ((w.covered r.rects).filter fun s => s.clientDay = k)
  have hfound : found ≠ [] := by
    have hplaces : (i, j) ∈ w.placesOn r.rects k := Window.mem_placesOn.2 ⟨h, rfl⟩
    have hlist : found = _ := w.collisionsAmong_covered r.rects k
    rw [hlist]
    exact List.ne_nil_of_mem (List.mem_map_of_mem hplaces)
  exact ⟨⟨k.client, k.date, found⟩, (mem_days run w r).2 ⟨rfl, hfound⟩, rfl⟩

end Report

/-- A pass reports the double-bookings of the covered clients and dates, each once and in order. -/
theorem reports_double_bookings (r : RecordSet) (w : Window) (run : String) (taken : List Report) :
    ∃ report : Report,
      recompute r.source Sink.collecting .never run w taken = (taken ++ [report], .ok report) ∧
      report.days.Pairwise (fun d e => d.clientDay < e.clientDay) ∧
      (∀ d ∈ report.days, d.collisions ≠ [] ∧
        ListsPlaces r.rects (fun i j => DoubleBooked r.rects w i j ∧ (r.rects.get i).clientDay = d.clientDay)
          d.collisions) ∧
      ∀ i j, DoubleBooked r.rects w i j → ∃ d ∈ report.days, d.clientDay = (r.rects.get i).clientDay := by
  refine ⟨Report.ofRecords run w false r, recompute_collecting rfl .never run taken, ?_, ?_, ?_⟩
  · exact Report.days_pairwise run w r
  · intro d hd
    exact ⟨((Report.mem_days run w r).1 hd).2, Report.listsPlaces_of_mem_days run w r hd⟩
  · intro i j h
    exact Report.exists_day_of_doubleBooked run w r h

end Roster
