import Mathlib.Data.List.Forall2
import Roster.Proofs.Report.Pass
/-!
# Reports on the same rects in another order

Two passes that cover the same rects, in whatever order, check the same timelines and find the same bookings on the
same days (`Report.agrees_of_perm`). Only the order of the collisions of a day may differ, and which of two colliding
rects comes first.
-/

namespace Roster

/-- The same client and date, and the same collisions up to their order and that of their rects. -/
structure DayCollisions.SameBookings (d e : DayCollisions) : Prop where
  clientDay : d.clientDay = e.clientDay
  collisions : (d.collisions.map Collision.unordered).Perm (e.collisions.map Collision.unordered)

/-- The reports tell the same about the covered rects. -/
structure Report.Agrees (a b : Report) : Prop where
  rects : a.rects = b.rects
  timelinesChecked : a.timelinesChecked = b.timelinesChecked
  cancelled : a.cancelled = b.cancelled
  collisionCount : a.collisionCount = b.collisionCount
  days : List.Forall₂ DayCollisions.SameBookings a.days b.days

theorem DayCollisions.SameBookings.length_eq {d e : DayCollisions} (h : d.SameBookings e) :
    d.collisions.length = e.collisions.length := by
  have hlength := h.collisions.length_eq
  rwa [List.length_map, List.length_map] at hlength

theorem DayCollisions.SameBookings.isEmpty_eq {d e : DayCollisions} (h : d.SameBookings e) :
    d.collisions.isEmpty = e.collisions.isEmpty := by
  rw [Bool.eq_iff_iff, List.isEmpty_iff_length_eq_zero, List.isEmpty_iff_length_eq_zero, h.length_eq]

theorem collisionCount_eq_of_forall₂ {ds es : List DayCollisions} (h : List.Forall₂ DayCollisions.SameBookings ds es) :
    (ds.flatMap DayCollisions.collisions).length = (es.flatMap DayCollisions.collisions).length := by
  induction h with
  | nil => rfl
  | cons hday _ ih =>
      rw [List.flatMap_cons, List.flatMap_cons, List.length_append, List.length_append, hday.length_eq, ih]

/-! ### Timelines -/

theorem Timeline.findings_among_sameBookings {rects rects' : List Rect} (h : rects.Perm rects') (d : ClientDay) :
    (Timeline.among rects d).findings.SameBookings (Timeline.among rects' d).findings where
  clientDay := rfl
  collisions := collisionsAmong_perm (h.filter _)

theorem Timeline.forall₂_findings {rects rects' : List Rect} (h : rects.Perm rects') :
    List.Forall₂ DayCollisions.SameBookings ((Timeline.ofRects rects).map findings)
      ((Timeline.ofRects rects').map findings) := by
  rw [ofRects_eq, ofRects_eq, clientDays_of_perm h, List.map_map, List.map_map, List.forall₂_map_left_iff,
    List.forall₂_map_right_iff]
  exact List.forall₂_same.2 fun d _ => findings_among_sameBookings h d

theorem Timeline.flatMap_rects_perm {rects rects' : List Rect} (h : rects.Perm rects') :
    ((Timeline.ofRects rects).flatMap Timeline.rects).Perm ((Timeline.ofRects rects').flatMap Timeline.rects) :=
  (flatMap_rects_ofRects rects).trans (h.trans (flatMap_rects_ofRects rects').symm)

/-! ### Reports -/

namespace Report

theorem forall₂_days {w : Window} {r s : RecordSet} (h : (w.covered r.rects).Perm (w.covered s.rects))
    (run run' : String) :
    List.Forall₂ DayCollisions.SameBookings (ofRecords run w false r).days (ofRecords run' w false s).days := by
  rw [days_ofRecords, days_ofRecords, RecordSet.timelines_eq, RecordSet.timelines_eq]
  refine List.rel_filter ?_ (Timeline.forall₂_findings h)
  intro d e hday
  simp only [hday.isEmpty_eq]

theorem agrees_of_perm {w : Window} {r s : RecordSet} (h : (w.covered r.rects).Perm (w.covered s.rects))
    (run run' : String) : (ofRecords run w false r).Agrees (ofRecords run' w false s) where
  rects := by
    rw [ofRecords, ofRecords, RecordSet.timelines_eq, RecordSet.timelines_eq]
    exact (Timeline.flatMap_rects_perm h).length_eq
  timelinesChecked := by
    have hlength := (Timeline.forall₂_findings h).length_eq
    rw [List.length_map, List.length_map] at hlength
    rw [timelinesChecked_ofRecords, timelinesChecked_ofRecords, RecordSet.timelines_eq, RecordSet.timelines_eq, hlength]
  cancelled := by rw [cancelled_ofRecords, cancelled_ofRecords]
  collisionCount := collisionCount_eq_of_forall₂ (forall₂_days h run run')
  days := forall₂_days h run run'

end Report

end Roster
