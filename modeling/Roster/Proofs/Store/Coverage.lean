import Roster.Proofs.Store.Snapshot
import Roster.Proofs.Timeline.Partition
/-!
# A window loads all that it covers

A rect that a window covers comes from a record that the window selects: the record is dated on the day of the rect or
the day before, and the client of the rect owns the record or is named by one of its changes. Texts select these dates
as long as the years have four digits. The rects that a window covers are thus the same whether they are built from
all records or from those a wider window loads (`RecordSet.covered_rects_snapshot`).
-/

namespace Roster

theorem Date.FallsOn.le {anchor day : Date} (hday : anchor.FallsOn day) : anchor ≤ day := by
  rw [← Date.dayNumber_le_iff]
  rcases hday with rfl | hnext
  · exact Int.le_refl _
  · have := Date.dayNumber_of_succ? hnext
    omega

/-- The second window covers all that the first covers, and is not narrowed to another client. -/
structure Window.Within (w w' : Window) : Prop where
  first_le : w'.first ≤ w.first
  le_last : w.last ≤ w'.last
  client : w'.client = none ∨ w'.client = w.client

namespace Window

theorem Within.refl (w : Window) : w.Within w := ⟨Date.le_refl _, Date.le_refl _, .inr rfl⟩

variable {w w' : Window}

theorem Within.client_mem (h : w.Within w') {client : ClientId} (hclient : client ∈ w'.client) : client ∈ w.client := by
  rcases h.client with hnone | hsame
  · rw [hnone] at hclient
    cases hclient
  · rwa [hsame] at hclient

theorem Within.covers (h : w.Within w') {client : ClientId} {date : Date} (hcovers : w.Covers client date) :
    w'.Covers client date := by
  obtain ⟨hfirst, hlast, hclient⟩ := hcovers
  refine ⟨Date.le_trans h.first_le hfirst, Date.le_trans hlast h.le_last, ?_⟩
  intro c hc
  exact hclient c (h.client_mem hc)

theorem Within.covered_covered (h : w.Within w') (rects : List Rect) :
    w.covered (w'.covered rects) = w.covered rects := by
  rw [covered, covered, covered, List.filter_filter]
  apply List.filter_congr
  intro r _
  by_cases hr : w.CoversRect r
  · have hr' : w'.CoversRect r := h.covers hr
    simp [hr, hr']
  · simp [hr]

/-! ### Dates -/

theorem loadFrom_le {anchor day : Date} (hday : anchor.FallsOn day) (hfirst : w.first ≤ day) : w.loadFrom ≤ anchor := by
  rw [loadFrom]
  cases hpred : w.first.pred? with
  | none => exact Date.le_of_pred?_eq_none hpred anchor
  | some before =>
      have hbefore := Date.dayNumber_of_pred? hpred
      have hnumber : day.dayNumber ≤ anchor.dayNumber + 1 := by
        rcases hday with rfl | hnext
        · omega
        · exact Int.le_of_eq (Date.dayNumber_of_succ? hnext)
      rw [← Date.dayNumber_le_iff] at hfirst
      rw [Option.getD_some, ← Date.dayNumber_le_iff]
      omega

/-- The texts of a window select the dates from which its days are reached. -/
theorem dated_of_fallsOn (hlast : w.last.FourDigitYear) {anchor day : Date} (hanchor : anchor.FourDigitYear)
    (hday : anchor.FallsOn day) (hfirst : w.first ≤ day) (hle : day ≤ w.last) :
    (Selection.ofWindow w).Dated anchor.toText := by
  constructor
  · exact hanchor.not_toText_lt (loadFrom_le hday hfirst)
  · exact hlast.not_toText_lt (Date.le_trans (hday.le) hle)

/-! ### Records -/

theorem Within.dated (h : w.Within w') (hlast : w'.last.FourDigitYear) {anchor : Date} (hanchor : anchor.FourDigitYear)
    {r : Rect} (hday : anchor.FallsOn r.date) (hcovers : w.CoversRect r) :
    (Selection.ofWindow w').Dated anchor.toText := by
  obtain ⟨hfirst, hle, -⟩ := h.covers hcovers
  exact dated_of_fallsOn hlast hanchor hday hfirst hle

theorem Within.client_eq (h : w.Within w') {r : Rect} (hcovers : w.CoversRect r) {text : String}
    (htext : text ∈ (Selection.ofWindow w').client) : r.client.text = text := by
  obtain ⟨client, hclient, rfl⟩ := Option.map_eq_some_iff.1 htext
  rw [hcovers.2.2 client (h.client_mem hclient)]

/-- A work is needed for each rect of it that a narrower window covers. -/
theorem Within.needsWork (h : w.Within w') (hlast : w'.last.FourDigitYear) {x : Work} (hx : x.date.FourDigitYear)
    {own changes : List Change} (hown : own ⊆ changes) {r : Rect} (hr : r ∈ x.rects own) (hcovers : w.CoversRect r) :
    w'.NeedsWork changes x := by
  obtain ⟨hday, howner⟩ := Work.mem_rects hr
  refine ⟨h.dated hlast hx hday hcovers, ?_⟩
  intro text htext
  have hclient := h.client_eq hcovers htext
  rcases howner with howner | ⟨c, hc, hwork, hreplacement⟩
  · rw [howner] at hclient
    exact .inl hclient
  · refine .inr ⟨ChangeRow.ofChange c, List.mem_map_of_mem (hown hc), ?_, congrArg Ident.text hwork⟩
    rw [ChangeRow.ofChange, hreplacement, Option.map_some, hclient]

theorem Within.needsBreak (h : w.Within w') (hlast : w'.last.FourDigitYear) {b : Break} (hb : b.date.FourDigitYear)
    {r : Rect} (hr : r ∈ b.rects) (hcovers : w.CoversRect r) : w'.NeedsBreak b := by
  obtain ⟨hday, howner⟩ := Break.mem_rects hr
  refine ⟨h.dated hlast hb hday hcovers, ?_⟩
  intro text htext
  have hclient := h.client_eq hcovers htext
  rwa [howner] at hclient

/-! ### Rects -/

/-- Records may be left out if the window covers none of their rects. -/
theorem flatMap_covered_filter {α : Type} {xs : List α} {p : α → Bool} {f : α → List Rect}
    (h : ∀ x ∈ xs, ∀ r ∈ f x, w.CoversRect r → p x = true) :
    ((xs.filter p).flatMap fun x => w.covered (f x)) = xs.flatMap fun x => w.covered (f x) := by
  induction xs with
  | nil => rfl
  | cons x xs ih =>
      obtain ⟨hx, hxs⟩ := List.forall_mem_cons.1 h
      rw [List.flatMap_cons, ← ih hxs]
      by_cases hp : p x = true
      · rw [List.filter_cons_of_pos hp, List.flatMap_cons]
      · have hnil : w.covered (f x) = [] := by
          apply List.filter_eq_nil_iff.2
          intro r hr hcovers
          exact hp (hx r hr (of_decide_eq_true hcovers))
        rw [List.filter_cons_of_neg hp, hnil, List.nil_append]

end Window

namespace RecordSet

variable {r : RecordSet} {w w' : Window}

theorem covered_rects (s : RecordSet) :
    w.covered s.rects = (s.works.flatMap fun x => w.covered (x.rects s.changes)) ++
      s.breaks.flatMap fun b => w.covered b.rects := by
  rw [Window.covered, rects_eq, List.filter_append, List.filter_flatMap, List.filter_flatMap]
  rfl

theorem covered_workRects_snapshot (hr : r.Distinct) (hfour : r.FourDigitYears) (hlast : w'.last.FourDigitYear)
    (h : w.Within w') :
    ((r.snapshot w').works.flatMap fun x => w.covered (x.rects (r.snapshot w').changes)) =
      r.arranged.works.flatMap fun x => w.covered (x.rects r.arranged.changes) := by
  have hkept : ∀ x ∈ (r.snapshot w').works,
      w.covered (x.rects (r.snapshot w').changes) = w.covered (x.rects r.arranged.changes) := by
    intro x hx
    obtain ⟨hx, hneeds⟩ := mem_snapshot_works.1 hx
    rw [Work.rects_congr (ownChanges_snapshot hr hx hneeds)]
  rw [List.flatMap_congr hkept]
  apply Window.flatMap_covered_filter
  intro x hx s hs hcovers
  have hsub : r.arranged.changes ⊆ r.changes := fun c hc => ((mem_arranged_changes hr).1 hc).1
  have hdate := hfour.works x ((mem_sortByKey _).1 hx)
  exact decide_eq_true (h.needsWork hlast hdate hsub hs hcovers)

theorem covered_breakRects_snapshot (hfour : r.FourDigitYears) (hlast : w'.last.FourDigitYear) (h : w.Within w') :
    ((r.snapshot w').breaks.flatMap fun b => w.covered b.rects) =
      r.arranged.breaks.flatMap fun b => w.covered b.rects := by
  apply Window.flatMap_covered_filter
  intro b hb s hs hcovers
  have hdate := hfour.breaks b ((mem_sortByKey _).1 hb)
  exact decide_eq_true (h.needsBreak hlast hdate hs hcovers)

theorem covered_rects_snapshot (hr : r.Distinct) (hfour : r.FourDigitYears) (hlast : w'.last.FourDigitYear)
    (h : w.Within w') : w.covered (r.snapshot w').rects = w.covered r.arranged.rects := by
  rw [covered_rects, covered_rects, covered_workRects_snapshot hr hfour hlast h,
    covered_breakRects_snapshot hfour hlast h]

end RecordSet

end Roster
