import Roster.Proofs.Text.Bytes
import Roster.Proofs.Timeline.Partition
/-!
# Rects sorted into timelines and put back together

The timelines of rects come in the order of the bytes of their clients, then of their dates. None is without rects, each
holds just the rects of its client and date in the order in which they were given, and each rect has its timeline. This
leaves no choice (`Timeline.sorts_iff`). Put back together, the timelines give all rects and no rect twice
(`Timeline.flatMap_rects_ofRects`). The rects of one timeline still follow one another there in their order, so sorting
them again gives the same timelines (`Timeline.Files.regroup`).
-/

namespace Roster

/-- First by the bytes of the clients in UTF-8, then by the dates. -/
def ClientDay.Precedes (a b : ClientDay) : Prop :=
  a.client.text.toUTF8.toList < b.client.text.toUTF8.toList ∨ a.client = b.client ∧ a.date < b.date

theorem ClientDay.precedes_iff {a b : ClientDay} : a.Precedes b ↔ a < b := by
  rw [Precedes, ← Text.lt_iff_toUTF8_lt]
  rfl

namespace Timeline

/-- What it is for timelines to hold rects sorted by client and date. -/
structure Sorts (rects : List Rect) (ts : List Timeline) : Prop where
  increasing : ts.Pairwise fun t u => t.clientDay.Precedes u.clientDay
  rects_ne_nil : ∀ t ∈ ts, t.rects ≠ []
  rects_eq : ∀ t ∈ ts, t.rects = rects.filter fun r => r.clientDay = t.clientDay
  exists_timeline : ∀ r ∈ rects, ∃ t ∈ ts, t.clientDay = r.clientDay

variable {rects : List Rect} {ts : List Timeline}

theorem Files.clientDay_eq (h : Files rects ts) {t : Timeline} (ht : t ∈ ts) {r : Rect} (hr : r ∈ t.rects) :
    r.clientDay = t.clientDay := by
  rw [h.rects_eq t ht] at hr
  exact of_decide_eq_true (List.mem_filter.1 hr).2

theorem Files.sorts (h : Files rects ts) : Sorts rects ts where
  increasing := h.increasing.imp ClientDay.precedes_iff.2
  rects_ne_nil := by
    intro t ht hnil
    obtain ⟨r, hr, hday⟩ := (h.exists_iff t.clientDay).1 ⟨t, ht, rfl⟩
    have hmem : r ∈ t.rects := by
      rw [h.rects_eq t ht]
      exact List.mem_filter.2 ⟨hr, decide_eq_true hday⟩
    rw [hnil] at hmem
    cases hmem
  rects_eq := h.rects_eq
  exists_timeline := fun r hr => (h.exists_iff r.clientDay).2 ⟨r, hr, rfl⟩

theorem Sorts.files (h : Sorts rects ts) : Files rects ts where
  increasing := h.increasing.imp ClientDay.precedes_iff.1
  rects_eq := h.rects_eq
  exists_iff := by
    intro d
    constructor
    · rintro ⟨t, ht, rfl⟩
      obtain ⟨r, hr⟩ := List.exists_mem_of_ne_nil _ (h.rects_ne_nil t ht)
      rw [h.rects_eq t ht, List.mem_filter, decide_eq_true_iff] at hr
      exact ⟨r, hr⟩
    · rintro ⟨r, hr, rfl⟩
      exact h.exists_timeline r hr

theorem sorts_iff : Sorts rects ts ↔ ts = ofRects rects := by
  constructor
  · intro h
    exact h.files.eq_ofRects
  · rintro rfl
    exact (files_ofRects rects).sorts

/-- Of all rects that the timelines hold, those of one client and date make up their timeline again. -/
theorem Files.filter_flatMap_rects (h : Files rects ts) {t : Timeline} (ht : t ∈ ts) :
    ((ts.flatMap Timeline.rects).filter fun r => r.clientDay = t.clientDay) = t.rects := by
  have hnone : ∀ us ⊆ ts, (∀ u ∈ us, u.clientDay ≠ t.clientDay) →
      ((us.flatMap Timeline.rects).filter fun r => r.clientDay = t.clientDay) = [] := by
    intro us hus hne
    apply List.filter_eq_nil_iff.2
    intro r hr hday
    obtain ⟨u, hu, hr⟩ := List.mem_flatMap.1 hr
    exact hne u hu ((h.clientDay_eq (hus hu) hr).symm.trans (of_decide_eq_true hday))
  have hown : (t.rects.filter fun r => r.clientDay = t.clientDay) = t.rects :=
    List.filter_eq_self.2 fun r hr => decide_eq_true (h.clientDay_eq ht hr)
  obtain ⟨earlier, later, rfl⟩ := List.append_of_mem ht
  obtain ⟨-, hlater, hearlier⟩ := List.pairwise_append.1 h.increasing
  have hbefore := hnone earlier (List.subset_append_left _ _) fun u hu heq =>
    ClientDay.lt_irrefl _ (heq ▸ hearlier u hu t List.mem_cons_self)
  have hbehind := hnone later (fun u hu => List.mem_append_right _ (List.mem_cons_of_mem t hu)) fun u hu heq =>
    ClientDay.lt_irrefl _ (heq ▸ (List.pairwise_cons.1 hlater).1 u hu)
  rw [List.flatMap_append, List.flatMap_cons, List.filter_append, List.filter_append, hbefore, hown, hbehind,
    List.nil_append, List.append_nil]

theorem Files.regroup (h : Files rects ts) (hperm : (ts.flatMap Timeline.rects).Perm rects) :
    Files (ts.flatMap Timeline.rects) ts where
  increasing := h.increasing
  rects_eq := fun t ht => (h.filter_flatMap_rects ht).symm
  exists_iff := by
    intro d
    simp only [h.exists_iff d, hperm.mem_iff]

end Timeline

/-- Rects are sorted into timelines by client and date, in the order in which they were given, none of them lost. Sorting
the rects of the timelines again changes nothing. -/
theorem timelines_sort_rects (rects : List Rect) :
    (∀ ts, Timeline.Sorts rects ts ↔ ts = Timeline.ofRects rects) ∧
      ((Timeline.ofRects rects).flatMap Timeline.rects).Perm rects ∧
      Timeline.ofRects ((Timeline.ofRects rects).flatMap Timeline.rects) = Timeline.ofRects rects := by
  have hperm := Timeline.flatMap_rects_ofRects rects
  have hagain := (Timeline.files_ofRects rects).regroup hperm
  exact ⟨fun ts => Timeline.sorts_iff, hperm, hagain.eq_ofRects.symm⟩

end Roster
