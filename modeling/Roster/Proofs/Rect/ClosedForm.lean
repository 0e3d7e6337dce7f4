import Roster.Proofs.Rect.Build
/-!
# What remains of a work, in closed form

The two ends of a work are moved by one change after the other. Each step puts one offer to those that came before it
(`Adjustment.max?_start_add`, `Adjustment.min?_finish_add`), so after all of them the start stands at the greatest of
its offers and the finish at the least of its own (`Adjustment.start_ofChanges`, `Adjustment.finish_ofChanges`). The
ends of the work itself only count where there is no offer. The rects of kind `work` are the interval between the two
places, cut at midnight (`work_rects_eq_split`).
-/

namespace Roster

/-! ### Offers -/

/-- The new time for the end of the work that the change moves. -/
def Change.boundary (c : Change) : TimeOfDay := if c.kind.adjustsStart then c.finish else c.start

namespace Frame

/-- Where the changes that move the start of the work finish. -/
def startOffers (f : Frame) (changes : List Change) : List Int :=
  (changes.filter fun c => c.kind.adjustsStart).map fun c => f.position c.finish

/-- Where the changes that move the finish of the work start. -/
def finishOffers (f : Frame) (changes : List Change) : List Int :=
  (changes.filter fun c => !c.kind.adjustsStart).map fun c => f.position c.start

variable {f : Frame} {c : Change} {changes : List Change}

theorem startOffers_cons_of_pos (hkind : c.kind.adjustsStart = true) :
    f.startOffers (c :: changes) = f.position c.finish :: f.startOffers changes := by
  simp [startOffers, hkind]

theorem startOffers_cons_of_neg (hkind : c.kind.adjustsStart = false) :
    f.startOffers (c :: changes) = f.startOffers changes := by
  simp [startOffers, hkind]

theorem finishOffers_cons_of_pos (hkind : c.kind.adjustsStart = true) :
    f.finishOffers (c :: changes) = f.finishOffers changes := by
  simp [finishOffers, hkind]

theorem finishOffers_cons_of_neg (hkind : c.kind.adjustsStart = false) :
    f.finishOffers (c :: changes) = f.position c.start :: f.finishOffers changes := by
  simp [finishOffers, hkind]

theorem mem_startOffers {p : Int} :
    p ∈ f.startOffers changes ↔ ∃ c ∈ changes, c.kind.adjustsStart = true ∧ f.position c.finish = p := by
  simp only [startOffers, List.mem_map, List.mem_filter, and_assoc]

theorem mem_finishOffers {p : Int} :
    p ∈ f.finishOffers changes ↔ ∃ c ∈ changes, c.kind.adjustsStart = false ∧ f.position c.start = p := by
  simp only [finishOffers, List.mem_map, List.mem_filter, Bool.not_eq_true', and_assoc]

/-- Every offer is made by the boundary of a change. -/
theorem exists_boundary_of_mem_startOffers {p : Int} (hp : p ∈ f.startOffers changes) :
    ∃ c ∈ changes, p = f.position c.boundary := by
  obtain ⟨c, hc, hkind, rfl⟩ := mem_startOffers.1 hp
  exact ⟨c, hc, by rw [Change.boundary, if_pos hkind]⟩

theorem exists_boundary_of_mem_finishOffers {p : Int} (hp : p ∈ f.finishOffers changes) :
    ∃ c ∈ changes, p = f.position c.boundary := by
  obtain ⟨c, hc, hkind, rfl⟩ := mem_finishOffers.1 hp
  exact ⟨c, hc, by rw [Change.boundary, hkind, if_neg Bool.false_ne_true]⟩

end Frame

namespace Adjustment

private theorem max?_cons_max (best offer : Int) (offers : List Int) :
    (max best offer :: offers).max? = (best :: offer :: offers).max? := by
  rw [List.max?_cons', List.max?_cons', List.foldl_cons]

private theorem min?_cons_min (best offer : Int) (offers : List Int) :
    (min best offer :: offers).min? = (best :: offer :: offers).min? := by
  rw [List.min?_cons', List.min?_cons', List.foldl_cons]

variable (f : Frame) (a : Adjustment) (c : Change) (changes : List Change)

/-- One change puts its offer, if it makes one for the start, between the best before it and those behind it. -/
theorem max?_start_add :
    ((a.add f c).start.toList ++ f.startOffers changes).max? =
      (a.start.toList ++ f.startOffers (c :: changes)).max? := by
  unfold add
  cases hkind : c.kind.adjustsStart with
  | true =>
      rw [Frame.startOffers_cons_of_pos hkind, if_pos rfl]
      cases a.start with
      | none => rfl
      | some best => exact max?_cons_max best (f.position c.finish) (f.startOffers changes)
  | false =>
      rw [Frame.startOffers_cons_of_neg hkind, if_neg Bool.false_ne_true]

theorem min?_finish_add :
    ((a.add f c).finish.toList ++ f.finishOffers changes).min? =
      (a.finish.toList ++ f.finishOffers (c :: changes)).min? := by
  unfold add
  cases hkind : c.kind.adjustsStart with
  | true =>
      rw [Frame.finishOffers_cons_of_pos hkind, if_pos rfl]
  | false =>
      rw [Frame.finishOffers_cons_of_neg hkind, if_neg Bool.false_ne_true]
      cases a.finish with
      | none => rfl
      | some best => exact min?_cons_min best (f.position c.start) (f.finishOffers changes)

theorem start_foldl_add :
    (changes.foldl (add f) a).start = (a.start.toList ++ f.startOffers changes).max? := by
  induction changes generalizing a with
  | nil => cases hstart : a.start <;> simp [Frame.startOffers, hstart]
  | cons c changes ih => rw [List.foldl_cons, ih, max?_start_add]

theorem finish_foldl_add :
    (changes.foldl (add f) a).finish = (a.finish.toList ++ f.finishOffers changes).min? := by
  induction changes generalizing a with
  | nil => cases hfinish : a.finish <;> simp [Frame.finishOffers, hfinish]
  | cons c changes ih => rw [List.foldl_cons, ih, min?_finish_add]

theorem start_ofChanges : (ofChanges f changes).start = (f.startOffers changes).max? :=
  start_foldl_add f none changes

theorem finish_ofChanges : (ofChanges f changes).finish = (f.finishOffers changes).min? :=
  finish_foldl_add f none changes

end Adjustment

/-! ### Ends -/

namespace Work

variable (w : Work) (changes : List Change)

/-- The greatest offer for the start of the work, or the start itself. -/
def lastStart : Int := ((Frame.ofWork w).startOffers changes).max?.getD 0

/-- The least offer for the finish of the work, or the finish itself. -/
def firstFinish : Int := ((Frame.ofWork w).finishOffers changes).min?.getD (Frame.ofWork w).length

theorem remaining_eq_ends :
    w.remaining changes = (min (w.lastStart changes) (w.firstFinish changes), w.firstFinish changes) := by
  simp only [remaining, Adjustment.start_ofChanges, Adjustment.finish_ofChanges]
  rfl

theorem remaining_of_le (hle : w.lastStart changes ≤ w.firstFinish changes) :
    w.remaining changes = (w.lastStart changes, w.firstFinish changes) := by
  rw [remaining_eq_ends, Int.min_eq_left hle]

theorem remaining_of_lt (hlt : w.firstFinish changes < w.lastStart changes) :
    w.remaining changes = (w.firstFinish changes, w.firstFinish changes) := by
  rw [remaining_eq_ends, Int.min_eq_right (Int.le_of_lt hlt)]

theorem remaining_le : (w.remaining changes).1 ≤ (w.remaining changes).2 := by
  rw [remaining_eq_ends]
  exact Int.min_le_right _ _

variable {w changes}

/-- What holds of both ends of a work and of the boundary of every change holds of both ends of the rest. -/
theorem forall_remaining {P : Int → Prop} (hstart : P 0) (hfinish : P (Frame.ofWork w).length)
    (hchanges : ∀ c ∈ changes, P ((Frame.ofWork w).position c.boundary)) :
    P (w.remaining changes).1 ∧ P (w.remaining changes).2 := by
  have hlast : P (w.lastStart changes) := by
    unfold lastStart
    cases hbest : ((Frame.ofWork w).startOffers changes).max? with
    | none => exact hstart
    | some p =>
        obtain ⟨c, hc, rfl⟩ := Frame.exists_boundary_of_mem_startOffers (List.max?_mem hbest)
        exact hchanges c hc
  have hfirst : P (w.firstFinish changes) := by
    unfold firstFinish
    cases hbest : ((Frame.ofWork w).finishOffers changes).min? with
    | none => exact hfinish
    | some p =>
        obtain ⟨c, hc, rfl⟩ := Frame.exists_boundary_of_mem_finishOffers (List.min?_mem hbest)
        exact hchanges c hc
  by_cases hle : w.lastStart changes ≤ w.firstFinish changes
  · rw [w.remaining_of_le changes hle]
    exact ⟨hlast, hfirst⟩
  · rw [w.remaining_of_lt changes (Int.not_le.1 hle)]
    exact ⟨hfirst, hfirst⟩

end Work

/-! ### Rects -/

theorem Origin.rects_of_le (o : Origin) (date : Date) {start finish : TimeOfDay} (h : start ≤ finish) :
    o.rects date start finish = [o.rect ⟨date, start, finish⟩] :=
  congrArg (List.map o.rect) (if_pos h)

namespace Work

variable (w : Work) (changes : List Change)

theorem remainingRects_eq :
    w.remainingRects changes =
      if w.lastStart changes ≤ w.firstFinish changes then
        w.origin.rects w.date ((Frame.ofWork w).timeAt (w.lastStart changes))
          ((Frame.ofWork w).timeAt (w.firstFinish changes))
      else
        [w.origin.rect ⟨w.date, (Frame.ofWork w).timeAt (w.firstFinish changes),
          (Frame.ofWork w).timeAt (w.firstFinish changes)⟩] := by
  by_cases hle : w.lastStart changes ≤ w.firstFinish changes
  · rw [if_pos hle, remainingRects, w.remaining_of_le changes hle]
    rfl
  · rw [if_neg hle, remainingRects, w.remaining_of_lt changes (Int.not_le.1 hle)]
    exact w.origin.rects_of_le _ le_rfl

/-- The rects of changes are of other kinds. -/
theorem filter_rects_work :
    ((w.rects changes).filter fun t => t.kind = .work) = w.remainingRects (w.ownChanges changes) := by
  rw [rects_eq, List.filter_append, List.filter_eq_self.2, List.filter_eq_nil_iff.2, List.append_nil]
  · intro t ht
    obtain ⟨c, -, ht⟩ := List.mem_flatMap.1 ht
    rw [(Origin.source_of_mem_rects ht).2, decide_eq_true_iff]
    exact c.rectKind_ne_work
  · intro t ht
    exact decide_eq_true (Origin.source_of_mem_rects ht).2

end Work

/-- The rects of what remains of works are, work after work, the interval from the greatest offer for the start to the
least for the finish, cut at midnight from the date of the work on, or a moment at the latter where they cross. -/
theorem work_rects_eq_split (r : RecordSet) :
    (r.rects.filter fun t => t.kind = .work) =
      r.works.flatMap fun w =>
        let f := Frame.ofWork w
        let start := w.lastStart (w.ownChanges r.changes)
        let finish := w.firstFinish (w.ownChanges r.changes)
        if start ≤ finish then w.origin.rects w.date (f.timeAt start) (f.timeAt finish)
        else [w.origin.rect ⟨w.date, f.timeAt finish, f.timeAt finish⟩] := by
  have hbreaks : ((r.breaks.flatMap Break.rects).filter fun t => t.kind = .work) = [] := by
    rw [List.filter_eq_nil_iff]
    intro t ht
    obtain ⟨b, -, ht⟩ := List.mem_flatMap.1 ht
    rw [Break.kind_of_mem_rects ht]
    decide
  rw [RecordSet.rects_eq, List.filter_append, hbreaks, List.append_nil, List.filter_flatMap]
  apply List.flatMap_congr
  intro w _
  rw [w.filter_rects_work, w.remainingRects_eq]

end Roster
