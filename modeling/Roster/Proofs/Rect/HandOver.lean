import Roster.Proofs.Rect.Remaining
/-!
# Handing over the ends of a work

A change takes over an end of a work when it runs from the start of the work on, or until its finish, and no further
than the work does. What such changes leave of a work within one day goes from the last finish of those at its start
(`Work.BeginsAt`) to the first start of those at its finish (`Work.EndsAt`). So the rest and the changes together run at
all times of the work and at no other, and the rest at no time of a change (`handed_over_work_runs_on`). Nothing is
lost either where the changes from both sides cross: then the rest has no length, and every time of the work belongs to
one of the two changes that reach furthest.
-/

namespace Roster

/-- The time is no leap second and lies between the ends of the work. -/
structure Work.Encloses (w : Work) (t : TimeOfDay) : Prop where
  plain : t.isLeap = false
  start_le : w.start ≤ t
  le_finish : t ≤ w.finish

instance (w : Work) (t : TimeOfDay) : Decidable (w.Encloses t) :=
  decidable_of_iff (t.isLeap = false ∧ w.start ≤ t ∧ t ≤ w.finish)
    ⟨fun h => ⟨h.1, h.2.1, h.2.2⟩, fun h => ⟨h.plain, h.start_le, h.le_finish⟩⟩

/-- The change covers the work from its start on, or until its finish, and nothing else. -/
structure Change.TakesOver (c : Change) (w : Work) : Prop where
  fromStart : c.kind.adjustsStart = true → c.start = w.start ∧ w.Encloses c.finish
  untilFinish : c.kind.adjustsStart = false → c.finish = w.finish ∧ w.Encloses c.start

instance (c : Change) (w : Work) : Decidable (c.TakesOver w) :=
  decidable_of_iff ((c.kind.adjustsStart = true → c.start = w.start ∧ w.Encloses c.finish) ∧
      (c.kind.adjustsStart = false → c.finish = w.finish ∧ w.Encloses c.start))
    ⟨fun h => ⟨h.1, h.2⟩, fun h => ⟨h.fromStart, h.untilFinish⟩⟩

theorem Change.TakesOver.within {c : Change} {w : Work} (h : c.TakesOver w) :
    w.start ≤ c.start ∧ c.start ≤ c.finish ∧ c.finish ≤ w.finish := by
  cases hkind : c.kind.adjustsStart with
  | true =>
      obtain ⟨hstart, hfinish⟩ := h.fromStart hkind
      exact ⟨hstart.ge, hstart.trans_le hfinish.start_le, hfinish.le_finish⟩
  | false =>
      obtain ⟨hfinish, hstart⟩ := h.untilFinish hkind
      exact ⟨hstart.start_le, hstart.le_finish.trans_eq hfinish.symm, hfinish.le⟩

/-- A time keeps its place on the axis of a work. -/
theorem Frame.timeAt_position {f : Frame} (horigin : f.origin.isLeap = false) {t : TimeOfDay} (ht : t.isLeap = false) :
    f.timeAt (f.position t) = t := by
  have hbounds := TimeOfDay.nanos_bounds ht
  rw [← TimeOfDay.nanos_inj (isLeap_timeAt horigin _) ht, nanos_timeAt horigin, position,
    TimeOfDay.forwardTo_eq horigin ht]
  simp only [nanosPerDay] at *
  split
  · omega
  · split <;> omega

namespace Work

variable {w : Work} {own : List Change} {s t : TimeOfDay}

/-- The start of what the changes at the start of the work leave of it. -/
structure BeginsAt (w : Work) (own : List Change) (s : TimeOfDay) : Prop where
  encloses : w.Encloses s
  reached : s = w.start ∨ ∃ c ∈ own, c.kind.adjustsStart = true ∧ c.finish = s
  last : ∀ c ∈ own, c.kind.adjustsStart = true → c.finish ≤ s

/-- The finish of what the changes at the finish of the work leave of it. -/
structure EndsAt (w : Work) (own : List Change) (t : TimeOfDay) : Prop where
  encloses : w.Encloses t
  reached : t = w.finish ∨ ∃ c ∈ own, c.kind.adjustsStart = false ∧ c.start = t
  first : ∀ c ∈ own, c.kind.adjustsStart = false → t ≤ c.start

section Ends

variable (hstart : w.start.isLeap = false) (hfinish : w.finish.isLeap = false)

include hstart hfinish

theorem position_eq (ht : w.Encloses t) : (Frame.ofWork w).position t = t.nanos - w.start.nanos := by
  have hforward : (Frame.ofWork w).origin.forwardTo t = t.nanos - w.start.nanos :=
    TimeOfDay.forwardTo_of_le hstart ht.plain ht.start_le
  have hlength : (Frame.ofWork w).length = w.finish.nanos - w.start.nanos :=
    TimeOfDay.forwardTo_of_le hstart hfinish (ht.start_le.trans ht.le_finish)
  have hle := (TimeOfDay.nanos_le_iff ht.plain hfinish).2 ht.le_finish
  rw [Frame.position_of_le (by omega), hforward]

theorem position_le_iff (hs : w.Encloses s) (ht : w.Encloses t) :
    (Frame.ofWork w).position s ≤ (Frame.ofWork w).position t ↔ s ≤ t := by
  rw [position_eq hstart hfinish hs, position_eq hstart hfinish ht, ← TimeOfDay.nanos_le_iff hs.plain ht.plain]
  omega

theorem position_min (hs : w.Encloses s) (ht : w.Encloses t) :
    (Frame.ofWork w).position (min s t) = min ((Frame.ofWork w).position s) ((Frame.ofWork w).position t) := by
  have hmono : MonotoneOn (Frame.ofWork w).position {t | w.Encloses t} := fun _ hs _ ht h =>
    (position_le_iff hstart hfinish hs ht).2 h
  exact hmono.map_min hs ht

variable (hle : w.start ≤ w.finish) (hown : ∀ c ∈ own, c.TakesOver w)

include hle hown

theorem exists_beginsAt : ∃ s, w.BeginsAt own s ∧ w.lastStart own = (Frame.ofWork w).position s := by
  unfold lastStart
  cases hbest : ((Frame.ofWork w).startOffers own).max? with
  | none =>
      have hencloses : w.Encloses w.start := ⟨hstart, le_rfl, hle⟩
      refine ⟨w.start, ⟨hencloses, .inl rfl, ?_⟩, ?_⟩
      · intro c hc hkind
        have hmem := (Frame.mem_startOffers (f := Frame.ofWork w)).2 ⟨c, hc, hkind, rfl⟩
        rw [List.max?_eq_none_iff.1 hbest] at hmem
        cases hmem
      · rw [position_eq hstart hfinish hencloses, Int.sub_self]
        rfl
  | some p =>
      obtain ⟨hmem, hmax⟩ := List.max?_eq_some_iff.1 hbest
      obtain ⟨c, hc, hkind, rfl⟩ := Frame.mem_startOffers.1 hmem
      have hencloses := ((hown c hc).fromStart hkind).2
      refine ⟨c.finish, ⟨hencloses, .inr ⟨c, hc, hkind, rfl⟩, ?_⟩, rfl⟩
      intro d hd hkind'
      have hencloses' := ((hown d hd).fromStart hkind').2
      have hle := hmax _ (Frame.mem_startOffers.2 ⟨d, hd, hkind', rfl⟩)
      exact (position_le_iff hstart hfinish hencloses' hencloses).1 hle

theorem exists_endsAt : ∃ t, w.EndsAt own t ∧ w.firstFinish own = (Frame.ofWork w).position t := by
  unfold firstFinish
  cases hbest : ((Frame.ofWork w).finishOffers own).min? with
  | none =>
      refine ⟨w.finish, ⟨⟨hfinish, hle, le_rfl⟩, .inl rfl, ?_⟩, ?_⟩
      · intro c hc hkind
        have hmem := (Frame.mem_finishOffers (f := Frame.ofWork w)).2 ⟨c, hc, hkind, rfl⟩
        rw [List.min?_eq_none_iff.1 hbest] at hmem
        cases hmem
      · exact (Frame.position_of_le (f := Frame.ofWork w) le_rfl).symm
  | some p =>
      obtain ⟨hmem, hmin⟩ := List.min?_eq_some_iff.1 hbest
      obtain ⟨c, hc, hkind, rfl⟩ := Frame.mem_finishOffers.1 hmem
      have hencloses := ((hown c hc).untilFinish hkind).2
      refine ⟨c.start, ⟨hencloses, .inr ⟨c, hc, hkind, rfl⟩, ?_⟩, rfl⟩
      intro d hd hkind'
      have hencloses' := ((hown d hd).untilFinish hkind').2
      have hle := hmin _ (Frame.mem_finishOffers.2 ⟨d, hd, hkind', rfl⟩)
      exact (position_le_iff hstart hfinish hencloses hencloses').1 hle

/-- What is left is one rect, without length where the changes cross. -/
theorem exists_rest : ∃ s t, w.BeginsAt own s ∧ w.EndsAt own t ∧
    w.remainingRects own = [w.origin.rect ⟨w.date, min s t, t⟩] := by
  obtain ⟨s, hs, hlast⟩ := exists_beginsAt hstart hfinish hle hown
  obtain ⟨t, ht, hfirst⟩ := exists_endsAt hstart hfinish hle hown
  have horigin : (Frame.ofWork w).origin.isLeap = false := hstart
  have hmin : w.Encloses (min s t) := min_rec' w.Encloses hs.encloses ht.encloses
  refine ⟨s, t, hs, ht, ?_⟩
  rw [remainingRects, remaining_eq_ends, hlast, hfirst, ← position_min hstart hfinish hs.encloses ht.encloses]
  simp only [Frame.timeAt_position horigin hmin.plain, Frame.timeAt_position horigin ht.encloses.plain]
  exact w.origin.rects_of_le _ (min_le_right s t)

end Ends

theorem runsAt_rest_iff {time : TimeOfDay} :
    (w.origin.rect ⟨w.date, min s t, t⟩).RunsAt time ↔ s ≤ time ∧ time < t := by
  show min s t ≤ time ∧ time < t ↔ _
  rw [min_le_iff]
  constructor
  · rintro ⟨hs | ht, hlt⟩
    · exact ⟨hs, hlt⟩
    · exact absurd hlt ht.not_gt
  · rintro ⟨hs, hlt⟩
    exact ⟨.inl hs, hlt⟩

section Meeting

variable (hs : w.BeginsAt own s) (ht : w.EndsAt own t) {time : TimeOfDay}

include hs ht

theorem not_rest_and_change {c : Change} (hc : c ∈ own) :
    ¬ ((s ≤ time ∧ time < t) ∧ c.start ≤ time ∧ time < c.finish) := by
  rintro ⟨⟨hbegun, hlt⟩, hstart, hfinish⟩
  cases hkind : c.kind.adjustsStart with
  | true => exact (hfinish.trans_le (hs.last c hc hkind)).not_ge hbegun
  | false => exact (hlt.trans_le (ht.first c hc hkind)).not_ge hstart

/-- The rest and the changes meet without a gap: a time before the rest belongs to the change that it begins behind, a
time after it to the change that it ends before. -/
theorem rest_or_change_iff (hown : ∀ c ∈ own, c.TakesOver w) :
    ((s ≤ time ∧ time < t) ∨ ∃ c ∈ own, c.start ≤ time ∧ time < c.finish) ↔ w.start ≤ time ∧ time < w.finish := by
  constructor
  · rintro (⟨hbegun, hlt⟩ | ⟨c, hc, hbegun, hlt⟩)
    · exact ⟨hs.encloses.start_le.trans hbegun, hlt.trans_le ht.encloses.le_finish⟩
    · obtain ⟨hstart, -, hfinish⟩ := (hown c hc).within
      exact ⟨hstart.trans hbegun, hlt.trans_le hfinish⟩
  · rintro ⟨hstart, hfinish⟩
    rcases lt_or_ge time s with hbefore | hbegun
    · rcases hs.reached with rfl | ⟨c, hc, hkind, rfl⟩
      · exact absurd hbefore hstart.not_gt
      · exact .inr ⟨c, hc, ((hown c hc).fromStart hkind).1.trans_le hstart, hbefore⟩
    · rcases lt_or_ge time t with hlt | hafter
      · exact .inl ⟨hbegun, hlt⟩
      · rcases ht.reached with rfl | ⟨c, hc, hkind, rfl⟩
        · exact absurd hfinish hafter.not_gt
        · exact .inr ⟨c, hc, hafter, hfinish.trans_eq ((hown c hc).untilFinish hkind).1.symm⟩

end Meeting

end Work

theorem Change.TakesOver.mem_rects_iff {c : Change} {w : Work} (h : c.TakesOver w) {r : Rect} :
    r ∈ c.rects w ↔ r = ⟨w.id.toSource, c.rectKind, c.owner w, w.date, c.start, c.finish, some c.id⟩ := by
  rw [rects, Origin.rects_of_le _ _ h.within.2.1, List.mem_singleton]
  rfl

/-- Changes that take over ends of a work leave no time of it out and add none: its rects all lie on its date and
together run at the times of the work, whatever the order of the changes and wherever they overlap. One of the rects is
what is left of the work itself, and it runs at no time of a change. -/
theorem handed_over_work_runs_on {w : Work} {changes : List Change} (hstart : w.start.isLeap = false)
    (hfinish : w.finish.isLeap = false) (hle : w.start ≤ w.finish)
    (hchanges : ∀ c ∈ changes, c.work = w.id → c.TakesOver w) :
    (∀ r ∈ w.rects changes, r.date = w.date) ∧
      (∀ time, (∃ r ∈ w.rects changes, r.RunsAt time) ↔ w.start ≤ time ∧ time < w.finish) ∧
      ∃ rest, ((w.rects changes).filter fun r => r.kind = .work) = [rest] ∧
        ∀ r ∈ w.rects changes, r.kind ≠ .work → ∀ time, ¬ (rest.RunsAt time ∧ r.RunsAt time) := by
  have hown : ∀ c ∈ w.ownChanges changes, c.TakesOver w := by
    intro c hc
    obtain ⟨hc, hwork⟩ := Work.mem_ownChanges.1 hc
    exact hchanges c hc hwork
  obtain ⟨s, t, hs, ht, hrest⟩ := Work.exists_rest hstart hfinish hle hown
  have hmem : ∀ r, r ∈ w.rects changes ↔ r = w.origin.rect ⟨w.date, min s t, t⟩ ∨
      ∃ c ∈ w.ownChanges changes,
        r = ⟨w.id.toSource, c.rectKind, c.owner w, w.date, c.start, c.finish, some c.id⟩ := by
    intro r
    rw [Work.rects_eq, List.mem_append, hrest, List.mem_singleton, List.mem_flatMap]
    exact or_congr_right (exists_congr fun c => and_congr_right fun hc => (hown c hc).mem_rects_iff)
  refine ⟨?_, ?_, _, (w.filter_rects_work changes).trans hrest, ?_⟩
  · intro r hr
    rcases (hmem r).1 hr with rfl | ⟨c, -, rfl⟩ <;> rfl
  · intro time
    rw [← Work.rest_or_change_iff hs ht hown]
    constructor
    · rintro ⟨r, hr, hruns⟩
      rcases (hmem r).1 hr with rfl | ⟨c, hc, rfl⟩
      · exact .inl (Work.runsAt_rest_iff.1 hruns)
      · exact .inr ⟨c, hc, hruns⟩
    · rintro (hruns | ⟨c, hc, hruns⟩)
      · exact ⟨_, (hmem _).2 (.inl rfl), Work.runsAt_rest_iff.2 hruns⟩
      · exact ⟨_, (hmem _).2 (.inr ⟨c, hc, rfl⟩), hruns⟩
  · intro r hr hkind time hboth
    rcases (hmem r).1 hr with rfl | ⟨c, hc, rfl⟩
    · exact hkind rfl
    · exact Work.not_rest_and_change hs ht hc ⟨Work.runsAt_rest_iff.1 hboth.1, hboth.2⟩

/-- A day in the canteen, of which changes take the hours until three in the afternoon and those from noon on. One of them
is entered twice, one takes nothing. -/
def canteen : Work :=
  ⟨⟨"canteen", by decide⟩, ⟨"C29", by decide⟩, ⟨"S23", by decide⟩, ⟨2025, 8, 11, by decide⟩,
    .ofNanos (6 * 3600 * nanosPerSecond), .ofNanos (20 * 3600 * nanosPerSecond)⟩

def canteenUntil (hour : Int) : Change :=
  ⟨⟨"breakfast", by decide⟩, canteen.id, .startReplacement, canteen.start, .ofNanos (hour * 3600 * nanosPerSecond),
    some ⟨"C30", by decide⟩⟩

def canteenFrom (hour : Int) : Change :=
  ⟨⟨"supper", by decide⟩, canteen.id, .endCorrection, .ofNanos (hour * 3600 * nanosPerSecond), canteen.finish, none⟩

def canteenChanges : List Change :=
  [canteenUntil 9, canteenFrom 18, canteenUntil 15, canteenFrom 12, canteenUntil 15, canteenUntil 6]

/-- The changes cross and use up the whole work, and still nothing of it is lost. -/
theorem canteen_runs_on :
    (∀ time, (∃ r ∈ canteen.rects canteenChanges, r.RunsAt time) ↔ canteen.start ≤ time ∧ time < canteen.finish) ∧
      ∃ rest ∈ canteen.rects canteenChanges, rest.kind = .work ∧ rest.start = rest.finish := by
  have hchanges : ∀ c ∈ canteenChanges, c.work = canteen.id → c.TakesOver canteen := by decide
  obtain ⟨-, hruns, -⟩ := handed_over_work_runs_on (w := canteen) (by decide) (by decide) (by decide) hchanges
  exact ⟨hruns, (canteen.rects canteenChanges).get ⟨0, by decide⟩, List.get_mem _ _, by decide, by decide⟩

end Roster
