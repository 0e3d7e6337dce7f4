import Mathlib.Data.List.FinRange
import Mathlib.Data.Sym.Sym2
import Roster.Proofs.Clock.Order
import Roster.Proofs.Timeline.Partition
/-!
# Which pairs of rects collide

`collisionsAmong` goes through the pairs of a list, the earlier rect of each first. `pairsAmong` is that walk for any
relation. Over places in order it gives exactly the related pairs of places, in lexicographic order
(`mem_pairsAmong`, `pairsAmong_pairwise`), and it commutes with reading off what stands in the places
(`pairsAmong_map`); together this says which places of the whole list the collisions of one timeline come from
(`collisionsAmong_filter`). Reordering the rects only turns pairs around (`collisionsAmong_perm`).
-/

namespace Roster

section Pairs

variable {α β : Type}

/-- The pairs of a list that a relation holds of, each as it stands in the list. -/
def pairsAmong (q : α → α → Bool) : List α → List (α × α)
  | [] => []
  | a :: rest => (rest.filter (q a)).map (fun b => (a, b)) ++ pairsAmong q rest

theorem mem_of_mem_pairsAmong {q : α → α → Bool} {l : List α} {p : α × α} (hp : p ∈ pairsAmong q l) :
    p.1 ∈ l ∧ p.2 ∈ l ∧ q p.1 p.2 = true := by
  induction l with
  | nil => cases hp
  | cons a l ih =>
      rcases List.mem_append.1 hp with hp | hp
      · obtain ⟨b, hb, rfl⟩ := List.mem_map.1 hp
        obtain ⟨hb, hq⟩ := List.mem_filter.1 hb
        exact ⟨List.mem_cons_self, List.mem_cons_of_mem a hb, hq⟩
      · obtain ⟨h₁, h₂, hq⟩ := ih hp
        exact ⟨List.mem_cons_of_mem a h₁, List.mem_cons_of_mem a h₂, hq⟩

theorem pairsAmong_map (q : α → α → Bool) (f : β → α) (l : List β) :
    pairsAmong q (l.map f) = (pairsAmong (fun b c => q (f b) (f c)) l).map (Prod.map f f) := by
  induction l with
  | nil => rfl
  | cons b l ih =>
      simp only [List.map_cons, pairsAmong, List.map_append, List.filter_map, List.map_map, ih]
      rfl

/-- In a list in strict order, the pairs are the related ones in this order. -/
theorem mem_pairsAmong [LinearOrder α] {q : α → α → Bool} {l : List α} (hl : l.Pairwise (· < ·)) {a b : α} :
    (a, b) ∈ pairsAmong q l ↔ a ∈ l ∧ b ∈ l ∧ a < b ∧ q a b = true := by
  induction l with
  | nil => simp [pairsAmong]
  | cons c l ih =>
      obtain ⟨hfirst, hrest⟩ := List.pairwise_cons.1 hl
      rw [pairsAmong, List.mem_append, ih hrest]
      constructor
      · rintro (h | ⟨ha, hb, hlt, hq⟩)
        · obtain ⟨d, hd, heq⟩ := List.mem_map.1 h
          obtain ⟨rfl, rfl⟩ := Prod.mk.inj heq
          obtain ⟨hd, hq⟩ := List.mem_filter.1 hd
          exact ⟨List.mem_cons_self, List.mem_cons_of_mem _ hd, hfirst d hd, hq⟩
        · exact ⟨List.mem_cons_of_mem _ ha, List.mem_cons_of_mem _ hb, hlt, hq⟩
      · intro h
        obtain ⟨ha, hb, hlt, hq⟩ := h
        rcases List.mem_cons.1 ha with rfl | hal <;> rcases List.mem_cons.1 hb with rfl | hbl
        · exact absurd hlt (lt_irrefl _)
        · exact .inl (List.mem_map.2 ⟨b, List.mem_filter.2 ⟨hbl, hq⟩, rfl⟩)
        · exact absurd hlt (lt_asymm (hfirst a hal))
        · exact .inr ⟨hal, hbl, hlt, hq⟩

theorem pairsAmong_pairwise [LinearOrder α] (q : α → α → Bool) {l : List α} (hl : l.Pairwise (· < ·)) :
    (pairsAmong q l).Pairwise (Prod.Lex (· < ·) (· < ·)) := by
  induction l with
  | nil => exact List.Pairwise.nil
  | cons a l ih =>
      obtain ⟨hfirst, hrest⟩ := List.pairwise_cons.1 hl
      refine List.pairwise_append.2 ⟨?_, ih hrest, fun p hp p' hp' => ?_⟩
      · exact List.pairwise_map.2 ((hrest.filter _).imp fun h => Prod.Lex.right _ h)
      · obtain ⟨b, -, rfl⟩ := List.mem_map.1 hp
        exact Prod.Lex.left _ _ (hfirst _ (mem_of_mem_pairsAmong hp').1)

/-- A symmetric relation that nothing has with itself relates two members exactly if they are a pair, in one of the
two orders. -/
theorem mem_pairsAmong_or_swap {q : α → α → Bool} (hsymm : ∀ a b, q a b = q b a) (hirrefl : ∀ a, q a a = false)
    {l : List α} {a b : α} :
    (a, b) ∈ pairsAmong q l ∨ (b, a) ∈ pairsAmong q l ↔ a ∈ l ∧ b ∈ l ∧ q a b = true := by
  constructor
  · rintro (h | h)
    · exact mem_of_mem_pairsAmong h
    · obtain ⟨hb, ha, hq⟩ := mem_of_mem_pairsAmong h
      exact ⟨ha, hb, (hsymm a b).trans hq⟩
  · intro h
    obtain ⟨ha, hb, hq⟩ := h
    induction l with
    | nil => cases ha
    | cons c l ih =>
        have hfirst : ∀ {d}, d ∈ l → q c d = true → (c, d) ∈ pairsAmong q (c :: l) := fun hd hq =>
          List.mem_append_left _ (List.mem_map.2 ⟨_, List.mem_filter.2 ⟨hd, hq⟩, rfl⟩)
        rcases List.mem_cons.1 ha with rfl | hal <;> rcases List.mem_cons.1 hb with rfl | hbl
        · rw [hirrefl] at hq
          cases hq
        · exact .inl (hfirst hbl hq)
        · exact .inr (hfirst hal ((hsymm b a).trans hq))
        · exact (ih hal hbl).imp (List.mem_append_right _) (List.mem_append_right _)

end Pairs

theorem collisionsAmong_eq (rects : List Rect) :
    collisionsAmong rects =
      (pairsAmong (fun a b => decide (a.CollidesWith b)) rects).map fun p => Collision.ofRects p.1 p.2 := by
  induction rects with
  | nil => rfl
  | cons a rects ih =>
      simp only [collisionsAmong, pairsAmong, ih, List.map_append, List.map_map]
      rfl

theorem Collision.ofRects_inj {a b a' b' : Rect} : ofRects a b = ofRects a' b' ↔ a = a' ∧ b = b' := by
  constructor
  · intro h
    exact ⟨congrArg Collision.first h, congrArg Collision.second h⟩
  · rintro ⟨rfl, rfl⟩
    rfl

theorem ofRects_mem_collisionsAmong {rects : List Rect} {s t : Rect} :
    Collision.ofRects s t ∈ collisionsAmong rects ↔
      (s, t) ∈ pairsAmong (fun a b => decide (a.CollidesWith b)) rects := by
  rw [collisionsAmong_eq, List.mem_map]
  constructor
  · intro h
    obtain ⟨⟨a, b⟩, hab, heq⟩ := h
    obtain ⟨rfl, rfl⟩ := Collision.ofRects_inj.1 heq
    exact hab
  · intro h
    exact ⟨(s, t), h, rfl⟩

/-- One of the timelines of the rects lists a collision of the two, whichever comes first. -/
def CollideAmong (rects : List Rect) (s t : Rect) : Prop :=
  ∃ line ∈ Timeline.ofRects rects, Collision.ofRects s t ∈ line.collisions ∨ Collision.ofRects t s ∈ line.collisions

theorem collideAmong_iff {rects : List Rect} {s t : Rect} :
    CollideAmong rects s t ↔ s ∈ rects ∧ t ∈ rects ∧ s.clientDay = t.clientDay ∧ s.CollidesWith t := by
  have hsymm : ∀ a b : Rect, decide (a.CollidesWith b) = decide (b.CollidesWith a) := fun a b =>
    decide_eq_decide.2 Rect.collidesWith_comm
  have hirrefl : ∀ a : Rect, decide (a.CollidesWith a) = false := fun a => decide_eq_false fun h => h.2.2.1 rfl
  have hday : ∀ d : ClientDay,
      Collision.ofRects s t ∈ (Timeline.among rects d).collisions ∨
        Collision.ofRects t s ∈ (Timeline.among rects d).collisions ↔
      (s ∈ rects ∧ s.clientDay = d) ∧ (t ∈ rects ∧ t.clientDay = d) ∧ s.CollidesWith t := by
    intro d
    simp only [Timeline.collisions, Timeline.among, ofRects_mem_collisionsAmong,
      mem_pairsAmong_or_swap hsymm hirrefl, List.mem_filter, decide_eq_true_eq]
  -- The timelines are the rects of each client and date in turn; the two can only meet on their own.
  rw [CollideAmong, Timeline.ofRects_eq]
  simp only [List.mem_map, exists_exists_and_eq_and, hday]
  constructor
  · intro h
    obtain ⟨d, -, ⟨hs, rfl⟩, ⟨ht, hdate⟩, hcollides⟩ := h
    exact ⟨hs, ht, hdate.symm, hcollides⟩
  · intro h
    obtain ⟨hs, ht, hdate, hcollides⟩ := h
    exact ⟨s.clientDay, Timeline.mem_clientDays.2 ⟨s, hs, rfl⟩, ⟨hs, rfl⟩, ⟨ht, hdate.symm⟩, hcollides⟩

/-- The places of a list whose rects are chosen and collide, pair by pair. -/
def collidingPlaces (rects : List Rect) (p : Rect → Bool) : List (Fin rects.length × Fin rects.length) :=
  pairsAmong (fun i j => decide ((rects.get i).CollidesWith (rects.get j)))
    ((List.finRange rects.length).filter fun i => p (rects.get i))

theorem collidingPlaces_pairwise (rects : List Rect) (p : Rect → Bool) :
    (collidingPlaces rects p).Pairwise (Prod.Lex (· < ·) (· < ·)) :=
  pairsAmong_pairwise _ ((List.pairwise_lt_finRange _).filter _)

theorem mem_collidingPlaces {rects : List Rect} {p : Rect → Bool} {i j : Fin rects.length} :
    (i, j) ∈ collidingPlaces rects p ↔
      p (rects.get i) = true ∧ p (rects.get j) = true ∧ i < j ∧ (rects.get i).CollidesWith (rects.get j) := by
  rw [collidingPlaces, mem_pairsAmong ((List.pairwise_lt_finRange _).filter _)]
  simp only [List.mem_filter, List.mem_finRange, true_and, decide_eq_true_eq]

theorem collisionsAmong_filter (rects : List Rect) (p : Rect → Bool) :
    collisionsAmong (rects.filter p) =
      (collidingPlaces rects p).map fun ij => Collision.ofRects (rects.get ij.1) (rects.get ij.2) := by
  have hplaces : rects.filter p = ((List.finRange rects.length).filter fun i => p (rects.get i)).map rects.get := by
    conv_lhs => rw [← List.map_get_finRange rects, List.filter_map]
    rfl
  rw [collisionsAmong_eq, hplaces, pairsAmong_map, List.map_map]
  rfl

/-! ### Reordering -/

namespace Collision

/-- The two rects without their order, and the interval that both cover. -/
def unordered (c : Collision) : Sym2 Rect × TimeOfDay × TimeOfDay :=
  (s(c.first, c.second), c.overlapStart, c.overlapFinish)

theorem unordered_ofRects_comm (a b : Rect) : (ofRects a b).unordered = (ofRects b a).unordered := by
  simp only [unordered, ofRects, TimeOfDay.later_eq_max, TimeOfDay.earlier_eq_min]
  rw [Sym2.eq_swap, max_comm, min_comm]

end Collision

theorem collisionsAmong_perm {rects rects' : List Rect} (h : rects.Perm rects') :
    ((collisionsAmong rects).map Collision.unordered).Perm ((collisionsAmong rects').map Collision.unordered) := by
  induction h with
  | nil => exact List.Perm.refl _
  | cons a h ih =>
      simp only [collisionsAmong, List.map_append]
      exact (((h.filter _).map _).map _).append ih
  | swap a b rects =>
      by_cases hab : a.CollidesWith b
      · have hba := Rect.collidesWith_comm.1 hab
        simp only [collisionsAmong, List.filter_cons, hab, hba, decide_true, if_true, List.map_cons, List.map_append,
          List.cons_append, Collision.unordered_ofRects_comm a b]
        exact (List.perm_append_comm_assoc _ _ _).cons _
      · have hba := mt Rect.collidesWith_comm.1 hab
        simp only [collisionsAmong, List.filter_cons, hab, hba, decide_false, Bool.false_eq_true, if_false,
          List.map_append]
        exact List.perm_append_comm_assoc _ _ _
  | trans _ _ ih ih' => exact ih.trans ih'

end Roster
