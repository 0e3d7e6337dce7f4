import Roster.Proofs.Rect.Build
import Roster.Proofs.Timeline.Collisions
/-!
# What two colliding rects share

Whether two rects collide, which interval they share and how long it is are found in three separate ways: by comparing
their ends, by taking the later start and the earlier finish, and by counting nanoseconds, which around leap seconds is
no subtraction. For rects that do not finish before they start the three agree (`collisions_are_genuine`). A rect without
length that lies inside another one collides with it and shares no time.
-/

namespace Roster

namespace Collision

theorem overlap_eq_zero {c : Collision} (h : c.overlapFinish ≤ c.overlapStart) : c.overlap = 0 := if_pos h

theorem overlap_pos {c : Collision} (h : c.overlapStart < c.overlapFinish) : 0 < c.overlap := by
  rw [overlap, if_neg (not_le.2 h)]
  exact TimeOfDay.since_pos h

theorem overlap_nonneg (c : Collision) : 0 ≤ c.overlap := by
  rcases le_or_gt c.overlapFinish c.overlapStart with h | h
  · exact (overlap_eq_zero h).ge
  · exact (overlap_pos h).le

theorem overlap_pos_iff {c : Collision} : 0 < c.overlap ↔ c.overlapStart < c.overlapFinish := by
  refine ⟨fun h => ?_, overlap_pos⟩
  by_contra hle
  exact h.ne' (overlap_eq_zero (not_lt.1 hle))

/-- The collision states an interval of both rects, which is all they share, and a length that tells whether they have
length themselves. -/
structure Genuine (c : Collision) : Prop where
  ordered : c.overlapStart ≤ c.overlapFinish
  inFirst : c.first.start ≤ c.overlapStart ∧ c.overlapFinish ≤ c.first.finish
  inSecond : c.second.start ≤ c.overlapStart ∧ c.overlapFinish ≤ c.second.finish
  shared : ∀ time, c.overlapStart ≤ time ∧ time < c.overlapFinish ↔ c.first.RunsAt time ∧ c.second.RunsAt time
  nonneg : 0 ≤ c.overlap
  pos_iff : 0 < c.overlap ↔ c.first.start < c.first.finish ∧ c.second.start < c.second.finish

theorem genuine_ofRects {a b : Rect} (ha : a.start ≤ a.finish) (hb : b.start ≤ b.finish) (h : a.Overlaps b) :
    (ofRects a b).Genuine where
  ordered := max_le (le_min ha h.1.le) (le_min h.2.le hb)
  inFirst := ⟨le_max_left _ _, min_le_left _ _⟩
  inSecond := ⟨le_max_right _ _, min_le_right _ _⟩
  shared _ := Rect.runsAt_and_runsAt_iff.symm
  nonneg := overlap_nonneg _
  pos_iff := overlap_pos_iff.trans (Rect.max_start_lt_iff.trans (and_iff_right h))

/-- The two rects without their order, the interval that both cover and its length. -/
def share (c : Collision) : (Sym2 Rect × TimeOfDay × TimeOfDay) × Int := (c.unordered, c.overlap)

end Collision

theorem collisionsAmong_perm_share {rects rects' : List Rect} (h : rects.Perm rects') :
    ((collisionsAmong rects).map Collision.share).Perm ((collisionsAmong rects').map Collision.share) := by
  -- The length is counted from the interval alone.
  have hlength := (collisionsAmong_perm h).map fun u =>
    (u, if u.2.2 ≤ u.2.1 then (0 : Int) else u.2.2.since u.2.1)
  rw [List.map_map, List.map_map] at hlength
  exact hlength

/-- Among rects that do not finish before they start, each collision states the interval that its rects share; rects
that have length overlap exactly if they run at a common time; and the order of the rects makes no difference to which
are found to share what. -/
theorem collisions_are_genuine {t : Timeline} (hrects : ∀ r ∈ t.rects, r.start ≤ r.finish) :
    (∀ c ∈ t.collisions, c.Genuine) ∧
      (∀ a b : Rect, a.start < a.finish → b.start < b.finish →
        (a.Overlaps b ↔ ∃ time, a.RunsAt time ∧ b.RunsAt time)) ∧
      ∀ rects, rects.Perm t.rects →
        (({ t with rects := rects } : Timeline).collisions.map Collision.share).Perm
          (t.collisions.map Collision.share) := by
  refine ⟨?_, fun a b => Rect.overlaps_iff_runsAt, fun rects h => collisionsAmong_perm_share h⟩
  intro c hc
  rw [Timeline.collisions, collisionsAmong_eq] at hc
  obtain ⟨⟨a, b⟩, hab, rfl⟩ := List.mem_map.1 hc
  obtain ⟨ha, hb, hcollides⟩ := mem_of_mem_pairsAmong hab
  exact Collision.genuine_ofRects (hrects a ha) (hrects b hb) (of_decide_eq_true hcollides).2.2.2

/-- A lookout that ends within a leap second, half a second after the next one has begun, and a signal in between. -/
def lookout : Timeline :=
  ⟨⟨"C28", by decide⟩, ⟨2025, 6, 30, by decide⟩,
    [⟨⟨"lookout", by decide⟩, .work, ⟨"C28", by decide⟩, ⟨2025, 6, 30, by decide⟩,
        .ofNanos (1 * 3600 * nanosPerSecond), ⟨10799, 1700000000, by decide, by decide, by decide⟩, none⟩,
      ⟨⟨"next lookout", by decide⟩, .work, ⟨"C28", by decide⟩, ⟨2025, 6, 30, by decide⟩,
        ⟨10799, 1200000000, by decide, by decide, by decide⟩, .ofNanos (4 * 3600 * nanosPerSecond), none⟩,
      ⟨⟨"signal", by decide⟩, .work, ⟨"C28", by decide⟩, ⟨2025, 6, 30, by decide⟩,
        ⟨10799, 1400000000, by decide, by decide, by decide⟩,
        ⟨10799, 1400000000, by decide, by decide, by decide⟩, none⟩]⟩

theorem lookout_collisions_are_genuine :
    lookout.collisions.map Collision.overlap = [500000000, 0, 0] ∧ ∀ c ∈ lookout.collisions, c.Genuine := by
  have hrects : ∀ r ∈ lookout.rects, r.start ≤ r.finish := by decide
  exact ⟨by decide, (collisions_are_genuine hrects).1⟩

end Roster
