import Roster.Proofs.Rect.Build
/-!
# The rects of a record do not depend on other records

Works share one pass over the changes, and still the rects of a work depend on nothing but the work and the changes
that name it (`Work.rects_ownChanges`). So records may be built in parts, which are then put one behind the other
(`RecordSet.rects_append`), and what comes from the works of one identifier is what these works and their changes give
without all other records (`RecordSet.filter_rects_comesFrom`).
-/

namespace Roster

/-- The rect comes from a work of the identifier or from a change of one. -/
def Rect.ComesFrom (t : Rect) (id : WorkId) : Prop := t.kind ≠ .break ∧ t.source = id.toSource

instance (t : Rect) (id : WorkId) : Decidable (t.ComesFrom id) := by
  unfold Rect.ComesFrom; infer_instance

/-- The works of an identifier and their changes, without all other records. -/
def RecordSet.about (r : RecordSet) (id : WorkId) : RecordSet :=
  ⟨r.works.filter fun w => w.id = id, r.changes.filter fun c => c.work = id, []⟩

namespace Work

variable (w : Work) (changes : List Change) {id : WorkId}

theorem rects_ownChanges : w.rects (w.ownChanges changes) = w.rects changes := by
  apply rects_congr
  rw [ownChanges, ownChanges, List.filter_filter]
  simp only [Bool.and_self]

theorem filter_rects_of_eq (hid : w.id = id) : ((w.rects changes).filter fun t => t.ComesFrom id) = w.rects changes := by
  apply List.filter_eq_self.2
  intro t ht
  obtain ⟨hsource, hkind⟩ := source_of_mem_rects ht
  exact decide_eq_true ⟨hkind, by rw [hsource, hid]⟩

theorem filter_rects_of_ne (hid : w.id ≠ id) : ((w.rects changes).filter fun t => t.ComesFrom id) = [] := by
  apply List.filter_eq_nil_iff.2
  intro t ht hfrom
  obtain ⟨-, hsource⟩ := of_decide_eq_true hfrom
  exact hid (Ident.toSource_inj.1 ((source_of_mem_rects ht).1.symm.trans hsource))

end Work

namespace RecordSet

theorem rects_append (works works' : List Work) (changes : List Change) (breaks breaks' : List Break) :
    (⟨works ++ works', changes, breaks ++ breaks'⟩ : RecordSet).rects =
      (⟨works, changes, []⟩ : RecordSet).rects ++ (⟨works', changes, []⟩ : RecordSet).rects ++
        (⟨[], [], breaks⟩ : RecordSet).rects ++ (⟨[], [], breaks'⟩ : RecordSet).rects := by
  simp only [rects_eq, List.flatMap_append, List.flatMap_nil, List.append_nil, List.nil_append, List.append_assoc]

theorem filter_workRects_comesFrom (works : List Work) (changes : List Change) (id : WorkId) :
    ((works.flatMap fun w => w.rects changes).filter fun t => t.ComesFrom id) =
      (works.filter fun w => w.id = id).flatMap fun w => w.rects (changes.filter fun c => c.work = id) := by
  induction works with
  | nil => rfl
  | cons w works ih =>
      rw [List.flatMap_cons, List.filter_append, ih]
      by_cases hid : w.id = id
      · have hown : (changes.filter fun c => c.work = id) = w.ownChanges changes := by rw [Work.ownChanges, hid]
        rw [w.filter_rects_of_eq changes hid, List.filter_cons_of_pos (by simpa using hid), List.flatMap_cons, hown,
          w.rects_ownChanges]
      · rw [w.filter_rects_of_ne changes hid, List.filter_cons_of_neg (by simpa using hid), List.nil_append]

theorem filter_rects_comesFrom (r : RecordSet) (id : WorkId) :
    (r.rects.filter fun t => t.ComesFrom id) = (r.about id).rects := by
  have hbreaks : ((r.breaks.flatMap Break.rects).filter fun t => t.ComesFrom id) = [] := by
    apply List.filter_eq_nil_iff.2
    intro t ht hfrom
    obtain ⟨b, -, ht⟩ := List.mem_flatMap.1 ht
    exact (of_decide_eq_true hfrom).1 (Break.kind_of_mem_rects ht)
  rw [rects_eq, List.filter_append, hbreaks, filter_workRects_comesFrom, rects_eq, about, List.flatMap_nil]

end RecordSet

/-- The rects are those of work after work, each with the changes that name it, and of break after break. So works and
breaks may be built in parts, and whatever else is among the records, a work has the same rects. -/
theorem rects_of_each_record_by_itself :
    (∀ r : RecordSet, r.rects =
      (r.works.flatMap fun w => w.rectsWith (r.changes.filter fun c => c.work = w.id)) ++ r.breaks.flatMap Break.rects) ∧
      (∀ (works works' : List Work) (changes : List Change) (breaks breaks' : List Break),
        (⟨works ++ works', changes, breaks ++ breaks'⟩ : RecordSet).rects =
          (⟨works, changes, []⟩ : RecordSet).rects ++ (⟨works', changes, []⟩ : RecordSet).rects ++
            (⟨[], [], breaks⟩ : RecordSet).rects ++ (⟨[], [], breaks'⟩ : RecordSet).rects) ∧
      (∀ (w : Work) (changes : List Change),
        (⟨[w], changes, []⟩ : RecordSet).rects =
          (⟨[w], changes.filter fun c => c.work = w.id, []⟩ : RecordSet).rects) ∧
      ∀ (r : RecordSet) (id : WorkId), (r.rects.filter fun t => t.ComesFrom id) = (r.about id).rects := by
  refine ⟨RecordSet.rects_eq_rectsWith, RecordSet.rects_append, fun w changes => ?_, RecordSet.filter_rects_comesFrom⟩
  exact (w.rects_ownChanges changes).symm

end Roster
