import Mathlib.Data.List.Basic
import Roster.Rect.Build
/-!
# The changes that a work gets

The changes of a record set are put together in one pass for all works. A change goes behind the others of its work
and touches no other group (`ChangesByWork.changesOf_add`). So whatever changes lie in between, the group of a known
work ends up as the changes that name the work, in their order (`ChangesByWork.changesOf_ofChanges`), and the rects of
a record set are those of its works, each with the changes that name it (`RecordSet.rects_eq`).
-/

namespace Roster

namespace ChangesByWork

variable {known : List WorkId} {id : WorkId}

theorem changesOf_nil (id : WorkId) : changesOf [] id = [] := rfl

theorem changesOf_cons (key : WorkId) (held : List Change) (groups : ChangesByWork) (id : WorkId) :
    changesOf ((key, held) :: groups) id = if id = key then held else groups.changesOf id := by
  rw [changesOf, List.lookup_cons]
  by_cases hid : id = key
  · simp [hid]
  · rw [beq_eq_false_iff_ne.2 hid, if_neg hid]
    rfl

theorem changesOf_add (c : Change) (groups : ChangesByWork) (id : WorkId) :
    (groups.add c).changesOf id = if c.work = id then groups.changesOf id ++ [c] else groups.changesOf id := by
  induction groups with
  | nil => simp only [add, changesOf_cons, changesOf_nil, List.nil_append, eq_comm]
  | cons group groups ih =>
      obtain ⟨key, held⟩ := group
      unfold add
      by_cases hkey : key = c.work
      · by_cases hid : id = key
        · simp [hkey, hid, changesOf_cons]
        · have hwork : c.work ≠ id := fun h => hid (h.symm.trans hkey.symm)
          rw [if_pos hkey, changesOf_cons, changesOf_cons, if_neg hid, if_neg hid, if_neg hwork]
      · rw [if_neg hkey, changesOf_cons, changesOf_cons, ih]
        by_cases hid : id = key
        · have hwork : c.work ≠ id := fun h => hkey (hid.symm.trans h.symm)
          rw [if_pos hid, if_neg hwork, if_pos hid]
        · rw [if_neg hid, if_neg hid]

/-- The group of a known work takes its changes from the ones to come and leaves the rest. -/
theorem changesOf_foldl (hid : id ∈ known) (groups : ChangesByWork) (changes : List Change) :
    (changes.foldl (fun groups c => if c.work ∈ known then groups.add c else groups) groups).changesOf id =
      groups.changesOf id ++ changes.filter fun c => c.work = id := by
  induction changes generalizing groups with
  | nil => simp
  | cons c changes ih =>
      rw [List.foldl_cons, ih, List.filter_cons]
      by_cases hwork : c.work = id
      · simp [hwork, hid, changesOf_add]
      · by_cases hknown : c.work ∈ known
        · simp [hwork, hknown, changesOf_add]
        · simp [hwork, hknown]

theorem changesOf_ofChanges (hid : id ∈ known) (changes : List Change) :
    (ofChanges known changes).changesOf id = changes.filter fun c => c.work = id :=
  changesOf_foldl hid [] changes

end ChangesByWork

/-- The changes of a work, in the order given. -/
def Work.ownChanges (w : Work) (changes : List Change) : List Change :=
  changes.filter fun c => c.work = w.id

/-- The rects of a work where it is the only record besides the changes. -/
def Work.rects (w : Work) (changes : List Change) : List Rect := (⟨[w], changes, []⟩ : RecordSet).rects

theorem RecordSet.rects_eq_rectsWith (r : RecordSet) :
    r.rects = (r.works.flatMap fun w => w.rectsWith (w.ownChanges r.changes)) ++ r.breaks.flatMap Break.rects := by
  rw [rects]
  congr 1
  apply List.flatMap_congr
  intro w hw
  rw [ChangesByWork.changesOf_ofChanges (List.mem_map_of_mem hw)]
  rfl

theorem Work.rects_eq (w : Work) (changes : List Change) :
    w.rects changes =
      w.remainingRects (w.ownChanges changes) ++ (w.ownChanges changes).flatMap fun c => c.rects w := by
  rw [rects, RecordSet.rects_eq_rectsWith, List.flatMap_singleton, List.flatMap_nil, List.append_nil, rectsWith]

/-- The rects of a record set, work by work and break by break. -/
theorem RecordSet.rects_eq (r : RecordSet) :
    r.rects = (r.works.flatMap fun w => w.rects r.changes) ++ r.breaks.flatMap Break.rects := by
  simp only [rects_eq_rectsWith, Work.rects_eq, Work.rectsWith]

end Roster
