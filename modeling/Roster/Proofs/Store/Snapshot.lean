import Roster.Proofs.Rect.Build
import Roster.Proofs.Store.Contents
import Roster.Proofs.Store.Order
import Roster.Proofs.Store.Row
/-!
# What loading a window returns

Loading from a store that holds distinct records is done on the records: they are arranged once, whatever the window
(`RecordSet.arranged`), and the window filters them (`RecordSet.snapshot`, `Store.load_holding`). A change is kept
exactly if its work is, so a kept work has all its changes (`RecordSet.ownChanges_snapshot`), and arranging only
permutes the changes of a work (`RecordSet.ownChanges_arranged_perm`).
-/

namespace Roster

def Work.rowKey (w : Work) : List String := (WorkRow.ofWork w).key

def Break.rowKey (b : Break) : List String := (BreakRow.ofBreak b).key

def JoinedChange.ofPair (p : Work × Change) : JoinedChange := ⟨.ofWork p.1, .ofChange p.2⟩

def JoinedChange.pairKey (p : Work × Change) : List String := (ofPair p).key

/-- The rows of the work are selected for the window. -/
def Window.NeedsWork (w : Window) (changes : List Change) (work : Work) : Prop :=
  (Selection.ofWindow w).SelectsWork (changes.map .ofChange) (.ofWork work)

instance (w : Window) (changes : List Change) (work : Work) : Decidable (w.NeedsWork changes work) := by
  unfold Window.NeedsWork; infer_instance

def Window.NeedsBreak (w : Window) (b : Break) : Prop := (Selection.ofWindow w).SelectsBreak (.ofBreak b)

instance (w : Window) (b : Break) : Decidable (w.NeedsBreak b) := by
  unfold Window.NeedsBreak; infer_instance

namespace RecordSet

/-- The changes whose work is there, each with its work. -/
def joined (r : RecordSet) : List (Work × Change) :=
  r.changes.filterMap fun c => (r.works.find? fun w => w.id = c.work).map fun w => (w, c)

/-- The records in the order of their rows, without changes of missing works. -/
def arranged (r : RecordSet) : RecordSet :=
  ⟨sortByKey Work.rowKey r.works, (sortByKey JoinedChange.pairKey r.joined).map Prod.snd,
    sortByKey Break.rowKey r.breaks⟩

/-- The arranged records that the window needs. -/
def snapshot (r : RecordSet) (w : Window) : RecordSet :=
  ⟨(sortByKey Work.rowKey r.works).filter fun work => w.NeedsWork r.changes work,
    ((sortByKey JoinedChange.pairKey r.joined).filter fun p => w.NeedsWork r.changes p.1).map Prod.snd,
    (sortByKey Break.rowKey r.breaks).filter fun b => w.NeedsBreak b⟩

/-! ### Changes and their works -/

variable {r : RecordSet}

theorem joinChanges_rows :
    joinChanges (r.works.map .ofWork) (r.changes.map .ofChange) = r.joined.map JoinedChange.ofPair := by
  rw [joinChanges, List.filterMap_map, joined, List.map_filterMap]
  apply List.filterMap_congr
  intro c _
  have hid : ((fun w : WorkRow => decide (w.id = (ChangeRow.ofChange c).work)) ∘ WorkRow.ofWork) =
      fun w : Work => decide (w.id = c.work) := by
    funext w
    exact decide_eq_decide.2 Ident.ext_iff.symm
  rw [Function.comp_apply, List.find?_map, hid, Option.map_map, Option.map_map]
  rfl

theorem find?_work_eq_some_iff (hr : r.Distinct) {id : WorkId} {w : Work} :
    (r.works.find? fun v => v.id = id) = some w ↔ w ∈ r.works ∧ w.id = id :=
  find?_eq_some_iff_of_nodup hr.works

theorem mem_joined (hr : r.Distinct) {p : Work × Change} :
    p ∈ r.joined ↔ p.1 ∈ r.works ∧ p.2 ∈ r.changes ∧ p.2.work = p.1.id := by
  rw [joined, mem_filterMap_find? hr.works]
  constructor
  · intro h
    obtain ⟨w, hw, c, hc, hwork, rfl⟩ := h
    exact ⟨hw, hc, hwork⟩
  · intro h
    obtain ⟨hw, hc, hwork⟩ := h
    exact ⟨p.1, hw, p.2, hc, hwork, rfl⟩

theorem joined_snd : r.joined.map Prod.snd = r.attached := map_filterMap_find? (fun _ _ => rfl) r.works r.changes

/-! ### Keys -/

theorem Distinct.workKeys (hr : r.Distinct) : (r.works.map Work.rowKey).Nodup :=
  nodup_map_of_imp hr.works fun _ _ hkey => Ident.ext_iff.2 (WorkRow.id_eq_of_key_eq hkey)

theorem Distinct.breakKeys (hr : r.Distinct) : (r.breaks.map Break.rowKey).Nodup :=
  nodup_map_of_imp hr.breaks fun _ _ hkey => Ident.ext_iff.2 (BreakRow.id_eq_of_key_eq hkey)

theorem Distinct.pairKeys (hr : r.Distinct) : (r.joined.map JoinedChange.pairKey).Nodup := by
  have hids : (r.joined.map fun p => p.2.id).Nodup := by
    have hmap : (r.joined.map fun p => p.2.id) = (r.joined.map Prod.snd).map Change.id := by rw [List.map_map]; rfl
    rw [hmap, joined_snd]
    exact hr.changes.sublist (List.filter_sublist.map Change.id)
  exact nodup_map_of_imp hids fun _ _ hkey => Ident.ext_iff.2 (JoinedChange.id_eq_of_key_eq hkey)

/-! ### Loading -/

theorem works_ofWindow (hr : r.Distinct) (w : Window) :
    (Selection.ofWindow w).works (r.works.map .ofWork) (r.changes.map .ofChange) =
      (r.snapshot w).works.map .ofWork := by
  rw [Selection.works, List.filter_map, sortByKey_map]
  exact congrArg _ (sortByKey_filter Work.rowKey hr.workKeys fun x => w.NeedsWork r.changes x)

theorem changes_ofWindow (hr : r.Distinct) (w : Window) :
    (Selection.ofWindow w).changes (r.works.map .ofWork) (r.changes.map .ofChange) =
      (r.snapshot w).changes.map .ofChange := by
  have hsorted := sortByKey_filter JoinedChange.pairKey hr.pairKeys fun p => w.NeedsWork r.changes p.1
  rw [Selection.changes, joinChanges_rows, List.filter_map, sortByKey_map, List.map_map, snapshot, ← hsorted,
    List.map_map]
  rfl

theorem breaks_ofWindow (hr : r.Distinct) (w : Window) :
    (Selection.ofWindow w).breaks (r.breaks.map .ofBreak) = (r.snapshot w).breaks.map .ofBreak := by
  rw [Selection.breaks, List.filter_map, sortByKey_map]
  exact congrArg _ (sortByKey_filter Break.rowKey hr.breakKeys fun b => w.NeedsBreak b)

end RecordSet

/-- Loading from a store returns the records that the window needs, arranged. -/
theorem Store.load_holding {r : RecordSet} (hr : r.Distinct) (w : Window) :
    (holding r).load w = .ok (r.snapshot w) := by
  simp only [load, holding, Table.rows, RecordSet.works_ofWindow hr, RecordSet.changes_ofWindow hr,
    RecordSet.breaks_ofWindow hr, Text.mapM_map_of_eq_ok WorkRow.toWork_ofWork,
    Text.mapM_map_of_eq_ok ChangeRow.toChange_ofChange, Text.mapM_map_of_eq_ok BreakRow.toBreak_ofBreak, bind,
    Except.bind]

namespace RecordSet

variable {r : RecordSet}

theorem mem_snapshot_works {w : Window} {x : Work} :
    x ∈ (r.snapshot w).works ↔ x ∈ r.works ∧ w.NeedsWork r.changes x := by
  rw [snapshot, List.mem_filter, mem_sortByKey, decide_eq_true_iff]

theorem mem_arranged_changes (hr : r.Distinct) {c : Change} :
    c ∈ r.arranged.changes ↔ c ∈ r.changes ∧ ∃ x ∈ r.works, c.work = x.id := by
  simp only [arranged, List.mem_map, mem_sortByKey, mem_joined hr]
  constructor
  · intro h
    obtain ⟨p, ⟨hx, hc, hwork⟩, rfl⟩ := h
    exact ⟨hc, p.1, hx, hwork⟩
  · intro h
    obtain ⟨hc, x, hx, hwork⟩ := h
    exact ⟨(x, c), ⟨hx, hc, hwork⟩, rfl⟩

/-- A kept work has all its changes, in the same order. -/
theorem ownChanges_snapshot (hr : r.Distinct) {w : Window} {x : Work} (hx : x ∈ r.works)
    (hneeds : w.NeedsWork r.changes x) : x.ownChanges (r.snapshot w).changes = x.ownChanges r.arranged.changes := by
  rw [Work.ownChanges, Work.ownChanges, snapshot, arranged, List.filter_map, List.filter_map, List.filter_filter]
  refine congrArg _ (List.filter_congr ?_)
  intro p hp
  obtain ⟨hp, -, hwork⟩ := (mem_joined hr).1 ((mem_sortByKey _).1 hp)
  by_cases hid : p.2.work = x.id
  · have hsame : p.1 = x := List.inj_on_of_nodup_map hr.works hp hx (hwork.symm.trans hid)
    simp [hsame, hneeds]
  · simp [hid]

theorem ownChanges_arranged_perm {x : Work} (hx : x ∈ r.works) :
    (x.ownChanges r.changes).Perm (x.ownChanges r.arranged.changes) := by
  have hperm := (sortByKey_perm JoinedChange.pairKey r.joined).map Prod.snd
  rw [joined_snd] at hperm
  rw [← ownChanges_attached hx]
  exact (hperm.filter _).symm

theorem rects_arranged_perm : r.arranged.rects.Perm r.rects := by
  refine (rects_perm ?_ ?_ ?_).symm
  · exact (sortByKey_perm Work.rowKey r.works).symm
  · intro x hx
    exact ownChanges_arranged_perm hx
  · exact (sortByKey_perm Break.rowKey r.breaks).symm

end RecordSet

end Roster
