import Roster.Proofs.Store.Merging
import Roster.Proofs.Store.Order
import Roster.Proofs.Store.Row
import Roster.Store.Load
/-!
# The first bad row that a window selects

Loading picks rows of texts and reads them (`Tables.load_store`). What it picks can be said without reading anything
(`Window.Picks`), and every row that is picked is read as a whole: it spells a record, or one of its checks fails, and
the first that fails is the error of the whole load. Rows that are not picked play no part, not even as changes that
would bring a work into the window of a client, because such changes are picked with their work (`Window.Keeps.selects`).
-/

namespace Roster

/-- The rows of the three tables, whatever texts they hold. -/
@[ext]
structure Tables where
  works : List WorkRow
  changes : List ChangeRow
  breaks : List BreakRow
deriving DecidableEq

namespace Tables

def store (t : Tables) : Store := ⟨some t.works, some t.changes, some t.breaks⟩

/-- The checks of all rows: works before changes before breaks. -/
def checks (t : Tables) : List RowCheck :=
  t.works.flatMap WorkRow.checks ++ (t.changes.flatMap ChangeRow.checks ++ t.breaks.flatMap BreakRow.checks)

/-- Each row spells the record in its place. -/
structure Spells (t : Tables) (r : RecordSet) : Prop where
  works : List.Forall₂ WorkRow.Spells t.works r.works
  changes : List.Forall₂ ChangeRow.Spells t.changes r.changes
  breaks : List.Forall₂ BreakRow.Spells t.breaks r.breaks

end Tables

namespace Window

def SelectsWork (w : Window) (t : Tables) (x : WorkRow) : Prop :=
  x ∈ t.works ∧ (Selection.ofWindow w).SelectsWork t.changes x

/-- The changes of selected works are selected, whatever client they name. -/
def SelectsChange (w : Window) (t : Tables) (c : ChangeRow) : Prop :=
  c ∈ t.changes ∧ ∃ x, w.SelectsWork t x ∧ c.work = x.id

def SelectsBreak (w : Window) (t : Tables) (b : BreakRow) : Prop :=
  b ∈ t.breaks ∧ (Selection.ofWindow w).SelectsBreak b

/-- The second tables are the selected rows of the first, sorted: works and breaks by their dates, starts and
identifiers, changes by their works and their identifiers. -/
structure Picks (w : Window) (t picked : Tables) : Prop where
  mem_works : ∀ x, x ∈ picked.works ↔ w.SelectsWork t x
  mem_changes : ∀ c, c ∈ picked.changes ↔ w.SelectsChange t c
  mem_breaks : ∀ b, b ∈ picked.breaks ↔ w.SelectsBreak t b
  works_increasing : picked.works.Pairwise fun x y => x.key < y.key
  changes_increasing : picked.changes.Pairwise fun c d => ∀ x ∈ picked.works, ∀ y ∈ picked.works,
    c.work = x.id → d.work = y.id → x.key < y.key ∨ x = y ∧ c.id < d.id
  breaks_increasing : picked.breaks.Pairwise fun a b => a.key < b.key

/-- The rows of the first tables that are selected stand in the second. -/
structure Keeps (w : Window) (t t' : Tables) : Prop where
  works : ∀ x, w.SelectsWork t x → x ∈ t'.works
  changes : ∀ c, w.SelectsChange t c → c ∈ t'.changes
  breaks : ∀ b, w.SelectsBreak t b → b ∈ t'.breaks

/-- What loading the window comes to, if these are the rows that it picks. -/
structure Loads (w : Window) (t picked : Tables) : Prop where
  picks : w.Picks t picked
  succeeds_iff : (∃ r, t.store.load w = .ok r) ↔ ∀ c ∈ picked.checks, c.passes
  eq_ok_iff : ∀ r, t.store.load w = .ok r ↔ picked.Spells r
  eq_error_iff : ∀ e, t.store.load w = .error e ↔ firstFault picked.checks = some e
  unaffected : ∀ t' : Tables, t'.store.UniqueIds → w.Keeps t t' → w.Keeps t' t → t'.store.load w = t.store.load w

end Window

/-! ### Reading rows -/

namespace Tables

variable {t : Tables}

def read (t : Tables) : Except StoreError RecordSet := do
  let works ← t.works.mapM WorkRow.toWork
  let changes ← t.changes.mapM ChangeRow.toChange
  let breaks ← t.breaks.mapM BreakRow.toBreak
  .ok ⟨works, changes, breaks⟩

theorem read_follows (t : Tables) : Follows t.read t.checks := by
  refine (Follows.mapM WorkRow.toWork_follows t.works).bind fun works => ?_
  refine (Follows.mapM ChangeRow.toChange_follows t.changes).bind fun changes => ?_
  rw [← List.append_nil (t.breaks.flatMap BreakRow.checks)]
  exact (Follows.mapM BreakRow.toBreak_follows t.breaks).bind fun breaks => follows_ok _

theorem read_eq_ok_iff {r : RecordSet} : t.read = .ok r ↔ t.Spells r := by
  simp only [read, Text.bind_eq_ok_iff, mapM_eq_ok_iff, WorkRow.toWork_eq_ok_iff, ChangeRow.toChange_eq_ok_iff,
    BreakRow.toBreak_eq_ok_iff]
  constructor
  · rintro ⟨works, hworks, changes, hchanges, breaks, hbreaks, ⟨⟩⟩
    exact ⟨hworks, hchanges, hbreaks⟩
  · intro h
    exact ⟨_, h.works, _, h.changes, _, h.breaks, rfl⟩

/-! ### Picking rows -/

/-- The rows that loading the window reads. -/
def picked (t : Tables) (w : Window) : Tables :=
  let selection := Selection.ofWindow w
  ⟨selection.works t.works t.changes, selection.changes t.works t.changes, selection.breaks t.breaks⟩

theorem load_store (t : Tables) (w : Window) : t.store.load w = (t.picked w).read := rfl

end Tables

theorem mem_joinChanges {works : List WorkRow} (hworks : (works.map WorkRow.id).Nodup) {changes : List ChangeRow}
    {j : JoinedChange} :
    j ∈ joinChanges works changes ↔ j.work ∈ works ∧ j.change ∈ changes ∧ j.change.work = j.work.id := by
  rw [joinChanges, mem_filterMap_find? hworks]
  constructor
  · intro h
    obtain ⟨w, hw, c, hc, hwork, rfl⟩ := h
    exact ⟨hw, hc, hwork⟩
  · intro h
    obtain ⟨hw, hc, hwork⟩ := h
    exact ⟨j.work, hw, j.change, hc, hwork, rfl⟩

theorem map_change_joinChanges (works : List WorkRow) (changes : List ChangeRow) :
    (joinChanges works changes).map JoinedChange.change =
      changes.filter fun c => works.any fun w => w.id = c.work :=
  map_filterMap_find? (fun _ _ => rfl) works changes

theorem JoinedChange.key_eq {j : JoinedChange} (hj : j.change.work = j.work.id) : j.key = j.work.key ++ [j.change.id] := by
  rw [key, hj]
  rfl

theorem WorkRow.key_append_lt_iff {x y : WorkRow} {id id' : String} :
    x.key ++ [id] < y.key ++ [id'] ↔ x.key < y.key ∨ x.key = y.key ∧ id < id' := by
  simp only [key, List.cons_append, List.nil_append, List.cons_lt_cons_iff, List.cons.injEq]
  tauto

namespace Store.UniqueIds

variable {t : Tables} (ht : t.store.UniqueIds)

include ht

theorem work_inj {x y : WorkRow} (hx : x ∈ t.works) (hy : y ∈ t.works) (hid : x.id = y.id) : x = y :=
  List.inj_on_of_nodup_map (ht.works _ rfl) hx hy hid

theorem workKeys : (t.works.map WorkRow.key).Nodup :=
  nodup_map_of_imp (ht.works _ rfl) fun _ _ => WorkRow.id_eq_of_key_eq

theorem breakKeys : (t.breaks.map BreakRow.key).Nodup :=
  nodup_map_of_imp (ht.breaks _ rfl) fun _ _ => BreakRow.id_eq_of_key_eq

theorem joinedKeys : ((joinChanges t.works t.changes).map JoinedChange.key).Nodup := by
  have hids : (((joinChanges t.works t.changes).map JoinedChange.change).map ChangeRow.id).Nodup := by
    rw [map_change_joinChanges]
    exact (ht.changes _ rfl).sublist (List.filter_sublist.map ChangeRow.id)
  rw [List.map_map] at hids
  exact nodup_map_of_imp hids fun _ _ => JoinedChange.id_eq_of_key_eq

end Store.UniqueIds

namespace Tables

variable {t t' : Tables} {w : Window}

theorem mem_filter_works {x : WorkRow} :
    x ∈ (t.works.filter fun x => (Selection.ofWindow w).SelectsWork t.changes x) ↔ w.SelectsWork t x := by
  rw [List.mem_filter, decide_eq_true_iff]
  rfl

theorem mem_filter_breaks {b : BreakRow} :
    b ∈ (t.breaks.filter fun b => (Selection.ofWindow w).SelectsBreak b) ↔ w.SelectsBreak t b := by
  rw [List.mem_filter, decide_eq_true_iff]
  rfl

theorem mem_picked_works {x : WorkRow} : x ∈ (t.picked w).works ↔ w.SelectsWork t x :=
  (mem_sortByKey WorkRow.key).trans mem_filter_works

/-- The changes that are picked, each with its work. -/
def pickedJoins (t : Tables) (w : Window) : List JoinedChange :=
  (joinChanges t.works t.changes).filter fun j => (Selection.ofWindow w).SelectsWork t.changes j.work

theorem mem_pickedJoins (ht : t.store.UniqueIds) {j : JoinedChange} :
    j ∈ t.pickedJoins w ↔ w.SelectsWork t j.work ∧ j.change ∈ t.changes ∧ j.change.work = j.work.id := by
  rw [pickedJoins, List.mem_filter, decide_eq_true_iff, mem_joinChanges (ht.works _ rfl), and_right_comm]
  rfl

theorem picked_changes (t : Tables) (w : Window) :
    (t.picked w).changes = (sortByKey JoinedChange.key (t.pickedJoins w)).map JoinedChange.change := rfl

theorem mem_picked_changes (ht : t.store.UniqueIds) {c : ChangeRow} :
    c ∈ (t.picked w).changes ↔ w.SelectsChange t c := by
  simp only [picked_changes, List.mem_map, mem_sortByKey, mem_pickedJoins ht]
  constructor
  · rintro ⟨j, ⟨hwork, hchange, hid⟩, rfl⟩
    exact ⟨hchange, j.work, hwork, hid⟩
  · rintro ⟨hchange, x, hwork, hid⟩
    exact ⟨⟨x, c⟩, ⟨hwork, hchange, hid⟩, rfl⟩

theorem pickedChangeKeys (ht : t.store.UniqueIds) (w : Window) : ((t.pickedJoins w).map JoinedChange.key).Nodup :=
  ht.joinedKeys.sublist (List.filter_sublist.map JoinedChange.key)

theorem picked_changes_increasing (ht : t.store.UniqueIds) :
    (t.picked w).changes.Pairwise fun c d => ∀ x ∈ (t.picked w).works, ∀ y ∈ (t.picked w).works,
      c.work = x.id → d.work = y.id → x.key < y.key ∨ x = y ∧ c.id < d.id := by
  refine List.pairwise_map.2 (List.Pairwise.imp_of_mem ?_ (sortByKey_strict JoinedChange.key (pickedChangeKeys ht w)))
  -- `x` and `y` are the works that the changes were joined with.
  intro i j hi hj hkey x hx y hy hix hjy
  obtain ⟨⟨hi, -⟩, -, hiwork⟩ := (mem_pickedJoins ht).1 ((mem_sortByKey _).1 hi)
  obtain ⟨⟨hj, -⟩, -, hjwork⟩ := (mem_pickedJoins ht).1 ((mem_sortByKey _).1 hj)
  have hx := (mem_picked_works.1 hx).1
  have hy := (mem_picked_works.1 hy).1
  have hix : i.work = x := ht.work_inj hi hx (hiwork.symm.trans hix)
  have hjy : j.work = y := ht.work_inj hj hy (hjwork.symm.trans hjy)
  rw [JoinedChange.key_eq hiwork, JoinedChange.key_eq hjwork, hix, hjy, WorkRow.key_append_lt_iff] at hkey
  exact hkey.imp_right fun h => ⟨ht.work_inj hx hy (WorkRow.id_eq_of_key_eq h.1), h.2⟩

theorem pickedWorkKeys (ht : t.store.UniqueIds) (w : Window) :
    ((t.works.filter fun x => (Selection.ofWindow w).SelectsWork t.changes x).map WorkRow.key).Nodup :=
  ht.workKeys.sublist (List.filter_sublist.map WorkRow.key)

theorem pickedBreakKeys (ht : t.store.UniqueIds) (w : Window) :
    ((t.breaks.filter fun b => (Selection.ofWindow w).SelectsBreak b).map BreakRow.key).Nodup :=
  ht.breakKeys.sublist (List.filter_sublist.map BreakRow.key)

theorem picks_picked (ht : t.store.UniqueIds) (w : Window) : w.Picks t (t.picked w) where
  mem_works _ := mem_picked_works
  mem_changes _ := mem_picked_changes ht
  mem_breaks _ := (mem_sortByKey BreakRow.key).trans mem_filter_breaks
  works_increasing := sortByKey_strict WorkRow.key (pickedWorkKeys ht w)
  changes_increasing := picked_changes_increasing ht
  breaks_increasing := sortByKey_strict BreakRow.key (pickedBreakKeys ht w)

end Tables

/-! ### Rows that are not picked -/

namespace Window.Keeps

variable {w : Window} {t t' : Tables}

/-- A change to the client, for which a work is selected, is selected with the work, and so it is kept. -/
theorem selects (h : w.Keeps t t') {x : WorkRow} (hx : w.SelectsWork t x) : w.SelectsWork t' x := by
  refine ⟨h.works x hx, hx.2.1, fun client hclient => ?_⟩
  refine (hx.2.2 client hclient).imp_right fun hchange => ?_
  obtain ⟨c, hc, hreplacement, hwork⟩ := hchange
  exact ⟨c, h.changes c ⟨hc, x, hx, hwork⟩, hreplacement, hwork⟩

theorem mem_pickedJoins (h : w.Keeps t t') (ht : t.store.UniqueIds) (ht' : t'.store.UniqueIds) {j : JoinedChange}
    (hj : j ∈ t.pickedJoins w) : j ∈ t'.pickedJoins w := by
  obtain ⟨hwork, hchange, hid⟩ := (Tables.mem_pickedJoins ht).1 hj
  exact (Tables.mem_pickedJoins ht').2 ⟨h.selects hwork, h.changes j.change ⟨hchange, j.work, hwork, hid⟩, hid⟩

theorem picked_eq (h : w.Keeps t t') (h' : w.Keeps t' t) (ht : t.store.UniqueIds) (ht' : t'.store.UniqueIds) :
    t.picked w = t'.picked w := by
  have hworks : (t.picked w).works = (t'.picked w).works := by
    refine sortByKey_of_mem_iff WorkRow.key (Tables.pickedWorkKeys ht w) (Tables.pickedWorkKeys ht' w) fun x => ?_
    rw [Tables.mem_filter_works, Tables.mem_filter_works]
    exact ⟨h.selects, h'.selects⟩
  have hjoins := sortByKey_of_mem_iff JoinedChange.key (Tables.pickedChangeKeys ht w) (Tables.pickedChangeKeys ht' w)
    fun j => ⟨h.mem_pickedJoins ht ht', h'.mem_pickedJoins ht' ht⟩
  have hchanges : (t.picked w).changes = (t'.picked w).changes := congrArg (List.map JoinedChange.change) hjoins
  have hbreaks : (t.picked w).breaks = (t'.picked w).breaks := by
    refine sortByKey_of_mem_iff BreakRow.key (Tables.pickedBreakKeys ht w) (Tables.pickedBreakKeys ht' w) fun b => ?_
    rw [Tables.mem_filter_breaks, Tables.mem_filter_breaks]
    exact ⟨fun hb => ⟨h.breaks b hb, hb.2⟩, fun hb => ⟨h'.breaks b hb, hb.2⟩⟩
  exact Tables.ext hworks hchanges hbreaks

end Window.Keeps

/-- Loading picks rows and returns what they spell, or the error of the first check of theirs that fails. -/
theorem load_reads_or_blames_first_bad_row {t : Tables} (ht : t.store.UniqueIds) (w : Window) :
    ∃ picked, w.Loads t picked := by
  refine ⟨t.picked w, Tables.picks_picked ht w, ?_, ?_, ?_, ?_⟩
  · exact (t.picked w).read_follows.exists_ok_iff
  · exact fun _ => Tables.read_eq_ok_iff (t := t.picked w)
  · exact (t.picked w).read_follows
  · intro t' ht' hkeeps hkeeps'
    rw [Tables.load_store, Tables.load_store, hkeeps.picked_eq hkeeps' ht ht']

/-- Two works, one of which has no date and is in no window, and a change and a break that fail their first checks. -/
def dredgeLog : Tables :=
  ⟨[⟨"second haul", "C35", "S29", "2025-10-21", "09:00:00", "at dusk"⟩, ⟨"", "", "", "someday", "", ""⟩],
    [⟨"", "second haul", "", "", "", some ""⟩], [⟨"", "", "2025-10-21", "", ""⟩]⟩

def dredgeDay : Window := ⟨⟨2025, 10, 21, by decide⟩, ⟨2025, 10, 21, by decide⟩, none, by decide⟩

theorem dredgeLog_blames_second_haul :
    dredgeLog.store.UniqueIds ∧
      dredgeLog.store.load dredgeDay = .error (.invalidField .works "second haul" .finish "at dusk") ∧
      ∃ picked, dredgeDay.Loads dredgeLog picked ∧
        firstFault picked.checks = some (.invalidField .works "second haul" .finish "at dusk") := by
  have hunique : dredgeLog.store.UniqueIds := by
    constructor <;> rintro _ ⟨⟩ <;> decide
  have herror : dredgeLog.store.load dredgeDay = .error (.invalidField .works "second haul" .finish "at dusk") := by
    decide +kernel
  obtain ⟨picked, hloads⟩ := load_reads_or_blames_first_bad_row hunique dredgeDay
  exact ⟨hunique, herror, picked, hloads, (hloads.eq_error_iff _).1 herror⟩

end Roster
