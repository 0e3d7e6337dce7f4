import Roster.Proofs.Store.Query
/-!
# What was stored is read back unchanged

Loading cannot fail on a store that records were only inserted into, whatever their dates, and each record that is
returned is the first of its identifier that was inserted. Later records of the same identifier leave no trace in any
column. No first record is lost either: some window returns it, if it is a change whose work was inserted
(`load_returns_first_inserted`). Which windows do depends on how the texts of dates are ordered. Within a year, whatever
its number, they are ordered as the dates are, so the window of the year serves for all of its dates.
-/

namespace Roster

/-! ### The window of a year -/

def Date.newYear (d : Date) : Date :=
  ⟨d.year, 1, 1, d.valid.1, d.valid.2.1, by decide, by decide, by decide, Nat.le_of_ble_eq_true rfl⟩

namespace Window

/-- Asks for all of a date's year, as it begins on the second of January. -/
def ofYear (d : Date) : Window where
  first := ⟨d.year, 1, 2, d.valid.1, d.valid.2.1, by decide, by decide, by decide, Nat.le_of_ble_eq_true rfl⟩
  last := ⟨d.year, 12, 31, d.valid.1, d.valid.2.1, by decide, by decide, by decide, Nat.le_of_ble_eq_true rfl⟩
  client := none
  first_le_last := by
    rw [Date.le_iff, Date.lt_iff]
    dsimp only
    omega

theorem loadFrom_ofYear (d : Date) : (ofYear d).loadFrom = d.newYear := by
  have hpred : (ofYear d).first.pred? = some d.newYear := Date.ofCivil?_parts d.newYear
  rw [loadFrom, hpred, Option.getD_some]

theorem dated_ofYear (d : Date) : (Selection.ofWindow (ofYear d)).Dated d.toText := by
  have hmonth := d.month_bounds
  have hday := d.day_bounds
  have hday' := d.day_le
  rw [Selection.Dated, Selection.ofWindow, loadFrom_ofYear]
  dsimp only
  rw [Date.toText_lt_iff_of_year_eq (a := d) (b := d.newYear) rfl,
    Date.toText_lt_iff_of_year_eq (a := (ofYear d).last) (b := d) rfl, Date.lt_iff, Date.lt_iff]
  dsimp only [ofYear, Date.newYear]
  omega

theorem ofYear_needsWork (changes : List Change) (x : Work) : (ofYear x.date).NeedsWork changes x :=
  ⟨dated_ofYear x.date, nofun⟩

theorem ofYear_needsBreak (b : Break) : (ofYear b.date).NeedsBreak b := ⟨dated_ofYear b.date, nofun⟩

end Window

/-! ### The first of an identifier -/

section FirstOf

variable {α : Type} {kind : IdentKind} {id : α → Ident kind}

/-- The first of the rows with its identifier is the row itself, in all its columns. -/
def FirstOf (id : α → Ident kind) (rows : List α) (x : α) : Prop := (rows.find? fun y => id y = id x) = some x

variable {rows : RecordSet → List α} {batches : List RecordSet}

theorem mem_mergeAll_iff_firstOf (hempty : rows .empty = [])
    (hmerge : ∀ r s : RecordSet, rows (r.merge s) = (addRows (fun x => (id x).text) (rows r) (rows s)).1)
    (hdistinct : ((rows (.mergeAll batches)).map id).Nodup) {x : α} :
    x ∈ rows (.mergeAll batches) ↔ FirstOf id (batches.flatMap rows) x := by
  rw [FirstOf, ← RecordSet.find?_mergeAll hempty hmerge, find?_eq_some_iff_of_nodup hdistinct]
  exact (and_iff_left rfl).symm

end FirstOf

namespace RecordSet

variable {batches : List RecordSet}

theorem mem_mergeAll_works {x : Work} : x ∈ (mergeAll batches).works ↔ FirstOf Work.id (batches.flatMap works) x :=
  mem_mergeAll_iff_firstOf rfl (fun _ _ => rfl) (distinct_mergeAll batches).works

theorem mem_mergeAll_changes {c : Change} :
    c ∈ (mergeAll batches).changes ↔ FirstOf Change.id (batches.flatMap changes) c :=
  mem_mergeAll_iff_firstOf rfl (fun _ _ => rfl) (distinct_mergeAll batches).changes

theorem mem_mergeAll_breaks {b : Break} :
    b ∈ (mergeAll batches).breaks ↔ FirstOf Break.id (batches.flatMap breaks) b :=
  mem_mergeAll_iff_firstOf rfl (fun _ _ => rfl) (distinct_mergeAll batches).breaks

theorem exists_mem_mergeAll_works {x : Work} (hx : x ∈ batches.flatMap works) :
    ∃ y ∈ (mergeAll batches).works, y.id = x.id := by
  have hfound : ((batches.flatMap works).find? fun y => y.id = x.id).isSome = true :=
    List.find?_isSome.2 ⟨x, hx, decide_eq_true rfl⟩
  obtain ⟨y, hy⟩ := Option.isSome_iff_exists.1 hfound
  have hid : y.id = x.id := by simpa using List.find?_some hy
  rw [← hid] at hy
  exact ⟨y, mem_mergeAll_works.2 hy, hid⟩

end RecordSet

theorem load_returns_first_inserted (batches : List RecordSet) :
    (∀ w : Window, ∃ loaded, (Store.empty.insertAll batches).load w = .ok loaded ∧
      (∀ x ∈ loaded.works, FirstOf Work.id (batches.flatMap RecordSet.works) x) ∧
      (∀ c ∈ loaded.changes, FirstOf Change.id (batches.flatMap RecordSet.changes) c) ∧
      ∀ b ∈ loaded.breaks, FirstOf Break.id (batches.flatMap RecordSet.breaks) b) ∧
    (∀ x, FirstOf Work.id (batches.flatMap RecordSet.works) x →
      ∃ w loaded, (Store.empty.insertAll batches).load w = .ok loaded ∧ x ∈ loaded.works) ∧
    (∀ c, FirstOf Change.id (batches.flatMap RecordSet.changes) c →
      (∃ x ∈ batches.flatMap RecordSet.works, c.work = x.id) →
      ∃ w loaded, (Store.empty.insertAll batches).load w = .ok loaded ∧ c ∈ loaded.changes) ∧
    ∀ b, FirstOf Break.id (batches.flatMap RecordSet.breaks) b →
      ∃ w loaded, (Store.empty.insertAll batches).load w = .ok loaded ∧ b ∈ loaded.breaks := by
  have hdistinct := RecordSet.distinct_mergeAll batches
  have hload := Store.load_holding hdistinct
  rw [Store.insertAll_empty]
  refine ⟨fun w => ⟨_, hload w, ?_, ?_, ?_⟩, fun x hx => ?_, fun c hc hwork => ?_, fun b hb => ?_⟩
  · intro x hx
    exact RecordSet.mem_mergeAll_works.1 (RecordSet.mem_snapshot_works.1 hx).1
  · intro c hc
    exact RecordSet.mem_mergeAll_changes.1 ((RecordSet.mem_snapshot_changes hdistinct).1 hc).1
  · intro b hb
    exact RecordSet.mem_mergeAll_breaks.1 (RecordSet.mem_snapshot_breaks.1 hb).1
  · have hx := RecordSet.mem_mergeAll_works.2 hx
    exact ⟨_, _, hload (.ofYear x.date), RecordSet.mem_snapshot_works.2 ⟨hx, Window.ofYear_needsWork _ x⟩⟩
  · -- The change goes by the date of the work that was kept, which may be another than the one inserted with it.
    have hc := RecordSet.mem_mergeAll_changes.2 hc
    obtain ⟨x, hx, hwork⟩ := hwork
    obtain ⟨y, hy, hid⟩ := RecordSet.exists_mem_mergeAll_works hx
    have hsnapshot := RecordSet.mem_snapshot_works.2 ⟨hy, Window.ofYear_needsWork _ y⟩
    exact ⟨_, _, hload (.ofYear y.date),
      (RecordSet.mem_snapshot_changes hdistinct).2 ⟨hc, y, hsnapshot, hwork.trans hid.symm⟩⟩
  · have hb := RecordSet.mem_mergeAll_breaks.2 hb
    exact ⟨_, _, hload (.ofYear b.date), RecordSet.mem_snapshot_breaks.2 ⟨hb, Window.ofYear_needsBreak b⟩⟩

end Roster
