import Roster.Proofs.Store.Contents
/-!
# What is new of a batch

A table takes from a batch the rows whose identifiers it does not hold, and of those that share one the first
(`newRows`). That is what adding rows one after the other comes to (`addRows_eq`), so batches may be joined or cut
(`newRows_append`), and identifiers that are held once keep out all that follows. A store with all its tables puts
what is new behind what it holds (`Store.insert_of_complete`); a store that lacks one takes nothing
(`Store.insert_of_not_complete`).
-/

namespace Roster

section NewRows

variable {α : Type} (id : α → String)

/-- The rows that a table takes: of each identifier that no stored row bears, the first. -/
def newRows (stored rows : List α) : List α :=
  (rows.filter fun r => id r ∉ stored.map id).eraseDupsBy fun r s => id r == id s

theorem newRows_nil (stored : List α) : newRows id stored [] = [] := rfl

theorem newRows_cons_of_mem {stored : List α} {x : α} (hx : id x ∈ stored.map id) (rows : List α) :
    newRows id stored (x :: rows) = newRows id stored rows := by
  rw [newRows, List.filter_cons_of_neg (by simpa using hx), newRows]

theorem newRows_cons_of_not_mem {stored : List α} {x : α} (hx : id x ∉ stored.map id) (rows : List α) :
    newRows id stored (x :: rows) = x :: newRows id (stored ++ [x]) rows := by
  rw [newRows, List.filter_cons_of_pos (by simpa using hx), List.eraseDupsBy_cons, List.filter_filter, newRows]
  congr 2
  apply List.filter_congr
  intro y _
  simp only [List.map_append, List.map_singleton, List.mem_append, List.mem_singleton, not_or]
  by_cases hy : id y = id x <;> simp [hy]

theorem newRows_append (stored xs ys : List α) :
    newRows id stored (xs ++ ys) = newRows id stored xs ++ newRows id (stored ++ newRows id stored xs) ys := by
  induction xs generalizing stored with
  | nil => rw [List.nil_append, newRows_nil, List.nil_append, List.append_nil]
  | cons x xs ih =>
      rw [List.cons_append]
      by_cases hx : id x ∈ stored.map id
      · rw [newRows_cons_of_mem id hx, newRows_cons_of_mem id hx, ih]
      · rw [newRows_cons_of_not_mem id hx, newRows_cons_of_not_mem id hx, ih, List.cons_append, List.append_assoc,
          List.singleton_append]

theorem addRows_eq (stored rows : List α) :
    addRows id stored rows = (stored ++ newRows id stored rows, (newRows id stored rows).length) := by
  induction rows generalizing stored with
  | nil => rw [addRows, newRows_nil, List.append_nil, List.length_nil]
  | cons x rows ih =>
      by_cases hx : id x ∈ stored.map id
      · rw [addRows_cons_of_mem id hx, newRows_cons_of_mem id hx, ih]
      · rw [addRows_cons_of_not_mem id hx, newRows_cons_of_not_mem id hx, ih, List.append_assoc, List.singleton_append,
          List.length_cons]

theorem addRows_append (stored xs ys : List α) :
    addRows id stored (xs ++ ys) =
      ((addRows id (addRows id stored xs).1 ys).1,
        (addRows id stored xs).2 + (addRows id (addRows id stored xs).1 ys).2) := by
  simp only [addRows_eq, newRows_append, List.append_assoc, List.length_append]

theorem mem_map_addRows {stored rows : List α} {k : String} :
    k ∈ (addRows id stored rows).1.map id ↔ k ∈ (stored ++ rows).map id := by
  have hfind : ∀ xs : List α, k ∈ xs.map id ↔ (xs.find? fun x => id x = k).isSome = true := by
    intro xs
    simp [List.find?_isSome]
  rw [hfind, hfind, find?_addRows]

theorem newRows_eq_nil {stored rows : List α} (h : ∀ r ∈ rows, id r ∈ stored.map id) : newRows id stored rows = [] := by
  have hfilter : (rows.filter fun r => id r ∉ stored.map id) = [] := by
    apply List.filter_eq_nil_iff.2
    intro r hr
    simpa using h r hr
  rw [newRows, hfilter, List.eraseDupsBy_nil]

end NewRows

namespace Counts

def add (c d : Counts) : Counts := ⟨c.works + d.works, c.changes + d.changes, c.breaks + d.breaks⟩

instance : Add Counts := ⟨add⟩

end Counts

namespace Store

/-- The table is missing. -/
def Lacks (s : Store) : Table → Prop
  | .works => s.works = none
  | .changes => s.changes = none
  | .breaks => s.breaks = none

def Complete (s : Store) : Prop := ∀ table, ¬ s.Lacks table

/-- The store with what is new of the records behind what it holds; nothing that is held is replaced. -/
def withNew (s : Store) (r : RecordSet) : Store where
  works := s.works.map fun rows => rows ++ newRows WorkRow.id rows (r.works.map .ofWork)
  changes := s.changes.map fun rows => rows ++ newRows ChangeRow.id rows (r.changes.map .ofChange)
  breaks := s.breaks.map fun rows => rows ++ newRows BreakRow.id rows (r.breaks.map .ofBreak)

/-- How many rows `withNew` adds. -/
def newCounts (s : Store) (r : RecordSet) : Counts where
  works := (newRows WorkRow.id (s.works.getD []) (r.works.map .ofWork)).length
  changes := (newRows ChangeRow.id (s.changes.getD []) (r.changes.map .ofChange)).length
  breaks := (newRows BreakRow.id (s.breaks.getD []) (r.breaks.map .ofBreak)).length

variable {s : Store} {r t : RecordSet}

theorem Complete.exists_tables (hs : s.Complete) :
    ∃ works changes breaks, s = ⟨some works, some changes, some breaks⟩ := by
  obtain ⟨works, hworks⟩ := Option.ne_none_iff_exists.1 (hs .works)
  obtain ⟨changes, hchanges⟩ := Option.ne_none_iff_exists.1 (hs .changes)
  obtain ⟨breaks, hbreaks⟩ := Option.ne_none_iff_exists.1 (hs .breaks)
  refine ⟨works, changes, breaks, ?_⟩
  rw [hworks, hchanges, hbreaks]

theorem complete_mk (works : List WorkRow) (changes : List ChangeRow) (breaks : List BreakRow) :
    Complete ⟨some works, some changes, some breaks⟩ := by
  intro table
  cases table <;> exact Option.some_ne_none _

theorem not_complete_cases (hs : ¬ s.Complete) :
    (∃ changes breaks, s = ⟨none, changes, breaks⟩) ∨ (∃ works breaks, s = ⟨some works, none, breaks⟩) ∨
      ∃ works changes, s = ⟨some works, some changes, none⟩ := by
  obtain ⟨works, changes, breaks⟩ := s
  cases works with
  | none => exact .inl ⟨changes, breaks, rfl⟩
  | some works =>
      cases changes with
      | none => exact .inr (.inl ⟨works, breaks, rfl⟩)
      | some changes =>
          cases breaks with
          | none => exact .inr (.inr ⟨works, changes, rfl⟩)
          | some breaks => exact absurd (complete_mk works changes breaks) hs

theorem lacks_withNew_iff {table : Table} : (s.withNew r).Lacks table ↔ s.Lacks table := by
  cases table <;> exact Option.map_eq_none_iff

theorem Complete.withNew (hs : s.Complete) (r : RecordSet) : (s.withNew r).Complete :=
  fun table htable => hs table (lacks_withNew_iff.1 htable)

theorem withNew_empty (s : Store) : s.withNew .empty = s := by
  simp [Store.withNew, RecordSet.empty, newRows_nil]

theorem newCounts_empty (s : Store) : s.newCounts .empty = .zero := rfl

theorem addBatch_of_complete (hs : s.Complete) (r : RecordSet) : s.addBatch r = .ok (s.withNew r, s.newCounts r) := by
  obtain ⟨works, changes, breaks, rfl⟩ := hs.exists_tables
  simp only [addBatch, Table.rows, addRows_eq, bind, Except.bind]
  rfl

theorem insert_of_complete (hs : s.Complete) (r : RecordSet) : s.insert r = (s.withNew r, .ok (s.newCounts r)) := by
  rw [insert, addBatch_of_complete hs]
  split
  · rename_i hempty
    rw [RecordSet.isEmpty_iff.1 hempty, withNew_empty, newCounts_empty]
  · rfl

/-- The first table that is missing stops a batch. -/
theorem addBatch_of_not_complete (hs : ¬ s.Complete) (r : RecordSet) :
    ∃ missing, s.Lacks missing ∧ s.addBatch r = .error (.missingTable missing) := by
  rcases not_complete_cases hs with ⟨changes, breaks, rfl⟩ | ⟨works, breaks, rfl⟩ | ⟨works, changes, rfl⟩
  · exact ⟨.works, rfl, rfl⟩
  · exact ⟨.changes, rfl, rfl⟩
  · exact ⟨.breaks, rfl, rfl⟩

theorem insert_of_not_complete (hs : ¬ s.Complete) (hr : r ≠ .empty) :
    ∃ missing, s.Lacks missing ∧ s.insert r = (s, .error (.missingTable missing)) := by
  obtain ⟨missing, hmissing, hbatch⟩ := addBatch_of_not_complete hs r
  refine ⟨missing, hmissing, ?_⟩
  rw [insert, if_neg fun hempty => hr (RecordSet.isEmpty_iff.1 hempty), hbatch]

theorem insert_empty (s : Store) : s.insert .empty = (s, .ok .zero) := rfl

end Store

end Roster
