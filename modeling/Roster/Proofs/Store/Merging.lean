import Mathlib.Data.Option.Basic
import Roster.Proofs.Store.FirstWins
/-!
# Inserting merges, and the first record wins

Whatever has been done to a store, its tables hold each identifier once (`Store.Reachable.uniqueIds`, by one lemma for
each thing that can be done). On a store with all its tables, inserting adds what is new and counts it, inserting two
batches is inserting both as one, and a batch that went in once is refused row by row ever after
(`insert_merges_first_wins`). The last part rests on identifiers staying in the tables while batches come in
(`Store.Knows.insertAll`).
-/

namespace Roster

namespace Store

/-- No identifier stands twice in a table. -/
structure UniqueIds (s : Store) : Prop where
  works : ∀ rows ∈ s.works, (rows.map WorkRow.id).Nodup
  changes : ∀ rows ∈ s.changes, (rows.map ChangeRow.id).Nodup
  breaks : ∀ rows ∈ s.breaks, (rows.map BreakRow.id).Nodup

/-- What becomes of an empty store: batches go in, the store is opened again, and from outside tables are removed and
rows are written. -/
inductive Reachable : Store → Prop
  | empty : Reachable empty
  | insert {s : Store} (hs : Reachable s) (r : RecordSet) : Reachable (s.insert r).1
  | reopen {s : Store} (hs : Reachable s) : Reachable s.reopen
  | drop {s : Store} (hs : Reachable s) (table : Table) : Reachable (s.drop table)
  | putWork {s : Store} (hs : Reachable s) (r : WorkRow) : Reachable (s.putWork r)
  | putChange {s : Store} (hs : Reachable s) (r : ChangeRow) : Reachable (s.putChange r)
  | putBreak {s : Store} (hs : Reachable s) (r : BreakRow) : Reachable (s.putBreak r)

/-! ### Identifiers stay unique -/

variable {s : Store}

theorem insert_fst (s : Store) (r : RecordSet) : (s.insert r).1 = s ∨ (s.insert r).1 = s.withNew r := by
  by_cases hs : s.Complete
  · exact .inr (congrArg Prod.fst (insert_of_complete hs r))
  · left
    by_cases hr : r = .empty
    · rw [hr, insert_empty]
    · obtain ⟨missing, -, hinsert⟩ := insert_of_not_complete hs hr
      rw [hinsert]

theorem nodup_map_append_newRows {α : Type} {id : α → String} {stored : List α} (hstored : (stored.map id).Nodup)
    (rows : List α) : ((stored ++ newRows id stored rows).map id).Nodup := by
  have hadded := nodup_addRows id hstored rows
  rwa [addRows_eq] at hadded

theorem nodup_map_getD {α : Type} {id : α → String} {table : Option (List α)}
    (htable : ∀ rows ∈ table, (rows.map id).Nodup) : ∀ rows ∈ some (table.getD []), (rows.map id).Nodup := by
  rintro _ ⟨⟩
  cases table with
  | none => exact List.nodup_nil
  | some rows => exact htable rows rfl

theorem nodup_map_putRow {α : Type} {id : α → String} {stored : List α} (hstored : (stored.map id).Nodup) (r : α) :
    ((putRow id r stored).map id).Nodup := by
  apply nodup_map_append_singleton id
  · exact hstored.sublist (List.filter_sublist.map id)
  · simp

namespace UniqueIds

theorem empty : Store.empty.UniqueIds where
  works := fun _ hrows => Option.some.inj hrows ▸ List.nodup_nil
  changes := fun _ hrows => Option.some.inj hrows ▸ List.nodup_nil
  breaks := fun _ hrows => Option.some.inj hrows ▸ List.nodup_nil

theorem withNew (hs : s.UniqueIds) (r : RecordSet) : (s.withNew r).UniqueIds where
  works := Option.forall_mem_map.2 fun rows hrows => nodup_map_append_newRows (hs.works rows hrows) _
  changes := Option.forall_mem_map.2 fun rows hrows => nodup_map_append_newRows (hs.changes rows hrows) _
  breaks := Option.forall_mem_map.2 fun rows hrows => nodup_map_append_newRows (hs.breaks rows hrows) _

theorem insert (hs : s.UniqueIds) (r : RecordSet) : (s.insert r).1.UniqueIds := by
  rcases insert_fst s r with hsame | hnew
  · rwa [hsame]
  · rw [hnew]
    exact hs.withNew r

theorem reopen (hs : s.UniqueIds) : s.reopen.UniqueIds :=
  ⟨nodup_map_getD hs.works, nodup_map_getD hs.changes, nodup_map_getD hs.breaks⟩

theorem drop (hs : s.UniqueIds) (table : Table) : (s.drop table).UniqueIds := by
  cases table with
  | works => exact ⟨nofun, hs.changes, hs.breaks⟩
  | changes => exact ⟨hs.works, nofun, hs.breaks⟩
  | breaks => exact ⟨hs.works, hs.changes, nofun⟩

theorem putWork (hs : s.UniqueIds) (r : WorkRow) : (s.putWork r).UniqueIds where
  works := Option.forall_mem_map.2 fun rows hrows => nodup_map_putRow (hs.works rows hrows) r
  changes := hs.changes
  breaks := hs.breaks

theorem putChange (hs : s.UniqueIds) (r : ChangeRow) : (s.putChange r).UniqueIds where
  works := hs.works
  changes := Option.forall_mem_map.2 fun rows hrows => nodup_map_putRow (hs.changes rows hrows) r
  breaks := hs.breaks

theorem putBreak (hs : s.UniqueIds) (r : BreakRow) : (s.putBreak r).UniqueIds where
  works := hs.works
  changes := hs.changes
  breaks := Option.forall_mem_map.2 fun rows hrows => nodup_map_putRow (hs.breaks rows hrows) r

end UniqueIds

theorem Reachable.uniqueIds (hs : s.Reachable) : s.UniqueIds := by
  induction hs with
  | empty => exact .empty
  | insert _ r ih => exact ih.insert r
  | reopen _ ih => exact ih.reopen
  | drop _ table ih => exact ih.drop table
  | putWork _ r ih => exact ih.putWork r
  | putChange _ r ih => exact ih.putChange r
  | putBreak _ r ih => exact ih.putBreak r

/-! ### Counts and batches -/

theorem counts_withNew (hs : s.Complete) (r : RecordSet) :
    ∃ before, s.counts = .ok before ∧ (s.withNew r).counts = .ok (before + s.newCounts r) := by
  obtain ⟨works, changes, breaks, rfl⟩ := hs.exists_tables
  refine ⟨⟨works.length, changes.length, breaks.length⟩, rfl, ?_⟩
  simp only [counts, withNew, Option.map_some, Table.rows, bind, Except.bind, List.length_append]
  rfl

theorem withNew_append (s : Store) (a b : RecordSet) : s.withNew (a ++ b) = (s.withNew a).withNew b := by
  obtain ⟨works, changes, breaks⟩ := s
  show withNew _ (a.append b) = _
  simp only [withNew, RecordSet.append, List.map_append, Option.map_map, Function.comp_def, newRows_append,
    List.append_assoc]

theorem newCounts_append (hs : s.Complete) (a b : RecordSet) :
    s.newCounts (a ++ b) = s.newCounts a + (s.withNew a).newCounts b := by
  obtain ⟨works, changes, breaks, rfl⟩ := hs.exists_tables
  show newCounts _ (a.append b) = Counts.add _ _
  simp only [newCounts, withNew, Counts.add, RecordSet.append, List.map_append, Option.map_some, Option.getD_some,
    newRows_append, List.length_append]

/-! ### Batches that went in before -/

/-- The tables hold all identifiers of the records. -/
structure Knows (s : Store) (r : RecordSet) : Prop where
  works : ∀ rows ∈ s.works, ∀ row ∈ r.works.map WorkRow.ofWork, row.id ∈ rows.map WorkRow.id
  changes : ∀ rows ∈ s.changes, ∀ row ∈ r.changes.map ChangeRow.ofChange, row.id ∈ rows.map ChangeRow.id
  breaks : ∀ rows ∈ s.breaks, ∀ row ∈ r.breaks.map BreakRow.ofBreak, row.id ∈ rows.map BreakRow.id

theorem mem_map_append_newRows {α : Type} {id : α → String} {stored rows : List α} {x : α} (hx : x ∈ rows) :
    id x ∈ (stored ++ newRows id stored rows).map id := by
  have hmem : id x ∈ (addRows id stored rows).1.map id :=
    (mem_map_addRows id).2 (List.mem_map_of_mem (List.mem_append_right stored hx))
  rwa [addRows_eq] at hmem

theorem mem_map_append_left {α : Type} {id : α → String} {stored : List α} {k : String} (hk : k ∈ stored.map id)
    (rows : List α) : k ∈ (stored ++ rows).map id := by
  rw [List.map_append]
  exact List.mem_append_left _ hk

theorem knows_withNew (s : Store) (r : RecordSet) : (s.withNew r).Knows r where
  works := Option.forall_mem_map.2 fun _ _ _ hrow => mem_map_append_newRows hrow
  changes := Option.forall_mem_map.2 fun _ _ _ hrow => mem_map_append_newRows hrow
  breaks := Option.forall_mem_map.2 fun _ _ _ hrow => mem_map_append_newRows hrow

namespace Knows

variable {r : RecordSet}

theorem withNew (h : s.Knows r) (t : RecordSet) : (s.withNew t).Knows r where
  works := Option.forall_mem_map.2 fun rows hrows row hrow => mem_map_append_left (h.works rows hrows row hrow) _
  changes := Option.forall_mem_map.2 fun rows hrows row hrow => mem_map_append_left (h.changes rows hrows row hrow) _
  breaks := Option.forall_mem_map.2 fun rows hrows row hrow => mem_map_append_left (h.breaks rows hrows row hrow) _

theorem insert_eq (h : s.Knows r) (hs : s.Complete) : s.insert r = (s, .ok .zero) := by
  obtain ⟨works, changes, breaks, rfl⟩ := hs.exists_tables
  rw [insert_of_complete hs]
  simp only [Store.withNew, newCounts, Option.map_some, Option.getD_some, newRows_eq_nil _ (h.works works rfl),
    newRows_eq_nil _ (h.changes changes rfl), newRows_eq_nil _ (h.breaks breaks rfl), List.append_nil]
  rfl

theorem insertAll (h : s.Knows r) (hs : s.Complete) (batches : List RecordSet) :
    (s.insertAll batches).Knows r ∧ (s.insertAll batches).Complete := by
  induction batches generalizing s with
  | nil => exact ⟨h, hs⟩
  | cons t batches ih =>
      rw [Store.insertAll, List.foldl_cons, insert_of_complete hs]
      exact ih (h.withNew t) (hs.withNew t)

end Knows

/-! ### The law of inserting -/

/-- A batch leaves the old rows and behind them its new ones, as many as it answers, and never adds anything again. -/
structure Merges (s : Store) (r : RecordSet) (after : Store) (added : Counts) : Prop where
  insert : s.insert r = (after, .ok added)
  rows : after = s.withNew r
  counts : ∃ before, s.counts = .ok before ∧ after.counts = .ok (before + added)
  uniqueIds : after.UniqueIds
  again : ∀ later, (after.insertAll later).insert r = (after.insertAll later, .ok .zero)

theorem merges_withNew (hs : s.UniqueIds) (hcomplete : s.Complete) (r : RecordSet) :
    s.Merges r (s.withNew r) (s.newCounts r) where
  insert := insert_of_complete hcomplete r
  rows := rfl
  counts := counts_withNew hcomplete r
  uniqueIds := hs.withNew r
  again later := by
    obtain ⟨hknows, hlater⟩ := (knows_withNew s r).insertAll (hcomplete.withNew r) later
    exact hknows.insert_eq hlater

end Store

/-- Two batches merge into a store as the one that joins them does. -/
theorem insert_merges_first_wins {s : Store} (hs : s.Reachable) (hcomplete : s.Complete) (a b : RecordSet) :
    ∃ middle after added added', s.Merges a middle added ∧ middle.Merges b after added' ∧
      s.insert (a ++ b) = (after, .ok (added + added')) := by
  have hunique := hs.uniqueIds
  refine ⟨_, _, _, _, Store.merges_withNew hunique hcomplete a,
    Store.merges_withNew (hunique.withNew a) (hcomplete.withNew a) b, ?_⟩
  rw [Store.insert_of_complete hcomplete, Store.withNew_append, Store.newCounts_append hcomplete]

/-- A break was written into the store from outside; nothing of it but the identifier can be read. -/
def scribbled : Store := Store.empty.putBreak ⟨"pause", "", "?", "?", "?"⟩

/-- Two works under one identifier, and a break under an identifier that is taken. -/
def deskBatch : RecordSet :=
  ⟨[⟨⟨"front desk", by decide⟩, ⟨"C10", by decide⟩, ⟨"S11", by decide⟩, ⟨2025, 9, 1, by decide⟩,
      .ofNanos (8 * 3600 * nanosPerSecond), .ofNanos (12 * 3600 * nanosPerSecond)⟩,
    ⟨⟨"front desk", by decide⟩, ⟨"C11", by decide⟩, ⟨"S11", by decide⟩, ⟨2025, 9, 2, by decide⟩,
      .ofNanos (13 * 3600 * nanosPerSecond), .ofNanos (17 * 3600 * nanosPerSecond)⟩],
    [⟨⟨"shift swap", by decide⟩, ⟨"front desk", by decide⟩, .endCorrection, .ofNanos (11 * 3600 * nanosPerSecond),
      .ofNanos (12 * 3600 * nanosPerSecond), none⟩],
    [⟨⟨"pause", by decide⟩, ⟨"C10", by decide⟩, ⟨2025, 9, 1, by decide⟩, .ofNanos (9 * 3600 * nanosPerSecond),
      .ofNanos (10 * 3600 * nanosPerSecond)⟩]⟩

/-- Other fields for what the first batch has stored, and one more work. -/
def officeBatch : RecordSet :=
  ⟨[⟨⟨"back office", by decide⟩, ⟨"C11", by decide⟩, ⟨"S12", by decide⟩, ⟨2025, 9, 2, by decide⟩,
      .ofNanos (22 * 3600 * nanosPerSecond), .ofNanos (5 * 3600 * nanosPerSecond)⟩,
    ⟨⟨"front desk", by decide⟩, ⟨"C11", by decide⟩, ⟨"S12", by decide⟩, ⟨2025, 9, 2, by decide⟩,
      .ofNanos (7 * 3600 * nanosPerSecond), .ofNanos (8 * 3600 * nanosPerSecond)⟩],
    [⟨⟨"shift swap", by decide⟩, ⟨"back office", by decide⟩, .startReplacement,
      .ofNanos (22 * 3600 * nanosPerSecond), .ofNanos (23 * 3600 * nanosPerSecond), some ⟨"C10", by decide⟩⟩], []⟩

example : (scribbled.insert deskBatch).2 = .ok ⟨1, 1, 0⟩ := by rfl

theorem scribbled_merges_desk_and_office :
    scribbled.Reachable ∧ scribbled.Complete ∧
      ∃ middle after added added', scribbled.Merges deskBatch middle added ∧ middle.Merges officeBatch after added' ∧
        scribbled.insert (deskBatch ++ officeBatch) = (after, .ok (added + added')) := by
  have hreachable : scribbled.Reachable := .putBreak .empty _
  have hcomplete : scribbled.Complete := Store.complete_mk _ _ _
  exact ⟨hreachable, hcomplete, insert_merges_first_wins hreachable hcomplete deskBatch officeBatch⟩

end Roster
