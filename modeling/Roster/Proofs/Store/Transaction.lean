import Roster.Proofs.Store.FirstWins
/-!
# Batches that fail

A batch is a transaction: it looks up one table after the other and adds the records of that kind row by row
(`RecordSet.statements`). The store sees it as a whole (`Store.insert_eq_transact`). A missing table is noticed where
it is looked up, when the rows of the kinds before it have been added already (`Store.StopsAt`), and all of this is
given up. So a batch fails exactly if it holds records and some table is missing, whichever kinds the records are of,
and once the store is opened again nothing tells that it has been tried (`failed_insert_leaves_no_trace`).
-/

namespace Roster

namespace Store

instance (s : Store) : (table : Table) → Decidable (s.Lacks table)
  | .works => inferInstanceAs (Decidable (s.works = none))
  | .changes => inferInstanceAs (Decidable (s.changes = none))
  | .breaks => inferInstanceAs (Decidable (s.breaks = none))

end Store

/-- What a transaction has made of the store so far, and how many rows it has added. -/
structure Transaction where
  store : Store
  added : Counts

inductive Statement
  /-- Looks up a table, to add rows to it. -/
  | prepare (table : Table)
  | addWork (w : Work)
  | addChange (c : Change)
  | addBreak (b : Break)

namespace Transaction

def begin (s : Store) : Transaction := ⟨s, .zero⟩

def execute (t : Transaction) : Statement → Except StoreError Transaction
  | .prepare table => if t.store.Lacks table then .error (.missingTable table) else .ok t
  | .addWork w => do
      let rows ← Table.works.rows t.store.works
      let (rows, new) := addRows WorkRow.id rows [.ofWork w]
      .ok ⟨{ t.store with works := some rows }, { t.added with works := t.added.works + new }⟩
  | .addChange c => do
      let rows ← Table.changes.rows t.store.changes
      let (rows, new) := addRows ChangeRow.id rows [.ofChange c]
      .ok ⟨{ t.store with changes := some rows }, { t.added with changes := t.added.changes + new }⟩
  | .addBreak b => do
      let rows ← Table.breaks.rows t.store.breaks
      let (rows, new) := addRows BreakRow.id rows [.ofBreak b]
      .ok ⟨{ t.store with breaks := some rows }, { t.added with breaks := t.added.breaks + new }⟩

/-- Executes statements until one fails. -/
def run (t : Transaction) (statements : List Statement) : Except StoreError Transaction := statements.foldlM execute t

end Transaction

namespace RecordSet

def workStatements (r : RecordSet) : List Statement := .prepare .works :: r.works.map .addWork

def changeStatements (r : RecordSet) : List Statement := .prepare .changes :: r.changes.map .addChange

def breakStatements (r : RecordSet) : List Statement := .prepare .breaks :: r.breaks.map .addBreak

def statements (r : RecordSet) : List Statement := r.workStatements ++ (r.changeStatements ++ r.breakStatements)

end RecordSet

/-- Keeps all that the statements write, or none of it if one of them fails. -/
def Store.transact (s : Store) (statements : List Statement) : Store × Except StoreError Counts :=
  match (Transaction.begin s).run statements with
  | .ok t => (t.store, .ok t.added)
  | .error e => (s, .error e)

/-! ### Statement by statement -/

namespace Transaction

variable {t : Transaction}

theorem run_append {u : Transaction} {xs : List Statement} (hxs : t.run xs = .ok u) (ys : List Statement) :
    t.run (xs ++ ys) = u.run ys := by
  rw [run] at hxs
  rw [run, List.foldlM_append, hxs]
  rfl

theorem execute_prepare {table : Table} (htable : ¬ t.store.Lacks table) : t.execute (.prepare table) = .ok t :=
  if_neg htable

theorem execute_prepare_of_lacks {table : Table} (htable : t.store.Lacks table) :
    t.execute (.prepare table) = .error (.missingTable table) := if_pos htable

theorem run_cons {u : Transaction} {statement : Statement} (hexecute : t.execute statement = .ok u)
    (rest : List Statement) : t.run (statement :: rest) = u.run rest := by
  rw [run, List.foldlM_cons, hexecute]
  rfl

/-- Nothing is executed after a statement that fails. -/
theorem run_cons_of_error {e : StoreError} {statement : Statement} (hexecute : t.execute statement = .error e)
    (rest : List Statement) : t.run (statement :: rest) = .error e := by
  rw [run, List.foldlM_cons, hexecute]
  rfl

/-- Adding rows one by one comes to adding them together, whichever table `state` puts them in. -/
theorem run_addRows {α β : Type} {id : α → String} {row : β → α} {add : β → Statement}
    (state : List α → Nat → Transaction)
    (hadd : ∀ rows n x, (state rows n).execute (add x) =
      .ok (state (addRows id rows [row x]).1 (n + (addRows id rows [row x]).2)))
    (xs : List β) (rows : List α) (n : Nat) :
    (state rows n).run (xs.map add) =
      .ok (state (addRows id rows (xs.map row)).1 (n + (addRows id rows (xs.map row)).2)) := by
  induction xs generalizing rows n with
  | nil => rfl
  | cons x xs ih =>
      have hsplit := addRows_append id rows [row x] (xs.map row)
      rw [List.singleton_append] at hsplit
      rw [List.map_cons, run_cons (hadd rows n x), ih, List.map_cons, hsplit, Nat.add_assoc]

theorem run_workStatements (r : RecordSet) (works : List WorkRow) (changes : Option (List ChangeRow))
    (breaks : Option (List BreakRow)) (added : Counts) :
    run ⟨⟨some works, changes, breaks⟩, added⟩ r.workStatements =
      .ok ⟨⟨some (addRows WorkRow.id works (r.works.map .ofWork)).1, changes, breaks⟩,
        { added with works := added.works + (addRows WorkRow.id works (r.works.map .ofWork)).2 }⟩ := by
  have hthere : ¬ Store.Lacks ⟨some works, changes, breaks⟩ .works := Option.some_ne_none works
  rw [RecordSet.workStatements, run_cons (execute_prepare hthere)]
  exact run_addRows (fun rows n => ⟨⟨some rows, changes, breaks⟩, { added with works := n }⟩) (fun _ _ _ => rfl)
    r.works works added.works

theorem run_changeStatements (r : RecordSet) (works : Option (List WorkRow)) (changes : List ChangeRow)
    (breaks : Option (List BreakRow)) (added : Counts) :
    run ⟨⟨works, some changes, breaks⟩, added⟩ r.changeStatements =
      .ok ⟨⟨works, some (addRows ChangeRow.id changes (r.changes.map .ofChange)).1, breaks⟩,
        { added with changes := added.changes + (addRows ChangeRow.id changes (r.changes.map .ofChange)).2 }⟩ := by
  have hthere : ¬ Store.Lacks ⟨works, some changes, breaks⟩ .changes := Option.some_ne_none changes
  rw [RecordSet.changeStatements, run_cons (execute_prepare hthere)]
  exact run_addRows (fun rows n => ⟨⟨works, some rows, breaks⟩, { added with changes := n }⟩) (fun _ _ _ => rfl)
    r.changes changes added.changes

theorem run_breakStatements (r : RecordSet) (works : Option (List WorkRow)) (changes : Option (List ChangeRow))
    (breaks : List BreakRow) (added : Counts) :
    run ⟨⟨works, changes, some breaks⟩, added⟩ r.breakStatements =
      .ok ⟨⟨works, changes, some (addRows BreakRow.id breaks (r.breaks.map .ofBreak)).1⟩,
        { added with breaks := added.breaks + (addRows BreakRow.id breaks (r.breaks.map .ofBreak)).2 }⟩ := by
  have hthere : ¬ Store.Lacks ⟨works, changes, some breaks⟩ .breaks := Option.some_ne_none breaks
  rw [RecordSet.breakStatements, run_cons (execute_prepare hthere)]
  exact run_addRows (fun rows n => ⟨⟨works, changes, some rows⟩, { added with breaks := n }⟩) (fun _ _ _ => rfl)
    r.breaks breaks added.breaks

end Transaction

/-! ### The batch as a whole -/

namespace Store

variable {s : Store} {r : RecordSet}

theorem run_statements_of_complete (hs : s.Complete) (r : RecordSet) :
    (Transaction.begin s).run r.statements = .ok ⟨s.withNew r, s.newCounts r⟩ := by
  obtain ⟨works, changes, breaks, rfl⟩ := hs.exists_tables
  rw [RecordSet.statements, Transaction.begin, Transaction.run_append (Transaction.run_workStatements ..),
    Transaction.run_append (Transaction.run_changeStatements ..), Transaction.run_breakStatements]
  simp only [addRows_eq, withNew, newCounts, Counts.zero, Option.map_some, Option.getD_some, Nat.zero_add]

/-- The transaction comes to look up a table that the store lacks, after `done` has gone through. -/
structure StopsAt (s : Store) (r : RecordSet) (missing : Table) (done : List Statement) (t : Transaction) : Prop where
  lacks : s.Lacks missing
  statements : done ++ [.prepare missing] <+: r.statements
  done : (Transaction.begin s).run done = .ok t
  stops : t.execute (.prepare missing) = .error (.missingTable missing)

theorem exists_stopsAt (hs : ¬ s.Complete) (r : RecordSet) :
    ∃ missing done t, s.StopsAt r missing done t ∧ s.addBatch r = .error (.missingTable missing) := by
  rcases not_complete_cases hs with ⟨changes, breaks, rfl⟩ | ⟨works, breaks, rfl⟩ | ⟨works, changes, rfl⟩
  · exact ⟨.works, [], _, ⟨rfl, ⟨_, rfl⟩, rfl, Transaction.execute_prepare_of_lacks rfl⟩, rfl⟩
  · have hworks := Transaction.run_workStatements r works none breaks .zero
    refine ⟨.changes, r.workStatements, _, ⟨rfl, ?_, hworks, Transaction.execute_prepare_of_lacks rfl⟩, rfl⟩
    exact ⟨r.changes.map .addChange ++ r.breakStatements, List.append_assoc ..⟩
  · have hworks := Transaction.run_workStatements r works (some changes) none .zero
    have hchanges := (Transaction.run_append hworks r.changeStatements).trans
      (Transaction.run_changeStatements r _ changes none _)
    refine ⟨.breaks, r.workStatements ++ r.changeStatements, _,
      ⟨rfl, ?_, hchanges, Transaction.execute_prepare_of_lacks rfl⟩, rfl⟩
    refine ⟨r.breaks.map .addBreak, ?_⟩
    rw [List.append_assoc, List.append_assoc]
    rfl

theorem StopsAt.run_statements {missing : Table} {done : List Statement} {t : Transaction}
    (h : s.StopsAt r missing done t) : (Transaction.begin s).run r.statements = .error (.missingTable missing) := by
  obtain ⟨rest, hrest⟩ := h.statements
  rw [← hrest, List.append_assoc, Transaction.run_append h.done]
  exact Transaction.run_cons_of_error h.stops rest

/-- A batch is the transaction of its statements. -/
theorem insert_eq_transact (s : Store) (hr : r ≠ .empty) : s.insert r = s.transact r.statements := by
  by_cases hs : s.Complete
  · rw [insert_of_complete hs, transact, run_statements_of_complete hs]
  · obtain ⟨missing, done, t, hstops, hbatch⟩ := exists_stopsAt hs r
    rw [insert, if_neg fun hempty => hr (RecordSet.isEmpty_iff.1 hempty), hbatch, transact, hstops.run_statements]

theorem insert_eq_error_iff {e : StoreError} :
    (s.insert r).2 = .error e ↔ s.insert r = (s, .error e) ∧ r ≠ .empty ∧ ¬ s.Complete := by
  constructor
  · intro herror
    have hr : r ≠ .empty := by
      rintro rfl
      simp [insert_empty] at herror
    have hs : ¬ s.Complete := by
      intro hs
      simp [insert_of_complete hs] at herror
    obtain ⟨missing, -, hinsert⟩ := insert_of_not_complete hs hr
    rw [hinsert] at herror ⊢
    exact ⟨congrArg _ herror, hr, hs⟩
  · intro h
    rw [h.1]

theorem exists_insert_eq_error_iff : (∃ e, (s.insert r).2 = .error e) ↔ r ≠ .empty ∧ ∃ table, s.Lacks table := by
  constructor
  · intro h
    obtain ⟨e, herror⟩ := h
    obtain ⟨-, hr, hs⟩ := insert_eq_error_iff.1 herror
    exact ⟨hr, not_forall_not.1 hs⟩
  · intro h
    obtain ⟨hr, table, htable⟩ := h
    obtain ⟨missing, -, hinsert⟩ := insert_of_not_complete (fun hs => hs table htable) hr
    exact ⟨_, congrArg Prod.snd hinsert⟩

theorem exists_stopsAt_of_insert {e : StoreError} (herror : (s.insert r).2 = .error e) :
    ∃ missing done t, s.StopsAt r missing done t ∧ e = .missingTable missing := by
  obtain ⟨-, hr, hs⟩ := insert_eq_error_iff.1 herror
  obtain ⟨missing, done, t, hstops, -⟩ := exists_stopsAt hs r
  rw [insert_eq_transact s hr, transact, hstops.run_statements] at herror
  exact ⟨missing, done, t, hstops, (Except.error.inj herror).symm⟩

theorem complete_reopen (s : Store) : s.reopen.Complete := complete_mk _ _ _

/-- Opening a store creates the missing tables, empty, and leaves the others as they are. -/
structure Reopens (s t : Store) : Prop where
  works : t.works = s.works.or (some [])
  changes : t.changes = s.changes.or (some [])
  breaks : t.breaks = s.breaks.or (some [])

theorem some_getD_nil {α : Type} (table : Option (List α)) : some (table.getD []) = table.or (some []) := by
  cases table <;> rfl

theorem reopens_reopen (s : Store) : s.Reopens s.reopen :=
  ⟨some_getD_nil s.works, some_getD_nil s.changes, some_getD_nil s.breaks⟩

end Store

theorem failed_insert_leaves_no_trace (s : Store) (r : RecordSet) :
    ((∃ e, (s.insert r).2 = .error e) ↔ r ≠ .empty ∧ ∃ table, s.Lacks table) ∧
    (∀ e, (s.insert r).2 = .error e →
      s.insert r = s.transact r.statements ∧
      (∃ missing done t, s.StopsAt r missing done t ∧ e = .missingTable missing) ∧
      (s.insert r).1 = s ∧ (s.insert r).1.reopen.insert r = s.reopen.insert r) ∧
    s.Reopens s.reopen ∧ ∃ added, s.reopen.insert r = (s.reopen.withNew r, .ok added) := by
  refine ⟨Store.exists_insert_eq_error_iff, ?_, s.reopens_reopen, ?_⟩
  · intro e herror
    obtain ⟨hinsert, hr, -⟩ := Store.insert_eq_error_iff.1 herror
    have hsame : (s.insert r).1 = s := congrArg Prod.fst hinsert
    refine ⟨Store.insert_eq_transact s hr, Store.exists_stopsAt_of_insert herror, hsame, ?_⟩
    rw [hsame]
  · exact ⟨_, Store.insert_of_complete s.complete_reopen r⟩

/-- The table of breaks is missing, and a row of the works cannot be read. -/
def archive : Store := ⟨some [⟨"archive", "", "", "long ago", "", ""⟩], some [], none⟩

/-- Holds no break. -/
def wardRound : RecordSet :=
  ⟨[⟨⟨"ward", by decide⟩, ⟨"C12", by decide⟩, ⟨"S13", by decide⟩, ⟨2025, 10, 5, by decide⟩,
      .ofNanos (21 * 3600 * nanosPerSecond), .ofNanos (5 * 3600 * nanosPerSecond)⟩],
    [⟨⟨"relief", by decide⟩, ⟨"ward", by decide⟩, .endReplacement, .ofNanos (3 * 3600 * nanosPerSecond),
      .ofNanos (5 * 3600 * nanosPerSecond), some ⟨"C13", by decide⟩⟩], []⟩

theorem wardRound_leaves_no_trace :
    (archive.insert wardRound).2 = .error (.missingTable .breaks) ∧ (archive.insert wardRound).1 = archive ∧
      (∃ missing done t, archive.StopsAt wardRound missing done t ∧
        StoreError.missingTable .breaks = .missingTable missing) ∧
      (archive.insert wardRound).1.reopen.insert wardRound = archive.reopen.insert wardRound ∧
      ∃ added, archive.reopen.insert wardRound = (archive.reopen.withNew wardRound, .ok added) := by
  have herror : (archive.insert wardRound).2 = .error (.missingTable .breaks) := rfl
  obtain ⟨-, hfails, -, hstored⟩ := failed_insert_leaves_no_trace archive wardRound
  obtain ⟨-, hstops, hsame, hagain⟩ := hfails _ herror
  exact ⟨herror, hsame, hstops, hagain, hstored⟩

end Roster
