import Roster.Store.Row
/-!
# The store

A `Store` holds three tables of rows, any of which may be missing. Rows are told apart by their identifiers.
`insert` adds the records of a batch whose identifiers are new; the first of several wins. A batch is stored
as a whole or not at all: without all three tables it fails, unless it is empty, and changes nothing.
`reopen` brings missing tables back, empty.
-/

namespace Roster

structure Store where
  works : Option (List WorkRow)
  changes : Option (List ChangeRow)
  breaks : Option (List BreakRow)
deriving DecidableEq

structure Counts where
  works : Nat
  changes : Nat
  breaks : Nat
deriving DecidableEq, Repr

namespace Counts

def zero : Counts := ⟨0, 0, 0⟩

def total (c : Counts) : Nat := c.works + c.changes + c.breaks

end Counts

def Table.rows {α : Type} (table : Table) : Option (List α) → Except StoreError (List α)
  | some rows => .ok rows
  | none => .error (.missingTable table)

/-- Appends the rows whose identifiers are new, one after the other, and counts them. -/
def addRows {α : Type} (id : α → String) (stored : List α) : List α → List α × Nat
  | [] => (stored, 0)
  | r :: rest =>
      if stored.any fun s => id s = id r then addRows id stored rest
      else
        let (all, added) := addRows id (stored ++ [r]) rest
        (all, added + 1)

/-- Stores a row in place of the one with its identifier. -/
def putRow {α : Type} (id : α → String) (r : α) (stored : List α) : List α :=
  stored.filter (fun s => id s ≠ id r) ++ [r]

namespace Store

def empty : Store := ⟨some [], some [], some []⟩

/-- Adds the records of a batch table by table. -/
def addBatch (s : Store) (r : RecordSet) : Except StoreError (Store × Counts) := do
  let works ← Table.works.rows s.works
  let (works, newWorks) := addRows WorkRow.id works (r.works.map .ofWork)
  let changes ← Table.changes.rows s.changes
  let (changes, newChanges) := addRows ChangeRow.id changes (r.changes.map .ofChange)
  let breaks ← Table.breaks.rows s.breaks
  let (breaks, newBreaks) := addRows BreakRow.id breaks (r.breaks.map .ofBreak)
  .ok (⟨some works, some changes, some breaks⟩, ⟨newWorks, newChanges, newBreaks⟩)

/-- Stores a batch; the answer tells how many records were new. -/
def insert (s : Store) (r : RecordSet) : Store × Except StoreError Counts :=
  if r.isEmpty then (s, .ok .zero)
  else
    match s.addBatch r with
    | .ok (stored, added) => (stored, .ok added)
    | .error e => (s, .error e)

def counts (s : Store) : Except StoreError Counts := do
  let works ← Table.works.rows s.works
  let changes ← Table.changes.rows s.changes
  let breaks ← Table.breaks.rows s.breaks
  .ok ⟨works.length, changes.length, breaks.length⟩

def reopen (s : Store) : Store :=
  ⟨some (s.works.getD []), some (s.changes.getD []), some (s.breaks.getD [])⟩

/-- Removes a table with all its rows. -/
def drop (s : Store) : Table → Store
  | .works => { s with works := none }
  | .changes => { s with changes := none }
  | .breaks => { s with breaks := none }

def putWork (s : Store) (r : WorkRow) : Store := { s with works := s.works.map (putRow WorkRow.id r) }

def putChange (s : Store) (r : ChangeRow) : Store :=
  { s with changes := s.changes.map (putRow ChangeRow.id r) }

def putBreak (s : Store) (r : BreakRow) : Store :=
  { s with breaks := s.breaks.map (putRow BreakRow.id r) }

end Store

end Roster
