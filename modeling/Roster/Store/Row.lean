import Roster.Calendar.Text
import Roster.Clock.Text
import Roster.Record
/-!
# Rows

Records are stored as rows of texts. `ofWork`, `ofChange` and `ofBreak` write them; `toWork`, `toChange` and
`toBreak` read them back, and report the first column that does not hold what it should. Dates and times are
stored so that equal ones have equal texts, and are read with tight spacing.
-/

namespace Roster

open Text

inductive Table
  | works
  | changes
  | breaks
deriving DecidableEq, Repr

def Table.name : Table → String
  | works => "works"
  | changes => "work_changes"
  | breaks => "breaks"

/-- The columns whose texts have a form of their own. -/
inductive Column
  | date
  | start
  | finish
  | kind
deriving DecidableEq, Repr

def Column.name : Column → String
  | date => "date"
  | start => "start_time"
  | finish => "end_time"
  | kind => "kind"

inductive StoreError
  | missingTable (table : Table)
  | invalidField (table : Table) (id : String) (column : Column) (value : String)
  | invalidIdent (table : Table) (cause : EmptyIdent)
deriving DecidableEq, Repr

namespace StoreError

def message : StoreError → String
  | missingTable _ => "sqlite error"
  | invalidField table id column value =>
      s!"invalid {column.name} for {table.name} record {id}: {value}"
  | invalidIdent table _ => s!"invalid {table.name} record"

def causes : StoreError → List String
  | invalidIdent _ cause => [cause.message]
  | _ => []

end StoreError

structure WorkRow where
  id : String
  client : String
  shift : String
  date : String
  start : String
  finish : String
deriving DecidableEq, Repr

structure ChangeRow where
  id : String
  work : String
  kind : String
  start : String
  finish : String
  replacement : Option String
deriving DecidableEq, Repr

structure BreakRow where
  id : String
  client : String
  date : String
  start : String
  finish : String
deriving DecidableEq, Repr

/-! ### Writing -/

def WorkRow.ofWork (w : Work) : WorkRow :=
  ⟨w.id.text, w.client.text, w.shift.text, w.date.toText, w.start.toText, w.finish.toText⟩

def ChangeRow.ofChange (c : Change) : ChangeRow :=
  ⟨c.id.text, c.work.text, c.kind.name, c.start.toText, c.finish.toText,
    c.replacement.map Ident.text⟩

def BreakRow.ofBreak (b : Break) : BreakRow :=
  ⟨b.id.text, b.client.text, b.date.toText, b.start.toText, b.finish.toText⟩

/-! ### Reading -/

namespace Table

def ident (table : Table) (kind : IdentKind) (value : String) : Except StoreError (Ident kind) :=
  match Ident.ofText kind value with
  | .ok id => .ok id
  | .error cause => .error (.invalidIdent table cause)

def date (table : Table) (id value : String) : Except StoreError Date :=
  match Date.ofText .tight value with
  | .ok d => .ok d
  | .error _ => .error (.invalidField table id .date value)

def time (table : Table) (id : String) (column : Column) (value : String) :
    Except StoreError TimeOfDay :=
  match TimeOfDay.ofText .tight value with
  | .ok t => .ok t
  | .error _ => .error (.invalidField table id column value)

def kind (table : Table) (id value : String) : Except StoreError ChangeKind :=
  match ChangeKind.ofName? value with
  | some kind => .ok kind
  | none => .error (.invalidField table id .kind value)

end Table

def WorkRow.toWork (r : WorkRow) : Except StoreError Work := do
  let id ← Table.works.ident .work r.id
  let client ← Table.works.ident .client r.client
  let shift ← Table.works.ident .shift r.shift
  let date ← Table.works.date r.id r.date
  let start ← Table.works.time r.id .start r.start
  let finish ← Table.works.time r.id .finish r.finish
  .ok ⟨id, client, shift, date, start, finish⟩

def ChangeRow.toChange (r : ChangeRow) : Except StoreError Change := do
  let kind ← Table.changes.kind r.id r.kind
  let replacement ← r.replacement.mapM (Table.changes.ident .client)
  let start ← Table.changes.time r.id .start r.start
  let finish ← Table.changes.time r.id .finish r.finish
  let id ← Table.changes.ident .change r.id
  let work ← Table.changes.ident .work r.work
  .ok ⟨id, work, kind, start, finish, replacement⟩

def BreakRow.toBreak (r : BreakRow) : Except StoreError Break := do
  let id ← Table.breaks.ident .break r.id
  let client ← Table.breaks.ident .client r.client
  let date ← Table.breaks.date r.id r.date
  let start ← Table.breaks.time r.id .start r.start
  let finish ← Table.breaks.time r.id .finish r.finish
  .ok ⟨id, client, date, start, finish⟩

end Roster
