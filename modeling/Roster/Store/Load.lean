import Roster.Report
import Roster.Store.Basic
/-!
# Loading a window

`Store.load` selects the rows that a window needs and reads them as records. Works and breaks are selected by
date, from the day before the window on, changes by the date of their work. With a client, a work is selected if
the client owns it or any change hands a part of it to the client, and a change together with its work.

Dates and times are compared as texts. Works and breaks come by date, start and identifier; changes by the date
and start of their work, the identifier of the work and their own. The first row in this order that cannot be read,
works before changes before breaks, is the error.
-/

namespace Roster

structure Selection where
  first : String
  last : String
  client : Option String

def Selection.ofWindow (w : Window) : Selection :=
  ⟨w.loadFrom.toText, w.last.toText, w.client.map Ident.text⟩

namespace Selection

def Dated (s : Selection) (date : String) : Prop := ¬ date < s.first ∧ ¬ s.last < date

instance (s : Selection) (date : String) : Decidable (s.Dated date) := by
  unfold Dated; infer_instance

/-- The work is owned by the client, or handed over to the client in part. -/
def Concerns (client : String) (changes : List ChangeRow) (w : WorkRow) : Prop :=
  w.client = client ∨ ∃ c ∈ changes, c.replacement = some client ∧ c.work = w.id

instance (client : String) (changes : List ChangeRow) (w : WorkRow) :
    Decidable (Concerns client changes w) := by
  unfold Concerns; infer_instance

def SelectsWork (s : Selection) (changes : List ChangeRow) (w : WorkRow) : Prop :=
  s.Dated w.date ∧ ∀ client ∈ s.client, Concerns client changes w

instance (s : Selection) (changes : List ChangeRow) (w : WorkRow) :
    Decidable (s.SelectsWork changes w) := by
  unfold SelectsWork; infer_instance

def SelectsBreak (s : Selection) (b : BreakRow) : Prop :=
  s.Dated b.date ∧ ∀ client ∈ s.client, b.client = client

instance (s : Selection) (b : BreakRow) : Decidable (s.SelectsBreak b) := by
  unfold SelectsBreak; infer_instance

end Selection

/-- Sorts by a key of several texts, the first of which counts most. -/
def sortByKey {α : Type} (key : α → List String) (rows : List α) : List α :=
  rows.mergeSort fun a b => ¬ key b < key a

def WorkRow.key (w : WorkRow) : List String := [w.date, w.start, w.id]

def BreakRow.key (b : BreakRow) : List String := [b.date, b.start, b.id]

/-- A change together with its work. -/
structure JoinedChange where
  work : WorkRow
  change : ChangeRow
deriving DecidableEq

def JoinedChange.key (j : JoinedChange) : List String :=
  [j.work.date, j.work.start, j.change.work, j.change.id]

/-- The changes whose work is stored, each with its work. -/
def joinChanges (works : List WorkRow) (changes : List ChangeRow) : List JoinedChange :=
  changes.filterMap fun c => (works.find? fun w => w.id = c.work).map fun w => ⟨w, c⟩

namespace Selection

def works (s : Selection) (works : List WorkRow) (changes : List ChangeRow) : List WorkRow :=
  sortByKey WorkRow.key (works.filter fun w => s.SelectsWork changes w)

def changes (s : Selection) (works : List WorkRow) (changes : List ChangeRow) : List ChangeRow :=
  (sortByKey JoinedChange.key
    ((joinChanges works changes).filter fun j => s.SelectsWork changes j.work)).map JoinedChange.change

def breaks (s : Selection) (breaks : List BreakRow) : List BreakRow :=
  sortByKey BreakRow.key (breaks.filter fun b => s.SelectsBreak b)

end Selection

namespace Store

def load (s : Store) (w : Window) : Except StoreError RecordSet := do
  let selection := Selection.ofWindow w
  let workRows ← Table.works.rows s.works
  let changeRows ← Table.changes.rows s.changes
  let works ← (selection.works workRows changeRows).mapM WorkRow.toWork
  let changes ← (selection.changes workRows changeRows).mapM ChangeRow.toChange
  let breakRows ← Table.breaks.rows s.breaks
  let breaks ← (selection.breaks breakRows).mapM BreakRow.toBreak
  .ok ⟨works, changes, breaks⟩

def source (s : Store) : Source StoreError := ⟨s.load⟩

end Store

end Roster
