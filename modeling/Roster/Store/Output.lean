import Roster.Report.Text
import Roster.Store.Load
/-!
# Output from a store

What the commands print that only look at a store: its status, the timelines of a window and the collisions in
it. Each fails if the store does.
-/

namespace Roster

inductive OutputError
  | status (cause : StoreError)
  | listing (cause : StoreError)
  | pass (cause : PassError StoreError Empty)

namespace OutputError

def message : OutputError → String
  | status cause => cause.message
  | listing _ => "failed to load records"
  | pass _ => "recomputation failed"

def causes : OutputError → List String
  | status cause => cause.causes
  | listing cause => cause.message :: cause.causes
  | pass (.load cause) =>
      (PassError.load cause : PassError StoreError Empty).message :: cause.message :: cause.causes
  | pass (.publish cause) => nomatch cause

end OutputError

namespace Store

/-- Where the store is kept, and how much it holds. -/
def status (s : Store) (path : String) : Except OutputError String :=
  match s.counts with
  | .error cause => .error (.status cause)
  | .ok c =>
      .ok <| lines <| ["Shiftline status", s!"Database: {path}"] ++
        if c.total = 0 then ["No records stored."]
        else [s!"Works: {c.works}", s!"Changes: {c.changes}", s!"Breaks: {c.breaks}"]

def listing (s : Store) (w : Window) (form : OutputForm) : Except OutputError String :=
  match s.load w with
  | .error cause => .error (.listing cause)
  | .ok r => .ok (Timeline.listing (r.timelines w) form)

/-- Checks a window; the answer is what is printed and the report. -/
def recompute (s : Store) (w : Window) (form : OutputForm) (run : String) :
    Except OutputError (String × Report) :=
  match Roster.recompute s.source (Sink.writing form) .never run w "" with
  | (_, .error cause) => .error (.pass cause)
  | (written, .ok report) => .ok (written, report)

end Store

end Roster
