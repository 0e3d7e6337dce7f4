import Roster.Report.Json
/-!
# Reports and listings for the reader

The output of the commands. A collision report and a listing of timelines each have a text and a JSON form. Both
end with a line break. `Sink.writing` publishes reports in either form by appending to what has been written.
-/

namespace Roster

/-- The form of a command's output. -/
inductive OutputForm
  | text
  | json
deriving DecidableEq, Repr

def lines (ls : List String) : String := String.join (ls.map (· ++ "\n"))

/-- A number of things; one thing is named without the plural's letter. -/
def counted (n : Nat) (noun : String) : String := if n = 1 then s!"{n} {noun}" else s!"{n} {noun}s"

namespace Collision

def line (c : Collision) : String :=
  s!"{c.first.line} overlaps {c.second.line} at " ++
    s!"{c.overlapStart.display}-{c.overlapFinish.display} ({c.minutes} min)"

end Collision

namespace DayCollisions

def lines (d : DayCollisions) : List String :=
  let found := counted d.collisions.length "collision"
  s!"{d.client} {d.date}: {found}" :: d.collisions.map fun c => "  " ++ c.line

end DayCollisions

namespace Report

def text (r : Report) : String :=
  let clients := match r.window.client with
    | some client => s!"client {client}"
    | none => "all clients"
  let checked := counted r.timelinesChecked "timeline"
  let rects := counted r.rects "rect"
  let records := counted r.records "record"
  Roster.lines <|
    [s!"Run {r.run}",
      s!"Window: {r.window.first} to {r.window.last} ({clients})",
      s!"Checked {checked}, {rects} from {records}"] ++
    (if r.cancelled then ["Cancelled: report is partial"] else []) ++
    (if r.isClean then ["No collisions."] else r.days.flatMap DayCollisions.lines)

def render (r : Report) : OutputForm → String
  | .text => r.text
  | .json => Roster.lines [r.toJson.pretty]

end Report

/-- Writes reports one after the other. -/
def Sink.writing (form : OutputForm) : Sink String Empty :=
  ⟨fun written r => (written ++ r.render form, .ok ())⟩

namespace Timeline

def lines (t : Timeline) : List String :=
  let held := counted t.rects.length "rect"
  s!"{t.client} {t.date} ({held})" :: t.rects.map fun r => "  " ++ r.line

/-- The listing of timelines. -/
def listing (ts : List Timeline) : OutputForm → String
  | .text => Roster.lines (if ts.isEmpty then ["No rects in window."] else ts.flatMap lines)
  | .json => Roster.lines [(Json.array (ts.map toJson)).pretty]

end Timeline

end Roster
