import Roster.Timeline
/-!
# Collision reports

A pass loads the records of a window from a `Source`, checks each timeline for collisions and hands its
`Report` to a `Sink`. Only the source and the sink can fail. A pass may be cancelled: before each timeline it
looks at the cancellation, and what has been checked until then is still reported.
-/

namespace Roster

structure DayCollisions where
  client : ClientId
  date : Date
  collisions : List Collision
deriving DecidableEq

structure Report where
  run : String
  window : Window
  records : Nat
  rects : Nat
  timelinesChecked : Nat
  /-- The timelines with collisions, by client and date. -/
  days : List DayCollisions
  /-- Some timeline was left unchecked. -/
  cancelled : Bool
deriving DecidableEq

namespace Report

def collisionCount (r : Report) : Nat := (r.days.flatMap DayCollisions.collisions).length

def isClean (r : Report) : Bool := r.days.isEmpty

end Report

/-- When a pass is cancelled. -/
inductive Cancellation
  | never
  | beforePass
  | whileLoading
deriving DecidableEq, Repr

/-- The cancellation stands once the records are loaded. -/
def Cancellation.isSet : Cancellation → Bool
  | .never => false
  | .beforePass | .whileLoading => true

/-- What checking a timeline finds; nothing if the pass has been cancelled. -/
def Timeline.check (cancelled : Bool) (t : Timeline) : Option DayCollisions :=
  if cancelled then none else some ⟨t.client, t.date, t.collisions⟩

def Report.ofRecords (run : String) (w : Window) (cancelled : Bool) (r : RecordSet) : Report :=
  let timelines := r.timelines w
  let checked := timelines.filterMap (Timeline.check cancelled)
  { run
    window := w
    records := r.size
    rects := (timelines.flatMap Timeline.rects).length
    timelinesChecked := checked.length
    days := checked.filter fun d => !d.collisions.isEmpty
    cancelled := checked.length < timelines.length }

/-- Supplies the records of a window. -/
structure Source (ε : Type) where
  load : Window → Except ε RecordSet

/-- A record set supplies itself, whatever the window. -/
def RecordSet.source (r : RecordSet) : Source Empty := ⟨fun _ => .ok r⟩

/-- Takes reports; `σ` is what it has taken so far. -/
structure Sink (σ ε : Type) where
  publish : σ → Report → σ × Except ε Unit

/-- Keeps all reports, the latest last. -/
def Sink.collecting : Sink (List Report) Empty := ⟨fun taken r => (taken ++ [r], .ok ())⟩

inductive PassError (ε δ : Type)
  | load (cause : ε)
  | publish (cause : δ)

def PassError.message {ε δ : Type} : PassError ε δ → String
  | load _ => "failed to load records"
  | publish _ => "failed to publish collision report"

/-- One pass over a window: what the sink has taken afterwards, and the report or what failed. -/
def recompute {ε δ σ : Type} (source : Source ε) (sink : Sink σ δ) (cancellation : Cancellation)
    (run : String) (w : Window) (taken : σ) : σ × Except (PassError ε δ) Report :=
  match source.load w with
  | .error cause => (taken, .error (.load cause))
  | .ok records =>
      let report := Report.ofRecords run w cancellation.isSet records
      match sink.publish taken report with
      | (taken, .ok ()) => (taken, .ok report)
      | (taken, .error cause) => (taken, .error (.publish cause))

end Roster
