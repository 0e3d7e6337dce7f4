import Roster.Calendar.Text
import Roster.Clock.Text
import Roster.Record
/-!
# Rects

A `Rect` is an interval within one day, with the record it comes from and the client it belongs to. Rects are
half-open: they contain their start but not their finish. `splitAtMidnight` cuts an interval that runs past
midnight into its shares of the two days.
-/

namespace Roster

/-- What kind of record a rect comes from; `work` is what remains of a work after its changes. -/
inductive RectKind
  | work
  | break
  | correction
  | replacement
deriving DecidableEq, Repr

def RectKind.name : RectKind → String
  | work => "work"
  | .break => "break"
  | correction => "correction"
  | replacement => "replacement"

structure Rect where
  source : SourceId
  kind : RectKind
  client : ClientId
  date : Date
  start : TimeOfDay
  finish : TimeOfDay
  /-- The change that a correction or replacement comes from. -/
  change : Option ChangeId
deriving DecidableEq

namespace Rect

def isBreak (r : Rect) : Bool := r.kind = .break

/-- Both intervals run at some time of day. The dates are not looked at. -/
def Overlaps (a b : Rect) : Prop := a.start < b.finish ∧ b.start < a.finish

instance (a b : Rect) : Decidable (Overlaps a b) := by
  unfold Overlaps; infer_instance

theorem overlaps_comm {a b : Rect} : a.Overlaps b ↔ b.Overlaps a := and_comm

/-- The rect without its date and client. -/
def line (r : Rect) : String :=
  let change := match r.change with
    | some id => s!" [{id}]"
    | none => ""
  s!"{r.start.display}-{r.finish.display} {r.kind.name} {r.source}{change}"

def display (r : Rect) : String :=
  s!"{r.date} {r.start.display}-{r.finish.display} {r.kind.name} {r.source} ({r.client})"

end Rect

structure DaySpan where
  date : Date
  start : TimeOfDay
  finish : TimeOfDay
deriving DecidableEq

/-- An interval that finishes before it starts runs to the end of its day and on from the start of the next,
if there is one. Any other interval lies within its day, also one without length. -/
def splitAtMidnight (date : Date) (start finish : TimeOfDay) : List DaySpan :=
  if start ≤ finish then [⟨date, start, finish⟩]
  else
    ⟨date, start, .dayEnd⟩ ::
      match date.succ? with
      | some next => [⟨next, .dayStart, finish⟩]
      | none => []

end Roster
