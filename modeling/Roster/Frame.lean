import Roster.Record
/-!
# The frame of a work

A work is laid out on an axis of nanoseconds: its start at 0 and its finish at `length`, also when it runs
past midnight. Every time of day has one `position` on this axis. Times within the work lie between 0 and
`length`; any other time goes to the side of the work that it is closer to, so a time shortly before the start
gets a negative position.

What the changes of a work leave of it is found on this axis. Each change offers a new place for one end:
its own finish for the start of the work, its own start for the finish. Of several offers the one that leaves
least counts, whatever their order; without an offer the end stays.
-/

namespace Roster

/-- Nanoseconds going forward around the clock from one time to another. -/
def TimeOfDay.forwardTo (a b : TimeOfDay) : Int :=
  if b.since a < 0 then b.since a + nanosPerDay else b.since a

structure Frame where
  origin : TimeOfDay
  length : Int

namespace Frame

def ofWork (w : Work) : Frame := ⟨w.start, w.start.forwardTo w.finish⟩

def position (f : Frame) (t : TimeOfDay) : Int :=
  let after := f.origin.forwardTo t
  let before := after - nanosPerDay
  if after ≤ f.length then after
  else if -before < after - f.length then before
  else after

def timeAt (f : Frame) (position : Int) : TimeOfDay := f.origin.plus position

end Frame

/-- The best offers so far for the two ends of a work. -/
structure Adjustment where
  start : Option Int
  finish : Option Int
deriving DecidableEq

namespace Adjustment

def none : Adjustment := ⟨.none, .none⟩

/-- Takes the offer of one more change into account. -/
def add (f : Frame) (a : Adjustment) (c : Change) : Adjustment :=
  if c.kind.adjustsStart then
    let offer := f.position c.finish
    { a with start := some (match a.start with | some best => max best offer | .none => offer) }
  else
    let offer := f.position c.start
    { a with finish := some (match a.finish with | some best => min best offer | .none => offer) }

def ofChanges (f : Frame) (changes : List Change) : Adjustment := changes.foldl (add f) none

end Adjustment

/-- Where the rest of a work starts and finishes in its frame. Changes that use up the whole work leave
a rest without length. -/
def Work.remaining (w : Work) (changes : List Change) : Int × Int :=
  let f := Frame.ofWork w
  let a := Adjustment.ofChanges f changes
  let finish := a.finish.getD f.length
  (min (a.start.getD 0) finish, finish)

end Roster
