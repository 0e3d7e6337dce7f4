import Roster.Rect.Build
/-!
# Timelines, collisions and windows

A `Timeline` holds the rects of one client on one day. Two of its rects collide when neither is a break, they
come from different sources and their intervals overlap. `collisions` lists each colliding pair once, the
rect that stands first in the timeline first.

`Timeline.ofRects` sorts rects into timelines, ordered by client and date; within a timeline the rects keep
their order.

A `Window` is a range of dates, both ends included, and perhaps a single client. It decides which timelines
are reported. Records are needed from the day before on, because a work of that day may run past midnight
into the window.
-/

namespace Roster

/-! ### Collisions -/

/-- Two rects of one timeline that double-book the client, and the interval that both cover. -/
structure Collision where
  first : Rect
  second : Rect
  overlapStart : TimeOfDay
  overlapFinish : TimeOfDay
deriving DecidableEq

/-- The rects double-book a client who owns both. -/
def Rect.CollidesWith (a b : Rect) : Prop :=
  a.isBreak = false ∧ b.isBreak = false ∧ a.source ≠ b.source ∧ a.Overlaps b

instance (a b : Rect) : Decidable (a.CollidesWith b) := by
  unfold Rect.CollidesWith; infer_instance

theorem Rect.collidesWith_comm {a b : Rect} : a.CollidesWith b ↔ b.CollidesWith a := by
  simp only [CollidesWith, overlaps_comm (a := a), ne_comm (a := a.source), and_left_comm]

namespace Collision

def ofRects (first second : Rect) : Collision :=
  ⟨first, second, first.start.later second.start, first.finish.earlier second.finish⟩

/-- Nanoseconds that both rects cover; rects without length may collide and cover none. -/
def overlap (c : Collision) : Int :=
  if c.overlapFinish ≤ c.overlapStart then 0 else c.overlapFinish.since c.overlapStart

/-- Whole minutes that both rects cover. -/
def minutes (c : Collision) : Int := c.overlap.tdiv (60 * nanosPerSecond)

end Collision

/-- The collisions among rects, pair by pair. -/
def collisionsAmong : List Rect → List Collision
  | [] => []
  | a :: rest =>
      (rest.filter fun b => a.CollidesWith b).map (Collision.ofRects a) ++ collisionsAmong rest

/-! ### Timelines -/

structure Timeline where
  client : ClientId
  date : Date
  rects : List Rect
deriving DecidableEq

namespace Timeline

def push (t : Timeline) (r : Rect) : Timeline := { t with rects := t.rects ++ [r] }

def collisions (t : Timeline) : List Collision := collisionsAmong t.rects

/-- The timeline comes before the one a rect belongs to: by client, then date. -/
def Precedes (t : Timeline) (r : Rect) : Prop :=
  t.client < r.client ∨ t.client = r.client ∧ t.date < r.date

instance (t : Timeline) (r : Rect) : Decidable (t.Precedes r) := by
  unfold Precedes; infer_instance

/-- Puts a rect at the end of its timeline, which is opened in its place if it is missing. -/
def file (r : Rect) : List Timeline → List Timeline
  | [] => [⟨r.client, r.date, [r]⟩]
  | t :: rest =>
      if t.Precedes r then t :: file r rest
      else if t.client = r.client ∧ t.date = r.date then t.push r :: rest
      else ⟨r.client, r.date, [r]⟩ :: t :: rest

def ofRects (rects : List Rect) : List Timeline := rects.foldl (fun ts r => file r ts) []

end Timeline

/-! ### Windows -/

structure Window where
  first : Date
  last : Date
  client : Option ClientId
  first_le_last : first ≤ last
deriving DecidableEq

structure ReversedWindow where
  first : Date
  last : Date
deriving DecidableEq

def ReversedWindow.message (e : ReversedWindow) : String :=
  s!"invalid window: {e.first} is after {e.last}"

namespace Window

def ofDates (first last : Date) (client : Option ClientId) : Except ReversedWindow Window :=
  if h : first ≤ last then .ok ⟨first, last, client, h⟩ else .error ⟨first, last⟩

def loadFrom (w : Window) : Date := w.first.pred?.getD w.first

/-- The client's timeline of the date is reported. -/
def Covers (w : Window) (client : ClientId) (date : Date) : Prop :=
  w.first ≤ date ∧ date ≤ w.last ∧ ∀ c ∈ w.client, c = client

instance (w : Window) (client : ClientId) (date : Date) : Decidable (w.Covers client date) := by
  unfold Covers; infer_instance

end Window

/-- The timelines of the records that a window covers. -/
def RecordSet.timelines (r : RecordSet) (w : Window) : List Timeline :=
  (Timeline.ofRects r.rects).filter fun t => w.Covers t.client t.date

end Roster
