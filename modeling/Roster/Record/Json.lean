import Roster.Calendar.Text
import Roster.Clock.Text
import Roster.Json.Decode
import Roster.Record
/-!
# Records as JSON

Each record is written as an object (`toJson`) and read by its form. Dates and times are read with free spacing.
The kind of a change may also be given as the only key of an object, with the value null.
-/

namespace Roster

open Json

namespace Json.Reading

def asDate (v : Reading) : Decoded Date := do
  let s ← v.asText "a formatted date string"
  match Date.ofText .free s with
  | .ok d => .ok d
  | .error cause => .fail (.badText cause)

def asTime (v : Reading) : Decoded TimeOfDay := do
  let s ← v.asText "a formatted time string"
  match TimeOfDay.ofText .free s with
  | .ok t => .ok t
  | .error cause => .fail (.badText cause)

end Json.Reading

namespace ChangeKind

def all : List ChangeKind := [startCorrection, endCorrection, startReplacement, endReplacement]

def ofKey (key : String) : Decoded ChangeKind :=
  match ofName? key with
  | some kind => .ok kind
  | none => .fail (.unknownName key (all.map name))

/-- The value that may stand behind the kind as a key. -/
def checkUnit : Mode → Reading → Decoded Unit
  | _, .null => .ok ()
  | .buffered, .object [] _ => .ok ()
  | _, v => v.refuse "unit"

/-- The kind as a value of its own in a text. -/
def decodeDirect : Reading → Decoded ChangeKind
  | .text (some s) => ofKey s
  | .object [] close => do
      .ofFault close.finish
      .error (.fault .malformed)
  | .object ((some key, v) :: rest) close => do
      let kind ← ofKey key
      checkUnit .direct v
      match rest with
      | [] => do
          .ofFault close.full
          .ok kind
      | _ :: _ => .error (.fault .malformed)
  | .flawed f => .error (.fault f.name)
  | _ => .error (.fault .malformed)

/-- The kind in a value that has been read before. -/
def decodeBuffered : Reading → Decoded ChangeKind
  | .text (some s) => ofKey s
  | .object [(some key, v)] _ => do
      let kind ← ofKey key
      checkUnit .buffered v
      .ok kind
  | .object _ _ => .fail .notOneKey
  | v => v.refuse "string or map"

def decode : Mode → Reading → Decoded ChangeKind
  | .direct => decodeDirect
  | .buffered => decodeBuffered

end ChangeKind

/-! ### Works -/

namespace Work

structure Draft where
  id : Option WorkId
  client : Option ClientId
  shift : Option ShiftId
  date : Option Date
  start : Option TimeOfDay
  finish : Option TimeOfDay

def Draft.put (_ : Mode) (d : Draft) (field : String) (v : Reading) : Decoded Draft :=
  match field with
  | "id" => (once field d.id (v.asIdent .work)).map fun x => { d with id := x }
  | "client_id" => (once field d.client (v.asIdent .client)).map fun x => { d with client := x }
  | "shift_id" => (once field d.shift (v.asIdent .shift)).map fun x => { d with shift := x }
  | "date" => (once field d.date v.asDate).map fun x => { d with date := x }
  | "start" => (once field d.start v.asTime).map fun x => { d with start := x }
  | "end" => (once field d.finish v.asTime).map fun x => { d with finish := x }
  | _ => .ok d

def Draft.finishWork (d : Draft) : Decoded Work := do
  let id ← given "id" d.id
  let client ← given "client_id" d.client
  let shift ← given "shift_id" d.shift
  let date ← given "date" d.date
  let start ← given "start" d.start
  let finish ← given "end" d.finish
  .ok ⟨id, client, shift, date, start, finish⟩

def form : Form Draft Work where
  name := "struct Work"
  fields := ["id", "client_id", "shift_id", "date", "start", "end"]
  required := 6
  blank := ⟨none, none, none, none, none, none⟩
  put := Draft.put
  finish := Draft.finishWork

def decode (mode : Mode) (v : Reading) : Decoded Work := form.decode mode v

/-- The members of a work's object. -/
def members (w : Work) : List (String × Json) := [
  ("id", .text w.id.text),
  ("client_id", .text w.client.text),
  ("shift_id", .text w.shift.text),
  ("date", .text w.date.toText),
  ("start", .text w.start.toText),
  ("end", .text w.finish.toText)]

def toJson (w : Work) : Json := .object w.members

end Work

/-! ### Changes -/

namespace Change

structure Draft where
  id : Option ChangeId
  work : Option WorkId
  kind : Option ChangeKind
  start : Option TimeOfDay
  finish : Option TimeOfDay
  replacement : Option (Option ClientId)

def Draft.put (mode : Mode) (d : Draft) (field : String) (v : Reading) : Decoded Draft :=
  match field with
  | "id" => (once field d.id (v.asIdent .change)).map fun x => { d with id := x }
  | "work_id" => (once field d.work (v.asIdent .work)).map fun x => { d with work := x }
  | "kind" => (once field d.kind (ChangeKind.decode mode v)).map fun x => { d with kind := x }
  | "start" => (once field d.start v.asTime).map fun x => { d with start := x }
  | "end" => (once field d.finish v.asTime).map fun x => { d with finish := x }
  | "replacement_client_id" =>
      (once field d.replacement (v.asOptional (Reading.asIdent .client))).map
        fun x => { d with replacement := x }
  | _ => .ok d

def Draft.finishChange (d : Draft) : Decoded Change := do
  let id ← given "id" d.id
  let work ← given "work_id" d.work
  let kind ← given "kind" d.kind
  let start ← given "start" d.start
  let finish ← given "end" d.finish
  .ok ⟨id, work, kind, start, finish, d.replacement.getD none⟩

def form : Form Draft Change where
  name := "struct WorkChange"
  fields := ["id", "work_id", "kind", "start", "end", "replacement_client_id"]
  required := 5
  blank := ⟨none, none, none, none, none, none⟩
  put := Draft.put
  finish := Draft.finishChange

def decode (mode : Mode) (v : Reading) : Decoded Change := form.decode mode v

/-- The members of a change's object; a missing replacement client is left out. -/
def members (c : Change) : List (String × Json) := [
  ("id", .text c.id.text),
  ("work_id", .text c.work.text),
  ("kind", .text c.kind.name),
  ("start", .text c.start.toText),
  ("end", .text c.finish.toText)] ++
  match c.replacement with
  | some client => [("replacement_client_id", .text client.text)]
  | none => []

def toJson (c : Change) : Json := .object c.members

end Change

/-! ### Breaks -/

namespace Break

structure Draft where
  id : Option BreakId
  client : Option ClientId
  date : Option Date
  start : Option TimeOfDay
  finish : Option TimeOfDay

def Draft.put (_ : Mode) (d : Draft) (field : String) (v : Reading) : Decoded Draft :=
  match field with
  | "id" => (once field d.id (v.asIdent .break)).map fun x => { d with id := x }
  | "client_id" => (once field d.client (v.asIdent .client)).map fun x => { d with client := x }
  | "date" => (once field d.date v.asDate).map fun x => { d with date := x }
  | "start" => (once field d.start v.asTime).map fun x => { d with start := x }
  | "end" => (once field d.finish v.asTime).map fun x => { d with finish := x }
  | _ => .ok d

def Draft.finishBreak (d : Draft) : Decoded Break := do
  let id ← given "id" d.id
  let client ← given "client_id" d.client
  let date ← given "date" d.date
  let start ← given "start" d.start
  let finish ← given "end" d.finish
  .ok ⟨id, client, date, start, finish⟩

def form : Form Draft Break where
  name := "struct Break"
  fields := ["id", "client_id", "date", "start", "end"]
  required := 5
  blank := ⟨none, none, none, none, none⟩
  put := Draft.put
  finish := Draft.finishBreak

def decode (mode : Mode) (v : Reading) : Decoded Break := form.decode mode v

/-- The members of a break's object. -/
def members (b : Break) : List (String × Json) := [
  ("id", .text b.id.text),
  ("client_id", .text b.client.text),
  ("date", .text b.date.toText),
  ("start", .text b.start.toText),
  ("end", .text b.finish.toText)]

def toJson (b : Break) : Json := .object b.members

end Break

/-! ### Record sets -/

namespace RecordSet

structure Draft where
  works : Option (List Work)
  changes : Option (List Change)
  breaks : Option (List Break)

def Draft.put (mode : Mode) (d : Draft) (field : String) (v : Reading) : Decoded Draft :=
  match field with
  | "works" => (once field d.works (v.asList (Work.decode mode))).map fun x => { d with works := x }
  | "changes" =>
      (once field d.changes (v.asList (Change.decode mode))).map fun x => { d with changes := x }
  | "breaks" =>
      (once field d.breaks (v.asList (Break.decode mode))).map fun x => { d with breaks := x }
  | _ => .ok d

def Draft.finishSet (d : Draft) : Decoded RecordSet :=
  .ok ⟨d.works.getD [], d.changes.getD [], d.breaks.getD []⟩

def form : Form Draft RecordSet where
  name := "struct RecordSet"
  fields := ["works", "changes", "breaks"]
  required := 0
  blank := ⟨none, none, none⟩
  put := Draft.put
  finish := Draft.finishSet

def decode (mode : Mode) (v : Reading) : Decoded RecordSet := form.decode mode v

def toJson (r : RecordSet) : Json := .object [
  ("works", .array (r.works.map Work.toJson)),
  ("changes", .array (r.changes.map Change.toJson)),
  ("breaks", .array (r.breaks.map Break.toJson))]

end RecordSet

end Roster
