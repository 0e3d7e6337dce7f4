import Roster.Json.Basic
import Roster.Report
/-!
# Rects, timelines and reports as JSON

Values that may be missing, the change of a rect and the client of a window, have no member then.
-/

namespace Roster

/-- The member for a value that may be missing. -/
def optionalMember (key : String) : Option String → List (String × Json)
  | some s => [(key, .text s)]
  | none => []

def Rect.toJson (r : Rect) : Json := .object <| [
  ("source_id", .text r.source.text),
  ("kind", .text r.kind.name),
  ("client_id", .text r.client.text),
  ("date", .text r.date.toText),
  ("start", .text r.start.toText),
  ("end", .text r.finish.toText)] ++ optionalMember "change_id" (r.change.map Ident.text)

def Timeline.toJson (t : Timeline) : Json := .object [
  ("client_id", .text t.client.text),
  ("date", .text t.date.toText),
  ("rects", .array (t.rects.map Rect.toJson))]

def Collision.members (c : Collision) : List (String × Json) := [
  ("first", c.first.toJson),
  ("second", c.second.toJson),
  ("overlap_start", .text c.overlapStart.toText),
  ("overlap_end", .text c.overlapFinish.toText)]

def Collision.toJson (c : Collision) : Json := .object c.members

def DayCollisions.toJson (d : DayCollisions) : Json := .object [
  ("client_id", .text d.client.text),
  ("date", .text d.date.toText),
  ("collisions", .array (d.collisions.map Collision.toJson))]

def Window.toJson (w : Window) : Json := .object <| [
  ("first", .text w.first.toText),
  ("last", .text w.last.toText)] ++ optionalMember "client_id" (w.client.map Ident.text)

def Report.members (r : Report) : List (String × Json) := [
  ("run_id", .text r.run),
  ("window", r.window.toJson),
  ("records", .number r.records),
  ("rects", .number r.rects),
  ("timelines_checked", .number r.timelinesChecked),
  ("days", .array (r.days.map DayCollisions.toJson)),
  ("cancelled", .bool r.cancelled)]

def Report.toJson (r : Report) : Json := .object r.members

end Roster
