import Roster.Calendar.Date
import Roster.Clock.Time
import Roster.Ident
/-!
# Records

What is planned: works, the changes that correct or replace one end of a work, and breaks. Times are times of
day without a date; a record that finishes before it starts runs past midnight into the following day.
-/

namespace Roster

/-- Which end of a work a change moves, and whether it hands the moved part to another client. -/
inductive ChangeKind
  | startCorrection
  | endCorrection
  | startReplacement
  | endReplacement
deriving DecidableEq, Repr

namespace ChangeKind

def name : ChangeKind → String
  | startCorrection => "start_correction"
  | endCorrection => "end_correction"
  | startReplacement => "start_replacement"
  | endReplacement => "end_replacement"

def ofName? : String → Option ChangeKind
  | "start_correction" => some startCorrection
  | "end_correction" => some endCorrection
  | "start_replacement" => some startReplacement
  | "end_replacement" => some endReplacement
  | _ => none

def adjustsStart : ChangeKind → Bool
  | startCorrection | startReplacement => true
  | endCorrection | endReplacement => false

def isReplacement : ChangeKind → Bool
  | startReplacement | endReplacement => true
  | startCorrection | endCorrection => false

theorem ofName?_name (kind : ChangeKind) : ofName? kind.name = some kind := by
  cases kind <;> rfl

theorem eq_name_of_ofName? {text : String} {kind : ChangeKind} (hkind : ofName? text = some kind) :
    text = kind.name := by
  unfold ofName? at hkind
  split at hkind <;> cases hkind <;> rfl

end ChangeKind

/-- The fault of a text that names no kind of change. -/
structure UnknownChangeKind where
  text : String
deriving DecidableEq, Repr

def UnknownChangeKind.message (e : UnknownChangeKind) : String := "invalid change kind: " ++ e.text

def ChangeKind.ofText (text : String) : Except UnknownChangeKind ChangeKind :=
  match ofName? text with
  | some kind => .ok kind
  | none => .error ⟨text⟩

structure Work where
  id : WorkId
  client : ClientId
  shift : ShiftId
  date : Date
  start : TimeOfDay
  finish : TimeOfDay
deriving DecidableEq

/-- A correction or replacement of one work. Only a replacement makes use of the client it names. -/
structure Change where
  id : ChangeId
  work : WorkId
  kind : ChangeKind
  start : TimeOfDay
  finish : TimeOfDay
  replacement : Option ClientId
deriving DecidableEq

/-- An interval in which a client is not planned; it never collides. -/
structure Break where
  id : BreakId
  client : ClientId
  date : Date
  start : TimeOfDay
  finish : TimeOfDay
deriving DecidableEq

structure RecordSet where
  works : List Work
  changes : List Change
  breaks : List Break
deriving DecidableEq

namespace RecordSet

def empty : RecordSet := ⟨[], [], []⟩

def size (r : RecordSet) : Nat := r.works.length + r.changes.length + r.breaks.length

def isEmpty (r : RecordSet) : Bool := r.size == 0

def append (r s : RecordSet) : RecordSet :=
  ⟨r.works ++ s.works, r.changes ++ s.changes, r.breaks ++ s.breaks⟩

instance : Append RecordSet := ⟨append⟩

theorem isEmpty_iff {r : RecordSet} : r.isEmpty = true ↔ r = empty := by
  cases r
  simp [isEmpty, size, empty, and_assoc]

end RecordSet

end Roster
