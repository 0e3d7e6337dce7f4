import Roster.Record.Json
/-!
# Tagged records

A line of an import is one record of any kind. Its kind stands in the member `record` of its object, or first in
its array. The line is read in full before the record is decoded: faults of the text and of the tag come
first, wherever they stand, and then the mismatches in the other fields.
-/

namespace Roster

open Json

inductive TaggedRecord
  | work (w : Work)
  | change (c : Change)
  | break (b : Break)
deriving DecidableEq

inductive RecordTag
  | work
  | change
  | break
deriving DecidableEq, Repr

namespace RecordTag

def name : RecordTag → String
  | work => "work"
  | change => "change"
  | .break => "break"

def all : List RecordTag := [work, change, .break]

def ofName? : String → Option RecordTag
  | "work" => some work
  | "change" => some change
  | "break" => some .break
  | _ => none

/-- The key of the member that holds the tag. -/
def key : String := "record"

def decode : Reading → Decoded RecordTag
  | .text (some s) =>
      match ofName? s with
      | some tag => .ok tag
      | none => .fail (.unknownName s (all.map name))
  | v => v.refuse "variant identifier"

end RecordTag

namespace TaggedRecord

/-- How many levels of arrays and objects may stand within a line's own. -/
def innerDepth : Nat := 126

/-- Separates the tag from the other members, which are read in full on the way. -/
def splitMembers : Option RecordTag → List (Option String × Reading) →
    Decoded (Option RecordTag × List (Option String × Reading))
  | tag, [] => .ok (tag, [])
  | _, (none, _) :: _ => .error (.fault .malformed)
  | tag, (some key, v) :: rest =>
      if key = RecordTag.key then do
        let tag ← once key tag (RecordTag.decode v)
        splitMembers tag rest
      else do
        .ofFault (v.readFully innerDepth)
        let (tag, others) ← splitMembers tag rest
        .ok (tag, (some key, v) :: others)

/-- The tag of a record, and the record without it. -/
def split : Reading → Decoded (RecordTag × Reading)
  | .object members close => do
      let (tag, others) ← splitMembers none members
      .ofFault close.finish
      let tag ← given RecordTag.key tag
      .ok (tag, .object others .closed)
  | .array [] close => do
      .ofFault close.finish
      .fail (.missingField RecordTag.key)
  | .array (v :: items) close => do
      let tag ← RecordTag.decode v
      .ofFault (Reading.readItemsFully innerDepth items)
      .ofFault close.finish
      .ok (tag, .array items .closed)
  | v => v.refuse "internally tagged enum ImportRecord"

def decode (v : Reading) : Decoded TaggedRecord := do
  let (tag, rest) ← split v
  match tag with
  | .work => (Work.decode .buffered rest).map work
  | .change => (Change.decode .buffered rest).map change
  | .break => (Break.decode .buffered rest).map .break

def tag : TaggedRecord → RecordTag
  | work _ => .work
  | change _ => .change
  | .break _ => .break

/-- The members of the record's object, without the tag. -/
def members : TaggedRecord → List (String × Json)
  | work w => w.members
  | change c => c.members
  | .break b => b.members

def toJson (r : TaggedRecord) : Json :=
  .object ((RecordTag.key, .text r.tag.name) :: r.members)

end TaggedRecord

/-- The records of each kind, in order. -/
def RecordSet.ofTagged (rs : List TaggedRecord) : RecordSet where
  works := rs.filterMap fun | .work w => some w | _ => none
  changes := rs.filterMap fun | .change c => some c | _ => none
  breaks := rs.filterMap fun | .break b => some b | _ => none

end Roster
