import Roster.Ident
import Roster.Json.Reading
import Roster.Text.Quoted
import Roster.Text.Scan
/-!
# Decoding

Values of JSON are decoded part by part in the order of the text, and the first thing that is wrong is the
error: a fault of the text or a mismatch between a part and what is wanted there.

A record is described by its `Form`. It is written as an object, whose members may come in any order, or as an
array of its fields in order. What stands in the text behind a member that is wrong is never looked at, except
where the value has been read in full before (`Mode.buffered`).
-/

namespace Roster.Json

inductive Mismatch
  | duplicateField (field : String)
  | missingField (field : String)
  | emptyIdent (cause : EmptyIdent)
  | badText (cause : Text.ScanError)
  | wrongType (found : Shape) (expected : String)
  | unknownName (found : String) (known : List String)
  | wrongLength (found : Nat) (expected : String)
  | notOneKey
deriving DecidableEq, Repr

inductive DecodeError
  | fault (f : Fault)
  | mismatch (m : Mismatch)
deriving DecidableEq, Repr

def Shape.message : Shape → String
  | null => "null"
  | bool b => s!"boolean `{b}`"
  | number shown => shown
  | text s => "string " ++ Text.quoted s
  | sequence => "sequence"
  | map => "map"

def Mismatch.message : Mismatch → String
  | duplicateField field => s!"duplicate field `{field}`"
  | missingField field => s!"missing field `{field}`"
  | emptyIdent cause => cause.message
  | badText cause => cause.message
  | wrongType found expected => s!"invalid type: {found.message}, expected {expected}"
  | unknownName found known =>
      let choices := ", ".intercalate (known.map fun k => s!"`{k}`")
      s!"unknown variant `{found}`, expected one of {choices}"
  | wrongLength found expected => s!"invalid length {found}, expected {expected}"
  | notOneKey => "invalid value: map, expected map with a single key"

def DecodeError.message : DecodeError → String
  | fault .malformed => "json syntax"
  | fault .ended => "json eof"
  | mismatch m => "json data: " ++ m.message

abbrev Decoded (α : Type) := Except DecodeError α

namespace Decoded

def ofFault {α : Type} : Except Fault α → Decoded α
  | .ok a => .ok a
  | .error f => .error (.fault f)

def fail {α : Type} (m : Mismatch) : Decoded α := .error (.mismatch m)

end Decoded

/-- Whether a value is taken apart while its text is read, or after all of it has been read. -/
inductive Mode
  | direct
  | buffered
deriving DecidableEq, Repr

namespace Reading

/-- The error for a value that is none of what is expected. -/
def refuse {α : Type} (v : Reading) (expected : String) : Decoded α := do
  let found ← .ofFault v.shape
  .fail (.wrongType found expected)

/-- Passes over a part that is not wanted. -/
def ignore : Mode → Reading → Decoded Unit
  | .direct, v => .ofFault v.skip
  | .buffered, _ => .ok ()

def asText (expected : String) : Reading → Decoded String
  | .text (some s) => .ok s
  | v => v.refuse expected

def asIdent (kind : IdentKind) (v : Reading) : Decoded (Ident kind) := do
  let s ← v.asText "a string"
  match Ident.ofText kind s with
  | .ok id => .ok id
  | .error cause => .fail (.emptyIdent cause)

def asOptional {α : Type} (decode : Reading → Decoded α) : Reading → Decoded (Option α)
  | .null => .ok none
  | v => (decode v).map some

def asList {α : Type} (decode : Reading → Decoded α) : Reading → Decoded (List α)
  | .array items close => do
      let found ← items.mapM decode
      .ofFault close.finish
      .ok found
  | v => v.refuse "a sequence"

end Reading

/-- The form of a record: its fields, and how their values are gathered in a draft. -/
structure Form (δ α : Type) where
  name : String
  fields : List String
  /-- So many of the fields, from the first on, have to be there. -/
  required : Nat
  blank : δ
  /-- Puts the value of a field into the draft. -/
  put : Mode → δ → String → Reading → Decoded δ
  finish : δ → Decoded α

/-- Decodes a field that may be given once. -/
def once {α : Type} (field : String) (given : Option α) (value : Decoded α) : Decoded (Option α) :=
  match given with
  | some _ => .fail (.duplicateField field)
  | none => value.map some

def given {α : Type} (field : String) : Option α → Decoded α
  | some a => .ok a
  | none => .fail (.missingField field)

namespace Form

variable {δ α : Type}

/-- Gathers the members of an object. Members with other keys are passed over. -/
def gatherMembers (form : Form δ α) (mode : Mode) :
    δ → List (Option String × Reading) → Decoded δ
  | draft, [] => .ok draft
  | _, (none, _) :: _ => .error (.fault .malformed)
  | draft, (some key, v) :: rest =>
      if key ∈ form.fields then do
        let draft ← form.put mode draft key v
        form.gatherMembers mode draft rest
      else do
        v.ignore mode
        form.gatherMembers mode draft rest

/-- Gathers the items of an array as the values of the fields still to come; `done` fields have been given. -/
def gatherItems (form : Form δ α) (mode : Mode) (close : Close) :
    (done : Nat) → δ → List String → List Reading → Decoded δ
  | done, draft, [], items =>
      match mode, items with
      | .direct, [] => do
          .ofFault close.full
          .ok draft
      | .direct, _ :: _ => .error (.fault .malformed)
      | .buffered, [] => .ok draft
      | .buffered, _ :: _ =>
          .fail (.wrongLength (done + items.length) s!"{done} elements in sequence")
  | done, draft, _ :: _, [] => do
      .ofFault close.finish
      if done < form.required then
        .fail (.wrongLength done s!"{form.name} with {form.fields.length} elements")
      else .ok draft
  | done, draft, field :: fields, v :: items => do
      let draft ← form.put mode draft field v
      form.gatherItems mode close (done + 1) draft fields items

def decode (form : Form δ α) (mode : Mode) : Reading → Decoded α
  | .object members close => do
      let draft ← form.gatherMembers mode form.blank members
      .ofFault close.finish
      form.finish draft
  | .array items close => do
      let draft ← form.gatherItems mode close 0 form.blank form.fields items
      form.finish draft
  | v => v.refuse form.name

end Form

/-- Decodes a whole text: one value, with nothing but white space around it. -/
def decodeText {α : Type} (decode : Reading → Decoded α) (text : List Char) : Decoded α := do
  let (v, rest) := Reading.ofChars text
  let found ← decode v
  match rest with
  | some rest => if rest.all isSpace then .ok found else .error (.fault .malformed)
  | none => .error (.fault .malformed)

end Roster.Json
