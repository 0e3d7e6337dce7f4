import Roster.Toml.Scalar
/-!
# Configuration files

A TOML document as the entries of its root table. A document that is at fault anywhere has none.
-/

namespace Roster.Toml

/-! ### Keys -/

def isBareKey (c : Char) : Bool := c.isAlphanum || c = '_' || c = '-'

/-- One part of a key: bare, or a text on one line. -/
def readKeyPart (s : List Char) : Option (String × List Char) :=
  match s with
  | '"' :: rest => (readBasic (rest.length + 1) rest).map fun (cs, rest) => (String.ofList cs, rest)
  | '\x27' :: rest => (readLiteral rest).map fun (cs, rest) => (String.ofList cs, rest)
  | _ =>
      let bare := s.takeWhile isBareKey
      if bare.isEmpty then none else some (String.ofList bare, s.drop bare.length)

/-- So many levels of arrays and tables may stand within one another, and so many parts has a key at most. -/
def greatestDepth : Nat := 79

/-- A key of parts joined by points, with blanks around all of them; `room` more parts are allowed. -/
def readParts : (room : Nat) → List Char → Option (List String × List Char)
  | 0, _ => none
  | room + 1, s => do
      let (part, s) ← readKeyPart (dropIndent s)
      match dropIndent s with
      | '.' :: s => (readParts room s).map fun (parts, rest) => (part :: parts, rest)
      | s => some ([part], s)

def readKey (s : List Char) : Option (List String × List Char) := readParts greatestDepth s

/-! ### Values -/

/-- The text after a comment, if one starts here; controls may not stand in it. -/
def afterComment : List Char → Option (List Char)
  | '#' :: s =>
      let rest := s.dropWhile isPlain
      if rest.isEmpty || (afterNewline rest).isSome then some rest else none
  | s => some s

/-- Skips blanks, comments and line breaks. A control within a comment is at fault. -/
def skipGaps : (inComment : Bool) → List Char → Option (List Char)
  | _, [] => some []
  | _, '\r' :: '\n' :: s => skipGaps false s
  | false, c :: s =>
      if isIndent c || c = '\n' then skipGaps false s
      else if c = '#' then skipGaps true s
      else some (c :: s)
  | true, c :: s =>
      if c = '\n' then skipGaps false s
      else if isPlain c then skipGaps true s
      else none

mutual

/-- A value; `room` more levels of arrays and tables are allowed. -/
def readValue : (fuel room : Nat) → List Char → Option (Node × List Char)
  | 0, _, _ => none
  | _ + 1, 0, '[' :: _ => none
  | _ + 1, 0, '{' :: _ => none
  | fuel + 1, room + 1, '[' :: s => (readItems fuel room s).map fun rest => (.array, rest)
  | fuel + 1, room + 1, '{' :: s =>
      match dropIndent s with
      | '}' :: s => some (.table .inline [], s)
      | s => (readInline fuel room [] s).map fun (entries, rest) => (.table .inline entries, rest)
  | fuel + 1, _, s => readScalar fuel s
termination_by structural fuel => fuel

/-- The text after an array whose items, with commas and line breaks in between, start here. -/
def readItems : (fuel room : Nat) → List Char → Option (List Char)
  | 0, _, _ => none
  | fuel + 1, room, s => do
      match ← skipGaps false s with
      | ']' :: s => some s
      | s =>
          let (_, s) ← readValue fuel room s
          match ← skipGaps false s with
          | ',' :: s => readItems fuel room s
          | ']' :: s => some s
          | _ => none
termination_by structural fuel => fuel

/-- The entries of a table written as a value, from a key on. -/
def readInline : (fuel room : Nat) → Entries → List Char → Option (Entries × List Char)
  | 0, _, _, _ => none
  | fuel + 1, room, entries, s => do
      let (key, s) ← readKey s
      let s ← afterWord ['='] s
      let (v, s) ← readValue fuel room (dropIndent s)
      let entries ← assign v key entries
      match dropIndent s with
      | ',' :: s => readInline fuel room entries s
      | '}' :: s => some (entries, s)
      | _ => none
termination_by structural fuel => fuel

end

/-! ### Lines -/

/-- The rest of a line behind what stands on it: blanks, perhaps a comment, and its end. -/
def afterLine (s : List Char) : Option (List Char) := do
  match ← afterComment (dropIndent s) with
  | [] => some []
  | s => afterNewline s

/-- What a document has built up: its root table, and the path of the table that is being filled. -/
structure State where
  root : Entries
  path : List String

namespace State

/-- Goes to the table of a header. -/
def enter (st : State) (opening : String → Entries → Option Entries) (path : List String) : Option State := do
  let key ← path.getLast?
  let root ← update (opening key) path.dropLast st.root
  some ⟨root, path⟩

def define (st : State) (key : List String) (v : Node) : Option State := do
  let root ← update (assign v key) st.path st.root
  some { st with root }

/-- A line that is not blank. -/
def readLine (fuel : Nat) (st : State) (s : List Char) : Option (State × List Char) :=
  match s with
  | '[' :: '[' :: s => do
      let (path, s) ← readKey s
      let s ← afterWord [']', ']'] s
      let st ← st.enter openItem path
      some (st, s)
  | '[' :: s => do
      let (path, s) ← readKey s
      let s ← afterWord [']'] s
      let st ← st.enter openTable path
      some (st, s)
  | s => do
      let (key, s) ← readKey s
      let s ← afterWord ['='] s
      let (v, s) ← readValue fuel greatestDepth (dropIndent s)
      let st ← st.define key v
      some (st, s)

/-- The lines of a document, at most `lines` that are not blank, with `fuel` for the value of each. -/
def readLines (fuel : Nat) : (lines : Nat) → State → List Char → Option State
  | 0, _, _ => none
  | lines + 1, st, s => do
      match ← skipGaps false s with
      | [] => some st
      | s =>
          let (st, s) ← st.readLine fuel s
          let s ← afterLine s
          readLines fuel lines st s

end State

/-- The text without the mark of its encoding. -/
def dropEncodingMark : List Char → List Char
  | '\ufeff' :: s => s
  | s => s

/-- The entries of a document. Each step in a value takes a character or is followed by one that does. -/
def parse (text : String) : Option Entries :=
  let s := dropEncodingMark text.toList
  (State.readLines (2 * s.length + 2) (s.length + 1) ⟨[], []⟩ s).map State.root

end Roster.Toml
