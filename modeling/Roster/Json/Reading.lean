import Roster.Json.Basic
import Roster.Json.Number
/-!
# Reading JSON

A text is read into a `Reading`: the value it spells, up to the first place where it stops being JSON. What is
wrong there is kept as a part of the value, so that whoever takes the value apart from left to right meets
the faults of the text and the faults of its content in the order in which they stand.

A part that is needed is read more strictly than one that is only passed over (`skip`): half a surrogate pair
in a text spoils only what needs the text, and a number that breaks off is blamed differently.
-/

namespace Roster.Json

/-- Why a text is not JSON: a wrong character, or an end that comes too early. -/
inductive Fault
  | malformed
  | ended
deriving DecidableEq, Repr

/-- The fault at the place where a text stops being JSON. It depends on what is wanted there: any value,
a value to pass over, or a name, which neither a word nor a number can be. -/
structure Flaw where
  read : Fault
  skip : Fault
  name : Fault
deriving DecidableEq, Repr

namespace Flaw

def malformed : Flaw := ⟨.malformed, .malformed, .malformed⟩
def ended : Flaw := ⟨.ended, .ended, .ended⟩

def cutWord : Flaw := ⟨.ended, .ended, .malformed⟩

def cutNumber : Flaw := ⟨.ended, .malformed, .malformed⟩

end Flaw

/-- As much of a value as a message about its type shows. -/
inductive Shape
  | null
  | bool (b : Bool)
  | number (shown : String)
  | text (s : String)
  | sequence
  | map
deriving DecidableEq, Repr

/-- How an array or object goes on after its last complete part. -/
inductive Close
  | closed
  | flawed (f : Flaw)
  /-- The text ends after the comma that follows a part. -/
  | afterComma
  /-- In place of a key stands something else, or a key that is at fault. -/
  | badKey (f : Flaw)

inductive Reading
  | null
  | bool (b : Bool)
  | number (n : Number)
  /-- A text; none if an escape in it names half a surrogate pair. -/
  | text (s : Option String)
  | array (items : List Reading) (close : Close)
  | object (members : List (Option String × Reading)) (close : Close)
  | flawed (f : Flaw)

def isSpace (c : Char) : Bool := c = ' ' || c = '\t' || c = '\n' || c = '\r'

def dropSpace (s : List Char) : List Char := s.dropWhile isSpace

/-! ### Words and numbers -/

/-- Reads the rest of `null`, `true` or `false`. -/
def readWord : List Char → List Char → Except Fault (List Char)
  | [], s => .ok s
  | _ :: _, [] => .error .ended
  | c :: word, d :: s => if c = d then readWord word s else .error .malformed

def readDigits (s : List Char) : Except Flaw (List Char × List Char) :=
  match s with
  | [] => .error .cutNumber
  | c :: _ =>
      if c.isDigit then .ok (s.takeWhile Char.isDigit, s.dropWhile Char.isDigit)
      else .error .malformed

/-- The whole part of a number: a zero alone, or digits of which the first is none. -/
def readWhole (s : List Char) : Except Flaw (List Char × List Char) := do
  let (digits, rest) ← readDigits s
  match digits with
  | '0' :: _ :: _ => .error .malformed
  | _ => .ok (digits, rest)

def readFraction : List Char → Except Flaw (List Char × List Char)
  | '.' :: s => readDigits s
  | s => .ok ([], s)

def readSign : List Char → Bool × List Char
  | '+' :: s => (false, s)
  | '-' :: s => (true, s)
  | s => (false, s)

def readExponent : List Char → Except Flaw (Option (Bool × List Char) × List Char)
  | c :: s =>
      if c = 'e' ∨ c = 'E' then do
        let (negative, s) := readSign s
        let (digits, rest) ← readDigits s
        .ok (some (negative, digits), rest)
      else .ok (none, c :: s)
  | [] => .ok (none, [])

def readMinus : List Char → Bool × List Char
  | '-' :: s => (true, s)
  | s => (false, s)

def readNumber (s : List Char) : Except Flaw (Number × List Char) := do
  let (negative, s) := readMinus s
  let (whole, s) ← readWhole s
  let (fraction, s) ← readFraction s
  let (exponent, s) ← readExponent s
  .ok (⟨negative, whole, fraction, exponent⟩, s)

/-! ### Texts -/

def hexValue? (c : Char) : Option Nat :=
  let n := c.toNat
  if 48 ≤ n ∧ n ≤ 57 then some (n - 48)
  else if 97 ≤ n ∧ n ≤ 102 then some (n - 87)
  else if 65 ≤ n ∧ n ≤ 70 then some (n - 55)
  else none

def hexUnit? (a b c d : Char) : Option Nat := do
  let a ← hexValue? a
  let b ← hexValue? b
  let c ← hexValue? c
  let d ← hexValue? d
  some (((a * 16 + b) * 16 + c) * 16 + d)

/-- What is wrong when four hexadecimal digits do not follow: the text ends if it has fewer than four bytes left. -/
def hexFault (s : List Char) : Fault :=
  if (String.ofList (s.take 4)).utf8ByteSize < 4 then .ended else .malformed

def shortEscape? : Char → Option Char
  | '"' => some '"'
  | '\\' => some '\\'
  | '/' => some '/'
  | 'b' => some '\x08'
  | 'f' => some '\x0c'
  | 'n' => some '\n'
  | 'r' => some '\r'
  | 't' => some '\t'
  | _ => none

def isLeadUnit (n : Nat) : Bool := 0xd800 ≤ n && n ≤ 0xdbff

def isTrailUnit (n : Nat) : Bool := 0xdc00 ≤ n && n ≤ 0xdfff

/-- The character that a surrogate pair stands for. -/
def ofPair (lead trail : Nat) : Char :=
  Char.ofNat ((lead - 0xd800) * 0x400 + (trail - 0xdc00) + 0x10000)

/-- The characters of a text after its opening quotation mark, and what follows the closing one. -/
def readText : List Char → Except Fault (List Char × List Char)
  | [] => .error .ended
  | '"' :: s => .ok ([], s)
  | '\\' :: 'u' :: a :: b :: c :: d :: s =>
      match hexUnit? a b c d with
      | none => .error (hexFault (a :: b :: c :: d :: s))
      | some unit =>
          if isTrailUnit unit then .error .malformed
          else if isLeadUnit unit then
            match s with
            | '\\' :: 'u' :: a :: b :: c :: d :: s =>
                match hexUnit? a b c d with
                | none => .error (hexFault (a :: b :: c :: d :: s))
                | some trail =>
                    if isTrailUnit trail then
                      (readText s).map fun (cs, rest) => (ofPair unit trail :: cs, rest)
                    else .error .malformed
            | '\\' :: 'u' :: s => .error (hexFault s)
            | ['\\'] => .error .ended
            | [] => .error .ended
            | _ => .error .malformed
          else (readText s).map fun (cs, rest) => (Char.ofNat unit :: cs, rest)
  | '\\' :: 'u' :: s => .error (hexFault s)
  | '\\' :: c :: s =>
      match shortEscape? c with
      | some e => (readText s).map fun (cs, rest) => (e :: cs, rest)
      | none => .error .malformed
  | ['\\'] => .error .ended
  | c :: s =>
      if c.toNat < 0x20 then .error .malformed
      else (readText s).map fun (cs, rest) => (c :: cs, rest)

/-- What follows a text that is passed over. -/
def skipText : List Char → Except Fault (List Char)
  | [] => .error .ended
  | '"' :: s => .ok s
  | '\\' :: 'u' :: a :: b :: c :: d :: s =>
      match hexUnit? a b c d with
      | none => .error (hexFault (a :: b :: c :: d :: s))
      | some _ => skipText s
  | '\\' :: 'u' :: s => .error (hexFault s)
  | '\\' :: c :: s =>
      match shortEscape? c with
      | some _ => skipText s
      | none => .error .malformed
  | ['\\'] => .error .ended
  | c :: s => if c.toNat < 0x20 then .error .malformed else skipText s

/-- A text after its opening quotation mark, as far as it can be read or at least passed over. -/
def textAndRest (s : List Char) : Except Flaw (Option String × List Char) :=
  match readText s, skipText s with
  | .ok (cs, rest), _ => .ok (some (String.ofList cs), rest)
  | .error _, .ok rest => .ok (none, rest)
  | .error read, .error skip => .error ⟨read, skip, read⟩

/-! ### Values -/

def wordAndRest (v : Reading) (word s : List Char) : Reading × Option (List Char) :=
  match readWord word s with
  | .ok rest => (v, some rest)
  | .error .ended => (.flawed .cutWord, none)
  | .error .malformed => (.flawed .malformed, none)

mutual

/-- The value at the head of a text, and what follows it unless the text is at fault before. -/
def readValue : (fuel : Nat) → List Char → Reading × Option (List Char)
  | 0, _ => (.flawed .malformed, none)
  | fuel + 1, s =>
      match dropSpace s with
      | [] => (.flawed .ended, none)
      | '[' :: s =>
          let (items, close, rest) := readItems fuel true s
          (.array items close, rest)
      | '{' :: s =>
          let (members, close, rest) := readMembers fuel true s
          (.object members close, rest)
      | '"' :: s =>
          match textAndRest s with
          | .ok (t, rest) => (.text t, some rest)
          | .error f => (.flawed f, none)
      | 'n' :: s => wordAndRest .null ['u', 'l', 'l'] s
      | 't' :: s => wordAndRest (.bool true) ['r', 'u', 'e'] s
      | 'f' :: s => wordAndRest (.bool false) ['a', 'l', 's', 'e'] s
      | c :: s =>
          if c = '-' || c.isDigit then
            match readNumber (c :: s) with
            | .ok (n, rest) => (.number n, some rest)
            | .error f => (.flawed f, none)
          else (.flawed .malformed, none)
termination_by structural fuel => fuel

/-- The items of an array after its opening bracket, or after an item. -/
def readItems : (fuel : Nat) → (first : Bool) → List Char →
    List Reading × Close × Option (List Char)
  | 0, _, _ => ([], .flawed .malformed, none)
  | fuel + 1, first, s =>
      let item (s : List Char) : List Reading × Close × Option (List Char) :=
        match readValue fuel s with
        | (v, none) => ([v], .closed, none)
        | (v, some s) =>
            let (items, close, rest) := readItems fuel false s
            (v :: items, close, rest)
      match dropSpace s with
      | [] => ([], .flawed .ended, none)
      | ']' :: s => ([], .closed, some s)
      | c :: s =>
          if first then item (c :: s)
          else if c = ',' then
            match dropSpace s with
            | [] => ([], .afterComma, none)
            | ']' :: _ => ([], .flawed .malformed, none)
            | s => item s
          else ([], .flawed .malformed, none)
termination_by structural fuel => fuel

/-- The members of an object after its opening brace, or after a member. -/
def readMembers : (fuel : Nat) → (first : Bool) → List Char →
    List (Option String × Reading) × Close × Option (List Char)
  | 0, _, _ => ([], .flawed .malformed, none)
  | fuel + 1, first, s =>
      let member (s : List Char) :
          List (Option String × Reading) × Close × Option (List Char) :=
        match textAndRest s with
        | .error f => ([], .badKey f, none)
        | .ok (key, s) =>
            match dropSpace s with
            | [] => ([(key, .flawed .ended)], .closed, none)
            | ':' :: s =>
                match readValue fuel s with
                | (v, none) => ([(key, v)], .closed, none)
                | (v, some s) =>
                    let (members, close, rest) := readMembers fuel false s
                    ((key, v) :: members, close, rest)
            | _ => ([(key, .flawed .malformed)], .closed, none)
      match dropSpace s with
      | [] => ([], .flawed .ended, none)
      | '}' :: s => ([], .closed, some s)
      | c :: s =>
          if first then
            if c = '"' then member s else ([], .badKey .malformed, none)
          else if c = ',' then
            match dropSpace s with
            | [] => ([], .afterComma, none)
            | '"' :: s => member s
            | _ => ([], .badKey .malformed, none)
          else ([], .flawed .malformed, none)
termination_by structural fuel => fuel

end

/-- The value that a text starts with, and what follows it. Each step of the reader takes a character or is
followed by one that does, which bounds the steps. -/
def Reading.ofChars (s : List Char) : Reading × Option (List Char) := readValue (2 * s.length + 2) s

/-! ### Taking a value apart -/

namespace Close

/-- The end of an array or object all of whose parts are wanted. -/
def finish : Close → Except Fault Unit
  | closed => .ok ()
  | flawed f => .error f.read
  | afterComma => .error .ended
  | badKey f => .error f.read

/-- The end of an array or object that is passed over. -/
def skip : Close → Except Fault Unit
  | closed => .ok ()
  | flawed f => .error f.skip
  | afterComma => .error .ended
  | badKey f => .error f.skip

/-- The end of an array or object that has as many parts as it may have: a comma is wrong. -/
def full : Close → Except Fault Unit
  | closed => .ok ()
  | flawed f => .error f.read
  | afterComma => .error .malformed
  | badKey _ => .error .malformed

end Close

namespace Reading

mutual

def skip : Reading → Except Fault Unit
  | .array items close => do
      skipItems items
      close.skip
  | .object members close => do
      skipMembers members
      close.skip
  | .flawed f => .error f.skip
  | _ => .ok ()
termination_by structural v => v

def skipItems : List Reading → Except Fault Unit
  | [] => .ok ()
  | v :: rest => do
      skip v
      skipItems rest
termination_by structural vs => vs

def skipMembers : List (Option String × Reading) → Except Fault Unit
  | [] => .ok ()
  | m :: rest => do
      skipMember m
      skipMembers rest
termination_by structural ms => ms

def skipMember : Option String × Reading → Except Fault Unit
  | (_, v) => skip v
termination_by structural m => m

end

mutual

/-- Reads a value in full; `depth` more levels of arrays and objects are allowed. -/
def readFully : (depth : Nat) → Reading → Except Fault Unit
  | depth, .array items close =>
      if depth = 0 then .error .malformed
      else do
        readItemsFully (depth - 1) items
        close.finish
  | depth, .object members close =>
      if depth = 0 then .error .malformed
      else do
        readMembersFully (depth - 1) members
        close.finish
  | _, .flawed f => .error f.read
  | _, .text none => .error .malformed
  | _, .number n => if n.show?.isSome then .ok () else .error .malformed
  | _, _ => .ok ()
termination_by structural _ v => v

def readItemsFully : (depth : Nat) → List Reading → Except Fault Unit
  | _, [] => .ok ()
  | depth, v :: rest => do
      readFully depth v
      readItemsFully depth rest
termination_by structural _ vs => vs

def readMembersFully : (depth : Nat) → List (Option String × Reading) → Except Fault Unit
  | _, [] => .ok ()
  | depth, m :: rest => do
      readMemberFully depth m
      readMembersFully depth rest
termination_by structural _ ms => ms

def readMemberFully : (depth : Nat) → Option String × Reading → Except Fault Unit
  | _, (none, _) => .error .malformed
  | depth, (some _, v) => readFully depth v
termination_by structural _ m => m

end

/-- The shape of a value that is not what was wanted. -/
def shape : Reading → Except Fault Shape
  | .null => .ok .null
  | .bool b => .ok (.bool b)
  | .number n =>
      match n.show? with
      | some shown => .ok (.number shown)
      | none => .error .malformed
  | .text (some s) => .ok (.text s)
  | .text none => .error .malformed
  | .array _ _ => .ok .sequence
  | .object _ _ => .ok .map
  | .flawed f => .error f.read

end Reading

end Roster.Json
