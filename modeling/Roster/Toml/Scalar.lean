import Roster.Calendar.Date
import Roster.Clock.Time
import Roster.Text.Decimal
import Roster.Text.Double
import Roster.Toml.Table
/-!
# Scalars of a configuration file

The texts, numbers, dates and times of TOML. Each reader takes the characters still to be read and answers
with the value and what follows it, or fails.
-/

namespace Roster.Toml

open Text

/-- The text after a word that it has to start with. -/
def afterWord : List Char → List Char → Option (List Char)
  | [], s => some s
  | c :: word, d :: s => if c = d then afterWord word s else none
  | _ :: _, [] => none

def isIndent (c : Char) : Bool := c = ' ' || c = '\t'

def dropIndent (s : List Char) : List Char := s.dropWhile isIndent

/-- The text after a line break. -/
def afterNewline : List Char → Option (List Char)
  | '\n' :: s => some s
  | '\r' :: '\n' :: s => some s
  | _ => none

/-- Characters that may stand in texts and comments: all but controls other than the tab. -/
def isPlain (c : Char) : Bool := c = '\t' || (0x20 ≤ c.toNat && c.toNat ≠ 0x7f)

/-! ### Texts -/

def digitOf? (base : Nat) (c : Char) : Option Nat :=
  let n := c.toNat
  let digit :=
    if 48 ≤ n ∧ n ≤ 57 then n - 48
    else if 97 ≤ n ∧ n ≤ 102 then n - 87
    else if 65 ≤ n ∧ n ≤ 70 then n - 55
    else base
  if digit < base then some digit else none

/-- The character whose code point is given by hexadecimal digits. -/
def charOfHex? (digits : List Char) : Option Char := do
  let n ← digits.foldlM (fun n c => (digitOf? 16 c).map fun d => n * 16 + d) 0
  if n.isValidChar then some (Char.ofNat n) else none

def simpleEscape? : Char → Option Char
  | 'b' => some '\x08'
  | 't' => some '\t'
  | 'n' => some '\n'
  | 'f' => some '\x0c'
  | 'r' => some '\r'
  | '"' => some '"'
  | '\\' => some '\\'
  | _ => none

/-- The character of an escape, after its backslash. -/
def readEscape : List Char → Option (Char × List Char)
  | 'u' :: a :: b :: c :: d :: s => (charOfHex? [a, b, c, d]).map fun x => (x, s)
  | 'U' :: a :: b :: c :: d :: e :: f :: g :: h :: s =>
      (charOfHex? [a, b, c, d, e, f, g, h]).map fun x => (x, s)
  | c :: s => (simpleEscape? c).map fun x => (x, s)
  | [] => none

/-- A text on one line, after its opening quotation mark. -/
def readBasic : (fuel : Nat) → List Char → Option (List Char × List Char)
  | 0, _ => none
  | _ + 1, '"' :: s => some ([], s)
  | fuel + 1, '\\' :: s => do
      let (c, s) ← readEscape s
      let (cs, rest) ← readBasic fuel s
      some (c :: cs, rest)
  | fuel + 1, c :: s =>
      if isPlain c then (readBasic fuel s).map fun (cs, rest) => (c :: cs, rest) else none
  | _ + 1, [] => none

/-- A text without escapes on one line, after its opening apostrophe. -/
def readLiteral : List Char → Option (List Char × List Char)
  | [] => none
  | c :: s =>
      if c = '\x27' then some ([], s)
      else if isPlain c then (readLiteral s).map fun (cs, rest) => (c :: cs, rest)
      else none

/-- The end of a text over several lines: three marks, in front of which up to two more belong to the text. -/
def closing? (mark : Char) (s : List Char) : Option (List Char × List Char) :=
  let marks := s.takeWhile (· == mark)
  if 3 ≤ marks.length then
    let own := min 2 (marks.length - 3)
    some (List.replicate own mark, s.drop (own + 3))
  else none

/-- Drops blanks and line breaks. -/
def dropLayout : List Char → List Char
  | '\r' :: '\n' :: s => dropLayout s
  | c :: s => if isIndent c || c = '\n' then dropLayout s else c :: s
  | [] => []

/-- The text after a backslash at the end of a line: blanks and line breaks are skipped. -/
def afterContinuation (s : List Char) : Option (List Char) :=
  (afterNewline (dropIndent s)).map dropLayout

/-- A text over several lines, after its opening marks and the line break behind them. -/
def readBasicLines : (fuel : Nat) → List Char → Option (List Char × List Char)
  | 0, _ => none
  | fuel + 1, s =>
      match closing? '"' s with
      | some found => some found
      | none =>
          match s with
          | '\\' :: s =>
              match afterContinuation s with
              | some s => readBasicLines fuel s
              | none => do
                  let (c, s) ← readEscape s
                  let (cs, rest) ← readBasicLines fuel s
                  some (c :: cs, rest)
          | '\r' :: '\n' :: s => (readBasicLines fuel s).map fun (cs, rest) => ('\n' :: cs, rest)
          | c :: s =>
              if isPlain c || c = '\n' then
                (readBasicLines fuel s).map fun (cs, rest) => (c :: cs, rest)
              else none
          | [] => none

/-- A text without escapes over several lines, after its opening marks and the line break behind them. -/
def readLiteralLines : List Char → Option (List Char × List Char)
  | [] => none
  | c :: s =>
      match closing? '\x27' (c :: s) with
      | some found => some found
      | none =>
          if isPlain c || c = '\n' || (c = '\r' && s.head? = some '\n') then
            (readLiteralLines s).map fun (cs, rest) => (if c = '\r' then cs else c :: cs, rest)
          else none

def skipFirstNewline (s : List Char) : List Char := (afterNewline s).getD s

/-- A text of any of the four sorts. -/
def readText (fuel : Nat) (s : List Char) : Option (List Char × List Char) :=
  match s with
  | '"' :: '"' :: '"' :: s => readBasicLines fuel (skipFirstNewline s)
  | '"' :: s => readBasic fuel s
  | '\x27' :: '\x27' :: '\x27' :: s => readLiteralLines (skipFirstNewline s)
  | '\x27' :: s => readLiteral s
  | _ => none

/-! ### Numbers -/

/-- Digits of a base in which single underscores may stand between two of them. -/
def readDigits (base : Nat) : List Char → Option (List Nat × List Char)
  | [] => none
  | c :: s =>
      match digitOf? base c with
      | none => none
      | some d =>
          match s with
          | '_' :: s => (readDigits base s).map fun (ds, rest) => (d :: ds, rest)
          | s =>
              match readDigits base s with
              | some (ds, rest) => some (d :: ds, rest)
              | none => some ([d], s)

def valueOf (base : Nat) (digits : List Nat) : Nat := digits.foldl (fun n d => n * base + d) 0

def integer? (n : Int) : Option Node :=
  if Bound.Fits Bound.signed64 n then some (.integer n) else none

/-- An integer in another base, after its mark. -/
def readBased (base : Nat) (s : List Char) : Option (Node × List Char) := do
  let (digits, rest) ← readDigits base s
  let n ← integer? (valueOf base digits)
  some (n, rest)

def dropSign : List Char → Bool × List Char
  | '-' :: s => (true, s)
  | '+' :: s => (false, s)
  | s => (false, s)

/-- The digits of the fraction of a number; none if it has no fraction. -/
def readFraction : List Char → Option (List Nat × List Char)
  | '.' :: s => readDigits 10 s
  | s => some ([], s)

def readPower : List Char → Option (Option Int × List Char)
  | c :: s =>
      if c = 'e' ∨ c = 'E' then do
        let (negative, s) := dropSign s
        let (digits, rest) ← readDigits 10 s
        let size : Int := valueOf 10 digits
        some (some (if negative then -size else size), rest)
      else some (none, c :: s)
  | [] => some (none, [])

/-- The most digits in front of the point that a double can have. -/
def greatestLead : Int := 309

/-- A number of digits around a point, times a power of ten, is too large for a double. -/
def exceedsDouble (whole fraction : List Nat) (power : Int) : Bool :=
  let digits := (whole ++ fraction).dropWhile (· == 0)
  let last : Int := power - fraction.length
  let lead := last + digits.length
  if digits.isEmpty || lead < greatestLead then false
  else if greatestLead < lead then true
  else (Double.round? (valueOf 10 digits * Nat.pow 10 last.toNat) (Nat.pow 10 (-last).toNat)).isNone

/-- A decimal number: an integer, unless it has a fraction or a power of ten. A positive one may not be too
large for a double. -/
def readDecimal (s : List Char) : Option (Node × List Char) := do
  let (negative, s) := dropSign s
  match afterWord ['i', 'n', 'f'] s, afterWord ['n', 'a', 'n'] s with
  | some rest, _ | none, some rest => some (.scalar, rest)
  | none, none =>
      let (digits, s) ← readDigits 10 s
      if digits.head? = some 0 ∧ 1 < digits.length then none
      else
        let (fraction, s) ← readFraction s
        let (power, s) ← readPower s
        if !fraction.isEmpty || power.isSome then
          if !negative && exceedsDouble digits fraction (power.getD 0) then none else some (.scalar, s)
        else
          let size : Int := valueOf 10 digits
          let n ← integer? (if negative then -size else size)
          some (n, s)

def readNumber : List Char → Option (Node × List Char)
  | '0' :: 'x' :: s => readBased 16 s
  | '0' :: 'o' :: s => readBased 8 s
  | '0' :: 'b' :: s => readBased 2 s
  | s => readDecimal s

/-! ### Dates and times -/

/-- A number of exactly so many digits. -/
def readColumns (width : Nat) (s : List Char) : Option (Nat × List Char) :=
  let (digits, rest) := takeDigits width s
  if digits.length = width then some (value digits, rest) else none

def readDate (s : List Char) : Option (Date × List Char) := do
  let (year, s) ← readColumns 4 s
  let s ← afterWord ['-'] s
  let (month, s) ← readColumns 2 s
  let s ← afterWord ['-'] s
  let (day, s) ← readColumns 2 s
  let d ← Date.ofCivil? year month day
  some (d, s)

def skipSecondFraction : List Char → Option (List Char)
  | '.' :: s =>
      let rest := s.dropWhile Char.isDigit
      if rest.length < s.length then some rest else none
  | s => some s

def readTime (s : List Char) : Option (TimeOfDay × List Char) := do
  let (hour, s) ← readColumns 2 s
  let s ← afterWord [':'] s
  let (minute, s) ← readColumns 2 s
  let s ← afterWord [':'] s
  let (second, s) ← readColumns 2 s
  let s ← skipSecondFraction s
  let t ← TimeOfDay.ofParts? hour minute second 0
  some (t, s)

/-- The difference from universal time behind a date and time, if one is given. -/
def skipOffset : List Char → Option (List Char)
  | [] => some []
  | c :: s =>
      if c = 'Z' ∨ c = 'z' then some s
      else if c = '+' ∨ c = '-' then do
        let (hour, s) ← readColumns 2 s
        let s ← afterWord [':'] s
        let (minute, s) ← readColumns 2 s
        if hour < 24 ∧ minute < 60 then some s else none
      else some (c :: s)

/-- What follows the letter or blank between a date and a time. -/
def afterDateMark : List Char → Option (List Char)
  | c :: s =>
      if c = 'T' ∨ c = 't' then some s
      else if c = ' ' ∧ (s.head?.map Char.isDigit).getD false then some s
      else none
  | [] => none

/-- A date, a time, or both. -/
def readMoment (s : List Char) : Option (Node × List Char) :=
  match readDate s with
  | some (_, s) =>
      match afterDateMark s with
      | none => some (.scalar, s)
      | some s => do
          let (_, s) ← readTime s
          let s ← skipOffset s
          some (.scalar, s)
  | none => (readTime s).map fun (_, rest) => (.scalar, rest)

/-- The text starts like a date or a time. -/
def looksLikeMoment (s : List Char) : Bool :=
  let digits := s.takeWhile Char.isDigit
  match digits.length, s.drop digits.length with
  | 4, '-' :: _ => true
  | 2, ':' :: _ => true
  | _, _ => false

def readScalar (fuel : Nat) (s : List Char) : Option (Node × List Char) :=
  match s with
  | [] => none
  | c :: _ =>
      if c = '"' ∨ c = '\x27' then
        (readText fuel s).map fun (cs, rest) => (.text (String.ofList cs), rest)
      else
        match afterWord ['t', 'r', 'u', 'e'] s, afterWord ['f', 'a', 'l', 's', 'e'] s with
        | some rest, _ | none, some rest => some (.scalar, rest)
        | none, none => if looksLikeMoment s then readMoment s else readNumber s

end Roster.Toml
