import Roster.Clock.Time
import Roster.Text.Scan
/-!
# Times of day as text

`TimeOfDay.toText` writes `HH:MM:SS`, followed by the fraction in milli-, micro- or nanoseconds, whichever
is the first to be exact; a leap second shows as `:60`. `TimeOfDay.ofText` reads this form with one or two
digits in each part and any number of digits in the fraction, of which the first nine count. With free
spacing the seconds may be left out, and seconds that cannot be read count as left out, so that their text
is what trails.

`TimeOfDay.display` is the short form of the reports.
-/

namespace Roster.TimeOfDay

open Text

/-- The second within its minute; 60 in a leap second. -/
def secondOfMinute (t : TimeOfDay) : Nat := t.second % 60 + t.fraction / 1000000000

/-- The hour, minute and second, joined by colons. -/
def wholeChars (t : TimeOfDay) : List Char :=
  columns 2 (t.second / 3600) ++ ':' :: columns 2 (t.second / 60 % 60) ++
    ':' :: columns 2 t.secondOfMinute

def fractionChars (nano : Nat) : List Char :=
  if nano = 0 then []
  else if nano % 1000000 = 0 then '.' :: columns 3 (nano / 1000000)
  else if nano % 1000 = 0 then '.' :: columns 6 (nano / 1000)
  else '.' :: columns 9 nano

def toChars (t : TimeOfDay) : List Char := t.wholeChars ++ fractionChars (t.fraction % 1000000000)

def toText (t : TimeOfDay) : String := String.ofList t.toChars

instance : ToString TimeOfDay := ⟨toText⟩

/-- The short form: the end of the day is `24:00`, a whole minute has no seconds, and fractions are
left out. -/
def display (t : TimeOfDay) : String :=
  if t = dayEnd then "24:00"
  else if t.second % 60 = 0 ∧ t.fraction = 0 then
    String.ofList (columns 2 (t.second / 3600) ++ ':' :: columns 2 (t.second / 60 % 60))
  else String.ofList t.wholeChars

/-- A fraction of a second in nanoseconds, from its point on; none is zero. -/
def scanFraction : List Char → Except ScanError (Nat × List Char)
  | '.' :: s => do
      let (_, rest) ← scanNumber 9 s
      let digits := (takeDigits 9 s).1
      .ok (value digits * Nat.pow 10 (9 - digits.length), rest.dropWhile Char.isDigit)
  | s => .ok (0, s)

def scanHourMinute (spacing : Spacing) (s : List Char) :
    Except ScanError (Nat × Nat × List Char) := do
  let (hour, s) ← scanPart 0 23 s
  let s ← scanChar ':' (spacing.gap s)
  let (minute, s) ← scanPart 0 59 s
  .ok (hour, minute, s)

/-- The seconds and their fraction, from the colon on. -/
def scanSeconds (spacing : Spacing) (s : List Char) : Except ScanError (Nat × Nat × List Char) := do
  let s ← scanChar ':' (spacing.gap s)
  let (second, s) ← scanPart 0 60 s
  let (nano, s) ← scanFraction s
  .ok (second, nano, spacing.gap s)

/-- The seconds, which free spacing allows to be missing. -/
def scanOptionalSeconds : Spacing → List Char → Except ScanError (Nat × Nat × List Char)
  | .tight, s => scanSeconds .tight s
  | .free, s =>
      match scanSeconds .free s with
      | .ok found => .ok found
      | .error _ => .ok (0, 0, s)

def ofChars (spacing : Spacing) (s : List Char) : Except ScanError TimeOfDay := do
  let (hour, minute, s) ← scanHourMinute spacing s
  let (second, nano, s) ← scanOptionalSeconds spacing s
  scanEnd (spacing.gap s)
  match ofParts? hour minute second nano with
  | some t => .ok t
  | none => .error .outOfRange

def ofText (spacing : Spacing) (s : String) : Except ScanError TimeOfDay := ofChars spacing s.toList

end Roster.TimeOfDay
