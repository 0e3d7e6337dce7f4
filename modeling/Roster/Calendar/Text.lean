import Roster.Calendar.Date
import Roster.Text.Scan
/-!
# Dates as text

`Date.toText` writes `YYYY-MM-DD`; a year outside 0 to 9999 carries its sign and has at least four digits.
`Date.ofText` reads this form, with up to four digits of a year without sign, any number of digits after
a sign, one or two digits for month and day, and white space as the `Spacing` admits it.
-/

namespace Roster.Date

open Text

/-- The year as it stands in a date. -/
def yearText (year : Int) : List Char :=
  if 0 ≤ year ∧ year ≤ 9999 then columns 4 year.toNat
  else (if year < 0 then '-' else '+') :: padded 4 year.natAbs

def toChars (d : Date) : List Char :=
  yearText d.year ++ '-' :: columns 2 d.month ++ '-' :: columns 2 d.day

def toText (d : Date) : String := String.ofList d.toChars

instance : ToString Date := ⟨toText⟩

/-- A year that is read has to fit 32 bits, before its date is looked up. -/
def checkYear (year : Int) : Except ScanError Int :=
  if Bound.Fits Bound.signed32 year then .ok year else .error .outOfRange

def scanYear (s : List Char) : Except ScanError (Int × List Char) :=
  match dropBlanks s with
  | '-' :: s => do
      let (n, rest) ← scanNumber s.length s
      .ok (← checkYear (-(n : Int)), rest)
  | '+' :: s => do
      let (n, rest) ← scanNumber s.length s
      .ok (← checkYear n, rest)
  | s => do
      let (n, rest) ← scanNumber 4 s
      .ok (← checkYear n, rest)

def ofChars (spacing : Spacing) (s : List Char) : Except ScanError Date := do
  let (year, s) ← scanYear s
  let s ← scanChar '-' (spacing.gap s)
  let (month, s) ← scanPart 1 12 s
  let s ← scanChar '-' (spacing.gap s)
  let (day, s) ← scanPart 1 31 s
  scanEnd (spacing.gap s)
  match ofCivil? year month day with
  | some d => .ok d
  | none => .error .outOfRange

def ofText (spacing : Spacing) (s : String) : Except ScanError Date := ofChars spacing s.toList

end Roster.Date
