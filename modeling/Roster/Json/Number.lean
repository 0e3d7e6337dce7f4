import Roster.Text.Decimal
import Roster.Text.Double
/-!
# JSON numbers

A number is kept as it was written. Whole numbers that fit 64 bits, with or without sign, are integers; all
others are doubles, read from the leading digits that fit 64 bits and a power of ten. A number beyond the
largest double has no value.
-/

namespace Roster.Json

open Text

structure Number where
  negative : Bool
  whole : List Char
  fraction : List Char
  /-- The power of ten, if one is given: whether it is negative, and its digits. -/
  exponent : Option (Bool × List Char)
deriving DecidableEq, Repr

namespace Number

/-- Appends digits while they fit; counts the digits of the whole part that did not. -/
def takeWhole : (significand dropped : Nat) → List Char → Nat × Nat
  | significand, dropped, [] => (significand, dropped)
  | significand, dropped, c :: rest =>
      let next := significand * 10 + value [c]
      if dropped = 0 ∧ next < Bound.unsigned64 then takeWhole next 0 rest
      else takeWhole significand (dropped + 1) rest

/-- Appends digits of the fraction up to the first that does not fit; counts those that do. -/
def takeFraction : (significand taken : Nat) → List Char → Nat × Nat
  | significand, taken, [] => (significand, taken)
  | significand, taken, c :: rest =>
      let next := significand * 10 + value [c]
      if next < Bound.unsigned64 then takeFraction next (taken + 1) rest else (significand, taken)

/-- The greatest power of ten that a double takes in one step. -/
def powerStep : Int := 308

def tenTo? (n : Nat) : Option Double := Double.round? (Nat.pow 10 n) 1

/-- A double times a power of ten, rounded after each step of at most `powerStep`. -/
def scale? : (steps : Nat) → Double → Int → Option Double
  | 0, _, _ => none
  | steps + 1, d, power =>
      if d.mantissa = 0 then some d
      else if powerStep < power then none
      else if 0 ≤ power then (tenTo? power.toNat).bind d.times?
      else if -powerStep ≤ power then (tenTo? (-power).toNat).bind d.over?
      else ((tenTo? powerStep.toNat).bind d.over?).bind fun d => scale? steps d (power + powerStep)

/-- The size of the number as a double, if it is not too large for one. -/
def double? (n : Number) : Option Double :=
  let (significand, dropped) := takeWhole 0 0 n.whole
  let (significand, taken) := takeFraction significand 0 n.fraction
  let power : Int := match n.exponent with
    | some (true, digits) => -(value digits : Int)
    | some (false, digits) => value digits
    | none => 0
  (Double.round? significand 1).bind fun d => scale? 4 d (dropped - taken + power)

/-- The integer that a number without fraction and power of ten stands for; a minus zero is none. -/
def integer? (n : Number) : Option Int :=
  match n.fraction, n.exponent with
  | [], none =>
      let size := value n.whole
      if n.negative then if 0 < size ∧ size ≤ Bound.signed64 then some (-(size : Int)) else none
      else if size < Bound.unsigned64 then some size else none
  | _, _ => none

/-- How a message shows the number, if it has a value. -/
def show? (n : Number) : Option String :=
  match n.integer? with
  | some i => some s!"integer `{i}`"
  | none =>
      n.double?.map fun d =>
        let sign := if n.negative then "-" else ""
        s!"floating point `{sign}{d.toText}`"

end Number

end Roster.Json
