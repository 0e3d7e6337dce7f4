/-!
# Double-precision numbers

The finite non-negative numbers of the 64-bit binary floating-point format, as a mantissa times a power of
two, with exact arithmetic. `Double.round?` takes a fraction to the nearest of them, a tie to the even one;
`Double.shortest` finds the fewest decimal digits that round back, and of those the nearest.
-/

namespace Roster.Text

structure Double where
  mantissa : Nat
  exponent : Int
deriving DecidableEq, Repr

/-- A fraction times a power of two. -/
def shiftFraction (num den : Nat) (power : Int) : Nat × Nat :=
  if 0 ≤ power then (num * Nat.pow 2 power.toNat, den) else (num, den * Nat.pow 2 (-power).toNat)

/-- The integer nearest to a fraction; halfway between two, the even one. -/
def nearest (num den : Nat) : Nat :=
  let floor := num / den
  let rest := num % den
  if 2 * rest < den then floor
  else if den < 2 * rest then floor + 1
  else floor + floor % 2

namespace Double

/-- The least mantissa of a number above the least exponent. -/
def hiddenBit : Nat := 0x10000000000000

def leastExponent : Int := -1074
def greatestExponent : Int := 971

def zero : Double := ⟨0, leastExponent⟩

/-- The double nearest to a fraction, if it is not too large for one. -/
def round? (num den : Nat) : Option Double :=
  if num = 0 then some zero
  else
    let guess : Int := (Nat.log2 num : Int) - Nat.log2 den
    let (n, d) := shiftFraction num den (-guess)
    let lead := if n < d then guess - 1 else guess
    let exponent := max (lead - 52) leastExponent
    let (n, d) := shiftFraction num den (-exponent)
    let mantissa := nearest n d
    let found : Double := if mantissa < 2 * hiddenBit then ⟨mantissa, exponent⟩ else ⟨hiddenBit, exponent + 1⟩
    if found.exponent ≤ greatestExponent then some found else none

def fraction (d : Double) : Nat × Nat := shiftFraction d.mantissa 1 d.exponent

/-- The nearest double to a product. -/
def times? (a b : Double) : Option Double :=
  let (an, ad) := a.fraction
  let (bn, bd) := b.fraction
  round? (an * bn) (ad * bd)

/-- The nearest double to a quotient. -/
def over? (a b : Double) : Option Double :=
  let (an, ad) := a.fraction
  let (bn, bd) := b.fraction
  if bn = 0 then none else round? (an * bd) (ad * bn)

/-- The power of ten of the leading decimal digit of a fraction below one, looking `ahead` places on. -/
def leadBelowOne (den : Nat) : (ahead num : Nat) → Int
  | 0, _ => 0
  | ahead + 1, num => if den ≤ num * 10 then -1 else leadBelowOne den ahead (num * 10) - 1

/-- The power of ten of the leading decimal digit of a positive fraction. -/
def decimalLead (num den : Nat) : Int :=
  if den ≤ num then ((Nat.toDigits 10 (num / den)).length : Int) - 1
  else leadBelowOne den 400 num

/-- A grid point `n * 10 ^ power` with the given number of digits that rounds to the number, the nearer of two. -/
def onGrid? (d : Double) (lead : Int) (digits : Nat) : Option (Nat × Int) :=
  let power := lead - digits + 1
  -- quarters of the unit in the last place, in steps of the grid
  let (un, ud) := shiftFraction 1 1 (d.exponent - 2)
  let (gn, gd) := if 0 ≤ power then (Nat.pow 10 power.toNat, 1) else (1, Nat.pow 10 (-power).toNat)
  let scale (quarters : Nat) : Nat := quarters * un * gd
  let unit := gn * ud
  let below := if d.mantissa = hiddenBit ∧ leastExponent < d.exponent then 1 else 2
  let low := scale (4 * d.mantissa - below)
  let high := scale (4 * d.mantissa + 2)
  let exact := scale (4 * d.mantissa)
  let inside (n : Nat) : Bool :=
    if d.mantissa % 2 = 0 then low ≤ n * unit && n * unit ≤ high else low < n * unit && n * unit < high
  let floor := exact / unit
  let towardFloor := 2 * (exact % unit) < unit || (2 * (exact % unit) == unit && floor % 2 == 0)
  match inside floor, inside (floor + 1) with
  | true, true => some (if towardFloor then floor else floor + 1, power)
  | true, false => some (floor, power)
  | false, true => some (floor + 1, power)
  | false, false => none

/-- The digits of the shortest decimal that rounds to a positive number, and the power of ten of the last. -/
def shortest (d : Double) : Nat × Int :=
  let (num, den) := d.fraction
  let lead := decimalLead num den
  (((List.range 17).findSome? fun n => d.onGrid? lead (n + 1))).getD (0, 0)

/-- The shortest decimal: positional from five places behind the point to sixteen in front of it,
and else with an exponent and its sign. -/
def toText (d : Double) : String :=
  if d.mantissa = 0 then "0.0"
  else
    let (n, power) := d.shortest
    let all := Nat.toDigits 10 n
    let digits := (all.reverse.dropWhile (· == '0')).reverse
    let power := power + (all.length - digits.length : Nat)
    let point := power + digits.length
    let chars : List Char :=
      if 0 ≤ power ∧ point ≤ 16 then digits ++ List.replicate power.toNat '0' ++ ['.', '0']
      else if 0 < point ∧ point ≤ 16 then digits.take point.toNat ++ '.' :: digits.drop point.toNat
      else if -5 < point ∧ point ≤ 0 then
        '0' :: '.' :: List.replicate (-point).toNat '0' ++ digits
      else
        let mark := 'e' :: (if 1 < point then '+' :: Nat.toDigits 10 (point - 1).toNat
          else '-' :: Nat.toDigits 10 (1 - point).toNat)
        match digits with
        | [] => []
        | [digit] => digit :: mark
        | digit :: rest => digit :: '.' :: rest ++ mark
    String.ofList chars

end Double

end Roster.Text
