/-!
# Decimal numbers

Numbers are written in two ways: with as many digits as they need (`Nat.toDigits 10`), and in columns of
a fixed width, as the parts of a date or a time of day are. `value_columns` says that a number which fits
its column can be read back.

Numbers in texts have to fit words of 32 or 64 bits, with or without a sign. A bound is the first number that does
not fit.
-/

namespace Roster.Bound

def signed32 : Nat := 0x80000000

def unsigned32 : Nat := 0x100000000

def signed64 : Nat := 0x8000000000000000

def unsigned64 : Nat := 0x10000000000000000

/-- An integer fits a word with a sign, which has room for one more number below zero. -/
def Fits (bound : Nat) (n : Int) : Prop := -(bound : Int) ≤ n ∧ n < bound

instance (bound : Nat) (n : Int) : Decidable (Fits bound n) := by
  unfold Fits; infer_instance

end Roster.Bound

namespace Roster.Text

/-- The last `width` decimal digits of a number, the most significant first. -/
def columns : Nat → Nat → List Char
  | 0, _ => []
  | width + 1, n => columns width (n / 10) ++ [Nat.digitChar (n % 10)]

/-- The number that a run of decimal digits denotes. -/
def value (digits : List Char) : Nat := Nat.ofDigitChars 10 digits 0

/-- All digits of a number, but at least `width`, filled up with zeros. -/
def padded (width n : Nat) : List Char :=
  let digits := Nat.toDigits 10 n
  List.replicate (width - digits.length) '0' ++ digits

/-- Splits off the digits at the head of a text, at most `limit` of them. -/
def takeDigits : Nat → List Char → List Char × List Char
  | 0, s => ([], s)
  | _ + 1, [] => ([], [])
  | limit + 1, c :: s =>
      if c.isDigit then
        let (digits, rest) := takeDigits limit s
        (c :: digits, rest)
      else ([], c :: s)

theorem length_columns (width n : Nat) : (columns width n).length = width := by
  induction width generalizing n with
  | zero => rfl
  | succ width ih => simp [columns, ih]

theorem isDigit_digitChar {d : Nat} (hd : d < 10) : (Nat.digitChar d).isDigit = true := by
  match d, hd with
  | 0, _ | 1, _ | 2, _ | 3, _ | 4, _ | 5, _ | 6, _ | 7, _ | 8, _ | 9, _ => rfl

theorem isDigit_of_mem_columns {width n : Nat} {c : Char} (hc : c ∈ columns width n) :
    c.isDigit = true := by
  induction width generalizing n with
  | zero => simp [columns] at hc
  | succ width ih =>
      simp only [columns, List.mem_append, List.mem_singleton] at hc
      rcases hc with hc | rfl
      · exact ih hc
      · exact isDigit_digitChar (Nat.mod_lt _ (by decide))

/-- A number that fits its column is read back from it. -/
theorem value_columns {width n : Nat} (hn : n < Nat.pow 10 width) : value (columns width n) = n := by
  suffices h : ∀ acc, Nat.ofDigitChars 10 (columns width n) acc = acc * Nat.pow 10 width + n by
    simpa [value] using h 0
  induction width generalizing n with
  | zero => intro acc; simp at hn; simp [columns, hn]
  | succ width ih =>
      intro acc
      have hpow : Nat.pow 10 (width + 1) = Nat.pow 10 width * 10 := rfl
      have hdiv : n / 10 < Nat.pow 10 width := by omega
      have hmod : n % 10 < 10 := Nat.mod_lt _ (by decide)
      rw [columns, Nat.ofDigitChars_append, ih hdiv]
      have hdigit : ∀ d, d < 10 → (Nat.digitChar d).toNat - '0'.toNat = d := by decide
      simp only [Nat.ofDigitChars_cons, Nat.ofDigitChars_nil, hdigit _ hmod]
      rw [hpow, ← Nat.mul_assoc]
      generalize acc * Nat.pow 10 width = a
      omega

/-- What `takeDigits` splits off are the digits in front, and nothing is lost. -/
theorem takeDigits_append (limit : Nat) (s : List Char) :
    (takeDigits limit s).1 ++ (takeDigits limit s).2 = s := by
  fun_induction takeDigits limit s <;> simp_all

end Roster.Text
