import Roster.Text.Scan
/-!
# Numbers written in digits are scanned back

A run of digits that ends before the next character, or fills the width of the scanner, is taken as a whole
(`scanNumber_append`). Columns of digits are such runs, and so are the years that are filled up with zeros. The order of
numbers in columns is the order of their texts, whatever follows them (`columns_append_lt_iff`).
-/

namespace Roster.Text

/-- A reading step that succeeds is followed by the rest. The rewriting leaves the steps themselves closed. -/
theorem bind_of_eq_ok {ε α β : Type} {x : Except ε α} {a : α} (hx : x = .ok a) (f : α → Except ε β) :
    (x >>= f) = f a := by
  rw [hx]
  rfl

/-- A reading that succeeds has succeeded step by step. -/
theorem bind_eq_ok_iff {ε α β : Type} {x : Except ε α} {f : α → Except ε β} {b : β} :
    x >>= f = .ok b ↔ ∃ a, x = .ok a ∧ f a = .ok b := by
  cases x with
  | error e => simp [bind, Except.bind]
  | ok a => simp [bind, Except.bind]

/-- A reading that fails has failed at its first step or behind it. -/
theorem bind_eq_error_iff {ε α β : Type} {x : Except ε α} {f : α → Except ε β} {e : ε} :
    x >>= f = .error e ↔ x = .error e ∨ ∃ a, x = .ok a ∧ f a = .error e := by
  cases x with
  | error e' => simp [bind, Except.bind]
  | ok a => simp [bind, Except.bind]

theorem mapError_eq_ok_iff {ε ε' α : Type} {x : Except ε α} {f : ε → ε'} {a : α} :
    x.mapError f = .ok a ↔ x = .ok a := by
  cases x with
  | error cause => exact ⟨nofun, nofun⟩
  | ok b => exact ⟨fun h => congrArg Except.ok (Except.ok.inj h), fun h => congrArg Except.ok (Except.ok.inj h)⟩

theorem mapError_eq_error_iff {ε ε' α : Type} {x : Except ε α} {f : ε → ε'} {e : ε'} :
    x.mapError f = .error e ↔ ∃ cause, x = .error cause ∧ f cause = e := by
  cases x with
  | error cause =>
      constructor
      · intro h
        exact ⟨cause, rfl, Except.error.inj h⟩
      · rintro ⟨_, ⟨⟩, rfl⟩
        rfl
  | ok b => exact ⟨nofun, nofun⟩

/-- Values that are read back one by one are read back as a list. -/
theorem mapM_map_of_eq_ok {α β ε : Type} {write : α → β} {read : β → Except ε α} (h : ∀ x, read (write x) = .ok x)
    (xs : List α) : (xs.map write).mapM read = .ok xs := by
  induction xs with
  | nil => rfl
  | cons x xs ih =>
      rw [List.map_cons, List.mapM_cons, h, ih]
      rfl

/-- Values that are read back from their texts have different texts. -/
theorem injective_of_reads {α ε : Type} {write : α → String} {read : String → Except ε α}
    (hread : ∀ a, read (write a) = .ok a) : Function.Injective write := by
  intro a b h
  have hok := hread a
  rw [h, hread b] at hok
  exact (Except.ok.inj hok).symm

/-! ### Digits -/

/-- A text that goes on after a number does not go on with a digit. -/
def EndsNumber (rest : List Char) : Prop := ∀ c ∈ rest.head?, c.isDigit = false

theorem endsNumber_nil : EndsNumber [] := by
  intro c hc
  cases hc

theorem endsNumber_cons {c : Char} (rest : List Char) (hc : c.isDigit = false) : EndsNumber (c :: rest) := by
  intro d hd
  cases hd
  exact hc

theorem dropBlanks_digits {digits : List Char} (hne : digits ≠ []) (hdigits : ∀ c ∈ digits, c.isDigit = true)
    (rest : List Char) : dropBlanks (digits ++ rest) = digits ++ rest := by
  obtain ⟨c, digits, rfl⟩ := List.exists_cons_of_ne_nil hne
  exact dropBlanks_cons_of_not_isBlank _ (isBlank_eq_false_of_isDigit (hdigits c List.mem_cons_self))

/-- Digits are split off as a whole where they fill the width or end before the next character. -/
theorem takeDigits_append_of {width : Nat} {digits rest : List Char} (hdigits : ∀ c ∈ digits, c.isDigit = true)
    (hwidth : digits.length ≤ width) (hends : digits.length = width ∨ EndsNumber rest) :
    takeDigits width (digits ++ rest) = (digits, rest) := by
  induction digits generalizing width with
  | nil =>
      cases width with
      | zero => rfl
      | succ width =>
          have hrest := hends.resolve_left (Nat.succ_ne_zero width).symm
          cases rest with
          | nil => rfl
          | cons c rest => simp [takeDigits, hrest c rfl]
  | cons c digits ih =>
      obtain ⟨width, rfl⟩ : ∃ n, width = n + 1 := ⟨width - 1, by rw [List.length_cons] at hwidth; omega⟩
      simp only [List.length_cons, Nat.add_le_add_iff_right, Nat.add_right_cancel_iff] at hwidth hends
      have htail := ih (fun d hd => hdigits d (List.mem_cons_of_mem c hd)) hwidth hends
      simp [takeDigits, hdigits c List.mem_cons_self, htail]

theorem scanNumber_append {width : Nat} {digits rest : List Char} (hne : digits ≠ [])
    (hdigits : ∀ c ∈ digits, c.isDigit = true) (hwidth : digits.length ≤ width)
    (hends : digits.length = width ∨ EndsNumber rest) (hvalue : value digits < Bound.signed64) :
    scanNumber width (digits ++ rest) = .ok (value digits, rest) := by
  have htake := takeDigits_append_of hdigits hwidth hends
  obtain ⟨c, tail, rfl⟩ := List.exists_cons_of_ne_nil hne
  have hc := hdigits c List.mem_cons_self
  rw [List.cons_append] at htake ⊢
  simp only [scanNumber, hc, if_true, htake, hvalue]

/-! ### Columns -/

theorem columns_ne_nil {width : Nat} (hwidth : 0 < width) (n : Nat) : columns width n ≠ [] := by
  rw [← List.length_pos_iff, length_columns]
  exact hwidth

theorem scanNumber_columns {width limit n : Nat} (hwidth : 0 < width) (hn : n < Nat.pow 10 width)
    (hbound : Nat.pow 10 width ≤ Bound.signed64) (hlimit : width ≤ limit) {rest : List Char}
    (hends : width = limit ∨ EndsNumber rest) :
    scanNumber limit (columns width n ++ rest) = .ok (n, rest) := by
  have hlength := length_columns width n
  have hvalue := value_columns hn
  have hscan : scanNumber limit (columns width n ++ rest) = .ok (value (columns width n), rest) := by
    apply scanNumber_append (columns_ne_nil hwidth n) (fun c hc => isDigit_of_mem_columns hc)
    · rwa [hlength]
    · rwa [hlength]
    · rw [hvalue]
      exact Nat.lt_of_lt_of_le hn hbound
  rwa [hvalue] at hscan

theorem scanPart_columns {least greatest n : Nat} (hleast : least ≤ n) (hgreatest : n ≤ greatest)
    (hn : n < 100) (rest : List Char) : scanPart least greatest (columns 2 n ++ rest) = .ok (n, rest) := by
  have hblanks : dropBlanks (columns 2 n ++ rest) = columns 2 n ++ rest :=
    dropBlanks_digits (columns_ne_nil (by decide) n) (fun c hc => isDigit_of_mem_columns hc) rest
  have hscan : scanNumber 2 (columns 2 n ++ rest) = .ok (n, rest) :=
    scanNumber_columns (by decide) hn (by decide) (Nat.le_refl _) (.inl rfl)
  rw [scanPart, hblanks, hscan]
  exact if_pos ⟨hleast, hgreatest⟩

theorem isDigit_of_mem_padded {width n : Nat} {c : Char} (hc : c ∈ padded width n) : c.isDigit = true := by
  simp only [padded, List.mem_append] at hc
  rcases hc with hc | hc
  · rw [List.eq_of_mem_replicate hc]
    rfl
  · exact Nat.isDigit_of_mem_toDigits (by decide) (by decide) hc

theorem padded_ne_nil {width : Nat} (n : Nat) : padded width n ≠ [] := by
  simp [padded]

theorem value_padded (width n : Nat) : value (padded width n) = n := by
  rw [value, padded, Nat.ofDigitChars_append, Nat.ofDigitChars_replicate_zero]
  simp

theorem columns_zero (width : Nat) : columns width 0 = List.replicate width '0' := by
  induction width with
  | zero => rfl
  | succ width ih => rw [columns, ih, List.replicate_succ']; rfl

/-- A number that fits its columns is filled up to them. -/
theorem padded_eq_columns {width n : Nat} (hwidth : 0 < width) (hn : n < Nat.pow 10 width) :
    padded width n = columns width n := by
  induction width generalizing n with
  | zero => cases hwidth
  | succ width ih =>
      have hpow : Nat.pow 10 (width + 1) = Nat.pow 10 width * 10 := rfl
      rw [padded, columns, Nat.toDigits_eq_if (by decide)]
      split
      · rename_i hsmall
        rw [Nat.div_eq_of_lt hsmall, Nat.mod_eq_of_lt hsmall, columns_zero]
        rfl
      · rename_i hlarge
        have hpos : 0 < width := by
          rcases Nat.eq_zero_or_pos width with rfl | hpos
          · rw [hpow, show Nat.pow 10 0 = 1 from rfl] at hn
            omega
          · exact hpos
        rw [← ih hpos (show n / 10 < Nat.pow 10 width by omega), padded, ← List.append_assoc]
        simp only [List.length_append, List.length_singleton, Nat.add_sub_add_right]

/-- Filling up makes no difference to a number with enough digits. -/
theorem padded_of_length_le {width width' n : Nat} (hwidth : width ≤ width') (hn : width' ≤ (Nat.toDigits 10 n).length) :
    padded width n = padded width' n := by
  simp only [padded, Nat.sub_eq_zero_of_le (Nat.le_trans hwidth hn), Nat.sub_eq_zero_of_le hn]

/-! ### Order -/

theorem digitChar_lt_iff {d e : Nat} (hd : d < 10) (he : e < 10) : Nat.digitChar d < Nat.digitChar e ↔ d < e := by
  have hall : ∀ d < 10, ∀ e < 10, (Nat.digitChar d < Nat.digitChar e ↔ d < e) := by decide
  exact hall d hd e he

theorem digitChar_inj {d e : Nat} (hd : d < 10) (he : e < 10) : Nat.digitChar d = Nat.digitChar e ↔ d = e := by
  have hall : ∀ d < 10, ∀ e < 10, (Nat.digitChar d = Nat.digitChar e ↔ d = e) := by decide
  exact hall d hd e he

/-- Texts that start with numbers in columns of one width are ordered by the numbers first. -/
theorem columns_append_lt_iff {width n m : Nat} (hn : n < Nat.pow 10 width) (hm : m < Nat.pow 10 width)
    (s t : List Char) : columns width n ++ s < columns width m ++ t ↔ n < m ∨ n = m ∧ s < t := by
  induction width generalizing n m s t with
  | zero =>
      have hn : n = 0 := Nat.lt_one_iff.1 hn
      have hm : m = 0 := Nat.lt_one_iff.1 hm
      simp [columns, hn, hm]
  | succ width ih =>
      have hpow : Nat.pow 10 (width + 1) = Nat.pow 10 width * 10 := rfl
      have hnmod := Nat.mod_lt n (show 0 < 10 by decide)
      have hmmod := Nat.mod_lt m (show 0 < 10 by decide)
      rw [columns, columns, List.append_assoc, List.append_assoc, ih (by omega) (by omega), List.singleton_append,
        List.singleton_append, List.cons_lt_cons_iff, digitChar_lt_iff hnmod hmmod, digitChar_inj hnmod hmmod]
      constructor
      · rintro (h | ⟨h, h' | ⟨h', hst⟩⟩)
        · exact .inl (by omega)
        · exact .inl (by omega)
        · exact .inr ⟨by omega, hst⟩
      · rintro (h | ⟨rfl, hst⟩)
        · by_cases hdiv : n / 10 < m / 10
          · exact .inl hdiv
          · exact .inr ⟨by omega, .inl (by omega)⟩
        · exact .inr ⟨rfl, .inr ⟨rfl, hst⟩⟩

/-- Texts that start alike are ordered by what follows. -/
theorem append_lt_append_iff {α : Type} [LT α] [Std.Irrefl (α := α) (· < ·)] (u : List α) {s t : List α} :
    u ++ s < u ++ t ↔ s < t := by
  induction u with
  | nil => rfl
  | cons c u ih =>
      have hirrefl : ¬ c < c := Std.Irrefl.irrefl c
      rw [List.cons_append, List.cons_append, List.cons_lt_cons_iff, eq_false hirrefl, false_or, ih, eq_self, true_and]

theorem columns_lt_iff {width n m : Nat} (hn : n < Nat.pow 10 width) (hm : m < Nat.pow 10 width) :
    columns width n < columns width m ↔ n < m := by
  have happend := columns_append_lt_iff hn hm [] []
  have hnil : ¬ ([] : List Char) < [] := List.lt_irrefl _
  simpa only [List.append_nil, hnil, and_false, or_false] using happend

/-- The columns of a number are those of its leading part, followed by those of the rest. -/
theorem columns_add (width extra n : Nat) :
    columns (width + extra) n = columns width (n / Nat.pow 10 extra) ++ columns extra n := by
  induction extra generalizing n with
  | zero => simp [columns]
  | succ extra ih =>
      have hpow : Nat.pow 10 (extra + 1) = 10 * Nat.pow 10 extra := Nat.mul_comm _ _
      rw [← Nat.add_assoc, columns, columns, ih, hpow, ← Nat.div_div_eq_div_mul, List.append_assoc]

section Units

variable {width extra unit n m : Nat} (hunit : Nat.pow 10 extra = unit)

include hunit

/-- Of two texts that start with columns, the shorter one comes first if the other goes on with more than what follows it,
unless the leading columns of the longer one are less. -/
theorem columns_append_lt_columns_add_append_iff (hn : n < Nat.pow 10 width) (hm : m / unit < Nat.pow 10 width)
    {s t : List Char} (hst : s < columns extra m ++ t) :
    columns width n ++ s < columns (width + extra) m ++ t ↔ n ≤ m / unit := by
  rw [columns_add, hunit, List.append_assoc, columns_append_lt_iff hn hm]
  simp only [hst, and_true]
  omega

theorem columns_add_append_lt_columns_append_iff (hn : n / unit < Nat.pow 10 width) (hm : m < Nat.pow 10 width)
    {s t : List Char} (hst : ¬ columns extra n ++ s < t) :
    columns (width + extra) n ++ s < columns width m ++ t ↔ n / unit < m := by
  rw [columns_add, hunit, List.append_assoc, columns_append_lt_iff hn hm]
  simp only [hst, and_false, or_false]

/-- A text in fewer columns comes first unless the leading columns of the longer one are less. -/
theorem columns_lt_columns_add_iff (hextra : 0 < extra) (hn : n < Nat.pow 10 width) (hm : m / unit < Nat.pow 10 width) :
    columns width n < columns (width + extra) m ↔ n ≤ m / unit := by
  have hnil : ([] : List Char) < columns extra m := by
    obtain ⟨c, digits, hcons⟩ := List.exists_cons_of_ne_nil (columns_ne_nil hextra m)
    rw [hcons]
    exact List.nil_lt_cons c digits
  simpa only [List.append_nil] using
    columns_append_lt_columns_add_append_iff hunit hn hm (s := []) (t := []) (by rwa [List.append_nil])

theorem columns_add_lt_columns_iff (hn : n / unit < Nat.pow 10 width) (hm : m < Nat.pow 10 width) :
    columns (width + extra) n < columns width m ↔ n / unit < m := by
  simpa only [List.append_nil] using
    columns_add_append_lt_columns_append_iff hunit hn hm (s := []) (t := []) (List.not_lt_nil _)

end Units

end Roster.Text
