import Roster.Text.Basic
/-!
# Lines of a text

The lines of a text are its pieces between line feeds, without the empty piece behind the last one
(`splitOnP_eq_splitLines`). No byte of another character is a line feed in UTF-8, so cutting bytes cuts the text that
they spell (`linesOfBytes_toUTF8`). Trimming finds what stands between the white space at both ends, and this is
determined by its own ends (`trim_append`, `exists_trim`).
-/

namespace Roster.Text

/-! ### Pieces -/

section Pieces

variable {α β : Type} (isNewline : α → Bool)

theorem splitLines_cons (c : α) (s : List α) :
    splitLines isNewline (c :: s) = consLine isNewline c (splitLines isNewline s) := rfl

/-- Splitting yields the lines, and sometimes an empty piece behind them. -/
theorem splitOnP_eq_splitLines (s : List α) :
    ∃ rest, (∀ l ∈ rest, l = []) ∧ s.splitOnP isNewline = splitLines isNewline s ++ rest := by
  induction s with
  | nil => exact ⟨[[]], by simp, rfl⟩
  | cons c s ih =>
      obtain ⟨rest, hrest, hsplit⟩ := ih
      rw [List.splitOnP_cons_eq_if_modifyHead, splitLines_cons, hsplit]
      cases hlines : splitLines isNewline s with
      | cons l ls =>
          refine ⟨rest, hrest, ?_⟩
          by_cases hc : isNewline c = true <;> simp [consLine, hc]
      | nil =>
          -- All of `s` is the empty piece, to which `c` may be put.
          have hne := List.splitOnP_ne_nil isNewline s
          rw [hsplit, hlines, List.nil_append] at hne
          obtain ⟨l, rest, rfl⟩ := List.exists_cons_of_ne_nil hne
          obtain ⟨rfl, htail⟩ := List.forall_mem_cons.1 hrest
          by_cases hc : isNewline c = true
          · exact ⟨[] :: rest, hrest, by simp [consLine, hc]⟩
          · exact ⟨rest, htail, by simp [consLine, hc]⟩

/-! ### Lines of what is spelled -/

variable {isNewline}

/-- What contains no line feed is put in front of the first line. -/
theorem splitLines_append {c : α} {s : List α} (hs : ∀ x ∈ c :: s, isNewline x = false) (t : List α) :
    splitLines isNewline (c :: s ++ t) =
      match splitLines isNewline t with
      | [] => [c :: s]
      | l :: ls => (c :: s ++ l) :: ls := by
  induction s generalizing c with
  | nil =>
      have hc := hs c List.mem_cons_self
      rw [List.singleton_append, splitLines_cons]
      cases splitLines isNewline t <;> simp [consLine, hc]
  | cons d s ih =>
      have hc := hs c List.mem_cons_self
      have hrest : ∀ x ∈ d :: s, isNewline x = false := fun x hx => hs x (List.mem_cons_of_mem c hx)
      rw [List.cons_append, splitLines_cons, ih hrest]
      cases splitLines isNewline t <;> simp [consLine, hc]

/-- Cutting what spells a text gives what spells its lines, if line feeds, and they alone, are spelled by one. -/
theorem splitLines_flatMap {isBreak : β → Bool} {spell : α → List β}
    (hbreak : ∀ c, isNewline c = true → ∃ b, spell c = [b] ∧ isBreak b = true)
    (hother : ∀ c, isNewline c = false → spell c ≠ [] ∧ ∀ b ∈ spell c, isBreak b = false) (s : List α) :
    splitLines isBreak (s.flatMap spell) = (splitLines isNewline s).map (List.flatMap spell) := by
  induction s with
  | nil => rfl
  | cons c s ih =>
      rw [List.flatMap_cons, splitLines_cons]
      cases hc : isNewline c with
      | true =>
          obtain ⟨b, hspell, hb⟩ := hbreak c hc
          rw [hspell, List.singleton_append, splitLines_cons, ih]
          cases splitLines isNewline s <;> simp [consLine, hb, hc]
      | false =>
          obtain ⟨hne, hplain⟩ := hother c hc
          obtain ⟨b, bs, hspell⟩ := List.exists_cons_of_ne_nil hne
          rw [hspell] at hplain ⊢
          rw [splitLines_append hplain, ih]
          cases splitLines isNewline s <;> simp [consLine, hspell, hc]

end Pieces

/-- The byte of the line feed is in the encoding of no other character. -/
theorem ten_not_mem_utf8EncodeChar {c : Char} (hc : (c == '\n') = false) :
    ∀ b ∈ String.utf8EncodeChar c, (b == 10) = false := by
  have hval : c.val.toNat ≠ 10 := fun h => ne_of_beq_false hc (Char.ext (UInt32.toNat_inj.1 h))
  have hbyte : ∀ n : Nat, n % 256 ≠ 10 → (UInt8.ofNat n == 10) = false := by
    intro n hn
    rw [beq_eq_false_iff_ne]
    exact fun h => hn (congrArg UInt8.toNat h)
  -- Bytes of longer encodings have their high bit set.
  simp only [String.utf8EncodeChar]
  split
  · exact List.forall_mem_singleton.2 (hbyte _ (by omega))
  split
  · simp only [List.mem_cons, List.not_mem_nil, or_false, forall_eq_or_imp, forall_eq]
    exact ⟨hbyte _ (by omega), hbyte _ (by omega)⟩
  split
  · simp only [List.mem_cons, List.not_mem_nil, or_false, forall_eq_or_imp, forall_eq]
    exact ⟨hbyte _ (by omega), hbyte _ (by omega), hbyte _ (by omega)⟩
  · simp only [List.mem_cons, List.not_mem_nil, or_false, forall_eq_or_imp, forall_eq]
    exact ⟨hbyte _ (by omega), hbyte _ (by omega), hbyte _ (by omega), hbyte _ (by omega)⟩

theorem toList_loop_eq (bytes : ByteArray) (i : Nat) (passed : List UInt8) :
    ByteArray.toList.loop bytes i passed = passed.reverse ++ bytes.data.toList.drop i := by
  fun_induction ByteArray.toList.loop bytes i passed with
  | case1 i passed hi ih =>
      have hbyte : bytes.data.toList.drop i = bytes.get! i :: bytes.data.toList.drop (i + 1) := by
        rw [List.drop_eq_getElem_cons (by simpa using hi)]
        congr 1
        exact (getElem!_pos bytes.data i hi).symm
      rw [ih, hbyte, List.reverse_cons, List.append_assoc, List.singleton_append]
  | case2 i passed hi =>
      rw [List.drop_eq_nil_of_le (by simpa using Nat.le_of_not_lt hi), List.append_nil]

theorem toUTF8_toList (text : String) : text.toUTF8.toList = text.toList.flatMap String.utf8EncodeChar := by
  have htext : text.toUTF8 = text.toList.utf8Encode := by
    rw [← String.toByteArray_ofList, String.ofList_toList]
    rfl
  rw [htext, List.utf8Encode, ByteArray.toList, toList_loop_eq, List.data_toByteArray]
  rfl

theorem fromUTF8?_utf8Encode (s : List Char) : String.fromUTF8? s.utf8Encode = some (String.ofList s) := by
  rw [String.fromUTF8?, dif_pos (.intro s rfl)]
  rfl

/-- The lines of the bytes of a text are its own. -/
theorem linesOfBytes_toUTF8 (text : String) :
    linesOfBytes text.toUTF8.toList = (linesOfChars text.toList).map some := by
  have hcut : splitLines (· == 10) text.toUTF8.toList =
      (linesOfChars text.toList).map (List.flatMap String.utf8EncodeChar) := by
    rw [toUTF8_toList, linesOfChars]
    apply splitLines_flatMap
    · intro c hc
      rw [eq_of_beq hc]
      exact ⟨10, rfl, rfl⟩
    · exact fun c hc => ⟨String.utf8EncodeChar_ne_nil, ten_not_mem_utf8EncodeChar hc⟩
  rw [linesOfBytes, hcut, List.map_map]
  apply List.map_congr_left
  intro line _
  have hline : (⟨(line.flatMap String.utf8EncodeChar).toArray⟩ : ByteArray) = line.utf8Encode :=
    ByteArray.ext List.data_toByteArray.symm
  rw [Function.comp_apply, hline, fromUTF8?_utf8Encode, Option.map_some, String.toList_ofList]

/-! ### White space at the ends -/

/-- Nothing but white space. -/
def Blank (s : List Char) : Prop := ∀ c ∈ s, isBlank c = true

instance (s : List Char) : Decidable (Blank s) := inferInstanceAs (Decidable (∀ c ∈ s, isBlank c = true))

/-- No white space at either end. -/
structure Trimmed (s : List Char) : Prop where
  head : ∀ c ∈ s.head?, isBlank c = false
  last : ∀ c ∈ s.getLast?, isBlank c = false

theorem dropBlanks_append {before : List Char} (hbefore : Blank before) (s : List Char) :
    dropBlanks (before ++ s) = dropBlanks s :=
  List.dropWhile_append_of_pos hbefore

theorem dropBlanks_of_head {s : List Char} (hs : ∀ c ∈ s.head?, isBlank c = false) : dropBlanks s = s := by
  cases s with
  | nil => rfl
  | cons c s => exact dropBlanks_cons_of_not_isBlank s (hs c rfl)

theorem exists_dropBlanks (s : List Char) :
    ∃ before, s = before ++ dropBlanks s ∧ Blank before ∧ ∀ c ∈ (dropBlanks s).head?, isBlank c = false := by
  refine ⟨s.takeWhile isBlank, List.takeWhile_append_dropWhile.symm, List.all_eq_true.1 List.all_takeWhile, ?_⟩
  intro c hc
  have hhead := List.head?_dropWhile_not isBlank s
  rwa [← dropBlanks, Option.mem_def.1 hc] at hhead

theorem Blank.reverse {s : List Char} (hs : Blank s) : Blank s.reverse :=
  fun c hc => hs c (List.mem_reverse.1 hc)

theorem trim_append {before s after : List Char} (hbefore : Blank before) (hs : Trimmed s) (hafter : Blank after) :
    trim (before ++ s ++ after) = s := by
  have hlast : dropBlanks (after.reverse ++ s.reverse) = s.reverse := by
    rw [dropBlanks_append hafter.reverse]
    apply dropBlanks_of_head
    rw [List.head?_reverse]
    exact hs.last
  rw [trim, List.append_assoc, dropBlanks_append hbefore]
  cases s with
  | nil =>
      have hnone := dropBlanks_append hafter []
      rw [List.append_nil] at hnone
      rw [List.nil_append, hnone]
      rfl
  | cons c s =>
      rw [dropBlanks_of_head (s := c :: s ++ after) hs.head, List.reverse_append, hlast, List.reverse_reverse]

theorem exists_trim (s : List Char) :
    ∃ before after, s = before ++ trim s ++ after ∧ Blank before ∧ Trimmed (trim s) ∧ Blank after := by
  obtain ⟨before, hbefore, hblank, hhead⟩ := exists_dropBlanks s
  obtain ⟨after, hafter, hblank', hlast⟩ := exists_dropBlanks (dropBlanks s).reverse
  have hrest : dropBlanks s = trim s ++ after.reverse := by
    rw [trim, ← List.reverse_append, ← hafter, List.reverse_reverse]
  refine ⟨before, after.reverse, ?_, hblank, ⟨?_, ?_⟩, hblank'.reverse⟩
  · rw [List.append_assoc, ← hrest, ← hbefore]
  · intro c hc
    apply hhead c
    rw [hrest, List.head?_append, hc]
    rfl
  · rwa [trim, List.getLast?_reverse]

/-- What is left of a text is nothing exactly if all of it is white space. -/
theorem trim_eq_nil_iff {s : List Char} : trim s = [] ↔ Blank s := by
  constructor
  · intro hs
    obtain ⟨before, after, heq, hbefore, -, hafter⟩ := exists_trim s
    rw [heq, hs, List.append_nil]
    exact List.forall_mem_append.2 ⟨hbefore, hafter⟩
  · intro hs
    have htrim : trim (s ++ [] ++ []) = [] := trim_append hs ⟨nofun, nofun⟩ nofun
    rwa [List.append_nil, List.append_nil] at htrim

end Roster.Text
