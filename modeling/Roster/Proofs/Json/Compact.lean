import Mathlib.Data.List.Forall2
import Roster.Json.Decode
import Roster.Proofs.Text.Scan
/-!
# Compact texts are read back

The compact text of a value is read as the value (`spells_compactChars`), whatever follows it, as long as that does not
go on with a number. A text in quotation marks is read character by character, and each character comes back from its
escape (`readText_escape`). For arrays and objects the fuel has to last: a value never needs more steps than its text
has characters, because every item and every member is followed by a comma or a bracket. Gaps around the key and the
value of a member change nothing, because the readers drop white space before they look (`SpellsMember`). So a decoder
that is given a compact text decodes what the value is read as (`decodeText_compact`). No compact text contains a line
feed, since within quotation marks it is escaped (`newline_not_mem_compactChars`).
-/

namespace Roster.Json

open Text

/-! ### Texts -/

theorem hexValue?_digitChar {d : Nat} (hd : d < 16) : hexValue? (Nat.digitChar d) = some d := by
  have hall : ∀ d < 16, hexValue? (Nat.digitChar d) = some d := by decide
  exact hall d hd

theorem readText_cons {c : Char} (hquote : c ≠ '"') (hbackslash : c ≠ '\\') (hc : ¬ c.toNat < 0x20) (s : List Char) :
    readText (c :: s) = (readText s).map fun (cs, rest) => (c :: cs, rest) := by
  rw [readText, if_neg hc]
  · exact hquote
  all_goals simp [hbackslash]

/-- A character is read back from its escape. -/
theorem readText_escape (c : Char) (s : List Char) :
    readText (escape c ++ s) = (readText s).map fun (cs, rest) => (c :: cs, rest) := by
  unfold escape
  split
  case h_8 hquote hbackslash _ _ _ _ _ =>
    split
    · -- A control character is written in four digits, and is not half of a surrogate pair.
      rename_i hcontrol
      have hunit : hexUnit? '0' '0' (Nat.digitChar (c.toNat / 16)) (Nat.digitChar (c.toNat % 16)) = some c.toNat := by
        have hzero : hexValue? '0' = some 0 := by decide
        rw [hexUnit?, hzero, hexValue?_digitChar (by omega), hexValue?_digitChar (by omega)]
        simp only [Option.bind_eq_bind, Option.bind_some, Option.some.injEq]
        omega
      have htrail : isTrailUnit c.toNat = false := by simp [isTrailUnit]; omega
      have hlead : isLeadUnit c.toNat = false := by simp [isLeadUnit]; omega
      simp [readText, hunit, htrail, hlead]
    · rename_i hcontrol
      exact readText_cons hquote hbackslash hcontrol s
  all_goals simp [readText, shortEscape?]

theorem readText_chars (s rest : List Char) : readText (s.flatMap escape ++ '"' :: rest) = .ok (s, rest) := by
  induction s with
  | nil => rfl
  | cons c s ih =>
      rw [List.flatMap_cons, List.append_assoc, readText_escape, ih]
      rfl

theorem textChars_append (s : String) (rest : List Char) :
    textChars s ++ rest = '"' :: (s.toList.flatMap escape ++ '"' :: rest) := by
  simp [textChars]

theorem textAndRest_chars (s : String) (rest : List Char) :
    textAndRest (s.toList.flatMap escape ++ '"' :: rest) = .ok (some s, rest) := by
  rw [textAndRest, readText_chars]
  simp

/-! ### Numbers -/

/-- The character may follow the whole part of a number. -/
def continuesNumber (c : Char) : Bool := c.isDigit || c = '.' || c = 'e' || c = 'E'

theorem continuesNumber_eq_false_iff {c : Char} :
    continuesNumber c = false ↔ c.isDigit = false ∧ c ≠ '.' ∧ c ≠ 'e' ∧ c ≠ 'E' := by
  simp [continuesNumber, and_assoc]

/-- A text that goes on after a value does not go on with a number. -/
def EndsValue (rest : List Char) : Prop := ∀ c ∈ rest.head?, continuesNumber c = false

theorem endsValue_nil : EndsValue [] := by
  intro c hc
  cases hc

theorem endsValue_cons {c : Char} (hc : continuesNumber c = false) (s : List Char) : EndsValue (c :: s) := by
  intro d hd
  cases hd
  exact hc

theorem readDigits_append {digits rest : List Char} (hne : digits ≠ []) (hdigits : ∀ c ∈ digits, c.isDigit = true)
    (hrest : EndsValue rest) : readDigits (digits ++ rest) = .ok (digits, rest) := by
  have htake : rest.takeWhile Char.isDigit = [] ∧ rest.dropWhile Char.isDigit = rest := by
    cases rest with
    | nil => exact ⟨rfl, rfl⟩
    | cons c rest => simp [(continuesNumber_eq_false_iff.1 (hrest c rfl)).1]
  obtain ⟨c, tail, rfl⟩ := List.exists_cons_of_ne_nil hne
  have hsplit : ((c :: tail) ++ rest).takeWhile Char.isDigit = c :: tail := by
    rw [List.takeWhile_append_of_pos hdigits, htake.1, List.append_nil]
  have hdrop : ((c :: tail) ++ rest).dropWhile Char.isDigit = rest := by
    rw [List.dropWhile_append_of_pos hdigits, htake.2]
  rw [List.cons_append] at hsplit hdrop ⊢
  rw [readDigits, if_pos (hdigits c List.mem_cons_self), hsplit, hdrop]

theorem isDigit_of_mem_toDigits {n : Nat} {c : Char} (hc : c ∈ Nat.toDigits 10 n) : c.isDigit = true :=
  Nat.isDigit_of_mem_toDigits (by decide) (by decide) hc

theorem toDigits_eq_cons (n : Nat) : ∃ c digits, Nat.toDigits 10 n = c :: digits ∧ c.isDigit = true := by
  obtain ⟨c, digits, h⟩ := List.exists_cons_of_ne_nil (Nat.toDigits_ne_nil (n := n) (b := 10))
  exact ⟨c, digits, h, isDigit_of_mem_toDigits (h ▸ List.mem_cons_self)⟩

/-- Only zero is written with a zero in front. -/
theorem eq_zero_of_toDigits_eq_cons {n : Nat} {digits : List Char} (h : Nat.toDigits 10 n = '0' :: digits) : n = 0 := by
  induction n using Nat.strongRecOn generalizing digits with
  | ind n ih =>
      rw [Nat.toDigits_eq_if (by decide)] at h
      split at h
      · rename_i hlt
        exact (digitChar_inj hlt (by decide)).1 (List.cons.inj h).1
      · obtain ⟨c, tail, htail, -⟩ := toDigits_eq_cons (n / 10)
        rw [htail, List.cons_append] at h
        obtain ⟨rfl, -⟩ := List.cons.inj h
        have := ih (n / 10) (by omega) htail
        omega

theorem readWhole_toDigits (n : Nat) {rest : List Char} (hrest : EndsValue rest) :
    readWhole (Nat.toDigits 10 n ++ rest) = .ok (Nat.toDigits 10 n, rest) := by
  have hread : readDigits (Nat.toDigits 10 n ++ rest) = .ok (Nat.toDigits 10 n, rest) :=
    readDigits_append Nat.toDigits_ne_nil (fun c hc => isDigit_of_mem_toDigits hc) hrest
  rw [readWhole, bind_of_eq_ok hread]
  dsimp only
  split
  · rename_i hzero
    rw [eq_zero_of_toDigits_eq_cons hzero] at hzero
    cases hzero
  · rfl

theorem readNumber_toDigits (n : Nat) {rest : List Char} (hrest : EndsValue rest) :
    readNumber (Nat.toDigits 10 n ++ rest) = .ok (⟨false, Nat.toDigits 10 n, [], none⟩, rest) := by
  have hminus : readMinus (Nat.toDigits 10 n ++ rest) = (false, Nat.toDigits 10 n ++ rest) := by
    obtain ⟨c, tail, htail, hc⟩ := toDigits_eq_cons n
    rw [htail, List.cons_append, readMinus]
    intro s hs
    obtain ⟨rfl, -⟩ := List.cons.inj hs
    cases hc
  have hfraction : readFraction rest = .ok ([], rest) := by
    rw [readFraction]
    rintro s rfl
    exact (continuesNumber_eq_false_iff.1 (hrest '.' rfl)).2.1 rfl
  have hexponent : readExponent rest = .ok (none, rest) := by
    cases rest with
    | nil => rfl
    | cons c rest =>
        obtain ⟨-, -, hlower, hupper⟩ := continuesNumber_eq_false_iff.1 (hrest c rfl)
        simp [readExponent, hlower, hupper]
  rw [readNumber, hminus]
  dsimp only
  rw [bind_of_eq_ok (readWhole_toDigits n hrest)]
  dsimp only
  rw [bind_of_eq_ok hfraction]
  dsimp only
  rw [bind_of_eq_ok hexponent]

/-! ### Values -/

mutual

/-- What the text of a value is read as. -/
def reading : Json → Reading
  | .text s => .text (some s)
  | .number n => .number ⟨false, Nat.toDigits 10 n, [], none⟩
  | .bool b => .bool b
  | .array items => .array (readingItems items) .closed
  | .object members => .object (readingMembers members) .closed
termination_by structural v => v

def readingItems : List Json → List Reading
  | [] => []
  | v :: rest => reading v :: readingItems rest
termination_by structural vs => vs

def readingMembers : List (String × Json) → List (Option String × Reading)
  | [] => []
  | m :: rest => readingMember m :: readingMembers rest
termination_by structural ms => ms

def readingMember : String × Json → Option String × Reading
  | (key, v) => (some key, reading v)
termination_by structural m => m

end

theorem readingItems_eq_map (items : List Json) : readingItems items = items.map reading := by
  induction items with
  | nil => rfl
  | cons v items ih => rw [readingItems, ih, List.map_cons]

theorem readingMembers_append (ms ms' : List (String × Json)) :
    readingMembers (ms ++ ms') = readingMembers ms ++ readingMembers ms' := by
  induction ms with
  | nil => rfl
  | cons m ms ih => rw [List.cons_append, readingMembers, readingMembers, ih, List.cons_append]

/-- The text is read as the value wherever it stands, in at most as many steps as it has characters. -/
structure Spells (text : List Char) (v : Reading) : Prop where
  starts : ∃ c s, text = c :: s ∧ isSpace c = false ∧ c ≠ ']'
  reads : ∀ {rest : List Char} {fuel : Nat}, EndsValue rest → text.length ≤ fuel →
    readValue fuel (text ++ rest) = (v, some rest)

/-- Nothing but the white space that JSON admits between its parts. -/
def Spaces (s : List Char) : Prop := ∀ c ∈ s, isSpace c = true

theorem spaces_nil : Spaces [] := List.forall_mem_nil _

/-- The text is read as the member: a key and a value, with gaps around both. -/
inductive SpellsMember : List Char → Option String × Reading → Prop
  | intro {before gap gap' after text : List Char} {key : String} {v : Reading} (hbefore : Spaces before)
      (hgap : Spaces gap) (hgap' : Spaces gap') (hafter : Spaces after) (hv : Spells text v) :
      SpellsMember (before ++ textChars key ++ gap ++ ':' :: (gap' ++ text ++ after)) (some key, v)

theorem dropSpace_cons {c : Char} (hspace : isSpace c = false) (s : List Char) : dropSpace (c :: s) = c :: s := by
  rw [dropSpace, List.dropWhile_cons_of_neg (by simp [hspace])]

theorem Spaces.dropSpace_append {gap : List Char} (hgap : Spaces gap) (s : List Char) :
    dropSpace (gap ++ s) = dropSpace s :=
  List.dropWhile_append_of_pos hgap

theorem Spaces.endsValue {gap rest : List Char} (hgap : Spaces gap) (hrest : EndsValue rest) :
    EndsValue (gap ++ rest) := by
  cases gap with
  | nil => exact hrest
  | cons c gap =>
      have hc := hgap c List.mem_cons_self
      apply endsValue_cons
      simp only [isSpace, Bool.or_eq_true, decide_eq_true_eq] at hc
      rcases hc with ((rfl | rfl) | rfl) | rfl <;> rfl

theorem Spaces.readValue {gap : List Char} (hgap : Spaces gap) (fuel : Nat) (s : List Char) :
    readValue fuel (gap ++ s) = Json.readValue fuel s := by
  cases fuel with
  | zero => rfl
  | succ fuel => rw [Json.readValue, Json.readValue, hgap.dropSpace_append]

theorem Spaces.readMembers {gap : List Char} (hgap : Spaces gap) (fuel : Nat) (first : Bool) (s : List Char) :
    readMembers fuel first (gap ++ s) = Json.readMembers fuel first s := by
  cases fuel with
  | zero => rfl
  | succ fuel => rw [Json.readMembers, Json.readMembers, hgap.dropSpace_append]

/-- Behind the quotation mark of a member stands its key, and behind the colon its value. -/
theorem SpellsMember.reads {text : List Char} {m : Option String × Reading} (h : SpellsMember text m)
    {rest : List Char} {fuel : Nat} (hrest : EndsValue rest) (hfuel : text.length ≤ fuel) :
    ∃ s s' t t', dropSpace (text ++ rest) = '"' :: s ∧ textAndRest s = .ok (m.1, s') ∧ dropSpace s' = ':' :: t ∧
      readValue fuel t = (m.2, some t') ∧ ∀ fuel first, readMembers fuel first t' = readMembers fuel first rest := by
  cases h with
  | @intro before gap gap' after text key v hbefore hgap hgap' hafter hv =>
      have hlength : text.length ≤ fuel := by
        simp only [List.length_append, List.length_cons] at hfuel
        omega
      have hsplit : before ++ textChars key ++ gap ++ ':' :: (gap' ++ text ++ after) ++ rest =
          before ++ (textChars key ++ (gap ++ ':' :: (gap' ++ (text ++ (after ++ rest))))) := by simp
      refine ⟨key.toList.flatMap escape ++ '"' :: (gap ++ ':' :: (gap' ++ (text ++ (after ++ rest)))),
        gap ++ ':' :: (gap' ++ (text ++ (after ++ rest))), gap' ++ (text ++ (after ++ rest)), after ++ rest, ?_,
        textAndRest_chars key _, ?_, ?_, fun fuel first => hafter.readMembers fuel first rest⟩
      · rw [hsplit, hbefore.dropSpace_append, textChars_append, dropSpace_cons (by decide)]
      · rw [hgap.dropSpace_append, dropSpace_cons (by decide)]
      · rw [hgap'.readValue, hv.reads (hafter.endsValue hrest) hlength]

theorem spells_text (s : String) : Spells (textChars s) (.text (some s)) := by
  refine ⟨⟨_, _, rfl, rfl, by decide⟩, ?_⟩
  intro rest fuel _ hfuel
  obtain ⟨fuel, rfl⟩ := Nat.exists_eq_add_one_of_ne_zero (show fuel ≠ 0 by simp [textChars] at hfuel; omega)
  rw [textChars_append, readValue, dropSpace_cons (by decide)]
  simp [textAndRest_chars]

theorem isSpace_eq_false_of_isDigit {c : Char} (hc : c.isDigit = true) : isSpace c = false := by
  simp only [isSpace, Bool.or_eq_false_iff, decide_eq_false_iff_not]
  refine ⟨⟨⟨?_, ?_⟩, ?_⟩, ?_⟩ <;>
    · rintro rfl
      cases hc

theorem spells_number (n : Nat) : Spells (Nat.toDigits 10 n) (.number ⟨false, Nat.toDigits 10 n, [], none⟩) := by
  obtain ⟨c, s, hs, hc⟩ := toDigits_eq_cons n
  have hspace := isSpace_eq_false_of_isDigit hc
  refine ⟨⟨c, s, hs, hspace, by rintro rfl; cases hc⟩, ?_⟩
  intro rest fuel hrest hfuel
  have hread := readNumber_toDigits n hrest
  rw [hs, List.cons_append] at hread ⊢
  obtain ⟨fuel, rfl⟩ := Nat.exists_eq_add_one_of_ne_zero (show fuel ≠ 0 by rw [hs, List.length_cons] at hfuel; omega)
  rw [readValue, dropSpace_cons hspace]
  split <;> simp_all

theorem spells_bool (b : Bool) : Spells (boolChars b) (.bool b) := by
  cases b <;>
    · refine ⟨⟨_, _, rfl, rfl, by decide⟩, ?_⟩
      intro rest fuel _ hfuel
      obtain ⟨fuel, rfl⟩ := Nat.exists_eq_add_one_of_ne_zero (show fuel ≠ 0 by simp [boolChars] at hfuel; omega)
      simp [boolChars, readValue, dropSpace, isSpace, wordAndRest, readWord]

/-! ### Items and members -/

theorem joined_cons (text : List Char) (texts : List (List Char)) :
    joined [','] (text :: texts) = text ++ texts.flatMap (',' :: ·) := by
  induction texts generalizing text with
  | nil => simp [joined]
  | cons next texts ih => simp [joined, ih]

/-- What the readers of items and of members have in common: they stop at their bracket, and they take one part, at the
start or behind a comma, before they go on with the next. -/
structure ReadsParts {β : Type} (read : Nat → Bool → List Char → List β × Close × Option (List Char)) (closing : Char)
    (spells : List Char → β → Prop) : Prop where
  ends : continuesNumber closing = false
  ne_nil : ∀ {text : List Char} {b : β}, spells text b → text ≠ []
  close : ∀ (fuel : Nat) (first : Bool) (rest : List Char),
    read (fuel + 1) first (closing :: rest) = ([], .closed, some rest)
  start : ∀ {text : List Char} {b : β} {rest : List Char} {fuel : Nat}, spells text b → EndsValue rest →
    text.length ≤ fuel → read (fuel + 1) true (text ++ rest) = (b :: (read fuel false rest).1, (read fuel false rest).2)
  comma : ∀ {text : List Char} {b : β} {rest : List Char} {fuel : Nat}, spells text b → EndsValue rest →
    text.length ≤ fuel →
      read (fuel + 1) false (',' :: (text ++ rest)) = (b :: (read fuel false rest).1, (read fuel false rest).2)

namespace ReadsParts

variable {β : Type} {read : Nat → Bool → List Char → List β × Close × Option (List Char)} {closing : Char}
  {spells : List Char → β → Prop} {texts : List (List Char)} {parts : List β}

theorem endsValue (h : ReadsParts read closing spells) (texts : List (List Char)) (rest : List Char) :
    EndsValue (texts.flatMap (',' :: ·) ++ closing :: rest) := by
  cases texts with
  | nil => exact endsValue_cons h.ends _
  | cons text texts => exact endsValue_cons (by decide) _

theorem read_flatMap (h : ReadsParts read closing spells) (hparts : List.Forall₂ spells texts parts) {fuel : Nat}
    (hfuel : (texts.flatMap (',' :: ·)).length < fuel) (rest : List Char) :
    read fuel false (texts.flatMap (',' :: ·) ++ closing :: rest) = (parts, .closed, some rest) := by
  obtain ⟨fuel, rfl⟩ := Nat.exists_eq_add_one_of_ne_zero (Nat.ne_of_gt (Nat.zero_lt_of_lt hfuel))
  induction hparts generalizing fuel with
  | nil => exact h.close fuel false rest
  | @cons text part texts parts hpart _ ih =>
      rw [List.flatMap_cons, List.cons_append, List.length_cons, List.length_append] at hfuel
      obtain ⟨fuel, rfl⟩ := Nat.exists_eq_add_one_of_ne_zero (show fuel ≠ 0 by omega)
      have hrest := ih fuel (by omega)
      rw [List.flatMap_cons, List.cons_append, List.cons_append, List.append_assoc,
        h.comma hpart (h.endsValue texts rest) (by omega), hrest]

theorem read_joined (h : ReadsParts read closing spells) (hparts : List.Forall₂ spells texts parts) {fuel : Nat}
    (hfuel : (joined [','] texts).length < fuel) (rest : List Char) :
    read fuel true (joined [','] texts ++ closing :: rest) = (parts, .closed, some rest) := by
  obtain ⟨fuel, rfl⟩ := Nat.exists_eq_add_one_of_ne_zero (Nat.ne_of_gt (Nat.zero_lt_of_lt hfuel))
  cases hparts with
  | nil => exact h.close fuel true rest
  | @cons text part texts parts hpart hparts =>
      -- The first part is not empty, so one step less is enough for what follows it.
      have hpos := List.length_pos_iff.2 (h.ne_nil hpart)
      rw [joined_cons, List.length_append] at hfuel
      have hrest := h.read_flatMap hparts (show _ < fuel by omega) rest
      rw [joined_cons, List.append_assoc, h.start hpart (h.endsValue texts rest) (by omega), hrest]

end ReadsParts

theorem readsParts_items : ReadsParts readItems ']' Spells where
  ends := by decide
  ne_nil := by
    intro text v hv
    obtain ⟨c, s, rfl, -, -⟩ := hv.starts
    exact List.cons_ne_nil c s
  close := by
    intro fuel first rest
    rw [readItems, dropSpace_cons (by decide)]
    rfl
  start := by
    intro text v rest fuel hv hrest hfuel
    have hvalue := hv.reads hrest hfuel
    obtain ⟨c, s, rfl, hspace, hc⟩ := hv.starts
    rw [List.cons_append] at hvalue ⊢
    rw [readItems, dropSpace_cons hspace]
    simp [hvalue]
  comma := by
    intro text v rest fuel hv hrest hfuel
    have hvalue := hv.reads hrest hfuel
    obtain ⟨c, s, rfl, hspace, hc⟩ := hv.starts
    rw [List.cons_append] at hvalue ⊢
    rw [readItems, dropSpace_cons (by decide)]
    simp only [Char.reduceEq, imp_self, Bool.false_eq_true, if_false, if_true, dropSpace_cons hspace]
    split <;> simp_all

theorem readsParts_members : ReadsParts readMembers '}' SpellsMember where
  ends := by decide
  ne_nil := by
    rintro _ _ ⟨⟩
    exact List.append_ne_nil_of_right_ne_nil _ (List.cons_ne_nil _ _)
  close := by
    intro fuel first rest
    rw [readMembers, dropSpace_cons (by decide)]
    rfl
  start := by
    intro text m rest fuel hm hrest hfuel
    obtain ⟨s, s', t, t', hmark, hkey, hcolon, hvalue, hnext⟩ := hm.reads hrest hfuel
    rw [readMembers, hmark]
    simp [hkey, hcolon, hvalue, hnext]
  comma := by
    intro text m rest fuel hm hrest hfuel
    obtain ⟨s, s', t, t', hmark, hkey, hcolon, hvalue, hnext⟩ := hm.reads hrest hfuel
    rw [readMembers, dropSpace_cons (by decide)]
    simp [hmark, hkey, hcolon, hvalue, hnext]

theorem spells_array {texts : List (List Char)} {vs : List Reading} (h : List.Forall₂ Spells texts vs) :
    Spells ('[' :: joined [','] texts ++ [']']) (.array vs .closed) := by
  refine ⟨⟨_, _, rfl, rfl, by decide⟩, ?_⟩
  intro rest fuel _ hfuel
  rw [List.cons_append, List.length_cons, List.length_append, List.length_singleton] at hfuel
  obtain ⟨fuel, rfl⟩ := Nat.exists_eq_add_one_of_ne_zero (show fuel ≠ 0 by omega)
  have hitems := readsParts_items.read_joined h (show _ < fuel by omega) rest
  rw [List.cons_append, List.cons_append, List.append_assoc, List.singleton_append, readValue,
    dropSpace_cons (by decide)]
  simp [hitems]

theorem spells_object {texts : List (List Char)} {ms : List (Option String × Reading)}
    (h : List.Forall₂ SpellsMember texts ms) : Spells ('{' :: joined [','] texts ++ ['}']) (.object ms .closed) := by
  refine ⟨⟨_, _, rfl, rfl, by decide⟩, ?_⟩
  intro rest fuel _ hfuel
  rw [List.cons_append, List.length_cons, List.length_append, List.length_singleton] at hfuel
  obtain ⟨fuel, rfl⟩ := Nat.exists_eq_add_one_of_ne_zero (show fuel ≠ 0 by omega)
  have hmembers := readsParts_members.read_joined h (show _ < fuel by omega) rest
  rw [List.cons_append, List.cons_append, List.append_assoc, List.singleton_append, readValue,
    dropSpace_cons (by decide)]
  simp [hmembers]

/-- A compact member is written without gaps. -/
theorem compactMember_eq (key : String) (v : Json) :
    compactMember (key, v) = [] ++ textChars key ++ [] ++ ':' :: ([] ++ compactChars v ++ []) := by
  simp [compactMember]

mutual

theorem spells_compactChars : (v : Json) → Spells (compactChars v) v.reading
  | .text s => spells_text s
  | .number n => spells_number n
  | .bool b => spells_bool b
  | .array items => spells_array (spells_compactItems items)
  | .object members => spells_object (spells_compactMembers members)
termination_by structural v => v

theorem spells_compactItems : (items : List Json) → List.Forall₂ Spells (compactItems items) (readingItems items)
  | [] => .nil
  | v :: items => .cons (spells_compactChars v) (spells_compactItems items)
termination_by structural items => items

theorem spells_compactMembers :
    (members : List (String × Json)) → List.Forall₂ SpellsMember (compactMembers members) (readingMembers members)
  | [] => .nil
  | m :: members => .cons (spells_compactMember m) (spells_compactMembers members)
termination_by structural members => members

theorem spells_compactMember : (m : String × Json) → SpellsMember (compactMember m) (readingMember m)
  | (key, v) => by
    rw [compactMember_eq]
    exact .intro spaces_nil spaces_nil spaces_nil spaces_nil (spells_compactChars v)
termination_by structural m => m

end

/-- Decoding a text is decoding what it is read as. -/
theorem Spells.decodeText {text : List Char} {v : Reading} (h : Spells text v) {α : Type}
    (decode : Reading → Decoded α) : decodeText decode text = decode v := by
  have hfuel : text.length ≤ 2 * text.length + 2 := by omega
  have hread := h.reads endsValue_nil hfuel
  rw [List.append_nil] at hread
  rw [Json.decodeText, Reading.ofChars, hread]
  dsimp only
  cases decode v with
  | error e => rfl
  | ok a => rfl

theorem decodeText_compact {α : Type} (decode : Reading → Decoded α) (v : Json) :
    decodeText decode v.compact.toList = decode v.reading := by
  rw [compact, String.toList_ofList, (spells_compactChars v).decodeText]

/-! ### Lines -/

theorem newline_not_mem_escape (c : Char) : '\n' ∉ escape c := by
  unfold escape
  split
  case h_8 hnewline _ _ _ _ =>
    split
    · rename_i hcontrol
      have hdigit : ∀ d < 16, '\n' ≠ Nat.digitChar d := by decide
      have hhigh := hdigit (c.toNat / 16) (by omega)
      have hlow := hdigit (c.toNat % 16) (by omega)
      simp [hhigh, hlow]
    · exact fun hc => hnewline (List.mem_singleton.1 hc).symm
  all_goals decide

theorem newline_not_mem_textChars (s : String) : '\n' ∉ textChars s := by
  simp [textChars, newline_not_mem_escape]

theorem newline_not_mem_toDigits (n : Nat) : '\n' ∉ Nat.toDigits 10 n := by
  intro hc
  have hdigit := isDigit_of_mem_toDigits hc
  cases hdigit

theorem newline_not_mem_joined {texts : List (List Char)} (h : ∀ text ∈ texts, '\n' ∉ text) :
    '\n' ∉ joined [','] texts := by
  cases texts with
  | nil => exact List.not_mem_nil
  | cons text texts =>
      obtain ⟨htext, htexts⟩ := List.forall_mem_cons.1 h
      simpa [joined_cons, htext] using htexts

mutual

/-- The compact text of a value stays on one line. -/
theorem newline_not_mem_compactChars : (v : Json) → '\n' ∉ compactChars v
  | .text s => newline_not_mem_textChars s
  | .number n => newline_not_mem_toDigits n
  | .bool b => by cases b <;> simp [compactChars, boolChars]
  | .array items => by
    have hitems := newline_not_mem_joined (newline_not_mem_compactItems items)
    simp [compactChars, hitems]
  | .object members => by
    have hmembers := newline_not_mem_joined (newline_not_mem_compactMembers members)
    simp [compactChars, hmembers]
termination_by structural v => v

theorem newline_not_mem_compactItems : (items : List Json) → ∀ text ∈ compactItems items, '\n' ∉ text
  | [] => List.forall_mem_nil _
  | v :: items =>
    List.forall_mem_cons.2 ⟨newline_not_mem_compactChars v, newline_not_mem_compactItems items⟩
termination_by structural items => items

theorem newline_not_mem_compactMembers :
    (members : List (String × Json)) → ∀ text ∈ compactMembers members, '\n' ∉ text
  | [] => List.forall_mem_nil _
  | m :: members =>
    List.forall_mem_cons.2 ⟨newline_not_mem_compactMember m, newline_not_mem_compactMembers members⟩
termination_by structural members => members

theorem newline_not_mem_compactMember : (m : String × Json) → '\n' ∉ compactMember m
  | (key, v) => by
    have hv := newline_not_mem_compactChars v
    simp [compactMember, newline_not_mem_textChars key, hv]
termination_by structural m => m

end

end Roster.Json
