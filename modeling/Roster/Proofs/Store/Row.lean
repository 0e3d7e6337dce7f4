import Mathlib.Data.List.Forall2
import Roster.Proofs.Calendar.Text
import Roster.Proofs.Clock.Text
import Roster.Store.Row
/-!
# Rows of records and of any texts

Every column that a record writes is read as what was written: identifiers because they are not empty, dates and times
because their texts are read back (`Date.ofText_toText`, `TimeOfDay.ofText_toText`), kinds by their names.

A row is checked column by column. The order is that of the record's fields for works and breaks; for changes, the
identifier and the work come last (`WorkRow.checks`, `ChangeRow.checks`, `BreakRow.checks`). Reading *follows* a list
of checks if it fails where the first one fails, with the error of that one (`Follows`). This goes through a sequence
of readings (`Follows.bind`) and through a list of rows (`Follows.mapM`).
-/

namespace Roster

/-! ### Records are read back -/

namespace Table

variable (table : Table)

theorem ident_text {kind : IdentKind} (id : Ident kind) : table.ident kind id.text = .ok id := by
  rw [ident, Ident.ofText_text]

theorem date_toText (id : String) (d : Date) : table.date id d.toText = .ok d := by
  rw [date, Date.ofText_toText]

theorem time_toText (id : String) (column : Column) (t : TimeOfDay) : table.time id column t.toText = .ok t := by
  rw [time, TimeOfDay.ofText_toText]

theorem kind_name (id : String) (kind : ChangeKind) : table.kind id kind.name = .ok kind := by
  rw [Table.kind, ChangeKind.ofName?_name]

theorem mapM_ident_text {kind : IdentKind} (id : Option (Ident kind)) :
    (id.map Ident.text).mapM (table.ident kind) = .ok id := by
  cases id with
  | none => rfl
  | some id =>
      rw [Option.map_some, Option.mapM_some, ident_text]
      rfl

end Table

theorem WorkRow.toWork_ofWork (w : Work) : (ofWork w).toWork = .ok w := by
  simp only [toWork, ofWork, Table.ident_text, Table.date_toText, Table.time_toText, bind, Except.bind]

theorem ChangeRow.toChange_ofChange (c : Change) : (ofChange c).toChange = .ok c := by
  simp only [toChange, ofChange, Table.kind_name, Table.mapM_ident_text, Table.time_toText, Table.ident_text, bind,
    Except.bind]

theorem BreakRow.toBreak_ofBreak (b : Break) : (ofBreak b).toBreak = .ok b := by
  simp only [toBreak, ofBreak, Table.ident_text, Table.date_toText, Table.time_toText, bind, Except.bind]

/-! ### What is checked of a row -/

/-- A condition on a row, and the error that is reported if it does not hold. -/
structure RowCheck where
  passes : Bool
  fault : StoreError

namespace RowCheck

def ident (table : Table) (kind : IdentKind) (value : String) : RowCheck :=
  ⟨value ≠ "", .invalidIdent table ⟨kind⟩⟩

def date (table : Table) (id value : String) : RowCheck :=
  ⟨(Date.ofText .tight value).isOk, .invalidField table id .date value⟩

def time (table : Table) (id : String) (column : Column) (value : String) : RowCheck :=
  ⟨(TimeOfDay.ofText .tight value).isOk, .invalidField table id column value⟩

def kind (table : Table) (id value : String) : RowCheck :=
  ⟨(ChangeKind.ofName? value).isSome, .invalidField table id .kind value⟩

end RowCheck

def WorkRow.checks (r : WorkRow) : List RowCheck :=
  [.ident .works .work r.id, .ident .works .client r.client, .ident .works .shift r.shift, .date .works r.id r.date,
    .time .works r.id .start r.start, .time .works r.id .finish r.finish]

def ChangeRow.checks (r : ChangeRow) : List RowCheck :=
  .kind .changes r.id r.kind :: r.replacement.toList.map (.ident .changes .client) ++
    [.time .changes r.id .start r.start, .time .changes r.id .finish r.finish, .ident .changes .change r.id,
      .ident .changes .work r.work]

def BreakRow.checks (r : BreakRow) : List RowCheck :=
  [.ident .breaks .break r.id, .ident .breaks .client r.client, .date .breaks r.id r.date,
    .time .breaks r.id .start r.start, .time .breaks r.id .finish r.finish]

/-! ### The first check that fails -/

def firstFault (checks : List RowCheck) : Option StoreError := (checks.find? fun c => !c.passes).map RowCheck.fault

theorem firstFault_append (checks later : List RowCheck) :
    firstFault (checks ++ later) = (firstFault checks).or (firstFault later) := by
  rw [firstFault, List.find?_append, Option.map_or]
  rfl

theorem firstFault_eq_none_iff {checks : List RowCheck} : firstFault checks = none ↔ ∀ c ∈ checks, c.passes := by
  simp [firstFault]

/-- Reading fails exactly if one of the checks does, with the error of the first that does. -/
def Follows {α : Type} (result : Except StoreError α) (checks : List RowCheck) : Prop :=
  ∀ e, result = .error e ↔ firstFault checks = some e

section Follows

variable {α β : Type}

theorem follows_ok (a : α) : Follows (.ok a) [] := fun _ => iff_of_false nofun nofun

theorem follows_singleton {result : Except StoreError α} {c : RowCheck}
    (hok : c.passes = true → ∃ a, result = .ok a) (herror : c.passes = false → result = .error c.fault) :
    Follows result [c] := by
  intro e
  cases hpasses : c.passes with
  | true =>
      obtain ⟨a, rfl⟩ := hok hpasses
      simp [firstFault, hpasses]
  | false => simp [firstFault, hpasses, herror hpasses]

theorem Follows.firstFault_of_ok {a : α} {checks : List RowCheck} (h : Follows (.ok a) checks) :
    firstFault checks = none :=
  Option.eq_none_iff_forall_not_mem.2 fun e he => nomatch (h e).2 he

theorem Follows.bind {x : Except StoreError α} {f : α → Except StoreError β} {checks later : List RowCheck}
    (hx : Follows x checks) (hf : ∀ a, Follows (f a) later) : Follows (x >>= f) (checks ++ later) := by
  intro e
  rw [firstFault_append]
  cases x with
  | error fault =>
      have hfault : firstFault checks = some fault := (hx fault).1 rfl
      rw [hfault, Option.some_or, Option.some.injEq]
      exact Except.error.injEq fault e ▸ Iff.rfl
  | ok a =>
      rw [hx.firstFault_of_ok, Option.none_or]
      exact hf a e

theorem Follows.mapM {read : α → Except StoreError β} {checks : α → List RowCheck}
    (h : ∀ r, Follows (read r) (checks r)) (rows : List α) : Follows (rows.mapM read) (rows.flatMap checks) := by
  induction rows with
  | nil => exact follows_ok []
  | cons r rows ih =>
      rw [List.mapM_cons, List.flatMap_cons]
      refine (h r).bind fun x => ?_
      rw [← List.append_nil (rows.flatMap checks)]
      exact ih.bind fun xs => follows_ok (x :: xs)

theorem Follows.exists_ok_iff {result : Except StoreError α} {checks : List RowCheck} (h : Follows result checks) :
    (∃ a, result = .ok a) ↔ ∀ c ∈ checks, c.passes := by
  rw [← firstFault_eq_none_iff]
  cases result with
  | ok a => exact iff_of_true ⟨a, rfl⟩ h.firstFault_of_ok
  | error e => simp [(h e).1 rfl]

end Follows

/-! ### Columns -/

namespace Table

variable (table : Table)

theorem ident_follows (kind : IdentKind) (value : String) : Follows (table.ident kind value) [.ident table kind value] := by
  apply follows_singleton
  · intro hvalue
    have hne : value ≠ "" := of_decide_eq_true hvalue
    exact ⟨_, by rw [ident, Ident.ofText, dif_pos hne]⟩
  · intro hvalue
    have hempty : ¬ value ≠ "" := of_decide_eq_false hvalue
    rw [ident, Ident.ofText, dif_neg hempty]
    rfl

theorem date_follows (id value : String) : Follows (table.date id value) [.date table id value] := by
  unfold date RowCheck.date
  apply follows_singleton <;> cases Date.ofText .tight value <;> simp [Except.isOk, Except.toBool]

theorem time_follows (id : String) (column : Column) (value : String) :
    Follows (table.time id column value) [.time table id column value] := by
  unfold time RowCheck.time
  apply follows_singleton <;> cases TimeOfDay.ofText .tight value <;> simp [Except.isOk, Except.toBool]

theorem kind_follows (id value : String) : Follows (table.kind id value) [.kind table id value] := by
  unfold Table.kind RowCheck.kind
  apply follows_singleton <;> cases ChangeKind.ofName? value <;> simp

theorem mapM_ident_follows (kind : IdentKind) (value : Option String) :
    Follows (value.mapM (table.ident kind)) (value.toList.map (.ident table kind)) := by
  cases value with
  | none => exact follows_ok none
  | some value =>
      rw [Option.mapM_some, ← bind_pure_comp]
      exact (table.ident_follows kind value).bind fun _ => follows_ok _

end Table

/-! ### Rows -/

theorem WorkRow.toWork_follows (r : WorkRow) : Follows r.toWork r.checks :=
  (Table.works.ident_follows .work r.id).bind fun _ =>
  (Table.works.ident_follows .client r.client).bind fun _ =>
  (Table.works.ident_follows .shift r.shift).bind fun _ =>
  (Table.works.date_follows r.id r.date).bind fun _ =>
  (Table.works.time_follows r.id .start r.start).bind fun _ =>
  (Table.works.time_follows r.id .finish r.finish).bind fun _ => follows_ok _

theorem ChangeRow.toChange_follows (r : ChangeRow) : Follows r.toChange r.checks :=
  (Table.changes.kind_follows r.id r.kind).bind fun _ =>
  (Table.changes.mapM_ident_follows .client r.replacement).bind fun _ =>
  (Table.changes.time_follows r.id .start r.start).bind fun _ =>
  (Table.changes.time_follows r.id .finish r.finish).bind fun _ =>
  (Table.changes.ident_follows .change r.id).bind fun _ =>
  (Table.changes.ident_follows .work r.work).bind fun _ => follows_ok _

theorem BreakRow.toBreak_follows (r : BreakRow) : Follows r.toBreak r.checks :=
  (Table.breaks.ident_follows .break r.id).bind fun _ =>
  (Table.breaks.ident_follows .client r.client).bind fun _ =>
  (Table.breaks.date_follows r.id r.date).bind fun _ =>
  (Table.breaks.time_follows r.id .start r.start).bind fun _ =>
  (Table.breaks.time_follows r.id .finish r.finish).bind fun _ => follows_ok _

/-! ### What is read -/

/-- The columns of the row spell the fields of the work. -/
structure WorkRow.Spells (r : WorkRow) (w : Work) : Prop where
  id : r.id = w.id.text
  client : r.client = w.client.text
  shift : r.shift = w.shift.text
  date : Date.ofText .tight r.date = .ok w.date
  start : TimeOfDay.ofText .tight r.start = .ok w.start
  finish : TimeOfDay.ofText .tight r.finish = .ok w.finish

structure ChangeRow.Spells (r : ChangeRow) (c : Change) : Prop where
  kind : r.kind = c.kind.name
  replacement : r.replacement = c.replacement.map Ident.text
  start : TimeOfDay.ofText .tight r.start = .ok c.start
  finish : TimeOfDay.ofText .tight r.finish = .ok c.finish
  id : r.id = c.id.text
  work : r.work = c.work.text

structure BreakRow.Spells (r : BreakRow) (b : Break) : Prop where
  id : r.id = b.id.text
  client : r.client = b.client.text
  date : Date.ofText .tight r.date = .ok b.date
  start : TimeOfDay.ofText .tight r.start = .ok b.start
  finish : TimeOfDay.ofText .tight r.finish = .ok b.finish

theorem mapM_eq_ok_iff {ε α β : Type} {read : α → Except ε β} {rows : List α} {xs : List β} :
    rows.mapM read = .ok xs ↔ List.Forall₂ (fun r x => read r = .ok x) rows xs := by
  induction rows generalizing xs with
  | nil =>
      rw [List.forall₂_nil_left_iff]
      exact ⟨fun h => (Except.ok.inj h).symm, fun h => h ▸ rfl⟩
  | cons r rows ih =>
      simp only [List.mapM_cons, Text.bind_eq_ok_iff, List.forall₂_cons_left_iff, ih]
      constructor
      · rintro ⟨x, hx, xs, hxs, ⟨⟩⟩
        exact ⟨x, xs, hx, hxs, rfl⟩
      · rintro ⟨x, xs, hx, hxs, rfl⟩
        exact ⟨x, hx, xs, hxs, rfl⟩

namespace Table

variable {table : Table}

theorem ident_eq_ok_iff {kind : IdentKind} {value : String} {id : Ident kind} :
    table.ident kind value = .ok id ↔ value = id.text := by
  constructor
  · intro h
    by_cases hvalue : value ≠ ""
    · rw [ident, Ident.ofText, dif_pos hvalue] at h
      exact congrArg Ident.text (Except.ok.inj h)
    · rw [ident, Ident.ofText, dif_neg hvalue] at h
      cases h
  · rintro rfl
    exact table.ident_text id

theorem date_eq_ok_iff {id value : String} {d : Date} :
    table.date id value = .ok d ↔ Date.ofText .tight value = .ok d := by
  unfold date
  cases Date.ofText .tight value <;> simp

theorem time_eq_ok_iff {id : String} {column : Column} {value : String} {t : TimeOfDay} :
    table.time id column value = .ok t ↔ TimeOfDay.ofText .tight value = .ok t := by
  unfold time
  cases TimeOfDay.ofText .tight value <;> simp

theorem kind_eq_ok_iff {id value : String} {kind : ChangeKind} : table.kind id value = .ok kind ↔ value = kind.name := by
  constructor
  · intro h
    apply ChangeKind.eq_name_of_ofName?
    unfold Table.kind at h
    cases hkind : ChangeKind.ofName? value with
    | none => rw [hkind] at h; cases h
    | some found => rw [hkind] at h; cases h; rfl
  · rintro rfl
    exact table.kind_name id kind

theorem mapM_ident_eq_ok_iff {kind : IdentKind} {value : Option String} {id : Option (Ident kind)} :
    value.mapM (table.ident kind) = .ok id ↔ value = id.map Ident.text := by
  constructor
  · intro h
    cases value with
    | none => cases h; rfl
    | some value =>
        rw [Option.mapM_some, ← bind_pure_comp, Text.bind_eq_ok_iff] at h
        obtain ⟨id, hid, ⟨⟩⟩ := h
        exact congrArg some (ident_eq_ok_iff.1 hid)
  · rintro rfl
    exact table.mapM_ident_text id

end Table

theorem WorkRow.toWork_eq_ok_iff {r : WorkRow} {w : Work} : r.toWork = .ok w ↔ r.Spells w := by
  simp only [toWork, Text.bind_eq_ok_iff, Table.ident_eq_ok_iff, Table.date_eq_ok_iff, Table.time_eq_ok_iff]
  constructor
  · rintro ⟨id, hid, client, hclient, shift, hshift, date, hdate, start, hstart, finish, hfinish, ⟨⟩⟩
    exact ⟨hid, hclient, hshift, hdate, hstart, hfinish⟩
  · intro h
    exact ⟨_, h.id, _, h.client, _, h.shift, _, h.date, _, h.start, _, h.finish, rfl⟩

theorem ChangeRow.toChange_eq_ok_iff {r : ChangeRow} {c : Change} : r.toChange = .ok c ↔ r.Spells c := by
  simp only [toChange, Text.bind_eq_ok_iff, Table.ident_eq_ok_iff, Table.kind_eq_ok_iff, Table.time_eq_ok_iff,
    Table.mapM_ident_eq_ok_iff]
  constructor
  · rintro ⟨kind, hkind, replacement, hreplacement, start, hstart, finish, hfinish, id, hid, work, hwork, ⟨⟩⟩
    exact ⟨hkind, hreplacement, hstart, hfinish, hid, hwork⟩
  · intro h
    exact ⟨_, h.kind, _, h.replacement, _, h.start, _, h.finish, _, h.id, _, h.work, rfl⟩

theorem BreakRow.toBreak_eq_ok_iff {r : BreakRow} {b : Break} : r.toBreak = .ok b ↔ r.Spells b := by
  simp only [toBreak, Text.bind_eq_ok_iff, Table.ident_eq_ok_iff, Table.date_eq_ok_iff, Table.time_eq_ok_iff]
  constructor
  · rintro ⟨id, hid, client, hclient, date, hdate, start, hstart, finish, hfinish, ⟨⟩⟩
    exact ⟨hid, hclient, hdate, hstart, hfinish⟩
  · intro h
    exact ⟨_, h.id, _, h.client, _, h.date, _, h.start, _, h.finish, rfl⟩

end Roster
