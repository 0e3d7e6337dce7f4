import Roster.Proofs.Calendar.Text
import Roster.Proofs.Clock.Text
import Roster.Proofs.Json.Compact
import Roster.Record.Json
/-!
# Records are read back from their JSON texts

A form puts one member after the other into its draft. The draft of a record depends only on which members have been
read (`Form.Fills`), so the members of its object may come in any order, and once all are there the draft is finished as
the record (`Form.Fills.decode`). Each field is read back by the reader of its type, and lists of records item by item.
What is written as a compact text is therefore read back (`Json.decodeText_compact`), for every record and every record
set (`records_round_trip`).
-/

namespace Roster

open Json

/-! ### Values of fields -/

namespace Json.Reading

theorem asIdent_text {kind : IdentKind} (id : Ident kind) : asIdent kind (.text (some id.text)) = .ok id := by
  have htext : asText "a string" (.text (some id.text)) = .ok id.text := rfl
  rw [asIdent, Text.bind_of_eq_ok htext, Ident.ofText_text]

theorem asDate_text (d : Date) : asDate (.text (some d.toText)) = .ok d := by
  have htext : asText "a formatted date string" (.text (some d.toText)) = .ok d.toText := rfl
  rw [asDate, Text.bind_of_eq_ok htext, Date.ofText_toText]

theorem asTime_text (t : TimeOfDay) : asTime (.text (some t.toText)) = .ok t := by
  have htext : asText "a formatted time string" (.text (some t.toText)) = .ok t.toText := rfl
  rw [asTime, Text.bind_of_eq_ok htext, TimeOfDay.ofText_toText]

theorem asOptional_text {kind : IdentKind} (id : Ident kind) :
    asOptional (asIdent kind) (.text (some id.text)) = .ok (some id) := by
  rw [asOptional, asIdent_text]
  · rfl
  · exact Reading.noConfusion

theorem asList_array {α : Type} {toJson : α → Json} {decode : Reading → Decoded α}
    (h : ∀ a, decode (toJson a).reading = .ok a) (xs : List α) :
    asList decode (Json.array (xs.map toJson)).reading = .ok xs := by
  have hitems : (readingItems (xs.map toJson)).mapM decode = .ok xs := by
    rw [readingItems_eq_map, List.map_map]
    exact Text.mapM_map_of_eq_ok h xs
  rw [reading, asList, Text.bind_of_eq_ok hitems]
  rfl

end Json.Reading

theorem ChangeKind.decode_text (mode : Mode) (kind : ChangeKind) : decode mode (.text (some kind.name)) = .ok kind := by
  have hkey : ofKey kind.name = .ok kind := by rw [ofKey, ofName?_name]
  cases mode with
  | direct => rw [decode, decodeDirect, hkey]
  | buffered => rw [decode, decodeBuffered, hkey]

/-! ### Members in any order -/

namespace Json.Form

variable {δ α : Type}

/-- The members from which the form gathers the value. A draft is known from the keys that have been read, and it may be
finished once all have. -/
structure Fills (form : Form δ α) (mode : Mode) (members : List (String × Json)) (draft : List String → δ) (a : α) :
    Prop where
  keys : (members.map Prod.fst).Nodup
  fields : ∀ m ∈ members, m.1 ∈ form.fields
  blank : form.blank = draft []
  put : ∀ m ∈ members, ∀ done : List String, m.1 ∉ done →
    form.put mode (draft done) m.1 m.2.reading = .ok (draft (m.1 :: done))
  finish : ∀ done : List String, (∀ m ∈ members, m.1 ∈ done) → form.finish (draft done) = .ok a

variable {form : Form δ α} {mode : Mode} {members : List (String × Json)} {draft : List String → δ} {a : α}

theorem Fills.gatherMembers (h : form.Fills mode members draft a) {ms : List (String × Json)} (hsub : ms ⊆ members)
    (hkeys : (ms.map Prod.fst).Nodup) {done : List String} (hdone : ∀ m ∈ ms, m.1 ∉ done) :
    form.gatherMembers mode (draft done) (readingMembers ms) = .ok (draft ((ms.map Prod.fst).reverse ++ done)) := by
  induction ms generalizing done with
  | nil => rfl
  | cons m ms ih =>
      obtain ⟨hm, hsub⟩ := List.cons_subset.1 hsub
      obtain ⟨hfresh, hdone⟩ := List.forall_mem_cons.1 hdone
      rw [List.map_cons, List.nodup_cons] at hkeys
      have hput := h.put m hm done hfresh
      have hrest : ∀ m' ∈ ms, m'.1 ∉ m.1 :: done := by
        intro m' hm'
        rw [List.mem_cons, not_or]
        exact ⟨fun heq => hkeys.1 (heq ▸ List.mem_map_of_mem hm'), hdone m' hm'⟩
      rw [readingMembers, readingMember, Form.gatherMembers, if_pos (h.fields m hm), Text.bind_of_eq_ok hput,
        ih hsub hkeys.2 hrest, List.map_cons, List.reverse_cons, List.append_assoc, List.singleton_append]

/-- The object of a value decodes to it, in whatever order its members stand. -/
theorem Fills.decode (h : form.Fills mode members draft a) {ms : List (String × Json)} (hperm : ms.Perm members) :
    form.decode mode (Json.object ms).reading = .ok a := by
  have hkeys : (ms.map Prod.fst).Nodup := (hperm.map Prod.fst).nodup_iff.2 h.keys
  have hgather := h.gatherMembers hperm.subset hkeys (fun m _ => List.not_mem_nil (a := m.1))
  have hfinish : form.finish (draft ((ms.map Prod.fst).reverse ++ [])) = .ok a := by
    apply h.finish
    intro m hm
    rw [List.append_nil, List.mem_reverse]
    exact List.mem_map_of_mem (hperm.mem_iff.2 hm)
  rw [reading, Form.decode, h.blank, Text.bind_of_eq_ok hgather, ← hfinish]
  rfl

end Json.Form

/-! ### Records -/

namespace Work

/-- The draft of a work of which some members have been read. -/
def Draft.ofFields (w : Work) (done : List String) : Draft where
  id := if "id" ∈ done then some w.id else none
  client := if "client_id" ∈ done then some w.client else none
  shift := if "shift_id" ∈ done then some w.shift else none
  date := if "date" ∈ done then some w.date else none
  start := if "start" ∈ done then some w.start else none
  finish := if "end" ∈ done then some w.finish else none

theorem fills (w : Work) (mode : Mode) : form.Fills mode w.members (Draft.ofFields w) w where
  keys := by simp [members]
  fields := by simp [members, form]
  blank := by simp [form, Draft.ofFields]
  put := by
    simp only [members, List.forall_mem_cons, List.not_mem_nil, false_imp_iff, implies_true, and_true]
    refine ⟨?_, ?_, ?_, ?_, ?_, ?_⟩ <;>
      · intro done hdone
        simp [form, Draft.put, Draft.ofFields, once, hdone, reading, Reading.asIdent_text, Reading.asDate_text,
          Reading.asTime_text, Except.map]
  finish := by
    intro done hdone
    simp only [members, List.forall_mem_cons] at hdone
    simp [form, Draft.finishWork, Draft.ofFields, hdone, given, bind, Except.bind]

theorem decode_toJson (w : Work) (mode : Mode) : decode mode w.toJson.reading = .ok w :=
  (w.fills mode).decode (List.Perm.refl _)

end Work

namespace Change

/-- The draft of a change of which some members have been read. -/
def Draft.ofFields (c : Change) (done : List String) : Draft where
  id := if "id" ∈ done then some c.id else none
  work := if "work_id" ∈ done then some c.work else none
  kind := if "kind" ∈ done then some c.kind else none
  start := if "start" ∈ done then some c.start else none
  finish := if "end" ∈ done then some c.finish else none
  replacement := if "replacement_client_id" ∈ done then some c.replacement else none

theorem fills (c : Change) (mode : Mode) : form.Fills mode c.members (Draft.ofFields c) c where
  keys := by
    cases hreplacement : c.replacement <;> simp [members, hreplacement]
  fields := by
    cases hreplacement : c.replacement <;> simp [members, hreplacement, form]
  blank := by simp [form, Draft.ofFields]
  put := by
    have hreplacement : ∀ client ∈ c.replacement, ∀ done : List String, "replacement_client_id" ∉ done →
        form.put mode (Draft.ofFields c done) "replacement_client_id" (Json.text client.text).reading =
          .ok (Draft.ofFields c ("replacement_client_id" :: done)) := by
      intro client hclient done hdone
      have hclient : c.replacement = some client := hclient
      simp [form, Draft.put, Draft.ofFields, once, hdone, reading, Reading.asOptional_text, hclient, Except.map]
    simp only [members, List.forall_mem_append, List.forall_mem_cons, List.not_mem_nil, false_imp_iff, implies_true,
      and_true]
    refine ⟨⟨?_, ?_, ?_, ?_, ?_⟩, ?_⟩
    case refine_6 =>
      cases h : c.replacement with
      | none => exact List.forall_mem_nil _
      | some client => exact List.forall_mem_singleton.2 (hreplacement client h)
    all_goals
      intro done hdone
      simp [form, Draft.put, Draft.ofFields, once, hdone, reading, Reading.asIdent_text, ChangeKind.decode_text,
        Reading.asTime_text, Except.map]
  finish := by
    intro done hdone
    have hreplacement : (Draft.ofFields c done).replacement.getD none = c.replacement := by
      by_cases hread : "replacement_client_id" ∈ done
      · simp [Draft.ofFields, hread]
      · cases h : c.replacement with
        | none => simp [Draft.ofFields, hread]
        | some client =>
            have hmem : ("replacement_client_id", Json.text client.text) ∈ c.members := by simp [members, h]
            exact absurd (hdone _ hmem) hread
    simp only [members, List.forall_mem_append, List.forall_mem_cons] at hdone
    simp only [form, Draft.finishChange, hreplacement]
    simp [Draft.ofFields, hdone, given, bind, Except.bind]

theorem decode_toJson (c : Change) (mode : Mode) : decode mode c.toJson.reading = .ok c :=
  (c.fills mode).decode (List.Perm.refl _)

end Change

namespace Break

/-- The draft of a break of which some members have been read. -/
def Draft.ofFields (b : Break) (done : List String) : Draft where
  id := if "id" ∈ done then some b.id else none
  client := if "client_id" ∈ done then some b.client else none
  date := if "date" ∈ done then some b.date else none
  start := if "start" ∈ done then some b.start else none
  finish := if "end" ∈ done then some b.finish else none

theorem fills (b : Break) (mode : Mode) : form.Fills mode b.members (Draft.ofFields b) b where
  keys := by simp [members]
  fields := by simp [members, form]
  blank := by simp [form, Draft.ofFields]
  put := by
    simp only [members, List.forall_mem_cons, List.not_mem_nil, false_imp_iff, implies_true, and_true]
    refine ⟨?_, ?_, ?_, ?_, ?_⟩ <;>
      · intro done hdone
        simp [form, Draft.put, Draft.ofFields, once, hdone, reading, Reading.asIdent_text, Reading.asDate_text,
          Reading.asTime_text, Except.map]
  finish := by
    intro done hdone
    simp only [members, List.forall_mem_cons] at hdone
    simp [form, Draft.finishBreak, Draft.ofFields, hdone, given, bind, Except.bind]

theorem decode_toJson (b : Break) (mode : Mode) : decode mode b.toJson.reading = .ok b :=
  (b.fills mode).decode (List.Perm.refl _)

end Break

namespace RecordSet

/-- The draft of a record set of which some members have been read. -/
def Draft.ofFields (r : RecordSet) (done : List String) : Draft where
  works := if "works" ∈ done then some r.works else none
  changes := if "changes" ∈ done then some r.changes else none
  breaks := if "breaks" ∈ done then some r.breaks else none

theorem decode_toJson (r : RecordSet) (mode : Mode) : decode mode r.toJson.reading = .ok r := by
  have hworks := Reading.asList_array (fun w => Work.decode_toJson w mode) r.works
  have hchanges := Reading.asList_array (fun c => Change.decode_toJson c mode) r.changes
  have hbreaks := Reading.asList_array (fun b => Break.decode_toJson b mode) r.breaks
  have hfills : form.Fills mode [("works", .array (r.works.map Work.toJson)),
      ("changes", .array (r.changes.map Change.toJson)), ("breaks", .array (r.breaks.map Break.toJson))]
      (Draft.ofFields r) r := by
    constructor
    case keys => simp
    case fields => simp [form]
    case blank => simp [form, Draft.ofFields]
    case put =>
      simp only [List.forall_mem_cons, List.not_mem_nil, false_imp_iff, implies_true, and_true]
      refine ⟨?_, ?_, ?_⟩ <;>
        · intro done hdone
          simp [form, Draft.put, Draft.ofFields, once, hdone, hworks, hchanges, hbreaks, Except.map]
    case finish =>
      intro done hdone
      simp only [List.forall_mem_cons] at hdone
      simp [form, Draft.finishSet, Draft.ofFields, hdone]
  exact hfills.decode (List.Perm.refl _)

end RecordSet

/-! ### Texts -/

/-- What is written as a compact text is read back. So whatever text is read, writing what was read and reading that
again comes to the same. -/
structure Json.RoundTrips {α : Type} (decode : Reading → Decoded α) (toJson : α → Json) : Prop where
  written : ∀ a : α, decodeText decode (toJson a).compact.toList = .ok a
  read : ∀ text : List Char,
    (decodeText decode text >>= fun a => decodeText decode (toJson a).compact.toList) = decodeText decode text

theorem Json.roundTrips_of_decode_reading {α : Type} {decode : Reading → Decoded α} {toJson : α → Json}
    (h : ∀ a, decode (toJson a).reading = .ok a) : RoundTrips decode toJson := by
  have hwritten : ∀ a, decodeText decode (toJson a).compact.toList = .ok a := by
    intro a
    rw [decodeText_compact, h]
  refine ⟨hwritten, fun text => ?_⟩
  simp only [hwritten]
  cases decodeText decode text with
  | error e => rfl
  | ok a => rfl

/-- Works, changes, breaks and record sets are read back from their JSON texts. -/
theorem records_round_trip :
    RoundTrips (Work.decode .direct) Work.toJson ∧ RoundTrips (Change.decode .direct) Change.toJson ∧
      RoundTrips (Break.decode .direct) Break.toJson ∧ RoundTrips (RecordSet.decode .direct) RecordSet.toJson := by
  refine ⟨?_, ?_, ?_, ?_⟩
  · exact roundTrips_of_decode_reading fun w => w.decode_toJson .direct
  · exact roundTrips_of_decode_reading fun c => c.decode_toJson .direct
  · exact roundTrips_of_decode_reading fun b => b.decode_toJson .direct
  · exact roundTrips_of_decode_reading fun r => r.decode_toJson .direct

end Roster
