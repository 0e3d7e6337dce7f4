import Roster.Proofs.Record.RoundTrip
import Roster.Record.Tagged
/-!
# Tagged records decode in any order

The search for the tag takes it out of the members and leaves the others as they stand (`splitMembers_append`). So
wherever the tag is, what remains are the members of the record, from which its form gathers it (`decode_of_perm`).
-/

namespace Roster

open Json

theorem RecordTag.ofName?_name (tag : RecordTag) : ofName? tag.name = some tag := by
  cases tag <;> rfl

theorem RecordTag.decode_text (tag : RecordTag) : decode (.text (some tag.name)) = .ok tag := by
  rw [decode, ofName?_name]

namespace TaggedRecord

/-- The search for the tag passes over the member. -/
structure Passes (m : String × Json) : Prop where
  key : m.1 ≠ RecordTag.key
  fully : m.2.reading.readFully innerDepth = .ok ()

theorem passes_text {key : String} (hkey : key ≠ RecordTag.key) (s : String) : Passes (key, .text s) := ⟨hkey, rfl⟩

theorem passes_of_mem_members {r : TaggedRecord} {m : String × Json} (hm : m ∈ r.members) : Passes m := by
  revert m
  cases r with
  | work w =>
      simp only [members, Work.members, List.forall_mem_cons]
      refine ⟨?_, ?_, ?_, ?_, ?_, ?_, List.forall_mem_nil _⟩ <;> exact passes_text (by decide) _
  | change c =>
      simp only [members, Change.members, List.forall_mem_append, List.forall_mem_cons]
      refine ⟨⟨?_, ?_, ?_, ?_, ?_, List.forall_mem_nil _⟩, ?_⟩
      case refine_6 =>
        cases c.replacement with
        | none => exact List.forall_mem_nil _
        | some client => exact List.forall_mem_singleton.2 (passes_text (by decide) _)
      all_goals exact passes_text (by decide) _
  | «break» b =>
      simp only [members, Break.members, List.forall_mem_cons]
      refine ⟨?_, ?_, ?_, ?_, ?_, List.forall_mem_nil _⟩ <;> exact passes_text (by decide) _

variable {tag : Option RecordTag} {ms ms' : List (String × Json)}

/-- Members over which the search passes remain in front of what it leaves of the following. -/
theorem splitMembers_append (hms : ∀ m ∈ ms, Passes m) (rest : List (Option String × Reading)) :
    splitMembers tag (readingMembers ms ++ rest) =
      (splitMembers tag rest).map fun found => (found.1, readingMembers ms ++ found.2) := by
  induction ms with
  | nil =>
      simp only [readingMembers, List.nil_append]
      cases splitMembers tag rest <;> rfl
  | cons m ms ih =>
      obtain ⟨⟨hkey, hfully⟩, hms⟩ := List.forall_mem_cons.1 hms
      rw [readingMembers, readingMember, List.cons_append, splitMembers, if_neg hkey, hfully, ih hms]
      cases splitMembers tag rest <;> rfl

theorem splitMembers_of_passes (hms : ∀ m ∈ ms, Passes m) :
    splitMembers tag (readingMembers ms) = .ok (tag, readingMembers ms) := by
  rw [← List.append_nil (readingMembers ms), splitMembers_append hms, splitMembers, Except.map]

/-- The tag is found between the other members. -/
theorem splitMembers_tag (hms : ∀ m ∈ ms, Passes m) (hms' : ∀ m ∈ ms', Passes m) (tag : RecordTag) :
    splitMembers none (readingMembers (ms ++ (RecordTag.key, .text tag.name) :: ms')) =
      .ok (some tag, readingMembers (ms ++ ms')) := by
  have htag : once RecordTag.key none (RecordTag.decode (Json.text tag.name).reading) = .ok (some tag) := by
    rw [once, reading, RecordTag.decode_text, Except.map]
  rw [readingMembers_append, splitMembers_append hms, readingMembers, readingMember, splitMembers, if_pos rfl,
    Text.bind_of_eq_ok htag, splitMembers_of_passes hms', Except.map, ← readingMembers_append]

theorem split_tag (hms : ∀ m ∈ ms, Passes m) (hms' : ∀ m ∈ ms', Passes m) (tag : RecordTag) :
    split (Json.object (ms ++ (RecordTag.key, .text tag.name) :: ms')).reading =
      .ok (tag, (Json.object (ms ++ ms')).reading) := by
  rw [reading, split, Text.bind_of_eq_ok (splitMembers_tag hms hms' tag)]
  rfl

theorem decode_eq_of_split {v : Reading} {r : TaggedRecord} (hsplit : split v = .ok (r.tag, (Json.object ms).reading))
    (hperm : ms.Perm r.members) : decode v = .ok r := by
  rw [decode, Text.bind_of_eq_ok hsplit]
  cases r with
  | work w => exact congrArg (Except.map work) ((w.fills .buffered).decode hperm)
  | change c => exact congrArg (Except.map change) ((c.fills .buffered).decode hperm)
  | «break» b => exact congrArg (Except.map TaggedRecord.break) ((b.fills .buffered).decode hperm)

/-- The object of a record with its tag decodes to the record, in whatever order the members stand. -/
theorem decode_of_perm {r : TaggedRecord} (hperm : ms.Perm ((RecordTag.key, .text r.tag.name) :: r.members)) :
    decode (Json.object ms).reading = .ok r := by
  obtain ⟨before, after, rfl⟩ := List.append_of_mem (hperm.mem_iff.2 List.mem_cons_self)
  have hrest : (before ++ after).Perm r.members := (List.perm_middle.symm.trans hperm).cons_inv
  have hpasses : ∀ m ∈ before ++ after, Passes m := fun m hm => passes_of_mem_members (hrest.mem_iff.1 hm)
  obtain ⟨hbefore, hafter⟩ := List.forall_mem_append.1 hpasses
  exact decode_eq_of_split (split_tag hbefore hafter r.tag) hrest

end TaggedRecord

end Roster
