import Mathlib.Data.List.Nodup
import Roster.Proofs.Calendar.Text
import Roster.Store.Basic
/-!
# What a store holds

As long as records are only inserted, the tables hold the rows of a record set (`Store.holding`), and inserting a batch
into the rows is merging it into the records (`Store.insert_holding`). Merging keeps what is there, so the first record
of an identifier wins, and no two records of a kind share one (`RecordSet.Distinct.merge`). A run of batches into a new
store therefore stores distinct records (`Store.insertAll_empty`), each from one of the batches.
-/

namespace Roster

section AddRows

variable {α β : Type} (id : α → String)

theorem addRows_cons_of_mem {stored : List α} {x : α} (hx : id x ∈ stored.map id) (rows : List α) :
    addRows id stored (x :: rows) = addRows id stored rows := by
  have hany : (stored.any fun s => id s = id x) = true := by
    obtain ⟨s, hs, heq⟩ := List.mem_map.1 hx
    exact List.any_eq_true.2 ⟨s, hs, decide_eq_true heq⟩
  rw [addRows, if_pos hany]

theorem addRows_cons_of_not_mem {stored : List α} {x : α} (hx : id x ∉ stored.map id) (rows : List α) :
    addRows id stored (x :: rows) =
      ((addRows id (stored ++ [x]) rows).1, (addRows id (stored ++ [x]) rows).2 + 1) := by
  have hany : ¬ (stored.any fun s => id s = id x) = true := by
    intro hany
    obtain ⟨s, hs, heq⟩ := List.any_eq_true.1 hany
    exact hx (List.mem_map.2 ⟨s, hs, of_decide_eq_true heq⟩)
  rw [addRows, if_neg hany]

theorem addRows_map (f : β → α) (stored rows : List β) :
    addRows id (stored.map f) (rows.map f) =
      ((addRows (id ∘ f) stored rows).1.map f, (addRows (id ∘ f) stored rows).2) := by
  induction rows generalizing stored with
  | nil => rfl
  | cons x rows ih =>
      rw [List.map_cons]
      by_cases hx : id (f x) ∈ (stored.map f).map id
      · rw [addRows_cons_of_mem id hx, ih, addRows_cons_of_mem (id ∘ f) (by rwa [← List.map_map])]
      · have hrest := ih (stored ++ [x])
        rw [List.map_append, List.map_singleton] at hrest
        rw [addRows_cons_of_not_mem id hx, hrest, addRows_cons_of_not_mem (id ∘ f) (by rwa [← List.map_map])]

theorem mem_of_mem_addRows {stored rows : List α} {x : α} (hx : x ∈ (addRows id stored rows).1) :
    x ∈ stored ∨ x ∈ rows := by
  induction rows generalizing stored with
  | nil => exact .inl hx
  | cons y rows ih =>
      by_cases hy : id y ∈ stored.map id
      · rw [addRows_cons_of_mem id hy] at hx
        exact (ih hx).imp_right (List.mem_cons_of_mem y)
      · rw [addRows_cons_of_not_mem id hy] at hx
        rcases ih hx with hx | hx
        · rcases List.mem_append.1 hx with hx | hx
          · exact .inl hx
          · exact .inr (List.mem_cons.2 (.inl (List.mem_singleton.1 hx)))
        · exact .inr (List.mem_cons_of_mem y hx)

theorem nodup_map_append_singleton {stored : List α} (hstored : (stored.map id).Nodup) {x : α}
    (hx : id x ∉ stored.map id) : ((stored ++ [x]).map id).Nodup := by
  rw [List.map_append, List.map_singleton]
  exact List.nodup_append.2 ⟨hstored, List.nodup_singleton _, fun a ha b hb heq =>
    hx (List.mem_singleton.1 hb ▸ heq ▸ ha)⟩

theorem nodup_addRows {stored : List α} (hstored : (stored.map id).Nodup) (rows : List α) :
    ((addRows id stored rows).1.map id).Nodup := by
  induction rows generalizing stored with
  | nil => exact hstored
  | cons x rows ih =>
      by_cases hx : id x ∈ stored.map id
      · rw [addRows_cons_of_mem id hx]
        exact ih hstored
      · rw [addRows_cons_of_not_mem id hx]
        exact ih (nodup_map_append_singleton id hstored hx)

theorem addRows_of_nodup {stored rows : List α} (h : ((stored ++ rows).map id).Nodup) :
    addRows id stored rows = (stored ++ rows, rows.length) := by
  induction rows generalizing stored with
  | nil => rw [addRows, List.append_nil, List.length_nil]
  | cons x rows ih =>
      have hx : id x ∉ stored.map id := by
        rw [List.map_append, List.map_cons] at h
        intro hmem
        exact (List.nodup_append.1 h).2.2 _ hmem _ List.mem_cons_self rfl
      rw [addRows_cons_of_not_mem id hx, ih (by rwa [List.append_assoc, List.singleton_append]), List.append_assoc,
        List.singleton_append, List.length_cons]

/-- Under an identifier stands what came first. -/
theorem find?_addRows (stored rows : List α) (k : String) :
    ((addRows id stored rows).1.find? fun x => id x = k) = (stored ++ rows).find? fun x => id x = k := by
  induction rows generalizing stored with
  | nil => rw [addRows, List.append_nil]
  | cons x rows ih =>
      by_cases hx : id x ∈ stored.map id
      · rw [addRows_cons_of_mem id hx, ih, List.find?_append, List.find?_append]
        by_cases hk : id x = k
        · obtain ⟨s, hs, heq⟩ := List.mem_map.1 hx
          have hfound : (stored.find? fun x => id x = k).isSome = true :=
            List.find?_isSome.2 ⟨s, hs, decide_eq_true (heq.trans hk)⟩
          rw [Option.or_of_isSome hfound, Option.or_of_isSome hfound]
        · rw [List.find?_cons_of_neg (by simpa using hk)]
      · rw [addRows_cons_of_not_mem id hx, ih, List.append_assoc, List.singleton_append]

theorem find?_foldl_addRows (stored : List α) (batches : List (List α)) (k : String) :
    ((batches.foldl (fun stored rows => (addRows id stored rows).1) stored).find? fun x => id x = k) =
      (stored ++ batches.flatten).find? fun x => id x = k := by
  induction batches generalizing stored with
  | nil => rw [List.foldl_nil, List.flatten_nil, List.append_nil]
  | cons rows batches ih =>
      rw [List.foldl_cons, ih, List.find?_append, find?_addRows, ← List.find?_append, List.flatten_cons,
        List.append_assoc]

end AddRows

/-- Where identifiers are unique, looking one up finds its only bearer. -/
theorem find?_eq_some_iff_of_nodup {α β : Type} [DecidableEq β] {id : α → β} {rows : List α}
    (hrows : (rows.map id).Nodup) {k : β} {x : α} : (rows.find? fun y => id y = k) = some x ↔ x ∈ rows ∧ id x = k := by
  constructor
  · intro hfind
    exact ⟨List.mem_of_find?_eq_some hfind, by simpa using List.find?_some hfind⟩
  · intro h
    obtain ⟨hx, rfl⟩ := h
    cases hfind : rows.find? fun y => id y = id x with
    | none => exact absurd (decide_eq_true rfl) (List.find?_eq_none.1 hfind x hx)
    | some y =>
        have hid : id y = id x := by simpa using List.find?_some hfind
        rw [List.inj_on_of_nodup_map hrows (List.mem_of_find?_eq_some hfind) hx hid]

/-- What is joined by looking up references are the pairs of a row and a reference to it. -/
theorem mem_filterMap_find? {α β γ δ : Type} [DecidableEq δ] {id : α → δ} {ref : β → δ} {join : α → β → γ}
    {rows : List α} (hrows : (rows.map id).Nodup) {refs : List β} {z : γ} :
    z ∈ (refs.filterMap fun y => (rows.find? fun x => id x = ref y).map fun x => join x y) ↔
      ∃ x ∈ rows, ∃ y ∈ refs, ref y = id x ∧ join x y = z := by
  simp only [List.mem_filterMap, Option.map_eq_some_iff, find?_eq_some_iff_of_nodup hrows]
  constructor
  · intro h
    obtain ⟨y, hy, x, ⟨hx, hid⟩, hjoin⟩ := h
    exact ⟨x, hx, y, hy, hid.symm, hjoin⟩
  · intro h
    obtain ⟨x, hx, y, hy, href, hjoin⟩ := h
    exact ⟨y, hy, x, ⟨hx, href.symm⟩, hjoin⟩

theorem map_filterMap_find? {α β γ δ : Type} [DecidableEq δ] {id : α → δ} {ref : β → δ} {join : α → β → γ} {side : γ → β}
    (hside : ∀ x y, side (join x y) = y) (rows : List α) (refs : List β) :
    (refs.filterMap fun y => (rows.find? fun x => id x = ref y).map fun x => join x y).map side =
      refs.filter fun y => rows.any fun x => id x = ref y := by
  rw [List.map_filterMap, ← List.filterMap_eq_filter]
  apply List.filterMap_congr
  intro y _
  rw [Option.map_map, Option.guard, ← List.isSome_find?]
  cases rows.find? fun x => id x = ref y with
  | none => rfl
  | some x => exact congrArg some (hside x y)

/-! ### Records -/

namespace RecordSet

/-- No two records of a kind share an identifier. -/
structure Distinct (r : RecordSet) : Prop where
  works : (r.works.map Work.id).Nodup
  changes : (r.changes.map Change.id).Nodup
  breaks : (r.breaks.map Break.id).Nodup

/-- All records with dates are from years of four digits. -/
structure FourDigitYears (r : RecordSet) : Prop where
  works : ∀ w ∈ r.works, w.date.FourDigitYear
  breaks : ∀ b ∈ r.breaks, b.date.FourDigitYear

/-- The records of the first set, and those of the second whose identifiers are new. -/
def merge (r s : RecordSet) : RecordSet :=
  ⟨(addRows (fun w => w.id.text) r.works s.works).1, (addRows (fun c => c.id.text) r.changes s.changes).1,
    (addRows (fun b => b.id.text) r.breaks s.breaks).1⟩

/-- How many records of the second set are new. -/
def added (r s : RecordSet) : Counts :=
  ⟨(addRows (fun w => w.id.text) r.works s.works).2, (addRows (fun c => c.id.text) r.changes s.changes).2,
    (addRows (fun b => b.id.text) r.breaks s.breaks).2⟩

end RecordSet

theorem nodup_map_text_iff {α : Type} {kind : IdentKind} {id : α → Ident kind} {rows : List α} :
    (rows.map fun x => (id x).text).Nodup ↔ (rows.map id).Nodup := by
  have htext : (rows.map fun x => (id x).text) = (rows.map id).map Ident.text := by rw [List.map_map]; rfl
  rw [htext]
  exact List.nodup_map_iff fun _ _ heq => Ident.ext_iff.2 heq

namespace RecordSet

variable {r s : RecordSet}

theorem Distinct.merge (hr : r.Distinct) (s : RecordSet) : (r.merge s).Distinct where
  works := nodup_map_text_iff.1 (nodup_addRows _ (nodup_map_text_iff.2 hr.works) s.works)
  changes := nodup_map_text_iff.1 (nodup_addRows _ (nodup_map_text_iff.2 hr.changes) s.changes)
  breaks := nodup_map_text_iff.1 (nodup_addRows _ (nodup_map_text_iff.2 hr.breaks) s.breaks)

theorem FourDigitYears.merge (hr : r.FourDigitYears) (hs : s.FourDigitYears) : (r.merge s).FourDigitYears where
  works w hw := (mem_of_mem_addRows _ hw).elim (hr.works w) (hs.works w)
  breaks b hb := (mem_of_mem_addRows _ hb).elim (hr.breaks b) (hs.breaks b)

theorem merge_empty (r : RecordSet) : r.merge empty = r := rfl

theorem empty_merge (hs : s.Distinct) : empty.merge s = s := by
  have hworks : addRows (fun w => w.id.text) [] s.works = (s.works, _) :=
    addRows_of_nodup _ (nodup_map_text_iff.2 hs.works)
  have hchanges : addRows (fun c => c.id.text) [] s.changes = (s.changes, _) :=
    addRows_of_nodup _ (nodup_map_text_iff.2 hs.changes)
  have hbreaks : addRows (fun b => b.id.text) [] s.breaks = (s.breaks, _) :=
    addRows_of_nodup _ (nodup_map_text_iff.2 hs.breaks)
  rw [RecordSet.merge, empty, hworks, hchanges, hbreaks]

theorem distinct_empty : empty.Distinct := ⟨List.nodup_nil, List.nodup_nil, List.nodup_nil⟩

theorem fourDigitYears_empty : empty.FourDigitYears := ⟨List.forall_mem_nil _, List.forall_mem_nil _⟩

/-- The records of batches, of which the first of an identifier counts. -/
def mergeAll (batches : List RecordSet) : RecordSet := batches.foldl RecordSet.merge empty

theorem distinct_mergeAll (batches : List RecordSet) : (mergeAll batches).Distinct := by
  suffices h : ∀ r : RecordSet, r.Distinct → (batches.foldl RecordSet.merge r).Distinct from h empty distinct_empty
  induction batches with
  | nil => exact fun _ hr => hr
  | cons s batches ih => exact fun r hr => ih (r.merge s) (hr.merge s)

theorem fourDigitYears_mergeAll {batches : List RecordSet} (hbatches : ∀ s ∈ batches, s.FourDigitYears) :
    (mergeAll batches).FourDigitYears := by
  suffices h : ∀ r : RecordSet, r.FourDigitYears → (batches.foldl RecordSet.merge r).FourDigitYears from
    h empty fourDigitYears_empty
  induction batches with
  | nil => exact fun _ hr => hr
  | cons s batches ih =>
      intro r hr
      obtain ⟨hs, hbatches⟩ := List.forall_mem_cons.1 hbatches
      exact ih hbatches (r.merge s) (hr.merge hs)

/-- Under an identifier, the records of batches hold the first record of the batches that bears it. -/
theorem find?_mergeAll {α : Type} {kind : IdentKind} {id : α → Ident kind} {rows : RecordSet → List α}
    (hempty : rows empty = [])
    (hmerge : ∀ r s, rows (r.merge s) = (addRows (fun x => (id x).text) (rows r) (rows s)).1)
    (batches : List RecordSet) (k : Ident kind) :
    ((rows (mergeAll batches)).find? fun x => id x = k) = (batches.flatMap rows).find? fun x => id x = k := by
  have hfold : rows (mergeAll batches) =
      (batches.map rows).foldl (fun stored new => (addRows (fun x => (id x).text) stored new).1) [] := by
    rw [mergeAll, List.foldl_map, ← hempty]
    exact (List.foldl_hom rows fun r s => (hmerge r s).symm).symm
  have htext : (fun x => decide (id x = k)) = fun x => decide ((id x).text = k.text) := by
    funext x
    exact decide_eq_decide.2 Ident.ext_iff
  rw [htext, hfold, find?_foldl_addRows, List.nil_append, List.flatMap_def]

end RecordSet

/-! ### Rows -/

namespace Store

/-- The store whose rows are those of the records. -/
def holding (r : RecordSet) : Store :=
  ⟨some (r.works.map .ofWork), some (r.changes.map .ofChange), some (r.breaks.map .ofBreak)⟩

/-- Inserts batches one after the other, whatever the answers. -/
def insertAll (s : Store) (batches : List RecordSet) : Store := batches.foldl (fun s r => (s.insert r).1) s

theorem addBatch_holding (r s : RecordSet) : (holding r).addBatch s = .ok (holding (r.merge s), r.added s) := by
  simp only [addBatch, holding, Table.rows, addRows_map, bind, Except.bind]
  rfl

theorem insert_holding (r s : RecordSet) : (holding r).insert s = (holding (r.merge s), .ok (r.added s)) := by
  rw [insert, addBatch_holding]
  split
  · rename_i hempty
    rw [RecordSet.isEmpty_iff.1 hempty, RecordSet.merge_empty]
    rfl
  · rfl

theorem insertAll_holding (r : RecordSet) (batches : List RecordSet) :
    (holding r).insertAll batches = holding (batches.foldl RecordSet.merge r) := by
  induction batches generalizing r with
  | nil => rfl
  | cons s batches ih =>
      rw [insertAll, List.foldl_cons, insert_holding]
      exact ih (r.merge s)

theorem insertAll_empty (batches : List RecordSet) : empty.insertAll batches = holding (.mergeAll batches) :=
  insertAll_holding .empty batches

end Store

end Roster
