import Mathlib.Data.List.Nodup
import Mathlib.Data.List.Perm.Basic
import Roster.Store.Load
/-!
# Sorting by keys

Where keys are unique, sorting by them leaves no choice: the sorted list is the one permutation whose keys increase
(`sortByKey_eq`). So the order that rows come in does not matter, and selecting rows before or after sorting is the
same.
-/

namespace Roster

theorem nodup_map_of_imp {α β γ : Type} {f : α → β} {g : α → γ} {xs : List α} (hf : (xs.map f).Nodup)
    (h : ∀ a b, g a = g b → f a = f b) : (xs.map g).Nodup := by
  have hne := List.pairwise_map.1 hf
  exact List.pairwise_map.2 (hne.imp fun hab heq => hab (h _ _ heq))

variable {α β : Type} (key : α → List String)

theorem sortByKey_perm (rows : List α) : (sortByKey key rows).Perm rows := List.mergeSort_perm rows _

theorem mem_sortByKey {rows : List α} {x : α} : x ∈ sortByKey key rows ↔ x ∈ rows := (sortByKey_perm key rows).mem_iff

theorem sortByKey_pairwise (rows : List α) : (sortByKey key rows).Pairwise fun a b => ¬ key b < key a := by
  have htrans : ∀ a b c, decide (¬ key b < key a) = true → decide (¬ key c < key b) = true →
      decide (¬ key c < key a) = true := by
    intro a b c hab hbc
    exact decide_eq_true (List.le_trans (of_decide_eq_true hab) (of_decide_eq_true hbc))
  have htotal : ∀ a b, (decide (¬ key b < key a) || decide (¬ key a < key b)) = true := by
    intro a b
    rw [Bool.or_eq_true]
    exact (List.le_total (key a) (key b)).imp decide_eq_true decide_eq_true
  exact (List.pairwise_mergeSort htrans htotal rows).imp fun hle => of_decide_eq_true hle

/-- Unique keys increase strictly along the sorted list. -/
theorem sortByKey_strict {rows : List α} (hkeys : (rows.map key).Nodup) :
    (sortByKey key rows).Pairwise fun a b => key a < key b := by
  have hne : (sortByKey key rows).Pairwise fun a b => key a ≠ key b :=
    List.pairwise_map.1 (((sortByKey_perm key rows).map key).nodup_iff.2 hkeys)
  refine ((sortByKey_pairwise key rows).and hne).imp ?_
  intro a b h
  obtain ⟨hle, hne⟩ := h
  exact Decidable.not_not.1 fun hlt => hne (List.le_antisymm hle hlt)

theorem sortByKey_map (f : β → α) (rows : List β) : sortByKey key (rows.map f) = (sortByKey (key ∘ f) rows).map f := by
  rw [sortByKey, sortByKey, List.map_mergeSort]
  intro a _ b _
  rfl

/-- A permutation of rows with unique keys in which the keys increase is the sorted list. -/
theorem sortByKey_eq {rows sorted : List α} (hkeys : (rows.map key).Nodup) (hperm : sorted.Perm rows)
    (hsorted : sorted.Pairwise fun a b => ¬ key b < key a) : sortByKey key rows = sorted := by
  refine List.Perm.eq_of_pairwise ?_ (sortByKey_pairwise key rows) hsorted ((sortByKey_perm key rows).trans hperm.symm)
  intro a b ha hb hab hba
  exact List.inj_on_of_nodup_map hkeys ((mem_sortByKey key).1 ha) (hperm.mem_iff.1 hb) (List.le_antisymm hab hba)

theorem sortByKey_of_perm {rows rows' : List α} (hkeys : (rows.map key).Nodup) (hperm : rows.Perm rows') :
    sortByKey key rows = sortByKey key rows' :=
  sortByKey_eq key hkeys ((sortByKey_perm key rows').trans hperm.symm) (sortByKey_pairwise key rows')

theorem sortByKey_of_mem_iff {rows rows' : List α} (hkeys : (rows.map key).Nodup) (hkeys' : (rows'.map key).Nodup)
    (hmem : ∀ x, x ∈ rows ↔ x ∈ rows') : sortByKey key rows = sortByKey key rows' :=
  sortByKey_of_perm key hkeys ((List.perm_ext_iff_of_nodup (hkeys.of_map key) (hkeys'.of_map key)).2 hmem)

theorem sortByKey_filter {rows : List α} (hkeys : (rows.map key).Nodup) (p : α → Bool) :
    sortByKey key (rows.filter p) = (sortByKey key rows).filter p := by
  apply sortByKey_eq key
  · exact hkeys.sublist (List.filter_sublist.map key)
  · exact (sortByKey_perm key rows).filter p
  · exact (sortByKey_pairwise key rows).filter p

/-! ### Keys end with identifiers -/

theorem WorkRow.id_eq_of_key_eq {x y : WorkRow} (h : x.key = y.key) : x.id = y.id := by
  simp only [WorkRow.key, List.cons.injEq] at h
  exact h.2.2.1

theorem BreakRow.id_eq_of_key_eq {a b : BreakRow} (h : a.key = b.key) : a.id = b.id := by
  simp only [BreakRow.key, List.cons.injEq] at h
  exact h.2.2.1

theorem JoinedChange.id_eq_of_key_eq {i j : JoinedChange} (h : i.key = j.key) : i.change.id = j.change.id := by
  simp only [JoinedChange.key, List.cons.injEq] at h
  exact h.2.2.2.1

end Roster
