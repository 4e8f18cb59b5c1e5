import ArchLint.Text.Basic
import Mathlib.Data.List.Nodup

namespace ArchLint.Text

variable {α : Type} [BEq α] [LawfulBEq α]

theorem foldl_distinct (xs seen : List α) (hseen : seen.Nodup) :
    let all := xs.foldl (fun seen x => if seen.elem x then seen else x :: seen) seen
    all.Nodup ∧ ∀ a, a ∈ all ↔ a ∈ seen ∨ a ∈ xs := by
  induction xs generalizing seen with
  | nil => exact ⟨hseen, fun a => by simp⟩
  | cons x xs ih =>
      rw [List.foldl_cons]
      by_cases hx : x ∈ seen
      · obtain ⟨hnodup, hmem⟩ := ih seen hseen
        rw [if_pos (List.elem_iff.mpr hx)]
        refine ⟨hnodup, fun a => ?_⟩
        rw [hmem, List.mem_cons]
        constructor
        · rintro (ha | ha)
          · exact .inl ha
          · exact .inr (.inr ha)
        · rintro (ha | rfl | ha)
          · exact .inl ha
          · exact .inl hx
          · exact .inr ha
      · obtain ⟨hnodup, hmem⟩ := ih (x :: seen) (List.nodup_cons.mpr ⟨hx, hseen⟩)
        rw [if_neg (List.elem_iff.not.mpr hx)]
        refine ⟨hnodup, fun a => ?_⟩
        rw [hmem, List.mem_cons, List.mem_cons, or_assoc, or_left_comm]

theorem nodup_distinct (xs : List α) : (distinct xs).Nodup :=
  List.nodup_reverse.mpr (foldl_distinct xs [] List.nodup_nil).1

theorem mem_distinct {xs : List α} {a : α} : a ∈ distinct xs ↔ a ∈ xs := by
  rw [distinct, List.mem_reverse, (foldl_distinct xs [] List.nodup_nil).2]
  simp

section Sorting

variable {β : Type} {text : β → String} {items : List β}

theorem pairwise_mergeSort_byteLe (text : β → String) (items : List β) :
    (items.mergeSort fun a b => byteLe (text a) (text b)).Pairwise
      (fun a b => text a ≤ text b) := by
  have hle : ∀ a b : String, byteLe a b = true ↔ a ≤ b := by
    intro a b
    rw [byteLe, Bool.not_eq_true', decide_eq_false_iff_not, String.not_lt]
  have hsorted : (items.mergeSort fun a b => byteLe (text a) (text b)).Pairwise
      (fun a b => byteLe (text a) (text b) = true) := by
    refine List.pairwise_mergeSort ?_ ?_ items
    · intro a b c h h'
      exact (hle _ _).mpr (String.le_trans ((hle _ _).mp h) ((hle _ _).mp h'))
    · intro a b
      rw [Bool.or_eq_true, hle, hle]
      exact String.le_total _ _
  exact hsorted.imp fun h => (hle _ _).mp h

theorem strictly_mergeSort_byteLe (h : (items.map text).Nodup) :
    (items.mergeSort fun a b => byteLe (text a) (text b)).Pairwise
      (fun a b => text a < text b) := by
  have hdistinct : ((items.mergeSort fun a b => byteLe (text a) (text b)).map text).Nodup :=
    (((List.mergeSort_perm items _).map _).nodup_iff).mpr h
  rw [List.Nodup, List.pairwise_map] at hdistinct
  refine ((pairwise_mergeSort_byteLe text items).and hdistinct).imp ?_
  rintro a b ⟨hle, hne⟩
  by_contra hnot
  exact hne (String.le_antisymm hle (String.not_lt.mp hnot))

end Sorting

end ArchLint.Text
