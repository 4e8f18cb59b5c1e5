import ArchLint.IdSet
import Mathlib.Data.List.Nodup

namespace ArchLint.IdSet

section Membership

variable {α : Type} [LT α]

theorem mem_toList {s : IdSet α} {a : α} : a ∈ s.toList ↔ a ∈ s :=
  Iff.rfl

@[simp] theorem not_mem_empty (a : α) : a ∉ (empty : IdSet α) := by
  intro h
  exact List.not_mem_nil h

theorem contains_iff_mem [DecidableEq α] {s : IdSet α} {a : α} :
    s.contains a = true ↔ a ∈ s := by
  rw [← mem_toList]
  simp [contains, List.any_eq_true]

end Membership

section Insertion

variable {α : Type} [LT α] [DecidableLT α] [DecidableEq α]
variable [@Std.Trichotomous α (· < ·)]
variable [@Trans α α α (· < ·) (· < ·) (· < ·)]

@[simp] theorem mem_insert {s : IdSet α} {a b : α} : b ∈ s.insert a ↔ b = a ∨ b ∈ s :=
  mem_insertSorted

theorem mem_foldl_insert {as : List α} {s : IdSet α} {b : α} :
    b ∈ as.foldl insert s ↔ b ∈ as ∨ b ∈ s := by
  induction as generalizing s with
  | nil => simp
  | cons a as ih =>
      simp only [List.foldl_cons, ih, mem_insert, List.mem_cons]
      tauto

theorem mem_ofList {as : List α} {b : α} : b ∈ ofList as ↔ b ∈ as := by
  simp [ofList, mem_foldl_insert]

end Insertion

theorem nodup_toList (s : IdSet Nat) : s.toList.Nodup :=
  s.increasing.imp fun h => Nat.ne_of_lt h

end ArchLint.IdSet
