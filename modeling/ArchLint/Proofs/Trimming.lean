import ArchLint.Text.Basic
import Mathlib.Data.List.DropRight
import Mathlib.Data.List.Induction

namespace ArchLint.Text

theorem trimRightWhile_eq_rdropWhile (p : Char → Bool) (s : List Char) :
    trimRightWhile p s = s.rdropWhile p :=
  rfl

theorem dropWhile_trimWhile (p : Char → Bool) (s : List Char) :
    (trimWhile p s).dropWhile p = trimWhile p s := by
  have hfront : trimWhile p s <+: s.dropWhile p := List.rdropWhile_prefix p _
  cases htrimmed : trimWhile p s with
  | nil => rfl
  | cons c cs =>
      rw [htrimmed] at hfront
      obtain ⟨rest, hrest⟩ := hfront
      have hc : p c = false := by
        have hhead := List.head?_dropWhile_not p s
        rw [← hrest] at hhead
        simpa using hhead
      rw [List.dropWhile_cons_of_neg (by simp [hc])]

theorem trimWhile_trimWhile (p : Char → Bool) (s : List Char) :
    trimWhile p (trimWhile p s) = trimWhile p s := by
  rw [trimWhile, dropWhile_trimWhile, trimWhile, trimRightWhile_eq_rdropWhile]
  exact List.rdropWhile_idempotent p _

theorem trimWhile_eq_self {p : Char → Bool} {s : List Char} (hhead : ∀ c ∈ s.head?, p c = false)
    (hlast : ∀ c ∈ s.getLast?, p c = false) : trimWhile p s = s := by
  have hleft : s.dropWhile p = s := by
    cases s with
    | nil => rfl
    | cons c s => exact List.dropWhile_cons_of_neg (by simp [hhead c rfl])
  rw [trimWhile, hleft, trimRightWhile_eq_rdropWhile]
  rcases List.eq_nil_or_concat' s with rfl | ⟨front, c, rfl⟩
  · rfl
  · exact List.rdropWhile_concat_neg _ _ _ (by simp [hlast c (by simp)])

@[simp] theorem trimBlank_trimBlank (s : String) :
    trimBlank (trimBlank s) = trimBlank s := by
  simp only [trimBlank, String.toList_ofList, trimWhile_trimWhile]

theorem afterPrefix?_append (p s : List Char) : afterPrefix? p (p ++ s) = some s := by
  induction p with
  | nil => rfl
  | cons c p ih => simp only [List.cons_append, afterPrefix?, if_true, ih]

theorem afterPrefix?_eq_some_iff {p s rest : List Char} :
    afterPrefix? p s = some rest ↔ s = p ++ rest := by
  constructor
  · intro h
    induction p generalizing s with
    | nil =>
        cases h
        rfl
    | cons c p ih =>
        cases s with
        | nil => cases h
        | cons c' s =>
            rw [afterPrefix?] at h
            split_ifs at h with hc
            rw [hc, List.cons_append, ih h]
  · rintro rfl
    exact afterPrefix?_append p rest

section Cuts

variable {p : Char → Bool} {front back : List Char}

/-- The second part is what follows the last character of a class. -/
structure IsCutAfter (p : Char → Bool) (front back : List Char) : Prop where
  mark : ∀ c ∈ front.getLast?, p c = true
  rest : ∀ c ∈ back, p c = false

theorem IsCutAfter.reverse_eq (h : IsCutAfter p front back) :
    ((front ++ back).reverse.dropWhile fun c => !p c).reverse = front ∧
      ((front ++ back).reverse.takeWhile fun c => !p c).reverse = back := by
  have hback : ∀ c ∈ back.reverse, (!p c) = true := by simpa using h.rest
  rw [List.reverse_append, List.dropWhile_append_of_pos hback,
    List.takeWhile_append_of_pos hback]
  rcases List.eq_nil_or_concat' front with rfl | ⟨before, c, rfl⟩
  · simp
  · simp [h.mark c (by simp)]

theorem exists_isCutAfter (p : Char → Bool) (t : List Char) :
    ∃ front back, t = front ++ back ∧ IsCutAfter p front back := by
  induction t using List.reverseRecOn with
  | nil => exact ⟨[], [], rfl, by simp, by simp⟩
  | append_singleton t c ih =>
      cases hc : p c with
      | true => exact ⟨t ++ [c], [], by simp, by simpa using hc, by simp⟩
      | false =>
          obtain ⟨front, back, rfl, hcut⟩ := ih
          refine ⟨front, back ++ [c], List.append_assoc .., hcut.mark, ?_⟩
          rw [List.forall_mem_append, List.forall_mem_singleton]
          exact ⟨hcut.rest, hc⟩

theorem isCutAfter_nil {mark : Char} (hback : mark ∉ back) : IsCutAfter (· == mark) [] back :=
  ⟨by simp, fun c hc => by simpa using ne_of_mem_of_not_mem hc hback⟩

theorem isCutAfter_concat {mark : Char} (front : List Char) (hback : mark ∉ back) :
    IsCutAfter (· == mark) (front ++ [mark]) back :=
  ⟨by simp, (isCutAfter_nil hback).rest⟩

end Cuts

end ArchLint.Text
