import Std.Data.HashMap
import Mathlib.Data.List.Nodup

namespace ArchLint

variable {α : Type}

/-- A property of all entries of an array, each with its place. -/
def Everywhere (P : Nat → α → Prop) (entries : Array α) : Prop :=
  ∀ ⦃i x⦄, entries[i]? = some x → P i x

namespace Everywhere

variable {P : Nat → α → Prop} {entries : Array α}

theorem empty : Everywhere P (#[] : Array α) := by
  intro i x h
  simp at h

theorem push {a : α} (h : Everywhere P entries) (ha : P entries.size a) :
    Everywhere P (entries.push a) := by
  intro i x hx
  rw [Array.getElem?_push] at hx
  split at hx
  · rename_i hi
    cases hx
    exact hi ▸ ha
  · exact h hx

theorem modify (h : Everywhere P entries) (place : Nat) (f : α → α)
    (hf : ∀ i x, P i x → P i (f x)) : Everywhere P (entries.modify place f) := by
  intro i x hx
  rw [Array.getElem?_modify] at hx
  split at hx
  · obtain ⟨y, hy, rfl⟩ := Option.map_eq_some_iff.mp hx
    exact hf i y (h hy)
  · exact h hx

end Everywhere

section Fields

variable {β : Type} (field : α → β) {d : β} {entries : Array α}

theorem elim_getElem?_push {a : α} (ha : field a = d) (i : Nat) :
    ((entries.push a)[i]?).elim d field = (entries[i]?).elim d field := by
  rw [Array.getElem?_push]
  split
  · rename_i hi
    simp [hi, ha]
  · rfl

theorem elim_getElem?_modify {f : α → α} (hf : ∀ x, field (f x) = field x) (place i : Nat) :
    ((entries.modify place f)[i]?).elim d field = (entries[i]?).elim d field := by
  rw [Array.getElem?_modify]
  split
  · cases entries[i]? <;> simp [hf]
  · rfl

end Fields

/-- A table that maps exactly the names of the entries to their places. -/
def IsIndexOf (index : Std.HashMap String Nat) (name : α → String) (entries : Array α) : Prop :=
  ∀ n i, index[n]? = some i ↔ ∃ x, entries[i]? = some x ∧ name x = n

namespace IsIndexOf

variable {index : Std.HashMap String Nat} {name : α → String} {entries : Array α}

theorem empty : IsIndexOf ∅ name (#[] : Array α) := by
  intro n i
  simp

theorem name_ne (h : IsIndexOf index name entries) {n : String} (hn : index[n]? = none)
    {i : Nat} {x : α} (hx : entries[i]? = some x) : name x ≠ n := by
  intro hname
  have hfound := (h n i).mpr ⟨x, hx, hname⟩
  rw [hn] at hfound
  cases hfound

theorem push (h : IsIndexOf index name entries) {a : α} (ha : index[name a]? = none) :
    IsIndexOf (index.insert (name a) entries.size) name (entries.push a) := by
  intro n i
  rw [Std.HashMap.getElem?_insert, Array.getElem?_push]
  by_cases hn : name a = n
  · -- the only entry of this name is the new one, at the last place
    simp only [hn, beq_self_eq_true, if_true, Option.some.injEq]
    constructor
    · intro hi
      exact ⟨a, by simp [hi], hn⟩
    · rintro ⟨x, hx, hname⟩
      split at hx
      · rename_i hi
        exact hi.symm
      · exact absurd hname (h.name_ne (hn ▸ ha) hx)
  · rw [if_neg (by simpa using hn), h n i]
    constructor
    · rintro ⟨x, hx, hname⟩
      have hi : i ≠ entries.size := by
        intro hi
        simp [hi] at hx
      exact ⟨x, by rw [if_neg hi]; exact hx, hname⟩
    · rintro ⟨x, hx, hname⟩
      split at hx
      · cases hx
        exact absurd hname hn
      · exact ⟨x, hx, hname⟩

theorem modify (h : IsIndexOf index name entries) (place : Nat) {f : α → α}
    (hf : ∀ x, name (f x) = name x) : IsIndexOf index name (entries.modify place f) := by
  intro n i
  rw [h n i, Array.getElem?_modify]
  split
  · constructor
    · rintro ⟨x, hx, hname⟩
      exact ⟨f x, by rw [hx]; rfl, (hf x).trans hname⟩
    · rintro ⟨y, hy, hname⟩
      obtain ⟨x, hx, rfl⟩ := Option.map_eq_some_iff.mp hy
      exact ⟨x, hx, (hf x).symm.trans hname⟩
  · exact Iff.rfl

theorem place_unique (h : IsIndexOf index name entries) {i j : Nat} {x y : α}
    (hx : entries[i]? = some x) (hy : entries[j]? = some y) (hname : name x = name y) :
    i = j := by
  have hi : index[name y]? = some i := (h _ i).mpr ⟨x, hx, hname⟩
  have hj : index[name y]? = some j := (h _ j).mpr ⟨y, hy, rfl⟩
  rw [hi] at hj
  exact Option.some.inj hj

theorem names_nodup (h : IsIndexOf index name entries) :
    (entries.toList.map name).Nodup := by
  rw [List.nodup_iff_pairwise_ne, List.pairwise_iff_getElem]
  intro i j hi hj hij hname
  simp only [List.length_map, Array.length_toList] at hi hj
  simp only [List.getElem_map, Array.getElem_toList] at hname
  have hplace := h.place_unique (Array.getElem?_eq_getElem hi) (Array.getElem?_eq_getElem hj) hname
  omega

end IsIndexOf

/-- Entries that are numbered by their places and found by their names. -/
structure Catalogued (number : α → Nat) (name : α → String) (entries : Array α)
    (index : Std.HashMap String Nat) : Prop where
  numbered : Everywhere (fun i x => number x = i) entries
  indexed : IsIndexOf index name entries

namespace Catalogued

variable {number : α → Nat} {name : α → String} {entries : Array α}
  {index : Std.HashMap String Nat}

theorem empty : Catalogued number name (#[] : Array α) ∅ :=
  ⟨.empty, .empty⟩

theorem push (h : Catalogued number name entries index) (a : α)
    (hnumber : number a = entries.size) (hname : index[name a]? = none) :
    Catalogued number name (entries.push a) (index.insert (name a) entries.size) :=
  ⟨h.numbered.push hnumber, h.indexed.push hname⟩

theorem modify (h : Catalogued number name entries index) (place : Nat) (f : α → α)
    (hnumber : ∀ x, number (f x) = number x) (hname : ∀ x, name (f x) = name x) :
    Catalogued number name (entries.modify place f) index :=
  ⟨h.numbered.modify place f fun _ x hx => (hnumber x).trans hx, h.indexed.modify place hname⟩

theorem getElem?_of_mem (h : Catalogued number name entries index) {x : α} (hx : x ∈ entries) :
    entries[number x]? = some x := by
  obtain ⟨i, hi⟩ := Array.mem_iff_getElem?.mp hx
  rw [h.numbered hi]
  exact hi

theorem eq_of_number (h : Catalogued number name entries index) {x y : α} (hx : x ∈ entries)
    (hy : y ∈ entries) (hnumber : number x = number y) : x = y := by
  have hget := h.getElem?_of_mem hx
  rw [hnumber, h.getElem?_of_mem hy] at hget
  exact (Option.some.inj hget).symm

theorem eq_of_name (h : Catalogued number name entries index) {x y : α} (hx : x ∈ entries)
    (hy : y ∈ entries) (hname : name x = name y) : x = y :=
  h.eq_of_number hx hy
    (h.indexed.place_unique (h.getElem?_of_mem hx) (h.getElem?_of_mem hy) hname)

theorem index_of_mem (h : Catalogued number name entries index) {x : α} (hx : x ∈ entries) :
    index[name x]? = some (number x) :=
  (h.indexed _ _).mpr ⟨x, h.getElem?_of_mem hx, rfl⟩

theorem lookup_eq_some_iff (h : Catalogued number name entries index) {n : String} {x : α} :
    (index[n]?).bind (fun i => entries[i]?) = some x ↔ x ∈ entries ∧ name x = n := by
  rw [Option.bind_eq_some_iff]
  constructor
  · rintro ⟨i, hi, hx⟩
    obtain ⟨y, hy, hname⟩ := (h.indexed n i).mp hi
    obtain rfl : y = x := Option.some.inj (hy.symm.trans hx)
    exact ⟨Array.mem_of_getElem? hx, hname⟩
  · rintro ⟨hx, rfl⟩
    exact ⟨number x, h.index_of_mem hx, h.getElem?_of_mem hx⟩

theorem mem_filterMap (h : Catalogued number name entries index) {ids : List Nat} {x : α} :
    x ∈ ids.filterMap (fun i => entries[i]?) ↔ x ∈ entries ∧ number x ∈ ids := by
  rw [List.mem_filterMap]
  constructor
  · rintro ⟨i, hi, hx⟩
    exact ⟨Array.mem_of_getElem? hx, (h.numbered hx).symm ▸ hi⟩
  · rintro ⟨hx, hi⟩
    exact ⟨number x, hi, h.getElem?_of_mem hx⟩

theorem increasing_filterMap (h : Catalogued number name entries index) {ids : List Nat}
    (hids : ids.Pairwise (· < ·)) :
    (ids.filterMap fun i => entries[i]?).Pairwise (fun x y => number x < number y) := by
  rw [List.pairwise_filterMap]
  refine hids.imp ?_
  intro i j hij x hx y hy
  rwa [h.numbered hx, h.numbered hy]

theorem increasing_toList (h : Catalogued number name entries index) :
    entries.toList.Pairwise (fun x y => number x < number y) := by
  rw [List.pairwise_iff_getElem]
  intro i j hi hj hij
  have hx := h.numbered (Array.getElem?_eq_getElem (by simpa using hi))
  have hy := h.numbered (Array.getElem?_eq_getElem (by simpa using hj))
  simpa [hx, hy] using hij

end Catalogued

end ArchLint
