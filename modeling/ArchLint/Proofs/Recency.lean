import ArchLint.Proofs.SavedCache
import Mathlib.Data.List.Nodup

namespace ArchLint

namespace RecentCache

variable {α : Type} {c : RecentCache α} {e : String × α} {entries added : List (String × α)}
  {key : String}

def keysOf (entries : List (String × α)) : List String :=
  entries.map (·.1)

/-- An entry in front of those with other keys. -/
def inFront (e : String × α) (entries : List (String × α)) : List (String × α) :=
  e :: entries.filter fun other => other.1 != e.1

/-- Entries that come in front one after the other. -/
def stack (entries added : List (String × α)) : List (String × α) :=
  added.foldl (fun entries e => inFront e entries) entries

/-- A cache of entries with different keys, and of no more than it may hold. -/
structure IsSound (c : RecentCache α) : Prop where
  distinct : (keysOf c.entries).Nodup
  bounded : c.entries.length ≤ c.capacity

theorem mem_keysOf_iff : key ∈ keysOf entries ↔ ∃ value, (key, value) ∈ entries := by
  simp [keysOf]

theorem mem_keysOf_of_lookup {value : α} (h : entries.lookup key = some value) :
    key ∈ keysOf entries := by
  obtain ⟨before, after, hentries, -⟩ := List.lookup_eq_some_iff.mp h
  simp [keysOf, hentries]

theorem lookup_eq_none_iff_keysOf : entries.lookup key = none ↔ key ∉ keysOf entries := by
  rw [List.lookup_eq_none_iff, keysOf, List.mem_map]
  constructor
  · rintro h ⟨e, he, rfl⟩
    simpa using h e he
  · intro h e he
    rw [bne_iff_ne]
    rintro rfl
    exact h ⟨e, he, rfl⟩

section InFront

theorem lookup_inFront (e : String × α) (entries : List (String × α)) (key : String) :
    (inFront e entries).lookup key = if key = e.1 then some e.2 else entries.lookup key := by
  rw [inFront, List.lookup_cons]
  by_cases hkey : key = e.1
  · simp [hkey]
  · have hother : (key != e.1) = true := bne_iff_ne.mpr hkey
    rw [beq_false_of_ne hkey, if_neg hkey, lookup_filter_key (f := (· != e.1)) hother]

theorem mem_keysOf_inFront :
    key ∈ keysOf (inFront e entries) ↔ key = e.1 ∨ key ∈ keysOf entries := by
  have hnone := lookup_inFront e entries key
  rw [← not_iff_not, ← lookup_eq_none_iff_keysOf, hnone, not_or, ← lookup_eq_none_iff_keysOf]
  split_ifs with hkey <;> simp [hkey]

theorem nodup_inFront (h : (keysOf entries).Nodup) : (keysOf (inFront e entries)).Nodup := by
  refine List.nodup_cons.mpr ⟨?_, h.sublist (List.filter_sublist.map _)⟩
  simp

theorem length_inFront_le (e : String × α) (entries : List (String × α)) :
    (inFront e entries).length ≤ entries.length + 1 :=
  Nat.succ_le_succ (List.length_filter_le _ _)

theorem length_inFront_of_mem (h : e.1 ∈ keysOf entries) :
    (inFront e entries).length ≤ entries.length := by
  obtain ⟨value, hvalue⟩ := mem_keysOf_iff.mp h
  refine List.length_filter_lt_length_iff_exists.mpr ⟨_, hvalue, ?_⟩
  simp

theorem take_filter_take (h : (keysOf entries).Nodup) (n : Nat) :
    ((entries.take (n + 1)).filter fun other => other.1 != key).take n =
      (entries.filter fun other => other.1 != key).take n := by
  induction entries generalizing n with
  | nil => simp
  | cons e entries ih =>
      obtain ⟨hnew, hdistinct⟩ := List.nodup_cons.mp h
      rw [List.take_succ_cons]
      by_cases hkey : e.1 = key
      · -- no other entry has the key
        have hothers : ∀ other ∈ entries, (other.1 != key) = true := by
          intro other hother
          rw [bne_iff_ne, ← hkey]
          exact fun hsame => hnew (List.mem_map.mpr ⟨other, hother, hsame⟩)
        have htaken : ∀ other ∈ entries.take n, (other.1 != key) = true :=
          fun other hother => hothers other (List.mem_of_mem_take hother)
        rw [List.filter_cons_of_neg (by simp [hkey]), List.filter_cons_of_neg (by simp [hkey]),
          List.filter_eq_self.mpr hothers, List.filter_eq_self.mpr htaken, List.take_take,
          Nat.min_self]
      · rw [List.filter_cons_of_pos (by simpa using hkey),
          List.filter_cons_of_pos (by simpa using hkey)]
        cases n with
        | zero => simp
        | succ n => rw [List.take_succ_cons, List.take_succ_cons, ih hdistinct]

theorem take_inFront (h : (keysOf entries).Nodup) (n : Nat) :
    (inFront e (entries.take n)).take n = (inFront e entries).take n := by
  cases n with
  | zero => simp
  | succ n => rw [inFront, inFront, List.take_succ_cons, List.take_succ_cons, take_filter_take h]

end InFront

section Stack

theorem stack_cons (entries : List (String × α)) (e : String × α) (added : List (String × α)) :
    stack entries (e :: added) = stack (inFront e entries) added :=
  rfl

theorem nodup_stack (h : (keysOf entries).Nodup) : (keysOf (stack entries added)).Nodup := by
  induction added generalizing entries with
  | nil => exact h
  | cons e added ih => exact ih (nodup_inFront h)

theorem mem_keysOf_stack :
    key ∈ keysOf (stack entries added) ↔ key ∈ keysOf added ∨ key ∈ keysOf entries := by
  induction added generalizing entries with
  | nil => simp [stack, keysOf]
  | cons e added ih =>
      have hkeys : keysOf (e :: added) = e.1 :: keysOf added := rfl
      rw [stack_cons, ih, mem_keysOf_inFront, hkeys, List.mem_cons]
      tauto

theorem length_stack_le (entries added : List (String × α)) :
    (stack entries added).length ≤ entries.length + added.length := by
  induction added generalizing entries with
  | nil => exact le_rfl
  | cons e added ih =>
      have hfront := length_inFront_le e entries
      have hrest := ih (inFront e entries)
      rw [stack_cons, List.length_cons]
      omega

theorem lookup_stack (h : (keysOf added).Nodup) :
    (stack entries added).lookup key = (added.lookup key).or (entries.lookup key) := by
  induction added generalizing entries with
  | nil => rfl
  | cons e added ih =>
      obtain ⟨hnew, hdistinct⟩ := List.nodup_cons.mp h
      rw [stack_cons, ih hdistinct, lookup_inFront, List.lookup_cons]
      by_cases hkey : key = e.1
      · have hnone : added.lookup key = none := by
          rw [lookup_eq_none_iff_keysOf, hkey]
          exact hnew
        simp [hkey, hkey ▸ hnone]
      · rw [beq_false_of_ne hkey, if_neg hkey]

/-- Entries that are put one after the other: the cache keeps the front of all. -/
theorem foldl_put (h : c.IsSound) (added : List (String × α)) :
    added.foldl (fun c e => c.put e.1 e.2) c =
      { c with entries := (stack c.entries added).take c.capacity } := by
  have hfrom : ∀ entries, (keysOf entries).Nodup → c.entries = entries.take c.capacity →
      added.foldl (fun c e => c.put e.1 e.2) c =
        { c with entries := (stack entries added).take c.capacity } := by
    clear h
    induction added generalizing c with
    | nil =>
        intro entries hdistinct hentries
        rw [List.foldl_nil, stack, List.foldl_nil, ← hentries]
    | cons e added ih =>
        intro entries hdistinct hentries
        have hput : (c.put e.1 e.2).entries = (inFront e entries).take c.capacity := by
          rw [← take_inFront hdistinct, ← hentries]
          rfl
        rw [List.foldl_cons, stack_cons, ih _ (nodup_inFront hdistinct) hput]
        rfl
  exact hfrom c.entries h.distinct (List.take_of_length_le h.bounded).symm

end Stack

section Soundness

theorem IsSound.put (h : c.IsSound) (key : String) (value : α) : (c.put key value).IsSound where
  distinct := (nodup_inFront h.distinct).sublist ((List.take_sublist _ _).map _)
  bounded := List.length_take_le _ _

theorem IsSound.touch (h : c.IsSound) (key : String) : (c.touch key).IsSound := by
  rw [RecentCache.touch]
  split
  next value hvalue =>
    rw [peek?] at hvalue
    refine ⟨nodup_inFront (e := (key, value)) h.distinct, ?_⟩
    exact (length_inFront_of_mem (mem_keysOf_of_lookup hvalue)).trans h.bounded
  next => exact h

theorem IsSound.foldl_put (h : c.IsSound) (added : List (String × α)) :
    (added.foldl (fun c e => c.put e.1 e.2) c).IsSound := by
  rw [RecentCache.foldl_put h]
  exact ⟨(nodup_stack h.distinct).sublist ((List.take_sublist _ _).map _),
    List.length_take_le _ _⟩

theorem capacity_touch (c : RecentCache α) (key : String) :
    (c.touch key).capacity = c.capacity := by
  rw [RecentCache.touch]
  split <;> rfl

theorem full_of_foldl_put (h : c.IsSound) (added : List (String × α))
    (hbefore : c.peek? key ≠ none)
    (hgone : (added.foldl (fun c e => c.put e.1 e.2) c).peek? key = none) :
    (added.foldl (fun c e => c.put e.1 e.2) c).entries.length = c.capacity := by
  rw [RecentCache.foldl_put h] at hgone ⊢
  rw [peek?, lookup_eq_none_iff_keysOf] at hgone
  rw [peek?, Ne, lookup_eq_none_iff_keysOf, not_not] at hbefore
  have hstack : key ∈ keysOf (stack c.entries added) := mem_keysOf_stack.mpr (Or.inr hbefore)
  rw [List.length_take, Nat.min_eq_left]
  by_contra hroom
  rw [List.take_of_length_le (Nat.le_of_not_le hroom)] at hgone
  exact hgone hstack

end Soundness

end RecentCache

end ArchLint
