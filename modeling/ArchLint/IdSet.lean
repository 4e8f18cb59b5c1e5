namespace ArchLint

/-- A finite set, listed in increasing order. -/
structure IdSet (α : Type) [LT α] where
  toList : List α
  increasing : toList.Pairwise (· < ·)
  deriving DecidableEq, Repr

namespace IdSet

variable {α : Type} [LT α]

def empty : IdSet α :=
  ⟨[], .nil⟩

instance : EmptyCollection (IdSet α) :=
  ⟨empty⟩

instance : Inhabited (IdSet α) :=
  ⟨empty⟩

instance : Membership α (IdSet α) :=
  ⟨fun s a => a ∈ s.toList⟩

def size (s : IdSet α) : Nat :=
  s.toList.length

def contains [DecidableEq α] (s : IdSet α) (a : α) : Bool :=
  s.toList.any (fun b => decide (b = a))

def erase [DecidableEq α] (s : IdSet α) (a : α) : IdSet α where
  toList := s.toList.filter (fun b => !decide (b = a))
  increasing := s.increasing.filter _

variable [DecidableLT α] [DecidableEq α]

/-- Inserts into an increasing list, once. -/
def insertSorted (a : α) : List α → List α
  | [] => [a]
  | b :: bs =>
      if a < b then a :: b :: bs
      else if a = b then b :: bs
      else b :: insertSorted a bs

theorem mem_insertSorted {a b : α} {bs : List α} :
    b ∈ insertSorted a bs ↔ b = a ∨ b ∈ bs := by
  induction bs with
  | nil => simp [insertSorted]
  | cons c cs ih =>
      simp only [insertSorted]
      split
      · simp
      · split
        · rename_i hac
          simp [hac]
        · simp only [List.mem_cons, ih]
          exact or_left_comm

variable [@Std.Trichotomous α (· < ·)]
variable [@Trans α α α (· < ·) (· < ·) (· < ·)]

theorem increasing_insertSorted (a : α) {bs : List α} (hbs : bs.Pairwise (· < ·)) :
    (insertSorted a bs).Pairwise (· < ·) := by
  induction bs with
  | nil => exact List.pairwise_singleton _ _
  | cons c cs ih =>
      obtain ⟨hc, hcs⟩ := List.pairwise_cons.mp hbs
      simp only [insertSorted]
      split
      · rename_i hac
        refine List.pairwise_cons.mpr ⟨?_, hbs⟩
        intro d hd
        rcases List.mem_cons.mp hd with rfl | hd
        · exact hac
        · exact Trans.trans hac (hc d hd)
      · split
        · exact hbs
        · rename_i hnot hne
          refine List.pairwise_cons.mpr ⟨?_, ih hcs⟩
          intro d hd
          rcases mem_insertSorted.mp hd with rfl | hd
          · -- neither below nor equal, so above
            apply Classical.byContradiction
            intro hca
            exact hne (Std.Trichotomous.trichotomous (r := (· < ·)) d c hnot hca)
          · exact hc d hd

/-- The set with one more element. -/
def insert (s : IdSet α) (a : α) : IdSet α where
  toList := insertSorted a s.toList
  increasing := increasing_insertSorted a s.increasing

def ofList (as : List α) : IdSet α :=
  as.foldl insert empty

end IdSet

end ArchLint
