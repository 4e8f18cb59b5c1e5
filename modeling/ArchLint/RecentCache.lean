import ArchLint.Text.Basic

namespace ArchLint

/-- Entries by their keys, the most recent first, and how many are kept. -/
structure RecentCache (α : Type) where
  capacity : Nat
  entries : List (String × α) := []
  deriving Repr

namespace RecentCache

variable {α : Type}

def peek? (c : RecentCache α) (key : String) : Option α :=
  c.entries.lookup key

/-- The entries without that of a key. -/
def without (c : RecentCache α) (key : String) : List (String × α) :=
  c.entries.filter fun e => e.1 != key

/-- Makes the entry of a key the most recent one. -/
def touch (c : RecentCache α) (key : String) : RecentCache α :=
  match c.peek? key with
  | some value => { c with entries := (key, value) :: c.without key }
  | none => c

/-- Stores an entry as the most recent one. If there are too many, the one that
was not used for the longest time goes. -/
def put (c : RecentCache α) (key : String) (value : α) : RecentCache α :=
  { c with entries := ((key, value) :: c.without key).take c.capacity }

end RecentCache

end ArchLint
