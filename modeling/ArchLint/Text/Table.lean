namespace ArchLint.Text

/-- The value of a hexadecimal digit. -/
def hexDigit? (c : Char) : Option Nat :=
  if '0' ≤ c ∧ c ≤ '9' then some (c.toNat - '0'.toNat)
  else if 'a' ≤ c ∧ c ≤ 'f' then some (c.toNat - 'a'.toNat + 10)
  else if 'A' ≤ c ∧ c ≤ 'F' then some (c.toNat - 'A'.toNat + 10)
  else none

/-- The number that a row's hexadecimal digits write. -/
def hexValue (digits : List Char) : Nat :=
  digits.foldl (fun n c => 16 * n + (hexDigit? c).getD 0) 0

def rows (text : String) : List (List Char) :=
  let blanked := text.toList.map fun c => if c = '\n' then ' ' else c
  (blanked.splitOn ' ').filter (fun row => !row.isEmpty)

def rangeOfRow (row : List Char) : Nat × Nat :=
  match row.splitOn '-' with
  | [lo, hi] => (hexValue lo, hexValue hi)
  | _ => (hexValue row, hexValue row)

/-- The last entry of a sorted table whose key is at most `n`, between the
positions `lo` (included) and `hi` (excluded). The fuel bounds the number of
halvings. -/
def lastAtMost {α : Type} (key : α → Nat) (table : Array α) (n : Nat) :
    Nat → Nat → Nat → Option α
  | 0, _, _ => none
  | fuel + 1, lo, hi =>
      if hi ≤ lo then none
      else
        let mid := (lo + hi) / 2
        match table[mid]? with
        | none => none
        | some entry =>
            if key entry ≤ n then
              (lastAtMost key table n fuel (mid + 1) hi).or (some entry)
            else lastAtMost key table n fuel lo mid

/-- Disjoint ranges of code points in increasing order. -/
structure RangeTable where
  ranges : Array (Nat × Nat)

namespace RangeTable

def ofText (text : String) : RangeTable :=
  ⟨((rows text).map rangeOfRow).toArray⟩

/-- Whether a code point lies in one of the ranges. -/
def contains (t : RangeTable) (n : Nat) : Bool :=
  match lastAtMost Prod.fst t.ranges n 32 0 t.ranges.size with
  | some (_, hi) => n ≤ hi
  | none => false

end RangeTable

/-- A row that maps the code points `lo`, `lo + step`, … up to `hi`; the image
of `lo` is `image`, and with a single code point in the image the others are
shifted alike. -/
structure MappingRow where
  lo : Nat
  hi : Nat
  step : Nat
  image : List Nat

def mappingRow (row : List Char) : MappingRow :=
  match row.splitOn '>' with
  | [source, image] =>
      let image := (image.splitOn '+').map hexValue
      match source.splitOn '/' with
      | [range, step] =>
          let (lo, hi) := rangeOfRow range
          ⟨lo, hi, hexValue step, image⟩
      | _ => ⟨hexValue source, hexValue source, 1, image⟩
  | _ => ⟨0, 0, 1, []⟩

/-- Rows of a mapping in increasing order. -/
structure MappingTable where
  rows : Array MappingRow

namespace MappingTable

def ofText (text : String) : MappingTable :=
  ⟨((Text.rows text).map mappingRow).toArray⟩

/-- The image of a character that the table lists. -/
def find? (t : MappingTable) (c : Char) : Option (List Char) :=
  match lastAtMost MappingRow.lo t.rows c.toNat 32 0 t.rows.size with
  | some row =>
      if row.hi < c.toNat ∨ (c.toNat - row.lo) % row.step ≠ 0 then none
      else
        match row.image with
        | [n] => some [Char.ofNat (n + (c.toNat - row.lo))]
        | ns => some (ns.map Char.ofNat)
  | none => none

/-- The characters that rows with one image map to a character. -/
def preimages (t : MappingTable) (c : Char) : List Char :=
  t.rows.toList.filterMap fun row =>
    match row.image with
    | [n] =>
        let source := row.lo + (c.toNat - n)
        if n ≤ c.toNat ∧ source ≤ row.hi ∧ (source - row.lo) % row.step = 0 then
          some (Char.ofNat source)
        else none
    | _ => none

end MappingTable

/-- Ranges of code points with a number, zero elsewhere. -/
structure ClassTable where
  rows : Array MappingRow

namespace ClassTable

def ofText (text : String) : ClassTable :=
  ⟨((Text.rows text).map mappingRow).toArray⟩

/-- The number of a code point. -/
def find (t : ClassTable) (n : Nat) : Nat :=
  match lastAtMost MappingRow.lo t.rows n 32 0 t.rows.size with
  | some row => if row.hi < n then 0 else row.image.headD 0
  | none => 0

end ClassTable

/-- Pairs of code points with an image, in increasing order of the pair. -/
structure PairTable where
  rows : Array (Nat × Nat)

namespace PairTable

/-- One number for a pair of code points. -/
def key (m n : Nat) : Nat :=
  m * 0x110000 + n

/-- Reads a row `m+n>image`. -/
def row (text : List Char) : Nat × Nat :=
  match text.splitOn '>' with
  | [source, image] =>
      match (source.splitOn '+').map hexValue with
      | [m, n] => (key m n, hexValue image)
      | _ => (0, 0)
  | _ => (0, 0)

def ofText (text : String) : PairTable :=
  ⟨(((Text.rows text).map row).mergeSort fun a b => decide (a.1 ≤ b.1)).toArray⟩

def find? (t : PairTable) (m n : Nat) : Option Char :=
  match lastAtMost Prod.fst t.rows (key m n) 32 0 t.rows.size with
  | some (k, image) => if k = key m n then some (Char.ofNat image) else none
  | none => none

end PairTable

end ArchLint.Text
