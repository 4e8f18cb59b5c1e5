import ArchLint.Text.Utf8

namespace ArchLint.Text

/-- The next row of distances: `above` is the row for the bytes before `b`, and
`left` the distance at the start of the new row. -/
def nextRow (b : UInt8) (left : Nat) : List UInt8 → List Nat → List Nat
  | a :: as, diagonal :: up :: above =>
      let here := if a = b then diagonal else min (min left up) diagonal + 1
      here :: nextRow b here as (up :: above)
  | _, _ => []

/-- The rows of distances, one for each byte of the second text. -/
def lastRow (as : List UInt8) : List UInt8 → List Nat → List Nat
  | [], row => row
  | b :: bs, row =>
      let start := row.headD 0 + 1
      lastRow as bs (start :: nextRow b start as row)

/-- The distance between two texts. -/
def editDistance (s t : String) : Nat :=
  let as := (toBytes s).toList
  (lastRow as (toBytes t).toList (List.range (as.length + 1))).getLastD 0

end ArchLint.Text
