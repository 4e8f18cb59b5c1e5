import ArchLint.Text.Basic
import ArchLint.Text.Width

namespace ArchLint

/-- Where a cell stands in its column. -/
inductive Alignment where
  | left
  | center
  | right
  deriving DecidableEq, Repr, Inhabited

/-- A table. The heading has one cell for every column. -/
structure Table where
  heading : List String
  alignments : List Alignment
  rows : List (List String)
  footing : List String

namespace Table

/-- Whether the numbers of a colour sequence are well formed: none at all, or
numbers of one to three digits between semicolons. -/
def areColorNumbers (body : List Char) : Bool :=
  body.isEmpty || (body.splitOn ';').all fun n => 1 ≤ n.length && n.length ≤ 3

/-- The text after a colour sequence, when an escape character has just been
read. -/
def afterColor? : List Char → Option (List Char)
  | '[' :: s =>
      let inBody (c : Char) : Bool := c.isDigit || c == ';'
      match s.dropWhile inBody with
      | [] => none
      | c :: rest =>
          if (c == 'm' || c == '|' || c == 'K') && areColorNumbers (s.takeWhile inBody) then
            some rest
          else none
  | _ => none

/-- The text without its colour sequences. The fuel is the length of the
text. -/
def withoutColors : Nat → List Char → List Char
  | 0, s => s
  | _, [] => []
  | n + 1, c :: cs =>
      if c = '\x1b' then
        match afterColor? cs with
        | some rest => withoutColors n rest
        | none => c :: withoutColors n cs
      else c :: withoutColors n cs

/-- The room that a line of a cell takes; colours take none. -/
def lineWidth (line : String) : Nat :=
  Text.width (String.ofList (withoutColors line.length line.toList))

/-- A line of a cell in a column of the given width. With an odd gap the
center is one column further left. -/
def aligned (a : Alignment) (columns : Nat) (line : String) : String :=
  let gap := columns - lineWidth line
  match a with
  | .left => line ++ Text.blanks gap
  | .right => Text.blanks gap ++ line
  | .center => Text.blanks (gap / 2) ++ line ++ Text.blanks (gap - gap / 2)

def cellWidth (cell : String) : Nat :=
  ((Text.lines cell).map lineWidth).foldl max 0

def columnWidths (t : Table) : List Nat :=
  t.heading.mapIdx fun i head =>
    ((t.footing :: t.rows).filterMap (·[i]?)).foldl (fun w cell => max w (cellWidth cell))
      (cellWidth head)

def rule (widths : List Nat) : String :=
  Text.repeated ((widths.map (· + 2)).foldr (· + ·) 2) "-" ++ "\n"

/-- The cells of one line, with bars between them. -/
def row (cells : List String) : String :=
  "  " ++ Text.joinWith " | " cells ++ "  \n"

/-- A line of the heading: the cells are centered and in capitals. -/
def headingLine (widths : List Nat) (cells : List String) : String :=
  row ((widths.zip cells).map fun (w, cell) => aligned .center w cell.toUpper)

/-- The lines of a cell, filled up with blank ones to the height of its
row. -/
def filled (height : Nat) (cell : String) : List String :=
  let lines := Text.lines cell
  lines ++ List.replicate (height - lines.length) "  "

def bodyRow (widths : List Nat) (alignments : List Alignment) (cells : List String) : String :=
  let height := (cells.map fun cell => (Text.lines cell).length).foldl max 0
  let columns := (widths.zip (alignments.zip cells)).map fun (w, a, cell) =>
    (filled height cell).map (aligned a w)
  String.join ((List.range height).map fun i => row (columns.filterMap (·[i]?)))

/-- The line of the footing: like the heading, but no bar follows an empty
cell. -/
def footingLine (widths : List Nat) (cells : List String) : String :=
  let last := cells.length - 1
  let parts := (widths.zip cells).mapIdx fun i (w, cell) =>
    " " ++ aligned .center w cell.toUpper ++ " " ++
      (if i = last || cell.isEmpty then " " else "|")
  " " ++ String.join parts ++ "\n"

def render (t : Table) : String :=
  let widths := t.columnWidths
  headingLine widths t.heading ++ rule widths ++
    String.join (t.rows.map (bodyRow widths t.alignments)) ++
    rule widths ++ footingLine widths t.footing ++ rule widths

end Table

end ArchLint
