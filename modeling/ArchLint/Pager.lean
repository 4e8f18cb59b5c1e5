import ArchLint.Number.Decimal
import ArchLint.Terminal.Style

namespace ArchLint

open ArchLint.Text
open ArchLint.Number

/-- A window on lines of text. -/
structure Viewport where
  columns : Int := 0
  rows : Nat := 0
  lines : List String := []
  /-- The number of lines above the window. -/
  offset : Nat := 0
  deriving DecidableEq, Repr, Inhabited

namespace Viewport

/-- The offset at which the last line is at the bottom of the window. -/
def lastOffset (v : Viewport) : Nat :=
  v.lines.length - v.rows

/-- Moves the window, no further than to the last line. -/
def moveTo (v : Viewport) (offset : Nat) : Viewport :=
  { v with offset := min offset v.lastOffset }

/-- Scrolls towards the end. A window at or behind the last offset stays. -/
def scrollDown (v : Viewport) (n : Nat) : Viewport :=
  if v.lastOffset ≤ v.offset ∨ n = 0 then v else v.moveTo (v.offset + n)

/-- Scrolls towards the start. A window at the start stays. -/
def scrollUp (v : Viewport) (n : Nat) : Viewport :=
  if v.offset = 0 ∨ n = 0 then v else v.moveTo (v.offset - n)

/-- Shows other lines. A window that would lie behind all of them moves to
their end. -/
def withLines (v : Viewport) (lines : List String) : Viewport :=
  let v := { v with lines }
  if lines.length ≤ v.offset then v.moveTo v.lastOffset else v

/-- The lines in the window. They are cut when some line, shown or not, is too
long. -/
def visible (v : Viewport) : List String :=
  let shown := (v.lines.drop v.offset).take v.rows
  let longest := (v.lines.map Terminal.columns).foldl max 0
  if (longest : Int) ≤ v.columns ∨ v.columns = 0 then shown
  else shown.map fun line => if v.columns < 0 then "" else Terminal.cut v.columns.toNat line

def view (v : Viewport) : String :=
  let frame : Terminal.Style := { frameColumns := v.columns.toNat, frameLines := v.rows }
  frame.render false (joinWith "\n" v.visible)

/-- How far the window is on its way to the end, as a percentage. -/
def percentage (v : Viewport) : Binary64 :=
  if v.lines.length ≤ v.rows then .ofNat 100
  else
    let part := roundBinary64 ((v.offset : Rat) / ((v.lines.length - v.rows : Nat) : Rat))
    .ofRat ((if part ≤ 1 then part else 1) * 100)

end Viewport

structure Pager where
  title : String
  notices : String
  content : String
  /-- Lines of the screen; zero as long as its size is unknown. -/
  screenRows : Int := 0
  viewport : Viewport := {}
  quitting : Bool := false
  deriving DecidableEq, Repr, Inhabited

namespace Pager

/-- The title is bold and blue, with a blank on both sides. -/
def titleStyle : Terminal.Style :=
  { renditions := 1 :: Terminal.Style.paletteColor 39, sidePadding := 1 }

def noticeStyle : Terminal.Style :=
  { renditions := [2] }

def helpStyle : Terminal.Style :=
  { renditions := Terminal.Style.paletteColor 241 }

/-- Screen lines that the content cannot use. -/
def reservedRows : Nat :=
  4

/-- The pager before it knows its screen. -/
def start (title notices content : String) : Pager :=
  { title, notices, content }

/-- Fits the pager to a screen. The window keeps one line on the smallest
screen. -/
def resize (p : Pager) (columns rows : Int) : Pager :=
  let viewport := { p.viewport with columns, rows := (max (rows - reservedRows) 1).toNat }
  { p with
    screenRows := rows
    viewport := viewport.withLines (lines (replaceAll "\r\n" "\n" p.content)) }

/-- Whether the content is too long for the screen. -/
def needsPagination (p : Pager) : Bool :=
  p.screenRows != 0 && decide (p.screenRows - reservedRows < (lines p.content).length)

inductive Action where
  | quit
  | top
  | bottom
  | pageDown
  | pageUp
  | halfPageDown
  | halfPageUp
  | lineDown
  | lineUp
  deriving DecidableEq, Repr

/-- The keys in use. A blank stands for the space bar. -/
def Action.ofKey? : String → Option Action
  | "q" | "esc" | "ctrl+c" => some .quit
  | "g" | "home" => some .top
  | "G" | "end" => some .bottom
  | "pgdown" | " " | "f" => some .pageDown
  | "pgup" | "b" => some .pageUp
  | "d" | "ctrl+d" => some .halfPageDown
  | "u" | "ctrl+u" => some .halfPageUp
  | "j" | "down" => some .lineDown
  | "k" | "up" => some .lineUp
  | _ => none

/-- Does what a key asks for. -/
def perform (p : Pager) (action : Action) : Pager :=
  let v := p.viewport
  match action with
  | .quit => { p with quitting := true }
  | .top => { p with viewport := v.moveTo 0 }
  | .bottom => { p with viewport := v.moveTo v.lastOffset }
  | .pageDown => { p with viewport := v.scrollDown v.rows }
  | .pageUp => { p with viewport := v.scrollUp v.rows }
  | .halfPageDown => { p with viewport := v.scrollDown (v.rows / 2) }
  | .halfPageUp => { p with viewport := v.scrollUp (v.rows / 2) }
  | .lineDown => { p with viewport := v.scrollDown 1 }
  | .lineUp => { p with viewport := v.scrollUp 1 }

/-- Takes a key, and says whether the program is to end. Other keys do
nothing. -/
def press (p : Pager) (key : String) : Pager × Bool :=
  match Action.ofKey? key with
  | some action => (p.perform action, action = .quit)
  | none => (p, false)

/-- What the pager is told: the size of its screen, or a key. -/
inductive Message where
  | size (columns rows : Int)
  | key (name : String)
  deriving DecidableEq, Repr

/-- Takes a message, and says whether the program is to end. -/
def update (p : Pager) : Message → Pager × Bool
  | .size columns rows => (p.resize columns rows, false)
  | .key name => p.press name

/-- The line of help, led by the percentage. -/
def help (p : Pager) : String :=
  let percentage := fixed 0 p.viewport.percentage
  blanks (3 - percentage.length) ++ percentage ++
    "% | ↑/k: up | ↓/j: down | g: top | G: bottom | q: quit"

/-- The screen of the pager; empty after its end. -/
def view (p : Pager) (color : Bool) : String :=
  if p.quitting then ""
  else
    titleStyle.render color p.title ++ "\n" ++ noticeStyle.render color p.notices ++ "\n" ++
      p.viewport.view ++ "\n" ++ helpStyle.render color p.help ++ "\n"

/-- All of the content below the title, for an output that does not scroll. -/
def staticView (p : Pager) (color : Bool) : String :=
  titleStyle.render color p.title ++ "\n" ++
    (if p.notices.isEmpty then "" else noticeStyle.render color p.notices ++ "\n") ++
    p.content

end Pager

end ArchLint
