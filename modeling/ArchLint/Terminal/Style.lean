import ArchLint.Terminal.Wrapping

namespace ArchLint.Terminal

open ArchLint.Text

structure Style where
  /-- Codes of the renditions. -/
  renditions : List Nat := []
  /-- Blanks on each side of every line. -/
  sidePadding : Nat := 0
  /-- Columns of the frame; zero when it is open to the right. -/
  frameColumns : Nat := 0
  /-- Lines of the frame; zero when it is open at the bottom. -/
  frameLines : Nat := 0
  deriving DecidableEq, Repr, Inhabited

namespace Style

/-- The renditions of a colour of the palette of 256. -/
def paletteColor (index : Nat) : List Nat :=
  [38, 5, index]

/-- A line between the sequences that set and reset the renditions. -/
def paint (style : Style) (color : Bool) (line : String) : String :=
  if color && !style.renditions.isEmpty then
    String.ofList (Pen.sequenceOf style.renditions) ++ line ++ "\x1b[0m"
  else line

/-- Pads lines with blanks on the right to the widest of them, and to a given
width at least. -/
def align (width : Nat) (lines : List String) : List String :=
  let widths := lines.map columns
  let target := widths.foldl max width
  (lines.zip widths).map fun (line, w) => line ++ blanks (target - w)

/-- The lines of a text before layout: tabs are four blanks, and a carriage
return before a line feed is dropped. -/
def normalized (text : String) : String :=
  replaceAll "\r\n" "\n" (replaceAll "\t" "    " text)

def render (style : Style) (color : Bool) (text : String) : String :=
  let side := blanks style.sidePadding
  let painted := (lines (wrap (style.frameColumns - 2 * style.sidePadding) (normalized text))).map
    fun line => side ++ style.paint color line ++ side
  let filled := painted ++ List.replicate (style.frameLines - painted.length) ""
  let aligned :=
    if filled.length = 1 ∧ style.frameColumns = 0 then filled else align style.frameColumns filled
  let narrowed := if style.frameColumns = 0 then aligned else aligned.map (cut style.frameColumns)
  let shortened := if style.frameLines = 0 then narrowed else narrowed.take style.frameLines
  joinWith "\n" shortened

end Style

end ArchLint.Terminal
