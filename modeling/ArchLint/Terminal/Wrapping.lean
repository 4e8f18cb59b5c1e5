import ArchLint.Terminal.Cells
import ArchLint.Terminal.Pen

/-!
Breaking lines at a width. A line is broken at blanks and behind hyphens, and
within a word that is longer than a line. Every line starts and ends with a
plain pen, so that renditions do not run over the break.
-/

namespace ArchLint.Terminal

/-- A text that is being broken into lines. Characters are kept in reverse
order. -/
structure Wrapping where
  written : List Char := []
  /-- Columns of the current line that are in use. -/
  used : Nat := 0
  /-- Blanks that are written when a word follows on the line. -/
  blanks : List Char := []
  word : List Char := []
  wordColumns : Nat := 0
  /-- The pen at the end of the word. -/
  pen : Pen := {}
  /-- The pen at the end of what is written. -/
  writtenPen : Pen := {}
  deriving Inhabited

namespace Wrapping

def putBlanks (w : Wrapping) : Wrapping :=
  { w with written := w.blanks ++ w.written, used := w.used + w.blanks.length, blanks := [] }

/-- Writes the pending word with the blanks before it. -/
def putWord (w : Wrapping) : Wrapping :=
  if w.word.isEmpty then w
  else
    let w := w.putBlanks
    { w with
      written := w.word ++ w.written
      used := w.used + w.wordColumns
      word := []
      wordColumns := 0
      writtenPen := w.pen }

/-- Ends the line; its pending blanks are dropped. -/
def breakLine (w : Wrapping) : Wrapping :=
  let around (sequence : List Char) := if w.writtenPen.isPlain then [] else sequence.reverse
  { w with
    written := around w.writtenPen.sequence ++ '\n' :: around Pen.plainSequence ++ w.written
    used := 0
    blanks := [] }

/-- Settles the blanks at the end of a line: they stay when they fit. -/
def settleBlanks (limit : Nat) (w : Wrapping) : Wrapping :=
  if w.wordColumns = 0 then
    if limit < w.used + w.blanks.length then { w with used := 0, blanks := [] }
    else { w with written := w.blanks ++ w.written, blanks := [] }
  else w

/-- Takes a cluster into the pending word. -/
def extendWord (limit : Nat) (chars : List Char) (columns : Nat) (w : Wrapping) : Wrapping :=
  let w := if limit < w.wordColumns + columns then w.putWord else w
  let w := { w with
    word := chars.reverse ++ w.word, wordColumns := w.wordColumns + columns }
  if limit < w.used + w.wordColumns + w.blanks.length then w.breakLine else w

/-- Takes the next piece of the text. -/
def take (limit : Nat) (w : Wrapping) (p : Piece) : Wrapping :=
  match p with
  | .control ['\n'] => (w.settleBlanks limit).putWord.breakLine
  | .control cs => { w with word := cs.reverse ++ w.word, pen := w.pen.afterControl cs }
  | .cluster [' '] =>
      if w.pen.hidesBlanks then
        let w := w.putWord
        { w with blanks := ' ' :: w.blanks }
      else w.extendWord limit [' '] 1
  | .cluster ['-'] =>
      let w := w.putBlanks
      if w.used + w.wordColumns + 1 ≤ limit then
        let w := w.putWord
        { w with written := '-' :: w.written, used := w.used + 1 }
      else w.extendWord limit ['-'] 1
  | .cluster cs =>
      if p.columns = 0 then { w with word := cs.reverse ++ w.word }
      else w.extendWord limit cs p.columns

def finish (limit : Nat) (w : Wrapping) : List Char :=
  let w := (w.settleBlanks limit).putWord
  (if w.writtenPen.isPlain then w.written else Pen.plainSequence.reverse ++ w.written).reverse

end Wrapping

/-- Breaks the lines of a text at a number of columns; zero columns leave it as
it is. -/
def wrap (limit : Nat) (s : String) : String :=
  if limit = 0 then s
  else
    let w := (pieces s).foldl (Wrapping.take limit) {}
    String.ofList (w.finish limit)

end ArchLint.Terminal
