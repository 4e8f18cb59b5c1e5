import ArchLint.Text.Basic
import ArchLint.Text.Width

namespace ArchLint.Terminal

open ArchLint.Text

/-- Where a reader stands within a control sequence. -/
inductive ControlState where
  /-- Outside of every sequence. -/
  | ground
  /-- After the escape character. -/
  | escape
  /-- After an escape character and some intermediate characters. -/
  | intermediate
  /-- In the parameters of a sequence that ends with a letter. -/
  | parameters
  /-- In a string for the terminal; some of them end with a bell. -/
  | string (endsWithBell : Bool)
  deriving DecidableEq, Repr

/-- A character without a glyph of its own among the ASCII characters. -/
def isControl (c : Char) : Bool :=
  c < ' ' || c = '\x7f'

/-- What a character behind the escape character opens. -/
def ControlState.afterEscape (c : Char) : ControlState :=
  if c = '[' then .parameters
  else if c = ']' then .string true
  else if c = 'P' || c = 'X' || c = '^' || c = '_' then .string false
  else if c < '0' then .intermediate
  else .ground

/-- The state after a character, and whether the character is shown. -/
def ControlState.next (state : ControlState) (c : Char) : ControlState × Bool :=
  if c = '\x1b' then (.escape, false)
  else if c = '\x18' || c = '\x1a' then (.ground, false)
  else
    match state with
    | .string endsWithBell =>
        (if endsWithBell && c = '\x07' then .ground else state, false)
    | .ground => (.ground, !isControl c)
    | .escape =>
        if '\x7f' < c then (.ground, true)
        else (if isControl c then state else .afterEscape c, false)
    | .intermediate =>
        if '\x7f' < c then (.ground, true)
        else (if isControl c || c < '0' then state else .ground, false)
    | .parameters =>
        if '\x7f' < c then (.ground, true)
        else (if isControl c || c < '@' then state else .ground, false)

/-- A part of a text: a cluster in cells of its own, or a control character or
sequence. -/
inductive Piece where
  | cluster (chars : List Char)
  | control (chars : List Char)
  deriving DecidableEq, Repr

namespace Piece

def chars : Piece → List Char
  | .cluster cs => cs
  | .control cs => cs

/-- The pieces of characters that are all shown. -/
def ofShown (shown : List Char) : List Piece :=
  (clusters shown).map .cluster

/-- The piece of an unfinished sequence. -/
def ofSequence (sequence : List Char) : List Piece :=
  if sequence.isEmpty then [] else [.control sequence]

/-- The pieces of a text, behind shown characters and an open sequence that are
not put into pieces yet. Both are kept in reverse order. -/
def piecesFrom (state : ControlState) (shown sequence : List Char) : List Char → List Piece
  | [] => ofShown shown.reverse ++ ofSequence sequence.reverse
  | c :: cs =>
      match state.next c with
      | (next, true) => ofSequence sequence.reverse ++ piecesFrom next (c :: shown) [] cs
      | (next, false) =>
          let before := ofShown shown.reverse
          let cut := if c = '\x1b' then ofSequence sequence.reverse else []
          let sequence := if c = '\x1b' then [c] else c :: sequence
          if next = .ground then
            before ++ cut ++ ofSequence sequence.reverse ++ piecesFrom next [] [] cs
          else before ++ cut ++ piecesFrom next [] sequence cs

end Piece

def pieces (s : String) : List Piece :=
  Piece.piecesFrom .ground [] [] s.toList

/-- Pictographs that are narrow although their neighbours take two columns. -/
def narrowPictographs : RangeTable :=
  RangeTable.ofText "3030 303d 3297 3299 1f202 1f237 1f260-1f265"

/-- The number of columns that one character takes by itself. -/
def cellWidth (c : Char) : Nat :=
  match clusterRole c with
  | .control | .carriageReturn | .lineFeed | .extending | .joiner => 0
  | .flagHalf => 2
  | .pictograph =>
      if doubleWidth.contains c.toNat && !narrowPictographs.contains c.toNat then 2 else 1
  | _ =>
      if c = '\u2e3a' then 3
      else if c = '\u2e3b' then 4
      else if doubleWidth.contains c.toNat then 2
      else 1

/-- The number of columns that a pictograph takes with its modifiers: the
variation selectors choose between the narrow and the wide form. -/
def pictographWidth (first : Char) (modifiers : List Char) : Nat :=
  modifiers.foldl
    (fun width c => if c = '\ufe0e' then 1 else if c = '\ufe0f' then 2 else width)
    (cellWidth first)

def Piece.columns : Piece → Nat
  | .control _ => 0
  | .cluster [] => 0
  | .cluster (c :: cs) =>
      match clusterRole c with
      | .flagHalf | .hangulLead => cellWidth c
      | .pictograph => pictographWidth c cs
      | _ => ((c :: cs).map cellWidth).foldr (· + ·) 0

/-- The number of columns of a text on a terminal. -/
def columns (s : String) : Nat :=
  ((pieces s).map Piece.columns).foldr (· + ·) 0

/-- The pieces that fit into a number of columns. Behind the first cluster that
does not fit only control sequences stay. -/
def fittingPieces (room : Nat) : List Piece → List Piece
  | [] => []
  | .control cs :: ps => .control cs :: fittingPieces room ps
  | p :: ps =>
      if p.columns ≤ room then p :: fittingPieces (room - p.columns) ps
      else ps.filter (fun p => p matches .control _)

/-- Cuts a text to a number of columns. -/
def cut (limit : Nat) (s : String) : String :=
  if columns s ≤ limit then s
  else String.ofList ((fittingPieces limit (pieces s)).flatMap Piece.chars)

end ArchLint.Terminal
