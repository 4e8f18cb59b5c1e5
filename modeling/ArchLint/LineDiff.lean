import ArchLint.Text.Basic
import Std.Data.HashMap

/-!
Differences between two texts, line by line, in the unified form. Longest
common runs of lines are matched first, and then the parts before and after
each of them.
-/

namespace ArchLint.LineDiff

/-- A run of equal lines: where it starts in both texts, and its length. -/
structure Run where
  left : Nat
  right : Nat
  size : Nat
  deriving DecidableEq, Repr, Inhabited

/-- A range of lines in both texts; the ends are excluded. -/
structure Window where
  leftStart : Nat
  leftEnd : Nat
  rightStart : Nat
  rightEnd : Nat
  deriving DecidableEq, Repr, Inhabited

/-- The lines of two texts, and where each line of the second one occurs. -/
structure Texts where
  left : Array String
  right : Array String
  places : Std.HashMap String (List Nat)

/-- A line is popular if it makes up more than one hundredth of a text of at
least two hundred lines. -/
def isPopular (total occurrences : Nat) : Bool :=
  200 ≤ total && total / 100 + 1 < occurrences

/-- Indexes the second text, without its popular lines. -/
def Texts.of (left right : List String) : Texts :=
  let indexed := right.zipIdx
  let all := indexed.foldr
    (fun (line, i) (m : Std.HashMap String (List Nat)) => m.insert line (i :: m.getD line []))
    {}
  ⟨left.toArray, right.toArray, all.filter fun _ is => !isPopular right.length is.length⟩

/-- The search for a longest run: the best one so far, and the length of the
run that ends at each line of the second text and the current line of the
first. -/
structure Search where
  best : Run
  ending : Std.HashMap Nat Nat

/-- Continues the search with one line of the first text. -/
def Search.step (t : Texts) (w : Window) (s : Search) (i : Nat) : Search :=
  let js := ((t.left[i]?.bind (t.places[·]?)).getD []).filter fun j =>
    w.rightStart ≤ j && j < w.rightEnd
  js.foldl
    (fun (acc : Search) j =>
      let k := (if j = 0 then 0 else s.ending.getD (j - 1) 0) + 1
      { best := if acc.best.size < k then ⟨i + 1 - k, j + 1 - k, k⟩ else acc.best
        ending := acc.ending.insert j k })
    ⟨s.best, {}⟩

/-- Lengthens a run to the left over equal lines. -/
def Run.extendLeft (t : Texts) (w : Window) : Nat → Run → Run
  | 0, r => r
  | n + 1, r =>
      if w.leftStart < r.left ∧ w.rightStart < r.right ∧
          t.left[r.left - 1]? = t.right[r.right - 1]? then
        extendLeft t w n ⟨r.left - 1, r.right - 1, r.size + 1⟩
      else r

/-- Lengthens a run to the right over equal lines. -/
def Run.extendRight (t : Texts) (w : Window) : Nat → Run → Run
  | 0, r => r
  | n + 1, r =>
      if r.left + r.size < w.leftEnd ∧ r.right + r.size < w.rightEnd ∧
          t.left[r.left + r.size]? = t.right[r.right + r.size]? then
        extendRight t w n ⟨r.left, r.right, r.size + 1⟩
      else r

/-- The longest run of equal lines in a window, of several the first one. -/
def longestRun (t : Texts) (w : Window) : Run :=
  let rows := (List.range (w.leftEnd - w.leftStart)).map (· + w.leftStart)
  let found := (rows.foldl (Search.step t w) ⟨⟨w.leftStart, w.rightStart, 0⟩, {}⟩).best
  let reach := t.left.size
  (found.extendLeft t w reach).extendRight t w reach

/-- All runs of a window in order: the longest, and those before and after it.
Every step shortens the window, whose length is the fuel. -/
def runs (t : Texts) : Nat → Window → List Run
  | 0, _ => []
  | n + 1, w =>
      let r := longestRun t w
      if r.size = 0 then []
      else
        let before :=
          if w.leftStart < r.left ∧ w.rightStart < r.right then
            runs t n ⟨w.leftStart, r.left, w.rightStart, r.right⟩
          else []
        let after :=
          if r.left + r.size < w.leftEnd ∧ r.right + r.size < w.rightEnd then
            runs t n ⟨r.left + r.size, w.leftEnd, r.right + r.size, w.rightEnd⟩
          else []
        before ++ r :: after

/-- Joins runs that follow each other immediately. -/
def joinAdjacent : List Run → List Run
  | [] => []
  | r :: rest =>
      match joinAdjacent rest with
      | [] => [r]
      | s :: later =>
          if r.left + r.size = s.left ∧ r.right + r.size = s.right then
            ⟨r.left, r.right, r.size + s.size⟩ :: later
          else r :: s :: later

/-- A part of the comparison: equal lines, or lines that change. -/
structure Part where
  isEqual : Bool
  window : Window
  deriving DecidableEq, Repr, Inhabited

/-- The part that changes between two positions and the next run, if any. -/
def changed (i i' j j' : Nat) : List Part :=
  if i < i' ∨ j < j' then [⟨false, ⟨i, i', j, j'⟩⟩] else []

/-- The parts from two positions on, up to the ends of both texts. -/
def partsFrom (leftEnd rightEnd : Nat) (i j : Nat) : List Run → List Part
  | [] => changed i leftEnd j rightEnd
  | r :: rest =>
      changed i r.left j r.right ++
        ⟨true, ⟨r.left, r.left + r.size, r.right, r.right + r.size⟩⟩ ::
          partsFrom leftEnd rightEnd (r.left + r.size) (r.right + r.size) rest

def parts (t : Texts) : List Part :=
  let whole : Window := ⟨0, t.left.size, 0, t.right.size⟩
  partsFrom t.left.size t.right.size 0 0
    (joinAdjacent (runs t (t.left.size + t.right.size + 1) whole))

/-- The last `n` lines of a range. -/
def Window.lastLines (n : Nat) (w : Window) : Window :=
  { w with
    leftStart := max w.leftStart (w.leftEnd - n)
    rightStart := max w.rightStart (w.rightEnd - n) }

/-- The first `n` lines of a range. -/
def Window.firstLines (n : Nat) (w : Window) : Window :=
  { w with
    leftEnd := min w.leftEnd (w.leftStart + n)
    rightEnd := min w.rightEnd (w.rightStart + n) }

/-- Keeps `n` lines of context at the start and at the end. -/
def trimEnds (n : Nat) (ps : List Part) : List Part :=
  let onFirst (f : Window → Window) : List Part → List Part
    | [] => []
    | p :: rest => (if p.isEqual then ⟨true, f p.window⟩ else p) :: rest
  (onFirst (Window.firstLines n) (onFirst (Window.lastLines n) ps).reverse).reverse

/-- Groups the parts, with `n` lines of context around every change. `group`
is the current group in reverse. -/
def grouped (n : Nat) (group : List Part) : List Part → List (List Part)
  | [] => [group.reverse]
  | p :: rest =>
      if p.isEqual ∧ 2 * n < p.window.leftEnd - p.window.leftStart then
        (⟨true, p.window.firstLines n⟩ :: group).reverse ::
          grouped n [⟨true, p.window.lastLines n⟩] rest
      else grouped n (p :: group) rest

/-- Whether a group shows a change. -/
def hasChange (group : List Part) : Bool :=
  group.any fun p => !p.isEqual

/-- A range of lines in a group's heading. -/
def rangeText (start stop : Nat) : String :=
  if stop - start = 1 then toString (start + 1)
  else toString (if stop = start then start else start + 1) ++ "," ++ toString (stop - start)

/-- Some lines of a text, each after a mark. -/
def marked (mark : String) (lines : Array String) (start stop : Nat) : String :=
  String.join ((lines.toList.drop start).take (stop - start) |>.map (mark ++ ·))

def partText (t : Texts) (p : Part) : String :=
  let w := p.window
  if p.isEqual then marked " " t.left w.leftStart w.leftEnd
  else
    marked "-" t.left w.leftStart w.leftEnd ++ marked "+" t.right w.rightStart w.rightEnd

/-- The text of a group, under a heading with its ranges. -/
def groupText (t : Texts) (group : List Part) : String :=
  match group.head?, group.getLast? with
  | some first, some last =>
      "@@ -" ++ rangeText first.window.leftStart last.window.leftEnd ++
        " +" ++ rangeText first.window.rightStart last.window.rightEnd ++ " @@\n" ++
        String.join (group.map (partText t))
  | _, _ => ""

/-- The lines of a text with their line feeds; the last one gets one too. -/
def linesOf (text : String) : List String :=
  (Text.lines text).map (· ++ "\n")

/-- The unified difference of two texts with `context` lines around every
change; empty when they are equal. -/
def unified (context : Nat) (leftName rightName left right : String) : String :=
  let t := Texts.of (linesOf left) (linesOf right)
  let groups := (grouped context [] (trimEnds context (parts t))).filter hasChange
  if groups.isEmpty then ""
  else
    (if leftName.isEmpty && rightName.isEmpty then ""
     else "--- " ++ leftName ++ "\n+++ " ++ rightName ++ "\n") ++
      String.join (groups.map (groupText t))

end ArchLint.LineDiff
