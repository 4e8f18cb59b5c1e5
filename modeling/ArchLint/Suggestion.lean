import ArchLint.Text.Basic
import ArchLint.Text.Classes
import ArchLint.Text.Folding
import ArchLint.Text.Quoted

/-!
Suggestions for a mistyped name. A known name fits when it contains the
letters of the pattern in order; it ranks higher the more of them stand at its
start, after a separator, at a capital, or side by side.
-/

namespace ArchLint.Suggestion

/-- Characters that separate the words of a name. -/
def isSeparator (c : Char) : Bool :=
  c == '/' || c == '-' || c == '_' || c == ' ' || c == '.' || c == '\\'

/-- The state of matching a pattern against a name. Offsets count bytes. -/
structure Progress where
  /-- Letters of the pattern still to be matched. -/
  pending : List Char
  /-- Score of the letters matched so far. -/
  score : Int := 0
  /-- Offset of the last matched letter. -/
  lastMatch : Option Nat := none
  /-- The best place for the next letter seen so far: its score and offset. -/
  best : Option (Int × Nat) := none
  /-- The bonus that the next adjacent match builds on. -/
  adjacentBonus : Int := 0
  /-- The previous character and its offset. -/
  previous : Option (Char × Nat) := none
  /-- How many letters are matched. -/
  matched : Nat := 0

/-- What matching a letter with character `c` at an offset is worth, and the
part of it that is owed to an adjacent match. -/
def worth (p : Progress) (c : Char) (offset : Nat) : Int × Int :=
  let atStart : Int := if offset = 0 then 10 else 0
  let atCapital : Int := match p.previous with
    | some (d, _) => if Text.isLower d && Text.isUpper c then 20 else 0
    | none => 0
  let afterSeparator : Int := match p.previous with
    | some (d, _) => if isSeparator d then 20 else 0
    | none => 0
  let adjacent : Int := match p.lastMatch with
    | some last =>
        if p.previous.map (·.2) = some last then p.adjacentBonus * 2 + 5 else 0
    | none => 0
  (atStart + atCapital + afterSeparator + adjacent, adjacent)

/-- Considers a character for the next letter of the pattern. -/
def consider (p : Progress) (c : Char) (offset : Nat) : Progress :=
  match p.pending with
  | [] => p
  | letter :: _ =>
      if Text.sameUpToCase c letter then
        let (value, adjacent) := worth p c offset
        let better : Bool := match p.best with
          | some (best, _) => decide (best < value)
          | none => true
        { p with
          adjacentBonus := p.adjacentBonus + adjacent
          best := if better then some (value, offset) else p.best }
      else p

/-- Takes the best place for the current letter and goes on to the next one.
Characters before the first match cost five points each, at most fifteen. -/
def commit (p : Progress) : Progress :=
  match p.best with
  | none => p
  | some (value, offset) =>
      let penalty : Int := if p.lastMatch.isNone then max (-5 * (offset : Int)) (-15) else 0
      { p with
        pending := p.pending.drop 1
        score := p.score + value + penalty
        lastMatch := some offset
        best := none
        matched := p.matched + 1 }

/-- Walks over a name. A place is taken when the letter after the current one
comes next, or at the end. -/
def walk (p : Progress) (offset : Nat) : List Char → Progress
  | [] => p
  | c :: cs =>
      let p := consider p c offset
      let due := match cs with
        | [] => true
        | next :: _ =>
            match p.pending with
            | _ :: letter :: _ => Text.sameUpToCase letter next
            | _ => false
      let p := if due then commit p else p
      walk { p with previous := some (c, offset) } (offset + c.utf8Size) cs

/-- The score of a name, if it contains the pattern. Every byte that is not
matched costs a point. -/
def score? (pattern name : String) : Option Int :=
  let p := walk { pending := pattern.toList } 0 name.toList
  if p.matched = pattern.length then
    some (p.score + (p.matched : Int) - (name.utf8ByteSize : Int))
  else none

/-- The known names that fit a pattern, best first; of equal ones the later
comes first. -/
def ranked (pattern : String) (known : List String) : List String :=
  if pattern.isEmpty then []
  else
    let scored := known.filterMap fun name => (score? pattern name).map fun s => (s, name)
    (scored.reverse.mergeSort fun a b => decide (b.1 ≤ a.1)).map (·.2)

/-- How many names are suggested at most. -/
def limit : Nat :=
  3

/-- The names suggested for a mistyped one. -/
def suggest (pattern : String) (known : List String) : List String :=
  (ranked pattern known).take limit

/-- A requested module that nothing is known about. -/
structure UnknownModule where
  name : String
  suggestions : List String
  deriving DecidableEq, Repr

/-- The requested names that are not known, with suggestions. -/
def unknownModules (known requested : List String) : List UnknownModule :=
  (requested.filter fun name => !known.elem name).map fun name =>
    ⟨name, suggest name known⟩

def UnknownModule.message (u : UnknownModule) : String :=
  "unknown module " ++ Text.quote u.name ++
    (if u.suggestions.isEmpty then ""
     else " (did you mean " ++ Text.joinWith ", " u.suggestions ++ "?)")

end ArchLint.Suggestion
