import ArchLint.Text.Folding

namespace ArchLint

/-- Ranges of code points, or with `true` all that lies outside of them. -/
abbrev CharSet.Item := Bool × List (Nat × Nat)

/-- A set of characters, made up of items or negated. -/
structure CharSet where
  items : List CharSet.Item := []
  isNegated : Bool := false
  ignoresCase : Bool := false

namespace CharSet

/-- Whether a code point lies in one of the ranges. -/
def inRanges (ranges : List (Nat × Nat)) (n : Nat) : Bool :=
  ranges.any fun (lo, hi) => lo ≤ n && n ≤ hi

/-- Whether a character belongs to the set. Without regard to case, a variant
of the character in the ranges is enough. -/
def contains (s : CharSet) (c : Char) : Bool :=
  let variants := if s.ignoresCase then Text.caseVariants c else [c]
  let found := s.items.any fun (negated, ranges) =>
    (variants.any fun v => inRanges ranges v.toNat) != negated
  found != s.isNegated

end CharSet

/-- What a position between two characters can be asked for. -/
inductive Anchor where
  | textStart
  | textEnd
  | lineStart
  | lineEnd
  | wordBoundary
  | noWordBoundary
  deriving DecidableEq, Repr

/-- A regular expression. A repetition without upper bound has none. -/
inductive Pattern where
  | empty
  | char (set : CharSet)
  | anchor (kind : Anchor)
  | sequence (first second : Pattern)
  | choice (first second : Pattern)
  | repeated (least : Nat) (most : Option Nat) (body : Pattern)
  deriving Inhabited

namespace Pattern

def isWordChar (c : Char) : Bool :=
  c.isAlphanum || c == '_'

/-- Whether a position is as an anchor asks. -/
def anchorHolds (text : Array Char) (i : Nat) : Anchor → Bool
  | .textStart => i == 0
  | .textEnd => i == text.size
  | .lineStart => i == 0 || text[i - 1]? == some '\n'
  | .lineEnd => i == text.size || text[i]? == some '\n'
  | .wordBoundary => isBoundary
  | .noWordBoundary => !isBoundary
where
  /-- Whether a word starts or ends at the position. -/
  isBoundary : Bool :=
    let before := 0 < i && (text[i - 1]?).any isWordChar
    let after := (text[i]?).any isWordChar
    before != after

/-- Adds the elements of the second list that are not in the first. -/
def union (xs ys : List Nat) : List Nat :=
  ys.foldl (fun xs y => if xs.elem y then xs else y :: xs) xs

/-- Applies a step a number of times. -/
def times (step : List Nat → List Nat) : Nat → List Nat → List Nat
  | 0, xs => xs
  | n + 1, xs => times step n (step xs)

/-- Applies a step up to a number of times, and collects all positions. -/
def upTo (step : List Nat → List Nat) : Nat → List Nat → List Nat
  | 0, xs => xs
  | n + 1, xs =>
      let ys := union xs (step xs)
      if ys.length = xs.length then xs else upTo step n ys

/-- The positions where a match can end that starts at one of the given ones.
No more repetitions than characters reach new positions. -/
def ends (text : Array Char) : Pattern → List Nat → List Nat
  | .empty, starts => starts
  | .char set, starts =>
      starts.filterMap fun i => if (text[i]?).any set.contains then some (i + 1) else none
  | .anchor kind, starts => starts.filter fun i => anchorHolds text i kind
  | .sequence p q, starts => ends text q (ends text p starts)
  | .choice p q, starts => union (ends text p starts) (ends text q starts)
  | .repeated least most body, starts =>
      let step := fun xs => union [] (ends text body xs)
      let more := most.elim (text.size + 1) (· - least)
      upTo step more (times step least starts)

/-- Whether a match occurs anywhere in a text. -/
def isFoundIn (p : Pattern) (text : String) : Bool :=
  let chars := text.toList.toArray
  !(ends chars p (List.range (chars.size + 1))).isEmpty

end Pattern

end ArchLint
