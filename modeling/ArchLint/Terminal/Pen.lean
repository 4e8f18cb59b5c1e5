import ArchLint.Text.Basic
import ArchLint.Number.Reading

namespace ArchLint.Terminal

open ArchLint.Number

/-- Attributes and colours in force, each as the codes that set it. -/
structure Pen where
  /-- Codes of the attributes, ascending, the underline apart. -/
  attributes : List Nat := []
  /-- Whether the text is underlined. -/
  underlined : Bool := false
  foreground : List Nat := []
  background : List Nat := []
  lineColor : List Nat := []
  deriving DecidableEq, Repr, Inhabited

namespace Pen

/-- A sequence that selects renditions. -/
def sequenceOf (codes : List Nat) : List Char :=
  "\x1b[".toList ++ (";".intercalate (codes.map toString)).toList ++ ['m']

/-- The sequence that returns to plain text. -/
def plainSequence : List Char :=
  "\x1b[m".toList

def isPlain (p : Pen) : Bool :=
  p = {}

/-- The sequence that sets a pen from plain text. -/
def sequence (p : Pen) : List Char :=
  sequenceOf (p.attributes ++ (if p.underlined then [4] else []) ++
    p.foreground ++ p.background ++ p.lineColor)

/-- Whether blanks in this pen leave no mark. -/
def hidesBlanks (p : Pen) : Bool :=
  !p.attributes.contains 7 && p.background.isEmpty && !p.underlined

def withAttribute (code : Nat) (p : Pen) : Pen :=
  { p with attributes := (p.attributes.filter (· < code)) ++ code :: p.attributes.filter (code < ·) }

def withoutAttributes (codes : List Nat) (p : Pen) : Pen :=
  { p with attributes := p.attributes.filter (!codes.contains ·) }

/-- The codes of an extended colour at the start of the parameters, with the
parameters behind it. -/
def extendedColor? : List Nat → Option (List Nat × List Nat)
  | target :: 5 :: index :: rest => some ([target, 5, index], rest)
  | target :: 2 :: r :: g :: b :: rest => some ([target, 2, r, g, b], rest)
  | _ => none

/-- Applies one code that stands by itself. -/
def applyCode (code : Nat) (p : Pen) : Pen :=
  if code = 0 then {}
  else if code = 4 then { p with underlined := true }
  else if code ≤ 9 then p.withAttribute code
  else if code = 22 then p.withoutAttributes [1, 2]
  else if code = 24 then { p with underlined := false }
  else if code = 25 then p.withoutAttributes [5, 6]
  else if 23 ≤ code ∧ code ≤ 29 then p.withoutAttributes [code - 20]
  else if (30 ≤ code ∧ code ≤ 37) ∨ (90 ≤ code ∧ code ≤ 97) then { p with foreground := [code] }
  else if code = 39 then { p with foreground := [] }
  else if (40 ≤ code ∧ code ≤ 47) ∨ (100 ≤ code ∧ code ≤ 107) then { p with background := [code] }
  else if code = 49 then { p with background := [] }
  else if code = 59 then { p with lineColor := [] }
  else p

/-- Applies the parameters of a sequence from left to right; each step uses up
one parameter at least. -/
def applyCodes : Nat → List Nat → Pen → Pen
  | 0, _, p => p
  | _, [], p => p
  | n + 1, code :: rest, p =>
      match extendedColor? (code :: rest) with
      | some (color, behind) =>
          if code = 38 then applyCodes n behind { p with foreground := color }
          else if code = 48 then applyCodes n behind { p with background := color }
          else if code = 58 then applyCodes n behind { p with lineColor := color }
          else applyCodes n rest (p.applyCode code)
      | none => applyCodes n rest (p.applyCode code)

/-- The parameters between the opening of a sequence and its letter. -/
def parametersOf (body : List Char) : List Nat :=
  (body.splitOn ';').flatMap fun group => (group.splitOn ':').map natOfDigits

/-- The pen after a control sequence. Only sequences of renditions change
it. -/
def afterControl (p : Pen) (sequence : List Char) : Pen :=
  match sequence, sequence.getLast? with
  | '\x1b' :: '[' :: body, some 'm' =>
      let body := body.dropLast
      if body.isEmpty then {}
      else if body.all (fun c => c.isDigit || c = ';' || c = ':') then
        let parameters := parametersOf body
        applyCodes parameters.length parameters p
      else p
  | _, _ => p

end Pen

end ArchLint.Terminal
