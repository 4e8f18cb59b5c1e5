import ArchLint.Number.Reading
import ArchLint.Text.Table

namespace ArchLint.Number

/-- Why a text is no whole number. -/
inductive IntegerFault where
  /-- The text is not written as one. -/
  | malformed
  /-- The number needs more than 64 bits. -/
  | outOfRange
  deriving DecidableEq, Repr

def IntegerFault.text : IntegerFault → String
  | .malformed => "invalid syntax"
  | .outOfRange => "value out of range"

/-- The base of unsigned digits, and the digits behind its mark. A zero in front
of other digits marks octal ones. -/
def splitBase : List Char → Nat × List Char
  | '0' :: x :: d :: ds =>
      if x = 'x' ∨ x = 'X' then (16, d :: ds)
      else if x = 'b' ∨ x = 'B' then (2, d :: ds)
      else if x = 'o' ∨ x = 'O' then (8, d :: ds)
      else (8, x :: d :: ds)
  | '0' :: ds => (8, ds)
  | ds => (10, ds)

/-- Reads digits of a base from left to right, low lines apart, and stops at
the first fault. -/
def readDigits (base : Nat) (n : Nat) : List Char → Except IntegerFault Nat
  | [] => .ok n
  | '_' :: ds => readDigits base n ds
  | d :: ds =>
      match (Text.hexDigit? d).filter (· < base) with
      | none => .error .malformed
      | some k =>
          if Nat.pow 2 64 ≤ base * n + k then .error .outOfRange
          else readDigits base (base * n + k) ds

/-- Whether every low line stands behind a digit and in front of one. -/
def separatesDigits (afterDigit : Bool) : List Char → Bool
  | [] => true
  | ['_'] => false
  | '_' :: ds => afterDigit && separatesDigits false ds
  | _ :: ds => separatesDigits true ds

/-- Reads a whole number. -/
def integerOf (s : String) : Except IntegerFault Int :=
  let (negative, digits) := splitSign true s.toList
  if digits.isEmpty then .error .malformed
  else
    let (base, ds) := splitBase digits
    match readDigits base 0 ds with
    | .error fault => .error fault
    | .ok n =>
        if ds.elem '_' && !separatesDigits (ds.length < digits.length) ds then .error .malformed
        else
          let value : Int := if negative then -(n : Int) else n
          if isInt64 value then .ok value else .error .outOfRange

end ArchLint.Number
