import ArchLint.Number.Binary64

namespace ArchLint.Number

/-- A decimal number `±mantissa · 10 ^ exponent`. -/
structure Decimal where
  negative : Bool
  mantissa : Nat
  exponent : Int
  deriving DecidableEq, Repr

/-- The number that decimal digits write. -/
def natOfDigits (ds : List Char) : Nat :=
  ds.foldl (fun n c => 10 * n + (c.toNat - '0'.toNat)) 0

/-- Splits a sign off; `plus` tells whether a plus sign counts as one. -/
def splitSign (plus : Bool) : List Char → Bool × List Char
  | '-' :: rest => (true, rest)
  | '+' :: rest => if plus then (false, rest) else (false, '+' :: rest)
  | s => (false, s)

/-- The value of an exponent after its mark. -/
def exponentOf? (s : List Char) : Option Int :=
  let (negative, ds) := splitSign true s
  if ds.isEmpty || !ds.all Char.isDigit then none
  else some (if negative then -(natOfDigits ds : Int) else natOfDigits ds)

/-- Reads digits with an optional point and exponent after an optional sign.
At least one digit stands before the exponent. -/
def Decimal.ofText? (plus : Bool) (s : List Char) : Option Decimal :=
  let (negative, s) := splitSign plus s
  let whole := s.takeWhile Char.isDigit
  let rest := s.dropWhile Char.isDigit
  let (fraction, rest) := match rest with
    | '.' :: r => (r.takeWhile Char.isDigit, r.dropWhile Char.isDigit)
    | r => ([], r)
  if whole.isEmpty && fraction.isEmpty then none
  else
    let mantissa := natOfDigits (whole ++ fraction)
    match rest with
    | [] => some ⟨negative, mantissa, -(fraction.length : Int)⟩
    | e :: digits =>
        if e = 'e' ∨ e = 'E' then
          (exponentOf? digits).map fun x => ⟨negative, mantissa, x - (fraction.length : Int)⟩
        else none

/-- The double nearest to a decimal number. Exponents far outside the range of
doubles give zero or infinity at once. -/
def Decimal.toBinary64 (d : Decimal) : Binary64 :=
  if d.mantissa = 0 then .finite d.negative 0 (-1074)
  else
    let magnitude : Int := d.exponent + (Nat.toDigits 10 d.mantissa).length
    if magnitude < -400 then .finite d.negative 0 (-1074)
    else if 400 < magnitude then .infinite d.negative
    else .ofDecimal d.negative d.mantissa d.exponent

/-- Whether an integer fits into 64 bits. -/
def isInt64 (n : Int) : Bool :=
  -(Int.pow 2 63) ≤ n && n < Int.pow 2 63

end ArchLint.Number
