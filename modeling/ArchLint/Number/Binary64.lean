/-!
Double precision numbers as exact values. A finite number is a sign, a
mantissa of at most 53 bits and a power of two, so that all arithmetic on it
is arithmetic on rationals followed by one rounding.
-/

namespace ArchLint.Number

/-- Quotient rounded to the nearest integer, a half to the even neighbour. -/
def divNearestEven (num den : Nat) : Nat :=
  let q := num / den
  let r := num % den
  if 2 * r < den then q
  else if den < 2 * r then q + 1
  else if q % 2 = 0 then q else q + 1

/-- A double precision number. -/
inductive Binary64 where
  | finite (negative : Bool) (mantissa : Nat) (exponent : Int)
  | infinite (negative : Bool)
  | notANumber
  deriving DecidableEq, Repr

namespace Binary64

/-- Numerator and denominator of `num / den · 2 ^ (-e)`. -/
def scaled (num den : Nat) (e : Int) : Nat × Nat :=
  if 0 ≤ e then (num, den * Nat.pow 2 e.toNat) else (num * Nat.pow 2 (-e).toNat, den)

/-- The number nearest to `num / den`, ties to an even mantissa. The exponent
is the least one that leaves at most 53 bits, and not below that of the least
subnormal number. -/
def nearest (negative : Bool) (num den : Nat) : Binary64 :=
  if num = 0 then .finite negative 0 (-1074)
  else
    let guess : Int := (num.log2 : Int) - (den.log2 : Int) - 52
    let fits (e : Int) : Bool :=
      let (n, d) := scaled num den e
      n < d * Nat.pow 2 53
    let least := if fits (guess - 1) then guess - 1 else if fits guess then guess else guess + 1
    let e := max least (-1074)
    let (n, d) := scaled num den e
    let m := divNearestEven n d
    let (m, e) := if m = Nat.pow 2 53 then (Nat.pow 2 52, e + 1) else (m, e)
    if e > 971 then .infinite negative else .finite negative m e

/-- The number nearest to a rational. -/
def ofRat (q : Rat) : Binary64 :=
  nearest (decide (q < 0)) q.num.natAbs q.den

/-- The number nearest to `mantissa · 10 ^ exponent`. -/
def ofDecimal (negative : Bool) (mantissa : Nat) (exponent : Int) : Binary64 :=
  if 0 ≤ exponent then nearest negative (mantissa * Nat.pow 10 exponent.toNat) 1
  else nearest negative mantissa (Nat.pow 10 (-exponent).toNat)

/-- A whole number, when it has at most 53 bits. -/
def ofNat (n : Nat) : Binary64 :=
  nearest false n 1

def zero : Binary64 :=
  .finite false 0 (-1074)

/-- The exact value of a finite number. -/
def toRat : Binary64 → Rat
  | .finite negative m e =>
      let value : Rat :=
        if 0 ≤ e then ((m * Nat.pow 2 e.toNat : Nat) : Rat) else mkRat m (Nat.pow 2 (-e).toNat)
      if negative then -value else value
  | _ => 0

def isFinite : Binary64 → Bool
  | .finite .. => true
  | _ => false

/-- Whether the number is greater than zero. -/
def isPositive : Binary64 → Bool
  | .finite negative m _ => !negative && m != 0
  | .infinite negative => !negative
  | .notANumber => false

/-- Whether the number is less than zero. -/
def isNegative : Binary64 → Bool
  | .finite negative m _ => negative && m != 0
  | .infinite negative => negative
  | .notANumber => false

def exceedsOne : Binary64 → Bool
  | .infinite negative => !negative
  | .notANumber => false
  | x => decide (1 < x.toRat)

/-- The difference, rounded once. -/
def sub : Binary64 → Binary64 → Binary64
  | .notANumber, _ => .notANumber
  | _, .notANumber => .notANumber
  | .infinite a, .infinite b => if a = b then .notANumber else .infinite a
  | .infinite a, _ => .infinite a
  | _, .infinite b => .infinite (!b)
  | x, y => ofRat (x.toRat - y.toRat)

end Binary64

/-- Rounds a rational to the nearest double precision number and takes its
exact value. -/
def roundBinary64 (q : Rat) : Rat :=
  (Binary64.ofRat q).toRat

end ArchLint.Number
