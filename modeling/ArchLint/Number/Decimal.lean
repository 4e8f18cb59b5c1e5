import ArchLint.Number.Binary64
import ArchLint.Text.Basic

namespace ArchLint.Number

/-- Decimal digits `d₁d₂…dₙ` with the point after the first `point` of them:
the value is `0.d₁d₂…dₙ · 10 ^ point`. -/
structure Digits where
  digits : List Nat
  point : Int
  deriving DecidableEq, Repr

/-- The decimal digits of a number, most significant first. -/
def digitsOf (n : Nat) : List Nat :=
  (Nat.toDigits 10 n).map fun c => c.toNat - '0'.toNat

/-- Least `k` with `num / den < 10 ^ k`, searched upwards from `k`. -/
def decimalPoint (num den : Nat) : Nat → Int → Int
  | 0, k => k
  | fuel + 1, k =>
      let below : Bool :=
        if 0 ≤ k then decide (num < den * Nat.pow 10 k.toNat)
        else decide (num * Nat.pow 10 (-k).toNat < den)
      if below then k else decimalPoint num den fuel (k + 1)

/-- Digits written without trailing zeros. -/
def trimZeros (ds : List Nat) : List Nat :=
  (ds.reverse.dropWhile (· == 0)).reverse

/-- The shortest digits that read back as the same number; of several with the
same length, those nearest to it. The candidates of a length are the two
neighbours of the value on the grid with that many digits. -/
def shortestFrom (value : Binary64) (num den : Nat) (point : Int) : Nat → Nat → Digits
  | 0, _ => ⟨[], 0⟩
  | fuel + 1, n =>
      let unit : Int := point - n
      let (a, b) :=
        if 0 ≤ unit then (num, den * Nat.pow 10 unit.toNat)
        else (num * Nat.pow 10 (-unit).toNat, den)
      let lower := a / b
      let upper := lower + 1
      let reads (m : Nat) : Bool := Binary64.ofDecimal false m unit == value
      let pack (m : Nat) : Digits :=
        let ds := digitsOf m
        ⟨trimZeros ds, unit + ds.length⟩
      if reads lower then
        if reads upper && decide (b < 2 * (a % b)) then pack upper else pack lower
      else if reads upper then pack upper
      else shortestFrom value num den point fuel (n + 1)

/-- The shortest digits of a positive finite number. -/
def shortest (m : Nat) (e : Int) : Digits :=
  let (num, den) := if 0 ≤ e then (m * Nat.pow 2 e.toNat, 1) else (m, Nat.pow 2 (-e).toNat)
  let start : Int := ((num.log2 : Int) - (den.log2 : Int)) * 30103 / 100000 - 2
  let point := decimalPoint num den 8 start
  shortestFrom (.finite false m e) num den point 17 1

def digitText (ds : List Nat) : String :=
  String.ofList (ds.map Nat.digitChar)

def positional (d : Digits) : String :=
  let n : Int := d.digits.length
  if d.point ≤ 0 then
    "0." ++ digitText (List.replicate (-d.point).toNat 0) ++ digitText d.digits
  else if n ≤ d.point then
    digitText d.digits ++ digitText (List.replicate (d.point - n).toNat 0)
  else
    digitText (d.digits.take d.point.toNat) ++ "." ++ digitText (d.digits.drop d.point.toNat)

/-- Scientific text of digits; the exponent has a sign and at least
`width` digits. -/
def scientific (width : Nat) (d : Digits) : String :=
  let exponent := d.point - 1
  let mantissa := match d.digits with
    | [] => "0"
    | [x] => digitText [x]
    | x :: rest => digitText [x] ++ "." ++ digitText rest
  let ds := digitsOf exponent.natAbs
  mantissa ++ (if exponent < 0 then "e-" else "e+") ++
    digitText (List.replicate (width - ds.length) 0) ++ digitText ds

/-- How a format writes numbers: the exponents that are written positionally,
the least width of a negative and of a positive exponent, and the texts of the
special values. -/
structure NumberFormat where
  leastExponent : Int
  endExponent : Int
  negativeWidth : Nat
  positiveWidth : Nat
  infinity : String
  negativeInfinity : String
  notANumber : String

def NumberFormat.write (f : NumberFormat) : Binary64 → String
  | .infinite negative => if negative then f.negativeInfinity else f.infinity
  | .notANumber => f.notANumber
  | .finite negative m e =>
      let sign := if negative then "-" else ""
      if m = 0 then sign ++ "0"
      else
        let d := shortest m e
        let exponent := d.point - 1
        if f.leastExponent ≤ exponent ∧ exponent < f.endExponent then sign ++ positional d
        else sign ++ scientific (if exponent < 0 then f.negativeWidth else f.positiveWidth) d

/-- Numbers in messages: positional for six digits before the point, exponents
of two digits at least. -/
def plainFormat : NumberFormat :=
  ⟨-4, 6, 2, 2, "+Inf", "-Inf", "NaN"⟩

/-- Text of a number with a fixed number of places, a half to the even
neighbour. -/
def fixed (places : Nat) : Binary64 → String
  | .infinite negative => if negative then "-Inf" else "+Inf"
  | .notANumber => "NaN"
  | .finite negative m e =>
      let (num, den) := if 0 ≤ e then (m * Nat.pow 2 e.toNat, 1) else (m, Nat.pow 2 (-e).toNat)
      let n := divNearestEven (num * Nat.pow 10 places) den
      let ds := digitsOf n
      let padded := List.replicate (places + 1 - ds.length) 0 ++ ds
      let whole := padded.length - places
      (if negative then "-" else "") ++ digitText (padded.take whole) ++
        (if places = 0 then "" else "." ++ digitText (padded.drop whole))

end ArchLint.Number
