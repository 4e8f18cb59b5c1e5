import ArchLint.Text.Folding

namespace ArchLint.LogLevel

def debug : Int :=
  -4

/-- Messages about the normal course of events. -/
def info : Int :=
  0

/-- Messages about what a user may want to change. -/
def warn : Int :=
  4

/-- Messages about failures. -/
def error : Int :=
  8

/-- A decimal number of at most 64 bits with an optional sign. -/
def number? (s : String) : Option Int :=
  let (negative, ds) := match s.toList with
    | '-' :: ds => (true, ds)
    | '+' :: ds => (false, ds)
    | ds => (false, ds)
  if ds.isEmpty ∨ !ds.all Char.isDigit then none
  else
    let n := ds.foldl (fun n c => 10 * n + (c.toNat - '0'.toNat)) 0
    let value : Int := if negative then -(n : Int) else n
    if value < -(Int.pow 2 63) ∨ Int.pow 2 63 ≤ value then none else some value

/-- The level that a setting names; `fallback` for a blank or unknown one. -/
def ofText (value : String) (fallback : Int) : Int :=
  let word := Text.lowerForAscii (Text.trimBlank value)
  if word = "debug" then debug
  else if word = "info" then info
  else if word = "warn" ∨ word = "warning" then warn
  else if word = "error" then error
  else (number? word).getD fallback

end ArchLint.LogLevel
