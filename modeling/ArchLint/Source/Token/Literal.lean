import ArchLint.Text.Table
import ArchLint.Text.Utf8

namespace ArchLint.Source.Literal

/-- How the digits of a number are written. -/
inductive Radix where
  | decimal
  /-- A leading zero alone. -/
  | zero
  | hexadecimal
  | octal
  | binary
  deriving DecidableEq, Repr

/-- Whether a character continues the digits of a number; digits may be
separated by underscores. -/
def Radix.isDigit (r : Radix) (c : Char) : Bool :=
  c == '_' || (if r = .hexadecimal then (Text.hexDigit? c).isSome else c.isDigit)

/-- The digits that count in a whole number. -/
def Radix.limit : Radix → Nat
  | .decimal | .hexadecimal => 16
  | .zero | .octal => 8
  | .binary => 2

/-- The radix of a number, what it is written with, and what follows that. -/
def radixOf : List Char → Radix × List Char × List Char
  | '0' :: c :: rest =>
      if c = 'x' ∨ c = 'X' then (.hexadecimal, ['0', c], rest)
      else if c = 'o' ∨ c = 'O' then (.octal, ['0', c], rest)
      else if c = 'b' ∨ c = 'B' then (.binary, ['0', c], rest)
      else (.zero, ['0'], c :: rest)
  | ['0'] => (.zero, ['0'], [])
  | s => (.decimal, [], s)

/-- Whether every underscore stands between digits. A radix mark counts as a
digit. `afterDigit` tells whether the character before is one, and
`afterSeparator` whether it is an underscore. -/
def areSeparatorsPlaced (hexadecimal afterDigit afterSeparator : Bool) : List Char → Bool
  | [] => !afterSeparator
  | c :: cs =>
      if c = '_' then afterDigit && areSeparatorsPlaced hexadecimal false true cs
      else if c.isDigit || (hexadecimal && (Text.hexDigit? c).isSome) then
        areSeparatorsPlaced hexadecimal true false cs
      else !afterSeparator && areSeparatorsPlaced hexadecimal false false cs

/-- Whether some digits hold more than underscores. -/
def hasDigit (ds : List Char) : Bool :=
  ds.any (· != '_')

/-- The exponent at the start of a text: its characters, and what follows;
`none` for a malformed one. -/
def exponent? (r : Radix) (s : List Char) : Option (List Char × List Char) :=
  match s with
  | [] => some ([], [])
  | e :: rest =>
      let isPower := e = 'p' ∨ e = 'P'
      if isPower ∨ e = 'e' ∨ e = 'E' then
        let fits := if isPower then r = .hexadecimal else r = .decimal ∨ r = .zero
        let (sign, rest) := match rest with
          | '+' :: rest => (['+'], rest)
          | '-' :: rest => (['-'], rest)
          | _ => ([], rest)
        let ds := rest.takeWhile Radix.decimal.isDigit
        if fits ∧ hasDigit ds then
          some (e :: sign ++ ds, rest.dropWhile Radix.decimal.isDigit)
        else none
      else some ([], s)

def number? (s : List Char) : Option (List Char) := do
  let (radix, head, rest) := radixOf s
  let whole := rest.takeWhile radix.isDigit
  let rest := rest.dropWhile radix.isDigit
  let (point, fraction, rest) := match rest with
    | '.' :: rest => (['.'], rest.takeWhile radix.isDigit, rest.dropWhile radix.isDigit)
    | _ => ([], [], rest)
  let isWhole := point.isEmpty
  if !isWhole && (radix == .octal || radix == .binary) then none
  if !hasDigit (whole ++ fraction) && radix != .zero then none
  let (exponent, rest) ← exponent? radix rest
  if radix == .hexadecimal && !isWhole && exponent.isEmpty then none
  let (isImaginary, rest) := match rest with
    | 'i' :: rest => (true, rest)
    | _ => (false, rest)
  let exceeds := whole.any fun c =>
    c != '_' && radix.limit ≤ (Text.hexDigit? c).getD 0
  if isWhole && exponent.isEmpty && !isImaginary && exceeds then none
  let isMarked := radix == .hexadecimal || radix == .octal || radix == .binary
  let body := (if isMarked then [] else head) ++ whole ++ point ++ fraction ++ exponent
  if areSeparatorsPlaced (radix == .hexadecimal) isMarked false body then some rest else none

/-- Reads a number of digits of a base. -/
def digits? (base : Nat) : Nat → Nat → List Char → Option (Nat × List Char)
  | 0, value, s => some (value, s)
  | _, _, [] => none
  | n + 1, value, c :: cs =>
      match Text.hexDigit? c with
      | some d => if d < base then digits? base n (base * value + d) cs else none
      | none => none

/-- What an escape stands for: a character, or a single byte. -/
inductive Escaped where
  | char (c : Char)
  | byte (b : UInt8)
  deriving Repr

/-- A code point given by an escape; surrogates are none. -/
def codePoint? (p : Nat × List Char) : Option (Escaped × List Char) :=
  let (n, rest) := p
  if n < 0x110000 ∧ ¬(0xd800 ≤ n ∧ n < 0xe000) then some (.char (Char.ofNat n), rest) else none

/-- Reads an escape after its backslash; `quote` is the quote that may be
escaped. -/
def escape? (quote : Char) : List Char → Option (Escaped × List Char)
  | [] => none
  | c :: cs =>
      if c = quote then some (.char quote, cs)
      else
        match c with
        | 'a' => some (.char '\x07', cs)
        | 'b' => some (.char '\x08', cs)
        | 'f' => some (.char '\x0c', cs)
        | 'n' => some (.char '\n', cs)
        | 'r' => some (.char '\r', cs)
        | 't' => some (.char '\t', cs)
        | 'v' => some (.char '\x0b', cs)
        | '\\' => some (.char '\\', cs)
        | 'x' => (digits? 16 2 0 cs).map fun (n, rest) => (.byte n.toUInt8, rest)
        | 'u' => (digits? 16 4 0 cs).bind codePoint?
        | 'U' => (digits? 16 8 0 cs).bind codePoint?
        | _ =>
            if '0' ≤ c ∧ c ≤ '7' then
              match digits? 8 3 0 (c :: cs) with
              | some (n, rest) => if n < 256 then some (.byte n.toUInt8, rest) else none
              | none => none
            else none

/-- Reads a character literal after its opening quote. -/
def character? : List Char → Option (List Char)
  | '\\' :: rest =>
      match escape? '\'' rest with
      | some (_, '\'' :: rest) => some rest
      | _ => none
  | c :: '\'' :: rest => if c = '\'' ∨ c = '\n' then none else some rest
  | _ => none

/-- Reads a text after its opening quote: its pieces and what follows. The
fuel is the length of the text. -/
def text? : Nat → List Char → Option (List Escaped × List Char)
  | 0, _ => none
  | _, [] => none
  | n + 1, c :: cs =>
      if c = '"' then some ([], cs)
      else if c = '\n' then none
      else if c = '\\' then do
        let (piece, rest) ← escape? '"' cs
        let (pieces, rest) ← text? n rest
        some (piece :: pieces, rest)
      else do
        let (pieces, rest) ← text? n cs
        some (.char c :: pieces, rest)

/-- The character of a piece, if it is one. -/
def Escaped.char? : Escaped → Option Char
  | .char c => some c
  | .byte _ => none

def Escaped.bytes : Escaped → List UInt8
  | .char c => (String.singleton c).toUTF8.toList
  | .byte b => [b]

/-- The text that pieces make up. Bytes take part in the encoding of
characters. -/
def textOf (pieces : List Escaped) : String :=
  match pieces.mapM Escaped.char? with
  | some chars => String.ofList chars
  | none => Text.ofBytes ((pieces.flatMap Escaped.bytes).toByteArray)

end ArchLint.Source.Literal
