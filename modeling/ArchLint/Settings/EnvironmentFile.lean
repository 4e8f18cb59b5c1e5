import ArchLint.Text.Basic
import ArchLint.Text.Utf8

namespace ArchLint.EnvironmentFile

open ArchLint.Text

/-- Variables with their values; the latest value of a variable counts. -/
abbrev Variables := List (String × String)

def isInnerBlank (c : Char) : Bool :=
  c == '\t' || c == '\x0b' || c == '\x0c' || c == '\r' || c == ' ' || c == '\u0085' ||
    c == '\u00a0'

/-- Whether a byte, taken as a character, may occur in a name. -/
def isNameByte (b : UInt8) : Bool :=
  let c := Char.ofNat b.toNat
  c.isAlphanum || c == '_' || c == '.' || isInnerBlank c ||
    [0xaa, 0xb2, 0xb3, 0xb5, 0xb9, 0xba, 0xbc, 0xbd, 0xbe].elem b.toNat ||
    (0xc0 ≤ b.toNat && b.toNat != 0xd7 && b.toNat != 0xf7)

/-- Whether a character may occur in a name. -/
def isNameChar (c : Char) : Bool :=
  (toBytes c.toString).toList.all isNameByte

/-- The text from the next assignment on, behind blank lines and comments. The
fuel is the length of the text. -/
def skipToAssignment : Nat → List Char → List Char
  | 0, s => s
  | n + 1, s =>
      match s.dropWhile isBlank with
      | '#' :: rest => skipToAssignment n (rest.dropWhile (· != '\n'))
      | rest => rest

/-- The text without the word that marks exported variables. -/
def skipExport (s : List Char) : List Char :=
  match afterPrefix? "export".toList s with
  | some (c :: rest) => if isInnerBlank c then rest.dropWhile isInnerBlank else s
  | _ => s

/-- The name of a variable, up to the equals sign or colon, and the text of its
value. Without either sign the name is empty. -/
def readName? (s : List Char) : Option (String × List Char) :=
  let s := skipExport s
  let name := s.takeWhile isNameChar
  match s.dropWhile isNameChar with
  | [] => some ("", s)
  | c :: rest =>
      if c = '=' ∨ c = ':' then
        some (String.ofList (trimRightWhile isBlank name), rest.dropWhile isInnerBlank)
      else none

/-- Replaces references to variables. A reference is a dollar sign with a name,
which may stand in braces; behind a backslash it is kept. The fuel is the length
of the text. -/
def expandVariables (vars : Variables) : Nat → List Char → List Char
  | 0, s => s
  | _, [] => []
  | n + 1, '\\' :: '$' :: rest =>
      let (body, _, rest) := reference rest
      '$' :: body ++ expandVariables vars n rest
  | n + 1, '$' :: rest =>
      let (body, name, rest) := reference rest
      (if name.isEmpty then '$' :: body else ((vars.lookup (String.ofList name)).getD "").toList) ++
        expandVariables vars n rest
  | n + 1, c :: rest => c :: expandVariables vars n rest
where
  /-- The characters of a reference behind its dollar sign, its name, and the
  rest of the text. -/
  reference (s : List Char) : List Char × List Char × List Char :=
    let (opening, s) := match s with
      | '(' :: '{' :: r => (['(', '{'], r)
      | '(' :: r => (['('], r)
      | '{' :: r => (['{'], r)
      | r => ([], r)
    let isNameLetter (c : Char) : Bool := c.isUpper || c.isDigit || c == '_'
    let name := s.takeWhile isNameLetter
    match s.dropWhile isNameLetter with
    | '}' :: r => (opening ++ name ++ ['}'], name, r)
    | r => (opening ++ name, name, r)

/-- Replaces the escapes of line ends. Other pairs stay. -/
def expandLineEnds : List Char → List Char
  | '\\' :: 'n' :: rest => '\n' :: expandLineEnds rest
  | '\\' :: 'r' :: rest => '\r' :: expandLineEnds rest
  | '\\' :: '\n' :: rest => '\\' :: '\n' :: expandLineEnds rest
  | '\\' :: c :: rest => '\\' :: c :: expandLineEnds rest
  | c :: rest => c :: expandLineEnds rest
  | [] => []

/-- Drops the backslash of every escape, except in front of a dollar sign. -/
def dropBackslashes : List Char → List Char
  | '\\' :: c :: rest => if c = '$' then '\\' :: dropBackslashes (c :: rest) else c :: dropBackslashes rest
  | c :: rest => c :: dropBackslashes rest
  | [] => []

/-- The characters up to the closing quote, which no backslash precedes, and the
text behind it. -/
def closeQuote? (quote previous : Char) : List Char → Option (List Char × List Char)
  | [] => none
  | c :: rest =>
      if c = quote ∧ previous ≠ '\\' then some ([], rest)
      else (closeQuote? quote c rest).map fun (body, after) => (c :: body, after)

/-- A line without the comment at its end. The last number sign behind a blank
starts it. -/
def dropComment (line : List Char) : List Char :=
  let rec start? (previous : Option Char) (i : Nat) : List Char → Option Nat
    | [] => none
    | c :: rest =>
        match start? (some c) (i + 1) rest with
        | some k => some k
        | none => if c = '#' ∧ previous.any isInnerBlank then some i else none
  match start? none 0 line with
  | some k => line.take k
  | none => line

/-- The value at the start of a text, and the text behind it. -/
def readValue? (vars : Variables) (s : List Char) : Option (String × List Char) :=
  let expanded (s : List Char) : String := String.ofList (expandVariables vars s.length s)
  match s with
  | '"' :: rest =>
      (closeQuote? '"' '"' rest).map fun (body, after) =>
        let body := trimWhile (· == '"') body
        (expanded (dropBackslashes (expandLineEnds body)), after)
  | '\'' :: rest =>
      (closeQuote? '\'' '\'' rest).map fun (body, after) =>
        (String.ofList (trimWhile (· == '\'') body), after)
  | s =>
      let isLineEnd (c : Char) : Bool := c == '\n' || c == '\r'
      let line := s.takeWhile (!isLineEnd ·)
      some (expanded (trimWhile isInnerBlank (dropComment line)), s.dropWhile (!isLineEnd ·))

/-- Reads the assignments of a text. The fuel bounds their number. -/
def readAssignments : Nat → Variables → List Char → Option Variables
  | 0, vars, _ => some vars
  | n + 1, vars, s =>
      match skipToAssignment s.length s with
      | [] => some vars
      | s => do
          let (name, rest) ← readName? s
          let (value, rest) ← readValue? vars rest
          readAssignments n ((name, value) :: vars) rest

/-- The variables of a file; `none` if some line is no assignment. -/
def ofText? (text : String) : Option Variables :=
  let s := (replaceAll "\r\n" "\n" text).toList
  readAssignments (s.length + 1) [] s

/-- The environment with the variables of a file. What the environment already
holds stays. -/
def addTo (environment vars : Variables) : Variables :=
  environment ++ vars.filter fun v => (environment.lookup v.1).isNone

end ArchLint.EnvironmentFile
