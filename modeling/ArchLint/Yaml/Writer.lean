import ArchLint.Number.Decimal
import ArchLint.Text.Quoted
import ArchLint.Yaml.Value

namespace ArchLint.Yaml

open Number (Binary64)

/-- Numbers are positional for six digits before the point. -/
def numberFormat : Number.NumberFormat :=
  ⟨-4, 6, 2, 2, ".inf", "-.inf", ".nan"⟩

namespace Node

def ofText (s : String) : Node :=
  .scalar { text := s, isPlain := false }

/-- A scalar that is written as it is. -/
def ofWord (s : String) : Node :=
  .scalar { text := s }

def ofInt (n : Int) : Node :=
  ofWord (toString n)

def ofBool (b : Bool) : Node :=
  ofWord (if b then "true" else "false")

/-- A floating point number. -/
def ofBinary64 (x : Binary64) : Node :=
  ofWord (numberFormat.write x)

def ofTexts (xs : List String) : Node :=
  .sequence (xs.map ofText)

/-- A mapping with texts as keys. -/
def ofEntries (entries : List (String × Node)) : Node :=
  .mapping (entries.map fun (name, value) => (ofWord name, value))

end Node

/-- Characters that stand for themselves in quoted texts. -/
def isShown (c : Char) : Bool :=
  c == '\n' || (' ' ≤ c && c ≤ '~') || ('\u00a0' ≤ c && c ≤ '\ufffd' && c != byteOrderMark)

/-- Words that other readers take for truth values. -/
def truthWords (value : Bool) : List String :=
  if value then ["y", "Y", "yes", "Yes", "YES", "on", "On", "ON"]
  else ["n", "N", "no", "No", "NO", "off", "Off", "OFF"]

/-- The parts after colons of a number in base 60. -/
def isBase60Tail : Nat → List Char → Bool
  | 0, _ => false
  | n + 1, s =>
      match s with
      | ':' :: a :: b :: rest =>
          if a.isDigit && b.isDigit then decide (a ≤ '5') && isBase60End n rest
          else a.isDigit && isBase60End n (b :: rest)
      | [':', a] => a.isDigit
      | _ => false
where
  /-- The end of a number, or another part. -/
  isBase60End (n : Nat) (s : List Char) : Bool :=
    match s with
    | [] => true
    | '.' :: rest => rest.all fun c => c.isDigit || c == '_'
    | rest => isBase60Tail n rest

/-- Numbers in base 60, such as `1:30`, which other readers know. -/
def isBase60 (s : List Char) : Bool :=
  let (_, digits) := Number.splitSign true s
  match digits with
  | d :: rest => d.isDigit && isBase60Tail s.length (rest.dropWhile fun c => c.isDigit || c == '_')
  | [] => false

/-- Whether a text reads back as a text when it is not quoted. -/
def readsAsText (s : String) : Bool :=
  valueOf true s == .text s && !(truthWords true).elem s && !(truthWords false).elem s &&
    !isBase60 s.toList

/-- Whether a text starts with an indicator, so that it cannot be plain. -/
def startsWithIndicator : List Char → Bool
  | [] => false
  | c :: rest =>
      ['#', ',', '[', ']', '\x7b', '\x7d', '&', '*', '!', '|', '>', '\'', '"', '%', '@', '\x60'].elem c ||
        ((c == '?' || c == ':' || c == '-') && atEndOr isBlank rest)

/-- Whether a text has a colon or a number sign where it ends a plain scalar. -/
def hasInnerIndicator : List Char → Bool
  | [] => false
  | [_] => false
  | c :: d :: rest =>
      (d == ':' && atEndOr isBlank rest) || (d == '#' && (isBlank c || isBreak c)) ||
        hasInnerIndicator (d :: rest)

/-- Whether two neighbours in a text have given properties. -/
def hasNeighbours (p q : Char → Bool) (s : List Char) : Bool :=
  (s.zip s.tail).any fun (c, d) => p c && q d

/-- Whether a text starts like a line that divides documents. -/
def startsWithDivider (s : List Char) : Bool :=
  ['-', '-', '-'].isPrefixOf s || ['.', '.', '.'].isPrefixOf s

def isPlainText (s : List Char) : Bool :=
  !s.any isBreak && s.all (fun c => isShown c) && s.head? != some ' ' && s.getLast? != some ' ' &&
    !startsWithIndicator s && !hasInnerIndicator s && !startsWithDivider s

/-- Whether a text can stand in single quotes. -/
def isSingleQuotable (s : List Char) : Bool :=
  s.all isShown && !hasNeighbours isBreak (· == ' ') s && !hasNeighbours (· == ' ') isBreak s

def isBlockText (s : List Char) : Bool :=
  s.all (fun c => isShown c || c == '\t') && s.getLast? != some ' ' &&
    !hasNeighbours (· == ' ') isBreak s

/-- The number of a character in upper case hexadecimal digits. -/
def hexUpper (width n : Nat) : String :=
  (Text.hexPadded width n).map Char.toUpper

def doubleQuotedChar (c : Char) : String :=
  if c = '"' then "\\\""
  else if c = '\\' then "\\\\"
  else if isShown c && !isBreak c then c.toString
  else if c = '\x00' then "\\0"
  else if c = '\x07' then "\\a"
  else if c = '\x08' then "\\b"
  else if c = '\t' then "\\t"
  else if c = '\n' then "\\n"
  else if c = '\x0b' then "\\v"
  else if c = '\x0c' then "\\f"
  else if c = '\r' then "\\r"
  else if c = '\x1b' then "\\e"
  else if c = '\u0085' then "\\N"
  else if c = '\u2028' then "\\L"
  else if c = '\u2029' then "\\P"
  else if c.toNat ≤ 0xff then "\\x" ++ hexUpper 2 c.toNat
  else if c.toNat ≤ 0xffff then "\\u" ++ hexUpper 4 c.toNat
  else "\\U" ++ hexUpper 8 c.toNat

def doubleQuoted (s : List Char) : List Char :=
  '"' :: s.flatMap (fun c => (doubleQuotedChar c).toList) ++ ['"']

/-- Lines with indentation in front of each that is not empty; `atStart` tells
that a line starts. -/
def indentLines (pad : List Char) (atStart : Bool) : List Char → List Char
  | [] => []
  | c :: rest =>
      if isBreak c then c :: indentLines pad true rest
      else (if atStart then pad else []) ++ c :: indentLines pad false rest

/-- A text in single quotes; quotes inside are written twice. -/
def singleQuoted (pad : List Char) (s : List Char) : List Char :=
  let doubled := s.flatMap fun c => if c = '\'' then ['\'', '\''] else [c]
  '\'' :: indentLines pad false doubled ++ ['\'']

/-- A text as a block. A blank or a line break in front needs the indentation
in the header, and the line break at the end decides about the chomping. The
header ends with the first line break of the text, if the text starts with
one. -/
def blockText (pad : List Char) (s : List Char) : List Char :=
  let startsBroken := s.head?.any isBreak
  let hint := if startsBroken || s.head? == some ' ' then ['2'] else []
  let chomping := match s.reverse with
    | last :: before =>
        if !isBreak last then ['-']
        else if before.head?.all isBreak then ['+'] else []
    | [] => ['-']
  '|' :: hint ++ chomping ++ (if startsBroken then [] else ['\n']) ++
    indentLines pad (!startsBroken) s

/-- The text of a scalar, whose further lines are indented by `pad`. -/
def Scalar.write (pad : List Char) (s : Scalar) : List Char :=
  let chars := s.text.toList
  if s.isPlain then chars
  else if chars.elem '\n' then
    if isBlockText chars then blockText pad chars else doubleQuoted chars
  else if !readsAsText s.text then doubleQuoted chars
  else if isPlainText chars then chars
  else if isSingleQuotable chars then singleQuoted pad chars
  else doubleQuoted chars

/-- Ends the line of a text, if it does not end with a line break. -/
def endLine (s : List Char) : List Char :=
  if s.getLast?.any isBreak then s else s ++ ['\n']

/-- Puts texts on lines that start with indentation. -/
def stackLines (pad : List Char) : List (List Char) → List Char
  | [] => []
  | [s] => s
  | s :: rest => endLine s ++ pad ++ stackLines pad rest

def blanksTo (column : Nat) : List Char :=
  List.replicate column ' '

mutual

/-- A node from column `indent` on. -/
def Node.writeAt (indent : Nat) : Node → List Char
  | .scalar s => s.write (blanksTo indent)
  | .sequence [] => ['[', ']']
  | .sequence items => stackLines (blanksTo indent) (writeItems indent items)
  | .mapping [] => ['\x7b', '\x7d']
  | .mapping entries => stackLines (blanksTo indent) (writeEntries indent entries)
  | .alias name _ => '*' :: name.toList

def writeItems (indent : Nat) : List Node → List (List Char)
  | [] => []
  | item :: rest => ('-' :: ' ' :: item.writeAt (indent + 2)) :: writeItems indent rest

/-- The entries of a mapping. A collection that is not empty starts on a line
of its own. -/
def writeEntries (indent : Nat) : List (Node × Node) → List (List Char)
  | [] => []
  | (key, value) :: rest =>
      let gap := match value with
        | .sequence (_ :: _) => '\n' :: blanksTo (indent + 2)
        | .mapping (_ :: _) => '\n' :: blanksTo (indent + 2)
        | _ => [' ']
      (key.writeAt indent ++ ':' :: gap ++ value.writeAt (indent + 2)) :: writeEntries indent rest

end

def Node.document (root : Node) : String :=
  String.ofList (endLine (root.writeAt 0))

end ArchLint.Yaml
