namespace ArchLint.Yaml

/-- A token. A scalar is plain unless quotes or an indicator of a block of
text mark it as a text. -/
inductive Token where
  | documentStart
  | documentEnd
  | versionDirective (major minor : Nat)
  | tagDirective (handle expansion : String)
  | blockSequenceStart
  | blockMappingStart
  | blockEnd
  | flowSequenceStart
  | flowSequenceEnd
  | flowMappingStart
  | flowMappingEnd
  | blockEntry
  | flowEntry
  | key
  | value
  | alias (name : String)
  | anchor (name : String)
  | tag (handle suffix : String)
  | scalar (text : String) (isPlain : Bool)
  | streamEnd
  deriving DecidableEq, Repr, Inhabited

def isBlank (c : Char) : Bool :=
  c == ' ' || c == '\t'

/-- The characters that end a line. -/
def isBreak (c : Char) : Bool :=
  c == '\n' || c == '\r' || c == '\u0085' || c == '\u2028' || c == '\u2029'

def isNameChar (c : Char) : Bool :=
  c.isAlphanum || c == '_' || c == '-'

/-- Whether the text is at its end or at a character of a class. -/
def atEndOr (p : Char → Bool) : List Char → Bool
  | [] => true
  | c :: _ => p c

/-- Whether a blank, a line break or the end is next. -/
def atGap : List Char → Bool :=
  atEndOr fun c => isBlank c || isBreak c

/-- Whether a line break or the end is next. -/
def atLineEnd : List Char → Bool :=
  atEndOr isBreak

/-- Whether a character may stand in a document. -/
def isAllowed (c : Char) : Bool :=
  c == '\t' || c == '\n' || c == '\r' || (' ' ≤ c && c ≤ '~') || c == '\u0085' ||
    ('\u00a0' ≤ c && c ≤ '\ufffd') || 0x10000 ≤ c.toNat

/-- The mark in front of a text that tells its encoding. -/
def byteOrderMark : Char :=
  '\ufeff'

/-- A place in a text. `fresh` tells that nothing but blanks was passed since
the last line break. -/
structure Cursor where
  rest : List Char
  index : Nat := 0
  line : Nat := 0
  column : Nat := 0
  fresh : Bool := false
  deriving Repr, Inhabited

namespace Cursor

def start (text : List Char) : Cursor :=
  { rest := text }

/-- The place after one character that is no line break. -/
def skip (c : Cursor) : Cursor :=
  match c.rest with
  | [] => c
  | x :: rest =>
      { c with
        rest
        index := c.index + 1
        column := c.column + 1
        fresh := c.fresh && isBlank x }

/-- The place after `n` characters that are no line breaks. -/
def skipN : Nat → Cursor → Cursor
  | 0, c => c
  | n + 1, c => skipN n c.skip

/-- The place after the characters of a class. -/
def skipWhile (p : Char → Bool) (c : Cursor) : Cursor :=
  c.skipN (c.rest.takeWhile p).length

/-- The line break at a place, as it enters a text, and the place after it. A
carriage return and a line feed are one break. -/
def takeBreak (c : Cursor) : List Char × Cursor :=
  let next (n : Nat) (rest : List Char) : Cursor :=
    { rest, index := c.index + n, line := c.line + 1, column := 0, fresh := true }
  match c.rest with
  | '\r' :: '\n' :: rest => (['\n'], next 2 rest)
  | x :: rest =>
      if x = '\u2028' ∨ x = '\u2029' then ([x], next 1 rest)
      else if isBreak x then (['\n'], next 1 rest)
      else ([], c)
  | [] => ([], c)

/-- The place after a line break. -/
def skipBreak (c : Cursor) : Cursor :=
  c.takeBreak.2

def skipToLineEnd (c : Cursor) : Cursor :=
  c.skipWhile fun x => !isBreak x

/-- Whether a word stands alone at the start of the line. -/
def atDivider (word : List Char) (c : Cursor) : Bool :=
  c.column == 0 && word.isPrefixOf c.rest && atGap (c.rest.drop word.length)

/-- Whether a document starts or ends here. -/
def atDocumentDivider (c : Cursor) : Bool :=
  c.atDivider ['-', '-', '-'] || c.atDivider ['.', '.', '.']

end Cursor

end ArchLint.Yaml
