import ArchLint.Text.Classes

namespace ArchLint.Source

inductive TokenKind where
  /-- An identifier. -/
  | name (text : String)
  /-- A text literal, with the text that it denotes. -/
  | text (value : String)
  /-- A number or a character literal. -/
  | literal
  /-- A keyword, operator or delimiter. -/
  | fixed (spelling : String)
  /-- A written semicolon. -/
  | semicolon
  /-- The end of a line or of the text that stands for a semicolon. -/
  | lineEnd
  /-- A comment with its marks. -/
  | comment (text : String)
  /-- The end of the text. -/
  | finish
  deriving DecidableEq, Repr, Inhabited

/-- A token and the line on which it starts. -/
structure Token where
  kind : TokenKind
  line : Nat
  deriving DecidableEq, Repr, Inhabited

/-- Words that are no identifiers. -/
def keywords : List String :=
  ["break", "case", "chan", "const", "continue", "default", "defer", "else", "fallthrough",
    "for", "func", "go", "goto", "if", "import", "interface", "map", "package", "range",
    "return", "select", "struct", "switch", "type", "var"]

/-- Operators and delimiters; a longer one comes before its beginnings. -/
def marks : List String :=
  ["<<=", ">>=", "&^=", "...", "<-", "<<", ">>", "<=", ">=", "==", "!=", "&&", "||", "&^",
    "+=", "-=", "*=", "/=", "%=", "&=", "|=", "^=", "++", "--", ":=",
    "+", "-", "*", "/", "%", "&", "|", "^", "<", ">", "=", "!", "~",
    "(", ")", "[", "]", "\x7b", "\x7d", ",", ".", ":"]

/-- Letters that can start an identifier. -/
def isNameStart (c : Char) : Bool :=
  c.isAlpha || c == '_' || (0x80 ≤ c.toNat && Text.isLetter c)

def isNameChar (c : Char) : Bool :=
  isNameStart c || c.isDigit || (0x80 ≤ c.toNat && Text.isDecimalDigit c)

/-- Whether a line may end after a token as if a semicolon followed. -/
def TokenKind.mayEndLine : TokenKind → Bool
  | .name _ | .text _ | .literal => true
  | .fixed s =>
      ["break", "continue", "fallthrough", "return", ")", "]", "\x7d", "++", "--"].elem s
  | _ => false

end ArchLint.Source
