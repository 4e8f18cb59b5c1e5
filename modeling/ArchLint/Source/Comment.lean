import ArchLint.Source.Token
import ArchLint.Text.Basic

namespace ArchLint.Source

/-- A comment: its text with marks, and its first and last line. -/
structure Comment where
  text : String
  firstLine : Nat
  lastLine : Nat
  deriving DecidableEq, Repr, Inhabited

/-- Comments that belong together. -/
abbrev CommentGroup := List Comment

namespace CommentGroup

/-- Lower case letters and digits, of which the names of directives consist. -/
def isDirectiveChar (c : Char) : Bool :=
  ('a' ≤ c && c ≤ 'z') || c.isDigit

/-- Whether a line comment, given without its marks, is a directive to a
tool, such as `go:generate`. -/
def isDirective (body : List Char) : Bool :=
  let word := body.takeWhile isDirectiveChar
  "line ".toList.isPrefixOf body || "extern ".toList.isPrefixOf body ||
    "export ".toList.isPrefixOf body ||
    (!word.isEmpty &&
      match body.drop word.length with
      | ':' :: c :: _ => isDirectiveChar c
      | _ => false)

/-- The body of a comment; `none` for a directive. -/
def body? (text : String) : Option (List Char) :=
  match text.toList with
  | '/' :: '/' :: body =>
      match body with
      | ' ' :: rest => some rest
      | _ => if isDirective body then none else some body
  | chars => some ((chars.drop 2).dropLast.dropLast)

/-- White space at the end of a comment's line. -/
def isLineBlank (c : Char) : Bool :=
  c == ' ' || c == '\t' || c == '\n' || c == '\r'

/-- Drops blank lines at the start and keeps one of several others.
`afterBlank` tells whether the line before is blank or missing. -/
def squeeze (afterBlank : Bool) : List String → List String
  | [] => []
  | line :: rest =>
      if line.isEmpty && afterBlank then squeeze true rest
      else line :: squeeze line.isEmpty rest

def text (group : CommentGroup) : String :=
  let lines := (group.filterMap fun c => body? c.text).flatMap fun body =>
    (body.splitOn '\n').map fun line => String.ofList (Text.trimRightWhile isLineBlank line)
  let lines := squeeze true lines
  let closed :=
    if lines.getLast?.elim false (fun line => !line.isEmpty) then lines ++ [""] else lines
  Text.joinWith "\n" closed

/-- The comments that continue a group whose last line is `lastLine`, at most
`gap` lines further on, and the ones after them. -/
def continued (gap lastLine : Nat) : List Comment → CommentGroup × List Comment
  | [] => ([], [])
  | c :: cs =>
      if c.firstLine ≤ lastLine + gap then
        let (group, rest) := continued gap c.lastLine cs
        (c :: group, rest)
      else ([], c :: cs)

/-- The last group of some comments, in which every comment starts at most on
the line after the one before it. `group` is the current group in reverse. -/
def lastGroup (group : CommentGroup) : List Comment → CommentGroup
  | [] => group.reverse
  | c :: cs =>
      match group with
      | [] => lastGroup [c] cs
      | d :: _ =>
          if c.firstLine ≤ d.lastLine + 1 then lastGroup (c :: group) cs else lastGroup [c] cs

end CommentGroup

/-- A token with the texts of the comments around it: those that lead it, and
those that trail the token before it. -/
structure Lexeme where
  kind : TokenKind
  leading : String := ""
  trailing : String := ""
  deriving DecidableEq, Repr, Inhabited

namespace Lexeme

/-- Whether a token ends a line or the text. -/
def closesLine : TokenKind → Bool
  | .semicolon | .lineEnd | .finish => true
  | _ => false

/-- The comments that trail the token before, which stands on line
`previous`, and the other ones. -/
def splitTrailing (previous : Nat) (token : Token) :
    List Comment → CommentGroup × List Comment
  | [] => ([], [])
  | c :: cs =>
      if c.firstLine = previous then
        let (group, rest) := CommentGroup.continued 0 c.lastLine cs
        let group := c :: group
        let lastLine := (group.getLast?).elim 0 (·.lastLine)
        if !rest.isEmpty || token.line ≠ lastLine || closesLine token.kind then (group, rest)
        else ([], rest)
      else ([], c :: cs)

/-- A token with the comments that stand between it and the one before. -/
def of (previous : Nat) (comments : List Comment) (token : Token) : Lexeme :=
  let (trailing, rest) := splitTrailing previous token comments
  let group := CommentGroup.lastGroup [] rest
  let leads := (group.getLast?).elim false fun c => c.lastLine + 1 == token.line
  { kind := token.kind
    leading := if leads then CommentGroup.text group else ""
    trailing := CommentGroup.text trailing }

def commentOf (text : String) (line : Nat) : Comment :=
  ⟨text, line, line + text.toList.count '\n'⟩

/-- The tokens that are no comments, with their comments. `comments` holds
those since the last token in reverse. -/
def ofTokensFrom (previous : Nat) (comments : List Comment) : List Token → List Lexeme
  | [] => []
  | t :: ts =>
      match t.kind with
      | .comment text => ofTokensFrom previous (commentOf text t.line :: comments) ts
      | _ => of previous comments.reverse t :: ofTokensFrom t.line [] ts

/-- The lexemes of a sequence of tokens. -/
def ofTokens (tokens : List Token) : List Lexeme :=
  ofTokensFrom 0 [] tokens

end Lexeme

end ArchLint.Source
