import ArchLint.Source.Token
import ArchLint.Source.Token.Literal
import ArchLint.Text.Basic

namespace ArchLint.Source

/-- Characters that stand nowhere in source text, a mark of byte order at its
start apart. -/
def isForbidden (c : Char) : Bool :=
  c == '\x00' || c == '\ufeff'

/-- The number of line feeds. -/
def countLines (s : List Char) : Nat :=
  s.count '\n'

/-- The text up to the end of a block comment, without it, and what follows;
`none` if the comment does not end. -/
def blockComment? : List Char → Option (List Char × List Char)
  | [] => none
  | '*' :: '/' :: rest => some ([], rest)
  | c :: rest => (blockComment? rest).map fun (inner, after) => (c :: inner, after)

/-- Drops carriage returns from a block comment, except between a star and a
slash, where a comment would end. `done` is the part before in reverse. -/
def dropReturns (done : List Char) : List Char → List Char
  | [] => done.reverse
  | c :: cs =>
      if c = '\r' ∧ ¬(2 < done.length ∧ done.head? = some '*' ∧ cs.head? = some '/') then
        dropReturns done cs
      else dropReturns (c :: done) cs

/-- A number after the last colon of a line directive: the text before the
colon, and the number, which is `none` for a malformed one. There is no
result without a colon. -/
def trailingNumber? (s : List Char) : Option (List Char × Option Nat) :=
  (Text.cutLast? (· == ':') s).map fun (before, ds) =>
    let value := ds.foldl (fun n c => 10 * n + (c.toNat - '0'.toNat)) 0
    (before, if ds.isEmpty || !ds.all Char.isDigit || Nat.pow 2 64 ≤ value then none else some value)

/-- The numbers below `2 ^ 64` that a line directive may give. From `2 ^ 63` on
they are read as negative, which the upper bound lets pass. -/
def isLineNumber (n : Nat) : Bool :=
  0 < n && (n ≤ Nat.pow 2 30 || Nat.pow 2 63 ≤ n)

/-- Whether a directive such as `line file:line:column`, given without its
keyword, is well formed. Without a colon it is no directive. -/
def isLineDirective (s : List Char) : Bool :=
  match trailingNumber? s with
  | none => true
  | some (_, none) => false
  | some (before, some n) =>
      match trailingNumber? before with
      | some (_, some line) => isLineNumber n && isLineNumber line
      | _ => isLineNumber n

/-- Whether the body of a comment is acceptable: a directive that sets the
line has to be well formed. -/
def isCommentBody (body : List Char) : Bool :=
  match Text.afterPrefix? "line ".toList body with
  | some directive => isLineDirective directive
  | none => true

/-- The longest operator or delimiter at the start of a text. -/
def mark? (s : List Char) : Option (String × List Char) :=
  marks.findSome? fun m => (Text.afterPrefix? m.toList s).map fun rest => (m, rest)

/-- What stands at a place in a text. -/
inductive Piece where
  /-- A blank. -/
  | blank (rest : List Char)
  /-- The end of a line. -/
  | newLine (rest : List Char)
  /-- A token on one line. -/
  | token (kind : TokenKind) (rest : List Char)
  /-- A token that may contain line ends. -/
  | long (kind : TokenKind) (lines : Nat) (rest : List Char)
  /-- A character that starts no token. -/
  | malformed

/-- A comment that ends with its line. `atLineStart` tells whether it starts
one, because only then it can be a directive. -/
def lineComment (atLineStart : Bool) (s : List Char) : Piece :=
  let body := s.takeWhile (· != '\n')
  let body := if body.getLast? = some '\r' then body.dropLast else body
  if atLineStart && !isCommentBody body then .malformed
  else .token (.comment (String.ofList ('/' :: '/' :: body.filter (· != '\r'))))
    (s.dropWhile (· != '\n'))

def blockComment (s : List Char) : Piece :=
  match blockComment? s with
  | none => .malformed
  | some (inner, rest) =>
      if isCommentBody inner then
        .long (.comment (String.ofList (dropReturns [] ('/' :: '*' :: inner ++ ['*', '/']))))
          (countLines inner) rest
      else .malformed

/-- A text between back quotes. -/
def rawText (s : List Char) : Piece :=
  let inner := s.takeWhile (· != '`')
  match s.dropWhile (· != '`') with
  | [] => .malformed
  | _ :: rest =>
      .long (.text (String.ofList (inner.filter (· != '\r')))) (countLines inner) rest

def quotedText (fuel : Nat) (s : List Char) : Piece :=
  match Literal.text? fuel s with
  | none => .malformed
  | some (pieces, rest) => .token (.text (Literal.textOf pieces)) rest

/-- What stands at the start of a text. -/
def firstPiece (fuel : Nat) (atLineStart : Bool) : List Char → Option Piece
  | [] => none
  | c :: rest => some <|
      if c = '\n' then .newLine rest
      else if c = ' ' ∨ c = '\t' ∨ c = '\r' then .blank rest
      else if isNameStart c then
        let word := String.ofList (c :: rest.takeWhile isNameChar)
        .token (if keywords.elem word then .fixed word else .name word) (rest.dropWhile isNameChar)
      else if c.isDigit || (c == '.' && (rest.head?.elim false Char.isDigit)) then
        match Literal.number? (c :: rest) with
        | some rest => .token .literal rest
        | none => .malformed
      else if c = '"' then quotedText fuel rest
      else if c = '\'' then
        match Literal.character? rest with
        | some rest => .token .literal rest
        | none => .malformed
      else if c = '`' then rawText rest
      else if c = ';' then .token .semicolon rest
      else
        match c :: rest with
        | '/' :: '/' :: rest => lineComment atLineStart rest
        | '/' :: '*' :: rest => blockComment rest
        | s =>
            match mark? s with
            | some (m, rest) => .token (.fixed m) rest
            | none => .malformed

/-- Whether the line may end here, after one more token. A comment changes
nothing. -/
def endsAfter (pending : Bool) : TokenKind → Bool
  | .comment _ => pending
  | kind => kind.mayEndLine

/-- The tokens from a place on. `pending` tells whether the end of the line
stands for a semicolon. A block comment over several lines is followed by that
semicolon at once. The fuel is the number of characters. -/
def tokensFrom : Nat → Nat → Bool → Bool → List Char → Option (List Token)
  | 0, _, _, _, _ => none
  | n + 1, line, pending, atLineStart, s =>
      match firstPiece n atLineStart s with
      | none =>
          some ((if pending then [⟨.lineEnd, line⟩] else []) ++ [⟨.finish, line⟩])
      | some .malformed => none
      | some (.blank rest) => tokensFrom n line pending false rest
      | some (.newLine rest) => do
          let tokens ← tokensFrom n (line + 1) false true rest
          some (if pending then ⟨.lineEnd, line⟩ :: tokens else tokens)
      | some (.token kind rest) => do
          let tokens ← tokensFrom n line (endsAfter pending kind) false rest
          some (⟨kind, line⟩ :: tokens)
      | some (.long kind lines rest) =>
          match kind with
          | .comment _ => do
              let ends := pending && 0 < lines
              let tokens ← tokensFrom n (line + lines) (pending && !ends) false rest
              some (⟨kind, line⟩ :: (if ends then ⟨.lineEnd, line⟩ :: tokens else tokens))
          | _ => do
              let tokens ← tokensFrom n (line + lines) true false rest
              some (⟨kind, line⟩ :: tokens)

def tokens? (s : String) : Option (List Token) :=
  let chars := match s.toList with
    | '\ufeff' :: rest => rest
    | chars => chars
  if chars.any isForbidden then none else tokensFrom (chars.length + 1) 1 false true chars

end ArchLint.Source
