import ArchLint.Text.Quoted

namespace ArchLint.ModuleFile

/-- A place in a file; lines and columns count from one. -/
structure Position where
  line : Nat := 1
  column : Nat := 1
  deriving DecidableEq, Repr, Inhabited

/-- The text of a place in messages: the start of a line has no column. -/
def Position.text (p : Position) : String :=
  toString p.line ++ (if 1 < p.column then ":" ++ toString p.column else "")

/-- What is wrong with a file, and where. -/
structure Fault where
  position : Position
  message : String
  deriving DecidableEq, Repr

/-- What a token is. A comment stands alone on its line, or ends it. -/
inductive TokenKind where
  | word
  | newline
  | opening
  | closing
  | comment
  | lineComment
  | fileEnd
  deriving DecidableEq, Repr

/-- A token with its text, where it starts, and where the reading stands after
it. -/
structure Token where
  kind : TokenKind
  text : String
  start : Position
  stop : Position
  deriving Repr

def TokenKind.endsLine : TokenKind → Bool
  | .newline => true
  | .lineComment => true
  | .comment => true
  | .fileEnd => true
  | _ => false

/-- A place in a text. `used` tells that the line has a word already. -/
structure Cursor where
  rest : List Char
  position : Position := {}
  used : Bool := false

namespace Cursor

/-- The place after one character. -/
def step (c : Cursor) : Cursor :=
  match c.rest with
  | [] => c
  | x :: rest =>
      if x = '\n' then { rest, position := ⟨c.position.line + 1, 1⟩ }
      else
        { rest
          position := { c.position with column := c.position.column + 1 }
          used := c.used || !Text.isBlank x }

/-- The place after `n` characters. -/
def steps : Nat → Cursor → Cursor
  | 0, c => c
  | n + 1, c => steps n c.step

end Cursor

/-- The characters of words without quotes. -/
def isWordChar (c : Char) : Bool :=
  !(['(', ')', '[', ']', '\x7b', '\x7d', ','].elem c) && !Text.isBlank c && Text.isPrintable c

/-- A character as messages show it. -/
def shownChar (c : Char) : String :=
  if c = '\'' then "'\\''"
  else if c = '"' then "'\"'"
  else "'" ++ Text.quoteChar c ++ "'"

/-- The message about comments of the other kind. -/
def blockCommentMessage : String :=
  "mod files must use // comments (not /* */ comments)"

/-- Passes a quoted word after its opening quote. -/
def passQuoted (quote : Char) (start : Position) : Nat → Cursor → Except Fault Cursor
  | 0, c => .ok c
  | n + 1, c =>
      match c.rest with
      | [] => .error ⟨start, "unexpected EOF in string"⟩
      | x :: rest =>
          if x = '\n' then .error ⟨c.position, "unexpected newline in string"⟩
          else if x = quote then .ok c.step
          else if x = '\\' ∧ quote ≠ '\x60' then
            if rest.isEmpty then .error ⟨start, "unexpected EOF in string"⟩
            else passQuoted quote start n (c.steps 2)
          else passQuoted quote start n c.step

/-- Passes a word without quotes. A comment ends it. -/
def passWord : Nat → Cursor → Except Fault Cursor
  | 0, c => .ok c
  | n + 1, c =>
      match c.rest with
      | '/' :: '/' :: _ => .ok c
      | '/' :: '*' :: _ => .error ⟨c.position, blockCommentMessage⟩
      | x :: _ => if isWordChar x then passWord n c.step else .ok c
      | [] => .ok c

def passBlanks (c : Cursor) : Cursor :=
  c.steps (c.rest.takeWhile fun x => x == ' ' || x == '\t' || x == '\r').length

/-- Passes a comment with the line break that ends it. -/
def passComment (c : Cursor) : Cursor :=
  (c.steps (c.rest.takeWhile (· != '\n')).length).step

/-- The next token, and the place after it. -/
def nextToken (c : Cursor) : Except Fault (Token × Cursor) :=
  let c := passBlanks c
  let make (kind : TokenKind) (after : Cursor) : Token × Cursor :=
    let text := String.ofList (c.rest.take (c.rest.length - after.rest.length))
    (⟨kind, text, c.position, after.position⟩, after)
  match c.rest with
  | [] => .ok (make .fileEnd c)
  | '/' :: '/' :: _ => .ok (make (if c.used then .lineComment else .comment) (passComment c))
  | '/' :: '*' :: _ => .error ⟨c.position, blockCommentMessage⟩
  | x :: _ =>
      if x = '\n' then .ok (make .newline c.step)
      else if x = '(' then .ok (make .opening c.step)
      else if x = ')' then .ok (make .closing c.step)
      else if ['[', ']', '\x7b', '\x7d', ','].elem x then .ok (make .word c.step)
      else if x = '"' ∨ x = '\x60' then do
        let after ← passQuoted x c.position c.rest.length c.step
        .ok (make .word after)
      else if isWordChar x then do
        let after ← passWord c.rest.length c
        .ok (make .word after)
      else .error ⟨c.position, "unexpected input character " ++ shownChar x⟩

/-- The tokens of a file, up to its end or to the first fault. The fuel is the
length of the file. -/
def tokensFrom : Nat → Cursor → List (Except Fault Token)
  | 0, _ => []
  | n + 1, c =>
      match nextToken c with
      | .error fault => [.error fault]
      | .ok (token, after) =>
          if token.kind = .fileEnd then [.ok token] else .ok token :: tokensFrom n after

/-- A line: its words and where it starts. -/
structure Line where
  start : Position
  words : List String
  deriving Repr, Inhabited

/-- A statement: one line, or a block of lines after some words. -/
inductive Statement where
  | line (line : Line)
  | block (words : List String) (lines : List Line)
  deriving Repr

abbrev Tokens := List (Except Fault Token)

/-- The next token, and those after it. -/
def pop : Tokens → Except Fault (Token × Tokens)
  | [] => .ok (⟨.fileEnd, "", {}, {}⟩, [])
  | .error fault :: _ => .error fault
  | .ok token :: rest =>
      if token.kind = .fileEnd then .ok (token, [.ok token]) else .ok (token, rest)

/-- The words up to the end of a line inside a block. -/
def readWords : Nat → List String → Tokens → Except Fault (List String × Tokens)
  | 0, words, ts => .ok (words.reverse, ts)
  | n + 1, words, ts => do
      let (token, rest) ← pop ts
      if token.kind.endsLine then .ok (words.reverse, rest)
      else readWords n (token.text :: words) rest

/-- The lines of a block up to its closing bracket. -/
def readBlock (file : String) (start : Position) : Nat → List Line → Tokens →
    Except Fault (List Line × Tokens)
  | 0, lines, ts => .ok (lines.reverse, ts)
  | n + 1, lines, ts => do
      let (token, rest) ← pop ts
      match token.kind with
      | .lineComment => readBlock file start n lines rest
      | .newline => readBlock file start n lines rest
      | .comment => readBlock file start n lines rest
      | .fileEnd =>
          .error ⟨token.stop, "syntax error (unterminated block started at " ++ file ++ ":" ++
            toString start.line ++ ":" ++ toString start.column ++ ")"⟩
      | .closing =>
          let (next, after) ← pop rest
          if next.kind.endsLine then .ok (lines.reverse, after)
          else .error ⟨next.stop, "syntax error (expected newline after closing paren)"⟩
      | _ =>
          let (words, rest) ← readWords n [token.text] rest
          readBlock file start n (⟨token.start, words⟩ :: lines) rest

/-- The rest of a statement after some words, latest first. Brackets in the
middle of a line are words. -/
def readStatement (file : String) (start : Position) : Nat → List String → Tokens →
    Except Fault (Statement × Tokens)
  | 0, words, ts => .ok (.line ⟨start, words.reverse⟩, ts)
  | n + 1, words, ts => do
      let (token, rest) ← pop ts
      if token.kind.endsLine then .ok (.line ⟨start, words.reverse⟩, rest)
      else if token.kind = .opening then
        let (next, after) ← pop rest
        if next.kind.endsLine then
          let (lines, rest) ← readBlock file start n [] rest
          .ok (.block words.reverse lines, rest)
        else if next.kind = .closing then
          let (last, rest) ← pop after
          if last.kind.endsLine then .ok (.block words.reverse [], rest)
          else readStatement file start n (next.text :: token.text :: words) after
        else readStatement file start n (token.text :: words) rest
      else readStatement file start n (token.text :: words) rest

/-- The statements of a file. The fuel bounds the number of tokens. -/
def readStatements (file : String) : Nat → List Statement → Tokens →
    Except Fault (List Statement)
  | 0, statements, _ => .ok statements.reverse
  | n + 1, statements, ts => do
      let (token, rest) ← pop ts
      match token.kind with
      | .newline => readStatements file n statements rest
      | .comment => readStatements file n statements rest
      | .lineComment =>
          let (statement, rest) ← readStatement file token.start n [token.text] rest
          readStatements file n (statement :: statements) rest
      | .fileEnd => .ok statements.reverse
      | _ =>
          let (statement, rest) ← readStatement file token.start n [token.text] rest
          readStatements file n (statement :: statements) rest

/-- The statements of the text of a file. -/
def statements (file text : String) : Except Fault (List Statement) :=
  let tokens := tokensFrom (text.length + 1) { rest := text.toList }
  readStatements file (tokens.length + 1) [] tokens

end ArchLint.ModuleFile
