import ArchLint.Source.Comment
import ArchLint.Source.Tree

/-!
Reading a sequence of lexemes. A reader moves a place through the lexemes of a
file, which stay as they are, and fails at the first lexeme that the grammar
does not allow.
-/

namespace ArchLint.Source

abbrev Parser := ReaderT (Array Lexeme) (StateT Nat Option)

namespace Parser

/-- The reader that always fails. -/
def fail {α : Type} : Parser α := fun _ _ => none

/-- The current lexeme; the last one is followed by the end of the text. -/
def current : Parser Lexeme := fun lexemes place =>
  some (lexemes[place]?.getD { kind := .finish }, place)

/-- The kind of the current lexeme. -/
def kind : Parser TokenKind := do
  return (← current).kind

/-- Goes on to the next lexeme. -/
def skip : Parser Unit := fun _ place =>
  some ((), place + 1)

/-- Whether the current lexeme is spelled so. -/
def isAt (spelling : String) : Parser Bool := do
  return (← kind) == .fixed spelling

/-- Whether the current lexeme is one of some keywords or marks. -/
def isAtAny (spellings : List String) : Parser Bool := do
  match ← kind with
  | .fixed s => return spellings.elem s
  | _ => return false

/-- Whether the current lexeme is an identifier. -/
def isAtName : Parser Bool := do
  match ← kind with
  | .name _ => return true
  | _ => return false

/-- Whether the current lexeme is a semicolon, written or not. -/
def isAtSemicolon : Parser Bool := do
  match ← kind with
  | .semicolon | .lineEnd => return true
  | _ => return false

/-- Takes a lexeme that is spelled so, if it is the current one. -/
def accept (spelling : String) : Parser Bool := do
  let found ← isAt spelling
  if found then skip
  return found

/-- Takes a lexeme that has to be spelled so. -/
def expect (spelling : String) : Parser Unit := do
  unless ← accept spelling do fail

def identifier : Parser String := do
  match ← kind with
  | .name text => skip; return text
  | _ => fail

/-- Takes the semicolon after a statement or declaration and returns the text
of the comment that trails it. It can be missing before a closing bracket. -/
def endOfLine : Parser String := do
  let lexeme ← current
  match lexeme.kind with
  | .fixed ")" | .fixed "\x7d" => return ""
  | .semicolon => skip; return (← current).trailing
  | .lineEnd => skip; return lexeme.trailing
  | _ => fail

/-- Reads items while a test holds of the current lexeme. The fuel bounds the
number of items. -/
def repeatWhile {α : Type} (test : Parser Bool) (item : Parser α) : Nat → Parser (List α)
  | 0 => fail
  | n + 1 => do
      if ← test then
        let x ← item
        let xs ← repeatWhile test item n
        return x :: xs
      else return []

/-- Reads one or more items between commas. -/
def commaList {α : Type} (item : Parser α) (limit : Nat) : Parser (List α) := do
  let x ← item
  let xs ← repeatWhile (isAt ",") (do skip; item) limit
  return x :: xs

/-- Reads items between commas up to a closing bracket, which stays. A comma
may follow the last item. -/
def closedList {α : Type} (closing : String) (item : Parser α) : Nat → Parser (List α)
  | 0 => fail
  | n + 1 => do
      if (← isAt closing) || (← kind) == .finish then return []
      else
        let x ← item
        if ← accept "," then
          let xs ← closedList closing item n
          return x :: xs
        else if ← isAt closing then return [x]
        else fail

end Parser

/-- The mutually recursive parts of the grammar, so that each of them can be
given without the other ones. -/
structure Rules where
  /-- A bound for the number of items in a list. -/
  limit : Nat
  /-- A type, if one starts here. -/
  type? : Parser (Option Tree)
  /-- An expression. In the header of a statement, a brace after a name starts
  a block and no literal. -/
  expression : (inHeader : Bool) → Parser Tree
  /-- An expression without binary operators at its top. -/
  unary : (inHeader : Bool) → Parser Tree
  /-- An element of a composite literal: an expression or a literal without
  its type. -/
  element : Parser Tree
  /-- A statement. -/
  statement : Parser Tree

namespace Rules

/-- The rules that accept nothing. -/
def none : Rules where
  limit := 0
  type? := .fail
  expression _ := .fail
  unary _ := .fail
  element := .fail
  statement := .fail

def type (r : Rules) : Parser Tree := do
  match ← r.type? with
  | some t => return t
  | Option.none => .fail

/-- An expression that is not in the header of a statement. -/
def value (r : Rules) : Parser Tree :=
  r.expression false

/-- Expressions between commas. -/
def values (r : Rules) (inHeader : Bool) : Parser (List Tree) :=
  Parser.commaList (r.expression inHeader) r.limit

/-- Statements up to the end of a block or of a case. -/
def statements (r : Rules) : Parser (List Tree) :=
  Parser.repeatWhile
    (do return !(← Parser.isAtAny ["case", "default", "\x7d"]) && (← Parser.kind) != .finish)
    r.statement r.limit

def block (r : Rules) : Parser Tree := do
  Parser.expect "\x7b"
  let list ← r.statements
  Parser.expect "\x7d"
  return .node .statement list

end Rules

end ArchLint.Source
