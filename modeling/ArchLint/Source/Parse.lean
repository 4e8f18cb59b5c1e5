import ArchLint.Source.Grammar.Statements
import ArchLint.Source.Token.Scan

namespace ArchLint.Source

/-- The rules of the grammar with a bound for lists and with fuel. -/
def Rules.tied (limit : Nat) : Nat → Rules
  | 0 => .none
  | n + 1 =>
      { limit
        type? := fun s => Grammar.type? (tied limit n) s
        expression := fun inHeader s => Grammar.expression (tied limit n) inHeader s
        unary := fun inHeader s => Grammar.unary (tied limit n) inHeader s
        element := fun s => Grammar.element (tied limit n) s
        statement := fun s => Grammar.statement (tied limit n) s }

namespace File

open ArchLint.Source.Parser

/-- A source file: the package clause, the imports and the declarations. -/
def parser (r : Rules) : Parser File := do
  expect "package"
  let _ ← identifier
  let _ ← endOfLine
  let imports ← repeatWhile (isAt "import") (Grammar.grouped r fun _ => Grammar.importSpec) r.limit
  let declarations ← repeatWhile (do return (← kind) != .finish) (Grammar.declaration r) r.limit
  return ⟨imports.flatten, declarations.flatten⟩

def ofLexemes? (lexemes : List Lexeme) : Option File :=
  let limit := lexemes.length + 1
  ((parser (.tied limit (4 * limit))).run lexemes.toArray).run' 0

/-- The file with this text, unless the text is malformed. -/
def ofText? (text : String) : Option File :=
  (tokens? text).bind fun tokens => ofLexemes? (Lexeme.ofTokens tokens)

end File

end ArchLint.Source
