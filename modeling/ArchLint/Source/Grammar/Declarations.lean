import ArchLint.Source.Grammar.Expressions

namespace ArchLint.Source.Grammar

open ArchLint.Source.Parser

/-- A declared type, with the text of the comment that trails it. -/
def typeSpec (r : Rules) : Parser (String × List Tree × Tree × String) := do
  let name ← identifier
  let (typeParams, t) ← do
    if ← accept "[" then
      if ← isAtName then
        let first ← identifier
        let x ← do
          if ← isAt "[" then pure (Tree.name first)
          else
            let head ← primaryRest r false r.limit (.name first)
            binaryRest r false r.limit 1 head
        let isArray ← isAt "]"
        match splitParameter? (← isAt ",") x with
        | some (parameter, constraint) =>
            if constraint.isSome || !isArray then
              let list ← typeParametersFrom r (some (parameter, constraint))
              let _ ← accept "="
              pure (list, ← r.type)
            else pure ([], ← arrayRest r (some x))
        | none => pure ([], ← arrayRest r (some x))
      else pure ([], ← arrayRest r none)
    else
      let _ ← accept "="
      pure ([], ← r.type)
  return (name, typeParams, t, ← endOfLine)

/-- Declared constants or variables: names, type and values, with the text of
the comment that trails them. A constant can do without type and values. -/
def valueSpec (r : Rules) (isConstant : Bool) :
    Parser (List String × List Tree × List Tree × String) := do
  let names ← commaList identifier r.limit
  let type ←
    if isConstant then do
      pure (← r.type?).toList
    else if ← isAt "=" then pure []
    else pure [← r.type]
  let values ← do
    if ← accept "=" then r.values false else pure []
  return (names, type, values, ← endOfLine)

/-- The specifications after a keyword: a single one, or several between
parentheses. A specification between parentheses gets the text of the comment
that leads it. -/
def grouped {α : Type} (r : Rules) (spec : String → Parser α) : Parser (List α) := do
  skip
  if ← accept "(" then
    let list ← repeatWhile (do return !(← isAt ")") && (← kind) != .finish)
      (do spec (← current).leading) r.limit
    expect ")"
    let _ ← endOfLine
    return list
  else return [← spec ""]

/-- A declaration inside a function. -/
def localDeclaration (r : Rules) : Parser (List Tree) := do
  if ← isAt "type" then
    grouped r fun _ => do
      let (name, typeParams, t, _) ← typeSpec r
      return .typed name typeParams t
  else
    let isConstant ← isAt "const"
    grouped r fun _ => do
      let (names, type, values, _) ← valueSpec r isConstant
      return .values names type values

def importSpec : Parser Import := do
  let localName ← match ← kind with
    | .name x => do
        skip
        pure (some x)
    | .fixed "." => do
        skip
        pure (some ".")
    | _ => pure none
  match ← kind with
  | .text path =>
      skip
      let _ ← endOfLine
      return ⟨localName, path⟩
  | _ => fail

/-- A function or method, either of which may have type parameters. The body can
be missing, but does not stand on the next line. -/
def functionDeclaration (r : Rules) : Parser Declaration := do
  let doc := (← current).leading
  expect "func"
  let receiver ← do
    if ← isAt "(" then parameters r true else pure []
  let name ← identifier
  let typeParams ← typeParameters r
  let parts ← signature r
  let body ← do
    if ← isAt "\x7b" then
      let body ← r.block
      let _ ← endOfLine
      pure (some body)
    else
      let _ ← endOfLine
      if ← isAt "\x7b" then fail else pure none
  return .function receiver name (typeParams ++ parts) body [doc]

/-- A declaration at the top of a file. -/
def declaration (r : Rules) : Parser (List Declaration) := do
  let doc := (← current).leading
  if ← isAt "func" then return [← functionDeclaration r]
  else if ← isAt "type" then
    grouped r fun leading => do
      let (name, typeParams, t, trailing) ← typeSpec r
      return .type name typeParams t [doc, leading, trailing]
  else if ← isAtAny ["const", "var"] then
    let isConstant ← isAt "const"
    grouped r fun leading => do
      let (names, type, values, trailing) ← valueSpec r isConstant
      return .values isConstant names type values [doc, leading, trailing]
  else fail

end ArchLint.Source.Grammar
