import ArchLint.Source.Grammar.Declarations

namespace ArchLint.Source.Grammar

open ArchLint.Source.Parser

/-- A simple statement, as far as the statement around it asks. -/
inductive Simple where
  | expression (x : Tree)
  | assignment (operator : String) (targets values : List Tree)
  /-- The clause of a loop over an operand. -/
  | range (operator : String) (targets : List Tree) (operand : Tree)
  | labeled (label : String) (body : Tree)
  | other (parts : List Tree)

def statementOf (parts : List Tree) : Tree :=
  .node .statement parts

/-- An assignment, or a short declaration of variables. -/
def assignmentTree (operator : String) (targets values : List Tree) : Tree :=
  if operator = ":=" then .define targets values else statementOf (targets ++ values)

def Simple.tree : Simple → Tree
  | .expression x => x
  | .assignment operator targets values => assignmentTree operator targets values
  | .range operator targets operand => assignmentTree operator targets [operand]
  | .labeled label body => .labeled label body
  | .other parts => statementOf parts

/-- Where a simple statement stands. -/
inductive Context where
  | header
  | loop
  | body
  deriving DecidableEq

def assignmentOperators : List String :=
  [":=", "=", "+=", "-=", "*=", "/=", "%=", "&=", "|=", "^=", "<<=", ">>=", "&^="]

/-- A simple statement. Only a loop allows the range of an operand, and only
a statement of its own can have a label. -/
def simple (r : Rules) (context : Context) : Parser Simple := do
  let inHeader := context != .body
  let list ← r.values inHeader
  match ← kind with
  | .fixed s =>
      if assignmentOperators.elem s then
        skip
        if context == .loop && (s == ":=" || s == "=") && (← isAt "range") then
          skip
          return .range s list (← r.expression inHeader)
        else return .assignment s list (← r.values inHeader)
      else
        match list with
        | [x] =>
            match s with
            | ":" =>
                match x.name?, context with
                | some label, .body =>
                    skip
                    return .labeled label (← r.statement)
                | _, _ => fail
            | "<-" =>
                skip
                return .other [x, ← r.expression inHeader]
            | "++" | "--" => skip; return .other [x]
            | _ => return .expression x
        | _ => fail
  | _ =>
      match list with
      | [x] => return .expression x
      | _ => fail

def asExpression : Simple → Parser Tree
  | .expression x => pure x
  | _ => fail

/-- A statement that starts a function call: the call without parentheses
around it. -/
def callStatement (r : Rules) : Parser Tree := do
  skip
  let x ← r.value
  let _ ← endOfLine
  if x.hasShape (fun shape => shape matches .call _) then return statementOf [x] else fail

def returnStatement (r : Rules) : Parser Tree := do
  skip
  let list ← do
    if (← isAtSemicolon) || (← isAt "\x7d") then pure [] else r.values false
  let _ ← endOfLine
  return statementOf list

/-- A jump. Only `goto` needs a label, and `fallthrough` takes none. -/
def jumpStatement (keyword : String) : Parser Tree := do
  skip
  let label ← do
    if keyword == "goto" || (keyword != "fallthrough" && (← isAtName)) then
      pure (some (← identifier))
    else pure none
  let _ ← endOfLine
  return .jump label

/-- The header of a conditional statement: an optional simple statement and
the condition. -/
def ifHeader (r : Rules) : Parser (List Tree) := do
  if ← isAt "\x7b" then fail
  let first ← do
    if ← isAtSemicolon then pure none else pure (some (← simple r .header))
  if ← isAt "\x7b" then
    match first with
    | some s => return [← asExpression s]
    | none => fail
  else if ← isAtSemicolon then
    skip
    if ← isAt "\x7b" then fail
    let condition ← asExpression (← simple r .header)
    return (first.map Simple.tree).toList ++ [condition]
  else fail

def ifStatement (r : Rules) : Parser Tree := do
  expect "if"
  let header ← ifHeader r
  let body ← r.block
  if ← accept "else" then
    if ← isAt "if" then return statementOf (header ++ [body, ← r.statement])
    else
      let alternative ← r.block
      let _ ← endOfLine
      return statementOf (header ++ [body, alternative])
  else
    let _ ← endOfLine
    return statementOf (header ++ [body])

/-- The clauses of a switch between braces, each after its keyword. -/
def clauses (r : Rules) (guard : Parser (List Tree)) : Parser (List Tree) := do
  expect "\x7b"
  let list ← repeatWhile (isAtAny ["case", "default"])
    (do
      let parts ← do
        if ← accept "case" then guard
        else
          expect "default"
          pure []
      expect ":"
      return statementOf (parts ++ (← r.statements))) r.limit
  expect "\x7d"
  let _ ← endOfLine
  return list

/-- Whether a statement guards a switch over types; an assignment to an
existing variable is refused. -/
def isTypeGuard : Simple → Parser Bool
  | .expression x => pure x.isSwitchAssertion
  | .assignment operator [_] [x] =>
      if x.isSwitchAssertion then
        if operator = "=" then fail else pure (operator == ":=")
      else pure false
  | _ => pure false

/-- The header of a switch: an optional simple statement, and an optional
operand or type guard. -/
def switchHeader (r : Rules) : Parser (List Simple × Option Simple) := do
  if ← isAt "\x7b" then return ([], none)
  let first ← do
    if ← isAtSemicolon then pure none else pure (some (← simple r .header))
  if ← isAtSemicolon then
    skip
    let second ← do
      if ← isAt "\x7b" then pure none else pure (some (← simple r .header))
    return (first.toList, second)
  else return ([], first)

/-- A switch over values or types. -/
def switchStatement (r : Rules) : Parser Tree := do
  expect "switch"
  let (first, second) ← switchHeader r
  let guard ← match second with
    | none => pure []
    | some s => do
        if ← isTypeGuard s then pure [s.tree] else pure [← asExpression s]
  let list ← clauses r (r.values false)
  return statementOf (first.map Simple.tree ++ guard ++ list)

/-- The communication of a select clause: a send, a receive, or a receive with
an assignment to at most two targets. -/
def communication (r : Rules) : Parser (List Tree) := do
  let list ← r.values false
  if ← accept "<-" then
    match list with
    | [x] => return [statementOf [x, ← r.value]]
    | _ => fail
  else
    match ← kind with
    | .fixed s =>
        if s = "=" ∨ s = ":=" then
          if list.length ≤ 2 then
            skip
            return [assignmentTree s list [← r.value]]
          else fail
        else if list.length = 1 then return list
        else fail
    | _ => if list.length = 1 then return list else fail

def selectStatement (r : Rules) : Parser Tree := do
  expect "select"
  return statementOf (← clauses r (communication r))

inductive LoopHeader where
  /-- Initial statement, condition and step, each optional. -/
  | counted (parts : List Tree)
  | range (operator : String) (targets : List Tree) (operand : Tree)

/-- The rest of a loop's header after its first semicolon. -/
def loopRest (r : Rules) (first : Option Simple) : Parser LoopHeader := do
  let condition ← do
    if ← isAtSemicolon then pure [] else pure [← asExpression (← simple r .header)]
  let _ ← endOfLine
  let step ← do
    if ← isAt "\x7b" then pure [] else pure [(← simple r .header).tree]
  return .counted ((first.map Simple.tree).toList ++ condition ++ step)

def loopHeader (r : Rules) : Parser LoopHeader := do
  if ← isAt "\x7b" then return .counted []
  else if ← accept "range" then return .range "" [] (← r.expression true)
  else if ← isAtSemicolon then
    skip
    loopRest r none
  else
    match ← simple r .loop with
    | .range operator targets operand => return .range operator targets operand
    | s =>
        if ← isAtSemicolon then
          skip
          loopRest r (some s)
        else return .counted [← asExpression s]

def loopStatement (r : Rules) : Parser Tree := do
  expect "for"
  let header ← loopHeader r
  let body ← r.block
  let _ ← endOfLine
  match header with
  | .counted parts => return statementOf (parts ++ [body])
  | .range operator targets operand =>
      if 2 < targets.length then fail
      else if operator = ":=" then return .rangeDefine targets operand body
      else return statementOf (targets ++ [operand, body])

/-- Keywords and marks that start an expression. -/
def expressionStarts : List String :=
  ["func", "(", "[", "struct", "map", "chan", "interface", "+", "-", "*", "&", "^", "<-", "!"]

def simpleStatement (r : Rules) : Parser Tree := do
  let s ← simple r .body
  match s with
  | .labeled _ _ => return s.tree
  | _ =>
      let _ ← endOfLine
      return s.tree

def statement (r : Rules) : Parser Tree := do
  match ← kind with
  | .name _ | .literal | .text _ => simpleStatement r
  | .semicolon | .lineEnd => skip; return statementOf []
  | .fixed s =>
      match s with
      | "const" | "var" | "type" => return statementOf (← localDeclaration r)
      | "go" | "defer" => callStatement r
      | "return" => returnStatement r
      | "break" | "continue" | "goto" | "fallthrough" => jumpStatement s
      | "\x7b" =>
          let body ← r.block
          let _ ← endOfLine
          return body
      | "if" => ifStatement r
      | "switch" => switchStatement r
      | "select" => selectStatement r
      | "for" => loopStatement r
      | "\x7d" => return statementOf []
      | _ => if expressionStarts.elem s then simpleStatement r else fail
  | _ => fail

end ArchLint.Source.Grammar
