import ArchLint.Source.Grammar.Basic

namespace ArchLint.Source.Grammar

open ArchLint.Source.Parser

/-- A type name, possibly qualified, that starts with a given identifier. -/
def typeNameFrom (name : String) : Parser Tree := do
  if ← accept "." then
    let member ← identifier
    return .selector (.name name) member
  else return .name name

/-- An index or instance of an operand. -/
def indexed (operand : Tree) (arguments : List Tree) : Tree :=
  .node .index (operand :: arguments)

/-- The type arguments of a generic type. -/
def typeInstance (r : Rules) (operand : Tree) : Parser Tree := do
  expect "["
  let arguments ← closedList "]" r.type r.limit
  expect "]"
  if arguments.isEmpty then fail else return indexed operand arguments

/-- A type name with its type arguments, if it has some. -/
def qualifiedFrom (r : Rules) (name : String) : Parser Tree := do
  let t ← typeNameFrom name
  if ← isAt "[" then typeInstance r t else return t

/-- The rest of an array or slice type after its bracket. The length may have
been read before. -/
def arrayRest (r : Rules) (length : Option Tree) : Parser Tree := do
  let length ← match length with
    | some x => pure [x]
    | none => do
        if ← accept "..." then pure [.node .ellipsis []]
        else if ← isAt "]" then pure []
        else pure [← r.value]
  expect "]"
  let element ← r.type
  return .node .array (length ++ [element])

/-- A name followed by a bracket: the name of a field with an array type, or a
generic type with its arguments. No comma may follow a length. -/
def arrayFieldOrInstance (r : Rules) (name : String) : Parser (Option String × Tree) := do
  expect "["
  if ← accept "]" then
    let element ← r.type
    return (some name, .node .array [element])
  else
    let first ← r.value
    let more ← repeatWhile
      (do return (← isAt ",")) (do
        skip
        if ← isAt "]" then return Option.none
        else return some (← r.value)) r.limit
    expect "]"
    match more with
    | [] | [none] =>
        match ← r.type? with
        | some element =>
            if more.isEmpty then return (some name, .node .array [first, element]) else fail
        | none => return (none, indexed (.name name) [first])
    | _ => return (none, indexed (.name name) (first :: more.filterMap id))

/-- A field of a structure: its names and type, or an embedded type. -/
def fieldDeclaration (r : Rules) : Parser Tree := do
  let field ← do
    if ← accept "*" then
      let t ← qualifiedFrom r (← identifier)
      pure (Tree.field [] (.node .star [t]))
    else
      let name ← identifier
      if ← isAt "." then
        pure (.field [] (← qualifiedFrom r name))
      else
        match ← kind with
        | .text _ | .semicolon | .lineEnd | .fixed "\x7d" => pure (.field [] (.name name))
        | .fixed "[" =>
            let (name?, t) ← arrayFieldOrInstance r name
            pure (.field name?.toList t)
        | _ =>
            let more ← repeatWhile (isAt ",") (do skip; identifier) r.limit
            pure (.field (name :: more) (← r.type))
  match ← kind with
  | .text _ => skip
  | _ => pure ()
  let _ ← endOfLine
  return field

def structureType (r : Rules) : Parser Tree := do
  expect "struct"
  expect "\x7b"
  let fields ← repeatWhile (do return (← isAtName) || (← isAt "*")) (fieldDeclaration r) r.limit
  expect "\x7d"
  return .node .record fields

def constraintTerm (r : Rules) : Parser Tree := do
  if ← accept "~" then return .node (.unary "~") [← r.type] else r.type

/-- A constraint whose first term may have been read before. -/
def constraintFrom (r : Rules) (first : Option Tree) : Parser Tree := do
  let first ← match first with
    | some t => pure t
    | none => constraintTerm r
  let more ← repeatWhile (isAt "|") (do skip; constraintTerm r) r.limit
  return more.foldl (fun x y => .node (.binary "|") [x, y]) first

/-- A parameter as it is written: with a name, a type, or both. -/
structure Parameter where
  name : Option String := none
  type : Option Tree := none

/-- The dots of a variadic parameter with its type. -/
def dotsType (r : Rules) : Parser Tree := do
  expect "..."
  return .node .ellipsis [← r.type]

/-- Tokens that start a type and no name. -/
def typeStarts : List String :=
  ["*", "<-", "func", "chan", "map", "struct", "interface", "("]

/-- A parameter that starts with a name. -/
def namedParameter (r : Rules) (isConstraint : Bool) (name : String) : Parser Parameter := do
  let finish (p : Parameter) : Parser Parameter := do
    match p.type with
    | some t =>
        if isConstraint && (← isAt "|") then
          return { p with type := some (← constraintFrom r (some t)) }
        else return p
    | none => return p
  match ← kind with
  | .name _ => finish ⟨some name, some (← r.type)⟩
  | .fixed s =>
      if s = "[" then
        let (name?, t) ← arrayFieldOrInstance r name
        finish ⟨name?, some t⟩
      else if s = "..." then return ⟨some name, some (← dotsType r)⟩
      else if s = "." then finish ⟨none, some (← qualifiedFrom r name)⟩
      else if s = "~" ∧ isConstraint then
        return ⟨some name, some (← constraintFrom r none)⟩
      else if s = "|" ∧ isConstraint then
        return ⟨none, some (← constraintFrom r (some (.name name)))⟩
      else if typeStarts.elem s then finish ⟨some name, some (← r.type)⟩
      else return ⟨some name, none⟩
  | _ => return ⟨some name, none⟩

def parameter (r : Rules) (isConstraint : Bool) : Parser Parameter := do
  match ← kind with
  | .name name => skip; namedParameter r isConstraint name
  | .fixed s =>
      if s = "~" ∧ isConstraint then return ⟨none, some (← constraintFrom r none)⟩
      else if s = "..." then return ⟨none, some (← dotsType r)⟩
      else if s = "[" ∨ typeStarts.elem s then
        let t ← r.type
        if isConstraint && (← isAt "|") then
          return ⟨none, some (← constraintFrom r (some t))⟩
        else return ⟨none, some t⟩
      else fail
  | _ => fail

/-- Gives every parameter of a list with names its type: one without a type has
the type of the next one. `none` if a name or a type is missing. -/
def withTypes : List Parameter → Option (List (String × Tree))
  | [] => some []
  | p :: rest => do
      let later ← withTypes rest
      let name ← p.name
      match p.type with
      | some t => some ((name, t) :: later)
      | none =>
          match later with
          | (_, t) :: _ => some ((name, t) :: later)
          | [] => none

/-- Whether dots stand before the type of the last parameter only, if they are
allowed at all. -/
def areDotsPlaced (allowed : Bool) : List Tree → Bool
  | [] => true
  | [.field _ t] => allowed || !t.hasShape (· == .ellipsis)
  | .field _ t :: rest => !t.hasShape (· == .ellipsis) && areDotsPlaced allowed rest
  | _ :: rest => areDotsPlaced allowed rest

/-- The fields of a parameter list. Without any names the parameters are types;
type parameters always have names. -/
def fieldsOf? (isConstraint dotsAllowed : Bool) (list : List Parameter) : Option (List Tree) := do
  let fields ←
    if list.any fun p => p.name.isSome && p.type.isSome then
      (withTypes list).map fun pairs => pairs.map fun (name, t) => Tree.field [name] t
    else if isConstraint && !list.isEmpty then none
    else some (list.filterMap fun p => (p.type.or (p.name.map Tree.name)).map (Tree.field []))
  if areDotsPlaced dotsAllowed fields then some fields else none

/-- Turns a parameter list into fields. -/
def fieldsOf (isConstraint dotsAllowed : Bool) (list : List Parameter) : Parser (List Tree) :=
  match fieldsOf? isConstraint dotsAllowed list with
  | some fields => pure fields
  | none => fail

/-- Type parameters after their bracket. The first name, and its constraint,
may have been read before. -/
def typeParametersFrom (r : Rules) (first : Option (String × Option Tree)) :
    Parser (List Tree) := do
  let list ← match first with
    | none => closedList "]" (parameter r true) r.limit
    | some (name, constraint) => do
        let p ← match constraint with
          | some t => do pure { name, type := some (← constraintFrom r (some t)) : Parameter }
          | none => namedParameter r true name
        if ← accept "," then
          let rest ← closedList "]" (parameter r true) r.limit
          pure (p :: rest)
        else pure [p]
  expect "]"
  if list.isEmpty then fail else fieldsOf true false list

/-- The type parameters of a function, if it has some. -/
def typeParameters (r : Rules) : Parser (List Tree) := do
  if ← accept "[" then typeParametersFrom r none else return []

/-- A parameter list between parentheses. -/
def parameters (r : Rules) (dotsAllowed : Bool) : Parser (List Tree) := do
  expect "("
  let list ← closedList ")" (parameter r false) r.limit
  expect ")"
  fieldsOf false dotsAllowed list

/-- The results of a function: a list, a single type, or none. -/
def results (r : Rules) : Parser (List Tree) := do
  if ← isAt "(" then parameters r false
  else
    match ← r.type? with
    | some t => return [.field [] t]
    | none => return []

def signature (r : Rules) : Parser (List Tree) := do
  let list ← parameters r true
  return list ++ (← results r)

def functionType (r : Rules) : Parser Tree := do
  expect "func"
  return .node .function (← signature r)

/-- An element of an interface that starts with an identifier: a method, or an
embedded type that may be the first term of a constraint. -/
def methodOrEmbedded (r : Rules) : Parser Tree := do
  let name ← identifier
  let embedded (t : Tree) : Parser Tree := do
    return .field [] (← constraintFrom r (some t))
  if ← isAt "." then embedded (← qualifiedFrom r name)
  else if ← accept "[" then
    let first ← r.value
    let more ← do
      if ← accept "," then closedList "]" r.type r.limit else pure []
    expect "]"
    embedded (indexed (.name name) (first :: more))
  else if ← isAt "(" then return .field [name] (.node .function (← signature r))
  else embedded (.name name)

def interfaceType (r : Rules) : Parser Tree := do
  expect "interface"
  expect "\x7b"
  let elements ← repeatWhile (do return !(← isAt "\x7d"))
    (do
      let element ← do
        if ← isAtName then methodOrEmbedded r
        else pure (.field [] (← constraintFrom r none))
      let _ ← endOfLine
      return element) r.limit
  expect "\x7d"
  return .node .interface elements

def mapType (r : Rules) : Parser Tree := do
  expect "map"
  expect "["
  let key ← r.type
  expect "]"
  return .node .map [key, ← r.type]

def channelType (r : Rules) : Parser Tree := do
  let direction ← do
    if ← accept "chan" then
      if ← accept "<-" then pure Direction.send else pure .both
    else
      expect "<-"
      expect "chan"
      pure .receive
  return .node (.channel direction) [← r.type]

def type? (r : Rules) : Parser (Option Tree) := do
  match ← kind with
  | .name name => skip; return some (← qualifiedFrom r name)
  | .fixed s =>
      match s with
      | "[" => skip; return some (← arrayRest r none)
      | "struct" => return some (← structureType r)
      | "*" => skip; return some (.node .star [← r.type])
      | "func" => return some (← functionType r)
      | "interface" => return some (← interfaceType r)
      | "map" => return some (← mapType r)
      | "chan" | "<-" => return some (← channelType r)
      | "(" =>
          skip
          let t ← r.type
          expect ")"
          return some (.node .paren [t])
      | _ => return none
  | _ => return none

end ArchLint.Source.Grammar
