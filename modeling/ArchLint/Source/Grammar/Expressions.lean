import ArchLint.Source.Grammar.Types

namespace ArchLint.Source.Grammar

open ArchLint.Source.Parser

/-- The binding strength of binary operators. -/
def precedence? : String → Option Nat
  | "||" => some 1
  | "&&" => some 2
  | "==" | "!=" | "<" | "<=" | ">" | ">=" => some 3
  | "+" | "-" | "|" | "^" => some 4
  | "*" | "/" | "%" | "<<" | ">>" | "&" | "&^" => some 5
  | _ => none

/-- A function literal, or a function type. -/
def functionValue (r : Rules) : Parser Tree := do
  let t ← functionType r
  if ← isAt "\x7b" then return .node .functionLiteral [t, ← r.block] else return t

/-- The innermost part of an expression. -/
def operand (r : Rules) : Parser Tree := do
  match ← kind with
  | .name x => skip; return .name x
  | .literal | .text _ => skip; return .node .literal []
  | .fixed "(" =>
      skip
      let x ← r.value
      expect ")"
      return .node .paren [x]
  | .fixed "func" => functionValue r
  | _ => r.type

/-- An index of an operand or part of a slice, unless it is missing. -/
def sliceBound (r : Rules) : Parser (Option Tree) := do
  if (← isAtAny [":", "]"]) || (← kind) == .finish then return none
  else return some (← r.value)

/-- What follows the opening bracket after an operand: an index, type
arguments, or the bounds of a slice. With two colons the last two bounds have
to be there. -/
def indexOrSlice (r : Rules) (x : Tree) : Parser Tree := do
  let first ← do
    if ← isAt ":" then pure none else pure (some (← r.value))
  if ← accept ":" then
    let second ← sliceBound r
    if ← accept ":" then
      let third ← sliceBound r
      expect "]"
      match second, third with
      | some y, some z => return .node .slice (x :: first.toList ++ [y, z])
      | _, _ => fail
    else
      expect "]"
      return .node .slice (x :: first.toList ++ second.toList)
  else
    let more ← repeatWhile (isAt ",") (do
      skip
      if (← isAt "]") || (← kind) == .finish then return []
      else return [← r.type]) r.limit
    expect "]"
    return indexed x (first.toList ++ more.flatten)

/-- The arguments of a call after its parenthesis, and whether dots follow the
last one. -/
def arguments (r : Rules) : Nat → Parser (List Tree × Bool)
  | 0 => fail
  | n + 1 => do
      if (← isAt ")") || (← kind) == .finish then return ([], false)
      else
        let x ← r.value
        let spread ← accept "..."
        if ← accept "," then
          if spread then return ([x], true)
          else
            let (xs, spread) ← arguments r n
            return (x :: xs, spread)
        else if ← isAt ")" then return ([x], spread)
        else fail

/-- An element of a composite literal, with its key if it has one. -/
def keyedElement (r : Rules) : Parser Tree := do
  let x ← r.element
  if ← accept ":" then return .keyed x (← r.element) else return x

/-- The elements of a composite literal between braces. -/
def literalElements (r : Rules) : Parser (List Tree) := do
  expect "\x7b"
  let list ← closedList "\x7d" (keyedElement r) r.limit
  expect "\x7d"
  return list

/-- An element of a composite literal without its key. -/
def element (r : Rules) : Parser Tree := do
  if ← isAt "\x7b" then return .node .composite (← literalElements r) else r.value

/-- Whether a brace after an expression starts the elements of a literal. In a
header it does so only after a type that can be nothing else. -/
def takesElements (inHeader : Bool) (x : Tree) : Bool :=
  match x.unparen with
  | .name _ | .selector _ _ | .node .index _ => !inHeader
  | .node .array _ | .node .record _ | .node .map _ => true
  | _ => false

/-- The selectors, indices, calls and literals after an operand. The fuel
bounds their number. -/
def primaryRest (r : Rules) (inHeader : Bool) : Nat → Tree → Parser Tree
  | 0, _ => fail
  | n + 1, x => do
      match ← kind with
      | .fixed "." =>
          skip
          if ← accept "(" then
            if ← accept "type" then
              expect ")"
              primaryRest r inHeader n (.node (.assertion true) [x])
            else
              let t ← r.type
              expect ")"
              primaryRest r inHeader n (.node (.assertion false) [x, t])
          else primaryRest r inHeader n (.selector x (← identifier))
      | .fixed "[" => skip; primaryRest r inHeader n (← indexOrSlice r x)
      | .fixed "(" =>
          skip
          let (list, spread) ← arguments r r.limit
          expect ")"
          primaryRest r inHeader n (.node (.call spread) (x :: list))
      | .fixed "\x7b" =>
          if takesElements inHeader x then
            if x.isParen then fail
            else primaryRest r inHeader n (.node .composite (x :: (← literalElements r)))
          else return x
      | _ => return x

/-- An operand with what follows it. -/
def primary (r : Rules) (inHeader : Bool) : Parser Tree := do
  primaryRest r inHeader r.limit (← operand r)

/-- The type that an arrow before a channel type makes: the arrow belongs to
the innermost channel of a chain that sends. -/
def receiving? : Tree → Option Tree
  | .node (.channel .both) parts => some (.node (.channel .receive) parts)
  | .node (.channel .send) [t] => (receiving? t).map fun t => .node (.channel .receive) [t]
  | _ => none

/-- An expression without binary operators at its top. -/
def unary (r : Rules) (inHeader : Bool) : Parser Tree := do
  match ← kind with
  | .fixed s =>
      match s with
      | "+" | "-" | "!" | "^" | "&" | "~" =>
          skip
          return .node (.unary s) [← r.unary inHeader]
      | "<-" =>
          skip
          let x ← r.unary inHeader
          if x.hasShape (fun shape => shape matches .channel _) then
            match receiving? x with
            | some t => return t
            | none => fail
          else return .node (.unary "<-") [x]
      | "*" =>
          skip
          return .node .star [← r.unary inHeader]
      | _ => primary r inHeader
  | _ => primary r inHeader

/-- The binary operators after an operand that bind at least as strongly as
`least`. The fuel bounds their number. -/
def binaryRest (r : Rules) (inHeader : Bool) : Nat → Nat → Tree → Parser Tree
  | 0, _, _ => fail
  | n + 1, least, x => do
      match ← kind with
      | .fixed s =>
          match precedence? s with
          | some p =>
              if p < least then return x
              else
                skip
                let y ← binaryRest r inHeader n (p + 1) (← r.unary inHeader)
                binaryRest r inHeader n least (.node (.binary s) [x, y])
          | none => return x
      | _ => return x

def expression (r : Rules) (inHeader : Bool) : Parser Tree := do
  binaryRest r inHeader r.limit 1 (← r.unary inHeader)

/-- Splits an expression such as `P *C` into the name of a type parameter and
its constraint, if the constraint can only be one or `force` is set. A name
alone has no constraint. -/
def splitParameter? (force : Bool) : Tree → Option (String × Option Tree)
  | .name x => some (x, none)
  | .node (.binary "*") [.name x, y] =>
      if force || y.isTypeElement then some (x, some (.node .star [y])) else none
  | .node (.binary "|") [x, y] =>
      match splitParameter? (force || y.isTypeElement) x with
      | some (name, some t) => some (name, some (.node (.binary "|") [t, y]))
      | _ => none
  | .node (.call false) [.name x, y] =>
      if force || y.isTypeElement then some (x, some (.node .paren [y])) else none
  | _ => none

end ArchLint.Source.Grammar
