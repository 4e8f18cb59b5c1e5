/-!
Syntax trees of Go declarations. Positions where an identifier names something
without referring to it have constructors of their own; all other constructs
are nodes with a shape and their parts in source order.
-/

namespace ArchLint.Source

/-- The direction of a channel type. -/
inductive Direction where
  | both
  | send
  | receive
  deriving DecidableEq, Repr

/-- Constructs without identifiers of their own. -/
inductive Shape where
  | literal
  | paren
  | star
  | unary (operator : String)
  | binary (operator : String)
  /-- A call or conversion; `spread` if its last argument is followed by
  dots. -/
  | call (spread : Bool)
  /-- An element, or an instance of a generic type or function. -/
  | index
  | slice
  /-- A type assertion; `isSwitch` if the type is the keyword `type`. -/
  | assertion (isSwitch : Bool)
  | composite
  | functionLiteral
  /-- The dots before a type, or in place of a length. -/
  | ellipsis
  | array
  | record
  | function
  | interface
  | map
  | channel (direction : Direction)
  /-- A statement or a sequence of statements. -/
  | statement
  deriving DecidableEq, Repr

inductive Tree where
  /-- An identifier. -/
  | name (text : String)
  /-- A member of an operand. -/
  | selector (operand : Tree) (member : String)
  /-- A field, parameter or method, or an embedded type without names. -/
  | field (names : List String) (type : Tree)
  /-- A key and a value in a composite literal. -/
  | keyed (key value : Tree)
  /-- A short declaration of variables. -/
  | define (targets values : List Tree)
  /-- A loop that declares its variables, over an operand. -/
  | rangeDefine (targets : List Tree) (operand body : Tree)
  /-- A declaration of constants or variables; the type can be missing. -/
  | values (names : List String) (type : List Tree) (values : List Tree)
  /-- A declaration of a type with its type parameters. -/
  | typed (name : String) (parameters : List Tree) (type : Tree)
  /-- A statement with a label. -/
  | labeled (label : String) (body : Tree)
  /-- A jump, with its label if it has one. -/
  | jump (label : Option String)
  | node (shape : Shape) (parts : List Tree)
  deriving Inhabited, Repr

namespace Tree

/-- Whether a tree is a node of some shape. -/
def hasShape (p : Shape → Bool) : Tree → Bool
  | .node shape _ => p shape
  | _ => false

/-- The name of a bare identifier. -/
def name? : Tree → Option String
  | .name x => some x
  | _ => none

def isParen (t : Tree) : Bool :=
  t.hasShape (· == .paren)

/-- A tree without the parentheses around it. -/
def unparen : Tree → Tree
  | .node .paren [x] => unparen x
  | t => t

/-- Whether a tree is an assertion of the keyword `type`. -/
def isSwitchAssertion (t : Tree) : Bool :=
  t.hasShape (· == .assertion true)

mutual

/-- Whether an expression can only be a type or a constraint. -/
def isTypeElement : Tree → Bool
  | .node shape parts =>
      match shape with
      | .array | .record | .function | .interface | .map | .channel _ => true
      | .binary _ | .paren => anyTypeElement parts
      | .unary operator => operator == "~"
      | _ => false
  | _ => false

/-- Whether one of several expressions can only be a type or a constraint. -/
def anyTypeElement : List Tree → Bool
  | [] => false
  | t :: ts => isTypeElement t || anyTypeElement ts

end

end Tree

/-- An import: its local name, if it gives one, and its path. -/
structure Import where
  localName : Option String
  path : String
  deriving DecidableEq, Repr, Inhabited

/-- A declaration at the top of a file, with the texts of its comments. -/
inductive Declaration where
  | type (name : String) (parameters : List Tree) (type : Tree) (doc : List String)
  | values (isConstant : Bool) (names : List String) (type : List Tree) (values : List Tree)
      (doc : List String)
  /-- A function or method. A missing receiver is an empty list; the signature
  holds type parameters, parameters and results. -/
  | function (receiver : List Tree) (name : String) (signature : List Tree)
      (body : Option Tree) (doc : List String)
  deriving Inhabited, Repr

structure File where
  imports : List Import
  declarations : List Declaration
  deriving Inhabited, Repr

end ArchLint.Source
