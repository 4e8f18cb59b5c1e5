import ArchLint.IdSet
import ArchLint.Name

namespace ArchLint

/-- The syntactic category of a unit. -/
inductive UnitKind where
  | interface
  | struct
  | type
  | func
  | const
  | var
  | primitive
  | unknown
  | unspecified
  | other (label : String)
  deriving DecidableEq, Repr, Inhabited

namespace UnitKind

/-- The word for a category; nothing for an unspecified one. -/
def text : UnitKind → String
  | interface => "interface"
  | struct => "struct"
  | type => "type"
  | func => "func"
  | const => "const"
  | var => "var"
  | primitive => "primitive"
  | unknown => "unknown"
  | unspecified => ""
  | other label => label

/-- The category that a word names. -/
def ofText (s : String) : UnitKind :=
  match [interface, struct, type, func, const, var, primitive, unknown, unspecified].find?
      (fun k => k.text == s) with
  | some k => k
  | none => other s

end UnitKind

/-- What a scan reports for one declaration: its identity, what is known about
it and the names it refers to. -/
structure UnitSpec where
  scope : String := ""
  name : String := ""
  short : String := ""
  file : String := ""
  kind : UnitKind := .unspecified
  isAbstract : Option Bool := none
  exported : Bool := false
  references : List String := []
  deriving DecidableEq, Repr, Inhabited

/-- A unit of code in an architecture. The owner is the name of the module it
was placed in, once it has been placed. -/
structure CodeUnit where
  id : Nat
  scope : String := ""
  name : String
  short : String := ""
  file : String := ""
  kind : UnitKind := .unknown
  isAbstract : Option Bool := none
  exported : Bool := false
  dependents : IdSet Nat := .empty
  dependencies : IdSet Nat := .empty
  owner : Option String := none
  deriving DecidableEq, Repr, Inhabited

namespace CodeUnit

/-- Scope and symbol of a unit. The recorded scope is preferred to the one
that the name suggests. -/
def splitName (u : CodeUnit) : String × String :=
  let stem := u.scope ++ "."
  match Text.afterPrefix? stem.toList u.name.toList with
  | some symbol => if u.scope.isEmpty then Name.split u.name else (u.scope, String.ofList symbol)
  | none => Name.split u.name

/-- The scope a unit is declared in; empty for an unqualified name. -/
def declaredScope (u : CodeUnit) : String :=
  u.splitName.1

def isPrimitive (u : CodeUnit) : Bool :=
  u.kind = .primitive

/-- Whether the unit is neither predeclared nor in any scope. -/
def isGlobal (u : CodeUnit) : Bool :=
  !u.isPrimitive && u.declaredScope.isEmpty

/-- Whether the unit was placed in the named module. -/
def belongsTo (u : CodeUnit) (name : String) : Bool :=
  u.owner = some name

def addDependency (u : CodeUnit) (target : Nat) : CodeUnit :=
  { u with dependencies := u.dependencies.insert target }

def addDependent (u : CodeUnit) (source : Nat) : CodeUnit :=
  { u with dependents := u.dependents.insert source }

/-- The name with the symbol written as path elements, the form that
visibility patterns are matched against. -/
def slashName (u : CodeUnit) : String :=
  let (scope, symbol) := u.splitName
  let symbol := String.ofList (symbol.toList.map fun c => if c = '.' then '/' else c)
  if scope.isEmpty then symbol else scope ++ "/" ++ symbol

end CodeUnit

end ArchLint
