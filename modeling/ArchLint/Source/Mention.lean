import ArchLint.ImportPath
import ArchLint.Name
import ArchLint.Source.Tree

/-!
The names that a piece of source refers to. A mention is an identifier in a
place where it refers to something, or a member of a bare identifier, which may
be an import.
-/

namespace ArchLint.Source

/-- An identifier that refers to something. -/
inductive Mention where
  | name (text : String)
  | member (operand member : String)
  deriving DecidableEq, Repr

namespace Tree

mutual

/-- The mentions of a tree in source order. Names of fields and parameters,
members, labels, bare keys, and names that a declaration introduces are
none. -/
def mentions : Tree → List Mention
  | .name x => [.name x]
  | .selector t m =>
      match t with
      | .name x => [.member x m]
      | t => mentions t
  | .field _ t => mentions t
  | .keyed k v =>
      match k with
      | .name _ => mentions v
      | k => mentions k ++ mentions v
  | .define _ vs => mentionsAll vs
  | .rangeDefine _ t b => mentions t ++ mentions b
  | .values _ ts vs => mentionsAll ts ++ mentionsAll vs
  | .typed _ ps t => mentionsAll ps ++ mentions t
  | .labeled _ b => mentions b
  | .jump _ => []
  | .node _ parts => mentionsAll parts

/-- The mentions of several trees. -/
def mentionsAll : List Tree → List Mention
  | [] => []
  | t :: ts => mentions t ++ mentionsAll ts

end

end Tree

/-- What names in a file mean: the path of its package, and the paths of its
imports by local name. -/
structure Scope where
  package : String
  imports : List (String × String)

namespace Scope

/-- The name under which a file uses an import; none for blank imports and
for those whose members it uses unqualified. -/
def localName? (i : Import) : Option String :=
  let name := i.localName.getD (ImportPath.defaultName i.path)
  if name = "_" ∨ name = "." then none else some name

def ofFile (package : String) (file : File) : Scope where
  package := package
  imports := file.imports.filterMap fun i => (localName? i).map fun name => (name, i.path)

/-- The path of an import; of two with one name the later counts. -/
def import? (s : Scope) (name : String) : Option String :=
  (s.imports.reverse.find? fun i => i.1 == name).map (·.2)

/-- A name of the file's own package. -/
def qualify (s : Scope) (name : String) : String :=
  s.package ++ "." ++ name

/-- What a bare identifier refers to: itself for a predeclared type, nothing
for a predeclared value or a blank, and else a name of the package. -/
def resolveName? (s : Scope) (name : String) : Option String :=
  if name = "_" then none
  else if Name.isPredeclaredType name then some name
  else if Name.isPredeclared name then none
  else some (s.qualify name)

/-- What a mention refers to. A member of something that is no import refers
to whatever its operand does. -/
def resolve? (s : Scope) : Mention → Option String
  | .name x => s.resolveName? x
  | .member x m =>
      match s.import? x with
      | some path => some (path ++ "." ++ m)
      | none => s.resolveName? x

/-- What a type name in a comment refers to. Stars and dots before it are
dropped, a name with slashes stands for itself, and a qualified name is looked
up among the imports. -/
def resolveDocName? (s : Scope) (name : String) : Option String :=
  let chars := name.toList.dropWhile fun c => c == '*' || c == '.'
  let name := String.ofList chars
  if chars.isEmpty then none
  else if chars.any fun c => c == '/' || c == '\\' then some name
  else
    match Text.cut? '.' chars with
    | some (operand, member) =>
        match s.import? (String.ofList operand) with
        | some path => some (path ++ "." ++ String.ofList member)
        | none => some name
    | none => s.resolveName? name

end Scope

end ArchLint.Source
