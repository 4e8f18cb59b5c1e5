import ArchLint.CodeUnit
import ArchLint.DocTag
import ArchLint.Source.Mention
import ArchLint.Source.Parse

namespace ArchLint.Source

/-- The text of a declaration's comments, one after the other. -/
def docText (parts : List String) : String :=
  Text.joinWith "\n" (parts.filter fun part => !part.isEmpty)

/-- What a declaration refers to in its code and in its comments, each name
once. -/
def Scope.references (s : Scope) (tags : List DocTag) (trees : List Tree) (doc : List String) :
    List String :=
  Text.distinct
    ((Tree.mentionsAll trees).filterMap s.resolve? ++
      (DocTag.union tags (docText doc)).filterMap s.resolveDocName?)

/-- The name of a receiver's type, without pointers and type arguments. -/
def receiverName? : Tree → Option String
  | .name x => some x
  | .node .star [t] => receiverName? t
  | .node .paren [t] => receiverName? t
  | .node .index (t :: _) => receiverName? t
  | _ => none

def fieldType : Tree → Tree
  | .field _ t => t
  | t => t

/-- The category of a declared type, and whether it is abstract. -/
def kindOf (t : Tree) : UnitKind × Option Bool :=
  match t with
  | .node .interface _ => (.interface, some true)
  | .node .record _ => (.struct, some false)
  | _ => (.type, none)

/-- A unit of the scope's package. -/
def Scope.unit (s : Scope) (name : String) (references : List String) : UnitSpec where
  scope := s.package
  name := s.qualify name
  short := name
  exported := Name.isExported name
  references := references

/-- The units of a declaration in a file with the given path. The receiver's
own declaration may stand in another file, so a method leaves file and category
open. -/
def Declaration.units (s : Scope) (tags : List DocTag) (path : String) :
    Declaration → List UnitSpec
  | .type name parameters t doc =>
      let (kind, isAbstract) := kindOf t
      [{ s.unit name (s.references tags (parameters ++ [t]) doc) with
          file := path, kind, isAbstract }]
  | .values isConstant names ts vs doc =>
      let references := s.references tags (ts ++ vs) doc
      (names.filter (· != "_")).map fun name =>
        { s.unit name references with
          file := path, kind := if isConstant then .const else .var }
  | .function receiver name signature body doc =>
      let references := s.references tags (receiver ++ signature ++ body.toList) doc
      match receiver with
      | [] => [{ s.unit name references with file := path, kind := .func }]
      | field :: _ =>
          ((receiverName? (fieldType field)).map fun owner => s.unit owner references).toList

def File.units (tags : List DocTag) (path package : String) (file : File) : List UnitSpec :=
  file.declarations.flatMap (Declaration.units (.ofFile package file) tags path)

/-- The units of a source text, unless it is malformed. -/
def unitsOfText? (tags : List DocTag) (path package text : String) : Option (List UnitSpec) :=
  (File.ofText? text).map (File.units tags path package)

/-- The units of a source file's bytes, unless they are malformed. -/
def unitsOfBytes? (tags : List DocTag) (path package : String) (bytes : ByteArray) :
    Option (List UnitSpec) :=
  (Text.ofBytes? bytes).bind (unitsOfText? tags path package)

end ArchLint.Source
