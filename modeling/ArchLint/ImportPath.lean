import ArchLint.SlashPath

namespace ArchLint.ImportPath

/-- The import path of the package that holds a file, given the path of its
module and the file's path below it. -/
def ofFile (root file : String) : String :=
  let dir := SlashPath.dir file
  if dir = "." then root else root ++ "/" ++ dir

/-- A path element such as `v2` that only tells a major version. -/
def isMajorVersion (s : String) : Bool :=
  match s.toList with
  | 'v' :: d :: ds => (d :: ds).all Char.isDigit
  | _ => false

/-- The text before the first `.v` that does not stand at the start. -/
def beforeVersion : List Char → List Char
  | [] => []
  | c :: cs => if ['.', 'v'].isPrefixOf cs then [c] else c :: beforeVersion cs

/-- The element of a path that names its package. -/
def nameElement (path : String) : String :=
  let base := SlashPath.base path
  if isMajorVersion base then SlashPath.base (SlashPath.dir path) else base

/-- The name that an import is usually given when it gives none itself. -/
def defaultName (path : String) : String :=
  let element := (nameElement path).toList
  let stem := if ['.', 'v'].isPrefixOf element then element else beforeVersion element
  let stem := (Text.afterPrefix? ['g', 'o', '-'] stem).getD stem
  String.ofList (stem.filter (· != '-'))

end ArchLint.ImportPath
