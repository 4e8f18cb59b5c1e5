import ArchLint.Name
import ArchLint.Text.Composition
import ArchLint.Text.Folding

/-!
Regions of a code base: all units below a scope, all files below a directory,
or both.
-/

namespace ArchLint

/-- A region is given by a prefix of qualified names, a prefix of file paths,
or both. A missing prefix is empty. -/
structure Region where
  scope : String := ""
  directory : String := ""
  deriving DecidableEq, Repr, Inhabited

namespace Region

/-- A text prepared for comparison: composed, then folded, so that neither
case nor the spelling of accents matters. -/
def comparable (s : List Char) : List Char :=
  Text.foldText (Text.compose s)

/-- Whether `s` starts with `p`, neither case nor the spelling of accents
mattering. -/
def hasPrefix (s p : List Char) : Bool :=
  (comparable p).isPrefixOf (comparable s)

/-- Whether the region has no prefix at all, and so contains nothing. -/
def isEmpty (r : Region) : Bool :=
  r.scope.isEmpty && r.directory.isEmpty

/-- Whether a file path lies in the region's directory. The test is one of
prefixes, not of path elements. -/
def containsPath (r : Region) (path : String) : Bool :=
  !r.directory.isEmpty && hasPrefix path.toList r.directory.toList

/-- Whether a unit of the given name and file lies in the region. One matching
prefix is enough. -/
def contains (r : Region) (name path : String) : Bool :=
  let scope := Name.trim r.scope.toList
  (!scope.isEmpty && hasPrefix (Name.trim name.toList) scope) || r.containsPath path

def text (r : Region) : String :=
  if r.scope.isEmpty then r.directory
  else if r.directory.isEmpty then r.scope
  else r.scope ++ " (" ++ r.directory ++ ")"

end Region

end ArchLint
