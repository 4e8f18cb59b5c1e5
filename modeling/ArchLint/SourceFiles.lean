import ArchLint.Disk
import ArchLint.ModuleFile.Directives
import ArchLint.Pattern.Syntax
import ArchLint.Text.Digest

namespace ArchLint

/-- A source file: its path, the path from the root, and its fingerprint. -/
structure SourceFile where
  fullPath : String
  shortPath : String
  hash : String
  deriving DecidableEq, Repr

structure Selection where
  paths : List String := []
  exclude : List String := []
  includeTests : Bool := false
  deriving Repr

inductive ListingFault where
  | badExclude (pattern : String) (fault : Pattern.Fault)
  | cancelled
  | stat (pattern : String) (fault : DiskFault)
  deriving DecidableEq, Repr

def cancelledMessage : String :=
  "context canceled"

/-- The message about files that cannot be listed. -/
def ListingFault.message : ListingFault → String
  | .badExclude pattern fault =>
      "invalid exclude pattern " ++ Text.quote pattern ++ ": " ++ fault.message
  | .cancelled => cancelledMessage
  | .stat pattern fault => "stat " ++ pattern ++ ": " ++ fault.message

/-- The fault of the disk behind files that cannot be listed. -/
def ListingFault.diskFault? : ListingFault → Option DiskFault
  | .stat _ fault => some fault
  | _ => none

namespace SourceFiles

/-- How an exclude pattern is read: as a test of paths, or with a fault. -/
abbrev ExcludeReader := String → Except Pattern.Fault (String → Bool)

/-- The tests of exclude patterns; blank patterns are none. -/
def compileExcludes (read : ExcludeReader) (patterns : List String) :
    Except ListingFault (List (String → Bool)) :=
  (patterns.filter fun p => !(Text.trimBlank p).isEmpty).mapM fun p =>
    (read p).mapError (.badExclude p)

/-- Whether a file is a source file that is asked for. -/
def isWanted (includeTests : Bool) (name : String) : Bool :=
  SlashPath.extension name == ".go" && (includeTests || !Text.endsWith name "_test.go")

/-- Whether the files below a directory are left out. -/
def isLeftOut (disk : Disk) (place : Place) : Bool :=
  let name := place.getLast?.getD ""
  name == "vendor" || name == "testdata" || Text.startsWith name "." || Text.startsWith name "_" ||
    (disk.find? (place ++ [Disk.moduleFileName])).isSome

/-- The places of the directories between a directory and a file below it. -/
def directoriesBetween (start place : Place) : List Place :=
  (List.range (place.length - start.length - 1)).map fun i => place.take (start.length + i + 1)

/-- Whether a file below a directory is selected. -/
def isSelected (disk : Disk) (includeTests recursive : Bool) (start place : Place) : Bool :=
  let between := directoriesBetween start place
  isWanted includeTests (place.getLast?.getD "") && (recursive || between.isEmpty) &&
    !between.any (isLeftOut disk)

/-- A pattern without three dots at its end, and whether it has them. -/
def splitRecursive (pattern : String) : String × Bool :=
  match Text.afterPrefix? ['.', '.', '.'] pattern.toList.reverse with
  | none => (pattern, false)
  | some rest =>
      let trimmed := String.ofList (rest.dropWhile fun c => c == '/' || c == '\\').reverse
      (if trimmed.isEmpty then "." else trimmed, true)

/-- The paths of the files that a pattern selects. -/
def pathsOf (disk : Disk) (root : String) (includeTests : Bool) (pattern : String) :
    Except ListingFault (List String) := do
  let (pattern, recursive) := splitRecursive pattern
  let start := if SlashPath.isAbsolute pattern then pattern else SlashPath.join [root, pattern]
  let (place, node) ← (Disk.during "stat" start (disk.nodeAt start)).mapError (.stat pattern)
  match node with
  | .file _ => .ok [start]
  | .directory =>
      .ok ((disk.below place).filterMap fun (p, node) =>
        match node with
        | .file _ =>
            if isSelected disk includeTests recursive place p then
              some (SlashPath.join (start :: p.drop place.length))
            else none
        | .directory => none)

def fileAt (disk : Disk) (root path : String) : SourceFile :=
  { fullPath := path
    shortPath := (SlashPath.relative? root path).getD path
    hash := Text.digest ((disk.read path).toOption.getD ByteArray.empty) }

/-- Whether the path of a file from the root passes a test. -/
def isExcluded (excludes : List (String → Bool)) (shortPath : String) : Bool :=
  excludes.any (· shortPath)

/-- The path of a file with its path from the root. -/
def withShortPath (root path : String) : String × String :=
  (path, (SlashPath.relative? root path).getD path)

/-- Keeps the first of the paths with one path from the root. -/
def firstPaths (paths : List (String × String)) : List (String × String) :=
  (paths.foldl (fun (seen : List (String × String)) p =>
    if seen.any (·.2 == p.2) then seen else p :: seen) []).reverse

/-- The selected files below a root, in the order of their paths from it.
Without patterns all files are selected. -/
def listWith (read : ExcludeReader) (disk : Disk) (root : String) (selection : Selection)
    (cancelled : Bool) : Except ListingFault (List SourceFile) := do
  let excludes ← compileExcludes read selection.exclude
  if cancelled then .error .cancelled
  else
    let root := disk.absolute root
    let patterns := if selection.paths.isEmpty then ["./..."] else selection.paths
    let paths ← patterns.mapM (pathsOf disk root selection.includeTests)
    let distinct := firstPaths (paths.flatten.map (withShortPath root))
    let kept := distinct.filter fun p => !isExcluded excludes p.2
    .ok ((kept.map fun p => fileAt disk root p.1).mergeSort fun a b =>
      Text.byteLe a.shortPath b.shortPath)

/-- The selected files, where exclude patterns are regular expressions. -/
def list (disk : Disk) (root : String) (selection : Selection) (cancelled : Bool) :
    Except ListingFault (List SourceFile) :=
  listWith Pattern.test disk root selection cancelled

end SourceFiles

end ArchLint
