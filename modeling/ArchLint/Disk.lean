import ArchLint.SlashPath
import ArchLint.Text.Utf8

/-!
A disk: directories and files at places, a place being the list of the names
that lead to it from the top. Every operation is a function on disks, and an
operation that fails tells what it did, where, and why it could not.
-/

namespace ArchLint

/-- Why an operation on a disk fails. -/
inductive DiskCause where
  | notExist
  | notDirectory
  | isDirectory
  | notEmpty
  | exists
  | invalid
  deriving DecidableEq, Repr

def DiskCause.text : DiskCause → String
  | .notExist => "no such file or directory"
  | .notDirectory => "not a directory"
  | .isDirectory => "is a directory"
  | .notEmpty => "directory not empty"
  | .exists => "file exists"
  | .invalid => "invalid argument"

/-- A failed operation: its name, the paths it was asked for, and the cause. -/
structure DiskFault where
  operation : String
  path : String
  cause : DiskCause
  deriving DecidableEq, Repr

/-- The message of a failed operation. -/
def DiskFault.message (f : DiskFault) : String :=
  f.operation ++ " " ++ f.path ++ ": " ++ f.cause.text

inductive DiskNode where
  | directory
  | file (content : ByteArray)

instance : DecidableEq DiskNode
  | .directory, .directory => .isTrue rfl
  | .directory, .file _ => .isFalse nofun
  | .file _, .directory => .isFalse nofun
  | .file a, .file b =>
      if h : a.data = b.data then .isTrue (congrArg DiskNode.file (ByteArray.ext h))
      else .isFalse fun hab => h (congrArg ByteArray.data (DiskNode.file.inj hab))

/-- The names that lead to a place from the top. -/
abbrev Place := List String

/-- A disk, and the directory that relative paths start from. The top is always
a directory and not among the nodes. -/
structure Disk where
  nodes : List (Place × DiskNode) := []
  workingDirectory : String := "/"
  deriving Inhabited

namespace Disk

def find? (d : Disk) (place : Place) : Option DiskNode :=
  if place.isEmpty then some .directory else d.nodes.lookup place

def put (d : Disk) (place : Place) (node : DiskNode) : Disk :=
  { d with nodes := (place, node) :: d.nodes.filter fun n => n.1 != place }

/-- Takes away what stands at a place and below it. -/
def eraseTree (d : Disk) (place : Place) : Disk :=
  { d with nodes := d.nodes.filter fun n => !place.isPrefixOf n.1 }

/-- Whether something stands below a place. -/
def hasBelow (d : Disk) (place : Place) : Bool :=
  d.nodes.any fun n => place.isPrefixOf n.1 && n.1 != place

/-- The names of a path from the top; a relative path starts at the working
directory. Names may be empty or dots. -/
def namesOf (d : Disk) (path : String) : List String :=
  SlashPath.segments (if SlashPath.isAbsolute path then path else d.workingDirectory ++ "/" ++ path)

/-- Follows names from a place. Every name leads on from a directory. -/
def follow (d : Disk) : Place → List String → Except DiskCause Place
  | place, [] => .ok place
  | place, name :: rest =>
      match d.find? place with
      | none => .error .notExist
      | some (.file _) => .error .notDirectory
      | some .directory =>
          if name = "" ∨ name = "." then d.follow place rest
          else if name = ".." then d.follow place.dropLast rest
          else d.follow (place ++ [name]) rest

/-- The place of a path, at which there may be nothing. -/
def locate (d : Disk) (path : String) : Except DiskCause Place :=
  if path.isEmpty then .error .notExist
  else if path.toList.elem '\x00' then .error .invalid
  else d.follow [] (d.namesOf path)

/-- The place of a path and what stands there. -/
def nodeAt (d : Disk) (path : String) : Except DiskCause (Place × DiskNode) := do
  let place ← d.locate path
  match d.find? place with
  | some node => .ok (place, node)
  | none => .error .notExist

/-- Names the operation that fails. -/
def during {α : Type} (operation path : String) (r : Except DiskCause α) : Except DiskFault α :=
  r.mapError fun cause => ⟨operation, path, cause⟩

/-- Looks what stands at a path. -/
def stat (d : Disk) (path : String) : Except DiskFault DiskNode :=
  during "stat" path ((d.nodeAt path).map (·.2))

/-- Whether something stands at a path. -/
def exists? (d : Disk) (path : String) : Bool :=
  (d.stat path).isOk

def read (d : Disk) (path : String) : Except DiskFault ByteArray :=
  match d.nodeAt path with
  | .error cause => .error ⟨"open", path, cause⟩
  | .ok (_, .directory) => .error ⟨"read", path, .isDirectory⟩
  | .ok (_, .file content) => .ok content

/-- Writes a file, in place of one that stands there. -/
def write (d : Disk) (path : String) (content : ByteArray) : Except DiskFault Disk :=
  during "open" path do
    let place ← d.locate path
    match d.find? place with
    | some .directory => .error .isDirectory
    | _ => .ok (d.put place (.file content))

/-- Writes a file where nothing stands yet. -/
def create (d : Disk) (path : String) (content : ByteArray) : Except DiskFault Disk :=
  during "open" path do
    let place ← d.locate path
    match d.find? place with
    | some _ => .error .exists
    | none => .ok (d.put place (.file content))

/-- Makes a directory. Slashes at the end of its path do not count. -/
def makeDirectory (d : Disk) (path : String) : Except DiskFault Disk :=
  during "mkdir" path do
    let place ← d.locate (String.ofList (Text.trimRightWhile (· == '/') path.toList))
    match d.find? place with
    | some _ => .error .exists
    | none => .ok (d.put place .directory)

/-- The path of the directory around a path; empty if there is none. -/
def parentPath (path : String) : String :=
  let cs := path.toList.reverse.dropWhile (· == '/')
  String.ofList ((cs.dropWhile (· != '/')).dropWhile (· == '/')).reverse

/-- Makes a directory unless it is there. A failure leaves the disk as it is. -/
def ensureDirectory (d : Disk) (path : String) : Except DiskFault Unit × Disk :=
  match d.makeDirectory path with
  | .ok made => (.ok (), made)
  | .error fault =>
      if (d.stat path).toOption = some .directory then (.ok (), d) else (.error fault, d)

/-- Makes a directory and those around it that are missing. What is made before
a failure stays. The fuel is the length of the path. -/
def makeDirectoriesFrom (d : Disk) : Nat → String → Except DiskFault Unit × Disk
  | 0, path => d.ensureDirectory path
  | n + 1, path =>
      match d.stat path with
      | .ok .directory => (.ok (), d)
      | .ok (.file _) => (.error ⟨"mkdir", path, .notDirectory⟩, d)
      | .error _ =>
          let parent := parentPath path
          match if parent.isEmpty then (.ok (), d) else d.makeDirectoriesFrom n parent with
          | (.error fault, made) => (.error fault, made)
          | (.ok (), made) => made.ensureDirectory path

/-- Makes a directory and those around it that are missing. -/
def makeDirectories (d : Disk) (path : String) : Except DiskFault Disk :=
  let (result, made) := d.makeDirectoriesFrom path.length path
  result.map fun () => made

/-- The disk after an attempt to make a directory and those around it, whether
it fails or not. -/
def afterMaking (d : Disk) (path : String) : Disk :=
  (d.makeDirectoriesFrom path.length path).2

/-- Takes away a file or an empty directory. -/
def remove (d : Disk) (path : String) : Except DiskFault Disk :=
  during "remove" path do
    let (place, node) ← d.nodeAt path
    if node = .directory ∧ d.hasBelow place then .error .notEmpty else .ok (d.eraseTree place)

/-- Moves a file. A directory in its way is an error. -/
def rename (d : Disk) (source target : String) : Except DiskFault Disk :=
  during "rename" (source ++ " " ++ target) do
    let (old, node) ← d.nodeAt source
    let new ← d.locate target
    match d.find? new with
    | some .directory => .error .exists
    | _ => .ok ((d.eraseTree old).put new node)

/-- The files and directories below a place, in the order of their names. -/
def below (d : Disk) (place : Place) : List (Place × DiskNode) :=
  (d.nodes.filter fun n => place.isPrefixOf n.1 && n.1 != place).mergeSort fun a b =>
    !decide (b.1 < a.1)

def absolute (d : Disk) (path : String) : String :=
  if SlashPath.isAbsolute path then SlashPath.clean path
  else SlashPath.join [d.workingDirectory, path]

end Disk

end ArchLint
