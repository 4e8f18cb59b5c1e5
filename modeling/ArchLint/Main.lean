import ArchLint.Program

namespace ArchLint.Main

/-- The names that lead to a path from the top. -/
def placeOf (path : String) : Place :=
  (SlashPath.segments path).filter (· != "")

/-- Adds the directories around a place. -/
def withParents (disk : Disk) (place : Place) : Disk :=
  (List.range place.length).foldl
    (fun disk n => if n = 0 then disk else disk.put (place.take n) .directory) disk

/-- Adds the file or directory at a path and everything below it. -/
partial def snapshot (disk : Disk) (path : String) : IO Disk := do
  let here := (← IO.currentDir) / path
  if ← here.isDir then
    let mut disk := disk.put (placeOf path) .directory
    for entry in ← here.readDir do
      disk ← snapshot disk (path ++ "/" ++ entry.fileName)
    return disk
  else
    try
      return disk.put (placeOf path) (.file (← IO.FS.readBinFile here))
    catch _ => return disk

/-- The directory of the project around a path, or the path itself. -/
partial def projectAround (path current : String) : IO String := do
  let here := (← IO.currentDir) / current
  if ← (here / Disk.moduleFileName).pathExists then return current
  let parent := SlashPath.dir current
  if parent == current then return path
  projectAround path parent

/-- The paths that arguments may name. -/
def pathsIn (arguments : List String) : List String :=
  arguments.flatMap fun argument =>
    argument :: ((Text.splitAt '=' argument).drop 1)

/-- Reads everything that a call can see. -/
def readDisk (directory : String) (arguments : List String) : IO Disk := do
  let initial : Disk := { workingDirectory := directory }
  let root ← projectAround directory directory
  let mut disk ← snapshot (withParents initial (placeOf root)) root
  for path in pathsIn arguments do
    let absolute := initial.absolute path
    let here := (← IO.currentDir) / absolute
    if !Text.startsWith (absolute ++ "/") (root ++ "/") && (← here.pathExists) then
      disk ← snapshot (withParents disk (placeOf absolute)) absolute
  return disk

def pathOf (place : Place) : String :=
  "/" ++ Text.joinWith "/" place

/-- Writes what is new or different, and removes what is gone. -/
def writeChanges (before after : Disk) : IO Unit := do
  for (place, node) in after.below [] do
    if before.find? place != some node then
      match node with
      | .directory => IO.FS.createDirAll (pathOf place)
      | .file content => IO.FS.writeBinFile (pathOf place) content
  for (place, node) in before.below [] do
    if (after.find? place).isNone then
      if let .file _ := node then IO.FS.removeFile (pathOf place)

/-- The current time, as the file system tells it. -/
def currentTime : IO Timestamp := do
  let (_, path) ← IO.FS.createTempFile
  let time := (← path.metadata).modified
  IO.FS.removeFile path
  return Timestamp.ofSeconds time.sec.toNat time.nsec.toNat

/-- The environment as far as the settings look at it. -/
def readEnvironment : IO (List (String × String)) :=
  Program.variableNames.filterMapM fun name => do
    return (← IO.getEnv name).map fun value => (name, value)

end ArchLint.Main

open ArchLint in
/-- Runs the program on the arguments of the command line. -/
def main (arguments : List String) : IO UInt32 := do
  let directory := (← IO.currentDir).toString
  let disk ← ArchLint.Main.readDisk directory arguments
  let outcome := Program.run
    { arguments
      environment := ← ArchLint.Main.readEnvironment
      disk
      now := ← ArchLint.Main.currentTime
      build := some { version := "(devel)" }
      toolchain := "go1.27" }
  ArchLint.Main.writeChanges disk outcome.disk
  (← IO.getStdout).putStr outcome.output
  (← IO.getStderr).putStr outcome.errors
  return outcome.exitCode.toUInt32
