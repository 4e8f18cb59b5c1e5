import ArchLint.Analysis
import ArchLint.ImportPath
import ArchLint.ScanCache
import ArchLint.Source.Units
import ArchLint.SourceFiles

namespace ArchLint

/-- A scanned file with the import path of its package. -/
structure ScannedSource where
  file : SourceFile
  package : String
  units : List UnitSpec
  deriving DecidableEq, Repr

/-- What a scan finds: the project, its files that could be scanned, how many
of them the cache knew, and how many files were skipped. -/
structure ScanResult where
  root : String
  modulePath : String
  sources : List ScannedSource := []
  cached : Nat := 0
  skipped : Nat := 0
  deriving DecidableEq, Repr

inductive ScanFault where
  | noProject (start : String)
  | modulePath (fault : ModulePathFault)
  | listing (fault : ListingFault)
  | noSources
  deriving DecidableEq, Repr

def ScanFault.message : ScanFault → String
  | .noProject start => "find project root: " ++ Disk.noProjectMessage start
  | .modulePath fault => "module path: " ++ fault.message
  | .listing fault => "get sources: " ++ fault.message
  | .noSources => "no Go sources found"

/-- The fault of the disk behind a scan that fails. -/
def ScanFault.diskFault? : ScanFault → Option DiskFault
  | .modulePath fault => fault.diskFault?
  | .listing fault => fault.diskFault?
  | _ => none

namespace Scan

/-- Units that were found in a file of the same content, moved to another
file. Units without a file stay without. -/
def relocate (path : String) (units : List UnitSpec) : List UnitSpec :=
  units.map fun u => if u.file.isEmpty then u else { u with file := path }

/-- Scans one file: its units, if it is well formed, and whether the cache knew
them. -/
def scanFile (disk : Disk) (tags : List DocTag) (modulePath : String) (cache : ScanCache)
    (file : SourceFile) : Option (ScannedSource × Bool) × ScanCache :=
  let package := ImportPath.ofFile modulePath file.shortPath
  let key := ScanCache.keyOf file.hash package
  match cache.get key with
  | (some units, cache) =>
      (some (⟨file, package, relocate file.shortPath units⟩, true), cache)
  | (none, cache) =>
      let content := (disk.read file.fullPath).toOption.getD ByteArray.empty
      match Source.unitsOfBytes? tags file.shortPath package content with
      | some units => (some (⟨file, package, units⟩, false), cache.put key units)
      | none => (none, cache)

def scanFiles (disk : Disk) (tags : List DocTag) (modulePath : String) :
    ScanCache → List SourceFile → List (Option (ScannedSource × Bool)) × ScanCache
  | cache, [] => ([], cache)
  | cache, file :: rest =>
      let (first, cache) := scanFile disk tags modulePath cache file
      let (more, cache) := scanFiles disk tags modulePath cache rest
      (first :: more, cache)

/-- The files that a scan has to look at, with the project they belong to. -/
def select (disk : Disk) (start : String) (selection : Selection) (cancelled : Bool) :
    Except ScanFault (String × String × List SourceFile) := do
  match disk.projectRoot? start with
  | none => .error (.noProject start)
  | some root =>
      let modulePath ← (disk.modulePath root).mapError .modulePath
      let files ← (SourceFiles.list disk root selection cancelled).mapError .listing
      if files.isEmpty then .error .noSources else .ok (root, modulePath, files)

/-- Scans the project that a path belongs to. -/
def run (disk : Disk) (tags : List DocTag) (cache : ScanCache) (start : String)
    (selection : Selection) (cancelled : Bool) : Except ScanFault ScanResult × ScanCache :=
  match select disk start selection cancelled with
  | .error fault => (.error fault, cache)
  | .ok (root, modulePath, files) =>
      let (outcomes, cache) := scanFiles disk tags modulePath cache files
      let found := outcomes.filterMap id
      (.ok
        { root, modulePath
          sources := found.map (·.1)
          cached := (found.filter (·.2)).length
          skipped := outcomes.length - found.length }, cache)

end Scan

/-- What an analysis sees of a scanned file. -/
def ScannedSource.forAnalysis (s : ScannedSource) : ScannedFile :=
  { path := some s.file.shortPath, units := s.units }

end ArchLint
