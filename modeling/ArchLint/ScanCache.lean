import ArchLint.CodeUnit
import ArchLint.RecentCache
import ArchLint.Spill

namespace ArchLint

open Text (Codec)

/-- Cached units, and the keys that were used since the cache was made. A cache
that is switched off keeps nothing. -/
structure ScanCache where
  enabled : Bool := true
  units : RecentCache (List UnitSpec)
  used : List String := []

/-- Why a cache cannot be loaded or saved. -/
inductive ScanCacheFault where
  | openFile (fault : SpillFault)
  | read (fault : SpillFault)
  | create (fault : SpillFault)
  | write (fault : SpillFault)
  | replace (fault : DiskFault)
  deriving DecidableEq, Repr

/-- The message of a cache that cannot be loaded or saved. -/
def ScanCacheFault.message : ScanCacheFault → String
  | .openFile fault => "open scan cache: " ++ fault.message
  | .read fault => "read scan cache: " ++ fault.message
  | .create fault => "create scan cache: " ++ fault.message
  | .write fault => "write scan cache: " ++ fault.message
  | .replace fault => "replace scan cache: " ++ fault.message

/-- The fault of the disk behind a cache that cannot be loaded or saved. -/
def ScanCacheFault.diskFault? : ScanCacheFault → Option DiskFault
  | .openFile fault => fault.diskFault?
  | .read fault => fault.diskFault?
  | .create fault => fault.diskFault?
  | .write fault => fault.diskFault?
  | .replace fault => some fault

def abstractWord : Option Bool → String
  | none => "unknown"
  | some false => "concrete"
  | some true => "abstract"

/-- Reads whether a unit is abstract. -/
def ofAbstractWord? (word : String) : Option (Option Bool) :=
  if word = "unknown" then some none
  else if word = "concrete" then some (some false)
  else if word = "abstract" then some (some true)
  else none

def UnitSpec.codec : Codec UnitSpec where
  encode u :=
    [u.scope, u.name, u.short, u.file, u.kind.text, abstractWord u.isAbstract,
      if u.exported then "exported" else "hidden"] ++ u.references
  decode? fields :=
    match fields with
    | scope :: name :: short :: file :: kind :: abstractness :: visibility :: references =>
        (ofAbstractWord? abstractness).map fun isAbstract =>
          { scope, name, short, file, kind := .ofText kind, isAbstract
            exported := visibility == "exported", references }
    | _ => none

/-- The entry of a key as fields. -/
def ScanCache.codec : Codec (String × List UnitSpec) where
  encode e := e.1 :: e.2.map fun u => Text.joinFields (UnitSpec.codec.encode u)
  decode? fields :=
    match fields with
    | key :: units =>
        (units.mapM fun u => (Text.readFields? u).bind UnitSpec.codec.decode?).map fun units =>
          (key, units)
    | [] => none

namespace ScanCache

/-- The number of files that are kept if no other number is asked for. -/
def defaultCapacity : Nat :=
  65536

/-- An empty cache of a size; sizes that are not positive mean the default. -/
def ofSize (size : Int) : ScanCache :=
  { units := { capacity := if size ≤ 0 then defaultCapacity else size.toNat } }

def off : ScanCache :=
  { enabled := false, units := { capacity := 0 } }

def keyOf (hash importPath : String) : String :=
  hash ++ "@" ++ importPath

def markUsed (c : ScanCache) (key : String) : ScanCache :=
  if c.used.elem key then c else { c with used := key :: c.used }

/-- The units of a key, which is used thereby. -/
def get (c : ScanCache) (key : String) : Option (List UnitSpec) × ScanCache :=
  match c.units.peek? key with
  | some units => (some units, { c with units := c.units.touch key }.markUsed key)
  | none => (none, c)

/-- Stores the units of a key. -/
def put (c : ScanCache) (key : String) (units : List UnitSpec) : ScanCache :=
  if c.enabled then { c with units := c.units.put key units }.markUsed key else c

def fileIn (directory : String) : String :=
  SlashPath.join [directory, "scan-cache.gob"]

/-- Adds the entries that a directory keeps. A missing file is no fault. -/
def load (c : ScanCache) (disk : Disk) (directory : String) : Except ScanCacheFault ScanCache :=
  if !c.enabled then .ok c
  else
    match Spill.readable codec disk (fileIn directory) with
    | .error fault =>
        if fault.diskFault?.any (·.cause = .notExist) then .ok c else .error (.openFile fault)
    | .ok (entries, _) =>
        .ok { c with units := entries.foldl (fun units e => units.put e.1 e.2) c.units }

/-- The entries that are used and still there, in the order of their keys. -/
def usedEntries (c : ScanCache) : List (String × List UnitSpec) :=
  (c.used.mergeSort Text.byteLe).filterMap fun key =>
    (c.units.peek? key).map fun units => (key, units)

/-- Keeps the used entries in a directory. They are written to a file of their
own first, which then takes the place of the old one. -/
def save (c : ScanCache) (disk : Disk) (directory : String) : Except ScanCacheFault Unit × Disk :=
  if !c.enabled then (.ok (), disk)
  else
    let path := fileIn directory
    let temporary := path ++ ".tmp"
    match Spill.create disk temporary with
    | (.error fault, disk) => (.error (.create fault), disk)
    | (.ok spill, disk) =>
        match spill.appendAll codec disk c.usedEntries with
        | (.error fault, _, disk) => (.error (.write fault), disk)
        | (.ok (), _, disk) =>
            match disk.rename temporary path with
            | .error fault => (.error (.replace fault), disk)
            | .ok disk => (.ok (), disk)

end ScanCache

end ArchLint
