import ArchLint.Disk
import ArchLint.Text.Record

namespace ArchLint

open Text (Codec)

/-- A sequence in a file. An open sequence knows how many bytes of its file are
written. -/
structure Spill where
  path : String
  length : Nat := 0
  written : Option Nat := none
  deriving DecidableEq, Repr

/-- Why an operation on a sequence fails. -/
inductive SpillFault where
  | createDirectory (fault : DiskFault)
  | create (fault : DiskFault)
  | openFile (fault : DiskFault)
  | readOnly
  | encode (index : Nat) (reason : String)
  | damaged
  deriving DecidableEq, Repr

/-- The message of a failed operation. -/
def SpillFault.message : SpillFault → String
  | .createDirectory fault => "create spill directory: " ++ fault.message
  | .create fault => "create spill: " ++ fault.message
  | .openFile fault => "open spill: " ++ fault.message
  | .readOnly => "filespill is read-only"
  | .encode index reason => "encode item " ++ toString index ++ ": " ++ reason
  | .damaged => "filespill truncated"

/-- The fault of the disk behind a failed operation. -/
def SpillFault.diskFault? : SpillFault → Option DiskFault
  | .createDirectory fault => some fault
  | .create fault => some fault
  | .openFile fault => some fault
  | _ => none

namespace Spill

/-- Writes bytes at an offset; a gap in front of them is filled with zeros. -/
def patch (content : List UInt8) (offset : Nat) (bytes : List UInt8) : List UInt8 :=
  content.take offset ++ List.replicate (offset - content.length) 0 ++ bytes ++
    content.drop (offset + bytes.length)

/-- Starts an empty sequence, in place of one that is there. -/
def create (disk : Disk) (path : String) : Except SpillFault Spill × Disk :=
  match disk.makeDirectories (SlashPath.dir path) with
  | .error fault => (.error (.createDirectory fault), disk.afterMaking (SlashPath.dir path))
  | .ok made =>
      match made.write path ByteArray.empty with
      | .error fault => (.error (.create fault), made)
      | .ok written => (.ok { path, written := some 0 }, written)

/-- The items of a file that can be read, and whether that is all of it. A
directory holds none. -/
def readable {α : Type} (codec : Codec α) (disk : Disk) (path : String) :
    Except SpillFault (List α × Bool) :=
  match disk.nodeAt path with
  | .error cause => .error (.openFile ⟨"open", path, cause⟩)
  | .ok (_, .directory) => .ok ([], false)
  | .ok (_, .file content) =>
      let chars := (Text.ofBytes content).toList
      let (items, clean) := Text.readItems chars.length chars
      let decoded := items.map codec.decode?
      let intact := (decoded.takeWhile Option.isSome).filterMap id
      .ok (intact, clean && intact.length == items.length)

/-- Opens a sequence for reading. -/
def openFile {α : Type} (codec : Codec α) (disk : Disk) (path : String) :
    Except SpillFault Spill :=
  (readable codec disk path).map fun (items, _) => { path, length := items.length }

/-- Adds an item at the end, unless it is refused. -/
def append {α : Type} (codec : Codec α) (s : Spill) (disk : Disk) (item : α) :
    Except SpillFault (Spill × Disk) :=
  match s.written, codec.refusal? item with
  | none, _ => .error .readOnly
  | some _, some reason => .error (.encode s.length reason)
  | some offset, none =>
      let bytes := (Text.toBytes (String.ofList (Text.writeItem (codec.encode item)))).toList
      let disk := match disk.nodeAt s.path with
        | .ok (place, .file content) =>
            disk.put place (.file (patch content.toList offset bytes).toByteArray)
        | _ => disk
      .ok ({ s with length := s.length + 1, written := some (offset + bytes.length) }, disk)

/-- Adds items one after the other, up to the first failure. -/
def appendAll {α : Type} (codec : Codec α) (s : Spill) (disk : Disk) :
    List α → Except SpillFault Unit × Spill × Disk
  | [] => (.ok (), s, disk)
  | item :: rest =>
      match s.append codec disk item with
      | .error fault => (.error fault, s, disk)
      | .ok (s, disk) => s.appendAll codec disk rest

/-- Visits items in order until a visit fails. The result has the items that
were visited without failure. -/
def visitFrom {α ε : Type} (visit : Nat → α → Option ε) : Nat → List α → List α × Option ε
  | _, [] => ([], none)
  | i, item :: rest =>
      match visit i item with
      | some e => ([], some e)
      | none =>
          let (visited, failure) := visitFrom visit (i + 1) rest
          (item :: visited, failure)

/-- Why a visit of a sequence ends early: the visitor's reason, or a fault of
the sequence. -/
inductive VisitFault (ε : Type) where
  | visitor (reason : ε)
  | spill (fault : SpillFault)

/-- Visits the items of a sequence in order. -/
def range {α ε : Type} (codec : Codec α) (s : Spill) (disk : Disk) (visit : Nat → α → Option ε) :
    List α × Option (VisitFault ε) :=
  match readable codec disk s.path with
  | .error fault => ([], some (.spill fault))
  | .ok (items, clean) =>
      let (visited, failure) := visitFrom visit 0 (items.take s.length)
      match failure with
      | some reason => (visited, some (.visitor reason))
      | none =>
          if clean || decide (s.length ≤ items.length) then (visited, none)
          else (visited, some (.spill .damaged))

/-- Closes a sequence: from then on it can only be read. -/
def close (s : Spill) : Spill :=
  { s with written := none }

end Spill

end ArchLint
