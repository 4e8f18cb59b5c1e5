import ArchLint.Disk
import ArchLint.Report.Json
import ArchLint.Report.Yaml
import ArchLint.Text.Quoted

namespace ArchLint

inductive ReportFormat where
  | yaml
  | json
  deriving DecidableEq, Repr

namespace ReportFormat

/-- The ending of the name of a report. -/
def extension : ReportFormat → String
  | .yaml => "yaml"
  | .json => "json"

def other : ReportFormat → ReportFormat
  | .yaml => .json
  | .json => .yaml

/-- The format that a name asks for, in any case and with blanks around it.
Without a name it is YAML. -/
def ofName? (name : String) : Option ReportFormat :=
  match Text.lowerForAscii (Text.trimBlank name) with
  | "" => some .yaml
  | "yaml" => some .yaml
  | "yml" => some .yaml
  | "json" => some .json
  | _ => none

end ReportFormat

/-- Why a report cannot be saved. -/
inductive SaveFault where
  | unsupportedFormat (name : String)
  | notEncodable (number : Number.Binary64)
  | createDirectory (fault : DiskFault)
  | removeStale (fault : DiskFault)
  | writeReport (fault : DiskFault)
  deriving DecidableEq, Repr

/-- The message of a report that cannot be saved. -/
def SaveFault.message : SaveFault → String
  | .unsupportedFormat name => "unsupported report format " ++ Text.quote name
  | .notEncodable number =>
      "encode report: json: unsupported value: " ++ Number.plainFormat.write number
  | .createDirectory fault => "create report directory: " ++ fault.message
  | .removeStale fault => "remove stale report: " ++ fault.message
  | .writeReport fault => "write report: " ++ fault.message

/-- The fault of the disk behind a report that cannot be saved. -/
def SaveFault.diskFault? : SaveFault → Option DiskFault
  | .createDirectory fault => some fault
  | .removeStale fault => some fault
  | .writeReport fault => some fault
  | _ => none

/-- Why a report cannot be loaded. -/
inductive LoadFault where
  | notFound (path : String)
  | stat (fault : DiskFault)
  | read (fault : DiskFault)
  | decode (file : String)
  deriving DecidableEq, Repr

def LoadFault.message : LoadFault → String
  | .notFound path => "report not found: " ++ path
  | .stat fault => "stat report: " ++ fault.message
  | .read fault => "read report: " ++ fault.message
  | .decode file => "decode report " ++ file

/-- The fault of the disk behind a report that cannot be loaded. -/
def LoadFault.diskFault? : LoadFault → Option DiskFault
  | .stat fault => some fault
  | .read fault => some fault
  | _ => none

namespace ReportStore

def fileIn (directory : String) (format : ReportFormat) : String :=
  SlashPath.join [directory, "report." ++ format.extension]

/-- The numbers of the entry of a module. -/
def numbersOf (m : ModuleReport) : List Number.Binary64 :=
  [m.metrics.abstractness, m.metrics.instability, m.metrics.distance, m.metrics.distanceOverage,
    m.metrics.primitiveness] ++ m.maxDistance.toList

/-- The text of a report in a format. JSON has no infinite numbers. -/
def encode (report : Report) : ReportFormat → Except SaveFault String
  | .yaml => .ok report.yamlText
  | .json =>
      match (report.entries.flatMap numbersOf).find? fun x => !x.isFinite with
      | some number => .error (.notEncodable number)
      | none => .ok report.jsonText

/-- Takes a report in the other format away, if there is one. -/
def removeStale (disk : Disk) (directory : String) (format : ReportFormat) :
    Except SaveFault Disk :=
  match disk.remove (fileIn directory format.other) with
  | .ok disk => .ok disk
  | .error fault => if fault.cause = .notExist then .ok disk else .error (.removeStale fault)

/-- Writes the text of a report into a directory that exists. -/
def place (disk : Disk) (directory text : String) (format : ReportFormat) :
    Except SaveFault String × Disk :=
  match removeStale disk directory format with
  | .error fault => (.error fault, disk)
  | .ok cleared =>
      let path := fileIn directory format
      match cleared.write path (Text.toBytes text) with
      | .error fault => (.error (.writeReport fault), cleared)
      | .ok written => (.ok path, written)

/-- Saves a report in a directory, which is made if it is missing. The result
is the path of the file, and the disk afterwards. -/
def save (disk : Disk) (directory : String) (report : Report) (formatName : String) :
    Except SaveFault String × Disk :=
  match ReportFormat.ofName? formatName with
  | none => (.error (.unsupportedFormat formatName), disk)
  | some format =>
      match encode report format, disk.makeDirectories directory with
      | .error fault, _ => (.error fault, disk)
      | .ok _, .error fault =>
          (.error (.createDirectory fault), disk.afterMaking directory)
      | .ok text, .ok made => place made directory text format

/-- The file that holds a report: the path itself, or the first report of a
directory, YAML before JSON. -/
def fileOf (disk : Disk) (path : String) : Except LoadFault String :=
  match disk.stat path with
  | .error fault =>
      .error (if fault.cause = .notExist then .notFound path else .stat fault)
  | .ok (.file _) => .ok path
  | .ok .directory =>
      match [ReportFormat.yaml, .json].find? fun f => disk.exists? (fileIn path f) with
      | some format => .ok (fileIn path format)
      | none => .error (.notFound path)

/-- Reads the content of a report. The name of its file tells the format. -/
def decode? (file : String) (content : ByteArray) : Option Report :=
  if Text.equalUpToCase (SlashPath.extension file) ".json" then
    Report.ofJsonText? (Text.ofBytes content)
  else (Text.ofBytes? content).bind Report.ofYamlText?

/-- Loads the report of a directory or a file. -/
def load (disk : Disk) (path : String) : Except LoadFault Report := do
  let file ← fileOf disk path
  let content ← (disk.read file).mapError .read
  match decode? file content with
  | some report => .ok report
  | none => .error (.decode file)

end ReportStore

end ArchLint
