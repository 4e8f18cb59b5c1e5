import ArchLint.Display
import ArchLint.Log
import ArchLint.ReportStore
import ArchLint.Scan
import ArchLint.Suggestion

/-!
The use cases: to check a project, to list its modules, to view a saved report
and to compare two of them. A run changes the disk, the scan cache and the
display, writes to the log, and what it changed stays when it fails.
-/

namespace ArchLint

structure Session where
  disk : Disk
  cache : ScanCache
  display : Display
  log : Option Log := none

inductive RunFault where
  | cancelled
  | scan (fault : ScanFault)
  | config (faults : List ConfigFault)
  | saveReport (fault : SaveFault)
  /-- The run was cancelled before its result was shown. -/
  | display
  | loadReport (fault : LoadFault)
  /-- One of the two reports of a comparison cannot be loaded. -/
  | loadComparedReport (path : String) (fault : LoadFault)
  | unknownModules (unknown : List Suggestion.UnknownModule)
  | violationsFound (count : Int)

def RunFault.message : RunFault → String
  | .cancelled => cancelledMessage
  | .scan fault => "scan: " ++ fault.message
  | .config faults => Config.message faults
  | .saveReport fault => "save report: " ++ fault.message
  | .display => "display: " ++ cancelledMessage
  | .loadReport fault => "load report: " ++ fault.message
  | .loadComparedReport path fault => "load report " ++ path ++ ": " ++ fault.message
  | .unknownModules unknown => Text.joinWith "\n" (unknown.map (·.message))
  | .violationsFound count => "architecture violations found: " ++ toString count

/-- The failure of the disk behind a failure. -/
def RunFault.diskFault? : RunFault → Option DiskFault
  | .scan fault => fault.diskFault?
  | .saveReport fault => fault.diskFault?
  | .loadReport fault => fault.diskFault?
  | .loadComparedReport _ fault => fault.diskFault?
  | _ => none

/-- The sources of a project and how they are analysed. -/
structure SourceRequest where
  /-- A path in the project. -/
  start : String
  selection : Selection := {}
  threads : Int := 0
  /-- The directory for the report and the scan cache; empty for none. -/
  output : String := ""
  useCache : Bool := false
  config : Config := {}

structure CheckRequest extends SourceRequest where
  format : String := ""
  failOnViolation : Bool := false

abbrev Run := ExceptT RunFault (StateM Session)

namespace Run

/-- Lets the display show something. -/
def onDisplay (fault : RunFault) (f : Display → Except Cancelled Display) : Run Unit := do
  match f (← get).display with
  | .ok display => modify fun s => { s with display }
  | .error _ => throw fault

/-- Tells the display something that it never refuses. -/
def note (f : Display → Display) : Run Unit :=
  modify fun s => { s with display := f s.display }

/-- Writes a message to the log. -/
def record (level : Int) (message : String) : Run Unit :=
  modify fun s =>
    match s.log with
    | some log => { s with disk := log.write s.disk level message }
    | none => s

/-- Whether a request keeps its scan cache. -/
def keepsCache (request : SourceRequest) : Bool :=
  request.useCache && !request.output.isEmpty

/-- Reads the kept scan cache. One that cannot be read is passed over. -/
def loadCache (request : SourceRequest) : Run Unit := do
  if !keepsCache request then return
  let s ← get
  match Spill.readable ScanCache.codec s.disk (ScanCache.fileIn request.output) with
  | .ok (_, true) => record LogLevel.debug "scan cache opened"
  | .ok (_, false) => record LogLevel.warn "truncated scan cache"
  | .error _ => pure ()
  match s.cache.load s.disk request.output with
  | .ok cache => modify fun s => { s with cache }
  | .error fault => record LogLevel.warn ("ignoring unreadable scan cache: " ++ fault.message)

/-- Keeps the scan cache. A failure to do so is passed over. -/
def saveCache (request : SourceRequest) : Run Unit := do
  if !keepsCache request then return
  let s ← get
  let (result, disk) := s.cache.save s.disk request.output
  set { s with disk }
  match result with
  | .ok () => record LogLevel.debug "scan cache saved"
  | .error fault => record LogLevel.warn ("failed to save scan cache: " ++ fault.message)

def scan (request : SourceRequest) : Run ScanResult := do
  let s ← get
  let (result, cache) :=
    Scan.run s.disk DocTag.all s.cache request.start request.selection s.display.cancelled
  set { s with cache }
  match result with
  | .ok result =>
      record LogLevel.debug ("scanning sources of " ++ result.modulePath)
      if 0 < result.skipped then
        record LogLevel.warn ("skipped unparseable files: " ++ toString result.skipped)
      return result
  | .error fault => throw (.scan fault)

/-- Scans the sources and analyses them. -/
def analyze (request : SourceRequest) : Run (ScanResult × Graph) := do
  loadCache request
  let result ← scan request
  note fun d => d.showScanInfo
    { files := result.sources.length + result.skipped
      cached := result.cached
      skipped := result.skipped
      threads := request.threads }
  saveCache request
  match Analysis.build request.config (result.sources.map (·.forAnalysis)) with
  | .ok graph => return (result, graph)
  | .error faults => throw (.config faults)

/-- Saves a report, when there is a directory for it. -/
def saveReport (request : CheckRequest) (report : Report) : Run Unit := do
  if request.output.isEmpty then return
  let s ← get
  let (result, disk) := ReportStore.save s.disk request.output report request.format
  set { s with disk }
  match result with
  | .ok path => note fun d => d.showSaved path
  | .error fault => throw (.saveReport fault)

/-- Checks a project: the report is saved, then shown. -/
def check (now : Timestamp) (request : CheckRequest) : Run Unit := do
  onDisplay .cancelled fun d => d.start [.check]
  let (result, graph) ← analyze request.toSourceRequest
  let report := Report.build graph result.root now
  record LogLevel.info
    ("architecture checked, violations: " ++ toString report.summary.violations)
  saveReport request report
  onDisplay .display fun d => d.showReport report []
  note Display.wait
  if request.failOnViolation && report.failed then
    throw (.violationsFound report.summary.violations)

/-- Lists the modules of a project. -/
def list (request : SourceRequest) : Run Unit := do
  onDisplay .cancelled fun d => d.start [.list]
  let (_, graph) ← analyze request
  onDisplay .display fun d => d.showModules (Report.listing graph)
  note Display.wait

/-- Shows a saved report, restricted to the chosen modules, which it has to
know. -/
def view (path : String) (modules : List String) : Run Unit := do
  match ReportStore.load (← get).disk path with
  | .error fault => throw (.loadReport fault)
  | .ok report =>
      let unknown := Suggestion.unknownModules (report.entries.map (·.name)) modules
      if !unknown.isEmpty then throw (.unknownModules unknown)
      onDisplay .cancelled fun d => d.start [.view]
      onDisplay .display fun d => d.showReport report modules
      note Display.wait

def loadCompared (path : String) : Run Report := do
  match ReportStore.load (← get).disk path with
  | .error fault => throw (.loadComparedReport path fault)
  | .ok report => return report

/-- Compares two saved reports. -/
def diff (sourcePath targetPath : String) : Run Unit := do
  let source ← loadCompared sourcePath
  let target ← loadCompared targetPath
  onDisplay .cancelled fun d => d.start [.diff]
  onDisplay .display fun d => d.showDiff source target sourcePath targetPath
  note Display.wait

/-- Runs a use case in a session. -/
def on (run : Run Unit) (s : Session) : Except RunFault Unit × Session :=
  run.run.run s

end Run

end ArchLint
