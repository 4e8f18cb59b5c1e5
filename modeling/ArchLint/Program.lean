import ArchLint.Command.Arguments
import ArchLint.Command.Search
import ArchLint.Command.Usage
import ArchLint.Config.FromSettings
import ArchLint.Config.ToYaml
import ArchLint.ModuleFile.Directives
import ArchLint.Settings.EnvironmentFile
import ArchLint.Version
import ArchLint.Workflow

namespace ArchLint

open ArchLint.Text

structure Invocation where
  arguments : List String
  environment : List (String × String) := []
  disk : Disk
  now : Timestamp := {}
  build : Option BuildInfo := none
  /-- The version of the language tools. -/
  toolchain : String := ""

/-- What a call of the program leads to. -/
structure Outcome where
  exitCode : Nat := 0
  output : String := ""
  errors : String := ""
  disk : Disk

/-- Why a command fails. Some failures are followed by the usage of the
command. -/
structure CommandFailure where
  message : String
  showsUsage : Bool := true

namespace Program

def settingsFile : String :=
  "cleanarch.yaml"

def environmentFile : String :=
  ".env"

/-- The newest version of settings files. -/
def settingsVersion : Int :=
  1

/-- Settings that nothing else sets. -/
def defaults : List (SettingKey × Setting) :=
  [(["version"], .int settingsVersion), (["output"], .text ".cleanarch"),
    (["no-cache"], .bool false), (["paths", "exclude"], .list []),
    (["paths", "tests"], .bool false), (["check", "parallel"], .int 0),
    (["check", "format"], .text "yaml"), (["check", "fail_on_violation"], .bool true),
    (["log", "filename"], .text ".cleanarch.log"), (["log", "level"], .text "info"),
    (["log", "verbose"], .bool false), (["log", "max_size"], .int 10),
    (["log", "max_backups"], .int 3), (["log", "max_age"], .int 28),
    (["log", "compress"], .bool true)]

/-- The variables that settings can come from. -/
def variableNames : List String :=
  let keys := ["architecture"] :: defaults.map (·.1)
  distinct ((keys ++ keys.flatMap Settings.parents).map Settings.variableOf)

/-- The table of a settings file, or the reason why there is none. -/
def readSettings (disk : Disk) (path : String) : Except String (List (String × Setting)) :=
  match disk.read path with
  | .error fault => .error fault.message
  | .ok content =>
      match (ofBytes? content).bind Setting.tableOf? with
      | some table => .ok table
      | none => .error "While parsing config: yaml: invalid document"

/-- The variables of the environment and of the environment file. -/
def environmentOf (call : Invocation) : List (String × String) :=
  let vars := ((call.disk.read environmentFile).toOption.bind fun content =>
    EnvironmentFile.ofText? (ofBytes content)).getD []
  EnvironmentFile.addTo call.environment vars

/-- The settings of a call. A settings file that is named has to be there, the
one of the project is optional. -/
def settingsOf (call : Invocation) (given : List GivenFlag) : Except CommandFailure Settings := do
  let named := ((GivenFlag.last? given "config").elim "" (·.asText))
  let file ←
    if (trimBlank named).isEmpty then
      .ok ((readSettings call.disk settingsFile).toOption.getD [])
    else
      (readSettings call.disk named).mapError fun reason =>
        { message := "read config " ++ named ++ ": " ++ reason }
  .ok
    { flags := GivenFlag.settings given
      environment := environmentOf call
      file
      defaults }

/-- The log that the settings ask for. -/
def logOf (settings : Settings) : Except CommandFailure Log :=
  let path := (settings.get ["log", "filename"]).asText
  if (trimBlank path).isEmpty then .error { message := "empty log path" }
  else
    .ok
      { path
        threshold :=
          if (settings.get ["log", "verbose"]).asBool then LogLevel.debug
          else LogLevel.ofText (settings.get ["log", "level"]).asText LogLevel.info }

/-- The lead of messages about the architecture. -/
def configLead : String :=
  "invalid architecture config: "

/-- The architecture that the settings describe. -/
def architectureOf (settings : Settings) : Except CommandFailure Config := do
  let config ← (Config.ofSetting (settings.get ["architecture"])).mapError fun faults =>
    { message := configLead ++ SettingFault.messageOf faults }
  let version := (settings.get ["version"]).asInt
  if settingsVersion < version then
    .error { message := configLead ++ "unsupported config version " ++ toString version }
  else if !config.faults.isEmpty then .error { message := Config.message config.faults }
  else .ok config

/-- The sources that a command works on. -/
def sourcesOf (settings : Settings) (paths : List String) : Except CommandFailure SourceRequest := do
  let config ← architectureOf settings
  .ok
    { start := "."
      selection :=
        { paths
          exclude := (settings.get ["paths", "exclude"]).asTexts
          includeTests := (settings.get ["paths", "tests"]).asBool }
      threads := (settings.get ["check", "parallel"]).asInt
      output := (settings.get ["output"]).asText
      useCache := !(settings.get ["no-cache"]).asBool
      config }

/-- Runs a use case in a session of its own. -/
def useCase (call : Invocation) (log : Log) (showsUsage : Bool) (run : Run Unit) :
    Except CommandFailure Unit × Outcome :=
  let session : Session :=
    { disk := call.disk, cache := ScanCache.ofSize 0, display := {}, log := some log }
  let (result, after) := run.on session
  (result.mapError fun fault => { message := fault.message, showsUsage },
    { output := after.display.printed, disk := after.disk })

/-- Warns about an architecture without modules. -/
def warnIfEmpty (config : Config) : Run Unit := do
  if config.modules.isEmpty then
    Run.record LogLevel.warn
      "no modules configured, every unit falls into the undefined module"

/-- The text of a new settings file. -/
def initialSettings (settings : Settings) (architecture : Config) : String :=
  let text (key : SettingKey) : Yaml.Node := .ofText (settings.get key).asText
  let truth (key : SettingKey) : Yaml.Node := .ofBool (settings.get key).asBool
  let number (key : SettingKey) : Yaml.Node := .ofInt (settings.get key).asInt
  Yaml.Node.document (.ofEntries
    [("architecture", architecture.toYaml),
      ("check", .ofEntries
        [("fail_on_violation", truth ["check", "fail_on_violation"]),
          ("format", text ["check", "format"]), ("parallel", number ["check", "parallel"])]),
      ("log", .ofEntries
        [("compress", truth ["log", "compress"]), ("filename", text ["log", "filename"]),
          ("level", text ["log", "level"]), ("max_age", number ["log", "max_age"]),
          ("max_backups", number ["log", "max_backups"]),
          ("max_size", number ["log", "max_size"])]),
      ("no-cache", truth ["no-cache"]), ("output", text ["output"]),
      ("paths", .ofEntries
        [("exclude", .ofTexts (settings.get ["paths", "exclude"]).asTexts),
          ("tests", truth ["paths", "tests"])]),
      ("version", .ofInt settingsVersion)])

/-- Writes a new settings file, with a module for the project that the working
directory declares. -/
def writeInitialSettings (call : Invocation) (settings : Settings) (log : Log) :
    Except CommandFailure Unit × Outcome :=
  let declared := (call.disk.modulePath ".").toOption
  let text := initialSettings settings (Config.initial.withProject (declared.getD ""))
  match call.disk.create settingsFile (toBytes text) with
  | .error fault =>
      (.error { message := "failed to write config file: " ++ fault.message }, { disk := call.disk })
  | .ok disk =>
      let disk :=
        if declared.isSome then disk
        else log.write disk LogLevel.debug "no module file for the project module"
      (.ok (), { errors := "Wrote " ++ settingsFile ++ "\n", disk })

/-- The lines about the version of the program. -/
def versionText (call : Invocation) : String :=
  let (version, revision) := BuildInfo.versionAndRevision call.build
  if version = BuildInfo.unknownVersion then "version: unknown\n"
  else
    "cleanarch version\t " ++ version ++ "\n" ++
      (if revision.isEmpty then "" else "revision\t " ++ revision ++ "\n") ++
      "go version\t " ++ call.toolchain ++ "\n"

/-- A text in grave accents, or in double quotes if these cannot hold it. -/
def graveQuoted (s : String) : String :=
  if s.toList.any fun c => (c < ' ' && c != '\t') || c == '\x60' || c == '\x7f' || c == '\ufeff' then
    quote s
  else "\x60" ++ s ++ "\x60"

/-- The help on the command that arguments name. -/
def helpOn (call : Invocation) (arguments : List String) : Outcome :=
  match Command.find arguments with
  | .ok (c, _) => { output := c.helpText, disk := call.disk }
  | .error _ =>
      { errors := "Unknown help topic [" ++ joinWith " " (arguments.map graveQuoted) ++ "]\n" ++
          Command.root.usage false
        disk := call.disk }

def perform (call : Invocation) (c : Command) (arguments : Arguments) (settings : Settings)
    (log : Log) : Except CommandFailure Unit × Outcome :=
  let unchanged : Outcome := { disk := call.disk }
  match c with
  | .root => (.ok (), { output := c.helpText, disk := call.disk })
  | .check =>
      match sourcesOf settings arguments.values with
      | .error failure => (.error failure, unchanged)
      | .ok sources =>
          useCase call log false do
            warnIfEmpty sources.config
            Run.check call.now
              { sources with
                format := (settings.get ["check", "format"]).asText
                failOnViolation := (settings.get ["check", "fail_on_violation"]).asBool }
  | .list =>
      match sourcesOf settings arguments.values with
      | .error failure => (.error failure, unchanged)
      | .ok sources =>
          useCase call log true do
            warnIfEmpty sources.config
            Run.list sources
  | .view =>
      let report := arguments.values.head?.getD (settings.get ["output"]).asText
      useCase call log true (Run.view report (GivenFlag.all arguments.flags "module"))
  | .diff =>
      useCase call log true
        (Run.diff ((arguments.values[0]?).getD "") ((arguments.values[1]?).getD ""))
  | .init => writeInitialSettings call settings log
  | .version => (.ok (), { errors := versionText call, disk := call.disk })
  | .help => (.ok (), helpOn call arguments.values)
  | .completion => (.ok (), { output := c.helpText, disk := call.disk })
  | .script _ => (.ok (), unchanged)

/-- Runs a command whose arguments are read. -/
def runCommand (call : Invocation) (c : Command) (arguments : Arguments) :
    Except CommandFailure Unit × Outcome :=
  let unchanged : Outcome := { disk := call.disk }
  if ((GivenFlag.last? arguments.flags "help").elim false (·.asBool)) || !c.isRunnable then
    (.ok (), { output := c.helpText, disk := call.disk })
  else
    match c.argumentFault? arguments.values with
    | some message => (.error { message }, unchanged)
    | none =>
        match settingsOf call arguments.flags with
        | .error failure => (.error failure, unchanged)
        | .ok settings =>
            match logOf settings with
            | .error failure => (.error failure, unchanged)
            | .ok log => perform call c arguments settings log

/-- The outcome after a failure of a command is reported. -/
def report (c : Command) : Except CommandFailure Unit × Outcome → Outcome
  | (.ok (), outcome) => outcome
  | (.error failure, outcome) =>
      { outcome with
        exitCode := 1
        errors := outcome.errors ++ "Error: " ++ failure.message ++ "\n" ++
          (if failure.showsUsage then c.usage true ++ "\n" else "") }

def run (call : Invocation) : Outcome :=
  match Command.find call.arguments with
  | .error message =>
      { exitCode := 1
        errors := "Error: " ++ message ++ "\n" ++ "Run 'cleanarch --help' for usage.\n"
        disk := call.disk }
  | .ok (c, rest) =>
      report c <|
        match Arguments.read c rest with
        | .error fault => (.error { message := fault.message }, { disk := call.disk })
        | .ok arguments => runCommand call c arguments

end Program

end ArchLint
