import ArchLint.Command.Flag

namespace ArchLint

/-- Shells with completion of commands. -/
inductive Shell where
  | bash
  | fish
  | powershell
  | zsh
  deriving DecidableEq, Repr

def Shell.name : Shell → String
  | .bash => "bash"
  | .fish => "fish"
  | .powershell => "powershell"
  | .zsh => "zsh"

inductive Command where
  | root
  | check
  | diff
  | init
  | list
  | version
  | view
  | help
  | completion
  | script (shell : Shell)
  deriving DecidableEq, Repr

/-- How many arguments a command takes. -/
inductive ArgumentRule where
  | any
  | none
  | atMost (n : Nat)
  | exactly (n : Nat)
  deriving DecidableEq, Repr

namespace Command

def programName : String :=
  "cleanarch"

def name : Command → String
  | .root => programName
  | .check => "check"
  | .diff => "diff"
  | .init => "init"
  | .list => "list"
  | .version => "version"
  | .view => "view"
  | .help => "help"
  | .completion => "completion"
  | .script shell => shell.name

/-- The commands below a command, in the order in which they are looked for. -/
def children : Command → List Command
  | .root => [.check, .diff, .init, .list, .version, .view, .help, .completion]
  | .completion => [.script .bash, .script .fish, .script .powershell, .script .zsh]
  | _ => []

/-- The names that lead to a command. -/
def path : Command → String
  | .root => programName
  | .script shell => programName ++ " completion " ++ shell.name
  | c => programName ++ " " ++ c.name

/-- The words behind the name of a command in its usage line. -/
def parameters : Command → String
  | .check => " [paths...]"
  | .list => " [paths...]"
  | .view => " [report]"
  | .diff => " <old> <new>"
  | .help => " [command]"
  | _ => ""

/-- Whether a command does something by itself. -/
def isRunnable (c : Command) : Bool :=
  c ≠ .completion

/-- The arguments that a command takes. -/
def argumentRule : Command → ArgumentRule
  | .diff => .exactly 2
  | .view => .atMost 1
  | .completion => .none
  | .script _ => .none
  | _ => .any

/-- Flags that every command has. -/
def globalFlags : List Flag :=
  [{ name := "config", kind := .text "",
     description := "config file (default ./cleanarch.yaml)" },
   { name := "output", shorthand := some 'o', kind := .text ".cleanarch",
     description := "output directory for reports and the scan cache", key := some ["output"] },
   { name := "no-cache", kind := .switch false,
     description := "disable the scan cache (re-parse every file)", key := some ["no-cache"] },
   { name := "exclude", shorthand := some 'x', kind := .texts,
     description := "exclude files matching regex (can be repeated)",
     key := some ["paths", "exclude"] },
   { name := "verbose", shorthand := some 'v', kind := .switch false,
     description := "log at debug level", key := some ["log", "verbose"] },
   { name := "log-file", kind := .text ".cleanarch.log",
     description := "log file path", key := some ["log", "filename"] }]

/-- The flags that only one command has, the flag for help apart. -/
def ownFlags : Command → List Flag
  | .check =>
      [{ name := "parallel", shorthand := some 'p', kind := .number 0,
         description := "number of parallel workers parsing files (0: one per CPU)",
         key := some ["check", "parallel"] },
       { name := "format", kind := .text "yaml",
         description := "report format: yaml or json", key := some ["check", "format"] },
       { name := "fail-on-violation", kind := .switch true,
         description := "exit with an error when a violation is found",
         key := some ["check", "fail_on_violation"] },
       { name := "tests", kind := .switch false,
         description := "scan _test.go files too", key := some ["paths", "tests"] }]
  | .view =>
      [{ name := "module", shorthand := some 'm', kind := .texts,
         description := "only show the named module (can be repeated)" }]
  | .script _ =>
      [{ name := "no-descriptions", kind := .switch false,
         description := "disable completion descriptions" }]
  | _ => []

/-- The flag that asks for the help of a command. -/
def helpFlag (c : Command) : Flag :=
  { name := "help", shorthand := some 'h', kind := .switch false,
    description := "help for " ++ c.name }

/-- The flags that are known when commands are looked for. -/
def knownFlags (c : Command) : List Flag :=
  c.ownFlags ++ globalFlags

/-- The one-line description of a command. -/
def summary : Command → String
  | .root => "Go architecture linter"
  | .check => "Check the architecture of a Go module"
  | .diff => "Compare two saved architecture reports"
  | .init => "Generate a default cleanarch.yaml configuration file"
  | .list => "List modules and their unit counts"
  | .version => "Show the version information"
  | .view => "View a previously saved architecture report"
  | .help => "Help about any command"
  | .completion => "Generate the autocompletion script for the specified shell"
  | .script shell => "Generate the autocompletion script for " ++ shell.name

def pathPatterns : List String :=
  ["Supports Go-style path patterns:",
    "  - ./...          recursively scan current directory",
    "  - ./pkg/...      recursively scan pkg directory",
    "  - ./cmd ./pkg    scan multiple directories"]

/-- The lines on how to load the completions of a shell. -/
def shellDescription : Shell → List String
  | .bash =>
      ["Generate the autocompletion script for the bash shell.", "",
        "This script depends on the 'bash-completion' package.",
        "If it is not installed already, you can install it via your OS's package manager.", "",
        "To load completions in your current shell session:", "",
        "\tsource <(cleanarch completion bash)", "",
        "To load completions for every new session, execute once:", "",
        "#### Linux:", "",
        "\tcleanarch completion bash > /etc/bash_completion.d/cleanarch", "",
        "#### macOS:", "",
        "\tcleanarch completion bash > $(brew --prefix)/etc/bash_completion.d/cleanarch", "",
        "You will need to start a new shell for this setup to take effect."]
  | .fish =>
      ["Generate the autocompletion script for the fish shell.", "",
        "To load completions in your current shell session:", "",
        "\tcleanarch completion fish | source", "",
        "To load completions for every new session, execute once:", "",
        "\tcleanarch completion fish > ~/.config/fish/completions/cleanarch.fish", "",
        "You will need to start a new shell for this setup to take effect."]
  | .powershell =>
      ["Generate the autocompletion script for powershell.", "",
        "To load completions in your current shell session:", "",
        "\tcleanarch completion powershell | Out-String | Invoke-Expression", "",
        "To load completions for every new session, add the output of the above command",
        "to your powershell profile."]
  | .zsh =>
      ["Generate the autocompletion script for the zsh shell.", "",
        "If shell completion is not already enabled in your environment you will need",
        "to enable it.  You can execute the following once:", "",
        "\techo \"autoload -U compinit; compinit\" >> ~/.zshrc", "",
        "To load completions in your current shell session:", "",
        "\tsource <(cleanarch completion zsh)", "",
        "To load completions for every new session, execute once:", "",
        "#### Linux:", "",
        "\tcleanarch completion zsh > \"$\x7bfpath[1]\x7d/_cleanarch\"", "",
        "#### macOS:", "",
        "\tcleanarch completion zsh > $(brew --prefix)/share/zsh/site-functions/_cleanarch", "",
        "You will need to start a new shell for this setup to take effect."]

/-- The lines of the description of a command. -/
def description : Command → List String
  | .root =>
      ["Cleanarch checks the architecture of a Go module. Every top-level",
        "declaration becomes a unit of code, units are grouped into the modules",
        "declared in cleanarch.yaml, and each module is checked against its",
        "dependency rules, visibility rules, cycles and main-sequence distance.", ""] ++
        pathPatterns
  | .check =>
      ["Check the architecture of the given paths (default: current module).", "",
        "The report is saved to the output directory and printed. The command fails",
        "when a violation is found unless --fail-on-violation=false is given.", ""] ++
        pathPatterns
  | .list =>
      ["List the configured modules with the number of units they hold.", ""] ++ pathPatterns
  | .diff =>
      ["Show a unified diff between the text renderings of two saved reports.",
        "Each argument is a report file or a directory holding one."]
  | .init =>
      ["Create a cleanarch.yaml in the current working directory populated with the",
        "current CLI defaults and a starter architecture so it can be edited manually."]
  | .version =>
      ["Displays the cleanarch build version, its revision and the Go version used to build it."]
  | .view =>
      ["View a saved architecture report. The report is read from the given file or",
        "directory, or from the output directory when no argument is given."]
  | .help =>
      ["Help provides help for any command in the application.",
        "Simply type cleanarch help [path to command] for full details."]
  | .completion =>
      ["Generate the autocompletion script for cleanarch for the specified shell.",
        "See each sub-command's help for details on how to use the generated script."]
  | .script shell => shellDescription shell

end Command

end ArchLint
