import ArchLint.Command.Basic

namespace ArchLint.Command

open ArchLint.Text

/-- The line that shows how to call a command. The script for one shell is
called without flags. -/
def useLine (c : Command) : String :=
  c.path ++ c.parameters ++ (if c = .script .bash then "" else " [flags]")

/-- The least width of the column of command names. -/
def nameColumn : Nat :=
  11

/-- The line about a command in a list of commands. -/
def listLine (c : Command) : String :=
  "  " ++ c.name ++ blanks (nameColumn - c.name.length) ++ " " ++ c.summary

/-- The flags that are listed as a command's own. The root has the global flags
for its own. -/
def listedFlags (c : Command) (withHelp : Bool) : List Flag :=
  c.ownFlags ++ (if c = .root then globalFlags else []) ++ (if withHelp then [c.helpFlag] else [])

/-- The usage of a command, with its flag for help if it is known. -/
def usage (c : Command) (withHelp : Bool) : String :=
  let children := c.children.mergeSort fun a b => byteLe a.name b.name
  let flags := c.listedFlags withHelp
  let calls := (if c.isRunnable then ["  " ++ c.useLine] else []) ++
    (if children.isEmpty then [] else ["  " ++ c.path ++ " [command]"])
  let commandLines :=
    if children.isEmpty then [] else ["", "Available Commands:"] ++ children.map listLine
  let flagLines := if flags.isEmpty then [] else ["", "Flags:"] ++ Flag.usageLines flags
  let globalLines :=
    if c = .root then [] else ["", "Global Flags:"] ++ Flag.usageLines globalFlags
  let closing :=
    if children.isEmpty then []
    else ["", "Use \"" ++ c.path ++ " [command] --help\" for more information about a command."]
  joinWith "\n" (["Usage:"] ++ calls ++ commandLines ++ flagLines ++ globalLines ++ closing) ++ "\n"

def helpText (c : Command) : String :=
  joinWith "\n" c.description ++ "\n\n" ++ c.usage true

end ArchLint.Command
