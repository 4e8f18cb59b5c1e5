import ArchLint.Pager
import ArchLint.Rendering

namespace ArchLint

open ArchLint.Text

inductive RunMode where
  | check
  | list
  | view
  | diff
  deriving DecidableEq, Repr, Inhabited

def RunMode.title : RunMode → String
  | .check => "Architecture check"
  | .list => "Modules"
  | .view => "Saved report"
  | .diff => "Report diff"

structure ScanInfo where
  files : Int := 0
  cached : Int := 0
  skipped : Int := 0
  threads : Int := 0
  deriving DecidableEq, Repr, Inhabited

/-- The two ways to show results. -/
inductive DisplayKind where
  | plain
  | paged
  deriving DecidableEq, Repr, Inhabited

/-- A display with everything that it was given so far. -/
structure Display where
  kind : DisplayKind := .plain
  /-- Whether the output shows colours. -/
  color : Bool := false
  cancelled : Bool := false
  /-- What is printed so far. -/
  printed : String := ""
  mode : RunMode := .check
  /-- Notices that the paged display collected. -/
  notices : List String := []
  /-- Content that the paged display collected. -/
  content : String := ""
  deriving Repr, Inhabited

/-- The reason why a display refuses a result: the run is cancelled. -/
structure Cancelled where
  deriving DecidableEq, Repr, Inhabited

/-- The style of a line in a difference between texts. -/
def diffLineStyle? (line : String) : Option Terminal.Style :=
  if startsWith line "@@" then some { renditions := Terminal.Style.paletteColor 75 }
  else if startsWith line "+" then some { renditions := Terminal.Style.paletteColor 42 }
  else if startsWith line "-" then some { renditions := Terminal.Style.paletteColor 203 }
  else none

/-- A difference between texts with its changed lines in colour. -/
def colorDiff (color : Bool) (diff : String) : String :=
  joinWith "\n" ((lines diff).map fun line =>
    match diffLineStyle? line with
    | some style => style.render color line
    | none => line)

namespace Display

/-- Says that two reports do not differ. -/
def identicalText : String :=
  "Reports are identical\n"

def print (d : Display) (text : String) : Display :=
  { d with printed := d.printed ++ text }

/-- Begins a run. The last of the modes counts, and what the paged display has
collected is dropped. -/
def start (d : Display) (modes : List RunMode) : Except Cancelled Display :=
  if d.cancelled then .error {}
  else
    match d.kind with
    | .plain => .ok d
    | .paged => .ok { d with mode := modes.getLast?.getD .check, notices := [], content := "" }

/-- The pager for what was collected. -/
def pager (d : Display) : Pager where
  title := d.mode.title
  notices := joinWith " | " d.notices
  content := d.content

/-- Waits for the user to leave the display. On an output that is no screen the
paged display prints what it collected. -/
def wait (d : Display) : Display :=
  if d.cancelled then d
  else
    match d.kind with
    | .plain => d
    | .paged => d.print (d.pager.staticView d.color)

def showScanInfo (d : Display) (info : ScanInfo) : Display :=
  match d.kind with
  | .paged =>
      { d with
        notices := d.notices ++
          [toString info.files ++ " file(s) scanned, " ++ toString info.cached ++
            " from cache, " ++ toString info.skipped ++ " skipped"] }
  | .plain =>
      if d.cancelled then d
      else
        d.print ("Scanned " ++ toString info.files ++ " file(s) with " ++
          toString info.threads ++ " worker(s), " ++ toString info.cached ++ " from cache" ++
          (if 0 < info.skipped then ", " ++ toString info.skipped ++ " skipped" else "") ++ "\n")

/-- Shows where the report was saved. -/
def showSaved (d : Display) (path : String) : Display :=
  match d.kind with
  | .paged => { d with notices := d.notices ++ ["report saved to " ++ path] }
  | .plain => if d.cancelled then d else d.print ("Report saved to " ++ path ++ "\n")

/-- Shows a text, which the plain display sets off by a lead. -/
def showText (d : Display) (lead text : String) : Except Cancelled Display :=
  if d.cancelled then .error {}
  else
    match d.kind with
    | .plain => .ok (d.print (lead ++ text))
    | .paged => .ok { d with content := d.content ++ text }

/-- Shows a report, restricted to the chosen modules. -/
def showReport (d : Display) (r : Report) (only : List String) : Except Cancelled Display :=
  d.showText "\n" (r.render only)

def showModules (d : Display) (modules : List ModuleSummary) : Except Cancelled Display :=
  d.showText "\n" (ModuleSummary.renderAll modules)

/-- Shows how two reports differ. -/
def showDiff (d : Display) (source target : Report) (sourceName targetName : String) :
    Except Cancelled Display :=
  let diff := source.renderDiff target sourceName targetName
  if diff.isEmpty then d.showText "" identicalText
  else
    match d.kind with
    | .plain => d.showText "" diff
    | .paged => d.showText "" (colorDiff d.color diff)

end Display

end ArchLint
