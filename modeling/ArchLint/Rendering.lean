import ArchLint.LineDiff
import ArchLint.Number.Decimal
import ArchLint.Report
import ArchLint.Table

namespace ArchLint

open Number (Binary64)

/-- Rates have three decimals. -/
def rateText (x : Binary64) : String :=
  Number.fixed 3 x

/-- Long names and lists are cut to this many columns. -/
def cellLimit : Nat :=
  48

def cellText (s : String) : String :=
  Text.truncate cellLimit "…" s

namespace ModuleReport

/-- The number of findings about a module. -/
def violationCount (m : ModuleReport) : Nat :=
  m.illegalModules.length + m.forbidden.length + m.leaks.length + m.cycles.length +
    (if m.isTooDistant then 1 else 0)

/-- The row of a module in the table of metrics; a disabled one has no
rates. -/
def metricsRow (m : ModuleReport) : List String :=
  let rates :=
    if m.enabled then
      [rateText m.metrics.abstractness, rateText m.metrics.instability,
        rateText m.metrics.distance, rateText m.metrics.distanceOverage,
        rateText m.metrics.primitiveness, toString m.violationCount]
    else List.replicate 6 "-"
  cellText m.name :: toString m.units :: rates

/-- A dependency as a finding shows it. -/
def violationText (v : UnitViolation) : String :=
  v.source.name ++ " -> " ++ v.target.name ++
    (if v.target.path.isEmpty then "" else " (" ++ v.target.path ++ ")")

/-- The line about the distance, if the module has a limit and exceeds it. -/
def distanceFinding (m : ModuleReport) : List String :=
  match m.maxDistance with
  | some limit =>
      if m.isTooDistant then
        ["distance " ++ rateText m.metrics.distance ++ " exceeds " ++ rateText limit ++
          " by " ++ rateText m.metrics.distanceOverage]
      else []
  | none => []

/-- The findings about a module, one line each. -/
def findings (m : ModuleReport) : List String :=
  m.illegalModules.map ("illegal dependency on module " ++ ·) ++
    m.forbidden.map (fun v => "forbidden: " ++ violationText v) ++
    m.leaks.map (fun v => "private:   " ++ violationText v) ++
    m.cycles.map (fun c => "cycle: " ++ Text.joinWith " -> " (c.getD [])) ++
    m.distanceFinding

/-- The findings about a module under its name; nothing for a disabled module
or one without violations. -/
def findingsText (m : ModuleReport) : String :=
  if m.enabled && m.hasViolations then
    "\n" ++ m.name ++ "\n" ++ String.join (m.findings.map fun line => "  " ++ line ++ "\n")
  else ""

end ModuleReport

/-- The closing line of a report. -/
def Summary.text (s : Summary) : String :=
  if s.violations = 0 then
    "\nNo violations in " ++ toString s.modules ++ " module(s), " ++ toString s.units ++
      " unit(s)\n"
  else
    "\n" ++ toString s.violations ++ " violation(s): " ++
      toString s.illegalModules ++ " illegal module dependencies, " ++
      toString s.forbidden ++ " forbidden units, " ++
      toString s.leaks ++ " private leaks, " ++
      toString s.cycles ++ " cycles, " ++
      toString s.distanceOverages ++ " distance overages\n"

namespace Report

/-- The entries of the chosen modules in report order; no choice means all. -/
def selected (r : Report) (only : List String) : List ModuleReport :=
  if only.isEmpty then r.entries else r.entries.filter fun m => only.elem m.name

def metricsTable (entries : List ModuleReport) : Table where
  heading := ["Module", "Units", "A", "I", "D", "Overage", "Primitiveness", "Violations"]
  alignments := .left :: List.replicate 7 .right
  rows := entries.map (·.metricsRow)
  footing :=
    ["Modules " ++ toString entries.length, toString (total entries (·.units)),
      "", "", "", "", "", ""]

/-- The text of a report, restricted to the chosen modules. -/
def render (r : Report) (only : List String) : String :=
  let entries := r.selected only
  (if r.root.isEmpty then "" else "Architecture of " ++ r.root ++ "\n\n") ++
    (metricsTable entries).render ++
    String.join (entries.map (·.findingsText)) ++ r.summary.text

/-- The difference between two reports as texts. Their roots are left out,
because they differ between working copies. -/
def renderDiff (source target : Report) (sourceName targetName : String) : String :=
  LineDiff.unified 2 sourceName targetName
    ({ source with root := "" }.render []) ({ target with root := "" }.render [])

end Report

namespace ModuleSummary

def regionsText (regions : List Region) : String :=
  cellText (Text.joinWith ", " (regions.map (·.text)))

/-- The row of a module in a listing. -/
def row (m : ModuleSummary) : List String :=
  [cellText m.name, if m.enabled then "yes" else "no", toString m.units,
    regionsText m.roots, regionsText m.excluded]

def table (modules : List ModuleSummary) : Table where
  heading := ["Module", "Enabled", "Units", "Roots", "Excluded"]
  alignments := [.left, .center, .right, .left, .left]
  rows := modules.map (·.row)
  footing :=
    ["Total " ++ toString modules.length, "",
      toString ((modules.map (·.units)).foldr (· + ·) 0), "", ""]

def renderAll (modules : List ModuleSummary) : String :=
  (table modules).render

end ModuleSummary

end ArchLint
