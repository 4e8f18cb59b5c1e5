import ArchLint.Analysis
import ArchLint.Graph.Cycles
import ArchLint.Graph.Metrics
import ArchLint.Timestamp

namespace ArchLint

open Number (Binary64)

structure Metrics where
  abstractness : Binary64 := .zero
  instability : Binary64 := .zero
  distance : Binary64 := .zero
  distanceOverage : Binary64 := .zero
  primitiveness : Binary64 := .zero
  deriving DecidableEq, Repr, Inhabited

structure UnitRef where
  name : String := ""
  path : String := ""
  owner : String := ""
  deriving DecidableEq, Repr, Inhabited

/-- A dependency that is not allowed. -/
structure UnitViolation where
  source : UnitRef := {}
  target : UnitRef := {}
  deriving DecidableEq, Repr, Inhabited

/-- The findings about one module. A cycle that a document leaves empty of
names can also be absent altogether. -/
structure ModuleReport where
  name : String := ""
  enabled : Bool := false
  units : Int := 0
  metrics : Metrics := {}
  maxDistance : Option Binary64 := none
  dependencyModules : List String := []
  dependentModules : List String := []
  illegalModules : List String := []
  forbidden : List UnitViolation := []
  leaks : List UnitViolation := []
  cycles : List (Option (List String)) := []
  deriving DecidableEq, Repr, Inhabited

/-- Counters over all modules. -/
structure Summary where
  modules : Int := 0
  units : Int := 0
  illegalModules : Int := 0
  forbidden : Int := 0
  leaks : Int := 0
  cycles : Int := 0
  distanceOverages : Int := 0
  deriving DecidableEq, Repr, Inhabited

/-- A report. The list of modules can be absent. -/
structure Report where
  version : Int := 0
  root : String := ""
  generatedAt : Timestamp := {}
  modules : Option (List ModuleReport) := none
  summary : Summary := {}
  deriving DecidableEq, Repr, Inhabited

structure ModuleSummary where
  name : String := ""
  enabled : Bool := false
  units : Int := 0
  roots : List Region := []
  excluded : List Region := []
  deriving DecidableEq, Repr, Inhabited

/-- Whether the distance of a module exceeds its limit. -/
def ModuleReport.isTooDistant (m : ModuleReport) : Bool :=
  m.metrics.distanceOverage.isPositive

/-- Whether a module breaks any of its restrictions. -/
def ModuleReport.hasViolations (m : ModuleReport) : Bool :=
  !m.illegalModules.isEmpty || !m.forbidden.isEmpty || !m.leaks.isEmpty ||
    !m.cycles.isEmpty || m.isTooDistant

/-- The total number of findings. -/
def Summary.violations (s : Summary) : Int :=
  s.illegalModules + s.forbidden + s.leaks + s.cycles + s.distanceOverages

/-- The modules of a report; none if the list is absent. -/
def Report.entries (r : Report) : List ModuleReport :=
  r.modules.getD []

/-- Whether the check found anything. -/
def Report.failed (r : Report) : Bool :=
  0 < r.summary.violations

namespace Report

def currentVersion : Int :=
  1

def unitRef (u : CodeUnit) : UnitRef :=
  ⟨u.name, u.file, u.owner.getD ""⟩

/-- The dependencies of members of `m` on a unit. -/
def violationsOn (g : Graph) (m : Module) (target : CodeUnit) : List UnitViolation :=
  ((g.unitsOf target.dependents.toList).filter m.contains).map fun source =>
    ⟨unitRef source, unitRef target⟩

/-- How far the distance of a module exceeds its limit, in double precision.
Nothing is comparable with a limit that is not a number. An excess is infinite
if the limit is, or if its thousandths are too many for a number. -/
def overageOf (g : Graph) (m : Module) : Binary64 :=
  let fl := Number.roundBinary64
  match m.policy.maxDistance with
  | none => .zero
  | some .notANumber => .notANumber
  | some (.infinite negative) => if negative then .infinite false else .zero
  | some limit =>
      let thousandths := Binary64.ofRat (fl (g.distance fl m - limit.toRat) * 1000)
      if thousandths = .infinite false then thousandths else .ofRat (g.distanceOverage fl m)

/-- The metrics of a module, in double precision. -/
def metricsOf (g : Graph) (m : Module) : Metrics :=
  let fl := Number.roundBinary64
  { abstractness := .ofRat (g.abstractness fl m)
    instability := .ofRat (g.instability fl m)
    distance := .ofRat (g.distance fl m)
    distanceOverage := overageOf g m
    primitiveness := .ofRat (g.primitiveness fl m) }

/-- The entry of a module; a disabled one has its size only. -/
def entryOf [Matching] (g : Graph) (m : Module) : ModuleReport :=
  let entry : ModuleReport :=
    { name := m.name, enabled := m.enabled, units := m.size }
  if m.enabled then
    let leaked := (g.illegalUnits m true).map (·.id)
    let (leaks, forbidden) := (g.illegalUnits m false).partition fun u => leaked.elem u.id
    { entry with
      metrics := metricsOf g m
      maxDistance := m.policy.maxDistance
      dependencyModules := (g.dependencyModules m).map (·.name)
      dependentModules := (g.dependentModules m).map (·.name)
      illegalModules := (g.illegalModules m).map (·.name)
      forbidden := forbidden.flatMap (violationsOn g m)
      leaks := leaks.flatMap (violationsOn g m)
      cycles := (g.cyclesThrough m).map fun c => some (c.map (·.name)) }
  else entry

/-- Adds up a number over all entries. -/
def total (entries : List ModuleReport) (f : ModuleReport → Int) : Int :=
  (entries.map f).foldr (· + ·) 0

/-- The counters after one more entry. Disabled modules have no findings to
count. -/
def countEntry (s : Summary) (entry : ModuleReport) : Summary :=
  let s := { s with modules := s.modules + 1, units := s.units + entry.units }
  if entry.enabled then
    { s with
      illegalModules := s.illegalModules + entry.illegalModules.length
      forbidden := s.forbidden + entry.forbidden.length
      leaks := s.leaks + entry.leaks.length
      distanceOverages := s.distanceOverages + if entry.isTooDistant then 1 else 0 }
  else s

/-- The summary of entries, given the number of distinct cycles. -/
def summaryOf (entries : List ModuleReport) (cycles : Nat) : Summary :=
  { entries.foldl countEntry {} with cycles := cycles }

/-- The report about a sealed graph. -/
def build [Matching] (g : Graph) (root : String) (generatedAt : Timestamp) : Report :=
  let entries := (g.modules.toList.filter (·.isReportable)).map (entryOf g)
  { version := currentVersion
    root := root
    generatedAt := generatedAt
    modules := if entries.isEmpty then none else some entries
    summary := summaryOf entries g.cycles.length }

/-- The listing of a sealed graph. -/
def listing (g : Graph) : List ModuleSummary :=
  (g.modules.toList.filter (·.isReportable)).map fun m =>
    { name := m.name
      enabled := m.enabled
      units := m.size
      roots := m.roots
      excluded := m.excluded }

end Report

end ArchLint
