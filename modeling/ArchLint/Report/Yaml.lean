import ArchLint.Report
import ArchLint.Yaml.Update
import ArchLint.Yaml.Writer

namespace ArchLint

open Yaml

/-- The metrics of a module as a node. -/
def Metrics.toYaml (m : Metrics) : Node :=
  .ofEntries
    [("abstractness", .ofBinary64 m.abstractness), ("instability", .ofBinary64 m.instability),
      ("distance", .ofBinary64 m.distance), ("distance_overage", .ofBinary64 m.distanceOverage),
      ("primitiveness", .ofBinary64 m.primitiveness)]

def UnitRef.toYaml (u : UnitRef) : Node :=
  .ofEntries
    (("name", .ofText u.name) ::
      (if u.path.isEmpty then [] else [("path", .ofText u.path)]) ++
      [("module", .ofText u.owner)])

def UnitViolation.toYaml (v : UnitViolation) : Node :=
  .ofEntries [("from", v.source.toYaml), ("to", v.target.toYaml)]

/-- An entry for a list that is left out when it is empty. -/
def Yaml.listEntry {α : Type} (name : String) (encode : α → Node) (xs : List α) :
    List (String × Node) :=
  if xs.isEmpty then [] else [(name, .sequence (xs.map encode))]

/-- The entry of a module as a node. -/
def ModuleReport.toYaml (m : ModuleReport) : Node :=
  .ofEntries
    ([("name", .ofText m.name), ("enabled", .ofBool m.enabled), ("units", .ofInt m.units),
        ("metrics", m.metrics.toYaml)] ++
      (m.maxDistance.map fun x => ("max_allowable_distance", Node.ofBinary64 x)).toList ++
      listEntry "dependency_modules" .ofText m.dependencyModules ++
      listEntry "dependent_modules" .ofText m.dependentModules ++
      listEntry "illegal_modules" .ofText m.illegalModules ++
      listEntry "forbidden_dependencies" UnitViolation.toYaml m.forbidden ++
      listEntry "private_leaks" UnitViolation.toYaml m.leaks ++
      listEntry "cycles" (fun c => Node.ofTexts (c.getD [])) m.cycles)

def Summary.toYaml (s : Summary) : Node :=
  .ofEntries
    [("modules", .ofInt s.modules), ("units", .ofInt s.units),
      ("illegal_modules", .ofInt s.illegalModules), ("forbidden_dependencies", .ofInt s.forbidden),
      ("private_leaks", .ofInt s.leaks), ("cycles", .ofInt s.cycles),
      ("distance_overages", .ofInt s.distanceOverages)]

def Report.toYaml (r : Report) : Node :=
  .ofEntries
    [("version", .ofInt r.version), ("root", .ofText r.root),
      ("generated_at", .ofWord r.generatedAt.text),
      ("modules", .sequence (r.entries.map (·.toYaml))),
      ("summary", r.summary.toYaml)]

def Metrics.yamlFields : List (String × Update Metrics) :=
  [("abstractness", fun m n => (updateFloat m.abstractness n).map ({ m with abstractness := · })),
    ("instability", fun m n => (updateFloat m.instability n).map ({ m with instability := · })),
    ("distance", fun m n => (updateFloat m.distance n).map ({ m with distance := · })),
    ("distance_overage", fun m n =>
      (updateFloat m.distanceOverage n).map ({ m with distanceOverage := · })),
    ("primitiveness", fun m n =>
      (updateFloat m.primitiveness n).map ({ m with primitiveness := · }))]

def UnitRef.yamlFields : List (String × Update UnitRef) :=
  [("name", fun u n => (updateString u.name n).map ({ u with name := · })),
    ("path", fun u n => (updateString u.path n).map ({ u with path := · })),
    ("module", fun u n => (updateString u.owner n).map ({ u with owner := · }))]

def UnitViolation.yamlFields : List (String × Update UnitViolation) :=
  [("from", fun v n =>
      (updateFields UnitRef.yamlFields v.source n).map ({ v with source := · })),
    ("to", fun v n =>
      (updateFields UnitRef.yamlFields v.target n).map ({ v with target := · }))]

/-- Reads a list of texts. -/
def Yaml.updateStrings : Update (List String) :=
  updateList (updateString "")

def UnitViolation.updateYaml : Update (List UnitViolation) :=
  updateList (updateFields UnitViolation.yamlFields {})

def ModuleReport.yamlFields : List (String × Update ModuleReport) :=
  [("name", fun m n => (updateString m.name n).map ({ m with name := · })),
    ("enabled", fun m n => (updateBool m.enabled n).map ({ m with enabled := · })),
    ("units", fun m n => (updateInt m.units n).map ({ m with units := · })),
    ("metrics", fun m n =>
      (updateFields Metrics.yamlFields m.metrics n).map ({ m with metrics := · })),
    ("max_allowable_distance", fun m n =>
      (updateFloat? m.maxDistance n).map ({ m with maxDistance := · })),
    ("dependency_modules", fun m n =>
      (updateStrings m.dependencyModules n).map ({ m with dependencyModules := · })),
    ("dependent_modules", fun m n =>
      (updateStrings m.dependentModules n).map ({ m with dependentModules := · })),
    ("illegal_modules", fun m n =>
      (updateStrings m.illegalModules n).map ({ m with illegalModules := · })),
    ("forbidden_dependencies", fun m n =>
      (UnitViolation.updateYaml m.forbidden n).map ({ m with forbidden := · })),
    ("private_leaks", fun m n => (UnitViolation.updateYaml m.leaks n).map ({ m with leaks := · })),
    ("cycles", fun m n =>
      (updateLists (updateString "") m.cycles n).map ({ m with cycles := · }))]

def Summary.yamlFields : List (String × Update Summary) :=
  [("modules", fun s n => (updateInt s.modules n).map ({ s with modules := · })),
    ("units", fun s n => (updateInt s.units n).map ({ s with units := · })),
    ("illegal_modules", fun s n =>
      (updateInt s.illegalModules n).map ({ s with illegalModules := · })),
    ("forbidden_dependencies", fun s n =>
      (updateInt s.forbidden n).map ({ s with forbidden := · })),
    ("private_leaks", fun s n => (updateInt s.leaks n).map ({ s with leaks := · })),
    ("cycles", fun s n => (updateInt s.cycles n).map ({ s with cycles := · })),
    ("distance_overages", fun s n =>
      (updateInt s.distanceOverages n).map ({ s with distanceOverages := · }))]

def Report.yamlFields : List (String × Update Report) :=
  [("version", fun r n => (updateInt r.version n).map ({ r with version := · })),
    ("root", fun r n => (updateString r.root n).map ({ r with root := · })),
    ("generated_at", fun r n => (updateTime r.generatedAt n).map ({ r with generatedAt := · })),
    ("modules", fun r n =>
      (updateList? (updateFields ModuleReport.yamlFields {}) r.modules n).map
        ({ r with modules := · })),
    ("summary", fun r n =>
      (updateFields Summary.yamlFields r.summary n).map ({ r with summary := · }))]

def Report.yamlText (r : Report) : String :=
  r.toYaml.document

/-- Reads a report from its text. A text without document is an empty
report. -/
def Report.ofYamlText? (text : String) : Option Report :=
  (Node.ofText? text).bind fun root =>
    match root with
    | none => some {}
    | some node => updateFields Report.yamlFields {} node

end ArchLint
