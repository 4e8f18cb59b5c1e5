import ArchLint.Json.Basic
import ArchLint.Json.Writer
import ArchLint.Number.Decimal
import ArchLint.Number.Reading
import ArchLint.Report
import ArchLint.Text.Folding

/-!
Reports as JSON. Lists and limits that are empty are left out of a module;
reading accepts member names in any case, ignores unknown ones, and takes
`null` as "not given".
-/

namespace ArchLint

open Number (Binary64)

namespace Json

/-- Numbers are positional from a millionth up to 21 digits. -/
def numberFormat : Number.NumberFormat :=
  ⟨-6, 21, 1, 2, "null", "null", "null"⟩

/-- A floating point number. -/
def ofBinary64 (x : Binary64) : Json :=
  .number (numberFormat.write x)

def ofInt (n : Int) : Json :=
  .number (toString n)

def ofStrings (xs : List String) : Json :=
  .array (xs.map .string)

/-- A member for a list that is left out when it is empty. -/
def listMember {α : Type} (name : String) (encode : α → Json) (xs : List α) :
    List (String × Json) :=
  if xs.isEmpty then [] else [(name, .array (xs.map encode))]

end Json

def Metrics.toJson (m : Metrics) : Json :=
  .object
    [("abstractness", .ofBinary64 m.abstractness), ("instability", .ofBinary64 m.instability),
      ("distance", .ofBinary64 m.distance), ("distance_overage", .ofBinary64 m.distanceOverage),
      ("primitiveness", .ofBinary64 m.primitiveness)]

def UnitRef.toJson (u : UnitRef) : Json :=
  .object
    (("name", .string u.name) ::
      (if u.path.isEmpty then [] else [("path", .string u.path)]) ++
      [("module", .string u.owner)])

def UnitViolation.toJson (v : UnitViolation) : Json :=
  .object [("from", v.source.toJson), ("to", v.target.toJson)]

def ModuleReport.toJson (m : ModuleReport) : Json :=
  .object
    ([("name", .string m.name), ("enabled", .bool m.enabled), ("units", .ofInt m.units),
        ("metrics", m.metrics.toJson)] ++
      (m.maxDistance.map fun x => ("max_allowable_distance", Json.ofBinary64 x)).toList ++
      Json.listMember "dependency_modules" .string m.dependencyModules ++
      Json.listMember "dependent_modules" .string m.dependentModules ++
      Json.listMember "illegal_modules" .string m.illegalModules ++
      Json.listMember "forbidden_dependencies" UnitViolation.toJson m.forbidden ++
      Json.listMember "private_leaks" UnitViolation.toJson m.leaks ++
      Json.listMember "cycles" (fun c => c.elim .null .ofStrings) m.cycles)

def Summary.toJson (s : Summary) : Json :=
  .object
    [("modules", .ofInt s.modules), ("units", .ofInt s.units),
      ("illegal_modules", .ofInt s.illegalModules), ("forbidden_dependencies", .ofInt s.forbidden),
      ("private_leaks", .ofInt s.leaks), ("cycles", .ofInt s.cycles),
      ("distance_overages", .ofInt s.distanceOverages)]

def Report.toJson (r : Report) : Json :=
  .object
    [("version", .ofInt r.version), ("root", .string r.root),
      ("generated_at", .string r.generatedAt.text),
      ("modules", r.modules.elim .null fun ms => .array (ms.map (·.toJson))),
      ("summary", r.summary.toJson)]

namespace Json

/-- A reading that updates a value; `none` if the JSON does not fit. -/
abbrev Update (α : Type) := α → Json → Option α

/-- Reads the members of an object one after the other. -/
def updateMembers {α : Type} (member : String → Update α) : Update α
  | a, .null => some a
  | a, .object members => members.foldlM (fun a (name, value) => member name a value) a
  | _, _ => none

/-- Reads a list. An item updates the one that stood at its place before. -/
def updateItems {α : Type} [Inhabited α] (item : Update α) (old : List α)
    (items : List Json) : Option (List α) :=
  items.mapIdx (fun i j => item (old.getD i default) j) |>.mapM id

/-- Reads a list that may be absent. -/
def updateList? {α : Type} [Inhabited α] (item : Update α) : Update (Option (List α))
  | _, .null => some none
  | old, .array items => (updateItems item (old.getD []) items).map some
  | _, _ => none

/-- Reads a list; an absent one is empty. -/
def updateList {α : Type} [Inhabited α] (item : Update α) : Update (List α) := fun old j =>
  (updateList? item (some old) j).map (·.getD [])

def updateString : Update String
  | old, .null => some old
  | _, .string s => some s
  | _, _ => none

/-- Reads a truth value. -/
def updateBool : Update Bool
  | old, .null => some old
  | _, .bool b => some b
  | _, _ => none

/-- The whole number that a text writes without point and exponent. -/
def intOfText? (text : String) : Option Int :=
  let (negative, ds) := Number.splitSign false text.toList
  if ds.isEmpty || !ds.all Char.isDigit then none
  else
    let n : Int := if negative then -(Number.natOfDigits ds : Int) else Number.natOfDigits ds
    if Number.isInt64 n then some n else none

/-- Reads a whole number of 64 bits. -/
def updateInt : Update Int
  | old, .null => some old
  | _, .number text => intOfText? text
  | _, _ => none

/-- Reads a floating point number; one beyond the finite range does not
fit. -/
def updateFloat : Update Binary64
  | old, .null => some old
  | _, .number text => do
      let d ← Number.Decimal.ofText? false text.toList
      let x := d.toBinary64
      if x.isFinite then some x else none
  | _, _ => none

/-- Reads a floating point number that may be absent. -/
def updateFloat? : Update (Option Binary64)
  | _, .null => some none
  | _, j => (updateFloat .zero j).map some

def updateTime : Update Timestamp
  | old, .null => some old
  | _, .string s => Timestamp.ofText? s
  | _, _ => none

/-- The known name that a member's name spells, in any case. -/
def knownName? (known : List String) (name : String) : Option String :=
  known.find? fun k => Text.equalUpToCase k name

end Json

open Json

def Metrics.updateMember (name : String) : Update Metrics := fun m j =>
  match knownName? ["abstractness", "instability", "distance", "distance_overage",
    "primitiveness"] name with
  | some "abstractness" => (updateFloat m.abstractness j).map ({ m with abstractness := · })
  | some "instability" => (updateFloat m.instability j).map ({ m with instability := · })
  | some "distance" => (updateFloat m.distance j).map ({ m with distance := · })
  | some "distance_overage" =>
      (updateFloat m.distanceOverage j).map ({ m with distanceOverage := · })
  | some "primitiveness" => (updateFloat m.primitiveness j).map ({ m with primitiveness := · })
  | _ => some m

def UnitRef.updateMember (name : String) : Update UnitRef := fun u j =>
  match knownName? ["name", "path", "module"] name with
  | some "name" => (updateString u.name j).map ({ u with name := · })
  | some "path" => (updateString u.path j).map ({ u with path := · })
  | some "module" => (updateString u.owner j).map ({ u with owner := · })
  | _ => some u

def UnitViolation.updateMember (name : String) : Update UnitViolation := fun v j =>
  match knownName? ["from", "to"] name with
  | some "from" => (updateMembers UnitRef.updateMember v.source j).map ({ v with source := · })
  | some "to" => (updateMembers UnitRef.updateMember v.target j).map ({ v with target := · })
  | _ => some v

def UnitViolation.updateAll : Update (List UnitViolation) :=
  updateList (updateMembers UnitViolation.updateMember)

/-- Reads a member of a module's entry. -/
def ModuleReport.updateMember (name : String) : Update ModuleReport := fun m j =>
  match knownName? ["name", "enabled", "units", "metrics", "max_allowable_distance",
    "dependency_modules", "dependent_modules", "illegal_modules", "forbidden_dependencies",
    "private_leaks", "cycles"] name with
  | some "name" => (updateString m.name j).map ({ m with name := · })
  | some "enabled" => (updateBool m.enabled j).map ({ m with enabled := · })
  | some "units" => (updateInt m.units j).map ({ m with units := · })
  | some "metrics" =>
      (updateMembers Metrics.updateMember m.metrics j).map ({ m with metrics := · })
  | some "max_allowable_distance" =>
      (updateFloat? m.maxDistance j).map ({ m with maxDistance := · })
  | some "dependency_modules" =>
      (updateList updateString m.dependencyModules j).map ({ m with dependencyModules := · })
  | some "dependent_modules" =>
      (updateList updateString m.dependentModules j).map ({ m with dependentModules := · })
  | some "illegal_modules" =>
      (updateList updateString m.illegalModules j).map ({ m with illegalModules := · })
  | some "forbidden_dependencies" =>
      (UnitViolation.updateAll m.forbidden j).map ({ m with forbidden := · })
  | some "private_leaks" => (UnitViolation.updateAll m.leaks j).map ({ m with leaks := · })
  | some "cycles" =>
      (updateList (updateList? updateString) m.cycles j).map ({ m with cycles := · })
  | _ => some m

def Summary.updateMember (name : String) : Update Summary := fun s j =>
  match knownName? ["modules", "units", "illegal_modules", "forbidden_dependencies",
    "private_leaks", "cycles", "distance_overages"] name with
  | some "modules" => (updateInt s.modules j).map ({ s with modules := · })
  | some "units" => (updateInt s.units j).map ({ s with units := · })
  | some "illegal_modules" => (updateInt s.illegalModules j).map ({ s with illegalModules := · })
  | some "forbidden_dependencies" => (updateInt s.forbidden j).map ({ s with forbidden := · })
  | some "private_leaks" => (updateInt s.leaks j).map ({ s with leaks := · })
  | some "cycles" => (updateInt s.cycles j).map ({ s with cycles := · })
  | some "distance_overages" =>
      (updateInt s.distanceOverages j).map ({ s with distanceOverages := · })
  | _ => some s

def Report.updateMember (name : String) : Update Report := fun r j =>
  match knownName? ["version", "root", "generated_at", "modules", "summary"] name with
  | some "version" => (updateInt r.version j).map ({ r with version := · })
  | some "root" => (updateString r.root j).map ({ r with root := · })
  | some "generated_at" => (updateTime r.generatedAt j).map ({ r with generatedAt := · })
  | some "modules" =>
      (updateList? (updateMembers ModuleReport.updateMember) r.modules j).map
        ({ r with modules := · })
  | some "summary" =>
      (updateMembers Summary.updateMember r.summary j).map ({ r with summary := · })
  | _ => some r

def Report.ofJson? (j : Json) : Option Report :=
  updateMembers Report.updateMember {} j

def Report.jsonText (r : Report) : String :=
  r.toJson.indented 0 ++ "\n"

def Report.ofJsonText? (text : String) : Option Report :=
  (Json.ofText? text).bind Report.ofJson?

end ArchLint
