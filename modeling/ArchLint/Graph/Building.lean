import ArchLint.Graph.Basic

namespace ArchLint

namespace Graph

/-- Appends the regions that are not listed yet. -/
def mergeRegions (old new : List Region) : List Region :=
  new.foldl (fun regions r => if regions.elem r then regions else regions ++ [r]) old

/-- Registers a module without regions under a new name. -/
def addModule (g : Graph) (name : String) : Graph :=
  { g with
    modules := g.modules.push { order := g.modules.size, name := name }
    moduleIndex := g.moduleIndex.insert name g.modules.size }

/-- Changes the module at a place. -/
def updateModule (g : Graph) (order : Nat) (f : Module → Module) : Graph :=
  { g with modules := g.modules.modify order f }

/-- Registers a module, on first use of its name, and returns its place.
Regions are added to those it has; a policy replaces the current one. -/
def register (g : Graph) (name : String) (roots excluded : List Region)
    (policy : Option Policy) : Graph × Nat :=
  let (g, order) := match g.moduleIndex[name]? with
    | some order => (g, order)
    | none => (g.addModule name, g.modules.size)
  (g.updateModule order fun m =>
    { m with
      roots := mergeRegions m.roots roots
      excluded := mergeRegions m.excluded excluded
      policy := policy.getD m.policy }, order)

/-- Changes the module of a name, if there is one. -/
def updateNamed (g : Graph) (name : String) (f : Module → Module) : Graph :=
  match g.moduleIndex[name]? with
  | some order => g.updateModule order f
  | none => g

/-- Keeps a module in the graph but takes its findings out of reports. -/
def disable (g : Graph) (name : String) : Graph :=
  g.updateNamed name fun m => { m with enabled := false }

/-- Takes a unit into the members of a module. -/
def addMember (g : Graph) (name : String) (id : Nat) : Graph :=
  g.updateNamed name fun m => m.addUnit id

/-- Adds what a further declaration says about a known unit. A declaration
without a category leaves category, abstractness and visibility alone. -/
def merge (u : CodeUnit) (spec : UnitSpec) : CodeUnit :=
  let u := if spec.scope.isEmpty then u else { u with scope := spec.scope }
  let u := if spec.file.isEmpty then u else { u with file := spec.file }
  if spec.kind = .unspecified ∨ spec.kind = .unknown then u
  else { u with kind := spec.kind, isAbstract := spec.isAbstract, exported := spec.exported }

/-- The unit that a first declaration describes. -/
def newUnit (id : Nat) (name : String) (spec : UnitSpec) : CodeUnit :=
  { id := id
    scope := spec.scope
    name := name
    short := if spec.short.isEmpty then Name.short name else spec.short
    file := spec.file
    kind := if spec.kind = .unspecified then .unknown else spec.kind
    isAbstract := spec.isAbstract
    exported := spec.exported }

/-- Declares a unit and returns its number. A known name keeps its number and
takes over what the declaration says. -/
def declare (g : Graph) (spec : UnitSpec) : Graph × Nat :=
  let name := Text.trimBlank spec.name
  match g.unitId? name with
  | some id => ({ g with units := g.units.modify id fun u => merge u spec }, id)
  | none =>
      ({ g with
        units := g.units.push (newUnit g.units.size name spec)
        unitIndex := g.unitIndex.insert name g.units.size }, g.units.size)

/-- What is known about a name that is only referred to. -/
def referenceSpec (name : String) : UnitSpec :=
  let short := Name.short name
  { name := name
    short := short
    kind := if Name.isPredeclared name then .primitive else .unknown
    exported := Name.isExported short }

/-- The number of the unit that a name refers to, which is declared if it is
new. -/
def refer (g : Graph) (name : String) : Graph × Nat :=
  match g.unitId? name with
  | some id => (g, id)
  | none => g.declare (referenceSpec name)

/-- Records an edge between two numbered units, on both of its ends. -/
def addEdge (g : Graph) (source target : Nat) : Graph :=
  let units := g.units.modify source fun u => u.addDependency target
  { g with units := units.modify target fun u => u.addDependent source }

/-- The outcome of linking. A source that does not exist is a fault of the
caller; the name has been declared all the same. -/
inductive Linked where
  | done (graph : Graph)
  | unknownSource (graph : Graph)

/-- The graph after linking, however it went. -/
def Linked.graph : Linked → Graph
  | done g => g
  | unknownSource g => g

/-- Records that the unit `source` depends on the unit called `name`, which is
declared if it is new. Blank names and references of a unit to itself are
ignored. Any number can be given as source. -/
def link (g : Graph) (source : Int) (name : String) : Linked :=
  let name := Text.trimBlank name
  if name.isEmpty then .done g
  else
    let (g, target) := g.refer name
    if (target : Int) = source then .done g
    else if 0 ≤ source ∧ source < g.units.size then .done (g.addEdge source.toNat target)
    else .unknownSource g

/-- Where a unit belongs. `matched` is false when no module claims it. -/
structure Resolution where
  owner : String
  matched : Bool
  deriving DecidableEq, Repr

/-- The module a unit belongs to: predeclared names and names without a scope
have modules of their own, any other unit belongs to the first module that
claims it. -/
def resolution (g : Graph) (u : CodeUnit) : Resolution :=
  if u.isPrimitive then ⟨Module.primitivesName, true⟩
  else if u.isGlobal then ⟨Module.globalName, true⟩
  else
    match g.modules.toList.find? (·.claims u) with
    | some m => ⟨m.name, true⟩
    | none => ⟨Module.undefinedName, false⟩

/-- Resolves a unit and registers its module if it is not there yet. -/
def resolve (g : Graph) (u : CodeUnit) : Graph × Resolution :=
  let r := g.resolution u
  ((g.register r.owner [] [] none).1, r)

/-- Notes in a unit the module it is placed in. -/
def setOwner (g : Graph) (id : Nat) (name : String) : Graph :=
  { g with units := g.units.modify id fun u => { u with owner := some name } }

/-- Places the unit of the given number, unless it has a place. -/
def place (g : Graph) (id : Nat) : Graph :=
  match g.units[id]? with
  | none => g
  | some u =>
      match u.owner with
      | some _ => g
      | none =>
          let (g, r) := g.resolve u
          (g.setOwner id r.owner).addMember r.owner id

/-- Places every unit, in the order of their numbers. -/
def sealed (g : Graph) : Graph :=
  (List.range g.units.size).foldl place g

end Graph

end ArchLint
