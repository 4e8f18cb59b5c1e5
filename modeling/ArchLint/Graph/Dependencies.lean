import ArchLint.Graph.Basic

namespace ArchLint

namespace Graph

/-- Whether depending on a unit is a dependency between modules, seen from
module `m`: the unit is in another module and neither predeclared nor without
a scope. -/
def isArchitectural (m : Module) (dependency : CodeUnit) : Bool :=
  !dependency.belongsTo m.name && !dependency.isGlobal && !dependency.isPrimitive

/-- The modules that own some of the given units, in order of registration. -/
def ownersOf (g : Graph) (us : List CodeUnit) : List Module :=
  g.modulesAt (IdSet.ofList ((us.filterMap g.ownerOf?).map (·.order))).toList

/-- The units of other modules that members of `m` depend on, with
repetitions. -/
def externalDependencies (g : Graph) (m : Module) : List CodeUnit :=
  (g.members m).flatMap fun u =>
    (g.unitsOf u.dependencies.toList).filter (isArchitectural m)

/-- The units of other modules that depend on members of `m`, with
repetitions. -/
def externalDependents (g : Graph) (m : Module) : List CodeUnit :=
  (g.members m).flatMap fun u =>
    (g.unitsOf u.dependents.toList).filter fun d => !d.belongsTo m.name

/-- The modules that members of `m` depend on, in order of registration. -/
def dependencyModules (g : Graph) (m : Module) : List Module :=
  g.ownersOf (g.externalDependencies m)

/-- The modules whose members depend on members of `m`, in order of
registration. -/
def dependentModules (g : Graph) (m : Module) : List Module :=
  g.ownersOf (g.externalDependents m)

/-- The members of `m` that depend on members of `other`. -/
def dependentUnits (g : Graph) (m other : Module) : List CodeUnit :=
  (g.members m).filter fun u =>
    (g.unitsOf u.dependencies.toList).any (·.belongsTo other.name)

/-- The members of `other` that members of `m` depend on, by number. -/
def dependencyUnits (g : Graph) (m other : Module) : List CodeUnit :=
  g.unitsOf (IdSet.ofList ((g.members m).flatMap fun u =>
    ((g.unitsOf u.dependencies.toList).filter (·.belongsTo other.name)).map (·.id))).toList

/-- The modules that `m` depends on although its policy forbids it. -/
def illegalModules [Matching] (g : Graph) (m : Module) : List Module :=
  (g.dependencyModules m).filter fun d => !m.policy.allows m.name d.name

/-- The units of other modules that `m` must not use: all it uses of forbidden
modules, and the hidden ones of allowed modules. With `onlyAllowed` the
forbidden modules are left out. -/
def illegalUnits [Matching] (g : Graph) (m : Module) (onlyAllowed : Bool) : List CodeUnit :=
  (g.dependencyModules m).flatMap fun d =>
    let allowed := m.policy.allows m.name d.name
    if !allowed && onlyAllowed then []
    else (g.dependencyUnits m d).filter fun u => !allowed || !d.policy.exposes d.name u

end Graph

end ArchLint
