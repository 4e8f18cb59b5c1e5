import ArchLint.CodeUnit
import ArchLint.Policy
import ArchLint.Region
import Std.Data.HashMap

/-!
Architecture graphs. Units of code are numbered in the order they are
declared, modules in the order they are registered; both are found by name.
Units carry the edges. A graph is first built up and then sealed, which places
every unit in a module.
-/

namespace ArchLint

/-- A named part of a code base with its regions, its policy and the numbers
of its members. -/
structure Module where
  order : Nat
  name : String
  enabled : Bool := true
  roots : List Region := []
  excluded : List Region := []
  policy : Policy := {}
  units : IdSet Nat := .empty
  deriving DecidableEq, Repr, Inhabited

namespace Module

/-- The module of the units that no registered module claims. -/
def undefinedName : String :=
  "*undefined*"

/-- The module of predeclared names. -/
def primitivesName : String :=
  "*primitives*"

/-- The module of names without a scope. -/
def globalName : String :=
  "*global*"

/-- Whether this is the module of unclaimed units. -/
def isUndefined (m : Module) : Bool :=
  m.name = undefinedName

/-- Whether this is the module of predeclared names. -/
def isPrimitives (m : Module) : Bool :=
  m.name = primitivesName

/-- Whether this is the module of names without a scope. -/
def isGlobal (m : Module) : Bool :=
  m.name = globalName

/-- Whether findings about the module have a place in reports at all. -/
def isReportable (m : Module) : Bool :=
  !m.isGlobal && !m.isPrimitives

/-- Whether a file path lies under one of the excluded directories. -/
def excludesPath (m : Module) (path : String) : Bool :=
  m.excluded.any (·.containsPath path)

def contains (m : Module) (u : CodeUnit) : Bool :=
  m.units.contains u.id

/-- The module with one more member. -/
def addUnit (m : Module) (id : Nat) : Module :=
  { m with units := m.units.insert id }

def size (m : Module) : Nat :=
  m.units.size

/-- Whether a unit lies in the module's regions and in none of the excluded
ones. -/
def claims (m : Module) (u : CodeUnit) : Bool :=
  m.roots.any (·.contains u.name u.file) && !m.excluded.any (·.contains u.name u.file)

end Module

/-- Units and modules in the order of their numbers, with their names. -/
structure Graph where
  units : Array CodeUnit := #[]
  unitIndex : Std.HashMap String Nat := ∅
  modules : Array Module := #[]
  moduleIndex : Std.HashMap String Nat := ∅

namespace Graph

/-- The graph without units and modules. -/
def empty : Graph :=
  {}

/-- The number of the unit of a name. -/
def unitId? (g : Graph) (name : String) : Option Nat :=
  g.unitIndex[name]?

def unit? (g : Graph) (name : String) : Option CodeUnit :=
  (g.unitId? name).bind fun id => g.units[id]?

def module? (g : Graph) (name : String) : Option Module :=
  (g.moduleIndex[name]?).bind fun order => g.modules[order]?

/-- The module that a unit was placed in. -/
def ownerOf? (g : Graph) (u : CodeUnit) : Option Module :=
  u.owner.bind g.module?

/-- The units with the given numbers. -/
def unitsOf (g : Graph) (ids : List Nat) : List CodeUnit :=
  ids.filterMap fun id => g.units[id]?

/-- The modules at the given places. -/
def modulesAt (g : Graph) (places : List Nat) : List Module :=
  places.filterMap fun i => g.modules[i]?

/-- The members of a module, by number. -/
def members (g : Graph) (m : Module) : List CodeUnit :=
  g.unitsOf m.units.toList

/-- The modules whose findings are reported. -/
def enabledModules (g : Graph) : List Module :=
  g.modules.toList.filter fun m => m.enabled && m.isReportable

end Graph

end ArchLint
