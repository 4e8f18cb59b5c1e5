import ArchLint.Config

namespace ArchLint

/-- A scanned file: where it lies, relative to the project, if that is known,
and what it declares. -/
structure ScannedFile where
  path : Option String := none
  units : List UnitSpec := []
  deriving DecidableEq, Repr, Inhabited

/-- Links that wait until every unit is declared: the referring unit, its
scope at that time, and the names. -/
structure PendingLinks where
  source : Nat
  scope : String
  names : List String
  deriving DecidableEq, Repr

namespace Analysis

/-- Whether a reference becomes an edge: the name is a known unit, or lies in
another scope. Unknown names of the own scope are local. -/
def isLinkable (g : Graph) (scope name : String) : Bool :=
  (g.unitId? name).isSome || (Name.split name).1 != scope

/-- Files in the order of their paths. -/
def inOrder (files : List ScannedFile) : List ScannedFile :=
  files.mergeSort fun a b => Text.byteLe (a.path.getD "") (b.path.getD "")

/-- Declares one unit and notes its references. -/
def declareSpec (state : Graph × List PendingLinks) (spec : UnitSpec) :
    Graph × List PendingLinks :=
  let (g, pending) := state
  let (g, id) := g.declare spec
  if spec.references.isEmpty then (g, pending)
  else
    let scope := (g.units[id]?).elim "" (·.declaredScope)
    (g, pending ++ [⟨id, scope, spec.references⟩])

def declareAll (g : Graph) (specs : List UnitSpec) : Graph × List PendingLinks :=
  specs.foldl declareSpec (g, [])

/-- Adds the edges of one unit. -/
def linkPending (g : Graph) (links : PendingLinks) : Graph :=
  links.names.foldl
    (fun g name => if isLinkable g links.scope name then (g.link links.source name).graph else g) g

/-- Declares the units of all files, links their references and seals the
result. -/
def buildFrom (g : Graph) (files : List ScannedFile) : Graph :=
  let (g, pending) := declareAll g ((inOrder files).flatMap (·.units))
  (pending.foldl linkPending g).sealed

/-- The architecture of scanned files under a configuration. -/
def build (c : Config) (files : List ScannedFile) : Except (List ConfigFault) Graph :=
  (c.apply Graph.empty).map fun g => buildFrom g files

end Analysis

end ArchLint
