import ArchLint.Graph.Dependencies

namespace ArchLint

namespace Graph

/-- The closed walks from `start` back to it, over modules not on `path`.
`path` is the way so far, latest first, and `fuel` the number of modules that
can still be added to it. -/
def closedWalks (next : Nat → List Nat) (start : Nat) : Nat → List Nat → Nat → List (List Nat)
  | 0, _, _ => []
  | fuel + 1, path, current =>
      let path := current :: path
      (next current).flatMap fun d =>
        if path.elem d then
          if d = start then [(d :: path).reverse] else []
        else closedWalks next start fuel path d

/-- The places of the modules that each module depends on. -/
def dependencyTable (g : Graph) : Array (List Nat) :=
  g.modules.map fun m => (g.dependencyModules m).map (·.order)

/-- The cycles through the module at a place, as places. -/
def cyclesAt (g : Graph) (start : Nat) : List (List Nat) :=
  let table := g.dependencyTable
  closedWalks (fun i => (table[i]?).getD []) start g.modules.size [] start

/-- The dependency cycles that start and end at a module. -/
def cyclesThrough (g : Graph) (m : Module) : List (List Module) :=
  (g.cyclesAt m.order).map g.modulesAt

/-- The ring of a cycle, turned so that it starts at its first registered
module. -/
def turnedRing (cycle : List Module) : List Module :=
  let ring := cycle.dropLast
  match (ring.map (·.order)).min? with
  | none => []
  | some least =>
      ring.dropWhile (fun m => m.order != least) ++ ring.takeWhile (fun m => m.order != least)

/-- A text that names a cycle wherever it starts: the names on its ring, each
with a NUL after it. -/
def cycleKey (cycle : List Module) : String :=
  String.ofList ((turnedRing cycle).flatMap fun m => m.name.toList ++ ['\x00'])

/-- Keeps the first cycle of every key that has not been seen. -/
def distinctCycles (seen : List String) : List (List Module) → List (List Module)
  | [] => []
  | c :: cs =>
      if seen.elem (cycleKey c) then distinctCycles seen cs
      else c :: distinctCycles (cycleKey c :: seen) cs

/-- All cycles through enabled modules, each once, as found from the first
enabled module on it. -/
def cycles (g : Graph) : List (List Module) :=
  distinctCycles [] (g.enabledModules.flatMap g.cyclesThrough)

end Graph

end ArchLint
