import ArchLint.Graph.Dependencies
import ArchLint.Number.Binary64

/-!
Metrics of modules, rounded to thousandths. Every operation is an operation on
rationals followed by the rounding `fl` of the arithmetic in use: the identity
for exact arithmetic, `roundBinary64` for double precision.
-/

namespace ArchLint

/-- Rounds to the nearest integer, halves away from zero. -/
def roundHalfAway (q : Rat) : Int :=
  if q < 0 then -((-q + 1 / 2).floor) else (q + 1 / 2).floor

/-- Rounds to three decimal places. -/
def roundThousandths (fl : Rat → Rat) (q : Rat) : Rat :=
  fl (roundHalfAway (fl (q * 1000)) / 1000)

/-- The share of `part` in `total`, in thousandths; zero when there is
nothing. -/
def share (fl : Rat → Rat) (part total : Nat) : Rat :=
  if total = 0 then 0 else roundThousandths fl (fl ((part : Rat) / (total : Rat)))

/-- How far a distance exceeds a limit; zero when it does not. -/
def overage (fl : Rat → Rat) (distance limit : Rat) : Rat :=
  let excess := roundThousandths fl (fl (distance - limit))
  if excess ≤ 0 then 0 else excess

namespace Graph

/-- The share of predeclared names among the dependencies of a unit. -/
def primitivenessOf (g : Graph) (fl : Rat → Rat) (u : CodeUnit) : Rat :=
  share fl ((g.unitsOf u.dependencies.toList).countP (·.isPrimitive)) u.dependencies.size

/-- The share of abstract units among those with known abstractness. -/
def abstractness (g : Graph) (fl : Rat → Rat) (m : Module) : Rat :=
  let known := (g.members m).filterMap (·.isAbstract)
  share fl (known.countP id) known.length

/-- The names of distinct units of other modules that depend on `m`. -/
def fanIn (g : Graph) (m : Module) : List String :=
  Text.distinct ((g.externalDependents m).map (·.name))

/-- The names of distinct units of other modules that `m` depends on. -/
def fanOut (g : Graph) (m : Module) : List String :=
  Text.distinct ((g.externalDependencies m).map (·.name))

/-- The share of outgoing dependencies among all that cross the border of the
module. -/
def instability (g : Graph) (fl : Rat → Rat) (m : Module) : Rat :=
  let fanOut := (g.fanOut m).length
  share fl fanOut ((g.fanIn m).length + fanOut)

/-- The distance from the main sequence, on which abstractness and instability
add up to one. -/
def distance (g : Graph) (fl : Rat → Rat) (m : Module) : Rat :=
  let sum := fl (fl (g.abstractness fl m + g.instability fl m) - 1)
  roundThousandths fl (if sum < 0 then -sum else sum)

/-- The mean primitiveness of the members. -/
def primitiveness (g : Graph) (fl : Rat → Rat) (m : Module) : Rat :=
  let members := g.members m
  if members.isEmpty then 0
  else
    let sum := members.foldl (fun sum u => fl (sum + g.primitivenessOf fl u)) 0
    roundThousandths fl (fl (sum / (members.length : Rat)))

/-- How far the distance exceeds what the policy allows; zero when it does not
or no limit is set. Rationals are not measured against a limit that is not a
finite number. -/
def distanceOverage (g : Graph) (fl : Rat → Rat) (m : Module) : Rat :=
  match m.policy.maxDistance with
  | none => 0
  | some limit => if limit.isFinite then overage fl (g.distance fl m) limit.toRat else 0

end Graph

end ArchLint
