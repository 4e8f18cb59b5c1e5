import ArchLint.CodeUnit
import ArchLint.Glob
import ArchLint.Number.Binary64

namespace ArchLint

/-- The outcome of a dependency rule. Any word but `deny` permits. -/
inductive Effect where
  | allow
  | deny
  | other (label : String)
  deriving DecidableEq, Repr, Inhabited

namespace Effect

def text : Effect → String
  | allow => "allow"
  | deny => "deny"
  | other label => label

/-- The effect that a word names. -/
def ofText (s : String) : Effect :=
  if s = "allow" then allow else if s = "deny" then deny else other s

end Effect

/-- A rule about dependencies on the modules whose name matches a pattern. -/
structure DependencyRule where
  effect : Effect
  pattern : String
  deriving DecidableEq, Repr, Inhabited

/-- The policy of a module. The first matching rule decides about a
dependency, and `fallback` where none matches. With a nonempty `visible` list
only the units that match it are visible outside, and never those that match
`hidden`. -/
structure Policy where
  rules : List DependencyRule := []
  fallback : Effect := .allow
  visible : List String := []
  hidden : List String := []
  exportedOnly : Bool := false
  maxDistance : Option Number.Binary64 := none
  deriving DecidableEq, Repr, Inhabited

/-- A way to match names against the patterns of policies. -/
class Matching where
  accepts : (pattern name : String) → Bool

instance : Matching :=
  ⟨Glob.accepts⟩

namespace Policy

variable [Matching]

/-- The effect on dependencies on a module of the given name. -/
def effectOn (p : Policy) (name : String) : Effect :=
  match p.rules.find? (fun rule => Matching.accepts rule.pattern name) with
  | some rule => rule.effect
  | none => p.fallback

/-- Whether the module called `dependent`, whose policy this is, may depend on
the module called `dependency`. -/
def allows (p : Policy) (dependent dependency : String) : Bool :=
  dependency = dependent || p.effectOn dependency != .deny

/-- Whether a unit may be used outside the module called `owner`, whose policy
this is. Units of other modules are not its business. -/
def exposes (p : Policy) (owner : String) (u : CodeUnit) : Bool :=
  !u.belongsTo owner ||
    (!(p.exportedOnly && !u.exported) &&
      !p.hidden.any (fun pattern => Matching.accepts pattern u.slashName) &&
      (p.visible.isEmpty || p.visible.any (fun pattern => Matching.accepts pattern u.slashName)))

end Policy

end ArchLint
