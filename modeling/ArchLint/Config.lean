import ArchLint.Graph.Building
import ArchLint.Number.Decimal
import ArchLint.Text.Folding
import ArchLint.Text.Quoted

namespace ArchLint

/-- A dependency rule as written: exactly one of the patterns is given. -/
structure RuleEntry where
  allow : String := ""
  deny : String := ""
  deriving DecidableEq, Repr, Inhabited

structure PolicyEntry where
  rules : List RuleEntry := []
  fallback : String := ""
  visible : List String := []
  hidden : List String := []
  exportedOnly : Bool := false
  maxDistance : Option Number.Binary64 := none
  deriving DecidableEq, Repr, Inhabited

structure ModuleEntry where
  name : String := ""
  roots : List Region := []
  excluded : List Region := []
  enabled : Option Bool := none
  policy : PolicyEntry := {}
  deriving DecidableEq, Repr, Inhabited

/-- The written modules, in order. -/
structure Config where
  modules : List ModuleEntry := []
  deriving DecidableEq, Repr, Inhabited

inductive PolicyFault where
  | unknownFallback (word : String)
  | bothEffects (index : Nat)
  | noEffect (index : Nat)
  | distanceOutOfRange (value : Number.Binary64)
  deriving DecidableEq, Repr

/-- What a module is called in messages: its place, or its name if it has
one. -/
inductive ModuleLabel where
  | place (index : Nat)
  | named (name : String)
  deriving DecidableEq, Repr

inductive ConfigFault where
  | noName (label : ModuleLabel)
  | reservedName (label : ModuleLabel)
  | emptyRoot (label : ModuleLabel) (index : Nat)
  | badPolicy (label : ModuleLabel) (fault : PolicyFault)
  deriving DecidableEq, Repr

def PolicyFault.message : PolicyFault → String
  | unknownFallback word =>
      "default must be \"allow\" or \"deny\", got " ++ Text.quote word
  | bothEffects index => "dependencies[" ++ toString index ++ "] sets both allow and deny"
  | noEffect index => "dependencies[" ++ toString index ++ "] sets neither allow nor deny"
  | distanceOutOfRange value =>
      "max_allowable_distance must be within [0, 1], got " ++ Number.plainFormat.write value

def ModuleLabel.text : ModuleLabel → String
  | place index => "modules[" ++ toString index ++ "]"
  | named name => "module " ++ Text.quote name

def ConfigFault.message (fault : ConfigFault) : String :=
  "invalid architecture config: " ++
    match fault with
    | noName label => label.text ++ ": name is required"
    | reservedName label => label.text ++ ": names wrapped in '*' are reserved"
    | emptyRoot label index =>
        label.text ++ ": roots[" ++ toString index ++ "] needs a namespace or a path"
    | badPolicy label fault => label.text ++ ": " ++ fault.message

namespace PolicyEntry

/-- The effect that a written fallback names; blank means allow. -/
def effect? (word : String) : Option Effect :=
  let folded := Text.lowerForAscii (Text.trimBlank word)
  if folded = "" ∨ folded = "allow" then some .allow
  else if folded = "deny" then some .deny
  else none

/-- The rule at a place, or its fault. -/
def rule (index : Nat) (entry : RuleEntry) : Except PolicyFault DependencyRule :=
  if !entry.allow.isEmpty && !entry.deny.isEmpty then .error (.bothEffects index)
  else if !entry.allow.isEmpty then .ok ⟨.allow, entry.allow⟩
  else if !entry.deny.isEmpty then .ok ⟨.deny, entry.deny⟩
  else .error (.noEffect index)

/-- The rules from a place on, or the first fault. -/
def rulesFrom (index : Nat) : List RuleEntry → Except PolicyFault (List DependencyRule)
  | [] => .ok []
  | entry :: rest =>
      match rule index entry with
      | .error fault => .error fault
      | .ok r =>
          match rulesFrom (index + 1) rest with
          | .error fault => .error fault
          | .ok rs => .ok (r :: rs)

/-- The policy that an entry describes, or its first fault. -/
def build (entry : PolicyEntry) : Except PolicyFault Policy :=
  match effect? entry.fallback with
  | none => .error (.unknownFallback entry.fallback)
  | some fallback =>
      match rulesFrom 0 entry.rules with
      | .error fault => .error fault
      | .ok rules =>
          match entry.maxDistance.filter fun d => d.isNegative || d.exceedsOne with
          | some d => .error (.distanceOutOfRange d)
          | none =>
              .ok
                { rules := rules
                  fallback := fallback
                  visible := entry.visible
                  hidden := entry.hidden
                  exportedOnly := entry.exportedOnly
                  maxDistance := entry.maxDistance }

end PolicyEntry

namespace ModuleEntry

/-- What the module at a place is called in messages. -/
def label (index : Nat) (entry : ModuleEntry) : ModuleLabel :=
  if (Text.trimBlank entry.name).isEmpty then .place index else .named entry.name

/-- The faults of the module at a place. -/
def faults (index : Nat) (entry : ModuleEntry) : List ConfigFault :=
  let label := entry.label index
  (if (Text.trimBlank entry.name).isEmpty then [.noName label] else []) ++
    (if Text.startsWith entry.name "*" && Text.endsWith entry.name "*" then
      [.reservedName label] else []) ++
    (entry.roots.zipIdx.filter (fun (r, _) => r.isEmpty)).map
      (fun (_, j) => .emptyRoot label j) ++
    match entry.policy.build with
    | .error fault => [.badPolicy label fault]
    | .ok _ => []

end ModuleEntry

namespace Config

def faults (c : Config) : List ConfigFault :=
  c.modules.zipIdx.flatMap fun (entry, index) => entry.faults index

/-- Text of a list of faults. -/
def message (faults : List ConfigFault) : String :=
  Text.joinWith "\n" (faults.map ConfigFault.message)

/-- Registers one written module. -/
def registerEntry (g : Graph) (entry : ModuleEntry) : Graph :=
  let policy := match entry.policy.build with
    | .ok p => some p
    | .error _ => none
  let g := (g.register entry.name entry.roots entry.excluded policy).1
  if entry.enabled = some false then g.disable entry.name else g

/-- Registers the written modules in order, unless there is a fault. -/
def apply (c : Config) (g : Graph) : Except (List ConfigFault) Graph :=
  match c.faults with
  | [] => .ok (c.modules.foldl registerEntry g)
  | faults => .error faults

/-- The name of the module that takes what a project's other modules leave. -/
def projectName : String :=
  "project"

/-- Appends a module for all units below a scope. Resolution takes the first
module that claims a unit, so the new one only gets what no other claims. -/
def withProject (c : Config) (scope : String) : Config :=
  if scope.isEmpty then c
  else ⟨c.modules ++ [{ name := projectName, roots := [{ scope := scope }] }]⟩

/-- The configuration that a new project starts with. -/
def initial : Config where
  modules :=
    [{ name := "domain"
       roots := [{ directory := "internal/domain" }]
       policy :=
         { rules := [{ allow := "model" }, { allow := Module.undefinedName }, { deny := "*" }]
           maxDistance := some (.ofDecimal false 5 (-1)) } },
     { name := "model"
       roots := [{ directory := "internal/model" }]
       policy := { rules := [{ allow := Module.undefinedName }, { deny := "*" }] } },
     { name := "cmd"
       roots := [{ directory := "cmd" }]
       policy := { exportedOnly := true } }]

end Config

end ArchLint
