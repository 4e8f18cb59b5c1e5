import ArchLint.Config
import ArchLint.Settings.Setting

/-!
Reading the architecture from settings. Values of a neighbouring kind are taken
over: a single value for a list of one, a list of names in one text, numbers and
truth values for texts and the other way round. Everything that does not fit is
reported with the place where it stands.
-/

namespace ArchLint

open ArchLint.Text
open ArchLint.Number (Binary64 Decimal)

inductive SettingProblem where
  /-- A table is expected where another kind of value stands. -/
  | noTable (kind : String)
  /-- A text cannot be read as a value of a type. -/
  | unreadable (type reader reason : String)
  /-- A value cannot be taken for one of a type. -/
  | unconvertible (type given : String)
  deriving DecidableEq, Repr

def SettingProblem.text : SettingProblem → String
  | .noTable kind => "expected a map or struct, got " ++ quote kind
  | .unreadable type reader reason =>
      "cannot parse value as '" ++ type ++ "': strconv." ++ reader ++ ": " ++ reason
  | .unconvertible type given =>
      "expected type '" ++ type ++ "', got unconvertible type '" ++ given ++ "'"

/-- A problem and the place of the value that has it. -/
structure SettingFault where
  place : String
  problem : SettingProblem
  deriving DecidableEq, Repr

def SettingFault.message (f : SettingFault) : String :=
  "'" ++ f.place ++ "' " ++ f.problem.text

/-- The message about all faults. A value that is no architecture at all is a
fault without place. -/
def SettingFault.messageOf (faults : List SettingFault) : String :=
  let messages := joinWith "\n" (faults.map (·.message))
  if faults.all (·.place.isEmpty) then messages
  else "decoding failed due to the following error(s):\n\n" ++ messages

namespace Setting

def kindName : Setting → String
  | .null => "invalid"
  | .bool _ => "bool"
  | .int n => if Number.isInt64 n then "int" else "uint64"
  | .float _ => "float64"
  | .time _ => "struct"
  | .text _ => "string"
  | .list _ => "slice"
  | .table _ => "map"

def typeName : Setting → String
  | .time _ => "time.Time"
  | .list _ => "[]interface \x7b\x7d"
  | .table _ => "map[string]interface \x7b\x7d"
  | s => s.kindName

/-- Reads a value of a type from its place; a value that does not fit keeps the
old one and adds a fault. -/
abbrev Reader (α : Type) := String → α → Setting → α × List SettingFault

def readText : Reader String := fun place old s =>
  match s with
  | .null => (old, [])
  | .text t => (t, [])
  | .bool b => (if b then "1" else "0", [])
  | .int _ => (s.asText, [])
  | .float _ => (s.asText, [])
  | s => (old, [⟨place, .unconvertible "string" s.typeName⟩])

def readBool : Reader Bool := fun place old s =>
  match s with
  | .null => (old, [])
  | .bool _ => (s.asBool, [])
  | .int _ => (s.asBool, [])
  | .float _ => (s.asBool, [])
  | .text t =>
      if t.isEmpty then (false, [])
      else
        match truthOf? t with
        | some b => (b, [])
        | none => (old, [⟨place, .unreadable "bool" "ParseBool" "invalid syntax"⟩])
  | s => (old, [⟨place, .unconvertible "bool" s.typeName⟩])

/-- The number that a text writes, or the reason why it writes none. -/
def numberOf (t : String) : Except String Binary64 :=
  let (negative, word) := Number.splitSign true t.toList
  let word := lowerForAscii (String.ofList word)
  if word = "inf" ∨ word = "infinity" then .ok (.infinite negative)
  else if t.toList.head? ≠ some '+' ∧ t.toList.head? ≠ some '-' ∧ word = "nan" then
    .ok .notANumber
  else
    match (Decimal.ofText? true t.toList).map Decimal.toBinary64 with
    | none => .error "invalid syntax"
    | some (Binary64.infinite _) => .error "value out of range"
    | some x => .ok x

def readNumber : Reader Binary64 := fun place old s =>
  match s with
  | .null => (old, [])
  | .bool b => (.ofNat (if b then 1 else 0), [])
  | .int n => (.nearest (decide (n < 0)) n.natAbs 1, [])
  | .float x => (x, [])
  | .text t =>
      match numberOf (if t.isEmpty then "0" else t) with
      | .ok x => (x, [])
      | .error reason => (old, [⟨place, .unreadable "float64" "ParseFloat" reason⟩])
  | s => (old, [⟨place, .unconvertible "float64" s.typeName⟩])

/-- Reads a value that may be absent. -/
def readOptional {α : Type} (read : Reader α) (initial : α) : Reader (Option α) :=
  fun place old s =>
    if s.isNull then (old, [])
    else
      match read place initial s with
      | (value, []) => (some value, [])
      | (_, faults) => (old, faults)

/-- The values of a list. One value stands for a list of one, a text for the
parts between its commas. -/
def itemsOf : Setting → List Setting
  | .list items => items
  | .table [] => []
  | .text t => if t.isEmpty then [] else (splitAt ',' t).map .text
  | s => [s]

def readList {α : Type} (read : Reader α) (initial : α) : Reader (List α) :=
  fun place old s =>
    if s.isNull then (old, [])
    else
      let results := (itemsOf s).zipIdx.map fun (item, i) =>
        read (place ++ "[" ++ toString i ++ "]") initial item
      (results.map (·.1), results.flatMap (·.2))

/-- The entry for a field, under its name or under one that differs in case. -/
def fieldOf (entries : List (String × Setting)) (name : String) : Setting :=
  ((entries.lookup name).or
    ((entries.find? fun e => equalUpToCase e.1 name).map (·.2))).getD .null

def readField {α β : Type} (name : String) (read : Reader β) (get : α → β) (set : α → β → α)
    (place : String) (entries : List (String × Setting)) (state : α × List SettingFault) :
    α × List SettingFault :=
  let (a, faults) := state
  let below := if place.isEmpty then name else place ++ "." ++ name
  let (value, more) := read below (get a) (fieldOf entries name)
  (set a value, faults ++ more)

/-- A field of a structure that is read from the entries of a table. -/
abbrev FieldReader (α : Type) :=
  String → List (String × Setting) → α × List SettingFault → α × List SettingFault

/-- Reads a structure from a table, field by field. -/
def readTable {α : Type} (fields : List (FieldReader α)) : Reader α := fun place old s =>
  match s with
  | .null => (old, [])
  | .time _ => (old, [])
  | .table entries => fields.foldl (fun state field => field place entries state) (old, [])
  | s => (old, [⟨place, .noTable s.kindName⟩])

def readRegion : Reader Region :=
  readTable
    [readField "namespace" readText (·.scope) fun r scope => { r with scope },
      readField "path" readText (·.directory) fun r directory => { r with directory }]

def readRule : Reader RuleEntry :=
  readTable
    [readField "allow" readText (·.allow) fun r allow => { r with allow },
      readField "deny" readText (·.deny) fun r deny => { r with deny }]

/-- Reads the restrictions of a module. -/
def readPolicy : Reader PolicyEntry :=
  readTable
    [readField "dependencies" (readList readRule {}) (·.rules) fun p rules => { p with rules },
      readField "default" readText (·.fallback) fun p fallback => { p with fallback },
      readField "public" (readList readText "") (·.visible) fun p visible => { p with visible },
      readField "private" (readList readText "") (·.hidden) fun p hidden => { p with hidden },
      readField "exported_only" readBool (·.exportedOnly)
        fun p exportedOnly => { p with exportedOnly },
      readField "max_allowable_distance" (readOptional readNumber .zero) (·.maxDistance)
        fun p maxDistance => { p with maxDistance }]

def readModule : Reader ModuleEntry :=
  readTable
    [readField "name" readText (·.name) fun m name => { m with name },
      readField "roots" (readList readRegion {}) (·.roots) fun m roots => { m with roots },
      readField "excluded" (readList readRegion {}) (·.excluded)
        fun m excluded => { m with excluded },
      readField "enabled" (readOptional readBool false) (·.enabled)
        fun m enabled => { m with enabled },
      readField "restrictions" readPolicy (·.policy) fun m policy => { m with policy }]

def readConfig : Reader Config :=
  readTable
    [readField "modules" (readList readModule {}) (·.modules) fun c modules => { c with modules }]

end Setting

def Config.ofSetting (s : Setting) : Except (List SettingFault) Config :=
  match Setting.readConfig "" {} s with
  | (c, []) => .ok c
  | (_, faults) => .error faults

end ArchLint
