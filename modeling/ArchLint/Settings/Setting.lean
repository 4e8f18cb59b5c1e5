import ArchLint.Number.Decimal
import ArchLint.Number.Integer
import ArchLint.Text.Folding
import ArchLint.Yaml.Update

namespace ArchLint

open ArchLint.Number
open ArchLint.Text

/-- A value of a setting. The names in a table are in lower case. -/
inductive Setting where
  | null
  | bool (value : Bool)
  | int (value : Int)
  | float (value : Binary64)
  | time (value : Timestamp)
  | text (value : String)
  | list (items : List Setting)
  | table (entries : List (String × Setting))
  deriving Inhabited

namespace Setting

def ofValue : Yaml.Value → Setting
  | .null => .null
  | .bool b => .bool b
  | .int n => .int n
  | .float x => .float x
  | .time t => .time t
  | .text s => .text s

def isNull : Setting → Bool
  | .null => true
  | _ => false

def entries? : Setting → Option (List (String × Setting))
  | .table entries => some entries
  | _ => none

/-- Plain decimal digits without exponent. -/
def numberFormat : NumberFormat :=
  ⟨-400, 400, 2, 2, "+Inf", "-Inf", "NaN"⟩

/-- A time in words: date, time of day, offset and the name of the zone. -/
def timeText (t : Timestamp) : String :=
  let pad := Timestamp.padded
  let minutes := t.offset.natAbs / 60
  let offset := (if t.offset < 0 then "-" else "+") ++ pad 2 (minutes / 60) ++ pad 2 (minutes % 60)
  pad 4 t.year ++ "-" ++ pad 2 t.month ++ "-" ++ pad 2 t.day ++ " " ++
    pad 2 t.hour ++ ":" ++ pad 2 t.minute ++ ":" ++ pad 2 t.second ++
    Timestamp.fractionText t.nanosecond ++ " " ++ offset ++ " " ++
    (if t.offset = 0 then "UTC" else offset)

/-- The value as a text, if it is one piece. -/
def text? : Setting → Option String
  | .null => some ""
  | .bool b => some (if b then "true" else "false")
  | .int n => some (toString n)
  | .float x => some (numberFormat.write x)
  | .time t => some (timeText t)
  | .text s => some s
  | .list _ => none
  | .table _ => none

def asText (s : Setting) : String :=
  s.text?.getD ""

/-- The truth value that a text names. -/
def truthOf? (s : String) : Option Bool :=
  if ["1", "t", "T", "true", "TRUE", "True"].elem s then some true
  else if ["0", "f", "F", "false", "FALSE", "False"].elem s then some false
  else none

/-- The value as a truth value. Numbers other than zero are true. -/
def asBool : Setting → Bool
  | .bool b => b
  | .int n => n != 0
  | .float x => x.toRat != 0 || !x.isFinite
  | .text s => (truthOf? s).getD false
  | _ => false

/-- The whole part of a number with a point; other texts stay. -/
def wholePart (s : String) : String :=
  let (negative, digits) := splitSign true s.toList
  match digits.dropWhile Char.isDigit with
  | '.' :: fraction =>
      if fraction.all Char.isDigit then
        let whole := digits.takeWhile Char.isDigit
        (if negative then "-" else "") ++ String.ofList (if whole.isEmpty then ['0'] else whole)
      else s
  | _ => s

/-- The value as a whole number; fractions are cut off. -/
def asInt : Setting → Int
  | .bool b => if b then 1 else 0
  | .int n => Int.bmod n (Nat.pow 2 64)
  | .float x => (Yaml.cutToInt? x).getD 0
  | .text s => ((integerOf (wholePart s)).toOption).getD 0
  | _ => 0

/-- The value as a list of texts. A text is split at its blanks. -/
def asTexts : Setting → List String
  | .list items => items.map asText
  | .text s => ((s.toList.splitBy fun a b => isBlank a == isBlank b).filter fun word =>
      !word.all isBlank).map String.ofList
  | .null => []
  | s => s.text?.toList

/-- The name of a key. A key that is no scalar has none, and one that is absent
has an absent name. -/
def nameOf? (key : Yaml.Node) : Option (Option String) :=
  match key.target? with
  | some (.scalar s) =>
      s.value?.map fun value =>
        match value with
        | .null => none
        | value => some (lowerForAscii (ofValue value).asText)
  | _ => none

/-- The entries that a merged value brings in. -/
def mergedEntries? : Setting → Option (List (String × Setting))
  | .table entries => some entries
  | .list items => (items.mapM entries?).map List.flatten
  | _ => none

mutual

def ofNode? : Yaml.Node → Option Setting
  | .scalar s => s.value?.map ofValue
  | .sequence items => (ofItems? items).map .list
  | .mapping entries =>
      if Yaml.keysDiffer entries then
        (ofEntries? entries).map fun (own, merged) => .table (own ++ merged)
      else none
  | .alias _ (some target) => ofNode? target
  | .alias _ none => none

def ofItems? : List Yaml.Node → Option (List Setting)
  | [] => some []
  | item :: rest => do
      let first ← ofNode? item
      let more ← ofItems? rest
      some (first :: more)

/-- The entries of a mapping: its own, and those that are brought in. -/
def ofEntries? :
    List (Yaml.Node × Yaml.Node) → Option (List (String × Setting) × List (String × Setting))
  | [] => some ([], [])
  | (key, node) :: rest => do
      let value ← ofNode? node
      let (own, merged) ← ofEntries? rest
      if key.isMergeKey then
        let brought ← mergedEntries? value
        some (own, brought ++ merged)
      else
        match ← nameOf? key with
        | some name => some ((name, value) :: own, merged)
        | none => some (own, merged)

end

/-- The table of a settings file. An empty file has an empty table; another
file has to be a mapping. -/
def tableOf? (text : String) : Option (List (String × Setting)) := do
  match ← Yaml.Node.ofText? text with
  | none => some []
  | some node =>
      match ← ofNode? node with
      | .table entries => some entries
      | .null => some []
      | _ => none

end Setting

end ArchLint
