import ArchLint.Settings.Lookup
import ArchLint.Text.Quoted

namespace ArchLint

open ArchLint.Text

/-- The values of a flag, with the value that it has when it is not given. -/
inductive FlagKind where
  /-- A truth value; the flag alone means true. -/
  | switch (initial : Bool)
  | number (initial : Int)
  | text (initial : String)
  /-- Texts, one for each time that the flag is given. -/
  | texts
  deriving DecidableEq, Repr

structure Flag where
  name : String
  shorthand : Option Char := none
  kind : FlagKind
  description : String
  /-- The setting that the flag gives. -/
  key : Option SettingKey := none
  deriving DecidableEq, Repr

structure GivenFlag where
  flag : Flag
  value : Setting

namespace Flag

/-- Whether the value may be left out. -/
def standsAlone (f : Flag) : Bool :=
  match f.kind with
  | .switch _ => true
  | _ => false

/-- The flag as messages call it. -/
def label (f : Flag) : String :=
  match f.shorthand with
  | some c => "-" ++ c.toString ++ ", --" ++ f.name
  | none => "--" ++ f.name

/-- The value that a text gives to a flag, or the reason why it gives none. -/
def valueOf (f : Flag) (text : String) : Except String Setting :=
  match f.kind with
  | .switch _ =>
      match Setting.truthOf? text with
      | some b => .ok (.bool b)
      | none => .error ("strconv.ParseBool: parsing " ++ quote text ++ ": invalid syntax")
  | .number _ =>
      match Number.integerOf text with
      | .ok n => .ok (.int n)
      | .error fault =>
          .error ("strconv.ParseInt: parsing " ++ quote text ++ ": " ++ fault.text)
  | .text _ => .ok (.text text)
  | .texts => .ok (.text text)

def valueWord (f : Flag) : String :=
  match f.kind with
  | .switch _ => ""
  | .number _ => " int"
  | .text _ => " string"
  | .texts => " stringArray"

/-- The remark on a value that a flag has when it is not given. -/
def initialRemark (f : Flag) : String :=
  match f.kind with
  | .switch true => " (default true)"
  | .number n => if n = 0 then "" else " (default " ++ toString n ++ ")"
  | .text t => if t.isEmpty then "" else " (default " ++ quote t ++ ")"
  | _ => ""

/-- The names of a flag at the start of its line. -/
def usageHead (f : Flag) : String :=
  (match f.shorthand with
    | some c => "  -" ++ c.toString ++ ", --"
    | none => "      --") ++ f.name ++ f.valueWord

/-- The lines about flags, ordered by name, with the descriptions in one
column. -/
def usageLines (flags : List Flag) : List String :=
  let column := (flags.map (·.usageHead.length)).foldl max 0
  (flags.mergeSort fun a b => byteLe a.name b.name).map fun f =>
    f.usageHead ++ blanks (column - f.usageHead.length) ++ "   " ++ f.description ++
      f.initialRemark

end Flag

/-- The values of the given flags by their settings. The last value of a flag
counts; texts are collected, and a single empty one counts for nothing. -/
def GivenFlag.settings (given : List GivenFlag) : List (SettingKey × Setting) :=
  given.reverse.filterMap fun g =>
    g.flag.key.map fun key =>
      match g.flag.kind with
      | .texts =>
          let texts := (given.filter fun other => other.flag.name == g.flag.name).map
            fun other => other.value.asText
          (key, .list (if texts = [""] then [] else texts.map .text))
      | _ => (key, g.value)

def GivenFlag.last? (given : List GivenFlag) (name : String) : Option Setting :=
  (given.reverse.find? fun g => g.flag.name == name).map (·.value)

def GivenFlag.all (given : List GivenFlag) (name : String) : List String :=
  (given.filter fun g => g.flag.name == name).map (·.value.asText)

end ArchLint
