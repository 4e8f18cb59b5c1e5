import ArchLint.Settings.Setting

/-!
Where settings come from. A flag of the command line wins over a variable of
the environment, which wins over the settings file, which wins over the default.
A key has one name or several; a plain value where a table is expected hides
everything below it.
-/

namespace ArchLint

open ArchLint.Text

/-- The names that lead to a setting. -/
abbrev SettingKey := List String

structure Settings where
  /-- Values of the flags that are given. -/
  flags : List (SettingKey × Setting) := []
  environment : List (String × String) := []
  /-- The table of the settings file. -/
  file : List (String × Setting) := []
  defaults : List (SettingKey × Setting) := []

namespace Settings

def variableOf (key : SettingKey) : String :=
  String.ofList (("CLEANARCH_" ++ joinWith "_" key).toList.map fun c =>
    if c = '-' ∨ c = '.' then '_' else c.toUpper)

/-- The value of a variable that is not empty. -/
def fromEnvironment? (s : Settings) (key : SettingKey) : Option String :=
  (s.environment.lookup (variableOf key)).filter (!·.isEmpty)

/-- The keys of the tables around a setting. -/
def parents (key : SettingKey) : List SettingKey :=
  (List.range key.length).drop 1 |>.map key.take

/-- The value of a key in a table. A name in the table may stand for several
names of the key, the longest first. The fuel is the length of the key. -/
def search (table : List (String × Setting)) : Nat → SettingKey → Setting
  | 0, _ => .null
  | n + 1, key =>
      let candidates := (List.range key.length).reverse.map fun i =>
        match table.lookup (joinWith "." (key.take (i + 1))), key.drop (i + 1) with
        | none, _ => .null
        | some value, [] => value
        | some value, rest =>
            match value with
            | .table entries => search entries n rest
            | _ => .null
      (candidates.find? (!·.isNull)).getD .null

/-- The value of a key that is followed name by name. -/
def follow (table : List (String × Setting)) : SettingKey → Setting
  | [] => .table table
  | name :: rest =>
      match table.lookup name with
      | some (.table entries) => follow entries rest
      | some value => if rest.isEmpty then value else .null
      | none => .null

/-- Whether a plain value in the settings file hides a key. -/
def isHidden (s : Settings) (key : SettingKey) : Bool :=
  (parents key).any fun parent =>
    match follow s.file parent with
    | .null => false
    | .table _ => false
    | _ => true

def get (s : Settings) (key : SettingKey) : Setting :=
  match s.flags.lookup key, s.fromEnvironment? key with
  | some value, _ => value
  | none, some text => .text text
  | none, none =>
      if (parents key).any fun parent => (s.fromEnvironment? parent).isSome then .null
      else
        let value := search s.file key.length key
        if !value.isNull then value
        else if s.isHidden key then .null
        else (s.defaults.lookup key).getD .null

end Settings

end ArchLint
