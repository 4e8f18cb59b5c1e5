import ArchLint.Json.Basic
import ArchLint.Text.Basic
import ArchLint.Text.Quoted

namespace ArchLint.Json

/-- A character inside a string. -/
def writeChar (c : Char) : String :=
  if c = '"' then "\\\""
  else if c = '\\' then "\\\\"
  else if c = '\x08' then "\\b"
  else if c = '\x0c' then "\\f"
  else if c = '\n' then "\\n"
  else if c = '\r' then "\\r"
  else if c = '\t' then "\\t"
  else if c.toNat < 0x20 ∨ c = '<' ∨ c = '>' ∨ c = '&' ∨ c = '\u2028' ∨ c = '\u2029' then
    "\\u" ++ Text.hexPadded 4 c.toNat
  else c.toString

def writeString (s : String) : String :=
  "\"" ++ String.join (s.toList.map writeChar) ++ "\""

mutual

/-- A value written on one line. -/
def compact : Json → String
  | .null => "null"
  | .bool value => if value then "true" else "false"
  | .number text => text
  | .string value => writeString value
  | .array items => "[" ++ Text.joinWith "," (compactItems items) ++ "]"
  | .object members => "\x7b" ++ Text.joinWith "," (compactMembers members) ++ "\x7d"

/-- The items of an array, each on one line. -/
def compactItems : List Json → List String
  | [] => []
  | item :: rest => compact item :: compactItems rest

/-- The members of an object, each on one line. -/
def compactMembers : List (String × Json) → List String
  | [] => []
  | (name, value) :: rest => (writeString name ++ ":" ++ compact value) :: compactMembers rest

end

/-- The line break in front of an item at a depth. -/
def lineBreak (depth : Nat) : String :=
  "\n" ++ Text.blanks (2 * depth)

mutual

/-- A value written with one item or member a line, indented by two spaces a
level. `depth` is the level of the value. -/
def indented (depth : Nat) : Json → String
  | .null => "null"
  | .bool value => if value then "true" else "false"
  | .number text => text
  | .string value => writeString value
  | .array items =>
      match indentedItems (depth + 1) items with
      | [] => "[]"
      | texts => "[" ++ Text.joinWith "," texts ++ lineBreak depth ++ "]"
  | .object members =>
      match indentedMembers (depth + 1) members with
      | [] => "\x7b\x7d"
      | texts => "\x7b" ++ Text.joinWith "," texts ++ lineBreak depth ++ "\x7d"

/-- The items of an array, each on lines of its own. -/
def indentedItems (depth : Nat) : List Json → List String
  | [] => []
  | item :: rest => (lineBreak depth ++ indented depth item) :: indentedItems depth rest

/-- The members of an object, each on lines of its own. -/
def indentedMembers (depth : Nat) : List (String × Json) → List String
  | [] => []
  | (name, value) :: rest =>
      (lineBreak depth ++ writeString name ++ ": " ++ indented depth value) ::
        indentedMembers depth rest

end

end ArchLint.Json
