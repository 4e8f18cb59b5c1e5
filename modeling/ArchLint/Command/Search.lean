import ArchLint.Command.Basic
import ArchLint.Text.Distance

namespace ArchLint.Command

open ArchLint.Text

/-- Whether an argument is a flag whose value is the next argument. -/
def takesNext (flags : List Flag) (argument : String) : Bool :=
  match argument.toList with
  | '-' :: '-' :: name =>
      !name.elem '=' &&
        !(flags.any fun f => f.name == String.ofList name && f.standsAlone)
  | ['-', c] =>
      c != '=' && c.toNat < 0x80 && !(flags.any fun f => f.shorthand == some c && f.standsAlone)
  | _ => false

/-- Whether an argument is no flag. -/
def isPlain (argument : String) : Bool :=
  !startsWith argument "-"

/-- The arguments that are neither flags nor their values. A flag with at most
one argument behind it ends the search. -/
def plainArguments (flags : List Flag) : List String → List String
  | [] => []
  | "--" :: _ => []
  | [argument] =>
      if takesNext flags argument then []
      else if isPlain argument && !argument.isEmpty then [argument] else []
  | argument :: next :: rest =>
      if takesNext flags argument then
        if rest.isEmpty then [] else plainArguments flags rest
      else if isPlain argument && !argument.isEmpty then
        argument :: plainArguments flags (next :: rest)
      else plainArguments flags (next :: rest)

/-- The arguments without the first one that is the name of a command. -/
def withoutName (flags : List Flag) (name : String) : List String → List String
  | [] => []
  | "--" :: rest => "--" :: rest
  | [argument] =>
      if !takesNext flags argument && isPlain argument && argument == name then []
      else [argument]
  | argument :: next :: rest =>
      if takesNext flags argument then argument :: next :: withoutName flags name rest
      else if isPlain argument && argument == name then next :: rest
      else argument :: withoutName flags name (next :: rest)

/-- Follows the names of commands from a command on. The fuel bounds the depth
of the commands. -/
def follow : Nat → Command → List String → Command × List String
  | 0, c, arguments => (c, arguments)
  | n + 1, c, arguments =>
      match plainArguments c.knownFlags arguments with
      | [] => (c, arguments)
      | name :: _ =>
          match c.children.find? (·.name == name) with
          | some child => follow n child (withoutName c.knownFlags name arguments)
          | none => (c, arguments)

/-- The commands whose names are close to a word: up to two bytes apart, or
continuing it. The command for help is not suggested. -/
def suggestions (word : String) : List String :=
  let lowered := lowerForAscii word
  ((Command.root.children.filter (· ≠ .help)).map (·.name)).filter fun name =>
    decide (editDistance lowered name ≤ 2) || startsWith name lowered

/-- The message about a word that is no command. -/
def unknownMessage (word : String) : String :=
  let similar := suggestions word
  "unknown command " ++ quote word ++ " for " ++ quote programName ++
    (if similar.isEmpty then ""
     else "\n\nDid you mean this?\n" ++ String.join (similar.map fun s => "\t" ++ s ++ "\n"))

/-- The command that arguments name, and the arguments for it. The program
itself takes no plain arguments. -/
def find (arguments : List String) : Except String (Command × List String) :=
  let (c, rest) := follow 3 .root arguments
  match c, plainArguments c.knownFlags rest with
  | .root, word :: _ => .error (unknownMessage word)
  | _, _ => .ok (c, rest)

end ArchLint.Command
