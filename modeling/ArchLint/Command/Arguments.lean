import ArchLint.Command.Basic

namespace ArchLint

open ArchLint.Text

/-- Why arguments cannot be read. -/
inductive ArgumentFault where
  | badSyntax (argument : String)
  | unknownFlag (name : String)
  | unknownShorthand (letter : Char) (letters : String)
  | missingValue (name : String)
  | missingShorthandValue (letter : Char) (letters : String)
  | invalidValue (flag : Flag) (value reason : String)

def quotedLetter (c : Char) : String :=
  "'" ++ (if c = '\'' then "\\'" else if c = '"' then "\"" else quoteChar c) ++ "'"

def ArgumentFault.message : ArgumentFault → String
  | .badSyntax argument => "bad flag syntax: " ++ argument
  | .unknownFlag name => "unknown flag: --" ++ name
  | .unknownShorthand letter letters =>
      "unknown shorthand flag: " ++ quotedLetter letter ++ " in -" ++ letters
  | .missingValue name => "flag needs an argument: --" ++ name
  | .missingShorthandValue letter letters =>
      "flag needs an argument: " ++ quotedLetter letter ++ " in -" ++ letters
  | .invalidValue flag value reason =>
      "invalid argument " ++ quote value ++ " for " ++ quote flag.label ++ " flag: " ++ reason

/-- Arguments that are read: the flags, and the other arguments. -/
structure Arguments where
  flags : List GivenFlag := []
  values : List String := []

namespace Arguments

/-- Gives a value to a flag. -/
def give (flag : Flag) (value : String) : Except ArgumentFault GivenFlag :=
  match flag.valueOf value with
  | .ok setting => .ok ⟨flag, setting⟩
  | .error reason => .error (.invalidValue flag value reason)

/-- Reads a flag by its name, from the text behind two hyphens. The value
follows an equals sign or is the next argument. -/
def readNamed (flags : List Flag) (text : List Char) (next : List String) :
    Except ArgumentFault (GivenFlag × List String) := do
  match text with
  | [] => .error (.badSyntax "--")
  | c :: _ =>
      if c = '-' ∨ c = '=' then .error (.badSyntax ("--" ++ String.ofList text))
      else
        let (name, value) := match cut? '=' text with
          | some (name, value) => (String.ofList name, some (String.ofList value))
          | none => (String.ofList text, none)
        match flags.find? (·.name == name), value, next with
        | none, _, _ => .error (.unknownFlag name)
        | some flag, some value, next => .ok (← give flag value, next)
        | some flag, none, next =>
            if flag.standsAlone then .ok (← give flag "true", next)
            else
              match next with
              | value :: rest => .ok (← give flag value, rest)
              | [] => .error (.missingValue name)

/-- The letter that messages show for a shorthand: the first byte of its
encoding. -/
def shownLetter (c : Char) : Char :=
  ((toBytes c.toString).toList.head?).elim c fun b => Char.ofNat b.toNat

/-- Reads flags by their letters, from the text behind one hyphen. The value of
the last one follows its letter or is the next argument. -/
def readLetters (flags : List Flag) :
    List Char → List String → Except ArgumentFault (List GivenFlag × List String)
  | [], next => .ok ([], next)
  | c :: rest, next => do
      let letters := String.ofList (c :: rest)
      match flags.find? (·.shorthand == some c), rest with
      | none, _ => .error (.unknownShorthand (shownLetter c) letters)
      | some flag, '=' :: d :: value => .ok ([← give flag (String.ofList (d :: value))], next)
      | some flag, rest =>
          if flag.standsAlone then
            let given ← give flag "true"
            let (more, next) ← readLetters flags rest next
            .ok (given :: more, next)
          else
            match rest, next with
            | d :: ds, next => .ok ([← give flag (String.ofList (d :: ds))], next)
            | [], value :: next => .ok ([← give flag value], next)
            | [], [] => .error (.missingShorthandValue (shownLetter c) letters)

/-- Reads arguments. The fuel is their number. -/
def readFrom (flags : List Flag) : Nat → List String → Except ArgumentFault Arguments
  | 0, _ => .ok {}
  | _, [] => .ok {}
  | n + 1, argument :: next =>
      match argument.toList with
      | ['-', '-'] => .ok { values := next }
      | '-' :: '-' :: text => do
          let (given, next) ← readNamed flags text next
          let more ← readFrom flags n next
          .ok { more with flags := given :: more.flags }
      | '-' :: c :: letters => do
          let (given, next) ← readLetters flags (c :: letters) next
          let more ← readFrom flags n next
          .ok { more with flags := given ++ more.flags }
      | _ => do
          let more ← readFrom flags n next
          .ok { more with values := argument :: more.values }

def read (c : Command) (arguments : List String) : Except ArgumentFault Arguments :=
  readFrom (c.knownFlags ++ [c.helpFlag]) arguments.length arguments

end Arguments

/-- The message about a number of arguments that a command does not take. -/
def Command.argumentFault? (c : Command) (values : List String) : Option String :=
  match c.argumentRule with
  | .any => none
  | .none =>
      values.head?.map fun value => "unknown command " ++ quote value ++ " for " ++ quote c.path
  | .atMost n =>
      if values.length ≤ n then none
      else some ("accepts at most " ++ toString n ++ " arg(s), received " ++ toString values.length)
  | .exactly n =>
      if values.length = n then none
      else some ("accepts " ++ toString n ++ " arg(s), received " ++ toString values.length)

end ArchLint
