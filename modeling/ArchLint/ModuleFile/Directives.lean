import ArchLint.Disk
import ArchLint.ModuleFile.Basic
import ArchLint.Source.Token.Literal

namespace ArchLint.ModuleFile

/-- The text of a word: quoted, or without any quotes. -/
def unquoted (word : String) : Except String String :=
  match word.toList with
  | '"' :: rest =>
      match Source.Literal.text? (rest.length + 1) rest with
      | some (pieces, []) => .ok (Source.Literal.textOf pieces)
      | _ => .error "invalid syntax"
  | chars =>
      if chars.any fun c => c == '"' || c == '\'' || c == '\x60' then
        .error "unquoted string cannot contain quote"
      else .ok word

/-- A number without leading zeros in front of a text. -/
def readNumber? (s : List Char) : Option (List Char × List Char) :=
  let ds := s.takeWhile Char.isDigit
  if ds.isEmpty || (1 < ds.length && ds.head? == some '0') then none
  else some (ds, s.drop ds.length)

/-- Two numbers with a point between them, of which the first is not zero. -/
def readLanguage? (s : List Char) : Option (List Char) := do
  let (major, rest) ← readNumber? s
  if major = ['0'] then none
  else
    match rest with
    | '.' :: rest => (readNumber? rest).map (·.2)
    | _ => none

/-- Whether a text is lower case letters and digits after them. -/
def isPrerelease (s : List Char) : Bool :=
  let letters := s.takeWhile fun c => 'a' ≤ c && c ≤ 'z'
  let digits := s.drop letters.length
  !letters.isEmpty && !digits.isEmpty && digits.all Char.isDigit

/-- Whether a text is a version of the language: two or three numbers, and
perhaps letters with a number. -/
def isLanguageVersion (s : List Char) : Bool :=
  match readLanguage? s with
  | none => false
  | some rest =>
      let rest := match rest with
        | '.' :: patch => ((readNumber? patch).map (·.2)).getD rest
        | rest => rest
      rest.isEmpty || isPrerelease rest

/-- Whether two numbers start a text that goes on with anything but a digit.
Such versions are read with some indulgence. -/
def isLanguageVersionLike (s : List Char) : Bool :=
  let s := match s with
    | 'v' :: rest => rest
    | s => s
  match readLanguage? s with
  | some (c :: rest) => !c.isDigit && !rest.elem '\n'
  | _ => false

/-- A version of a module: three numbers, and marks of a release before it and
of a build. -/
structure ModuleVersion where
  major : String
  minor : String := "0"
  patch : String := "0"
  prerelease : String := ""
  build : String := ""
  deriving DecidableEq, Repr

/-- Parts between points that are not empty. A part of a prerelease that is a
number has no leading zero. -/
def areParts (numbers : Bool) (s : List Char) : Bool :=
  (s.splitOn '.').all fun part =>
    !part.isEmpty && part.all (fun c => c.isAlphanum || c == '-') &&
      !(numbers && part.all Char.isDigit && 1 < part.length && part.head? == some '0')

/-- Reads a version of a module. Numbers may be missing only if nothing follows
them. -/
def ModuleVersion.ofText? (text : String) : Option ModuleVersion :=
  match text.toList with
  | 'v' :: rest => do
      let (major, rest) ← readNumber? rest
      let v : ModuleVersion := { major := String.ofList major }
      if rest.isEmpty then some v
      else
        let rest ← Text.afterPrefix? ['.'] rest
        let (minor, rest) ← readNumber? rest
        let v := { v with minor := String.ofList minor }
        if rest.isEmpty then some v
        else
          let rest ← Text.afterPrefix? ['.'] rest
          let (patch, rest) ← readNumber? rest
          let v := { v with patch := String.ofList patch }
          let inner := rest.takeWhile (· != '+')
          let build := rest.drop inner.length
          let isFine :=
            (match inner with
              | [] => true
              | '-' :: parts => areParts true parts
              | _ => false) &&
            (match build with
              | [] => true
              | _ :: parts => areParts false parts)
          if isFine then
            some { v with prerelease := String.ofList inner, build := String.ofList build }
          else none
  | _ => none

/-- The canonical text of a version. Of the marks of builds one is kept. -/
def ModuleVersion.text (v : ModuleVersion) : String :=
  "v" ++ v.major ++ "." ++ v.minor ++ "." ++ v.patch ++ v.prerelease ++
    (if v.build = "+incompatible" then v.build else "")

/-- The part of a module's path that names its major version; `none` if the
path is malformed. -/
def pathMajor? (path : String) : Option String :=
  let chars := path.toList.reverse
  if Text.startsWith path "gopkg.in/" then
    let (suffix, body) := match Text.afterPrefix? "-unstable".toList.reverse chars with
      | some body => ("-unstable", body)
      | none => ("", chars)
    let digits := body.takeWhile Char.isDigit
    match body.drop digits.length with
    | 'v' :: '.' :: _ =>
        let major := ".v" ++ String.ofList digits.reverse
        let all := major ++ suffix
        if all.length ≤ 2 ∨ (digits.getLast? = some '0' ∧ all ≠ ".v0") then none else some all
    | _ => none
  else
    let digits := chars.takeWhile fun c => c.isDigit || c == '.'
    match chars.drop digits.length with
    | 'v' :: '/' :: _ =>
        if digits.isEmpty then some ""
        else if digits.elem '.' ∨ digits.getLast? = some '0' ∨ digits = ['1'] then none
        else some ("/v" ++ String.ofList digits.reverse)
    | _ => some ""

/-- Why a version does not go with a path, if it does not. -/
def majorFault? (v : ModuleVersion) (pathMajor : String) : Option String :=
  let major := "v" ++ v.major
  let pathMajor :=
    if Text.startsWith pathMajor ".v" && Text.endsWith pathMajor "-unstable" then
      String.ofList (pathMajor.toList.take (pathMajor.length - 9))
    else pathMajor
  let wrong (expected : String) : String := "should be " ++ expected ++ ", not " ++ major
  if Text.startsWith v.text "v0.0.0-" && pathMajor == ".v1" then none
  else if pathMajor.isEmpty then
    if major = "v0" ∨ major = "v1" ∨ v.build = "+incompatible" then none
    else some (wrong "v0 or v1")
  else
    let expected := String.ofList (pathMajor.toList.drop 1)
    if major = expected then none else some (wrong expected)

/-- The message about a version that is refused. -/
def versionMessage (path version reason : String) : String :=
  "require " ++ path ++ ": version " ++ Text.quote version ++ " invalid: " ++ reason

/-- What is wrong with a required module, if anything is. -/
def requirementFault? (words : List String) : Option String :=
  match words with
  | [path, version] =>
      match unquoted path with
      | .error e => some ("invalid quoted string: " ++ e)
      | .ok path =>
          match unquoted version with
          | .error e => some (versionMessage path version e)
          | .ok version =>
              match ModuleVersion.ofText? version with
              | none => some (versionMessage path version "must be of the form v1.2.3")
              | some v =>
                  match pathMajor? path with
                  | none => some "invalid module path"
                  | some major => (majorFault? v major).map (versionMessage path v.text)
  | _ => some "usage: require module/path v1.2.3"

/-- What is known of a module file: its path, once it is declared, whether a
version of the language is given, and faults, latest first. -/
structure Declared where
  path : Option String := none
  hasLanguage : Bool := false
  faults : List Fault := []

/-- Adds a directive. Unknown ones are ignored. -/
def Declared.add (d : Declared) (verb : String) (words : List String) (position : Position) :
    Declared :=
  let fault (message : String) (d : Declared) : Declared :=
    { d with faults := ⟨position, message⟩ :: d.faults }
  match verb with
  | "go" =>
      if d.hasLanguage then fault "repeated go statement" d
      else
        match words with
        | [version] =>
            if isLanguageVersion version.toList || isLanguageVersionLike version.toList then
              { d with hasLanguage := true }
            else
              fault ("invalid go version '" ++ version ++ "': must match format 1.23.0") d
        | _ => fault "go directive expects exactly one argument" d
  | "module" =>
      if d.path.isSome then fault "repeated module statement" d
      else
        match words with
        | [word] =>
            match unquoted word with
            | .ok path => { d with path := some path }
            | .error e => fault ("invalid quoted string: " ++ e) { d with path := some "" }
        | _ => fault "usage: module module/path" { d with path := some "" }
  | "require" =>
      match requirementFault? words with
      | some message => fault message d
      | none => d
  | "ignore" =>
      match words with
      | [word] =>
          match unquoted word with
          | .ok _ => d
          | .error e => fault ("invalid quoted string: " ++ e) d
      | _ => fault "ignore directive expects exactly one argument" d
  | _ => d

def Declared.addStatement (d : Declared) : Statement → Declared
  | .line l => d.add (l.words.headD "") l.words.tail l.start
  | .block [verb] lines =>
      if verb = "go" then d
      else lines.foldl (fun d l => d.add verb l.words l.start) d
  | .block _ _ => d

/-- The path of the module that the text of a file declares. -/
def declaredPath (file text : String) : Except (List Fault) String := do
  let statements ← (statements file text).mapError fun fault => [fault]
  let d := statements.foldl Declared.addStatement {}
  if d.faults.isEmpty then .ok (d.path.getD "") else .error d.faults.reverse

/-- The text of faults of a file, one on a line. -/
def faultsText (file : String) (faults : List Fault) : String :=
  Text.joinWith "\n" (faults.map fun f => file ++ ":" ++ f.position.text ++ ": " ++ f.message)

end ArchLint.ModuleFile

namespace ArchLint

/-- Why the path of a module is not known. -/
inductive ModulePathFault where
  | read (fault : DiskFault)
  | malformed (file : String) (faults : List ModuleFile.Fault)
  | undeclared (file : String)
  deriving DecidableEq, Repr

/-- The message about a path that is not known. -/
def ModulePathFault.message : ModulePathFault → String
  | .read fault => "read go.mod: " ++ fault.message
  | .malformed file faults => "parse go.mod: " ++ ModuleFile.faultsText file faults
  | .undeclared file => file ++ " declares no module path"

/-- The fault of the disk behind a path that is not known. -/
def ModulePathFault.diskFault? : ModulePathFault → Option DiskFault
  | .read fault => some fault
  | _ => none

namespace Disk

def moduleFileName : String :=
  "go.mod"

/-- The path of the module whose file stands in a directory. -/
def modulePath (d : Disk) (directory : String) : Except ModulePathFault String := do
  let file := SlashPath.join [directory, moduleFileName]
  let content ← (d.read file).mapError .read
  match ModuleFile.declaredPath file (Text.ofBytes content) with
  | .error faults => .error (.malformed file faults)
  | .ok path => if path.isEmpty then .error (.undeclared file) else .ok path

/-- The closest directory with a module file, upwards from a directory. The
fuel is the length of its path. -/
def projectRootFrom (d : Disk) : Nat → String → Option String
  | 0, _ => none
  | n + 1, directory =>
      if d.exists? (SlashPath.join [directory, moduleFileName]) then some directory
      else
        let parent := SlashPath.dir directory
        if parent = directory then none else d.projectRootFrom n parent

/-- The root of the project that a path belongs to. -/
def projectRoot? (d : Disk) (start : String) : Option String :=
  let path := d.absolute start
  let directory := match d.stat path with
    | .ok (.file _) => SlashPath.dir path
    | _ => path
  d.projectRootFrom (directory.length + 1) directory

/-- The message about a path that belongs to no project. -/
def noProjectMessage (start : String) : String :=
  "go.mod not found in any parent directory of " ++ start

end Disk

end ArchLint
