import ArchLint.Text.Basic
import ArchLint.Text.Classes

/-!
Qualified names such as `example.com/app/core.Service.Run`: the scope, which is
the path of a package, and a symbol inside it.
-/

namespace ArchLint.Name

/-- Characters that separate the parts of a qualified name and carry no
meaning at its ends. -/
def isSeparator (c : Char) : Bool :=
  c == '\\' || c == '/' || c == '.'

/-- Characters that separate path elements. -/
def isSlash (c : Char) : Bool :=
  c == '/' || c == '\\'

/-- A name without separators at its ends. -/
def trim (name : List Char) : List Char :=
  Text.trimWhile isSeparator name

/-- A major version such as `v3` that is part of a package's name. -/
def isVersionSuffix : List Char → Bool
  | 'v' :: d :: ds => (d :: ds).all Char.isDigit
  | _ => false

/-- The part up to and including the last slash, and the part after it. -/
def splitLastSlash (name : List Char) : List Char × List Char :=
  ((name.reverse.dropWhile (fun c => !isSlash c)).reverse,
    (name.reverse.takeWhile (fun c => !isSlash c)).reverse)

def joinDots (parts : List (List Char)) : List Char :=
  List.intercalate ['.'] parts

/-- How many of the dotted segments after the last slash belong to the scope,
looking at the first `n` of them: all up to the last version suffix that is
neither the first segment nor the last one, and otherwise one. -/
def scopeSegments (parts : List (List Char)) : Nat → Nat
  | 0 => 1
  | 1 => 1
  | n + 2 =>
      if ((parts[n + 1]?).getD []) |> isVersionSuffix then n + 2
      else scopeSegments parts (n + 1)

/-- Splits a name without separators at its ends into scope and symbol. -/
def splitTrimmed (name : List Char) : List Char × List Char :=
  let (head, tail) := splitLastSlash name
  let parts := tail.splitOn '.'
  if parts.length = 1 then (head.dropLast, tail)
  else
    let k := scopeSegments parts (parts.length - 1)
    (head ++ joinDots (parts.take k), joinDots (parts.drop k))

/-- Scope and symbol of a qualified name. Dots before the last slash belong to
the scope, and so do dotted version suffixes of the last path element. -/
def splitChars (name : List Char) : List Char × List Char :=
  splitTrimmed (trim name)

/-- Scope and symbol of a qualified name. -/
def split (name : String) : String × String :=
  let (scope, symbol) := splitChars name.toList
  (String.ofList scope, String.ofList symbol)

/-- The last segment of the symbol. -/
def short (name : String) : String :=
  String.ofList ((splitChars name.toList).2.reverse.takeWhile (· != '.')).reverse

/-- An identifier is exported when it starts with an upper case letter. -/
def isExported (name : String) : Bool :=
  match name.toList with
  | [] => false
  | c :: _ => Text.isUpper c

/-- Predeclared types, and the words that stand for types in annotations. -/
def predeclaredTypes : List String :=
  ["any", "bool", "byte", "comparable", "complex64", "complex128", "error",
    "float32", "float64", "int", "int8", "int16", "int32", "int64", "rune",
    "string", "uint", "uint8", "uint16", "uint32", "uint64", "uintptr",
    "mixed", "void", "null", "object", "array", "func", "map", "chan",
    "struct", "interface"]

/-- Predeclared constants and the zero value. -/
def predeclaredValues : List String :=
  ["nil", "iota", "true", "false"]

def isPredeclaredType (name : String) : Bool :=
  predeclaredTypes.elem name

/-- Whether the name is predeclared, as a type or as a value. -/
def isPredeclared (name : String) : Bool :=
  isPredeclaredType name || predeclaredValues.elem name

end ArchLint.Name
