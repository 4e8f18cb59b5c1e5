import ArchLint.Text.Basic
import ArchLint.Text.Folding

namespace ArchLint

/-- The annotations whose types are read. -/
inductive DocTag where
  | param
  | return
  | var
  | throws
  deriving DecidableEq, Repr

namespace DocTag

def word : DocTag → String
  | param => "param"
  | .return => "return"
  | var => "var"
  | throws => "throws"

/-- All tags, in the order they are read. -/
def all : List DocTag :=
  [param, .return, var, throws]

end DocTag

namespace DocTag

/-- White space inside an annotation. -/
def isSpace (c : Char) : Bool :=
  c == '\t' || c == '\n' || c == '\x0c' || c == '\r' || c == ' '

/-- Characters of a type name. The long s and the Kelvin sign are letters here
because they fold to ASCII ones. -/
def isTypeChar (c : Char) : Bool :=
  c.isAlphanum || c == '_' || c == '[' || c == ']' || c == '\\' || c == '.' ||
    c == '/' || c == '*' || c == '\u017f' || c == '\u212a'

/-- The text after a word, neither case mattering. -/
def afterWord? : List Char → List Char → Option (List Char)
  | [], s => some s
  | _ :: _, [] => none
  | w :: ws, c :: cs => if Text.sameUpToCase w c then afterWord? ws cs else none

/-- The text after a bar with white space around it, when a type follows. -/
def afterBar? (s : List Char) : Option (List Char) :=
  match s.dropWhile isSpace with
  | '|' :: rest =>
      match rest.dropWhile isSpace with
      | c :: cs => if isTypeChar c then some (c :: cs) else none
      | [] => none
  | _ => none

/-- The runs of type characters that bars join, and the text after them. The
fuel is the length of the text. -/
def typeChain : Nat → List Char → List (List Char) × List Char
  | 0, s => ([], s)
  | n + 1, s =>
      let run := s.takeWhile isTypeChar
      let rest := s.dropWhile isTypeChar
      match afterBar? rest with
      | some next =>
          let (runs, rest) := typeChain n next
          (run :: runs, rest)
      | none => ([run], rest)

/-- The types of an annotation that starts here, and the text after it. -/
def atStart? (tag : List Char) : List Char → Option (List (List Char) × List Char)
  | '@' :: s => do
      let s ← afterWord? tag s
      let rest := s.dropWhile isSpace
      if rest.length = s.length then none
      else
        match rest with
        | c :: cs => if isTypeChar c then some (typeChain (cs.length + 1) (c :: cs)) else none
        | [] => none
  | _ => none

/-- The runs of type characters of all annotations of a tag. The fuel is the
length of the text. -/
def runs (tag : List Char) : Nat → List Char → List (List Char)
  | 0, _ => []
  | _, [] => []
  | n + 1, c :: cs =>
      match atStart? tag (c :: cs) with
      | some (found, rest) => found ++ runs tag n rest
      | none => runs tag n cs

/-- The types that annotations of a tag name, each once. Empty brackets are
dropped. -/
def types (tag : DocTag) (text : String) : List String :=
  let chars := text.toList
  let names := (runs tag.word.toList chars.length chars).map fun run =>
    String.ofList (Text.replaceLoop ['[', ']'] [] run.length run)
  Text.distinct (names.filter fun name => !name.isEmpty)

/-- The names that some ways of reading a text find, each once. -/
def merge (strategies : List (String → List String)) (text : String) : List String :=
  Text.distinct (strategies.flatMap fun parse => parse text)

theorem merge_nil (text : String) : merge [] text = [] :=
  rfl

/-- The types that annotations of the given tags name, each once. -/
def union (tags : List DocTag) (text : String) : List String :=
  merge (tags.map types) text

end DocTag

end ArchLint
