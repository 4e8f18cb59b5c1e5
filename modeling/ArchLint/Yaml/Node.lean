import ArchLint.Text.Basic
import ArchLint.Yaml.Scan

namespace ArchLint.Yaml

/-- A scalar: its tag, if one is given, its text, and whether it is plain. -/
structure Scalar where
  tag : Option String := none
  text : String := ""
  isPlain : Bool := true
  deriving DecidableEq, Repr, Inhabited

/-- A node. An alias has the node that it stands for, unless it is a part of
that node. -/
inductive Node where
  | scalar (value : Scalar)
  | sequence (items : List Node)
  | mapping (entries : List (Node × Node))
  | alias (name : String) (target : Option Node)
  deriving Repr, Inhabited

def Node.empty : Node :=
  .scalar {}

/-- A document that is partly read: the tokens, how many of them are used, and
the nodes with anchors, the latest first. An anchor without node is that of a
node which is not complete. -/
structure Composer where
  scanner : Scanner
  used : Nat := 0
  directives : List (String × String) := []
  anchors : List (String × Option Node) := []
  deriving Inhabited

namespace Composer

def peek (s : Composer) : Option (Token × Composer) := do
  let scanner ← s.scanner.readTo s.used (s.scanner.cursor.rest.length + 8)
  let token ← scanner.tokens[s.used]?
  some (token, { s with scanner })

/-- Uses the next token. -/
def advance (s : Composer) : Composer :=
  { s with used := s.used + 1 }

/-- Uses the next token and looks at the one after it. -/
def next (s : Composer) : Option (Token × Composer) :=
  s.advance.peek

/-- The space in front of all tags that the format itself defines. -/
def standardSpace : String :=
  "tag:yaml.org,2002:"

/-- A tag as it is compared: standard tags have two exclamation marks. -/
def shortTag (tag : String) : String :=
  match Text.afterPrefix? standardSpace.toList tag.toList with
  | some rest => "!!" ++ String.ofList rest
  | none => tag

/-- The tag that a handle and a suffix form. A mark alone is no tag. -/
def expandTag? (directives : List (String × String)) (handle suffix : String) :
    Option (Option String) :=
  if handle.isEmpty then some (if suffix = "!" then none else some (shortTag suffix))
  else
    match directives.find? (·.1 == handle) with
    | some (_, expansion) => some (some (shortTag (expansion ++ suffix)))
    | none => none

/-- What stands in front of a node: a tag and an anchor, in either order. -/
structure Properties where
  tag : Option String := none
  anchor : Option String := none
  given : Bool := false

/-- Reads tag and anchor, and looks at the token after them. -/
def properties (token : Token) (s : Composer) : Option (Properties × Token × Composer) :=
  match token with
  | .anchor name => do
      let (token, s) ← s.next
      match token with
      | .tag handle suffix =>
          let (token, s) ← s.next
          let tag ← expandTag? s.directives handle suffix
          some ({ tag, anchor := some name, given := true }, token, s)
      | token => some ({ anchor := some name, given := true }, token, s)
  | .tag handle suffix => do
      let (token, s) ← s.next
      match token with
      | .anchor name =>
          let (token, s) ← s.next
          let tag ← expandTag? s.directives handle suffix
          some ({ tag, anchor := some name, given := true }, token, s)
      | token =>
          let tag ← expandTag? s.directives handle suffix
          some ({ tag, given := true }, token, s)
  | token => some ({}, token, s)

/-- Notes that a node with an anchor starts. -/
def openAnchor (p : Properties) (s : Composer) : Composer :=
  match p.anchor with
  | some name => { s with anchors := (name, none) :: s.anchors }
  | none => s

/-- Notes the complete node of an anchor. -/
def closeAnchor (p : Properties) (node : Node) (s : Composer) : Composer :=
  match p.anchor with
  | some name => { s with anchors := (name, some node) :: s.anchors }
  | none => s

/-- Where a node stands: collections that are marked by indentation are allowed
outside of brackets, and as a part of a mapping a sequence needs none. -/
inductive Place where
  | block
  | blockInMapping
  | flow
  deriving DecidableEq

mutual

/-- A node, the next token being known. The fuel bounds the number of steps. -/
def node (place : Place) : Nat → Token → Composer → Option (Node × Composer)
  | 0, _, _ => none
  | _ + 1, .alias name, s =>
      (s.anchors.find? (·.1 == name)).map fun (_, target) => (.alias name target, s.advance)
  | n + 1, token, s =>
      match s.properties token with
      | none => none
      | some (p, token, s) =>
          let opened := s.openAnchor p
          let collection : Option (Node × Composer) :=
            match token, place with
            | .blockEntry, .blockInMapping => looseItems n [] opened
            | .flowSequenceStart, _ => flowItems n true [] opened.advance
            | .flowMappingStart, _ => flowEntries n true [] opened.advance
            | .blockSequenceStart, .block => blockItems n [] opened.advance
            | .blockSequenceStart, .blockInMapping => blockItems n [] opened.advance
            | .blockMappingStart, .block => blockEntries n [] opened.advance
            | .blockMappingStart, .blockInMapping => blockEntries n [] opened.advance
            | .scalar text isPlain, _ => some (.scalar { tag := p.tag, text, isPlain }, opened.advance)
            | _, _ => if p.given then some (.scalar { tag := p.tag }, opened) else none
          collection.map fun (node, s) => (node, s.closeAnchor p node)

/-- A node, or an empty one in front of some tokens. -/
def nodeUnless (place : Place) (isEnd : Token → Bool) :
    Nat → Composer → Option (Node × Composer)
  | 0, _ => none
  | n + 1, s =>
      match s.peek with
      | none => none
      | some (token, s) => if isEnd token then some (.empty, s) else node place n token s

/-- The items of a sequence that is marked by indentation. -/
def blockItems : Nat → List Node → Composer → Option (Node × Composer)
  | 0, _, _ => none
  | n + 1, items, s =>
      match s.peek with
      | some (.blockEntry, s) =>
          match nodeUnless .block (fun t => t == .blockEntry || t == .blockEnd) n s.advance with
          | none => none
          | some (item, s) => blockItems n (item :: items) s
      | some (.blockEnd, s) => some (.sequence items.reverse, s.advance)
      | _ => none

/-- The items of a sequence at the indentation of the mapping around it. -/
def looseItems : Nat → List Node → Composer → Option (Node × Composer)
  | 0, _, _ => none
  | n + 1, items, s =>
      match s.peek with
      | some (.blockEntry, s) =>
          let isEnd (t : Token) : Bool :=
            t == .blockEntry || t == .key || t == .value || t == .blockEnd
          match nodeUnless .block isEnd n s.advance with
          | none => none
          | some (item, s) => looseItems n (item :: items) s
      | some (_, s) => some (.sequence items.reverse, s)
      | none => none

/-- The entries of a mapping that is marked by indentation. -/
def blockEntries : Nat → List (Node × Node) → Composer → Option (Node × Composer)
  | 0, _, _ => none
  | n + 1, entries, s =>
      let isEnd (t : Token) : Bool := t == .key || t == .value || t == .blockEnd
      match s.peek with
      | some (.key, s) =>
          match nodeUnless .blockInMapping isEnd n s.advance with
          | none => none
          | some (key, s) =>
              match s.peek with
              | none => none
              | some (.value, s) =>
                  match nodeUnless .blockInMapping isEnd n s.advance with
                  | none => none
                  | some (value, s) => blockEntries n ((key, value) :: entries) s
              | some (_, s) => blockEntries n ((key, .empty) :: entries) s
      | some (.blockEnd, s) => some (.mapping entries.reverse, s.advance)
      | _ => none

/-- The items of a sequence in brackets. -/
def flowItems : Nat → Bool → List Node → Composer → Option (Node × Composer)
  | 0, _, _, _ => none
  | n + 1, isFirst, items, s =>
      match s.peek with
      | none => none
      | some (.flowSequenceEnd, s) => some (.sequence items.reverse, s.advance)
      | some (token, s) =>
          let start : Option (Token × Composer) :=
            if isFirst then some (token, s)
            else if token = .flowEntry then s.next
            else none
          match start with
          | none => none
          | some (.flowSequenceEnd, s) => some (.sequence items.reverse, s.advance)
          | some (.key, s) =>
              match flowPair n s.advance with
              | none => none
              | some (item, s) => flowItems n false (item :: items) s
          | some (token, s) =>
              match node .flow n token s with
              | none => none
              | some (item, s) => flowItems n false (item :: items) s

/-- A mapping of one entry in a sequence in brackets. An absent key takes the
token in its place along. -/
def flowPair : Nat → Composer → Option (Node × Composer)
  | 0, _ => none
  | n + 1, s =>
      let key : Option (Node × Composer) :=
        match s.peek with
        | none => none
        | some (token, s) =>
            if token == .value || token == .flowEntry || token == .flowSequenceEnd then
              some (.empty, s.advance)
            else node .flow n token s
      match key with
      | none => none
      | some (key, s) =>
          match s.peek with
          | none => none
          | some (.value, s) =>
              match nodeUnless .flow (fun t => t == .flowEntry || t == .flowSequenceEnd) n s.advance with
              | none => none
              | some (value, s) => some (.mapping [(key, value)], s)
          | some (_, s) => some (.mapping [(key, .empty)], s)

/-- The entries of a mapping in braces. -/
def flowEntries : Nat → Bool → List (Node × Node) → Composer → Option (Node × Composer)
  | 0, _, _, _ => none
  | n + 1, isFirst, entries, s =>
      match s.peek with
      | none => none
      | some (.flowMappingEnd, s) => some (.mapping entries.reverse, s.advance)
      | some (token, s) =>
          let start : Option (Token × Composer) :=
            if isFirst then some (token, s)
            else if token = .flowEntry then s.next
            else none
          match start with
          | none => none
          | some (.flowMappingEnd, s) => some (.mapping entries.reverse, s.advance)
          | some (.key, s) =>
              let isEnd (t : Token) : Bool := t == .value || t == .flowEntry || t == .flowMappingEnd
              match nodeUnless .flow isEnd n s.advance with
              | none => none
              | some (key, s) =>
                  match s.peek with
                  | none => none
                  | some (.value, s) =>
                      let isEnd (t : Token) : Bool := t == .flowEntry || t == .flowMappingEnd
                      match nodeUnless .flow isEnd n s.advance with
                      | none => none
                      | some (value, s) => flowEntries n false ((key, value) :: entries) s
                  | some (_, s) => flowEntries n false ((key, .empty) :: entries) s
          | some (token, s) =>
              match node .flow n token s with
              | none => none
              | some (key, s) => flowEntries n false ((key, .empty) :: entries) s

end

/-- The handles that every document knows. -/
def standardDirectives : List (String × String) :=
  [("!", "!"), ("!!", standardSpace)]

/-- Reads the directives of a document: one version at most, which is 1.1, and
no handle twice. -/
def readDirectives : Nat → Bool → List (String × String) → Composer →
    Option (Token × List (String × String) × Composer)
  | 0, _, _, _ => none
  | n + 1, versionSeen, found, s =>
      match s.peek with
      | none => none
      | some (.versionDirective major minor, s) =>
          if versionSeen ∨ major ≠ 1 ∨ minor ≠ 1 then none
          else readDirectives n true found s.advance
      | some (.tagDirective handle expansion, s) =>
          if found.any (·.1 == handle) then none
          else readDirectives n versionSeen (found ++ [(handle, expansion)]) s.advance
      | some (token, s) => some (token, found, s)

/-- The root of the first document; `none` inside if there is no document. -/
def document (fuel : Nat) (s : Composer) : Option (Option Node) := do
  let (token, found, s) ← readDirectives fuel false [] s
  let explicit := 0 < s.used
  let s := { s with directives := found ++ standardDirectives }
  match token with
  | .documentStart =>
      let isEnd : Token → Bool
        | .versionDirective .. => true
        | .tagDirective .. => true
        | .documentStart => true
        | .documentEnd => true
        | .streamEnd => true
        | _ => false
      let (root, s) ← nodeUnless .block isEnd fuel s.advance
      s.peek.map fun _ => some root
  | .streamEnd => if explicit then none else some none
  | token =>
      if explicit then none
      else
        let (root, s) ← node .block fuel token s
        s.peek.map fun _ => some root

end Composer

/-- The root of the first document of a text; `none` inside if the text holds
no document. -/
def Node.ofChars? (chars : List Char) : Option (Option Node) := do
  let scanner ← Scanner.ofChars? chars
  Composer.document (8 * chars.length + 16) { scanner }

/-- The root of the first document of a text. -/
def Node.ofText? (text : String) : Option (Option Node) :=
  Node.ofChars? text.toList

end ArchLint.Yaml
