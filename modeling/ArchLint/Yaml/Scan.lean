import ArchLint.Text.Utf8
import ArchLint.Yaml.Scalar

/-!
How a text is split into tokens. Indentation opens and closes collections, and
a scalar turns out to be a key only when a colon follows it on its line, so
that a key token is put in front of tokens that were read before.
-/

namespace ArchLint.Yaml

/-- A place where a key without question mark may have started: the number of
the token there, and whether only a key may stand there. -/
structure PendingKey where
  required : Bool
  number : Nat
  index : Nat
  line : Nat
  column : Nat
  deriving Repr

/-- A key ends on its line, and within 1024 characters. -/
def PendingKey.isStale (k : PendingKey) (c : Cursor) : Bool :=
  k.line < c.line || k.index + 1024 < c.index

/-- A text that is partly split into tokens. There is one pending key for every
open bracket and one for the text outside, the innermost first; the
indentations around the current one are kept likewise. -/
structure Scanner where
  cursor : Cursor
  tokens : Array Token := #[]
  indent : Int := -1
  outerIndents : List Int := []
  keyAllowed : Bool := true
  pending : Option PendingKey := none
  outerPending : List (Option PendingKey) := []
  deriving Inhabited

namespace Scanner

def inFlow (s : Scanner) : Bool :=
  !s.outerPending.isEmpty

def push (t : Token) (s : Scanner) : Scanner :=
  { s with tokens := s.tokens.push t }

def moveTo (c : Cursor) (s : Scanner) : Scanner :=
  { s with cursor := c }

/-- Gives up the pending key. -/
def dropKey (s : Scanner) : Option Scanner :=
  if s.pending.any (·.required) then none else some { s with pending := none }

/-- Notes that a key may start here. -/
def noteKey (s : Scanner) : Option Scanner :=
  if s.keyAllowed then
    s.dropKey.map fun t =>
      { t with
        pending := some
          { required := !s.inFlow && s.indent == s.cursor.column
            number := s.tokens.size
            index := s.cursor.index
            line := s.cursor.line
            column := s.cursor.column } }
  else some s

/-- Opens a collection at a column, if it is further right than the current
one. -/
def openBlock (column : Nat) (place : Nat) (t : Token) (s : Scanner) : Scanner :=
  if !s.inFlow && decide (s.indent < column) then
    { s with
      indent := column
      outerIndents := s.indent :: s.outerIndents
      tokens := s.tokens.insertIdxIfInBounds place t }
  else s

/-- The indentations that are left when all beyond a column are closed, with
the number of closed ones. -/
def closedIndents (column : Int) : Int → List Int → Nat × Int × List Int
  | indent, [] => (0, indent, [])
  | indent, outer :: rest =>
      if column < indent then
        let (n, indent, rest) := closedIndents column outer rest
        (n + 1, indent, rest)
      else (0, indent, outer :: rest)

/-- Closes the collections that are further right than a column. -/
def closeBlocks (column : Int) (s : Scanner) : Scanner :=
  if s.inFlow then s
  else
    let (n, indent, outerIndents) := closedIndents column s.indent s.outerIndents
    { s with indent, outerIndents, tokens := s.tokens ++ Array.replicate n .blockEnd }

/-- Passes a comment, and those on the following lines. The fuel is the length
of the text. -/
def skipComments : Nat → Cursor → Cursor
  | 0, c => c
  | n + 1, c =>
      let c := c.skipToLineEnd
      let next := c.rest.dropWhile fun x => isBlank x || isBreak x
      if next.head? = some '#' then skipComments n (passGap n c) else c
where
  /-- Passes blanks and line breaks. -/
  passGap : Nat → Cursor → Cursor
    | 0, c => c
    | n + 1, c =>
        match c.rest with
        | [] => c
        | x :: _ =>
            if isBlank x then passGap n c.skip
            else if isBreak x then passGap n c.skipBreak
            else c

/-- Passes blanks, comments and line breaks in front of the next token. Outside
of brackets a line break allows a key, and where a key is allowed a tab is no
blank. -/
def skipToToken : Nat → Scanner → Scanner
  | 0, s => s
  | n + 1, s =>
      let c := s.cursor
      let c := if c.column = 0 ∧ c.rest.head? = some byteOrderMark then c.skip else c
      let tabs := s.inFlow || !s.keyAllowed
      let c := c.skipWhile fun x => x == ' ' || (tabs && x == '\t')
      let c := if c.rest.head? = some '#' then skipComments c.rest.length c else c
      if c.rest.head?.any isBreak then
        skipToToken n
          { s with cursor := c.skipBreak, keyAllowed := s.keyAllowed || !s.inFlow }
      else s.moveTo c

/-- Passes a comment on the line of a token. -/
def skipLineComment (s : Scanner) : Scanner :=
  let c := s.cursor
  if !c.fresh && (c.rest.dropWhile isBlank).head? == some '#' then s.moveTo c.skipToLineEnd
  else s

/-- An anchor or alias after its indicator. -/
def readAnchor (c : Cursor) : Option (String × Cursor) :=
  let name := c.rest.takeWhile isNameChar
  let c := c.skipN name.length
  let ends (x : Char) : Bool := isBlank x || isBreak x || ['?', ':', ',', ']', '\x7d', '%', '@', '\x60'].elem x
  if name.isEmpty || !atEndOr ends c.rest then none else some (String.ofList name, c)

/-- The characters of tags that stand for themselves. -/
def isTagChar (x : Char) : Bool :=
  isNameChar x || [';', '/', '?', ':', '@', '&', '=', '+', '$', ',', '.', '!', '~', '*', '\'', '(',
    ')', '[', ']'].elem x

/-- The bytes of a tag: characters, and bytes written as percent escapes. -/
def readTagBytes : Nat → List UInt8 → Cursor → Option (List UInt8 × Cursor)
  | 0, bytes, c => some (bytes, c)
  | n + 1, bytes, c =>
      match c.rest with
      | '%' :: a :: b :: _ =>
          match hexValue? [a, b] with
          | some byte => readTagBytes n (bytes ++ [byte.toUInt8]) (c.skipN 3)
          | none => none
      | '%' :: _ => none
      | x :: _ =>
          if isTagChar x then readTagBytes n (bytes ++ [x.toNat.toUInt8]) c.skip
          else some (bytes, c)
      | [] => some (bytes, c)

/-- The text of a tag after `head`. Escapes have to form characters. -/
def readTagText (head : List Char) (c : Cursor) : Option (String × Cursor) := do
  let (bytes, after) ← readTagBytes (c.rest.length + 1) [] c
  let text ← Text.ofBytes? (ByteArray.mk bytes.toArray)
  if head.isEmpty ∧ after.index = c.index then none
  else some (String.ofList (head.drop 1) ++ text, after)

def readTagHandle (c : Cursor) : Option (List Char × Cursor) :=
  match c.rest with
  | '!' :: rest =>
      let name := rest.takeWhile isNameChar
      let closed := (rest.drop name.length).head? == some '!'
      let handle := '!' :: name ++ (if closed then ['!'] else [])
      some (handle, c.skipN handle.length)
  | _ => none

/-- A tag: its handle and the text after it. -/
def readTag (c : Cursor) : Option (String × String × Cursor) := do
  let (handle, suffix, c) ←
    if c.rest[1]? = some '<' then do
      let (suffix, c) ← readTagText [] (c.skipN 2)
      if c.rest.head? = some '>' then some ("", suffix, c.skip) else none
    else do
      let (handle, c) ← readTagHandle c
      if handle.length > 1 ∧ handle.getLast? = some '!' then
        let (suffix, c) ← readTagText [] c
        some (String.ofList handle, suffix, c)
      else
        let (suffix, c) ← readTagText handle c
        if suffix.isEmpty then some ("", "!", c) else some ("!", suffix, c)
  if atGap c.rest then some (handle, suffix, c) else none

/-- A number of at most nine digits. -/
def readVersionNumber (c : Cursor) : Option (Nat × Cursor) :=
  let digits := c.rest.takeWhile Char.isDigit
  if digits.isEmpty ∨ 9 < digits.length then none
  else
    some (digits.foldl (fun n d => 10 * n + (d.toNat - '0'.toNat)) 0, c.skipN digits.length)

/-- A directive after its percent sign, up to the end of its line. -/
def readDirective (c : Cursor) : Option (Token × Cursor) := do
  let name := c.rest.takeWhile isNameChar
  let c := c.skipN name.length
  if !atGap c.rest then none
  else
    let c := c.skipWhile isBlank
    let (token, c) ←
      if name = ['Y', 'A', 'M', 'L'] then do
        let (major, c) ← readVersionNumber c
        if c.rest.head? ≠ some '.' then none
        else
          let (minor, c) ← readVersionNumber c.skip
          some (Token.versionDirective major minor, c)
      else if name = ['T', 'A', 'G'] then do
        let (handle, c) ← readTagHandle c
        if handle ≠ ['!'] ∧ (handle.length < 2 ∨ handle.getLast? ≠ some '!') then none
        else if !c.rest.head?.any isBlank then none
        else
          let (text, c) ← readTagText [] (c.skipWhile isBlank)
          if atGap c.rest then some (Token.tagDirective (String.ofList handle) text, c) else none
      else none
    let c := c.skipWhile isBlank
    let c := if c.rest.head? = some '#' then c.skipToLineEnd else c
    if atLineEnd c.rest then some (token, c.skipBreak) else none

/-- The end of the text: everything is closed. -/
def fetchEnd (s : Scanner) : Option Scanner :=
  let c := s.cursor
  let c := if c.column = 0 then c else { c with line := c.line + 1, column := 0 }
  ((s.moveTo c).closeBlocks (-1)).dropKey.map fun s =>
    { s.push .streamEnd with keyAllowed := false }

/-- Closes everything in front of a token at the start of a line. -/
def closeAll (s : Scanner) : Option Scanner :=
  (s.closeBlocks (-1)).dropKey.map fun s => { s with keyAllowed := false }

def fetchDirective (s : Scanner) : Option Scanner := do
  let s ← s.closeAll
  let (token, c) ← readDirective s.cursor.skip
  some ((s.push token).moveTo c)

/-- The line that starts or ends a document. -/
def fetchDivider (t : Token) (s : Scanner) : Option Scanner :=
  s.closeAll.map fun s => (s.push t).moveTo (s.cursor.skipN 3)

def fetchOpening (t : Token) (s : Scanner) : Option Scanner :=
  s.noteKey.map fun s =>
    { s with
      pending := none
      outerPending := s.pending :: s.outerPending
      keyAllowed := true
      tokens := s.tokens.push t
      cursor := s.cursor.skip }

def fetchClosing (t : Token) (s : Scanner) : Option Scanner :=
  s.dropKey.map fun s =>
    let s := match s.outerPending with
      | [] => s
      | pending :: outerPending => { s with pending, outerPending }
    { s with keyAllowed := false, tokens := s.tokens.push t, cursor := s.cursor.skip }

/-- A comma between brackets. -/
def fetchFlowEntry (s : Scanner) : Option Scanner :=
  s.dropKey.map fun s =>
    { s with keyAllowed := true, tokens := s.tokens.push .flowEntry, cursor := s.cursor.skip }

def fetchBlockEntry (s : Scanner) : Option Scanner :=
  if !s.inFlow && !s.keyAllowed then none
  else
    (s.openBlock s.cursor.column s.tokens.size .blockSequenceStart).dropKey.map fun s =>
      { s with keyAllowed := true, tokens := s.tokens.push .blockEntry, cursor := s.cursor.skip }

/-- A question mark in front of a key. -/
def fetchKey (s : Scanner) : Option Scanner :=
  if !s.inFlow && !s.keyAllowed then none
  else
    (s.openBlock s.cursor.column s.tokens.size .blockMappingStart).dropKey.map fun s =>
      { s with keyAllowed := !s.inFlow, tokens := s.tokens.push .key, cursor := s.cursor.skip }

/-- The colon in front of a value. If a key is pending, its token goes in front
of what was read since. -/
def fetchValue (s : Scanner) : Option Scanner :=
  let finish (s : Scanner) : Scanner :=
    { s with tokens := s.tokens.push .value, cursor := s.cursor.skip }
  match s.pending.filter fun k => !k.isStale s.cursor || k.required with
  | some k =>
      if k.isStale s.cursor then none
      else
        let s := { s with tokens := s.tokens.insertIdxIfInBounds k.number .key }
        let s := s.openBlock k.column k.number .blockMappingStart
        some (finish { s with pending := none, keyAllowed := false })
  | none =>
      if s.inFlow then some (finish { s with pending := none, keyAllowed := false })
      else if !s.keyAllowed then none
      else
        let s := s.openBlock s.cursor.column s.tokens.size .blockMappingStart
        some (finish { s with pending := none, keyAllowed := true })

/-- A token that may be a key or belong to one. -/
def fetchKeyPart (read : Cursor → Option (Token × Cursor)) (s : Scanner) : Option Scanner := do
  let s ← s.noteKey
  let (token, c) ← read s.cursor
  some { s with keyAllowed := false, tokens := s.tokens.push token, cursor := c }

def fetchBlock (isFolded : Bool) (s : Scanner) : Option Scanner := do
  let s ← s.dropKey
  let (text, c) ← readBlock isFolded s.indent s.cursor
  some { s with keyAllowed := true, tokens := s.tokens.push (.scalar text false), cursor := c }

/-- A plain scalar. A line break after it allows a key. -/
def fetchPlain (s : Scanner) : Option Scanner := do
  let s ← s.noteKey
  let (text, broken, c) ← readPlain s.inFlow (s.indent + 1).toNat s.cursor
  some { s with keyAllowed := broken, tokens := s.tokens.push (.scalar text true), cursor := c }

/-- Whether a plain scalar may start with a character, the next ones being
`rest`. -/
def startsPlain (inFlow : Bool) (x : Char) (rest : List Char) : Bool :=
  let indicators := ['-', '?', ':', ',', '[', ']', '\x7b', '\x7d', '#', '&', '*', '!', '|', '>', '\'',
    '"', '%', '@', '\x60']
  !(isBlank x || isBreak x || indicators.elem x) ||
    (x == '-' && !rest.head?.any isBlank) ||
    (!inFlow && (x == '?' || x == ':') && !atGap rest)

/-- Reads the token that starts with `x`. -/
def fetchToken (x : Char) (rest : List Char) (s : Scanner) : Option Scanner :=
  let inFlow := s.inFlow
  if x = '[' then s.fetchOpening .flowSequenceStart
  else if x = '\x7b' then s.fetchOpening .flowMappingStart
  else if x = ']' then s.fetchClosing .flowSequenceEnd
  else if x = '\x7d' then s.fetchClosing .flowMappingEnd
  else if x = ',' then s.fetchFlowEntry
  else if x = '-' ∧ atGap rest then s.fetchBlockEntry
  else if x = '?' ∧ (inFlow ∨ atGap rest) then s.fetchKey
  else if x = ':' ∧ (inFlow ∨ atGap rest) then s.fetchValue
  else if x = '*' then
    s.fetchKeyPart fun c => (readAnchor c.skip).map fun (name, c) => (.alias name, c)
  else if x = '&' then
    s.fetchKeyPart fun c => (readAnchor c.skip).map fun (name, c) => (.anchor name, c)
  else if x = '!' then
    s.fetchKeyPart fun c => (readTag c).map fun (handle, suffix, c) => (.tag handle suffix, c)
  else if x = '|' ∧ !inFlow then s.fetchBlock false
  else if x = '>' ∧ !inFlow then s.fetchBlock true
  else if x = '\'' ∨ x = '"' then
    s.fetchKeyPart fun c => (readQuoted x c).map fun (text, c) => (.scalar text false, c)
  else if startsPlain inFlow x rest then s.fetchPlain
  else none

/-- Reads the next token, with those that it entails. -/
def fetchNext (s : Scanner) : Option Scanner :=
  let s := skipToToken (s.cursor.rest.length + 1) s
  let s := s.closeBlocks s.cursor.column
  match s.cursor.rest with
  | [] => s.fetchEnd
  | x :: rest =>
      if s.cursor.column = 0 ∧ x = '%' then s.fetchDirective
      else if s.cursor.atDivider ['-', '-', '-'] then s.fetchDivider .documentStart
      else if s.cursor.atDivider ['.', '.', '.'] then s.fetchDivider .documentEnd
      else
        (s.fetchToken x rest).map fun s =>
          if s.tokens.back? = some .blockEntry then s else s.skipLineComment

/-- Whether more has to be read before token `n` is certain: two tokens are
read ahead, and a pending key there has to be decided. -/
def needsMore (n : Nat) (s : Scanner) : Option Bool :=
  if s.tokens.size < n + 3 then some true
  else
    match (s.pending :: s.outerPending).findSome? (·.filter fun k => k.number == n) with
    | none => some false
    | some k =>
        if k.isStale s.cursor then (if k.required then none else some false) else some true

/-- Reads until token `n` is certain. The fuel is the length of the text. -/
def readTo (n : Nat) : Nat → Scanner → Option Scanner
  | 0, _ => none
  | fuel + 1, s =>
      match s.needsMore n with
      | none => none
      | some false => some s
      | some true => s.fetchNext.bind (readTo n fuel)

/-- The start of a text, a mark of its encoding apart. Texts with characters
that are not allowed are refused. -/
def ofChars? (chars : List Char) : Option Scanner :=
  let chars := if chars.head? = some byteOrderMark then chars.drop 1 else chars
  if chars.all isAllowed then some { cursor := .start chars } else none

end Scanner

end ArchLint.Yaml
