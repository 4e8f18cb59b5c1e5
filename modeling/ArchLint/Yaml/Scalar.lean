import ArchLint.Text.Table
import ArchLint.Yaml.Token

namespace ArchLint.Yaml

/-- What stands between two words of a scalar: blanks on one line, or a first
line break and further ones. -/
structure Gap where
  blanks : List Char := []
  firstBreak : List Char := []
  moreBreaks : List Char := []
  broken : Bool := false

/-- The text of a gap. One line feed becomes a space, more lose the first. -/
def Gap.text (g : Gap) : List Char :=
  if g.broken then
    match g.firstBreak with
    | '\n' :: _ => if g.moreBreaks.isEmpty then [' '] else g.moreBreaks
    | first => first ++ g.moreBreaks
  else g.blanks

/-- Reads a gap. A tab in front of column `indent` of a later line is an
error. The fuel is the length of the text. -/
def readGap (indent : Nat) : Nat → Gap → Cursor → Option (Gap × Cursor)
  | 0, g, c => some (g, c)
  | n + 1, g, c =>
      match c.rest with
      | [] => some (g, c)
      | x :: _ =>
          if isBlank x then
            if g.broken then
              if x = '\t' ∧ c.column < indent then none else readGap indent n g c.skip
            else readGap indent n { g with blanks := g.blanks ++ [x] } c.skip
          else if isBreak x then
            let (b, c) := c.takeBreak
            if g.broken then readGap indent n { g with moreBreaks := g.moreBreaks ++ b } c
            else readGap indent n { g with firstBreak := b, broken := true } c
          else some (g, c)

/-- Whether a plain scalar ends in front of a character, the next ones being
`rest`. -/
def endsPlain (inFlow : Bool) (x : Char) (rest : List Char) : Bool :=
  isBlank x || isBreak x || (x == ':' && atGap rest) ||
    (inFlow && (x == ',' || x == '?' || x == '[' || x == ']' || x == '\x7b' || x == '\x7d'))

def plainWord (inFlow : Bool) : List Char → List Char
  | [] => []
  | x :: rest => if endsPlain inFlow x rest then [] else x :: plainWord inFlow rest

/-- The words of a plain scalar. Outside of brackets it goes on only on lines
that start at column `indent` or further right. -/
def readPlainWords (inFlow : Bool) (indent : Nat) :
    Nat → List Char → Gap → Cursor → Option (List Char × Gap × Cursor)
  | 0, text, gap, c => some (text, gap, c)
  | n + 1, text, gap, c =>
      if c.atDocumentDivider || c.rest.head? == some '#' then some (text, gap, c)
      else
        let word := plainWord inFlow c.rest
        let after := c.skipN word.length
        let (text, gap) := if word.isEmpty then (text, gap) else (text ++ gap.text ++ word, {})
        match after.rest with
        | [] => some (text, gap, after)
        | x :: _ =>
            if isBlank x || isBreak x then
              match readGap indent after.rest.length gap after with
              | none => none
              | some (gap, after) =>
                  if !inFlow && decide (after.column < indent) then some (text, gap, after)
                  else readPlainWords inFlow indent n text gap after
            else some (text, gap, after)

/-- A plain scalar, whether a line break follows it, and the place after
that. -/
def readPlain (inFlow : Bool) (indent : Nat) (c : Cursor) :
    Option (String × Bool × Cursor) :=
  (readPlainWords inFlow indent (c.rest.length + 1) [] {} c).map fun (text, gap, after) =>
    (String.ofList text, gap.broken, after)

/-- The character of an escape of one letter. -/
def escape? (x : Char) : Option Char :=
  match x with
  | '0' => some '\x00'
  | 'a' => some '\x07'
  | 'b' => some '\x08'
  | 't' => some '\t'
  | '\t' => some '\t'
  | 'n' => some '\n'
  | 'v' => some '\x0b'
  | 'f' => some '\x0c'
  | 'r' => some '\r'
  | 'e' => some '\x1b'
  | ' ' => some ' '
  | '"' => some '"'
  | '/' => some '/'
  | '\'' => some '\''
  | '\\' => some '\\'
  | 'N' => some '\u0085'
  | '_' => some '\u00a0'
  | 'L' => some '\u2028'
  | 'P' => some '\u2029'
  | _ => none

/-- The number of digits of an escape by code. -/
def codeLength? (x : Char) : Option Nat :=
  match x with
  | 'x' => some 2
  | 'u' => some 4
  | 'U' => some 8
  | _ => none

/-- The number that hexadecimal digits write. -/
def hexValue? (digits : List Char) : Option Nat :=
  digits.foldlM (fun n d => (Text.hexDigit? d).map (16 * n + ·)) 0

/-- The character of a code of `n` digits at the start of a text. -/
def codeChar? (n : Nat) (rest : List Char) : Option Char :=
  let digits := rest.take n
  if digits.length < n then none
  else
    (hexValue? digits).bind fun code =>
      if code < 0xd800 ∨ (0xdfff < code ∧ code < 0x110000) then some (Char.ofNat code) else none

/-- A word inside quotes: up to a blank, a line break or the closing quote. The
flag tells that an escaped line break ended it. -/
def readQuotedWord (quote : Char) : Nat → List Char → Cursor → Option (List Char × Bool × Cursor)
  | 0, text, c => some (text, false, c)
  | n + 1, text, c =>
      match c.rest with
      | [] => some (text, false, c)
      | x :: rest =>
          if isBlank x || isBreak x then some (text, false, c)
          else if x = quote then
            if quote = '\'' ∧ rest.head? = some '\'' then
              readQuotedWord quote n (text ++ ['\'']) (c.skipN 2)
            else some (text, false, c)
          else if x = '\\' ∧ quote = '"' then
            match rest with
            | [] => none
            | e :: more =>
                if isBreak e then some (text, true, c.skip.skipBreak)
                else
                  match escape? e, codeLength? e with
                  | some d, _ => readQuotedWord quote n (text ++ [d]) (c.skipN 2)
                  | none, some k =>
                      match codeChar? k more with
                      | some d => readQuotedWord quote n (text ++ [d]) (c.skipN (2 + k))
                      | none => none
                  | none, none => none
          else readQuotedWord quote n (text ++ [x]) c.skip

/-- The words inside quotes, up to the closing quote. -/
def readQuotedWords (quote : Char) : Nat → List Char → Cursor → Option (List Char × Cursor)
  | 0, _, _ => none
  | n + 1, text, c =>
      if c.atDocumentDivider || c.rest.isEmpty then none
      else
        match readQuotedWord quote (c.rest.length + 1) text c with
        | none => none
        | some (text, escaped, after) =>
            if after.rest.head? == some quote then some (text, after.skip)
            else
              match readGap 0 after.rest.length { broken := escaped } after with
              | none => none
              | some (gap, after) => readQuotedWords quote n (text ++ gap.text) after

/-- A quoted scalar, its opening quote being next. -/
def readQuoted (quote : Char) (c : Cursor) : Option (String × Cursor) :=
  (readQuotedWords quote (c.rest.length + 1) [] c.skip).map fun (text, after) =>
    (String.ofList text, after)

/-- What becomes of the line breaks at the end of a block of text. -/
inductive Chomping where
  | strip
  | clip
  | keep
  deriving DecidableEq, Repr

/-- The chomping that an indicator asks for. -/
def chomping? (x : Char) : Option Chomping :=
  if x = '+' then some .keep else if x = '-' then some .strip else none

/-- The indentation that a digit gives. -/
def increment? (x : Char) : Option Nat :=
  if x.isDigit then some (x.toNat - '0'.toNat) else none

/-- The header of a block of text after its indicator: chomping and
indentation in either order. The indentation is not zero. -/
def readBlockHeader (c : Cursor) : Option (Chomping × Option Nat × Cursor) :=
  let optional {α : Type} (f : Char → Option α) (c : Cursor) : Option α × Cursor :=
    match c.rest.head?.bind f with
    | some a => (some a, c.skip)
    | none => (none, c)
  let (chomping, increment, c) :=
    match optional chomping? c with
    | (some chomping, c) =>
        let (increment, c) := optional increment? c
        (chomping, increment, c)
    | (none, c) =>
        match optional increment? c with
        | (none, c) => (.clip, none, c)
        | (increment, c) =>
            let (chomping, c) := optional chomping? c
            (chomping.getD .clip, increment, c)
  if increment = some 0 then none else some (chomping, increment, c)

/-- Passes indentation and empty lines of a block of text. Without a known
indentation, the widest line tells it. The result has the line breaks and the
widest column. -/
def readBlockBreaks (indent : Option Nat) :
    Nat → Nat → List Char → Cursor → Option (Nat × List Char × Cursor)
  | 0, widest, breaks, c => some (widest, breaks, c)
  | n + 1, widest, breaks, c =>
      let spaces := (c.rest.takeWhile (· == ' ')).length
      let c := c.skipN (indent.elim spaces fun i => min spaces (i - c.column))
      let widest := max widest c.column
      if c.rest.head? = some '\t' ∧ indent.all (c.column < ·) then none
      else if c.rest.head?.any isBreak then
        let (b, c) := c.takeBreak
        readBlockBreaks indent n widest (breaks ++ b) c
      else some (widest, breaks, c)

/-- The lines of a block of text. `lead` is the line break in front of the next
line, `more` are the empty lines after it, and `afterBlank` tells that the line
before starts with a blank. Folding joins two lines by a space, unless one of
them starts with a blank. -/
def readBlockLines (isFolded : Bool) (indent : Nat) :
    Nat → List Char → List Char → List Char → Bool → Cursor →
      Option (List Char × List Char × List Char × Cursor)
  | 0, text, lead, more, _, c => some (text, lead, more, c)
  | n + 1, text, lead, more, afterBlank, c =>
      match c.rest with
      | [] => some (text, lead, more, c)
      | x :: _ =>
          if c.column = indent then
            let startsBlank := isBlank x
            let joint :=
              if isFolded && !afterBlank && !startsBlank && lead.head? == some '\n' then
                if more.isEmpty then [' '] else []
              else lead
            let line := c.rest.takeWhile fun y => !isBreak y
            let (lead, after) := (c.skipN line.length).takeBreak
            match readBlockBreaks (some indent) after.rest.length.succ 0 [] after with
            | none => none
            | some (_, breaks, after) =>
                readBlockLines isFolded indent n (text ++ joint ++ more ++ line) lead breaks
                  startsBlank after
          else some (text, lead, more, c)

/-- A block of text, its indicator being next, inside a block that is indented
by `outer`. -/
def readBlock (isFolded : Bool) (outer : Int) (c : Cursor) : Option (String × Cursor) := do
  let (chomping, increment, c) ← readBlockHeader c.skip
  let c := c.skipWhile isBlank
  let c := if c.rest.head? = some '#' then c.skipToLineEnd else c
  if !atLineEnd c.rest then none
  else
    let c := c.skipBreak
    let given := increment.map fun k => (max outer 0).toNat + k
    let (widest, breaks, c) ← readBlockBreaks given c.rest.length.succ 0 [] c
    let indent := given.getD (max (max widest (outer + 1).toNat) 1)
    let (text, lead, more, c) ←
      readBlockLines isFolded indent (c.rest.length + 1) [] [] breaks false c
    let tail := match chomping with
      | .strip => []
      | .clip => lead
      | .keep => lead ++ more
    some (String.ofList (text ++ tail), c)

end ArchLint.Yaml
