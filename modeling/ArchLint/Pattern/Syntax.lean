import ArchLint.Number.Reading
import ArchLint.Pattern.Basic
import ArchLint.Text.Scripts

/-!
How regular expressions are written, and what is wrong with a text that is
none.
-/

namespace ArchLint.Pattern

/-- What is wrong with a text, with the part of it that shows the fault. -/
inductive Fault where
  | badRange (part : String)
  | badEscape (part : String)
  | badName (part : String)
  | badFlags (part : String)
  | nestedRepetition (part : String)
  | badCount (part : String)
  | openSet (part : String)
  | openGroup (part : String)
  | unexpectedClosing (part : String)
  | nothingToRepeat (part : String)
  | trailingBackslash
  | tooDeep (part : String)
  deriving DecidableEq, Repr

def Fault.message : Fault → String
  | .badRange part => text "invalid character class range" part
  | .badEscape part => text "invalid escape sequence" part
  | .badName part => text "invalid named capture" part
  | .badFlags part => text "invalid or unsupported Perl syntax" part
  | .nestedRepetition part => text "invalid nested repetition operator" part
  | .badCount part => text "invalid repeat count" part
  | .openSet part => text "missing closing ]" part
  | .openGroup part => text "missing closing )" part
  | .unexpectedClosing part => text "unexpected )" part
  | .nothingToRepeat part => text "missing argument to repetition operator" part
  | .trailingBackslash => text "trailing backslash at end of expression" ""
  | .tooDeep part => text "expression nests too deeply" part
where
  /-- A kind of fault and the part that shows it. -/
  text (kind part : String) : String :=
    "error parsing regexp: " ++ kind ++ ": \x60" ++ part ++ "\x60"

/-- What is in force at a place: letters match in either case, anchors see
lines, and a point matches line feeds. -/
structure Flags where
  ignoresCase : Bool := false
  seesLines : Bool := false
  pointMatchesAll : Bool := false
  deriving DecidableEq, Repr

/-- The part of a text in front of its rest. -/
def partBefore (s rest : List Char) : String :=
  String.ofList (s.take (s.length - rest.length))

def maxCode : Nat :=
  0x10ffff

/-- Ranges that end at ASCII letters and digits. -/
def asciiRanges (pairs : List (Char × Char)) : List (Nat × Nat) :=
  pairs.map fun (lo, hi) => (lo.toNat, hi.toNat)

def letterSet? (c : Char) : Option CharSet.Item :=
  match c with
  | 'd' => some (false, digits)
  | 'D' => some (true, digits)
  | 's' => some (false, blanks)
  | 'S' => some (true, blanks)
  | 'w' => some (false, wordChars)
  | 'W' => some (true, wordChars)
  | _ => none
where
  /-- Digits. -/
  digits : List (Nat × Nat) := asciiRanges [('0', '9')]
  /-- Blanks. -/
  blanks : List (Nat × Nat) := asciiRanges [('\t', '\n'), ('\x0c', '\r'), (' ', ' ')]
  /-- The characters of words. -/
  wordChars : List (Nat × Nat) := asciiRanges [('0', '9'), ('A', 'Z'), ('_', '_'), ('a', 'z')]

/-- The sets of ASCII characters with names. -/
def asciiSets : List (String × List (Nat × Nat)) :=
  [("alnum", asciiRanges [('0', '9'), ('A', 'Z'), ('a', 'z')]),
    ("alpha", asciiRanges [('A', 'Z'), ('a', 'z')]),
    ("ascii", [(0, 0x7f)]),
    ("blank", asciiRanges [('\t', '\t'), (' ', ' ')]),
    ("cntrl", [(0, 0x1f), (0x7f, 0x7f)]),
    ("digit", asciiRanges [('0', '9')]),
    ("graph", asciiRanges [('!', '~')]),
    ("lower", asciiRanges [('a', 'z')]),
    ("print", asciiRanges [(' ', '~')]),
    ("punct", asciiRanges [('!', '/'), (':', '@'), ('[', '\x60'), ('\x7b', '~')]),
    ("space", asciiRanges [('\t', '\r'), (' ', ' ')]),
    ("upper", asciiRanges [('A', 'Z')]),
    ("word", asciiRanges [('0', '9'), ('A', 'Z'), ('_', '_'), ('a', 'z')]),
    ("xdigit", asciiRanges [('0', '9'), ('A', 'F'), ('a', 'f')])]

/-- The characters with a property that has a name. -/
def unicodeSet? (name : String) : Option CharSet.Item :=
  let everything : Text.Property := { name := "Any", ranges := [(0, maxCode)] }
  let ascii : Text.Property := { name := "ASCII", ranges := [(0, 0x7f)] }
  let known := everything :: ascii :: (Text.categories ++ Text.largerCategories ++ Text.scripts)
  (known.find? (·.isCalled name)).map fun p => (p.isComplement, p.ranges)

/-- Reads a set of characters of all scripts, the escape being next. -/
def readUnicodeSet (s : List Char) : Except Fault (CharSet.Item × List Char) :=
  let negated := s[1]? == some 'P'
  let lookup (part : String) (name rest : List Char) : Except Fault (CharSet.Item × List Char) :=
    let (negated, name) := match name with
      | '^' :: name => (!negated, name)
      | name => (negated, name)
    match unicodeSet? (String.ofList name) with
    | some (isComplement, ranges) => .ok ((negated != isComplement, ranges), rest)
    | none => .error (.badRange part)
  match s.drop 2 with
  | [] => .error (.badRange (String.ofList s))
  | '\x7b' :: after =>
      match Text.cut? '\x7d' after with
      | some (name, rest) => lookup (partBefore s rest) name rest
      | none => .error (.badRange (String.ofList s))
  | c :: rest => lookup (partBefore s rest) [c] rest

/-- Up to `n` octal digits. -/
def readOctal : Nat → Nat → List Char → Nat × List Char
  | 0, value, s => (value, s)
  | _, value, [] => (value, [])
  | n + 1, value, c :: rest =>
      if '0' ≤ c ∧ c ≤ '7' then readOctal n (8 * value + (c.toNat - '0'.toNat)) rest
      else (value, c :: rest)

/-- Hexadecimal digits up to a closing brace. The rest after a fault is told
too. -/
def readBracedHex : Nat → Option Nat → List Char → Except (List Char) (Nat × List Char)
  | 0, _, s => .error s
  | _, _, [] => .error []
  | n + 1, value, c :: rest =>
      if c = '\x7d' then
        match value with
        | some v => .ok (v, rest)
        | none => .error rest
      else
        match Text.hexDigit? c with
        | some d =>
            let v := 16 * value.getD 0 + d
            if maxCode < v then .error rest else readBracedHex n (some v) rest
        | none => .error rest

/-- Reads an escaped character, the backslash being next. -/
def readEscape (s : List Char) : Except Fault (Nat × List Char) :=
  match s.drop 1 with
  | [] => .error .trailingBackslash
  | c :: rest =>
      let bad (rest : List Char) : Except Fault (Nat × List Char) := .error (.badEscape (partBefore s rest))
      if c = '0' ∨ ('1' ≤ c ∧ c ≤ '7' ∧ rest.head?.any fun d => '0' ≤ d && d ≤ '7') then
        let (value, rest) := readOctal 2 (c.toNat - '0'.toNat) rest
        .ok (value, rest)
      else if c = 'x' then
        match rest with
        | [] => bad []
        | '\x7b' :: rest =>
            match readBracedHex (rest.length + 1) none rest with
            | .ok (value, rest) => .ok (value, rest)
            | .error rest => bad rest
        | a :: rest =>
            match rest with
            | [] => bad []
            | b :: rest =>
                match Text.hexDigit? a, Text.hexDigit? b with
                | some x, some y => .ok (16 * x + y, rest)
                | _, _ => bad rest
      else if c = 'a' then .ok (7, rest)
      else if c = 'f' then .ok (12, rest)
      else if c = 'n' then .ok (10, rest)
      else if c = 'r' then .ok (13, rest)
      else if c = 't' then .ok (9, rest)
      else if c = 'v' then .ok (11, rest)
      else if c.toNat < 0x80 ∧ !c.isAlphanum then .ok (c.toNat, rest)
      else bad rest

/-- Reads one character of a set that starts at `whole`. -/
def readSetChar (whole s : List Char) : Except Fault (Nat × List Char) :=
  match s with
  | [] => .error (.openSet (String.ofList whole))
  | '\\' :: _ => readEscape s
  | c :: rest => .ok (c.toNat, rest)

/-- Reads the items of a set up to its closing bracket. A bracket or hyphen in
front is an item. -/
def readSetItems (whole : List Char) : Nat → Bool → List CharSet.Item →
    List Char → Except Fault ((List CharSet.Item) × List Char)
  | 0, _, _, _ => .error (.openSet (String.ofList whole))
  | n + 1, isFirst, items, s =>
      let single : Except Fault ((List CharSet.Item) × List Char) := do
        let (lo, rest) ← readSetChar whole s
        match rest with
        | '-' :: c :: more =>
            if c = ']' then readSetItems whole n false ((false, [(lo, lo)]) :: items) rest
            else
              let (hi, after) ← readSetChar whole (c :: more)
              if hi < lo then .error (.badRange (partBefore s after))
              else readSetItems whole n false ((false, [(lo, hi)]) :: items) after
        | rest => readSetItems whole n false ((false, [(lo, lo)]) :: items) rest
      match s with
      | ']' :: rest => if isFirst then single else .ok (items, rest)
      | '[' :: ':' :: after =>
          if after.isEmpty then single
          else
            match namedPart after with
            | none => single
            | some (name, rest) =>
                let (negated, plain) := match name with
                  | '^' :: plain => (true, plain)
                  | plain => (false, plain)
                match asciiSets.lookup (String.ofList plain) with
                | some ranges => readSetItems whole n false ((negated, ranges) :: items) rest
                | none => .error (.badRange (partBefore s rest))
      | '\\' :: 'p' :: _ => do
          let (item, rest) ← readUnicodeSet s
          readSetItems whole n false (item :: items) rest
      | '\\' :: 'P' :: _ => do
          let (item, rest) ← readUnicodeSet s
          readSetItems whole n false (item :: items) rest
      | '\\' :: c :: rest =>
          match letterSet? c with
          | some item => readSetItems whole n false (item :: items) rest
          | none => single
      | _ => single
where
  /-- A name up to a colon and a closing bracket. -/
  namedPart : List Char → Option (List Char × List Char)
    | ':' :: ']' :: rest => some ([], rest)
    | c :: rest => (namedPart rest).map fun (name, rest) => (c :: name, rest)
    | [] => none

/-- Reads a set in brackets, the opening one being next. -/
def readSet (flags : Flags) (s : List Char) : Except Fault (CharSet × List Char) := do
  let (isNegated, inner) := match s.drop 1 with
    | '^' :: rest => (true, rest)
    | rest => (false, rest)
  let (items, rest) ← readSetItems s (s.length + 1) true [] inner
  .ok ({ items, isNegated, ignoresCase := flags.ignoresCase }, rest)

/-- A whole number without leading zeros; `none` inside if it is too large. -/
def readCount (s : List Char) : Option (Option Nat × List Char) :=
  let ds := s.takeWhile Char.isDigit
  if ds.isEmpty || (1 < ds.length && ds.head? == some '0') then none
  else
    let n := Number.natOfDigits ds
    some (if n < Nat.pow 10 9 then some n else none, s.drop ds.length)

/-- The bounds of a counted repetition, the opening brace being next. -/
def readBounds (s : List Char) : Option ((Option Nat × Option (Option Nat)) × List Char) := do
  let (least, rest) ← readCount (s.drop 1)
  match rest with
  | ',' :: '\x7d' :: rest => some ((least, none), rest)
  | ',' :: rest => do
      let (most, rest) ← readCount rest
      match rest with
      | '\x7d' :: rest => some ((least, some most), rest)
      | _ => none
  | '\x7d' :: rest => some ((least, some least), rest)
  | _ => none

/-- Whether nested counted repetitions stay within a total number. -/
def countsWithin : Nat → Pattern → Bool
  | n, .sequence p q => countsWithin n p && countsWithin n q
  | n, .choice p q => countsWithin n p && countsWithin n q
  | n, .repeated least most body =>
      if least = 0 ∧ (most = none ∨ most = some 1) ∨ (least = 1 ∧ most = none) then
        countsWithin n body
      else
        let m := most.getD least
        if m = 0 then true else if n < m then false else countsWithin (n / m) body
  | _, _ => true

/-- What an item of a group is when it stands beside others: characters that
become one text, a set, or what takes in the parts of its own kind. -/
inductive Shape where
  | text (ignoresCase isSingle : Bool)
  | set
  | sequence
  | choice
  | other
  deriving DecidableEq, Repr

/-- An expression with the depth to which it nests others. -/
structure Item where
  pattern : Pattern
  shape : Shape := .other
  depth : Nat := 1

namespace Item

/-- The depth of an item as a part of one of some shape. -/
def depthWithin (i : Item) (shape : Shape) : Nat :=
  if i.shape = shape then i.depth - 1 else i.depth

/-- Whether an item is characters of a text, in the same case or in any. -/
def isText (i : Item) (flag : Bool) : Bool :=
  match i.shape with
  | .text ignoresCase _ => ignoresCase == flag
  | _ => false

/-- Whether an item stands for one character. -/
def isSingle (i : Item) : Bool :=
  match i.shape with
  | .text _ isSingle => isSingle
  | .set => true
  | _ => false

/-- The depth of something made up of items. -/
def depthAround (shape : Shape) (items : List Item) : Nat :=
  1 + (items.map (·.depthWithin shape)).foldl max 0

/-- Items one behind the other, latest first. -/
def sequence : List Item → Item
  | [] => { pattern := .empty }
  | [i] => i
  | last :: before =>
      let pattern := before.foldl (fun p i => .sequence i.pattern p) last.pattern
      let items := last :: before
      if items.all (·.isText false) then { pattern, shape := .text false false }
      else if items.all (·.isText true) then { pattern, shape := .text true false }
      else { pattern, shape := .sequence, depth := depthAround .sequence items }

/-- Items to choose from, latest first. -/
def choice (last : Item) : List Item → Item
  | [] => last
  | before =>
      let pattern := before.foldl (fun p i => .choice i.pattern p) last.pattern
      let items := last :: before
      if items.all isSingle then { pattern, shape := .set }
      else { pattern, shape := .choice, depth := depthAround .choice items }

end Item

/-- The depth to which an expression can nest others. -/
def maxDepth : Nat := 1000

/-- An open group: the flags before it, whether it captures what it matches,
the complete choices and the items of the current one, latest first. -/
structure Frame where
  outerFlags : Flags
  captures : Bool := false
  choices : List Item := []
  items : List Item := []

namespace Frame

def nextChoice (f : Frame) : Frame :=
  { f with choices := .sequence f.items :: f.choices, items := [] }

def close (f : Frame) : Item :=
  let body := Item.choice (.sequence f.items) f.choices
  if f.captures then { pattern := body.pattern, depth := body.depth + 1 } else body

def add (f : Frame) (i : Item) : Frame :=
  { f with items := i :: f.items }

/-- Whether the latest part nests others too deeply. -/
def isTooDeep (f : Frame) : Bool :=
  (f.items.head?.or f.choices.head?).any fun i => maxDepth < i.depth

end Frame

/-- A partly read expression: the innermost group, those around it, and the
flags in force. -/
structure State where
  frame : Frame
  outer : List Frame := []
  flags : Flags := {}

namespace State

/-- Adds an item to the innermost group. -/
def add (st : State) (i : Item) : State :=
  { st with frame := st.frame.add i }

def addChar (st : State) (code : Nat) : State :=
  let ignoresCase := st.flags.ignoresCase
  st.add { pattern := .char { items := [(false, [(code, code)])], ignoresCase }
           shape := .text ignoresCase true }

def addSet (st : State) (set : CharSet) : State :=
  st.add { pattern := .char set, shape := .set }

def addAnchor (st : State) (kind : Anchor) : State :=
  st.add { pattern := .anchor kind }

/-- Opens a group, in which other flags may be in force. -/
def openGroup (st : State) (captures : Bool) (flags : Flags) : State :=
  { frame := { outerFlags := st.flags, captures }, outer := st.frame :: st.outer, flags }

def closeGroup? (st : State) : Option State :=
  match st.outer with
  | [] => none
  | frame :: outer =>
      some { frame := frame.add st.frame.close, outer, flags := st.frame.outerFlags }

end State

/-- Whether a text can name a group. -/
def isGroupName (name : List Char) : Bool :=
  !name.isEmpty && name.all isWordChar

/-- Reads flags up to a colon or a closing bracket. The result tells whether a
group is opened. The fault of unknown flags shows the text up to it. -/
def readFlags (whole : List Char) : Nat → Bool → Bool → Flags → List Char →
    Except Fault ((Flags × Bool) × List Char)
  | 0, _, _, _, s => .error (.badFlags (partBefore whole s))
  | _, _, _, _, [] => .error (.badFlags (String.ofList whole))
  | n + 1, negative, seen, flags, c :: rest =>
      let bad : Except Fault ((Flags × Bool) × List Char) := .error (.badFlags (partBefore whole rest))
      match c with
      | 'i' => readFlags whole n negative true { flags with ignoresCase := !negative } rest
      | 'm' => readFlags whole n negative true { flags with seesLines := !negative } rest
      | 's' => readFlags whole n negative true { flags with pointMatchesAll := !negative } rest
      | 'U' => readFlags whole n negative true flags rest
      | '-' => if negative then bad else readFlags whole n true false flags rest
      | ':' => if negative && !seen then bad else .ok ((flags, true), rest)
      | ')' => if negative && !seen then bad else .ok ((flags, false), rest)
      | _ => bad

/-- Reads what follows an opening bracket and a question mark. -/
def readGroupStart (st : State) (s : List Char) : Except Fault (State × List Char) :=
  let named (nameStart : Nat) : Except Fault (State × List Char) :=
    match Text.cut? '>' s with
    | none => .error (.badName (String.ofList s))
    | some (before, rest) =>
        if isGroupName (before.drop nameStart) then .ok (st.openGroup true st.flags, rest)
        else .error (.badName (String.ofList before ++ ">"))
  match s.drop 2 with
  | 'P' :: '<' :: _ :: _ => named 4
  | '<' :: _ :: _ => named 3
  | flags => do
      let ((flags, opens), rest) ← readFlags s (s.length + 1) false false st.flags flags
      .ok (if opens then st.openGroup false flags else { st with flags }, rest)

/-- Repeats the last item. `last` is the text from the repetition directly in
front, if there is one. -/
def applyRepetition (st : State) (least : Nat) (most : Option Nat) (s rest : List Char)
    (last : Option (List Char)) : Except Fault (State × List Char) :=
  let rest := match rest with
    | '?' :: rest => rest
    | rest => rest
  match last with
  | some start => .error (.nestedRepetition (partBefore start rest))
  | none =>
      match st.frame.items with
      | [] => .error (.nothingToRepeat (partBefore s rest))
      | item :: items =>
          let p := Pattern.repeated least most item.pattern
          if (2 ≤ least ∨ most.any (2 ≤ ·)) ∧ !countsWithin 1000 p then
            .error (.badCount (partBefore s rest))
          else
            let repetition : Item := { pattern := p, depth := item.depth + 1 }
            .ok ({ st with frame := { st.frame with items := repetition :: items } }, rest)

def readBackslash (st : State) (s : List Char) : Except Fault (State × List Char) :=
  match s.drop 1 with
  | 'A' :: rest => .ok (st.addAnchor .textStart, rest)
  | 'z' :: rest => .ok (st.addAnchor .textEnd, rest)
  | 'b' :: rest => .ok (st.addAnchor .wordBoundary, rest)
  | 'B' :: rest => .ok (st.addAnchor .noWordBoundary, rest)
  | 'C' :: rest => .error (.badEscape (partBefore s rest))
  | 'Q' :: rest =>
      let (quoted, rest) := splitQuoted rest
      .ok (quoted.foldl (fun st c => st.addChar c.toNat) st, rest)
  | c :: rest =>
      if c = 'p' ∨ c = 'P' then do
        let (item, rest) ← readUnicodeSet s
        .ok (st.addSet { items := [item], ignoresCase := st.flags.ignoresCase }, rest)
      else
        match letterSet? c with
        | some item =>
            .ok (st.addSet { items := [item], ignoresCase := st.flags.ignoresCase }, rest)
        | none => do
            let (code, rest) ← readEscape s
            .ok (st.addChar code, rest)
  | [] => .error .trailingBackslash
where
  /-- The text up to the end of a quotation. -/
  splitQuoted : List Char → List Char × List Char
    | '\\' :: 'E' :: rest => ([], rest)
    | c :: rest =>
        let (quoted, after) := splitQuoted rest
        (c :: quoted, after)
    | [] => ([], [])

/-- Reads one element of an expression, and tells whether it is a
repetition. -/
def readElement (whole : List Char) (st : State) (c : Char) (rest : List Char)
    (last : Option (List Char)) : Except Fault (State × Bool × List Char) :=
  let s := c :: rest
  let plain (r : Except Fault (State × List Char)) : Except Fault (State × Bool × List Char) :=
    r.map fun (st, rest) => (st, false, rest)
  let repetition (r : Except Fault (State × List Char)) : Except Fault (State × Bool × List Char) :=
    r.map fun (st, rest) => (st, true, rest)
  match c with
  | '(' =>
      if rest.head? = some '?' then plain (readGroupStart st s)
      else .ok (st.openGroup true st.flags, false, rest)
  | '|' => .ok ({ st with frame := st.frame.nextChoice }, false, rest)
  | ')' =>
      match st.closeGroup? with
      | some st => .ok (st, false, rest)
      | none => .error (.unexpectedClosing (String.ofList whole))
  | '^' => .ok (st.addAnchor (if st.flags.seesLines then .lineStart else .textStart), false, rest)
  | '$' => .ok (st.addAnchor (if st.flags.seesLines then .lineEnd else .textEnd), false, rest)
  | '.' =>
      let set : CharSet :=
        if st.flags.pointMatchesAll then { isNegated := true }
        else { items := [(false, [(10, 10)])], isNegated := true }
      .ok (st.addSet set, false, rest)
  | '[' => plain ((readSet st.flags s).map fun (set, rest) => (st.addSet set, rest))
  | '*' => repetition (applyRepetition st 0 none s rest last)
  | '+' => repetition (applyRepetition st 1 none s rest last)
  | '?' => repetition (applyRepetition st 0 (some 1) s rest last)
  | '\x7b' =>
      match readBounds s with
      | none => .ok (st.addChar c.toNat, false, rest)
      | some ((least, most), rest) =>
          match least, most with
          | some least, none =>
              if 1000 < least then .error (.badCount (partBefore s rest))
              else repetition (applyRepetition st least none s rest last)
          | some least, some (some most) =>
              if 1000 < least ∨ 1000 < most ∨ most < least then
                .error (.badCount (partBefore s rest))
              else repetition (applyRepetition st least (some most) s rest last)
          | _, _ => .error (.badCount (partBefore s rest))
  | '\\' => plain (readBackslash st s)
  | c => .ok (st.addChar c.toNat, false, rest)

/-- Reads an expression to its end. The fuel is the length of the text. -/
def readElements (whole : List Char) : Nat → State → Option (List Char) → List Char →
    Except Fault State
  | 0, st, _, _ => .ok st
  | _, st, _, [] => .ok st
  | n + 1, st, last, c :: rest => do
      let (st, isRepetition, after) ← readElement whole st c rest last
      if st.frame.isTooDeep then throw (.tooDeep (String.ofList whole))
      readElements whole n st (if isRepetition then some (c :: rest) else none) after

/-- Reads a regular expression. -/
def ofText (text : String) : Except Fault Pattern := do
  let chars := text.toList
  let st ← readElements chars chars.length { frame := { outerFlags := {} } } none chars
  let item := st.frame.close
  if maxDepth < item.depth then throw (.tooDeep text)
  match st.outer with
  | [] => .ok item.pattern
  | _ :: _ => .error (.openGroup text)

/-- Reads a regular expression as a test of texts: whether it is found in
them. -/
def test (text : String) : Except Fault (String → Bool) :=
  (ofText text).map fun p => p.isFoundIn

end ArchLint.Pattern
