/-!
Patterns over slash separated names. `*` stands for any characters of one
element, `?` for one character, `[a-z]` for a class, `{a,b}` for alternatives,
and an element `**` for any number of elements. A backslash takes the next
character literally. A malformed pattern matches nothing.
-/

namespace ArchLint.Glob

/-- The text before and after the first occurrence of a character that no
backslash precedes. `escaped` tells whether the character before is a
backslash, and `before` is the text seen so far in reverse. -/
def cutUnescaped? (stop : Char) (escaped : Bool) (before : List Char) :
    List Char → Option (List Char × List Char)
  | [] => none
  | c :: cs =>
      if c = stop ∧ !escaped then some (before.reverse, cs)
      else cutUnescaped? stop (c == '\\' && c != stop) (c :: before) cs

/-- The first element of a name or pattern, and what follows its slash. -/
def firstElement (s : List Char) : List Char × Option (List Char) :=
  match cutUnescaped? '/' false [] s with
  | some (element, rest) => (element, some rest)
  | none => (s, none)

/-- The alternatives after an opening brace, and the text after the brace that
closes it; `none` when it is not closed. `depth` counts the inner braces that
are open, and `option` is the current alternative in reverse. -/
def alternatives? (depth : Nat) (escaped : Bool) (option : List Char) :
    List Char → Option (List (List Char) × List Char)
  | [] => none
  | c :: cs =>
      if escaped then alternatives? depth false (c :: option) cs
      else if c = '\\' then alternatives? depth true (c :: option) cs
      else if c = '{' then alternatives? (depth + 1) false (c :: option) cs
      else if c = '}' then
        match depth with
        | 0 => some ([option.reverse], cs)
        | depth + 1 => alternatives? depth false (c :: option) cs
      else if c = ',' ∧ depth = 0 then
        (alternatives? 0 false [] cs).map fun (options, rest) => (option.reverse :: options, rest)
      else alternatives? depth false (c :: option) cs

/-- Tries tests in order: the first that holds or is malformed decides. -/
def firstDecided {α : Type} (test : α → Option Bool) : List α → Option Bool
  | [] => some false
  | x :: xs =>
      match test x with
      | some false => firstDecided test xs
      | decided => decided

/-- Whether a pattern matches the empty text by itself: nothing, stars, or
alternatives one of which does. The fuel is the length of the pattern. -/
def matchesEmpty? : Nat → List Char → Option Bool
  | 0, pattern => some pattern.isEmpty
  | n + 1, pattern =>
      if pattern = [] ∨ pattern = ['*'] ∨ pattern = ['*', '*'] then some true
      else
        match pattern with
        | '{' :: inner =>
            match alternatives? 0 false [] inner with
            | none => none
            | some (options, rest) =>
                match matchesEmpty? n rest with
                | some true => firstDecided (matchesEmpty? n) options
                | undecided => undecided
        | _ => some false

/-- A literal character of a class, with what follows it. -/
def classChar? : List Char → Option (Char × List Char)
  | [] => none
  | '-' :: _ => none
  | ['\\'] => none
  | '\\' :: c :: cs => some (c, cs)
  | c :: cs => some (c, cs)

/-- Whether a character is in a class, given by its inner text; `none` for a
malformed class. The fuel is the length of the text. -/
def inClass? (x : Char) : Nat → List Char → Option Bool
  | 0, _ => some false
  | _, [] => some false
  | n + 1, cs =>
      match classChar? cs with
      | none => none
      | some (low, '-' :: rest) =>
          match classChar? rest with
          | none => none
          | some (high, rest) =>
              (inClass? x n rest).map fun found => found || (low ≤ x && x ≤ high)
      | some (low, rest) => (inClass? x n rest).map fun found => found || low == x

/-- Whether a class, given by its inner text, accepts a character. -/
def classMatches? (x : Char) : List Char → Option Bool
  | [] => none
  | '^' :: cs => (inClass? x cs.length cs).map fun found => !found
  | cs => inClass? x cs.length cs

/-- The suffixes of a list that are not empty, longest first. -/
def nonemptySuffixes {α : Type} : List α → List (List α)
  | [] => []
  | x :: xs => (x :: xs) :: nonemptySuffixes xs

/-- The result of matching one element of a name. -/
inductive Outcome where
  /-- The pattern is malformed. -/
  | malformed
  /-- The element does not match. -/
  | mismatch
  /-- The element matches; what the name may continue with. No continuation
  means that the pattern is used up. -/
  | continues (patterns : List (List Char))

/-- The result at the end of the element: the rest of the pattern up to its
next slash has to match the empty text. -/
def atElementEnd (pattern : List Char) : Outcome :=
  let (element, rest) := firstElement pattern
  match matchesEmpty? (element.length + 1) element with
  | none => .malformed
  | some false => .mismatch
  | some true => .continues rest.toList

/-- The first outcome that is not a mismatch. -/
def firstContinuing {α : Type} (attempt : α → Outcome) : List α → Outcome
  | [] => .mismatch
  | x :: xs =>
      match attempt x with
      | .mismatch => firstContinuing attempt xs
      | outcome => outcome

/-- All continuations of the options that match; a malformed option spoils
them. -/
def allContinuing {α : Type} (attempt : α → Outcome) : List α → Outcome
  | [] => .mismatch
  | x :: xs =>
      match attempt x with
      | .malformed => .malformed
      | .mismatch => allContinuing attempt xs
      | .continues patterns =>
          match allContinuing attempt xs with
          | .malformed => .malformed
          | .mismatch => .continues patterns
          | .continues more => .continues (patterns ++ more)

/-- Matches one element of a name with the start of a pattern. Every step
shortens the pattern, whose length is the fuel. -/
def matchElement : Nat → List Char → List Char → Outcome
  | _, [], name => if name.isEmpty then .continues [] else .mismatch
  | _, pattern, [] => atElementEnd pattern
  | 0, _, _ => .mismatch
  | n + 1, p :: ps, x :: xs =>
      if p = '/' then .mismatch
      else if p = '\\' then
        match ps with
        | [] => .malformed
        | q :: qs =>
            if q = '\ufffd' then .malformed
            else if q = x then matchElement n qs xs
            else .mismatch
      else if p = '*' then
        match ps with
        | [] => .continues []
        | '/' :: rest => .continues [rest]
        | _ => firstContinuing (matchElement n ps) (nonemptySuffixes (x :: xs))
      else if p = '[' then
        match cutUnescaped? ']' false [] ps with
        | none => .malformed
        | some (inner, rest) =>
            match classMatches? x inner with
            | none => .malformed
            | some false => .mismatch
            | some true => matchElement n rest xs
      else if p = '{' then
        match alternatives? 0 false [] ps with
        | none => .malformed
        | some (options, rest) =>
            allContinuing (fun option => matchElement n (option ++ rest) (x :: xs)) options
      else if p = '?' ∨ p = x then matchElement n ps xs
      else .mismatch

/-- A name and what is left of it after each of its slashes. -/
def elementSuffixes : Nat → List Char → List (List Char)
  | 0, name => [name]
  | n + 1, name =>
      match firstElement name with
      | (_, none) => [name]
      | (_, some rest) => name :: elementSuffixes n rest

/-- Whether a pattern matches a name; `none` for a malformed pattern. Every
step shortens the pattern, whose length is the fuel. -/
def matchName? : Nat → List Char → List Char → Option Bool
  | 0, pattern, name => some (pattern.isEmpty && name.isEmpty)
  | n + 1, pattern, name =>
      if pattern.isEmpty then some name.isEmpty
      else
        match firstElement pattern with
        | (['*', '*'], none) => some true
        | (['*', '*'], some rest) =>
            some ((elementSuffixes name.length name).any fun suffix =>
              matchName? n rest suffix == some true)
        | _ =>
            let (element, following) := firstElement name
            match matchElement pattern.length pattern element, following with
            | .malformed, _ => none
            | .mismatch, _ => some false
            | .continues patterns, none => some patterns.isEmpty
            | .continues patterns, some rest =>
                firstDecided (fun continuation => matchName? n continuation rest) patterns

/-- Whether a name matches a pattern. -/
def accepts (pattern name : String) : Bool :=
  matchName? (pattern.length + 1) pattern.toList name.toList == some true

end ArchLint.Glob
