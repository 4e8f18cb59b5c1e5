namespace ArchLint.Text

/-- Drops the characters of a class at the right end. -/
def trimRightWhile (p : Char → Bool) (s : List Char) : List Char :=
  (s.reverse.dropWhile p).reverse

/-- Drops the characters of a class at both ends. -/
def trimWhile (p : Char → Bool) (s : List Char) : List Char :=
  trimRightWhile p (s.dropWhile p)

/-- White space in the sense of Unicode: the six ASCII blanks, the two Latin-1
ones, and the separators of the higher planes. -/
def isBlank (c : Char) : Bool :=
  c == '\t' || c == '\n' || c == '\x0b' || c == '\x0c' || c == '\r' ||
    c == ' ' || c == '\u0085' || c == '\u00a0' || c == '\u1680' ||
    ('\u2000' ≤ c && c ≤ '\u200a') || c == '\u2028' || c == '\u2029' ||
    c == '\u202f' || c == '\u205f' || c == '\u3000'

/-- The text without white space at its ends. -/
def trimBlank (s : String) : String :=
  String.ofList (trimWhile isBlank s.toList)

/-- The rest of `s` after `p`, when `s` starts with `p`. -/
def afterPrefix? : List Char → List Char → Option (List Char)
  | [], s => some s
  | _ :: _, [] => none
  | p :: ps, c :: cs => if p = c then afterPrefix? ps cs else none

def startsWith (s p : String) : Bool :=
  p.toList.isPrefixOf s.toList

def endsWith (s p : String) : Bool :=
  p.toList.isSuffixOf s.toList

/-- The pieces between the occurrences of one character. -/
def splitAt (c : Char) (s : String) : List String :=
  (s.toList.splitOn c).map String.ofList

/-- Replaces the occurrences of a nonempty pattern, taken from left to right
without overlap. The fuel is the length of the text. -/
def replaceLoop (pattern replacement : List Char) : Nat → List Char → List Char
  | 0, s => s
  | _, [] => []
  | n + 1, c :: cs =>
      match afterPrefix? pattern (c :: cs) with
      | some rest => replacement ++ replaceLoop pattern replacement n rest
      | none => c :: replaceLoop pattern replacement n cs

/-- Replaces every occurrence of a nonempty pattern. -/
def replaceAll (pattern replacement : String) (s : String) : String :=
  String.ofList
    (replaceLoop pattern.toList replacement.toList s.toList.length s.toList)

/-- Whether `pattern` occurs in the text. -/
def containsText (pattern : List Char) : List Char → Bool
  | [] => pattern.isEmpty
  | c :: cs => pattern.isPrefixOf (c :: cs) || containsText pattern cs

/-- The text before and after the first occurrence of a character. -/
def cut? (c : Char) : List Char → Option (List Char × List Char)
  | [] => none
  | d :: ds =>
      if d = c then some ([], ds)
      else (cut? c ds).map fun (before, after) => (d :: before, after)

/-- The text before and after the last occurrence of a character of a
class. -/
def cutLast? (p : Char → Bool) (s : List Char) : Option (List Char × List Char) :=
  match s.reverse.dropWhile (fun c => !p c) with
  | [] => none
  | _ :: before => some (before.reverse, (s.reverse.takeWhile (fun c => !p c)).reverse)

/-- The lines of a text, without their final line feeds. -/
def lines (s : String) : List String :=
  splitAt '\n' s

/-- An ASCII letter in lower case; every other character unchanged. -/
def lowerAscii (c : Char) : Char :=
  if 'A' ≤ c ∧ c ≤ 'Z' then Char.ofNat (c.toNat + 32) else c

/-- The text repeated `n` times. -/
def repeated (n : Nat) (s : String) : String :=
  String.join (List.replicate n s)

def blanks (n : Nat) : String :=
  String.ofList (List.replicate n ' ')

/-- Joins texts with a separator between them. -/
def joinWith (separator : String) (parts : List String) : String :=
  separator.intercalate parts

/-- Keeps the first occurrence of every element. -/
def distinct {α : Type} [BEq α] (xs : List α) : List α :=
  (xs.foldl (fun (seen : List α) x => if seen.elem x then seen else x :: seen) []).reverse

/-- Byte order of the encodings, which for Unicode texts is the order by code
points. -/
def byteLe (a b : String) : Bool :=
  !decide (b < a)

end ArchLint.Text
