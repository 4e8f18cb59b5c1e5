import ArchLint.Text.Basic

namespace ArchLint.SlashPath

/-- The elements between slashes. -/
def segments (path : String) : List String :=
  Text.splitAt '/' path

/-- Whether the path starts at the root. -/
def isAbsolute (path : String) : Bool :=
  path.toList.head? == some '/'

/-- One element applied to the cleaned elements so far, latest first. Two dots
take the last element back, and at the root they stay there. -/
def cleanStep (rooted : Bool) (done : List String) (segment : String) : List String :=
  if segment = "" ∨ segment = "." then done
  else if segment = ".." then
    match done with
    | [] => if rooted then [] else [".."]
    | last :: rest => if last = ".." then ".." :: done else rest
  else segment :: done

/-- The shortest path that means the same as a text. -/
def clean (path : String) : String :=
  let rooted := isAbsolute path
  let body := Text.joinWith "/" ((segments path).foldl (cleanStep rooted) []).reverse
  if rooted then "/" ++ body else if body.isEmpty then "." else body

/-- Joins paths, empty ones apart, and cleans the result. -/
def join (parts : List String) : String :=
  match parts.filter (fun p => !p.isEmpty) with
  | [] => ""
  | parts => clean (Text.joinWith "/" parts)

/-- The part after the last slash. -/
def lastSegment (path : String) : String :=
  String.ofList (path.toList.reverse.takeWhile (· != '/')).reverse

/-- The last element; slashes at the end do not count. -/
def base (path : String) : String :=
  if path.isEmpty then "."
  else
    let stripped := String.ofList (Text.trimRightWhile (· == '/') path.toList)
    if stripped.isEmpty then "/" else lastSegment stripped

/-- All but the last element. -/
def dir (path : String) : String :=
  clean (String.ofList (path.toList.reverse.dropWhile (· != '/')).reverse)

/-- The extension of the last element, with its dot; empty if there is
none. -/
def extension (path : String) : String :=
  let last := (lastSegment path).toList
  if last.elem '.' then
    String.ofList ('.' :: (last.reverse.takeWhile (· != '.')).reverse)
  else ""

/-- The elements of a cleaned path; the root has an empty element of its
own. -/
def elements (cleaned : String) : List String :=
  if cleaned.isEmpty then []
  else if cleaned = "/" then [""]
  else segments cleaned

/-- Drops the common front of two lists, and tells whether they went apart
before either ended. -/
def dropCommon : List String → List String → List String × List String × Bool
  | b :: bs, t :: ts => if b = t then dropCommon bs ts else (b :: bs, t :: ts, true)
  | bs, ts => (bs, ts, false)

/-- The path that leads from `base` to `target`, if texts alone tell it. -/
def relative? (base target : String) : Option String :=
  let b := clean base
  let t := clean target
  if b = t then some "."
  else
    let b := if b = "." then "" else b
    let t := if t = "." then "" else t
    if isAbsolute b ≠ isAbsolute t then none
    else
      let (bs, ts, apart) := dropCommon (elements b) (elements t)
      if apart && bs.head? == some ".." then none
      else some (Text.joinWith "/" (bs.map (fun _ => "..") ++ ts))

end ArchLint.SlashPath
