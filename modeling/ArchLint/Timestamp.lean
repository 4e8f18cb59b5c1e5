import ArchLint.Text.Basic

namespace ArchLint

/-- A date, a time of day and the offset east of universal time, in
seconds. -/
structure Timestamp where
  year : Nat := 1
  month : Nat := 1
  day : Nat := 1
  hour : Nat := 0
  minute : Nat := 0
  second : Nat := 0
  nanosecond : Nat := 0
  offset : Int := 0
  deriving DecidableEq, Repr, Inhabited

namespace Timestamp

/-- A number in decimal digits, padded with zeros to a width. -/
def padded (width n : Nat) : String :=
  let ds := Nat.toDigits 10 n
  String.ofList (List.replicate (width - ds.length) '0' ++ ds)

/-- Fractions of a second without trailing zeros. -/
def fractionText (nanosecond : Nat) : String :=
  if nanosecond = 0 then ""
  else "." ++ String.ofList (Text.trimRightWhile (· == '0') (padded 9 nanosecond).toList)

def offsetText (offset : Int) : String :=
  if offset = 0 then "Z"
  else
    let minutes := offset.natAbs / 60
    (if offset < 0 then "-" else "+") ++ padded 2 (minutes / 60) ++ ":" ++ padded 2 (minutes % 60)

/-- The written form of a point in time. -/
def text (t : Timestamp) : String :=
  padded 4 t.year ++ "-" ++ padded 2 t.month ++ "-" ++ padded 2 t.day ++ "T" ++
    padded 2 t.hour ++ ":" ++ padded 2 t.minute ++ ":" ++ padded 2 t.second ++
    fractionText t.nanosecond ++ offsetText t.offset

/-- Leap years of the Gregorian calendar. -/
def isLeap (year : Nat) : Bool :=
  year % 4 == 0 && (year % 100 != 0 || year % 400 == 0)

/-- The number of days of a month. -/
def daysIn (year month : Nat) : Nat :=
  if month = 2 then (if isLeap year then 29 else 28)
  else if month = 4 ∨ month = 6 ∨ month = 9 ∨ month = 11 then 30
  else 31

/-- Whether date and time exist. -/
def isValid (t : Timestamp) : Bool :=
  1 ≤ t.month && t.month ≤ 12 && 1 ≤ t.day && t.day ≤ daysIn t.year t.month &&
    t.hour < 24 && t.minute < 60 && t.second < 60

/-- A reader consumes the front of a text. -/
abbrev Reader (α : Type) := List Char → Option (α × List Char)

def readDigits (n : Nat) : Reader Nat := fun s =>
  let ds := s.take n
  if ds.length = n ∧ ds.all Char.isDigit then
    some (ds.foldl (fun k c => 10 * k + (c.toNat - '0'.toNat)) 0, s.drop n)
  else none

/-- Two digits, or one where a short field is allowed and no second digit
follows. -/
def readField (short : Bool) : Reader Nat := fun s =>
  match readDigits 2 s with
  | some r => some r
  | none => if short then readDigits 1 s else none

def readChar (c : Char) : Reader Unit := fun s =>
  match s with
  | d :: rest => if c = d then some ((), rest) else none
  | [] => none

/-- A fraction of a second, if a point or comma and digits follow. Digits
beyond the ninth are dropped. -/
def readFraction : Reader Nat := fun s =>
  match s with
  | c :: d :: rest =>
      if (c = '.' ∨ c = ',') ∧ d.isDigit then
        let ds := (d :: rest).takeWhile Char.isDigit
        let value := (ds.take 9).foldl (fun k c => 10 * k + (c.toNat - '0'.toNat)) 0
        some (value * Nat.pow 10 (9 - ds.length), (d :: rest).dropWhile Char.isDigit)
      else some (0, s)
  | _ => some (0, s)

/-- An offset: `Z`, or a sign with hours and minutes. -/
def readOffset : Reader Int := fun s =>
  match s with
  | 'Z' :: rest => some (0, rest)
  | sign :: rest =>
      if sign = '+' ∨ sign = '-' then do
        let (hours, rest) ← readDigits 2 rest
        let ((), rest) ← readChar ':' rest
        let (minutes, rest) ← readDigits 2 rest
        if hours > 24 ∨ minutes > 60 then none
        else
          let seconds : Int := (hours * 60 + minutes) * 60
          some (if sign = '-' then -seconds else seconds, rest)
      else none
  | [] => none

def readDate (short : Bool) : Reader Timestamp := fun s => do
  let (year, s) ← readDigits 4 s
  let ((), s) ← readChar '-' s
  let (month, s) ← readField short s
  let ((), s) ← readChar '-' s
  let (day, s) ← readField short s
  some ({ year, month, day }, s)

/-- A time of day, added to a date. -/
def readTime (short : Bool) (date : Timestamp) : Reader Timestamp := fun s => do
  let (hour, s) ← readField true s
  let ((), s) ← readChar ':' s
  let (minute, s) ← readField short s
  let ((), s) ← readChar ':' s
  let (second, s) ← readField short s
  let (nanosecond, s) ← readFraction s
  some ({ date with hour, minute, second, nanosecond }, s)

/-- Accepts a complete reading of a point in time that exists. -/
def complete : Option (Timestamp × List Char) → Option Timestamp
  | some (t, []) => if t.isValid then some t else none
  | _ => none

/-- Reads date, separator, time and offset. -/
def readInstant (short : Bool) (separator : Char) : Reader Timestamp := fun s => do
  let (date, s) ← readDate short s
  let ((), s) ← readChar separator s
  let (t, s) ← readTime short date s
  let (offset, s) ← readOffset s
  some ({ t with offset }, s)

/-- Reads the written form. -/
def ofText? (s : String) : Option Timestamp :=
  complete (readInstant false 'T' s.toList)

/-- Reads the looser forms of documents: short fields, a blank instead of the
`T` and no offset, or a date alone. -/
def ofLooseText? (s : String) : Option Timestamp :=
  let chars := s.toList
  let leading := chars.takeWhile Char.isDigit
  if leading.length ≠ 4 then none
  else
    let local? : Option (Timestamp × List Char) := do
      let (date, rest) ← readDate true chars
      let ((), rest) ← readChar ' ' rest
      readTime true date rest
    (complete (readInstant true 'T' chars)).or
      ((complete (readInstant true 't' chars)).or
        ((complete local?).or (complete (readDate true chars))))

/-- The number of days before a year of the Gregorian calendar, from the year
one on. -/
def daysBefore (year : Nat) : Nat :=
  let past := year - 1
  365 * past + past / 4 - past / 100 + past / 400

/-- The month and the day of a day of a year, both counted from one. -/
def monthAndDay (year : Nat) (day : Nat) : Nat → Nat → Nat × Nat
  | 0, month => (month, day + 1)
  | n + 1, month =>
      if day < daysIn year month then (month, day + 1)
      else monthAndDay year (day - daysIn year month) n (month + 1)

/-- The point in time a number of seconds after the start of 1970. -/
def ofSeconds (seconds nanosecond : Nat) : Timestamp :=
  let days := seconds / 86400 + daysBefore 1970
  let guess := days / 366 + 1
  let year := (List.range (days / 365 + 2 - guess)).foldl
    (fun year _ => if daysBefore (year + 1) ≤ days then year + 1 else year) guess
  let (month, day) := monthAndDay year (days - daysBefore year) 11 1
  { year, month, day
    hour := seconds % 86400 / 3600
    minute := seconds % 3600 / 60
    second := seconds % 60
    nanosecond }

end Timestamp

end ArchLint
