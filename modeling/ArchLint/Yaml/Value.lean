import ArchLint.Number.Reading
import ArchLint.Text.Base64
import ArchLint.Text.Basic
import ArchLint.Timestamp
import ArchLint.Yaml.Node

namespace ArchLint.Yaml

open Number (Binary64 Decimal)

inductive Value where
  | null
  | bool (value : Bool)
  | int (value : Int)
  | float (value : Binary64)
  | time (value : Timestamp)
  | text (value : String)
  deriving DecidableEq, Repr

def Value.tag : Value → String
  | .null => "!!null"
  | .bool _ => "!!bool"
  | .int _ => "!!int"
  | .float _ => "!!float"
  | .time _ => "!!timestamp"
  | .text _ => "!!str"

def words : List (String × Value) :=
  [("", .null), ("~", .null), ("null", .null), ("Null", .null), ("NULL", .null),
    ("true", .bool true), ("True", .bool true), ("TRUE", .bool true),
    ("false", .bool false), ("False", .bool false), ("FALSE", .bool false),
    (".nan", .float .notANumber), (".NaN", .float .notANumber), (".NAN", .float .notANumber),
    (".inf", .float (.infinite false)), (".Inf", .float (.infinite false)),
    (".INF", .float (.infinite false)), ("+.inf", .float (.infinite false)),
    ("+.Inf", .float (.infinite false)), ("+.INF", .float (.infinite false)),
    ("-.inf", .float (.infinite true)), ("-.Inf", .float (.infinite true)),
    ("-.INF", .float (.infinite true))]

/-- The number that digits of a base write. -/
def digits? (base : Nat) (ds : List Char) : Option Nat :=
  if ds.isEmpty then none
  else ds.foldlM (fun n d => (Text.hexDigit? d).bind fun k =>
    if k < base then some (base * n + k) else none) 0

/-- The magnitude of a whole number: decimal, or with a mark of its base in
front; a zero in front of digits marks octal ones. -/
def magnitude? : List Char → Option Nat
  | '0' :: x :: ds =>
      if x = 'x' ∨ x = 'X' then digits? 16 ds
      else if x = 'b' ∨ x = 'B' then digits? 2 ds
      else if x = 'o' ∨ x = 'O' then digits? 8 ds
      else digits? 8 (x :: ds)
  | ds => digits? 10 ds

/-- A whole number. A signed one has 64 bits with its sign, one without sign
may use all of them. -/
def int? (s : List Char) : Option Int :=
  let (negative, ds) := Number.splitSign true s
  let hasSign := ds.length < s.length
  (magnitude? ds).bind fun n =>
    let value : Int := if negative then -(n : Int) else n
    if Number.isInt64 value ∨ (!hasSign ∧ n < Nat.pow 2 64) then some value else none

/-- A decimal number that is not too large. -/
def float? (s : List Char) : Option Binary64 :=
  (Decimal.ofText? true s).bind fun d =>
    match d.toBinary64 with
    | .infinite _ => none
    | x => some x

/-- A number or, if it is asked for, a time. Low lines between digits do not
count. -/
def numeric? (times : Bool) (text : String) : Option Value :=
  let time := if times then (Timestamp.ofLooseText? text).map Value.time else none
  let plain := text.toList.filter (· != '_')
  (time.or ((int? plain).map .int)).or ((float? plain).map .float)

/-- The value that a text looks like. -/
def valueOf (times : Bool) (text : String) : Value :=
  match words.find? (·.1 == text) with
  | some (_, value) => value
  | none =>
      match text.toList with
      | [] => .null
      | c :: _ =>
          if c = '.' then ((float? text.toList).map Value.float).getD (.text text)
          else if c.isDigit || c == '+' || c == '-' then (numeric? times text).getD (.text text)
          else .text text

/-- The value of a scalar. A tag has to fit, except that a whole number may be
tagged as a number with fraction, and every text as a text. -/
def Scalar.value? (s : Scalar) : Option Value :=
  match s.tag with
  | none => some (if s.isPlain then valueOf true s.text else .text s.text)
  | some "!!str" => some (.text s.text)
  | some "!!binary" => (Text.ofBase64? s.text).map fun bytes => .text (Text.ofBytes bytes)
  | some "!!merge" => if s.text = "<<" then some (.text s.text) else none
  | some tag =>
      let value := valueOf (tag == "!!timestamp") s.text
      if value.tag = tag then some value
      else
        match tag, value with
        | "!!float", .int n =>
            if Number.isInt64 n then some (.float (.nearest (decide (n < 0)) n.natAbs 1)) else none
        | _, _ => none

/-- The text of a scalar as a text. -/
def Scalar.string? (s : Scalar) : Option String :=
  s.value?.map fun value =>
    match s.tag, value with
    | some "!!binary", .text t => t
    | _, _ => s.text

end ArchLint.Yaml
