namespace ArchLint.Text

/-- A byte that continues a character: its six bits. -/
def continuation? (b : UInt8) : Option Nat :=
  if 0x80 ≤ b ∧ b < 0xc0 then some (b.toNat - 0x80) else none

/-- A code point with the bytes after it, unless it is a surrogate, too large,
or has a shorter encoding. -/
def checked (least n : Nat) (rest : List UInt8) : Option (Char × List UInt8) :=
  if least ≤ n ∧ n < 0x110000 ∧ ¬(0xd800 ≤ n ∧ n < 0xe000) then some (Char.ofNat n, rest)
  else none

/-- The character at the start of some bytes, and the bytes after it. -/
def firstChar? : List UInt8 → Option (Char × List UInt8)
  | [] => none
  | a :: rest =>
      if a < 0x80 then some (Char.ofNat a.toNat, rest)
      else if a < 0xc0 then none
      else if a < 0xe0 then
        match rest with
        | b :: rest => do
            let x ← continuation? b
            checked 0x80 ((a.toNat - 0xc0) * 64 + x) rest
        | _ => none
      else if a < 0xf0 then
        match rest with
        | b :: c :: rest => do
            let x ← continuation? b
            let y ← continuation? c
            checked 0x800 (((a.toNat - 0xe0) * 64 + x) * 64 + y) rest
        | _ => none
      else
        match rest with
        | b :: c :: d :: rest => do
            let x ← continuation? b
            let y ← continuation? c
            let z ← continuation? d
            checked 0x10000 ((((a.toNat - 0xf0) * 64 + x) * 64 + y) * 64 + z) rest
        | _ => none

/-- The characters of some bytes, with `none` for every byte that belongs to
none. The fuel is the number of bytes. -/
def charsFrom : Nat → List UInt8 → List (Option Char)
  | 0, _ => []
  | _, [] => []
  | n + 1, b :: rest =>
      match firstChar? (b :: rest) with
      | some (c, rest) => some c :: charsFrom n rest
      | none => none :: charsFrom n rest

/-- The text of some bytes, if every byte belongs to a character. -/
def ofBytes? (bytes : ByteArray) : Option String :=
  String.fromUTF8? bytes

/-- The text of some bytes, with a replacement character for every byte that
belongs to none. -/
def ofBytes (bytes : ByteArray) : String :=
  match ofBytes? bytes with
  | some text => text
  | none =>
      let list := bytes.toList
      String.ofList ((charsFrom list.length list).map (·.getD '\ufffd'))

def toBytes (s : String) : ByteArray :=
  s.toUTF8

end ArchLint.Text
