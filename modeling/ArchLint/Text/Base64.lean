namespace ArchLint.Text

/-- The six bits of a character. -/
def base64Digit? (c : Char) : Option Nat :=
  if 'A' ≤ c ∧ c ≤ 'Z' then some (c.toNat - 'A'.toNat)
  else if 'a' ≤ c ∧ c ≤ 'z' then some (c.toNat - 'a'.toNat + 26)
  else if '0' ≤ c ∧ c ≤ '9' then some (c.toNat - '0'.toNat + 52)
  else if c = '+' then some 62
  else if c = '/' then some 63
  else none

/-- The bytes of groups of four characters. The last group may be filled up
with one or two equals signs. -/
def base64Bytes? : List Char → Option (List UInt8)
  | [] => some []
  | [a, b, '=', '='] => do
      let n := (← base64Digit? a) * 64 + (← base64Digit? b)
      some [(n / 16).toUInt8]
  | [a, b, c, '='] => do
      let n := ((← base64Digit? a) * 64 + (← base64Digit? b)) * 64 + (← base64Digit? c)
      some [(n / 1024).toUInt8, (n / 4).toUInt8]
  | a :: b :: c :: d :: rest => do
      let n := (((← base64Digit? a) * 64 + (← base64Digit? b)) * 64 + (← base64Digit? c)) * 64 +
        (← base64Digit? d)
      let more ← base64Bytes? rest
      some ((n / 65536).toUInt8 :: (n / 256).toUInt8 :: n.toUInt8 :: more)
  | _ => none

/-- The bytes of a text, whose line breaks do not count. -/
def ofBase64? (s : String) : Option ByteArray :=
  (base64Bytes? (s.toList.filter fun c => c != '\n' && c != '\r')).map fun bytes =>
    ByteArray.mk bytes.toArray

end ArchLint.Text
