import Migrid.Python.Text

namespace Migrid

/-! ### base64: binascii.b2a_base64 and binascii.a2b_base64 of Python 2.7 -/

/-- table_b2a_base64: the character of a 6-bit value. -/
def b64Char (v : Nat) : UInt8 :=
  if v < 26 then (65 + v).toUInt8
  else if v < 52 then (71 + v).toUInt8
  else if v < 62 then (v - 4).toUInt8
  else if v = 62 then 43 else 47

/-- table_a2b_base64 below 0x80: the value of a character of the alphabet, where the pad
counts as 0 ("Note PAD->0"), and none outside the alphabet. -/
def a2bTable (c : UInt8) : Option Nat :=
  if 65 ≤ c ∧ c ≤ 90 then some (c.toNat - 65)
  else if 97 ≤ c ∧ c ≤ 122 then some (c.toNat - 71)
  else if 48 ≤ c ∧ c ≤ 57 then some (c.toNat + 4)
  else if c = 43 then some 62
  else if c = 47 then some 63
  else if c = 61 then some 0
  else none

/-- BASE64_PAD, the character '='. -/
def base64Pad : UInt8 := 61

/-- b64encode: b2a_base64 without its trailing newline, three bytes to four characters
and a padded last group. -/
def b64encode : Bytes → Bytes
  | a :: b :: c :: rest =>
    [b64Char (a.toNat / 4), b64Char (a.toNat % 4 * 16 + b.toNat / 16),
      b64Char (b.toNat % 16 * 4 + c.toNat / 64), b64Char (c.toNat % 64)] ++ b64encode rest
  | [a, b] =>
    [b64Char (a.toNat / 4), b64Char (a.toNat % 4 * 16 + b.toNat / 16),
      b64Char (b.toNat % 16 * 4), base64Pad]
  | [a] => [b64Char (a.toNat / 4), b64Char (a.toNat % 4 * 16), base64Pad, base64Pad]
  | [] => []

/-- binascii_find_valid: the (num+1)-th character that table_a2b_base64 knows. -/
def findValid : Bytes → Nat → Option UInt8
  | [], _ => none
  | c :: rest, num =>
    if c ≤ 0x7f ∧ (a2bTable c).isSome then
      if num = 0 then some c else findValid rest (num - 1)
    else findValid rest num

/-- The loop of a2b_base64 over the characters left to read. The state is quad_pos,
leftchar, leftbits and the bytes written so far; a pad that ends a quad breaks out. -/
def a2bBase64 : Bytes → Nat → Nat → Nat → Bytes → Except PyError Bytes
  | [], _, _, leftbits, out =>
    if leftbits ≠ 0 then .error (.typeError "Incorrect padding") else .ok out
  | c :: rest, quadPos, leftchar, leftbits, out =>
    if 0x7f < c ∨ c = 13 ∨ c = 10 ∨ c = 32 then a2bBase64 rest quadPos leftchar leftbits out
    else if c = base64Pad then
      if quadPos < 2 ∨ (quadPos = 2 ∧ findValid (c :: rest) 1 ≠ some base64Pad) then
        a2bBase64 rest quadPos leftchar leftbits out
      else .ok out
    else
      match a2bTable c with
      | none => a2bBase64 rest quadPos leftchar leftbits out
      | some v =>
        let leftchar := leftchar * 64 + v
        let leftbits := leftbits + 6
        if 8 ≤ leftbits then
          a2bBase64 rest ((quadPos + 1) % 4) (leftchar % 2 ^ (leftbits - 8)) (leftbits - 8)
            (out ++ [(leftchar / 2 ^ (leftbits - 8) % 256).toUInt8])
        else a2bBase64 rest ((quadPos + 1) % 4) leftchar leftbits out

/-- b64decode: a2b_base64, whose binascii.Error base64.b64decode raises as a TypeError. -/
def b64decode (s : Bytes) : Except PyError Bytes := a2bBase64 s 0 0 0 []

/-! ### base16 -/

/-- b16encode: two upper-case hex digits a byte. -/
def b16encode (s : Bytes) : Bytes :=
  s.flatMap fun c => [digitChar (c.toNat / 16), digitChar (c.toNat % 16)]

/-- binascii.unhexlify of an even run of hex digits. -/
def unhexlify : Bytes → Bytes
  | a :: b :: rest => (digitValue a * 16 + digitValue b).toUInt8 :: unhexlify rest
  | _ => []

/-- b16decode without casefold: only 0-9 and A-F, and an even number of them. -/
def b16decode (s : Bytes) : Except PyError Bytes :=
  if s.any fun c => !((48 ≤ c && c ≤ 57) || (65 ≤ c && c ≤ 70)) then
    .error (.typeError "Non-base16 digit found")
  else if s.length % 2 = 1 then .error (.typeError "Odd-length string")
  else .ok (unhexlify s)

end Migrid
