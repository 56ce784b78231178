import ReceivingLink.Bytes
import ReceivingLink.Text.Printable

/-!
# Quoted texts and byte strings

Log lines and descriptions of values show a text between double quotes, with escapes for what
would end the quote or has no glyph, and a byte string in the same way behind a `b`.
-/

namespace ReceivingLink.Text

/-- The digits of a number in base sixteen, without leading zeros. -/
def codePoint (n : Nat) : String := String.ofList (Nat.toDigits 16 n)

def quotedChar (c : Char) : String :=
  if c = '\x00' then "\\0"
  else if c = '\t' then "\\t"
  else if c = '\n' then "\\n"
  else if c = '\r' then "\\r"
  else if c = '"' then "\\\""
  else if c = '\\' then "\\\\"
  else if isPrintable c then c.toString
  else "\\u\x7b" ++ codePoint c.toNat ++ "\x7d"

def quoted (s : String) : String :=
  "\"" ++ String.join (s.toList.map quotedChar) ++ "\""

def quotedByte (b : UInt8) : String :=
  if b = 0 then "\\0"
  else if b = 9 then "\\t"
  else if b = 10 then "\\n"
  else if b = 13 then "\\r"
  else if b = 34 then "\\\""
  else if b = 92 then "\\\\"
  else if 32 ≤ b ∧ b < 127 then (Char.ofNat b.toNat).toString
  else "\\x" ++ Bytes.hex [b]

/-- A byte string between double quotes, behind a `b`. -/
def quotedBytes (bytes : Bytes) : String :=
  "b\"" ++ String.join (bytes.map quotedByte) ++ "\""

end ReceivingLink.Text
