/-!
# Bytes and their written forms

Message bodies and transaction ids are lists of bytes. They are written in hexadecimal, or, when
they are long, as a length and a digest.
-/

namespace ReceivingLink

abbrev Bytes := List UInt8

namespace Bytes

def ofText (s : String) : Bytes := s.toUTF8.toList

/-- The `count` bytes `i % 251` for `i` from `start` on. -/
def pattern (start count : Nat) : Bytes :=
  (List.range' start count).map fun i => UInt8.ofNat (i % 251)

def hexDigit (n : Nat) : Char :=
  if n < 10 then Char.ofNat (48 + n) else Char.ofNat (87 + n)

/-- The value of a hexadecimal digit of either case. -/
def hexValue? (c : Char) : Option Nat :=
  if '0' ≤ c ∧ c ≤ '9' then some (c.toNat - 48)
  else if 'a' ≤ c ∧ c ≤ 'f' then some (c.toNat - 87)
  else if 'A' ≤ c ∧ c ≤ 'F' then some (c.toNat - 55)
  else none

def hex (bytes : Bytes) : String :=
  String.ofList (bytes.flatMap fun b => [hexDigit (b.toNat / 16), hexDigit (b.toNat % 16)])

/-- Reads pairs of hexadecimal digits. -/
def ofHexDigits? : List Char → Option Bytes
  | [] => some []
  | [_] => none
  | high :: low :: rest => do
    let h ← hexValue? high
    let l ← hexValue? low
    let bytes ← ofHexDigits? rest
    return UInt8.ofNat (16 * h + l) :: bytes

/-- Reads what `hex` writes. -/
def ofHex? (s : String) : Option Bytes := ofHexDigits? s.toList

/-- The 64-bit FNV-1a digest. -/
def digest (bytes : Bytes) : UInt64 :=
  bytes.foldl (fun h b => (h ^^^ b.toUInt64) * 0x100000001b3) 0xcbf29ce484222325

/-- The sixteen hexadecimal digits of a 64-bit word, highest first. -/
def wordHex (w : UInt64) : String :=
  String.ofList ((List.range 16).reverse.map fun i => hexDigit (w.toNat >>> (4 * i) % 16))

/-- Hexadecimal up to 64 bytes, and beyond that the length and the digest. -/
def summary (bytes : Bytes) : String :=
  if bytes.length ≤ 64 then bytes.hex
  else s!"len={bytes.length} fnv={wordHex bytes.digest}"

end Bytes

end ReceivingLink
