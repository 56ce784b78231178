/-!
# Numbers that no double holds

A number with a fraction or an exponent is read as a double: its digits as a 64-bit significand,
times a power of ten. It is refused when that product is infinite.
-/

namespace ReceivingLink.Config.Magnitude

/-- The nearest number with 53 significant bits; of two as near, the one with an even last bit. -/
def round53 (n : Nat) : Nat :=
  let shift := n.log2 - 52
  let unit := 1 <<< shift
  let low := n / unit
  let excess := 2 * (n % unit)
  if unit < excess ∨ unit = excess ∧ low % 2 = 1 then (low + 1) * unit else low * unit

def infinity : Nat := 1 <<< 1024 - 1 <<< 970

/-- The product of the significand and the power of ten, both rounded, is infinite. -/
def overflows (significand : Nat) (exponent : Int) : Bool :=
  significand ≠ 0 && 0 ≤ exponent &&
    (308 < exponent || infinity ≤ round53 significand * round53 (Nat.pow 10 exponent.toNat))

/-- A significand of at most 64 bits and a power of ten. -/
structure Scaled where
  significand : Nat
  exponent : Int
  /-- A digit has been left out, and so are all behind it. -/
  full : Bool := false

/-- Appends a digit before the point. Once a digit does not fit, the exponent counts the rest. -/
def Scaled.pushWhole (s : Scaled) (digit : Nat) : Scaled :=
  if s.full then { s with exponent := s.exponent + 1 }
  else if s.significand * 10 + digit < 1 <<< 64 then
    { s with significand := s.significand * 10 + digit }
  else { s with exponent := s.exponent + 1, full := true }

/-- Appends a digit behind the point. Once a digit does not fit, the rest is dropped. -/
def Scaled.pushFraction (s : Scaled) (digit : Nat) : Scaled :=
  if s.full then s
  else if s.significand * 10 + digit < 1 <<< 64 then
    { s with significand := s.significand * 10 + digit, exponent := s.exponent - 1 }
  else { s with full := true }

/-- The significand and exponent of a number's digits. -/
def scale (whole fraction : List Nat) : Scaled :=
  let head := whole.foldl Scaled.pushWhole ⟨0, 0, false⟩
  fraction.foldl Scaled.pushFraction { head with full := false }

/-- A number with these digits and this exponent is infinite as a double. An exponent that no
32-bit word holds counts as one that is too large. -/
def refused (whole fraction : List Nat) (exponent : Int) : Bool :=
  let s := scale whole fraction
  if 1 <<< 31 ≤ exponent then s.significand ≠ 0
  else if exponent ≤ -1 <<< 31 then false
  else overflows s.significand (s.exponent + exponent)

end ReceivingLink.Config.Magnitude
