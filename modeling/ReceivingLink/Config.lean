/-!
# Settings of a receiving link

How far credit is topped up and when, from which size on a message is spooled, and how routing
is told to treat a message and its failures.
-/

namespace ReceivingLink

/-- A top-up restores `refill` credits once credit is down to `threshold`. Nothing asks
`threshold` to be below `refill`. -/
structure CreditPolicy where
  refill : UInt32
  threshold : UInt32
  deriving DecidableEq

structure Config where
  policy : CreditPolicy := ⟨1000, 300⟩
  /-- The size in bytes from which a transfer is spooled, as configured. -/
  minLargeMessageSize : Int := 102400
  /-- A transient routing failure is settled as modified, not as rejected. -/
  useModified : Bool := false
  duplicateDetection : Bool := true
  deriving DecidableEq

namespace Config

def withRefill (c : Config) (credits : UInt32) : Config :=
  { c with policy := { c.policy with refill := credits } }

def withThreshold (c : Config) (credits : UInt32) : Config :=
  { c with policy := { c.policy with threshold := credits } }

/-- The size from which a transfer is spooled; a size that is not positive turns spooling off. -/
def largeMessageThreshold (c : Config) : Option Nat :=
  if 0 < c.minLargeMessageSize then some c.minLargeMessageSize.toNat else none

end Config

end ReceivingLink
