import ReceivingLink.Config

/-!
# Credit arithmetic

When a link's credit is low and how much brings it back. Credits are 32-bit words; the two
formulas are over the integers, so neither wraps.
-/

namespace ReceivingLink

namespace Credit

/-- Credit is low when it is at or below the threshold, less what unsettled deliveries may still
take. -/
def isLow (credit pending threshold : UInt32) : Bool :=
  (credit.toNat : Int) ≤ threshold.toNat - pending.toNat

/-- What brings credit and unsettled deliveries to `refill`; not positive when they are there. -/
def topUp (refill credit pending : UInt32) : Int :=
  (refill.toNat : Int) - credit.toNat - pending.toNat

/-- Adds credit; a sum that no word holds becomes the largest word. -/
def add (credit amount : UInt32) : UInt32 :=
  .ofNat (min (credit.toNat + amount.toNat) (UInt32.size - 1))

/-- Takes one credit, if there is one. -/
def spend (credit : UInt32) : UInt32 := if credit = 0 then 0 else credit - 1

/-- An integer as a word, when a word holds it and it is not zero. -/
def positive? (n : Int) : Option UInt32 :=
  if 0 < n ∧ n < UInt32.size then some (.ofNat n.toNat) else none

end Credit

/-- The grant that `policy` asks for, if any. -/
def CreditPolicy.grant? (policy : CreditPolicy) (credit pending : UInt32) : Option UInt32 :=
  if Credit.isLow credit pending policy.threshold then
    Credit.positive? (Credit.topUp policy.refill credit pending)
  else none

end ReceivingLink
