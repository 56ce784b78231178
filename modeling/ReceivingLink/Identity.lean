import ReceivingLink.Bytes

/-!
# Names of deliveries, large messages and transactions
-/

namespace ReceivingLink

/-- A delivery's number on its link. The engine never gives one number twice. -/
structure DeliveryId where
  number : Nat
  deriving DecidableEq, Inhabited

/-- A large message's number, given by storage. -/
structure LargeMessageId where
  number : Nat
  deriving DecidableEq, Inhabited

/-- A transaction's name, declared by a coordinator. -/
structure TxnId where
  bytes : Bytes
  deriving DecidableEq, Inhabited

namespace DeliveryId

def text (d : DeliveryId) : String := toString d.number

def describe (d : DeliveryId) : String := s!"DeliveryId({d.number})"

end DeliveryId

namespace LargeMessageId

def text (m : LargeMessageId) : String := toString m.number

def describe (m : LargeMessageId) : String := s!"LargeMessageId({m.number})"

end LargeMessageId

end ReceivingLink
