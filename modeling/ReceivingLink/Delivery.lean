import ReceivingLink.Condition
import ReceivingLink.Identity

/-!
# Deliveries

One inbound transfer on a link: what the sender says of it, and what becomes of it here.
-/

namespace ReceivingLink

inductive Outcome where
  | accepted
  | rejected (condition : Option Condition)
  | released
  | modified (deliveryFailed undeliverableHere : Bool)
  deriving DecidableEq, Inhabited

def Outcome.kind : Outcome → String
  | accepted => "accepted"
  | rejected _ => "rejected"
  | released => "released"
  | modified _ _ => "modified"

inductive RemoteState where
  /-- Part of a transaction, with the outcome it will have if the sender said so. -/
  | transactional (txn : TxnId) (outcome : Option Outcome)
  | outcome (outcome : Outcome)
  deriving DecidableEq

/-- The transaction a delivery belongs to. -/
def RemoteState.txn? : RemoteState → Option TxnId
  | transactional txn _ => some txn
  | outcome _ => none

/-- One delivery: the sender's side first, then what was recorded here. -/
structure Delivery where
  id : DeliveryId
  /-- The message-format code of the first transfer. -/
  format : UInt32 := 0
  /-- More transfers are to come. -/
  isPartial : Bool := true
  isAborted : Bool := false
  /-- How many bytes have come and have not been taken. -/
  available : Nat := 0
  remote : Option RemoteState := none
  outcome : Option Outcome := none
  settles : Nat := 0
  deriving Inhabited

end ReceivingLink
