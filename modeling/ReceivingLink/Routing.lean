import ReceivingLink.Delivery
import ReceivingLink.Error
import ReceivingLink.Message

/-!
# Routing and transactions

What a finished message is handed over with, the routing layer that takes it, and the table of
transactions the peer may refer to.
-/

namespace ReceivingLink

/-- A finished message on its way to routing. -/
structure Handoff where
  message : Message
  /-- The delivery that carried it, which routing has to settle. -/
  delivery : DeliveryId
  /-- The name of the link it came on. -/
  link : String
  transaction : Option TxnId
  /-- Routing is to look for duplicates. -/
  duplicateDetection : Bool
  deriving DecidableEq, Inhabited

/-- The settling of one of the handoffs that routing holds, on the handler or from elsewhere, with
an outcome if one is given. -/
structure Sink.Use where
  index : Nat
  outcome : Option Outcome
  elsewhere : Bool

inductive Sink.Answer where
  | accepts
  | refuses (error : RoutingError)
  | panics (payload : Panic)

inductive Sink.Mode where
  /-- Keep it and settle it later. -/
  | hold
  | settleWith (outcome : Outcome)
  | failTransient
  | failRejected
  /-- Keep it unless the answer is a refusal, settle some of the handoffs held, and then answer. -/
  | script (uses : List Use) (answer : Answer)

/-- The routing layer: it counts what is delivered to it and keeps what it holds. -/
structure Sink where
  mode : Sink.Mode := .hold
  held : List Handoff := []
  delivered : Nat := 0

/-- The transactions declared, and the look-ups made. -/
structure Transactions where
  known : List TxnId := []
  /-- Each look-up, with the wish to create what is missing. -/
  queries : List (TxnId × Bool) := []
  failing : Bool := false

namespace Transactions

def declare (t : Transactions) (txn : TxnId) : Transactions :=
  { t with known := txn :: t.known }

/-- Looks a transaction up. The look-up counts even if it fails. -/
def lookup (t : Transactions) (txn : TxnId) (create : Bool) :
    Except Unit (Option TxnId) × Transactions :=
  let asked := { t with queries := t.queries ++ [(txn, create)] }
  if t.failing then (.error (), asked)
  else if txn ∈ t.known then (.ok (some txn), asked)
  else if create then (.ok (some txn), asked.declare txn)
  else (.ok none, asked)

end Transactions

end ReceivingLink
