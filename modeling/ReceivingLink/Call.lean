import ReceivingLink.Failure
import ReceivingLink.Routing

/-!
# Calls to collaborators

Every call that the receiving side makes to the link, a delivery, storage, a spool, the message
factory, the transactions, routing or the session is a value of `Call`. A plan says what goes
wrong with which call, so that each failure can be placed exactly.
-/

namespace ReceivingLink

inductive Call where
  | linkFlow (credits : UInt32)
  | linkAdvance
  /-- The bytes are those that wait to be taken. -/
  | linkRecv (waiting : Bytes)
  | linkSetCondition (condition : Condition)
  | disposition (delivery : DeliveryId) (outcome : Outcome)
  | settle (delivery : DeliveryId)
  | generateId
  | openSpool (id : LargeMessageId)
  | register (id : LargeMessageId) (accumulator : Accumulator)
  | spoolAppend (spool : Spool) (bytes : Bytes)
  | spoolFinish (spool : Spool)
  | spoolDelete (spool : Spool)
  | createMessage (payload : Bytes)
  | lookup (txn : TxnId) (create : Bool)
  | deliver (handoff : Handoff)
  | removeReceiver (link : String)
  | flush
  deriving DecidableEq

/-- A place where something can go wrong: a kind of call, or the way out of routing. -/
inductive Point where
  | linkFlow
  | linkAdvance
  | linkRecv
  | linkSetCondition
  | disposition
  | settle
  | generateId
  | openSpool
  | register
  | spoolAppend
  | spoolFinish
  | spoolDelete
  | createMessage
  | lookup
  | deliver
  /-- Routing has dealt with the handoff and has not yet answered. -/
  | delivered
  | removeReceiver
  | flush
  deriving DecidableEq

namespace Point

/-- The names under which points are known. The flush of a handler has none. -/
def named : List (String × Point) :=
  [("link.flow", linkFlow), ("link.advance", linkAdvance), ("link.recv", linkRecv),
    ("link.set_condition", linkSetCondition), ("delivery.disposition", disposition),
    ("delivery.settle", settle), ("storage.generate_id", generateId),
    ("storage.open_spool", openSpool), ("storage.register", register),
    ("spool.append", spoolAppend), ("spool.finish", spoolFinish), ("spool.delete", spoolDelete),
    ("factory.create", createMessage), ("txn.lookup", lookup), ("routing.deliver", deliver),
    ("routing.after", delivered), ("session.remove", removeReceiver)]

def ofName? (name : String) : Option Point := named.lookup name

end Point

namespace Call

def point : Call → Point
  | linkFlow _ => .linkFlow
  | linkAdvance => .linkAdvance
  | linkRecv _ => .linkRecv
  | linkSetCondition _ => .linkSetCondition
  | disposition .. => .disposition
  | settle _ => .settle
  | generateId => .generateId
  | openSpool _ => .openSpool
  | register .. => .register
  | spoolAppend .. => .spoolAppend
  | spoolFinish _ => .spoolFinish
  | spoolDelete _ => .spoolDelete
  | createMessage _ => .createMessage
  | lookup .. => .lookup
  | deliver _ => .deliver
  | removeReceiver _ => .removeReceiver
  | flush => .flush

/-- The call on one line. Bytes are given by their number. -/
def text : Call → String
  | linkFlow credits => s!"link.flow {credits.toNat}"
  | linkAdvance => "link.advance"
  | linkRecv waiting => s!"link.recv {waiting.length}"
  | linkSetCondition condition => s!"link.set_condition {condition.text}"
  | disposition d outcome => s!"delivery.disposition {d.text} {outcome.kind}"
  | settle d => s!"delivery.settle {d.text}"
  | generateId => "storage.generate_id"
  | openSpool id => s!"storage.open_spool {id.text}"
  | register id a =>
    s!"storage.register {id.text} format={a.format.toNat} size={a.size} " ++
      s!"header={a.headerPresent}"
  | spoolAppend spool bytes => s!"spool.append {spool.id.text} {bytes.length}"
  | spoolFinish spool => s!"spool.finish {spool.id.text}"
  | spoolDelete spool => s!"spool.delete {spool.id.text}"
  | createMessage payload => s!"factory.create {payload.length}"
  | lookup txn create => s!"txn.lookup {txn.bytes.hex} {create}"
  | deliver handoff => s!"routing.deliver {handoff.delivery.text}"
  | removeReceiver link => s!"session.remove {link}"
  | flush => "flush"

end Call

inductive Fault where
  | panics (payload : Panic)
  | fails (cause : Failure)
  /-- Routing fails in a way that may pass; elsewhere this is a failure like any other. -/
  | failsForNow (cause : Failure)

/-- What goes wrong, by the number of calls made before and the point. -/
abbrev Plan := Nat → Point → Option Fault

namespace Plan

def clear : Plan := fun _ _ => none

/-- Changes what goes wrong at one point, whenever it is reached. -/
def setAt (plan : Plan) (point : Point) (fault : Option Fault) : Plan := fun n p =>
  if p = point then fault else plan n p

end Plan

end ReceivingLink
