/-!
# Counters

What is counted for monitoring.
-/

namespace ReceivingLink

inductive Departure where
  /-- Handed to routing. -/
  | routed
  | aborted
  /-- Refused by routing and settled by the receiver. -/
  | failed
  deriving DecidableEq

structure Counters where
  creditGranted : Nat := 0
  routed : Nat := 0
  aborted : Nat := 0
  failed : Nat := 0
  largeMessages : Nat := 0
  errors : Nat := 0
  deriving DecidableEq

namespace Counters

/-- Counts a delivery that left. -/
def depart (c : Counters) : Departure → Counters
  | .routed => { c with routed := c.routed + 1 }
  | .aborted => { c with aborted := c.aborted + 1 }
  | .failed => { c with failed := c.failed + 1 }

def named (c : Counters) : List (String × Nat) :=
  [("amqp_inbound_credit_granted_total", c.creditGranted),
    ("amqp_inbound_deliveries_total\x7boutcome=routed\x7d", c.routed),
    ("amqp_inbound_deliveries_total\x7boutcome=aborted\x7d", c.aborted),
    ("amqp_inbound_deliveries_total\x7boutcome=failed\x7d", c.failed),
    ("amqp_inbound_large_messages_total", c.largeMessages),
    ("amqp_inbound_errors_total", c.errors)]

def raised (c : Counters) : List (String × Nat) := c.named.filter (0 < ·.2)

end Counters

end ReceivingLink
