import ReceivingLink.Act
import ReceivingLink.Call
import ReceivingLink.Counters
import ReceivingLink.Link
import ReceivingLink.Notice

/-!
# The receiving endpoint

The state that a receiver works on: its own, that of its handler, and that of the collaborators,
with the calls made to them, the notices and the counters.

A reassembler and a count of unsettled deliveries can also be used without a receiver. An
endpoint has one of each beside the receiver's, over the same link, storage and handler.
-/

namespace ReceivingLink

/-- Whose reassembler, or whose count of unsettled deliveries. -/
inductive Owner where
  | receiver
  | standalone
  deriving DecidableEq

structure Each (α : Type) where
  receiver : α
  standalone : α

namespace Each

variable {α : Type}

def get (e : Each α) : Owner → α
  | .receiver => e.receiver
  | .standalone => e.standalone

def set (e : Each α) (value : α) : Owner → Each α
  | .receiver => { e with receiver := value }
  | .standalone => { e with standalone := value }

@[simp] theorem get_set (e : Each α) (value : α) (o : Owner) : (e.set value o).get o = value := by
  cases o <;> rfl

end Each

/-- What turns transfers into messages: the size from which a message is spooled, if any is, and
the large message that is coming in. -/
structure Reassembler where
  threshold : Option Nat
  slot : Option Accumulator := none

inductive Lifecycle where
  | opened
  | closing
  | closed
  deriving DecidableEq

def Lifecycle.text : Lifecycle → String
  | opened => "Open"
  | closing => "Closing"
  | closed => "Closed"

inductive Task where
  /-- Top up credit, less what this owner counts as unsettled, if an owner is given. -/
  | replenish (owner : Option Owner)
  /-- Settle a delivery of the receiver, and record an outcome before if one is given. -/
  | settle (delivery : DeliveryId) (outcome : Option Outcome)
  deriving DecidableEq

structure Endpoint where
  config : Config
  link : Link
  storage : Storage := .memory
  sink : Sink := {}
  transactions : Transactions := {}
  /-- The links that the session forgot, by name. -/
  removed : List String := []
  mailbox : Mailbox Task
  /-- The handler that the running code is on. -/
  onHandler : Option HandlerId := none
  lifecycle : Lifecycle := .opened
  reassembler : Each Reassembler
  /-- Deliveries accepted for routing less deliveries settled. -/
  pending : Each Int := ⟨0, 0⟩
  /-- What goes wrong. -/
  plan : Plan := .clear
  /-- What storage says of its persistence, when that is not its own answer. -/
  persistence : Option Bool := none
  /-- Every call made to a collaborator, in order. -/
  calls : List Call := []
  notices : List Notice := []
  counters : Counters := {}

namespace Endpoint

/-- An endpoint where nothing has happened. -/
def start (config : Config) (name : String) (credit : UInt32) (handler : HandlerId)
    (storage : Storage) (standaloneThreshold : Option Nat) : Endpoint where
  config
  link := { name, credit }
  storage
  mailbox := { handler }
  reassembler := ⟨⟨config.largeMessageThreshold, none⟩, ⟨standaloneThreshold, none⟩⟩

def isOnHandler (e : Endpoint) : Bool := e.onHandler = some e.mailbox.handler

/-- Large messages are to be spooled. -/
def isPersistent (e : Endpoint) : Bool := e.persistence.getD e.storage.persistent

/-- A count of unsettled deliveries as a word; one that no word holds reads as zero. -/
def countWord (count : Int) : UInt32 :=
  if 0 ≤ count ∧ count < UInt32.size then .ofNat count.toNat else 0

/-- The unsettled deliveries that an owner counts. -/
def unsettled (e : Endpoint) (o : Owner) : UInt32 := countWord (e.pending.get o)

end Endpoint

def report (notice : Notice) : Act Panic Endpoint Unit :=
  modify fun e => { e with notices := e.notices ++ [notice] }

/-- Raises a counter. -/
def count (f : Counters → Counters) : Act Panic Endpoint Unit :=
  modify fun e => { e with counters := f e.counters }

end ReceivingLink
