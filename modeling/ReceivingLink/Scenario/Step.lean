import ReceivingLink.Endpoint

/-!
# Steps of a scenario

A scenario drives one endpoint through a list of steps: what the peer does, what the broker calls,
what collaborators are told to do, and what is looked at.
-/

namespace ReceivingLink.Scenario

inductive Site where
  | handler
  | elsewhere
  deriving DecidableEq

/-- A delivery, the one begun last if none is named. -/
abbrev Target := Option DeliveryId

/-- A call of storage's own that can be told to fail. -/
inductive StorageCall where
  | generateId
  | append
  | appendPanic
  | finish
  | delete

inductive Subject where
  | receiver
  /-- What tops up credit for the receiver. -/
  | replenisher
  /-- What tops up credit for nobody. -/
  | unbound
  | tracker
  | handle
  /-- A handoff taken from routing. -/
  | taken (index : Nat)

inductive Step where
  -- The peer
  | begin (format : UInt32) (txn : Option TxnId)
  | setRemote (d : Target) (state : RemoteState)
  | transfer (bytes : Bytes) (more : Bool)
  | abort
  | setCredit (credits : UInt32)
  | setDrain (drain : Bool)
  -- The link
  | advance
  | recv
  | inspectDelivery (d : Target)
  -- The receiver
  | message (d : Target) (site : Site)
  | exchange (d : Target) (bytes : Bytes) (more : Bool) (site : Site)
  | flow (credits : UInt32) (drain : Bool) (site : Site)
  | settle (d : Target) (site : Site)
  | settleByHandle (d : Target) (outcome : Option Outcome) (site : Site)
  | close (remote : Bool) (site : Site)
  | closeWithError (condition : Condition) (site : Site)
  -- Credit and counts, for whom they are kept
  | replenish (owner : Option Owner) (times : Nat) (site : Site)
  | submit (owner : Option Owner) (times : Nat) (site : Site)
  | increment (owner : Owner) (times : Nat) (site : Site)
  | decrement (times : Nat) (site : Site)
  -- The handler
  | runPending
  | dropLoop
  -- Routing
  | setMode (mode : Sink.Mode)
  | take (described : Bool)
  | settleTaken (index : Nat) (outcome : Option Outcome) (site : Site)
  -- Transactions
  | declare (txn : TxnId)
  | failLookups (failing : Bool)
  | lookup (txn : TxnId) (create : Bool)
  -- Storage and its spools
  | failStorage (call : StorageCall) (failing : Bool)
  | setPersistence (answer : Option Bool)
  | inspectSpool (id : LargeMessageId)
  | generateId
  | openSpool (id : LargeMessageId)
  | register (id : LargeMessageId)
  | spoolOfTaken (index : Nat)
  | spoolAppend (bytes : Bytes)
  | spoolFinish
  | spoolDelete
  -- Faults
  | setFault (point : Option Point) (fault : Option Fault)
  -- The reassembler without a receiver
  | accept (d : Target)
  | discard
  | inspectThreshold
  -- The accumulator without a reassembler
  | accumulatorStart (d : Target)
  | accumulatorAppend (bytes : Bytes)
  | accumulatorFinish
  | accumulatorSeal
  | accumulatorDrop
  -- What is looked at
  | describe (subject : Subject)
  | inspectPolicy
  | takeNotices (level : Level) (needle : String)
  | clearNotices

/-- A handoff taken from routing. -/
structure Taken where
  handoff : Handoff
  /-- Its message, until the spool is taken out. -/
  message : Option Message
  description : String

inductive Reply where
  | ok
  | panicked (payload : Panic)
  | flag (value : Bool)
  | number (value : Nat)
  | optionalNumber (value : Option Nat)
  | bytes (value : Bytes)
  | text (value : String)
  | texts (values : List String)
  | failed (cause : Failure)
  | receiverError (error : ReceiverError)
  | reassemblyError (error : ReassemblyError)
  | aborted
  | pending
  | complete (message : Message)
  | message (message : Message)
  | delivery (delivery : Delivery)
  /-- Handoffs, with their descriptions if asked for. -/
  | handoffs (taken : List (Handoff × Option String))
  | spool (record : Option SpoolRecord)
  | found (txn : Option TxnId)
  | policy (policy : CreditPolicy) (duplicateDetection : Bool) (link : String)
  | noAccumulator
  | noSpool

/-- The name of a link that is given none. -/
def standardName : String := "harness-link"

structure Setup where
  config : Config := {}
  credit : UInt32 := 100
  name : String := standardName
  storage : Storage := .memory
  /-- Calls are shown, and faults can be set. -/
  traced : Bool := true
  /-- Notices pile up until they are taken, and are not shown with the steps. -/
  keepNotices : Bool := false
  /-- The threshold of the reassembler without a receiver, if not the configured one. Zero turns
  spooling off. -/
  standaloneThreshold : Option Nat := none

end ReceivingLink.Scenario
