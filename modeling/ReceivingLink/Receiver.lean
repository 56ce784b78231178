import ReceivingLink.Reassembly
import ReceivingLink.Settlement

/-!
# The receiver of a link

The receiver turns the events of its link into handoffs to routing, and closes the link. Whatever
a collaborator does while a delivery is handled, a panic included, becomes one kind of error and
leaves the receiver open.
-/

namespace ReceivingLink

namespace Sink

/-- Keeps a handoff, to settle it later. -/
def keep (handoff : Handoff) : Act Panic Endpoint Unit :=
  modify fun e => { e with sink := { e.sink with held := e.sink.held ++ [handoff] } }

/-- Settles a handoff that is held, which is held no longer. -/
def Use.perform (use : Use) : Act Panic Endpoint Unit := do
  match (← get).sink.held[use.index]? with
  | none => pure ()
  | some handoff =>
    modify fun e => { e with sink := { e.sink with held := e.sink.held.eraseIdx use.index } }
    if use.elsewhere then runLater (.settle handoff.delivery use.outcome)
    else onHandler (ReceivingLink.settle handoff.delivery use.outcome)

def useAll : List Use → Act Panic Endpoint Unit
  | [] => pure ()
  | use :: uses => do
    use.perform
    useAll uses

def Answer.give : Answer → Attempt RoutingError Unit
  | .accepts => pure ()
  | .refuses error => throw error
  | .panics payload => throwThe Panic payload

/-- Routing's answer to a handoff, by its mode. -/
def take (handoff : Handoff) : Attempt RoutingError Unit := do
  modify fun e => { e with sink := { e.sink with delivered := e.sink.delivered + 1 } }
  match (← get).sink.mode with
  | .hold => keep handoff
  | .settleWith outcome => ReceivingLink.settle handoff.delivery (some outcome)
  | .failTransient => throw (.transient { text := "address paging" })
  | .failRejected => throw (.rejected { text := "address does not exist" })
  | .script uses answer =>
    if answer matches .accepts then keep handoff
    useAll uses
    answer.give

/-- Raises what is planned for a point of routing. -/
def raise : Option Fault → Attempt RoutingError Unit
  | some (.panics payload) => throwThe Panic payload
  | some (.fails cause) => throw (.rejected cause)
  | some (.failsForNow cause) => throw (.transient cause)
  | none => pure ()

/-- Delivers a handoff to routing. Something may go wrong before routing sees it, and again after
routing has dealt with it. -/
def deliver (handoff : Handoff) : Attempt RoutingError Unit := do
  raise (← note (.deliver handoff))
  take handoff
  let e ← get
  raise (e.plan e.calls.length .delivered)

end Sink

namespace Receiver

/-- Settles a delivery that routing did not take. -/
def settleFailed (d : DeliveryId) (outcome : Outcome) : Act Panic Endpoint Unit := do
  Delivery.disposition d outcome
  settleOnHandler d
  count (·.depart .failed)

def failureOutcome (config : Config) (error : RoutingError) : Outcome :=
  if config.useModified && error.isTransient then .modified true false
  else .rejected (some (.internal error.message))

/-- Passes a finished message to routing. A delivery that routing refuses, or panics on, is
settled here, so that its credit is not lost. -/
def handOff (message : Message) (d : DeliveryId) (transaction : Option TxnId) :
    Attempt ReceiverError Unit := do
  Tracker.increment .receiver
  let e ← get
  let handoff : Handoff :=
    { message, delivery := d, link := e.link.name, transaction,
      duplicateDetection := e.config.duplicateDetection }
  match ← (Sink.deliver handoff).run.contain with
  | .ok (.ok ()) => count (·.depart .routed)
  | .ok (.error error) =>
    report (.routingFailed e.link.name d error)
    settleFailed d (failureOutcome e.config error)
  | .error payload =>
    let error := ReceiverError.ofPanic payload
    settleFailed d (.rejected (some error.condition))
    throw error

/-- The transaction a delivery belongs to, if it belongs to one and that one is known. -/
def resolveTransaction (d : DeliveryId) : Attempt ReassemblyError (Option TxnId) := do
  match ((← get).link.delivery d).remote.bind RemoteState.txn? with
  | none => return none
  | some txn => (Transactions.find txn false).adapt .transaction

/-- Deals with a delivery that its sender gave up. The peer has it settled, and gets back the
credit it took unless the sender wants its credit used up. -/
def onAborted (d : DeliveryId) : Act Panic Endpoint Unit := do
  Delivery.settle d
  if !(← get).link.drain then Link.grant 1
  count (·.depart .aborted)
  report (.deliveryAborted (← get).link.name d)

/-- Handles an event for the delivery at the head of the link. -/
def process (d : DeliveryId) : Attempt ReceiverError Unit := do
  let internal (e : ReassemblyError) : ReceiverError := .internal e.failure
  match ← (Reassembler.accept .receiver d).adapt internal with
  | .pending => pure ()
  | .aborted => onAborted d
  | .complete message =>
    let transaction ← (resolveTransaction d).adapt internal
    handOff message d transaction

/-- Handles an event for a delivery. Nothing is done for a delivery that is not at the head of
the link, or once the receiver is being closed. -/
def onMessage (d : DeliveryId) : Act Panic Endpoint (Except ReceiverError Unit) := do
  requireOnHandler
  let e ← get
  if e.lifecycle ≠ .opened then
    report (.receiverNotOpen e.link.name d)
    return .ok ()
  if e.link.current ≠ some d then
    report (.staleDelivery e.link.name d)
    return .ok ()
  let result := match ← (process d).run.contain with
    | .ok result => result
    | .error payload => .error (.ofPanic payload)
  match result with
  | .ok () => pure ()
  | .error error =>
    count fun c => { c with errors := c.errors + 1 }
    report (.processingFailed e.link.name d error)
  return result

def reviewCredit : Act Panic Endpoint Unit := replenish (some .receiver)

/-- The peer changed the link's credit. -/
def onFlow (credits : UInt32) (drain : Bool) : Act Panic Endpoint Unit := do
  report (.flowReceived (← get).link.name credits drain)
  reviewCredit

/-- Discards the large message that is coming in. A panic on the way is only reported. -/
def clearLarge : Act Panic Endpoint Unit := do
  match ← (Reassembler.discard .receiver).contain with
  | .ok _ => pure ()
  | .error payload => report (.cleanupPanicked (← get).link.name payload)

/-- Closes the receiver: its session forgets it, and the large message that is coming in is
discarded. A receiver that is closed already is left as it is. -/
def close (remoteInitiated : Bool) : Act Panic Endpoint Unit := do
  requireOnHandler
  if (← get).lifecycle = .closed then return
  modify fun e => { e with lifecycle := .closing }
  removeReceiver
  clearLarge
  modify fun e => { e with lifecycle := .closed }
  report (.receiverClosed (← get).link.name remoteInitiated)

/-- Sets the condition that goes with the detaching of the link, and closes the receiver. -/
def closeWithError (condition : Condition) : Act Panic Endpoint Unit := do
  Link.setCondition condition
  close false

end Receiver

end ReceivingLink
