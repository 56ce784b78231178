import ReceivingLink.Accumulator

/-!
# From transfers to messages

An event for the delivery at the head of the link says that more of it has come, that it is
complete, or that its sender gave it up. Small messages wait in the link's buffer until they are
complete. A message that reaches the threshold is spooled from then on. At most one large message
is coming in for a link at any time.
-/

namespace ReceivingLink

inductive Reassembly where
  /-- The sender gave the delivery up, and the link is past it. -/
  | aborted
  | pending
  /-- The delivery is complete, and the link is past it. -/
  | complete (message : Message)

namespace Reassembler

/-- The large message that is coming in for an owner. -/
def current (o : Owner) : Act Panic Endpoint (Option Accumulator) :=
  return ((← get).reassembler.get o).slot

def setCurrent (o : Owner) (slot : Option Accumulator) : Act Panic Endpoint Unit :=
  modify fun e =>
    { e with reassembler := e.reassembler.set { e.reassembler.get o with slot } o }

/-- Gives up the large message that is coming in; the answer tells if there was one. -/
def discard (o : Owner) : Act Panic Endpoint Bool := do
  match ← current o with
  | none => return false
  | some a =>
    setCurrent o none
    a.drop
    return true

/-- Starts a large message if what has come reaches the threshold. -/
def startIfLarge (o : Owner) (d : DeliveryId) : Attempt ReassemblyError Unit := do
  let e ← get
  match (e.reassembler.get o).threshold with
  | none => pure ()
  | some threshold =>
    if threshold ≤ (e.link.delivery d).available then
      let a ← Accumulator.start d
      setCurrent o (some a)

/-- Moves the link past a large message and takes it out of its slot. One that could not be sealed
is dropped. -/
def release (o : Owner) (a : Accumulator) (sealed : Except ReassemblyError Unit) :
    Attempt ReassemblyError LargeMessage := do
  let _ ← Link.moveOn
  setCurrent o none
  match sealed with
  | .ok () => return a.message
  | .error e =>
    a.drop
    throw e

/-- Writes the last bytes of a large message and seals it. It leaves its slot only when both
are done, so that a panic leaves it to be discarded. -/
def sealLarge (o : Owner) (a : Accumulator) : Attempt ReassemblyError LargeMessage := do
  let (written, result) ← a.receive
  setCurrent o (some written)
  match result with
  | .error e => release o written (.error e)
  | .ok () =>
    let sealed : Except ReassemblyError Unit ← written.finish.run
    release o written sealed

def acceptPartial (o : Owner) (d : DeliveryId) : Attempt ReassemblyError Unit := do
  if (← get).isPersistent then
    match ← current o with
    | some a =>
      let (written, result) ← a.receive
      setCurrent o (some written)
      liftExcept result
    | none => startIfLarge o d

/-- The message of a complete delivery: the large one that is coming in, or else what has come. -/
def complete (o : Owner) (d : DeliveryId) : Attempt ReassemblyError Message := do
  match ← current o with
  | some a =>
    let large ← sealLarge o a
    count fun c => { c with largeMessages := c.largeMessages + 1 }
    return .large large
  | none =>
    let payload ← Link.recv
    let _ ← Link.moveOn
    return .standard (← (Message.create d payload).adapt .createMessage)

def acceptComplete (o : Owner) (d : DeliveryId) : Attempt ReassemblyError Message := do
  if (← current o).isNone && (← get).isPersistent then startIfLarge o d
  complete o d

/-- Handles an event for the delivery at the head of the link. -/
def accept (o : Owner) (d : DeliveryId) : Attempt ReassemblyError Reassembly := do
  let delivery := (← get).link.delivery d
  if delivery.isAborted then
    let _ ← discard o
    let _ ← Link.moveOn
    return .aborted
  else if delivery.isPartial then
    acceptPartial o d
    return .pending
  else
    return .complete (← acceptComplete o d)

end Reassembler

end ReceivingLink
