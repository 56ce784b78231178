import ReceivingLink.Collaborators
import ReceivingLink.Header

/-!
# Accumulating a large message

A large message is written to its spool as it comes in. After a failed write the message has a
gap; what comes then is dropped, and the message can no longer be finished.
-/

namespace ReceivingLink

namespace Accumulator

/-- Deletes the spool of a message that will not be finished. A failure is only reported. -/
def drop (a : Accumulator) : Act Panic Endpoint Unit := do
  match ← a.spool.delete.run with
  | .error cause => report (.deleteFailed a.id cause)
  | .ok () => report (.largeDiscarded a.id)

/-- Writes bytes to the spool and answers the accumulator afterwards, also when that failed.
Nothing is written for no bytes, or behind a gap. -/
def append (a : Accumulator) (bytes : Bytes) :
    Act Panic Endpoint (Accumulator × Except ReassemblyError Unit) := do
  if bytes.isEmpty then return (a, .ok ())
  if a.incomplete then
    report (.bytesDropped a.id bytes.length)
    return (a, .ok ())
  match ← (a.spool.append bytes).run with
  | .error cause => return ({ a with incomplete := true }, .error (.append a.id cause))
  | .ok () => return ({ a with size := a.size + bytes.length }, .ok ())

def receive (a : Accumulator) : Act Panic Endpoint (Accumulator × Except ReassemblyError Unit) := do
  a.append (← Link.recv)

/-- Finishes the spool of a message without a gap. -/
def finish (a : Accumulator) : Attempt ReassemblyError Unit := do
  if a.incomplete then throw (.incomplete a.id)
  a.spool.finish.adapt (ReassemblyError.finish a.id)
  report (.largeFinished a.id a.size)

/-- Starts a large message with the bytes that the link has for the delivery. Once there is a
spool, a failure deletes it; the bytes are then gone from the link. -/
def start (d : DeliveryId) : Attempt ReassemblyError Accumulator := do
  let id ← Storage.generateId.adapt .generateId
  let spool ← (Storage.openSpool id).adapt (.openSpool id)
  let format := ((← get).link.delivery d).format
  let initial ← Link.recv
  let empty : Accumulator := { id, format, headerPresent := Header.isPresent initial, spool }
  match ← (Storage.registerLarge id empty).run with
  | .error cause =>
    empty.drop
    throw (.register id cause)
  | .ok () => pure ()
  let (written, result) ← empty.append initial
  match result with
  | .error e =>
    written.drop
    throw e
  | .ok () =>
    report (.largeStarted id format initial.length)
    return written

end Accumulator

end ReceivingLink
