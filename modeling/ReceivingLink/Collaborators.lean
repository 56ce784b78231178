import ReceivingLink.Endpoint

/-!
# Calling collaborators

Each call is noted before it is made. Then what the plan has for it goes wrong; only if there is
nothing does the collaborator do its part.
-/

namespace ReceivingLink

/-- An action on an endpoint that may report a failure. -/
abbrev Attempt (ε : Type) := ExceptT ε (Act Panic Endpoint)

def panicWith {α : Type} (message : String) : Act Panic Endpoint α := throw (.text message)

/-- Notes a call and tells what goes wrong with it. -/
def note (call : Call) : Act Panic Endpoint (Option Fault) :=
  modifyGet fun e =>
    (e.plan e.calls.length call.point, { e with calls := e.calls ++ [call] })

/-- Makes a call that cannot report a failure. -/
def invoke (call : Call) : Act Panic Endpoint Unit := do
  match ← note call with
  | some (.panics payload) => throw payload
  | _ => pure ()

/-- Makes a call that can report a failure. -/
def attempt (call : Call) : Attempt Failure Unit := do
  match ← note call with
  | some (.panics payload) => throwThe Panic payload
  | some (.fails cause) | some (.failsForNow cause) => throw cause
  | none => pure ()

def onLink (f : Link → Link) : Act Panic Endpoint Unit :=
  modify fun e => { e with link := f e.link }

def onStorage (f : Storage → Storage) : Act Panic Endpoint Unit :=
  modify fun e => { e with storage := f e.storage }

namespace Link

def grant (credits : UInt32) : Act Panic Endpoint Unit := do
  invoke (.linkFlow credits)
  onLink (·.flow credits)

/-- Moves past the current delivery; the answer tells if there was one. -/
def moveOn : Act Panic Endpoint Bool := do
  invoke .linkAdvance
  let there := (← get).link.current.isSome
  onLink (·.advance)
  return there

/-- Takes all bytes of the current delivery that have come. -/
def recv : Act Panic Endpoint Bytes := do
  invoke (.linkRecv (← get).link.buffer)
  let bytes := (← get).link.buffer
  onLink (·.drained)
  return bytes

/-- Sets the condition that goes with the detaching of the link. -/
def setCondition (condition : Condition) : Act Panic Endpoint Unit := do
  invoke (.linkSetCondition condition)
  onLink fun l => { l with condition := some condition }

end Link

namespace Delivery

def disposition (d : DeliveryId) (outcome : Outcome) : Act Panic Endpoint Unit := do
  invoke (.disposition d outcome)
  onLink (·.dispose d outcome)

def settle (d : DeliveryId) : Act Panic Endpoint Unit := do
  invoke (.settle d)
  onLink (·.settle d)

end Delivery

namespace Storage

/-- Takes hold of the table of records, which panics if the table is poisoned. -/
def holdTable : Act Panic Endpoint Unit := do
  if (← get).storage.poisoned then throw poisonedPanic

/-- Looks up the record of the spool opened last for a message. A record that is poisoned
poisons the table too, because the look-up holds both. -/
def lookUp (id : LargeMessageId) : Act Panic Endpoint (Option SpoolRecord) := do
  holdTable
  let record := (← get).storage.latest? id
  if record.any (·.poisoned) then
    onStorage fun s => { s with poisoned := true }
    throw SpoolRecord.poisonedPanic
  return record

def generateId : Attempt Failure LargeMessageId := do
  attempt .generateId
  let s := (← get).storage
  if s.hasSpools && s.faults.generateId then throw { text := "id sequence exhausted" }
  onStorage issue
  return ⟨s.nextId⟩

def openSpool (id : LargeMessageId) : Attempt Failure Spool := do
  attempt (.openSpool id)
  let s := (← get).storage
  if !s.hasSpools then
    throw { text := s!"non-persistent storage cannot spool large message {id.text}" }
  holdTable
  onStorage (·.opened id)
  return s.newSpool id

def registerLarge (id : LargeMessageId) (accumulator : Accumulator) : Attempt Failure Unit := do
  attempt (.register id accumulator)
  onStorage (·.register id accumulator.format)

end Storage

namespace Spool

/-- Takes hold of the record of a spool, which panics if the record is poisoned. -/
def hold (spool : Spool) : Act Panic Endpoint SpoolRecord := do
  let record := (← get).storage.record spool
  if record.poisoned then throw SpoolRecord.poisonedPanic
  return record

/-- Writes bytes to the end of a spool. Writing to a finished spool panics and poisons it. -/
def append (spool : Spool) (bytes : Bytes) : Attempt Failure Unit := do
  attempt (.spoolAppend spool bytes)
  let faults := (← get).storage.faults
  if faults.appendPanics then panicWith "spool write panicked"
  if faults.append then throw { text := "disk full" }
  if (← hold spool).finished then
    onStorage (·.poison spool)
    panicWith "append after finish"
  onStorage (·.append spool bytes)

/-- Writes out what a spool has buffered. -/
def finish (spool : Spool) : Attempt Failure Unit := do
  attempt (.spoolFinish spool)
  if (← get).storage.faults.finish then throw { text := "fsync failed" }
  discard (hold spool)
  onStorage (·.finish spool)

def delete (spool : Spool) : Attempt Failure Unit := do
  attempt (.spoolDelete spool)
  if (← get).storage.faults.delete then throw { text := "permission denied" }
  discard (hold spool)
  onStorage (·.delete spool)

end Spool

namespace Message

/-- Builds a message that is held in memory. -/
def create (d : DeliveryId) (payload : Bytes) : Attempt Failure StandardMessage := do
  attempt (.createMessage payload)
  return { format := ((← get).link.delivery d).format, payload }

end Message

namespace Transactions

def ask (txn : TxnId) (create : Bool) : Attempt Failure (Option TxnId) := do
  let (found, asked) := (← get).transactions.lookup txn create
  modify fun e => { e with transactions := asked }
  match found with
  | .ok found => return found
  | .error () => throw { text := "resource manager unavailable" }

def find (txn : TxnId) (create : Bool) : Attempt Failure (Option TxnId) := do
  attempt (.lookup txn create)
  ask txn create

end Transactions

/-- Lets the session forget the receiver of a link. -/
def removeReceiver : Act Panic Endpoint Unit := do
  let name := (← get).link.name
  invoke (.removeReceiver name)
  modify fun e => { e with removed := e.removed ++ [name] }

end ReceivingLink
