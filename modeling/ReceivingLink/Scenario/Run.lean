import ReceivingLink.Describe
import ReceivingLink.Receiver
import ReceivingLink.Scenario.Step

/-!
# Running a scenario

Each step is performed on the endpoint, and on what the scenario itself holds: the handoffs it
took, an accumulator and a spool. After each step the scenario reports what was answered, what
was called and logged, and the state of the endpoint. A panic ends its own step only.
-/

namespace ReceivingLink.Scenario

/-- An endpoint and what the scenario holds. -/
structure Bench where
  endpoint : Endpoint
  traced : Bool
  accumulator : Option Accumulator := none
  taken : List Taken := []
  spool : Option Spool := none

/-- What is done in a step. -/
abbrev Work := Act Panic Bench

/-- An action on the endpoint, as part of a step. -/
def onEndpoint {α : Type} (act : Act Panic Endpoint α) : Work α := fun b =>
  let (result, endpoint) := act b.endpoint
  (result, { b with endpoint })

/-- Makes a call where it is to be made. -/
def Site.make {α : Type} (act : Act Panic Endpoint α) : Site → Act Panic Endpoint α
  | .handler => onHandler act
  | .elsewhere => act

def change (f : Endpoint → Endpoint) : Work Unit :=
  modify fun b => { b with endpoint := f b.endpoint }

def target (d : Target) : Work DeliveryId :=
  return d.getD (← get).endpoint.link.latest

/-- The answer to a call that can fail. -/
def answer {α : Type} (attempted : Attempt Failure α) (reply : α → Work Reply) : Work Reply := do
  match ← onEndpoint attempted.run with
  | .error cause => return .failed cause
  | .ok a => reply a

/-- The answer of a part of reassembly. -/
def assembled {α : Type} (attempted : Attempt ReassemblyError α) (reply : α → Work Reply) :
    Work Reply := do
  match ← onEndpoint attempted.run with
  | .error e => return .reassemblyError e
  | .ok a => reply a

/-- What is done with the accumulator, if there is one. -/
def withAccumulator (act : Accumulator → Work Reply) : Work Reply := do
  match (← get).accumulator with
  | none => return .noAccumulator
  | some a => act a

/-- What is done with the spool, if there is one. It is put back when that is done, so that a
panic leaves none. -/
def withSpool (act : Spool → Work Reply) : Work Reply := do
  match (← get).spool with
  | none => return .noSpool
  | some s =>
    modify fun b => { b with spool := none }
    let reply ← act s
    modify fun b => { b with spool := some s }
    return reply

/-- What is done with the spool, if there is one, for the last time. -/
def withLastSpool (act : Spool → Work Reply) : Work Reply := do
  match (← get).spool with
  | none => return .noSpool
  | some s =>
    modify fun b => { b with spool := none }
    act s

def handled (d : DeliveryId) (site : Site) : Work Reply := do
  match ← onEndpoint (site.make (Receiver.onMessage d)) with
  | .ok () => return .ok
  | .error e => return .receiverError e

def StorageCall.set (faults : StorageFaults) (failing : Bool) : StorageCall → StorageFaults
  | .generateId => { faults with generateId := failing }
  | .append => { faults with append := failing }
  | .appendPanic => { faults with appendPanics := failing }
  | .finish => { faults with finish := failing }
  | .delete => { faults with delete := failing }

def takeHandoffs (described : Bool) : Work Reply := do
  let b ← get
  let depth : Describe.Depth := if b.traced then .outline else .full
  let taken := b.endpoint.sink.held.map fun h =>
    { handoff := h, message := some h.message,
      description := Describe.handoff depth b.endpoint.storage h : Taken }
  change fun e => { e with sink := { e.sink with held := [] } }
  modify fun b => { b with taken := b.taken ++ taken }
  return .handoffs (taken.map fun t => (t.handoff, if described then some t.description else none))

/-- Takes the spool out of a large message that was taken from routing. -/
def takeSpool (index : Nat) : Work Reply := do
  match ((← get).taken[index]?.bind (·.message)).bind Message.spool? with
  | none => return .flag false
  | some spool =>
    modify fun b =>
      { b with spool := some spool,
               taken := b.taken.modify index fun t => { t with message := none } }
    return .flag true

def Bench.describe (b : Bench) : Subject → String
  | .receiver => Describe.receiver b.endpoint
  | .replenisher => Describe.replenisher b.endpoint (some .receiver)
  | .unbound => Describe.replenisher b.endpoint none
  | .tracker => Describe.tracker b.endpoint .standalone
  | .handle => Describe.settleHandle b.endpoint
  | .taken index => ((b.taken[index]?).map (·.description)).getD ""

/-- A text occurs inside another. -/
def occursIn (needle : String) (s : String) : Bool :=
  needle.isEmpty || (s.splitOn needle).length > 1

def Step.perform : Step → Work Reply
  | .begin format txn => do
    let shown := if (← get).traced then format else 0
    change fun e => { e with link := e.link.begin shown }
    let d := (← get).endpoint.link.latest
    if let some txn := txn then
      change fun e =>
        { e with link := e.link.change d fun x =>
            { x with remote := some (.transactional txn none) } }
    return .number d.number
  | .setRemote d state => do
    let d ← target d
    change fun e => { e with link := e.link.change d fun x => { x with remote := some state } }
    return .ok
  | .transfer bytes more => do
    change fun e => { e with link := e.link.transfer bytes more }
    return .number (← get).endpoint.link.buffer.length
  | .abort => do
    change fun e => { e with link := e.link.abort }
    return .ok
  | .setCredit credits => do
    change fun e => { e with link := { e.link with credit := credits } }
    return .ok
  | .setDrain drain => do
    change fun e => { e with link := { e.link with drain } }
    return .ok
  | .advance => return .flag (← onEndpoint Link.moveOn)
  | .recv => return .bytes (← onEndpoint Link.recv)
  | .inspectDelivery d => do
    let d ← target d
    return .delivery ((← get).endpoint.link.delivery d)
  | .message d site => do handled (← target d) site
  | .exchange d bytes more site => do
    let d ← target d
    change fun e => { e with link := e.link.transfer bytes more }
    handled d site
  | .flow credits drain site => do
    onEndpoint (site.make (Receiver.onFlow credits drain))
    return .ok
  | .settle d site => do
    let d ← target d
    onEndpoint (site.make (settleOnHandler d))
    return .ok
  | .settleByHandle d outcome site => do
    let d ← target d
    onEndpoint (site.make (ReceivingLink.settle d outcome))
    return .ok
  | .close remote site => do
    onEndpoint (site.make (Receiver.close remote))
    return .ok
  | .closeWithError condition site => do
    onEndpoint (site.make (Receiver.closeWithError condition))
    return .ok
  | .replenish owner times site => do
    onEndpoint (site.make (Act.times times (ReceivingLink.replenish owner)))
    return .ok
  | .submit owner times site => do
    onEndpoint (site.make (Act.times times (ReceivingLink.submit owner)))
    return .ok
  | .increment owner times site => do
    onEndpoint (site.make (Tracker.incrementBy owner times))
    match owner with
    | .receiver => return .ok
    | .standalone => return .number ((← get).endpoint.unsettled .standalone).toNat
  | .decrement times site => do
    onEndpoint (site.make (Act.times times (Tracker.decrement .standalone)))
    return .number ((← get).endpoint.unsettled .standalone).toNat
  | .runPending => return .number (← onEndpoint ReceivingLink.runPending)
  | .dropLoop => do
    change fun e => { e with mailbox := e.mailbox.abandon }
    return .ok
  | .setMode mode => do
    change fun e => { e with sink := { e.sink with mode } }
    return .ok
  | .take described => takeHandoffs described
  | .settleTaken index outcome site => do
    if let some t := (← get).taken[index]? then
      onEndpoint (site.make (ReceivingLink.settle t.handoff.delivery outcome))
    return .ok
  | .declare txn => do
    change fun e => { e with transactions := e.transactions.declare txn }
    return .ok
  | .failLookups failing => do
    change fun e => { e with transactions := { e.transactions with failing } }
    return .ok
  | .lookup txn create => answer (Transactions.ask txn create) fun found => return .found found
  | .failStorage call failing => do
    change fun e =>
      { e with storage := { e.storage with faults := call.set e.storage.faults failing } }
    return .ok
  | .setPersistence answer => do
    if (← get).traced then change fun e => { e with persistence := answer }
    return .ok
  | .inspectSpool id => return .spool (← onEndpoint (Storage.lookUp id))
  | .generateId => answer Storage.generateId fun id => return .number id.number
  | .openSpool id => answer (Storage.openSpool id) fun spool => do
    modify fun b => { b with spool := some spool }
    return .ok
  | .register id => withAccumulator fun a =>
    answer (Storage.registerLarge id a) fun () => return .ok
  | .spoolOfTaken index => takeSpool index
  | .spoolAppend bytes => withSpool fun s => answer (s.append bytes) fun () => return .ok
  | .spoolFinish => withSpool fun s => answer s.finish fun () => return .ok
  | .spoolDelete => withLastSpool fun s => answer s.delete fun () => return .ok
  | .setFault point fault => do
    if (← get).traced then
      if let some point := point then
        change fun e => { e with plan := e.plan.setAt point fault }
    return .ok
  | .accept d => do
    let d ← target d
    assembled (Reassembler.accept .standalone d) fun
      | .aborted => return .aborted
      | .pending => return .pending
      | .complete m => return .complete m
  | .discard => return .flag (← onEndpoint (Reassembler.discard .standalone))
  | .inspectThreshold =>
    return .optionalNumber ((← get).endpoint.reassembler.get .standalone).threshold
  | .accumulatorStart d => do
    let d ← target d
    assembled (Accumulator.start d) fun a => do
      modify fun b => { b with accumulator := some a }
      return .ok
  | .accumulatorAppend bytes => withAccumulator fun a => do
    let (written, result) ← onEndpoint (a.append bytes)
    modify fun b => { b with accumulator := some written }
    match result with
    | .ok () => return .ok
    | .error e => return .reassemblyError e
  | .accumulatorFinish => withAccumulator fun a => assembled a.finish fun () => return .ok
  | .accumulatorSeal => withAccumulator fun a => do
    modify fun b => { b with accumulator := none }
    return .message (.large a.message)
  | .accumulatorDrop => withAccumulator fun a => do
    modify fun b => { b with accumulator := none }
    onEndpoint a.drop
    return .ok
  | .describe subject => return .text ((← get).describe subject)
  | .inspectPolicy => do
    let e := (← get).endpoint
    return .policy e.config.policy e.config.duplicateDetection e.link.name
  | .takeNotices level needle => do
    let notices := (← get).endpoint.notices
    change fun e => { e with notices := [] }
    return .texts ((notices.filter fun n => n.level = level && occursIn needle n.text).map
      (·.text))
  | .clearNotices => do
    change fun e => { e with notices := [] }
    return .ok

/-- What a step shows of the endpoint. -/
structure Snapshot where
  lifecycle : Lifecycle
  pending : UInt32
  large : Option Accumulator
  credit : UInt32
  current : Option DeliveryId
  available : Nat
  advanced : Nat
  flushes : Nat
  delivered : Nat
  held : Nat
  reassembler : Option Accumulator
  accumulator : Option Accumulator

def Bench.snapshot (b : Bench) : Snapshot :=
  let e := b.endpoint
  { lifecycle := e.lifecycle
    pending := e.unsettled .receiver
    large := (e.reassembler.get .receiver).slot
    credit := e.link.credit
    current := e.link.current
    available := e.link.buffer.length
    advanced := e.link.advanced
    flushes := e.mailbox.flushes
    delivered := e.sink.delivered
    held := e.sink.held.length
    reassembler := (e.reassembler.get .standalone).slot
    accumulator := b.accumulator }

/-- What is told about one step. -/
structure StepReport where
  reply : Reply
  calls : List Call
  notices : List Notice
  snapshot : Snapshot

/-- Performs a step and tells about it. -/
def Bench.step (setup : Setup) (b : Bench) (step : Step) : StepReport × Bench :=
  let before := b.endpoint.calls.length
  let (result, after) := step.perform.run.run b
  let reply := match result with
    | .ok reply => reply
    | .error payload => .panicked payload
  let calls := if setup.traced then after.endpoint.calls.drop before else []
  let report (notices : List Notice) : StepReport :=
    { reply, calls, notices, snapshot := after.snapshot }
  if setup.keepNotices then (report [], after)
  else
    let cleared := { after with endpoint := { after.endpoint with notices := [] } }
    (report after.endpoint.notices, cleared)

def Bench.steps (setup : Setup) : Bench → List Step → List StepReport × Bench
  | b, [] => ([], b)
  | b, step :: rest =>
    let (report, after) := b.step setup step
    let (reports, final) := after.steps setup rest
    (report :: reports, final)

/-- Where a scenario starts. Without tracing the link has its standard name, there is always
storage, and the endpoint is on the first handler rather than on the second. -/
def Setup.bench (setup : Setup) : Bench :=
  let threshold := match setup.standaloneThreshold with
    | none => setup.config.largeMessageThreshold
    | some 0 => none
    | some n => some n
  let start (name : String) (handler : Nat) (storage : Storage) : Endpoint :=
    .start setup.config name setup.credit ⟨handler⟩ storage threshold
  { endpoint :=
      if setup.traced then start setup.name 2 setup.storage
      else start standardName 1 (if setup.storage.hasSpools then setup.storage else .memory)
    traced := setup.traced }

/-- What a scenario told, and what it left. -/
structure Transcript where
  steps : List StepReport
  final : Bench

def run (setup : Setup) (steps : List Step) : Transcript :=
  let (steps, final) := setup.bench.steps setup steps
  { steps, final }

end ReceivingLink.Scenario
