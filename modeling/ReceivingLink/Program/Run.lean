import ReceivingLink.Act
import ReceivingLink.Notice
import ReceivingLink.Program.Op

/-!
# Running programs over handlers

The code of a program runs on one handler at a time, or on none: entering a handler or running a
task makes it the one, and leaving, in whatever way, brings back the one before. A panic that is not
caught ends its own top-level operation only.
-/

namespace ReceivingLink.Program

/-- How far a handler's loop is. -/
inductive Loop where
  | fresh
  | polled
  | gone
  deriving DecidableEq

/-- One handler with its executor and its loop. -/
structure Station where
  mailbox : Mailbox Job
  hook : Hook
  /-- How many executors the program has. -/
  executors : Nat := 1
  /-- How many operations around the running code use an executor. -/
  inUse : Nat := 0
  /-- How many tasks around the running code have an executor of their own. -/
  lent : Nat := 0
  loop : Loop := .fresh
  /-- The loop is being run. -/
  busy : Bool := false

namespace Station

/-- The running code finds an executor: the program's, or that of a task around it. -/
def isReachable (x : Station) : Bool := 0 < x.executors || 0 < x.lent

/-- There is an executor left, be it that of a task that waits. -/
def isHeld (x : Station) : Bool := x.isReachable || 0 < x.inUse || x.mailbox.tasks.any (·.owns)

end Station

structure State where
  stations : List Station := []
  /-- The handler that the running code is on. -/
  onHandler : Option HandlerId := none
  events : List Event := []
  notices : List Notice := []

inductive Stop where
  | panicked (payload : Panic)
  /-- More was set going than the bound given for it; never met under the bound of `weights`. -/
  | exhausted

abbrev Run := Act Stop State

def panicWith {α : Type} (message : String) : Run α := throw (.panicked (.text message))

def record (event : Event) : Run Unit := modify fun s => { s with events := s.events ++ [event] }

def report (notice : Notice) : Run Unit :=
  modify fun s => { s with notices := s.notices ++ [notice] }

def station? (h : Nat) : Run (Option Station) := return (← get).stations[h]?

namespace State

def change (s : State) (h : Nat) (f : Station → Station) : State :=
  { s with stations := s.stations.modify h f }

end State

def change (h : Nat) (f : Station → Station) : Run Unit := modify (·.change h f)

/-- The handler, if the running code finds an executor of it. -/
def executor? (h : Nat) : Run (Option Station) :=
  return (← station? h).filter (·.isReachable)

/-- The running code is on the handler of an id. -/
def isOn (id : HandlerId) : Run Bool := return (← get).onHandler = some id

/-- Panics unless the running code is on the handler of an id. -/
def requireOn (id : HandlerId) : Run Unit := do
  if !(← isOn id) then panicWith s!"must be called from {id.text}"

/-- Runs an action with `handler` as the one the code is on. -/
def withHandler {α : Type} (handler : Option HandlerId) (act : Run α) : Run α :=
  act.bracket (fun s => { s with onHandler := handler })
    fun before after => { after with onHandler := before.onHandler }

/-- Runs an action while it uses an executor of a handler. -/
def holding {α : Type} (h : Nat) (act : Run α) : Run α :=
  act.bracket (·.change h fun x => { x with inUse := x.inUse + 1 })
    fun _ after => after.change h fun x => { x with inUse := x.inUse - 1 }

/-- Runs an action with an executor of a handler that goes when the action ends. -/
def lending {α : Type} (h : Nat) (act : Run α) : Run α :=
  act.bracket (·.change h fun x => { x with lent := x.lent + 1 })
    fun _ after => after.change h fun x => { x with lent := x.lent - 1 }

/-- Runs an action that has a handler's loop to itself. -/
def running {α : Type} (h : Nat) (act : Run α) : Run α :=
  act.bracket (·.change h fun x => { x with busy := true })
    fun _ after => after.change h fun x => { x with busy := false }

/-- Puts a task into a handler's mailbox. -/
def post (h : Nat) (x : Station) (job : Job) : Run Unit := do
  change h fun x => { x with mailbox := x.mailbox.post job }
  if !x.mailbox.attended then report (.taskDropped x.mailbox.handler)

/-- Takes the oldest task out of a handler's mailbox. -/
def takeJob (h : Nat) : Run (Option Job) := do
  match (← station? h).bind (·.mailbox.take?) with
  | none => return none
  | some (job, mailbox) =>
    change h fun x => { x with mailbox }
    return some job

/-- What a loop receives when it is polled. -/
inductive Receipt where
  | job (job : Job)
  /-- Nothing waits, but somebody has an executor still. -/
  | nothing
  /-- Nothing waits, and nobody has an executor any more. -/
  | closed

/-- Receives the oldest task, if there is one. -/
def receive (h : Nat) : Run Receipt := do
  match ← takeJob h with
  | some job => return .job job
  | none => return if (← station? h).any (·.isHeld) then .nothing else .closed

/-- The loop of a handler ends, and what waits for it is dropped. -/
def abandon (h : Nat) : Run Unit :=
  change h fun x => { x with mailbox := x.mailbox.abandon, loop := .gone }

/-- Asks a handler to flush. -/
def flushOn (h : Nat) (x : Station) : Run Unit := do
  requireOn x.mailbox.handler
  change h fun x => { x with mailbox := x.mailbox.flushed }
  match x.hook with
  | .silent => pure ()
  | .panics => panicWith "hook failed"
  | .records name => record (.hook name)

/-- Creates a handler. -/
def createStation (hook : Hook) : Run Unit :=
  modify fun s =>
    let mailbox : Mailbox Job := { handler := ⟨s.stations.length + 1⟩ }
    { s with stations := s.stations ++ [{ mailbox, hook }] }

mutual

def perform : (fuel : Nat) → Op → Run Reply
  | 0, _ => throw .exhausted
  | fuel + 1, op => do
    match op with
    | .create hook =>
      createStation hook
      return .flag true
    | .onThread ops =>
      withHandler none (performAll fuel ops)
      return .joined
    | .panic message => panicWith message
    | .attempt ops =>
      match ← (performAll fuel ops).contain with
      | .ok () => return .flag true
      | .error (.panicked _) => return .flag false
      | .error .exhausted => throw .exhausted
    | .isHandler h =>
      let some x ← executor? h | return .noExecutor
      return .flag (← isOn x.mailbox.handler)
    | .runNow h tag ops =>
      let some x ← executor? h | return .noExecutor
      if ← isOn x.mailbox.handler then holding h (doJob fuel h (.ops false tag ops))
      else post h x (.ops false tag ops)
      return .ok
    | .runLater h tag ops =>
      let some x ← executor? h | return .noExecutor
      post h x (.ops false tag ops)
      return .ok
    | .entrust h tag ops =>
      let some x ← executor? h | return .noExecutor
      post h x (.ops true tag ops)
      return .ok
    | .enter h ops =>
      let some x ← executor? h | return .noExecutor
      holding h (withHandler (some x.mailbox.handler) (performAll fuel ops))
      return .left
    | .require h =>
      let some x ← executor? h | return .noExecutor
      requireOn x.mailbox.handler
      return .ok
    | .flush h =>
      let some x ← executor? h | return .noExecutor
      flushOn h x
      return .ok
    | .flushes h =>
      let some x ← executor? h | return .noExecutor
      return .count x.mailbox.flushes
    | .identity h =>
      let some x ← executor? h | return .noExecutor
      return .handler x.mailbox.handler
    | .same h other =>
      let some x ← executor? h | return .noExecutor
      let some y ← executor? other | return .noExecutor
      return .flag (x.mailbox.handler = y.mailbox.handler)
    | .chain h n =>
      let some x ← executor? h | return .noExecutor
      post h x (.link n)
      return .ok
    | .copyExecutor h =>
      let some _ ← executor? h | return .noExecutor
      change h fun x => { x with executors := x.executors + 1 }
      return .ok
    | .dropExecutor h =>
      let there := (← station? h).any (0 < ·.executors)
      change h fun x => { x with executors := x.executors - 1 }
      return .flag there
    | .dropLoop h =>
      if let some x ← station? h then
        if !x.busy then abandon h
      return .dropped
    | .run h =>
      let some x ← station? h | return .noLoop
      if x.busy then return .noLoop
      if x.loop ≠ .fresh then
        abandon h
        return .noLoop
      return .count (← running h (withHandler (some x.mailbox.handler) (drain fuel h)))
    | .poll h =>
      let some x ← station? h | return .noLoop
      if x.busy || x.loop = .gone then return .noLoop
      match ← (running h (serve fuel h x.mailbox.handler)).contain with
      | .error stop =>
        abandon h
        throw stop
      | .ok false =>
        change h fun x => { x with loop := .polled }
        return .waiting
      | .ok true =>
        abandon h
        report (.loopFinished x.mailbox.handler)
        return .finished

/-- Performs nested operations and records each that completes. -/
def performAll : (fuel : Nat) → List Op → Run Unit
  | 0, _ => throw .exhausted
  | _, [] => pure ()
  | fuel + 1, op :: ops => do
    let reply ← perform fuel op
    record (.done op.word reply)
    performAll fuel ops

def doJob : (fuel : Nat) → (h : Nat) → Job → Run Unit
  | 0, _, _ => throw .exhausted
  | fuel + 1, h, job => do
    match job with
    | .ops own tag body =>
      record (.task tag)
      if own then lending h (performAll fuel body) else performAll fuel body
    | .link n =>
      let some x ← station? h | return
      record (.chain n (← isOn x.mailbox.handler))
      if 0 < n then post h x (.link (n - 1))

/-- Does every task in a handler's mailbox, also those that come in on the way, and counts
them. -/
def drain : (fuel : Nat) → (h : Nat) → Run Nat
  | 0, _ => throw .exhausted
  | fuel + 1, h => do
    match ← takeJob h with
    | none => return 0
    | some job =>
      doJob fuel h job
      return (← drain fuel h) + 1

/-- Does the tasks in a handler's mailbox one by one, each as the handler, until nothing waits. The
answer tells if nobody has an executor any more. -/
def serve : (fuel : Nat) → (h : Nat) → HandlerId → Run Bool
  | 0, _, _ => throw .exhausted
  | fuel + 1, h, id => do
    match ← receive h with
    | .closed => return true
    | .nothing => return false
    | .job job =>
      withHandler (some id) (doJob fuel h job)
      serve fuel h id

end

/-- What became of an operation that is not nested. -/
structure Report where
  result : Except Stop Reply
  events : List Event
  notices : List Notice

/-- The fuel for operations of a total weight. -/
def fuelFor (weight : Nat) : Nat := 8 * weight + 8

/-- Performs operations one after the other; a panic ends its own operation only. -/
def reports (fuel : Nat) : List Op → State → List Report
  | [], _ => []
  | op :: ops, s =>
    let (result, s') := (perform fuel op).run.run { s with events := [], notices := [] }
    { result, events := s'.events, notices := s'.notices } :: reports fuel ops s'

def execute (ops : List Op) : List Report := reports (fuelFor (weights ops)) ops {}

end ReceivingLink.Program
