import ReceivingLink.Collaborators

/-!
# Settlement and credit

A delivery that routing accepted is counted as unsettled until it is settled, and as long as it
is counted it holds back the credit that it took. Settling happens on the handler; from elsewhere
it is put into the mailbox, and so is a top-up of credit. A task that runs on the handler never
puts another one into the mailbox.
-/

namespace ReceivingLink

/-- Panics unless the code runs on the endpoint's handler. -/
def requireOnHandler : Act Panic Endpoint Unit := do
  let e ← get
  if !e.isOnHandler then panicWith s!"must be called from {e.mailbox.handler.text}"

def onHandler {α : Type} (act : Act Panic Endpoint α) : Act Panic Endpoint α :=
  act.bracket (fun e => { e with onHandler := some e.mailbox.handler })
    fun before after => { after with onHandler := before.onHandler }

def runLater (task : Task) : Act Panic Endpoint Unit := do
  let mailbox := (← get).mailbox
  modify fun e => { e with mailbox := e.mailbox.post task }
  if !mailbox.attended then report (.taskDropped mailbox.handler)

/-- Has what is written to the peer sent without delay. -/
def flushNow : Act Panic Endpoint Unit := do
  requireOnHandler
  modify fun e => { e with mailbox := e.mailbox.flushed }
  invoke .flush

namespace Tracker

/-- Counts a delivery accepted for routing. -/
def increment (o : Owner) : Act Panic Endpoint Unit := do
  if (← get).pending.get o < 0 then panicWith "pending settlements must never be negative"
  requireOnHandler
  modify fun e => { e with pending := e.pending.set (e.pending.get o + 1) o }

/-- Counts as many deliveries, one after the other. If the first can be counted, so can the rest. -/
def incrementBy (o : Owner) : (deliveries : Nat) → Act Panic Endpoint Unit
  | 0 => pure ()
  | rest + 1 => do
    increment o
    modify fun e => { e with pending := e.pending.set (e.pending.get o + rest) o }

/-- Counts a settlement. One settlement too many is counted and then refused. -/
def decrement (o : Owner) : Act Panic Endpoint Unit := do
  requireOnHandler
  modify fun e => { e with pending := e.pending.set (e.pending.get o - 1) o }
  if (← get).pending.get o < 0 then
    panicWith "settled more deliveries than were accepted for routing"

end Tracker

/-- Tops up the link's credit if it is low, and counts what it granted. With an owner, what the
owner counts as unsettled is left out of the credit. Elsewhere than on the handler the top-up is
put into the mailbox. -/
def replenish (owner : Option Owner) : Act Panic Endpoint Unit := do
  let e ← get
  if !e.isOnHandler then runLater (.replenish owner)
  else
    let pending := (owner.map e.unsettled).getD 0
    let credit := e.link.credit
    match e.config.policy.grant? credit pending with
    | none => pure ()
    | some grant =>
      Link.grant grant
      flushNow
      count fun c => { c with creditGranted := c.creditGranted + grant.toNat }
      report (.creditReplenished e.link.name credit pending grant)

/-- Settles a delivery of the receiver, which gives back the credit it took. -/
def settleOnHandler (d : DeliveryId) : Act Panic Endpoint Unit := do
  requireOnHandler
  Tracker.decrement .receiver
  Delivery.settle d
  replenish (some .receiver)

def Task.perform : Task → Act Panic Endpoint Unit
  | .replenish owner => ReceivingLink.replenish owner
  | .settle d none => settleOnHandler d
  | .settle d (some outcome) => do
    Delivery.disposition d outcome
    settleOnHandler d

/-- Performs a task at once on the handler, and later from elsewhere. -/
def runNow (task : Task) : Act Panic Endpoint Unit := do
  if (← get).isOnHandler then task.perform else runLater task

/-- Settles a delivery of the receiver from anywhere, with an outcome if one is given. -/
def settle (d : DeliveryId) (outcome : Option Outcome) : Act Panic Endpoint Unit :=
  runNow (.settle d outcome)

/-- Asks for a top-up from anywhere. -/
def submit (owner : Option Owner) : Act Panic Endpoint Unit := runLater (.replenish owner)

def takeTask : Act Panic Endpoint (Option Task) :=
  modifyGet fun e =>
    match e.mailbox.take? with
    | none => (none, e)
    | some (task, mailbox) => (some task, { e with mailbox })

/-- Performs at most `limit` tasks and counts them. -/
def drain : (limit : Nat) → Act Panic Endpoint Nat
  | 0 => pure 0
  | limit + 1 => do
    match ← takeTask with
    | none => return 0
    | some task =>
      task.perform
      return (← drain limit) + 1

/-- Performs every task in the mailbox, on the handler, and counts them. Those that wait at the
start are all there are, as none of them adds another. A task that panics is gone; those behind
it stay. -/
def runPending : Act Panic Endpoint Nat := do
  let waiting := (← get).mailbox.tasks.length
  onHandler (drain waiting)

end ReceivingLink
