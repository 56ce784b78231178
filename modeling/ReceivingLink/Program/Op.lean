import ReceivingLink.Handler

/-!
# Programs over handlers

A program creates handlers, queues tasks for them, enters them, runs their loops and drops what
it holds. Operations nest: a task is itself a list of operations, and so is what is done inside a
handler or on another thread. A panic leaves every operation around it, up to one that catches it.

A handler's loop is either run to the end of its mailbox, or polled: once polled it can only be
polled again, and it finishes when no executor of the handler is left. Running a loop that was
polled ends it.
-/

namespace ReceivingLink.Program

inductive Hook where
  | silent
  | panics
  | records (name : String)

/-- An operation. Handlers are given by their places in order of creation. -/
inductive Op where
  | create (hook : Hook)
  | isHandler (h : Nat)
  /-- Runs a task on the handler, now if the code is on it. -/
  | runNow (h : Nat) (tag : String) (ops : List Op)
  | runLater (h : Nat) (tag : String) (ops : List Op)
  /-- Queues a task that has an executor of its own, which goes when the task is done. -/
  | entrust (h : Nat) (tag : String) (ops : List Op)
  | enter (h : Nat) (ops : List Op)
  | onThread (ops : List Op)
  | require (h : Nat)
  | flush (h : Nat)
  | flushes (h : Nat)
  | identity (h : Nat)
  | same (h other : Nat)
  | panic (message : String)
  /-- Catches a panic of the operations; the answer tells if there was none. -/
  | attempt (ops : List Op)
  /-- Queues a task that has an executor of its own and, `n` times, queues the next. -/
  | chain (h n : Nat)
  /-- The program makes one more executor from one that it finds. -/
  | copyExecutor (h : Nat)
  | dropExecutor (h : Nat)
  | dropLoop (h : Nat)
  | run (h : Nat)
  | poll (h : Nat)

def Op.word : Op → String
  | create _ => "new"
  | isHandler _ => "is"
  | runNow .. => "now"
  | runLater .. => "later"
  | entrust .. => "entrust"
  | enter .. => "enter"
  | onThread _ => "thread"
  | require _ => "require"
  | flush _ => "flush"
  | flushes _ => "flushes"
  | identity _ => "id"
  | same .. => "same"
  | panic _ => "panic"
  | attempt _ => "attempt"
  | chain .. => "chain"
  | copyExecutor _ => "copy_exec"
  | dropExecutor _ => "drop_exec"
  | dropLoop _ => "drop_loop"
  | run _ => "run"
  | poll _ => "poll"

mutual

/-- A bound on what an operation can set going: itself, what is nested in it, and the tasks of a
chain. -/
def Op.weight : Op → Nat
  | .runNow _ _ ops | .runLater _ _ ops | .entrust _ _ ops | .enter _ ops | .onThread ops
  | .attempt ops => weights ops + 1
  | .chain _ n => n + 2
  | .create _ | .isHandler _ | .require _ | .flush _ | .flushes _ | .identity _ | .same ..
  | .panic _ | .copyExecutor _ | .dropExecutor _ | .dropLoop _ | .run _ | .poll _ => 1

def weights : List Op → Nat
  | [] => 0
  | op :: ops => op.weight + weights ops

end

/-- A task: operations, with an executor of its own or without, or a link of a chain. -/
inductive Job where
  | ops (own : Bool) (tag : String) (body : List Op)
  | link (n : Nat)

namespace Job

/-- The task has an executor of its own. -/
def owns : Job → Bool
  | ops own _ _ => own
  | link _ => true

/-- A bound on what a task can set going. -/
def weight : Job → Nat
  | ops _ _ body => weights body + 1
  | link n => n + 1

end Job

inductive Reply where
  | ok
  | left
  | joined
  | dropped
  | waiting
  | finished
  | noExecutor
  | noLoop
  | flag (value : Bool)
  | count (value : Nat)
  | handler (id : HandlerId)
  deriving DecidableEq

/-- What is recorded while a program runs. -/
inductive Event where
  | task (tag : String)
  | chain (n : Nat) (isHandler : Bool)
  | hook (name : String)
  /-- A nested operation completed. -/
  | done (word : String) (reply : Reply)
  deriving DecidableEq

end ReceivingLink.Program
