/-!
# Handlers

A connection has one handler, and its state is touched only by code that runs on it. Work from
elsewhere is put into the handler's mailbox and runs when its loop gets to it.
-/

namespace ReceivingLink

/-- A handler's number, in order of creation. -/
structure HandlerId where
  number : Nat
  deriving DecidableEq, Inhabited

namespace HandlerId

def text (h : HandlerId) : String := s!"handler-#{h.number}"

def describe (h : HandlerId) : String := s!"HandlerId(#{h.number})"

end HandlerId

/-- The tasks waiting for a handler, the oldest first. -/
structure Mailbox (τ : Type) where
  handler : HandlerId
  tasks : List τ := []
  /-- There is a loop to run what is put in; without one, tasks are dropped. -/
  attended : Bool := true
  /-- How often the handler was asked to flush. -/
  flushes : Nat := 0

namespace Mailbox

variable {τ : Type}

/-- Puts a task behind the others, or drops it if nobody attends. -/
def post (m : Mailbox τ) (task : τ) : Mailbox τ :=
  if m.attended then { m with tasks := m.tasks ++ [task] } else m

@[simp] theorem post_attended (m : Mailbox τ) (task : τ) :
    (m.post task).attended = m.attended := by
  unfold post
  split <;> rfl

@[simp] theorem post_handler (m : Mailbox τ) (task : τ) :
    (m.post task).handler = m.handler := by
  unfold post
  split <;> rfl

def take? (m : Mailbox τ) : Option (τ × Mailbox τ) :=
  match m.tasks with
  | [] => none
  | task :: rest => some (task, { m with tasks := rest })

/-- The loop ends, and what waits for it is dropped. -/
def abandon (m : Mailbox τ) : Mailbox τ := { m with tasks := [], attended := false }

def flushed (m : Mailbox τ) : Mailbox τ := { m with flushes := m.flushes + 1 }

end Mailbox

end ReceivingLink
