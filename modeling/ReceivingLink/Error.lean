import ReceivingLink.Condition
import ReceivingLink.Failure
import ReceivingLink.Identity

/-!
# The errors of the receiving side

`ReassemblyError` names the call that failed while transfers were turned into a message,
`RoutingError` says how routing refused a message, and `ReceiverError` is the one error that
leaves the handling of a delivery.
-/

namespace ReceivingLink

inductive ReassemblyError where
  | generateId (cause : Failure)
  | openSpool (id : LargeMessageId) (cause : Failure)
  | register (id : LargeMessageId) (cause : Failure)
  | append (id : LargeMessageId) (cause : Failure)
  | incomplete (id : LargeMessageId)
  | finish (id : LargeMessageId) (cause : Failure)
  | createMessage (cause : Failure)
  | transaction (cause : Failure)
  deriving DecidableEq

namespace ReassemblyError

/-- The failure of the collaborator, if one was reported. -/
def cause : ReassemblyError → Option Failure
  | .generateId f | .openSpool _ f | .register _ f | .append _ f | .finish _ f
  | .createMessage f | .transaction f => some f
  | .incomplete _ => none

def message : ReassemblyError → String
  | .generateId f => s!"failed to generate large message id: {f.text}"
  | .openSpool id f => s!"failed to open spool for large message {id.text}: {f.text}"
  | .register id f => s!"failed to register large message {id.text}: {f.text}"
  | .append id f => s!"failed to append to large message {id.text}: {f.text}"
  | .incomplete id => s!"large message {id.text} is missing data after a failed append"
  | .finish id f => s!"failed to finish large message {id.text}: {f.text}"
  | .createMessage f => s!"failed to create message: {f.text}"
  | .transaction f => s!"failed to look up transaction: {f.text}"

/-- The error as a reported failure, with the collaborator's behind it. -/
def failure (e : ReassemblyError) : Failure :=
  ⟨e.message, (e.cause.map Failure.chain).getD []⟩

end ReassemblyError

inductive RoutingError where
  /-- Redelivery may succeed. -/
  | transient (cause : Failure)
  | rejected (cause : Failure)
  deriving DecidableEq

namespace RoutingError

def cause : RoutingError → Failure
  | .transient f | .rejected f => f

def isTransient : RoutingError → Bool
  | .transient _ => true
  | .rejected _ => false

def message : RoutingError → String
  | .transient f => s!"transient routing failure: {f.text}"
  | .rejected f => s!"routing rejected message: {f.text}"

/-- The error as a reported failure, with its cause behind it. -/
def failure (e : RoutingError) : Failure := .because e.message e.cause

end RoutingError

/-- A failed handling of a delivery: the reason, and the failure it was taken from unless it was
taken from a panic. -/
structure ReceiverError where
  reason : String
  cause : Option Failure
  deriving DecidableEq

namespace ReceiverError

/-- The error that passes on a failure. -/
def internal (f : Failure) : ReceiverError := ⟨f.text, some f⟩

/-- The error that passes on a panic. -/
def ofPanic (p : Panic) : ReceiverError :=
  ⟨"panic while processing delivery: " ++ p.message, none⟩

def message (e : ReceiverError) : String := "internal protocol error: " ++ e.reason

/-- The texts of the failures behind the error, outermost first. -/
def sources (e : ReceiverError) : List String := (e.cause.map Failure.chain).getD []

/-- What the peer may be told. -/
def condition (e : ReceiverError) : Condition := .internal e.reason

end ReceiverError

end ReceivingLink
