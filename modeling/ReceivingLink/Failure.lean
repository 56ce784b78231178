/-!
# What a collaborator can do instead of answering

A call to storage, routing and the like may report a failure, with the failures behind it, or
it may panic: give up in the middle, with a payload that is a text or something else.
-/

namespace ReceivingLink

/-- A reported failure: its text and the texts of the failures behind it, nearest first. -/
structure Failure where
  text : String
  causes : List String := []
  deriving DecidableEq, Inhabited

/-- The text of a failure and of everything behind it, outermost first. -/
def Failure.chain (f : Failure) : List String := f.text :: f.causes

/-- The failure that adds an explanation in front of `cause`. -/
def Failure.because (text : String) (cause : Failure) : Failure := ⟨text, cause.chain⟩

inductive Panic where
  | text (message : String)
  | other
  deriving DecidableEq, Inhabited

/-- The text of a panic; a payload that is no text has a fixed one. -/
def Panic.message : Panic → String
  | .text message => message
  | .other => "Any \x7b .. \x7d"

end ReceivingLink
