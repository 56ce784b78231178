/-!
# Error conditions

What a peer is told when a delivery is rejected or a link is detached with an error: a symbol
and, if there is one, a description.
-/

namespace ReceivingLink

structure Condition where
  symbol : String
  description : Option String
  deriving DecidableEq, Inhabited

namespace Condition

/-- The symbol for a failure the peer did not cause. -/
def internalSymbol : String := "amqp:internal-error"

/-- The condition for a failure the peer did not cause. -/
def internal (description : String) : Condition := ⟨internalSymbol, some description⟩

/-- The symbol, and the description behind a colon. -/
def text (c : Condition) : String :=
  match c.description with
  | some description => c.symbol ++ ": " ++ description
  | none => c.symbol

end Condition

end ReceivingLink
