/-!
# Actions that may break off

An action changes a state and either answers or breaks off. What it did before it broke off stays
done.
-/

namespace ReceivingLink

/-- An action on a state of type `σ` that may break off with a value of type `ε`. -/
abbrev Act (ε σ : Type) := ExceptT ε (StateM σ)

namespace Act

variable {ε σ α : Type}

/-- Catches what an action broke off with and makes it an answer. -/
def contain (act : Act ε σ α) : Act ε σ (Except ε α) := fun s =>
  let (result, s') := act s
  (.ok result, s')

/-- Runs an action in the state that `enter` makes, and puts the state back together with
`leave`, however the action ends. `leave` is given the states before and after. -/
def bracket (enter : σ → σ) (leave : σ → σ → σ) (act : Act ε σ α) : Act ε σ α := fun s =>
  let (result, s') := act (enter s)
  (result, leave s s')

/-- Runs an action `n` times, unless it breaks off. -/
def times : Nat → Act ε σ Unit → Act ε σ Unit
  | 0, _ => pure ()
  | n + 1, act => do
    act
    times n act

end Act

end ReceivingLink
