import ReceivingLink.Credit
import ReceivingLink.Delivery

/-!
# The receiving end of a link

The deliveries of a link in the order they were begun. The one at the head is current: transfers
and aborts are its own, and so are the bytes in the buffer. The link is moved past it by
`advance`.
-/

namespace ReceivingLink

structure Link where
  name : String
  /-- What the sender may still begin. -/
  credit : UInt32
  /-- The sender asked for its credit to be used up. -/
  drain : Bool := false
  /-- Every delivery begun, oldest first. -/
  deliveries : List Delivery := []
  /-- The deliveries not yet advanced past, the current one first. -/
  queue : List DeliveryId := []
  /-- Bytes received and not yet taken. -/
  buffer : Bytes := []
  /-- The credit granted so far, in order. -/
  grants : List UInt32 := []
  advanced : Nat := 0
  /-- The condition sent when the link is detached. -/
  condition : Option Condition := none

namespace Link

/-- The delivery at the head. -/
def current (l : Link) : Option DeliveryId := l.queue.head?

/-- The delivery of an id; an id that was never given names an empty one. -/
def delivery (l : Link) (d : DeliveryId) : Delivery :=
  (l.deliveries.find? (·.id = d)).getD { id := d }

def change (l : Link) (d : DeliveryId) (f : Delivery → Delivery) : Link :=
  { l with deliveries := l.deliveries.map fun x => if x.id = d then f x else x }

/-- Changes the current delivery, if there is one. -/
def changeCurrent (l : Link) (f : Delivery → Delivery) : Link :=
  match l.current with
  | some d => l.change d f
  | none => l

/-- The id of the delivery begun last, or of none if there was none yet. -/
def latest (l : Link) : DeliveryId := ⟨l.deliveries.length⟩

/-- Begins a delivery, which takes one credit and waits behind the others. -/
def begin (l : Link) (format : UInt32) : Link :=
  let d : DeliveryId := ⟨l.deliveries.length + 1⟩
  { l with
    deliveries := l.deliveries ++ [{ id := d, format }]
    queue := l.queue ++ [d]
    credit := Credit.spend l.credit }

/-- Receives a transfer for the current delivery; with `more`, others are to come. -/
def transfer (l : Link) (bytes : Bytes) (more : Bool) : Link :=
  let buffer := l.buffer ++ bytes
  { l with buffer }.changeCurrent fun d =>
    { d with available := buffer.length, isPartial := more }

/-- The sender gives up the current delivery. -/
def abort (l : Link) : Link :=
  { l with buffer := [] }.changeCurrent fun d =>
    { d with isAborted := true, isPartial := false, available := 0 }

def flow (l : Link) (credits : UInt32) : Link :=
  { l with credit := Credit.add l.credit credits, grants := l.grants ++ [credits] }

/-- Moves past the current delivery and drops the bytes that were not taken. -/
def advance (l : Link) : Link :=
  match l.queue with
  | [] => { l with buffer := [] }
  | _ :: rest => { l with buffer := [], queue := rest, advanced := l.advanced + 1 }

/-- What is left when all bytes have been taken. -/
def drained (l : Link) : Link :=
  { l with buffer := [] }.changeCurrent fun d => { d with available := 0 }

def dispose (l : Link) (d : DeliveryId) (outcome : Outcome) : Link :=
  l.change d fun x => { x with outcome := some outcome }

def settle (l : Link) (d : DeliveryId) : Link :=
  l.change d fun x => { x with settles := x.settles + 1 }

section Lemmas

variable (l : Link)

@[simp] theorem change_queue (d : DeliveryId) (f : Delivery → Delivery) :
    (l.change d f).queue = l.queue := rfl

@[simp] theorem change_buffer (d : DeliveryId) (f : Delivery → Delivery) :
    (l.change d f).buffer = l.buffer := rfl

@[simp] theorem changeCurrent_queue (f : Delivery → Delivery) :
    (l.changeCurrent f).queue = l.queue := by
  unfold changeCurrent
  split <;> rfl

@[simp] theorem changeCurrent_buffer (f : Delivery → Delivery) :
    (l.changeCurrent f).buffer = l.buffer := by
  unfold changeCurrent
  split <;> rfl

@[simp] theorem changeCurrent_grants (f : Delivery → Delivery) :
    (l.changeCurrent f).grants = l.grants := by
  unfold changeCurrent
  split <;> rfl

@[simp] theorem changeCurrent_drain (f : Delivery → Delivery) :
    (l.changeCurrent f).drain = l.drain := by
  unfold changeCurrent
  split <;> rfl

@[simp] theorem advance_queue : l.advance.queue = l.queue.tail := by
  unfold advance
  split <;> simp [*]

@[simp] theorem advance_buffer : l.advance.buffer = [] := by
  unfold advance
  split <;> rfl

@[simp] theorem advance_grants : l.advance.grants = l.grants := by
  unfold advance
  split <;> rfl

@[simp] theorem advance_drain : l.advance.drain = l.drain := by
  unfold advance
  split <;> rfl

@[simp] theorem advance_deliveries : l.advance.deliveries = l.deliveries := by
  unfold advance
  split <;> rfl

@[simp] theorem advance_delivery (d : DeliveryId) : l.advance.delivery d = l.delivery d := by
  unfold delivery
  rw [advance_deliveries]

/-- What a change of one delivery leaves alone, it leaves alone in all of them. -/
theorem map_change {β : Type} {g : Delivery → β} {f : Delivery → Delivery}
    (h : ∀ x, g (f x) = g x) (d : DeliveryId) :
    (l.change d f).deliveries.map g = l.deliveries.map g := by
  simp only [change, List.map_map]
  refine List.map_congr_left fun x _ => ?_
  simp only [Function.comp_apply]
  split
  · exact h x
  · rfl

theorem map_changeCurrent {β : Type} {g : Delivery → β} {f : Delivery → Delivery}
    (h : ∀ x, g (f x) = g x) : (l.changeCurrent f).deliveries.map g = l.deliveries.map g := by
  unfold changeCurrent
  split
  · exact l.map_change h _
  · rfl

theorem delivery_of_notMem {d : DeliveryId} (h : d ∉ l.deliveries.map (·.id)) :
    l.delivery d = { id := d } := by
  unfold delivery
  rw [List.find?_eq_none.2 fun x hx hd => h (List.mem_map.2 ⟨x, hx, by simpa using hd⟩)]
  rfl

section Change

variable {f : Delivery → Delivery} {d : DeliveryId}

theorem find?_change (hf : ∀ x, (f x).id = x.id) (d' : DeliveryId) :
    (l.change d f).deliveries.find? (·.id = d') =
      (l.deliveries.find? (·.id = d')).map fun x => if x.id = d then f x else x := by
  simp only [change, List.find?_map]
  congr 1
  refine congrArg (List.find? · l.deliveries) (funext fun x => ?_)
  simp only [Function.comp_apply]
  split
  · rw [hf]
  · rfl

theorem delivery_change_ne (hf : ∀ x, (f x).id = x.id) {d' : DeliveryId} (h : d' ≠ d) :
    (l.change d f).delivery d' = l.delivery d' := by
  unfold delivery
  rw [l.find?_change hf]
  cases hx : l.deliveries.find? (·.id = d') with
  | none => rfl
  | some x =>
    have hid := List.find?_some hx
    simp only [decide_eq_true_eq] at hid
    simp only [Option.map_some, Option.getD_some]
    rw [if_neg (by rw [hid]; exact h)]

theorem delivery_change_self (hf : ∀ x, (f x).id = x.id)
    (h : d ∈ l.deliveries.map (·.id)) : (l.change d f).delivery d = f (l.delivery d) := by
  unfold delivery
  rw [l.find?_change hf]
  cases hx : l.deliveries.find? (·.id = d) with
  | none =>
    obtain ⟨y, hy, rfl⟩ := List.mem_map.1 h
    simpa using List.find?_eq_none.1 hx y hy
  | some x =>
    have hid := List.find?_some hx
    simp only [decide_eq_true_eq] at hid
    simp only [Option.map_some, Option.getD_some]
    rw [if_pos hid]

/-- What a change of a delivery leaves alone is the same of every delivery. -/
theorem delivery_change {β : Type} {g : Delivery → β} (hf : ∀ x, (f x).id = x.id)
    (hg : ∀ x, g (f x) = g x) (d' : DeliveryId) :
    g ((l.change d f).delivery d') = g (l.delivery d') := by
  unfold delivery
  rw [l.find?_change hf]
  cases l.deliveries.find? (·.id = d') with
  | none => rfl
  | some x =>
    simp only [Option.map_some, Option.getD_some]
    split
    · exact hg x
    · rfl

theorem delivery_changeCurrent {β : Type} {g : Delivery → β} (hf : ∀ x, (f x).id = x.id)
    (hg : ∀ x, g (f x) = g x) (d' : DeliveryId) :
    g ((l.changeCurrent f).delivery d') = g (l.delivery d') := by
  unfold changeCurrent
  split
  · exact l.delivery_change hf hg d'
  · rfl

theorem delivery_changeCurrent_self (hf : ∀ x, (f x).id = x.id) (hd : l.current = some d)
    (h : d ∈ l.deliveries.map (·.id)) : (l.changeCurrent f).delivery d = f (l.delivery d) := by
  unfold changeCurrent
  rw [hd]
  exact l.delivery_change_self hf h

theorem delivery_changeCurrent_ne (hf : ∀ x, (f x).id = x.id) (hd : l.current ≠ some d) :
    (l.changeCurrent f).delivery d = l.delivery d := by
  unfold changeCurrent
  split
  · rename_i d' hd'
    refine l.delivery_change_ne hf ?_
    rintro rfl
    exact hd hd'
  · rfl

end Change

end Lemmas

end Link

end ReceivingLink
