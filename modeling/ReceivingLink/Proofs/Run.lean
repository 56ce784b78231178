import Mathlib.Data.List.Nodup
import Mathlib.Data.List.Perm.Basic
import ReceivingLink.Receiver

/-!
# Runs of an endpoint

What happens to an endpoint from outside comes as events: the peer begins deliveries and sends
transfers, the engine tells the receiver, the handler's loop runs, and routing settles what it
holds, from the handler or from elsewhere. A panic ends its own event only. A run is a list of
events, in any order.
-/

namespace ReceivingLink

/-- Something that happens to an endpoint. -/
inductive Event where
  -- The peer
  | begin (format : UInt32) (remote : Option RemoteState)
  | transfer (bytes : Bytes) (more : Bool)
  | abort
  | setDrain (drain : Bool)
  -- The receiver, on its handler or from elsewhere
  | message (d : DeliveryId)
  | flow (credits : UInt32) (drain elsewhere : Bool)
  | close (remoteInitiated : Bool)
  | closeWithError (condition : Condition)
  -- The handler's loop
  | runPending
  -- Routing
  | settle (use : Sink.Use)
  | submit
  | setMode (mode : Sink.Mode)

/-- Begins a delivery that has a state from its sender. -/
def Link.beginWith (l : Link) (format : UInt32) (remote : Option RemoteState) : Link :=
  let begun := l.begin format
  begun.change begun.latest fun x => { x with remote }

namespace Link

variable (l : Link)

/-- The deliveries are numbered from one in the order they were begun. -/
def Numbered (l : Link) : Prop :=
  l.deliveries.map (·.id) = (List.range l.deliveries.length).map fun n => ⟨n + 1⟩

variable {l}

theorem Numbered.of_ids {l' : Link} (h : l.Numbered)
    (hl : l'.deliveries.map (·.id) = l.deliveries.map (·.id)) : l'.Numbered := by
  have hlen : l'.deliveries.length = l.deliveries.length := by
    simpa using congrArg List.length hl
  unfold Numbered
  rw [hl, hlen]
  exact h

theorem Numbered.nodup (h : l.Numbered) : (l.deliveries.map (·.id)).Nodup := by
  rw [h]
  refine List.Nodup.map (fun a b hab => ?_) List.nodup_range
  simpa using hab

theorem Numbered.fresh (h : l.Numbered) : ⟨l.deliveries.length + 1⟩ ∉ l.deliveries.map (·.id) := by
  rw [h]
  simp

/-- A delivery is found by its id. -/
theorem Numbered.delivery_of_mem (h : l.Numbered) {x : Delivery} (hx : x ∈ l.deliveries) :
    l.delivery x.id = x := by
  have hn := h.nodup
  unfold delivery
  cases hy : l.deliveries.find? (·.id = x.id) with
  | none => simpa using List.find?_eq_none.1 hy x hx
  | some y =>
    have hid := List.find?_some hy
    simp only [decide_eq_true_eq] at hid
    exact List.inj_on_of_nodup_map hn (List.mem_of_find?_eq_some hy) hx hid

section Begin

variable (l) (format : UInt32) (remote : Option RemoteState)

@[simp] theorem beginWith_queue :
    (l.beginWith format remote).queue = l.queue ++ [⟨l.deliveries.length + 1⟩] := rfl

@[simp] theorem beginWith_buffer : (l.beginWith format remote).buffer = l.buffer := rfl

theorem beginWith_ids : (l.beginWith format remote).deliveries.map (·.id) =
    l.deliveries.map (·.id) ++ [⟨l.deliveries.length + 1⟩] := by
  rw [beginWith, map_change]
  · simp [begin]
  · exact fun _ => rfl

variable {l format remote} in
/-- A delivery that is begun is the current one only if it does not wait behind another. -/
theorem beginWith_current {d : DeliveryId} (hd : (l.beginWith format remote).current = some d) :
    l.current = some d ∨ l.queue = [] ∧ d = ⟨l.deliveries.length + 1⟩ := by
  rw [current, beginWith_queue] at hd
  rcases hq : l.queue with _ | ⟨first, rest⟩
  · rw [hq] at hd
    exact .inr ⟨rfl, (Option.some.inj hd).symm⟩
  · rw [hq] at hd
    refine .inl ?_
    rw [current, hq]
    exact hd

variable {l format remote} in
theorem beginWith_tail {d : DeliveryId} (hd : d ∈ (l.beginWith format remote).queue.tail) :
    d ∈ l.queue.tail ∨ d = ⟨l.deliveries.length + 1⟩ := by
  rw [beginWith_queue] at hd
  rcases hq : l.queue with _ | ⟨first, rest⟩
  · simp [hq] at hd
  · simpa [hq] using hd

variable {l} in
theorem Numbered.beginWith (h : l.Numbered) : (l.beginWith format remote).Numbered := by
  have hlen : (l.beginWith format remote).deliveries.length = l.deliveries.length + 1 := by
    simp [Link.beginWith, change, begin]
  unfold Numbered
  rw [beginWith_ids, h, hlen, List.range_succ, List.map_append]
  rfl

variable {l} in
/-- A delivery begun earlier stays as it is. -/
theorem Numbered.delivery_beginWith (h : l.Numbered) {d : DeliveryId}
    (hd : d ∈ l.deliveries.map (·.id)) :
    (l.beginWith format remote).delivery d = l.delivery d := by
  have hne : d ≠ (l.begin format).latest := by
    rintro rfl
    refine h.fresh ?_
    simpa [latest, begin] using hd
  refine (delivery_change_ne _ (fun _ => ?_) hne).trans ?_
  · rfl
  obtain ⟨x, hx, rfl⟩ := List.mem_map.1 hd
  unfold delivery
  simp only [begin, List.find?_append]
  cases hy : l.deliveries.find? (·.id = x.id) with
  | none => simpa using List.find?_eq_none.1 hy x hx
  | some y => rfl

variable {l} in
theorem Numbered.delivery_begun (h : l.Numbered) :
    (l.beginWith format remote).delivery ⟨l.deliveries.length + 1⟩ =
      { id := ⟨l.deliveries.length + 1⟩, format, remote } := by
  have hlatest : (l.begin format).latest = ⟨l.deliveries.length + 1⟩ := by simp [latest, begin]
  have hnone : l.deliveries.find? (·.id = ⟨l.deliveries.length + 1⟩) = none :=
    List.find?_eq_none.2 fun x hx hd => h.fresh (List.mem_map.2 ⟨x, hx, by simpa using hd⟩)
  have hbegin : (l.begin format).delivery ⟨l.deliveries.length + 1⟩ =
      { id := ⟨l.deliveries.length + 1⟩, format } := by
    unfold delivery
    simp [begin, List.find?_append, hnone]
  rw [Link.beginWith, hlatest]
  refine (delivery_change_self _ (fun _ => ?_) ?_).trans ?_
  · rfl
  · simp [begin]
  · rw [hbegin]

/-- A delivery that is begun was not settled. -/
theorem settles_beginWith (d : DeliveryId) :
    ((l.beginWith format remote).delivery d).settles = (l.delivery d).settles := by
  refine (delivery_change (g := Delivery.settles) _ (fun _ => ?_) (fun _ => ?_) d).trans ?_
  · rfl
  · rfl
  unfold delivery
  simp only [begin, List.find?_append]
  cases l.deliveries.find? (·.id = d) with
  | some y => rfl
  | none =>
    simp only [List.find?_singleton, Option.none_or]
    split <;> rfl

end Begin

end Link

/-- Does what an event does. Only the handling of a delivery has more to answer than that it is
done. -/
def Event.perform : Event → Act Panic Endpoint (Except ReceiverError Unit)
  | .begin format remote => do
    onLink (·.beginWith format remote)
    return .ok ()
  | .transfer bytes more => do
    onLink (·.transfer bytes more)
    return .ok ()
  | .abort => do
    onLink (·.abort)
    return .ok ()
  | .setDrain drain => do
    onLink fun l => { l with drain }
    return .ok ()
  | .message d => onHandler (Receiver.onMessage d)
  | .flow credits drain elsewhere => do
    if elsewhere then Receiver.onFlow credits drain
    else onHandler (Receiver.onFlow credits drain)
    return .ok ()
  | .close remoteInitiated => do
    onHandler (Receiver.close remoteInitiated)
    return .ok ()
  | .closeWithError condition => do
    onHandler (Receiver.closeWithError condition)
    return .ok ()
  | .runPending => do
    let _ ← ReceivingLink.runPending
    return .ok ()
  | .settle use => do
    use.perform
    return .ok ()
  | .submit => do
    ReceivingLink.submit (some .receiver)
    return .ok ()
  | .setMode mode => do
    modify fun e => { e with sink := { e.sink with mode } }
    return .ok ()

/-- The receiver neither handles a delivery nor is closed, and the peer does nothing. -/
def Event.isAside : Event → Bool
  | .flow .. | .runPending | .settle _ | .submit | .setMode _ => true
  | _ => false

/-- The handoff that a call passes to routing. -/
def Call.handoff? : Call → Option Handoff
  | .deliver handoff => some handoff
  | _ => none

/-- The bytes that a call took from the link. -/
def Call.taken? : Call → Option Bytes
  | .linkRecv bytes => some bytes
  | _ => none

namespace Endpoint

/-- An open receiver to which nothing has happened. What its collaborators will do is left open. -/
structure Fresh (e : Endpoint) : Prop where
  opened : e.lifecycle = .opened
  elsewhere : e.onHandler = none
  deliveries : e.link.deliveries = []
  queue : e.link.queue = []
  buffer : e.link.buffer = []
  slot : (e.reassembler.get .receiver).slot = none
  threshold : (e.reassembler.get .receiver).threshold = e.config.largeMessageThreshold
  uncounted : e.pending.get .receiver = 0
  held : e.sink.held = []
  tasks : e.mailbox.tasks = []
  calls : e.calls = []

theorem start_fresh (config : Config) (name : String) (credit : UInt32) (handler : HandlerId)
    (storage : Storage) (threshold : Option Nat) :
    (start config name credit handler storage threshold).Fresh :=
  ⟨rfl, rfl, rfl, rfl, rfl, rfl, rfl, rfl, rfl, rfl, rfl⟩

theorem Fresh.withPlan {e : Endpoint} (h : e.Fresh) (plan : Plan) : { e with plan }.Fresh :=
  ⟨h.opened, h.elsewhere, h.deliveries, h.queue, h.buffer, h.slot, h.threshold, h.uncounted, h.held,
    h.tasks, h.calls⟩

/-- The endpoint after an event. -/
def after (e : Endpoint) (event : Event) : Endpoint := (event.perform e).2

/-- The endpoint after a run. -/
def afterAll (e : Endpoint) (run : List Event) : Endpoint := run.foldl after e

/-- Every event of a run is one that `P` allows for at the endpoint it happens to. -/
def Throughout (P : Endpoint → Event → Prop) : Endpoint → List Event → Prop
  | _, [] => True
  | e, event :: run => P e event ∧ Throughout P (e.after event) run

instance decidableThroughout (P : Endpoint → Event → Prop) [∀ e event, Decidable (P e event)] :
    ∀ (e : Endpoint) (run : List Event), Decidable (e.Throughout P run)
  | _, [] => isTrue trivial
  | e, event :: run =>
    have := decidableThroughout P (e.after event) run
    inferInstanceAs (Decidable (_ ∧ _))

/-- What every event keeps that `P` allows for, a run of such events keeps. -/
theorem Throughout.afterAll {P : Endpoint → Event → Prop} {I : Endpoint → Prop}
    (step : ∀ {e event}, I e → P e event → I (e.after event)) :
    ∀ (run : List Event) {e : Endpoint}, e.Throughout P run → I e → I (e.afterAll run)
  | [], _, _, h => h
  | _ :: run, _, hrun, h => Throughout.afterAll step run hrun.2 (step h hrun.1)

theorem throughout_append {P : Endpoint → Event → Prop} {rest : List Event} :
    ∀ {before : List Event} {e : Endpoint}, e.Throughout P (before ++ rest) ↔
      e.Throughout P before ∧ (e.afterAll before).Throughout P rest
  | [], e => by
    rw [List.nil_append]
    exact (true_and _).symm.to_iff
  | event :: before, e =>
    (and_congr_right fun _ => throughout_append (e := e.after event)).trans and_assoc.symm

theorem afterAll_append (e : Endpoint) (before rest : List Event) :
    e.afterAll (before ++ rest) = (e.afterAll before).afterAll rest := List.foldl_append

/-- The delivery that routing accepted in an event, if it accepted one: it is then counted as
routed. -/
def acceptedBy (e : Endpoint) : Event → List DeliveryId
  | .message d => if (e.after (.message d)).counters.routed = e.counters.routed + 1 then [d] else []
  | _ => []

/-- The deliveries that routing accepted in a run, in order. -/
def accepted (e : Endpoint) : List Event → List DeliveryId
  | [] => []
  | event :: run => e.acceptedBy event ++ (e.after event).accepted run

/-- The handoffs passed to routing so far, in order. -/
def handoffs (e : Endpoint) : List Handoff := e.calls.filterMap Call.handoff?

/-- What was taken from the link so far, in order. -/
def taken (e : Endpoint) : List Bytes := e.calls.filterMap Call.taken?

end Endpoint

end ReceivingLink
