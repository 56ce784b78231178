import ReceivingLink.Proofs.Agreement
import ReceivingLink.Proofs.Alike
import ReceivingLink.Proofs.Order
import ReceivingLink.Proofs.Spared

/-!
# A delivery that routing gives back

A delivery that routing refuses, or panics on, is settled by the receiver in its place. Routing
could have settled it with the same outcome and taken it, and nothing of the link or the receiver
would be different: `refusal_settles`.
-/

namespace ReceivingLink

namespace Sink

/-- What routing gives a handoff back with. -/
inductive Refusal where
  | refused (error : RoutingError)
  | panicked (payload : Panic)

namespace Refusal

/-- How routing ends that gives a handoff back. -/
def raised : Refusal → Except Panic (Except RoutingError Unit)
  | .refused error => .ok (.error error)
  | .panicked payload => .error payload

/-- The answer to an event whose delivery was given back. -/
def reply : Refusal → Except ReceiverError Unit
  | .refused _ => .ok ()
  | .panicked payload => .error (.ofPanic payload)

def isTransient : Refusal → Bool
  | .refused error => error.isTransient
  | .panicked _ => false

/-- What the sender is told of a refusal. -/
def reason : Refusal → String
  | .refused error => error.message
  | .panicked payload => (ReceiverError.ofPanic payload).reason

/-- The outcome of a delivery that was given back. -/
def outcome (r : Refusal) (useModified : Bool) : Outcome :=
  if useModified && r.isTransient then .modified true false
  else .rejected (some ⟨"amqp:internal-error", some r.reason⟩)

theorem outcome_panicked (payload : Panic) (useModified : Bool) :
    (panicked payload).outcome useModified =
      .rejected (some (ReceiverError.ofPanic payload).condition) := by
  rw [outcome, isTransient, Bool.and_false]
  rfl

end Refusal

/-- Routing that in the end settles the handoff itself and takes it, whatever it came to before. -/
def settling (outcome : Outcome) (handoff : Handoff) : Attempt RoutingError Unit := do
  discard (deliver handoff).run.contain
  ReceivingLink.settle handoff.delivery (some outcome)

end Sink

namespace Receiver

/-- Passes a message on to `deliver`. -/
def passOnTo (deliver : Handoff → Attempt RoutingError Unit) (handoff : Handoff) :
    Attempt ReceiverError Unit := do
  let e ← get
  match ← (deliver handoff).run.contain with
  | .ok (.ok ()) => count (·.depart .routed)
  | .ok (.error error) =>
    report (.routingFailed e.link.name handoff.delivery error)
    settleFailed handoff.delivery (failureOutcome e.config error)
  | .error payload =>
    let error := ReceiverError.ofPanic payload
    settleFailed handoff.delivery (.rejected (some error.condition))
    throw error

/-- Handles an event for the delivery at the head, with `deliver` to pass its message on to. -/
def processFor (deliver : Handoff → Attempt RoutingError Unit) (d : DeliveryId) :
    Attempt ReceiverError Unit :=
  offer d >>= fun
    | some handoff => passOnTo deliver handoff
    | none => pure ()

/-- Handles an event for a delivery, which `process` is for if it is at the head. -/
def onMessageBy (process : DeliveryId → Attempt ReceiverError Unit) (d : DeliveryId) :
    Act Panic Endpoint (Except ReceiverError Unit) := do
  requireOnHandler
  let e ← get
  if e.lifecycle ≠ .opened then
    report (.receiverNotOpen e.link.name d)
    return .ok ()
  if e.link.current ≠ some d then
    report (.staleDelivery e.link.name d)
    return .ok ()
  let result := match ← (process d).run.contain with
    | .ok result => result
    | .error payload => .error (.ofPanic payload)
  match result with
  | .ok () => pure ()
  | .error error =>
    count fun c => { c with errors := c.errors + 1 }
    report (.processingFailed e.link.name d error)
  return result

/-- The event for a delivery, with `deliver` for routing. -/
def messageTo (deliver : Handoff → Attempt RoutingError Unit) (d : DeliveryId) :
    Act Panic Endpoint (Except ReceiverError Unit) :=
  onHandler (onMessageBy (processFor deliver) d)

theorem messageTo_deliver (d : DeliveryId) :
    messageTo Sink.deliver d = (Event.message d).perform := by
  have hprocess : processFor Sink.deliver = process := funext fun d => (process_eq d).symm
  rw [messageTo, hprocess]
  rfl

end Receiver

/-- At most what was told and counted is different. -/
def Endpoint.Retold (e e' : Endpoint) : Prop :=
  ∃ notices counters, e' = { e with notices, counters }

theorem Endpoint.Retold.aside {e e' : Endpoint} {notices : List Notice} {counters : Counters}
    (h : e.Retold e') : e.Retold { e' with notices, counters } := by
  obtain ⟨_, _, rfl⟩ := h
  exact ⟨_, _, rfl⟩

theorem Endpoint.Retold.joined {e e₁ e₂ : Endpoint} (h : e.Retold e₁) (h' : e.Retold e₂) :
    e₁.Retold e₂ := by
  obtain ⟨_, _, rfl⟩ := h
  obtain ⟨_, _, rfl⟩ := h'
  exact ⟨_, _, rfl⟩

/-- What the receiver stands on while it handles a delivery. -/
structure SameFooting (e e' : Endpoint) : Prop where
  handler : e'.mailbox.handler = e.mailbox.handler
  onHandler : e'.onHandler = e.onHandler
  plan : e'.plan = e.plan
  config : e'.config = e.config
  lifecycle : e'.lifecycle = e.lifecycle
  begun : e'.begun = e.begun
  noted : e.calls.length ≤ e'.calls.length

section Footing

variable {e e₁ e₂ : Endpoint}

theorem SameFooting.refl (e : Endpoint) : SameFooting e e :=
  ⟨rfl, rfl, rfl, rfl, rfl, rfl, Nat.le_refl _⟩

theorem SameFooting.trans (h : SameFooting e e₁) (h' : SameFooting e₁ e₂) : SameFooting e e₂ :=
  ⟨h'.handler.trans h.handler, h'.onHandler.trans h.onHandler, h'.plan.trans h.plan,
    h'.config.trans h.config, h'.lifecycle.trans h.lifecycle, h'.begun.trans h.begun,
    Nat.le_trans h.noted h'.noted⟩

theorem SameFooting.isOnHandler (h : SameFooting e e₁) (hon : e.isOnHandler) : e₁.isOnHandler := by
  unfold Endpoint.isOnHandler
  rw [h.handler, h.onHandler]
  exact hon

theorem SameFooting.spared {points : List Point} (h : SameFooting e e₁) (hs : e.Spared points) :
    e₁.Spared points := hs.later h.plan h.noted

theorem sameFooting_noting (call : Call) : SameFooting e (e.noting call) :=
  ⟨rfl, rfl, rfl, rfl, rfl, rfl, by simp [Endpoint.noting]⟩

theorem sameFooting_assembly : AssemblyFrame SameFooting fun _ _ => True where
  refl := .refl
  trans := .trans
  blame := fun _ _ => trivial
  noted := fun _ => sameFooting_noting _
  told := fun _ => ⟨rfl, rfl, rfl, rfl, rfl, rfl, Nat.le_refl _⟩
  planned := fun _ => trivial
  stored := fun _ _ => ⟨rfl, rfl, rfl, rfl, rfl, rfl, Nat.le_refl _⟩
  filed := fun _ => ⟨rfl, rfl, rfl, rfl, rfl, rfl, by simp⟩
  deleting := sameFooting_noting _
  taking := sameFooting_noting _
  drained := ⟨rfl, rfl, rfl, rfl, rfl, Link.map_changeCurrent _ fun _ => rfl, Nat.le_refl _⟩
  own := fun _ => trivial
  slotted := ⟨rfl, rfl, rfl, rfl, rfl, rfl, Nat.le_refl _⟩
  counted := ⟨rfl, rfl, rfl, rfl, rfl, rfl, Nat.le_refl _⟩
  advanced := ⟨rfl, rfl, rfl, rfl, rfl, by simp [Endpoint.begun], Nat.le_refl _⟩

theorem sameFooting_routing : RouteFrame SameFooting where
  toTellFrame := sameFooting_assembly.toTellFrame
  granting := fun _ => sameFooting_noting _
  flowed := ⟨rfl, rfl, rfl, rfl, rfl, rfl, Nat.le_refl _⟩
  asked := by
    refine ⟨?_, rfl, rfl, rfl, rfl, rfl, Nat.le_refl _⟩
    unfold Mailbox.post
    split <;> rfl
  flushed := ⟨rfl, rfl, rfl, rfl, rfl, rfl, Nat.le_refl _⟩
  counted := fun _ _ => ⟨rfl, rfl, rfl, rfl, rfl, rfl, Nat.le_refl _⟩
  settling := fun _ => sameFooting_noting _
  disposed := ⟨rfl, rfl, rfl, rfl, rfl, Link.map_change _ (fun _ => by rfl) _, Nat.le_refl _⟩
  settled := ⟨rfl, rfl, rfl, rfl, rfl, Link.map_change _ (fun _ => by rfl) _, Nat.le_refl _⟩
  posted := by
    refine ⟨?_, rfl, rfl, rfl, rfl, rfl, Nat.le_refl _⟩
    unfold Mailbox.post
    split <;> rfl
  taken := by
    intro e task mailbox h
    refine ⟨?_, rfl, rfl, rfl, rfl, rfl, Nat.le_refl _⟩
    unfold Mailbox.take? at h
    split at h <;> cases h
    rfl
  tallied := ⟨rfl, rfl, rfl, rfl, rfl, rfl, Nat.le_refl _⟩
  routed := ⟨rfl, rfl, rfl, rfl, rfl, rfl, Nat.le_refl _⟩
  returned := fun h => ⟨h.handler, rfl, h.plan, h.config, h.lifecycle, h.begun, h.noted⟩

/-- The message of a delivery is offered from where the receiver stands. -/
theorem offer_footing (d : DeliveryId) :
    (Receiver.offer d).Within SameFooting fun _ _ => True := by
  have F := sameFooting_routing
  refine .bind F.toFraming (.adapt (sameFooting_assembly.accept_within _ d)) fun r => ?_
  rcases r with _ | _ | message
  · exact .bind F.toFraming (.lift (F.onAborted_within d)) fun _ => .answer F.toFraming _
  · exact .answer F.toFraming _
  have hresolve := sameFooting_assembly.resolveTransaction_within
    ⟨rfl, rfl, rfl, rfl, rfl, rfl, Nat.le_refl _⟩ d
  refine .bind F.toFraming (.adapt hresolve) fun transaction => ?_
  refine .bind F.toFraming (.lift (F.increment_within _)) fun _ => ?_
  exact .bind F.toFraming (.look F.toFraming) fun _ => .answer F.toFraming _

theorem deliver_footing (handoff : Handoff) :
    (Sink.deliver handoff).Within SameFooting fun _ _ => True := fun e =>
  have hnoted := sameFooting_noting (e := e) (.deliver handoff)
  (sameFooting_routing.deliver_ends e handoff).imp (fun _ _ => hnoted.trans)
    (fun _ _ => hnoted.trans) fun _ _ h => ⟨hnoted.trans h, trivial⟩

end Footing

section Settling

variable {e e' : Endpoint} {d : DeliveryId}

/-- An event for the delivery at the head ends as its handling does. What goes wrong is counted and
told of. -/
theorem onMessageBy_ends {process : DeliveryId → Attempt ReceiverError Unit}
    {P : Except ReceiverError Unit → Endpoint → Prop} {K : Panic → Endpoint → Prop}
    (hon : e.isOnHandler) (ho : e.lifecycle = .opened) (hd : e.link.current = some d) :
    let failed (error : ReceiverError) (e' : Endpoint) : Endpoint := { e' with
      counters := { e'.counters with errors := e'.counters.errors + 1 }
      notices := e'.notices ++ [.processingFailed e.link.name d error] }
    (process d).Ends e (fun _ => P (.ok ()))
      (fun error e' => P (.error error) (failed error e'))
      (fun k e' => P (.error (.ofPanic k)) (failed (.ofPanic k) e')) →
    (Receiver.onMessageBy process d).Ends e P K := by
  intro failed h
  refine Act.ends_bind.2 ((requireOnHandler_ends hon).imp ?_ fun _ _ => False.elim)
  rintro _ _ rfl
  refine Act.ends_bind.2 (Act.ends_get.2 (Act.ends_ite.2 ⟨fun hn => absurd ho hn, fun _ =>
    Act.ends_ite.2 ⟨fun hn => absurd hd hn, fun _ => ?_⟩⟩))
  refine Act.ends_bind.2 (Act.ends_contain.2 (Act.ends_run.2 (h.imp (fun _ _ h₁ => h₁)
    (fun _ _ h₁ => h₁) fun _ _ h₁ => h₁)))

/-- A delivery is settled in the same way whatever was told before. -/
theorem settle_apart (hs : e.Spared settlementPoints) (hon : e.isOnHandler)
    (hpos : 0 < e.pending.receiver) (outcome : Outcome) :
    ∃ e₃, e.Brought (e.balance.settled e.config.policy (d, some outcome)) e₃ ∧
      ∀ notices, (Task.settle d (some outcome)).perform.Ends { e with notices }
        (fun _ => e₃.Retold) fun _ _ => False := by
  obtain ⟨_, e₃, heq, hbrought⟩ := (hs.settle_ends (d := d) hon hpos (some outcome)).answers
  refine ⟨e₃, hbrought, fun notices => ?_⟩
  let told : Endpoint := { e with notices }
  have htold := Endpoint.Spared.settle_ends (e := told) (d := d) hs hon hpos (some outcome)
  obtain ⟨_, e₃', heq', hbrought'⟩ := htold.answers
  have hsame := (perform_alike (.settle d (some outcome)) e told ⟨_, _, _, rfl⟩).2
  rw [heq, heq'] at hsame
  refine (Act.ends_of_eq heq').2 ?_
  obtain ⟨_, notices', counters', rfl⟩ := hsame
  refine ⟨notices', counters', ?_⟩
  -- both are as open as they were
  obtain ⟨_, _, _, rfl⟩ := hbrought
  obtain ⟨_, _, _, hlifecycle⟩ := hbrought'
  have hopen := congrArg Endpoint.lifecycle hlifecycle
  simp only at hopen
  rw [hopen]
  rfl

/-- A delivery that routing gave back is settled as any other. -/
theorem settleFailed_performs {P : Endpoint → Prop} {outcome : Outcome}
    (haside : ∀ {e' : Endpoint} {counters}, P e' → P { e' with counters })
    (h : (Task.settle d (some outcome)).perform.Ends e (fun _ => P) fun _ _ => False) :
    (Receiver.settleFailed d outcome).Ends e (fun _ => P) fun _ _ => False := by
  refine Act.ends_bind.2 ((Act.ends_bind.1 h).imp (fun _ e₁ h₁ => ?_) fun _ _ => id)
  exact Act.ends_bind.2 (h₁.imp (fun _ _ => haside) fun _ _ => id)

variable {e₁ e₂ e₃ : Endpoint} {handoff : Handoff} {r : Sink.Refusal} {outcome : Outcome}

/-- A handoff that routing gives back is settled here. -/
theorem passOnTo_deliver (hraised : (Sink.deliver handoff).run e₁ = (r.raised, e₂))
    (hsettle : ∀ notices, (Task.settle handoff.delivery
      (some (r.outcome e₁.config.useModified))).perform.Ends { e₂ with notices }
        (fun _ => e₃.Retold) fun _ _ => False) :
    (Receiver.passOnTo Sink.deliver handoff).Ends e₁
      (fun _ e' => r.reply = .ok () ∧ e₃.Retold e')
      (fun error e' => r.reply = .error error ∧ e₃.Retold e') fun _ _ => False := by
  refine Attempt.ends_bind.2 (Attempt.ends_get.2 (Attempt.ends_bind.2 (Attempt.ends_lift.2
    (Act.ends_contain.2 ?_))))
  rcases r with error | k
  · refine (Act.ends_of_eq hraised).2 (Attempt.ends_bind.2 (Attempt.ends_lift.2
      (Act.ends_modify.2 ?_)))
    exact Attempt.ends_lift.2 ((settleFailed_performs .aside (hsettle _)).imp
      (fun _ _ h => ⟨rfl, h⟩) fun _ _ => id)
  · have hsettle := hsettle e₂.notices
    rw [Sink.Refusal.outcome_panicked] at hsettle
    refine (Act.ends_of_error hraised).2 (Attempt.ends_bind.2 (Attempt.ends_lift.2 ?_))
    exact (settleFailed_performs .aside hsettle).imp (fun _ _ h => ⟨rfl, h⟩) fun _ _ => id

/-- A handoff that routing settles instead is taken. -/
theorem passOnTo_settling (hdeliver : ((Sink.deliver handoff).run e₁).2 = e₂)
    (hon : e₂.isOnHandler)
    (hsettle : (Task.settle handoff.delivery (some outcome)).perform.Ends e₂
      (fun _ => e₃.Retold) fun _ _ => False) :
    (Receiver.passOnTo (Sink.settling outcome) handoff).Ends e₁
      (fun _ e' => (.ok () : Except ReceiverError Unit) = .ok () ∧ e₃.Retold e')
      (fun error e' => (.ok () : Except ReceiverError Unit) = .error error ∧ e₃.Retold e')
      fun _ _ => False := by
  have hnow : (ReceivingLink.settle handoff.delivery (some outcome)).Ends e₂
      (fun _ => e₃.Retold) fun _ _ => False :=
    Act.ends_bind.2 (Act.ends_get.2 (Act.ends_ite.2 ⟨fun _ => hsettle,
      fun hoff => absurd hon hoff⟩))
  refine Attempt.ends_bind.2 (Attempt.ends_get.2 (Attempt.ends_bind.2 (Attempt.ends_lift.2
    (Act.ends_contain.2 (Act.ends_run.2 (Attempt.ends_bind.2 ?_))))))
  subst hdeliver
  exact Attempt.ends_lift.2 (hnow.imp (fun _ _ h => ⟨rfl, h.aside⟩) fun _ _ => False.elim)

/-- An event that completes a delivery ends as the passing on of its message does. -/
theorem messageTo_ends {deliver : Handoff → Attempt RoutingError Unit}
    {reply : Except ReceiverError Unit} (ho : e.lifecycle = .opened)
    (hd : e.link.current = some d)
    (hoffer : (Receiver.offer d).run e.entered = (.ok (.ok (some handoff)), e₁))
    (hpass : (Receiver.passOnTo deliver handoff).Ends e₁
      (fun _ e' => reply = .ok () ∧ e₃.Retold e')
      (fun error e' => reply = .error error ∧ e₃.Retold e') fun _ _ => False) :
    (Receiver.messageTo deliver d).Ends e (fun result e' =>
      result = reply ∧ ({ e₃ with onHandler := e.onHandler } : Endpoint).Retold e')
      fun _ _ => False := by
  have hleave {e' : Endpoint} (h : e₃.Retold e') :
      ({ e₃ with onHandler := e.onHandler } : Endpoint).Retold
        { e' with onHandler := e.onHandler } := by
    obtain ⟨_, _, rfl⟩ := h
    exact ⟨_, _, rfl⟩
  refine ends_onHandler.2 (onMessageBy_ends (isOnHandler_enter e) ho hd (Attempt.ends_bind.2
    ((Act.ends_of_eq hoffer).2 (hpass.imp ?_ ?_ fun _ _ => False.elim))))
  · exact fun _ _ h => ⟨h.1.symm, hleave h.2⟩
  · exact fun _ _ h => ⟨h.1.symm, hleave (.aside h.2)⟩

end Settling

section Refusing

variable {e₀ : Endpoint} {d : DeliveryId} {r : Sink.Refusal}

/-- Routing gives a delivery back, with an error of whatever text or with a panic, and has settled
nothing, or nothing that makes the delivery be counted no longer. Then the receiver comes to what it
would have come to, had routing settled the delivery and taken it: at most what is told and counted
is different, and only a panic makes the event fail. The outcome is recorded, the delivery is
settled and no longer counted. -/
theorem refusal_settles (h : e₀.Fresh) (run : List Event) (handoff : Handoff) :
    let e := e₀.afterAll run
    let e₁ := ((Receiver.offer d).run e.entered).2
    let e₂ := ((Sink.deliver handoff).run e₁).2
    e.Spared settlementPoints → e.lifecycle = .opened → e.link.current = some d →
    ((Receiver.offer d).run e.entered).1 = .ok (.ok (some handoff)) →
    ((Sink.deliver handoff).run e₁).1 = r.raised →
    (0 ≤ e.pending.receiver ∧ e₂.pending.receiver = e₁.pending.receiver ∨
      0 < e₂.pending.receiver) →
    let outcome := r.outcome e.config.useModified
    let e' := e.after (.message d)
    (Event.message d).perform e = (.ok r.reply, e') ∧
      (∃ e'', Receiver.messageTo (Sink.settling outcome) d e = (.ok (.ok ()), e'') ∧
        e'.Retold e'') ∧
      (e'.link.delivery d).outcome = some outcome ∧ e'.settles d = e₂.settles d + 1 ∧
      e'.pending.receiver = e₂.pending.receiver - 1 ∧
      (e₂.pending.receiver = e₁.pending.receiver → e'.pending.receiver = e.pending.receiver) := by
  intro e e₁ e₂ hspared ho hd hoffered hrefused hused outcome e'
  have hoffer : (Receiver.offer d).run e.entered = (.ok (.ok (some handoff)), e₁) :=
    Prod.ext hoffered rfl
  have hraised : (Sink.deliver handoff).run e₁ = (r.raised, e₂) := Prod.ext hrefused rfl
  have hfooting₁ : SameFooting e.entered e₁ := (Act.ends_of_eq hoffer).1 (offer_footing d e.entered)
  have hfooting₂ : SameFooting e₁ e₂ :=
    Act.Ends.state (Q := SameFooting e₁) (Act.ends_run.2 ((deliver_footing handoff e₁).imp
      (fun _ _ => id) (fun _ _ => id) fun _ _ => And.left))
  have hfooting : SameFooting e.entered e₂ := hfooting₁.trans hfooting₂
  have hon : e₂.isOnHandler := hfooting.isOnHandler (isOnHandler_enter e)
  obtain ⟨rfl, hpending₁⟩ : handoff.delivery = d ∧
      e₁.pending.receiver = e.pending.receiver + 1 := by
    have hsteps := Receiver.offer_steps (e := e.entered) (d := d) (P := fun offered e₁ =>
      ∀ handoff ∈ offered, handoff.delivery = d ∧ e₁.pending.receiver = e.pending.receiver + 1)
      (K := fun _ => True) (fun _ _ => trivial) (fun _ _ => nofun)
      (fun _ _ _ => Act.ends_always (fun _ _ => nofun) fun _ _ => trivial)
      fun e₁ handoff hs _ hh handoff' hoffered => by
        obtain rfl : handoff = handoff' := Option.some.inj hoffered
        exact ⟨hh, congrArg (· + 1) hs.pending⟩
    exact (Act.ends_of_eq hoffer).1 hsteps handoff rfl
  have hcounted : 0 < e₂.pending.receiver := by omega
  have hbegun : handoff.delivery ∈ e₂.begun := by
    rw [hfooting.begun]
    exact (h.inLine.afterAll run).ordered.subset
      (List.mem_append_right _ (List.mem_of_mem_head? hd))
  obtain ⟨e₃, hbrought, hsettle⟩ := settle_apart (d := handoff.delivery)
    (hfooting.spared (by exact hspared)) hon hcounted outcome
  obtain ⟨_, _, heq, rfl, hretold⟩ := (messageTo_ends ho hd hoffer
    (passOnTo_deliver hraised (by rw [hfooting₁.config]; exact hsettle))).answers
  obtain ⟨_, e'', heq'', rfl, hretold''⟩ := (messageTo_ends ho hd hoffer
    (passOnTo_settling (congrArg Prod.snd hraised) hon (hsettle e₂.notices))).answers
  rw [Receiver.messageTo_deliver] at heq
  obtain rfl : e' = _ := congrArg Prod.snd heq
  refine ⟨heq, ⟨e'', heq'', hretold.joined hretold''⟩, ?_⟩
  obtain ⟨_, _, he'⟩ := hretold
  obtain ⟨_, _, _, rfl⟩ := hbrought
  have hdelivery : e'.link.delivery handoff.delivery =
      Settling.mark (some outcome) (e₂.link.delivery handoff.delivery) := by
    rw [he']
    exact (Balance.delivery_settled _ _).trans (Link.delivery_change_self _ (fun _ => rfl) hbegun)
  have hpending : e'.pending.receiver = e₂.pending.receiver - 1 := by
    rw [he']
    exact Balance.settled_receiver _
  refine ⟨by rw [hdelivery]; rfl, by rw [Endpoint.settles, hdelivery]; rfl, hpending,
    fun hunused => ?_⟩
  rw [hpending, hunused, hpending₁]
  omega

/-- Routing settles the handoff that it holds and refuses the next one, which may be redelivered.
Credit is low and is topped up twice. -/
theorem refusal_settles_two :
    let config : Config := { useModified := true, policy := ⟨10, 9⟩ }
    let fresh := Endpoint.start config "orders" 5 ⟨1⟩ .memory none
    let refusal : Sink.Refusal := .refused (.transient { text := "busy" })
    let handoff : Handoff := ⟨.standard ⟨0, [2]⟩, ⟨2⟩, "orders", none, true⟩
    let run : List Event := [.begin 0 none, .transfer [1] false, .message ⟨1⟩,
      .setMode (.script [⟨0, some .accepted, false⟩] (.refuses (.transient { text := "busy" }))),
      .begin 0 none, .transfer [2] false]
    let e := fresh.afterAll run
    let e₁ := ((Receiver.offer ⟨2⟩).run e.entered).2
    let e₂ := ((Sink.deliver handoff).run e₁).2
    let e' := e.after (.message ⟨2⟩)
    fresh.Fresh ∧ e.Spared settlementPoints ∧ (e.lifecycle = .opened ∧ e.link.current = some ⟨2⟩) ∧
      ((Receiver.offer ⟨2⟩).run e.entered).1 = .ok (.ok (some handoff)) ∧
      ((Sink.deliver handoff).run e₁).1 = refusal.raised ∧
      (e.pending.receiver = 1 ∧ e₁.pending.receiver = 2 ∧ e₂.pending.receiver = 1) ∧
      ((Event.message ⟨2⟩).perform e).1 = .ok (.ok ()) ∧
      (∃ e'', Receiver.messageTo (Sink.settling (.modified true false)) ⟨2⟩ e =
        (.ok (.ok ()), e'') ∧ e'.Retold e'') ∧
      (e'.link.delivery ⟨2⟩).outcome = some (.modified true false) ∧ e'.settles ⟨2⟩ = 1 ∧
      e'.pending.receiver = 0 ∧ e'.link.grants = [6, 1] := by
  intro config fresh refusal handoff run e
  dsimp only
  have hfresh : fresh.Fresh := Endpoint.start_fresh ..
  have hspared : e.Spared settlementPoints := .of_spares fun n point _ k => by
    rw [(afterAll_samePlan _ fresh).plan]
    exact nofun
  have hhead : e.lifecycle = .opened ∧ e.link.current = some ⟨2⟩ := by decide +kernel
  have hmodified : refusal.outcome e.config.useModified = .modified true false := by decide +kernel
  have hall := refusal_settles (r := refusal) (d := ⟨2⟩) hfresh run handoff hspared
    hhead.1 hhead.2 (by decide +kernel) (by decide +kernel) (.inr (by decide +kernel))
  rw [hmodified] at hall
  obtain ⟨hperform, hinline, houtcome, hsettles, hpending, -⟩ := hall
  refine ⟨hfresh, hspared, hhead, by decide +kernel, by decide +kernel, by decide +kernel,
    congrArg Prod.fst hperform, hinline, houtcome, hsettles.trans (by decide +kernel), ?_,
    by decide +kernel⟩
  rw [hpending]
  decide +kernel

end Refusing

end ReceivingLink
