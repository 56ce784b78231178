import ReceivingLink.Proofs.Setting

/-!
# What is contained in an event

Whatever collaborators do while an event for a delivery is handled, in one call or in several, the
handling returns: `onMessage_returns`. The receiver is still open then, and an error is answered,
counted and told of, or nothing is. There is no condition on what earlier events left behind.
-/

namespace ReceivingLink

namespace Endpoint

/-- The warnings so far that an event failed. -/
def failures (e : Endpoint) : List Notice := e.notices.filter (!·.isRoutine)

/-- The warnings that a result of an event for a delivery comes with. -/
def warnings (e : Endpoint) (d : DeliveryId) : Except ReceiverError Unit → List Notice
  | .ok () => []
  | .error error => [.processingFailed e.link.name d error]

end Endpoint

/-- The receiver is as open as it was, and no event was counted or told of as failed. -/
structure Unfailed (e e' : Endpoint) : Prop where
  lifecycle : e'.lifecycle = e.lifecycle
  errors : e'.counters.errors = e.counters.errors
  failures : e'.failures = e.failures

section Unfailed

variable {e e₁ e₂ : Endpoint}

theorem Unfailed.refl (e : Endpoint) : Unfailed e e := ⟨rfl, rfl, rfl⟩

theorem Unfailed.trans (h : Unfailed e e₁) (h' : Unfailed e₁ e₂) : Unfailed e e₂ :=
  ⟨h'.lifecycle.trans h.lifecycle, h'.errors.trans h.errors, h'.failures.trans h.failures⟩

theorem unfailed_told {notice : Notice} (h : notice.isRoutine) :
    Unfailed e { e with notices := e.notices ++ [notice] } :=
  ⟨rfl, rfl, by simp [Endpoint.failures, h]⟩

theorem unfailed_assembly : AssemblyFrame Unfailed fun _ _ => True where
  refl := .refl
  trans := .trans
  blame := fun _ _ => trivial
  noted := fun _ => ⟨rfl, rfl, rfl⟩
  told := unfailed_told
  planned := fun _ => trivial
  stored := fun _ _ => ⟨rfl, rfl, rfl⟩
  filed := fun _ => ⟨rfl, rfl, rfl⟩
  deleting := ⟨rfl, rfl, rfl⟩
  taking := ⟨rfl, rfl, rfl⟩
  drained := ⟨rfl, rfl, rfl⟩
  own := fun _ => trivial
  slotted := ⟨rfl, rfl, rfl⟩
  counted := ⟨rfl, rfl, rfl⟩
  advanced := ⟨rfl, rfl, rfl⟩

theorem unfailed_settling : SettleFrame Unfailed where
  toTellFrame := unfailed_assembly.toTellFrame
  granting := fun _ => ⟨rfl, rfl, rfl⟩
  flowed := ⟨rfl, rfl, rfl⟩
  asked := ⟨rfl, rfl, rfl⟩
  flushed := ⟨rfl, rfl, rfl⟩
  counted := fun h _ => ⟨rfl, h, rfl⟩
  settling := fun _ => ⟨rfl, rfl, rfl⟩
  disposed := ⟨rfl, rfl, rfl⟩
  settled := ⟨rfl, rfl, rfl⟩
  posted := ⟨rfl, rfl, rfl⟩
  taken := fun _ => ⟨rfl, rfl, rfl⟩
  tallied := ⟨rfl, rfl, rfl⟩
  routed := ⟨rfl, rfl, rfl⟩
  placed := ⟨rfl, rfl, rfl⟩

/-- A warning is only given once the event is over. -/
theorem process_unfailed (d : DeliveryId) :
    (Receiver.process d).Within Unfailed fun _ _ => True :=
  process_within unfailed_settling.toRouteFrame ⟨rfl, rfl, rfl⟩ unfailed_assembly ⟨rfl, rfl, rfl⟩ d

end Unfailed

/-- What an open receiver is left with by an event for a delivery. -/
structure Contained (e : Endpoint) (d : DeliveryId) (result : Except ReceiverError Unit)
    (e' : Endpoint) : Prop where
  opened : e'.lifecycle = .opened
  counted : e'.counters.errors = e.counters.errors + (e.warnings d result).length
  told : e'.failures = e.failures ++ e.warnings d result

section Events

variable {e : Endpoint}

theorem Unfailed.contained {e' : Endpoint} (h : Unfailed e e') (ho : e.lifecycle = .opened)
    (d : DeliveryId) : Contained e d (.ok ()) e' where
  opened := h.lifecycle.trans ho
  counted := h.errors
  told := by simp [Endpoint.warnings, h.failures]

/-- The event is counted and told of as failed. -/
theorem Unfailed.failed {e' : Endpoint} (h : Unfailed e e') (ho : e.lifecycle = .opened)
    (d : DeliveryId) (error : ReceiverError) :
    Contained e d (.error error)
      { e' with
        counters := { e'.counters with errors := e'.counters.errors + 1 }
        notices := e'.notices ++ [.processingFailed e.link.name d error] } where
  opened := h.lifecycle.trans ho
  counted := congrArg (· + 1) h.errors
  told := by
    show (e'.notices ++ [_]).filter (fun notice : Notice => !notice.isRoutine) = _
    rw [List.filter_append]
    exact congrArg (· ++ _) h.failures

/-- However the collaborators fail or panic on the way, an open receiver that handles an event for
a delivery returns a result and stays open, and the error counter and the warnings go up by one
exactly if the result is an error. -/
theorem onMessage_returns (ho : e.lifecycle = .opened) (hon : e.isOnHandler) (d : DeliveryId) :
    ∃ result e', Receiver.onMessage d e = (.ok result, e') ∧ Contained e d result e' := by
  refine Act.Ends.answers (P := fun result e' => Contained e d result e') ?_
  refine Act.ends_bind.2 (Act.ends_bind.2 (Act.ends_get.2 (Act.ends_ite.2 ⟨fun hoff => ?_,
    fun _ => ?_⟩)))
  · simp [hon] at hoff
  refine Act.ends_pure.2 (Act.ends_bind.2 (Act.ends_get.2 (Act.ends_ite.2 ⟨fun hn => absurd ho hn,
    fun _ => Act.ends_ite.2 ⟨fun _ => ?_, fun _ => ?_⟩⟩)))
  · exact (unfailed_told rfl).contained ho d
  refine Act.ends_bind.2 (Act.ends_contain.2 (Act.ends_run.2 ((process_unfailed d e).imp
    (fun _ e₁ h₁ => ?_) (fun error e₁ h₁ => ?_) fun k e₁ h₁ => ?_)))
  · exact h₁.contained ho d
  · exact h₁.failed ho d error
  · exact h₁.1.failed ho d (.ofPanic k)

/-- Routing panics on both deliveries, and so does the recording of an outcome when each of them is
settled. -/
theorem onMessage_returns_twice :
    let plan : Plan := fun _ point =>
      if point ∈ [.deliver, .disposition] then some (.panics (.text "broken")) else none
    let run : List Event := [.begin 0 none, .transfer [1] false, .message ⟨1⟩, .begin 0 none,
      .transfer [2] false]
    let e : Endpoint :=
      { ({ Endpoint.start {} "orders" 10 ⟨1⟩ .memory none with plan } : Endpoint).afterAll run with
        onHandler := some ⟨1⟩ }
    (e.lifecycle = .opened ∧ e.isOnHandler ∧ e.counters.errors = 1) ∧
      ∃ e', Receiver.onMessage ⟨2⟩ e = (.ok (.error (.ofPanic (.text "broken"))), e') ∧
        Contained e ⟨2⟩ (.error (.ofPanic (.text "broken"))) e' := by
  intro plan run e
  have ho : e.lifecycle = .opened := by decide +kernel
  have hon : e.isOnHandler := by decide +kernel
  have hr : (Receiver.onMessage ⟨2⟩ e).1 = .ok (.error (.ofPanic (.text "broken"))) := by
    decide +kernel
  obtain ⟨result, e', he, hc⟩ := onMessage_returns ho hon ⟨2⟩
  obtain rfl : Except.error (.ofPanic (.text "broken")) = result := by
    rw [he] at hr
    exact (Except.ok.inj hr).symm
  exact ⟨⟨ho, hon, by decide +kernel⟩, e', he, hc⟩

end Events

end ReceivingLink
