import ReceivingLink.Proofs.Review

/-!
# Calls from elsewhere

What belongs to a handler is touched only by code that runs on it. A call that is made elsewhere
either breaks off before it does anything, or puts one task into the handler's mailbox and does
nothing else. There is one exception: whoever closes the receiver with a condition has set that
condition by the time the call finds out where it was made. So the link and the calls to
collaborators are left alone exactly if no such call is made: `elsewhere_defers_iff`.
-/

namespace ReceivingLink

/-- A call that a broker makes: of a receiver, of a count of unsettled deliveries, of the handler,
of what tops up credit, or of a settle handle. -/
inductive Operation where
  -- To be made on the handler
  | message (d : DeliveryId)
  | close (remoteInitiated : Bool)
  | closeWithError (condition : Condition)
  | settle (d : DeliveryId)
  | increment (counter : Owner)
  | decrement (counter : Owner)
  | flush
  -- To be made anywhere
  | flow (credits : UInt32) (drain : Bool)
  | review (owner : Option Owner)
  | submit (owner : Option Owner)
  | settleByHandle (d : DeliveryId) (outcome : Option Outcome)

namespace Operation

/-- Makes a call. Only the handling of a delivery has more to answer than that it is done. -/
def perform : Operation → Act Panic Endpoint (Except ReceiverError Unit)
  | message d => Receiver.onMessage d
  | close remoteInitiated => do
    Receiver.close remoteInitiated
    return .ok ()
  | closeWithError condition => do
    Receiver.closeWithError condition
    return .ok ()
  | settle d => do
    settleOnHandler d
    return .ok ()
  | increment counter => do
    Tracker.increment counter
    return .ok ()
  | decrement counter => do
    Tracker.decrement counter
    return .ok ()
  | flush => do
    flushNow
    return .ok ()
  | flow credits drain => do
    Receiver.onFlow credits drain
    return .ok ()
  | review owner => do
    replenish owner
    return .ok ()
  | submit owner => do
    ReceivingLink.submit owner
    return .ok ()
  | settleByHandle d outcome => do
    ReceivingLink.settle d outcome
    return .ok ()

/-- The task that a call puts into the mailbox when it is made elsewhere. One that is to be made on
the handler puts none there. -/
def task? : Operation → Option Task
  | flow .. => some (.replenish (some .receiver))
  | review owner | submit owner => some (.replenish owner)
  | settleByHandle d outcome => some (.settle d outcome)
  | _ => none

/-- What a call that is made elsewhere tells, on a link of this name. -/
def told (link : String) : Operation → List Notice
  | flow credits drain => [.flowReceived link credits drain]
  | _ => []

/-- What a call that is made elsewhere has called by the time it breaks off. -/
def called? : Operation → Option Call
  | closeWithError condition => some (.linkSetCondition condition)
  | _ => none

end Operation

namespace Endpoint

/-- Performs actions one after the other and collects what they end with. One that breaks off ends
itself only. -/
def performAll {α : Type} (e : Endpoint) :
    List (Act Panic Endpoint α) → List (Except Panic α) × Endpoint
  | [] => ([], e)
  | act :: acts =>
    let rest := (act e).2.performAll acts
    ((act e).1 :: rest.1, rest.2)

/-- Makes calls one after the other. -/
def callAll (e : Endpoint) (ops : List Operation) :
    List (Except Panic (Except ReceiverError Unit)) × Endpoint :=
  e.performAll (ops.map Operation.perform)

/-- The calls put their tasks into the mailbox in order, and nothing else was done but that some
set a condition. -/
def Deferred (ops : List Operation) (e e' : Endpoint) : Prop :=
  ∃ condition, (ops.filterMap Operation.called? = [] → condition = e.link.condition) ∧
    e' = { e with
      mailbox := { e.mailbox with tasks := e.mailbox.tasks ++ ops.filterMap Operation.task? }
      notices := e.notices ++ ops.flatMap (·.told e.link.name)
      calls := e.calls ++ ops.filterMap Operation.called?
      link := { e.link with condition } }

section Deferred

variable {ops ops' : List Operation} {op : Operation} {e e₁ e₂ : Endpoint}

theorem Deferred.refl (e : Endpoint) : Deferred [] e e :=
  ⟨e.link.condition, fun _ => rfl, by simp⟩

theorem Deferred.trans (h : Deferred ops e e₁) (h' : Deferred ops' e₁ e₂) :
    Deferred (ops ++ ops') e e₂ := by
  obtain ⟨condition, hsame, rfl⟩ := h
  obtain ⟨condition', hsame', rfl⟩ := h'
  refine ⟨condition', fun hnone => ?_, by simp [List.append_assoc]⟩
  rw [List.filterMap_append, List.append_eq_nil_iff] at hnone
  exact (hsame' hnone.2).trans (hsame hnone.1)

theorem Deferred.isOnHandler (h : Deferred ops e e₁) : e₁.isOnHandler = e.isOnHandler := by
  obtain ⟨condition, -, rfl⟩ := h
  rfl

theorem Deferred.attended (h : Deferred ops e e₁) : e₁.mailbox.attended = e.mailbox.attended := by
  obtain ⟨condition, -, rfl⟩ := h
  rfl

/-- A call that was refused, and had called nothing before. -/
theorem deferred_self (ht : op.task? = none) (hn : ∀ link, op.told link = [])
    (hc : op.called? = none) : Deferred [op] e e :=
  ⟨e.link.condition, fun _ => rfl, by simp [ht, hn, hc]⟩

theorem deferred_posting {task : Task} (ha : e.mailbox.attended) (ht : op.task? = some task)
    (hc : op.called? = none) :
    Deferred [op] e { e.posting task with notices := e.notices ++ op.told e.link.name } := by
  refine ⟨e.link.condition, fun _ => rfl, ?_⟩
  unfold posting Mailbox.post
  rw [if_pos ha]
  simp [ht, hc]

end Deferred

end Endpoint

section Elsewhere

variable {e : Endpoint}

theorem requireOnHandler_elsewhere (hoff : e.isOnHandler = false) :
    requireOnHandler.Ends e (fun _ _ => False) fun _ e' => e' = e := by
  simp [requireOnHandler, hoff, panicWith]

/-- What begins by asking where it is breaks off there. -/
theorem guarded_elsewhere {α : Type} (hoff : e.isOnHandler = false)
    (rest : Unit → Act Panic Endpoint α) :
    Act.Ends (requireOnHandler >>= rest) e (fun _ _ => False) fun _ e' => e' = e :=
  Act.ends_bind.2 ((requireOnHandler_elsewhere hoff).imp (fun _ _ => False.elim) fun _ _ => id)

/-- The count is looked at first, and then the place: both only break off. -/
theorem increment_elsewhere (hoff : e.isOnHandler = false) (counter : Owner) :
    (Tracker.increment counter).Ends e (fun _ _ => False) fun _ e' => e' = e := by
  refine Act.ends_bind.2 (Act.ends_get.2 (Act.ends_ite.2 ⟨fun _ => ?_, fun _ => ?_⟩))
  · exact Act.ends_bind.2 rfl
  · exact guarded_elsewhere hoff _

theorem runNow_elsewhere (hoff : e.isOnHandler = false) (ha : e.mailbox.attended) (task : Task) :
    runNow task e = (.ok (), e.posting task) := by
  have hends : (runNow task).Ends e (fun _ e' => e' = e.posting task) fun _ _ => False := by
    refine Act.ends_bind.2 (Act.ends_get.2 (Act.ends_ite.2 ⟨fun hon => ?_, fun _ => ?_⟩))
    · simp [hoff] at hon
    · unfold Act.Ends
      rw [runLater_posting ha]
  obtain ⟨_, _, he, rfl⟩ := hends.answers
  exact he

/-- The condition is set before anything is asked; only then does the call break off. -/
theorem closeWithError_elsewhere (hoff : e.isOnHandler = false) (condition : Condition) :
    (Receiver.closeWithError condition).Ends e (fun _ _ => False)
      fun _ e' => Endpoint.Deferred [.closeWithError condition] e e' := by
  refine Act.ends_bind.2 (Act.ends_bind.2 (Act.ends_bind.2 (Act.ends_modifyGet.2 ?_)))
  have hset {condition' : Option Condition} : Endpoint.Deferred [.closeWithError condition] e
      { e.noting (.linkSetCondition condition) with
        link := { e.link with condition := condition' } } :=
    ⟨condition', by simp [Operation.called?], by
      simp [List.filterMap_cons, Operation.task?, Operation.told, Operation.called?,
        Endpoint.noting]⟩
  dsimp only
  split
  · exact hset
  refine Act.ends_modify.2 ?_
  refine (guarded_elsewhere ?_ _).imp (fun _ _ => id) ?_
  · exact hoff
  · rintro _ _ rfl
    exact hset

/-- Made elsewhere, a call answers exactly if it has a task to put into the mailbox. -/
theorem perform_elsewhere (hoff : e.isOnHandler = false) (ha : e.mailbox.attended)
    (op : Operation) :
    op.perform.Ends e (fun _ e' => op.task?.isSome ∧ Endpoint.Deferred [op] e e')
      fun _ e' => op.task?.isNone ∧ Endpoint.Deferred [op] e e' := by
  have hrefused {α : Type} {act : Act Panic Endpoint α} {P : α → Endpoint → Prop}
      (hact : act.Ends e (fun _ _ => False) fun _ e' => e' = e) (ht : op.task? = none)
      (hn : ∀ link, op.told link = []) (hc : op.called? = none) :
      act.Ends e P fun _ e' => op.task?.isNone ∧ Endpoint.Deferred [op] e e' := by
    refine hact.imp (fun _ _ => False.elim) ?_
    rintro _ _ rfl
    exact ⟨by rw [ht]; rfl, Endpoint.deferred_self ht hn hc⟩
  have hposted {task : Task} (ht : op.task? = some task) (hc : op.called? = none) :
      op.task?.isSome ∧ Endpoint.Deferred [op] e
        { e.posting task with notices := e.notices ++ op.told e.link.name } :=
    ⟨by rw [ht]; rfl, Endpoint.deferred_posting ha ht hc⟩
  have hquiet {task : Task} (ht : op.task? = some task) (hc : op.called? = none)
      (hn : ∀ link, op.told link = []) :
      op.task?.isSome ∧ Endpoint.Deferred [op] e (e.posting task) := by
    have h := hposted ht hc
    rw [hn, List.append_nil] at h
    exact h
  cases op with
  | message d => exact hrefused (guarded_elsewhere hoff _) rfl (fun _ => rfl) rfl
  | close remoteInitiated =>
    exact Act.ends_bind.2 (hrefused (guarded_elsewhere hoff _) rfl (fun _ => rfl) rfl)
  | closeWithError condition =>
    refine Act.ends_bind.2 ((closeWithError_elsewhere hoff condition).imp
      (fun _ _ => False.elim) fun _ e' h => ?_)
    exact ⟨rfl, h⟩
  | settle d => exact Act.ends_bind.2 (hrefused (guarded_elsewhere hoff _) rfl (fun _ => rfl) rfl)
  | increment counter =>
    exact Act.ends_bind.2 (hrefused (increment_elsewhere hoff counter) rfl (fun _ => rfl) rfl)
  | decrement counter =>
    exact Act.ends_bind.2 (hrefused (guarded_elsewhere hoff _) rfl (fun _ => rfl) rfl)
  | flush => exact Act.ends_bind.2 (hrefused (guarded_elsewhere hoff _) rfl (fun _ => rfl) rfl)
  | flow credits drain =>
    refine Act.ends_bind.2 (Act.ends_bind.2 (Act.ends_get.2 (Act.ends_bind.2
      (Act.ends_modify.2 ?_))))
    unfold Act.Ends Receiver.reviewCredit
    rw [replenish_elsewhere]
    · exact hposted rfl rfl
    · exact hoff
    · exact ha
  | review owner =>
    refine Act.ends_bind.2 ?_
    unfold Act.Ends
    rw [replenish_elsewhere hoff ha]
    exact hquiet rfl rfl fun _ => rfl
  | submit owner =>
    refine Act.ends_bind.2 ?_
    unfold Act.Ends ReceivingLink.submit
    rw [runLater_posting ha]
    exact hquiet rfl rfl fun _ => rfl
  | settleByHandle d outcome =>
    refine Act.ends_bind.2 ?_
    unfold Act.Ends ReceivingLink.settle
    rw [runNow_elsewhere hoff ha]
    exact hquiet rfl rfl fun _ => rfl

/-- Calls that are made elsewhere, however many, answer if they have a task to put off, and put
off what they have in order. -/
theorem callAll_elsewhere : ∀ {e : Endpoint}, e.isOnHandler = false → e.mailbox.attended →
    ∀ ops, (e.callAll ops).1.map Except.isOk = ops.map (·.task?.isSome) ∧
      Endpoint.Deferred ops e (e.callAll ops).2
  | e, _, _, [] => ⟨rfl, .refl e⟩
  | e, hoff, ha, op :: ops => by
    have hfirst : (op.perform e).1.isOk = op.task?.isSome ∧
        Endpoint.Deferred [op] e (op.perform e).2 := by
      have h := perform_elsewhere hoff ha op
      unfold Act.Ends at h
      split at h <;> rename_i heq <;> rw [heq]
      · exact ⟨h.1.symm, h.2⟩
      · exact ⟨(Option.isSome_eq_false_iff.2 h.1).symm, h.2⟩
    obtain ⟨hanswer, hdeferred⟩ := hfirst
    obtain ⟨hanswers, hrest⟩ := callAll_elsewhere (hdeferred.isOnHandler.trans hoff)
      (hdeferred.attended.trans ha) ops
    refine ⟨?_, hdeferred.trans hrest⟩
    simp only [Endpoint.callAll, Endpoint.performAll, List.map_cons] at hanswers ⊢
    rw [hanswer, hanswers]

end Elsewhere

/-- Whatever is called from elsewhere, what is to be called on the handler breaks off and the rest
puts one task each into the mailbox, in order; nothing else happens but that conditions are set. The
calls to collaborators and the link stay as they are exactly if no receiver was to be closed with a
condition. -/
theorem elsewhere_defers_iff {e : Endpoint} (hoff : e.isOnHandler = false)
    (ha : e.mailbox.attended) (ops : List Operation) :
    let answers := (e.callAll ops).1
    let e' := (e.callAll ops).2
    answers.map Except.isOk = ops.map (·.task?.isSome) ∧
      e' = { e with
        mailbox := { e.mailbox with tasks := e.mailbox.tasks ++ ops.filterMap Operation.task? }
        notices := e.notices ++ ops.flatMap (·.told e.link.name)
        calls := e'.calls
        link := { e.link with condition := e'.link.condition } } ∧
      (e'.calls = e.calls ∧ e'.link = e.link ↔
        ∀ condition, .closeWithError condition ∉ ops) := by
  intro answers e'
  obtain ⟨hanswers, condition, hsame, he⟩ := callAll_elsewhere hoff ha ops
  have hcalled : ops.filterMap Operation.called? = [] ↔
      ∀ condition, .closeWithError condition ∉ ops := by
    rw [List.filterMap_eq_nil_iff]
    constructor
    · intro hnone condition hmem
      exact absurd (hnone _ hmem) (by simp [Operation.called?])
    · intro hnone op hmem
      cases op with
      | closeWithError condition => exact absurd hmem (hnone condition)
      | _ => rfl
  have hcalls : e'.calls = e.calls ++ ops.filterMap Operation.called? := congrArg Endpoint.calls he
  have hlink : e'.link = { e.link with condition } := congrArg Endpoint.link he
  refine ⟨hanswers, ?_, ?_⟩
  · rw [hcalls, hlink]
    exact he
  · rw [← hcalled, hcalls, hlink, List.append_right_eq_self]
    constructor
    · exact And.left
    · intro hnone
      exact ⟨hnone, by rw [hsame hnone]⟩

/-- The condition is on the link although the call that was to set it broke off. -/
theorem condition_set_elsewhere :
    let e : Endpoint := .start {} "orders" 10 ⟨1⟩ .memory none
    let op : Operation := .closeWithError (.internal "shutting down")
    e.isOnHandler = false ∧ op.perform.Ends e (fun _ _ => False) fun _ e' =>
      ¬ (e'.link.condition = e.link.condition ∧ e'.calls = e.calls) := by
  decide +kernel

/-- A receiver with a delivery that routing holds is called from another handler's code. -/
theorem elsewhere_defers_iff_other :
    let e : Endpoint :=
      { (Endpoint.start {} "orders" 10 ⟨1⟩ .memory none).afterAll
          [.begin 0 none, .transfer [1] false, .message ⟨1⟩] with onHandler := some ⟨2⟩ }
    let ops : List Operation := [.message ⟨1⟩, .settleByHandle ⟨1⟩ (some .accepted), .flush,
      .increment .receiver, .close true, .flow 5 false, .decrement .receiver, .settle ⟨1⟩]
    let closing : Operation := .closeWithError (.internal "shutting down")
    ((e.callAll ops).2.calls = e.calls ∧ (e.callAll ops).2.link = e.link ∧
        (e.callAll ops).2.pending = e.pending ∧ (e.callAll ops).2.mailbox.tasks =
          [.settle ⟨1⟩ (some .accepted), .replenish (some .receiver)]) ∧
      ¬ ((e.callAll (ops ++ [closing])).2.calls = e.calls ∧
        (e.callAll (ops ++ [closing])).2.link = e.link) := by
  intro e ops closing
  have hoff : e.isOnHandler = false := by decide +kernel
  have ha : e.mailbox.attended := by decide +kernel
  have hempty : e.mailbox.tasks = [] := by decide +kernel
  clear_value e
  obtain ⟨-, hsame, hkept⟩ := elsewhere_defers_iff hoff ha ops
  obtain ⟨-, -, hchanged⟩ := elsewhere_defers_iff hoff ha (ops ++ [closing])
  generalize (e.callAll ops).2 = e₁ at hsame hkept ⊢
  generalize (e.callAll (ops ++ [closing])).2 = e₂ at hchanged ⊢
  constructor
  · obtain ⟨hcalls, hlink⟩ := hkept.2 fun condition => by simp [ops]
    rw [hempty] at hsame
    exact ⟨hcalls, hlink, (congrArg Endpoint.pending hsame :),
      (congrArg (fun e => e.mailbox.tasks) hsame :)⟩
  · intro h
    exact hchanged.1 h (.internal "shutting down") (by simp [closing])

end ReceivingLink
