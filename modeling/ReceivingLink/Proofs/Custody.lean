import ReceivingLink.Proofs.Turns

/-!
# Who has to settle a delivery

A delivery that was passed to routing is settled with its handle, which routing uses or keeps. If
routing does not take the delivery, the receiver settles it. `Custody` says of a property of
endpoints what has to be shown once, for each thing that can be done with a handle; then every
event keeps the property, however it ends.
-/

namespace ReceivingLink

/-- The delivery that a call settles. -/
def Call.settled? : Call → Option DeliveryId
  | .settle d => some d
  | _ => none

/-- The delivery that a call settles or gives an outcome to. -/
def Call.recorded? : Call → Option DeliveryId
  | .settle d | .disposition d _ => some d
  | _ => none

namespace Endpoint

/-- The deliveries passed to routing so far, in order. -/
def handed (e : Endpoint) : List DeliveryId := e.handoffs.map (·.delivery)

/-- The outcomes and settlings so far, as they were asked for and in order. -/
def records (e : Endpoint) : List Call := e.calls.filter Call.settles

/-- The deliveries that were to be settled so far, in order. -/
def settlings (e : Endpoint) : List DeliveryId := e.records.filterMap Call.settled?

/-- The deliveries that were to be settled or given an outcome so far, in order. -/
def recorded (e : Endpoint) : List DeliveryId := e.records.filterMap Call.recorded?

/-- The deliveries that the mailbox has the settling of. -/
def waiting (e : Endpoint) : List DeliveryId := e.mailbox.tasks.filterMap Task.delivery?

/-- The endpoint as an event finds it that runs on its handler. -/
def entered (e : Endpoint) : Endpoint := { e with onHandler := some e.mailbox.handler }

/-- The endpoint whose routing holds other handoffs. -/
def holding (e : Endpoint) (held : List Handoff) : Endpoint :=
  { e with sink := { e.sink with held } }

/-- The endpoint as routing finds it when it is given a handoff. -/
def presented (e : Endpoint) (handoff : Handoff) : Endpoint :=
  { e.noting (.deliver handoff) with sink := { e.sink with delivered := e.sink.delivered + 1 } }

/-- The endpoint with a delivery counted off. -/
def countedOff (e : Endpoint) : Endpoint :=
  { e with pending := e.pending.set (e.pending.receiver - 1) .receiver }

/-- The endpoint with a delivery settled that was never counted. -/
def forgone (e : Endpoint) (d : DeliveryId) : Endpoint :=
  { e with link := e.link.settle d }.noting (.settle d)

/-- The endpoint with credit granted to the peer. -/
def granting (e : Endpoint) (credits : UInt32) : Endpoint :=
  { e with link := e.link.flow credits }.noting (.linkFlow credits)

/-- The endpoint with a task put into its mailbox. -/
def posting (e : Endpoint) (task : Task) : Endpoint := { e with mailbox := e.mailbox.post task }

/-- The endpoint with other tasks in its mailbox. -/
def withTasks (e : Endpoint) (tasks : List Task) : Endpoint :=
  { e with mailbox := { e.mailbox with tasks } }

end Endpoint

/-- Nothing was passed to routing or settled, but the link may have been moved on and granted
credit. -/
structure SameLedger (e e' : Endpoint) : Prop where
  plan : e'.plan = e.plan
  pending : e'.pending.receiver = e.pending.receiver
  held : e'.sink.held = e.sink.held
  attended : e'.mailbox.attended = e.mailbox.attended
  waiting : e'.waiting = e.waiting
  handoffs : e'.handoffs = e.handoffs
  records : e'.records = e.records
  begun : e'.begun = e.begun
  settles : ∀ d, e'.settles d = e.settles d
  queue : e'.link.queue <:+ e.link.queue

/-- Credit and what waits in the mailbox are the same too. -/
structure SameHands (e e' : Endpoint) : Prop extends SameLedger e e' where
  config : e'.config = e.config
  credit : e'.link.credit = e.link.credit
  tasks : e'.mailbox.tasks = e.mailbox.tasks

/-- The link has stayed at its delivery. -/
structure Beside (e e' : Endpoint) : Prop extends SameHands e e' where
  stays : e'.link.queue = e.link.queue

section Beside

variable {e e₁ e₂ e₃ : Endpoint}

theorem SameLedger.refl (e : Endpoint) : SameLedger e e :=
  ⟨rfl, rfl, rfl, rfl, rfl, rfl, rfl, rfl, fun _ => rfl, List.suffix_rfl⟩

theorem SameLedger.trans (h : SameLedger e₁ e₂) (h' : SameLedger e₂ e₃) : SameLedger e₁ e₃ :=
  ⟨h'.plan.trans h.plan, h'.pending.trans h.pending, h'.held.trans h.held,
    h'.attended.trans h.attended, h'.waiting.trans h.waiting, h'.handoffs.trans h.handoffs,
    h'.records.trans h.records, h'.begun.trans h.begun,
    fun d => (h'.settles d).trans (h.settles d), h'.queue.trans h.queue⟩

theorem SameLedger.handed (h : SameLedger e₁ e₂) : e₂.handed = e₁.handed := by
  unfold Endpoint.handed
  rw [h.handoffs]

theorem SameLedger.settlings (h : SameLedger e₁ e₂) : e₂.settlings = e₁.settlings := by
  unfold Endpoint.settlings
  rw [h.records]

theorem SameLedger.recorded (h : SameLedger e₁ e₂) : e₂.recorded = e₁.recorded := by
  unfold Endpoint.recorded
  rw [h.records]

theorem SameLedger.owed (h : SameLedger e₁ e₂) : e₂.owed = e₁.owed := by
  have hwaiting := h.waiting
  unfold Endpoint.waiting at hwaiting
  unfold Endpoint.owed
  rw [h.held, hwaiting]

theorem SameHands.refl (e : Endpoint) : SameHands e e := ⟨.refl e, rfl, rfl, rfl⟩

theorem SameHands.trans (h : SameHands e₁ e₂) (h' : SameHands e₂ e₃) : SameHands e₁ e₃ :=
  ⟨h.toSameLedger.trans h'.toSameLedger, h'.config.trans h.config, h'.credit.trans h.credit,
    h'.tasks.trans h.tasks⟩

theorem Beside.refl (e : Endpoint) : Beside e e := ⟨.refl e, rfl⟩

theorem Beside.trans (h : Beside e₁ e₂) (h' : Beside e₂ e₃) : Beside e₁ e₃ :=
  ⟨h.toSameHands.trans h'.toSameHands, h'.stays.trans h.stays⟩

theorem records_noting {call : Call} (h : call.settles = false) :
    (e.noting call).records = e.records := by
  simp [Endpoint.records, Endpoint.noting, h]

theorem records_append {call : Call} (h : call.settles) :
    (e.noting call).records = e.records ++ [call] := by
  simp [Endpoint.records, Endpoint.noting, h]

theorem settlings_noting (e : Endpoint) (call : Call) :
    (e.noting call).settlings = e.settlings ++ call.settled?.toList := by
  simp only [Endpoint.settlings, Endpoint.records, Endpoint.noting, List.filter_append,
    List.filterMap_append]
  cases call <;> rfl

theorem settlings_same {call : Call} (h : call.settled? = none) :
    (e.noting call).settlings = e.settlings := by
  rw [settlings_noting, h]
  exact List.append_nil _

theorem recorded_noting (e : Endpoint) (call : Call) :
    (e.noting call).recorded = e.recorded ++ call.recorded?.toList := by
  simp only [Endpoint.recorded, Endpoint.records, Endpoint.noting, List.filter_append,
    List.filterMap_append]
  cases call <;> rfl

theorem handed_noting {call : Call} (h : call.handoff? = none) :
    (e.noting call).handed = e.handed := by
  unfold Endpoint.handed
  exact congrArg _ (handoffs_noted h)

/-- What waits is what the first task is for and what waits behind it. -/
theorem waiting_withTasks {task : Task} {rest : List Task}
    (h : e.mailbox.tasks = task :: rest) :
    e.waiting = task.delivery?.toList ++ (e.withTasks rest).waiting := by
  unfold Endpoint.waiting
  rw [h]
  cases task <;> rfl

/-- A change of what handles have nothing to do with. -/
theorem Beside.aside {e' : Endpoint} (hconfig : e'.config = e.config) (hlink : e'.link = e.link)
    (hheld : e'.sink.held = e.sink.held) (hmailbox : e'.mailbox = e.mailbox)
    (hpending : e'.pending = e.pending) (hplan : e'.plan = e.plan)
    (hhandoffs : e'.handoffs = e.handoffs) (hrecords : e'.records = e.records) : Beside e e' := by
  refine ⟨⟨⟨hplan, by rw [hpending], hheld, by rw [hmailbox], ?_, hhandoffs, hrecords, ?_,
    fun d => ?_, ?_⟩, hconfig, by rw [hlink], by rw [hmailbox]⟩, by rw [hlink]⟩
  · unfold Endpoint.waiting
    rw [hmailbox]
  · unfold Endpoint.begun
    rw [hlink]
  · unfold Endpoint.settles
    rw [hlink]
  · exact hlink ▸ List.suffix_rfl

/-- A change of the link that leaves credit and the settlings of its deliveries alone. -/
theorem SameHands.ofLink {link : Link} (hcredit : link.credit = e.link.credit)
    (hids : link.deliveries.map (·.id) = e.link.deliveries.map (·.id))
    (hset : ∀ d, (link.delivery d).settles = (e.link.delivery d).settles)
    (hq : link.queue <:+ e.link.queue) : SameHands e { e with link } :=
  ⟨⟨rfl, rfl, rfl, rfl, rfl, rfl, rfl, hids, hset, hq⟩, rfl, hcredit, rfl⟩

theorem Link.changeCurrent_credit (l : Link) (f : Delivery → Delivery) :
    (l.changeCurrent f).credit = l.credit := by
  unfold changeCurrent
  split <;> rfl

/-- A change of the current delivery and of the bytes that wait. -/
theorem Beside.changeCurrent {buffer : Bytes} {f : Delivery → Delivery} (hid : ∀ x, (f x).id = x.id)
    (hset : ∀ x, (f x).settles = x.settles) :
    Beside e { e with link := { e.link with buffer }.changeCurrent f } where
  toSameHands := .ofLink (Link.changeCurrent_credit _ f) (Link.map_changeCurrent _ hid)
    (Link.delivery_changeCurrent _ hid hset) (by simp)
  stays := by simp

theorem SameHands.advance (e : Endpoint) : SameHands e { e with link := e.link.advance } := by
  refine .ofLink ?_ (by simp) (by simp) (by simpa using List.tail_suffix _)
  unfold Link.advance
  split <;> rfl

theorem beside_counted {counters : Counters} : Beside e { e with counters } :=
  .aside rfl rfl rfl rfl rfl rfl rfl rfl

theorem beside_told {notice : Notice} : Beside e { e with notices := e.notices ++ [notice] } :=
  .aside rfl rfl rfl rfl rfl rfl rfl rfl

theorem beside_looked {transactions : Transactions} : Beside e { e with transactions } :=
  .aside rfl rfl rfl rfl rfl rfl rfl rfl

theorem beside_noted {call : Call} (h : call.isPlain) :
    Beside e { e with calls := e.calls ++ [call] } := by
  refine .aside rfl rfl rfl rfl rfl rfl (handoffs_noted (handoff?_eq_none (.inl h))) ?_
  refine records_noting ?_
  cases call <;> first | rfl | cases h

theorem beside_granting {call : Call} (h : call.grants) :
    Beside e { e with calls := e.calls ++ [call] } := by
  refine .aside rfl rfl rfl rfl rfl rfl (handoffs_noted (handoff?_eq_none (.inr (.inl h)))) ?_
  refine records_noting ?_
  cases call <;> first | rfl | cases h

theorem beside_frame : SlotFrame Beside fun _ _ => True where
  refl := .refl
  trans := .trans
  blame := fun _ _ => trivial
  noted := beside_noted
  told := fun _ => beside_told
  planned := fun _ => trivial
  stored := fun _ _ => .aside rfl rfl rfl rfl rfl rfl rfl rfl
  filed := fun _ => .aside rfl rfl rfl rfl rfl rfl rfl rfl
  deleting := .aside rfl rfl rfl rfl rfl rfl (handoffs_noted rfl) (records_noting rfl)
  taking := .aside rfl rfl rfl rfl rfl rfl (handoffs_noted rfl) (records_noting rfl)
  drained := .changeCurrent (fun _ => rfl) fun _ => rfl
  own := fun _ => trivial
  slotted := .aside rfl rfl rfl rfl rfl rfl rfl rfl

theorem sameHands_frame : AssemblyFrame SameHands fun _ _ => True where
  refl := .refl
  trans := .trans
  blame := fun _ _ => trivial
  noted := fun h => (beside_frame.noted h).toSameHands
  told := fun _ => beside_told.toSameHands
  planned := fun _ => trivial
  stored := fun h hc => (beside_frame.stored h hc).toSameHands
  filed := fun h => (beside_frame.filed h).toSameHands
  deleting := beside_frame.deleting.toSameHands
  taking := beside_frame.taking.toSameHands
  drained := beside_frame.drained.toSameHands
  own := fun _ => trivial
  slotted := beside_frame.slotted.toSameHands
  counted := beside_counted.toSameHands
  advanced := .advance _

/-- Nothing else happens in a top-up of credit. -/
theorem sameLedger_frame : GrantFrame SameLedger where
  refl := .refl
  trans := .trans
  blame := fun _ _ => trivial
  told := fun _ => beside_told.toSameLedger
  planned := fun _ => trivial
  granting := fun h => (beside_granting h).toSameLedger
  flowed := ⟨rfl, rfl, rfl, rfl, rfl, rfl, rfl, rfl, fun _ => rfl, List.suffix_rfl⟩
  asked := by
    intro e owner
    refine ⟨rfl, rfl, rfl, ?_, ?_, rfl, rfl, rfl, fun _ => rfl, List.suffix_rfl⟩
    · exact e.mailbox.post_attended _
    · unfold Endpoint.waiting Mailbox.post
      split
      · simp [Task.delivery?]
      · rfl
  flushed := ⟨rfl, rfl, rfl, rfl, rfl, rfl, rfl, rfl, fun _ => rfl, List.suffix_rfl⟩
  counted := fun _ _ => beside_counted.toSameLedger

theorem beside_entered (e : Endpoint) : Beside e e.entered :=
  .aside rfl rfl rfl rfl rfl rfl rfl rfl

theorem requireOnHandler_stays (e : Endpoint) :
    requireOnHandler.Ends e (fun _ e' => e' = e) fun _ e' => e' = e := by
  refine Act.ends_bind.2 (Act.ends_get.2 (Act.ends_ite.2 ⟨fun _ => ?_, fun _ => ?_⟩))
  · exact Act.ends_throw.2 rfl
  · exact Act.ends_pure.2 rfl

/-- A delivery is counted, or nothing happens. -/
theorem increment_stays (e : Endpoint) : (Tracker.increment .receiver).Ends e
    (fun _ e' => e' = { e with pending := e.pending.set (e.pending.receiver + 1) .receiver })
    fun _ e' => e' = e := by
  refine Act.ends_bind.2 (Act.ends_get.2 (Act.ends_ite.2 ⟨fun _ => Act.ends_bind.2 rfl,
    fun _ => ?_⟩))
  refine Act.ends_bind.2 ((requireOnHandler_stays e).imp ?_ fun _ _ => id)
  rintro _ _ rfl
  exact Act.ends_modify.2 rfl

theorem disposition_stays (e : Endpoint) (d : DeliveryId) (outcome : Outcome) :
    (Delivery.disposition d outcome).Ends e
      (fun _ e' => e' = { e.noting (.disposition d outcome) with link := e.link.dispose d outcome })
      fun _ e' => e' = e.noting (.disposition d outcome) := by
  refine Act.ends_bind.2 (Act.ends_bind.2 (Act.ends_modifyGet.2 ?_))
  split
  · exact Act.ends_throw.2 rfl
  · exact Act.ends_modify.2 rfl

theorem beside_close (e : Endpoint) (remoteInitiated : Bool) :
    (Receiver.close remoteInitiated).Ends e (fun _ e' => Beside e e') fun _ e' => Beside e e' := by
  refine .imp (beside_frame.close_ends (.aside rfl rfl rfl rfl rfl rfl rfl rfl)
    (.aside rfl rfl rfl rfl rfl rfl rfl rfl) ((requireOnHandler_stays e).imp ?_ ?_)
    remoteInitiated) (fun _ _ => id) fun _ _ => And.left
  · rintro _ _ rfl
    exact .refl _
  · rintro _ _ rfl
    exact ⟨.refl _, trivial⟩

theorem beside_closeWithError (e : Endpoint) (condition : Condition) :
    (Receiver.closeWithError condition).Ends e (fun _ e' => Beside e e')
      fun _ e' => Beside e e' := by
  have hcondition : (Link.setCondition condition).Within Beside fun _ _ => True :=
    beside_frame.setCondition_within (beside_frame.noted rfl)
      ⟨.ofLink rfl rfl (fun _ => rfl) List.suffix_rfl, rfl⟩
  refine Act.ends_bind.2 ((hcondition e).imp (fun _ e₁ h₁ => ?_) fun _ _ => And.left)
  exact (beside_close e₁ false).imp (fun _ _ => h₁.trans) fun _ _ => h₁.trans

end Beside

/-- A delivery is settled in four steps, and what happens may end after each. -/
theorem settleOnHandler_steps {e : Endpoint} {d : DeliveryId} {P K : Endpoint → Prop}
    (hoff : e.isOnHandler = false → K e)
    (hshort : e.pending.receiver ≤ 0 → K e.countedOff)
    (hcalled : 0 < e.pending.receiver →
      (∃ n k, e.calls.length ≤ n ∧ e.plan n .settle = some (.panics k)) →
      K (e.countedOff.noting (.settle d)))
    (hreview : e.isOnHandler → 0 < e.pending.receiver →
      (replenish (some .receiver)).Ends ((e.settled d).noting (.settle d)) (fun _ => P)
        fun _ => K) :
    (settleOnHandler d).Ends e (fun _ => P) fun _ => K := by
  by_cases hon : e.isOnHandler
  swap
  -- off the handler nothing is counted, and nothing is called
  · have hpanics : requireOnHandler.Ends e (fun _ _ => False) fun _ e' => e' = e := by
      refine Act.ends_bind.2 (Act.ends_get.2 (Act.ends_ite.2 ⟨fun _ => ?_, fun hn => ?_⟩))
      · exact Act.ends_throw.2 rfl
      · exact absurd (by simpa using hn) hon
    refine Act.ends_bind.2 (hpanics.imp (fun _ _ => False.elim) ?_)
    rintro _ _ rfl
    exact hoff (by simpa using hon)
  refine Act.ends_bind.2 ((requireOnHandler_ends hon).imp ?_ fun _ _ => False.elim)
  rintro _ e rfl
  refine Act.ends_bind.2 (Act.ends_bind.2 ((requireOnHandler_ends hon).imp ?_
    fun _ _ => False.elim))
  rintro _ e rfl
  refine Act.ends_bind.2 (Act.ends_modify.2 (Act.ends_bind.2 (Act.ends_get.2
    (Act.ends_ite.2 ⟨fun hneg => ?_, fun hpos => ?_⟩))))
  · refine Act.ends_throw.2 (hshort ?_)
    simp only [Each.get, Each.set] at hneg
    omega
  · have hpos : 0 < e.pending.receiver := by
      simp only [Each.get, Each.set] at hpos
      omega
    refine Act.ends_pure.2 (Act.ends_bind.2 (Act.ends_bind.2 ?_))
    simp only [invoke, note, Act.ends_bind, Act.ends_modifyGet]
    split
    · exact hcalled hpos ⟨_, _, Nat.le_refl _, ‹_›⟩
    · exact hreview hon hpos

/-- A delivery that its sender gave up is settled, and its unit of credit put back unless the sender
wants its credit used up. That the delivery was given up is counted, and what was put back is not. -/
theorem onAborted_counts {e : Endpoint} {d : DeliveryId} {P K : Endpoint → Prop}
    (hcalled : (∃ n k, e.calls.length ≤ n ∧ e.plan n .settle = some (.panics k)) →
      K (e.noting (.settle d)))
    (hasked : (∃ n k, e.calls.length ≤ n ∧ e.plan n .linkFlow = some (.panics k)) →
      K ((e.forgone d).noting (.linkFlow 1)))
    (hdone : P { (if e.link.drain then e.forgone d else (e.forgone d).granting 1) with
      counters := e.counters.depart .aborted
      notices := e.notices ++ [.deliveryAborted e.link.name d] }) :
    (Receiver.onAborted d).Ends e (fun _ => P) fun _ => K := by
  refine Act.ends_bind.2 (Act.ends_bind.2 (Act.ends_bind.2 (Act.ends_modifyGet.2 ?_)))
  split
  · exact hcalled ⟨_, _, Nat.le_refl _, ‹_›⟩
  refine Act.ends_modify.2 (Act.ends_bind.2 (Act.ends_get.2 (Act.ends_ite.2 ⟨fun hn => ?_,
    fun hn => ?_⟩)))
  · have hdrain : ¬ e.link.drain := by simpa [Link.settle, Link.change] using hn
    rw [if_neg hdrain] at hdone
    refine Act.ends_bind.2 (Act.ends_bind.2 (Act.ends_bind.2 (Act.ends_modifyGet.2 ?_)))
    split
    · rename_i hpanic
      exact hasked ⟨_, _, by simp, hpanic⟩
    · exact Act.ends_modify.2 hdone
  · have hdrain : e.link.drain := by simpa [Link.settle, Link.change] using hn
    rw [if_pos hdrain] at hdone
    exact Act.ends_modify.2 hdone

/-- A delivery that its sender gave up is settled, and its unit of credit put back unless the sender
wants its credit used up. -/
theorem onAborted_steps {e : Endpoint} {d : DeliveryId} {P K : Endpoint → Prop}
    (hcalled : (∃ n k, e.plan n .settle = some (.panics k)) → K (e.noting (.settle d)))
    (hdrained : e.link.drain → ∀ e', Beside (e.forgone d) e' → P e')
    (hasked : (∃ n k, e.plan n .linkFlow = some (.panics k)) →
      K ((e.forgone d).noting (.linkFlow 1)))
    (hgranted : e.link.drain = false → ∀ e', Beside ((e.forgone d).granting 1) e' → P e') :
    (Receiver.onAborted d).Ends e (fun _ => P) fun _ => K := by
  have haside {e : Endpoint} {counters : Counters} {notice : Notice} :
      Beside e { e with counters, notices := e.notices ++ [notice] } :=
    .aside rfl rfl rfl rfl rfl rfl rfl rfl
  refine onAborted_counts (fun ⟨n, k, _, hpanic⟩ => hcalled ⟨n, k, hpanic⟩)
    (fun ⟨n, k, _, hpanic⟩ => hasked ⟨n, k, hpanic⟩) ?_
  cases hdrain : e.link.drain with
  | true => exact hdrained hdrain _ haside
  | false => exact hgranted hdrain _ haside

namespace Receiver

/-- Handles an event for the delivery at the head as far as the passing on of its message, and
answers with what is to be passed on. -/
def offer (d : DeliveryId) : Attempt ReceiverError (Option Handoff) := do
  let internal (e : ReassemblyError) : ReceiverError := .internal e.failure
  match ← (Reassembler.accept .receiver d).adapt internal with
  | .pending => return none
  | .aborted =>
    onAborted d
    return none
  | .complete message =>
    let transaction ← (resolveTransaction d).adapt internal
    Tracker.increment .receiver
    let e ← get
    return some
      { message, delivery := d, link := e.link.name, transaction,
        duplicateDetection := e.config.duplicateDetection }

/-- Passes a message on. A delivery that routing does not take is settled here. -/
def passOn (handoff : Handoff) : Attempt ReceiverError Unit := do
  let e ← get
  match ← (Sink.deliver handoff).run.contain with
  | .ok (.ok ()) => count (·.depart .routed)
  | .ok (.error error) =>
    report (.routingFailed e.link.name handoff.delivery error)
    settleFailed handoff.delivery (failureOutcome e.config error)
  | .error payload =>
    let error := ReceiverError.ofPanic payload
    settleFailed handoff.delivery (.rejected (some error.condition))
    throw error

theorem get_get {ε α : Type} (f : Endpoint → Endpoint → Attempt ε α) :
    (do f (← get) (← get)) = (do
      let e ← get
      f e e) := rfl

/-- Handling an event is offering a message and passing it on, if there is one. -/
theorem process_eq (d : DeliveryId) : process d = offer d >>= fun
    | some handoff => passOn handoff
    | none => pure () := by
  simp only [process, offer, bind_assoc]
  refine congrArg _ (funext fun r => ?_)
  rcases r with _ | _ | message
  · simp only [bind_assoc, pure_bind, bind_pure_unit]
  · rfl
  · simp only [bind_assoc, handOff]
    refine congrArg _ (funext fun transaction => congrArg _ (funext fun _ => ?_))
    simp only [pure_bind, passOn]
    symm
    exact get_get _

/-- A message is offered that is not as it should be, and is passed on. -/
theorem process_of_not_offer {e : Endpoint} {d : DeliveryId} {P : Handoff → Endpoint → Prop}
    {A : Unit → Endpoint → Prop} {F : ReceiverError → Endpoint → Prop}
    {K : Panic → Endpoint → Prop}
    (h : ¬ (offer d).Ends e (fun offered e' => ∀ handoff ∈ offered, P handoff e')
      (fun _ _ => True) fun _ _ => True)
    (hpass : ∀ handoff e₁, ¬ P handoff e₁ → (passOn handoff).Ends e₁ A F K) :
    (process d).Ends e A F K := by
  rw [process_eq]
  refine Attempt.ends_bind.2 ((Attempt.ends_of_not h).imp (fun offered e₁ h₁ => ?_)
    (fun _ _ h₁ => absurd trivial h₁) fun _ _ h₁ => absurd trivial h₁)
  rcases offered with _ | handoff
  · exact absurd (fun _ hm => nomatch hm) h₁
  · exact hpass handoff e₁ fun hp => h₁ fun _ hm => Option.some.inj hm ▸ hp

/-- Offering ends before the link is moved, or with the link past the delivery: its sender gave it
up, or its message is counted. -/
theorem offer_steps {e : Endpoint} {d : DeliveryId} {P : Option Handoff → Endpoint → Prop}
    {K : Endpoint → Prop} (hfails : ∀ e₁, SameHands e e₁ → K e₁)
    (hwaits : ∀ e₁, SameHands e e₁ → P none e₁)
    (haborted : ∀ e₁, SameHands e e₁ → e₁.link.queue = e.link.queue.tail →
      (onAborted d).Ends e₁ (fun _ => P none) fun _ => K)
    (hcounted : ∀ e₁ handoff, SameHands e e₁ → e₁.link.queue = e.link.queue.tail →
      handoff.delivery = d →
      P (some handoff) { e₁ with pending := e₁.pending.set (e₁.pending.receiver + 1) .receiver }) :
    (offer d).Ends e P (fun _ => K) fun _ => K := by
  have haccept := (sameHands_frame.accept_within .receiver d e).and (accept_advances e .receiver d)
  refine Attempt.ends_bind.2 (Attempt.ends_adapt.2 (haccept.imp (fun r e₁ h₁ => ?_)
    (fun _ e₁ h₁ => hfails e₁ h₁.1) fun _ e₁ h₁ => hfails e₁ h₁.1.1))
  obtain ⟨hs, hr⟩ := h₁
  rcases r with _ | _ | message
  · have hq : e₁.link.queue = e.link.queue.tail := hr.resolve_left (by simp)
    exact Attempt.ends_bind.2 (Attempt.ends_lift.2 (haborted e₁ hs hq))
  · exact hwaits e₁ hs
  · have hq : e₁.link.queue = e.link.queue.tail := hr.resolve_left (by simp)
    have hresolve := (sameHands_frame.resolveTransaction_within beside_looked.toSameHands d e₁).and
      (resolveTransaction_ends e₁ d)
    refine Attempt.ends_bind.2 (Attempt.ends_adapt.2 (hresolve.imp (fun transaction e₂ h₂ => ?_)
      (fun _ e₂ h₂ => hfails e₂ (hs.trans h₂.1)) fun _ e₂ h₂ => hfails e₂ (hs.trans h₂.1.1)))
    have hs₂ : SameHands e e₂ := hs.trans h₂.1
    refine Attempt.ends_bind.2 (Attempt.ends_lift.2 ((increment_stays e₂).imp ?_ ?_))
    · rintro _ _ rfl
      exact hcounted e₂ _ hs₂ (h₂.2.queue.trans hq) rfl
    · rintro _ _ rfl
      exact hfails _ hs₂

end Receiver

namespace Sink

/-- Every handle that routing uses in a script may be used. -/
def MayUse (Usable : Endpoint → DeliveryId → Prop) : List Use → Endpoint → Prop
  | [], _ => True
  | use :: uses, e =>
    (∀ handoff ∈ e.sink.held[use.index]?, Usable e handoff.delivery) ∧
      use.perform.Ends e (fun _ => MayUse Usable uses) fun _ _ => True

/-- Every handle that routing uses before it answers to a handoff may be used. -/
def MayTake (Usable : Endpoint → DeliveryId → Prop) (handoff : Handoff) (e : Endpoint) : Prop :=
  let e₀ := e.presented handoff
  match e₀.sink.mode with
  | .script uses .accepts => MayUse Usable uses (e₀.holding (e₀.sink.held ++ [handoff]))
  | .script uses _ => MayUse Usable uses e₀
  | _ => True

end Sink

/-- What is offered to routing, if anything is, is free once it is given to it. -/
def Offered (I : Endpoint → Prop) (Free : Endpoint → DeliveryId → Prop) :
    Option Handoff → Endpoint → Prop
  | none, e => I e
  | some handoff, e =>
    I (e.noting (.deliver handoff)) ∧ Free (e.noting (.deliver handoff)) handoff.delivery

namespace Endpoint

/-- A delivery that routing does not take is open still. -/
def Returns (I : Endpoint → Prop) (Open : Endpoint → DeliveryId → Prop) (handoff : Handoff)
    (e : Endpoint) : Prop :=
  (Sink.deliver handoff).Ends e (fun _ _ => True) (fun _ e' => I e' → Open e' handoff.delivery)
    fun _ e' => I e' → Open e' handoff.delivery

/-- A handle that routing uses in an event of its own may be used. -/
def OnUse (Usable : Endpoint → DeliveryId → Prop) (e : Endpoint) : Event → Prop
  | .settle use => ∀ handoff ∈ e.sink.held[use.index]?, Usable e handoff.delivery
  | _ => True

/-- What is said of a handoff holds of the one that an event offers to routing, if it offers one. -/
def OnOffer (P : Handoff → Endpoint → Prop) (e : Endpoint) : Event → Prop
  | .message d => e.lifecycle = .opened → e.link.current = some d →
    (Receiver.offer d).Ends e.entered (fun offered e' => ∀ handoff ∈ offered, P handoff e')
      (fun _ _ => True) fun _ _ => True
  | _ => True

end Endpoint

section Decide

variable {Usable : Endpoint → DeliveryId → Prop} [∀ e d, Decidable (Usable e d)]

instance decidableMayUse : ∀ uses e, Decidable (Sink.MayUse Usable uses e)
  | [], _ => isTrue trivial
  | use :: uses, e =>
    have := decidableMayUse uses
    inferInstanceAs (Decidable ((∀ handoff ∈ e.sink.held[use.index]?, Usable e handoff.delivery) ∧
      use.perform.Ends e (fun _ => Sink.MayUse Usable uses) fun _ _ => True))

instance (handoff : Handoff) (e : Endpoint) : Decidable (Sink.MayTake Usable handoff e) := by
  unfold Sink.MayTake
  dsimp only
  split <;> infer_instance

instance (e : Endpoint) : DecidablePred (e.OnUse Usable)
  | .settle use =>
    inferInstanceAs (Decidable (∀ handoff ∈ e.sink.held[use.index]?, Usable e handoff.delivery))
  | .begin .. | .transfer .. | .abort | .setDrain _ | .message _ | .flow .. | .close _
  | .closeWithError _ | .runPending | .submit | .setMode _ => isTrue trivial

instance {P : Handoff → Endpoint → Prop} [∀ handoff e, Decidable (P handoff e)] (e : Endpoint) :
    DecidablePred (e.OnOffer P)
  | .message d => inferInstanceAs (Decidable (e.lifecycle = .opened → e.link.current = some d →
      (Receiver.offer d).Ends e.entered (fun offered e' => ∀ handoff ∈ offered, P handoff e')
        (fun _ _ => True) fun _ _ => True))
  | .begin .. | .transfer .. | .abort | .setDrain _ | .flow .. | .close _ | .closeWithError _
  | .runPending | .settle _ | .submit | .setMode _ => isTrue trivial

end Decide

/-- What it takes for a property to be kept by everything that is done with handles. A delivery is
free when its handle is neither kept nor used, and the one who has it may do either. It is open as
long as it may be settled. -/
structure Custody (I : Endpoint → Prop) (Free Open Usable : Endpoint → DeliveryId → Prop) :
    Prop where
  beside : ∀ {e e'}, Beside e e' → I e → I e'
  still : ∀ {e e' d}, Beside e e' → Free e d → Free e' d
  stays : ∀ {e e' d}, Beside e e' → Open e d → Open e' d
  opens : ∀ {e d}, Free e d → Open e d
  keep : ∀ {e handoff}, I e → Free e handoff.delivery → I (e.holding (e.sink.held ++ [handoff]))
  release : ∀ {e i handoff}, I e → e.sink.held[i]? = some handoff → Usable e handoff.delivery →
    I (e.holding (e.sink.held.eraseIdx i)) ∧
      Free (e.holding (e.sink.held.eraseIdx i)) handoff.delivery
  post : ∀ {e d outcome}, I e → Free e d → I (e.posting (.settle d outcome))
  ask : ∀ {e}, I e → I (e.posting (.replenish (some .receiver)))
  perform : ∀ {e d outcome}, I e → Open e d → (Task.perform (.settle d outcome)).Ends e
    (fun _ => I) fun _ => I

section Routing

variable {Usable : Endpoint → DeliveryId → Prop} {e : Endpoint}

theorem mayUse_of_forall (h : ∀ e d, Usable e d) :
    ∀ (uses : List Sink.Use) (e : Endpoint), Sink.MayUse Usable uses e
  | [], _ => trivial
  | _ :: uses, _ =>
    ⟨fun _ _ => h _ _, Act.ends_always (fun _ e' => mayUse_of_forall h uses e') fun _ _ => trivial⟩

theorem mayTake_of_forall (h : ∀ e d, Usable e d) (handoff : Handoff) (e : Endpoint) :
    Sink.MayTake Usable handoff e := by
  unfold Sink.MayTake
  dsimp only
  split
  · exact mayUse_of_forall h _ _
  · exact mayUse_of_forall h _ _
  · trivial

theorem onUse_of_forall (h : ∀ e d, Usable e d) (event : Event) : e.OnUse Usable event := by
  cases event with
  | settle use => exact fun _ _ => h _ _
  | _ => trivial

theorem onOffer_of_forall {P : Handoff → Endpoint → Prop} (h : ∀ handoff e, P handoff e)
    (event : Event) : e.OnOffer P event := by
  cases event with
  | message d =>
    intro _ _
    exact Attempt.ends_always (fun _ e' handoff _ => h handoff e') (fun _ _ => trivial)
      fun _ _ => trivial
  | _ => trivial

end Routing

namespace Custody

variable {I : Endpoint → Prop} {Free Open Usable : Endpoint → DeliveryId → Prop} {e : Endpoint}
  {d : DeliveryId} (C : Custody I Free Open Usable)

include C

theorem told {notice : Notice} (h : I e) : I { e with notices := e.notices ++ [notice] } :=
  C.beside beside_told h

theorem counted {counters : Counters} (h : I e) : I { e with counters } :=
  C.beside beside_counted h

/-- Posted for later, a task changes nothing else. -/
theorem runLater {task : Task} (h : I (e.posting task)) :
    (runLater task).Ends e (fun _ => I) fun _ => I := by
  refine Act.ends_bind.2 (Act.ends_get.2 (Act.ends_bind.2 (Act.ends_modify.2 ?_)))
  refine Act.ends_ite.2 ⟨fun _ => ?_, fun _ => h⟩
  exact C.told h

/-- On the handler and back. -/
theorem onHandler {α : Type} {act : Act Panic Endpoint α}
    (h : act.Ends e.entered (fun _ => I) fun _ => I) :
    (ReceivingLink.onHandler act).Ends e (fun _ => I) fun _ => I := by
  have hleave {e' : Endpoint} : I e' → I { e' with onHandler := e.onHandler } :=
    C.beside (.aside rfl rfl rfl rfl rfl rfl rfl rfl)
  exact ends_onHandler.2 (h.imp (fun _ _ => hleave) fun _ _ => hleave)

/-- The one who has the handle of a delivery settles it. -/
theorem settleNow (h : I e) (hf : Free e d) (outcome : Option Outcome) :
    (ReceivingLink.settle d outcome).Ends e (fun _ => I) fun _ => I := by
  refine Act.ends_bind.2 (Act.ends_get.2 (Act.ends_ite.2 ⟨fun _ => ?_, fun _ => ?_⟩))
  · exact C.perform h (C.opens hf)
  · exact C.runLater (C.post h hf)

theorem use (h : I e) {use : Sink.Use}
    (hu : ∀ handoff ∈ e.sink.held[use.index]?, Usable e handoff.delivery) :
    use.perform.Ends e (fun _ => I) fun _ => I := by
  refine Act.ends_bind.2 (Act.ends_get.2 ?_)
  split
  · exact h
  rename_i handoff hheld
  obtain ⟨h₁, hf⟩ := C.release h hheld (hu handoff hheld)
  refine Act.ends_bind.2 (Act.ends_modify.2 (Act.ends_ite.2 ⟨fun _ => ?_, fun _ => ?_⟩))
  · exact C.runLater (C.post h₁ hf)
  · have hentered := beside_entered (e.holding (e.sink.held.eraseIdx use.index))
    exact C.onHandler (C.settleNow (C.beside hentered h₁) (C.still hentered hf) use.outcome)

theorem useAll : ∀ (uses : List Sink.Use) {e : Endpoint}, I e → Sink.MayUse Usable uses e →
    (Sink.useAll uses).Ends e (fun _ => I) fun _ => I
  | [], _, h, _ => h
  | use :: uses, e, h, hu => by
    refine Act.ends_bind.2 (((C.use h hu.1).and hu.2).imp (fun _ e₁ h₁ => ?_) fun _ _ => And.left)
    exact useAll uses h₁.1 h₁.2

/-- Routing keeps the handle that it was given, or uses it, or does neither. -/
theorem take {handoff : Handoff} (h : I (e.presented handoff))
    (hf : Free (e.presented handoff) handoff.delivery) (hu : Sink.MayTake Usable handoff e) :
    (Sink.take handoff).Ends (e.noting (.deliver handoff)) (fun _ => I) (fun _ => I)
      fun _ => I := by
  unfold Sink.MayTake at hu
  refine Attempt.ends_bind.2 (Attempt.ends_modify.2 (Attempt.ends_bind.2 (Attempt.ends_get.2 ?_)))
  show Attempt.Ends _ (e.presented handoff) _ _ _
  dsimp only at hu
  split
  · exact Attempt.ends_lift.2 (Act.ends_modify.2 (C.keep h hf))
  · exact Attempt.ends_lift.2 (C.settleNow h hf _)
  · exact Attempt.ends_throw.2 h
  · exact Attempt.ends_throw.2 h
  · rename_i uses answer hmode
    rw [show (e.presented handoff).sink.mode = _ from hmode] at hu
    rcases answer with _ | error | payload
    · refine Attempt.ends_bind.2 (Attempt.ends_lift.2 (Act.ends_modify.2 ?_))
      exact Attempt.ends_bind.2 (Attempt.ends_lift.2 (C.useAll uses (C.keep h hf) hu))
    · exact Attempt.ends_bind.2 (Attempt.ends_lift.2 (C.useAll uses h hu))
    · exact Attempt.ends_bind.2 (Attempt.ends_lift.2 (C.useAll uses h hu))

omit C in
theorem raise {fault : Option Fault} {P : Endpoint → Prop} (h : P e) :
    (Sink.raise fault).Ends e (fun _ => P) (fun _ => P) fun _ => P := by
  rcases fault with _ | k | f | f <;> exact h

theorem deliver {handoff : Handoff} (h : I (e.noting (.deliver handoff)))
    (hf : Free (e.noting (.deliver handoff)) handoff.delivery)
    (hu : Sink.MayTake Usable handoff e) :
    (Sink.deliver handoff).Ends e (fun _ => I) (fun _ => I) fun _ => I := by
  have hb : Beside (e.noting (.deliver handoff)) (e.presented handoff) :=
    .aside rfl rfl rfl rfl rfl rfl rfl rfl
  refine Attempt.ends_bind.2 (Attempt.ends_lift.2 (Act.ends_modifyGet.2 ?_))
  refine Attempt.ends_bind.2 ?_
  show Attempt.Ends (Sink.raise (e.plan e.calls.length .deliver)) (e.noting (.deliver handoff))
    _ _ _
  rcases e.plan e.calls.length .deliver with _ | k | f | f
  · refine Attempt.ends_bind.2 ((C.take (C.beside hb h) (C.still hb hf) hu).imp (fun _ e₁ h₁ => ?_)
      (fun _ _ => id) fun _ _ => id)
    exact Attempt.ends_bind.2 (Attempt.ends_get.2 (raise h₁))
  · exact h
  · exact h
  · exact h

theorem settleFailed (h : I e) (ho : Open e d) (outcome : Outcome) :
    (Receiver.settleFailed d outcome).Ends e (fun _ => I) fun _ => I := by
  have hperform : (Task.perform (.settle d (some outcome))).Ends e (fun _ => I) fun _ => I :=
    C.perform h ho
  refine Act.ends_bind.2 ((Act.ends_bind.1 hperform).imp (fun _ e₁ h₁ => ?_) fun _ _ => id)
  exact Act.ends_bind.2 (h₁.imp (fun _ _ => C.counted) fun _ _ => id)

/-- A delivery that routing does not take has to be open, as the receiver settles it. -/
theorem passOn {handoff : Handoff} (h : I (e.noting (.deliver handoff)))
    (hf : Free (e.noting (.deliver handoff)) handoff.delivery)
    (hu : Sink.MayTake Usable handoff e) (hback : e.Returns I Open handoff) :
    (Receiver.passOn handoff).Ends e (fun _ => I) (fun _ => I) fun _ => I := by
  -- the receiver does not see what routing did with the handle before it failed, so `hback` has to
  -- say that the delivery is open
  refine Attempt.ends_bind.2 (Attempt.ends_get.2 (Attempt.ends_bind.2 (Attempt.ends_lift.2
    (Act.ends_contain.2 (Act.ends_run.2 (((C.deliver h hf hu).and hback).imp (fun _ e₁ h₁ => ?_)
      (fun error e₁ h₁ => ?_) fun k e₁ h₁ => ?_))))))
  · exact C.counted h₁.1
  · refine Attempt.ends_bind.2 (Attempt.ends_lift.2 (Act.ends_modify.2 ?_))
    exact Attempt.ends_lift.2 (C.settleFailed (C.told h₁.1)
      (C.stays beside_told (h₁.2 h₁.1)) _)
  · exact Attempt.ends_bind.2 (Attempt.ends_lift.2 (C.settleFailed h₁.1 (h₁.2 h₁.1) _))

/-- An event for a delivery keeps the property if its message is offered to routing in order and,
when routing does not take it, the delivery is open still. -/
theorem message (h : I e)
    (hoffer : e.lifecycle = .opened → e.link.current = some d →
      (Receiver.offer d).Ends e.entered (Offered I Free) (fun _ => I) fun _ => I)
    (hroute : e.OnOffer (fun handoff e' =>
      Sink.MayTake Usable handoff e' ∧ e'.Returns I Open handoff) (.message d)) :
    (Event.message d).perform.Ends e (fun _ => I) fun _ => I := by
  have h₀ : I e.entered := C.beside (beside_entered e) h
  refine message_ends (fun _ => C.beside (.aside rfl rfl rfl rfl rfl rfl rfl rfl)) (fun _ => h)
    fun ho hd => ?_
  rw [Receiver.process_eq]
  refine Attempt.ends_bind.2 (((hoffer ho hd).and (hroute ho hd)).imp (fun offered e₁ h₁ => ?_)
    (fun _ _ => And.left) fun _ _ => And.left)
  rcases offered with _ | handoff
  · exact h₁.1
  · obtain ⟨hu, hback⟩ := h₁.2 handoff rfl
    exact C.passOn h₁.1.1 h₁.1.2 hu hback

omit C in
/-- The tasks that wait are performed one by one. -/
theorem drain (htake : ∀ {e task rest}, I e → e.mailbox.tasks = task :: rest →
      (task.perform).Ends (e.withTasks rest) (fun _ => I) fun _ => I) :
    ∀ (limit : Nat) {e : Endpoint}, I e →
      (ReceivingLink.drain limit).Ends e (fun _ => I) fun _ => I
  | 0, _, h => h
  | limit + 1, e, h => by
    refine Act.ends_bind.2 (Act.ends_modifyGet.2 ?_)
    rcases htasks : e.mailbox.tasks with _ | ⟨task, rest⟩
    · simp only [Mailbox.take?, htasks]
      exact h
    simp only [Mailbox.take?, htasks]
    refine Act.ends_bind.2 ((htake h htasks).imp (fun _ e₁ h₁ => ?_) fun _ _ => id)
    exact Act.ends_bind.2 (drain htake limit h₁)

/-- Every event but the beginning of a delivery and the handling of one keeps the property, if
routing uses a handle that it may use and the property is kept by credit reviews and by the tasks
that wait. -/
theorem event (h : I e)
    (hreview : ∀ {e}, I e → (replenish (some .receiver)).Ends e (fun _ => I) fun _ => I)
    (htake : ∀ {e task rest}, I e → e.mailbox.tasks = task :: rest →
      (task.perform).Ends (e.withTasks rest) (fun _ => I) fun _ => I) :
    ∀ event : Event, e.OnUse Usable event → (match event with
      | .begin _ _ | .message _ => I (e.after event)
      | _ => True) → I (e.after event) := by
  have hdone {α : Type} {act : Act Panic Endpoint α} (hact : act.Ends e (fun _ => I) fun _ => I) :
      I ((act >>= fun _ => pure (Except.ok ()) :
        Act Panic Endpoint (Except ReceiverError Unit)) e).2 := (Act.ends_bind.2 hact).state
  have hbeside {act : Act Panic Endpoint Unit}
      (hact : act.Ends e.entered (fun _ => Beside e.entered) fun _ => Beside e.entered) :
      act.Ends e.entered (fun _ => I) fun _ => I :=
    have h₀ : I e.entered := C.beside (beside_entered e) h
    hact.imp (fun _ _ hb => C.beside hb h₀) fun _ _ hb => C.beside hb h₀
  intro event huse hevent
  cases event with
  | begin | message => exact hevent
  | transfer bytes more =>
    have hb : Beside e { e with link := e.link.transfer bytes more } :=
      .changeCurrent (fun _ => rfl) fun _ => rfl
    exact C.beside hb h
  | abort =>
    have hb : Beside e { e with link := e.link.abort } := .changeCurrent (fun _ => rfl) fun _ => rfl
    exact C.beside hb h
  | setDrain drain =>
    have hb : Beside e { e with link := { e.link with drain } } :=
      ⟨.ofLink rfl rfl (fun _ => rfl) List.suffix_rfl, rfl⟩
    exact C.beside hb h
  | flow credits drain elsewhere =>
    have hflow {e : Endpoint} (h : I e) :
        (Receiver.onFlow credits drain).Ends e (fun _ => I) fun _ => I :=
      Act.ends_bind.2 (Act.ends_get.2 (Act.ends_bind.2 (Act.ends_modify.2 (hreview (C.told h)))))
    refine Act.Ends.state (Q := I) (Act.ends_ite.2 ⟨fun _ => ?_, fun _ => ?_⟩)
    · exact Act.ends_bind.2 (hflow h)
    · exact Act.ends_bind.2 (C.onHandler (hflow (C.beside (beside_entered e) h)))
  | close remoteInitiated => exact hdone (C.onHandler (hbeside (beside_close _ remoteInitiated)))
  | closeWithError condition =>
    exact hdone (C.onHandler (hbeside (beside_closeWithError _ condition)))
  | runPending =>
    refine hdone (Act.ends_bind.2 (Act.ends_get.2 (C.onHandler ?_)))
    exact drain htake _ (C.beside (beside_entered e) h)
  | settle use => exact hdone (C.use h huse)
  | submit => exact hdone (C.runLater (C.ask h))
  | setMode mode =>
    have hb : Beside e { e with sink := { e.sink with mode } } :=
      .aside rfl rfl rfl rfl rfl rfl rfl rfl
    exact C.beside hb h

end Custody

end ReceivingLink
