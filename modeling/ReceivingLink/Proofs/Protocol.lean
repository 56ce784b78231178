import ReceivingLink.Proofs.Agreement
import ReceivingLink.Proofs.Order
import ReceivingLink.Proofs.Turnout

/-!
# The calls of an event for a delivery

`Endpoint.script` lists the calls that an open receiver makes for the delivery at the head of its
link, up to the one that passes a message to routing. They follow from the state before and from
which of them fail. `calls_eq_script` says that these are the calls made, in every state that a run
leads to, but for the one to routing if more deliveries were settled than passed on: then the count
of unsettled deliveries is below zero, and no message is added to it (`withheld_of_overdraft`).
Behind them come only calls that settle deliveries and grant credit.
-/

namespace ReceivingLink

/-- The queue has deliveries that were begun, each once. What is available of the current one waits
in the buffer, and nothing is available of the others. -/
structure Link.Fed (l : Link) : Prop where
  known : l.queue ⊆ l.deliveries.map (·.id)
  nodup : l.queue.Nodup
  measured : ∀ d, l.current = some d → (l.delivery d).available ≤ l.buffer.length
  waiting : ∀ d ∈ l.queue.tail, (l.delivery d).available = 0

namespace Link.Fed

variable {l l' : Link}

theorem changeCurrent {f : Delivery → Delivery} {buffer : Bytes} (h : l.Fed)
    (hid : ∀ x, (f x).id = x.id) (hf : ∀ x, (f x).available ≤ buffer.length) :
    ({ l with buffer }.changeCurrent f).Fed := by
  have hids := Link.map_changeCurrent { l with buffer } hid
  have hqueue := Link.changeCurrent_queue { l with buffer } f
  refine ⟨by rw [hqueue, hids]; exact h.known, by rw [hqueue]; exact h.nodup, fun d hd => ?_,
    fun d hd => ?_⟩
  · rw [Link.current, hqueue] at hd
    rw [Link.delivery_changeCurrent_self _ hid hd (h.known (List.mem_of_mem_head? hd)),
      Link.changeCurrent_buffer]
    exact hf _
  · rw [hqueue] at hd
    have hne : ({ l with buffer } : Link).current ≠ some d := by
      intro hcurrent
      obtain ⟨rest, hq⟩ : ∃ rest, l.queue = d :: rest := List.head?_eq_some_iff.1 hcurrent
      have hnodup := h.nodup
      simp only [hq, List.tail_cons] at hd
      rw [hq, List.nodup_cons] at hnodup
      exact hnodup.1 hd
    rw [Link.delivery_changeCurrent_ne _ hid hne]
    exact h.waiting d hd

theorem drained (h : l.Fed) : l.drained.Fed := h.changeCurrent (fun _ => rfl) fun _ => Nat.zero_le _

theorem abort (h : l.Fed) : l.abort.Fed := h.changeCurrent (fun _ => rfl) fun _ => Nat.zero_le _

theorem transfer (h : l.Fed) (bytes : Bytes) (more : Bool) : (l.transfer bytes more).Fed :=
  h.changeCurrent (fun _ => rfl) fun _ => Nat.le_refl _

theorem advance (h : l.Fed) : l.advance.Fed := by
  have htail {d : DeliveryId} (hd : d ∈ l.queue.tail) : (l.advance.delivery d).available = 0 := by
    rw [Link.advance_delivery]
    exact h.waiting d hd
  refine ⟨?_, ?_, fun d hd => ?_, fun d hd => ?_⟩
  · rw [Link.advance_queue, Link.advance_deliveries]
    exact fun x hx => h.known (List.mem_of_mem_tail hx)
  · rw [Link.advance_queue]
    exact h.nodup.tail
  · rw [Link.current, Link.advance_queue] at hd
    rw [htail (List.mem_of_mem_head? hd)]
    exact Nat.zero_le _
  · rw [Link.advance_queue] at hd
    exact htail (List.mem_of_mem_tail hd)

theorem begin (h : l.Fed) (hn : l.Numbered) (format : UInt32) (remote : Option RemoteState) :
    (l.beginWith format remote).Fed := by
  have hnew : ((l.beginWith format remote).delivery ⟨l.deliveries.length + 1⟩).available = 0 := by
    rw [hn.delivery_begun]
  have hold {d : DeliveryId} (hd : d ∈ l.queue) :
      (l.beginWith format remote).delivery d = l.delivery d :=
    hn.delivery_beginWith format remote (h.known hd)
  refine ⟨?_, ?_, fun d hd => ?_, fun d hd => ?_⟩
  · rw [Link.beginWith_ids]
    exact List.append_subset.2 ⟨List.subset_append_of_subset_left _ h.known,
      List.subset_append_right _ _⟩
  · rw [Link.beginWith_queue]
    have hfresh : ⟨l.deliveries.length + 1⟩ ∉ l.queue := fun hm => hn.fresh (h.known hm)
    exact List.nodup_middle.2 (List.nodup_cons.2 ⟨by simpa using hfresh, by simpa using h.nodup⟩)
  · rw [Link.beginWith_buffer]
    rcases Link.beginWith_current hd with hd | ⟨-, rfl⟩
    · rw [hold (List.mem_of_mem_head? hd)]
      exact h.measured d hd
    · rw [hnew]
      exact Nat.zero_le _
  · rcases Link.beginWith_tail hd with hd | rfl
    · rw [hold (List.mem_of_mem_tail hd)]
      exact h.waiting d hd
    · exact hnew

/-- The same of another link with the same deliveries, as far as that goes. -/
theorem congr (h : l.Fed) (hids : l'.deliveries.map (·.id) = l.deliveries.map (·.id))
    (hq : l'.queue = l.queue) (hb : l'.buffer = l.buffer)
    (ha : ∀ d, (l'.delivery d).available = (l.delivery d).available) : l'.Fed := by
  refine ⟨by rw [hq, hids]; exact h.known, by rw [hq]; exact h.nodup, fun d hd => ?_,
    fun d hd => ?_⟩
  · rw [ha, hb]
    exact h.measured d (by rw [← hd, Link.current, Link.current, hq])
  · rw [ha]
    exact h.waiting d (hq ▸ hd)

end Link.Fed

/-- The link is fed, and only where large messages are to be spooled is one coming in. -/
structure Endpoint.Poised (e : Endpoint) : Prop where
  fed : e.link.Fed
  lodged : e.slot.isSome → e.isPersistent

/-- The link stays fed, and storage persistent or not. -/
structure Feeds (e e' : Endpoint) : Prop where
  fed : e.link.Fed → e'.link.Fed
  persistent : e'.isPersistent = e.isPersistent

/-- No large message comes in that did not before. -/
def Empties (e e' : Endpoint) : Prop := e'.slot.isSome → e.slot.isSome

section Poised

variable {e e₁ e₂ : Endpoint}

theorem Feeds.trans (h : Feeds e e₁) (h' : Feeds e₁ e₂) : Feeds e e₂ :=
  ⟨h'.fed ∘ h.fed, h'.persistent.trans h.persistent⟩

theorem Untouched.feeds (h : Untouched e e₁) : Feeds e e₁ :=
  ⟨fun hf => hf.congr h.begun h.queue h.buffer h.available, h.isPersistent⟩

theorem feeds_frame : AssemblyFrame Feeds fun _ _ => True where
  refl := fun _ => ⟨id, rfl⟩
  trans := .trans
  blame := fun _ _ => trivial
  noted := fun _ => ⟨id, rfl⟩
  told := fun _ => ⟨id, rfl⟩
  planned := fun _ => trivial
  stored := fun h _ => ⟨id, (sameSetting_stored h).isPersistent⟩
  filed := fun h => ⟨id, (sameSetting_stored h.toSameKind).isPersistent⟩
  deleting := ⟨id, rfl⟩
  taking := ⟨id, rfl⟩
  drained := ⟨.drained, rfl⟩
  own := fun _ => trivial
  slotted := ⟨id, rfl⟩
  counted := ⟨id, rfl⟩
  advanced := ⟨.advance, rfl⟩

theorem empties_frame : DiscardFrame Empties fun _ _ => True where
  refl := fun _ => id
  trans := fun h h' => h ∘ h'
  blame := fun _ _ => trivial
  noted := fun _ => id
  told := fun _ => id
  planned := fun _ => trivial
  own := fun _ => trivial
  filed := fun _ => id
  deleting := id
  cleared := by
    intro e o
    cases o with
    | receiver => exact nofun
    | standalone => exact id

theorem Endpoint.Poised.untouched (h : e.Poised) (hu : Untouched e e₁) : e₁.Poised where
  fed := hu.feeds.fed h.fed
  lodged := by
    rw [hu.slot_eq, hu.isPersistent]
    exact h.lodged

/-- Only where large messages are to be spooled does one come in. -/
theorem accept_lodges (e : Endpoint) (d : DeliveryId) :
    let P (e' : Endpoint) := e'.slot.isSome → e.slot.isSome ∨ e.isPersistent
    (Reassembler.accept .receiver d).Ends e (fun _ => P) (fun _ => P) fun _ => P := by
  intro P
  have hdone {e' : Endpoint} (h : e.slot.isSome ∨ e.isPersistent) : P e' := fun _ => h
  rcases hslot : e.slot with _ | a
  swap
  · have hsome : e.slot.isSome ∨ e.isPersistent := .inl (by simp [hslot])
    exact Attempt.ends_always (fun _ _ => hdone hsome) (fun _ _ => hdone hsome)
      fun _ _ => hdone hsome
  by_cases hp : e.isPersistent
  · exact Attempt.ends_always (fun _ _ => hdone (.inr hp)) (fun _ _ => hdone (.inr hp))
      fun _ _ => hdone (.inr hp)
  have hcurrent : (e.reassembler.get .receiver).slot = none := hslot
  have hkeeps {e' : Endpoint} (h : Keeps e e') : P e' := fun hsome => by
    rw [h.slot, hslot] at hsome
    cases hsome
  refine Attempt.ends_bind.2 (Attempt.ends_get.2 (Attempt.ends_ite.2 ⟨fun _ => ?_, fun _ =>
    Attempt.ends_ite.2 ⟨fun _ => ?_, fun _ => ?_⟩⟩))
  · refine Attempt.ends_bind.2 (Attempt.ends_lift.2 (Act.ends_bind.2 (ends_current.2 ?_)))
    rw [hcurrent]
    exact Attempt.ends_bind.2 (Attempt.ends_lift.2 ((moveOn_keeps e).imp (fun _ _ => hkeeps)
      fun _ _ h => hkeeps h.1))
  · refine Attempt.ends_bind.2 (Attempt.ends_bind.2 (Attempt.ends_get.2 ?_))
    rw [if_neg hp]
    exact hkeeps (.refl e)
  · refine Attempt.ends_bind.2 (Attempt.ends_bind.2 (Attempt.ends_lift.2 (ends_current.2
      (Attempt.ends_bind.2 (Attempt.ends_get.2 ?_)))))
    rw [if_neg (by simp [hp])]
    refine Attempt.ends_bind.2 (Attempt.ends_lift.2 (ends_current.2 ?_))
    rw [hcurrent]
    refine Attempt.ends_bind.2 (Attempt.ends_lift.2 ((recv_keeps e).imp (fun payload e₁ h₁ => ?_)
      fun _ _ h => hkeeps h.1))
    refine Attempt.ends_bind.2 (Attempt.ends_lift.2 ((moveOn_keeps e₁).imp (fun _ e₂ h₂ => ?_)
      fun _ _ h => hkeeps (h₁.trans h.1)))
    refine Attempt.ends_bind.2 (Attempt.ends_adapt.2 ((keeps_settling.create_within
      (keeps_noting rfl) d e₂).imp (fun _ _ h => ?_) (fun _ _ h => ?_) fun _ _ h => ?_))
    · exact hkeeps ((h₁.trans h₂).trans h)
    · exact hkeeps ((h₁.trans h₂).trans h)
    · exact hkeeps ((h₁.trans h₂).trans h.1)

/-- What holds after reassembly is carried on to the end, if it does not matter that a message is
passed on. -/
theorem process_carries {P : Endpoint → Prop} {d : DeliveryId}
    (huntouched : ∀ {e e₁}, P e → Untouched e e₁ → P e₁)
    (hnoted : ∀ {e handoff}, P e → P (e.noting (.deliver handoff)))
    (haccept : (Reassembler.accept .receiver d).Ends e (fun _ => P) (fun _ => P) fun _ => P) :
    (Receiver.process d).Ends e (fun _ => P) (fun _ => P) fun _ => P := by
  refine Attempt.ends_bind.2 (Attempt.ends_adapt.2 (haccept.imp (fun r e₁ h₁ => ?_) (fun _ _ => id)
    fun _ _ => id))
  rcases r with _ | _ | m
  · exact Attempt.ends_lift.2 ((untouched_frame.onAborted_within d e₁).imp
      (fun _ _ => huntouched h₁) fun _ _ h₂ => huntouched h₁ h₂.1)
  · exact h₁
  refine Attempt.ends_bind.2 (Attempt.ends_adapt.2 ((resolveTransaction_ends e₁ d).imp
    (fun transaction e₂ h₂ => ?_) (fun _ _ h₂ => huntouched h₁ h₂.1)
    fun _ _ h₂ => huntouched h₁ h₂.1))
  have h₂ := huntouched h₁ h₂
  have hhanded {e₃ : Endpoint} (h₃ : Handed e₂ d m e₃) : P e₃ := by
    obtain ⟨handoff, -, -, hu⟩ := h₃
    exact huntouched (hnoted h₂) hu
  exact (handOff_hands e₂ m d transaction).imp (fun _ _ => hhanded) (fun _ _ => hhanded)
    fun _ _ h₃ => h₃.elim hhanded fun h₃ => huntouched h₂ h₃.1

theorem process_poised (h : e.Poised) (d : DeliveryId) :
    (Receiver.process d).Ends e (fun _ => Endpoint.Poised) (fun _ => Endpoint.Poised)
      fun _ => Endpoint.Poised := by
  have hpoised {e' : Endpoint} (hf : Feeds e e')
      (hs : e'.slot.isSome → e.slot.isSome ∨ e.isPersistent) : e'.Poised :=
    ⟨hf.fed h.fed, fun hsome => by
      rw [hf.persistent]
      exact (hs hsome).elim h.lodged id⟩
  refine process_carries .untouched (fun h => ⟨h.fed, h.lodged⟩) ?_
  exact ((feeds_frame.accept_within .receiver d e).and (accept_lodges e d)).imp
    (fun _ _ h₁ => hpoised h₁.1 h₁.2) (fun _ _ h₁ => hpoised h₁.1 h₁.2)
    fun _ _ h₁ => hpoised h₁.1.1 h₁.2

theorem close_poised (h : e.Poised) (remoteInitiated : Bool) :
    (Receiver.close remoteInitiated).Ends e (fun _ => Endpoint.Poised)
      fun _ => Endpoint.Poised := by
  have hon {R : Endpoint → Endpoint → Prop} (hr : ∀ e, R e e) (e : Endpoint) :
      requireOnHandler.Ends e (fun _ e' => R e e') fun _ e' => R e e' ∧ True := by
    refine (requireOnHandler_stays e).imp ?_ ?_
    · rintro _ _ rfl
      exact hr _
    · rintro _ _ rfl
      exact ⟨hr _, trivial⟩
  have hpoised {e' : Endpoint} (hf : Feeds e e') (hs : Empties e e') : e'.Poised :=
    ⟨hf.fed h.fed, fun hsome => by
      rw [hf.persistent]
      exact h.lodged (hs hsome)⟩
  refine ((feeds_frame.close_ends ⟨id, rfl⟩ ⟨id, rfl⟩ (hon feeds_frame.refl e) remoteInitiated).and
    (empties_frame.close_ends id id (hon empties_frame.refl e) remoteInitiated)).imp
    (fun _ _ h₁ => hpoised h₁.1 h₁.2) fun _ _ h₁ => hpoised h₁.1.1 h₁.2.1

theorem Endpoint.Poised.onHandler (h : e.Poised) {act : Act Panic Endpoint Unit}
    (hact : e.entered.Poised → act.Ends e.entered (fun _ => Endpoint.Poised)
      fun _ => Endpoint.Poised) :
    ((do
      ReceivingLink.onHandler act
      return .ok () : Act Panic Endpoint (Except ReceiverError Unit)) e).2.Poised := by
  have hleave {e' : Endpoint} (h' : e'.Poised) : { e' with onHandler := e.onHandler }.Poised :=
    h'.untouched untouched_frame.placed
  exact Act.Ends.state (Q := Endpoint.Poised) (Act.ends_bind.2 (ends_onHandler.2
    ((hact (h.untouched (enter_untouched e))).imp (fun _ _ => hleave) fun _ _ => hleave)))

theorem Endpoint.Poised.after {known : DeliveryId → Prop} (h : e.Poised) (hl : InLine known e)
    (event : Event) : (e.after event).Poised := by
  have heffect (hm : ∀ d, event ≠ .message d) : Effect e event (e.after event) := aside_effect hm
  cases event with
  | begin format remote => exact ⟨h.fed.begin hl.numbered format remote, h.lodged⟩
  | transfer bytes more => exact ⟨h.fed.transfer bytes more, h.lodged⟩
  | abort => exact ⟨h.fed.abort, h.lodged⟩
  | message d =>
    exact (message_ends (Q := Endpoint.Poised) (fun _ h' => h'.untouched (.leave (.refl _)))
      (fun _ => h) fun _ _ => process_poised (h.untouched (enter_untouched e)) d).state
  | close remoteInitiated => exact h.onHandler fun h => close_poised h remoteInitiated
  | closeWithError condition =>
    refine h.onHandler fun h => Act.ends_bind.2 ((setCondition_untouched condition _).imp
      (fun _ e₁ h₁ => close_poised (h.untouched h₁) false) fun _ _ h₁ => h.untouched h₁.1)
  | setDrain | flow | runPending | settle | submit | setMode => exact h.untouched (heffect nofun)

theorem Endpoint.Poised.afterAll {known : DeliveryId → Prop} : ∀ (run : List Event) {e : Endpoint},
    e.Poised → InLine known e → (e.afterAll run).Poised
  | [], _, h, _ => h
  | event :: run, _, h, hl => afterAll run (h.after hl event) (hl.after event)

theorem Endpoint.Fresh.poised (h : e.Fresh) : e.Poised where
  fed := ⟨by simp [h.queue], by simp [h.queue], by simp [Link.current, h.queue], by simp [h.queue]⟩
  lodged := fun hsome => by
    rw [show e.slot = none from h.slot] at hsome
    cases hsome

end Poised

/-- The number of bytes that makes a message of the receiver large. -/
def Endpoint.threshold? (e : Endpoint) : Option Nat := (e.reassembler.get .receiver).threshold

section Threshold

theorem threshold_assembly :
    AssemblyFrame (fun e e' => e'.threshold? = e.threshold?) fun _ _ => True where
  refl := fun _ => rfl
  trans := fun h h' => h'.trans h
  blame := fun _ _ => trivial
  noted := fun _ => rfl
  told := fun _ => rfl
  planned := fun _ => trivial
  stored := fun _ _ => rfl
  filed := fun _ => rfl
  deleting := rfl
  taking := rfl
  drained := rfl
  own := fun _ => trivial
  slotted := by
    intro e o _
    cases o <;> rfl
  counted := rfl
  advanced := rfl

theorem threshold_settling : SettleFrame fun e e' => e'.threshold? = e.threshold? where
  toTellFrame := threshold_assembly.toTellFrame
  granting := fun _ => rfl
  flowed := rfl
  asked := rfl
  flushed := rfl
  counted := fun _ _ => rfl
  settling := fun _ => rfl
  disposed := rfl
  settled := rfl
  posted := rfl
  taken := fun _ => rfl
  tallied := rfl
  routed := rfl
  placed := rfl

theorem afterAll_threshold : ∀ (run : List Event) (e : Endpoint),
    (e.afterAll run).threshold? = e.threshold?
  | [], _ => rfl
  | event :: run, e => (afterAll_threshold run (e.after event)).trans
      (after_within threshold_assembly threshold_settling rfl rfl event e)

/-- No bytes make no large message. -/
theorem Endpoint.Fresh.threshold_ne_zero {e : Endpoint} (h : e.Fresh) : e.threshold? ≠ some 0 := by
  rw [Endpoint.threshold?, h.threshold, Config.largeMessageThreshold]
  split
  · rw [ne_eq, Option.some_inj]
    omega
  · exact nofun

end Threshold

/-! ## Behind reassembly -/

namespace Endpoint

variable (e : Endpoint)

/-- The transaction that the sender has a delivery belong to. -/
def txn? (d : DeliveryId) : Option TxnId := (e.link.delivery d).remote.bind RemoteState.txn?

/-- The calls that look for the transaction of a delivery. -/
def lookups (d : DeliveryId) : List Call := (e.txn? d).toList.map fun txn => .lookup txn false

/-- The transaction of a delivery is looked for whether it is found or not. -/
theorem made_lookups (n : Nat) (d : DeliveryId) : e.reports.made n (e.lookups d) = e.lookups d := by
  unfold lookups
  cases e.txn? d
  · rfl
  · simp [Reports.made]

/-- What is passed to routing with a message. A transaction is named only if it is known. -/
def handoff (d : DeliveryId) (message : Message) : Handoff where
  message
  delivery := d
  link := e.link.name
  transaction := (e.txn? d).filter fun txn => txn ∈ e.transactions.known
  duplicateDetection := e.config.duplicateDetection

/-- The calls from a message to routing, the first of which is number `n`. -/
def passing (n : Nat) (d : DeliveryId) (message : Message) : List Call :=
  e.reports.made n (e.lookups d ++ [.deliver (e.handoff d message)])

variable {e} in
theorem passing_of_none {n : Nat} {d : DeliveryId} {message : Message}
    (h : e.reports.broken? n (e.lookups d) = none) :
    e.passing n d message = e.lookups d ++ [.deliver (e.handoff d message)] := by
  rw [passing, Reports.made_append_of_none _ h]
  simp [Reports.made]

variable {e} in
theorem passing_of_some {n : Nat} {d : DeliveryId} {message : Message} {failed : Call × Failure}
    (h : e.reports.broken? n (e.lookups d) = some failed) :
    e.passing n d message = e.lookups d := by
  rw [passing, Reports.made_append_of_some _ (by simp [h]), e.made_lookups]

/-- The calls that are made for the delivery at the head, up to the one to routing. -/
def script (d : DeliveryId) : List Call :=
  let t := e.turnout .receiver d
  t.calls ++
    match t.result with
    | .ok (.complete message) => e.passing (e.calls.length + t.calls.length) d message
    | _ => []

variable {e} in
theorem script_of_forms {d : DeliveryId} {message : Message}
    (h : (e.turnout .receiver d).result = .ok (.complete message)) :
    e.script d = (e.turnout .receiver d).calls ++
      e.passing (e.calls.length + (e.turnout .receiver d).calls.length) d message := by
  simp [script, h]

variable {e} in
theorem script_of_forms_none {d : DeliveryId}
    (h : ∀ message, (e.turnout .receiver d).result ≠ .ok (.complete message)) :
    e.script d = (e.turnout .receiver d).calls := by
  dsimp only [script]
  split
  · exact absurd ‹_› (h _)
  · exact List.append_nil _

/-- Those of the calls that are made: a message is not passed to routing while the count of
unsettled deliveries is below zero. -/
def permitted (calls : List Call) : List Call :=
  if 0 ≤ e.pending.receiver then calls else calls.filter (·.handoff?.isNone)

theorem permitted_append (calls rest : List Call) :
    e.permitted (calls ++ rest) = e.permitted calls ++ e.permitted rest := by
  unfold permitted
  split
  · rfl
  · exact List.filter_append ..

variable {e} in
theorem permitted_of_forall {calls : List Call} (h : ∀ call ∈ calls, call.handoff? = none) :
    e.permitted calls = calls := by
  unfold permitted
  split
  · rfl
  · exact List.filter_eq_self.2 fun call hcall => by rw [h call hcall]; rfl

theorem handoff?_lookups (d : DeliveryId) : ∀ call ∈ e.lookups d, call.handoff? = none := by
  intro call hcall
  obtain ⟨txn, -, rfl⟩ := List.mem_map.1 hcall
  rfl

theorem permitted_lookups (d : DeliveryId) : e.permitted (e.lookups d) = e.lookups d :=
  permitted_of_forall (e.handoff?_lookups d)

theorem permitted_deliver (handoff : Handoff) : e.permitted [.deliver handoff] =
    if 0 ≤ e.pending.receiver then [.deliver handoff] else [] := rfl

end Endpoint

/-- None of the calls behind those of before is one to routing if nothing was passed on. -/
theorem handoff?_of_handoffs {e e' : Endpoint} {made : List Call}
    (hcalls : e'.calls = e.calls ++ made) (h : e'.handoffs = e.handoffs) :
    ∀ call ∈ made, call.handoff? = none := by
  rw [Endpoint.handoffs, hcalls, List.filterMap_append] at h
  exact List.filterMap_eq_nil_iff.1 (List.append_right_eq_self.1 h)

/-- What is passed to routing beside a message is the same, and so is what may keep it back. -/
structure SameTerms (e e' : Endpoint) : Prop where
  config : e'.config = e.config
  name : e'.link.name = e.link.name
  remote : ∀ d, (e'.link.delivery d).remote = (e.link.delivery d).remote
  transactions : e'.transactions = e.transactions
  pending : e'.pending = e.pending
  handler : e'.mailbox.handler = e.mailbox.handler
  onHandler : e'.onHandler = e.onHandler

/-- Calls were made behind those given, to settle deliveries and to grant credit. -/
def Trails (calls : List Call) (e : Endpoint) : Prop :=
  ∃ rest, e.calls = calls ++ rest ∧ ∀ call ∈ rest, call.grants ∨ call.settles

section Behind

variable {e e₁ e₂ : Endpoint} {made : List Call} {link : Link} {slot : Option Accumulator}
  {d : DeliveryId}

theorem changeCurrent_name (l : Link) (f : Delivery → Delivery) :
    (l.changeCurrent f).name = l.name := by
  unfold Link.changeCurrent
  split <;> rfl

theorem advance_name (l : Link) : l.advance.name = l.name := by
  unfold Link.advance
  split <;> rfl

theorem sameTerms_frame : AssemblyFrame SameTerms fun _ _ => True where
  refl := fun _ => ⟨rfl, rfl, fun _ => rfl, rfl, rfl, rfl, rfl⟩
  trans := fun h h' => ⟨h'.config.trans h.config, h'.name.trans h.name,
    fun d => (h'.remote d).trans (h.remote d), h'.transactions.trans h.transactions,
    h'.pending.trans h.pending, h'.handler.trans h.handler, h'.onHandler.trans h.onHandler⟩
  blame := fun _ _ => trivial
  noted := fun _ => ⟨rfl, rfl, fun _ => rfl, rfl, rfl, rfl, rfl⟩
  told := fun _ => ⟨rfl, rfl, fun _ => rfl, rfl, rfl, rfl, rfl⟩
  planned := fun _ => trivial
  stored := fun _ _ => ⟨rfl, rfl, fun _ => rfl, rfl, rfl, rfl, rfl⟩
  filed := fun _ => ⟨rfl, rfl, fun _ => rfl, rfl, rfl, rfl, rfl⟩
  deleting := ⟨rfl, rfl, fun _ => rfl, rfl, rfl, rfl, rfl⟩
  taking := ⟨rfl, rfl, fun _ => rfl, rfl, rfl, rfl, rfl⟩
  drained := ⟨rfl, changeCurrent_name _ _,
    Link.delivery_changeCurrent _ (fun _ => rfl) fun _ => rfl, rfl, rfl, rfl, rfl⟩
  own := fun _ => trivial
  slotted := ⟨rfl, rfl, fun _ => rfl, rfl, rfl, rfl, rfl⟩
  counted := ⟨rfl, rfl, fun _ => rfl, rfl, rfl, rfl, rfl⟩
  advanced := ⟨rfl, advance_name _, by simp, rfl, rfl, rfl, rfl⟩

theorem trails_frame : SettleFrame fun e e' => Trails e.calls e' where
  refl := fun _ => ⟨[], by simp, by simp⟩
  trans := by
    rintro _ _ _ ⟨rest, h, hrest⟩ ⟨rest', h', hrest'⟩
    refine ⟨rest ++ rest', by rw [h', h, List.append_assoc], fun call hc => ?_⟩
    exact (List.mem_append.1 hc).elim (hrest call) (hrest' call)
  blame := fun _ _ => trivial
  told := fun _ => ⟨[], by simp, by simp⟩
  planned := fun _ => trivial
  granting := fun h => ⟨[_], rfl, fun _ hc => .inl (List.mem_singleton.1 hc ▸ h)⟩
  flowed := ⟨[], by simp, by simp⟩
  asked := ⟨[], by simp, by simp⟩
  flushed := ⟨[], by simp, by simp⟩
  counted := fun _ _ => ⟨[], by simp, by simp⟩
  settling := fun h => ⟨[_], rfl, fun _ hc => .inr (List.mem_singleton.1 hc ▸ h)⟩
  disposed := ⟨[], by simp, by simp⟩
  settled := ⟨[], by simp, by simp⟩
  posted := ⟨[], by simp, by simp⟩
  taken := fun _ => ⟨[], by simp, by simp⟩
  tallied := ⟨[], by simp, by simp⟩
  routed := ⟨[], by simp, by simp⟩
  placed := ⟨[], by simp, by simp⟩

theorem SameTerms.txn? (h : SameTerms e e₁) (d : DeliveryId) : e₁.txn? d = e.txn? d := by
  rw [Endpoint.txn?, h.remote]
  rfl

/-- A transaction that is not known is not made up. -/
theorem ask_ends (txn : TxnId) (e : Endpoint) :
    (Transactions.ask txn false).Ends e
      (fun found e' => e.transactions.failing = false ∧
        found = (some txn).filter (fun txn => txn ∈ e.transactions.known) ∧
        e' = { e with transactions := e'.transactions })
      (fun cause e' => cause = { text := "resource manager unavailable" } ∧
        e.transactions.failing ∧ e' = { e with transactions := e'.transactions })
      fun _ _ => False := by
  by_cases hf : e.transactions.failing
  · simp [Transactions.ask, Transactions.lookup, hf]
  · by_cases hk : txn ∈ e.transactions.known
    · simp [Transactions.ask, Transactions.lookup, Option.filter, hf, hk]
    · simp [Transactions.ask, Transactions.lookup, Option.filter, hf, hk]

/-- The transaction of a delivery is looked for if it has one. -/
theorem Made.resolve_ends (h : Made .receiver e made link slot e₁) (ht : SameTerms e e₁)
    (d : DeliveryId) :
    (Receiver.resolveTransaction d).Ends e₁
      (fun transaction e₂ => e.reports.broken? (e.calls.length + made.length) (e.lookups d) = none ∧
        transaction = (e.txn? d).filter (fun txn => txn ∈ e.transactions.known) ∧
        e₂ = { e₁ with
          calls := e.calls ++ (made ++ e.lookups d), transactions := e₂.transactions })
      (fun error e₂ => (∃ call cause, error = .transaction cause ∧
          e.reports.broken? (e.calls.length + made.length) (e.lookups d) = some (call, cause)) ∧
        e₂.calls = e.calls ++ (made ++ e.lookups d))
      fun _ _ => ¬ e.Answering := by
  have htxn : ((e₁.link.delivery d).remote.bind RemoteState.txn?) = e.txn? d := ht.txn? d
  refine Attempt.ends_bind.2 (Attempt.ends_get.2 ?_)
  rw [htxn]
  rcases hd : e.txn? d with _ | txn
  · have hlookups : e.lookups d = [] := by simp [Endpoint.lookups, hd]
    rw [hlookups, List.append_nil, ← h.calls]
    exact ⟨rfl, rfl, rfl⟩
  have hlookups : e.lookups d = [.lookup txn false] := by simp [Endpoint.lookups, hd]
  rw [hlookups, ← List.append_assoc, ← h.calls]
  refine Attempt.ends_adapt.2 (Attempt.ends_bind.2 ((h.attempt_ends
    (by simp [Call.point, Endpoint.messagePoints]) rfl).imp ?_ ?_ fun _ _ => id))
  · rintro _ _ ⟨hr, rfl⟩
    refine (ask_ends txn _).imp ?_ ?_ fun _ _ => False.elim
    · rintro found e₂ ⟨hf : e₁.transactions.failing = false, rfl, he₂⟩
      refine ⟨Reports.broken?_of_none (hr.trans (by simp [Endpoint.ownFailure?, hf])), ?_, he₂⟩
      rw [← ht.transactions]
      rfl
    · rintro cause e₂ ⟨rfl, hf : e₁.transactions.failing, he₂⟩
      refine ⟨⟨_, _, rfl, Reports.broken?_of_some (hr.trans (if_pos hf))⟩, ?_⟩
      rw [he₂]
      rfl
  · rintro cause _ ⟨hr, rfl⟩
    exact ⟨⟨_, cause, rfl, Reports.broken?_of_some hr⟩, rfl⟩

/-- A message is passed to routing unless the count of unsettled deliveries is out of order. Routing
then settles and grants, whatever becomes of the message. -/
theorem handOff_trails (hon : e.isOnHandler) (m : Message) (d : DeliveryId)
    (transaction : Option TxnId) :
    let handoff : Handoff :=
      { message := m, delivery := d, link := e.link.name, transaction,
        duplicateDetection := e.config.duplicateDetection }
    let T := Trails (e.calls ++ if 0 ≤ e.pending.receiver then [Call.deliver handoff] else [])
    (Receiver.handOff m d transaction).Ends e (fun _ => T) (fun _ => T) fun _ => T := by
  intro handoff T
  have F := trails_frame
  by_cases hpos : 0 ≤ e.pending.receiver
  swap
  · have hkept : T e := ⟨[], by simp [hpos], by simp⟩
    refine Attempt.ends_bind.2 (Attempt.ends_lift.2 ((increment_panics (Int.not_le.1 hpos)).imp
      (fun _ _ => False.elim) ?_))
    rintro _ _ rfl
    exact hkept
  have hT : T = Trails (e.calls ++ [Call.deliver handoff]) := by simp only [T, if_pos hpos]
  rw [hT]
  refine Attempt.ends_bind.2 (Attempt.ends_lift.2 ((increment_ends hon hpos).imp ?_
    fun _ _ => False.elim))
  rintro _ e₁ rfl
  refine Attempt.ends_bind.2 (Attempt.ends_get.2 ?_)
  have htrails {e₂ e₃ : Endpoint} (h : Trails (e.calls ++ [Call.deliver handoff]) e₂)
      (h' : Trails e₂.calls e₃) : Trails (e.calls ++ [Call.deliver handoff]) e₃ := by
    have hnoted : Trails { e with calls := e.calls ++ [Call.deliver handoff] }.calls e₂ := h
    exact F.trans hnoted h'
  refine Attempt.ends_bind.2 (Attempt.ends_lift.2 (Act.ends_contain.2 (Act.ends_run.2
    ((F.deliver_ends _ handoff).imp (fun _ e₂ h₂ => ?_) (fun error e₂ h₂ => ?_)
      fun k e₂ h₂ => ?_))))
  · exact htrails h₂ (F.counted rfl rfl)
  · refine Attempt.ends_bind.2 (Attempt.ends_lift.2 (Act.ends_modify.2 ?_))
    exact Attempt.ends_lift.2 ((F.settleFailed_within d _ _).imp (fun _ _ => htrails h₂)
      fun _ _ h₃ => htrails h₂ h₃.1)
  · exact Attempt.ends_bind.2 (Attempt.ends_lift.2 ((F.settleFailed_within d _ _).imp
      (fun _ _ => htrails h₂) fun _ _ h₃ => htrails h₂ h₃.1))

/-- The calls of an event for the delivery at the head are those of the script that are permitted,
and behind them come calls that settle and grant. -/
theorem process_trails (h : e.Writable .receiver) (hon : e.isOnHandler) (d : DeliveryId) :
    let T := Trails (e.calls ++ e.permitted (e.script d))
    (Receiver.process d).Ends e (fun _ => T) (fun _ => T) fun _ e' => ¬ e.Answering ∨ T e' := by
  intro T
  let t := e.turnout .receiver d
  have F := trails_frame
  have hcomes := (accept_comes h.persistent d).and
    ((sameTerms_frame.accept_within .receiver d e).and
      (sameSetting_frame.accept_within .receiver d e))
  have hreassembled {e₁ : Endpoint} (hcalls : e₁.calls = e.calls ++ t.calls)
      (hs₁ : SameSetting e e₁) : e.permitted t.calls = t.calls :=
    Endpoint.permitted_of_forall (handoff?_of_handoffs hcalls hs₁.handoffs)
  -- where no message is formed the script ends with reassembly
  have hformless {e₁ : Endpoint} (hn : ∀ m, t.result ≠ .ok (.complete m))
      (hcalls : e₁.calls = e.calls ++ t.calls) (hs₁ : SameSetting e e₁) :
      e.calls ++ e.permitted (e.script d) = e₁.calls := by
    rw [Endpoint.script_of_forms_none hn, hreassembled hcalls hs₁, hcalls]
  have hends {e₁ : Endpoint} (hcalls : e.calls ++ e.permitted (e.script d) = e₁.calls) : T e₁ :=
    ⟨[], by rw [hcalls, List.append_nil], by simp⟩
  refine Attempt.ends_bind.2 (Attempt.ends_adapt.2 (hcomes.imp (fun r e₁ h₁ => ?_)
    (fun error e₁ h₁ => ?_) fun _ _ h₁ => .inl (mt h.responsive h₁.1)))
  swap
  · obtain ⟨⟨hr, h₁⟩, -, hs₁⟩ := h₁
    exact hends (hformless (by simp [t, hr]) h₁.calls hs₁)
  obtain ⟨⟨hr, h₁⟩, ht₁, hs₁⟩ := h₁
  rcases r with _ | _ | m
  · have hT : T = Trails e₁.calls :=
      congrArg Trails (hformless (by simp [t, hr]) h₁.calls hs₁)
    rw [hT]
    exact Attempt.ends_lift.2 ((F.onAborted_within d e₁).imp (fun _ _ => id)
      fun _ _ h₂ => .inr h₂.1)
  · exact hends (hformless (by simp [t, hr]) h₁.calls hs₁)
  have hscript : e.permitted (e.script d) =
      t.calls ++ e.permitted (e.passing (e.calls.length + t.calls.length) d m) := by
    rw [Endpoint.script_of_forms hr, e.permitted_append, hreassembled h₁.calls hs₁]
  refine Attempt.ends_bind.2 (Attempt.ends_adapt.2 ((h₁.resolve_ends ht₁ d).imp
    (fun transaction e₂ h₂ => ?_) (fun _ e₂ h₂ => ?_) fun _ _ => .inl))
  · obtain ⟨hnone, rfl, he₂⟩ := h₂
    have hon₂ : e₂.isOnHandler := by
      rw [he₂, Endpoint.isOnHandler, ht₁.handler, ht₁.onHandler]
      exact hon
    have hhandoff : e.handoff d m =
        { message := m, delivery := d, link := e₂.link.name,
          transaction := (e.txn? d).filter fun txn => txn ∈ e.transactions.known
          duplicateDetection := e₂.config.duplicateDetection } := by
      rw [he₂, ht₁.name, ht₁.config]
      rfl
    have hcalls₂ : e.calls ++ e.permitted (e.script d) = e₂.calls ++
        if 0 ≤ e₂.pending.receiver then [Call.deliver (e.handoff d m)] else [] := by
      rw [hscript, Endpoint.passing_of_none hnone, e.permitted_append, e.permitted_lookups,
        e.permitted_deliver, he₂, ht₁.pending]
      simp only [List.append_assoc, t]
    have hT : T = Trails (e.calls ++ e.permitted (e.script d)) := rfl
    rw [hT, hcalls₂, hhandoff]
    exact (handOff_trails hon₂ m d _).imp (fun _ _ => id) (fun _ _ => id) fun _ _ => .inr
  · obtain ⟨⟨call, cause, -, hsome⟩, hcalls₂⟩ := h₂
    refine hends ?_
    rw [hcalls₂, hscript, Endpoint.passing_of_some hsome, e.permitted_lookups]

end Behind

/-! ## Events -/

/-- What the receiver answers if it has nothing to do behind reassembly. -/
def Turnout.reply? (t : Turnout) : Option (Except ReceiverError Unit) :=
  match t.result with
  | .error error => some (.error (.internal error.failure))
  | .ok .pending => some (.ok ())
  | _ => none

section Alone

variable {e : Endpoint} {d : DeliveryId} {made : List Call} {link : Link}
  {slot : Option Accumulator}

/-- It makes no difference from where a handler is entered. -/
theorem Made.outside {o : Owner} {e' : Endpoint} {onHandler : Option HandlerId}
    (h : Made o { e with onHandler } made link slot e') : Made o e made link slot e' :=
  ⟨⟨h.config, h.plan, h.persistence, h.kind, h.failing, h.lifecycle, h.threshold, h.noted⟩,
    h.calls, h.storage, h.link, h.slot⟩

theorem Made.leave {o : Owner} {e' : Endpoint} {onHandler : Option HandlerId}
    {notices : List Notice} {counters : Counters} (h : Made o e made link slot e') :
    Made o e made link slot { e' with onHandler, notices, counters } :=
  h.aside ⟨rfl, rfl, rfl, ⟨rfl, rfl, rfl⟩, rfl, rfl, rfl, Nat.le_refl _⟩ rfl rfl rfl rfl

theorem writable_entered (h : e.Writable .receiver) (onHandler : Option HandlerId) :
    ({ e with onHandler } : Endpoint).Writable .receiver :=
  ⟨h.clean, h.opened, h.unfinished, h.persistent⟩

variable (h : e.Writable .receiver) (ha : e.Answering) (ho : e.lifecycle = .opened)
  (hd : e.link.current = some d)

include h ha ho hd

/-- The calls of an event are those of the script that are permitted, and calls that settle and
grant. -/
theorem message_trails :
    Trails (e.calls ++ e.permitted (e.script d)) (e.after (.message d)) := by
  let Q (e' : Endpoint) := ¬ e.Answering ∨ Trails (e.calls ++ e.permitted (e.script d)) e'
  have hanswering (hn : ¬ ({ e with onHandler := some e.mailbox.handler } : Endpoint).Answering) :
      ¬ e.Answering := fun ha => hn ⟨ha.plan, ha.appends⟩
  refine Or.resolve_left (Act.Ends.state (Q := Q) (message_ends (fun _ => id)
    (fun hn => absurd ⟨ho, hd⟩ hn) fun _ _ => ?_)) (not_not.2 ha)
  exact (process_trails (writable_entered h _) (isOnHandler_enter e) d).imp (fun _ _ => .inr)
    (fun _ _ => .inr) fun _ _ => .imp_left hanswering

/-- An event that passes on no message comes to what reassembly makes of it. -/
theorem message_comes {reply : Except ReceiverError Unit}
    (hr : (e.turnout .receiver d).reply? = some reply) :
    let t := e.turnout .receiver d
    (Event.message d).perform.Ends e
      (fun r e' => r = reply ∧ Made .receiver e t.calls t.link t.slot e') fun _ _ => False := by
  intro t
  let Q (r : Except ReceiverError Unit) (e' : Endpoint) : Prop :=
    r = reply ∧ Made .receiver e t.calls t.link t.slot e'
  refine message_answers (Q := Q) (fun _ h' => ⟨h'.1, h'.2.leave⟩) (fun hn => absurd ⟨ho, hd⟩ hn)
    fun _ _ => ?_
  have hwritable := writable_entered h (some e.mailbox.handler)
  have hresponsive := hwritable.responsive ⟨ha.plan, ha.appends⟩
  refine Attempt.ends_bind.2 (Attempt.ends_adapt.2 ((accept_comes hwritable.persistent d).imp
    (fun r e₁ h₁ => ?_) (fun error e₁ h₁ => ?_) fun _ _ hn => (hn hresponsive).elim))
  · obtain ⟨hresult, h₁⟩ := h₁
    have hresult : t.result = .ok r := hresult
    rw [Turnout.reply?, show (e.turnout .receiver d).result = _ from hresult] at hr
    rcases r with _ | _ | m
    · cases hr
    · cases hr
      exact ⟨rfl, h₁.outside⟩
    · cases hr
  · obtain ⟨hresult, h₁⟩ := h₁
    have hresult : t.result = .error error := hresult
    rw [Turnout.reply?, show (e.turnout .receiver d).result = _ from hresult] at hr
    cases hr
    exact ⟨rfl, h₁.outside⟩

/-- Nothing but reassembly happens in an event, and the receiver replies so. -/
structure Endpoint.Replies (e : Endpoint) (d : DeliveryId) (t : Turnout)
    (reply : Except ReceiverError Unit) : Prop where
  answers : e.Answers .receiver d t
  reply : ((Event.message d).perform e).1 = .ok reply
  made : Made .receiver e t.calls t.link t.slot (e.after (.message d))

theorem message_replies {t : Turnout} {reply : Except ReceiverError Unit}
    (ht : e.turnout .receiver d = t) (hr : t.reply? = some reply) : e.Replies d t reply := by
  subst ht
  obtain ⟨r, e', hperform, rfl, hm⟩ := (message_comes h ha ho hd hr).answers
  refine ⟨accept_answers h ha d, by rw [hperform], ?_⟩
  rw [Endpoint.after, hperform]
  exact hm

/-- Behind a delivery that was given up is only settled and granted. -/
theorem message_aborts (hg : (e.link.delivery d).isAborted) :
    let t := e.givenUp .receiver
    (Event.message d).perform.Ends e
      (fun _ e' => ∃ e₁, Made .receiver e t.calls t.link none e₁ ∧ Untouched e₁ e' ∧
        Trails e₁.calls e') fun _ _ => False := by
  intro t
  let Q (e' : Endpoint) : Prop := ∃ e₁, Made .receiver e t.calls t.link none e₁ ∧
    Untouched e₁ e' ∧ Trails e₁.calls e'
  have hentered :
      ({ e with onHandler := some e.mailbox.handler } : Endpoint).turnout .receiver d = t :=
    turnout_givenUp hg
  refine message_answers (Q := fun _ => Q) ?_ (fun hn => absurd ⟨ho, hd⟩ hn) fun _ _ => ?_
  · rintro _ e' _ _ _ - ⟨e₁, h₁, hu, ht⟩
    exact ⟨e₁, h₁, hu.leave, ht⟩
  have hwritable := writable_entered h (some e.mailbox.handler)
  have hresponsive := hwritable.responsive ⟨ha.plan, ha.appends⟩
  refine Attempt.ends_bind.2 (Attempt.ends_adapt.2 ((accept_comes hwritable.persistent d).imp
    (fun r e₁ h₁ => ?_) (fun error e₁ h₁ => ?_) fun _ _ hn => (hn hresponsive).elim))
  · obtain ⟨hresult, h₁⟩ := h₁
    rw [hentered] at hresult h₁
    cases hresult
    have hsettled :=
      (untouched_frame.onAborted_within d e₁).and (trails_frame.onAborted_within d e₁)
    exact Attempt.ends_lift.2 (hsettled.imp (fun _ e₂ h₂ => ⟨e₁, h₁.outside, h₂.1, h₂.2⟩)
      fun _ e₂ h₂ => ⟨e₁, h₁.outside, h₂.1.1, h₂.2.1⟩)
  · rw [hentered] at h₁
    cases h₁.1

end Alone

section Runs

variable {e : Endpoint} {d : DeliveryId}

/-- No large message is due before there are bytes of it. -/
theorem buffer_ne_nil (h : e.link.Fed) (ht : e.threshold? ≠ some 0) (hd : e.link.current = some d)
    (hdue : e.isDue .receiver d) : e.link.buffer ≠ [] := by
  intro hnil
  have hmeasured := h.measured d hd
  rw [hnil, List.length_nil, Nat.le_zero] at hmeasured
  simp only [Endpoint.isDue, Bool.and_eq_true, Option.any_eq_true_iff_get, hmeasured] at hdue
  obtain ⟨-, hsome, hle⟩ := hdue
  have hzero : (e.reassembler.get .receiver).threshold.get hsome = 0 := by simpa using hle
  exact ht (by rw [← hzero, Option.some_get]; rfl)

/-- What every state has that a run leads to. -/
structure Endpoint.Regular (e : Endpoint) : Prop where
  agrees : e.Agrees
  poised : e.Poised
  line : InLine (fun _ => False) e

namespace Endpoint.Regular

/-- A large message that is coming in has a spool that can be written to. -/
theorem writable (h : e.Regular) : e.Writable .receiver where
  clean := h.agrees.clean
  opened := fun _ hs => (h.agrees.coming hs).opened
  unfinished := fun _ hs => (h.agrees.coming hs).unfinished
  persistent := h.poised.lodged

theorem after (h : e.Regular) (event : Event) : (e.after event).Regular :=
  ⟨after_agrees h.agrees event, h.poised.after h.line event, h.line.after event⟩

theorem afterAll : ∀ (run : List Event) {e : Endpoint}, e.Regular → (e.afterAll run).Regular
  | [], _, h => h
  | event :: run, _, h => afterAll run (h.after event)

end Endpoint.Regular

theorem Endpoint.Fresh.regular (h : e.Fresh) (hc : e.storage.Clean)
    (hs : e.plan.Spares [.linkAdvance]) : e.Regular := ⟨h.agrees hc hs, h.poised, h.inLine⟩

/-- The calls of an event for the delivery at the head of an open receiver are those of its script,
whatever a run has led to and whichever of them fail, and only if the count of unsettled deliveries
is below zero is the one to routing left out. Behind them come calls that settle and grant. A write
is left out exactly if one before it failed. A start registers a large message that has no
bytes yet but knows whether it has a header, in a spool that was not written to, and then writes the
bytes that it took from the link. -/
theorem calls_eq_script {e₀ : Endpoint} (h : e₀.Fresh) (hc : e₀.storage.Clean)
    (hs : e₀.plan.Spares [.linkAdvance]) (run : List Event) {d : DeliveryId} :
    let e := e₀.afterAll run
    e.lifecycle = .opened → e.link.current = some d → e.Answering →
      (∃ rest, (e.after (.message d)).calls = e.calls ++
          (if 0 ≤ e.pending.get .receiver then e.script d
            else (e.script d).filter (·.handoff?.isNone)) ++ rest ∧
        ∀ call ∈ rest, call.grants ∨ call.settles) ∧
      (∀ a, e.slot = some a → (a.incomplete ↔ ∃ n, e.FailedAt a.spool n)) ∧
      (e.isDue .receiver d →
        let a := e.blank d
        let bytes := e.link.buffer
        e.opening d = [.generateId, .openSpool a.id, .linkRecv bytes, .register a.id a,
          .spoolAppend a.spool bytes] ∧
        a.size = 0 ∧ a.headerPresent = Header.isPresent bytes ∧
        ∀ n, ¬ e.AppendedAt a.spool n) := by
  intro e ho hd ha
  have hregular : e.Regular := (h.regular hc hs).afterAll run
  have hwritable := hregular.writable
  refine ⟨?_, fun a hslot => (hregular.agrees.coming hslot).gap, fun hdue =>
    ⟨?_, rfl, rfl, fun n hn => ?_⟩⟩
  · exact message_trails hwritable ha ho hd
  · have hthreshold : e.threshold? ≠ some 0 := by
      rw [afterAll_threshold run e₀]
      exact h.threshold_ne_zero
    have hbuffer := buffer_ne_nil hregular.poised.fed hthreshold hd hdue
    have hwrites := writes_of_ne (a := e.blank d) rfl hbuffer
    rw [Endpoint.opening, hwrites]
    rfl
  · -- the spool that would be opened is not among those that were
    exact Nat.lt_irrefl _ (hregular.agrees.opened hn)

/-- The first bytes of a large message cannot be written, and the spool that was opened for it is
deleted. -/
theorem calls_eq_script_full :
    let plan : Plan := fun n point =>
      if n = 4 ∧ point = .spoolAppend then some (.fails { text := "disk full" }) else none
    let e₀ : Endpoint :=
      { Endpoint.start { minLargeMessageSize := 4 } "orders" 10 ⟨1⟩ .memory none with plan }
    let e := e₀.afterAll [.begin 0 none, .transfer [1, 2, 3, 4] true]
    let a : Accumulator := { id := ⟨100⟩, format := 0, headerPresent := false, spool := ⟨⟨100⟩, 0⟩ }
    let opening : List Call := [.generateId, .openSpool a.id, .linkRecv [1, 2, 3, 4],
      .register a.id a, .spoolAppend a.spool [1, 2, 3, 4]]
    (e₀.Fresh ∧ e₀.storage.Clean ∧ e₀.plan.Spares [.linkAdvance]) ∧
      (e.lifecycle = .opened ∧ e.link.current = some ⟨1⟩ ∧ e.Answering ∧ e.isDue .receiver ⟨1⟩) ∧
      0 ≤ e.pending.get .receiver ∧ e.script ⟨1⟩ = opening ++ [.spoolDelete a.spool] ∧
      (∃ rest, (e.after (.message ⟨1⟩)).calls =
          e.calls ++ (opening ++ [.spoolDelete a.spool]) ++ rest ∧
        ∀ call ∈ rest, call.grants ∨ call.settles) ∧
      e.opening ⟨1⟩ = opening := by
  intro plan e₀ e a opening
  have hfresh : e₀.Fresh := ⟨rfl, rfl, rfl, rfl, rfl, rfl, rfl, rfl, rfl, rfl, rfl⟩
  have hclean : e₀.storage.Clean := .empty rfl rfl
  have hpanics (n : Nat) (point : Point) (k : Panic) : plan n point ≠ some (.panics k) := by
    simp only [plan]
    split <;> simp
  have hopened : e.lifecycle = .opened := by decide +kernel
  have hcurrent : e.link.current = some ⟨1⟩ := by decide +kernel
  have hanswering : e.Answering := ⟨fun n point _ k _ => hpanics n point k, by decide +kernel⟩
  have hdue : e.isDue .receiver ⟨1⟩ := by decide +kernel
  have hcount : 0 ≤ e.pending.get .receiver := by decide +kernel
  have hscript : e.script ⟨1⟩ = opening ++ [.spoolDelete a.spool] := by decide +kernel
  obtain ⟨hcalls, -, hstarts⟩ := calls_eq_script hfresh hclean
    (fun n point _ k => hpanics n point k) [.begin 0 none, .transfer [1, 2, 3, 4] true] hopened
    hcurrent hanswering
  have hblank : e.blank ⟨1⟩ = a := by decide +kernel
  have hopening := (hstarts hdue).1
  rw [hblank] at hopening
  rw [if_pos hcount, hscript] at hcalls
  exact ⟨⟨hfresh, hclean, fun n point _ k => hpanics n point k⟩,
    ⟨hopened, hcurrent, hanswering, hdue⟩, hcount, hscript, hcalls, hopening⟩

/-- Routing settles the first delivery and then refuses it, so that it is settled twice and the
count falls below zero. The message of the second delivery is not passed to routing, though nothing
panics and none of its calls fails. -/
theorem withheld_of_overdraft :
    let plan : Plan := fun n point =>
      if n = 8 ∧ point = .delivered then some (.fails { text := "queue full" }) else none
    let e₀ : Endpoint := { Endpoint.start {} "orders" 10 ⟨1⟩ .memory none with plan }
    let run : List Event := [.setMode (.settleWith .accepted), .begin 0 none, .transfer [1] false,
      .message ⟨1⟩, .setMode .hold, .begin 0 none, .transfer [2] false]
    let e := e₀.afterAll run
    let reassembling : List Call := [.linkRecv [2], .linkAdvance, .createMessage [2]]
    (e₀.Fresh ∧ e₀.storage.Clean ∧ ∀ n point k, plan n point ≠ some (.panics k)) ∧
      (e.lifecycle = .opened ∧ e.link.current = some ⟨2⟩ ∧ e.Calm) ∧
      e.pending.get .receiver = -1 ∧
      e.script ⟨2⟩ = reassembling ++ [.deliver (e.handoff ⟨2⟩ (.standard ⟨0, [2]⟩))] ∧
      (e.after (.message ⟨2⟩)).calls = e.calls ++ reassembling := by
  intro plan e₀ run e reassembling
  have hfresh : e₀.Fresh := ⟨rfl, rfl, rfl, rfl, rfl, rfl, rfl, rfl, rfl, rfl, rfl⟩
  have hpanics (n : Nat) (point : Point) (k : Panic) : plan n point ≠ some (.panics k) := by
    simp only [plan]
    split <;> simp
  have hlength : e.calls.length = 9 := by decide +kernel
  have hcalm : e.Calm := by
    refine ⟨fun n point hn => ?_, by decide +kernel, fun _ => by decide +kernel, by decide +kernel⟩
    have hpast : ¬ (n = 8 ∧ point = .delivered) := by omega
    rw [show e.plan = plan from (afterAll_samePlan run e₀).plan]
    exact if_neg hpast
  refine ⟨⟨hfresh, .empty rfl rfl, hpanics⟩, ⟨by decide +kernel, by decide +kernel, hcalm⟩, ?_⟩
  decide +kernel

end Runs

end ReceivingLink
