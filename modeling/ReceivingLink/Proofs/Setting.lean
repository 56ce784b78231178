import ReceivingLink.Proofs.Frame

/-!
# The setting of an event

An event changes neither the configuration nor what the plan has for later calls, and nothing that
the sender says of its deliveries: `SameSetting`. What is done to settle deliveries and to route
messages leaves the bytes that came in alone too: `Untouched`.

An endpoint is calm if nothing goes wrong with the calls that are still to come, reliable if nothing
goes wrong with those on the way to routing, and mild if none of them panics while bytes are moved.
-/

namespace ReceivingLink

/-- What the sender says of a delivery. -/
def Delivery.sender (x : Delivery) : UInt32 × Bool × Bool := (x.format, x.isPartial, x.isAborted)

/-- The queue has deliveries that were begun, each once, and the bytes that wait are those available
of the current one. -/
structure Link.Sound (l : Link) : Prop where
  numbered : l.Numbered
  known : l.queue ⊆ l.deliveries.map (·.id)
  nodup : l.queue.Nodup
  measured : ∀ d, l.current = some d → (l.delivery d).available = l.buffer.length
  waiting : ∀ d ∈ l.queue.tail, (l.delivery d).available = 0
  idle : l.queue = [] → l.buffer = []

namespace Link.Sound

variable {l : Link}

theorem changeCurrent {f : Delivery → Delivery} {buffer : Bytes} (h : l.Sound)
    (hid : ∀ x, (f x).id = x.id) (hf : ∀ x, (f x).available = buffer.length)
    (hidle : l.queue = [] → buffer = []) : ({ l with buffer }.changeCurrent f).Sound := by
  have hids := Link.map_changeCurrent { l with buffer } hid
  unfold Link.changeCurrent at hids ⊢
  split
  · rename_i d hd
    rw [hd] at hids
    obtain ⟨rest, hq⟩ : ∃ rest, l.queue = d :: rest := List.head?_eq_some_iff.1 hd
    have hnodup := h.nodup
    rw [hq, List.nodup_cons] at hnodup
    refine ⟨h.numbered.of_ids hids, by rw [hids]; exact h.known, h.nodup, fun d' hd' => ?_,
      fun d' hd' => ?_, fun hempty => ?_⟩
    · rw [show d' = d from (Option.some.inj (hd.symm.trans hd')).symm]
      rw [Link.delivery_change_self _ hid (by exact h.known (by simp [hq]))]
      exact hf _
    · have hrest : d' ∈ rest := by simpa [hq] using hd'
      have hne : d' ≠ d := by
        rintro rfl
        exact hnodup.1 hrest
      rw [Link.delivery_change_ne _ hid hne]
      exact h.waiting d' (by simpa [hq] using hrest)
    · exact absurd (hq.symm.trans hempty) (by simp)
  · rename_i hnone
    have hq : l.queue = [] := List.head?_eq_none_iff.1 hnone
    refine ⟨h.numbered, h.known, h.nodup, fun d hd => ?_, h.waiting, fun _ => hidle hq⟩
    exact absurd (hnone.symm.trans hd) (by simp)

theorem drained (h : l.Sound) : l.drained.Sound :=
  h.changeCurrent (fun _ => rfl) (fun _ => rfl) fun _ => rfl

theorem abort (h : l.Sound) : l.abort.Sound :=
  h.changeCurrent (fun _ => rfl) (fun _ => rfl) fun _ => rfl

theorem transfer (h : l.Sound) (bytes : Bytes) (more : Bool) (hq : l.queue ≠ []) :
    (l.transfer bytes more).Sound :=
  h.changeCurrent (fun _ => rfl) (fun _ => rfl) fun hempty => absurd hempty hq

theorem change {f : Delivery → Delivery} (h : l.Sound) (d : DeliveryId)
    (hid : ∀ x, (f x).id = x.id) (hf : ∀ x, (f x).available = x.available) :
    (l.change d f).Sound := by
  have hids := l.map_change hid d
  refine ⟨h.numbered.of_ids hids, by rw [hids]; exact h.known, h.nodup, fun d' hd' => ?_,
    fun d' hd' => ?_, h.idle⟩
  · rw [Link.delivery_change _ hid hf]
    exact h.measured d' hd'
  · rw [Link.delivery_change _ hid hf]
    exact h.waiting d' hd'

theorem advance (h : l.Sound) : l.advance.Sound := by
  have htail {d : DeliveryId} (hd : d ∈ l.queue.tail) : (l.advance.delivery d).available = 0 := by
    rw [Link.advance_delivery]
    exact h.waiting d hd
  refine ⟨h.numbered.of_ids (by simp), ?_, ?_, fun d hd => ?_, fun d hd => ?_, fun _ => by simp⟩
  · rw [Link.advance_queue, Link.advance_deliveries]
    exact fun x hx => h.known (List.mem_of_mem_tail hx)
  · rw [Link.advance_queue]
    exact h.nodup.tail
  · rw [Link.current, Link.advance_queue] at hd
    rw [Link.advance_buffer]
    exact htail (List.mem_of_mem_head? hd)
  · rw [Link.advance_queue] at hd
    exact htail (List.mem_of_mem_tail hd)

theorem begin (h : l.Sound) (format : UInt32) (remote : Option RemoteState) :
    (l.beginWith format remote).Sound := by
  have hnew : ((l.beginWith format remote).delivery ⟨l.deliveries.length + 1⟩).available = 0 := by
    rw [h.numbered.delivery_begun]
  have hfresh : ⟨l.deliveries.length + 1⟩ ∉ l.queue := fun hm => h.numbered.fresh (h.known hm)
  have hold {d : DeliveryId} (hd : d ∈ l.queue) :
      (l.beginWith format remote).delivery d = l.delivery d :=
    h.numbered.delivery_beginWith format remote (h.known hd)
  refine ⟨h.numbered.beginWith format remote, ?_, ?_, fun d hd => ?_, fun d hd => ?_, fun hq => ?_⟩
  · rw [Link.beginWith_ids]
    exact List.append_subset.2 ⟨List.subset_append_of_subset_left _ h.known,
      List.subset_append_right _ _⟩
  · rw [Link.beginWith_queue]
    exact List.nodup_middle.2 (List.nodup_cons.2 ⟨by simpa using hfresh, by simpa using h.nodup⟩)
  · rw [Link.beginWith_buffer]
    rcases Link.beginWith_current hd with hd | ⟨hq, rfl⟩
    · rw [hold (List.mem_of_mem_head? hd)]
      exact h.measured d hd
    · rw [hnew, h.idle hq]
      rfl
  · rcases Link.beginWith_tail hd with hd | rfl
    · rw [hold (List.mem_of_mem_tail hd)]
      exact h.waiting d hd
    · exact hnew
  · simp at hq

end Link.Sound

/-- What no event changes as long as the receiver is open. Calls are only added. -/
structure Continued (e e' : Endpoint) : Prop where
  config : e'.config = e.config
  plan : e'.plan = e.plan
  persistence : e'.persistence = e.persistence
  kind : e.storage.SameKind e'.storage
  failing : e'.transactions.failing = e.transactions.failing
  lifecycle : e'.lifecycle = e.lifecycle
  threshold : (e'.reassembler.get .receiver).threshold = (e.reassembler.get .receiver).threshold
  noted : e.calls.length ≤ e'.calls.length

/-- What no event of the link or of the handler changes, as long as no call passes a handoff to
routing. -/
structure SameSetting (e e' : Endpoint) : Prop extends Continued e e' where
  handoffs : e'.handoffs = e.handoffs
  begun : e'.link.deliveries.map (·.id) = e.link.deliveries.map (·.id)
  sender : ∀ d, (e'.link.delivery d).sender = (e.link.delivery d).sender
  sound : e.link.Sound → e'.link.Sound

/-- Nothing has happened to the bytes that came in. -/
structure Untouched (e e' : Endpoint) : Prop extends SameSetting e e' where
  storage : e'.storage = e.storage
  slot : (e'.reassembler.get .receiver).slot = (e.reassembler.get .receiver).slot
  taken : e'.taken = e.taken
  queue : e'.link.queue = e.link.queue
  buffer : e'.link.buffer = e.link.buffer
  available : ∀ d, (e'.link.delivery d).available = (e.link.delivery d).available

section Setting

variable {e e₁ e₂ e₃ : Endpoint}

theorem Continued.refl (e : Endpoint) : Continued e e :=
  ⟨rfl, rfl, rfl, ⟨rfl, rfl, rfl⟩, rfl, rfl, rfl, Nat.le_refl _⟩

theorem Continued.trans (h : Continued e₁ e₂) (h' : Continued e₂ e₃) : Continued e₁ e₃ :=
  ⟨h'.config.trans h.config, h'.plan.trans h.plan, h'.persistence.trans h.persistence,
    ⟨h'.kind.1.trans h.kind.1, h'.kind.2.trans h.kind.2, h'.kind.3.trans h.kind.3⟩,
    h'.failing.trans h.failing, h'.lifecycle.trans h.lifecycle, h'.threshold.trans h.threshold,
    Nat.le_trans h.noted h'.noted⟩

theorem Continued.isPersistent (h : Continued e₁ e₂) : e₂.isPersistent = e₁.isPersistent := by
  unfold Endpoint.isPersistent
  rw [h.persistence, h.kind.persistent]

theorem SameSetting.refl (e : Endpoint) : SameSetting e e :=
  ⟨.refl e, rfl, rfl, fun _ => rfl, id⟩

theorem SameSetting.trans (h : SameSetting e₁ e₂) (h' : SameSetting e₂ e₃) : SameSetting e₁ e₃ :=
  ⟨h.toContinued.trans h'.toContinued, h'.handoffs.trans h.handoffs, h'.begun.trans h.begun,
    fun d => (h'.sender d).trans (h.sender d), fun hs => h'.sound (h.sound hs)⟩

theorem Untouched.refl (e : Endpoint) : Untouched e e :=
  ⟨.refl e, rfl, rfl, rfl, rfl, rfl, fun _ => rfl⟩

theorem Untouched.trans (h : Untouched e₁ e₂) (h' : Untouched e₂ e₃) : Untouched e₁ e₃ :=
  ⟨h.toSameSetting.trans h'.toSameSetting, h'.storage.trans h.storage, h'.slot.trans h.slot,
    h'.taken.trans h.taken, h'.queue.trans h.queue, h'.buffer.trans h.buffer,
    fun d => (h'.available d).trans (h.available d)⟩

theorem handoff?_eq_none {call : Call} (h : call.isPlain ∨ call.grants ∨ call.settles) :
    call.handoff? = none := by
  cases call with
  | deliver handoff => rcases h with h | h | h <;> cases h
  | _ => rfl

theorem taken?_eq_none {call : Call} (h : call.isPlain ∨ call.grants ∨ call.settles) :
    call.taken? = none := by
  cases call with
  | linkRecv bytes => rcases h with h | h | h <;> cases h
  | _ => rfl

theorem handoffs_noted {call : Call} (h : call.handoff? = none) :
    ({ e with calls := e.calls ++ [call] } : Endpoint).handoffs = e.handoffs := by
  simp [Endpoint.handoffs, h]

theorem taken_noted {call : Call} (h : call.taken? = none) :
    ({ e with calls := e.calls ++ [call] } : Endpoint).taken = e.taken := by
  simp [Endpoint.taken, h]

theorem Untouched.ofLink {link : Link}
    (hids : link.deliveries.map (·.id) = e.link.deliveries.map (·.id))
    (hs : ∀ d, (link.delivery d).sender = (e.link.delivery d).sender)
    (ha : ∀ d, (link.delivery d).available = (e.link.delivery d).available)
    (hsound : e.link.Sound → link.Sound) (hq : link.queue = e.link.queue)
    (hb : link.buffer = e.link.buffer) : Untouched e { e with link } :=
  ⟨⟨⟨rfl, rfl, rfl, ⟨rfl, rfl, rfl⟩, rfl, rfl, rfl, Nat.le_refl _⟩, rfl, hids, hs, hsound⟩, rfl,
    rfl, rfl, hq, hb, ha⟩

/-- A change of what has nothing to do with the bytes that came in. -/
theorem Untouched.aside {e' : Endpoint} (hconfig : e'.config = e.config) (hlink : e'.link = e.link)
    (hstorage : e'.storage = e.storage) (hplan : e'.plan = e.plan)
    (hpersistence : e'.persistence = e.persistence)
    (hfailing : e'.transactions.failing = e.transactions.failing)
    (hlifecycle : e'.lifecycle = e.lifecycle) (hreassembler : e'.reassembler = e.reassembler)
    (hcalls : e'.calls = e.calls) : Untouched e e' := by
  refine ⟨⟨⟨hconfig, hplan, hpersistence, ?_, hfailing, hlifecycle, ?_, ?_⟩, ?_, ?_, ?_, ?_⟩,
    hstorage, ?_, ?_, ?_, ?_, ?_⟩
  · rw [hstorage]
    exact ⟨rfl, rfl, rfl⟩
  · rw [hreassembler]
  · exact Nat.le_of_eq (by rw [hcalls])
  · rw [Endpoint.handoffs, hcalls]
    rfl
  · rw [hlink]
  · rw [hlink]
    exact fun _ => rfl
  · rw [hlink]
    exact id
  · rw [hreassembler]
  · rw [Endpoint.taken, hcalls]
    rfl
  · rw [hlink]
  · rw [hlink]
  · rw [hlink]
    exact fun _ => rfl

theorem sameSetting_noted {call : Call} (h : call.handoff? = none) :
    SameSetting e { e with calls := e.calls ++ [call] } :=
  ⟨⟨rfl, rfl, rfl, ⟨rfl, rfl, rfl⟩, rfl, rfl, rfl, by simp⟩, handoffs_noted h, rfl, fun _ => rfl,
    id⟩

theorem sameSetting_stored {storage : Storage} (h : e.storage.SameKind storage) :
    SameSetting e { e with storage } :=
  ⟨⟨rfl, rfl, rfl, h, rfl, rfl, rfl, Nat.le_refl _⟩, rfl, rfl, fun _ => rfl, id⟩

theorem untouched_noted {call : Call} (h : call.isPlain ∨ call.grants ∨ call.settles) :
    Untouched e { e with calls := e.calls ++ [call] } :=
  ⟨sameSetting_noted (handoff?_eq_none h), rfl, rfl, taken_noted (taken?_eq_none h), rfl, rfl,
    fun _ => rfl⟩

theorem untouched_counted {counters : Counters} : Untouched e { e with counters } :=
  .aside rfl rfl rfl rfl rfl rfl rfl rfl rfl

/-- An event that failed is counted and told of. -/
theorem untouched_failed {counters : Counters} {notice : Notice} :
    Untouched e { e with counters, notices := e.notices ++ [notice] } :=
  .aside rfl rfl rfl rfl rfl rfl rfl rfl rfl

theorem untouched_calls : CallFrame Untouched fun _ _ => True where
  refl := .refl
  trans := .trans
  blame := fun _ _ => trivial
  noted := fun h => untouched_noted (.inl h)
  told := fun _ => .aside rfl rfl rfl rfl rfl rfl rfl rfl rfl
  planned := fun _ => trivial

theorem untouched_frame : SettleFrame Untouched where
  toTellFrame := untouched_calls.toTellFrame
  disposed := .ofLink (Link.map_change _ (fun _ => by rfl) _)
    (Link.delivery_change _ (fun _ => by rfl) fun _ => by rfl)
    (Link.delivery_change _ (fun _ => by rfl) fun _ => by rfl)
    (fun h => h.change _ (fun _ => rfl) fun _ => rfl) rfl rfl
  settled := .ofLink (Link.map_change _ (fun _ => by rfl) _)
    (Link.delivery_change _ (fun _ => by rfl) fun _ => by rfl)
    (Link.delivery_change _ (fun _ => by rfl) fun _ => by rfl)
    (fun h => h.change _ (fun _ => rfl) fun _ => rfl) rfl rfl
  granting := fun h => untouched_noted (.inr (.inl h))
  flowed := .ofLink rfl (fun _ => rfl) (fun _ => rfl)
    (fun h => ⟨h.1, h.2, h.3, h.4, h.5, h.6⟩) rfl rfl
  asked := .aside rfl rfl rfl rfl rfl rfl rfl rfl rfl
  flushed := .aside rfl rfl rfl rfl rfl rfl rfl rfl rfl
  settling := fun h => untouched_noted (.inr (.inr h))
  posted := .aside rfl rfl rfl rfl rfl rfl rfl rfl rfl
  taken := fun _ => .aside rfl rfl rfl rfl rfl rfl rfl rfl rfl
  tallied := .aside rfl rfl rfl rfl rfl rfl rfl rfl rfl
  counted := fun _ _ => untouched_counted
  routed := .aside rfl rfl rfl rfl rfl rfl rfl rfl rfl
  placed := .aside rfl rfl rfl rfl rfl rfl rfl rfl rfl

theorem sameSetting_frame : AssemblyFrame SameSetting fun _ _ => True where
  refl := .refl
  trans := .trans
  blame := fun _ _ => trivial
  noted := fun h => (untouched_calls.noted h).toSameSetting
  told := fun h => (untouched_calls.told h).toSameSetting
  planned := fun _ => trivial
  deleting := sameSetting_noted rfl
  taking := sameSetting_noted rfl
  stored := fun h _ => sameSetting_stored h
  filed := fun h => sameSetting_stored h.toSameKind
  drained := ⟨⟨rfl, rfl, rfl, ⟨rfl, rfl, rfl⟩, rfl, rfl, rfl, Nat.le_refl _⟩, rfl,
    Link.map_changeCurrent _ fun _ => rfl,
    Link.delivery_changeCurrent _ (fun _ => rfl) fun _ => rfl, Link.Sound.drained⟩
  own := fun _ => trivial
  slotted := by
    intro e o slot
    refine ⟨⟨rfl, rfl, rfl, ⟨rfl, rfl, rfl⟩, rfl, rfl, ?_, Nat.le_refl _⟩, rfl, rfl,
      fun _ => rfl, id⟩
    cases o <;> rfl
  counted := untouched_counted.toSameSetting
  advanced := ⟨⟨rfl, rfl, rfl, ⟨rfl, rfl, rfl⟩, rfl, rfl, rfl, Nat.le_refl _⟩, rfl, by simp,
    by simp, Link.Sound.advance⟩

end Setting

namespace Endpoint

/-- Nothing will go wrong with the calls that are still to come. -/
structure Calm (e : Endpoint) : Prop where
  plan : ∀ n point, e.calls.length ≤ n → e.plan n point = none
  faults : e.storage.faults = {}
  spools : e.isPersistent → e.storage.hasSpools
  lookups : e.transactions.failing = false

/-- The calls that are made while bytes are moved from the link to storage. -/
def movingPoints : List Point :=
  [.linkRecv, .linkAdvance, .generateId, .openSpool, .register, .spoolAppend, .spoolFinish,
    .spoolDelete]

/-- The calls that are made to turn transfers into a message for routing. -/
def messagePoints : List Point := movingPoints ++ [.createMessage, .lookup]

/-- Every call that is still to come on the way to routing succeeds. -/
structure Reliable (e : Endpoint) : Prop where
  plan : ∀ n, ∀ point ∈ messagePoints, e.calls.length ≤ n → e.plan n point = none
  faults : e.storage.faults = {}
  spools : e.isPersistent → e.storage.hasSpools
  lookups : e.transactions.failing = false

/-- None of the calls that are still to come panics while bytes are moved. -/
structure Mild (e : Endpoint) : Prop where
  plan : ∀ n, ∀ point ∈ movingPoints, ∀ k, e.calls.length ≤ n → e.plan n point ≠ some (.panics k)
  appends : e.storage.faults.appendPanics = false

theorem Calm.reliable {e : Endpoint} (h : e.Calm) : e.Reliable where
  plan := fun n point _ => h.plan n point
  faults := h.faults
  spools := h.spools
  lookups := h.lookups

theorem Reliable.mild {e : Endpoint} (h : e.Reliable) : e.Mild where
  plan := fun n point hp k hn => by simp [h.plan n point (List.mem_append_left _ hp) hn]
  appends := by rw [h.faults]

theorem Calm.mild {e : Endpoint} (h : e.Calm) : e.Mild := h.reliable.mild

end Endpoint

theorem Continued.calm {e e' : Endpoint} (hs : Continued e e') (h : e.Calm) : e'.Calm where
  plan := fun n point hn => by
    rw [hs.plan]
    exact h.plan n point (Nat.le_trans hs.noted hn)
  faults := by rw [hs.kind.faults, h.faults]
  spools := by
    rw [hs.isPersistent, hs.kind.hasSpools]
    exact h.spools
  lookups := by rw [hs.failing, h.lookups]

theorem Continued.reliable {e e' : Endpoint} (hs : Continued e e') (h : e.Reliable) :
    e'.Reliable where
  plan := fun n point hp hn => by
    rw [hs.plan]
    exact h.plan n point hp (Nat.le_trans hs.noted hn)
  faults := by rw [hs.kind.faults, h.faults]
  spools := by
    rw [hs.isPersistent, hs.kind.hasSpools]
    exact h.spools
  lookups := by rw [hs.failing, h.lookups]

theorem Continued.mild {e e' : Endpoint} (hs : Continued e e') (h : e.Mild) : e'.Mild where
  plan := fun n point hp k hn => by
    rw [hs.plan]
    exact h.plan n point hp k (Nat.le_trans hs.noted hn)
  appends := by rw [hs.kind.faults, h.appends]

end ReceivingLink
