import ReceivingLink.Proofs.Conservation
import ReceivingLink.Proofs.Protocol
import ReceivingLink.Proofs.Spared
import ReceivingLink.Proofs.Spools

/-!
# A delivery that comes to nothing

A delivery may be given up by its sender at any time, after many transfers and many calls that
failed. What is then left of it is that it was settled, and that the link was moved past it. Its
unit of credit is put back, and every spool that was opened for it is deleted: `abort_erases`.
-/

namespace ReceivingLink

/-- The calls that bring the bytes of a delivery into a spool, and the one that gives a spool up. -/
def Call.spools : Call → Bool
  | .generateId | .openSpool _ | .linkRecv _ | .register .. | .spoolAppend .. | .spoolDelete _ =>
    true
  | _ => false

/-- More of a delivery comes, but not the last of it, or the receiver is told of it. -/
def Event.brings (d : DeliveryId) : Event → Bool
  | .transfer _ more => more
  | .message d' => d' = d
  | _ => false

/-- More of the delivery is to come, and nothing was recorded of it. -/
structure Delivery.Waits (x : Delivery) : Prop where
  isPartial : x.isPartial
  given : x.isAborted = false
  unsettled : x.settles = 0
  open_ : x.outcome = none

/-- The delivery was given up, and nothing was recorded of it. -/
structure Delivery.GivenUp (x : Delivery) : Prop where
  given : x.isAborted
  unsettled : x.settles = 0
  open_ : x.outcome = none

/-- Since `l` a delivery was begun, which is at the head and as `P` says. -/
structure Link.Brings (P : Delivery → Prop) (l : Link) (d : DeliveryId) (l' : Link) : Prop where
  rest : l' = { l with
    credit := Credit.spend l.credit, queue := [d], buffer := l'.buffer
    deliveries := l'.deliveries }
  known : d ∈ l'.deliveries.map (·.id)
  stage : P (l'.delivery d)

/-- Reassembly can go on: none of its calls panics, and a large message is coming in only if there
is a place for it. -/
structure Endpoint.Assembles (e : Endpoint) : Prop extends e.Responsive .receiver where
  lodged : e.slot.isSome → e.isPersistent

/-- Since `e` a delivery was begun and has been coming in, with whatever failures. -/
structure Partway (P : Delivery → Prop) (e : Endpoint) (d : DeliveryId) (e' : Endpoint) :
    Prop where
  assembles : e'.Assembles
  spared : e'.Spared settlementPoints
  opened : e'.lifecycle = .opened
  link : e.link.Brings P d e'.link
  pending : e'.pending = e.pending
  moves : Moves [] e [] e'
  calls : ∃ spooled, e'.calls = e.calls ++ spooled ∧ ∀ call ∈ spooled, call.spools

section Turnouts

variable {e e' : Endpoint} {d : DeliveryId}

theorem writes_spools (a : Accumulator) (bytes : Bytes) : ∀ call ∈ a.writes bytes, call.spools := by
  unfold Accumulator.writes
  split
  · simp
  · simp [Call.spools]

theorem handoff?_of_spools {call : Call} (h : call.spools) : call.handoff? = none := by
  cases call <;> first | rfl | exact nomatch h

theorem opening_spools (e : Endpoint) (d : DeliveryId) : ∀ call ∈ e.opening d, call.spools := by
  intro call hcall
  rcases List.mem_append.1 hcall with hcall | hcall
  · simp only [List.mem_cons, List.not_mem_nil, or_false] at hcall
    rcases hcall with rfl | rfl | rfl | rfl <;> rfl
  · exact writes_spools _ _ call hcall

/-- As long as more is to come, bytes are brought into a spool or stay where they are. -/
theorem turnout_waits (hx : (e.link.delivery d).Waits) :
    let t := e.turnout .receiver d
    (∀ call ∈ t.calls, call.spools) ∧ (t.link = e.link ∨ t.link = e.link.drained) := by
  intro t
  obtain ⟨hp, hg, -, -⟩ := hx
  rcases hs : (e.reassembler.get .receiver).slot with _ | a
  swap
  · rw [show t = _ from turnout_received hg hp hs]
    exact ⟨List.forall_mem_cons.2 ⟨rfl, writes_spools _ _⟩, .inr rfl⟩
  by_cases hdue : e.isDue .receiver d
  swap
  · rw [show t = _ from turnout_quiet hg hs hp (by simpa using hdue)]
    exact ⟨by simp [Endpoint.quiet], .inl rfl⟩
  rcases hb : e.reports.broken? e.calls.length (e.opening d) with _ | ⟨call, cause⟩
  · rw [show t = _ from turnout_started hg hs hp hdue hb]
    exact ⟨opening_spools e d, .inr rfl⟩
  · rw [show t = _ from turnout_unstarted hg hs hdue hb]
    refine ⟨fun call hcall => ?_, ?_⟩
    · rcases List.mem_append.1 hcall with hcall | hcall
      · exact opening_spools e d call (Reports.mem_of_made hcall)
      · split at hcall <;> simp_all [Call.spools]
    · simp only [Endpoint.unstarted]
      split
      · exact .inr rfl
      · exact .inl rfl

/-- When more of a delivery has come, reassembly can go on. -/
theorem waits_assembles (h : e.Assembles) (hx : (e.link.delivery d).Waits)
    (hm : let t := e.turnout .receiver d; Made .receiver e t.calls t.link t.slot e') :
    e'.Assembles := by
  obtain ⟨hp, hg, -, -⟩ := hx
  have hanswering := hm.toContinued.answering h.toAnswering
  have htable := hm.table.trans h.table
  have hpersistent : e'.isPersistent = e.isPersistent := hm.toContinued.isPersistent
  have hslot := hm.slot
  have hnone (hempty : (e.turnout .receiver d).slot = none) : e'.Assembles := by
    rw [hempty] at hslot
    have hempty' : e'.slot = none := hslot
    exact ⟨⟨hanswering, htable, by simp [hslot], by simp [hslot]⟩, by simp [hempty']⟩
  rcases hs : (e.reassembler.get .receiver).slot with _ | a
  · by_cases hdue : e.isDue .receiver d
    swap
    · exact hnone (by rw [turnout_quiet hg hs hp (by simpa using hdue)]; rfl)
    rcases hb : e.reports.broken? e.calls.length (e.opening d) with _ | ⟨call, cause⟩
    swap
    · exact hnone (by rw [turnout_unstarted hg hs hdue hb]; rfl)
    rw [turnout_started hg hs hp hdue hb] at hm hslot
    refine ⟨⟨hanswering, htable, fun a ha => ?_, fun a ha => ?_⟩, fun _ => ?_⟩
    · cases hslot.symm.trans ha
      exact hm.sound (blank_sound e d)
    · cases hslot.symm.trans ha
      exact (hm.started_spool hb).2
    · rw [hpersistent]
      simp only [Endpoint.isDue, Bool.and_eq_true] at hdue
      exact hdue.1
  · rw [turnout_received hg hp hs] at hm hslot
    have hclosed : ∀ call ∈ Call.linkRecv e.link.buffer :: a.writes e.link.buffer,
        ∀ id, call ≠ .openSpool id :=
      List.forall_mem_cons.2 ⟨by simp, fun call hc => (keepsTo_writes call hc).opened⟩
    have hunfinished : ∀ call ∈ Call.linkRecv e.link.buffer :: a.writes e.link.buffer,
        ∀ spool, call ≠ .spoolFinish spool :=
      List.forall_mem_cons.2 ⟨by simp, finishes_none_of_writes⟩
    have hspool : (e.reports.written (e.calls.length + 1) a e.link.buffer).1.spool = a.spool :=
      Reports.written_spool
    refine ⟨⟨hanswering, htable, fun b hb => ?_, fun b hb => ?_⟩, fun _ => ?_⟩
    · cases hslot.symm.trans hb
      rw [hspool]
      exact hm.sound (h.sound a hs)
    · cases hslot.symm.trans hb
      rw [hspool, hm.storage]
      exact (Reports.replay_unfinished _ _ hclosed hunfinished).trans (h.unfinished a hs)
    · rw [hpersistent]
      exact h.lodged (by rw [show e.slot = _ from hs]; rfl)

theorem Endpoint.Assembles.entered (h : e.Assembles) : e.entered.Assembles :=
  ⟨⟨⟨h.plan, h.appends⟩, h.table, h.sound, h.unfinished⟩, h.lodged⟩

theorem Moves.aside {inHand : List Nat} {onHandler : Option HandlerId} {notices : List Notice}
    {counters : Counters} (h : Moves [] e inHand e')
    (hc : counters.largeMessages = e'.counters.largeMessages) :
    Moves [] e inHand { e' with onHandler, notices, counters } :=
  ⟨⟨h.handoffs, hc.trans h.sealed, h.lifecycle, h.plan⟩, h.places⟩

theorem Moves.entered {inHand inHand' : List Nat} (h : Moves inHand e.entered inHand' e') :
    Moves inHand e inHand' e' := ⟨⟨h.handoffs, h.sealed, h.lifecycle, h.plan⟩, h.places⟩

/-- An event for a delivery of which more is to come ends as reassembly does. -/
theorem message_waits (h : e.Assembles) (ho : e.lifecycle = .opened)
    (hd : e.link.current = some d) (hx : (e.link.delivery d).Waits) :
    let t := e.turnout .receiver d
    let e' := e.after (.message d)
    Made .receiver e t.calls t.link t.slot e' ∧ Moves [] e [] e' ∧ e'.pending = e.pending := by
  intro t e'
  let Q (e' : Endpoint) : Prop :=
    Made .receiver e t.calls t.link t.slot e' ∧ Moves [] e [] e' ∧ e'.pending = e.pending
  refine Act.Ends.state (Q := Q) (message_ends (fun hsealed h' => ⟨h'.1.leave, h'.2.1.aside hsealed,
    h'.2.2⟩) (fun hn => absurd ⟨ho, hd⟩ hn) fun _ _ => ?_)
  have hentered : e.entered.Assembles := h.entered
  have hpartial := ((acceptPartial_comes hentered.lodged hx.given hx.isPartial).and
    (acceptPartial_moves (e := e.entered) d)).and
      (sameTerms_frame.acceptPartial_within .receiver d e.entered)
  refine Attempt.ends_bind.2 (Attempt.ends_adapt.2 (Attempt.ends_bind.2 (Attempt.ends_get.2 ?_)))
  rw [if_neg (by simp [hx.given]), if_pos hx.isPartial]
  refine Attempt.ends_bind.2 (hpartial.imp (fun _ e₁ h₁ => ?_) (fun _ e₁ h₁ => ?_)
    fun _ _ h₁ => (h₁.1.1 hentered.toResponsive).elim)
  · exact ⟨h₁.1.1.2.outside, h₁.1.2.entered, h₁.2.pending⟩
  · exact ⟨h₁.1.1.2.outside, h₁.1.2.entered, h₁.2.pending⟩

/-- Of a delivery that was given up is left that the link is past it and that it was settled. The
large message that was coming in is discarded. -/
structure Erases (e : Endpoint) (d : DeliveryId) (e' : Endpoint) : Prop where
  link : e'.link =
    if e.link.drain then e.link.advance.settle d else (e.link.advance.settle d).flow 1
  slot : e'.slot = none
  pending : e'.pending = e.pending
  calls : e'.calls = e.calls ++ (e.slot.map fun a => Call.spoolDelete a.spool).toList ++
    .linkAdvance :: .settle d :: if e.link.drain then [] else [.linkFlow 1]
  opened : e'.opened = e.opened

/-- The receiver is told of a delivery that was given up. -/
theorem message_erases (h : e.Assembles) (hs : e.Spared settlementPoints)
    (ho : e.lifecycle = .opened) (hd : e.link.current = some d)
    (hg : (e.link.delivery d).isAborted) :
    (Event.message d).perform.Ends e (fun r e' => r = .ok () ∧ Erases e d e')
      fun _ _ => False := by
  refine message_answers (Q := fun r e' => r = .ok () ∧ Erases e d e')
    (fun _ h' => ⟨h'.1, h'.2.link, h'.2.slot, h'.2.pending, h'.2.calls, h'.2.opened⟩)
    (fun hn => absurd ⟨ho, hd⟩ hn) fun _ _ => ?_
  have hentered : e.entered.Assembles := h.entered
  have ht : e.entered.turnout .receiver d = e.givenUp .receiver := turnout_givenUp hg
  have hcomes := (accept_comes hentered.lodged d).and
    (sameTerms_frame.accept_within .receiver d e.entered)
  rw [ht] at hcomes
  refine Attempt.ends_bind.2 (Attempt.ends_adapt.2 (hcomes.imp (fun r e₁ h₁ => ?_)
    (fun error e₁ h₁ => nomatch h₁.1.1) fun _ _ h₁ => (h₁.1 hentered.toResponsive).elim))
  obtain ⟨⟨hr, hm⟩, hterms⟩ := h₁
  obtain rfl : Reassembly.aborted = r := Except.ok.inj hr
  have hspared : e₁.Spared settlementPoints := hs.later hm.plan hm.noted
  refine Attempt.ends_lift.2 ((hspared.onAborted_ends (d := d)).imp ?_
    fun _ _ => False.elim)
  rintro _ _ ⟨notices, counters, rfl⟩
  have hdrain : e₁.link.drain = e.link.drain := by
    rw [hm.link]
    exact e.link.advance_drain
  have hopened : e₁.opened = e.opened := by
    refine congrArg List.range ((congrArg _ (congrArg Storage.records hm.storage)).trans
      (Reports.replay_length _ fun call hcall => ?_))
    rcases List.mem_append.1 hcall with hcall | hcall
    · obtain ⟨a, -, rfl⟩ := Option.map_eq_some_iff.1 (Option.mem_toList.1 hcall)
      exact nofun
    · obtain rfl := List.mem_singleton.1 hcall
      exact nofun
  have hcalls : e₁.calls = e.calls ++ ((e.slot.map fun a => Call.spoolDelete a.spool).toList ++
      [.linkAdvance]) := hm.calls
  by_cases hdrained : e.link.drain
  · rw [if_pos (hdrain.trans hdrained)]
    refine ⟨rfl, ?_, hm.slot, hterms.pending, ?_, hopened⟩
    · rw [if_pos hdrained]
      exact congrArg (Link.settle · d) hm.link
    · rw [if_pos hdrained]
      show e₁.calls ++ [Call.settle d] = _
      simp [hcalls]
  · rw [if_neg (by rwa [hdrain])]
    refine ⟨rfl, ?_, hm.slot, hterms.pending, ?_, hopened⟩
    · rw [if_neg hdrained]
      exact congrArg (fun l : Link => (l.settle d).flow 1) hm.link
    · rw [if_neg hdrained]
      show e₁.calls ++ [Call.settle d] ++ [Call.linkFlow 1] = _
      simp [hcalls]

end Turnouts

section Coming

variable {e e' : Endpoint} {d : DeliveryId} {P : Delivery → Prop}

namespace Link.Brings

variable {l l' : Link}

theorem begin (hn : l.Numbered) (hq : l.queue = []) (format : UInt32)
    (remote : Option RemoteState) :
    l.Brings Delivery.Waits ⟨l.deliveries.length + 1⟩ (l.beginWith format remote) where
  rest := by
    rw [Link.beginWith, Link.change, Link.begin, hq]
    rfl
  known := by
    rw [Link.beginWith_ids]
    simp
  stage := by
    rw [hn.delivery_begun]
    exact ⟨rfl, rfl, rfl, rfl⟩

theorem current (h : l.Brings P d l') : l'.current = some d := by
  rw [h.rest]
  rfl

/-- The current delivery is changed, and the bytes that wait. -/
theorem changed (h : l.Brings P d l') {buffer : Bytes} {f : Delivery → Delivery}
    {P' : Delivery → Prop} (hid : ∀ x : Delivery, (f x).id = x.id)
    (hf : ∀ x : Delivery, P x → P' (f x)) :
    l.Brings P' d ({ l' with buffer }.changeCurrent f) where
  rest := by
    have hd : ({ l' with buffer } : Link).current = some d := h.current
    rw [Link.changeCurrent, hd, h.rest]
    rfl
  known := by
    rw [Link.map_changeCurrent _ hid]
    exact h.known
  stage := by
    have hd : ({ l' with buffer } : Link).current = some d := h.current
    rw [Link.delivery_changeCurrent_self _ hid hd h.known]
    exact hf _ h.stage

theorem drained (h : l.Brings Delivery.Waits d l') : l.Brings Delivery.Waits d l'.drained :=
  h.changed (fun _ => rfl) fun _ hx => ⟨hx.isPartial, hx.given, hx.unsettled, hx.open_⟩

theorem transfer (h : l.Brings Delivery.Waits d l') (bytes : Bytes) :
    l.Brings Delivery.Waits d (l'.transfer bytes true) :=
  h.changed (fun _ => rfl) fun _ hx => ⟨rfl, hx.given, hx.unsettled, hx.open_⟩

theorem abort (h : l.Brings Delivery.Waits d l') : l.Brings Delivery.GivenUp d l'.abort :=
  h.changed (fun _ => rfl) fun _ hx => ⟨rfl, hx.unsettled, hx.open_⟩

end Link.Brings

namespace Partway

/-- A change of the link by its sender. -/
theorem onLink {P' : Delivery → Prop} (h : Partway P e d e') {link : Link}
    (hlink : e.link.Brings P' d link) : Partway P' e d { e' with link } where
  assembles := ⟨⟨⟨h.assembles.plan, h.assembles.appends⟩, h.assembles.table, h.assembles.sound,
    h.assembles.unfinished⟩, h.assembles.lodged⟩
  spared := h.spared
  opened := h.opened
  link := hlink
  pending := h.pending
  moves := h.moves.trans (SameStock.moves ⟨⟨rfl, rfl, rfl, rfl⟩, rfl, rfl, rfl⟩)
  calls := h.calls

/-- A delivery is begun that none is in front of. -/
theorem begin (ha : e.Assembles) (hs : e.Spared settlementPoints) (hn : e.link.Numbered)
    (ho : e.lifecycle = .opened) (hq : e.link.queue = []) (format : UInt32)
    (remote : Option RemoteState) :
    Partway Delivery.Waits e ⟨e.link.deliveries.length + 1⟩ (e.after (.begin format remote)) where
  assembles := ⟨⟨⟨ha.plan, ha.appends⟩, ha.table, ha.sound, ha.unfinished⟩, ha.lodged⟩
  spared := hs
  opened := ho
  link := .begin hn hq format remote
  pending := rfl
  moves := SameStock.moves ⟨⟨rfl, rfl, rfl, rfl⟩, rfl, rfl, rfl⟩
  calls := ⟨[], (List.append_nil _).symm, by simp⟩

/-- The receiver is told of the delivery. -/
theorem message (h : Partway Delivery.Waits e d e') :
    Partway Delivery.Waits e d (e'.after (.message d)) := by
  obtain ⟨hmade, hmoves, hpending⟩ :=
    message_waits h.assembles h.opened h.link.current h.link.stage
  obtain ⟨hspools, hlink⟩ := turnout_waits h.link.stage
  obtain ⟨spooled, hcalls, hspooled⟩ := h.calls
  refine {
    assembles := waits_assembles h.assembles h.link.stage hmade
    spared := h.spared.later hmade.plan hmade.noted
    opened := hmade.lifecycle.trans h.opened
    link := ?_
    pending := hpending.trans h.pending
    moves := h.moves.trans hmoves
    calls := ⟨spooled ++ (e'.turnout .receiver d).calls,
      by rw [hmade.calls, hcalls, List.append_assoc], fun call hcall =>
        (List.mem_append.1 hcall).elim (hspooled call) (hspools call)⟩ }
  rw [hmade.link]
  rcases hlink with hlink | hlink <;> rw [hlink]
  · exact h.link
  · exact h.link.drained

/-- More of it comes, or the receiver is told. -/
theorem after (h : Partway Delivery.Waits e d e') {event : Event} (hevent : event.brings d) :
    Partway Delivery.Waits e d (e'.after event) := by
  cases event with
  | transfer bytes more =>
    obtain rfl : more = true := hevent
    exact h.onLink (h.link.transfer bytes)
  | message d' =>
    obtain rfl : d' = d := by simpa [Event.brings] using hevent
    exact h.message
  | _ => exact nomatch hevent

theorem afterAll : ∀ {body : List Event} {e' : Endpoint}, Partway Delivery.Waits e d e' →
    (∀ event ∈ body, event.brings d) → Partway Delivery.Waits e d (e'.afterAll body)
  | [], _, h, _ => h
  | event :: body, e', h, hbody => by
    obtain ⟨hevent, hrest⟩ := List.forall_mem_cons.1 hbody
    show Partway Delivery.Waits e d ((e'.after event).afterAll body)
    exact afterAll (h.after hevent) hrest

/-- The sender gives the delivery up. -/
theorem abort (h : Partway Delivery.Waits e d e') :
    Partway Delivery.GivenUp e d (e'.after .abort) := h.onLink h.link.abort

end Partway

end Coming

section Erasing

variable {e before e' : Endpoint} {d : DeliveryId}

theorem Credit.add_spend {credit : UInt32} (h : credit ≠ 0) :
    Credit.add (Credit.spend credit) 1 = credit := by
  have hspent := toNat_spend h
  have hbound := credit.toNat_lt
  refine UInt32.toNat_inj.1 ((toNat_add _ _).trans ?_)
  rw [show (1 : UInt32).toNat = 1 from rfl, hspent]
  exact Nat.min_eq_left (Nat.le_pred_of_lt hbound)

namespace Erases

variable (h : Erases before d e') (hup : Partway Delivery.GivenUp e d before)

include h hup

/-- The unit of credit that the delivery took is put back. -/
theorem link_eq (hq : e.link.queue = []) (hbuffer : e.link.buffer = [])
    (hcredit : e.link.credit ≠ 0) :
    e'.link = { e.link with
      deliveries := e'.link.deliveries
      advanced := e.link.advanced + 1
      grants := e.link.grants ++ if e.link.drain then [] else [1]
      credit := if e.link.drain then e.link.credit - 1 else e.link.credit } := by
  have hdrain : before.link.drain = e.link.drain := by rw [hup.link.rest]
  have hadvance : before.link.advance = { e.link with
      credit := Credit.spend e.link.credit, queue := [], buffer := [],
      deliveries := before.link.deliveries, advanced := e.link.advanced + 1 } := by
    rw [hup.link.rest]
    rfl
  have hspent : Credit.spend e.link.credit = e.link.credit - 1 := if_neg hcredit
  have hback := Credit.add_spend hcredit
  rw [hspent] at hback
  rw [h.link, hdrain, hadvance]
  split <;> simp [Link.settle, Link.change, Link.flow, hq, hbuffer, hspent, hback]

theorem delivery_eq : e'.link.delivery d =
    { before.link.delivery d with settles := (before.link.delivery d).settles + 1 } := by
  have hknown : d ∈ before.link.advance.deliveries.map (·.id) := by
    rw [Link.advance_deliveries]
    exact hup.link.known
  have hsettled : (before.link.advance.settle d).delivery d = _ :=
    Link.delivery_change_self _ (fun _ => rfl) hknown
  rw [Link.advance_delivery] at hsettled
  rw [h.link]
  split <;> exact hsettled

/-- The spools that were opened are those that were deleted. -/
theorem spooled (hslot : e.slot = none) : ∃ spooled, (∀ call ∈ spooled, call.spools) ∧
    e'.calls = e.calls ++ spooled ++
      .linkAdvance :: .settle d :: (if e.link.drain then [] else [.linkFlow 1]) ∧
    (e.opened ++ spooled.filterMap Call.deleted?).Perm e'.opened := by
  have hdrain : before.link.drain = e.link.drain := by rw [hup.link.rest]
  obtain ⟨spooled, hcalls, hspooled⟩ := hup.calls
  let discards := (before.slot.map fun a => Call.spoolDelete a.spool).toList
  refine ⟨spooled ++ discards, ?_, ?_, List.perm_iff_count.2 fun place => ?_⟩
  · refine List.forall_mem_append.2 ⟨hspooled, fun call hcall => ?_⟩
    obtain ⟨a, -, rfl⟩ := Option.map_eq_some_iff.1 (Option.mem_toList.1 hcall)
    rfl
  · rw [h.calls, hcalls, hdrain]
    simp only [discards, List.append_assoc]
  · have hdiscards : discards.filterMap Call.deleted? = before.coming := by
      simp only [discards, Endpoint.coming]
      cases before.slot <;> rfl
    have hplaces := List.perm_iff_count.1 hup.moves.places place
    rw [coming_none hslot, Endpoint.deleted, hcalls, List.filterMap_append] at hplaces
    rw [List.filterMap_append, hdiscards, h.opened]
    simp only [List.count_append, List.count_nil, Endpoint.deleted] at hplaces ⊢
    omega

end Erases

end Erasing

section Runs

/-- A delivery that is begun where nothing else is in front of it, comes in by any number of
transfers and in any number of events, whichever calls fail, and is then given up by its sender
leaves credit, counts, handoffs, the queue and the bytes that wait as they were, once the receiver
is told. Unless the sender wants its credit used up its unit of credit is granted back, in one
grant. The delivery is settled once and without an outcome, the link is moved past it once, and the
spools that were opened for it are deleted. -/
theorem abort_erases {e₀ : Endpoint} (h : e₀.Fresh) (run : List Event) (format : UInt32)
    (remote : Option RemoteState) (body : List Event) :
    let e := e₀.afterAll run
    let d : DeliveryId := ⟨e.link.deliveries.length + 1⟩
    let before := e.afterAll (.begin format remote :: body ++ [.abort])
    let e' := before.after (.message d)
    e.lifecycle = .opened → e.link.queue = [] → e.link.buffer = [] → e.slot = none →
    e.link.credit ≠ 0 → e.storage.poisoned = false → e.Answering → e.Spared settlementPoints →
    (∀ event ∈ body, event.brings d) →
    (Event.message d).perform before = (.ok (.ok ()), e') ∧
      e'.link = { e.link with
        deliveries := e'.link.deliveries
        advanced := e.link.advanced + 1
        grants := e.link.grants ++ if e.link.drain then [] else [1]
        credit := if e.link.drain then e.link.credit - 1 else e.link.credit } ∧
      e'.slot = none ∧ e'.pending = e.pending ∧ e'.handoffs = e.handoffs ∧
      e'.settles d = 1 ∧ (e'.link.delivery d).outcome = none ∧
      ∃ spooled, (∀ call ∈ spooled, call.spools) ∧
        e'.calls = e.calls ++ spooled ++
          .linkAdvance :: .settle d :: (if e.link.drain then [] else [.linkFlow 1]) ∧
        (e.opened ++ spooled.filterMap Call.deleted?).Perm e'.opened := by
  intro e d before e' ho hq hbuffer hslot hcredit htable ha hs hbody
  have hslot' : (e.reassembler.get .receiver).slot = none := hslot
  have hassembles : e.Assembles :=
    ⟨⟨ha, htable, by simp [hslot'], by simp [hslot']⟩, by simp [hslot]⟩
  have hcoming : Partway Delivery.Waits e d ((e.after (.begin format remote)).afterAll body) :=
    (Partway.begin hassembles hs (h.inLine.afterAll run).numbered ho hq format
      remote).afterAll hbody
  have hbefore : before = ((e.after (.begin format remote)).afterAll body).after .abort :=
    (e.after (.begin format remote)).afterAll_append body [.abort]
  have hup : Partway Delivery.GivenUp e d before := hbefore ▸ hcoming.abort
  obtain ⟨_, e'', heq, rfl, herases⟩ := (message_erases hup.assembles hup.spared hup.opened
    hup.link.current hup.link.stage.given).answers
  have hafter : e' = e'' := congrArg Prod.snd heq
  rw [hafter, heq]
  obtain ⟨spooled, hspools, hcalls, hplaces⟩ := herases.spooled hup hslot
  refine ⟨rfl, herases.link_eq hup hq hbuffer hcredit, herases.slot,
    herases.pending.trans hup.pending, ?_, ?_, ?_, spooled, hspools, hcalls, hplaces⟩
  · have hnone : spooled.filterMap Call.handoff? = [] :=
      List.filterMap_eq_nil_iff.2 fun call hcall => handoff?_of_spools (hspools call hcall)
    rw [Endpoint.handoffs, hcalls, List.filterMap_append, List.filterMap_append, hnone]
    split <;> simp [Endpoint.handoffs, Call.handoff?]
  · rw [Endpoint.settles, herases.delivery_eq hup]
    exact congrArg (· + 1) hup.link.stage.unsettled
  · rw [herases.delivery_eq hup]
    exact hup.link.stage.open_

/-- One delivery is unsettled. The next is started twice: first it cannot be registered, then a
write fails. Neither spool can be deleted. -/
theorem abort_erases_started_twice :
    let plan : Plan := fun n _ =>
      if n ∈ [7, 8, 15, 16] then some (.fails { text := "disk full" }) else none
    let fresh : Endpoint :=
      { Endpoint.start { minLargeMessageSize := 4 } "orders" 10 ⟨1⟩ .memory none with plan }
    let run : List Event := [.begin 0 none, .transfer [1] false, .message ⟨1⟩]
    let body : List Event := [.transfer [1, 2, 3, 4] true, .message ⟨2⟩,
      .transfer [5, 6, 7, 8] true, .message ⟨2⟩, .transfer [9] true, .message ⟨2⟩]
    let e := fresh.afterAll run
    let d : DeliveryId := ⟨e.link.deliveries.length + 1⟩
    let before := e.afterAll (.begin 0 none :: body ++ [.abort])
    let e' := before.after (.message d)
    fresh.Fresh ∧ (e.lifecycle = .opened ∧ e.link.queue = [] ∧ e.link.buffer = [] ∧ e.slot = none) ∧
      (e.link.credit ≠ 0 ∧ e.storage.poisoned = false ∧ e.Answering ∧ e.Spared settlementPoints) ∧
      (d = ⟨2⟩ ∧ ∀ event ∈ body, event.brings d) ∧
      (before.slot.isSome ∧ before.link.credit = 8 ∧ before.deleted = [0]) ∧
      (Event.message d).perform before = (.ok (.ok ()), e') ∧
      (e'.link.credit = 9 ∧ e'.link.grants = [1] ∧ e'.link.queue = [] ∧ e'.link.buffer = []) ∧
      (e'.slot = none ∧ e'.pending = e.pending ∧ e'.handoffs = e.handoffs) ∧
      (e'.settles d = 1 ∧ (e'.link.delivery d).outcome = none) ∧
      (e'.opened = [0, 1] ∧ e'.deleted = [0, 1]) := by
  intro plan fresh run body e d before e'
  have hfresh : fresh.Fresh := (Endpoint.start_fresh ..).withPlan plan
  have hempty : e.lifecycle = .opened ∧ e.link.queue = [] ∧ e.link.buffer = [] ∧ e.slot = none := by
    decide +kernel
  have hpanics (n : Nat) (point : Point) (k : Panic) : e.plan n point ≠ some (.panics k) := by
    rw [show e.plan = plan from (afterAll_samePlan _ fresh).plan]
    simp only [plan]
    split <;> simp
  have hcredit : e.link.credit ≠ 0 ∧ e.storage.poisoned = false := by decide +kernel
  have hanswering : e.Answering := ⟨fun n point _ k _ => hpanics n point k, by decide +kernel⟩
  have hspared : e.Spared settlementPoints := .of_spares fun n point _ k => hpanics n point k
  have hbegun : d = ⟨2⟩ ∧ ∀ event ∈ body, event.brings d := by decide +kernel
  have hpartway : before.slot.isSome ∧ before.link.credit = 8 ∧ before.deleted = [0] := by
    decide +kernel
  have hspools : e'.opened = [0, 1] ∧ e'.deleted = [0, 1] := by decide +kernel
  have hlinked : e.link.drain = false ∧ e.link.credit = 9 ∧ e.link.grants = [] := by decide +kernel
  have hall := abort_erases hfresh run 0 none body
  rw [show fresh.afterAll run = e from rfl] at hall
  -- nothing that follows depends on what the run was
  clear_value body e
  obtain ⟨hdrain, hnine, hnone⟩ := hlinked
  obtain ⟨hperform, hlink, hcleared, hpending, hhandoffs, hsettles, houtcome, -⟩ :=
    hall hempty.1 hempty.2.1 hempty.2.2.1 hempty.2.2.2 hcredit.1 hcredit.2 hanswering hspared
      hbegun.2
  rw [hdrain, hnine, hnone] at hlink
  refine ⟨hfresh, hempty, ⟨hcredit.1, hcredit.2, hanswering, hspared⟩, hbegun, hpartway, hperform,
    ?_, ⟨hcleared, hpending, hhandoffs⟩, ⟨hsettles, houtcome⟩, hspools⟩
  have hlink : e'.link = { e.link with
      deliveries := e'.link.deliveries, advanced := e.link.advanced + 1
      grants := [1], credit := 9 } := hlink
  rw [hlink]
  exact ⟨rfl, rfl, hempty.2.1, hempty.2.2.1⟩

end Runs

end ReceivingLink
