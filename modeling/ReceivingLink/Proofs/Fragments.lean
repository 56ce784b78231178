import ReceivingLink.Proofs.Traffic

/-!
# Fragments

A peer may cut what it sends into transfers as it likes, and the receiver may be told of them as
often as one likes. Routing gets of every delivery one message with all of its bytes, in the order
of the link: `routed_eq_done`. The message is a large one if storage persists and its length
reaches the threshold, whatever the transfers were.
-/

namespace ReceivingLink

/-- What a peer sent for a delivery. -/
structure Parcel where
  delivery : DeliveryId
  format : UInt32
  body : Bytes

/-- The side of the peer. Deliveries wait in the order in which they were begun, with their formats.
Transfers are made for the first one until it is ended, and it is done once the receiver was told of
it after that. -/
structure Peer where
  begun : Nat := 0
  waiting : List (DeliveryId × UInt32) := []
  /-- What was sent for the delivery that waits first. -/
  body : Bytes := []
  ended : Bool := false
  done : List Parcel := []

namespace Peer

/-- The receiver is told of a delivery. -/
def told (p : Peer) (d : DeliveryId) : Peer :=
  match p.waiting with
  | [] => p
  | (first, format) :: rest =>
    if d = first ∧ p.ended then
      { p with
        waiting := rest, body := [], ended := false, done := p.done ++ [⟨d, format, p.body⟩] }
    else p

/-- What an event makes of the peer's side. There are no transfers but for a delivery that is not
ended, no delivery is aborted, and the receiver is not closed. -/
def step (p : Peer) : Event → Option Peer
  | .begin format _ => some
      { p with begun := p.begun + 1, waiting := p.waiting ++ [(⟨p.begun + 1⟩, format)] }
  | .transfer bytes more =>
    if p.waiting.isEmpty || p.ended then none
    else some { p with body := p.body ++ bytes, ended := !more }
  | .message d => some (p.told d)
  | .abort | .close _ | .closeWithError _ => none
  | _ => some p

/-- What a run makes of the peer's side. -/
def follow (p : Peer) : List Event → Option Peer
  | [] => some p
  | event :: run => (p.step event).bind (·.follow run)

end Peer

namespace Endpoint

/-- A message of this length is to be spooled. -/
def spools (e : Endpoint) (length : Nat) : Bool :=
  e.isPersistent && e.config.largeMessageThreshold.any (· ≤ length)

/-- What routing is to get of what a peer sent. -/
def expects (e : Endpoint) (p : Parcel) : Arrival where
  delivery := p.delivery
  format := p.format
  size := p.body.length
  isLarge := e.spools p.body.length
  content := p.body

end Endpoint

/-- The endpoint has what the peer sent, and knows of it what the peer says. -/
structure Carries (p : Peer) (e : Endpoint) : Prop where
  steady : e.Steady
  threshold : (e.reassembler.get .receiver).threshold = e.config.largeMessageThreshold
  begun : (e.link.deliveries.map (·.id)).length = p.begun
  queue : e.link.queue = p.waiting.map (·.1)
  first : ∀ x, p.waiting.head? = some x →
    (e.link.delivery x.1).sender = (x.2, !p.ended, false)
  rest : ∀ x ∈ p.waiting.tail, (e.link.delivery x.1).sender = (x.2, true, false)
  idle : p.waiting = [] → p.ended = false
  whole : ¬ e.Spoiled
  atHand : e.atHand = p.body
  large : e.slot.isSome → e.spools p.body.length

section Steps

variable {p p' : Peer} {e : Endpoint}

theorem Continued.spools {e' : Endpoint} (h : Continued e e') : e'.spools = e.spools := by
  funext length
  rw [Endpoint.spools, h.isPersistent, h.config]
  rfl

theorem Continued.expects {e' : Endpoint} (h : Continued e e') : e'.expects = e.expects := by
  funext p
  rw [Endpoint.expects, h.spools]
  rfl

theorem spools_mono {n m : Nat} (h : e.spools n) (hle : n ≤ m) : e.spools m := by
  simp only [Endpoint.spools, Bool.and_eq_true, Option.any_eq_true, decide_eq_true_eq] at h ⊢
  obtain ⟨hp, t, ht, hn⟩ := h
  exact ⟨hp, t, ht, Nat.le_trans hn hle⟩

/-- Before a large message is started the bytes at hand are those that have come. -/
theorem Carries.starts_iff (h : Carries p e) {d : DeliveryId} (hd : e.link.current = some d)
    (hslot : e.slot = none) : e.Starts d ↔ e.spools p.body.length := by
  have hlen : (e.link.delivery d).available = p.body.length := by
    rw [h.steady.sound.measured d hd, ← h.atHand, atHand_none hslot]
  simp only [Endpoint.Starts, Endpoint.Reaches, Endpoint.spools, h.threshold, hlen,
    Bool.and_eq_true, Option.any_eq_true, decide_eq_true_eq]

theorem Carries.large_iff (h : Carries p e) {d : DeliveryId} (hd : e.link.current = some d) :
    (e.slot.isSome ∨ e.Starts d) ↔ e.spools p.body.length := by
  rcases hslot : e.slot with _ | a
  · rw [h.starts_iff hd hslot]
    simp
  · exact ⟨fun _ => h.large (by rw [hslot]; rfl), fun _ => .inl rfl⟩

theorem Carries.untouched {event : Event} (h : Carries p e) (hu : Untouched e (e.after event))
    (ha : e.Admits event) : Carries p (e.after event) where
  steady := h.steady.after ha (hu.lifecycle.trans h.steady.opened)
  threshold := by rw [hu.threshold, h.threshold, hu.config]
  begun := by rw [hu.begun, h.begun]
  queue := hu.queue.trans h.queue
  first := fun x hx => (hu.sender x.1).trans (h.first x hx)
  rest := fun x hx => (hu.sender x.1).trans (h.rest x hx)
  idle := h.idle
  whole := by rw [hu.spoiled]; exact h.whole
  atHand := hu.atHand.trans h.atHand
  large := by
    rw [hu.slot_eq, hu.spools]
    exact h.large

theorem Carries.mem_queue (h : Carries p e) {x : DeliveryId × UInt32} (hx : x ∈ p.waiting) :
    x.1 ∈ e.link.queue := by
  rw [h.queue]
  exact List.mem_map_of_mem hx

theorem Carries.current (h : Carries p e) {x : DeliveryId × UInt32}
    {rest : List (DeliveryId × UInt32)} (hw : p.waiting = x :: rest) :
    e.link.current = some x.1 := by
  rw [Link.current, h.queue, hw]
  rfl

theorem Carries.begin (h : Carries p e) (format : UInt32) (remote : Option RemoteState) :
    Carries { p with begun := p.begun + 1, waiting := p.waiting ++ [(⟨p.begun + 1⟩, format)] }
      (e.after (.begin format remote)) := by
  have hsound := h.steady.sound
  have hlen : e.link.deliveries.length = p.begun := by simpa using h.begun
  have hold {x : DeliveryId × UInt32} (hx : x ∈ p.waiting) :
      ((e.link.beginWith format remote).delivery x.1).sender = (e.link.delivery x.1).sender := by
    rw [hsound.numbered.delivery_beginWith format remote (hsound.known (h.mem_queue hx))]
  have hnew : ((e.link.beginWith format remote).delivery ⟨p.begun + 1⟩).sender =
      (format, true, false) := by
    rw [← hlen, hsound.numbered.delivery_begun]
    rfl
  refine ⟨h.steady.after trivial h.steady.opened, h.threshold, ?_, ?_, fun x hx => ?_,
    fun x hx => ?_, fun hw => ?_, h.whole, h.atHand, h.large⟩
  · show ((e.link.beginWith format remote).deliveries.map (·.id)).length = _
    rw [Link.beginWith_ids]
    simp [hlen]
  · show (e.link.beginWith format remote).queue = _
    rw [Link.beginWith_queue, h.queue, hlen]
    simp
  · rcases hw : p.waiting with _ | ⟨y, rest⟩
    · rw [hw] at hx
      cases hx
      rw [h.idle hw]
      exact hnew
    · rw [hw] at hx
      cases hx
      exact (hold (by rw [hw]; exact List.mem_cons_self)).trans (h.first x (by rw [hw]; rfl))
  · rcases hw : p.waiting with _ | ⟨y, rest⟩
    · simp [hw] at hx
    · simp only [hw, List.cons_append, List.tail_cons, List.mem_append, List.mem_singleton] at hx
      rcases hx with hx | rfl
      · exact (hold (by rw [hw]; exact List.mem_cons_of_mem y hx)).trans
          (h.rest x (by rw [hw]; exact hx))
      · exact hnew
  · simp at hw

theorem Carries.transfer (h : Carries p e) {x : DeliveryId × UInt32}
    {rest : List (DeliveryId × UInt32)} (hw : p.waiting = x :: rest) (bytes : Bytes) (more : Bool) :
    Carries { p with body := p.body ++ bytes, ended := !more }
      (e.after (.transfer bytes more)) := by
  have hd := h.current hw
  have hq : e.link.queue = x.1 :: rest.map (·.1) := by rw [h.queue, hw]; rfl
  refine ⟨h.steady.after (by rw [Endpoint.Admits, hq]; simp) h.steady.opened, h.threshold, ?_, ?_,
    fun y hy => ?_, fun y hy => ?_, fun hempty => ?_, h.whole, ?_, fun hs => ?_⟩
  · refine Eq.trans (congrArg List.length ?_) h.begun
    exact Link.map_changeCurrent _ fun _ => by rfl
  · exact (Link.changeCurrent_queue _ _).trans h.queue
  · cases (congrArg List.head? hw).symm.trans hy
    have hfirst := h.first x hy
    show ((e.link.transfer bytes more).delivery x.1).sender = _
    rw [h.steady.sound.transfer_current hd, Bool.not_not]
    simp only [Delivery.sender, Prod.mk.injEq] at hfirst ⊢
    exact ⟨hfirst.1, trivial, hfirst.2.2⟩
  · have hne : e.link.current ≠ some y.1 := by
      have hnodup := h.steady.sound.nodup
      rw [hq, List.nodup_cons] at hnodup
      rw [hd]
      intro heq
      refine hnodup.1 ?_
      rw [Option.some.inj heq]
      exact List.mem_map_of_mem (by simpa [hw] using hy)
    exact (congrArg Delivery.sender (transfer_ne hne bytes more)).trans (h.rest y hy)
  · exact absurd (hw.symm.trans hempty) (by simp)
  · exact (atHand_transfer e bytes more).trans (congrArg (· ++ bytes) h.atHand)
  · exact spools_mono (h.large hs) (by simp)

/-- Being told of the delivery that waits first changes nothing as long as it is not ended. -/
theorem Carries.kept (h : Carries p e) {x : DeliveryId × UInt32}
    {rest : List (DeliveryId × UInt32)} (hw : p.waiting = x :: rest) (hended : p.ended = false)
    (heffect : Handles e x.1 (e.after (.message x.1))) :
    Carries p (e.after (.message x.1)) ∧ e.arrivals (.message x.1) = [] := by
  have hd := h.current hw
  have hfirst := h.first x (by rw [hw]; rfl)
  simp only [Delivery.sender, hended, Prod.mk.injEq] at hfirst
  have hsilent := heffect.silent hfirst.2.1
  have hset := hsilent.setting
  have hkept := (hsilent.kept (h.steady.healthy h.whole hfirst.2.2)).2
  refine ⟨⟨h.steady.after trivial (hset.lifecycle.trans h.steady.opened), ?_, ?_, ?_,
    fun y hy => ?_, fun y hy => ?_, h.idle, hkept.whole, ?_, fun hs => ?_⟩,
    arrivals_nil hset.handoffs⟩
  · rw [hset.threshold, h.threshold, hset.config]
  · rw [hset.begun, h.begun]
  · rw [hkept.queue, h.queue]
  · rw [hset.sender, h.first y hy]
  · rw [hset.sender, h.rest y hy]
  · rw [hkept.atHand, h.atHand]
  · rw [hset.toContinued.spools, ← h.large_iff hd]
    exact hkept.grown hs

/-- An ended delivery that the receiver is told of has its message passed to routing. -/
theorem Carries.arrives (h : Carries p e) {x : DeliveryId × UInt32}
    {rest : List (DeliveryId × UInt32)} (hw : p.waiting = x :: rest) (hended : p.ended)
    (heffect : Handles e x.1 (e.after (.message x.1))) :
    Carries
      { p with waiting := rest, body := [], ended := false, done := p.done ++ [⟨x.1, x.2, p.body⟩] }
      (e.after (.message x.1)) ∧
      e.arrivals (.message x.1) = [e.expects ⟨x.1, x.2, p.body⟩] := by
  have hd := h.current hw
  have hfirst := h.first x (by rw [hw]; rfl)
  simp only [Delivery.sender, hended, Prod.mk.injEq] at hfirst
  obtain ⟨handoff, hhands⟩ :=
    heffect.hands (h.steady.healthy h.whole hfirst.2.2) hfirst.2.1
  have hset := hhands.setting
  have hslot := hhands.moved.slot
  have hrest : ∀ y ∈ rest,
      ((e.after (.message x.1)).link.delivery y.1).sender = (y.2, true, false) :=
    fun y hy => (hset.sender y.1).trans (h.rest y (by rw [hw]; exact hy))
  refine ⟨⟨h.steady.after trivial (hset.lifecycle.trans h.steady.opened), ?_, ?_, ?_,
    fun y hy => ?_, fun y hy => ?_, fun _ => rfl, not_spoiled hslot, ?_, fun hs => ?_⟩, ?_⟩
  · rw [hset.threshold]
    exact h.threshold.trans (congrArg _ hset.config.symm)
  · rw [hset.begun]
    exact h.begun
  · rw [hhands.moved.queue, h.queue, hw]
    rfl
  · exact hrest y (List.mem_of_mem_head? hy)
  · exact hrest y (List.mem_of_mem_tail hy)
  · rw [atHand_none hslot, hhands.moved.buffer]
  · rw [hslot] at hs
    cases hs
  · rw [arrivals_hands hhands]
    have hlarge : handoff.message.isLarge = e.spools p.body.length :=
      Bool.eq_iff_iff.2 (hhands.large.trans (h.large_iff hd))
    simp only [Endpoint.arrival, Endpoint.expects, hhands.delivery, hhands.whole.format,
      hhands.whole.size, hhands.whole.content, h.atHand, hlarge, hfirst.1]

theorem Carries.message (h : Carries p e) (d : DeliveryId) :
    Carries (p.told d) (e.after (.message d)) ∧
      (p.told d).done.map e.expects = p.done.map e.expects ++ e.arrivals (.message d) := by
  have heffect := after_effect (fun _ => h.steady.tidy) (.message d)
  rw [Effect] at heffect
  unfold Peer.told
  by_cases hd : e.link.current = some d
  · rw [if_pos ⟨h.steady.opened, hd⟩] at heffect
    rcases hw : p.waiting with _ | ⟨x, rest⟩
    · rw [Link.current, h.queue, hw] at hd
      cases hd
    obtain rfl : x.1 = d := Option.some.inj ((h.current hw).symm.trans hd)
    by_cases hended : p.ended
    · obtain ⟨hcarries, harrives⟩ := h.arrives hw hended heffect
      simp only [hended, and_self, if_true]
      exact ⟨hcarries, by rw [harrives]; simp⟩
    · obtain ⟨hcarries, hnothing⟩ := h.kept hw (by simpa using hended) heffect
      simp only [hended]
      exact ⟨hcarries, by rw [hnothing]; simp⟩
  · rw [if_neg fun hn => hd hn.2] at heffect
    have hsame : Carries p (e.after (.message d)) ∧
        p.done.map e.expects = p.done.map e.expects ++ e.arrivals (.message d) :=
      ⟨h.untouched heffect trivial, by rw [arrivals_nil heffect.handoffs]; simp⟩
    rcases hw : p.waiting with _ | ⟨x, rest⟩
    · exact hsame
    · have hne : d ≠ x.1 := fun hdx => hd (hdx ▸ h.current hw)
      simp only [hne, false_and, if_false]
      exact hsame

/-- What the peer is done with after an event is what routing gets in it. -/
theorem Carries.after {event : Event} (h : Carries p e) (hp : p.step event = some p') :
    Carries p' (e.after event) ∧
      p'.done.map e.expects = p.done.map e.expects ++ e.arrivals event := by
  have hnil (hn : (e.after event).handoffs = e.handoffs) :
      p.done.map e.expects = p.done.map e.expects ++ e.arrivals event := by
    rw [arrivals_nil hn]
    simp
  have heffect := after_effect (fun _ => h.steady.tidy) event
  cases event with
  | begin format remote =>
    cases hp
    exact ⟨h.begin format remote, hnil rfl⟩
  | transfer bytes more =>
    simp only [Peer.step] at hp
    split at hp
    · cases hp
    rename_i hopen
    cases hp
    simp only [Bool.or_eq_true, List.isEmpty_iff, not_or] at hopen
    obtain ⟨x, rest, hw⟩ := List.exists_cons_of_ne_nil hopen.1
    exact ⟨h.transfer hw bytes more, hnil rfl⟩
  | message d =>
    cases hp
    exact h.message d
  | abort | close | closeWithError => cases hp
  | setDrain | flow | runPending | settle | submit | setMode =>
    cases hp
    have hu : Untouched e (e.after _) := heffect
    exact ⟨h.untouched hu trivial, hnil hu.handoffs⟩

/-- Along a run routing gets what the peer is done with. -/
theorem Carries.follow : ∀ (run : List Event) {p : Peer} {e : Endpoint}, Carries p e →
    p.follow run = some p' →
    Carries p' (e.afterAll run) ∧ p'.done.map e.expects = p.done.map e.expects ++ e.routed run
  | [], p, e, h, hp => by
    cases hp
    exact ⟨h, by rw [Endpoint.routed, List.append_nil]⟩
  | event :: run, p, e, h, hp => by
    obtain ⟨p₁, hstep, hrest⟩ := Option.bind_eq_some_iff.1 hp
    obtain ⟨h₁, harrives⟩ := h.after hstep
    obtain ⟨h', hrouted⟩ := h₁.follow run hrest
    refine ⟨h', ?_⟩
    have hexpects : (e.after event).expects = e.expects :=
      (after_continued (fun _ => h.steady.tidy) h₁.steady.opened).expects
    rw [hexpects, harrives, List.append_assoc] at hrouted
    exact hrouted

theorem Carries.fresh (h : e.Fresh) (hs : e.storage.Clean) (hc : e.Calm) : Carries {} e where
  steady := h.steady hs hc
  threshold := h.threshold
  begun := by rw [h.deliveries]; rfl
  queue := h.queue
  first := fun x hx => nomatch hx
  rest := fun x hx => nomatch hx
  idle := fun _ => rfl
  whole := not_spoiled h.slot
  atHand := by rw [atHand_none h.slot, h.buffer]
  large := fun hl => by
    rw [Endpoint.slot, h.slot] at hl
    cases hl

/-- The deliveries that are done with and those that wait are the ones begun, in order. -/
def Peer.InOrder (p : Peer) : Prop :=
  p.done.map (·.delivery) ++ p.waiting.map (·.1) = (List.range p.begun).map fun n => ⟨n + 1⟩

theorem Peer.InOrder.step {event : Event} (h : p.InOrder) (hp : p.step event = some p') :
    p'.InOrder := by
  cases event with
  | begin format remote =>
    cases hp
    unfold InOrder at h ⊢
    rw [List.range_succ, List.map_append, List.map_append, ← List.append_assoc, h]
    rfl
  | transfer bytes more =>
    simp only [Peer.step] at hp
    split at hp
    · cases hp
    · cases hp
      exact h
  | message d =>
    cases hp
    unfold Peer.told
    rcases hw : p.waiting with _ | ⟨x, rest⟩
    · exact h
    · dsimp only
      split
      · rename_i hd
        rw [InOrder, hw] at h
        rw [InOrder, hd.1, ← h]
        simp
      · exact h
  | abort | close | closeWithError => cases hp
  | setDrain | flow | runPending | settle | submit | setMode =>
    cases hp
    exact h

theorem Peer.InOrder.follow : ∀ (run : List Event) {p : Peer}, p.InOrder →
    p.follow run = some p' → p'.InOrder
  | [], p, h, hp => by
    cases hp
    exact h
  | event :: run, p, h, hp => by
    obtain ⟨p₁, hstep, hrest⟩ := Option.bind_eq_some_iff.1 hp
    exact (h.step hstep).follow run hrest

/-- However the bodies are cut into transfers and whenever the receiver is told of them, routing
gets of every delivery that the peer is done with one message, in the order of the link. Its content
is all that was sent, and it is a large one if that is to be spooled. -/
theorem routed_eq_done (h : e.Fresh) (hs : e.storage.Clean) (hc : e.Calm) (run : List Event)
    (hp : Peer.follow {} run = some p) :
    e.routed run = p.done.map e.expects ∧
      (e.routed run).map (·.delivery) ++ p.waiting.map (·.1) =
        (List.range p.begun).map fun n => ⟨n + 1⟩ := by
  obtain ⟨-, hrouted⟩ := (Carries.fresh h hs hc).follow run hp
  have hdone : e.routed run = p.done.map e.expects := hrouted.symm
  have horder : p.InOrder := Peer.InOrder.follow run (p := {}) rfl hp
  refine ⟨hdone, ?_⟩
  rw [hdone, List.map_map]
  exact horder

/-- Two deliveries, begun while others are sent: the first is spooled, the second is not. -/
theorem routed_eq_done_two :
    let e : Endpoint :=
      .start { minLargeMessageSize := 4 } "orders" 10 ⟨1⟩ .memory none
    let run : List Event := [.begin 7 none, .transfer [1, 2] true, .message ⟨1⟩, .begin 9 none,
      .transfer [] true, .transfer [3, 4, 5] false, .message ⟨2⟩, .message ⟨1⟩, .message ⟨1⟩,
      .transfer [6] true, .transfer [] false, .message ⟨2⟩]
    e.routed run = [⟨⟨1⟩, 7, 5, true, [1, 2, 3, 4, 5]⟩, ⟨⟨2⟩, 9, 1, false, [6]⟩] := by
  intro e run
  have hfresh : e.Fresh := Endpoint.start_fresh ..
  have hs : e.storage.Clean := .empty rfl rfl
  have hc : e.Calm := ⟨fun _ _ _ => rfl, rfl, fun _ => rfl, rfl⟩
  have hp : Peer.follow {} run =
      some ⟨2, [], [], false, [⟨⟨1⟩, 7, [1, 2, 3, 4, 5]⟩, ⟨⟨2⟩, 9, [6]⟩]⟩ := rfl
  exact (routed_eq_done hfresh hs hc run hp).1

end Steps

/-- A delivery as it is cut into transfers, with how often the receiver is told of it after each of
them, and how often again after the last one. -/
structure Shipment where
  format : UInt32
  chunks : List (Bytes × Nat)
  last : Bytes
  again : Nat

namespace Shipment

def body (s : Shipment) : Bytes := (s.chunks.map (·.1)).flatten ++ s.last

/-- The transfers but the last, and what the receiver is told. -/
def chunkEvents (d : DeliveryId) (chunks : List (Bytes × Nat)) : List Event :=
  chunks.flatMap fun c => .transfer c.1 true :: List.replicate c.2 (.message d)

/-- A delivery from its beginning to its end. -/
def events (s : Shipment) (d : DeliveryId) : List Event :=
  .begin s.format none :: (chunkEvents d s.chunks ++
    .transfer s.last false :: List.replicate (s.again + 1) (.message d))

/-- Deliveries one after the other, the first of them with the number after `n`. -/
def schedule (n : Nat) : List Shipment → List Event
  | [] => []
  | s :: rest => s.events ⟨n + 1⟩ ++ schedule (n + 1) rest

/-- What is sent for deliveries one after the other. -/
def parcels (n : Nat) : List Shipment → List Parcel
  | [] => []
  | s :: rest => ⟨⟨n + 1⟩, s.format, s.body⟩ :: parcels (n + 1) rest

end Shipment

section Schedules

open Shipment

theorem follow_append : ∀ (run : List Event) (p : Peer) (run' : List Event),
    p.follow (run ++ run') = (p.follow run).bind (·.follow run')
  | [], _, _ => rfl
  | event :: run, p, run' => by
    rw [List.cons_append, Peer.follow, Peer.follow, Option.bind_assoc]
    exact congrArg _ (funext fun p' => follow_append run p' run')

theorem follow_told {p : Peer} {d : DeliveryId} (h : p.told d = p) :
    ∀ n, p.follow (List.replicate n (.message d)) = some p
  | 0 => rfl
  | n + 1 => by
    rw [List.replicate_succ, Peer.follow, Peer.step, h]
    exact follow_told h n

theorem told_open {p : Peer} (h : p.ended = false) (d : DeliveryId) : p.told d = p := by
  unfold Peer.told
  split
  · rfl
  · rw [if_neg (by simp [h])]

theorem follow_chunks {d : DeliveryId} : ∀ (chunks : List (Bytes × Nat)) {p : Peer},
    p.waiting ≠ [] → p.ended = false →
    p.follow (chunkEvents d chunks) = some { p with body := p.body ++ (chunks.map (·.1)).flatten }
  | [], p, _, _ => by
    simp [chunkEvents, Peer.follow]
  | c :: chunks, p, hw, hended => by
    have hstep : p.step (.transfer c.1 true) =
        some { p with body := p.body ++ c.1, ended := false } := by
      simp [Peer.step, hw, hended]
    rw [chunkEvents, List.flatMap_cons, List.cons_append, Peer.follow, hstep, Option.bind_some,
      follow_append, follow_told (told_open rfl d), Option.bind_some]
    refine (follow_chunks chunks (by exact hw) rfl).trans ?_
    simp [hended]

/-- A peer with nothing waiting that sends a delivery is done with it. -/
theorem follow_events (s : Shipment) {p : Peer} (hw : p.waiting = []) (hb : p.body = [])
    (hended : p.ended = false) : p.follow (s.events ⟨p.begun + 1⟩) =
      some { p with
        begun := p.begun + 1, done := p.done ++ [⟨⟨p.begun + 1⟩, s.format, s.body⟩] } := by
  let d : DeliveryId := ⟨p.begun + 1⟩
  let begun : Peer := { p with begun := p.begun + 1, waiting := [(d, s.format)] }
  let ended : Peer := { begun with body := s.body, ended := true }
  let finished : Peer :=
    { p with begun := p.begun + 1, done := p.done ++ [⟨d, s.format, s.body⟩] }
  have hbegin : p.step (.begin s.format none) = some begun := by
    simp [Peer.step, begun, hw, d]
  have hchunks := follow_chunks (d := d) s.chunks (p := begun) (List.cons_ne_nil _ _) hended
  have hlast : ({ begun with body := begun.body ++ (s.chunks.map (·.1)).flatten } : Peer).step
      (.transfer s.last false) = some ended := by
    simp [Peer.step, begun, ended, hb, hended, Shipment.body]
  have htold : ended.told d = finished := by
    simp [Peer.told, ended, begun, finished, hw, hb, hended]
  have hagain : finished.told d = finished := by
    simp [Peer.told, finished, hw]
  rw [events, Peer.follow, hbegin, Option.bind_some, follow_append, hchunks, Option.bind_some,
    Peer.follow, hlast, Option.bind_some, List.replicate_succ, Peer.follow, Peer.step, htold,
    Option.bind_some]
  exact follow_told hagain s.again

theorem follow_schedule : ∀ (shipments : List Shipment) {p : Peer}, p.waiting = [] → p.body = [] →
    p.ended = false → p.follow (schedule p.begun shipments) =
      some { p with
        begun := p.begun + shipments.length, done := p.done ++ parcels p.begun shipments }
  | [], p, _, _, _ => by simp [schedule, parcels, Peer.follow]
  | s :: shipments, p, hw, hb, hended => by
    rw [schedule, follow_append, follow_events s hw hb hended, Option.bind_some]
    refine (follow_schedule shipments (by exact hw) (by exact hb) (by exact hended)).trans ?_
    simp [parcels]
    omega

/-- What routing gets of deliveries sent one after the other depends on their formats and bodies
only. -/
theorem routed_schedule {e : Endpoint} (h : e.Fresh) (hs : e.storage.Clean) (hc : e.Calm)
    (shipments : List Shipment) :
    e.routed (schedule 0 shipments) = (parcels 0 shipments).map e.expects := by
  have hp := follow_schedule shipments (p := {}) rfl rfl rfl
  exact ((Carries.fresh h hs hc).follow _ hp).2.symm

end Schedules

end ReceivingLink
