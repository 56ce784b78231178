import ReceivingLink.Proofs.Frame

/-!
# The books of a receiver

A delivery that routing accepted is owed a settlement as long as routing holds its handoff or the
settlement waits in the mailbox. `Books` says how the deliveries accepted, those owed and those
still queued go with the tracker's count and with what was settled. A delivery that left the queue
and has neither been accepted nor refused is in hand.

The operations of settling are taken one by one: each ends without a panic of its own, and the
books are in order again after it.
-/

namespace ReceivingLink

/-- The delivery that a task settles. -/
def Task.delivery? : Task → Option DeliveryId
  | .settle d _ => some d
  | .replenish _ => none

namespace Plan

/-- No call at these points panics. -/
def Spares (plan : Plan) (points : List Point) : Prop :=
  ∀ n, ∀ point ∈ points, ∀ k, plan n point ≠ some (.panics k)

/-- Routing that has dealt with a handoff answers as it means to. -/
def KeepsWord (plan : Plan) : Prop := ∀ n, plan n .delivered = none

end Plan

/-- The calls that are made while a delivery is settled. -/
def settlementPoints : List Point := [.linkFlow, .disposition, .settle, .flush]

namespace Endpoint

/-- The deliveries with a settlement to come: their handoffs are held, or the mailbox has the
settling. -/
def owed (e : Endpoint) : List DeliveryId :=
  e.sink.held.map (·.delivery) ++ e.mailbox.tasks.filterMap Task.delivery?

/-- How often a delivery was settled. -/
def settles (e : Endpoint) (d : DeliveryId) : Nat := (e.link.delivery d).settles

/-- The deliveries begun. -/
def begun (e : Endpoint) : List DeliveryId := e.link.deliveries.map (·.id)

/-- A collaborator raises the panic: the plan has it, storage panics so of itself, or routing
answers with it. -/
def Raises (e : Endpoint) (k : Panic) : Prop :=
  (∃ n point, e.plan n point = some (.panics k)) ∨ k ∈ Storage.ownPanics ∨
    ∃ uses, e.sink.mode = .script uses (.panics k)

end Endpoint

/-- What no step of the receiver changes, and the number of deliveries routed. -/
structure SameStage (e e' : Endpoint) : Prop where
  handler : e'.mailbox.handler = e.mailbox.handler
  onHandler : e'.onHandler = e.onHandler
  plan : e'.plan = e.plan
  mode : e'.sink.mode = e.sink.mode
  routed : e'.counters.routed = e.counters.routed

/-- Nothing that the books are about has changed, but that the link may have been moved on. -/
structure SameEntries (e e' : Endpoint) : Prop where
  plan : e'.plan = e.plan
  pending : e'.pending.receiver = e.pending.receiver
  owed : e'.owed = e.owed
  begun : e'.begun = e.begun
  settles : ∀ d, e'.settles d = e.settles d
  queue : e'.link.queue <:+ e.link.queue

/-- The books and what no step changes are the same. -/
structure SameBooks (e e' : Endpoint) : Prop extends SameStage e e', SameEntries e e'

/-- The books are in order: `accepted` are the deliveries accepted by routing so far, and `inHand`
those taken from the queue, counted and not yet accepted or refused. -/
structure Books (e : Endpoint) (accepted inHand : List DeliveryId) : Prop where
  numbered : e.link.Numbered
  known : e.link.queue ++ inHand ++ accepted ⊆ e.begun
  apart : (e.link.queue ++ inHand ++ accepted).Nodup
  owedOnce : e.owed.Nodup
  owedAccepted : e.owed ⊆ accepted
  unsettled : ∀ d ∈ e.link.queue ++ inHand ++ e.owed, e.settles d = 0
  once : ∀ d, e.settles d ≤ 1
  count : e.pending.receiver = (accepted.filter (e.settles · = 0)).length + inHand.length
  spares : e.plan.Spares settlementPoints
  keepsWord : e.plan.KeepsWord

section Stage

variable {e e₁ e₂ e₃ : Endpoint}

theorem SameStage.refl (e : Endpoint) : SameStage e e := ⟨rfl, rfl, rfl, rfl, rfl⟩

theorem SameStage.trans (h : SameStage e₁ e₂) (h' : SameStage e₂ e₃) : SameStage e₁ e₃ :=
  ⟨h'.handler.trans h.handler, h'.onHandler.trans h.onHandler, h'.plan.trans h.plan,
    h'.mode.trans h.mode, h'.routed.trans h.routed⟩

theorem SameStage.raises (h : SameStage e₁ e₂) {k : Panic} (hk : e₂.Raises k) : e₁.Raises k := by
  unfold Endpoint.Raises at hk ⊢
  rwa [h.plan, h.mode] at hk

theorem SameStage.isOnHandler (h : SameStage e₁ e₂) (hon : e₁.isOnHandler) : e₂.isOnHandler := by
  unfold Endpoint.isOnHandler at hon ⊢
  rwa [h.handler, h.onHandler]

theorem SameBooks.refl (e : Endpoint) : SameBooks e e :=
  ⟨.refl e, rfl, rfl, rfl, fun _ => rfl, List.suffix_rfl⟩

theorem SameBooks.trans (h : SameBooks e₁ e₂) (h' : SameBooks e₂ e₃) : SameBooks e₁ e₃ :=
  ⟨h.toSameStage.trans h'.toSameStage, h'.pending.trans h.pending, h'.owed.trans h.owed,
    h'.begun.trans h.begun, fun d => (h'.settles d).trans (h.settles d), h'.queue.trans h.queue⟩

/-- A change of what the books are not about. -/
theorem SameBooks.aside {e' : Endpoint} (hlink : e'.link = e.link)
    (hpending : e'.pending = e.pending)
    (hsink : e'.sink = e.sink) (hmailbox : e'.mailbox = e.mailbox)
    (hon : e'.onHandler = e.onHandler) (hplan : e'.plan = e.plan)
    (hrouted : e'.counters.routed = e.counters.routed) : SameBooks e e' := by
  refine ⟨⟨by rw [hmailbox], hon, hplan, by rw [hsink], hrouted⟩, by rw [hpending], ?_, ?_, ?_, ?_⟩
  · unfold Endpoint.owed
    rw [hsink, hmailbox]
  · unfold Endpoint.begun
    rw [hlink]
  · intro d
    unfold Endpoint.settles
    rw [hlink]
  · exact hlink ▸ List.suffix_rfl

/-- A change of the link that leaves its deliveries' ids and settlings alone. -/
theorem SameBooks.ofLink {link : Link}
    (hids : link.deliveries.map (·.id) = e.link.deliveries.map (·.id))
    (hset : ∀ d, (link.delivery d).settles = (e.link.delivery d).settles)
    (hq : link.queue <:+ e.link.queue) : SameBooks e { e with link } :=
  ⟨⟨rfl, rfl, rfl, rfl, rfl⟩, rfl, rfl, hids, hset, hq⟩

theorem SameBooks.changeCurrent {l : Link} {f : Delivery → Delivery}
    (hids : l.deliveries = e.link.deliveries) (hq : l.queue <:+ e.link.queue)
    (hid : ∀ x, (f x).id = x.id) (hset : ∀ x, (f x).settles = x.settles) :
    SameBooks e { e with link := l.changeCurrent f } := by
  refine .ofLink ?_ (fun d => ?_) (by simpa using hq)
  · rw [Link.map_changeCurrent _ hid, hids]
  · rw [Link.delivery_changeCurrent _ hid hset]
    unfold Link.delivery
    rw [hids]

theorem SameBooks.advance (e : Endpoint) : SameBooks e { e with link := e.link.advance } :=
  .ofLink (by simp) (by simp) (by simpa using List.tail_suffix _)

theorem SameBooks.transfer (e : Endpoint) (bytes : Bytes) (more : Bool) :
    SameBooks e { e with link := e.link.transfer bytes more } :=
  .changeCurrent rfl List.suffix_rfl (fun _ => rfl) fun _ => rfl

theorem SameBooks.abort (e : Endpoint) : SameBooks e { e with link := e.link.abort } :=
  .changeCurrent rfl List.suffix_rfl (fun _ => rfl) fun _ => rfl

theorem sameBooks_frame : AssemblyFrame SameBooks Endpoint.Raises where
  refl := .refl
  trans := .trans
  blame := fun h => h.raises
  noted := fun _ => .aside rfl rfl rfl rfl rfl rfl rfl
  told := fun _ => .aside rfl rfl rfl rfl rfl rfl rfl
  planned := fun h => .inl ⟨_, _, h⟩
  stored := fun _ _ => .aside rfl rfl rfl rfl rfl rfl rfl
  filed := fun _ => .aside rfl rfl rfl rfl rfl rfl rfl
  deleting := .aside rfl rfl rfl rfl rfl rfl rfl
  taking := .aside rfl rfl rfl rfl rfl rfl rfl
  drained := .changeCurrent rfl List.suffix_rfl (fun _ => rfl) fun _ => rfl
  own := fun h => .inr (.inl h)
  slotted := .aside rfl rfl rfl rfl rfl rfl rfl
  counted := .aside rfl rfl rfl rfl rfl rfl rfl
  advanced := .advance _

end Stage

section Entries

variable {e e' : Endpoint} {accepted inHand : List DeliveryId} {d : DeliveryId}

theorem SameEntries.books (hs : SameEntries e e') (h : Books e accepted inHand) :
    Books e' accepted inHand where
  numbered := h.numbered.of_ids hs.begun
  known := by
    rw [hs.begun]
    refine List.Subset.trans (fun x hx => ?_) h.known
    simp only [List.mem_append] at hx ⊢
    exact hx.imp_left (·.imp_left (hs.queue.subset ·))
  apart := h.apart.sublist ((hs.queue.sublist.append_right _).append_right _)
  owedOnce := by rw [hs.owed]; exact h.owedOnce
  owedAccepted := by rw [hs.owed]; exact h.owedAccepted
  unsettled := fun x hx => by
    rw [hs.settles]
    rw [hs.owed] at hx
    refine h.unsettled x ?_
    simp only [List.mem_append] at hx ⊢
    exact hx.imp_left (·.imp_left (hs.queue.subset ·))
  once := fun x => by rw [hs.settles]; exact h.once x
  count := by simp only [hs.pending, hs.settles]; exact h.count
  spares := by rw [hs.plan]; exact h.spares
  keepsWord := by rw [hs.plan]; exact h.keepsWord

theorem Books.pending_nonneg (h : Books e accepted inHand) : 0 ≤ e.pending.receiver := by
  rw [h.count]
  omega

/-- A delivery that has left the queue, and that routing has not seen. -/
structure Endpoint.Picked (e : Endpoint) (accepted : List DeliveryId) (d : DeliveryId) : Prop where
  known : d ∈ e.begun
  apart : d ∉ e.link.queue ++ accepted
  unsettled : e.settles d = 0

theorem SameBooks.picked (hs : SameBooks e e') (h : e.Picked accepted d) :
    e'.Picked accepted d where
  known := by rw [hs.begun]; exact h.known
  apart := fun hd => h.apart <| by
    simp only [List.mem_append] at hd ⊢
    exact hd.imp_left (hs.queue.subset ·)
  unsettled := by rw [hs.settles]; exact h.unsettled

/-- The delivery that the link was moved past. -/
theorem Books.picked (h : Books e accepted []) (hs : SameEntries e e')
    (hd : e.link.current = some d) (hq : e'.link.queue = e.link.queue.tail) :
    e'.Picked accepted d := by
  obtain ⟨rest, hrest⟩ : ∃ rest, e.link.queue = d :: rest := List.head?_eq_some_iff.1 hd
  have hknown := h.known
  have hapart := h.apart
  have hopen := h.unsettled d
  rw [hrest] at hknown hapart hopen hq
  refine ⟨?_, ?_, ?_⟩
  · rw [hs.begun]
    exact hknown (by simp)
  · rw [hq]
    simp only [List.append_nil, List.cons_append, List.nodup_cons] at hapart
    exact hapart.1
  · rw [hs.settles]
    exact hopen (by simp)

/-- Counting a delivery takes it in hand. -/
theorem Books.increment (h : Books e accepted []) (hd : e.Picked accepted d) :
    Books { e with pending := e.pending.set (e.pending.receiver + 1) .receiver } accepted [d] where
  numbered := h.numbered
  known := by
    intro x hx
    simp only [List.mem_append, List.mem_singleton] at hx
    rcases hx with (hx | rfl) | hx
    · exact h.known (by simp [hx])
    · exact hd.known
    · exact h.known (by simp [hx])
  apart := by
    have hn := h.apart
    have hno := hd.apart
    simp only [List.append_nil] at hn
    rw [List.append_assoc]
    exact (List.nodup_middle.2 (List.nodup_cons.2 ⟨hno, hn⟩))
  owedOnce := h.owedOnce
  owedAccepted := h.owedAccepted
  unsettled := by
    intro x hx
    simp only [List.mem_append, List.mem_singleton] at hx
    rcases hx with (hx | rfl) | hx
    · exact h.unsettled x (by simp [hx])
    · exact hd.unsettled
    · exact h.unsettled x (List.mem_append_right _ hx)
  once := h.once
  count := by
    have hc := h.count
    simp only [Each.set, List.length_nil, List.length_singleton] at hc ⊢
    rw [hc]
    rfl
  spares := h.spares
  keepsWord := h.keepsWord

/-- Routing accepts the delivery in hand. -/
theorem Books.accept (h : Books e accepted [d]) : Books e (accepted ++ [d]) [] where
  numbered := h.numbered
  known := fun x hx => h.known (by simp only [List.mem_append, List.append_nil] at hx ⊢; tauto)
  apart := by
    refine h.apart.perm ?_
    simp only [List.append_nil, List.append_assoc]
    exact List.Perm.append_left _ List.perm_append_comm
  owedOnce := h.owedOnce
  owedAccepted := fun x hx => List.mem_append_left _ (h.owedAccepted hx)
  unsettled := fun x hx => h.unsettled x (by
    simp only [List.mem_append, List.append_nil] at hx ⊢
    tauto)
  once := h.once
  count := by
    have h0 : e.settles d = 0 := h.unsettled d (by simp)
    rw [h.count, List.filter_append]
    simp [h0]
  spares := h.spares
  keepsWord := h.keepsWord

/-- Another state of what is owed. -/
theorem Books.owe (h : Books e accepted inHand) {sink : Sink} {mailbox : Mailbox Task}
    (hn : ({ e with sink, mailbox } : Endpoint).owed.Nodup)
    (ho : ∀ x ∈ ({ e with sink, mailbox } : Endpoint).owed, x ∈ accepted ∧ e.settles x = 0) :
    Books { e with sink, mailbox } accepted inHand where
  numbered := h.numbered
  known := h.known
  apart := h.apart
  owedOnce := hn
  owedAccepted := fun x hx => (ho x hx).1
  unsettled := fun x hx => by
    rcases List.mem_append.1 hx with hx | hx
    · exact h.unsettled x (List.mem_append_left _ hx)
    · exact (ho x hx).2
  once := h.once
  count := h.count
  spares := h.spares
  keepsWord := h.keepsWord

/-- One more settlement is owed, for a delivery that is accepted and unsettled. -/
theorem Books.owe_more (h : Books e accepted inHand) {sink : Sink} {mailbox : Mailbox Task}
    (hp : ({ e with sink, mailbox } : Endpoint).owed.Perm (d :: e.owed)) (hd : d ∈ accepted)
    (h0 : e.settles d = 0) (ho : d ∉ e.owed) : Books { e with sink, mailbox } accepted inHand := by
  refine h.owe (hp.nodup_iff.2 (List.nodup_cons.2 ⟨ho, h.owedOnce⟩)) fun x hx => ?_
  rcases List.mem_cons.1 (hp.subset hx) with rfl | hx
  · exact ⟨hd, h0⟩
  · exact ⟨h.owedAccepted hx, h.unsettled x (List.mem_append_right _ hx)⟩

/-- One settlement is owed no longer, and its delivery may be settled. -/
theorem Books.owe_less (h : Books e accepted inHand) {sink : Sink} {mailbox : Mailbox Task}
    (hp : (d :: ({ e with sink, mailbox } : Endpoint).owed).Perm e.owed) :
    Books { e with sink, mailbox } accepted inHand ∧ d ∈ accepted ∧ e.settles d = 0 ∧
      d ∉ ({ e with sink, mailbox } : Endpoint).owed := by
  obtain ⟨hno, hn⟩ := List.nodup_cons.1 (hp.nodup_iff.2 h.owedOnce)
  have hopen (x : DeliveryId) (hx : x ∈ e.owed) : x ∈ accepted ∧ e.settles x = 0 :=
    ⟨h.owedAccepted hx, h.unsettled x (List.mem_append_right _ hx)⟩
  have hd := hopen d (hp.subset (List.mem_cons_self ..))
  refine ⟨h.owe hn fun x hx => hopen x (hp.subset (List.mem_cons_of_mem _ hx)), hd.1, hd.2, hno⟩

end Entries

namespace Endpoint

/-- The endpoint after a delivery was counted off and settled. -/
def settled (e : Endpoint) (d : DeliveryId) : Endpoint :=
  { e with
    pending := e.pending.set (e.pending.receiver - 1) .receiver
    link := e.link.settle d }

end Endpoint

section Settling

variable {e : Endpoint} {accepted inHand : List DeliveryId} {d x : DeliveryId}

theorem settled_begun (e : Endpoint) (d : DeliveryId) : (e.settled d).begun = e.begun := by
  refine Link.map_change _ (fun _ => ?_) d
  rfl

theorem settles_settled_self (h : d ∈ e.begun) : (e.settled d).settles d = e.settles d + 1 := by
  unfold Endpoint.settles Endpoint.settled
  refine (congrArg Delivery.settles (Link.delivery_change_self _ (fun _ => ?_) h)).trans ?_
  · rfl
  · rfl

theorem settles_settled_ne (h : x ≠ d) : (e.settled d).settles x = e.settles x := by
  unfold Endpoint.settles Endpoint.settled
  refine congrArg Delivery.settles (Link.delivery_change_ne _ (fun _ => ?_) h)
  rfl

/-- A delivery is settled that is neither queued nor owed, and the count follows. -/
theorem Books.settle {inHand' : List DeliveryId} (h : Books e accepted inHand)
    (hk : d ∈ e.begun) (h0 : e.settles d = 0) (hd : d ∉ e.link.queue ++ inHand' ++ e.owed)
    (hs : inHand'.Sublist inHand)
    (hc : e.pending.receiver - 1 =
      (accepted.filter ((e.settled d).settles · = 0)).length + inHand'.length) :
    Books (e.settled d) accepted inHand' where
  numbered := h.numbered.of_ids (settled_begun e d)
  known := by
    rw [settled_begun]
    exact fun x hx => h.known (((hs.append_left _).append_right _).subset hx)
  apart := h.apart.sublist ((hs.append_left _).append_right _)
  owedOnce := h.owedOnce
  owedAccepted := h.owedAccepted
  unsettled := fun x hx => by
    rw [settles_settled_ne (by rintro rfl; exact hd hx)]
    refine h.unsettled x ?_
    exact ((hs.append_left e.link.queue).append_right e.owed).subset hx
  once := fun x => by
    rcases eq_or_ne x d with rfl | hx
    · rw [settles_settled_self hk]
      omega
    · rw [settles_settled_ne hx]
      exact h.once x
  count := hc
  spares := h.spares
  keepsWord := h.keepsWord

/-- Settling a delivery that routing refused. -/
theorem Books.settle_refused (h : Books e accepted [d]) : Books (e.settled d) accepted [] := by
  have hd : d ∉ e.link.queue ++ accepted := by
    have hn := h.apart
    rw [List.append_assoc] at hn
    exact (List.nodup_cons.1 (List.nodup_middle.1 hn)).1
  simp only [List.mem_append, not_or] at hd
  refine h.settle (h.known (by simp)) (h.unsettled d (by simp)) ?_ (List.nil_sublist _) ?_
  · simp only [List.append_nil, List.mem_append, not_or]
    exact ⟨hd.1, fun ho => hd.2 (h.owedAccepted ho)⟩
  · have hf :
        accepted.filter ((e.settled d).settles · = 0) = accepted.filter (e.settles · = 0) := by
      refine List.filter_congr fun x hx => ?_
      rw [settles_settled_ne (by rintro rfl; exact hd.2 hx)]
    rw [hf, h.count]
    simp

/-- Settling a delivery that routing accepted, once nothing is owed for it any more. -/
theorem Books.settle_accepted (h : Books e accepted inHand) (hd : d ∈ accepted)
    (h0 : e.settles d = 0) (ho : d ∉ e.owed) : Books (e.settled d) accepted inHand := by
  have hn : accepted.Nodup := (List.nodup_append.1 h.apart).2.1
  have hq : d ∉ e.link.queue ++ inHand := fun hq => (List.nodup_append.1 h.apart).2.2 d hq d hd rfl
  refine h.settle (h.known (by simp [hd])) h0 ?_ (List.Sublist.refl _) ?_
  · rw [List.mem_append, not_or]
    exact ⟨hq, ho⟩
  · have hf : accepted.filter ((e.settled d).settles · = 0) =
        (accepted.filter (e.settles · = 0)).erase d := by
      rw [(hn.filter _).erase_eq_filter, List.filter_filter]
      refine List.filter_congr fun x hx => ?_
      rcases eq_or_ne x d with rfl | hx
      · rw [settles_settled_self (h.known (by simp [hd])), h0]
        simp
      · rw [settles_settled_ne hx]
        simp [hx]
    have hm : d ∈ accepted.filter (e.settles · = 0) := List.mem_filter.2 ⟨hd, by simp [h0]⟩
    have hlen := List.length_erase_of_mem hm
    have hpos := List.length_pos_of_mem hm
    rw [hf, h.count]
    omega

/-- Settling a delivery that its sender gave up, which was never counted. -/
theorem Books.settle_aborted (h : Books e accepted []) (hd : e.Picked accepted d) :
    Books { e with link := e.link.settle d } accepted [] := by
  have hb := (h.increment hd).settle_refused
  have hp : e.pending.receiver + 1 - 1 = e.pending.receiver := by omega
  simpa only [Endpoint.settled, Each.set, hp] using hb

end Settling

end ReceivingLink
