import ReceivingLink.Proofs.Custody

/-!
# The order of handoffs

Deliveries are passed to routing in the order in which they were begun, each once at most, after
the link was moved past them and never once they were given up: `handed_in_order`. The events may
come in any order, and the calls to collaborators may end in any way.
-/

namespace ReceivingLink

/-- Nothing was begun, given up or passed to routing, but the link may have been moved on. -/
structure SameLine (e e' : Endpoint) : Prop where
  handoffs : e'.handoffs = e.handoffs
  begun : e'.begun = e.begun
  aborted : ∀ d, (e'.link.delivery d).isAborted = (e.link.delivery d).isAborted
  queue : e'.link.queue <:+ e.link.queue

/-- The deliveries passed to routing and those still queued are in the order in which they were
begun. None of those passed to routing was given up, and all of those were that are known to be. -/
structure InLine (known : DeliveryId → Prop) (e : Endpoint) : Prop where
  numbered : e.link.Numbered
  ordered : (e.handed ++ e.link.queue).Sublist e.begun
  given : ∀ d ∈ e.handed, (e.link.delivery d).isAborted = false
  aborted : ∀ d, known d → (e.link.delivery d).isAborted

section Line

variable {known : DeliveryId → Prop} {e e₁ e₂ : Endpoint} {d : DeliveryId}

theorem SameLine.refl (e : Endpoint) : SameLine e e := ⟨rfl, rfl, fun _ => rfl, List.suffix_rfl⟩

theorem SameLine.trans (h : SameLine e e₁) (h' : SameLine e₁ e₂) : SameLine e e₂ :=
  ⟨h'.handoffs.trans h.handoffs, h'.begun.trans h.begun,
    fun d => (h'.aborted d).trans (h.aborted d), h'.queue.trans h.queue⟩

theorem SameLine.handed (h : SameLine e e₁) : e₁.handed = e.handed := by
  unfold Endpoint.handed
  rw [h.handoffs]

theorem Untouched.sameLine (h : Untouched e e₁) : SameLine e e₁ :=
  ⟨h.handoffs, h.begun, h.isAborted, h.queue ▸ List.suffix_rfl⟩

theorem sameLine_frame : AssemblyFrame SameLine fun _ _ => True where
  refl := .refl
  trans := .trans
  blame := fun _ _ => trivial
  noted := fun h => (untouched_calls.noted h).sameLine
  told := fun h => (untouched_calls.told h).sameLine
  planned := fun _ => trivial
  stored := fun _ _ => ⟨rfl, rfl, fun _ => rfl, List.suffix_rfl⟩
  filed := fun _ => ⟨rfl, rfl, fun _ => rfl, List.suffix_rfl⟩
  deleting := ⟨handoffs_noted rfl, rfl, fun _ => rfl, List.suffix_rfl⟩
  taking := ⟨handoffs_noted rfl, rfl, fun _ => rfl, List.suffix_rfl⟩
  drained := ⟨rfl, Link.map_changeCurrent _ fun _ => rfl,
    Link.delivery_changeCurrent _ (fun _ => rfl) fun _ => rfl, by simp [Link.drained]⟩
  own := fun _ => trivial
  slotted := ⟨rfl, rfl, fun _ => rfl, List.suffix_rfl⟩
  counted := ⟨rfl, rfl, fun _ => rfl, List.suffix_rfl⟩
  advanced := ⟨rfl, by simp [Endpoint.begun], by simp, by simpa using List.tail_suffix _⟩

namespace InLine

theorem same (h : InLine known e) (hs : SameLine e e₁) : InLine known e₁ where
  numbered := h.numbered.of_ids hs.begun
  ordered := by
    rw [hs.handed, hs.begun]
    exact (hs.queue.sublist.append_left _).trans h.ordered
  given := fun d hd => by
    rw [hs.aborted]
    exact h.given d (hs.handed ▸ hd)
  aborted := fun d hd => by
    rw [hs.aborted]
    exact h.aborted d hd

theorem untouched (h : InLine known e) (hu : Untouched e e₁) : InLine known e₁ := h.same hu.sameLine

theorem nodup (h : InLine known e) : (e.handed ++ e.link.queue).Nodup :=
  h.ordered.nodup h.numbered.nodup

theorem apart (h : InLine known e) (hd : d ∈ e.link.queue) : d ∉ e.handed :=
  fun hm => (List.nodup_append.1 h.nodup).2.2 d hm d hd rfl

/-- The delivery that the link was moved past is passed to routing. -/
theorem hand (h : InLine known e) (hs : SameLine e e₁) (hd : e.link.current = some d)
    (hq : e₁.link.queue = e.link.queue.tail) (ha : (e.link.delivery d).isAborted = false)
    {handoff : Handoff} (hh : handoff.delivery = d) :
    InLine known (e₁.noting (.deliver handoff)) := by
  have h₁ := h.same hs
  obtain ⟨rest, hrest⟩ : ∃ rest, e.link.queue = d :: rest := List.head?_eq_some_iff.1 hd
  have hhanded : (e₁.noting (.deliver handoff)).handed = e.handed ++ [d] := by
    rw [← hs.handed, ← hh]
    simp [Endpoint.handed, Endpoint.handoffs, Endpoint.noting, Call.handoff?]
  refine ⟨h₁.numbered, ?_, fun x hx => ?_, h₁.aborted⟩
  · rw [hhanded]
    show (e.handed ++ [d] ++ e₁.link.queue).Sublist e₁.begun
    have ho := h.ordered
    rw [hrest] at ho
    rw [hs.begun, hq, hrest, List.tail_cons, List.append_assoc]
    exact ho
  · rw [hhanded, List.mem_append, List.mem_singleton] at hx
    rcases hx with hx | rfl
    · exact h₁.given x (hs.handed ▸ hx)
    · exact (hs.aborted x).trans ha

theorem begin (h : InLine known e) (format : UInt32) (remote : Option RemoteState) :
    InLine known { e with link := e.link.beginWith format remote } := by
  refine ⟨h.numbered.beginWith format remote, ?_, fun d hd => ?_, fun d hd => ?_⟩
  · show (e.handed ++ (e.link.beginWith format remote).queue).Sublist
      ((e.link.beginWith format remote).deliveries.map (·.id))
    rw [Link.beginWith_queue, Link.beginWith_ids, ← List.append_assoc]
    exact h.ordered.append (List.Sublist.refl _)
  · have hb : d ∈ e.begun := h.ordered.subset (List.mem_append_left _ hd)
    show ((e.link.beginWith format remote).delivery d).isAborted = false
    rw [h.numbered.delivery_beginWith format remote hb]
    exact h.given d hd
  · -- a delivery that was given up had been begun
    have hb : d ∈ e.begun := by
      by_contra hn
      have ha := h.aborted d hd
      rw [Link.delivery_of_notMem _ hn] at ha
      exact Bool.false_ne_true ha
    show ((e.link.beginWith format remote).delivery d).isAborted
    rw [h.numbered.delivery_beginWith format remote hb]
    exact h.aborted d hd

theorem transfer (h : InLine known e) (bytes : Bytes) (more : Bool) :
    InLine known { e with link := e.link.transfer bytes more } :=
  h.same ⟨rfl, Link.map_changeCurrent _ fun _ => rfl,
    Link.delivery_changeCurrent _ (fun _ => rfl) fun _ => rfl, by simp [Link.transfer]⟩

theorem abort (h : InLine known e) : InLine known { e with link := e.link.abort } := by
  have hids : e.link.abort.deliveries.map (·.id) = e.begun := Link.map_changeCurrent _ fun _ => rfl
  refine ⟨h.numbered.of_ids hids, ?_, fun d hd => ?_, fun d hd => ?_⟩
  · show (e.handed ++ e.link.abort.queue).Sublist (e.link.abort.deliveries.map (·.id))
    rw [hids]
    simpa [Link.abort] using h.ordered
  · -- what was passed to routing is no longer current
    have hne : e.link.current ≠ some d := fun hc => h.apart (List.mem_of_mem_head? hc) hd
    refine (congrArg Delivery.isAborted ?_).trans (h.given d hd)
    exact Link.delivery_changeCurrent_ne _ (fun _ => rfl) hne
  · by_cases hc : e.link.current = some d
    · have hb : d ∈ e.begun :=
        h.ordered.subset (List.mem_append_right _ (List.mem_of_mem_head? hc))
      have hself : e.link.abort.delivery d =
          { e.link.delivery d with isAborted := true, isPartial := false, available := 0 } :=
        Link.delivery_changeCurrent_self _ (fun _ => rfl) hc hb
      exact congrArg Delivery.isAborted hself
    · refine Eq.trans (congrArg Delivery.isAborted ?_) (h.aborted d hd)
      exact Link.delivery_changeCurrent_ne _ (fun _ => rfl) hc

end InLine

end Line

section Events

variable {known : DeliveryId → Prop} {e : Endpoint}

namespace InLine

/-- An event for the current delivery keeps the order, however it ends. -/
theorem process (h : InLine known e) {d : DeliveryId} (hd : e.link.current = some d) :
    (Receiver.process d).Ends e (fun _ => InLine known) (fun _ => InLine known)
      fun _ => InLine known := by
  have haccept := (sameLine_frame.accept_within .receiver d e).and
    ((accept_advances e .receiver d).and (accept_given .receiver d e))
  refine Attempt.ends_bind.2 (Attempt.ends_adapt.2 (haccept.imp (fun r e₁ h₁ => ?_)
    (fun _ _ h₁ => h.same h₁.1) fun _ _ h₁ => h.same h₁.1.1))
  obtain ⟨hs, hq, hgiven⟩ := h₁
  have hline := h.same hs
  rcases r with _ | _ | m
  · exact Attempt.ends_lift.2 ((untouched_frame.onAborted_within d e₁).imp
      (fun _ _ => hline.untouched) fun _ _ h₂ => hline.untouched h₂.1)
  · exact hline
  refine Attempt.ends_bind.2 (Attempt.ends_adapt.2 ((resolveTransaction_ends e₁ d).imp
    (fun transaction e₂ h₂ => ?_) (fun _ _ h₂ => hline.untouched h₂.1)
    fun _ _ h₂ => hline.untouched h₂.1))
  have hhanded {e₃ : Endpoint} (h₃ : Handed e₂ d m e₃) : InLine known e₃ := by
    obtain ⟨handoff, -, hdelivery, hu⟩ := h₃
    have htail : e₂.link.queue = e.link.queue.tail :=
      h₂.queue.trans (hq.resolve_left (by simp))
    have hkept : (e.link.delivery d).isAborted = false := by simpa using hgiven
    exact (h.hand (hs.trans h₂.sameLine) hd htail hkept hdelivery).untouched hu
  exact (handOff_hands e₂ m d transaction).imp (fun _ _ => hhanded) (fun _ _ => hhanded)
    fun _ _ h₃ => h₃.elim hhanded fun h₃ => (hline.untouched h₂).untouched h₃.1

theorem onHandler (h : InLine known e) {act : Act Panic Endpoint Unit}
    (hact : act.Ends e.entered (fun _ => SameLine e.entered) fun _ => SameLine e.entered) :
    InLine known ((do
      ReceivingLink.onHandler act
      return .ok () : Act Panic Endpoint (Except ReceiverError Unit)) e).2 := by
  have hleave {e' : Endpoint} (hs : SameLine e.entered e') :
      InLine known { e' with onHandler := e.onHandler } :=
    ((h.untouched (enter_untouched e)).same hs).untouched untouched_frame.placed
  exact Act.Ends.state (Q := InLine known) (Act.ends_bind.2 (ends_onHandler.2
    (hact.imp (fun _ _ => hleave) fun _ _ => hleave)))

theorem close_ends (e : Endpoint) (remoteInitiated : Bool) :
    (Receiver.close remoteInitiated).Ends e (fun _ => SameLine e) fun _ => SameLine e := by
  refine (sameLine_frame.close_ends ?_ ?_ ?_ remoteInitiated).imp (fun _ _ => id)
    fun _ _ => And.left
  · exact ⟨rfl, rfl, fun _ => rfl, List.suffix_rfl⟩
  · exact ⟨rfl, rfl, fun _ => rfl, List.suffix_rfl⟩
  · refine (requireOnHandler_stays e).imp ?_ ?_
    · rintro _ _ rfl
      exact .refl _
    · rintro _ _ rfl
      exact ⟨.refl _, trivial⟩

theorem after (h : InLine known e) (event : Event) : InLine known (e.after event) := by
  have heffect (hm : ∀ d, event ≠ .message d) : Effect e event (e.after event) := aside_effect hm
  cases event with
  | begin format remote => exact h.begin format remote
  | transfer bytes more => exact h.transfer bytes more
  | abort => exact h.abort
  | message d =>
    have haside {e : Endpoint} {onHandler notices counters} :
        SameLine e { e with onHandler, notices, counters } :=
      ⟨rfl, rfl, fun _ => rfl, List.suffix_rfl⟩
    exact (message_ends (fun _ h' => h'.same haside) (fun _ => h) fun _ hd =>
      (h.untouched (enter_untouched e)).process hd).state
  | close remoteInitiated => exact h.onHandler (close_ends _ remoteInitiated)
  | closeWithError condition =>
    refine h.onHandler (Act.ends_bind.2 ((setCondition_untouched condition _).imp
      (fun _ e₁ h₁ => ?_) fun _ _ h₁ => h₁.1.sameLine))
    exact (close_ends e₁ false).imp (fun _ _ => h₁.sameLine.trans) fun _ _ => h₁.sameLine.trans
  | setDrain | flow | runPending | settle | submit | setMode =>
    exact h.untouched (heffect nofun)

theorem afterAll : ∀ (run : List Event) {e : Endpoint}, InLine known e →
    InLine known (e.afterAll run)
  | [], _, h => h
  | event :: run, _, h => afterAll run (h.after event)

/-- What is known to be given up stays so. -/
theorem learn (h : InLine known e) : InLine (fun d => (e.link.delivery d).isAborted) e :=
  ⟨h.numbered, h.ordered, h.given, fun _ => id⟩

theorem gone (h : InLine known e) {d : DeliveryId} (hd : known d) : d ∉ e.handed := fun hm =>
  Bool.false_ne_true ((h.given d hm).symm.trans (h.aborted d hd))

/-- What is offered to routing was begun, and the link is past it. -/
theorem onOffer (h : InLine known e) (event : Event) : e.OnOffer (fun handoff e₁ =>
    handoff.delivery ∈ e₁.begun ∧ handoff.delivery ∉ e₁.link.queue) event := by
  cases event with
  | message d =>
    intro _ hd
    obtain ⟨rest, hrest⟩ : ∃ rest, e.link.queue = d :: rest := List.head?_eq_some_iff.1 hd
    have hnodup := (List.nodup_append.1 h.nodup).2.1
    rw [hrest, List.nodup_cons] at hnodup
    refine Receiver.offer_steps (fun _ _ => trivial) (fun _ _ _ => nofun) (fun e₁ _ _ => ?_)
      fun e₁ handoff hs hq hdelivery handoff' hoffered => ?_
    · exact Act.ends_always (fun _ _ _ => nofun) fun _ _ => trivial
    · obtain rfl : handoff = handoff' := Option.some.inj hoffered
      have hqueue : e₁.link.queue = rest := hq.trans (congrArg List.tail hrest)
      rw [hdelivery]
      refine ⟨?_, fun hm => hnodup.1 (hqueue ▸ hm)⟩
      show d ∈ e₁.begun
      rw [hs.begun]
      exact h.ordered.subset (List.mem_append_right _ (List.mem_of_mem_head? hd))
  | _ => trivial

theorem throughout_onOffer : ∀ (run : List Event) {e : Endpoint}, InLine known e →
    e.Throughout (Endpoint.OnOffer fun handoff e₁ =>
      handoff.delivery ∈ e₁.begun ∧ handoff.delivery ∉ e₁.link.queue) run
  | [], _, _ => trivial
  | event :: run, _, h => ⟨h.onOffer event, throughout_onOffer run (h.after event)⟩

end InLine

theorem Endpoint.Fresh.inLine (h : e.Fresh) : InLine (fun _ => False) e := by
  have hhanded : e.handed = [] := by
    simp [Endpoint.handed, Endpoint.handoffs, h.calls]
  refine ⟨?_, ?_, fun d hd => ?_, fun _ => False.elim⟩
  · simp [Link.Numbered, h.deliveries]
  · simp [hhanded, h.queue]
  · simp [hhanded] at hd

/-- Over a whole run, in whatever order its events come and whatever goes wrong, each delivery is
passed to routing once at most, after the link was moved past it and never once it was given up,
and the deliveries passed on are in the order in which they were begun. -/
theorem handed_in_order (h : e.Fresh) (run : List Event) :
    (e.afterAll run).handed.Nodup ∧
      (e.afterAll run).handed.Sublist (e.afterAll run).begun ∧
      (∀ before rest, run = before ++ rest → ∀ d,
        ((e.afterAll before).link.delivery d).isAborted → d ∉ (e.afterAll run).handed) ∧
      e.Throughout (Endpoint.OnOffer fun handoff e₁ =>
        handoff.delivery ∈ e₁.begun ∧ handoff.delivery ∉ e₁.link.queue) run := by
  have hline : InLine (fun _ => False) (e.afterAll run) := h.inLine.afterAll run
  refine ⟨(List.nodup_append.1 hline.nodup).1, ?_, ?_, h.inLine.throughout_onOffer run⟩
  · exact (List.sublist_append_left _ _).trans hline.ordered
  · rintro before rest rfl d hd
    have hbefore : InLine (fun _ => False) (e.afterAll before) := h.inLine.afterAll before
    rw [Endpoint.afterAll_append]
    exact (hbefore.learn.afterAll rest).gone hd

/-- The second of four deliveries is given up and the third cannot be built; events come again, and
late. -/
theorem handed_in_order_four :
    let plan : Plan := fun n point =>
      if n = 9 ∧ point = .createMessage then some (.panics (.text "no memory")) else none
    let e : Endpoint := { Endpoint.start {} "orders" 10 ⟨1⟩ .memory none with plan }
    let before : List Event := [.begin 0 none, .begin 0 none, .transfer [1] false, .message ⟨2⟩,
      .message ⟨1⟩, .message ⟨1⟩, .transfer [2] true, .message ⟨2⟩, .abort]
    let rest : List Event := [.message ⟨2⟩, .begin 0 none, .transfer [3] false, .message ⟨2⟩,
      .message ⟨3⟩, .begin 0 none, .transfer [4] false, .message ⟨3⟩, .message ⟨4⟩, .message ⟨4⟩]
    let e' := e.afterAll (before ++ rest)
    e.Fresh ∧ (e'.handed = [⟨1⟩, ⟨4⟩] ∧ e'.begun = [⟨1⟩, ⟨2⟩, ⟨3⟩, ⟨4⟩] ∧ e'.counters.errors = 1) ∧
      ((e.afterAll before).link.delivery ⟨2⟩).isAborted ∧ ⟨2⟩ ∉ e'.handed := by
  intro plan e before rest e'
  have hfresh : e.Fresh := ⟨rfl, rfl, rfl, rfl, rfl, rfl, rfl, rfl, rfl, rfl, rfl⟩
  have haborted : ((e.afterAll before).link.delivery ⟨2⟩).isAborted := by decide +kernel
  exact ⟨hfresh, by decide +kernel, haborted,
    (handed_in_order hfresh (before ++ rest)).2.2.1 before rest rfl ⟨2⟩ haborted⟩

end Events

end ReceivingLink
