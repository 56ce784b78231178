import ReceivingLink.Proofs.Traffic

/-!
# Loss

Calls to storage may fail. A write that fails leaves a gap in the large message that is coming in,
which is noted, and such a message is never passed on. A large message that could not be started is
another matter: what waited for it was taken from the link, and nothing is left to note that. What
arrives of a delivery is all that was sent exactly if that never happened: `content_eq_sent_iff`.
-/

namespace ReceivingLink

namespace Endpoint

/-- An event takes the bytes that wait for the current delivery, without a large message coming in
before or after. -/
structure Drops (e : Endpoint) (d : DeliveryId) (event : Event) : Prop where
  told : event = .message d
  current : e.link.current = some d
  stays : (e.after event).link.current = some d
  unstarted : e.slot = none
  failed : (e.after event).slot = none
  bytes : e.link.buffer ≠ []
  gone : (e.after event).link.buffer = []

/-- An event of the run drops bytes of a delivery. -/
def Dropped (e : Endpoint) (d : DeliveryId) : List Event → Prop
  | [] => False
  | event :: run => e.Drops d event ∨ (e.after event).Dropped d run

end Endpoint

section Drops

variable {e : Endpoint} {d : DeliveryId}

/-- What is dealt with without an error keeps the bytes at hand, or the link is past them. -/
theorem process_ok (ht : e.Tidy) (hd : e.link.current = some d) (hw : ¬ e.Spoiled) :
    (Receiver.process d).Ends e (fun _ e' => Kept e d e' ∨ Moved e e') (fun _ _ => True)
      fun _ _ => True := by
  refine Attempt.ends_bind.2 (Attempt.ends_adapt.2 ((accept_ends ht hd).imp (fun r e₁ h₁ => ?_)
    (fun _ _ _ => trivial) fun _ _ _ => trivial))
  rcases r with _ | _ | m
  · obtain ⟨-, hmoved, -⟩ := h₁
    exact Attempt.ends_lift.2 ((untouched_frame.onAborted_within d e₁).imp
      (fun _ _ h₂ => .inr (hmoved.after h₂)) fun _ _ _ => trivial)
  · obtain ⟨-, -, hkept⟩ := h₁
    exact .inl (hkept hw)
  · obtain ⟨-, -, hmoved, -⟩ := h₁
    refine Attempt.ends_bind.2 (Attempt.ends_adapt.2 ((resolveTransaction_ends e₁ d).imp
      (fun transaction e₂ h₂ => ?_) (fun _ _ _ => trivial) fun _ _ _ => trivial))
    refine (handOff_hands e₂ m d transaction).imp (fun _ e₃ h₃ => ?_) (fun _ _ _ => trivial)
      fun _ _ _ => trivial
    obtain ⟨handoff, -, -, h₃⟩ := h₃
    exact .inr (((hmoved.after h₂).noting _).after h₃)

theorem message_ok (ht : e.Tidy) (ho : e.lifecycle = .opened) (hd : e.link.current = some d)
    (hw : ¬ e.Spoiled) :
    (Event.message d).perform.Ends e (fun r e' => r = .ok () → Kept e d e' ∨ Moved e e')
      fun _ _ => False := by
  have henter := enter_untouched e
  refine ends_onHandler.2 (Act.ends_bind.2 ((requireOnHandler_ends (isOnHandler_enter e)).imp ?_
    fun _ _ => id))
  rintro _ _ rfl
  refine Act.ends_bind.2 (Act.ends_get.2 (Act.ends_ite.2 ⟨fun hn => absurd ho hn, fun _ =>
    Act.ends_ite.2 ⟨fun hn => absurd hd hn, fun _ => ?_⟩⟩))
  have hprocess := process_ok (henter.tidy ht) (d := d) (by exact hd)
    (fun hn => hw (henter.spoiled.1 hn))
  refine Act.ends_bind.2 (Act.ends_contain.2 (Act.ends_run.2 (hprocess.imp (fun _ e₁ h₁ _ => ?_)
    (fun _ _ _ hr => ?_) fun _ _ _ hr => ?_)))
  · exact h₁.imp (fun h₁ => (h₁.before henter).after untouched_frame.placed)
      fun h₁ => (h₁.before henter).after untouched_frame.placed
  · cases hr
  · cases hr

/-- Bytes are dropped only where enough has come for a large message, and the event that drops them
reports an error. -/
theorem Endpoint.Drops.reports {event : Event} (h : e.Drops d event) (ho : e.Orderly) :
    e.Starts d ∧ ∃ error, (event.perform e).1 = .ok (.error error) := by
  obtain ⟨rfl, hd, hstays, hslot, hslot', hbytes, hgone⟩ := h
  have heffect := after_effect (fun _ => ho.tidy) (.message d)
  have hopen : e.lifecycle = .opened := by
    by_contra hn
    rw [Effect, if_neg fun h => hn h.1] at heffect
    exact hbytes (heffect.buffer.symm.trans hgone)
  have hkept : ¬ Kept e d (e.after (.message d)) := fun hkept => by
    have hat := hkept.atHand
    rw [atHand_none hslot, atHand_none hslot', hgone] at hat
    exact hbytes hat.symm
  have hmoved : ¬ Moved e (e.after (.message d)) := fun hmoved => by
    rw [Link.current, hmoved.queue] at hstays
    exact current_ne_of_waiting ho.sound (.inl (List.mem_of_mem_head? hstays)) hd
  constructor
  · rw [Effect, if_pos ⟨hopen, hd⟩] at heffect
    rcases heffect with ⟨handoff, hhands⟩ | hsilent
    · exact absurd hhands.moved hmoved
    rcases (hsilent.turn ho.mild).2 with hk | ⟨-, hgap⟩ | ⟨-, hstarts, -, -, -⟩ | hm
    · exact absurd hk hkept
    · exact absurd hgap (not_spoiled hslot')
    · exact hstarts
    · exact absurd hm hmoved
  · have hends := Act.Ends.result (Q := fun r e' => ∃ answer, r = .ok answer ∧
      (answer = .ok () → Kept e d e' ∨ Moved e e'))
      ((message_ok ho.tidy hopen hd (not_spoiled hslot)).imp (fun r _ h => ⟨r, rfl, h⟩)
        fun _ _ => False.elim)
    obtain ⟨error | _, hresult, hok⟩ := hends
    · exact ⟨error, hresult⟩
    · exact ((hok rfl).elim hkept hmoved).elim

end Drops

/-- Of the current delivery all that was sent is still at hand, but for what was dropped, unless its
message is not passed on anyway. Nothing was sent yet of the deliveries behind it. -/
structure Traced (e : Endpoint) (sent : DeliveryId → Bytes) (dropped : DeliveryId → Prop) :
    Prop where
  current : ∀ d, e.link.current = some d → e.Spoiled ∨ (e.link.delivery d).isAborted ∨
    ∃ gone, sent d = gone ++ e.atHand ∧ (gone = [] ↔ ¬ dropped d)
  waiting : ∀ d, d ∈ e.link.queue.tail ∨ d ∉ e.begun → sent d = [] ∧ ¬ dropped d

section Steps

variable {e : Endpoint} {sent : DeliveryId → Bytes} {dropped : DeliveryId → Prop} {d : DeliveryId}

/-- What is sent and dropped up to an event and in it. -/
def Traced.Next (e : Endpoint) (sent : DeliveryId → Bytes) (dropped : DeliveryId → Prop)
    (event : Event) : Prop :=
  Traced (e.after event) (fun d => sent d ++ e.sends d event) fun d => dropped d ∨ e.Drops d event

theorem waiting_next (event : Event) (h : Traced e sent dropped) (hs : e.link.Sound)
    (hd : d ∈ e.link.queue.tail ∨ d ∉ e.begun) :
    sent d ++ e.sends d event = [] ∧ ¬ (dropped d ∨ e.Drops d event) := by
  have hne := current_ne_of_waiting hs hd
  obtain ⟨hsent, hdropped⟩ := h.waiting d hd
  refine ⟨?_, fun hor => hor.elim hdropped fun hdrops => hne hdrops.current⟩
  rw [hsent, List.nil_append]
  cases event with
  | transfer bytes more => exact if_neg hne
  | _ => rfl

/-- After an event that moved the link on nothing was sent yet of the current delivery. -/
theorem Traced.moved {event : Event} (h : Traced e sent dropped) (hs : e.link.Sound)
    (hm : Moved e (e.after event)) (hb : (e.after event).begun = e.begun) :
    Traced.Next e sent dropped event where
  current := fun d hd => by
    have hmem : d ∈ e.link.queue.tail := by
      rw [← hm.queue]
      exact List.mem_of_mem_head? hd
    obtain ⟨hsent, hdropped⟩ := waiting_next event h hs (.inl hmem)
    refine .inr (.inr ⟨[], ?_, fun _ => hdropped, fun _ => rfl⟩)
    rw [hsent, atHand_none hm.slot, hm.buffer]
    rfl
  waiting := fun d hd => by
    refine waiting_next event h hs ?_
    rw [hm.queue, hb] at hd
    exact hd.imp_left List.mem_of_mem_tail

/-- After an event that left the link where it was only the current delivery needs a look. -/
theorem Traced.stays {event : Event} (h : Traced e sent dropped) (hs : e.link.Sound)
    (hq : (e.after event).link.queue = e.link.queue) (hb : (e.after event).begun = e.begun)
    (hcurrent : ∀ d, e.link.current = some d → (e.after event).Spoiled ∨
      ((e.after event).link.delivery d).isAborted ∨
      ∃ gone, sent d ++ e.sends d event = gone ++ (e.after event).atHand ∧
        (gone = [] ↔ ¬ (dropped d ∨ e.Drops d event))) :
    Traced.Next e sent dropped event where
  current := fun d hd => by
    rw [Link.current, hq] at hd
    exact hcurrent d hd
  waiting := fun d hd => by
    rw [hq, hb] at hd
    exact waiting_next event h hs hd

/-- Nothing is sent, dropped or taken in an event that leaves the bytes alone. -/
theorem Traced.untouched {event : Event} (h : Traced e sent dropped) (hs : e.link.Sound)
    (hu : Untouched e (e.after event)) (hsends : ∀ d, e.sends d event = []) :
    Traced.Next e sent dropped event := by
  refine h.stays hs hu.queue hu.begun fun d hd => ?_
  have hdrops : ¬ e.Drops d event := fun hn => hn.bytes (hu.buffer.symm.trans hn.gone)
  rw [hu.spoiled, hu.isAborted, hu.atHand, hsends, List.append_nil, or_iff_left hdrops]
  exact h.current d hd

theorem Traced.transfer (h : Traced e sent dropped) (hs : e.link.Sound) (bytes : Bytes)
    (more : Bool) : Traced.Next e sent dropped (.transfer bytes more) := by
  have hids : (e.after (.transfer bytes more)).begun = e.begun :=
    Link.map_changeCurrent _ fun _ => by rfl
  refine h.stays hs (Link.changeCurrent_queue _ _) hids fun d hd => ?_
  have hdrops : ¬ e.Drops d (.transfer bytes more) := fun hn => nomatch hn.told
  have hsends : e.sends d (.transfer bytes more) = bytes := if_pos hd
  have hat : (e.after (.transfer bytes more)).atHand = e.atHand ++ bytes :=
    atHand_transfer e bytes more
  rw [hsends, hat, or_iff_left hdrops]
  rcases h.current d hd with hspoiled | haborted | ⟨gone, hsent, hgone⟩
  · exact .inl hspoiled
  · refine .inr (.inl ?_)
    exact (congrArg Delivery.isAborted (hs.transfer_current hd bytes more)).trans haborted
  · exact .inr (.inr ⟨gone, by rw [hsent, List.append_assoc], hgone⟩)

theorem Traced.abort (h : Traced e sent dropped) (hs : e.link.Sound) :
    Traced.Next e sent dropped .abort := by
  have hids : (e.after .abort).begun = e.begun := Link.map_changeCurrent _ fun _ => by rfl
  exact h.stays hs (Link.changeCurrent_queue _ _) hids fun d hd => .inr (.inl (hs.abort_current hd))

theorem Traced.begin (h : Traced e sent dropped) (ho : e.Orderly) (format : UInt32)
    (remote : Option RemoteState) : Traced.Next e sent dropped (.begin format remote) where
  current := fun d hd => by
    have hdrops : ¬ e.Drops d (.begin format remote) := fun hn => nomatch hn.told
    show e.Spoiled ∨ ((e.link.beginWith format remote).delivery d).isAborted ∨
      ∃ gone, sent d ++ [] = gone ++ e.atHand ∧ _
    rw [List.append_nil, or_iff_left hdrops]
    rcases Link.beginWith_current hd with hd | ⟨hq, rfl⟩
    · rw [ho.sound.numbered.delivery_beginWith format remote
        (ho.sound.known (List.mem_of_mem_head? hd))]
      exact h.current d hd
    · obtain ⟨hsent, hdropped⟩ := h.waiting _ (.inr ho.sound.numbered.fresh)
      refine .inr (.inr ⟨[], ?_, fun _ => hdropped, fun _ => rfl⟩)
      rw [hsent, atHand_none (ho.tidy.headed hq), ho.sound.idle hq]
      rfl
  waiting := fun d hd => by
    refine waiting_next _ h ho.sound ?_
    have hids : (e.after (.begin format remote)).begun =
        e.begun ++ [⟨e.link.deliveries.length + 1⟩] := Link.beginWith_ids ..
    rw [hids] at hd
    rcases hd with hd | hd
    · refine (Link.beginWith_tail hd).imp_right ?_
      rintro rfl
      exact ho.sound.numbered.fresh
    · exact .inr fun hn => hd (List.mem_append_left _ hn)

theorem Traced.handled (h : Traced e sent dropped) (ho : e.Orderly) (hd : e.link.current = some d)
    (heffect : Handles e d (e.after (.message d))) : Traced.Next e sent dropped (.message d) := by
  rcases heffect with ⟨handoff, hhands⟩ | hsilent
  · exact h.moved ho.sound hhands.moved hhands.setting.begun
  have hb : (e.after (.message d)).begun = e.begun := hsilent.setting.begun
  have haborted (d' : DeliveryId) := congrArg (·.2.2) (hsilent.setting.sender d')
  rcases (hsilent.turn ho.mild).2 with
    hkept | ⟨hq, hgap⟩ | ⟨hq, -, hbefore, hafter, hbuffer⟩ | hmoved
  · refine h.stays ho.sound hkept.queue hb fun d' hd' => ?_
    have hdrops : ¬ e.Drops d' (.message d) := fun hn => by
      have hat := hkept.atHand
      rw [atHand_none hn.unstarted, atHand_none hn.failed, hn.gone] at hat
      exact hn.bytes hat.symm
    have hsends : e.sends d' (.message d) = [] := rfl
    rw [hsends, List.append_nil, or_iff_left hdrops, hkept.atHand]
    exact .inr ((h.current d' hd').resolve_left hkept.intact |>.imp_left (haborted d').trans)
  · exact h.stays ho.sound hq hb fun _ _ => .inl hgap
  · refine h.stays ho.sound hq hb fun d' hd' => ?_
    obtain rfl : d = d' := Option.some.inj (hd.symm.trans hd')
    rcases h.current d hd with hspoiled | hgiven | ⟨gone, hsent, hgone⟩
    · exact absurd hspoiled (not_spoiled hbefore)
    · exact .inr (.inl ((haborted d).trans hgiven))
    have hdrops : e.Drops d (.message d) ↔ e.link.buffer ≠ [] := by
      refine ⟨fun hn => hn.bytes, fun hn => ⟨rfl, hd, ?_, hbefore, hafter, hn, hbuffer⟩⟩
      rw [Link.current, hq]
      exact hd
    have hsends : e.sends d (.message d) = [] := rfl
    refine .inr (.inr ⟨gone ++ e.link.buffer, ?_, ?_⟩)
    · rw [hsends, hsent, atHand_none hbefore, atHand_none hafter, hbuffer]
    · rw [List.append_eq_nil_iff, hgone, hdrops, not_or, not_not]
  · exact h.moved ho.sound hmoved hb

theorem Traced.after {event : Event} (h : Traced e sent dropped) (ho : e.Orderly)
    (hopen : (e.after event).lifecycle = .opened) : Traced.Next e sent dropped event := by
  have heffect := after_effect (fun _ => ho.tidy) event
  cases event with
  | begin format remote => exact h.begin ho format remote
  | transfer bytes more => exact h.transfer ho.sound bytes more
  | abort => exact h.abort ho.sound
  | message d =>
    rw [Effect] at heffect
    split at heffect
    · rename_i hd
      exact h.handled ho hd.2 heffect
    · exact h.untouched ho.sound heffect fun _ => rfl
  | close | closeWithError =>
    exact heffect.elim (fun hu => h.untouched ho.sound hu fun _ => rfl) fun hs => absurd hopen hs.1
  | setDrain | flow | runPending | settle | submit | setMode =>
    exact h.untouched ho.sound heffect fun _ => rfl

theorem Traced.afterAll : ∀ (run : List Event) {e : Endpoint} {sent : DeliveryId → Bytes}
    {dropped : DeliveryId → Prop}, Traced e sent dropped → e.Orderly → e.AdmitsAll run →
    (e.afterAll run).lifecycle = .opened →
    Traced (e.afterAll run) (fun d => sent d ++ e.sent d run) fun d => dropped d ∨ e.Dropped d run
  | [], _, _, _, h, _, _, _ => by
    simp only [Endpoint.sent, Endpoint.Dropped, List.append_nil, or_false]
    exact h
  | event :: run, e, sent, dropped, h, ho, ha, hopen => by
    have hopen₁ : (e.after event).lifecycle = .opened := opened_of_afterAll run hopen
    have h' := Traced.afterAll run (h.after ho hopen₁) (ho.after ha.1 hopen₁) ha.2 hopen
    simp only [List.append_assoc, or_assoc] at h'
    exact h'

theorem Traced.fresh (h : e.Fresh) : Traced e (fun _ => []) fun _ => False where
  current := fun d hd => by simp [Link.current, h.queue] at hd
  waiting := fun _ _ => ⟨rfl, id⟩

/-- Whatever fails, what arrives of a delivery is all that was sent for it exactly if no event
before dropped bytes of it. -/
theorem content_eq_sent_iff (h : e.Fresh) (hs : e.storage.Clean) (hm : e.Mild) (run : List Event)
    (ha : e.AdmitsAll run) (event : Event) (arrival : Arrival)
    (harrival : arrival ∈ (e.afterAll run).arrivals event) :
    arrival.content = e.sent arrival.delivery run ↔ ¬ e.Dropped arrival.delivery run := by
  have ho := h.orderly hs hm
  obtain ⟨d, handoff, -, hopen, hd, hhands, rfl⟩ :=
    hands_of_arrival (fun hopen => (ho.afterAll run ha hopen).tidy) harrival
  have htraced := (Traced.fresh h).afterAll run ho ha hopen
  rcases htraced.current d hd with hspoiled | haborted | ⟨gone, hsent, hgone⟩
  · exact absurd hspoiled hhands.whole.whole
  · exact absurd (hhands.given.symm.trans haborted) Bool.false_ne_true
  simp only [List.nil_append, false_or] at hsent hgone
  simp only [Endpoint.arrival, hhands.delivery, hhands.whole.content, hsent, ← hgone]
  exact List.self_eq_append_left

/-- Registering a large message fails, and what comes after is passed on alone. -/
theorem content_ne_sent_register :
    let plan : Plan := fun n point =>
      if n = 3 ∧ point = .register then some (.fails { text := "table full" }) else none
    let e : Endpoint :=
      { Endpoint.start { minLargeMessageSize := 4 } "orders" 10 ⟨1⟩ .memory none with plan }
    let run : List Event := [.begin 0 none, .transfer [1, 2, 3, 4] true, .message ⟨1⟩,
      .transfer [5] false]
    ¬ ∀ arrival ∈ (e.afterAll run).arrivals (.message ⟨1⟩),
      arrival.content = e.sent arrival.delivery run := by
  intro plan e run h
  have harrivals : (e.afterAll run).arrivals (.message ⟨1⟩) = [⟨⟨1⟩, 0, 1, false, [5]⟩] := by
    decide +kernel
  have hsent : e.sent ⟨1⟩ run = [1, 2, 3, 4, 5] := by decide +kernel
  rw [harrivals] at h
  have hcontent := h _ (List.mem_singleton.2 rfl)
  rw [hsent] at hcontent
  exact absurd hcontent (by decide)

/-- In that run it is the event that fails that drops the bytes. -/
theorem content_eq_sent_iff_register :
    let plan : Plan := fun n point =>
      if n = 3 ∧ point = .register then some (.fails { text := "table full" }) else none
    let e : Endpoint :=
      { Endpoint.start { minLargeMessageSize := 4 } "orders" 10 ⟨1⟩ .memory none with plan }
    let run : List Event := [.begin 0 none, .transfer [1, 2, 3, 4] true, .message ⟨1⟩,
      .transfer [5] false]
    (e.afterAll run).arrivals (.message ⟨1⟩) = [⟨⟨1⟩, 0, 1, false, [5]⟩] ∧ e.Dropped ⟨1⟩ run := by
  intro plan e run
  have harrivals : (e.afterAll run).arrivals (.message ⟨1⟩) = [⟨⟨1⟩, 0, 1, false, [5]⟩] := by
    decide +kernel
  have hsent : e.sent ⟨1⟩ run = [1, 2, 3, 4, 5] := by decide +kernel
  have hfresh : e.Fresh := ⟨rfl, rfl, rfl, rfl, rfl, rfl, rfl, rfl, rfl, rfl, rfl⟩
  have hmild : e.Mild := by
    refine ⟨fun n point _ k _ => ?_, rfl⟩
    show (if n = 3 ∧ point = .register then some (Fault.fails _) else none) ≠ _
    split <;> simp
  have hadmits : e.AdmitsAll run := by decide +kernel
  refine ⟨harrivals, not_not.1 fun hn => ?_⟩
  have hcontent := (content_eq_sent_iff hfresh (.empty rfl rfl) hmild run hadmits (.message ⟨1⟩)
    ⟨⟨1⟩, 0, 1, false, [5]⟩ (by rw [harrivals]; exact List.mem_singleton.2 rfl)).2 hn
  exact absurd (hcontent.trans hsent) (by decide)

end Steps

end ReceivingLink
