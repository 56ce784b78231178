import ReceivingLink.Proofs.Traffic

/-!
# A gap

A write to a spool that panics breaks off between taking the bytes from the link and noting that
they are missing. The large message that is coming in looks as if nothing had been sent. If nothing
else goes wrong it is passed on exactly when the rest of the delivery completes it, without the
bytes of that write: `hands_iff_completes`.
-/

namespace ReceivingLink

/-- Nothing goes wrong but one write to a spool. -/
def Plan.oneAppend (n : Nat) (k : Panic) : Plan := fun m point =>
  if m = n ∧ point = .spoolAppend then some (.panics k) else none

namespace Endpoint

/-- A large message without a gap is coming in for the current delivery, and bytes wait that are to
be written to its spool. -/
structure Waits (e : Endpoint) (d : DeliveryId) (a : Accumulator) : Prop where
  opened : e.lifecycle = .opened
  current : e.link.current = some d
  given : (e.link.delivery d).isAborted = false
  slot : e.slot = some a
  whole : a.incomplete = false
  persistent : e.isPersistent
  bytes : e.link.buffer ≠ []

/-- An event completes a delivery: the receiver is told of it when it is current, was not given up
and has no more transfers to come. -/
structure Completes (e : Endpoint) (d : DeliveryId) (event : Event) : Prop where
  told : event = .message d
  opened : e.lifecycle = .opened
  current : e.link.current = some d
  given : (e.link.delivery d).isAborted = false
  complete : (e.link.delivery d).isPartial = false

/-- The endpoint after a write that broke off. -/
def brokenOff (e : Endpoint) (a : Accumulator) : Endpoint :=
  ({ e.noting (.linkRecv e.link.buffer) with link := e.link.drained } : Endpoint).noting
    (.spoolAppend a.spool e.link.buffer)

end Endpoint

section BreakOff

variable {e : Endpoint} {d : DeliveryId} {a : Accumulator} {k : Panic}

theorem invoke_calm {call : Call} (h : e.plan e.calls.length call.point = none) :
    (invoke call).Ends e (fun _ e' => e' = e.noting call) fun _ _ => False := by
  simp only [invoke, note, Act.ends_bind, Act.ends_modifyGet, h]
  exact rfl

theorem append_breaksOff {bytes : Bytes} (hb : bytes ≠ []) (hw : a.incomplete = false)
    (hk : e.plan e.calls.length .spoolAppend = some (.panics k)) :
    (a.append bytes).Ends e (fun _ _ => False)
      fun k' e' => k' = k ∧ e' = e.noting (.spoolAppend a.spool bytes) := by
  unfold Accumulator.append
  refine Act.ends_ite.2 ⟨fun hnil => absurd (List.isEmpty_iff.1 hnil) hb, fun _ =>
    Act.ends_ite.2 ⟨fun hi => ?_, fun _ => ?_⟩⟩
  · exact absurd (hw.symm.trans hi) Bool.false_ne_true
  · refine Act.ends_bind.2 (Act.ends_run.2 (Attempt.ends_bind.2 ?_))
    simp only [attempt, note, Attempt.ends_bind, Attempt.ends_lift, Act.ends_modifyGet]
    rw [show e.plan e.calls.length (Call.spoolAppend a.spool bytes).point = _ from hk]
    exact ⟨rfl, rfl⟩

/-- The bytes are taken from the link, and the accumulator is not put back. -/
theorem receive_breaksOff (h : e.Waits d a) (hplan : e.plan = .oneAppend (e.calls.length + 1) k) :
    a.receive.Ends e (fun _ _ => False) fun k' e' => k' = k ∧ e' = e.brokenOff a := by
  have hrecv : Link.recv.Ends e (fun bytes e' => bytes = e.link.buffer ∧
      e' = { e.noting (.linkRecv e.link.buffer) with link := e.link.drained })
      fun _ _ => False := by
    refine Act.ends_bind.2 (Act.ends_get.2 (Act.ends_bind.2 ((invoke_calm ?_).imp ?_
      fun _ _ => id)))
    · simp [hplan, Plan.oneAppend]
    · rintro _ _ rfl
      exact ⟨rfl, rfl⟩
  refine Act.ends_bind.2 (hrecv.imp ?_ fun _ _ => False.elim)
  rintro _ _ ⟨rfl, rfl⟩
  refine append_breaksOff h.bytes h.whole ?_
  simp [Endpoint.noting, hplan, Plan.oneAppend]

theorem accept_breaksOff (h : e.Waits d a) (hplan : e.plan = .oneAppend (e.calls.length + 1) k) :
    (Reassembler.accept .receiver d).Ends e (fun _ _ => False) (fun _ _ => False)
      fun k' e' => k' = k ∧ e' = e.brokenOff a := by
  have hslot : (e.reassembler.get .receiver).slot = some a := h.slot
  have hreceive := receive_breaksOff h hplan
  refine Attempt.ends_bind.2 (Attempt.ends_get.2 (Attempt.ends_ite.2 ⟨fun ha => ?_, fun _ =>
    Attempt.ends_ite.2 ⟨fun _ => ?_, fun _ => ?_⟩⟩))
  · exact absurd (h.given.symm.trans ha) Bool.false_ne_true
  · refine Attempt.ends_bind.2 (Attempt.ends_bind.2 (Attempt.ends_get.2 (Attempt.ends_ite.2
      ⟨fun _ => ?_, fun hn => absurd h.persistent hn⟩)))
    refine Attempt.ends_bind.2 (Attempt.ends_lift.2 (ends_current.2 ?_))
    rw [hslot]
    exact Attempt.ends_bind.2 (Attempt.ends_lift.2 (hreceive.imp (fun _ _ => False.elim)
      fun _ _ => id))
  · refine Attempt.ends_bind.2 (Attempt.ends_bind.2 (Attempt.ends_lift.2 (ends_current.2 ?_)))
    refine Attempt.ends_bind.2 (Attempt.ends_get.2 (Attempt.ends_ite.2 ⟨fun hn => ?_, fun _ => ?_⟩))
    · simp [hslot] at hn
    refine Attempt.ends_bind.2 (Attempt.ends_lift.2 (ends_current.2 ?_))
    rw [hslot]
    exact Attempt.ends_bind.2 (Attempt.ends_bind.2 (Attempt.ends_lift.2 (hreceive.imp
      (fun _ _ => False.elim) fun _ _ => id)))

/-- The panic is contained, and reported as the error of the event. -/
theorem message_breaksOff (h : e.Waits d a) (hplan : e.plan = .oneAppend (e.calls.length + 1) k) :
    (Event.message d).perform.Ends e
      (fun r e' => r = .error (.ofPanic k) ∧ Untouched (e.brokenOff a) e') fun _ _ => False := by
  have F := untouched_frame
  let e₀ : Endpoint := { e with onHandler := some e.mailbox.handler }
  have hwaits : e₀.Waits d a :=
    ⟨h.opened, h.current, h.given, h.slot, h.whole, h.persistent, h.bytes⟩
  have hplan₀ : e₀.plan = .oneAppend (e₀.calls.length + 1) k := hplan
  refine ends_onHandler.2 (Act.ends_bind.2 ((requireOnHandler_ends (isOnHandler_enter e)).imp ?_
    fun _ _ => id))
  rintro _ _ rfl
  refine Act.ends_bind.2 (Act.ends_get.2 (Act.ends_ite.2 ⟨fun hn => absurd h.opened hn, fun _ =>
    Act.ends_ite.2 ⟨fun hn => absurd h.current hn, fun _ => ?_⟩⟩))
  refine Act.ends_bind.2 (Act.ends_contain.2 (Act.ends_run.2 (Attempt.ends_bind.2
    (Attempt.ends_adapt.2 ((accept_breaksOff hwaits hplan₀).imp (fun _ _ => False.elim)
      (fun _ _ => False.elim) ?_)))))
  rintro _ _ ⟨rfl, rfl⟩
  exact ⟨rfl, (F.placed.trans untouched_failed).trans F.placed⟩

end BreakOff

/-- A delivery was begun and nobody waits before it. As long as it is current and not given up, the
bytes at hand are those held of it, and none is known to be missing. -/
structure Held (e : Endpoint) (d : DeliveryId) (held : Bytes) : Prop where
  begun : d ∈ e.begun
  first : d ∉ e.link.queue.tail
  current : e.link.current = some d →
    (e.link.delivery d).isAborted ∨ ¬ e.Spoiled ∧ e.atHand = held

section After

variable {e : Endpoint} {d : DeliveryId} {held : Bytes}

/-- A delivery that the link is past is not current again. -/
theorem Held.moved {e' : Endpoint} {held' : Bytes} (h : Held e d held) (hb : e'.begun = e.begun)
    (hq : e'.link.queue = e.link.queue.tail) : Held e' d held' where
  begun := by rw [hb]; exact h.begun
  first := by
    rw [hq]
    exact fun hd => h.first (List.mem_of_mem_tail hd)
  current := fun hd => by
    rw [Link.current, hq] at hd
    exact absurd (List.mem_of_mem_head? hd) h.first

/-- Only a delivery that is current needs a look when the link stays where it was. -/
theorem Held.stays {e' : Endpoint} {held' : Bytes} (h : Held e d held) (hb : e'.begun = e.begun)
    (hq : e'.link.queue = e.link.queue) (hcurrent : e.link.current = some d →
      (e'.link.delivery d).isAborted ∨ ¬ e'.Spoiled ∧ e'.atHand = held') : Held e' d held' where
  begun := by rw [hb]; exact h.begun
  first := by rw [hq]; exact h.first
  current := fun hd => by
    rw [Link.current, hq] at hd
    exact hcurrent hd

theorem Held.untouched {e' : Endpoint} (h : Held e d held) (hu : Untouched e e') :
    Held e' d held := by
  refine h.stays hu.begun hu.queue fun hd => ?_
  rw [hu.isAborted, hu.spoiled, hu.atHand]
  exact h.current hd

theorem Held.begin (h : Held e d held) (hs : e.link.Sound) (format : UInt32)
    (remote : Option RemoteState) : Held (e.after (.begin format remote)) d held := by
  have hids : (e.after (.begin format remote)).begun =
      e.begun ++ [⟨e.link.deliveries.length + 1⟩] := Link.beginWith_ids ..
  have hne : d ≠ ⟨e.link.deliveries.length + 1⟩ := by
    rintro rfl
    exact hs.numbered.fresh h.begun
  refine ⟨?_, fun hd => ?_, fun hd => ?_⟩
  · rw [hids]
    exact List.mem_append_left _ h.begun
  · exact (Link.beginWith_tail hd).elim h.first hne
  · have hcurrent := (Link.beginWith_current hd).resolve_right fun hnew => hne hnew.2
    have hdelivery : (e.after (.begin format remote)).link.delivery d = e.link.delivery d :=
      hs.numbered.delivery_beginWith format remote h.begun
    rw [hdelivery]
    exact h.current hcurrent

theorem Held.handled {d' : DeliveryId} (h : Held e d held) (hs : e.Steady)
    (hd' : e.link.current = some d') (heffect : Handles e d' (e.after (.message d'))) :
    Held (e.after (.message d')) d held := by
  rcases heffect with ⟨handoff, hhands⟩ | hsilent
  · exact h.moved hhands.setting.begun hhands.moved.queue
  have hb : (e.after (.message d')).begun = e.begun := hsilent.setting.begun
  have haborted (h : (e.link.delivery d).isAborted) :
      ((e.after (.message d')).link.delivery d).isAborted :=
    (congrArg (·.2.2) (hsilent.setting.sender d)).trans h
  rcases (hsilent.turn hs.mild).2.queue with hq | hmoved
  swap
  · exact h.moved hb hmoved.queue
  refine h.stays hb hq fun hd => ?_
  obtain rfl : d' = d := Option.some.inj (hd'.symm.trans hd)
  cases hgiven : (e.link.delivery d').isAborted with
  | true => exact .inl (haborted hgiven)
  | false =>
    obtain ⟨hwhole, hat⟩ := (h.current hd).resolve_left (by simp [hgiven])
    have hkept := (hsilent.kept (hs.healthy hwhole hgiven)).2
    exact .inr ⟨hkept.whole, hkept.atHand.trans hat⟩

/-- What is held grows by what is sent. -/
theorem Held.after {event : Event} (h : Held e d held) (hs : e.Steady)
    (hopen : (e.after event).lifecycle = .opened) :
    Held (e.after event) d (held ++ e.sends d event) := by
  have heffect := after_effect (fun _ => hs.tidy) event
  cases event with
  | begin format remote =>
    refine Eq.mpr (congrArg _ (List.append_nil held)) (h.begin hs.sound format remote)
  | transfer bytes more =>
    refine h.stays (Link.map_changeCurrent _ fun _ => by rfl) (Link.changeCurrent_queue _ _)
      fun hd => ?_
    have hsends : e.sends d (.transfer bytes more) = bytes := if_pos hd
    have hat : (e.after (.transfer bytes more)).atHand = e.atHand ++ bytes :=
      atHand_transfer e bytes more
    rw [hsends, hat]
    refine (h.current hd).imp (fun ha => ?_) fun hheld => ⟨hheld.1, by rw [hheld.2]⟩
    exact (congrArg Delivery.isAborted (hs.sound.transfer_current hd bytes more)).trans ha
  | abort =>
    exact h.stays (Link.map_changeCurrent _ fun _ => by rfl) (Link.changeCurrent_queue _ _)
      fun hd => .inl (hs.sound.abort_current hd)
  | message d' =>
    rw [Effect] at heffect
    rw [show e.sends d (.message d') = [] from rfl, List.append_nil]
    split at heffect
    · rename_i hd
      exact h.handled hs hd.2 heffect
    · exact h.untouched heffect
  | close | closeWithError =>
    rw [show e.sends d _ = [] from rfl, List.append_nil]
    exact heffect.elim h.untouched fun hshut => absurd hopen hshut.1
  | setDrain | flow | runPending | settle | submit | setMode =>
    rw [show e.sends d _ = [] from rfl, List.append_nil]
    exact h.untouched heffect

theorem Held.afterAll : ∀ (run : List Event) {e : Endpoint} {held : Bytes}, Held e d held →
    e.Steady → e.AdmitsAll run → (e.afterAll run).lifecycle = .opened →
    Held (e.afterAll run) d (held ++ e.sent d run)
  | [], _, held, h, _, _, _ => by
    rw [Endpoint.sent, List.append_nil]
    exact h
  | event :: run, e, held, h, hs, ha, hopen => by
    have hopen₁ := opened_of_afterAll (e := e.after event) run hopen
    rw [Endpoint.sent, ← List.append_assoc]
    exact (h.after hs hopen₁).afterAll run (hs.after ha.1 hopen₁) ha.2 hopen

/-- What is held of a delivery arrives in the event that completes it. -/
theorem Held.arrives_iff (h : Held e d held) (hs : e.Steady) (event : Event) :
    (∃ arrival ∈ e.arrivals event, arrival.delivery = d) ↔ e.Completes d event := by
  constructor
  · rintro ⟨arrival, harrival, rfl⟩
    obtain ⟨d', handoff, rfl, hopen, hd, hhands, rfl⟩ :=
      hands_of_arrival (fun _ => hs.tidy) harrival
    obtain rfl : handoff.delivery = d' := hhands.delivery
    exact ⟨rfl, hopen, hd, hhands.given, hhands.complete⟩
  · rintro ⟨rfl, hopen, hd, hgiven, hcomplete⟩
    have heffect := after_effect (fun _ => hs.tidy) (.message d)
    rw [Effect, if_pos ⟨hopen, hd⟩] at heffect
    have hwhole := ((h.current hd).resolve_left (by simp [hgiven])).1
    obtain ⟨handoff, hhands⟩ := heffect.hands (hs.healthy hwhole hgiven) hcomplete
    refine ⟨(e.after (.message d)).arrival handoff, ?_, hhands.delivery⟩
    rw [arrivals_hands hhands]
    exact List.mem_singleton.2 rfl

theorem Held.content_eq (h : Held e d held) (ht : e.Tidy) {event : Event} {arrival : Arrival}
    (harrival : arrival ∈ e.arrivals event) (hd : arrival.delivery = d) :
    arrival.content = held := by
  obtain ⟨d', handoff, rfl, -, hcurrent, hhands, rfl⟩ := hands_of_arrival (fun _ => ht) harrival
  obtain rfl : d' = d := hhands.delivery.symm.trans hd
  exact hhands.whole.content.trans ((h.current hcurrent).resolve_left (by simp [hhands.given])).2

/-- In every run that follows, the delivery arrives in the event that completes it, with what is
held of it and what was sent since. -/
theorem Held.arrivals (h : Held e d held) (hs : e.Steady) (run : List Event) (ha : e.AdmitsAll run)
    (event : Event) :
    ((∃ arrival ∈ (e.afterAll run).arrivals event, arrival.delivery = d) ↔
        (e.afterAll run).Completes d event) ∧
      ∀ arrival ∈ (e.afterAll run).arrivals event, arrival.delivery = d →
        arrival.content = held ++ e.sent d run := by
  by_cases hopen : (e.afterAll run).lifecycle = .opened
  · have hheld := h.afterAll run hs ha hopen
    have hsteady := hs.afterAll run ha hopen
    exact ⟨hheld.arrives_iff hsteady event, fun _ => hheld.content_eq hsteady.tidy⟩
  · have hnone (arrival : Arrival) (harrival : arrival ∈ (e.afterAll run).arrivals event) :
        False := by
      obtain ⟨-, -, -, ho, -⟩ := hands_of_arrival (fun ho => absurd ho hopen) harrival
      exact hopen ho
    refine ⟨⟨fun ⟨arrival, harrival, _⟩ => (hnone arrival harrival).elim, fun hcompletes => ?_⟩,
      fun arrival harrival => (hnone arrival harrival).elim⟩
    exact absurd hcompletes.opened hopen

end After

section Claim

variable {e : Endpoint} {d : DeliveryId} {a : Accumulator} {k : Panic}

theorem brokenOff_sameSetting (e : Endpoint) (a : Accumulator) : SameSetting e (e.brokenOff a) :=
  sameSetting_frame.taking.trans
    (sameSetting_frame.drained.trans (sameSetting_frame.noted rfl))

theorem brokenOff_tidy (h : e.Tidy) (a : Accumulator) : (e.brokenOff a).Tidy :=
  ((h.noting _).changeLink (by simp [Link.drained]) (drained_format _)).noting _

/-- After the write that broke off the spool has what it had before, and nothing waits. -/
theorem brokenOff_held (h : e.Waits d a) (hs : e.link.Sound) :
    Held (e.brokenOff a) d (e.spooled a) := by
  have hq : (e.brokenOff a).link.queue = e.link.queue := Link.changeCurrent_queue _ _
  have hslot : (e.brokenOff a).slot = some a := h.slot
  have hbuffer : (e.brokenOff a).link.buffer = [] := by
    simp [Endpoint.brokenOff, Endpoint.noting, Link.drained]
  refine ⟨?_, ?_, fun _ => .inr ⟨?_, ?_⟩⟩
  · have hb : (e.brokenOff a).begun = e.begun := (brokenOff_sameSetting e a).begun
    rw [hb]
    exact hs.known (List.mem_of_mem_head? h.current)
  · rw [hq]
    exact fun hd => current_ne_of_waiting hs (.inl hd) h.current
  · rw [spoiled_some hslot, h.whole]
    exact Bool.false_ne_true
  · rw [atHand_some hslot, hbuffer, List.append_nil]
    rfl

theorem brokenOff_calm (hc : Endpoint.Calm { e with plan := .clear })
    (hplan : e.plan = .oneAppend (e.calls.length + 1) k) : (e.brokenOff a).Calm where
  plan := fun n point hn => by
    have hne : n ≠ e.calls.length + 1 := by
      simp only [Endpoint.brokenOff, Endpoint.noting, List.length_append,
        List.length_singleton] at hn
      omega
    show e.plan n point = none
    simp [hplan, Plan.oneAppend, hne]
  faults := hc.faults
  spools := hc.spools
  lookups := hc.lookups

/-- A receiver that contained the panic is open, and nothing will go wrong in it any more. -/
theorem brokenOff_steady (h : e.Waits d a) (ht : e.Tidy) (hs : e.link.Sound)
    (hc : Endpoint.Calm { e with plan := .clear })
    (hplan : e.plan = .oneAppend (e.calls.length + 1) k) {e' : Endpoint}
    (hu : Untouched (e.brokenOff a) e') (hb : ∃ accepted, Books e' accepted []) : e'.Steady := by
  have hcalm : e'.Calm := hu.toContinued.calm (brokenOff_calm hc hplan)
  have hsound : (e.brokenOff a).link.Sound := (brokenOff_sameSetting e a).sound hs
  exact ⟨⟨hu.tidy (brokenOff_tidy ht a), hu.sound hsound, hcalm.mild⟩, hu.lifecycle.trans h.opened,
    hcalm, hb⟩

theorem oneAppend_spares (n : Nat) (k : Panic) : (Plan.oneAppend n k).Spares settlementPoints := by
  intro m point hp k' hfault
  have hne : point ≠ .spoolAppend := by
    rintro rfl
    simp [settlementPoints] at hp
  simp [Plan.oneAppend, hne] at hfault

theorem oneAppend_keepsWord (n : Nat) (k : Panic) : (Plan.oneAppend n k).KeepsWord := fun m => by
  simp [Plan.oneAppend]

theorem Books.planned {accepted : List DeliveryId} {plan : Plan} (h : Books e accepted [])
    (hs : plan.Spares settlementPoints) (hk : plan.KeepsWord) :
    Books { e with plan } accepted [] :=
  ⟨h.numbered, h.known, h.apart, h.owedOnce, h.owedAccepted, h.unsettled, h.once, h.count, hs, hk⟩

/-- If a write to the spool of a large message panics and nothing else goes wrong, the event reports
the panic, and the message is passed on exactly in an event that completes its delivery. What
arrives is what was in the spool and what was sent after, without the bytes of that write. -/
theorem hands_iff_completes (h : e.Fresh) (hs : e.storage.Clean) (hm : e.Mild)
    (hspares : e.plan.Spares settlementPoints) (hk : e.plan.KeepsWord) (before : List Event)
    (hb : e.AdmitsAll before) (hw : (e.afterAll before).Waits d a)
    (hc : Endpoint.Calm { e.afterAll before with plan := .clear }) (k : Panic) :
    let struck : Endpoint :=
      { e.afterAll before with plan := .oneAppend ((e.afterAll before).calls.length + 1) k }
    let e₁ := struck.after (.message d)
    ((Event.message d).perform struck).1 = .ok (.error (.ofPanic k)) ∧
      ∀ run, e₁.AdmitsAll run → ∀ event,
        ((∃ arrival ∈ (e₁.afterAll run).arrivals event, arrival.delivery = d) ↔
          (e₁.afterAll run).Completes d event) ∧
        ∀ arrival ∈ (e₁.afterAll run).arrivals event, arrival.delivery = d →
          arrival.content = (e.afterAll before).spooled a ++ e₁.sent d run := by
  intro struck e₁
  have ho := (h.orderly hs hm).afterAll before hb hw.opened
  have hwaits : struck.Waits d a :=
    ⟨hw.opened, hw.current, hw.given, hw.slot, hw.whole, hw.persistent, hw.bytes⟩
  obtain ⟨hresult, hu⟩ := Act.Ends.result
    (Q := fun r e' => r = .ok (.error (.ofPanic k)) ∧ Untouched (struck.brokenOff a) e')
    ((message_breaksOff hwaits rfl).imp (fun _ _ h' => ⟨by rw [h'.1], h'.2⟩) fun _ _ => False.elim)
  have hbooks : Books struck _ [] := ((h.books hspares hk).afterAll before).planned
    (oneAppend_spares _ k) (oneAppend_keepsWord _ k)
  have hsteady : e₁.Steady := brokenOff_steady hwaits ⟨ho.tidy.1, ho.tidy.2, ho.tidy.3, ho.tidy.4⟩
    ho.sound hc rfl hu ⟨_, hbooks.after (.message d)⟩
  have hheld : Held e₁ d ((e.afterAll before).spooled a) :=
    (brokenOff_held hwaits ho.sound).untouched hu
  exact ⟨hresult, fun run ha event => hheld.arrivals hsteady run ha event⟩

/-- The second of three transfers is lost to a panic, and the message arrives with the other two. -/
theorem hands_after_panic :
    let e : Endpoint := .start { minLargeMessageSize := 4 } "orders" 10 ⟨1⟩ .memory none
    let before : List Event := [.begin 0 none, .transfer [1, 2, 3, 4] true, .message ⟨1⟩,
      .transfer [5] true]
    let struck : Endpoint := { e.afterAll before with plan := .oneAppend 6 (.text "disk gone") }
    ¬ ∀ arrival ∈
        ((struck.after (.message ⟨1⟩)).after (.transfer [6] false)).arrivals (.message ⟨1⟩),
      arrival.delivery ≠ ⟨1⟩ := by
  intro e before struck h
  have harrivals : ((struck.after (.message ⟨1⟩)).after (.transfer [6] false)).arrivals
      (.message ⟨1⟩) = [⟨⟨1⟩, 0, 5, true, [1, 2, 3, 4, 6]⟩] := by decide +kernel
  rw [harrivals] at h
  exact h _ (List.mem_singleton.2 rfl) rfl

/-- That message arrives because the last transfer completes the delivery. -/
theorem hands_iff_completes_one :
    let e : Endpoint := .start { minLargeMessageSize := 4 } "orders" 10 ⟨1⟩ .memory none
    let before : List Event := [.begin 0 none, .transfer [1, 2, 3, 4] true, .message ⟨1⟩,
      .transfer [5] true]
    let struck : Endpoint := { e.afterAll before with plan := .oneAppend 6 (.text "disk gone") }
    let e₁ := struck.after (.message ⟨1⟩)
    ∃ arrival ∈ (e₁.afterAll [.transfer [6] false]).arrivals (.message ⟨1⟩),
      arrival.delivery = ⟨1⟩ := by
  intro e before struck e₁
  let a : Accumulator := { id := ⟨100⟩, format := 0, size := 4, spool := ⟨⟨100⟩, 0⟩ }
  have hfresh : e.Fresh := Endpoint.start_fresh ..
  have hcalm : e.Calm := ⟨fun _ _ _ => rfl, rfl, fun _ => rfl, rfl⟩
  have hw : (e.afterAll before).Waits ⟨1⟩ a := by
    refine ⟨?_, ?_, ?_, ?_, ?_, ?_, ?_⟩ <;> decide +kernel
  have hc : Endpoint.Calm { e.afterAll before with plan := .clear } := by
    refine ⟨fun _ _ _ => rfl, ?_, fun _ => ?_, ?_⟩ <;> decide +kernel
  have hends := hands_iff_completes hfresh (.empty rfl rfl) hcalm.mild
    (fun _ _ _ _ => by simp [e, Endpoint.start, Plan.clear]) (fun _ => rfl) before
    (by decide +kernel) hw hc
    (.text "disk gone")
  have ha : e₁.AdmitsAll [.transfer [6] false] := by decide +kernel
  refine (hends.2 _ ha (.message ⟨1⟩)).1.2 ?_
  refine ⟨rfl, ?_, ?_, ?_, ?_⟩ <;> decide +kernel

end Claim

end ReceivingLink
