import ReceivingLink.Proofs.Gap
import ReceivingLink.Proofs.Loss
import ReceivingLink.Proofs.Protocol

/-!
# Storage that refuses

A large message is given an id and a spool before anything of it is taken from the link. As long as
storage refuses one of them, the event fails and all that has come waits where it is. Once storage
gives both, at whatever event that is, nothing is missing: `refusals_lose_nothing`.
-/

namespace ReceivingLink

/-- The calls by which the bytes of a delivery are saved once there is a place for them, and by
which its message is passed on. -/
def savingPoints : List Point :=
  [.linkRecv, .linkAdvance, .register, .spoolAppend, .spoolFinish, .createMessage, .lookup]

namespace Endpoint

variable (e : Endpoint)

/-- The calls that get an id and a spool for a large message. -/
def allocation (d : DeliveryId) : List Call := [.generateId, .openSpool (e.blank d).id]

/-- Of the calls to come on the way to routing, only those fail that get a place for a large
message. -/
def OnlyRefuses : Prop := ∀ n call, e.calls.length ≤ n → call.point ∈ savingPoints →
  e.reports n call = none

end Endpoint

/-- Of the link and the slot this is what the turnout leaves. -/
structure Lands (t : Turnout) (e : Endpoint) : Prop where
  queue : e.link.queue = t.link.queue
  buffer : e.link.buffer = t.link.buffer
  slot : e.slot = t.slot

/-- The turnout leaves no gap. Bytes are taken from the link only into the slot, or with the
delivery. -/
structure Turnout.Saves (t : Turnout) (l : Link) : Prop where
  whole : ∀ a, t.slot = some a → a.incomplete = false
  kept : t.slot.isSome ∨ t.link = l ∨ t.link.queue = l.queue.tail

section Refusing

variable {e e' : Endpoint} {d : DeliveryId} {t : Turnout}

theorem Lands.ofMade {calls : List Call} (h : Made .receiver e calls t.link t.slot e') :
    Lands t e' :=
  ⟨congrArg Link.queue h.link, congrArg Link.buffer h.link, h.slot⟩

theorem Lands.untouched {e₁ : Endpoint} (h : Lands t e) (hu : Untouched e e₁) : Lands t e₁ :=
  ⟨hu.queue.trans h.queue, hu.buffer.trans h.buffer, hu.slot_eq.trans h.slot⟩

/-- Behind reassembly the link and the slot are left alone. -/
theorem message_lands (h : e.Writable .receiver) (ha : e.Answering) (ho : e.lifecycle = .opened)
    (hd : e.link.current = some d) : Lands (e.turnout .receiver d) (e.after (.message d)) := by
  let t := e.turnout .receiver d
  refine Act.Ends.state (Q := Lands t) (message_ends (fun _ h' => ⟨h'.queue, h'.buffer, h'.slot⟩)
    (fun hn => absurd ⟨ho, hd⟩ hn) fun _ _ => ?_)
  have hwritable := writable_entered h (some e.mailbox.handler)
  have hresponsive := hwritable.responsive ⟨ha.plan, ha.appends⟩
  refine process_carries .untouched (fun h' => ⟨h'.queue, h'.buffer, h'.slot⟩) ?_
  exact (accept_comes hwritable.persistent d).imp (fun _ _ hm => .ofMade hm.2)
    (fun _ _ hm => .ofMade hm.2) fun _ _ hn => (hn hresponsive).elim

theorem opening_eq (e : Endpoint) (d : DeliveryId) : e.opening d = e.allocation d ++
    (.linkRecv e.link.buffer :: .register (e.blank d).id (e.blank d) ::
      (e.blank d).writes e.link.buffer) := rfl

/-- Nothing is done for a large message for which there is no place. -/
theorem turnout_refused (hg : (e.link.delivery d).isAborted = false) (hs : e.slot = none)
    (hdue : e.isDue .receiver d) {call : Call} {cause : Failure}
    (hb : e.reports.broken? e.calls.length (e.allocation d) = some (call, cause)) :
    e.turnout .receiver d =
      { calls := e.reports.made e.calls.length (e.allocation d), link := e.link, slot := none
        result := .error (call.error (e.blank d).id cause) } := by
  have hlate : call.isLate = false := by
    have hmem := Reports.mem_of_broken hb
    simp only [Endpoint.allocation, List.mem_cons, List.not_mem_nil, or_false] at hmem
    rcases hmem with rfl | rfl <;> rfl
  have hopening : e.reports.broken? e.calls.length (e.opening d) = some (call, cause) := by
    rw [opening_eq]
    exact Reports.broken?_append_of_some _ hb
  have hmade : e.reports.made e.calls.length (e.opening d) =
      e.reports.made e.calls.length (e.allocation d) := by
    rw [opening_eq]
    exact Reports.made_append_of_some _ (by rw [hb]; rfl)
  rw [turnout_unstarted hg hs hdue hopening, Endpoint.unstarted, hmade, hlate]
  simp

theorem refused_replies (h : e.Writable .receiver) (ha : e.Answering) (ho : e.lifecycle = .opened)
    (hd : e.link.current = some d) (hg : (e.link.delivery d).isAborted = false)
    (hs : e.slot = none) (hdue : e.isDue .receiver d) {call : Call} {cause : Failure}
    (hb : e.reports.broken? e.calls.length (e.allocation d) = some (call, cause)) :
    let error := call.error (e.blank d).id cause
    e.Replies d
      { calls := e.reports.made e.calls.length (e.allocation d), link := e.link, slot := none
        result := .error error } (.error (.internal error.failure)) :=
  message_replies h ha ho hd (turnout_refused hg hs hdue hb) rfl

theorem writes_saving (a : Accumulator) (bytes : Bytes) :
    ∀ call ∈ a.writes bytes, call.point ∈ savingPoints := by
  unfold Accumulator.writes
  split
  · simp
  · simp [Call.point, savingPoints]

namespace Endpoint.OnlyRefuses

variable (hf : e.OnlyRefuses)

include hf

theorem continued (h : Continued e e') : e'.OnlyRefuses := fun n call hn hp => by
  rw [h.reports]
  exact hf n call (Nat.le_trans h.noted hn) hp

theorem unbroken {calls : List Call} {n : Nat} (hn : e.calls.length ≤ n)
    (hc : ∀ call ∈ calls, call.point ∈ savingPoints) : e.reports.broken? n calls = none :=
  Reports.broken?_eq_none fun call hcall m hm => hf m call (Nat.le_trans hn hm) (hc call hcall)

/-- A large message that has a place is started. -/
theorem opening_unbroken (hb : e.reports.broken? e.calls.length (e.allocation d) = none) :
    e.reports.broken? e.calls.length (e.opening d) = none := by
  rw [opening_eq, Reports.broken?_append_of_none _ hb]
  refine hf.unbroken (Nat.le_add_right _ _) (List.forall_mem_cons.2 ⟨?_, List.forall_mem_cons.2
    ⟨?_, writes_saving _ _⟩⟩)
  · simp [Call.point, savingPoints]
  · simp [Call.point, savingPoints]

/-- A large message without a gap is sealed. -/
theorem sealed_complete {n : Nat} (hn : e.calls.length ≤ n) {a : Accumulator}
    (hi : a.incomplete = false) (l : Link) : (e.reports.sealed n a l).result =
      .ok (.complete (.large (a.grown l.buffer).message)) := by
  have hsealing : e.reports.broken? n (a.sealing l.buffer) = none := by
    refine hf.unbroken hn fun call hc => ?_
    simp only [Accumulator.sealing, hi, List.mem_append, List.mem_cons] at hc
    rcases hc with (rfl | hc) | hc
    · simp [Call.point, savingPoints]
    · exact writes_saving a l.buffer call hc
    · obtain rfl : call = .spoolFinish a.spool := by simpa using hc
      simp [Call.point, savingPoints]
  have herror : e.reports.sealError? n a l.buffer = none := by
    simp [Reports.sealError?, hsealing, hi]
  simp [Reports.sealed, herror]

/-- No gap comes of an event, and bytes are taken from the link only into the slot, or with the
delivery. -/
theorem turnout_saves (hw : ¬ e.Spoiled) : (e.turnout .receiver d).Saves e.link := by
  have hempty : ∀ a : Accumulator, none = some a → a.incomplete = false := by simp
  cases hg : (e.link.delivery d).isAborted
  swap
  · rw [turnout_givenUp hg]
    exact ⟨hempty, .inr (.inr (Link.advance_queue _))⟩
  have htail (l : Link) (hq : l.queue = e.link.queue) :
      l.drained.advance.queue = e.link.queue.tail := by
    rw [Link.advance_queue, Link.drained, Link.changeCurrent_queue]
    exact congrArg List.tail hq
  rcases hs : e.slot with _ | a
  · by_cases hdue : e.isDue .receiver d
    · rcases hb : e.reports.broken? e.calls.length (e.allocation d) with _ | ⟨call, cause⟩
      swap
      · rw [turnout_refused hg hs hdue hb]
        exact ⟨hempty, .inr (.inl rfl)⟩
      have hopening := hf.opening_unbroken hb
      cases hp : (e.link.delivery d).isPartial
      · rw [turnout_behind hg hs hp hdue hopening]
        exact ⟨hempty, .inr (.inr (htail _ (Link.changeCurrent_queue _ _)))⟩
      · rw [turnout_started hg hs hp hdue hopening]
        refine ⟨fun a ha => ?_, .inl rfl⟩
        cases ha
        rfl
    · have hdue : e.isDue .receiver d = false := by simpa using hdue
      cases hp : (e.link.delivery d).isPartial
      · rw [turnout_small hg hs hp hdue]
        exact ⟨hempty, .inr (.inr (htail _ rfl))⟩
      · rw [turnout_quiet hg hs hp hdue]
        exact ⟨hempty, .inr (.inl rfl)⟩
  · cases hp : (e.link.delivery d).isPartial
    · rw [turnout_sealed hg hp hs]
      exact ⟨hempty, .inr (.inr (htail _ rfl))⟩
    · rw [turnout_received hg hp hs]
      refine ⟨fun a' ha' => ?_, .inl rfl⟩
      have hi : a.incomplete = false := by simpa [spoiled_some hs] using hw
      cases ha'
      rcases Reports.written_or (r := e.reports) (n := e.calls.length + 1) hi e.link.buffer with
        ⟨-, hwritten⟩ | ⟨cause, hbroken, -⟩
      · rw [hwritten]
        exact hi
      · rw [hf.unbroken (Nat.le_succ _) (writes_saving a _)] at hbroken
        cases hbroken

end Endpoint.OnlyRefuses

/-- A receiver in which all is as it should be, and only those calls will fail that get a place for
a large message. -/
structure Endpoint.Refusing (e : Endpoint) : Prop extends Regular e, Orderly e where
  answering : e.Answering
  refuses : e.OnlyRefuses
  whole : ¬ e.Spoiled

namespace Endpoint.Refusing

/-- No gap comes of an event. -/
theorem after {event : Event} (h : e.Refusing) (ha : e.Admits event)
    (ho : (e.after event).lifecycle = .opened) : (e.after event).Refusing := by
  have hcontinued := after_continued (fun _ => h.tidy) ho
  refine ⟨h.toRegular.after event, h.toOrderly.after ha ho, hcontinued.answering h.answering,
    h.refuses.continued hcontinued, ?_⟩
  have hopen := opened_of_after ho
  have heffect := after_effect (fun _ => h.tidy) event
  cases event with
  | begin | transfer | abort => exact h.whole
  | message d =>
    by_cases hd : e.link.current = some d
    · rintro ⟨a, hslot, hi⟩
      have hlands := message_lands h.writable h.answering hopen hd
      have hwhole := (h.refuses.turnout_saves h.whole).whole a (hlands.slot.symm.trans hslot)
      exact Bool.false_ne_true (hwhole.symm.trans hi)
    · rw [Effect, if_neg fun hn => hd hn.2] at heffect
      rw [heffect.spoiled]
      exact h.whole
  | close | closeWithError =>
    have hu := heffect.resolve_right fun hshut => hshut.1 ho
    rw [hu.spoiled]
    exact h.whole
  | setDrain | flow | runPending | settle | submit | setMode =>
    rw [Untouched.spoiled heffect]
    exact h.whole

/-- No event drops bytes. -/
theorem saves (h : e.Refusing) (ho : e.lifecycle = .opened) (event : Event) :
    ¬ e.Drops d event := by
  rintro ⟨rfl, hd, hstays, -, hfailed, hbytes, hgone⟩
  have hlands := message_lands h.writable h.answering ho hd
  rcases (h.refuses.turnout_saves (d := d) h.whole).kept with hsome | hlink | hqueue
  · rw [← hlands.slot, hfailed] at hsome
    cases hsome
  · exact hbytes ((congrArg Link.buffer hlink).symm.trans (hlands.buffer.symm.trans hgone))
  · rw [Link.current, hlands.queue, hqueue] at hstays
    exact current_ne_of_waiting h.sound (.inl (List.mem_of_mem_head? hstays)) hd

theorem afterAll : ∀ (run : List Event) {e : Endpoint}, e.Refusing → e.AdmitsAll run →
    (e.afterAll run).lifecycle = .opened → (e.afterAll run).Refusing ∧ ¬ e.Dropped d run
  | [], _, h, _, _ => ⟨h, id⟩
  | event :: run, e, h, ha, ho => by
    have ho₁ : (e.after event).lifecycle = .opened := opened_of_afterAll run ho
    obtain ⟨hend, hsaved⟩ := (h.after ha.1 ho₁).afterAll run ha.2 ho
    exact ⟨hend, not_or.2 ⟨h.saves (opened_of_after ho₁) event, hsaved⟩⟩

/-- A delivery of which all has come makes a message, if there is a place for it when it needs
one. -/
theorem turnout_complete (h : e.Refusing) (hg : (e.link.delivery d).isAborted = false)
    (hp : (e.link.delivery d).isPartial = false) (hb : e.slot = none →
      e.reports.broken? e.calls.length (e.allocation d) = none) :
    ∃ m, (e.turnout .receiver d).result = .ok (.complete m) := by
  rcases hs : e.slot with _ | a
  · cases hdue : e.isDue .receiver d
    · rw [turnout_small hg hs hp hdue]
      have hcreate := h.refuses (e.calls.length + 2) (.createMessage e.link.buffer) (by omega)
        (by simp [Call.point, savingPoints])
      exact ⟨_, by simp only [Reports.small, hcreate]; rfl⟩
    · rw [turnout_behind hg hs hp hdue (h.refuses.opening_unbroken (hb hs))]
      exact ⟨_, h.refuses.sealed_complete (Nat.le_add_right _ _) rfl _⟩
  · rw [turnout_sealed hg hp hs]
    have hi : a.incomplete = false := by simpa [spoiled_some hs] using h.whole
    exact ⟨_, h.refuses.sealed_complete (Nat.le_refl _) hi _⟩

/-- A message that reassembly makes is passed on. -/
theorem passes (h : e.Refusing) (hpending : 0 ≤ e.pending.receiver) (ho : e.lifecycle = .opened)
    (hd : e.link.current = some d) {m : Message}
    (hm : (e.turnout .receiver d).result = .ok (.complete m)) :
    ∃ passed, (e.after (.message d)).handoffs = e.handoffs ++ passed ∧ e.handoff d m ∈ passed := by
  have hall : e.permitted (e.script d) = e.script d := if_pos hpending
  obtain ⟨rest, hcalls, -⟩ := message_trails h.writable h.answering ho hd
  have hlookups (n : Nat) (hn : e.calls.length ≤ n) : e.reports.broken? n (e.lookups d) = none := by
    refine h.refuses.unbroken hn fun call hcall => ?_
    obtain ⟨txn, -, rfl⟩ := List.mem_map.1 hcall
    simp [Call.point, savingPoints]
  have hdelivers : .deliver (e.handoff d m) ∈ e.script d := by
    rw [Endpoint.script_of_forms hm, Endpoint.passing_of_none (hlookups _ (Nat.le_add_right _ _))]
    simp
  refine ⟨(e.script d ++ rest).filterMap Call.handoff?, ?_, ?_⟩
  · rw [Endpoint.handoffs, hcalls, hall, List.append_assoc, List.filterMap_append]
    rfl
  · exact List.mem_filterMap.2 ⟨_, List.mem_append_left rest hdelivers, rfl⟩

/-- Such a message is passed to routing. -/
theorem hands (h : e.Refusing) (hpending : 0 ≤ e.pending.receiver)
    (hc : e.Completes d (.message d))
    (hb : e.slot = none → e.reports.broken? e.calls.length (e.allocation d) = none) :
    ∃ handoff, Hands e d handoff (e.after (.message d)) := by
  have heffect := after_effect (fun _ => h.tidy) (.message d)
  rw [Effect, if_pos ⟨hc.opened, hc.current⟩] at heffect
  refine heffect.resolve_right fun hsilent => ?_
  obtain ⟨m, hm⟩ := h.turnout_complete hc.given hc.complete hb
  obtain ⟨passed, hhandoffs, hmem⟩ := h.passes hpending hc.opened hc.current hm
  rw [hsilent.setting.handoffs] at hhandoffs
  rw [List.self_eq_append_right.1 hhandoffs] at hmem
  cases hmem

end Endpoint.Refusing

end Refusing

section PassedOn

variable {e : Endpoint}

theorem logged_assembly : AssemblyFrame (fun e e' => e.calls <+: e'.calls) fun _ _ => True where
  refl := fun _ => List.prefix_rfl
  trans := .trans
  blame := fun _ _ => trivial
  noted := fun _ => List.prefix_append ..
  told := fun _ => List.prefix_rfl
  planned := fun _ => trivial
  stored := fun _ _ => List.prefix_rfl
  filed := fun _ => List.prefix_rfl
  deleting := List.prefix_append ..
  taking := List.prefix_append ..
  drained := List.prefix_rfl
  own := fun _ => trivial
  slotted := List.prefix_rfl
  counted := List.prefix_rfl
  advanced := List.prefix_rfl

theorem logged_settling : SettleFrame fun e e' => e.calls <+: e'.calls where
  toTellFrame := logged_assembly.toTellFrame
  granting := fun _ => List.prefix_append ..
  flowed := List.prefix_rfl
  asked := List.prefix_rfl
  flushed := List.prefix_rfl
  counted := fun _ _ => List.prefix_rfl
  settling := fun _ => List.prefix_append ..
  disposed := List.prefix_rfl
  settled := List.prefix_rfl
  posted := List.prefix_rfl
  taken := fun _ => List.prefix_rfl
  tallied := List.prefix_rfl
  routed := List.prefix_rfl
  placed := List.prefix_rfl

/-- No call is ever taken back. -/
theorem afterAll_logged : ∀ (run : List Event) (e : Endpoint), e.calls <+: (e.afterAll run).calls
  | [], _ => List.prefix_rfl
  | event :: run, e => (after_within logged_assembly logged_settling (List.prefix_append ..)
      List.prefix_rfl event e).trans (afterAll_logged run (e.after event))

/-- What was passed to routing was passed on once. -/
theorem handed_once {known : DeliveryId → Prop} (h : InLine known e) {d : DeliveryId}
    (hd : d ∈ e.handed) (run : List Event) : (e.afterAll run).handed.count d = 1 := by
  refine List.count_eq_one_of_mem (List.nodup_append.1 (h.afterAll run).nodup).1 ?_
  obtain ⟨rest, hrest⟩ := afterAll_logged run e
  rw [Endpoint.handed, Endpoint.handoffs, ← hrest, List.filterMap_append, List.map_append]
  exact List.mem_append_left _ hd

end PassedOn

section Claim

variable {e e₀ : Endpoint} {d : DeliveryId}

theorem starts_of_due (h : e.isDue .receiver d) : e.Starts d := by
  simp only [Endpoint.isDue, Bool.and_eq_true, Option.any_eq_true] at h
  obtain ⟨hp, threshold, hthreshold, hle⟩ := h
  exact ⟨hp, threshold, hthreshold, by simpa using hle⟩

/-- What was enough for a large message is so when more has come. -/
theorem Endpoint.Starts.grow {e' : Endpoint} (h : e.Starts d) (hc : Continued e e')
    (hle : (e.link.delivery d).available ≤ (e'.link.delivery d).available) : e'.Starts d := by
  obtain ⟨hp, threshold, hthreshold, hreached⟩ := h
  exact ⟨hc.isPersistent.trans hp, threshold, hc.threshold.trans hthreshold,
    Nat.le_trans hreached hle⟩

theorem afterAll_continued : ∀ (run : List Event) {e : Endpoint}, e.Orderly → e.AdmitsAll run →
    (e.afterAll run).lifecycle = .opened → Continued e (e.afterAll run)
  | [], e, _, _, _ => .refl e
  | _ :: run, _, h, ha, ho => by
    have ho₁ := opened_of_afterAll run ho
    exact (after_continued (fun _ => h.tidy) ho₁).trans
      (afterAll_continued run (h.after ha.1 ho₁) ha.2 ho)

/-- Of a delivery that nothing was dropped of and no gap is known in, all that was sent is at
hand. -/
theorem Traced.atHand {sent : DeliveryId → Bytes} {dropped : DeliveryId → Prop}
    (h : Traced e sent dropped) (hd : e.link.current = some d) (hw : ¬ e.Spoiled)
    (hg : (e.link.delivery d).isAborted = false) (hdropped : ¬ dropped d) : e.atHand = sent d := by
  obtain ⟨gone, hsent, hgone⟩ := ((h.current d hd).resolve_left hw).resolve_left (by simp [hg])
  rw [hsent, hgone.2 hdropped, List.nil_append]

/-- A large message that was due and has no place yet stays due. -/
theorem large_of_due {e' : Endpoint} {more : Bytes} (hdue : e.Starts d) (hc : Continued e e')
    (hs : e.link.Sound) (hs' : e'.link.Sound) (hd : e.link.current = some d)
    (hd' : e'.link.current = some d) (hslot : e.slot = none) (hat : e'.atHand = e.atHand ++ more) :
    e'.slot.isSome ∨ e'.Starts d := by
  rcases hslot' : e'.slot with _ | a
  swap
  · exact .inl rfl
  refine .inr (hdue.grow hc ?_)
  rw [atHand_none hslot, atHand_none hslot'] at hat
  rw [hs.measured d hd, hs'.measured d hd', hat, List.length_append]
  exact Nat.le_add_right _ _

/-- A large message for which storage has no place yet waits in the link: the event that wanted one
for it reports the call that failed, and nothing else has changed. However often that happens and
whatever is sent in between, nothing is lost: if no bytes were dropped before and nothing but those
calls fails, the message is passed on once all of it has come and it has a place. It is passed on
once, as a large message of all that was sent from the first transfer on. -/
theorem refusals_lose_nothing (h : e₀.Fresh) (hc : e₀.storage.Clean) (ha : e₀.Answering)
    (hp : e₀.plan.Spares settlementPoints) (hk : e₀.plan.KeepsWord) (before : List Event)
    (hb : e₀.AdmitsAll before) :
    let e := e₀.afterAll before
    e.lifecycle = .opened → e.link.current = some d → (e.link.delivery d).isAborted = false →
      e.slot = none → e.isDue .receiver d →
      (∀ call cause,
        e.reports.broken? e.calls.length (e.allocation d) = some (call, cause) →
        let error := call.error (e.blank d).id cause
        e.Replies d
          { calls := e.reports.made e.calls.length (e.allocation d), link := e.link, slot := none
            result := .error error } (.error (.internal error.failure)) ∧
          (e.after (.message d)).settles d = 0) ∧
      (e.OnlyRefuses → ¬ e₀.Dropped d before → ∀ during, e.AdmitsAll during →
        let e' := e.afterAll during
        e'.Completes d (.message d) →
        (e'.slot = none → e'.reports.broken? e'.calls.length (e'.allocation d) = none) →
        (∃ arrival, e'.arrivals (.message d) = [arrival] ∧ arrival.delivery = d ∧
          arrival.isLarge ∧ arrival.content = e₀.sent d before ++ e.sent d during ∧
          arrival.size = arrival.content.length) ∧
        ∀ later, ((e'.after (.message d)).afterAll later).handed.count d = 1) := by
  intro e ho hd hg hslot hdue
  have hspares : e₀.plan.Spares [.linkAdvance] := fun n point hpoint k => by
    rw [List.mem_singleton.1 hpoint]
    exact ha.plan n .linkAdvance (by simp [Endpoint.messagePoints, Endpoint.movingPoints]) k
      (by simp [h.calls])
  have hregular : e.Regular := (h.regular hc hspares).afterAll before
  have hfresh := h.orderly hc ha.mild
  have horderly : e.Orderly := hfresh.afterAll before hb ho
  have hcontinued : Continued e₀ e := afterAll_continued before hfresh hb ho
  have hanswering : e.Answering := hcontinued.answering ha
  have hbooks : Books e _ [] := (h.books hp hk).afterAll before
  refine ⟨fun call cause hbroken => ?_, ?_⟩
  · have hreplies := refused_replies hregular.writable hanswering ho hd hg hslot hdue hbroken
    have hsettles : (e.after (.message d)).settles d = e.settles d :=
      congrArg (fun l : Link => (l.delivery d).settles) hreplies.made.link
    refine ⟨hreplies, hsettles.trans ?_⟩
    exact hbooks.unsettled d (by simp [List.mem_of_mem_head? hd])
  intro hf hkept during hduring e' hcompletes hplace
  have hrefusing : e.Refusing := ⟨hregular, horderly, hanswering, hf, not_spoiled hslot⟩
  obtain ⟨hend, hsaved⟩ := hrefusing.afterAll during hduring hcompletes.opened
  -- what was sent up to the refused event, and what was sent behind it
  have htraced := (Traced.fresh h).afterAll before hfresh hb ho
  have hat : e.atHand = e₀.sent d before :=
    htraced.atHand hd (not_spoiled hslot) hg (not_or.2 ⟨id, hkept⟩)
  have hat' : e'.atHand = e₀.sent d before ++ e.sent d during :=
    (htraced.afterAll during horderly hduring hcompletes.opened).atHand hcompletes.current
      hend.whole hcompletes.given (not_or.2 ⟨not_or.2 ⟨id, hkept⟩, hsaved⟩)
  obtain ⟨handoff, hhands⟩ :=
    hend.hands (hbooks.afterAll during).pending_nonneg hcompletes hplace
  refine ⟨⟨(e'.after (.message d)).arrival handoff, arrivals_hands hhands, hhands.delivery, ?_, ?_,
    ?_⟩, ?_⟩
  · refine hhands.large.2 (large_of_due (starts_of_due hdue) ?_ horderly.sound hend.sound hd
      hcompletes.current hslot (by rw [hat', hat]))
    exact afterAll_continued during horderly hduring hcompletes.opened
  · exact hhands.whole.content.trans hat'
  · exact hhands.whole.size.trans (congrArg List.length hhands.whole.content).symm
  · refine handed_once (hend.line.after (.message d))
      (List.mem_map.2 ⟨handoff, ?_, hhands.delivery⟩)
    rw [hhands.setting.handoffs]
    simp [Endpoint.handoffs, Endpoint.noting, Call.handoff?]

/-- There is no id for a large message, and then no spool. When its last bytes have come storage
gives both. -/
theorem refusals_lose_nothing_twice :
    let plan : Plan := fun n point =>
      if n = 0 ∧ point = .generateId ∨ n = 2 ∧ point = .openSpool then
        some (.fails { text := "try again" })
      else none
    let e₀ : Endpoint :=
      { Endpoint.start { minLargeMessageSize := 4 } "orders" 10 ⟨1⟩ .memory none with plan }
    let before : List Event := [.begin 0 none, .transfer [1, 2, 3, 4] true]
    let during : List Event := [.message ⟨1⟩, .transfer [5] false, .message ⟨1⟩]
    let e := e₀.afterAll before
    let e' := e.afterAll during
    (e₀.Fresh ∧ e₀.storage.Clean ∧ e₀.Answering ∧ e₀.plan.Spares settlementPoints ∧
        e₀.plan.KeepsWord) ∧
      (e.isDue .receiver ⟨1⟩ ∧ e.OnlyRefuses ∧ ¬ e₀.Dropped ⟨1⟩ before ∧
        e'.Completes ⟨1⟩ (.message ⟨1⟩)) ∧
      (∃ t reply, t.link = e.link ∧ t.result = .error (.generateId { text := "try again" }) ∧
        e.Replies ⟨1⟩ t reply) ∧
      e'.calls = [.generateId, .generateId, .openSpool ⟨100⟩] ∧
      (∃ arrival, e'.arrivals (.message ⟨1⟩) = [arrival] ∧ arrival.isLarge ∧
        arrival.content = [1, 2, 3, 4, 5]) ∧
      (e'.after (.message ⟨1⟩)).handed.count ⟨1⟩ = 1 := by
  intro plan e₀ before during e e'
  have hfresh : e₀.Fresh := ⟨rfl, rfl, rfl, rfl, rfl, rfl, rfl, rfl, rfl, rfl, rfl⟩
  have hpanics (n : Nat) (point : Point) (k : Panic) : plan n point ≠ some (.panics k) := by
    simp only [plan]
    split <;> simp
  have hanswering : e₀.Answering := ⟨fun n point _ k _ => hpanics n point k, rfl⟩
  have hspares : e₀.plan.Spares settlementPoints := fun n point _ k => hpanics n point k
  have hword : e₀.plan.KeepsWord := fun n => by simp [e₀, plan]
  have hdue : e.isDue .receiver ⟨1⟩ := by decide +kernel
  have hrefuses : e.OnlyRefuses := by
    intro n call _ hpoint
    have hplan : e.plan n call.point = none := by
      refine if_neg fun hn => ?_
      rcases hn with ⟨-, hn⟩ | ⟨-, hn⟩ <;> simp [hn, savingPoints] at hpoint
    have hown : e.ownFailure? call = none := by
      cases call with
      | generateId | openSpool => simp [Call.point, savingPoints] at hpoint
      | _ => rfl
    simp [Endpoint.reports, hplan, hown]
  have hkept : ¬ e₀.Dropped ⟨1⟩ before := by
    rintro (hn | hn | hn)
    · cases hn.told
    · cases hn.told
    · exact hn
  have hcompletes : e'.Completes ⟨1⟩ (.message ⟨1⟩) := by
    refine ⟨rfl, ?_, ?_, ?_, ?_⟩ <;> decide +kernel
  obtain ⟨hrefused, hpassed⟩ := refusals_lose_nothing hfresh (.empty rfl rfl) hanswering
    hspares hword before (by decide +kernel) (by decide +kernel) (by decide +kernel)
    (by decide +kernel) (by decide +kernel) hdue
  obtain ⟨⟨arrival, harrivals, -, hlarge, hcontent, -⟩, hcount⟩ := hpassed hrefuses hkept during
    (by decide +kernel) hcompletes (by decide +kernel)
  have hsent : e₀.sent ⟨1⟩ before ++ e.sent ⟨1⟩ during = [1, 2, 3, 4, 5] := by decide +kernel
  refine ⟨⟨hfresh, .empty rfl rfl, hanswering, hspares, hword⟩,
    ⟨hdue, hrefuses, hkept, hcompletes⟩, ?_, by decide +kernel,
    ⟨arrival, harrivals, hlarge, hcontent.trans hsent⟩, hcount []⟩
  obtain ⟨hreplies, -⟩ := hrefused .generateId { text := "try again" } (by decide +kernel)
  exact ⟨_, _, rfl, rfl, hreplies⟩

end Claim

end ReceivingLink
