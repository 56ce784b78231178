import ReceivingLink.Proofs.AtHand

/-!
# What becomes of the bytes at hand

An event for the current delivery keeps the bytes at hand, notes a gap, loses them in a start that
failed, or moves the link past the delivery: `Turn`. Where it answers with a message, the message
has all bytes at hand: `accept_ends`.
-/

namespace ReceivingLink

namespace Endpoint

/-- The large message that is coming in belongs to the current delivery and is being written. -/
structure Tidy (e : Endpoint) : Prop where
  clean : e.storage.Clean
  writes : ∀ a, e.slot = some a → a.Writes e.storage
  format : ∀ a d, e.slot = some a → e.link.current = some d →
    a.format = (e.link.delivery d).format
  headed : e.link.queue = [] → e.slot = none

/-- What has come for a delivery makes a large message start. -/
def Starts (e : Endpoint) (d : DeliveryId) : Prop := e.isPersistent ∧ e.Reaches d

end Endpoint

/-- All bytes of the current delivery are still at hand. -/
structure Kept (e : Endpoint) (d : DeliveryId) (e' : Endpoint) : Prop where
  queue : e'.link.queue = e.link.queue
  intact : ¬ e.Spoiled
  whole : ¬ e'.Spoiled
  atHand : e'.atHand = e.atHand
  grown : e'.slot.isSome → e.slot.isSome ∨ e.Starts d

/-- The link is past the delivery that was current, and nothing of it is left. -/
structure Moved (e e' : Endpoint) : Prop where
  queue : e'.link.queue = e.link.queue.tail
  slot : e'.slot = none
  buffer : e'.link.buffer = []

/-- A message of all bytes at hand. -/
structure Whole (e : Endpoint) (d : DeliveryId) (m : Message) (e' : Endpoint) : Prop where
  whole : ¬ e.Spoiled
  content : e'.content m = e.atHand
  size : m.size = e.atHand.length
  format : m.format = (e.link.delivery d).format

/-- What becomes of the bytes at hand in an event for the current delivery. -/
inductive Turn (e : Endpoint) (d : DeliveryId) (e' : Endpoint) : Prop where
  | kept (h : Kept e d e')
  /-- A gap is noted. -/
  | spoiled (queue : e'.link.queue = e.link.queue) (gap : e'.Spoiled)
  /-- A large message was not started, and the bytes for it are gone. -/
  | lost (queue : e'.link.queue = e.link.queue) (starts : e.Starts d) (before : e.slot = none)
    (after : e'.slot = none) (buffer : e'.link.buffer = [])
  | moved (h : Moved e e')

theorem Turn.queue {e : Endpoint} {d : DeliveryId} {e' : Endpoint} (h : Turn e d e') :
    e'.link.queue = e.link.queue ∨ Moved e e' := by
  cases h with
  | kept h => exact .inl h.queue
  | spoiled queue gap => exact .inl queue
  | lost queue starts before after buffer => exact .inl queue
  | moved h => exact .inr h

section Turns

variable {e e' : Endpoint} {a : Accumulator} {d : DeliveryId}

@[simp] theorem withSlot_slot (e : Endpoint) (slot : Option Accumulator) :
    (e.withSlot slot).slot = slot := rfl

@[simp] theorem withSlot_link (e : Endpoint) (slot : Option Accumulator) :
    (e.withSlot slot).link = e.link := rfl

@[simp] theorem withSlot_storage (e : Endpoint) (slot : Option Accumulator) :
    (e.withSlot slot).storage = e.storage := rfl

theorem ends_setCurrent {slot : Option Accumulator} {P : Unit → Endpoint → Prop}
    {K : Panic → Endpoint → Prop} :
    (Reassembler.setCurrent .receiver slot).Ends e P K ↔ P () (e.withSlot slot) := Iff.rfl

theorem slot_of_reassembler (h : e'.reassembler = e.reassembler) : e'.slot = e.slot := by
  unfold Endpoint.slot
  rw [h]

theorem drained_format (l : Link) (d : DeliveryId) :
    (l.drained.delivery d).format = (l.delivery d).format :=
  Link.delivery_changeCurrent _ (fun _ => by rfl) (fun _ => by rfl) d

theorem drained_current (l : Link) : l.drained.current = l.current := by
  simp [Link.current, Link.drained]

theorem atHand_some (h : e.slot = some a) : e.atHand = e.spooled a ++ e.link.buffer := by
  simp [Endpoint.atHand, h]

theorem atHand_none (h : e.slot = none) : e.atHand = e.link.buffer := by
  simp [Endpoint.atHand, h]

theorem spoiled_some (h : e.slot = some a) : e.Spoiled ↔ a.incomplete := by
  simp [Endpoint.Spoiled, h]

theorem not_spoiled (h : e.slot = none) : ¬ e.Spoiled := by
  simp [Endpoint.Spoiled, h]

/-- Without a large message there is little to keep in order. -/
theorem tidy_none (hc : e.storage.Clean) (h : e.slot = none) : e.Tidy :=
  ⟨hc, fun _ ha => (nomatch h.symm.trans ha), fun _ _ ha => (nomatch h.symm.trans ha), fun _ => h⟩

theorem tidy_some (hc : e.storage.Clean) (h : e.slot = some a) (hd : e.link.current = some d)
    (hw : a.Writes e.storage) (hf : a.format = (e.link.delivery d).format) : e.Tidy := by
  refine ⟨hc, fun a' ha' => ?_, fun a' d' ha' hd' => ?_, fun hq => ?_⟩
  · cases h.symm.trans ha'
    exact hw
  · cases h.symm.trans ha'
    cases hd.symm.trans hd'
    exact hf
  · rw [Link.current, hq] at hd
    cases hd

/-- A large message is started if enough has come, with all of it. -/
theorem startIfLarge_ends (hc : e.storage.Clean) (hp : e.isPersistent) (hslot : e.slot = none)
    (hd : e.link.current = some d) :
    (Reassembler.startIfLarge .receiver d).Ends e
      (fun _ e' => ¬ e.Reaches d ∧ e' = e ∨
        e.Reaches d ∧ ∃ a, e'.slot = some a ∧ Started e d a e' ∧ e'.Tidy)
      (fun error e' => e'.slot = none ∧ e'.storage.Clean ∧ ¬ e.Reliable ∧ e.Reaches d ∧
        (¬ error.IsLate ∧ e'.link = e.link ∨ error.IsLate ∧ e'.link = e.link.drained))
      fun _ _ => ¬ e.Mild := by
  refine Attempt.ends_bind.2 (Attempt.ends_get.2 ?_)
  split
  · rename_i hnone
    exact .inl ⟨fun ⟨t, ht, _⟩ => (nomatch hnone.symm.trans ht), rfl⟩
  rename_i threshold hsome
  refine Attempt.ends_ite.2 ⟨fun hle => ?_, fun hlt => .inl ⟨fun ⟨t, ht, hle⟩ => hlt ?_, rfl⟩⟩
  · refine Attempt.ends_bind.2 ((start_ends hc hp d).imp (fun a e₁ h₁ => ?_) (fun _ e₁ h₁ => ?_)
      fun _ _ => id)
    · obtain ⟨-, h₁⟩ := h₁
      refine .inr ⟨⟨threshold, hsome, hle⟩, a, rfl,
        ⟨h₁.link, h₁.clean, h₁.writes, h₁.whole, h₁.format, h₁.spooled⟩, ?_⟩
      refine tidy_some h₁.clean rfl (d := d) ?_ h₁.writes ?_
      · exact (congrArg Link.current h₁.link).trans ((drained_current _).trans hd)
      · refine h₁.format.trans ?_
        rw [← drained_format, ← h₁.link]
    · obtain ⟨hre, hc₁, hfault, hlink⟩ := h₁
      exact ⟨(slot_of_reassembler hre).trans hslot, hc₁, hfault, ⟨threshold, hsome, hle⟩, hlink⟩
  · cases hsome.symm.trans ht
    exact hle

/-- What was written of the bytes that waited. -/
structure Received (e : Endpoint) (a : Accumulator) (r : Accumulator × Except ReassemblyError Unit)
    (e' : Endpoint) : Prop where
  link : e'.link = e.link.drained
  reassembler : e'.reassembler = e.reassembler
  clean : e'.storage.Clean
  writes : r.1.Writes e'.storage
  format : r.1.format = a.format
  spooled : r.1.incomplete = false → e'.spooled r.1 = e.spooled a ++ e.link.buffer
  ok : r.2 = .ok () → r.1.incomplete = a.incomplete
  error : ∀ error, r.2 = .error error → r.1.incomplete ∧ ¬ e.Reliable

theorem receive_ends (hc : e.storage.Clean) (ha : a.Writes e.storage) :
    a.receive.Ends e (fun r e' => Received e a r e') fun _ _ => ¬ e.Mild := by
  refine Act.ends_bind.2 (((recv_ends e).and (sameSetting_frame.recv_within e)).imp ?_
    fun _ _ => And.left)
  rintro bytes e₁ ⟨⟨rfl, he₁⟩, hs₁⟩
  have hst : e₁.storage = e.storage := by rw [he₁]; rfl
  refine (append_ends (by rw [hst]; exact hc) (by rw [hst]; exact ha) _).imp (fun r e₂ h₂ => ?_)
    fun _ _ h₂ hm => h₂ (hs₁.mild hm)
  obtain ⟨hw, hr⟩ := h₂
  refine ⟨?_, ?_, hw.clean, hw.writes, hw.format, fun hi => ?_, fun hok => ?_, fun error herr => ?_⟩
  · rw [hw.front.link, he₁]
  · rw [hw.front.reassembler, he₁]
    rfl
  · rw [hw.spooled hi, Endpoint.spooled, hst]
    rfl
  · rw [hok] at hr
    exact hr
  · rw [herr] at hr
    exact ⟨hr.2.1, fun hm => hr.2.2 (hs₁.reliable hm)⟩

theorem tidy_received {r : Accumulator × Except ReassemblyError Unit} {e₁ : Endpoint}
    (ht : e.Tidy) (hslot : e.slot = some a) (hd : e.link.current = some d) (h : Received e a r e₁)
    (hl : e'.link = e₁.link) (hst : e'.storage = e₁.storage) (hslot' : e'.slot = some r.1) :
    e'.Tidy := by
  refine tidy_some (by rw [hst]; exact h.clean) hslot' (d := d) ?_ (by rw [hst]; exact h.writes) ?_
  · rw [hl, h.link, drained_current, hd]
  · rw [h.format, ht.format a d hslot hd, hl, h.link, drained_format]

/-- A start that failed has left the bytes where they were, or they are lost. -/
theorem turn_unstarted {late : Prop} (hstarts : e.Starts d) (hslot : e.slot = none)
    (hslot' : e'.slot = none)
    (hlink : ¬ late ∧ e'.link = e.link ∨ late ∧ e'.link = e.link.drained) : Turn e d e' := by
  rcases hlink with ⟨-, hl⟩ | ⟨-, hl⟩
  · refine .kept ⟨by rw [hl], not_spoiled hslot, not_spoiled hslot', ?_, fun h => ?_⟩
    · rw [atHand_none hslot', atHand_none hslot, hl]
    · rw [hslot'] at h
      cases h
  · refine .lost ?_ hstarts hslot hslot' ?_
    · rw [hl]
      simp [Link.drained]
    · rw [hl]
      simp [Link.drained]

/-- A large message that was just started has all bytes that waited. -/
theorem kept_started (hslot : e.slot = none) (hstarts : e.Starts d) (ha : e'.slot = some a)
    (h : Started e d a e') : Kept e d e' := by
  refine ⟨?_, not_spoiled hslot, ?_, ?_, fun _ => .inr hstarts⟩
  · rw [h.link]
    simp [Link.drained]
  · rw [spoiled_some ha, h.whole]
    exact Bool.false_ne_true
  · rw [atHand_some ha, atHand_none hslot, h.spooled, h.link]
    simp [Link.drained]

/-- A write without a gap moves the bytes that waited behind those in the spool. -/
theorem kept_received {written : Accumulator} (hslot : e.slot = some a)
    (h : Received e a (written, .ok ()) e') (hw : ¬ e.Spoiled) :
    Kept e d (e'.withSlot (some written)) := by
  have hslot' : (e'.withSlot (some written)).slot = some written := rfl
  have hwhole : a.incomplete = false := by
    rw [spoiled_some hslot, Bool.not_eq_true] at hw
    exact hw
  have hi : written.incomplete = false := (h.ok rfl).trans hwhole
  refine ⟨?_, hw, ?_, ?_, fun _ => .inl ?_⟩
  · rw [withSlot_link, h.link]
    simp [Link.drained]
  · rw [spoiled_some hslot', hi]
    exact Bool.false_ne_true
  · have hspooled : (e'.withSlot (some written)).spooled written = _ := h.spooled hi
    rw [atHand_some hslot', atHand_some hslot, hspooled, withSlot_link, h.link]
    simp [Link.drained]
  · rw [hslot]
    rfl

/-- After a partial event all bytes are at hand unless some call failed or bytes were missing. -/
theorem acceptPartial_ends (ht : e.Tidy) (hd : e.link.current = some d) :
    (Reassembler.acceptPartial .receiver d).Ends e
      (fun _ e' => e'.Tidy ∧ Turn e d e' ∧ (¬ e.Spoiled → Kept e d e'))
      (fun _ e' => e'.Tidy ∧ Turn e d e' ∧ ¬ e.Reliable) fun _ _ => ¬ e.Mild := by
  have hstay : Turn e d e ∧ (¬ e.Spoiled → Kept e d e) := by
    have hkept (h : ¬ e.Spoiled) : Kept e d e := ⟨rfl, h, h, rfl, .inl⟩
    by_cases h : e.Spoiled
    · exact ⟨.spoiled rfl h, hkept⟩
    · exact ⟨.kept (hkept h), hkept⟩
  refine Attempt.ends_bind.2 (Attempt.ends_get.2 (Attempt.ends_ite.2 ⟨fun hp => ?_, fun _ =>
    ⟨ht, hstay⟩⟩))
  refine Attempt.ends_bind.2 (Attempt.ends_lift.2 (ends_current.2 ?_))
  rcases hslot : (e.reassembler.get .receiver).slot with _ | a
  · refine (startIfLarge_ends ht.clean hp hslot hd).imp (fun _ e₁ h₁ => ?_) (fun _ e₁ h₁ => ?_)
      fun _ _ => id
    · rcases h₁ with ⟨-, rfl⟩ | ⟨hreach, a, ha, hs, ht₁⟩
      · exact ⟨ht, hstay⟩
      · have hkept : Kept e d e₁ := kept_started hslot ⟨hp, hreach⟩ ha hs
        exact ⟨ht₁, .kept hkept, fun _ => hkept⟩
    · obtain ⟨hslot₁, hc₁, hfault, hreach, hlink⟩ := h₁
      exact ⟨tidy_none hc₁ hslot₁, turn_unstarted ⟨hp, hreach⟩ hslot hslot₁ hlink, hfault⟩
  · refine Attempt.ends_bind.2 (Attempt.ends_lift.2 ((receive_ends ht.clean
      (ht.writes a hslot)).imp (fun r e₁ h₁ => ?_) fun _ _ => id))
    obtain ⟨written, r⟩ := r
    refine Attempt.ends_bind.2 (Attempt.ends_lift.2 (ends_setCurrent.2
      (Attempt.ends_liftExcept.2 ?_)))
    have hslot₂ : (e₁.withSlot (some written)).slot = some written := rfl
    have ht₂ : (e₁.withSlot (some written)).Tidy := tidy_received ht hslot hd h₁ rfl rfl rfl
    have hq : (e₁.withSlot (some written)).link.queue = e.link.queue := by
      rw [withSlot_link, h₁.link]
      simp [Link.drained]
    rcases r with error | _
    · obtain ⟨hi, hfault⟩ := h₁.error error rfl
      exact ⟨ht₂, .spoiled hq ((spoiled_some hslot₂).2 hi), hfault⟩
    · have hkept := kept_received (d := d) hslot h₁
      by_cases h : e.Spoiled
      · have hi : written.incomplete := (h₁.ok rfl).trans ((spoiled_some hslot).1 h)
        exact ⟨ht₂, .spoiled hq ((spoiled_some hslot₂).2 hi), hkept⟩
      · exact ⟨ht₂, .kept (hkept h), hkept⟩

/-- What is released is past: the message stands for the accumulator that was sealed. -/
theorem release_ends (hc : e.storage.Clean) (a : Accumulator)
    (sealed : Except ReassemblyError Unit) :
    (Reassembler.release .receiver a sealed).Ends e
      (fun large e' => sealed = .ok () ∧ large = a.message ∧ Moved e e' ∧ e'.storage = e.storage)
      (fun error e' => sealed = .error error ∧ Moved e e' ∧ e'.storage.Clean)
      fun _ _ => ¬ e.Mild := by
  have S := sameSetting_frame
  refine Attempt.ends_bind.2 (Attempt.ends_lift.2 (((moveOn_ends e).and
    (S.moveOn_within e)).imp (fun _ e₁ h₁ => ?_) fun _ _ => And.left))
  obtain ⟨he₁, hs₁⟩ := h₁
  have hlink : e₁.link = e.link.advance := by rw [he₁]
  have hst : e₁.storage = e.storage := by rw [he₁]; rfl
  have hs₂ : SameSetting e (e₁.withSlot none) := hs₁.trans S.slotted
  refine Attempt.ends_bind.2 (Attempt.ends_lift.2 (ends_setCurrent.2 ?_))
  rcases sealed with error | _
  · refine Attempt.ends_bind.2 (Attempt.ends_lift.2 (.imp (drop_ends (e := e₁.withSlot none)
      (by rw [withSlot_storage, hst]; exact hc) a) (fun _ e₂ h₂ => ?_) fun _ _ h₂ hm =>
      h₂ (hs₂.mild hm)))
    have hlink₂ : e₂.link = e.link.advance := h₂.1.link.trans hlink
    exact ⟨rfl, ⟨by simp [hlink₂], slot_of_reassembler h₂.1.reassembler, by simp [hlink₂]⟩, h₂.2⟩
  · exact ⟨rfl, rfl, ⟨by simp [hlink], rfl, by simp [hlink]⟩, hst⟩

theorem release_moves {e₁ : Endpoint} (hq : e₁.link.queue = e.link.queue) (h : Moved e₁ e') :
    Moved e e' := ⟨by rw [h.queue, hq], h.slot, h.buffer⟩

/-- A large message is sealed with all bytes at hand, or the link moves past it without one. -/
theorem sealLarge_ends (ht : e.Tidy) (hslot : e.slot = some a) (hd : e.link.current = some d) :
    (Reassembler.sealLarge .receiver a).Ends e
      (fun large e' => Whole e d (.large large) e' ∧ Moved e e' ∧ e'.storage.Clean)
      (fun _ e' => (Moved e e' ∧ e'.storage.Clean) ∧ (e.Spoiled ∨ ¬ e.Reliable))
      fun _ _ => ¬ e.Mild := by
  have S := sameSetting_frame
  refine Attempt.ends_bind.2 (Attempt.ends_lift.2 (((receive_ends ht.clean
    (ht.writes a hslot)).and (S.receive_within a e)).imp (fun r e₁ h₁ => ?_) fun _ _ => And.left))
  obtain ⟨written, r⟩ := r
  obtain ⟨h₁, hs₁⟩ := h₁
  have hs₂ : SameSetting e (e₁.withSlot (some written)) := hs₁.trans S.slotted
  have hc₂ : (e₁.withSlot (some written)).storage.Clean := h₁.clean
  have hq₂ : (e₁.withSlot (some written)).link.queue = e.link.queue := by
    rw [withSlot_link, h₁.link]
    simp [Link.drained]
  refine Attempt.ends_bind.2 (Attempt.ends_lift.2 (ends_setCurrent.2 ?_))
  rcases r with error | _
  · refine (release_ends hc₂ written _).imp (fun _ _ h₃ => absurd h₃.1 (by simp))
      (fun _ e₃ h₃ => ?_) fun _ _ h₃ hm => h₃ (hs₂.mild hm)
    exact ⟨⟨release_moves hq₂ h₃.2.1, h₃.2.2⟩, .inr (h₁.error error rfl).2⟩
  · have hi : written.incomplete = a.incomplete := h₁.ok rfl
    refine Attempt.ends_bind.2 (Attempt.ends_lift.2 (Act.ends_run.2 (((finish_ends hc₂ written).and
      (S.finish_within written _)).imp (fun _ e₃ h₃ => ?_) (fun error e₃ h₃ => ?_)
      fun _ _ h₃ hm => h₃.1 (hs₂.mild hm))))
    · obtain ⟨⟨hwhole, hf₃, hc₃, hb₃⟩, hs₃⟩ := h₃
      refine (release_ends hc₃ written _).imp (fun large e₄ h₄ => ?_)
        (fun _ _ h₄ => absurd h₄.1 (by simp)) fun _ _ h₄ hm => h₄ ((hs₂.trans hs₃).mild hm)
      obtain ⟨-, rfl, hmoved, hst₄⟩ := h₄
      have hatHand : e.atHand = e₄.spooled written := by
        rw [atHand_some hslot, Endpoint.spooled, Endpoint.spooled, hst₄]
        exact (h₁.spooled hwhole).symm.trans hb₃.symm
      have hw : written.size = (e₁.spooled written).length := h₁.writes.size hwhole
      refine ⟨⟨?_, hatHand.symm, ?_, ?_⟩, release_moves (by rw [hf₃.link, hq₂]) hmoved,
        by rw [hst₄]; exact hc₃⟩
      · rw [spoiled_some hslot, ← hi, hwhole]
        exact Bool.false_ne_true
      · rw [hatHand, Endpoint.spooled, hst₄]
        exact hw.trans (congrArg List.length hb₃.symm)
      · exact h₁.format.trans (ht.format a d hslot hd)
    · obtain ⟨⟨hblame, hf₃, hc₃⟩, hs₃⟩ := h₃
      refine (release_ends hc₃ written _).imp (fun _ _ h₄ => absurd h₄.1 (by simp))
        (fun _ e₄ h₄ => ?_) fun _ _ h₄ hm => h₄ ((hs₂.trans hs₃).mild hm)
      refine ⟨⟨release_moves (by rw [hf₃.link, hq₂]) h₄.2.1, h₄.2.2⟩, hblame.imp (fun hw => ?_)
        fun hfault hm => hfault (hs₂.reliable hm)⟩
      rw [spoiled_some hslot, ← hi]
      exact hw

theorem create_ends (e : Endpoint) (d : DeliveryId) (payload : Bytes) :
    (Message.create d payload).Ends e
      (fun m e' => m = ⟨(e.link.delivery d).format, payload⟩ ∧ SameFront e e' ∧
        e'.storage = e.storage)
      (fun _ e' => (SameFront e e' ∧ e'.storage = e.storage) ∧ ¬ e.Reliable)
      fun _ e' => (SameFront e e' ∧ e'.storage = e.storage) ∧ ¬ e.Reliable := by
  have hp : Point.createMessage ∈ Endpoint.messagePoints := by simp [Endpoint.messagePoints]
  refine Attempt.ends_bind.2 ((attempt_ends e (.createMessage payload) hp).imp ?_ ?_ ?_)
  · rintro _ _ rfl
    exact ⟨rfl, ⟨rfl, rfl⟩, rfl⟩
  · rintro _ _ ⟨rfl, hfault⟩
    exact ⟨⟨⟨rfl, rfl⟩, rfl⟩, hfault⟩
  · rintro _ _ ⟨rfl, hfault, -⟩
    exact ⟨⟨⟨rfl, rfl⟩, rfl⟩, hfault⟩

/-- The message has all bytes at hand, and is a large one if one is coming in. -/
theorem complete_ends (ht : e.Tidy) (hd : e.link.current = some d) :
    (Reassembler.complete .receiver d).Ends e
      (fun m e' => (Whole e d m e' ∧ (m.isLarge ↔ e.slot.isSome)) ∧ Moved e e' ∧ e'.storage.Clean)
      (fun _ e' => (Moved e e' ∧ e'.storage.Clean) ∧ (e.Spoiled ∨ ¬ e.Reliable))
      fun _ e' => ¬ e.Mild ∨ (Moved e e' ∧ e'.storage.Clean) ∧ ¬ e.Reliable := by
  have S := sameSetting_frame
  refine Attempt.ends_bind.2 (Attempt.ends_lift.2 (ends_current.2 ?_))
  rcases hslot : (e.reassembler.get .receiver).slot with _ | a
  · have hslot : e.slot = none := hslot
    refine Attempt.ends_bind.2 (Attempt.ends_lift.2 (((recv_ends e).and (S.recv_within e)).imp
      (fun payload e₁ h₁ => ?_) fun _ _ h₁ => .inl h₁.1))
    obtain ⟨⟨rfl, he₁⟩, hs₁⟩ := h₁
    refine Attempt.ends_bind.2 (Attempt.ends_lift.2 (((moveOn_ends e₁).and (S.moveOn_within e₁)).imp
      (fun _ e₂ h₂ => ?_) fun _ _ h₂ => .inl fun hm => h₂.1 (hs₁.mild hm)))
    obtain ⟨he₂, hs₂⟩ := h₂
    have hlink : e₂.link = e.link.drained.advance := by rw [he₂, he₁]
    have hst : e₂.storage = e.storage := by rw [he₂, he₁]; rfl
    have hslot₂ : e₂.slot = none := by rw [he₂, he₁]; exact hslot
    have hmoved {e₃ : Endpoint} (h : SameFront e₂ e₃ ∧ e₃.storage = e₂.storage) :
        Moved e e₃ ∧ e₃.storage.Clean := by
      refine ⟨⟨?_, (slot_of_reassembler h.1.reassembler).trans hslot₂, ?_⟩, ?_⟩
      · simp [h.1.link, hlink, Link.drained]
      · simp [h.1.link, hlink]
      · rw [h.2, hst]
        exact ht.clean
    have hfault {P : Prop} (h : ¬ e₂.Reliable) : P ∨ ¬ e.Reliable :=
      .inr fun hm => h ((hs₁.trans hs₂).reliable hm)
    refine Attempt.ends_bind.2 (Attempt.ends_adapt.2 ((create_ends e₂ d e.link.buffer).imp
      (fun m e₃ h₃ => ?_) (fun _ e₃ h₃ => ⟨hmoved h₃.1, hfault h₃.2⟩) fun _ e₃ h₃ => ?_))
    · obtain ⟨rfl, h₃⟩ := h₃
      refine ⟨⟨⟨not_spoiled hslot, (atHand_none hslot).symm, ?_, ?_⟩, ?_⟩, hmoved h₃⟩
      · rw [atHand_none hslot]
        rfl
      · show (e₂.link.delivery d).format = _
        rw [hlink, Link.advance_delivery, drained_format]
      · simp [Message.isLarge, hslot]
    · exact .inr ⟨hmoved h₃.1, fun hm => h₃.2 ((hs₁.trans hs₂).reliable hm)⟩
  · have hslot : e.slot = some a := hslot
    refine Attempt.ends_bind.2 ((sealLarge_ends ht hslot hd).imp (fun large e₁ h₁ => ?_)
      (fun _ _ => id) fun _ _ => .inl)
    refine Attempt.ends_bind.2 (Attempt.ends_lift.2 ⟨⟨⟨h₁.1.whole, h₁.1.content, h₁.1.size,
      h₁.1.format⟩, ?_⟩, ⟨h₁.2.1.queue, h₁.2.1.slot, h₁.2.1.buffer⟩, h₁.2.2⟩)
    simp [Message.isLarge, hslot]

theorem tidy_moved (h : Moved e e' ∧ e'.storage.Clean) : e'.Tidy ∧ Turn e d e' :=
  ⟨tidy_none h.2 h.1.slot, .moved h.1⟩

/-- The message of a complete delivery has all bytes at hand. It is a large one if one was coming
in or enough has come for one. -/
theorem acceptComplete_ends (ht : e.Tidy) (hd : e.link.current = some d) :
    (Reassembler.acceptComplete .receiver d).Ends e
      (fun m e' => (Whole e d m e' ∧ (m.isLarge ↔ e.slot.isSome ∨ e.Starts d)) ∧
        Moved e e' ∧ e'.storage.Clean)
      (fun _ e' => (e'.Tidy ∧ Turn e d e') ∧ (e.Spoiled ∨ ¬ e.Reliable))
      fun _ e' => ¬ e.Mild ∨ (e'.Tidy ∧ Turn e d e') ∧ ¬ e.Reliable := by
  have hdirect (hnot : e.slot = none → ¬ e.Starts d) :
      (Reassembler.complete .receiver d).Ends e
        (fun m e' => (Whole e d m e' ∧ (m.isLarge ↔ e.slot.isSome ∨ e.Starts d)) ∧
          Moved e e' ∧ e'.storage.Clean)
        (fun _ e' => (e'.Tidy ∧ Turn e d e') ∧ (e.Spoiled ∨ ¬ e.Reliable))
        fun _ e' => ¬ e.Mild ∨ (e'.Tidy ∧ Turn e d e') ∧ ¬ e.Reliable := by
    refine (complete_ends ht hd).imp (fun m _ h => ⟨⟨h.1.1, ?_⟩, h.2⟩)
      (fun _ _ h => ⟨tidy_moved h.1, h.2⟩) fun _ _ h => h.imp_right fun h => ⟨tidy_moved h.1, h.2⟩
    rw [h.1.2]
    refine ⟨.inl, fun hor => hor.elim id fun hstarts => ?_⟩
    rcases hslot : e.slot with _ | a
    · exact absurd hstarts (hnot hslot)
    · rfl
  refine Attempt.ends_bind.2 (Attempt.ends_lift.2 (ends_current.2 ?_))
  refine Attempt.ends_bind.2 (Attempt.ends_get.2 (Attempt.ends_ite.2 ⟨fun hcond => ?_, fun hcond =>
    hdirect fun hslot hstarts => hcond ?_⟩))
  · have hslot : e.slot = none := Option.isNone_iff_eq_none.1 (Bool.and_eq_true_iff.1 hcond).1
    have hp : e.isPersistent := (Bool.and_eq_true_iff.1 hcond).2
    refine Attempt.ends_bind.2 (((startIfLarge_ends ht.clean hp hslot hd).and
      (sameSetting_frame.startIfLarge_within .receiver d e)).imp (fun _ e₁ h₁ => ?_)
      (fun _ e₁ h₁ => ?_) fun _ _ h₁ => .inl h₁.1)
    · obtain ⟨⟨hreach, rfl⟩ | ⟨hreach, a, ha, hs, ht₁⟩, hs₁⟩ := h₁
      · exact hdirect fun _ hstarts => hreach hstarts.2
      have hd₁ : e₁.link.current = some d := by rw [hs.link, drained_current, hd]
      have hkept : Kept e d e₁ := kept_started hslot ⟨hp, hreach⟩ ha hs
      refine (complete_ends ht₁ hd₁).imp (fun m e₂ h₂ => ?_) (fun _ e₂ h₂ => ?_) fun _ e₂ h₂ => ?_
      · obtain ⟨⟨hw, hlarge⟩, hmoved, hc⟩ := h₂
        refine ⟨⟨⟨not_spoiled hslot, hw.content.trans hkept.atHand, ?_, ?_⟩, ?_⟩,
          release_moves hkept.queue hmoved, hc⟩
        · rw [hw.size, hkept.atHand]
        · rw [hw.format, hs.link, drained_format]
        · rw [hlarge, ha]
          simp [Endpoint.Starts, hp, hreach]
      · refine ⟨tidy_moved ⟨release_moves hkept.queue h₂.1.1, h₂.1.2⟩, .inr fun hm => ?_⟩
        exact h₂.2.elim hkept.whole fun hfault => hfault (hs₁.reliable hm)
      · refine h₂.imp (fun hmild hm => hmild (hs₁.mild hm)) fun h₂ => ?_
        exact ⟨tidy_moved ⟨release_moves hkept.queue h₂.1.1, h₂.1.2⟩,
          fun hm => h₂.2 (hs₁.reliable hm)⟩
    · obtain ⟨⟨hslot₁, hc₁, hfault, hreach, hlink⟩, -⟩ := h₁
      exact ⟨⟨tidy_none hc₁ hslot₁, turn_unstarted ⟨hp, hreach⟩ hslot hslot₁ hlink⟩, .inr hfault⟩
  · rw [show (e.reassembler.get .receiver).slot = none from hslot]
    exact hstarts.1

theorem discard_ends (hc : e.storage.Clean) :
    (Reassembler.discard .receiver).Ends e
      (fun _ e' => e'.link = e.link ∧ e'.slot = none ∧ e'.storage.Clean)
      fun _ _ => ¬ e.Mild := by
  refine Act.ends_bind.2 (ends_current.2 ?_)
  rcases hslot : (e.reassembler.get .receiver).slot with _ | a
  · exact ⟨rfl, hslot, hc⟩
  · have hs : SameSetting e (e.withSlot none) := sameSetting_frame.slotted
    refine Act.ends_bind.2 (ends_setCurrent.2 (Act.ends_bind.2 (.imp
      (drop_ends (e := e.withSlot none) (by exact hc) a) (fun _ e₁ h₁ => ?_)
      fun _ _ h₁ hm => h₁ (hs.mild hm))))
    exact ⟨h₁.1.link, slot_of_reassembler h₁.1.reassembler, h₁.2⟩

/-- What an answer of the reassembler says of the delivery and of the bytes at hand. -/
def Answers (e : Endpoint) (d : DeliveryId) : Reassembly → Endpoint → Prop
  | .aborted, e' => (e.link.delivery d).isAborted ∧ Moved e e' ∧ e'.storage.Clean
  | .pending, e' => ((e.link.delivery d).isAborted = false ∧ (e.link.delivery d).isPartial) ∧
      (e'.Tidy ∧ Turn e d e') ∧ (¬ e.Spoiled → Kept e d e')
  | .complete m, e' =>
      ((e.link.delivery d).isAborted = false ∧ (e.link.delivery d).isPartial = false) ∧
      (Whole e d m e' ∧ (m.isLarge ↔ e.slot.isSome ∨ e.Starts d)) ∧ Moved e e' ∧ e'.storage.Clean

/-- An event for the current delivery answers with a message of all bytes at hand, or keeps them,
or notes a gap, or loses them in a start that failed. -/
theorem accept_ends (ht : e.Tidy) (hd : e.link.current = some d) :
    (Reassembler.accept .receiver d).Ends e (Answers e d)
      (fun _ e' => (e'.Tidy ∧ Turn e d e') ∧ (e.Spoiled ∨ ¬ e.Reliable))
      fun _ e' => ¬ e.Mild ∨ (e'.Tidy ∧ Turn e d e') ∧ ¬ e.Reliable := by
  have S := sameSetting_frame
  refine Attempt.ends_bind.2 (Attempt.ends_get.2 (Attempt.ends_ite.2 ⟨fun ha => ?_, fun ha =>
    Attempt.ends_ite.2 ⟨fun hp => ?_, fun hp => ?_⟩⟩))
  · refine Attempt.ends_bind.2 (Attempt.ends_lift.2 (((discard_ends ht.clean).and
      (S.discard_within .receiver e)).imp (fun _ e₁ h₁ => ?_) fun _ _ h₁ => .inl h₁.1))
    obtain ⟨⟨hl₁, hslot₁, hc₁⟩, hs₁⟩ := h₁
    refine Attempt.ends_bind.2 (Attempt.ends_lift.2 ((moveOn_ends e₁).imp ?_
      fun _ _ h₂ => .inl fun hm => h₂ (hs₁.mild hm)))
    rintro _ _ rfl
    exact ⟨ha, ⟨by simp [hl₁], hslot₁, by simp⟩, hc₁⟩
  · have ha : (e.link.delivery d).isAborted = false := by simpa using ha
    exact Attempt.ends_bind.2 ((acceptPartial_ends ht hd).imp
      (fun _ _ h => ⟨⟨ha, hp⟩, ⟨h.1, h.2.1⟩, h.2.2⟩)
      (fun _ _ h => ⟨⟨h.1, h.2.1⟩, .inr h.2.2⟩) fun _ _ => .inl)
  · have ha : (e.link.delivery d).isAborted = false := by simpa using ha
    have hp : (e.link.delivery d).isPartial = false := by simpa using hp
    exact Attempt.ends_bind.2 ((acceptComplete_ends ht hd).imp (fun _ _ h => ⟨⟨ha, hp⟩, h⟩)
      (fun _ _ => id) fun _ _ => id)

end Turns

end ReceivingLink
