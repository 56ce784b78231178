import ReceivingLink.Proofs.Accounts
import ReceivingLink.Proofs.Assembly

/-!
# What an event for a delivery comes to

An event for the current delivery passes one message to routing, which has all bytes at hand, or
it passes none and leaves the bytes at hand as the reassembler did. Every other event leaves them
alone, or is the peer's: `after_effect`. This holds however the calls that are made end.
-/

namespace ReceivingLink

theorem Continued.noting {e e' : Endpoint} (h : Continued e e') (call : Call) :
    Continued (e.noting call) (e'.noting call) where
  config := h.config
  plan := h.plan
  persistence := h.persistence
  kind := h.kind
  failing := h.failing
  lifecycle := h.lifecycle
  threshold := h.threshold
  noted := by
    simp only [Endpoint.noting, List.length_append]
    exact Nat.add_le_add_right h.noted _

theorem SameSetting.noting {e e' : Endpoint} (h : SameSetting e e') (call : Call) :
    SameSetting (e.noting call) (e'.noting call) where
  toContinued := h.toContinued.noting call
  handoffs := by
    simp only [Endpoint.handoffs, Endpoint.noting, List.filterMap_append]
    exact congrArg (· ++ _) h.handoffs
  begun := h.begun
  sender := h.sender
  sound := h.sound

namespace Untouched

variable {e e₁ e₂ : Endpoint} {d : DeliveryId}

theorem slot_eq (h : Untouched e e₁) : e₁.slot = e.slot := h.slot

theorem spooled (h : Untouched e e₁) (a : Accumulator) : e₁.spooled a = e.spooled a := by
  rw [Endpoint.spooled, h.storage]
  rfl

theorem content (h : Untouched e e₁) (m : Message) : e₁.content m = e.content m := by
  cases m with
  | standard m => rfl
  | large m => rw [Endpoint.content, h.storage]; rfl

theorem atHand (h : Untouched e e₁) : e₁.atHand = e.atHand := by
  have hspooled : e₁.spooled = e.spooled := funext h.spooled
  rw [Endpoint.atHand, h.slot_eq, hspooled, h.buffer]
  rfl

theorem spoiled (h : Untouched e e₁) : e₁.Spoiled ↔ e.Spoiled := by
  rw [Endpoint.Spoiled, h.slot_eq]
  rfl

theorem current (h : Untouched e e₁) : e₁.link.current = e.link.current := by
  rw [Link.current, h.queue]
  rfl

theorem format (h : Untouched e e₁) (d : DeliveryId) :
    (e₁.link.delivery d).format = (e.link.delivery d).format :=
  congrArg Prod.fst (h.sender d)

theorem isAborted (h : Untouched e e₁) (d : DeliveryId) :
    (e₁.link.delivery d).isAborted = (e.link.delivery d).isAborted :=
  congrArg (·.2.2) (h.sender d)

theorem isPartial (h : Untouched e e₁) (d : DeliveryId) :
    (e₁.link.delivery d).isPartial = (e.link.delivery d).isPartial :=
  congrArg (·.2.1) (h.sender d)

theorem tidy (h : Untouched e e₁) (ht : e.Tidy) : e₁.Tidy where
  clean := by rw [h.storage]; exact ht.clean
  writes := by rw [h.slot_eq, h.storage]; exact ht.writes
  format := fun a d ha hd => by
    rw [h.format]
    rw [h.slot_eq] at ha
    rw [h.current] at hd
    exact ht.format a d ha hd
  headed := by rw [h.queue, h.slot_eq]; exact ht.headed

theorem starts (h : Untouched e e₁) : e₁.Starts d ↔ e.Starts d := by
  rw [Endpoint.Starts, Endpoint.Reaches, h.isPersistent, h.threshold, h.available]
  rfl

theorem noting (h : Untouched e e₁) (call : Call) : Untouched (e.noting call) (e₁.noting call) where
  toSameSetting := h.toSameSetting.noting call
  storage := h.storage
  slot := h.slot
  taken := by
    simp only [Endpoint.taken, Endpoint.noting, List.filterMap_append]
    exact congrArg (· ++ _) h.taken
  queue := h.queue
  buffer := h.buffer
  available := h.available

end Untouched

section Composition

variable {e e₁ e₂ : Endpoint} {d : DeliveryId}

theorem Kept.before (h : Untouched e e₁) (h' : Kept e₁ d e₂) : Kept e d e₂ where
  queue := h'.queue.trans h.queue
  intact := by rw [← h.spoiled]; exact h'.intact
  whole := h'.whole
  atHand := h'.atHand.trans h.atHand
  grown := by
    rw [← h.slot_eq, ← h.starts]
    exact h'.grown

theorem Kept.after (h' : Kept e d e₁) (h : Untouched e₁ e₂) : Kept e d e₂ where
  queue := h.queue.trans h'.queue
  intact := h'.intact
  whole := by rw [h.spoiled]; exact h'.whole
  atHand := h.atHand.trans h'.atHand
  grown := by rw [h.slot_eq]; exact h'.grown

theorem Moved.before (h : Untouched e e₁) (h' : Moved e₁ e₂) : Moved e e₂ :=
  ⟨by rw [h'.queue, h.queue], h'.slot, h'.buffer⟩

theorem Moved.after (h' : Moved e e₁) (h : Untouched e₁ e₂) : Moved e e₂ :=
  ⟨h.queue.trans h'.queue, h.slot_eq.trans h'.slot, h.buffer.trans h'.buffer⟩

theorem Turn.before (h : Untouched e e₁) (h' : Turn e₁ d e₂) : Turn e d e₂ := by
  cases h' with
  | kept h' => exact .kept (h'.before h)
  | spoiled queue gap => exact .spoiled (queue.trans h.queue) gap
  | lost queue starts before after buffer =>
    exact .lost (queue.trans h.queue) (h.starts.1 starts) (h.slot_eq.symm.trans before) after buffer
  | moved h' => exact .moved (h'.before h)

theorem Turn.after (h' : Turn e d e₁) (h : Untouched e₁ e₂) : Turn e d e₂ := by
  cases h' with
  | kept h' => exact .kept (h'.after h)
  | spoiled queue gap => exact .spoiled (h.queue.trans queue) (h.spoiled.2 gap)
  | lost queue starts before after buffer =>
    exact .lost (h.queue.trans queue) starts before (h.slot_eq.trans after) (h.buffer.trans buffer)
  | moved h' => exact .moved (h'.after h)

theorem Whole.before {m : Message} (h : Untouched e e₁) (h' : Whole e₁ d m e₂) :
    Whole e d m e₂ where
  whole := by rw [← h.spoiled]; exact h'.whole
  content := h'.content.trans h.atHand
  size := by rw [h'.size, h.atHand]
  format := by rw [h'.format, h.format]

theorem Whole.after {m : Message} (h' : Whole e d m e₁) (h : Untouched e₁ e₂) : Whole e d m e₂ where
  whole := h'.whole
  content := (h.content m).trans h'.content
  size := h'.size
  format := h'.format

theorem Endpoint.Tidy.noting (h : e.Tidy) (call : Call) : (e.noting call).Tidy :=
  ⟨h.clean, h.writes, h.format, h.headed⟩

theorem Moved.noting (h : Moved e e₁) (call : Call) : Moved e (e₁.noting call) :=
  ⟨h.queue, h.slot, h.buffer⟩

theorem Whole.noting {m : Message} (h : Whole e d m e₁) (call : Call) :
    Whole e d m (e₁.noting call) where
  whole := h.whole
  content := by
    rw [← h.content]
    cases m <;> rfl
  size := h.size
  format := h.format

end Composition

/-- A message was passed to routing, and nothing else has happened to the bytes that came in. -/
def Handed (e : Endpoint) (d : DeliveryId) (m : Message) (e' : Endpoint) : Prop :=
  ∃ handoff : Handoff, handoff.message = m ∧ handoff.delivery = d ∧
    Untouched (e.noting (.deliver handoff)) e'

section Passing

variable {e : Endpoint}

/-- Counting the delivery breaks off only if the count is out of order. -/
theorem increment_untouched (e : Endpoint) :
    (Tracker.increment .receiver).Ends e (fun _ e' => Untouched e e')
      fun _ e' => Untouched e e' ∧ ¬ (e.isOnHandler ∧ 0 ≤ e.pending.receiver) := by
  have hwithin := untouched_frame.increment_within .receiver e
  by_cases h : e.isOnHandler ∧ 0 ≤ e.pending.receiver
  · exact (hwithin.and (increment_ends h.1 h.2)).imp (fun _ _ => And.left) fun _ _ h' => h'.2.elim
  · exact hwithin.imp (fun _ _ => id) fun _ _ h' => ⟨h'.1, h⟩

theorem handOff_hands (e : Endpoint) (m : Message) (d : DeliveryId) (transaction : Option TxnId) :
    (Receiver.handOff m d transaction).Ends e (fun _ e' => Handed e d m e')
      (fun _ e' => Handed e d m e')
      fun _ e' => Handed e d m e' ∨
        Untouched e e' ∧ ¬ (e.isOnHandler ∧ 0 ≤ e.pending.receiver) := by
  have hhanded {e' : Endpoint} (h : Passes Untouched e m d e') : Handed e d m e' := by
    obtain ⟨handoff, e₁, hm, hd, h₁, h₂⟩ := h
    exact ⟨handoff, hm, hd, (h₁.noting _).trans h₂⟩
  exact (untouched_frame.handOff_ends (increment_untouched e) m d transaction).imp
    (fun _ _ => hhanded) (fun _ _ => hhanded) fun _ _ => .imp_left hhanded

theorem lookup_failing (t : Transactions) (txn : TxnId) (create : Bool) :
    (t.lookup txn create).2.failing = t.failing := by
  unfold Transactions.lookup Transactions.declare
  split_ifs <;> rfl

theorem lookup_error (t : Transactions) {txn : TxnId} {create : Bool}
    (h : (t.lookup txn create).1 = .error ()) : t.failing := by
  unfold Transactions.lookup at h
  split_ifs at h
  assumption

theorem resolveTransaction_ends (e : Endpoint) (d : DeliveryId) :
    (Receiver.resolveTransaction d).Ends e (fun _ e' => Untouched e e')
      (fun _ e' => Untouched e e' ∧ ¬ e.Reliable) fun _ e' => Untouched e e' ∧ ¬ e.Reliable := by
  have F := untouched_calls
  have hp : Point.lookup ∈ Endpoint.messagePoints := by simp [Endpoint.messagePoints]
  refine Attempt.ends_bind.2 (Attempt.ends_get.2 ?_)
  split
  · exact .refl e
  · refine Attempt.ends_adapt.2 (Attempt.ends_bind.2 ((attempt_ends e (.lookup _ false) hp).imp
      ?_ ?_ ?_))
    · rintro _ _ rfl
      refine Attempt.ends_bind.2 (Attempt.ends_get.2 (Attempt.ends_bind.2
        (Attempt.ends_modify.2 ?_)))
      have hasked (create : Bool) {txn : TxnId} : Untouched e { e.noting (.lookup txn create) with
          transactions := (e.transactions.lookup txn create).2 } :=
        .trans (F.noted rfl) (.aside rfl rfl rfl rfl rfl (lookup_failing ..) rfl rfl rfl)
      dsimp only
      split
      · exact hasked false
      · rename_i hfound
        refine ⟨hasked false, fun hm => ?_⟩
        exact Bool.false_ne_true (hm.lookups.symm.trans (lookup_error _ hfound))
    · rintro _ _ ⟨rfl, hfault⟩
      exact ⟨F.noted rfl, hfault⟩
    · rintro _ _ ⟨rfl, hfault, -⟩
      exact ⟨F.noted rfl, hfault⟩

end Passing

/-- A message of all bytes at hand is passed to routing, and the link is past its delivery. The
message is a large one if one was coming in or enough had come for one. -/
structure Hands (e : Endpoint) (d : DeliveryId) (handoff : Handoff) (e' : Endpoint) : Prop where
  delivery : handoff.delivery = d
  setting : SameSetting (e.noting (.deliver handoff)) e'
  tidy : e'.Tidy
  moved : Moved e e'
  whole : Whole e d handoff.message e'
  large : handoff.message.isLarge ↔ e.slot.isSome ∨ e.Starts d
  given : (e.link.delivery d).isAborted = false
  complete : (e.link.delivery d).isPartial = false

/-- Nothing goes wrong with an event for a delivery that was not given up. -/
structure Endpoint.Healthy (e : Endpoint) (d : DeliveryId) : Prop where
  calm : e.Calm
  whole : ¬ e.Spoiled
  counted : 0 ≤ e.pending.receiver
  given : (e.link.delivery d).isAborted = false

/-- Nothing is passed to routing. If nothing goes wrong, the delivery is partial and all bytes of
it are kept. No gap comes of what is reliable. -/
structure Silent (e : Endpoint) (d : DeliveryId) (e' : Endpoint) : Prop where
  setting : SameSetting e e'
  turn : e.Mild → e'.Tidy ∧ Turn e d e'
  whole : e.Reliable → ¬ e.Spoiled → ¬ e'.Spoiled
  kept : e.Healthy d → (e.link.delivery d).isPartial ∧ Kept e d e'

/-- An event for the current delivery passes a message to routing, or none. -/
def Handles (e : Endpoint) (d : DeliveryId) (e' : Endpoint) : Prop :=
  (∃ handoff, Hands e d handoff e') ∨ Silent e d e'

section Handling

variable {e e₁ e₂ : Endpoint} {d : DeliveryId}

theorem Hands.after {handoff : Handoff} (h' : Hands e d handoff e₁) (h : Untouched e₁ e₂) :
    Hands e d handoff e₂ where
  delivery := h'.delivery
  setting := h'.setting.trans h.toSameSetting
  tidy := h.tidy h'.tidy
  moved := h'.moved.after h
  whole := h'.whole.after h
  large := h'.large
  given := h'.given
  complete := h'.complete

theorem Silent.after (h' : Silent e d e₁) (h : Untouched e₁ e₂) : Silent e d e₂ where
  setting := h'.setting.trans h.toSameSetting
  turn := fun hm => ⟨h.tidy (h'.turn hm).1, (h'.turn hm).2.after h⟩
  whole := fun hr hw => by
    rw [h.spoiled]
    exact h'.whole hr hw
  kept := fun hh => ⟨(h'.kept hh).1, (h'.kept hh).2.after h⟩

theorem Handles.after (h' : Handles e d e₁) (h : Untouched e₁ e₂) : Handles e d e₂ :=
  h'.imp (fun ⟨handoff, h'⟩ => ⟨handoff, h'.after h⟩) (·.after h)

theorem Hands.before {handoff : Handoff} (h : Untouched e e₁) (h' : Hands e₁ d handoff e₂) :
    Hands e d handoff e₂ where
  delivery := h'.delivery
  setting := (h.noting _).toSameSetting.trans h'.setting
  tidy := h'.tidy
  moved := h'.moved.before h
  whole := h'.whole.before h
  large := by rw [h'.large, h.slot_eq, h.starts]
  given := (h.isAborted d).symm.trans h'.given
  complete := (h.isPartial d).symm.trans h'.complete

theorem Untouched.healthy (h : Untouched e e₁) (hp : e₁.pending.receiver = e.pending.receiver)
    (hh : e.Healthy d) : e₁.Healthy d where
  calm := h.toSameSetting.calm hh.calm
  whole := by rw [h.spoiled]; exact hh.whole
  counted := by rw [hp]; exact hh.counted
  given := (h.isAborted d).trans hh.given

theorem Silent.before (h : Untouched e e₁) (hp : e₁.pending.receiver = e.pending.receiver)
    (h' : Silent e₁ d e₂) : Silent e d e₂ where
  setting := h.toSameSetting.trans h'.setting
  turn := fun hm => (h'.turn (h.toSameSetting.mild hm)).imp_right (·.before h)
  whole := fun hr hw => h'.whole (h.toSameSetting.reliable hr) (by rw [h.spoiled]; exact hw)
  kept := fun hh => by
    rw [← h.isPartial]
    exact (h'.kept (h.healthy hp hh)).imp_right (·.before h)

theorem Handles.before (h : Untouched e e₁) (hp : e₁.pending.receiver = e.pending.receiver)
    (h' : Handles e₁ d e₂) : Handles e d e₂ :=
  h'.imp (fun ⟨handoff, h'⟩ => ⟨handoff, h'.before h⟩) (·.before h hp)

/-- An event for the current delivery, however it is handled. -/
theorem process_handles (ht : e.Tidy) (hon : e.isOnHandler) (hd : e.link.current = some d) :
    (Receiver.process d).Ends e (fun _ e' => Handles e d e') (fun _ e' => Handles e d e')
      fun _ e' => Handles e d e' := by
  have hsilent {e' : Endpoint} (hs : SameSetting e e') (hturn : e.Mild → e'.Tidy ∧ Turn e d e')
      (hwhole : e.Reliable → ¬ e.Spoiled → ¬ e'.Spoiled) (hbad : ¬ e.Healthy d) : Handles e d e' :=
    .inr ⟨hs, hturn, hwhole, fun hh => absurd hh hbad⟩
  have haccept := (accept_ends ht hd).and ((sameSetting_frame.accept_within .receiver d e).and
    (sameBooks_frame.accept_within .receiver d e))
  refine Attempt.ends_bind.2 (Attempt.ends_adapt.2 (haccept.imp (fun r e₁ h₁ => ?_)
    (fun _ e₁ h₁ => ?_) fun _ e₁ h₁ => ?_))
  · obtain ⟨hanswers, hs₁, hb₁⟩ := h₁
    rcases r with _ | _ | m
    · obtain ⟨haborted, hmoved⟩ := hanswers
      have h₁ : Handles e d e₁ :=
        hsilent hs₁ (fun _ => tidy_moved hmoved) (fun _ _ => not_spoiled hmoved.1.slot) fun hh => by
          simp [hh.given] at haborted
      exact Attempt.ends_lift.2 ((untouched_frame.onAborted_within d e₁).imp
        (fun _ _ h₂ => h₁.after h₂) fun _ _ h₂ => h₁.after h₂.1)
    · obtain ⟨⟨-, hpartial⟩, hturn, hkept⟩ := hanswers
      exact .inr ⟨hs₁, fun _ => hturn, fun _ hw => (hkept hw).whole,
        fun hh => ⟨hpartial, hkept hh.whole⟩⟩
    · obtain ⟨⟨hgiven, hcomplete⟩, ⟨hwhole, hlarge⟩, hmoved⟩ := hanswers
      have hturn := tidy_moved (d := d) hmoved
      have hunhandled {e₂ : Endpoint} (hu₂ : Untouched e₁ e₂) (hbad : ¬ e.Healthy d) :
          Handles e d e₂ :=
        (hsilent hs₁ (fun _ => hturn) (fun _ _ => not_spoiled hmoved.1.slot) hbad).after hu₂
      have hunresolved {e₂ : Endpoint} (hu₂ : Untouched e₁ e₂) (hfault : ¬ e₁.Reliable) :
          Handles e d e₂ := hunhandled hu₂ fun hh => hfault (hs₁.reliable hh.calm.reliable)
      refine Attempt.ends_bind.2 (Attempt.ends_adapt.2 (((resolveTransaction_ends e₁ d).and
        (sameBooks_frame.resolveTransaction_within (.aside rfl rfl rfl rfl rfl rfl rfl) d e₁)).imp
        (fun transaction e₂ h₂ => ?_) (fun _ e₂ h₂ => ?_) fun _ e₂ h₂ => ?_))
      · obtain ⟨hu₂, hb₂⟩ := h₂
        have hb := hb₁.trans hb₂
        have hs₂ := hs₁.trans hu₂.toSameSetting
        have hhands {e₃ : Endpoint} (h₃ : Handed e₂ d m e₃) : Handles e d e₃ := by
          obtain ⟨handoff, rfl, hdelivery, h₃⟩ := h₃
          refine .inl ⟨handoff, hdelivery, ?_, ?_, ?_, ?_, hlarge, hgiven, hcomplete⟩
          · exact (hs₂.noting _).trans h₃.toSameSetting
          · exact h₃.tidy ((hu₂.tidy hturn.1).noting _)
          · exact ((hmoved.1.after hu₂).noting _).after h₃
          · exact ((hwhole.after hu₂).noting _).after h₃
        have hunhanded {e₃ : Endpoint} (h₃ : Untouched e₂ e₃)
            (hbad : ¬ (e₂.isOnHandler ∧ 0 ≤ e₂.pending.receiver)) : Handles e d e₃ := by
          refine hunhandled (hu₂.trans h₃) fun hh => hbad ⟨hb.isOnHandler hon, ?_⟩
          rw [hb.pending]
          exact hh.counted
        exact (handOff_hands e₂ m d transaction).imp (fun _ _ => hhands) (fun _ _ => hhands)
          fun _ _ h₃ => h₃.elim hhands fun h₃ => hunhanded h₃.1 h₃.2
      · exact (hunresolved h₂.1.1 h₂.1.2)
      · exact (hunresolved h₂.1.1 h₂.1.2)
  · obtain ⟨⟨hturn, hblame⟩, hs₁, -⟩ := h₁
    refine hsilent hs₁ (fun _ => hturn) (fun hr hw => absurd hblame ?_) fun hh =>
      hblame.elim hh.whole fun hfault => hfault hh.calm.reliable
    exact fun hor => hor.elim hw fun hfault => hfault hr
  · obtain ⟨hmild, ⟨hs₁, -⟩, -⟩ := h₁
    refine hsilent hs₁ (fun hm => ?_) (fun hr _ => ?_) fun hh => ?_
    · exact (hmild.resolve_left fun h => h hm).1
    · exact (hmild.elim (fun h => h hr.mild) fun h => h.2 hr).elim
    · exact hmild.elim (fun h => h hh.calm.mild) fun h => h.2 hh.calm.reliable

end Handling

/-- Nothing is passed to routing, and a receiver that is not open stays so. -/
structure Ceases (e e' : Endpoint) : Prop where
  handoffs : e'.handoffs = e.handoffs
  shut : e.lifecycle ≠ .opened → e'.lifecycle ≠ .opened

section Closing

variable {e : Endpoint}

theorem SameSetting.ceases {e' : Endpoint} (h : SameSetting e e') : Ceases e e' :=
  ⟨h.handoffs, fun hn => by rw [h.lifecycle]; exact hn⟩

theorem ceases_frame : AssemblyFrame Ceases fun _ _ => True where
  refl := fun e => (SameSetting.refl e).ceases
  trans := fun h h' => ⟨h'.handoffs.trans h.handoffs, h'.shut ∘ h.shut⟩
  blame := fun _ _ => trivial
  noted := fun h => (sameSetting_frame.noted h).ceases
  told := fun h => (sameSetting_frame.told h).ceases
  planned := fun _ => trivial
  stored := fun h hc => (sameSetting_frame.stored h hc).ceases
  filed := fun h => (sameSetting_frame.filed h).ceases
  deleting := sameSetting_frame.deleting.ceases
  taking := sameSetting_frame.taking.ceases
  drained := sameSetting_frame.drained.ceases
  own := fun _ => trivial
  slotted := sameSetting_frame.slotted.ceases
  counted := sameSetting_frame.counted.ceases
  advanced := sameSetting_frame.advanced.ceases

theorem close_shuts (hon : e.isOnHandler) (remoteInitiated : Bool) :
    (Receiver.close remoteInitiated).Ends e
      (fun _ e' => e'.lifecycle ≠ .opened ∧ e'.handoffs = e.handoffs)
      fun _ e' => e'.lifecycle ≠ .opened ∧ e'.handoffs = e.handoffs := by
  have F := ceases_frame
  refine Act.ends_bind.2 ((requireOnHandler_ends hon).imp ?_ fun _ _ => False.elim)
  rintro _ _ rfl
  refine Act.ends_bind.2 (Act.ends_get.2 (Act.ends_ite.2 ⟨fun hc => ⟨?_, rfl⟩, fun _ => ?_⟩))
  · rw [hc]
    exact nofun
  refine Act.ends_bind.2 (Act.ends_modify.2 ?_)
  have hrest : Act.Within Ceases (fun _ _ => True) (do
      removeReceiver
      Receiver.clearLarge
      modify fun e : Endpoint => { e with lifecycle := .closed }
      report (.receiverClosed (← get).link.name remoteInitiated)) := by
    refine .bind F.toFraming (F.removeReceiver_within (F.noted rfl) ⟨rfl, id⟩) fun _ => ?_
    refine .bind F.toFraming F.clearLarge_within fun _ => ?_
    refine .bind F.toFraming (.change fun _ => ⟨rfl, fun _ => nofun⟩) fun _ => ?_
    exact .bind F.toFraming (.look F.toFraming) fun _ => F.report_within rfl
  exact (hrest _).imp (fun _ _ h => ⟨h.shut nofun, h.handoffs⟩)
    fun _ _ h => ⟨h.1.shut nofun, h.1.handoffs⟩

/-- What is noted on the link beside its deliveries and their bytes. -/
theorem untouched_told {drain : Bool} {condition : Option Condition} :
    Untouched e { e with link := { e.link with drain, condition } } :=
  .ofLink rfl (fun _ => rfl) (fun _ => rfl) (fun h => ⟨h.1, h.2, h.3, h.4, h.5, h.6⟩) rfl rfl

theorem setCondition_untouched (condition : Condition) :
    (Link.setCondition condition).Within Untouched fun _ _ => True :=
  untouched_calls.setCondition_within (untouched_calls.noted rfl) untouched_told

theorem closeWithError_shuts (hon : e.isOnHandler) (condition : Condition) :
    (Receiver.closeWithError condition).Ends e
      (fun _ e' => e'.lifecycle ≠ .opened ∧ e'.handoffs = e.handoffs)
      fun _ e' => Untouched e e' ∨ e'.lifecycle ≠ .opened ∧ e'.handoffs = e.handoffs := by
  refine Act.ends_bind.2 (((setCondition_untouched condition e).and
    (setCondition_within condition e)).imp (fun _ e₁ h₁ => ?_) fun _ _ h₁ => .inl h₁.1.1)
  have hclose := close_shuts (h₁.2.isOnHandler hon) false
  rw [h₁.1.handoffs] at hclose
  exact hclose.imp (fun _ _ => id) fun _ _ => .inr

end Closing

/-- What an event does to the bytes that came in and to what is passed to routing. -/
def Effect (e : Endpoint) (event : Event) (e' : Endpoint) : Prop :=
  match event with
  | .begin format remote => e' = { e with link := e.link.beginWith format remote }
  | .transfer bytes more => e' = { e with link := e.link.transfer bytes more }
  | .abort => e' = { e with link := e.link.abort }
  | .message d =>
    if e.lifecycle = .opened ∧ e.link.current = some d then Handles e d e' else Untouched e e'
  | .close _ | .closeWithError _ =>
    Untouched e e' ∨ e'.lifecycle ≠ .opened ∧ e'.handoffs = e.handoffs
  | _ => Untouched e e'

section Events

variable {e : Endpoint}

theorem enter_untouched (e : Endpoint) :
    Untouched e { e with onHandler := some e.mailbox.handler } := untouched_frame.placed

/-- How an event for a delivery is handled, when it does not matter what is told of it. -/
theorem onMessage_answers {d : DeliveryId} {Q : Except ReceiverError Unit → Endpoint → Prop}
    {K : Panic → Endpoint → Prop}
    (haside : ∀ {result} {e : Endpoint} {notices errors}, Q result e →
      Q result { e with notices, counters := { e.counters with errors } })
    (hoff : e.isOnHandler = false → ∀ k, K k e)
    (hidle : ¬ (e.lifecycle = .opened ∧ e.link.current = some d) → Q (.ok ()) e)
    (hprocess : e.isOnHandler → e.lifecycle = .opened → e.link.current = some d →
      (Receiver.process d).Ends e (fun _ => Q (.ok ())) (fun error => Q (.error error))
        fun k => Q (.error (.ofPanic k))) :
    (Receiver.onMessage d).Ends e Q K := by
  have htold (h : Q (.ok ()) e) {notice : Notice} :
      Q (.ok ()) { e with notices := e.notices ++ [notice] } := haside h
  have hfailed {e' : Endpoint} {error : ReceiverError} (h : Q (.error error) e')
      {notice : Notice} : Q (.error error) { e' with
        counters := { e'.counters with errors := e'.counters.errors + 1 }
        notices := e'.notices ++ [notice] } := haside h
  refine Act.ends_bind.2 (Act.ends_bind.2 (Act.ends_get.2 (Act.ends_ite.2 ⟨fun hn => ?_,
    fun hon => ?_⟩)))
  · exact hoff (by simpa using hn) _
  refine Act.ends_bind.2 (Act.ends_get.2 (Act.ends_ite.2 ⟨fun hn => ?_, fun ho =>
    Act.ends_ite.2 ⟨fun hn => ?_, fun hd => ?_⟩⟩))
  · exact htold (hidle fun h => hn h.1)
  · exact htold (hidle fun h => hn h.2)
  refine Act.ends_bind.2 (Act.ends_contain.2 (Act.ends_run.2 ((hprocess (by simpa using hon)
    (not_not.1 ho) (not_not.1 hd)).imp (fun _ _ h₁ => h₁) (fun _ _ h₁ => ?_) fun _ _ h₁ => ?_)))
  · exact hfailed h₁
  · exact hfailed h₁

/-- How an event for a delivery is answered, when it does not matter what is told of it. -/
theorem message_answers {d : DeliveryId} {Q : Except ReceiverError Unit → Endpoint → Prop}
    (haside : ∀ {result} {e : Endpoint} {onHandler notices} {counters : Counters},
      counters.largeMessages = e.counters.largeMessages → Q result e →
        Q result { e with onHandler, notices, counters })
    (hidle : ¬ (e.lifecycle = .opened ∧ e.link.current = some d) → Q (.ok ()) e)
    (hprocess : e.lifecycle = .opened → e.link.current = some d →
      (Receiver.process d).Ends { e with onHandler := some e.mailbox.handler }
        (fun _ => Q (.ok ())) (fun error => Q (.error error)) fun k => Q (.error (.ofPanic k))) :
    (Event.message d).perform.Ends e Q fun _ _ => False := by
  have hends := onMessage_answers (e := { e with onHandler := some e.mailbox.handler })
    (Q := Q) (K := fun _ _ => False) (fun h => haside rfl h)
    (fun hoff => nomatch hoff.symm.trans (isOnHandler_enter e))
    (fun hn => haside rfl (hidle hn)) fun _ => hprocess
  exact ends_onHandler.2 (hends.imp (fun _ _ h => haside rfl h) fun _ _ => id)

/-- How an event for a delivery ends, when its answer does not matter either. -/
theorem message_ends {d : DeliveryId} {Q : Endpoint → Prop}
    (haside : ∀ {e : Endpoint} {onHandler notices} {counters : Counters},
      counters.largeMessages = e.counters.largeMessages → Q e →
        Q { e with onHandler, notices, counters })
    (hidle : ¬ (e.lifecycle = .opened ∧ e.link.current = some d) → Q e)
    (hprocess : e.lifecycle = .opened → e.link.current = some d →
      (Receiver.process d).Ends { e with onHandler := some e.mailbox.handler } (fun _ => Q)
        (fun _ => Q) fun _ => Q) :
    (Event.message d).perform.Ends e (fun _ => Q) fun _ => Q :=
  (message_answers haside hidle hprocess).imp (fun _ _ => id) fun _ _ => False.elim

/-- What reassembly, settling, routing and closing keep, every event keeps. -/
theorem after_within {R : Endpoint → Endpoint → Prop} (A : AssemblyFrame R fun _ _ => True)
    (F : SettleFrame R)
    (handing : ∀ {e handoff}, R e { e with calls := e.calls ++ [.deliver handoff] })
    (aside : ∀ {e : Endpoint} {link transactions removed onHandler lifecycle notices counters},
      R e { e with link, transactions, removed, onHandler, lifecycle, notices, counters })
    (event : Event) (e : Endpoint) : R e (e.after event) := by
  have hdone {act : Act Panic Endpoint Unit} (hact : act.Within R fun _ _ => True) :
      R e ((onHandler act >>= fun _ => pure (Except.ok ()) :
        Act Panic Endpoint (Except ReceiverError Unit)) e).2 :=
    (Act.Within.bind F.toFraming (F.onHandler_within hact) fun _ => .answer F.toFraming _).state e
  cases event with
  | begin | transfer | abort | setDrain => exact aside
  | message d =>
    refine (message_ends (Q := R e) (fun _ h => A.trans h aside) (fun _ => A.refl e)
      fun _ _ => ?_).state
    exact (process_within F.toRouteFrame handing A aside d _).imp (fun _ _ h => A.trans aside h)
      (fun _ _ h => A.trans aside h) fun _ _ h => A.trans aside h.1
  | close remoteInitiated =>
    exact hdone (close_within A.toDiscardFrame aside aside remoteInitiated)
  | closeWithError condition =>
    exact hdone (closeWithError_within A.toDiscardFrame aside aside aside)
  | flow | runPending | settle | submit | setMode => exact F.after rfl e

theorem Untouched.leave {onHandler : Option HandlerId} {notices : List Notice} {counters : Counters}
    {e' : Endpoint} (h : Untouched e e') :
    Untouched e { e' with onHandler, notices, counters } :=
  h.trans (.aside rfl rfl rfl rfl rfl rfl rfl rfl rfl)

/-- An event that is for no delivery, or that a receiver does not handle any more. -/
theorem message_untouched {d : DeliveryId}
    (h : ¬ (e.lifecycle = .opened ∧ e.link.current = some d)) :
    (Event.message d).perform.Ends e (fun _ e' => Untouched e e') fun _ _ => False :=
  message_answers (fun _ => .leave) (fun _ => .refl e) fun ho hd => absurd ⟨ho, hd⟩ h

theorem message_effect (ht : e.lifecycle = .opened → e.Tidy) (d : DeliveryId) :
    (Event.message d).perform.Ends e (fun _ e' => Effect e (.message d) e')
      fun _ e' => Effect e (.message d) e' := by
  simp only [Effect]
  split
  · rename_i h
    have hentered {e' : Endpoint}
        (h' : Handles { e with onHandler := some e.mailbox.handler } d e') : Handles e d e' :=
      h'.before (enter_untouched e) rfl
    refine message_ends (fun _ h' => h'.after (.leave (.refl _))) (fun hn => absurd h hn)
      fun ho hd => ?_
    exact (process_handles ((enter_untouched e).tidy (ht ho)) (isOnHandler_enter e) hd).imp
      (fun _ _ => hentered) (fun _ _ => hentered) fun _ _ => hentered
  · rename_i h
    exact (message_untouched h).imp (fun _ _ => id) fun _ _ => False.elim

/-- An event that is done when its action is. -/
theorem done_effect {α : Type} {act : Act Panic Endpoint α} {event : Event}
    (h : act.Ends e (fun _ e' => Effect e event e') fun _ e' => Effect e event e') :
    (act >>= fun _ => pure (Except.ok ()) : Act Panic Endpoint (Except ReceiverError Unit)).Ends e
      (fun _ e' => Effect e event e') fun _ e' => Effect e event e' := Act.ends_bind.2 h

/-- An event that is not for a delivery has the effect that it should have. -/
theorem aside_effect {event : Event} (h : ∀ d, event ≠ .message d) :
    Effect e event (e.after event) := by
  have F := untouched_frame
  cases event with
  | begin format remote => exact rfl
  | transfer bytes more => exact rfl
  | abort => exact rfl
  | setDrain drain => exact untouched_told
  | message d => exact absurd rfl (h d)
  | close remoteInitiated =>
    refine Act.Ends.state (Q := Effect e _) (done_effect (ends_onHandler.2 ?_))
    exact (close_shuts (isOnHandler_enter e) remoteInitiated).imp (fun _ _ => .inr) fun _ _ => .inr
  | closeWithError condition =>
    refine Act.Ends.state (Q := Effect e _) (done_effect (ends_onHandler.2 ?_))
    refine (closeWithError_shuts (isOnHandler_enter e) condition).imp (fun _ _ => .inr)
      fun _ e' h => h.imp_left fun h => ?_
    exact ((enter_untouched e).trans h).trans F.placed
  | _ => exact F.after rfl e

/-- An event that finds its large message in order has the effect that it should have. -/
theorem after_effect (ht : e.lifecycle = .opened → e.Tidy) (event : Event) :
    Effect e event (e.after event) := by
  cases event with
  | message d => exact Act.Ends.state (Q := Effect e _) (message_effect ht d)
  | _ => exact aside_effect nofun

/-- A current delivery that nothing goes wrong with is passed on if it is complete. -/
theorem Handles.hands {e' : Endpoint} {d : DeliveryId} (h : Handles e d e') (hh : e.Healthy d)
    (hc : (e.link.delivery d).isPartial = false) : ∃ handoff, Hands e d handoff e' :=
  h.resolve_right fun hs => Bool.false_ne_true (hc.symm.trans (hs.kept hh).1)

theorem Handles.silent {e' : Endpoint} {d : DeliveryId} (h : Handles e d e')
    (hp : (e.link.delivery d).isPartial) : Silent e d e' :=
  h.resolve_left fun ⟨_, hs⟩ => Bool.false_ne_true (hs.complete.symm.trans hp)

end Events

end ReceivingLink
