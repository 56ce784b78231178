import ReceivingLink.Proofs.Ledger
import ReceivingLink.Proofs.Traffic
import ReceivingLink.Proofs.Window

/-!
# The supply of credit

A review of credit leaves the window wide enough for the policy: wider than its threshold, or as
wide as its refill. What happens after that moves units of credit about inside the window, but for
two things. A settling takes one out, and a review comes with it; a delivery that was given up
takes one out, and it is put back, unless the sender wants its credit used up. So from the first
review on, as long as nothing fails but routing and nothing that was given up is dealt with while
the sender wants that, the window stays wide enough, and a sender that waits for nothing has credit:
`supplied_of_reviews`. It is not enough that the sender wants nothing of the kind when it gives the
delivery up: `starved_of_draining`.
-/

namespace ReceivingLink

namespace Endpoint

/-- The window is wide enough for the policy. -/
def Supplied (e : Endpoint) : Prop :=
  e.config.policy.threshold.toNat < e.window ∨ e.config.policy.refill.toNat ≤ e.window

/-- The large message that is coming in is in order and without a gap, and no call on the way to
routing fails. -/
structure Ready (e : Endpoint) : Prop where
  tidy : e.Tidy
  whole : ¬ e.Spoiled
  reliable : e.Reliable

/-- If routing does not take the handoff, it has not used the handle. -/
def Unused (handoff : Handoff) (e : Endpoint) : Prop :=
  (Sink.deliver handoff).Ends e (fun _ _ => True)
    (fun _ e' => handoff.delivery ∉ e'.waiting ∧ handoff.delivery ∉ e'.settlings)
    fun _ e' => handoff.delivery ∉ e'.waiting ∧ handoff.delivery ∉ e'.settlings

/-- A delivery that was given up is not dealt with while the sender wants its credit used up. -/
def Undrained (e : Endpoint) : Event → Prop
  | .message d => e.lifecycle = .opened → e.link.current = some d →
      (e.link.delivery d).isAborted → e.link.drain = false
  | _ => True

/-- The sender does not give up a delivery while it wants its credit used up. -/
def GivenUpUndrained (e : Endpoint) : Event → Prop
  | .abort => e.link.drain = false
  | _ => True

/-- Credit is reviewed on the handler in the event. It always is when a delivery is settled that was
not given up. -/
def Reviews (e : Endpoint) : Event → Prop
  | .flow _ _ elsewhere => elsewhere = false
  | .runPending => e.mailbox.tasks ≠ []
  | .message d => (e.link.delivery d).isAborted = false ∧
      (e.after (.message d)).settlings ≠ e.settlings
  | .settle use => (e.after (.settle use)).settlings ≠ e.settlings
  | _ => False

/-- The peer pays for its deliveries, and routing settles what it accepted, each delivery once.
Fewer deliveries are unsettled than a word can count. -/
structure Sustains (e : Endpoint) (event : Event) : Prop where
  pays : e.Pays event
  few : (e.after event).pending.get .receiver < UInt32.size
  unspent : e.OnUse (fun e d => d ∉ e.settlings) event
  refuses : e.OnOffer (fun handoff e' =>
    Sink.MayTake (fun e d => d ∉ e.settlings) handoff e' ∧ e'.Unused handoff) event

instance (handoff : Handoff) (e : Endpoint) : Decidable (e.Unused handoff) :=
  inferInstanceAs (Decidable (Attempt.Ends ..))

instance (e : Endpoint) : DecidablePred e.Undrained
  | .message d => inferInstanceAs (Decidable (e.lifecycle = .opened → e.link.current = some d →
      (e.link.delivery d).isAborted → e.link.drain = false))
  | .begin .. | .transfer .. | .abort | .setDrain _ | .flow .. | .close _ | .closeWithError _
  | .runPending | .settle _ | .submit | .setMode _ => isTrue trivial

instance (e : Endpoint) : DecidablePred e.GivenUpUndrained
  | .abort => inferInstanceAs (Decidable (e.link.drain = false))
  | .begin .. | .transfer .. | .message _ | .setDrain _ | .flow .. | .close _ | .closeWithError _
  | .runPending | .settle _ | .submit | .setMode _ => isTrue trivial

instance (e : Endpoint) (event : Event) : Decidable (e.Sustains event) :=
  decidable_of_iff (e.Pays event ∧ (e.after event).pending.get .receiver < UInt32.size ∧
    e.OnUse (fun e d => d ∉ e.settlings) event ∧
    e.OnOffer (fun handoff e' => Sink.MayTake (fun e d => d ∉ e.settlings) handoff e' ∧
      e'.Unused handoff) event)
    ⟨fun h => ⟨h.1, h.2.1, h.2.2.1, h.2.2.2⟩,
      fun h => ⟨h.pays, h.few, h.unspent, h.refuses⟩⟩

end Endpoint

/-- The ledger and the tally are in order, and the window is wide enough once it is due to be, for
the deliveries that were to be settled. -/
structure Supplying (Due : List DeliveryId → Prop) (policy : CreditPolicy) (limit : Int)
    (e : Endpoint) : Prop extends Tallied policy limit e where
  ledger : Ledger False e
  spares : e.plan.Spares settlementPoints
  supplied : Due e.settlings → e.Supplied

section Supply

variable {Due Due' : List DeliveryId → Prop} {policy : CreditPolicy} {limit limit' : Int}
  {e e' : Endpoint} {d : DeliveryId}

theorem Endpoint.Supplied.mono (h : e.Supplied) (hpolicy : e'.config.policy = e.config.policy)
    (hw : e.window ≤ e'.window) : e'.Supplied := by
  unfold Endpoint.Supplied at h ⊢
  rw [hpolicy]
  omega

theorem Beside.window (h : Beside e e') : e'.window = e.window := by
  unfold Endpoint.window
  rw [h.credit, h.pending, h.stays]

/-- A review on the handler leaves a window that is wide enough. -/
theorem Tallied.supplied (h : Tallied policy limit e) (hl : limit < UInt32.size)
    (hon : e.isOnHandler) (hr : Reviewed e e') : e'.Supplied := by
  have hunsettled := h.toNat_unsettled hl
  rcases hr with ⟨hoff, -⟩ | ⟨-, hgrant, rfl⟩ | ⟨amount, e₁, -, hgrant, hs₁, hs₂⟩
  · exact absurd hon (by simp [hoff])
  · have henough := CreditPolicy.enough hgrant
    rw [hunsettled] at henough
    unfold Endpoint.Supplied Endpoint.window
    omega
  · have hfull := CreditPolicy.add_grant hgrant
    have hconfig : e'.config = e.config := hs₂.config.trans hs₁.config
    rw [hunsettled, ← hs₁.credit, ← hs₁.pending] at hfull
    refine .inr ?_
    rw [hconfig, hs₂.window, ← hfull]
    exact Nat.le_add_right _ _

namespace Supplying

/-- Units of credit are moved about inside the window, or it gets wider. -/
theorem moved (h : Supplying Due policy limit e) (hl : Ledger False e')
    (ht : Tallied policy limit' e') (hplan : e'.plan = e.plan) (hw : e.window ≤ e'.window)
    (hdue : Due' e'.settlings → Due e.settlings) : Supplying Due' policy limit' e' :=
  ⟨ht, hl, by rw [hplan]; exact h.spares,
    fun hd => (h.supplied (hdue hd)).mono (ht.policy.trans h.policy.symm) hw⟩

theorem beside (h : Supplying Due policy limit e) (hs : Beside e e') :
    Supplying Due policy limit e' :=
  h.moved (h.ledger.same hs.toSameLedger) (h.toTallied.hands hs.toSameHands) hs.plan
    (Nat.le_of_eq hs.window.symm) (by rw [hs.settlings]; exact id)

theorem due (h : Supplying Due policy limit e) (hdue : Due' e.settlings → Due e.settlings) :
    Supplying Due' policy limit e := h.moved h.ledger h.toTallied rfl (Nat.le_refl _) hdue

theorem mono (h : Supplying Due policy limit e) (hl : limit ≤ limit') :
    Supplying Due policy limit' e :=
  h.moved h.ledger (h.toTallied.mono hl) rfl (Nat.le_refl _) id

/-- A review on the handler makes up for what came before. -/
theorem review (h : Supplying Due policy limit e) (hl : limit < UInt32.size)
    (hoff : e.isOnHandler = false → ∀ s, Due' s → Due s) :
    (replenish (some .receiver)).Ends e (fun _ => Supplying Due' policy limit)
      fun _ _ => False := by
  have hends := (replenish_reviews e).and
    ((h.ledger.review (some .receiver)).and (replenish_ends h.spares (some .receiver)))
  refine hends.imp (fun _ e' h' => ?_) fun _ _ h' => h'.2.2
  obtain ⟨hreviewed, hledger, hbooks⟩ := h'
  refine ⟨h.toTallied.review hreviewed, hledger, by rw [hbooks.plan]; exact h.spares, fun hd => ?_⟩
  -- off the handler the review is put off, so the window has to be wide enough already
  by_cases hon : e.isOnHandler
  · exact h.toTallied.supplied hl hon hreviewed
  have hoff' : e.isOnHandler = false := by simpa using hon
  rcases hreviewed with ⟨-, hs⟩ | ⟨hon', -, -⟩ | ⟨-, -, hon', -, -, -⟩
  · have hasked : Supplying Due policy limit (e.posting (.replenish (some .receiver))) :=
      h.moved (h.ledger.same sameLedger_frame.asked) h.toTallied.ask rfl (Nat.le_refl _) id
    exact (hasked.beside hs).supplied (hoff hoff' _ hd)
  · exact absurd hon' hon
  · exact absurd hon' hon

/-- With the settling of a delivery comes a review. -/
theorem settle (h : Supplying Due policy limit e) (hl : limit ≤ UInt32.size)
    (ho : e.Open False d) (hoff : e.isOnHandler = false → ∀ s, Due' s → Due s) :
    (settleOnHandler d).Ends e (fun _ => Supplying Due' policy limit)
      fun _ => Supplying Due' policy limit := by
  have hpos := h.ledger.pending_pos ho
  refine settleOnHandler_steps (fun hoff' => h.due (hoff hoff' _)) (fun hneg => by omega)
    (fun _ ⟨n, k, _, hk⟩ => absurd hk (h.spares n .settle (by simp [settlementPoints]) k))
    fun hon _ => ?_
  -- the settling takes a unit of credit out of the window: nothing is due before the review
  have hsettled : Supplying (fun _ => False) policy (limit - 1)
      ((e.settled d).noting (.settle d)) :=
    ⟨h.toTallied.countedOff.same rfl rfl rfl,
      h.ledger.settle ho (settle_ids _ d) rfl (settles_settle _ d), h.spares, False.elim⟩
  have hon' : ((e.settled d).noting (.settle d)).isOnHandler := hon
  refine (hsettled.review (by omega) fun hoff' => ?_).imp (fun _ _ h' => h'.mono (by omega))
    fun _ _ => False.elim
  exact absurd hon' (by simp [hoff'])

theorem perform (h : Supplying Due policy limit e) (hl : limit ≤ UInt32.size)
    (ho : e.Open False d) (hoff : e.isOnHandler = false → ∀ s, Due' s → Due s)
    (outcome : Option Outcome) :
    (Task.perform (.settle d outcome)).Ends e (fun _ => Supplying Due' policy limit)
      fun _ => Supplying Due' policy limit := by
  rcases outcome with _ | outcome
  · exact h.settle hl ho hoff
  have hends := (h.ledger.dispose ho outcome).and
    ((disposition_stays e d outcome).and (disposition_ends h.spares d outcome))
  refine Act.ends_bind.2 (hends.imp (fun _ e₁ h₁ => ?_) fun _ _ h₁ => h₁.2.2.elim)
  obtain ⟨⟨hledger, hopen⟩, rfl, -⟩ := h₁
  have hdisposed : Supplying Due policy limit
      { e.noting (.disposition d outcome) with link := e.link.dispose d outcome } := by
    refine h.moved hledger (h.toTallied.same rfl rfl rfl) rfl (Nat.le_refl _) ?_
    show Due (e.noting (.disposition d outcome)).settlings → _
    rw [settlings_same rfl]
    exact id
  exact hdisposed.settle hl hopen hoff

end Supplying

theorem supplying_custody (hl : limit ≤ UInt32.size) : Custody (Supplying Due policy limit)
    (Endpoint.Free False) (Endpoint.Open False) fun e d => d ∉ e.settlings where
  beside := fun hs h => h.beside hs
  still := fun hs h => h.same hs.toSameLedger
  stays := fun hs h => h.same hs.toSameLedger
  opens := Endpoint.Free.opens
  keep := fun h hf => h.moved ((ledger_custody False).keep h.ledger hf)
    (h.toTallied.same rfl rfl rfl) rfl (Nat.le_refl _) id
  release := by
    intro e i handoff h hheld hu
    obtain ⟨hledger, hfree⟩ := (ledger_custody False).release h.ledger hheld (.inr hu)
    exact ⟨h.moved hledger (h.toTallied.same rfl rfl rfl) rfl (Nat.le_refl _) id, hfree⟩
  post := fun h hf => h.moved ((ledger_custody False).post h.ledger hf) (h.toTallied.postSettle _)
    rfl (Nat.le_refl _) id
  ask := fun h => h.moved (h.ledger.same sameLedger_frame.asked) h.toTallied.ask rfl
    (Nat.le_refl _) id
  perform := fun h ho => h.perform hl ho (fun _ _ => id) _

end Supply

/-- What the way of a message to routing leaves alone besides. -/
structure Standing (e e' : Endpoint) : Prop extends Continued e e' where
  drain : e'.link.drain = e.link.drain
  here : e'.isOnHandler = e.isOnHandler

theorem standing_frame : AssemblyFrame Standing fun _ _ => True where
  refl := fun e => ⟨.refl e, rfl, rfl⟩
  trans := fun h h' =>
    ⟨h.toContinued.trans h'.toContinued, h'.drain.trans h.drain, h'.here.trans h.here⟩
  blame := fun _ _ => trivial
  noted := fun h => ⟨(sameSetting_frame.noted h).toContinued, rfl, rfl⟩
  told := fun h => ⟨(sameSetting_frame.told h).toContinued, rfl, rfl⟩
  planned := fun _ => trivial
  stored := fun h hc => ⟨(sameSetting_frame.stored h hc).toContinued, rfl, rfl⟩
  filed := fun h => ⟨(sameSetting_frame.filed h).toContinued, rfl, rfl⟩
  deleting := ⟨sameSetting_frame.deleting.toContinued, rfl, rfl⟩
  taking := ⟨sameSetting_frame.taking.toContinued, rfl, rfl⟩
  drained := ⟨sameSetting_frame.drained.toContinued, by
    unfold Link.drained Link.changeCurrent
    split <;> rfl, rfl⟩
  own := fun _ => trivial
  slotted := ⟨sameSetting_frame.slotted.toContinued, rfl, rfl⟩
  counted := ⟨sameSetting_frame.counted.toContinued, rfl, rfl⟩
  advanced := ⟨sameSetting_frame.advanced.toContinued, by
    unfold Link.advance
    split <;> rfl, rfl⟩

section Offer

variable {Due : List DeliveryId → Prop} {policy : CreditPolicy} {limit : Int} {e : Endpoint}
  {d : DeliveryId}

/-- The unit of credit that is put back makes the window as wide as it was, or the credit is as much
as can be. -/
theorem Endpoint.Supplied.putBack {e e₁ : Endpoint} (h : e.Supplied)
    (hw : e.window = e₁.window + 1) (hpolicy : e₁.config.policy = e.config.policy) :
    ((e₁.forgone d).granting 1).Supplied := by
  have hrefill : e.config.policy.refill.toNat < UInt32.size := UInt32.toNat_lt _
  show e₁.config.policy.threshold.toNat < (Credit.add e₁.link.credit 1).toNat +
      e₁.pending.receiver.toNat + e₁.link.queue.length ∨
    e₁.config.policy.refill.toNat ≤ (Credit.add e₁.link.credit 1).toNat +
      e₁.pending.receiver.toNat + e₁.link.queue.length
  unfold Endpoint.Supplied at h
  unfold Endpoint.window at h hw
  rw [hpolicy, Credit.toNat_add, UInt32.toNat_one]
  generalize UInt32.size = size at hrefill ⊢
  omega

/-- A delivery that was given up leaves the window as wide as it was in the queue. -/
theorem Supplying.onAborted {e₁ : Endpoint} (h : Supplying Due policy limit e)
    (hs : SameHands e e₁) (hd : e.link.current = some d) (hq : e₁.link.queue = e.link.queue.tail)
    (hdrain : e₁.link.drain = false) (hdue : ∀ s s', Due s → Due s') :
    (Receiver.onAborted d).Ends e₁ (fun _ => Supplying Due policy limit) fun _ _ => False := by
  have hspares : e₁.plan.Spares settlementPoints := by
    rw [hs.plan]
    exact h.spares
  have hspared {point : Point} (hp : point ∈ settlementPoints) :
      ¬ ∃ n k, e₁.plan n point = some (.panics k) := fun ⟨n, k, hk⟩ => hspares n point hp k hk
  have hledger := (h.ledger.same hs.toSameLedger).onAborted (h.ledger.past hs.toSameLedger hd hq)
  have hgrants : (Receiver.onAborted d).Ends e₁
      (fun _ e' => Beside ((e₁.forgone d).granting 1) e') fun _ _ => False :=
    onAborted_steps (fun hn => hspared (by simp [settlementPoints]) hn)
      (fun hn => absurd hn (by simp [hdrain]))
      (fun hn => hspared (by simp [settlementPoints]) hn) fun _ _ => id
  refine (hledger.and hgrants).imp (fun _ e₂ h₂ => ?_) fun _ _ h₂ => h₂.2
  obtain ⟨hledger, hbeside⟩ := h₂
  have htallied : Tallied policy limit ((e₁.forgone d).granting 1) :=
    (h.toTallied.hands hs).same rfl rfl rfl
  refine ⟨htallied.hands hbeside.toSameHands, hledger, by rw [hbeside.plan]; exact hspares,
    fun hd' => ?_⟩
  have hpolicy : e₁.config.policy = e.config.policy := by rw [hs.config]
  exact ((h.supplied (hdue _ _ hd')).putBack (window_of_advances hs hd hq) hpolicy).mono
    (by rw [hbeside.config]) (Nat.le_of_eq hbeside.window.symm)

/-- A delivery that left the queue is counted, and given to routing. -/
theorem Supplying.hand {e₁ : Endpoint} (h : Supplying Due policy limit e) (hs : SameHands e e₁)
    {handoff : Handoff} (hd : e.link.current = some handoff.delivery)
    (hq : e₁.link.queue = e.link.queue.tail) :
    let e' := { e₁ with pending := e₁.pending.set (e₁.pending.receiver + 1) .receiver }.noting
      (.deliver handoff)
    Supplying Due policy (limit + 1) e' ∧ e'.Free False handoff.delivery := by
  intro e'
  have hledger := h.ledger.same hs.toSameLedger
  have hw := window_of_advances hs hd hq
  refine (hledger.hand (h.ledger.past hs.toSameLedger hd hq)).imp_left fun hhanded =>
    h.moved hhanded ((h.toTallied.hands hs).increment.same rfl rfl rfl) hs.plan ?_ ?_
  · show e.window ≤ e₁.link.credit.toNat + (e₁.pending.receiver + 1).toNat + e₁.link.queue.length
    have hcount := hledger.pending_nonneg
    rw [hw, Endpoint.window]
    omega
  · rw [settlings_same rfl]
    show Due e₁.settlings → _
    rw [hs.settlings]
    exact id

/-- A message is offered to routing in the place of its delivery, and counted in its stead. -/
theorem Supplying.offer (h : Supplying Due policy limit e) (hr : e.Ready) (hon : e.isOnHandler)
    (hd : e.link.current = some d)
    (haborted : (e.link.delivery d).isAborted → e.link.drain = false ∧ ∀ s s', Due s → Due s') :
    (Receiver.offer d).Ends e
      (Offered (Supplying Due policy (limit + 1)) (Endpoint.Free False))
      (fun _ _ => False) fun _ _ => False := by
  have haccept := (accept_ends hr.tidy hd).and ((accept_advances e .receiver d).and
    ((sameHands_frame.accept_within .receiver d e).and
      (standing_frame.accept_within .receiver d e)))
  refine Attempt.ends_bind.2 (Attempt.ends_adapt.2 (haccept.imp (fun r e₁ h₁ => ?_)
    (fun _ _ h₁ => ?_) fun _ _ h₁ => ?_))
  · obtain ⟨hanswers, hadvances, hhands, hstanding⟩ := h₁
    have hs : SameLedger e e₁ := hhands.toSameLedger
    rcases r with _ | _ | message
    · have hq : e₁.link.queue = e.link.queue.tail := hadvances.resolve_left (by simp)
      obtain ⟨hdrain, hdue⟩ := haborted hanswers.1
      exact Attempt.ends_bind.2 (Attempt.ends_lift.2 ((h.onAborted hhands hd hq
        (hstanding.drain.trans hdrain) hdue).imp (fun _ _ h₂ => h₂.mono (by omega)) fun _ _ => id))
    · have hkept : Kept e d e₁ := hanswers.2.2 hr.whole
      exact (h.beside ⟨hhands, hkept.queue⟩).mono (by omega)
    · have hq : e₁.link.queue = e.link.queue.tail := hadvances.resolve_left (by simp)
      have hasked {e : Endpoint} {txn : TxnId} {create : Bool} : Standing e
          { e with transactions := (e.transactions.lookup txn create).2 } :=
        ⟨⟨rfl, rfl, rfl, ⟨rfl, rfl, rfl⟩, lookup_failing .., rfl, rfl, Nat.le_refl _⟩, rfl, rfl⟩
      have hresolve := (resolveTransaction_ends e₁ d).and
        ((sameHands_frame.resolveTransaction_within beside_looked.toSameHands d e₁).and
          (standing_frame.resolveTransaction_within hasked d e₁))
      refine Attempt.ends_bind.2 (Attempt.ends_adapt.2 (hresolve.imp (fun transaction e₂ h₂ => ?_)
        (fun _ _ h₂ => h₂.1.2 (hstanding.reliable hr.reliable))
        fun _ _ h₂ => h₂.1.2 (hstanding.reliable hr.reliable)))
      obtain ⟨huntouched, hhands₂, hstanding₂⟩ := h₂
      have hon₂ : e₂.isOnHandler := by rw [hstanding₂.here, hstanding.here, hon]
      have hpos : 0 ≤ e₂.pending.receiver := by
        rw [hhands₂.pending, hhands.pending]
        exact h.ledger.pending_nonneg
      refine Attempt.ends_bind.2 (Attempt.ends_lift.2 ((increment_ends hon₂ hpos).imp ?_
        fun _ _ => id))
      rintro _ _ rfl
      exact h.hand (hhands.trans hhands₂) hd (huntouched.queue.trans hq)
  · exact h₁.1.2.elim hr.whole fun hfault => hfault hr.reliable
  · exact h₁.1.elim (fun hn => hn hr.reliable.mild) fun h' => h'.2 hr.reliable

end Offer

section Events

variable {Due Due' : List DeliveryId → Prop} {policy : CreditPolicy} {limit : Int} {e : Endpoint}
  {event : Event}

theorem Endpoint.Unused.returns {I : Endpoint → Prop} {handoff : Handoff}
    (h : e.Unused handoff) : e.Returns I (Endpoint.Open False) handoff :=
  (h.and (deliver_handed e handoff)).imp (fun _ _ _ => trivial)
    (fun _ _ h' _ => ⟨h'.2, h'.1.1, h'.1.2, False.elim⟩)
    fun _ _ h' _ => ⟨h'.2, h'.1.1, h'.1.2, False.elim⟩

theorem Endpoint.Ready.entered (h : e.Ready) : e.entered.Ready where
  tidy := (enter_untouched e).tidy h.tidy
  whole := h.whole
  reliable := (enter_untouched e).toSameSetting.reliable h.reliable

/-- As long as the receiver is open, it stays ready. -/
theorem Endpoint.Ready.after (h : e.Ready) {tight : Prop} (hl : Ledger tight e)
    (ho : (e.after event).lifecycle = .opened) : (e.after event).Ready := by
  have hknown : e.link.queue ⊆ e.begun := fun x hx => hl.known (by simp [hx])
  have heffect := after_effect (fun _ => h.tidy) event
  refine ⟨h.tidy.after hl.numbered hknown h.reliable.mild ho, ?_,
    (after_continued (fun _ => h.tidy) ho).reliable h.reliable⟩
  have hsame {e' : Endpoint} (hu : Untouched e e') : ¬ e'.Spoiled := by
    rw [hu.spoiled]
    exact h.whole
  cases event with
  | begin | transfer | abort => exact h.whole
  | message d =>
    rw [Effect] at heffect
    split at heffect
    · rcases heffect with ⟨_, h'⟩ | h'
      · exact not_spoiled h'.moved.slot
      · exact h'.whole h.reliable h.whole
    · exact hsame heffect
  | close | closeWithError => exact heffect.elim hsame fun h' => absurd ho h'.1
  | setDrain | flow | runPending | settle | submit | setMode => exact hsame heffect

namespace Supplying

/-- The first of the tasks that wait brings a review with it. -/
theorem took {task : Task} {rest : List Task} (h : Supplying Due policy limit e)
    (hl : limit < UInt32.size) (htasks : e.mailbox.tasks = task :: rest)
    (hoff : e.isOnHandler = false → ∀ s, Due' s → Due s) :
    task.perform.Ends (e.withTasks rest) (fun _ => Supplying Due' policy limit)
      fun _ => Supplying Due' policy limit := by
  obtain ⟨hledger, hopen⟩ := h.ledger.taken htasks
  have hrest : Supplying Due policy limit (e.withTasks rest) :=
    h.moved hledger (h.toTallied.took htasks) rfl (Nat.le_refl _) id
  rcases task with owner | ⟨d, outcome⟩
  · obtain rfl := h.asks owner (by simp [htasks])
    exact (hrest.review hl hoff).imp (fun _ _ => id) fun _ _ => False.elim
  · exact hrest.perform (Int.le_of_lt hl) (hopen d rfl) hoff outcome

theorem begin (h : Supplying Due policy limit e) {format : UInt32} {remote : Option RemoteState}
    (hpays : e.link.credit ≠ 0) :
    Supplying Due policy limit { e with link := e.link.beginWith format remote } := by
  refine h.moved (h.ledger.begin format remote) (h.toTallied.same rfl rfl rfl) rfl ?_ id
  have hspent := Credit.toNat_spend hpays
  show e.window ≤ (Credit.spend e.link.credit).toNat + e.pending.receiver.toNat +
    (e.link.beginWith format remote).queue.length
  rw [Link.beginWith_queue, List.length_append, List.length_singleton]
  unfold Endpoint.window
  omega

theorem message (h : Supplying Due policy (UInt32.size - 1) e)
    (hr : e.lifecycle = .opened → e.Ready) {d : DeliveryId} (hevent : e.Sustains (.message d))
    (hundrained : e.Undrained (.message d))
    (hdue : (e.link.delivery d).isAborted → ∀ s s', Due s → Due s') :
    Supplying Due policy (UInt32.size - 1) (e.after (.message d)) := by
  have hentered := h.beside (beside_entered e)
  have hoffer (ho : e.lifecycle = .opened) (hd : e.link.current = some d) :
      (Receiver.offer d).Ends e.entered
        (Offered (Supplying Due policy UInt32.size) (Endpoint.Free False))
        (fun _ => Supplying Due policy UInt32.size) fun _ => Supplying Due policy UInt32.size := by
    have hends := hentered.offer (hr ho).entered (isOnHandler_enter e) hd
      fun hgiven => ⟨hundrained ho hd hgiven, hdue hgiven⟩
    rw [Int.sub_add_cancel] at hends
    exact hends.imp (fun _ _ => id) (fun _ _ => False.elim) fun _ _ => False.elim
  have hroute : e.OnOffer (fun handoff e' => Sink.MayTake (fun e d => d ∉ e.settlings) handoff e' ∧
      e'.Returns (Supplying Due policy UInt32.size) (Endpoint.Open False) handoff) (.message d) :=
    fun ho hd => (hevent.refuses ho hd).imp
      (fun _ _ h' handoff hm => (h' handoff hm).imp_right Endpoint.Unused.returns)
      (fun _ _ => id) fun _ _ => id
  have hends : Supplying Due policy UInt32.size (e.after (.message d)) :=
    ((supplying_custody (Int.le_refl _)).message (h.mono (by omega)) hoffer hroute).state
  have hfew := hevent.few
  simp only [Each.get] at hfew
  exact ⟨⟨hends.policy, by omega, hends.asks⟩, hends.ledger, hends.spares, hends.supplied⟩

/-- No event takes from the window what it does not put back. -/
theorem step (h : Supplying Due policy (UInt32.size - 1) e) (hr : e.lifecycle = .opened → e.Ready)
    (hevent : e.Sustains event) (hundrained : e.Undrained event)
    (hdue : ∀ d, event = .message d → (e.link.delivery d).isAborted → ∀ s s', Due s → Due s') :
    Supplying Due policy (UInt32.size - 1) (e.after event) := by
  refine (supplying_custody (by omega)).event h (fun h => ?_)
    (fun h htasks => h.took (by omega) htasks fun _ _ => id) event hevent.unspent ?_
  · exact (h.review (by omega) fun _ _ => id).imp (fun _ _ => id) fun _ _ => False.elim
  cases event with
  | begin format remote => exact h.begin hevent.pays
  | message d => exact h.message hr hevent hundrained (hdue d rfl)
  | _ => trivial

theorem onFlow (h : Supplying Due policy (UInt32.size - 1) e) (credits : UInt32) (drain : Bool) :
    (e.after (.flow credits drain false)).Supplied := by
  have hentered := h.beside (beside_entered e)
  have hon : e.entered.isOnHandler := isOnHandler_enter e
  have hends : (Receiver.onFlow credits drain).Ends e.entered (fun _ e' => e'.Supplied)
      fun _ _ => False := by
    refine Act.ends_bind.2 (Act.ends_get.2 (Act.ends_bind.2 (Act.ends_modify.2 ?_)))
    refine .imp (review (hentered.beside beside_told) (by omega) fun hoff => ?_)
      (fun _ _ (h' : Supplying (fun _ => True) policy _ _) => h'.supplied trivial) fun _ _ => id
    exact absurd hon (Bool.eq_false_iff.1 hoff)
  exact Act.Ends.state (Q := Endpoint.Supplied) (Act.ends_bind.2 (ends_onHandler.2
    (hends.imp (fun _ _ => id) fun _ _ => False.elim)))

theorem runPending (h : Supplying Due policy (UInt32.size - 1) e) (htasks : e.mailbox.tasks ≠ []) :
    (e.after .runPending).Supplied := by
  obtain ⟨task, rest, hwaiting⟩ := List.exists_cons_of_ne_nil htasks
  have hentered := h.beside (beside_entered e)
  have hon : e.entered.isOnHandler := isOnHandler_enter e
  have hends : (ReceivingLink.drain e.mailbox.tasks.length).Ends e.entered
      (fun _ => Supplying (fun _ => True) policy (UInt32.size - 1))
      fun _ => Supplying (fun _ => True) policy (UInt32.size - 1) := by
    rw [hwaiting]
    refine Act.ends_bind.2 (Act.ends_modifyGet.2 ?_)
    simp only [Mailbox.take?, Endpoint.entered, hwaiting]
    refine Act.ends_bind.2 (.imp (hentered.took (by omega) hwaiting
      fun hoff => absurd hon (by simp [hoff])) (fun _ e₁ h₁ => ?_) fun _ _ => id)
    refine Act.ends_bind.2 (Custody.drain (fun h htasks => ?_) rest.length h₁)
    exact h.took (by omega) htasks fun _ _ => id
  have hsupplied {e' : Endpoint} (h' : Supplying (fun _ => True) policy (UInt32.size - 1) e') :
      e'.Supplied := h'.supplied trivial
  exact Act.Ends.state (Q := Endpoint.Supplied) (Act.ends_bind.2 (Act.ends_bind.2 (Act.ends_get.2
    (ends_onHandler.2 (hends.imp (fun _ _ => hsupplied) fun _ _ => hsupplied)))))

/-- Once credit was reviewed on the handler, the window is wide enough, and stays so. -/
theorem after {W : Prop} (h : Supplying (fun _ => W) policy (UInt32.size - 1) e)
    (hr : e.lifecycle = .opened → e.Ready) (hevent : e.Sustains event)
    (hundrained : e.Undrained event) :
    Supplying (fun _ => W ∨ e.Reviews event) policy (UInt32.size - 1) (e.after event) := by
  have hkept := h.step hr hevent hundrained fun _ _ _ _ _ => id
  -- due from the first settling on, which is not before the event
  have hdue : Supplying (· ≠ e.settlings) policy (UInt32.size - 1) e := h.due (absurd rfl)
  refine ⟨hkept.toTallied, hkept.ledger, hkept.spares, fun hor => hor.elim hkept.supplied
    fun hreviews => ?_⟩
  cases event with
  | flow credits drain elsewhere =>
    obtain rfl : elsewhere = false := hreviews
    exact h.onFlow credits drain
  | runPending => exact h.runPending hreviews
  | message d =>
    refine (hdue.message hr hevent hundrained fun hgiven => ?_).supplied hreviews.2
    exact absurd hgiven (by simp [hreviews.1])
  | settle use => exact (hdue.step hr hevent hundrained nofun).supplied hreviews
  | _ => exact hreviews.elim

end Supplying

end Events

section Runs

variable {policy : CreditPolicy} {W : Prop} {e : Endpoint}

theorem Supplying.afterAll : ∀ (run : List Event) {e : Endpoint},
    Supplying (fun _ => W) policy (UInt32.size - 1) e → (e.lifecycle = .opened → e.Ready) →
    e.Throughout Endpoint.Sustains run → e.Throughout Endpoint.Undrained run →
    Supplying (fun _ => W) policy (UInt32.size - 1) (e.afterAll run) ∧
      ((e.afterAll run).lifecycle = .opened → (e.afterAll run).Ready)
  | [], _, h, hr, _, _ => ⟨h, hr⟩
  | _ :: run, _, h, hr, hrun, hundrained => by
    refine Supplying.afterAll run ((h.after hr hrun.1 hundrained.1).due .inl) (fun ho => ?_) hrun.2
      hundrained.2
    exact (hr (opened_of_after ho)).after h.ledger ho

/-- In a run in which nothing fails but routing, and no delivery that was given up is dealt with
while the sender wants its credit used up, the window is wide enough for the policy ever after a
review of credit on the handler. So when nothing is queued or unsettled, credit is above the
threshold or at the refill, and a policy that refills at all leaves the sender some. -/
theorem supplied_of_reviews (h : e.Fresh) (hc : e.storage.Clean) (hr : e.Reliable)
    (hs : e.plan.Spares settlementPoints) {before rest : List Event} {event : Event}
    (hrun : e.Throughout Endpoint.Sustains (before ++ event :: rest))
    (hundrained : e.Throughout Endpoint.Undrained (before ++ event :: rest))
    (hreview : (e.afterAll before).Reviews event) :
    let e' := e.afterAll (before ++ event :: rest)
    let policy := e.config.policy
    let supply := e'.link.credit.toNat + (e'.unsettled .receiver).toNat + e'.link.queue.length
    (policy.threshold.toNat < supply ∨ policy.refill.toNat ≤ supply) ∧
      (e'.link.queue = [] → e'.unsettled .receiver = 0 →
        (policy.threshold < e'.link.credit ∨ policy.refill ≤ e'.link.credit) ∧
          (1 ≤ policy.refill → 1 ≤ e'.link.credit)) := by
  intro e' policy supply
  obtain ⟨hbefore, hevent, hrest⟩ := Endpoint.throughout_append.1 hrun
  obtain ⟨hubefore, huevent, hurest⟩ := Endpoint.throughout_append.1 hundrained
  have hstart : Supplying (fun _ => False) policy (UInt32.size - 1) e :=
    ⟨h.tallied, h.ledger False, hs, False.elim⟩
  have hready : e.lifecycle = .opened → e.Ready := fun _ =>
    ⟨tidy_none hc h.slot, not_spoiled h.slot, hr⟩
  obtain ⟨hsupply, hready⟩ := hstart.afterAll before hready hbefore hubefore
  obtain ⟨hend, -⟩ := (hsupply.after hready hevent huevent).afterAll rest
    (fun ho => (hready (opened_of_after ho)).after hsupply.ledger ho) hrest hurest
  have he' : ((e.afterAll before).after event).afterAll rest = e' :=
    (e.afterAll_append before (event :: rest)).symm
  rw [he'] at hend
  have hsupplied := hend.supplied (.inr hreview)
  rw [Endpoint.Supplied, hend.policy, Endpoint.window,
    ← hend.toNat_unsettled (by omega)] at hsupplied
  refine ⟨hsupplied, fun hqueue hunsettled => ?_⟩
  rw [hqueue, hunsettled, List.length_nil, UInt32.toNat_zero] at hsupplied
  simp only [UInt32.lt_iff_toNat_lt, UInt32.le_iff_toNat_le, UInt32.toNat_one]
  omega

/-- After a review with one delivery unsettled, one is given up, one refused and the first one
settled elsewhere. -/
theorem supplied_of_reviews_refusal :
    let policy : CreditPolicy := { threshold := 2, refill := 4 }
    let e : Endpoint := .start { policy } "orders" 1 ⟨1⟩ .memory none
    let before : List Event := [.begin 0 none, .transfer [1] false, .message ⟨1⟩]
    let rest : List Event := [.begin 0 none, .abort, .message ⟨2⟩, .setMode .failRejected,
      .begin 0 none, .transfer [2] false, .message ⟨3⟩, .settle ⟨0, some .accepted, true⟩,
      .runPending]
    let e' := e.afterAll (before ++ .flow 0 false false :: rest)
    (e.Throughout Endpoint.Sustains (before ++ .flow 0 false false :: rest) ∧
      e.Throughout Endpoint.Undrained (before ++ .flow 0 false false :: rest) ∧
      (e.afterAll before).Reviews (.flow 0 false false)) ∧
      (e'.link.queue = [] ∧ e'.unsettled .receiver = 0) ∧
      (policy.threshold < e'.link.credit ∨ policy.refill ≤ e'.link.credit) ∧
      1 ≤ e'.link.credit := by
  intro policy e before rest e'
  have hrun : e.Throughout Endpoint.Sustains (before ++ .flow 0 false false :: rest) := by
    decide +kernel
  have hundrained : e.Throughout Endpoint.Undrained (before ++ .flow 0 false false :: rest) := by
    decide +kernel
  have hidle : e'.link.queue = [] ∧ e'.unsettled .receiver = 0 := by decide +kernel
  have hreliable : e.Reliable := ⟨fun _ _ _ _ => rfl, rfl, fun _ => rfl, rfl⟩
  have hspares : e.plan.Spares settlementPoints := fun _ _ _ _ => nofun
  have hreview : (e.afterAll before).Reviews (.flow 0 false false) := rfl
  have hfresh : e.Fresh := Endpoint.start_fresh ..
  have hpolicy : e.config.policy = policy := rfl
  have he' : e.afterAll (before ++ .flow 0 false false :: rest) = e' := rfl
  obtain ⟨-, hsupplied⟩ := @supplied_of_reviews e hfresh (.empty rfl rfl) hreliable hspares
    before rest (.flow 0 false false) hrun hundrained hreview
  rw [hpolicy, he'] at hsupplied
  obtain ⟨hwide, hcredit⟩ := hsupplied hidle.1 hidle.2
  exact ⟨⟨hrun, hundrained, hreview⟩, hidle, hwide, hcredit (by decide)⟩

/-- The sender gives up a delivery, and only then wants its credit used up. The delivery is dealt
with after that, its unit of credit is not put back, and the sender is left with none. -/
theorem starved_of_draining :
    let policy : CreditPolicy := { threshold := 1, refill := 1 }
    let e : Endpoint := .start { policy } "orders" 1 ⟨1⟩ .memory none
    let review : Event := .flow 0 false false
    let rest : List Event := [.begin 0 none, .abort, .setDrain true, .message ⟨1⟩]
    let e' := e.afterAll (review :: rest)
    (e.Fresh ∧ e.storage.Clean ∧ e.Reliable ∧ e.plan.Spares settlementPoints) ∧
      (e.Throughout Endpoint.Sustains (review :: rest) ∧
        e.Throughout Endpoint.GivenUpUndrained (review :: rest) ∧ e.Reviews review) ∧
      (e'.link.queue = [] ∧ e'.unsettled .receiver = 0 ∧ e'.mailbox.tasks = []) ∧
      ¬ (policy.threshold < e'.link.credit ∨ policy.refill ≤ e'.link.credit) ∧
      1 ≤ policy.refill ∧ e'.link.credit = 0 := by
  intro policy e review rest e'
  have hreliable : e.Reliable := ⟨fun _ _ _ _ => rfl, rfl, fun _ => rfl, rfl⟩
  have hspares : e.plan.Spares settlementPoints := fun _ _ _ _ => nofun
  have hrun : e.Throughout Endpoint.Sustains (review :: rest) ∧
      e.Throughout Endpoint.GivenUpUndrained (review :: rest) := by
    decide +kernel
  refine ⟨⟨Endpoint.start_fresh .., .empty rfl rfl, hreliable, hspares⟩, ⟨hrun.1, hrun.2, rfl⟩, ?_⟩
  decide +kernel

end Runs

end ReceivingLink
