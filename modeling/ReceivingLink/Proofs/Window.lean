import ReceivingLink.Proofs.Custody

/-!
# The credit window

Each unit of credit that the sender was granted is still its credit, or it was used for a delivery
that is queued, or for one that routing has and that is not settled yet. The sum of the three is
the window. A top-up fills it to what the policy says, less the deliveries queued, and a delivery
that was given up puts back the unit that it took. So the window never gets wider than it was at
first or than a top-up and the queue can make it, whatever goes wrong: `window_le`.
-/

namespace ReceivingLink

section Arithmetic

variable {policy : CreditPolicy} {credit pending amount : UInt32}

theorem Credit.toNat_add (credit amount : UInt32) :
    (Credit.add credit amount).toNat = min (credit.toNat + amount.toNat) (UInt32.size - 1) := by
  unfold add
  rw [UInt32.toNat_ofNat']
  exact Nat.mod_eq_of_lt (by simp only [UInt32.size]; omega)

theorem Credit.toNat_spend (h : credit ≠ 0) : (Credit.spend credit).toNat + 1 = credit.toNat := by
  have hpos : 0 < credit.toNat := Nat.pos_of_ne_zero fun h0 => h (UInt32.toNat_inj.1 h0)
  unfold spend
  rw [if_neg h, UInt32.toNat_sub_of_le _ _ (by rw [UInt32.le_iff_toNat_le]; exact hpos)]
  exact Nat.sub_add_cancel hpos

theorem Credit.isLow_iff {threshold : UInt32} :
    Credit.isLow credit pending threshold ↔ credit.toNat + pending.toNat ≤ threshold.toNat := by
  unfold isLow
  rw [decide_eq_true_iff]
  omega

/-- A grant is what credit and unsettled deliveries are short of what the policy says. -/
theorem CreditPolicy.toNat_grant (h : policy.grant? credit pending = some amount) :
    credit.toNat + amount.toNat + pending.toNat = policy.refill.toNat := by
  unfold grant? Credit.positive? Credit.topUp at h
  split_ifs at h with _ hpositive
  have hamount := congrArg UInt32.toNat (Option.some.inj h)
  rw [UInt32.toNat_ofNat', Nat.mod_eq_of_lt (by simp only [UInt32.size] at hpositive; omega)]
    at hamount
  omega

/-- A top-up adds all that it grants. -/
theorem CreditPolicy.toNat_add_grant (h : policy.grant? credit pending = some amount) :
    (Credit.add credit amount).toNat = credit.toNat + amount.toNat := by
  have hfull := toNat_grant h
  have hrefill : policy.refill.toNat < UInt32.size := policy.refill.toNat_lt
  rw [Credit.toNat_add]
  omega

/-- A top-up brings credit and unsettled deliveries to what the policy says. -/
theorem CreditPolicy.add_grant (h : policy.grant? credit pending = some amount) :
    (Credit.add credit amount).toNat + pending.toNat = policy.refill.toNat := by
  rw [toNat_add_grant h, toNat_grant h]

/-- Without a top-up there is enough credit for the policy. -/
theorem CreditPolicy.enough (h : policy.grant? credit pending = none) :
    policy.threshold.toNat < credit.toNat + pending.toNat ∨
      policy.refill.toNat ≤ credit.toNat + pending.toNat := by
  have hrefill : policy.refill.toNat < UInt32.size := policy.refill.toNat_lt
  unfold grant? Credit.positive? Credit.topUp at h
  split_ifs at h with hlow hpositive
  · exact .inr (by omega)
  · rw [Credit.isLow_iff] at hlow
    exact .inl (by omega)

theorem toNat_countWord {n : Int} (h : n < UInt32.size) :
    (Endpoint.countWord n).toNat = n.toNat := by
  unfold Endpoint.countWord
  split_ifs with hn
  · rw [UInt32.toNat_ofNat']
    exact Nat.mod_eq_of_lt (by simp only [UInt32.size] at hn; omega)
  · rw [UInt32.toNat_zero]
    omega

end Arithmetic

/-- A review of credit has been asked for or made: there is enough, or a grant was made. -/
inductive Reviewed (e : Endpoint) (e' : Endpoint) : Prop where
  | later (elsewhere : e.isOnHandler = false)
    (h : Beside (e.posting (.replenish (some .receiver))) e')
  | enough (here : e.isOnHandler)
    (h : e.config.policy.grant? e.link.credit (e.unsettled .receiver) = none) (same : e' = e)
  | granted (amount : UInt32) (e₁ : Endpoint) (here : e.isOnHandler)
    (h : e.config.policy.grant? e.link.credit (e.unsettled .receiver) = some amount)
    (before : Beside e e₁) (after : Beside { e₁ with link := e₁.link.flow amount } e')

section Review

variable {e : Endpoint}

theorem beside_flushNow : flushNow.Within Beside fun _ _ => True := by
  intro e
  refine Act.ends_bind.2 ((requireOnHandler_stays e).imp ?_ ?_)
  · rintro _ e₁ rfl
    have hflushed : Beside e₁ { e₁ with mailbox := e₁.mailbox.flushed } :=
      ⟨⟨sameLedger_frame.flushed, rfl, rfl, rfl⟩, rfl⟩
    refine Act.ends_bind.2 (Act.ends_modify.2 ?_)
    exact (beside_frame.invoke_noting (beside_granting rfl)).imp (fun _ _ => hflushed.trans)
      fun _ _ h => ⟨hflushed.trans h.1, trivial⟩
  · rintro _ _ rfl
    exact ⟨.refl _, trivial⟩

/-- A review breaks off before the grant or after it. -/
theorem replenish_reviews (e : Endpoint) :
    (replenish (some .receiver)).Ends e (fun _ e' => Reviewed e e')
      fun _ e' => Beside e e' ∨ Reviewed e e' := by
  have F := beside_frame
  refine Act.ends_bind.2 (Act.ends_get.2 (Act.ends_ite.2 ⟨fun hoff => ?_, fun hon => ?_⟩))
  · have hoff : e.isOnHandler = false := by simpa using hoff
    refine Act.ends_bind.2 (Act.ends_get.2 (Act.ends_bind.2 (Act.ends_modify.2 ?_)))
    exact Act.ends_ite.2 ⟨fun _ => .later hoff beside_told, fun _ => .later hoff (.refl _)⟩
  have hon : e.isOnHandler := by simpa using hon
  dsimp only
  split
  · exact .enough hon ‹_› rfl
  rename_i amount hgrant
  have hrest : Act.Within Beside (fun _ _ => True) (do
      flushNow
      count fun c => { c with creditGranted := c.creditGranted + amount.toNat }
      report (.creditReplenished e.link.name e.link.credit (e.unsettled .receiver) amount)) :=
    .bind F.toFraming beside_flushNow fun _ => .bind F.toFraming (.change fun _ => beside_counted)
      fun _ => F.report_within rfl
  refine Act.ends_bind.2 (Act.ends_bind.2 ((F.invoke_noting (beside_granting rfl)).imp
    (fun _ e₁ h₁ => ?_) fun _ _ h => .inl h.1))
  exact Act.ends_modify.2 ((hrest _).imp (fun _ _ => .granted _ _ hon hgrant h₁)
    fun _ _ h => .inr (.granted _ _ hon hgrant h₁ h.1))

end Review

namespace Endpoint

/-- The credit of the sender, the deliveries queued, and those that routing has. -/
def window (e : Endpoint) : Nat :=
  e.link.credit.toNat + e.pending.receiver.toNat + e.link.queue.length

end Endpoint

/-- At most `limit` deliveries are unsettled, and whoever asked for a review means those of the
receiver. -/
structure Tallied (policy : CreditPolicy) (limit : Int) (e : Endpoint) : Prop where
  policy : e.config.policy = policy
  few : e.pending.receiver ≤ limit
  asks : ∀ owner, .replenish owner ∈ e.mailbox.tasks → owner = some .receiver

/-- The window is no wider than `bound`, and at most `room` deliveries are queued. -/
structure Windowed (policy : CreditPolicy) (bound room : Nat) (limit : Int) (e : Endpoint) : Prop
    extends Tallied policy limit e where
  within : e.window ≤ bound
  room : e.link.queue.length ≤ room

section Tally

variable {policy : CreditPolicy} {limit limit' : Int} {e e' : Endpoint} {d : DeliveryId}

namespace Tallied

theorem same (h : Tallied policy limit e) (hconfig : e'.config = e.config)
    (hpending : e'.pending.receiver = e.pending.receiver)
    (htasks : e'.mailbox.tasks = e.mailbox.tasks) : Tallied policy limit e' :=
  ⟨by rw [hconfig, h.policy], by rw [hpending]; exact h.few, by rw [htasks]; exact h.asks⟩

theorem hands (h : Tallied policy limit e) (hs : SameHands e e') : Tallied policy limit e' :=
  h.same hs.config hs.pending hs.tasks

theorem mono (h : Tallied policy limit e) (hl : limit ≤ limit') : Tallied policy limit' e :=
  ⟨h.policy, Int.le_trans h.few hl, h.asks⟩

theorem countedOff (h : Tallied policy limit e) : Tallied policy (limit - 1) e.countedOff := by
  have hfew := h.few
  refine ⟨h.policy, ?_, h.asks⟩
  simp only [Endpoint.countedOff, Each.set]
  omega

theorem increment (h : Tallied policy limit e) : Tallied policy (limit + 1)
    { e with pending := e.pending.set (e.pending.receiver + 1) .receiver } := by
  have hfew := h.few
  refine ⟨h.policy, ?_, h.asks⟩
  simp only [Each.set]
  omega

theorem post (h : Tallied policy limit e) {task : Task}
    (ht : ∀ owner, task = .replenish owner → owner = some .receiver) :
    Tallied policy limit (e.posting task) := by
  refine ⟨h.policy, h.few, fun owner ho => ?_⟩
  unfold Endpoint.posting Mailbox.post at ho
  split_ifs at ho
  · rcases List.mem_append.1 ho with ho | ho
    · exact h.asks owner ho
    · exact ht owner (List.mem_singleton.1 ho).symm
  · exact h.asks owner ho

theorem ask (h : Tallied policy limit e) :
    Tallied policy limit (e.posting (.replenish (some .receiver))) := by
  refine h.post fun owner ho => ?_
  cases ho
  rfl

theorem postSettle (h : Tallied policy limit e) (outcome : Option Outcome) :
    Tallied policy limit (e.posting (.settle d outcome)) := h.post fun _ ho => nomatch ho

theorem took {task : Task} {rest : List Task} (h : Tallied policy limit e)
    (htasks : e.mailbox.tasks = task :: rest) : Tallied policy limit (e.withTasks rest) :=
  ⟨h.policy, h.few, fun owner ho => h.asks owner (by
    rw [htasks]
    exact List.mem_cons_of_mem _ ho)⟩

theorem toNat_unsettled (h : Tallied policy limit e) (hl : limit < UInt32.size) :
    (e.unsettled .receiver).toNat = e.pending.receiver.toNat :=
  toNat_countWord (Int.lt_of_le_of_lt h.few hl)

theorem review (h : Tallied policy limit e) (hr : Reviewed e e') : Tallied policy limit e' := by
  rcases hr with ⟨-, hs⟩ | ⟨-, -, rfl⟩ | ⟨amount, e₁, -, -, hs₁, hs₂⟩
  · exact h.ask.hands hs.toSameHands
  · exact h
  · have h₁ : Tallied policy limit { e₁ with link := e₁.link.flow amount } :=
      (h.hands hs₁.toSameHands).same rfl rfl rfl
    exact h₁.hands hs₂.toSameHands

end Tallied

theorem Endpoint.Fresh.tallied (h : e.Fresh) : Tallied e.config.policy (UInt32.size - 1) e := by
  have hpending : e.pending.receiver = 0 := h.uncounted
  refine ⟨rfl, ?_, by simp [h.tasks]⟩
  rw [hpending]
  decide

end Tally

section Invariant

variable {policy : CreditPolicy} {bound room : Nat} {limit : Int} {e e' : Endpoint}
  {d : DeliveryId}

/-- Nothing else counts for the window. -/
theorem Windowed.same (h : Windowed policy bound room limit e) (ht : Tallied policy limit e')
    (hcredit : e'.link.credit = e.link.credit) (hqueue : e'.link.queue <:+ e.link.queue)
    (hpending : e'.pending.receiver = e.pending.receiver) :
    Windowed policy bound room limit e' := by
  have hlen := hqueue.length_le
  refine ⟨ht, ?_, Nat.le_trans hlen h.room⟩
  have hw := h.within
  unfold Endpoint.window at hw ⊢
  rw [hcredit, hpending]
  omega

theorem Windowed.hands (h : Windowed policy bound room limit e) (hs : SameHands e e') :
    Windowed policy bound room limit e' :=
  h.same (h.toTallied.hands hs) hs.credit hs.queue hs.pending

/-- A change of neither the link's credit and queue, nor the count and the tasks that wait. -/
theorem Windowed.aside (h : Windowed policy bound room limit e) (hconfig : e'.config = e.config)
    (hcredit : e'.link.credit = e.link.credit) (hqueue : e'.link.queue = e.link.queue)
    (hpending : e'.pending = e.pending) (htasks : e'.mailbox.tasks = e.mailbox.tasks) :
    Windowed policy bound room limit e' :=
  h.same (h.toTallied.same hconfig (by rw [hpending]) htasks) hcredit (hqueue ▸ List.suffix_rfl)
    (by rw [hpending])

theorem Windowed.mono {bound' : Nat} {limit' : Int} (h : Windowed policy bound room limit e)
    (hb : bound ≤ bound') (hl : limit ≤ limit') : Windowed policy bound' room limit' e :=
  ⟨h.toTallied.mono hl, Nat.le_trans h.within hb, h.room⟩

/-- A review keeps the window as long as the count of unsettled deliveries is a word. -/
theorem Windowed.review (h : Windowed policy bound room limit e) (hl : limit < UInt32.size)
    (hb : policy.refill.toNat + room ≤ bound) :
    (replenish (some .receiver)).Ends e (fun _ => Windowed policy bound room limit)
      fun _ => Windowed policy bound room limit := by
  have hreviewed {e' : Endpoint} (hr : Reviewed e e') : Windowed policy bound room limit e' := by
    rcases hr with ⟨-, hs⟩ | ⟨-, -, rfl⟩ | ⟨amount, e₁, -, hgrant, hs₁, hs₂⟩
    · have hasked : Windowed policy bound room limit (e.posting (.replenish (some .receiver))) :=
        h.same h.toTallied.ask rfl List.suffix_rfl rfl
      exact hasked.hands hs.toSameHands
    · exact h
    · have h₁ := h.hands hs₁.toSameHands
      suffices h₂ : Windowed policy bound room limit { e₁ with link := e₁.link.flow amount } from
        h₂.hands hs₂.toSameHands
      -- the top-up brings credit and count to the refill, and the queue has its room besides
      refine ⟨h₁.toTallied.same rfl rfl rfl, ?_, h₁.room⟩
      have hfull := CreditPolicy.add_grant hgrant
      rw [h.policy, ← hs₁.credit, h.toNat_unsettled hl, ← hs₁.pending] at hfull
      have hroom := h₁.room
      simp only [Endpoint.window, Link.flow]
      omega
  exact (replenish_reviews e).imp (fun _ _ => hreviewed) fun _ _ hr =>
    hr.elim (fun hs => h.hands hs.toSameHands) hreviewed

theorem Windowed.countedOff (h : Windowed policy bound room limit e) :
    Windowed policy bound room (limit - 1) e.countedOff := by
  have hw := h.within
  refine ⟨h.toTallied.countedOff, ?_, h.room⟩
  simp only [Endpoint.window, Endpoint.countedOff, Each.set] at hw ⊢
  omega

/-- A delivery that is settled is counted off, whether its settling succeeds or not. -/
theorem Windowed.settle (h : Windowed policy bound room limit e) (hl : limit ≤ UInt32.size)
    (hb : policy.refill.toNat + room ≤ bound) (d : DeliveryId) :
    (settleOnHandler d).Ends e (fun _ => Windowed policy bound room limit)
      fun _ => Windowed policy bound room limit := by
  have hlower : limit - 1 ≤ limit := by omega
  have hcounted := h.countedOff.mono (Nat.le_refl _) hlower
  refine settleOnHandler_steps (fun _ => h) (fun _ => hcounted)
    (fun _ _ => hcounted.aside rfl rfl rfl rfl rfl) fun _ _ => ?_
  -- the count is a word in the review even if it was not before: one delivery was counted off
  have hsettled : Windowed policy bound room (limit - 1) ((e.settled d).noting (.settle d)) :=
    h.countedOff.aside rfl rfl rfl rfl rfl
  exact (hsettled.review (by omega) hb).imp (fun _ _ h' => h'.mono (Nat.le_refl _) hlower)
    fun _ _ h' => h'.mono (Nat.le_refl _) hlower

theorem windowed_custody (hl : limit ≤ UInt32.size) (hb : policy.refill.toNat + room ≤ bound) :
    Custody (Windowed policy bound room limit) (fun _ _ => True) (fun _ _ => True)
      fun _ _ => True where
  beside := fun hs h => h.hands hs.toSameHands
  still := fun _ _ => trivial
  stays := fun _ _ => trivial
  opens := id
  keep := fun h _ => h.aside rfl rfl rfl rfl rfl
  release := fun h _ _ => ⟨h.aside rfl rfl rfl rfl rfl, trivial⟩
  post := fun h _ => h.same (h.toTallied.postSettle _) rfl List.suffix_rfl rfl
  ask := fun h => h.same h.toTallied.ask rfl List.suffix_rfl rfl
  perform := by
    intro e d outcome h _
    rcases outcome with _ | outcome
    · exact h.settle hl hb d
    · refine Act.ends_bind.2 ((disposition_stays e d outcome).imp ?_ ?_)
      · rintro _ e₁ rfl
        have hdisposed : Windowed policy bound room limit
            { e.noting (.disposition d outcome) with link := e.link.dispose d outcome } :=
          h.aside rfl rfl rfl rfl rfl
        exact hdisposed.settle hl hb d
      · rintro _ e₁ rfl
        exact h.aside rfl rfl rfl rfl rfl

/-- A delivery that was given up puts back the unit of credit that it took, or none. -/
theorem Windowed.onAborted (h : Windowed policy bound room limit e) (d : DeliveryId) :
    (Receiver.onAborted d).Ends e (fun _ => Windowed policy (bound + 1) room limit)
      fun _ => Windowed policy (bound + 1) room limit := by
  have hwiden {e' : Endpoint} (h' : Windowed policy bound room limit e') :
      Windowed policy (bound + 1) room limit e' := h'.mono (Nat.le_succ bound) (Int.le_refl limit)
  have hforgone : Windowed policy bound room limit (e.forgone d) := h.aside rfl rfl rfl rfl rfl
  have hgranting : Windowed policy (bound + 1) room limit ((e.forgone d).granting 1) := by
    refine ⟨hforgone.toTallied.same rfl rfl rfl, ?_, hforgone.room⟩
    have hw := hforgone.within
    have hone : (1 : UInt32).toNat = 1 := rfl
    show (Credit.add (e.forgone d).link.credit 1).toNat + (e.forgone d).pending.receiver.toNat +
      (e.forgone d).link.queue.length ≤ bound + 1
    rw [Credit.toNat_add]
    unfold Endpoint.window at hw
    omega
  refine onAborted_steps (fun _ => ?_) (fun _ _ hs => hwiden (hforgone.hands hs.toSameHands))
    (fun _ => ?_) fun _ _ hs => hgranting.hands hs.toSameHands
  · exact hwiden (h.aside rfl rfl rfl rfl rfl)
  · exact hwiden (hforgone.aside rfl rfl rfl rfl rfl)

theorem Windowed.increment (h : Windowed policy bound room limit e) :
    Windowed policy (bound + 1) room (limit + 1)
      { e with pending := e.pending.set (e.pending.receiver + 1) .receiver } := by
  have hw := h.within
  refine ⟨h.toTallied.increment, ?_, h.room⟩
  simp only [Endpoint.window, Each.set] at hw ⊢
  omega

/-- A delivery that left the queue took a unit of credit out of the window. -/
theorem window_of_advances (hs : SameHands e e') (hd : e.link.current = some d)
    (hq : e'.link.queue = e.link.queue.tail) : e.window = e'.window + 1 := by
  obtain ⟨rest, hrest⟩ : ∃ rest, e.link.queue = d :: rest := List.head?_eq_some_iff.1 hd
  unfold Endpoint.window
  rw [hs.credit, hs.pending, hq, hrest, List.length_cons, List.tail_cons]
  rfl

/-- What is offered to routing was taken from the queue and counted. -/
theorem Windowed.offer (h : Windowed policy bound room limit e) (hd : e.link.current = some d) :
    (Receiver.offer d).Ends e
      (Offered (Windowed policy bound room (limit + 1)) fun _ _ => True)
      (fun _ => Windowed policy bound room (limit + 1))
      fun _ => Windowed policy bound room (limit + 1) := by
  have hstay {e' : Endpoint} (h' : Windowed policy bound room limit e') :
      Windowed policy bound room (limit + 1) e' := h'.mono (Nat.le_refl bound) (by omega)
  -- the unit of credit that left the window with the delivery is put back or counted next
  have hpast {e₁ : Endpoint} (hs : SameHands e e₁) (hq : e₁.link.queue = e.link.queue.tail) :
      ∃ less, bound = less + 1 ∧ Windowed policy less room limit e₁ := by
    have hw := window_of_advances hs hd hq
    have hbound := h.within
    have h₁ := h.hands hs
    exact ⟨bound - 1, by omega, h₁.toTallied, by omega, h₁.room⟩
  refine Receiver.offer_steps (fun _ hs => hstay (h.hands hs)) (fun _ hs => hstay (h.hands hs))
    (fun e₁ hs hq => ?_) fun e₁ handoff hs hq _ => ?_
  · obtain ⟨less, rfl, h₁⟩ := hpast hs hq
    exact (h₁.onAborted d).imp (fun _ _ => hstay) fun _ _ => hstay
  · obtain ⟨less, rfl, h₁⟩ := hpast hs hq
    exact ⟨h₁.increment.aside rfl rfl rfl rfl rfl, trivial⟩

end Invariant

namespace Endpoint

/-- The peer begins a delivery only while it has credit. -/
def Pays (e : Endpoint) : Event → Prop
  | .begin _ _ => e.link.credit ≠ 0
  | _ => True

instance (e : Endpoint) : DecidablePred e.Pays
  | .begin .. => inferInstanceAs (Decidable (_ ≠ _))
  | .transfer .. | .abort | .setDrain _ | .message _ | .flow .. | .close _ | .closeWithError _
  | .runPending | .settle _ | .submit | .setMode _ => isTrue trivial

/-- The peer pays for its deliveries, at most `room` of them are queued, and fewer are unsettled
than a word can count. -/
structure Bounded (room : Nat) (e : Endpoint) (event : Event) : Prop where
  pays : e.Pays event
  queued : (e.after event).link.queue.length ≤ room
  few : (e.after event).pending.get .receiver < UInt32.size

instance (room : Nat) (e : Endpoint) (event : Event) : Decidable (e.Bounded room event) :=
  decidable_of_iff (e.Pays event ∧ (e.after event).link.queue.length ≤ room ∧
    (e.after event).pending.get .receiver < UInt32.size)
    ⟨fun h => ⟨h.1, h.2.1, h.2.2⟩, fun h => ⟨h.pays, h.queued, h.few⟩⟩

end Endpoint

section Runs

variable {policy : CreditPolicy} {bound room : Nat} {e : Endpoint}

theorem Windowed.after {event : Event} (h : Windowed policy bound room (UInt32.size - 1) e)
    (hb : policy.refill.toNat + room ≤ bound) (hevent : e.Bounded room event) :
    Windowed policy bound room (UInt32.size - 1) (e.after event) := by
  have hfew : (e.after event).pending.receiver ≤ UInt32.size - 1 := by
    have hfew := hevent.few
    simp only [Each.get] at hfew
    omega
  have C : Custody (Windowed policy bound room (UInt32.size - 1)) (fun _ _ => True)
      (fun _ _ => True) fun _ _ => True := windowed_custody (by omega) hb
  refine C.event h (fun h => h.review (by omega) hb) ?_ event
    (onUse_of_forall (fun _ _ => trivial) event) ?_
  · intro e task rest h htasks
    have hrest : Windowed policy bound room (UInt32.size - 1) (e.withTasks rest) :=
      h.same (h.toTallied.took htasks) rfl List.suffix_rfl rfl
    rcases task with owner | ⟨d, outcome⟩
    · obtain rfl := h.asks owner (by simp [htasks])
      exact hrest.review (by omega) hb
    · exact C.perform hrest trivial
  · cases event with
    | begin format remote =>
      have hw := h.within
      have hspent := Credit.toNat_spend hevent.pays
      refine ⟨⟨h.policy, hfew, h.asks⟩, ?_, hevent.queued⟩
      show (Credit.spend e.link.credit).toNat + e.pending.receiver.toNat +
        (e.link.beginWith format remote).queue.length ≤ bound
      rw [Link.beginWith_queue, List.length_append, List.length_singleton]
      unfold Endpoint.window at hw
      omega
    | message d =>
      have C : Custody (Windowed policy bound room UInt32.size) (fun _ _ => True)
          (fun _ _ => True) fun _ _ => True := windowed_custody (Int.le_refl _) hb
      have h₀ : Windowed policy bound room UInt32.size e := h.mono (Nat.le_refl _) (by omega)
      have hoffer (hd : e.link.current = some d) :=
        (h.hands (beside_entered e).toSameHands).offer hd
      rw [Int.sub_add_cancel] at hoffer
      have hroute : e.OnOffer (fun handoff e' => Sink.MayTake (fun _ _ => True) handoff e' ∧
          e'.Returns (Windowed policy bound room UInt32.size) (fun _ _ => True) handoff)
          (.message d) := by
        refine onOffer_of_forall (fun handoff e' => ⟨mayTake_of_forall (fun _ _ => trivial) _ _,
          Attempt.ends_always (fun _ _ => trivial) ?_ ?_⟩) _
        · exact fun _ _ _ => trivial
        · exact fun _ _ _ => trivial
      have hends : Windowed policy bound room UInt32.size (e.after (.message d)) :=
        (C.message h₀ (fun _ => hoffer) hroute).state
      exact ⟨⟨hends.policy, hfew, hends.asks⟩, hends.within, hends.room⟩
    | _ => trivial

/-- No run of events makes the sender's credit, the deliveries that routing has and those queued
more than the credit at first, or than a top-up and what may be queued. -/
theorem window_le (h : e.Fresh) (run : List Event)
    (hrun : e.Throughout (Endpoint.Bounded room) run) :
    let e' := e.afterAll run
    e'.link.credit.toNat + (e'.unsettled .receiver).toNat + e'.link.queue.length ≤
      max e.link.credit.toNat (e.config.policy.refill.toNat + room) := by
  intro e'
  have hstart : Windowed e.config.policy (max e.link.credit.toNat
      (e.config.policy.refill.toNat + room)) room (UInt32.size - 1) e := by
    have hpending : e.pending.receiver = 0 := h.uncounted
    refine ⟨h.tallied, ?_, by simp [h.queue]⟩
    simp only [Endpoint.window, hpending, h.queue, List.length_nil]
    omega
  have hend : Windowed _ _ room (UInt32.size - 1) e' := Endpoint.Throughout.afterAll
    (fun h hevent => Windowed.after h (Nat.le_max_right ..) hevent) run hrun hstart
  rw [hend.toNat_unsettled (by omega)]
  exact hend.within

/-- A top-up while a delivery is queued, and what is put back when it is given up, make the window
as wide as it can get. -/
theorem window_le_topUp :
    let policy : CreditPolicy := { threshold := 3, refill := 4 }
    let e : Endpoint := .start { policy } "orders" 1 ⟨1⟩ .memory none
    let run : List Event := [.begin 0 none, .flow 0 false false, .abort, .message ⟨1⟩]
    let e' := e.afterAll run
    e.Throughout (Endpoint.Bounded 1) run ∧ e'.link.credit = 5 ∧
      e'.link.credit.toNat + (e'.unsettled .receiver).toNat + e'.link.queue.length ≤
        max 1 (4 + 1) := by
  intro policy e run e'
  have hrun : e.Throughout (Endpoint.Bounded 1) run := by decide +kernel
  have hcredit : e'.link.credit = 5 := by decide +kernel
  have hfresh : e.Fresh := ⟨rfl, rfl, rfl, rfl, rfl, rfl, rfl, rfl, rfl, rfl, rfl⟩
  exact ⟨hrun, hcredit, window_le hfresh run hrun⟩

end Runs

end ReceivingLink
