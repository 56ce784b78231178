import ReceivingLink.Proofs.Custody

/-!
# Accounting for deliveries

A delivery is accounted for when it was settled or its settlement is to come. What routing does with
the handles that it holds loses none of them, and a delivery that is passed to routing is accounted
for afterwards, whether routing took it or not.
-/

namespace ReceivingLink

namespace Endpoint

/-- A delivery was settled, or its settlement is to come. -/
def Accounted (e : Endpoint) (d : DeliveryId) : Prop := 0 < e.settles d ∨ d ∈ e.owed

end Endpoint

/-- No delivery has dropped out of account. -/
structure Heeds (e e' : Endpoint) : Prop where
  attended : e'.mailbox.attended = e.mailbox.attended
  begun : e'.begun = e.begun
  settles : ∀ d, e.settles d ≤ e'.settles d
  owed : ∀ d ∈ e.owed, e'.Accounted d

/-- What is left of an event for the current delivery. If the link was moved past it, then it was
given up or passed to routing, and is accounted for; or else nothing was done about it. -/
structure Disposes (e : Endpoint) (d : DeliveryId) (e' : Endpoint) : Prop where
  heeds : Heeds e e'
  shifts : Shifts e e'
  passed : e'.link.queue = e.link.queue ∨
    e'.Accounted d ∧ ((e.link.delivery d).isAborted ∨ e'.handoffs ≠ e.handoffs) ∨
    SameLedger e e' ∧ (e.link.delivery d).isAborted = false

/-- The delivery was settled besides, and no other settlement is to come than before. -/
structure Settles (e : Endpoint) (d : DeliveryId) (e' : Endpoint) : Prop where
  heeds : Heeds e e'
  same : e'.owed = e.owed
  settled : 0 < e'.settles d

section Heeding

variable {e e' e₁ e₂ e₃ : Endpoint} {accepted inHand : List DeliveryId} {d : DeliveryId}

theorem Heeds.refl (e : Endpoint) : Heeds e e := ⟨rfl, rfl, fun _ => Nat.le_refl _, fun _ => .inr⟩

theorem Heeds.accounted (h : Heeds e e') (hd : e.Accounted d) : e'.Accounted d :=
  hd.elim (fun hs => .inl (Nat.lt_of_lt_of_le hs (h.settles d))) (h.owed d)

theorem Heeds.trans (h : Heeds e₁ e₂) (h' : Heeds e₂ e₃) : Heeds e₁ e₃ :=
  ⟨h'.attended.trans h.attended, h'.begun.trans h.begun,
    fun d => Nat.le_trans (h.settles d) (h'.settles d), fun d hd => h'.accounted (h.owed d hd)⟩

theorem SameLedger.heeds (h : SameLedger e e') : Heeds e e' :=
  ⟨h.attended, h.begun, fun d => Nat.le_of_eq (h.settles d).symm, fun _ hd => .inr (h.owed ▸ hd)⟩

theorem SameLedger.sameEntries (h : SameLedger e e') : SameEntries e e' :=
  ⟨h.plan, h.pending, h.owed, h.begun, h.settles, h.queue⟩

/-- A delivery that was begun is settled on the link. -/
theorem heeds_settle (hd : d ∈ e.begun) {pending : Each Int} {calls : List Call} :
    let e' : Endpoint := { e with link := e.link.settle d, pending, calls }
    Heeds e e' ∧ 0 < e'.settles d := by
  have hself : (e.settled d).settles d = e.settles d + 1 := settles_settled_self hd
  refine ⟨⟨rfl, settled_begun e d, fun x => ?_, fun _ => .inr⟩, Nat.lt_of_lt_of_eq ?_ hself.symm⟩
  · show e.settles x ≤ (e.settled d).settles x
    rcases eq_or_ne x d with rfl | hx
    · omega
    · exact Nat.le_of_eq (settles_settled_ne hx).symm
  · omega

theorem settleOnHandler_heeds (hd : d ∈ e.begun) :
    (settleOnHandler d).Ends e (fun _ => Settles e d) fun _ _ => True := by
  refine settleOnHandler_steps (P := Settles e d) (K := fun _ => True) (fun _ => trivial)
    (fun _ => trivial) (fun _ _ => trivial) fun _ _ => ?_
  obtain ⟨h₁, hs⟩ : Heeds e ((e.settled d).noting (.settle d)) ∧
      0 < ((e.settled d).noting (.settle d)).settles d := heeds_settle hd
  refine (sameLedger_frame.replenish_within _ _).imp (fun _ e₂ h₂ => ?_) fun _ _ _ => trivial
  exact ⟨h₁.trans h₂.heeds, h₂.owed, (h₂.settles d).symm ▸ hs⟩

theorem heeds_dispose {calls : List Call} {outcome : Outcome} :
    Heeds e { e with link := e.link.dispose d outcome, calls } :=
  ⟨rfl, Link.map_change _ (fun _ => by rfl) d,
    fun x => Nat.le_of_eq (Link.delivery_change _ (fun _ => by rfl) (fun _ => by rfl) x).symm,
    fun _ => .inr⟩

theorem perform_heeds (hd : d ∈ e.begun) (outcome : Option Outcome) :
    (Task.perform (.settle d outcome)).Ends e (fun _ => Settles e d) fun _ _ => True := by
  rcases outcome with _ | outcome
  · exact settleOnHandler_heeds hd
  refine Act.ends_bind.2 ((disposition_stays e d outcome).imp ?_ fun _ _ _ => trivial)
  rintro _ e₁ rfl
  have h₁ : Heeds e { e.noting (.disposition d outcome) with link := e.link.dispose d outcome } :=
    heeds_dispose
  refine Act.Ends.imp (settleOnHandler_heeds ?_) (fun _ e₂ h₂ => ?_) fun _ _ => id
  · exact h₁.begun ▸ hd
  · exact ⟨h₁.trans h₂.heeds, h₂.same, h₂.settled⟩

theorem settleFailed_heeds (hd : d ∈ e.begun) (outcome : Outcome) :
    (Receiver.settleFailed d outcome).Ends e (fun _ e' => Heeds e e' ∧ 0 < e'.settles d)
      fun _ _ => True := by
  have hperform := Act.ends_bind.1 (perform_heeds hd (some outcome))
  refine Act.ends_bind.2 (hperform.imp (fun _ e₁ h₁ => ?_) fun _ _ => id)
  refine Act.ends_bind.2 (h₁.imp (fun _ e₂ h₂ => ?_) fun _ _ => id)
  have hb : Beside e₂ { e₂ with counters := e₂.counters.depart .failed } := beside_counted
  exact Act.ends_modify.2 ⟨h₂.heeds.trans hb.toSameLedger.heeds, h₂.settled⟩

theorem onAborted_heeds (hd : d ∈ e.begun) :
    (Receiver.onAborted d).Ends e (fun _ e' => Heeds e e' ∧ 0 < e'.settles d) fun _ _ => True := by
  obtain ⟨h₁, hs⟩ : Heeds e (e.forgone d) ∧ 0 < (e.forgone d).settles d := heeds_settle hd
  have hgranting : SameLedger (e.forgone d) ((e.forgone d).granting 1) :=
    (sameLedger_frame.granting rfl).trans sameLedger_frame.flowed
  have hledger {e' : Endpoint} (h₂ : SameLedger (e.forgone d) e') :
      Heeds e e' ∧ 0 < e'.settles d := ⟨h₁.trans h₂.heeds, (h₂.settles d).symm ▸ hs⟩
  exact onAborted_steps (fun _ => trivial) (fun _ _ h₂ => hledger h₂.toSameLedger)
    (fun _ => trivial) fun _ _ h₂ => hledger (hgranting.trans h₂.toSameLedger)

/-- A task that is attended waits for the loop. -/
theorem runLater_heeds (ha : e.mailbox.attended) (outcome : Option Outcome) :
    (runLater (.settle d outcome)).Ends e (fun _ e' => Heeds e e' ∧ e'.Accounted d)
      fun _ _ => True := by
  have howed : (e.posting (.settle d outcome)).owed = e.owed ++ [d] := by
    simp [Endpoint.posting, Endpoint.owed, Mailbox.post, ha, Task.delivery?]
  have hposted : Heeds e (e.posting (.settle d outcome)) := by
    refine ⟨e.mailbox.post_attended _, rfl, fun _ => Nat.le_refl _, fun x hx => .inr ?_⟩
    exact howed ▸ List.mem_append_left _ hx
  have hd : (e.posting (.settle d outcome)).Accounted d := .inr (by simp [howed])
  refine Act.ends_bind.2 (Act.ends_get.2 (Act.ends_bind.2 (Act.ends_modify.2
    (Act.ends_ite.2 ⟨fun _ => ?_, fun _ => ⟨hposted, hd⟩⟩))))
  have htold {e : Endpoint} {notice : Notice} :
      Heeds e { e with notices := e.notices ++ [notice] } := beside_told.toSameLedger.heeds
  exact ⟨hposted.trans htold, htold.accounted hd⟩

theorem settleNow_heeds (ha : e.mailbox.attended) (hd : d ∈ e.begun) (outcome : Option Outcome) :
    (ReceivingLink.settle d outcome).Ends e (fun _ e' => Heeds e e' ∧ e'.Accounted d)
      fun _ _ => True := by
  refine Act.ends_bind.2 (Act.ends_get.2 (Act.ends_ite.2 ⟨fun _ => ?_, fun _ => ?_⟩))
  · exact (perform_heeds hd outcome).imp (fun _ _ h₁ => ⟨h₁.heeds, .inl h₁.settled⟩) fun _ _ => id
  · exact runLater_heeds ha outcome

/-- What is held no longer is accounted for otherwise. -/
theorem Heeds.release {i : Nat} {handoff : Handoff} (hheld : e.sink.held[i]? = some handoff)
    (h : Heeds (e.holding (e.sink.held.eraseIdx i)) e') (hd : e'.Accounted handoff.delivery) :
    Heeds e e' := by
  refine ⟨h.attended, h.begun, h.settles, fun x hx => ?_⟩
  obtain ⟨hi, hget⟩ := List.getElem?_eq_some_iff.1 hheld
  have hperm := (List.getElem_cons_eraseIdx_perm hi).map (·.delivery)
  rw [hget] at hperm
  rcases List.mem_append.1 hx with hx | hx
  · rcases List.mem_cons.1 (hperm.symm.subset hx) with rfl | hx
    · exact hd
    · exact h.owed x (List.mem_append_left _ hx)
  · exact h.owed x (List.mem_append_right _ hx)

theorem Books.owed_begun (h : Books e accepted inHand) : e.owed ⊆ e.begun := fun _ hx =>
  h.known (List.mem_append_right _ (h.owedAccepted hx))

theorem use_heeds (ha : e.mailbox.attended) (hb : e.owed ⊆ e.begun) (use : Sink.Use) :
    use.perform.Ends e (fun _ e' => Heeds e e') fun _ _ => True := by
  refine Act.ends_bind.2 (Act.ends_get.2 ?_)
  split
  · exact .refl e
  rename_i handoff hheld
  have hd : handoff.delivery ∈ e.begun :=
    hb (List.mem_append_left _ (List.mem_map.2 ⟨handoff, List.mem_of_getElem? hheld, rfl⟩))
  refine Act.ends_bind.2 (Act.ends_modify.2 (Act.ends_ite.2 ⟨fun _ => ?_, fun _ => ?_⟩))
  · exact Act.Ends.imp (runLater_heeds (by exact ha) use.outcome)
      (fun _ _ h₁ => .release hheld h₁.1 h₁.2) fun _ _ => id
  · refine ends_onHandler.2 (Act.Ends.imp (settleNow_heeds (by exact ha) (by exact hd) use.outcome)
      (fun _ e₁ h₁ => ?_) fun _ _ => id)
    exact .release hheld ⟨h₁.1.attended, h₁.1.begun, h₁.1.settles, h₁.1.owed⟩ h₁.2

theorem Books.useAll_heeds : ∀ (uses : List Sink.Use) {e : Endpoint}, Books e accepted inHand →
    e.mailbox.attended → (Sink.useAll uses).Ends e (fun _ e' => Heeds e e') fun _ _ => False
  | [], e, _, _ => Heeds.refl e
  | use :: uses, e, h, ha => by
    have huse := (h.use use).and (use_heeds ha h.owed_begun use)
    refine Act.ends_bind.2 (huse.imp (fun _ e₁ h₁ => ?_) fun _ _ => And.left)
    exact (useAll_heeds uses h₁.1.1 (h₁.2.attended.trans ha)).imp (fun _ _ => h₁.2.trans)
      fun _ _ => id

/-- Routing that accepts a delivery holds it or has settled it. -/
theorem Books.take_heeds {handoff : Handoff} (h : Books e accepted [handoff.delivery])
    (hon : e.isOnHandler) (ha : e.mailbox.attended) : (Sink.take handoff).Ends e
      (fun _ e' => Heeds e e' ∧ e'.Accounted handoff.delivery) (fun _ e' => Heeds e e')
      fun _ e' => Heeds e e' := by
  let e₀ : Endpoint := { e with sink := { e.sink with delivered := e.sink.delivered + 1 } }
  let e₁ : Endpoint := e₀.holding (e₀.sink.held ++ [handoff])
  have h₀ : Books e₀ accepted [handoff.delivery] :=
    h.owe h.owedOnce fun x hx =>
      ⟨h.owedAccepted hx, h.unsettled x (List.mem_append_right _ hx)⟩
  have hbegun : handoff.delivery ∈ e₀.begun := h.known (by simp)
  have ha₀ : e₀.mailbox.attended := ha
  have hmem : handoff.delivery ∈ accepted ++ [handoff.delivery] := by simp
  have hopen : e₀.settles handoff.delivery = 0 := h₀.unsettled _ (by simp)
  have hkeep : Books e₁ (accepted ++ [handoff.delivery]) [] ∧ Heeds e e₁ ∧
      e₁.Accounted handoff.delivery := by
    have hkept := h₀.accept.keep hmem hopen h₀.notOwed
    refine ⟨hkept.1, ⟨rfl, rfl, fun _ => Nat.le_refl _, fun x hx => .inr ?_⟩, .inr ?_⟩
    · rcases List.mem_append.1 hx with hx | hx
      · exact List.mem_append_left _ (by simp [e₁, e₀, Endpoint.holding, hx])
      · exact List.mem_append_right _ hx
    · exact List.mem_append_left _ (by simp [e₁, Endpoint.holding])
  refine Attempt.ends_bind.2 (Attempt.ends_modify.2 (Attempt.ends_bind.2 (Attempt.ends_get.2 ?_)))
  show Attempt.Ends _ e₀ _ _ _
  have hstart : Heeds e e₀ := ⟨rfl, rfl, fun _ => Nat.le_refl _, fun _ => .inr⟩
  split
  · exact Attempt.ends_lift.2 (Act.ends_modify.2 hkeep.2)
  · rename_i outcome _
    have hsettle := (h₀.accept.settleNow (by exact hon) hmem hopen h₀.notOwed (some outcome)).and
      (settleNow_heeds ha₀ hbegun (some outcome))
    exact Attempt.ends_lift.2 (hsettle.imp (fun _ _ h₁ => ⟨hstart.trans h₁.2.1, h₁.2.2⟩)
      fun _ _ h₁ => h₁.1.elim)
  · exact Attempt.ends_throw.2 hstart
  · exact Attempt.ends_throw.2 hstart
  · rename_i uses answer _
    rcases answer with _ | error | payload
    · refine Attempt.ends_bind.2 (Attempt.ends_lift.2 (Act.ends_modify.2 ?_))
      refine Attempt.ends_bind.2 (Attempt.ends_lift.2 ((hkeep.1.useAll_heeds uses ha).imp
        (fun _ e₂ h₂ => ?_) fun _ _ => False.elim))
      exact Attempt.ends_pure.2 ⟨hkeep.2.1.trans h₂, h₂.accounted hkeep.2.2⟩
    · exact Attempt.ends_bind.2 (Attempt.ends_lift.2 ((h₀.useAll_heeds uses ha).imp
        (fun _ _ => hstart.trans) fun _ _ => False.elim))
    · exact Attempt.ends_bind.2 (Attempt.ends_lift.2 ((h₀.useAll_heeds uses ha).imp
        (fun _ _ => hstart.trans) fun _ _ => False.elim))

theorem Books.deliver_heeds {handoff : Handoff} (h : Books e accepted [handoff.delivery])
    (hon : e.isOnHandler) (ha : e.mailbox.attended) : (Sink.deliver handoff).Ends e
      (fun _ e' => Heeds e e' ∧ e'.Accounted handoff.delivery) (fun _ e' => Heeds e e')
      fun _ e' => Heeds e e' := by
  have hs : SameBooks e (e.noting (.deliver handoff)) := .aside rfl rfl rfl rfl rfl rfl rfl
  have hnoted : Heeds e (e.noting (.deliver handoff)) :=
    ⟨rfl, rfl, fun _ => Nat.le_refl _, fun _ => .inr⟩
  have h₀ := hs.books h
  refine Attempt.ends_bind.2 (Attempt.ends_lift.2 (Act.ends_modifyGet.2 (Attempt.ends_bind.2 ?_)))
  show Attempt.Ends (Sink.raise (e.plan e.calls.length .deliver)) (e.noting (.deliver handoff))
    _ _ _
  rcases e.plan e.calls.length .deliver with _ | k | f | f
  · have htake := (h₀.take (hs.isOnHandler hon)).and (h₀.take_heeds (hs.isOnHandler hon) ha)
    refine Attempt.ends_pure.2 (Attempt.ends_bind.2 (htake.imp (fun _ e₁ h₁ => ?_)
      (fun _ _ h₁ => hnoted.trans h₁.2) fun _ _ h₁ => hnoted.trans h₁.2))
    refine Attempt.ends_bind.2 (Attempt.ends_get.2 ?_)
    rw [h₁.1.1.keepsWord]
    exact ⟨hnoted.trans h₁.2.1, h₁.2.2⟩
  · exact hnoted
  · exact hnoted
  · exact hnoted

/-- A delivery that is passed to routing is accounted for, whether it is accepted or not. -/
theorem handOff_heeds (h : Books e accepted []) (hon : e.isOnHandler) (hd : e.Picked accepted d)
    (ha : e.mailbox.attended) (message : Message) (transaction : Option TxnId) :
    (Receiver.handOff message d transaction).Ends e (fun _ e' => Heeds e e' ∧ e'.Accounted d)
      (fun _ e' => Heeds e e' ∧ e'.Accounted d) fun _ _ => False := by
  refine Attempt.ends_bind.2 (Attempt.ends_lift.2 ((increment_ends hon h.pending_nonneg).imp ?_
    fun _ _ => id))
  rintro _ e₁ rfl
  have hcounted : Heeds e
      { e with pending := e.pending.set (e.pending.receiver + 1) .receiver } :=
    ⟨rfl, rfl, fun _ => Nat.le_refl _, fun _ => .inr⟩
  have h₁ := h.increment hd
  have hsettled {e₂ : Endpoint} (hb : Books e₂ accepted [d]) (hon : e₂.isOnHandler)
      (h₂ : Heeds e e₂) (outcome : Outcome) : (Receiver.settleFailed d outcome).Ends e₂
        (fun _ e' => Heeds e e' ∧ e'.Accounted d) fun _ _ => False :=
    ((hb.settleFailed hon outcome).and (settleFailed_heeds (h₂.begun ▸ hd.known) outcome)).imp
      (fun _ _ h₃ => ⟨h₂.trans h₃.2.1, .inl h₃.2.2⟩) fun _ _ => And.left
  refine Attempt.ends_bind.2 (Attempt.ends_get.2 (Attempt.ends_bind.2 (Attempt.ends_lift.2
    (Act.ends_contain.2 (Act.ends_run.2 (.imp (.and (Books.deliver (by exact h₁) hon)
      (Books.deliver_heeds (by exact h₁) hon ha)) (fun _ e₂ h₂ => ?_) (fun error e₂ h₂ => ?_)
      fun k e₂ h₂ => ?_))))))
  · have hb : Beside e₂ { e₂ with counters := e₂.counters.depart .routed } := beside_counted
    exact Attempt.ends_lift.2 ⟨(hcounted.trans h₂.2.1).trans hb.toSameLedger.heeds, h₂.2.2⟩
  · refine Attempt.ends_bind.2 (Attempt.ends_lift.2 (Act.ends_modify.2 (Attempt.ends_lift.2 ?_)))
    have hb : Beside e₂
        { e₂ with notices := e₂.notices ++ [.routingFailed e.link.name d error] } := beside_told
    refine (hsettled (hb.toSameLedger.sameEntries.books h₂.1.1) ?_ ?_ _).imp (fun _ _ => id)
      fun _ _ => id
    · exact h₂.1.2.isOnHandler hon
    · exact (hcounted.trans h₂.2).trans hb.toSameLedger.heeds
  · refine Attempt.ends_bind.2 (Attempt.ends_lift.2 ((hsettled h₂.1.1.1 ?_ ?_ _).imp
      (fun _ _ => id) fun _ _ => id))
    · exact h₂.1.1.2.isOnHandler hon
    · exact hcounted.trans h₂.2

theorem process_disposes (h : Books e accepted []) (hon : e.isOnHandler)
    (hd : e.link.current = some d) (ha : e.mailbox.attended) :
    (Receiver.process d).Ends e (fun _ => Disposes e d) (fun _ => Disposes e d)
      fun _ => Disposes e d := by
  have hbegun : d ∈ e.begun := h.known (by simp [List.mem_of_mem_head? hd])
  have hsame {e' : Endpoint} (hs : SameLedger e e') (hq : Shifts e e')
      (hr : e'.link.queue = e.link.queue ∨ (e.link.delivery d).isAborted = false) :
      Disposes e d e' := ⟨hs.heeds, hq, hr.imp_right fun hg => .inr ⟨hs, hg⟩⟩
  refine Attempt.ends_bind.2 (Attempt.ends_adapt.2 (Attempt.ends_bind.2 (Attempt.ends_get.2 ?_)))
  by_cases hab : (e.link.delivery d).isAborted
  · -- a delivery that was given up is settled, unless the link panics before it moves on
    have hstays {e' : Endpoint} (hb : Beside e e') : Disposes e d e' :=
      hsame hb.toSameLedger (.inl hb.stays) (.inl hb.stays)
    rw [if_pos hab]
    refine Attempt.ends_bind.2 (Attempt.ends_lift.2 ((beside_frame.discard_within .receiver e).imp
      (fun _ e₁ h₁ => ?_) fun _ _ h₁ => hstays h₁.1))
    refine Attempt.ends_bind.2 (Attempt.ends_lift.2 (Act.ends_bind.2
      ((beside_frame.invoke_within rfl e₁).imp (fun _ e₂ h₂ => ?_) fun _ _ h₂ =>
        hstays (h₁.trans h₂.1))))
    have hb := h₁.trans h₂
    have hs : SameLedger e { e₂ with link := e₂.link.advance } :=
      hb.toSameLedger.trans (SameHands.advance e₂).toSameLedger
    have hq : Advances e { e₂ with link := e₂.link.advance } := by
      simp [Advances, hb.stays]
    have habort := (onAborted_ends (hs.sameEntries.books h) (h.picked hs.sameEntries hd hq)).and
      ((onAborted_heeds (hs.begun ▸ hbegun)).and (untouched_frame.onAborted_within d _))
    refine Attempt.ends_lift.2 (habort.imp (fun _ e₃ h₃ => ?_) fun _ _ h₃ => h₃.1.elim)
    obtain ⟨-, ⟨hh, hsettled⟩, hu⟩ := h₃
    exact ⟨hs.heeds.trans hh, .inr (hu.queue.trans hq), .inr (.inl ⟨.inl hsettled, .inl hab⟩)⟩
  · have hgiven : (e.link.delivery d).isAborted = false := by simpa using hab
    rw [if_neg hab]
    refine Attempt.ends_ite.2 ⟨fun _ => ?_, fun _ => ?_⟩
    · have hpartial := (sameHands_frame.acceptPartial_within .receiver d e).and
        (sameQueue_frame.acceptPartial_within .receiver d e)
      exact Attempt.ends_bind.2 (hpartial.imp
        (fun _ _ h₁ => hsame h₁.1.toSameLedger (.inl h₁.2) (.inr hgiven))
        (fun _ _ h₁ => hsame h₁.1.toSameLedger (.inl h₁.2) (.inr hgiven))
        fun _ _ h₁ => hsame h₁.1.1.toSameLedger (.inl h₁.2.1) (.inr hgiven))
    have hcomplete := (sameHands_frame.acceptComplete_within .receiver d e).and
      ((sameBooks_frame.acceptComplete_within .receiver d e).and
        (acceptComplete_advances e .receiver d))
    refine Attempt.ends_bind.2 (hcomplete.imp (fun message e₁ h₁ => ?_)
      (fun _ _ h₁ => hsame h₁.1.toSameLedger h₁.2.2 (.inr hgiven))
      fun _ _ h₁ => hsame h₁.1.1.toSameLedger h₁.2.2 (.inr hgiven))
    obtain ⟨hs₁, hb₁, hq₁⟩ := h₁
    have hpick := h.picked hb₁.toSameEntries hd hq₁
    have hresolve := (resolveTransaction_ends e₁ d).and
      ((sameHands_frame.resolveTransaction_within beside_looked.toSameHands d e₁).and
        (sameBooks_frame.resolveTransaction_within (.aside rfl rfl rfl rfl rfl rfl rfl) d e₁))
    have hunresolved {e₂ : Endpoint} (hu : Untouched e₁ e₂) (hs₂ : SameHands e₁ e₂) :
        Disposes e d e₂ :=
      hsame (hs₁.trans hs₂).toSameLedger (.inr (hu.queue.trans hq₁)) (.inr hgiven)
    refine Attempt.ends_bind.2 (Attempt.ends_adapt.2 (hresolve.imp (fun transaction e₂ h₂ => ?_)
      (fun _ _ h₂ => hunresolved h₂.1.1 h₂.2.1) fun _ _ h₂ => hunresolved h₂.1.1 h₂.2.1.1))
    obtain ⟨hu₂, hs₂, hb₂⟩ := h₂
    have hs := (hs₁.trans hs₂).toSameLedger
    have hb := hb₁.trans hb₂
    have hhand := (handOff_heeds (hb.books h) (hb.isOnHandler hon) (hb₂.picked hpick)
      (hs.attended.trans ha) message transaction).and (handOff_hands e₂ message d transaction)
    have hdone {e₃ : Endpoint} (h₃ : Heeds e₂ e₃ ∧ e₃.Accounted d)
        (hh : Handed e₂ d message e₃) : Disposes e d e₃ := by
      obtain ⟨handoff, -, -, hu⟩ := hh
      have hhandoffs : e₃.handoffs = e.handoffs ++ [handoff] := by
        rw [hu.handoffs, ← hs.handoffs]
        simp [Endpoint.handoffs, Endpoint.noting, Call.handoff?]
      refine ⟨hs.heeds.trans h₃.1, .inr (hu.queue.trans (hu₂.queue.trans hq₁)),
        .inr (.inl ⟨h₃.2, .inr ?_⟩)⟩
      simp [hhandoffs]
    exact hhand.imp (fun _ _ h₃ => hdone h₃.1 h₃.2) (fun _ _ h₃ => hdone h₃.1 h₃.2)
      fun _ _ h₃ => h₃.1.elim

end Heeding

end ReceivingLink
