import ReceivingLink.Proofs.Books

/-!
# The count of unsettled deliveries

Whatever order the events of a run come in, the tracker counts the deliveries that routing accepted
and that were not settled yet: `pending_eq_unsettled`. Collaborators may fail as they like as long
as the link, the deliveries and the flush do not panic, and routing may settle what it holds
from anywhere, each handoff once.
-/

namespace ReceivingLink

section Steps

variable {e : Endpoint}

theorem ends_onHandler {α : Type} {act : Act Panic Endpoint α} {P : α → Endpoint → Prop}
    {K : Panic → Endpoint → Prop} :
    (onHandler act).Ends e P K ↔ act.Ends { e with onHandler := some e.mailbox.handler }
      (fun a e' => P a { e' with onHandler := e.onHandler })
      fun k e' => K k { e' with onHandler := e.onHandler } := Act.ends_bracket

theorem invoke_ends {call : Call} {points : List Point} (h : e.plan.Spares points)
    (hc : call.point ∈ points) :
    (invoke call).Ends e (fun _ e' => e' = { e with calls := e.calls ++ [call] })
      fun _ _ => False := by
  simp only [invoke, note, Act.ends_bind, Act.ends_modifyGet]
  split
  · exact h _ _ hc _ ‹_›
  · rfl

theorem runLater_ends (task : Task) : (runLater task).Ends e
    (fun _ e' => SameBooks { e with mailbox := e.mailbox.post task } e') fun _ _ => False := by
  simp only [runLater, report, Act.ends_bind, Act.ends_get, Act.ends_modify]
  split
  · exact .aside rfl rfl rfl rfl rfl rfl rfl
  · exact .refl _

theorem sameBooks_post_replenish (e : Endpoint) (owner : Option Owner) :
    SameBooks e { e with mailbox := e.mailbox.post (.replenish owner) } := by
  refine ⟨⟨?_, rfl, rfl, rfl, rfl⟩, rfl, ?_, rfl, fun _ => rfl, List.suffix_rfl⟩
  · unfold Mailbox.post
    split <;> rfl
  · unfold Endpoint.owed Mailbox.post
    split
    · simp [Task.delivery?]
    · rfl

theorem requireOnHandler_ends (h : e.isOnHandler) :
    requireOnHandler.Ends e (fun _ e' => e' = e) fun _ _ => False := by
  simp [requireOnHandler, h]

theorem grant_ends (h : e.plan.Spares settlementPoints) (credits : UInt32) :
    (Link.grant credits).Ends e (fun _ e' => SameBooks e e') fun _ _ => False := by
  refine Act.ends_bind.2 ((invoke_ends h ?_).imp ?_ fun _ _ => id)
  · simp [Call.point, settlementPoints]
  · rintro _ _ rfl
    exact ⟨⟨rfl, rfl, rfl, rfl, rfl⟩, rfl, rfl, rfl, fun _ => rfl, List.suffix_rfl⟩

theorem flushNow_ends (h : e.plan.Spares settlementPoints) (hon : e.isOnHandler) :
    flushNow.Ends e (fun _ e' => SameBooks e e') fun _ _ => False := by
  refine Act.ends_bind.2 ((requireOnHandler_ends hon).imp ?_ fun _ _ => id)
  rintro _ _ rfl
  refine Act.ends_bind.2 (Act.ends_modify.2 (.imp (invoke_ends (by exact h) ?_) ?_ fun _ _ => id))
  · simp [Call.point, settlementPoints]
  · rintro _ _ rfl
    exact ⟨⟨rfl, rfl, rfl, rfl, rfl⟩, rfl, rfl, rfl, fun _ => rfl, List.suffix_rfl⟩

/-- A top-up of credit does not touch the books, whether it is made now or later. -/
theorem replenish_ends (h : e.plan.Spares settlementPoints) (owner : Option Owner) :
    (replenish owner).Ends e (fun _ e' => SameBooks e e') fun _ _ => False := by
  unfold replenish
  refine Act.ends_bind.2 (Act.ends_ite.2 ⟨fun _ => ?_, fun hon => ?_⟩)
  · refine (runLater_ends _).imp (fun _ e' hs => ?_) fun _ _ => id
    exact (sameBooks_post_replenish e owner).trans hs
  have hon : e.isOnHandler := by simpa using hon
  dsimp only
  split
  · exact .refl e
  refine Act.ends_bind.2 ((grant_ends h _).imp (fun _ e₁ h₁ => ?_) fun _ _ => id)
  refine Act.ends_bind.2 ((flushNow_ends (by rw [h₁.plan]; exact h) (h₁.isOnHandler hon)).imp
    (fun _ e₂ h₂ => ?_) fun _ _ => id)
  exact (h₁.trans h₂).trans (.aside rfl rfl rfl rfl rfl rfl rfl)

theorem disposition_ends (h : e.plan.Spares settlementPoints) (d : DeliveryId)
    (outcome : Outcome) :
    (Delivery.disposition d outcome).Ends e (fun _ e' => SameBooks e e') fun _ _ => False := by
  refine Act.ends_bind.2 ((invoke_ends h ?_).imp ?_ fun _ _ => id)
  · simp [Call.point, settlementPoints]
  · rintro _ _ rfl
    refine ⟨⟨rfl, rfl, rfl, rfl, rfl⟩, rfl, rfl, ?_, fun x => ?_, List.suffix_rfl⟩
    · exact Link.map_change _ (fun _ => by rfl) d
    · exact Link.delivery_change _ (fun _ => by rfl) (fun _ => by rfl) x

theorem deliverySettle_ends (h : e.plan.Spares settlementPoints) (d : DeliveryId) :
    (Delivery.settle d).Ends e
      (fun _ e' => SameBooks { e with link := e.link.settle d } e') fun _ _ => False := by
  refine Act.ends_bind.2 ((invoke_ends h ?_).imp ?_ fun _ _ => id)
  · simp [Call.point, settlementPoints]
  · rintro _ _ rfl
    exact .aside rfl rfl rfl rfl rfl rfl rfl

theorem decrement_ends (hon : e.isOnHandler) (hpos : 0 < e.pending.receiver) :
    (Tracker.decrement .receiver).Ends e
      (fun _ e' => e' = { e with pending := e.pending.set (e.pending.receiver - 1) .receiver })
      fun _ _ => False := by
  refine Act.ends_bind.2 ((requireOnHandler_ends hon).imp ?_ fun _ _ => id)
  rintro _ _ rfl
  simp only [Act.ends_bind, Act.ends_modify, Act.ends_get]
  rw [if_neg (by simp only [Each.get, Each.set]; omega)]
  rfl

/-- Counting does not fail on the handler while the count is in order. -/
theorem increment_ends (hon : e.isOnHandler) (hpos : 0 ≤ e.pending.receiver) :
    (Tracker.increment .receiver).Ends e
      (fun _ e' => e' = { e with pending := e.pending.set (e.pending.receiver + 1) .receiver })
      fun _ _ => False := by
  refine Act.ends_bind.2 (Act.ends_get.2 (Act.ends_ite.2 ⟨fun hneg => ?_, fun _ => ?_⟩))
  · exact absurd hpos (Int.not_le.2 hneg)
  · refine Act.ends_bind.2 ((requireOnHandler_ends hon).imp ?_ fun _ _ => id)
    rintro _ _ rfl
    exact Act.ends_modify.2 rfl

/-- No delivery is added to a count that is below zero. -/
theorem increment_panics (hneg : e.pending.receiver < 0) :
    (Tracker.increment .receiver).Ends e (fun _ _ => False) fun _ e' => e' = e :=
  Act.ends_bind.2 (Act.ends_get.2 (Act.ends_ite.2 ⟨fun _ => Act.ends_bind.2 rfl,
    fun hn => absurd hneg hn⟩))

/-- A delivery is settled without a panic as long as some delivery is counted. -/
theorem settleOnHandler_ends (h : e.plan.Spares settlementPoints) (hon : e.isOnHandler)
    (hpos : 0 < e.pending.receiver) (d : DeliveryId) :
    (settleOnHandler d).Ends e (fun _ e' => SameBooks (e.settled d) e') fun _ _ => False := by
  refine Act.ends_bind.2 ((requireOnHandler_ends hon).imp ?_ fun _ _ => id)
  rintro _ _ rfl
  refine Act.ends_bind.2 ((decrement_ends hon hpos).imp ?_ fun _ _ => id)
  rintro _ _ rfl
  refine Act.ends_bind.2 (.imp (deliverySettle_ends (by exact h) d) (fun _ e₁ h₁ => ?_)
    fun _ _ => id)
  refine (replenish_ends (by rw [h₁.plan]; exact h) _).imp (fun _ e₂ h₂ => ?_) fun _ _ => id
  exact h₁.trans h₂

end Steps

section Settling

variable {e : Endpoint} {accepted inHand : List DeliveryId} {d : DeliveryId}

theorem SameStage.settled (e : Endpoint) (d : DeliveryId) : SameStage e (e.settled d) :=
  ⟨rfl, rfl, rfl, rfl, rfl⟩

/-- Settling an accepted delivery that nothing is owed for any more keeps the books. -/
theorem Books.perform_settle (h : Books e accepted inHand) (hon : e.isOnHandler)
    (hd : d ∈ accepted) (h0 : e.settles d = 0) (ho : d ∉ e.owed) (outcome : Option Outcome) :
    (Task.perform (.settle d outcome)).Ends e
      (fun _ e' => Books e' accepted inHand ∧ SameStage e e') fun _ _ => False := by
  have hsettle {e : Endpoint} (h : Books e accepted inHand) (hon : e.isOnHandler)
      (h0 : e.settles d = 0) (ho : d ∉ e.owed) : (settleOnHandler d).Ends e
        (fun _ e' => Books e' accepted inHand ∧ SameStage e e') fun _ _ => False := by
    have hpos : 0 < e.pending.receiver := by
      have hm : d ∈ accepted.filter (e.settles · = 0) := List.mem_filter.2 ⟨hd, by simp [h0]⟩
      have hlen := List.length_pos_of_mem hm
      rw [h.count]
      omega
    refine (settleOnHandler_ends h.spares hon hpos d).imp (fun _ e' hs => ?_) fun _ _ => id
    exact ⟨hs.books (h.settle_accepted hd h0 ho), (SameStage.settled e d).trans hs.toSameStage⟩
  rcases outcome with _ | outcome
  · exact hsettle h hon h0 ho
  · refine Act.ends_bind.2 ((disposition_ends h.spares d outcome).imp (fun _ e₁ h₁ => ?_)
      fun _ _ => id)
    refine (hsettle (h₁.books h) (h₁.isOnHandler hon) ?_ ?_).imp (fun _ e₂ h₂ => ?_) fun _ _ => id
    · rw [h₁.settles]
      exact h0
    · rw [h₁.owed]
      exact ho
    · exact ⟨h₂.1, h₁.toSameStage.trans h₂.2⟩

/-- Settling the delivery in hand puts it out of hand. -/
theorem Books.settleFailed (h : Books e accepted [d]) (hon : e.isOnHandler) (outcome : Outcome) :
    (Receiver.settleFailed d outcome).Ends e
      (fun _ e' => Books e' accepted [] ∧ SameStage e e') fun _ _ => False := by
  refine Act.ends_bind.2 ((disposition_ends h.spares d outcome).imp (fun _ e₁ h₁ => ?_)
    fun _ _ => id)
  have hb₁ := h₁.books h
  have hpos : 0 < e₁.pending.receiver := by
    rw [hb₁.count]
    simp only [List.length_singleton]
    omega
  refine Act.ends_bind.2 ((settleOnHandler_ends hb₁.spares (h₁.isOnHandler hon) hpos d).imp
    (fun _ e₂ h₂ => ?_) fun _ _ => id)
  have hs : SameBooks e₂ { e₂ with counters := e₂.counters.depart .failed } :=
    .aside rfl rfl rfl rfl rfl rfl rfl
  exact ⟨(h₂.trans hs).books hb₁.settle_refused,
    (h₁.toSameStage.trans (SameStage.settled e₁ d)).trans (h₂.trans hs).toSameStage⟩

end Settling

section Routing

variable {e : Endpoint} {accepted inHand : List DeliveryId} {d : DeliveryId}

theorem Books.keep {handoff : Handoff} (h : Books e accepted inHand)
    (hd : handoff.delivery ∈ accepted) (h0 : e.settles handoff.delivery = 0)
    (ho : handoff.delivery ∉ e.owed) :
    (Sink.keep handoff).Ends e (fun _ e' => Books e' accepted inHand ∧ SameStage e e')
      fun _ _ => False := by
  refine Act.ends_modify.2 ⟨h.owe_more ?_ hd h0 ho, rfl, rfl, rfl, rfl, rfl⟩
  simp only [Endpoint.owed, List.map_append, List.map_cons, List.map_nil, List.append_assoc]
  exact List.perm_middle

/-- A delivery that nothing is owed for any more is settled at once or is owed again. -/
theorem Books.settleLater (h : Books e accepted inHand) (hd : d ∈ accepted)
    (h0 : e.settles d = 0) (ho : d ∉ e.owed) (outcome : Option Outcome) :
    (runLater (.settle d outcome)).Ends e
      (fun _ e' => Books e' accepted inHand ∧ SameStage e e') fun _ _ => False := by
  refine (runLater_ends _).imp (fun _ e' hs => ?_) fun _ _ => id
  have hstage : SameStage e { e with mailbox := e.mailbox.post (.settle d outcome) } := by
    refine ⟨?_, rfl, rfl, rfl, rfl⟩
    unfold Mailbox.post
    split <;> rfl
  refine ⟨hs.books ?_, hstage.trans hs.toSameStage⟩
  by_cases ha : e.mailbox.attended
  · refine h.owe_more ?_ hd h0 ho
    simp only [Endpoint.owed, Mailbox.post, ha, if_true, List.filterMap_append]
    refine List.Perm.trans ?_ List.perm_middle
    refine List.Perm.append_left _ ?_
    exact List.perm_append_comm
  · rw [Mailbox.post, if_neg ha]
    exact h

theorem Books.settleNow (h : Books e accepted inHand) (hon : e.isOnHandler) (hd : d ∈ accepted)
    (h0 : e.settles d = 0) (ho : d ∉ e.owed) (outcome : Option Outcome) :
    (ReceivingLink.settle d outcome).Ends e (fun _ e' => Books e' accepted inHand ∧ SameStage e e')
      fun _ _ => False := by
  refine Act.ends_bind.2 (Act.ends_get.2 ?_)
  rw [if_pos hon]
  exact h.perform_settle hon hd h0 ho outcome

/-- Which handler the code is on, and the counters, are not in the books. -/
theorem Books.aside (h : Books e accepted inHand) (at' : Option HandlerId) (counters : Counters) :
    Books { e with onHandler := at', counters } accepted inHand :=
  ⟨h.numbered, h.known, h.apart, h.owedOnce, h.owedAccepted, h.unsettled, h.once, h.count, h.spares,
    h.keepsWord⟩

theorem SameStage.leave {e' : Endpoint} {at' : Option HandlerId}
    (h : SameStage { e with onHandler := at' } e') :
    SameStage e { e' with onHandler := e.onHandler } :=
  ⟨h.handler, rfl, h.plan, h.mode, h.routed⟩

theorem isOnHandler_enter (e : Endpoint) :
    ({ e with onHandler := some e.mailbox.handler } : Endpoint).isOnHandler := by
  simp [Endpoint.isOnHandler]

/-- Routing settles something that it holds. -/
theorem Books.use (h : Books e accepted inHand) (use : Sink.Use) :
    use.perform.Ends e (fun _ e' => Books e' accepted inHand ∧ SameStage e e')
      fun _ _ => False := by
  refine Act.ends_bind.2 (Act.ends_get.2 ?_)
  split
  · exact ⟨h, .refl e⟩
  rename_i handoff hheld
  obtain ⟨hi, hget⟩ := List.getElem?_eq_some_iff.1 hheld
  have hp : (handoff.delivery :: ({ e with
      sink := { e.sink with held := e.sink.held.eraseIdx use.index } } : Endpoint).owed).Perm
      e.owed := by
    have hperm := (List.getElem_cons_eraseIdx_perm hi).map (·.delivery)
    rw [hget] at hperm
    exact hperm.append_right _
  obtain ⟨hb, hd, h0, ho⟩ := h.owe_less hp
  refine Act.ends_bind.2 (Act.ends_modify.2 (Act.ends_ite.2 ⟨fun _ => ?_, fun _ => ?_⟩))
  · refine (hb.settleLater hd h0 ho _).imp (fun _ e' h' => ?_) fun _ _ => id
    exact ⟨h'.1, h'.2.handler, h'.2.onHandler, h'.2.plan, h'.2.mode, h'.2.routed⟩
  · refine ends_onHandler.2 ?_
    refine ((hb.aside _ _).settleNow (isOnHandler_enter _) hd h0 ho _).imp (fun _ e' h' => ?_)
      fun _ _ => id
    exact ⟨h'.1.aside _ _, h'.2.handler, rfl, h'.2.plan, h'.2.mode, h'.2.routed⟩

theorem Books.useAll : ∀ {e : Endpoint} (uses : List Sink.Use), Books e accepted inHand →
    (Sink.useAll uses).Ends e (fun _ e' => Books e' accepted inHand ∧ SameStage e e')
      fun _ _ => False
  | e, [], h => ⟨h, .refl e⟩
  | e, use :: uses, h => by
    refine Act.ends_bind.2 ((h.use use).imp (fun _ e₁ h₁ => ?_) fun _ _ => id)
    refine (h₁.1.useAll uses).imp (fun _ e₂ h₂ => ?_) fun _ _ => id
    exact ⟨h₂.1, h₁.2.trans h₂.2⟩

/-- Nothing is owed for the delivery in hand. -/
theorem Books.notOwed (h : Books e accepted [d]) : d ∉ e.owed := fun ho => by
  have hn := h.apart
  rw [List.append_assoc] at hn
  have hno := (List.nodup_cons.1 (List.nodup_middle.1 hn)).1
  exact hno (List.mem_append_right _ (h.owedAccepted ho))

/-- Routing that accepts the delivery in hand holds it or has settled it, and otherwise it is in
hand still. -/
theorem Books.take {handoff : Handoff} (h : Books e accepted [handoff.delivery])
    (hon : e.isOnHandler) :
    (Sink.take handoff).Ends e
      (fun _ e' => Books e' (accepted ++ [handoff.delivery]) [] ∧ SameStage e e')
      (fun _ e' => Books e' accepted [handoff.delivery] ∧ SameStage e e')
      fun k e' => (Books e' accepted [handoff.delivery] ∧ SameStage e e') ∧ e.Raises k := by
  let e₀ : Endpoint := { e with sink := { e.sink with delivered := e.sink.delivered + 1 } }
  have hstage : SameStage e e₀ := ⟨rfl, rfl, rfl, rfl, rfl⟩
  have h₀ : Books e₀ accepted [handoff.delivery] :=
    h.owe h.owedOnce fun x hx =>
      ⟨h.owedAccepted hx, h.unsettled x (List.mem_append_right _ hx)⟩
  have hmem : handoff.delivery ∈ accepted ++ [handoff.delivery] := by simp
  have hopen : e₀.settles handoff.delivery = 0 := h₀.unsettled _ (by simp)
  refine Attempt.ends_bind.2 (Attempt.ends_modify.2 (Attempt.ends_bind.2 (Attempt.ends_get.2 ?_)))
  show Attempt.Ends _ e₀ _ _ _
  split
  · refine Attempt.ends_lift.2 ((h₀.accept.keep hmem hopen h₀.notOwed).imp (fun _ e' h' => ?_)
      fun _ _ => False.elim)
    exact ⟨h'.1, hstage.trans h'.2⟩
  · rename_i outcome _
    refine Attempt.ends_lift.2 ((h₀.accept.settleNow (hstage.isOnHandler hon) hmem hopen h₀.notOwed
      (some outcome)).imp (fun _ e' h' => ?_) fun _ _ => False.elim)
    exact ⟨h'.1, hstage.trans h'.2⟩
  · exact Attempt.ends_throw.2 ⟨h₀, hstage⟩
  · exact Attempt.ends_throw.2 ⟨h₀, hstage⟩
  · rename_i uses answer hmode
    rcases answer with _ | error | payload
    · refine Attempt.ends_bind.2 (Attempt.ends_lift.2
        ((h₀.accept.keep hmem hopen h₀.notOwed).imp (fun _ e₁ h₁ => ?_) fun _ _ => False.elim))
      refine Attempt.ends_bind.2 (Attempt.ends_lift.2
        ((h₁.1.useAll uses).imp (fun _ e₂ h₂ => ?_) fun _ _ => False.elim))
      exact ⟨h₂.1, (hstage.trans h₁.2).trans h₂.2⟩
    · refine Attempt.ends_bind.2 (Attempt.ends_lift.2
        ((h₀.useAll uses).imp (fun _ e₂ h₂ => ?_) fun _ _ => False.elim))
      exact ⟨h₂.1, hstage.trans h₂.2⟩
    · refine Attempt.ends_bind.2 (Attempt.ends_lift.2
        ((h₀.useAll uses).imp (fun _ e₂ h₂ => ?_) fun _ _ => False.elim))
      exact ⟨⟨h₂.1, hstage.trans h₂.2⟩, .inr (.inr ⟨uses, hmode⟩)⟩

theorem Books.deliver {handoff : Handoff} (h : Books e accepted [handoff.delivery])
    (hon : e.isOnHandler) :
    (Sink.deliver handoff).Ends e
      (fun _ e' => Books e' (accepted ++ [handoff.delivery]) [] ∧ SameStage e e')
      (fun _ e' => Books e' accepted [handoff.delivery] ∧ SameStage e e')
      fun k e' => (Books e' accepted [handoff.delivery] ∧ SameStage e e') ∧ e.Raises k := by
  let e₀ : Endpoint := { e with calls := e.calls ++ [.deliver handoff] }
  have hs : SameBooks e e₀ := .aside rfl rfl rfl rfl rfl rfl rfl
  have hstage := hs.toSameStage
  have h₀ := hs.books h
  refine Attempt.ends_bind.2 (Attempt.ends_lift.2 (Act.ends_modifyGet.2 ?_))
  refine Attempt.ends_bind.2 ?_
  show Attempt.Ends (Sink.raise (e.plan e.calls.length .deliver)) e₀ _ _ _
  rcases hfault : e.plan e.calls.length .deliver with _ | k | f | f
  · refine Attempt.ends_pure.2 (Attempt.ends_bind.2 ((h₀.take (hstage.isOnHandler hon)).imp
      (fun _ e' h' => ?_) (fun _ e' h' => ⟨h'.1, hstage.trans h'.2⟩)
      fun k e' h' => ⟨⟨h'.1.1, hstage.trans h'.1.2⟩, hstage.raises h'.2⟩))
    refine Attempt.ends_bind.2 (Attempt.ends_get.2 ?_)
    rw [h'.1.keepsWord]
    exact ⟨h'.1, hstage.trans h'.2⟩
  · exact ⟨⟨h₀, hstage⟩, .inl ⟨_, _, hfault⟩⟩
  · exact ⟨h₀, hstage⟩
  · exact ⟨h₀, hstage⟩

end Routing

/-- The books after a delivery was handled: routing has accepted it, and it was counted as routed,
or nothing was accepted. -/
def Handled (e : Endpoint) (accepted : List DeliveryId) (d : DeliveryId) (e' : Endpoint) : Prop :=
  (Books e' accepted [] ∧ SameStage e e') ∨
    (Books e' (accepted ++ [d]) [] ∧
      SameStage { e with counters := e.counters.depart .routed } e')

/-- An error that was taken from a panic was taken from one that a collaborator raised. -/
def Blames (e : Endpoint) (error : ReceiverError) : Prop :=
  error.cause = none → ∃ k, error = .ofPanic k ∧ e.Raises k

section Handling

variable {e : Endpoint} {accepted : List DeliveryId} {d : DeliveryId}

theorem Handled.after {e₁ e' : Endpoint} (hs : SameStage e e₁) (h : Handled e₁ accepted d e') :
    Handled e accepted d e' := by
  rcases h with ⟨hb, h⟩ | ⟨hb, h⟩
  · exact .inl ⟨hb, hs.trans h⟩
  · refine .inr ⟨hb, h.handler.trans hs.handler, h.onHandler.trans hs.onHandler,
      h.plan.trans hs.plan, h.mode.trans hs.mode, h.routed.trans ?_⟩
    exact congrArg (· + 1) hs.routed

theorem Handled.before {e₁ e' : Endpoint} (h : Handled e accepted d e₁) (hs : SameBooks e₁ e') :
    Handled e accepted d e' :=
  h.imp (fun h => ⟨hs.books h.1, h.2.trans hs.toSameStage⟩)
    fun h => ⟨hs.books h.1, h.2.trans hs.toSameStage⟩

theorem Books.takeInHand (h : Books e accepted []) (hon : e.isOnHandler)
    (hd : e.Picked accepted d) : (Tracker.increment .receiver).Ends e
      (fun _ e' => Books e' accepted [d] ∧ SameStage e e') fun _ _ => False := by
  refine (increment_ends hon h.pending_nonneg).imp ?_ fun _ _ => id
  rintro _ _ rfl
  exact ⟨h.increment hd, rfl, rfl, rfl, rfl, rfl⟩

/-- A delivery passed to routing is accepted, or settled here. -/
theorem handOff_ends (h : Books e accepted []) (hon : e.isOnHandler) (hd : e.Picked accepted d)
    (message : Message) (transaction : Option TxnId) :
    (Receiver.handOff message d transaction).Ends e (fun _ e' => Handled e accepted d e')
      (fun error e' => Handled e accepted d e' ∧ Blames e error) fun _ _ => False := by
  refine Attempt.ends_bind.2 (Attempt.ends_lift.2 ((h.takeInHand hon hd).imp (fun _ e₁ h₁ => ?_)
    fun _ _ => id))
  refine Attempt.ends_bind.2 (Attempt.ends_get.2 ?_)
  refine Attempt.ends_bind.2 (Attempt.ends_lift.2 (Act.ends_contain.2 (Act.ends_run.2 ?_)))
  refine .imp (Books.deliver (by exact h₁.1) (h₁.2.isOnHandler hon)) (fun _ e₂ h₂ => ?_)
    (fun error e₂ h₂ => ?_) fun k e₂ h₂ => ?_
  · have hs := h₁.2.trans h₂.2
    refine Attempt.ends_lift.2 (.inr ⟨h₂.1.aside _ _, hs.handler, hs.onHandler, hs.plan, hs.mode,
      ?_⟩)
    exact congrArg (· + 1) hs.routed
  · have hs := h₁.2.trans h₂.2
    refine Attempt.ends_bind.2 (Attempt.ends_lift.2 (Act.ends_modify.2 ?_))
    have hn : SameBooks e₂ { e₂ with
        notices := e₂.notices ++ [.routingFailed e₁.link.name d error] } :=
      .aside rfl rfl rfl rfl rfl rfl rfl
    refine Attempt.ends_lift.2 ((Books.settleFailed (hn.books h₂.1)
      (hn.isOnHandler (hs.isOnHandler hon)) _).imp (fun _ e₃ h₃ => ?_) fun _ _ => False.elim)
    exact .inl ⟨h₃.1, (hs.trans hn.toSameStage).trans h₃.2⟩
  · have hs := h₁.2.trans h₂.1.2
    refine Attempt.ends_bind.2 (Attempt.ends_lift.2 ((Books.settleFailed h₂.1.1
      (hs.isOnHandler hon) _).imp (fun _ e₃ h₃ => ?_) fun _ _ => id))
    exact ⟨.inl ⟨h₃.1, hs.trans h₃.2⟩, fun _ => ⟨k, rfl, h₁.2.raises h₂.2⟩⟩

/-- A delivery that its sender gave up is settled without being counted. -/
theorem onAborted_ends (h : Books e accepted []) (hd : e.Picked accepted d) :
    (Receiver.onAborted d).Ends e (fun _ e' => Handled e accepted d e') fun _ _ => False := by
  refine Act.ends_bind.2 ((deliverySettle_ends h.spares d).imp (fun _ e₁ h₁ => ?_) fun _ _ => id)
  have hstage : SameStage e e₁ :=
    ⟨h₁.handler, h₁.onHandler, h₁.plan, h₁.mode, h₁.routed⟩
  have hb := h₁.books (h.settle_aborted hd)
  have hend (e₂ : Endpoint) (h₂ : SameBooks e₁ e₂) : Act.Ends (do
      count (·.depart .aborted)
      report (.deliveryAborted (← get).link.name d)) e₂ (fun _ e' => Handled e accepted d e')
      fun _ _ => False := by
    have h₃ : SameBooks e₂ { e₂ with
        counters := e₂.counters.depart .aborted
        notices := e₂.notices ++ [.deliveryAborted e₂.link.name d] } :=
      .aside rfl rfl rfl rfl rfl rfl rfl
    exact .inl ⟨(h₂.trans h₃).books hb, hstage.trans (h₂.trans h₃).toSameStage⟩
  refine Act.ends_bind.2 (Act.ends_get.2 (Act.ends_ite.2 ⟨fun _ => ?_, fun _ => hend e₁ (.refl _)⟩))
  exact Act.ends_bind.2 ((grant_ends hb.spares 1).imp (fun _ => hend) fun _ _ => id)

/-- However the event of the delivery at the head is handled, the books are in order after it. -/
theorem process_ends (h : Books e accepted []) (hon : e.isOnHandler)
    (hd : e.link.current = some d) :
    (Receiver.process d).Ends e (fun _ e' => Handled e accepted d e')
      (fun error e' => Handled e accepted d e' ∧ Blames e error)
      fun k e' => Handled e accepted d e' ∧ e.Raises k := by
  have hsame {e' : Endpoint} (hs : SameBooks e e') : Handled e accepted d e' :=
    .inl ⟨hs.books h, hs.toSameStage⟩
  have haccept := (sameBooks_frame.accept_within .receiver d e).and
    (accept_advances e .receiver d)
  refine Attempt.ends_bind.2 (Attempt.ends_adapt.2 (haccept.imp (fun r e₁ h₁ => ?_)
    (fun _ _ h₁ => ⟨hsame h₁.1, fun hc => nomatch hc⟩) fun _ _ h₁ => ⟨hsame h₁.1.1, h₁.1.2⟩))
  obtain ⟨hs, hr⟩ := h₁
  rcases r with _ | _ | message
  · have hpick := h.picked hs.toSameEntries hd (hr.resolve_left (by simp))
    refine Attempt.ends_lift.2 ((onAborted_ends (hs.books h) hpick).imp (fun _ e₂ h₂ => ?_)
      fun _ _ => False.elim)
    exact h₂.after hs.toSameStage
  · exact hsame hs
  · have hpick := h.picked hs.toSameEntries hd (hr.resolve_left (by simp))
    refine Attempt.ends_bind.2 (Attempt.ends_adapt.2
      ((sameBooks_frame.resolveTransaction_within (.aside rfl rfl rfl rfl rfl rfl rfl) d e₁).imp
        (fun transaction e₂ h₂ => ?_) (fun _ _ h₂ => ?_) fun _ _ h₂ => ?_))
    · have hs₂ := hs.trans h₂
      refine (handOff_ends (hs₂.books h) (hs₂.isOnHandler hon) (h₂.picked hpick) message
        transaction).imp (fun _ _ h₃ => h₃.after hs₂.toSameStage) (fun error _ h₃ => ?_)
        fun _ _ => False.elim
      refine ⟨h₃.1.after hs₂.toSameStage, fun hc => ?_⟩
      obtain ⟨k, rfl, hk⟩ := h₃.2 hc
      exact ⟨k, rfl, hs₂.raises hk⟩
    · exact ⟨hsame (hs.trans h₂), fun hc => nomatch hc⟩
    · exact ⟨hsame (hs.trans h₂.1), hs.raises h₂.2⟩

theorem onMessage_ends (h : Books e accepted []) (hon : e.isOnHandler) (d : DeliveryId) :
    (Receiver.onMessage d).Ends e
      (fun r e' => Handled e accepted d e' ∧ ∀ error, r = .error error → Blames e error)
      fun _ _ => False := by
  have hsame {e' : Endpoint} (hs : SameBooks e e') : Handled e accepted d e' :=
    .inl ⟨hs.books h, hs.toSameStage⟩
  refine Act.ends_bind.2 ((requireOnHandler_ends hon).imp ?_ fun _ _ => id)
  rintro _ _ rfl
  refine Act.ends_bind.2 (Act.ends_get.2 (Act.ends_ite.2 ⟨fun _ => ?_, fun _ =>
    Act.ends_ite.2 ⟨fun _ => ?_, fun hd => ?_⟩⟩))
  · exact ⟨hsame (.aside rfl rfl rfl rfl rfl rfl rfl), fun _ hr => nomatch hr⟩
  · exact ⟨hsame (.aside rfl rfl rfl rfl rfl rfl rfl), fun _ hr => nomatch hr⟩
  have hd : Link.current _ = some d := not_not.1 hd
  refine Act.ends_bind.2 (Act.ends_contain.2 (Act.ends_run.2
    ((process_ends h hon hd).imp (fun _ e₁ h₁ => ?_) (fun error e₁ h₁ => ?_) fun k e₁ h₁ => ?_)))
  · exact ⟨h₁, fun _ hr => nomatch hr⟩
  · refine ⟨h₁.1.before (.aside rfl rfl rfl rfl rfl rfl rfl), fun _ hr => ?_⟩
    cases hr
    exact h₁.2
  · refine ⟨h₁.1.before (.aside rfl rfl rfl rfl rfl rfl rfl), fun _ hr => ?_⟩
    cases hr
    exact fun _ => ⟨k, rfl, h₁.2⟩

end Handling

section Events

variable {e : Endpoint} {accepted : List DeliveryId}

/-- Every task that waits is performed without a panic. -/
theorem Books.drain : ∀ (limit : Nat) {e : Endpoint}, Books e accepted [] → e.isOnHandler →
    (ReceivingLink.drain limit).Ends e (fun _ e' => Books e' accepted []) fun _ _ => False
  | 0, _, h, _ => h
  | limit + 1, e, h, hon => by
    refine Act.ends_bind.2 (Act.ends_modifyGet.2 ?_)
    rcases htasks : e.mailbox.tasks with _ | ⟨task, rest⟩
    · simp only [Mailbox.take?, htasks]
      exact h
    simp only [Mailbox.take?, htasks]
    let e₁ : Endpoint := { e with mailbox := { e.mailbox with tasks := rest } }
    have hon₁ : e₁.isOnHandler := hon
    have hnext (e₂ : Endpoint) (hb : Books e₂ accepted []) (hs : SameStage e₁ e₂) :
        Act.Ends (do return (← ReceivingLink.drain limit) + 1) e₂ (fun _ e' => Books e' accepted [])
          fun _ _ => False :=
      Act.ends_bind.2 (hb.drain limit (hs.isOnHandler hon₁))
    rcases task with owner | ⟨d, outcome⟩
    · have hs : SameBooks e e₁ := by
        refine ⟨⟨rfl, rfl, rfl, rfl, rfl⟩, rfl, ?_, rfl, fun _ => rfl, List.suffix_rfl⟩
        simp only [e₁, Endpoint.owed, htasks]
        rfl
      have h₁ := hs.books h
      exact Act.ends_bind.2 ((replenish_ends h₁.spares owner).imp
        (fun _ e₂ h₂ => hnext e₂ (h₂.books h₁) h₂.toSameStage) fun _ _ => id)
    · have hp : (d :: e₁.owed).Perm e.owed := by
        simp only [e₁, Endpoint.owed, htasks]
        exact List.perm_middle.symm
      obtain ⟨h₁, hd, h0, ho⟩ := h.owe_less hp
      exact Act.ends_bind.2 ((h₁.perform_settle hon₁ hd h0 ho outcome).imp
        (fun _ e₂ h₂ => hnext e₂ h₂.1 h₂.2) fun _ _ => id)

theorem Books.runPending (h : Books e accepted []) :
    ReceivingLink.runPending.Ends e (fun _ e' => Books e' accepted []) fun _ _ => False :=
  Act.ends_bind.2 (Act.ends_get.2 (ends_onHandler.2
    ((Books.drain _ (h.aside _ e.counters) (isOnHandler_enter e)).imp
      (fun _ _ h' => h'.aside _ _) fun _ _ => id)))

theorem Books.begin (h : Books e accepted []) (format : UInt32) (remote : Option RemoteState) :
    Books { e with link := e.link.beginWith format remote } accepted [] := by
  have hknown := h.known
  have hfresh : ⟨e.link.deliveries.length + 1⟩ ∉ e.link.queue ++ accepted := fun hm =>
    h.numbered.fresh (hknown (by simpa using hm))
  refine ⟨h.numbered.beginWith format remote, ?_, ?_, h.owedOnce, h.owedAccepted, ?_, ?_, ?_,
    h.spares, h.keepsWord⟩
  · intro x hx
    rw [Endpoint.begun, Link.beginWith_ids]
    simp only [Link.beginWith_queue, List.mem_append, List.mem_singleton, List.append_nil] at hx ⊢
    rcases hx with (hx | rfl) | hx
    · exact .inl (hknown (by simp [hx]))
    · exact .inr rfl
    · exact .inl (hknown (by simp [hx]))
  · have hn := h.apart
    simp only [List.append_nil] at hn
    simp only [Link.beginWith_queue, List.append_nil, List.append_assoc]
    exact List.nodup_middle.2 (List.nodup_cons.2 ⟨hfresh, hn⟩)
  · intro x hx
    refine (Link.settles_beginWith _ _ _ x).trans ?_
    simp only [Link.beginWith_queue, List.append_nil, List.mem_append, List.mem_singleton] at hx
    rcases hx with (hx | rfl) | hx
    · exact h.unsettled x (by simp [hx])
    · exact congrArg Delivery.settles (Link.delivery_of_notMem _ h.numbered.fresh)
    · exact h.unsettled x (List.mem_append_right _ hx)
  · intro x
    exact Nat.le_trans (Nat.le_of_eq (Link.settles_beginWith _ _ _ x)) (h.once x)
  · have hf : (fun x => decide (({ e with link := e.link.beginWith format remote } :
        Endpoint).settles x = 0)) = fun x => decide (e.settles x = 0) := by
      refine funext fun x => ?_
      rw [Endpoint.settles, Link.settles_beginWith]
      rfl
    rw [hf]
    exact h.count

theorem close_ends (hon : e.isOnHandler) (remoteInitiated : Bool) :
    (Receiver.close remoteInitiated).Ends e (fun _ e' => SameBooks e e')
      fun k e' => SameBooks e e' ∧ e.Raises k := by
  refine sameBooks_frame.close_ends (.aside rfl rfl rfl rfl rfl rfl rfl)
    (.aside rfl rfl rfl rfl rfl rfl rfl) ((requireOnHandler_ends hon).imp ?_ fun _ _ => False.elim)
    remoteInitiated
  rintro _ _ rfl
  exact .refl _

theorem setCondition_within (condition : Condition) :
    (Link.setCondition condition).Within SameBooks Endpoint.Raises :=
  sameBooks_frame.setCondition_within (sameBooks_frame.noted rfl)
    (.ofLink rfl (fun _ => rfl) List.suffix_rfl)

theorem closeWithError_ends (hon : e.isOnHandler) (condition : Condition) :
    (Receiver.closeWithError condition).Ends e (fun _ e' => SameBooks e e')
      fun k e' => SameBooks e e' ∧ e.Raises k := by
  refine Act.ends_bind.2 ((setCondition_within condition e).imp (fun _ e₁ h₁ => ?_) fun _ _ => id)
  exact (close_ends (h₁.isOnHandler hon) false).imp (fun _ _ => h₁.trans)
    fun _ _ h₂ => ⟨h₁.trans h₂.1, h₁.raises h₂.2⟩

theorem onFlow_ends (h : e.plan.Spares settlementPoints) (credits : UInt32) (drain : Bool) :
    (Receiver.onFlow credits drain).Ends e (fun _ e' => SameBooks e e') fun _ _ => False := by
  have hs : SameBooks e
      { e with notices := e.notices ++ [.flowReceived e.link.name credits drain] } :=
    .aside rfl rfl rfl rfl rfl rfl rfl
  refine Act.ends_bind.2 (Act.ends_get.2 (Act.ends_bind.2 (Act.ends_modify.2 ?_)))
  exact .imp (replenish_ends (by exact h) _) (fun _ _ => hs.trans) fun _ _ => id

/-- An action on the handler that leaves the books alone. -/
theorem Books.onHandler {α : Type} {act : Act Panic Endpoint α} (h : Books e accepted [])
    (hact : act.Ends { e with onHandler := some e.mailbox.handler }
      (fun _ e' => SameBooks { e with onHandler := some e.mailbox.handler } e')
      fun k e' => SameBooks { e with onHandler := some e.mailbox.handler } e' ∧ e.Raises k) :
    (ReceivingLink.onHandler act).Ends e (fun _ e' => Books e' accepted [])
      fun k e' => Books e' accepted [] ∧ e.Raises k := by
  have h₁ := h.aside (some e.mailbox.handler) e.counters
  exact ends_onHandler.2 (hact.imp (fun _ _ hs => (hs.books h₁).aside _ _)
    fun _ _ hs => ⟨(hs.1.books h₁).aside _ _, hs.2⟩)

/-- The books after an event. -/
def Entered (e : Endpoint) (accepted : List DeliveryId) : Event → Endpoint → Prop
  | .message d, e' => Handled e accepted d e'
  | _, e' => Books e' accepted []

/-- An event that is done when its action is. -/
theorem done_ends {α : Type} {act : Act Panic Endpoint α} {P : Endpoint → Prop}
    (h : act.Ends e (fun _ => P) fun k e' => P e' ∧ e.Raises k) :
    (act >>= fun _ => pure (Except.ok ()) : Act Panic Endpoint (Except ReceiverError Unit)).Ends e
      (fun r e' => P e' ∧ ∀ error, r = .error error → Blames e error)
      fun k e' => P e' ∧ e.Raises k :=
  Act.ends_bind.2 (h.imp (fun _ _ h' => ⟨h', fun _ hr => nomatch hr⟩) fun _ _ => id)

/-- No event puts the books out of order, and every panic that one ends in or reports is one that a
collaborator raised. -/
theorem Books.perform (h : Books e accepted []) (event : Event) :
    event.perform.Ends e
      (fun r e' => Entered e accepted event e' ∧ ∀ error, r = .error error → Blames e error)
      fun k e' => Entered e accepted event e' ∧ e.Raises k := by
  cases event with
  | begin format remote => exact done_ends (h.begin format remote)
  | transfer bytes more => exact done_ends (by exact (SameBooks.transfer e bytes more).books h)
  | abort => exact done_ends (by exact (SameBooks.abort e).books h)
  | setDrain drain =>
    have hs : SameBooks e { e with link := { e.link with drain } } :=
      .ofLink rfl (fun _ => rfl) List.suffix_rfl
    exact done_ends (by exact hs.books h)
  | message d =>
    have hmessage := onMessage_ends (h.aside _ e.counters) (isOnHandler_enter e) d
    refine ends_onHandler.2 (hmessage.imp (fun _ e' h' => ?_) fun _ _ => False.elim)
    refine ⟨h'.1.imp (fun h₁ => ⟨h₁.1.aside _ _, h₁.2.leave⟩) fun h₁ => ?_, h'.2⟩
    exact ⟨h₁.1.aside _ _, h₁.2.leave⟩
  | flow credits drain elsewhere =>
    refine Act.ends_ite.2 ⟨fun _ => done_ends ?_, fun _ => done_ends (h.onHandler ?_)⟩
    · exact (onFlow_ends h.spares credits drain).imp (fun _ _ hs => hs.books h)
        fun _ _ => False.elim
    · exact .imp (onFlow_ends (by exact h.spares) credits drain) (fun _ _ hs => hs)
        fun _ _ => False.elim
  | close remoteInitiated =>
    exact done_ends (h.onHandler (close_ends (isOnHandler_enter e) remoteInitiated))
  | closeWithError condition =>
    exact done_ends (h.onHandler (closeWithError_ends (isOnHandler_enter e) condition))
  | runPending => exact done_ends (h.runPending.imp (fun _ _ => id) fun _ _ => False.elim)
  | settle use => exact done_ends ((h.use use).imp (fun _ _ => And.left) fun _ _ => False.elim)
  | submit =>
    have hs := sameBooks_post_replenish e (some .receiver)
    exact done_ends ((runLater_ends _).imp (fun _ _ h' => (hs.trans h').books h)
      fun _ _ => False.elim)
  | setMode mode =>
    refine done_ends (h.owe h.owedOnce fun x hx => ?_)
    exact ⟨h.owedAccepted hx, h.unsettled x (List.mem_append_right _ hx)⟩

theorem Books.after (h : Books e accepted []) (event : Event) :
    Books (e.after event) (accepted ++ e.acceptedBy event) [] := by
  have hentered : Entered e accepted event (e.after event) :=
    ((h.perform event).imp (fun _ _ => And.left) fun _ _ => And.left).state
  rcases event with _ | _ | _ | _ | d | _ | _ | _ | _ | _ | _ | _
  case message =>
    rcases hentered with ⟨hb, hs⟩ | ⟨hb, hs⟩
    · rw [Endpoint.acceptedBy, if_neg (by rw [hs.routed]; omega), List.append_nil]
      exact hb
    · rw [Endpoint.acceptedBy, if_pos (by exact hs.routed)]
      exact hb
  all_goals
    simp only [Endpoint.acceptedBy, List.append_nil]
    exact hentered

theorem Books.afterAll : ∀ (run : List Event) {e : Endpoint} {accepted : List DeliveryId},
    Books e accepted [] → Books (e.afterAll run) (accepted ++ e.accepted run) []
  | [], _, accepted, h => by
    rw [Endpoint.accepted, List.append_nil]
    exact h
  | event :: run, e, accepted, h => by
    rw [Endpoint.accepted, ← List.append_assoc]
    exact (h.after event).afterAll run

theorem Endpoint.Fresh.books (h : e.Fresh) (hs : e.plan.Spares settlementPoints)
    (hk : e.plan.KeepsWord) : Books e [] [] := by
  have howed : e.owed = [] := by simp [Endpoint.owed, h.held, h.tasks]
  have hsettles (d : DeliveryId) : e.settles d = 0 := by
    simp [Endpoint.settles, Link.delivery, h.deliveries]
  refine ⟨?_, ?_, ?_, ?_, ?_, fun d _ => hsettles d, fun d => ?_, h.uncounted, hs, hk⟩
  · simp [Link.Numbered, h.deliveries]
  · simp [h.queue]
  · simp [h.queue]
  · simp [howed]
  · simp [howed]
  · simp [hsettles d]

end Events

end ReceivingLink
