import Mathlib.Data.List.Infix
import ReceivingLink.Proofs.Ledger

/-!
# Routing that means what it answers

Routing has the handle of a delivery before it answers to the handoff. Whatever it did with the
handle, the receiver records a failure for a delivery that routing does not take, and settles it.
So deliveries are settled once and in order, and nothing is recorded of those whose handle is kept,
exactly as long as routing leaves the handle alone when it refuses a delivery or panics:
`settled_once_iff_honest`.
-/

namespace ReceivingLink

namespace Endpoint

/-- If routing does not take the handoff, it has not used the handle and does not keep it. -/
def Honest (handoff : Handoff) (e : Endpoint) : Prop :=
  (Sink.deliver handoff).Ends e (fun _ _ => True)
    (fun _ e' => handoff.delivery ∉ e'.owed ∧ handoff.delivery ∉ e'.settlings)
    fun _ e' => handoff.delivery ∉ e'.owed ∧ handoff.delivery ∉ e'.settlings

/-- Every delivery was settled once at most, and nothing recorded of it afterwards. The count is no
less than zero. -/
structure InOrder (e : Endpoint) : Prop where
  once : ∀ x ∈ e.link.deliveries, x.settles ≤ 1
  final : e.calls.Pairwise Call.Closes
  counted : 0 ≤ e.pending.get .receiver

/-- Nothing was recorded of the deliveries whose handle is kept. -/
def Undecided (e : Endpoint) : Prop := ∀ d ∈ e.owed, d ∉ e.recorded

instance (e : Endpoint) : Decidable e.InOrder :=
  have : DecidableRel Call.Closes := fun c _ => by unfold Call.Closes; infer_instance
  decidable_of_iff ((∀ x ∈ e.link.deliveries, x.settles ≤ 1) ∧ e.calls.Pairwise Call.Closes ∧
    0 ≤ e.pending.get .receiver)
    ⟨fun h => ⟨h.1, h.2.1, h.2.2⟩, fun h => ⟨h.once, h.final, h.counted⟩⟩

instance (e : Endpoint) : Decidable e.Undecided := inferInstanceAs (Decidable (∀ d ∈ e.owed, _))

end Endpoint

section Order

variable {e : Endpoint}

theorem records_pairwise_closes :
    e.records.Pairwise Call.Closes ↔ e.calls.Pairwise Call.Closes := by
  -- a call that records nothing closes nothing, and is closed by nothing
  have hclose (c c' : Call) : (c.settles → c'.settles → c.Closes c') ↔ c.Closes c' := by
    refine ⟨fun h d hd hd' => h ?_ ?_ d hd hd', fun h _ _ => h⟩
    · cases c <;> first | rfl | cases hd
    · cases c' <;> first | rfl | cases hd'
  rw [Endpoint.records, List.pairwise_filter]
  simp only [hclose]

theorem Ledger.settlings_nodup {tight : Prop} (h : Ledger tight e) : e.settlings.Nodup := by
  refine h.final.filterMap _ fun c c' hc d hd d' hd' => ?_
  rintro rfl
  refine hc d hd ?_
  cases c' <;> first | exact hd' | cases hd'

theorem Ledger.inOrder (h : Ledger True e) : e.InOrder where
  once := fun x hx => by
    have hle := Nat.le_trans (h.settles x.id) (List.nodup_iff_count_le_one.1 h.settlings_nodup x.id)
    rwa [Endpoint.settles, h.numbered.delivery_of_mem hx] at hle
  final := records_pairwise_closes.1 h.final
  counted := h.pending_nonneg

theorem Ledger.undecided (h : Ledger True e) : e.Undecided := h.held trivial

end Order

section Honest

variable {e : Endpoint} {handoff : Handoff}

/-- A delivery that honest routing does not take is open still. -/
theorem Endpoint.Honest.returns (h : e.Honest handoff) :
    e.Returns (Ledger True) (Endpoint.Open True) handoff := by
  have hopen {e' : Endpoint} (ho : handoff.delivery ∉ e'.owed)
      (hs : handoff.delivery ∉ e'.settlings) (hh : handoff.delivery ∈ e'.handed) :
      e'.Open True handoff.delivery :=
    ⟨hh, fun hw => ho (waiting_subset_owed e' hw), hs, fun _ => ho⟩
  exact (h.and (deliver_handed e handoff)).imp (fun _ _ _ => trivial)
    (fun _ _ h' _ => hopen h'.1.1 h'.1.2 h'.2) fun _ _ h' _ => hopen h'.1.1 h'.1.2 h'.2

theorem Ledger.after_honest {event : Event} (h : Ledger True e)
    (hhonest : e.OnOffer Endpoint.Honest event) : Ledger True (e.after event) := by
  refine h.after (onUse_of_forall (fun _ _ => .inl trivial) event) ?_
  cases event with
  | message d =>
    intro ho hd
    refine (hhonest ho hd).imp (fun _ e' h' handoff hm => ⟨?_, (h' handoff hm).returns⟩)
      (fun _ _ => id) fun _ _ => id
    exact mayTake_of_forall (fun _ _ => .inl trivial) handoff e'
  | _ => trivial

end Honest

section Astray

variable {e e' : Endpoint} {d : DeliveryId}

/-- Something was recorded of a delivery whose handle is kept, or of one after it was settled. -/
def Endpoint.Astray (e : Endpoint) (d : DeliveryId) : Prop :=
  (d ∈ e.owed ∧ d ∈ e.recorded) ∨ ¬ e.records.Pairwise Call.Closes

theorem Endpoint.Astray.not_inOrder (h : e.Astray d) : ¬ (e.InOrder ∧ e.Undecided) :=
  fun ⟨horder, hundecided⟩ => h.elim (fun hd => hundecided d hd.1 hd.2) fun hf =>
    hf (records_pairwise_closes.2 horder.final)

/-- What was recorded stays recorded. -/
theorem Endpoint.Astray.later (h : e.Astray d) (howed : e'.owed = e.owed)
    (hrecords : e.records <+: e'.records) : e'.Astray d := by
  refine h.imp (fun hd => ⟨?_, ?_⟩) fun hf hf' => hf (hf'.sublist hrecords.sublist)
  · rw [howed]
    exact hd.1
  · exact (hrecords.sublist.filterMap _).subset hd.2

theorem Endpoint.Astray.same (h : e.Astray d) (hs : SameLedger e e') : e'.Astray d :=
  h.later hs.owed (hs.records ▸ List.prefix_rfl)

/-- A failure is recorded for a delivery whose handle was used or is kept. -/
theorem astray_noting (h : d ∈ e.owed ∨ d ∈ e.settlings) (outcome : Outcome) :
    (e.noting (.disposition d outcome)).Astray d := by
  refine h.imp (fun ho => ⟨ho, ?_⟩) fun hs hf => ?_
  · rw [recorded_noting]
    simp [Call.recorded?]
  · rw [records_append rfl, List.pairwise_append] at hf
    obtain ⟨call, hcall, hd⟩ := List.mem_filterMap.1 hs
    exact hf.2.2 call hcall _ (List.mem_singleton_self _) d hd rfl

theorem Endpoint.Astray.settleOnHandler (h : e.Astray d) :
    (ReceivingLink.settleOnHandler d).Ends e (fun _ e' => e'.Astray d) fun _ e' => e'.Astray d := by
  have hnoted {link : Link} : Endpoint.Astray ({ e.countedOff with link }.noting (.settle d)) d :=
    h.later rfl (by rw [records_append rfl]; exact List.prefix_append _ _)
  refine settleOnHandler_steps (fun _ => h) (fun _ => h.later rfl List.prefix_rfl)
    (fun _ _ => hnoted) fun _ _ => ?_
  have hsettled : Endpoint.Astray ((e.settled d).noting (.settle d)) d := hnoted
  exact (sameLedger_frame.replenish_within _ _).imp (fun _ _ => hsettled.same)
    fun _ _ hs => hsettled.same hs.1

theorem settleFailed_astray (h : d ∈ e.owed ∨ d ∈ e.settlings) (outcome : Outcome) :
    (Receiver.settleFailed d outcome).Ends e (fun _ e' => e'.Astray d)
      fun _ e' => e'.Astray d := by
  have hnoted := astray_noting h outcome
  refine Act.ends_bind.2 ((disposition_stays e d outcome).imp ?_ ?_)
  · rintro _ e₁ rfl
    have hdisposed : Endpoint.Astray
        { e.noting (.disposition d outcome) with link := e.link.dispose d outcome } d :=
      hnoted.later rfl List.prefix_rfl
    refine Act.ends_bind.2 (hdisposed.settleOnHandler.imp (fun _ _ h₁ => ?_) fun _ _ => id)
    exact Act.ends_modify.2 (h₁.later rfl List.prefix_rfl)
  · rintro _ e₁ rfl
    exact hnoted

/-- The receiver settles a delivery that routing that is not honest has not taken. -/
theorem passOn_astray {handoff : Handoff} (h : ¬ e.Honest handoff) :
    (Receiver.passOn handoff).Ends e (fun _ e' => e'.Astray handoff.delivery)
      (fun _ e' => e'.Astray handoff.delivery) fun _ e' => e'.Astray handoff.delivery := by
  have hor {P Q : Prop} (h : ¬ (¬ P ∧ ¬ Q)) : P ∨ Q := by tauto
  refine Attempt.ends_bind.2 (Attempt.ends_get.2 (Attempt.ends_bind.2 (Attempt.ends_lift.2
    (Act.ends_contain.2 (Act.ends_run.2 ((Attempt.ends_of_not h).imp (fun _ e₁ h₁ => ?_)
      (fun error e₁ h₁ => ?_) fun k e₁ h₁ => ?_))))))
  · exact absurd trivial h₁
  · refine Attempt.ends_bind.2 (Attempt.ends_lift.2 (Act.ends_modify.2 ?_))
    exact Attempt.ends_lift.2 (settleFailed_astray (by exact hor h₁) _)
  · exact Attempt.ends_bind.2 (Attempt.ends_lift.2 (settleFailed_astray (hor h₁) _))

theorem astray_of_not_honest (h : ¬ e.OnOffer Endpoint.Honest (.message d)) :
    ∃ d', (e.after (.message d)).Astray d' := by
  obtain ⟨ho, hd, hoffer⟩ : e.lifecycle = .opened ∧ e.link.current = some d ∧
      ¬ (Receiver.offer d).Ends e.entered (fun offered e' => ∀ handoff ∈ offered, e'.Honest handoff)
        (fun _ _ => True) fun _ _ => True := by
    simpa only [Endpoint.OnOffer, Classical.not_imp, exists_prop] using h
  have hprocess : (Receiver.process d).Ends e.entered (fun _ e' => ∃ d', e'.Astray d')
      (fun _ e' => ∃ d', e'.Astray d') fun _ e' => ∃ d', e'.Astray d' :=
    Receiver.process_of_not_offer hoffer fun handoff _ hn => (passOn_astray hn).imp
      (fun _ _ h₁ => ⟨_, h₁⟩) (fun _ _ h₁ => ⟨_, h₁⟩) fun _ _ h₁ => ⟨_, h₁⟩
  have haside {e : Endpoint} {onHandler notices counters} :
      Beside e { e with onHandler, notices, counters } := .aside rfl rfl rfl rfl rfl rfl rfl rfl
  exact (message_ends (fun _ => Exists.imp fun _ h => h.same haside.toSameLedger)
    (fun hn => absurd ⟨ho, hd⟩ hn) fun _ _ => hprocess).state

end Astray

section Runs

variable {e : Endpoint}

/-- An event leaves the deliveries in order, and those whose handle is kept undecided, exactly if
routing is honest in it. -/
theorem Ledger.after_inOrder_iff (h : Ledger True e) (event : Event) :
    ((e.after event).InOrder ∧ (e.after event).Undecided) ↔ e.OnOffer Endpoint.Honest event := by
  refine ⟨fun ho => ?_, fun hhonest => ?_⟩
  swap
  · have hafter := h.after_honest hhonest
    exact ⟨hafter.inOrder, hafter.undecided⟩
  by_contra hn
  cases event with
  | message d =>
    obtain ⟨d', hastray⟩ := astray_of_not_honest hn
    exact hastray.not_inOrder ho
  | _ => exact hn trivial

theorem Ledger.afterAll_inOrder_iff : ∀ (run : List Event) {e : Endpoint}, Ledger True e →
    ((∀ before, before <+: run →
        (e.afterAll before).InOrder ∧ (e.afterAll before).Undecided) ↔
      e.Throughout (Endpoint.OnOffer Endpoint.Honest) run)
  | [], e, h => by
    refine ⟨fun _ => trivial, fun _ before hb => ?_⟩
    obtain rfl := List.prefix_nil.1 hb
    exact ⟨h.inOrder, h.undecided⟩
  | event :: run, e, h => by
    -- the ledger is kept up to the first event in which routing is not honest, and after that one
    -- the endpoint is not in order
    have hstep := h.after_inOrder_iff event
    constructor
    · intro hall
      have hhonest := hstep.1 (hall [event] (by simp))
      refine ⟨hhonest, (afterAll_inOrder_iff run (h.after_honest hhonest)).1 fun before hb => ?_⟩
      exact hall (event :: before) (by simpa using hb)
    · rintro ⟨hhonest, hrest⟩ before hb
      rcases List.prefix_cons_iff.1 hb with rfl | ⟨rest, rfl, hrest'⟩
      · exact ⟨h.inOrder, h.undecided⟩
      · exact (afterAll_inOrder_iff run (h.after_honest hhonest)).2 hrest rest hrest'

/-- Over a whole run, whatever goes wrong, deliveries are settled once and in order, and those whose
handle is kept are left alone, exactly as long as routing is honest. -/
theorem settled_once_iff_honest (h : e.Fresh) (run : List Event) :
    (∀ before, before <+: run →
        (e.afterAll before).InOrder ∧ (e.afterAll before).Undecided) ↔
      e.Throughout (Endpoint.OnOffer Endpoint.Honest) run :=
  (h.ledger True).afterAll_inOrder_iff run

/-- Routing keeps the handle of one delivery and refuses another. -/
theorem settled_once_iff_honest_refusal :
    let e : Endpoint := .start {} "orders" 10 ⟨1⟩ .memory none
    let run : List Event := [.begin 0 none, .transfer [1] false, .message ⟨1⟩,
      .setMode .failRejected, .begin 0 none, .transfer [2] false, .message ⟨2⟩,
      .settle ⟨0, some .accepted, false⟩]
    (∀ before ∈ run.inits, (e.afterAll before).InOrder ∧ (e.afterAll before).Undecided) ∧
      e.Throughout (Endpoint.OnOffer Endpoint.Honest) run := by
  intro e run
  have horder : ∀ before ∈ run.inits,
      (e.afterAll before).InOrder ∧ (e.afterAll before).Undecided := by
    decide +kernel
  have hfresh : e.Fresh := Endpoint.start_fresh ..
  exact ⟨horder, (settled_once_iff_honest hfresh run).1 fun before hb =>
    horder before ((List.mem_inits _ _).2 hb)⟩

/-- Routing settles a delivery and then answers that it failed. The receiver overwrites the outcome
and settles it again, at the expense of another delivery: when that one is settled in its turn, the
count is below zero. -/
theorem settled_twice_of_refusal :
    let plan : Plan := fun n point =>
      if 5 ≤ n ∧ point = .delivered then some (.fails { text := "queue full" }) else none
    let e : Endpoint := { Endpoint.start {} "orders" 10 ⟨1⟩ .memory none with plan }
    let run : List Event := [.begin 0 none, .transfer [1] false, .message ⟨1⟩,
      .setMode (.settleWith .accepted), .begin 0 none, .transfer [2] false, .message ⟨2⟩]
    let e' := e.afterAll run
    e.Fresh ∧ e'.settlings = [⟨2⟩, ⟨2⟩] ∧ e'.settles ⟨2⟩ = 2 ∧
      (e'.link.delivery ⟨2⟩).outcome =
        some (.rejected (some (.internal
          (RoutingError.rejected { text := "queue full" }).message))) ∧
      (e'.after (.settle ⟨0, some .accepted, false⟩)).pending.get .receiver = -1 := by
  refine ⟨⟨rfl, rfl, rfl, rfl, rfl, rfl, rfl, rfl, rfl, rfl, rfl⟩, ?_⟩
  decide +kernel

end Runs

end ReceivingLink
