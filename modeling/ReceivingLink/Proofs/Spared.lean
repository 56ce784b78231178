import ReceivingLink.Proofs.Schedules

/-!
# What is done where no call panics

A plan may have panics for calls that were made already; those to come matter. Where none of them
panics, granting credit, settling a delivery and giving one up that was aborted are done to the end.
-/

namespace ReceivingLink

/-- None of the calls that are still to come panics at one of these points. -/
def Endpoint.Spared (e : Endpoint) (points : List Point) : Prop :=
  ∀ n, ∀ point ∈ points, ∀ k, e.calls.length ≤ n → e.plan n point ≠ some (.panics k)

namespace Endpoint.Spared

variable {e e' : Endpoint} {points : List Point} {d : DeliveryId}

theorem of_spares (h : e.plan.Spares points) : e.Spared points :=
  fun n point hp k _ => h n point hp k

theorem later (h : e.Spared points) (hplan : e'.plan = e.plan)
    (hcalls : e.calls.length ≤ e'.calls.length) : e'.Spared points := fun n point hp k hn => by
  rw [hplan]
  exact h n point hp k (Nat.le_trans hcalls hn)

theorem noting (h : e.Spared points) (call : Call) : (e.noting call).Spared points :=
  h.later rfl (by simp [Endpoint.noting])

theorem invoke_ends (h : e.Spared points) {call : Call} (hc : call.point ∈ points) :
    (invoke call).Ends e (fun _ e' => e' = e.noting call) fun _ _ => False := by
  refine Act.ends_bind.2 (Act.ends_modifyGet.2 ?_)
  split
  · exact h _ _ hc _ (Nat.le_refl _) ‹_›
  · exact rfl

section Settling

variable (h : e.Spared settlementPoints)

include h

theorem replenish_ends (hon : e.isOnHandler) :
    (replenish (some .receiver)).Ends e
      (fun _ => e.Brought (e.balance.reviewed e.config.policy)) fun _ _ => False := by
  refine (replenish_due hon (some .receiver)).imp (fun _ e' h' => ?_) fun _ _ h' => ?_
  · cases hdue : e.due (some .receiver) with
    | none =>
      rw [hdue] at h'
      rw [h']
      exact brought_undue hdue
    | some amount =>
      rw [hdue] at h'
      obtain ⟨_, _, rfl⟩ := h'
      exact brought_due hdue
  · obtain ⟨_, -, ⟨⟨n, k, hn, hk⟩, -⟩ | ⟨⟨n, k, hn, hk⟩, -⟩⟩ := h'
    · exact h n _ (by simp [settlementPoints]) k hn hk
    · exact h n _ (by simp [settlementPoints]) k hn hk

theorem settleOnHandler_ends (hon : e.isOnHandler) (hpos : 0 < e.pending.receiver) :
    (settleOnHandler d).Ends e
      (fun _ => e.Brought (e.balance.settled e.config.policy (d, none))) fun _ _ => False := by
  refine settleOnHandler_steps (K := fun _ => False) (fun hoff => ?_) (fun hle => ?_)
    (fun _ hk => ?_) fun _ _ => ?_
  · simp [hon] at hoff
  · omega
  · obtain ⟨n, k, hn, hk⟩ := hk
    exact h n _ (by simp [settlementPoints]) k hn hk
  · exact replenish_ends (by exact h.noting _) (by exact hon)

/-- On the handler a delivery is settled as long as some delivery is counted. -/
theorem settle_ends (hon : e.isOnHandler) (hpos : 0 < e.pending.receiver)
    (outcome : Option Outcome) :
    (Task.settle d outcome).perform.Ends e
      (fun _ => e.Brought (e.balance.settled e.config.policy (d, outcome))) fun _ _ => False := by
  cases outcome with
  | none => exact h.settleOnHandler_ends hon hpos
  | some outcome =>
    refine Act.ends_bind.2 (Act.ends_bind.2 ((h.invoke_ends
      (by simp [Call.point, settlementPoints])).imp ?_ fun _ _ => id))
    rintro _ _ rfl
    refine Act.ends_modify.2 ?_
    rw [← Balance.settled_dispose]
    exact settleOnHandler_ends (by exact h.noting _) (by exact hon) hpos

/-- A delivery that its sender gave up is settled, and its unit of credit put back unless the sender
wants its credit used up. -/
theorem onAborted_ends :
    (Receiver.onAborted d).Ends e
      (fun _ e' => ∃ notices counters, e' =
        { if e.link.drain then e.forgone d else (e.forgone d).granting 1 with
          notices, counters }) fun _ _ => False := by
  have hspared {point : Point} (hp : point ∈ settlementPoints) :
      ¬ ∃ n k, e.calls.length ≤ n ∧ e.plan n point = some (.panics k) :=
    fun ⟨n, k, hn, hpanic⟩ => h n point hp k hn hpanic
  exact onAborted_counts (fun hpanics => hspared (by simp [settlementPoints]) hpanics)
    (fun hpanics => hspared (by simp [settlementPoints]) hpanics) ⟨_, _, rfl⟩

end Settling

end Endpoint.Spared

end ReceivingLink
