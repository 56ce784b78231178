import Mathlib.Algebra.Ring.Nat
import ReceivingLink.Proofs.Window

/-!
# One review of credit

A review looks at credit and at the count of unsettled deliveries, and at nothing else. On the
handler it grants what is due and has it sent, or leaves everything as it is. Once it has granted,
nothing is due any more, and no count makes it due that has only gone up.
-/

namespace ReceivingLink

section Arithmetic

variable {policy : CreditPolicy} {credit pending pending' amount : UInt32}

/-- After a top-up nothing is due. -/
theorem CreditPolicy.grant?_add (h : policy.grant? credit pending = some amount) :
    policy.grant? (Credit.add credit amount) pending = none := by
  have hfull := add_grant h
  unfold grant? Credit.positive? Credit.topUp
  split_ifs with _ hpositive
  · omega
  · rfl
  · rfl

/-- More unsettled deliveries make no credit due. -/
theorem CreditPolicy.grant?_mono (h : policy.grant? credit pending = none)
    (hle : pending.toNat ≤ pending'.toNat) : policy.grant? credit pending' = none := by
  have henough := enough h
  unfold grant? Credit.positive? Credit.topUp
  split_ifs with hlow hpositive
  · rw [Credit.isLow_iff] at hlow
    omega
  · rfl
  · rfl

end Arithmetic

namespace Link

/-- All credit that the sender was granted on the link. -/
def granted (l : Link) : Nat := (l.grants.map UInt32.toNat).sum

@[simp] theorem granted_flow (l : Link) (credits : UInt32) :
    (l.flow credits).granted = l.granted + credits.toNat := by
  simp [granted, flow]

end Link

namespace Endpoint

/-- What a review of credit grants. -/
def due (e : Endpoint) (owner : Option Owner) : Option UInt32 :=
  e.config.policy.grant? e.link.credit ((owner.map e.unsettled).getD 0)

/-- If the next call grants credit on the link, it does not panic. -/
def TakesGrant (e : Endpoint) : Prop := ∀ k, e.plan e.calls.length .linkFlow ≠ some (.panics k)

/-- The endpoint with credit granted and sent to the peer. -/
def toppedUp (e : Endpoint) (amount : UInt32) : Endpoint :=
  { e.granting amount with mailbox := e.mailbox.flushed }.noting .flush

end Endpoint

section Review

variable {e : Endpoint} {owner : Option Owner}

/-- On the handler a review grants what is due, and then counts it. It breaks off only at the grant,
or when the grant is sent, and then the call panics and nothing is counted. -/
theorem replenish_counts (hon : e.isOnHandler) (owner : Option Owner) :
    (replenish owner).Ends e
      (fun _ e' => match e.due owner with
        | none => e' = e
        | some amount => e.TakesGrant ∧ ∃ notices, e' =
            { e.toppedUp amount with
              counters :=
                { e.counters with creditGranted := e.counters.creditGranted + amount.toNat }
              notices })
      fun _ e' => ∃ amount, e.due owner = some amount ∧
        (¬ e.TakesGrant ∧ e' = e.noting (.linkFlow amount) ∨
          e.TakesGrant ∧ (∃ k, e.plan (e.calls.length + 1) .flush = some (.panics k)) ∧
            e' = e.toppedUp amount) := by
  refine Act.ends_bind.2 (Act.ends_get.2 (Act.ends_ite.2 ⟨fun hoff => ?_, fun _ => ?_⟩))
  · simp [hon] at hoff
  show Act.Ends (match e.due owner with | none => _ | some amount => _) e _ _
  rcases e.due owner with _ | amount
  · exact rfl
  refine Act.ends_bind.2 (Act.ends_bind.2 (Act.ends_bind.2 (Act.ends_modifyGet.2 ?_)))
  dsimp only
  split
  · rename_i hpanic
    exact ⟨amount, rfl, .inl ⟨fun htakes => htakes _ hpanic, rfl⟩⟩
  rename_i htakes
  refine Act.ends_modify.2 (Act.ends_bind.2 (Act.ends_bind.2 ?_))
  refine (requireOnHandler_ends (by exact hon)).imp ?_ fun _ _ => False.elim
  rintro _ _ rfl
  refine Act.ends_bind.2 (Act.ends_modify.2 (Act.ends_bind.2 (Act.ends_modifyGet.2 ?_)))
  dsimp only
  split
  · rename_i hflush
    rw [List.length_append] at hflush
    exact ⟨amount, rfl, .inr ⟨htakes, ⟨_, hflush⟩, rfl⟩⟩
  · exact ⟨htakes, _, rfl⟩

/-- On the handler a review grants what is due. It breaks off only at the grant, or when the grant
is sent, and then one of the calls to come panics. -/
theorem replenish_due (hon : e.isOnHandler) (owner : Option Owner) :
    (replenish owner).Ends e
      (fun _ e' => match e.due owner with
        | none => e' = e
        | some amount => ∃ counters notices, e' = { e.toppedUp amount with counters, notices })
      fun _ e' => ∃ amount, e.due owner = some amount ∧
        ((∃ n k, e.calls.length ≤ n ∧ e.plan n .linkFlow = some (.panics k)) ∧
            e' = e.noting (.linkFlow amount) ∨
          (∃ n k, e.calls.length ≤ n ∧ e.plan n .flush = some (.panics k)) ∧
            e' = e.toppedUp amount) := by
  refine (replenish_counts hon owner).imp (fun _ e' h => ?_) fun _ e' h => ?_
  · cases hdue : e.due owner with
    | none =>
      rw [hdue] at h
      exact h
    | some amount =>
      rw [hdue] at h
      exact ⟨_, h.2⟩
  · obtain ⟨amount, hdue, ⟨hbreaks, rfl⟩ | ⟨-, ⟨k, hflush⟩, rfl⟩⟩ := h
    · obtain ⟨k, hpanic⟩ : ∃ k, e.plan e.calls.length .linkFlow = some (.panics k) := by
        by_contra hnone
        exact hbreaks fun k hpanic => hnone ⟨k, hpanic⟩
      exact ⟨amount, hdue, .inl ⟨⟨_, k, Nat.le_refl _, hpanic⟩, rfl⟩⟩
    · exact ⟨amount, hdue, .inr ⟨⟨_, k, Nat.le_succ _, hflush⟩, rfl⟩⟩

theorem runLater_posting (ha : e.mailbox.attended) (task : Task) :
    runLater task e = (.ok (), e.posting task) := by
  have hends : (runLater task).Ends e (fun _ e' => e' = e.posting task) fun _ _ => False := by
    refine Act.ends_bind.2 (Act.ends_get.2 (Act.ends_bind.2 (Act.ends_modify.2 ?_)))
    exact Act.ends_ite.2 ⟨fun hn => absurd ha (by simpa using hn), fun _ => rfl⟩
  obtain ⟨_, _, he, rfl⟩ := hends.answers
  exact he

/-- Elsewhere a review is put off, and nothing else is done. -/
theorem replenish_elsewhere (hoff : e.isOnHandler = false) (ha : e.mailbox.attended)
    (owner : Option Owner) : replenish owner e = (.ok (), e.posting (.replenish owner)) := by
  have hends : (replenish owner).Ends e (fun _ e' => e' = e.posting (.replenish owner))
      fun _ _ => False := by
    refine Act.ends_bind.2 (Act.ends_get.2 (Act.ends_ite.2 ⟨fun _ => ?_, fun hon => ?_⟩))
    · unfold Act.Ends
      rw [runLater_posting ha]
    · simp [hoff] at hon
  obtain ⟨_, _, he, rfl⟩ := hends.answers
  exact he

end Review

end ReceivingLink
