import ReceivingLink.Proofs.Run

/-!
# What settling does not look at

Settling a delivery and reviewing credit look neither at whether the receiver is open nor at what
was told and counted before. From endpoints that differ in nothing else, everything that happens
aside from the peer and the receiver ends in the same way and leaves them so: `aside_alike`.
`Act.Respects` says so of an action and goes through sequences of steps, so each function has one
lemma.
-/

namespace ReceivingLink

/-- The endpoints differ at most in whether the receiver is open and in what was told and
counted. -/
def Endpoint.Alike (e e' : Endpoint) : Prop :=
  ∃ lifecycle notices counters, e' = { e with lifecycle, notices, counters }

namespace Act

variable {ε σ α β : Type}

/-- From related states the action ends in the same way, and in related states. -/
def Respects (R : σ → σ → Prop) (act : Act ε σ α) : Prop :=
  ∀ s s', R s s' → (act s').1 = (act s).1 ∧ R (act s).2 (act s').2

namespace Respects

variable {R : σ → σ → Prop}

theorem answer (a : α) : (pure a : Act ε σ α).Respects R := fun _ _ h => ⟨rfl, h⟩

theorem breakOff (k : ε) : (throw k : Act ε σ α).Respects R := fun _ _ h => ⟨rfl, h⟩

theorem change {f : σ → σ} (h : ∀ s s', R s s' → R (f s) (f s')) :
    (modify f : Act ε σ Unit).Respects R := fun s s' hs => ⟨rfl, h s s' hs⟩

theorem exchange {f : σ → α × σ} (h : ∀ s s', R s s' → (f s').1 = (f s).1 ∧ R (f s).2 (f s').2) :
    (modifyGet f : Act ε σ α).Respects R := fun s s' hs =>
  ⟨congrArg Except.ok (h s s' hs).1, (h s s' hs).2⟩

theorem bind {x : Act ε σ β} {f : β → Act ε σ α} (hx : x.Respects R)
    (hf : ∀ b, (f b).Respects R) : (x >>= f).Respects R := by
  intro s s' hs
  obtain ⟨hresult, hstate⟩ := hx s s' hs
  simp only [Bind.bind, ExceptT.bind, ExceptT.mk, StateT.bind]
  rcases hr : x s with ⟨_ | b, s₁⟩ <;> rcases hr' : x s' with ⟨_ | b', s₁'⟩ <;>
    rw [hr, hr'] at hresult hstate <;> cases hresult
  · exact ⟨rfl, hstate⟩
  · exact hf b s₁ s₁' hstate

/-- What follows a look at the state must be the same for related states. -/
theorem look {f : σ → Act ε σ α} (h : ∀ s s', R s s' → f s' = f s)
    (hf : ∀ s, (f s).Respects R) : ((get : Act ε σ σ) >>= f).Respects R := by
  intro s s' hs
  show (f s' s').1 = (f s s).1 ∧ R (f s s).2 (f s' s').2
  rw [h s s' hs]
  exact hf s s s' hs

theorem bracket {x : Act ε σ α} {enter : σ → σ} {leave : σ → σ → σ} (hx : x.Respects R)
    (henter : ∀ s s', R s s' → R (enter s) (enter s'))
    (hleave : ∀ s s' t t', R s s' → R t t' → R (leave s t) (leave s' t')) :
    (x.bracket enter leave).Respects R := fun s s' hs =>
  have h := hx _ _ (henter s s' hs)
  ⟨h.1, hleave _ _ _ _ hs h.2⟩

end Respects

end Act

namespace Endpoint.Alike

variable {e e₁ e₂ : Endpoint}

theorem refl (e : Endpoint) : e.Alike e := ⟨_, _, _, rfl⟩

theorem symm (h : e.Alike e₁) : e₁.Alike e := by
  obtain ⟨_, _, _, rfl⟩ := h
  exact ⟨e.lifecycle, e.notices, e.counters, rfl⟩

theorem trans (h : e.Alike e₁) (h' : e₁.Alike e₂) : e.Alike e₂ := by
  obtain ⟨_, _, _, rfl⟩ := h
  obtain ⟨_, _, _, rfl⟩ := h'
  exact ⟨_, _, _, rfl⟩

end Endpoint.Alike

section Settling

open Endpoint

theorem report_alike (notice : Notice) : (report notice).Respects Alike :=
  .change fun _ _ ⟨_, _, _, h⟩ => h ▸ ⟨_, _, _, rfl⟩

theorem count_alike (f : Counters → Counters) : (count f).Respects Alike :=
  .change fun _ _ ⟨_, _, _, h⟩ => h ▸ ⟨_, _, _, rfl⟩

theorem onLink_alike (f : Link → Link) : (onLink f).Respects Alike :=
  .change fun _ _ ⟨_, _, _, h⟩ => h ▸ ⟨_, _, _, rfl⟩

theorem invoke_alike (call : Call) : (invoke call).Respects Alike := by
  have hnote : (note call).Respects Alike := .exchange fun _ _ ⟨_, _, _, h⟩ =>
    h ▸ ⟨rfl, _, _, _, rfl⟩
  refine .bind hnote fun fault => ?_
  split
  · exact .breakOff _
  · exact .answer ()

theorem requireOnHandler_alike : requireOnHandler.Respects Alike := by
  refine .look (fun _ _ ⟨_, _, _, h⟩ => h ▸ rfl) fun e => ?_
  split
  · exact .breakOff _
  · exact .answer ()

theorem onHandler_alike {α : Type} {act : Act Panic Endpoint α} (h : act.Respects Alike) :
    (onHandler act).Respects Alike :=
  .bracket h (fun _ _ ⟨_, _, _, h⟩ => h ▸ ⟨_, _, _, rfl⟩)
    fun _ _ _ _ ⟨_, _, _, h⟩ ⟨_, _, _, h'⟩ => h ▸ h' ▸ ⟨_, _, _, rfl⟩

theorem runLater_alike (task : Task) : (runLater task).Respects Alike := by
  refine .look (fun _ _ ⟨_, _, _, h⟩ => h ▸ rfl) fun e => ?_
  refine .bind (.change fun _ _ ⟨_, _, _, h⟩ => h ▸ ⟨_, _, _, rfl⟩) fun _ => ?_
  split
  · exact report_alike _
  · exact .answer ()

theorem decrement_alike (o : Owner) : (Tracker.decrement o).Respects Alike := by
  refine .bind requireOnHandler_alike fun _ => ?_
  refine .bind (.change fun _ _ ⟨_, _, _, h⟩ => h ▸ ⟨_, _, _, rfl⟩) fun _ => ?_
  refine .look (fun _ _ ⟨_, _, _, h⟩ => h ▸ rfl) fun e => ?_
  split
  · exact .breakOff _
  · exact .answer ()

theorem flushNow_alike : flushNow.Respects Alike := by
  refine .bind requireOnHandler_alike fun _ => ?_
  exact .bind (.change fun _ _ ⟨_, _, _, h⟩ => h ▸ ⟨_, _, _, rfl⟩) fun _ => invoke_alike _

theorem replenish_alike (owner : Option Owner) : (replenish owner).Respects Alike := by
  refine .look (fun _ _ ⟨_, _, _, h⟩ => h ▸ rfl) fun e => ?_
  dsimp only
  split
  · exact runLater_alike _
  split
  · exact .answer ()
  refine .bind (.bind (invoke_alike _) fun _ => onLink_alike _) fun _ => ?_
  refine .bind flushNow_alike fun _ => ?_
  exact .bind (count_alike _) fun _ => report_alike _

theorem settleOnHandler_alike (d : DeliveryId) : (settleOnHandler d).Respects Alike := by
  refine .bind requireOnHandler_alike fun _ => .bind (decrement_alike _) fun _ => ?_
  refine .bind (.bind (invoke_alike _) fun _ => onLink_alike _) fun _ => ?_
  exact replenish_alike _

theorem perform_alike (task : Task) : task.perform.Respects Alike := by
  rcases task with owner | ⟨d, _ | outcome⟩
  · exact replenish_alike owner
  · exact settleOnHandler_alike d
  · refine .bind (.bind (invoke_alike _) fun _ => onLink_alike _) fun _ => ?_
    exact settleOnHandler_alike d

theorem runNow_alike (task : Task) : (runNow task).Respects Alike := by
  refine .look (fun _ _ ⟨_, _, _, h⟩ => h ▸ rfl) fun e => ?_
  split
  · exact perform_alike task
  · exact runLater_alike task

theorem drain_alike : ∀ limit : Nat, (drain limit).Respects Alike
  | 0 => .answer _
  | limit + 1 => by
    have htake : takeTask.Respects Alike := .exchange fun e _ h => by
      obtain ⟨_, _, _, rfl⟩ := h
      dsimp only
      split
      · exact ⟨rfl, _, _, _, rfl⟩
      · exact ⟨rfl, _, _, _, rfl⟩
    refine .bind htake fun task => ?_
    rcases task with _ | task
    · exact .answer _
    · refine .bind (perform_alike task) fun _ => ?_
      exact .bind (drain_alike limit) fun _ => .answer _

theorem use_alike (use : Sink.Use) : use.perform.Respects Alike := by
  refine .look (fun _ _ ⟨_, _, _, h⟩ => h ▸ rfl) fun e => ?_
  split
  · exact .answer ()
  refine .bind (.change fun _ _ ⟨_, _, _, h⟩ => h ▸ ⟨_, _, _, rfl⟩) fun _ => ?_
  split
  · exact runLater_alike _
  · exact onHandler_alike (runNow_alike _)

theorem onFlow_alike (credits : UInt32) (drain : Bool) :
    (Receiver.onFlow credits drain).Respects Alike :=
  .look (fun _ _ ⟨_, _, _, h⟩ => h ▸ rfl) fun _ =>
    .bind (report_alike _) fun _ => replenish_alike _

/-- What happens aside from the peer and the receiver is the same for endpoints that are alike. -/
theorem aside_alike {event : Event} (h : event.isAside) : event.perform.Respects Alike := by
  have hdone {act : Act Panic Endpoint Unit} (hact : act.Respects Alike) :
      (act >>= fun _ => pure (Except.ok ()) :
        Act Panic Endpoint (Except ReceiverError Unit)).Respects Alike :=
    .bind hact fun _ => .answer _
  cases event with
  | flow credits drain elsewhere =>
    cases elsewhere with
    | false => exact hdone (onHandler_alike (onFlow_alike credits drain))
    | true => exact hdone (onFlow_alike credits drain)
  | runPending =>
    refine .bind (.look (fun _ _ ⟨_, _, _, h⟩ => h ▸ rfl) fun e => ?_) fun _ => .answer _
    exact onHandler_alike (drain_alike _)
  | settle use => exact hdone (use_alike use)
  | submit => exact hdone (runLater_alike _)
  | setMode mode => exact hdone (.change fun _ _ ⟨_, _, _, h⟩ => h ▸ ⟨_, _, _, rfl⟩)
  | _ => exact nomatch h

theorem asides_alike : ∀ {run : List Event} {e e' : Endpoint}, e.Alike e' →
    (∀ event ∈ run, event.isAside) → (e.afterAll run).Alike (e'.afterAll run)
  | [], _, _, h, _ => h
  | event :: _, e, e', h, hrun => by
    obtain ⟨hevent, hrest⟩ := List.forall_mem_cons.1 hrun
    have hafter : (e.after event).Alike (e'.after event) := (aside_alike hevent e e' h).2
    exact asides_alike (e := e.after event) hafter hrest

end Settling

end ReceivingLink
