import ReceivingLink.Proofs.Review

/-!
# Credit that is asked for again and again

Anybody may ask for a top-up at any time: on the handler it is made at once, from elsewhere it waits
for the handler's loop. As long as nothing is settled and no credit is used, credit is granted once
at most, however often and in whatever order it is asked for and more deliveries are counted:
`granted_once`.
-/

namespace ReceivingLink

/-- A prompt to top up credit, or what may come between. -/
inductive Prompt where
  | review (elsewhere : Bool)
  | submit (elsewhere : Bool)
  | runPending
  | increment (counter : Owner) (elsewhere : Bool)

/-- Does what a prompt to top up for an owner does, on the handler or from elsewhere. -/
def Prompt.perform (owner : Option Owner) : Prompt → Act Panic Endpoint Unit
  | .review elsewhere => if elsewhere then replenish owner else onHandler (replenish owner)
  | .submit elsewhere =>
    if elsewhere then ReceivingLink.submit owner else onHandler (ReceivingLink.submit owner)
  | .runPending => do
    let _ ← ReceivingLink.runPending
  | .increment counter elsewhere =>
    if elsewhere then Tracker.increment counter else onHandler (Tracker.increment counter)

namespace Endpoint

/-- What is left out of the credit that is topped up for an owner. -/
def tally (e : Endpoint) (owner : Option Owner) : Int := (owner.map e.pending.get).getD 0

def prompted (owner : Option Owner) (e : Endpoint) (prompt : Prompt) : Endpoint :=
  (prompt.perform owner e).2

/-- The endpoint after prompts to top up for an owner. -/
def promptedAll (owner : Option Owner) (e : Endpoint) (prompts : List Prompt) : Endpoint :=
  prompts.foldl (prompted owner) e

/-- An endpoint whose link takes credit and has it sent, and where all that waits is to top up for
an owner. -/
structure Promptable (owner : Option Owner) (e : Endpoint) : Prop where
  spares : e.plan.Spares [.linkFlow, .flush]
  attended : e.mailbox.attended
  tasks : ∀ task ∈ e.mailbox.tasks, task = .replenish owner

/-- Nothing was granted, or once what was due then. -/
def GrantedOnce (policy : CreditPolicy) (low high : Int) (e e' : Endpoint) : Prop :=
  e'.link = e.link ∧ e'.calls = e.calls ∧ e'.mailbox.flushes = e.mailbox.flushes ∨
    ∃ tally amount, low ≤ tally ∧ tally ≤ high ∧
      policy.grant? e.link.credit (countWord tally) = some amount ∧
      e'.link = e.link.flow amount ∧ e'.calls = e.calls ++ [.linkFlow amount, .flush] ∧
      e'.mailbox.flushes = e.mailbox.flushes + 1

/-- What prompts bring about, as long as a word holds the tally. -/
structure Prompted (owner : Option Owner) (e e' : Endpoint) : Prop
    extends Promptable owner e' where
  config : e'.config = e.config
  handler : e'.mailbox.handler = e.mailbox.handler
  onHandler : e'.onHandler = e.onHandler
  grows : e.tally owner ≤ e'.tally owner
  granted : e'.tally owner < UInt32.size →
    GrantedOnce e.config.policy (e.tally owner) (e'.tally owner) e e'

end Endpoint

section Granting

variable {policy : CreditPolicy} {low high mid : Int} {e e₁ e₂ : Endpoint}

theorem countWord_mono {count count' : Int} (h : count ≤ count') (hlt : count' < UInt32.size) :
    (Endpoint.countWord count).toNat ≤ (Endpoint.countWord count').toNat := by
  rw [toNat_countWord (Int.lt_of_le_of_lt h hlt), toNat_countWord hlt]
  omega

theorem Endpoint.due_eq (e : Endpoint) (owner : Option Owner) :
    e.due owner = e.config.policy.grant? e.link.credit (countWord (e.tally owner)) := by
  cases owner <;> rfl

/-- What was granted once is not granted again at any count that has not gone down. -/
theorem Endpoint.GrantedOnce.trans (h : GrantedOnce policy low mid e e₁)
    (h' : GrantedOnce policy mid high e₁ e₂) (hlow : low ≤ mid) (hhigh : mid ≤ high)
    (hlt : high < UInt32.size) : GrantedOnce policy low high e e₂ := by
  obtain ⟨hlink, hcalls, hflushes⟩ | ⟨tally, amount, hle, hge, hgrant, hlink, hcalls, hflushes⟩ := h
  · obtain h' | ⟨tally', amount', hle', hge', hgrant', hrest⟩ := h'
    · exact .inl ⟨h'.1.trans hlink, h'.2.1.trans hcalls, h'.2.2.trans hflushes⟩
    · rw [hlink] at hgrant' hrest
      rw [hcalls, hflushes] at hrest
      exact .inr ⟨tally', amount', by omega, hge', hgrant', hrest⟩
  · obtain h' | ⟨tally', amount', hle', hge', hgrant', -⟩ := h'
    · exact .inr ⟨tally, amount, hle, by omega, hgrant, h'.1.trans hlink, h'.2.1.trans hcalls,
        h'.2.2.trans hflushes⟩
    · have hnone := CreditPolicy.grant?_mono (CreditPolicy.grant?_add hgrant)
        (countWord_mono (show tally ≤ tally' by omega) (by omega))
      rw [hlink] at hgrant'
      exact absurd (hgrant'.symm.trans hnone) (by simp)

end Granting

namespace Endpoint

variable {owner : Option Owner} {e e₁ e₂ : Endpoint}

theorem Promptable.refl (h : e.Promptable owner) : e.Prompted owner e :=
  ⟨h, rfl, rfl, rfl, Int.le_refl _, fun _ => .inl ⟨rfl, rfl, rfl⟩⟩

theorem Prompted.trans (h : e.Prompted owner e₁) (h' : e₁.Prompted owner e₂) :
    e.Prompted owner e₂ where
  toPromptable := h'.toPromptable
  config := h'.config.trans h.config
  handler := h'.handler.trans h.handler
  onHandler := h'.onHandler.trans h.onHandler
  grows := Int.le_trans h.grows h'.grows
  granted := fun hlt => by
    have hsecond := h'.granted hlt
    rw [h.config] at hsecond
    exact (h.granted (Int.lt_of_le_of_lt h'.grows hlt)).trans hsecond h.grows h'.grows hlt

theorem Prompted.isOnHandler (h : e.Prompted owner e₁) : e₁.isOnHandler = e.isOnHandler := by
  unfold Endpoint.isOnHandler
  rw [h.handler, h.onHandler]

theorem Promptable.entered (h : e.Promptable owner) : e.entered.Promptable owner :=
  ⟨h.spares, h.attended, h.tasks⟩

theorem Prompted.left (h : e.entered.Prompted owner e₁) :
    e.Prompted owner { e₁ with onHandler := e.onHandler } :=
  ⟨⟨h.spares, h.attended, h.tasks⟩, h.config, h.handler, rfl, h.grows, h.granted⟩

namespace Promptable

theorem posting (h : e.Promptable owner) :
    e.Prompted owner (e.posting (.replenish owner)) := by
  have hmailbox : (e.posting (.replenish owner)).mailbox =
      { e.mailbox with tasks := e.mailbox.tasks ++ [.replenish owner] } := if_pos h.attended
  refine ⟨⟨h.spares, by rw [hmailbox]; exact h.attended, fun task hmem => ?_⟩, rfl,
    by rw [hmailbox], rfl, Int.le_refl _, fun _ => .inl ⟨rfl, rfl, by rw [hmailbox]⟩⟩
  rw [hmailbox] at hmem
  rcases List.mem_append.1 hmem with hold | hnew
  · exact h.tasks task hold
  · exact List.mem_singleton.1 hnew

theorem review (h : e.Promptable owner) (hon : e.isOnHandler) :
    (replenish owner).Ends e
      (fun _ e' => e.Prompted owner e' ∧ e'.mailbox.tasks = e.mailbox.tasks) fun _ _ => False := by
  refine (replenish_due hon owner).imp (fun _ e' h' => ?_) fun _ e' h' => ?_
  · cases hdue : e.due owner with
    | none =>
      rw [hdue] at h'
      subst h'
      exact ⟨h.refl, rfl⟩
    | some amount =>
      rw [hdue] at h'
      obtain ⟨counters, notices, rfl⟩ := h'
      refine ⟨⟨⟨h.spares, h.attended, h.tasks⟩, rfl, rfl, rfl, Int.le_refl _, fun _ => .inr ?_⟩, rfl⟩
      exact ⟨e.tally owner, amount, Int.le_refl _, Int.le_refl _, e.due_eq owner ▸ hdue, rfl,
        List.append_assoc .., rfl⟩
  · obtain ⟨amount, -, ⟨⟨n, k, -, hk⟩, -⟩ | ⟨⟨n, k, -, hk⟩, -⟩⟩ := h'
    · exact h.spares n _ (by simp) k hk
    · exact h.spares n _ (by simp) k hk

/-- Every task that the loop takes is performed, and none puts itself into the mailbox again. -/
theorem drain : ∀ (limit : Nat) {e : Endpoint}, e.Promptable owner → e.isOnHandler →
    (ReceivingLink.drain limit).Ends e (fun n e' => e.Prompted owner e' ∧
      n = min limit e.mailbox.tasks.length ∧ e'.mailbox.tasks = e.mailbox.tasks.drop limit)
      fun _ _ => False
  | 0, e, h, _ => ⟨h.refl, by simp, rfl⟩
  | limit + 1, e, h, hon => by
    refine Act.ends_bind.2 (Act.ends_modifyGet.2 ?_)
    unfold Mailbox.take?
    cases htasks : e.mailbox.tasks with
    | nil => exact ⟨h.refl, by simp, htasks⟩
    | cons task rest =>
      obtain rfl := h.tasks task (htasks ▸ List.mem_cons_self)
      have hrest : (e.withTasks rest).Promptable owner :=
        ⟨h.spares, h.attended, fun task hmem => h.tasks task (htasks ▸ List.mem_cons_of_mem _ hmem)⟩
      refine Act.ends_bind.2 ((hrest.review (by exact hon)).imp (fun _ e₁ h₁ => ?_) fun _ _ => id)
      obtain ⟨hprompted, hsame⟩ := h₁
      have h₁ : e.Prompted owner e₁ := ⟨hprompted.toPromptable, hprompted.config, hprompted.handler,
        hprompted.onHandler, hprompted.grows, hprompted.granted⟩
      refine Act.ends_bind.2 ((drain limit h₁.toPromptable (h₁.isOnHandler ▸ hon)).imp
        (fun n e₂ h₂ => ⟨h₁.trans h₂.1, ?_, ?_⟩) fun _ _ => id)
      · rw [h₂.2.1, hsame]
        simp [withTasks]
      · rw [h₂.2.2, hsame]
        rfl

theorem runPending (h : e.Promptable owner) : ReceivingLink.runPending.Ends e
    (fun n e' => e.Prompted owner e' ∧ n = e.mailbox.tasks.length ∧ e'.mailbox.tasks = [])
    fun _ _ => False := by
  refine Act.ends_bind.2 (Act.ends_get.2 (ends_onHandler.2 ?_))
  refine (h.entered.drain _ (isOnHandler_enter e)).imp (fun n e' h' => ?_) fun _ _ => id
  obtain ⟨hprompted, hn, hdropped⟩ := h'
  exact ⟨hprompted.left, by simpa [Endpoint.entered] using hn,
    by simpa [Endpoint.entered] using hdropped⟩

theorem increment (h : e.Promptable owner) (counter : Owner) :
    (Tracker.increment counter).Ends e (fun _ => e.Prompted owner) fun _ => e.Prompted owner := by
  have hcounted : e.Prompted owner
      { e with pending := e.pending.set (e.pending.get counter + 1) counter } := by
    refine ⟨⟨h.spares, h.attended, h.tasks⟩, rfl, rfl, rfl, ?_, fun _ => .inl ⟨rfl, rfl, rfl⟩⟩
    rcases owner with _ | _ | _ <;> cases counter <;>
      simp only [tally, Each.get, Each.set, Option.map_none, Option.map_some, Option.getD_none,
        Option.getD_some] <;> omega
  refine Act.ends_bind.2 (Act.ends_get.2 (Act.ends_ite.2 ⟨fun _ => ?_, fun _ => ?_⟩))
  · exact Act.ends_bind.2 h.refl
  · refine Act.ends_bind.2 ((requireOnHandler_stays e).imp ?_ ?_)
    · rintro _ _ rfl
      exact hcounted
    · rintro _ _ rfl
      exact h.refl

theorem after (h : e.Promptable owner) (hoff : e.isOnHandler = false) (prompt : Prompt) :
    e.Prompted owner (e.prompted owner prompt) := by
  refine Act.Ends.state (Q := e.Prompted owner) ?_
  have hentered {act : Act Panic Endpoint Unit}
      (hact : act.Ends e.entered (fun _ => e.entered.Prompted owner)
        fun _ => e.entered.Prompted owner) :
      (ReceivingLink.onHandler act).Ends e (fun _ => e.Prompted owner) fun _ => e.Prompted owner :=
    ends_onHandler.2 (hact.imp (fun _ _ h' => h'.left) fun _ _ h' => h'.left)
  have hposting {e : Endpoint} (h : e.Promptable owner) :
      (submit owner).Ends e (fun _ => e.Prompted owner) fun _ => e.Prompted owner := by
    unfold Act.Ends submit
    rw [runLater_posting h.attended]
    exact h.posting
  cases prompt with
  | review elsewhere =>
    refine Act.ends_ite.2 ⟨fun _ => ?_, fun _ => hentered ?_⟩
    · unfold Act.Ends
      rw [replenish_elsewhere hoff h.attended]
      exact h.posting
    · exact (h.entered.review (isOnHandler_enter e)).imp (fun _ _ => And.left) fun _ _ => False.elim
  | submit elsewhere =>
    exact Act.ends_ite.2 ⟨fun _ => hposting h, fun _ => hentered (hposting h.entered)⟩
  | runPending =>
    exact Act.ends_bind.2 (h.runPending.imp (fun _ _ => And.left) fun _ _ => False.elim)
  | increment counter elsewhere =>
    exact Act.ends_ite.2 ⟨fun _ => h.increment counter,
      fun _ => hentered (h.entered.increment counter)⟩

theorem afterAll : ∀ {prompts : List Prompt} {e : Endpoint}, e.Promptable owner →
    e.isOnHandler = false → e.Prompted owner (e.promptedAll owner prompts)
  | [], _, h, _ => h.refl
  | prompt :: prompts, _, h, hoff => by
    have h₁ := h.after hoff prompt
    exact h₁.trans (h₁.toPromptable.afterAll (h₁.isOnHandler.trans hoff))

end Promptable

end Endpoint

/-- Whatever is prompted, in whatever order, credit is granted once at most while a word holds the
tally, and with exactly what was due. A prompt from elsewhere puts one task into the mailbox and
does nothing else, and the handler's loop performs all tasks that wait and leaves none. -/
theorem granted_once {e : Endpoint} (owner : Option Owner) (hoff : e.isOnHandler = false)
    (ha : e.mailbox.attended) (htasks : ∀ task ∈ e.mailbox.tasks, task = .replenish owner)
    (hspares : e.plan.Spares [.linkFlow, .flush]) (prompts : List Prompt)
    (hlt : (e.promptedAll owner prompts).tally owner < UInt32.size) :
    let e' := e.promptedAll owner prompts
    (e'.calls = e.calls ∧ e'.link = e.link ∧ e'.mailbox.flushes = e.mailbox.flushes ∨
        ∃ amount, e'.calls = e.calls ++ [.linkFlow amount, .flush] ∧
          e'.link = e.link.flow amount ∧
          e'.link.credit.toNat = e.link.credit.toNat + amount.toNat ∧
          e'.mailbox.flushes = e.mailbox.flushes + 1) ∧
      replenish owner e' = (.ok (), { e' with
        mailbox := { e'.mailbox with tasks := e'.mailbox.tasks ++ [.replenish owner] } }) ∧
      ∃ e'', runPending e' = (.ok e'.mailbox.tasks.length, e'') ∧ e''.mailbox.tasks = [] := by
  intro e'
  have h : e.Prompted owner e' := Endpoint.Promptable.afterAll ⟨hspares, ha, htasks⟩ hoff
  refine ⟨?_, ?_, ?_⟩
  · obtain ⟨hlink, hcalls, hflushes⟩ | ⟨tally, amount, -, -, hgrant, hlink, hcalls, hflushes⟩ :=
      h.granted hlt
    · exact .inl ⟨hcalls, hlink, hflushes⟩
    · refine .inr ⟨amount, hcalls, hlink, ?_, hflushes⟩
      rw [hlink]
      exact CreditPolicy.toNat_add_grant hgrant
  · rw [replenish_elsewhere (h.isOnHandler.trans hoff) h.attended]
    unfold Endpoint.posting Mailbox.post
    rw [if_pos h.attended]
  · obtain ⟨n, e'', hrun, -, rfl, hempty⟩ := h.toPromptable.runPending.answers
    exact ⟨e'', hrun, hempty⟩

/-- The refill is below the threshold, so that credit is low still after it was granted, and yet it
is granted once only. -/
theorem granted_once_low :
    let e : Endpoint := .start { policy := ⟨50, 80⟩ } "orders" 10 ⟨1⟩ .memory none
    let prompts : List Prompt := [.review true, .review false, .increment .receiver false,
      .submit false, .runPending, .review false, .review true]
    (∃ amount, (e.promptedAll (some .receiver) prompts).calls = [.linkFlow amount, .flush]) ∧
      ∃ e', runPending (e.promptedAll (some .receiver) prompts) = (.ok 1, e') ∧
        e'.mailbox.tasks = [] := by
  intro e prompts
  have hspares : e.plan.Spares [.linkFlow, .flush] := fun _ _ _ _ => by
    simp [e, Endpoint.start, Plan.clear]
  have hcalled : (e.promptedAll (some .receiver) prompts).calls ≠ e.calls := by decide +kernel
  have hwaits : (e.promptedAll (some .receiver) prompts).mailbox.tasks.length = 1 := by
    decide +kernel
  obtain ⟨hgranted, -, hrun⟩ := granted_once (e := e) (some .receiver) rfl rfl
    (by decide +kernel) hspares prompts (by decide +kernel)
  rw [hwaits] at hrun
  refine ⟨?_, hrun⟩
  obtain ⟨hcalls, -⟩ | ⟨amount, hcalls, -⟩ := hgranted
  · exact absurd hcalls hcalled
  · exact ⟨amount, hcalls⟩

end ReceivingLink
