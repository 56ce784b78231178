import ReceivingLink.Proofs.Heed

/-!
# Deliveries that nobody settles

Once the link is moved past a delivery, somebody has to settle it. The receiver settles what was
given up and what routing does not take, and routing settles the rest, now or later. But when the
link was moved on and the message cannot be sealed, built or assigned to its transaction, the event
ends with an error and nobody is left with the delivery: `settled_or_owed_iff`.
-/

namespace ReceivingLink

namespace Endpoint

/-- In the event the link is moved past a delivery that was not given up, and nothing is passed to
routing. -/
structure Forsakes (e : Endpoint) (d : DeliveryId) (event : Event) : Prop where
  queued : d ∈ e.link.queue
  passed : d ∉ (e.after event).link.queue
  given : (e.link.delivery d).isAborted = false
  unhanded : (e.after event).handoffs = e.handoffs

/-- The link is past the delivery, which is neither settled nor owed. -/
structure Forsaken (e : Endpoint) (d : DeliveryId) : Prop where
  begun : d ∈ e.begun
  passed : d ∉ e.link.queue
  unsettled : e.settles d = 0
  unowed : d ∉ e.owed

instance (e : Endpoint) (d : DeliveryId) (event : Event) : Decidable (e.Forsakes d event) :=
  decidable_of_iff (d ∈ e.link.queue ∧ d ∉ (e.after event).link.queue ∧
    (e.link.delivery d).isAborted = false ∧ (e.after event).handoffs = e.handoffs)
    ⟨fun h => ⟨h.1, h.2.1, h.2.2.1, h.2.2.2⟩, fun h => ⟨h.1, h.2, h.3, h.4⟩⟩

end Endpoint

/-- The books are in order, and every delivery that routing accepted is accounted for. -/
structure Tended (e : Endpoint) (accepted : List DeliveryId) : Prop where
  books : Books e accepted []
  attended : e.mailbox.attended
  accounted : ∀ d ∈ accepted, e.Accounted d

section Events

variable {e e' : Endpoint} {accepted : List DeliveryId} {d : DeliveryId}

/-- The task that is performed next is accounted for otherwise. -/
theorem Heeds.take {task : Task} {rest : List Task} (htasks : e.mailbox.tasks = task :: rest)
    (h : Heeds (e.withTasks rest) e') (hd : ∀ d ∈ task.delivery?, e'.Accounted d) :
    Heeds e e' := by
  refine ⟨h.attended, h.begun, h.settles, fun x hx => ?_⟩
  rcases List.mem_append.1 hx with hx | hx
  · exact h.owed x (List.mem_append_left _ hx)
  · rw [show e.mailbox.tasks.filterMap Task.delivery? = e.waiting from rfl,
      waiting_withTasks htasks, List.mem_append, Option.mem_toList] at hx
    exact hx.elim (hd x) fun hx => h.owed x (List.mem_append_right _ hx)

theorem drain_heeds : ∀ (limit : Nat) {e : Endpoint}, e.owed ⊆ e.begun →
    (ReceivingLink.drain limit).Ends e (fun _ e' => Heeds e e') fun _ _ => True
  | 0, e, _ => Heeds.refl e
  | limit + 1, e, hb => by
    refine Act.ends_bind.2 (Act.ends_modifyGet.2 ?_)
    rcases htasks : e.mailbox.tasks with _ | ⟨task, rest⟩
    · simp only [Mailbox.take?, htasks]
      exact Heeds.refl e
    simp only [Mailbox.take?, htasks]
    have hless : (e.withTasks rest).owed ⊆ e.owed := by
      refine List.append_subset.2 ⟨List.subset_append_left _ _, fun x hx => ?_⟩
      refine List.mem_append_right _ (?_ : x ∈ e.waiting)
      rw [waiting_withTasks htasks]
      exact List.mem_append_right _ hx
    have hperform : task.perform.Ends (e.withTasks rest)
        (fun _ e₁ => Heeds e e₁ ∧ e₁.owed = (e.withTasks rest).owed) fun _ _ => True := by
      rcases task with owner | ⟨d, outcome⟩
      · refine (sameLedger_frame.replenish_within owner _).imp (fun _ e₁ h₁ => ?_)
          fun _ _ _ => trivial
        exact ⟨.take htasks h₁.heeds (by simp [Task.delivery?]), h₁.owed⟩
      · have hd : d ∈ e.begun := hb (List.mem_append_right _ (by simp [htasks, Task.delivery?]))
        refine (perform_heeds (e := e.withTasks rest) hd outcome).imp (fun _ e₁ h₁ => ?_)
          fun _ _ => id
        refine ⟨.take htasks h₁.heeds fun x hx => ?_, h₁.same⟩
        exact .inl (Option.some.inj hx ▸ h₁.settled)
    refine Act.ends_bind.2 (hperform.imp (fun _ e₁ h₁ => ?_) fun _ _ => id)
    refine Act.ends_bind.2 ((drain_heeds limit ?_).imp (fun _ _ h₂ => ?_) fun _ _ => id)
    · rw [h₁.2, h₁.1.begun]
      exact List.Subset.trans hless hb
    · exact Act.ends_pure.2 (h₁.1.trans h₂)

theorem Heeds.leave (h : Heeds e.entered e') : Heeds e { e' with onHandler := e.onHandler } :=
  ⟨h.attended, h.begun, h.settles, h.owed⟩

/-- An event that is neither the beginning of a delivery nor for one moves no delivery out of the
queue, and none drops out of account. -/
theorem Tended.heeds (h : Tended e accepted) (event : Event)
    (hbegin : ∀ format remote, event ≠ .begin format remote) (hmessage : ∀ d, event ≠ .message d) :
    Heeds e (e.after event) ∧ (e.after event).link.queue = e.link.queue := by
  have hbeside {e' : Endpoint} (hb : Beside e e') : Heeds e e' ∧ e'.link.queue = e.link.queue :=
    ⟨hb.toSameLedger.heeds, hb.stays⟩
  have heffect : Effect e event (e.after event) := aside_effect hmessage
  have hleave {e' : Endpoint} (hb : Beside e.entered e') :
      Beside e { e' with onHandler := e.onHandler } :=
    ((beside_entered e).trans hb).trans (.aside rfl rfl rfl rfl rfl rfl rfl rfl)
  have hrun {act : Act Panic Endpoint Unit} {Q : Endpoint → Prop}
      (hact : act.Ends e (fun _ => Q) fun _ => Q) :
      Q ((act >>= fun _ => pure (.ok ()) : Act Panic Endpoint (Except ReceiverError Unit)) e).2 :=
    (Act.ends_bind.2 hact).state
  cases event with
  | begin format remote => exact absurd rfl (hbegin format remote)
  | message d => exact absurd rfl (hmessage d)
  | transfer bytes more => exact hbeside (.changeCurrent (fun _ => rfl) fun _ => rfl)
  | abort => exact hbeside (.changeCurrent (fun _ => rfl) fun _ => rfl)
  | setDrain drain => exact hbeside ⟨.ofLink rfl rfl (fun _ => rfl) List.suffix_rfl, rfl⟩
  | flow credits drain elsewhere =>
    refine ⟨?_, heffect.queue⟩
    have hflow := sameLedger_frame.onFlow_within credits drain
    refine Act.Ends.state (Q := Heeds e) (Act.ends_ite.2 ⟨fun _ => Act.ends_bind.2 ?_,
      fun _ => Act.ends_bind.2 (ends_onHandler.2 ?_)⟩)
    · exact (hflow e).imp (fun _ _ => SameLedger.heeds) fun _ _ h₁ => h₁.1.heeds
    · exact (hflow e.entered).imp (fun _ _ h₁ => h₁.heeds.leave) fun _ _ h₁ => h₁.1.heeds.leave
  | close remoteInitiated =>
    refine hbeside (hrun (Q := Beside e) (ends_onHandler.2 ?_))
    exact (beside_close _ remoteInitiated).imp (fun _ _ => hleave) fun _ _ => hleave
  | closeWithError condition =>
    refine hbeside (hrun (Q := Beside e) (ends_onHandler.2 ?_))
    exact (beside_closeWithError _ condition).imp (fun _ _ => hleave) fun _ _ => hleave
  | runPending =>
    refine ⟨Act.Ends.state (Q := Heeds e) (Act.ends_bind.2 (Act.ends_bind.2 (Act.ends_get.2
      (ends_onHandler.2 ?_)))), heffect.queue⟩
    have hdrain := (Books.drain e.mailbox.tasks.length (h.books.aside (some e.mailbox.handler)
      e.counters) (isOnHandler_enter e)).and (drain_heeds _ h.books.owed_begun)
    exact hdrain.imp (fun _ _ h₁ => h₁.2.leave) fun _ _ h₁ => h₁.1.elim
  | settle use =>
    have huse := (h.books.use use).and (use_heeds h.attended h.books.owed_begun use)
    exact ⟨hrun (Q := Heeds e) (huse.imp (fun _ _ => And.right) fun _ _ h₁ => h₁.1.elim),
      heffect.queue⟩
  | submit =>
    have hask := sameLedger_frame.ask_within (some .receiver) e
    exact ⟨hrun (Q := Heeds e) (hask.imp (fun _ _ => SameLedger.heeds) fun _ _ h₁ => h₁.1.heeds),
      heffect.queue⟩
  | setMode mode => exact hbeside (.aside rfl rfl rfl rfl rfl rfl rfl rfl)

theorem Disposes.aside {onHandler : Option HandlerId} {notices : List Notice} {counters : Counters}
    (h : Disposes e d e') : Disposes e d { e' with onHandler, notices, counters } := by
  have hb : Beside e' { e' with onHandler, notices, counters } :=
    .aside rfl rfl rfl rfl rfl rfl rfl rfl
  refine ⟨h.heeds.trans hb.toSameLedger.heeds, h.shifts, h.passed.imp_right (.imp_right ?_)⟩
  exact And.imp_left (·.trans hb.toSameLedger)

theorem Tended.message (h : Tended e accepted) (d : DeliveryId) :
    Disposes e d (e.after (.message d)) ∧
      (Beside e (e.after (.message d)) ∨ e.link.current = some d) := by
  have hbooks : Books e.entered accepted [] := h.books.aside _ e.counters
  have hentered {e' : Endpoint} (h' : Disposes e.entered d e') : Disposes e d e' := by
    refine ⟨(beside_entered e).toSameLedger.heeds.trans h'.heeds, h'.shifts, ?_⟩
    exact h'.passed.imp_right (.imp_right (And.imp_left ((beside_entered e).toSameLedger.trans ·)))
  have haside {e' : Endpoint} {onHandler notices counters} (hb : Beside e e') :
      Beside e { e' with onHandler, notices, counters } :=
    hb.trans (.aside rfl rfl rfl rfl rfl rfl rfl rfl)
  refine (message_ends (Q := fun e' => Disposes e d e' ∧ (Beside e e' ∨ e.link.current = some d))
    (fun _ => And.imp .aside (.imp_left haside)) (fun _ => ?_) fun _ hd => ?_).state
  · exact ⟨⟨.refl e, .inl rfl, .inl rfl⟩, .inl (.refl e)⟩
  · have hprocess := process_disposes hbooks (isOnHandler_enter e) hd h.attended
    exact hprocess.imp (fun _ _ h₁ => ⟨hentered h₁, .inr hd⟩)
      (fun _ _ h₁ => ⟨hentered h₁, .inr hd⟩) fun _ _ h₁ => ⟨hentered h₁, .inr hd⟩

/-- An event in which a delivery leaves the queue is one for that delivery. -/
theorem Tended.leaves (h : Tended e accepted) {event : Event} (hd : d ∈ e.link.queue)
    (hq : d ∉ (e.after event).link.queue) :
    event = .message d ∧ Disposes e d (e.after event) ∧
      (e.after event).link.queue ≠ e.link.queue := by
  have hne : (e.after event).link.queue ≠ e.link.queue := fun hsame => hq (hsame ▸ hd)
  have hheeds := h.heeds event
  cases event with
  | begin format remote => exact absurd (List.mem_append_left _ hd) hq
  | message d' =>
    obtain ⟨hdisposes, hcurrent⟩ := h.message d'
    obtain ⟨rest, hrest⟩ : ∃ rest, e.link.queue = d' :: rest :=
      List.head?_eq_some_iff.1 (hcurrent.resolve_left fun hb => hne hb.stays)
    have htail : (e.after (.message d')).link.queue = rest :=
      (hdisposes.shifts.resolve_left hne).trans (congrArg List.tail hrest)
    rw [hrest] at hd
    obtain rfl : d = d' := (List.mem_cons.1 hd).resolve_right fun hr => hq (htail ▸ hr)
    exact ⟨rfl, hdisposes, hne⟩
  | _ => exact absurd (hheeds (by simp) (by simp)).2 hne

theorem Tended.after_forsaken (h : Tended e accepted) {event : Event} (hf : e.Forsakes d event) :
    (e.after event).Forsaken d := by
  obtain ⟨rfl, hdisposes, hne⟩ := h.leaves hf.queued hf.passed
  have hs : SameLedger e (e.after (.message d)) := by
    rcases hdisposes.passed with hq | ⟨-, hgiven | hhanded⟩ | ⟨hs, -⟩
    · exact absurd hq hne
    · exact absurd (hf.given.symm.trans hgiven) Bool.false_ne_true
    · exact absurd hf.unhanded hhanded
    · exact hs
  have hbegun : d ∈ e.begun := h.books.known (by simp [hf.queued])
  have hunowed : d ∉ e.owed := fun ho =>
    (List.nodup_append.1 h.books.apart).2.2 d (by simp [hf.queued]) d (h.books.owedAccepted ho) rfl
  refine ⟨hs.begun ▸ hbegun, hf.passed, ?_, hs.owed ▸ hunowed⟩
  exact (hs.settles d).trans (h.books.unsettled d (by simp [hf.queued]))

/-- A delivery that is not forsaken in an event is accounted for once the link is past it. -/
theorem Tended.after_accounted (h : Tended e accepted) {event : Event}
    (hf : ¬ e.Forsakes d event) (hpast : d ∈ e.begun → d ∉ e.link.queue → e.Accounted d)
    (hb : d ∈ (e.after event).begun) (hq : d ∉ (e.after event).link.queue) :
    (e.after event).Accounted d := by
  by_cases hd : d ∈ e.link.queue
  · obtain ⟨rfl, hdisposes, hne⟩ := h.leaves hd hq
    rcases hdisposes.passed with hsame | ⟨haccounted, -⟩ | ⟨hs, hgiven⟩
    · exact absurd hsame hne
    · exact haccounted
    · exact absurd ⟨hd, hq, hgiven, hs.handoffs⟩ hf
  · have hheeds := h.heeds event
    cases event with
    | begin format remote =>
      have hq' : d ∉ (e.link.beginWith format remote).queue := hq
      rw [Link.beginWith_queue, List.mem_append, not_or] at hq'
      have hb' : d ∈ (e.link.beginWith format remote).deliveries.map (·.id) := hb
      rw [Link.beginWith_ids, List.mem_append] at hb'
      refine (hpast (hb'.resolve_right hq'.2) hd).imp_left fun hs => ?_
      exact Nat.lt_of_lt_of_eq hs (Link.settles_beginWith _ _ _ d).symm
    | message d' =>
      have hh := (h.message d').1.heeds
      exact hh.accounted (hpast (hh.begun ▸ hb) hd)
    | _ =>
      have hh := (hheeds (by simp) (by simp)).1
      exact hh.accounted (hpast (hh.begun ▸ hb) hd)

/-- If nothing was done about a delivery that routing accepted, then it was settled before. -/
theorem Books.accounted_of_same (h : Books e accepted []) (h' : Books e' (accepted ++ [d]) [])
    (hs : SameLedger e e') : e'.Accounted d := by
  by_contra hn
  have hopen : e'.settles d = 0 := by
    have := not_or.1 hn
    omega
  have hcount := h.count
  have hcount' := h'.count
  simp only [hs.pending, hs.settles, List.filter_append, List.length_append] at hcount' hopen
  simp [hopen] at hcount hcount'
  omega

theorem Tended.message_accounted (h : Tended e accepted)
    (hb : Books (e.after (.message d)) (accepted ++ [d]) []) :
    (e.after (.message d)).Accounted d := by
  obtain ⟨hdisposes, hbeside | hd⟩ := h.message d
  · exact h.books.accounted_of_same hb hbeside.toSameLedger
  rcases hdisposes.passed with hsame | ⟨haccounted, -⟩ | ⟨hs, -⟩
  · have hq : d ∈ (e.after (.message d)).link.queue := hsame ▸ List.mem_of_mem_head? hd
    exact ((List.nodup_append.1 hb.apart).2.2 d (by simp [hq]) d (by simp) rfl).elim
  · exact haccounted
  · exact h.books.accounted_of_same hb hs

theorem Tended.after (h : Tended e accepted) (event : Event) :
    Tended (e.after event) (accepted ++ e.acceptedBy event) := by
  have hbooks := h.books.after event
  have hheeds := h.heeds event
  have hkept (hh : Heeds e (e.after event)) (ha : e.acceptedBy event = []) :
      Tended (e.after event) (accepted ++ e.acceptedBy event) := by
    refine ⟨hbooks, hh.attended.trans h.attended, fun d hd => ?_⟩
    rw [ha, List.append_nil] at hd
    exact hh.accounted (h.accounted d hd)
  cases event with
  | begin format remote =>
    refine ⟨hbooks, h.attended, fun d hd => ?_⟩
    refine (h.accounted d (by simpa [Endpoint.acceptedBy] using hd)).imp_left fun hs => ?_
    exact Nat.lt_of_lt_of_eq hs (Link.settles_beginWith _ _ _ d).symm
  | message d =>
    have hh := (h.message d).1.heeds
    by_cases ha : e.acceptedBy (.message d) = []
    · exact hkept hh ha
    have hd : e.acceptedBy (.message d) = [d] := by
      unfold Endpoint.acceptedBy at ha ⊢
      exact if_pos (by_contra fun hn => ha (if_neg hn))
    rw [hd] at hbooks ⊢
    refine ⟨hbooks, hh.attended.trans h.attended, fun x hx => ?_⟩
    rcases List.mem_append.1 hx with hx | hx
    · exact hh.accounted (h.accounted x hx)
    · obtain rfl : x = d := List.mem_singleton.1 hx
      exact h.message_accounted hbooks
  | _ => exact hkept (hheeds (by simp) (by simp)).1 rfl

theorem Tended.afterAll : ∀ (run : List Event) {e : Endpoint} {accepted : List DeliveryId},
    Tended e accepted → Tended (e.afterAll run) (accepted ++ e.accepted run)
  | [], _, accepted, h => by
    rw [Endpoint.accepted, List.append_nil]
    exact h
  | event :: run, e, accepted, h => by
    rw [Endpoint.accepted, ← List.append_assoc]
    exact (h.after event).afterAll run

/-- The tracker counts the deliveries whose settlement is to come. -/
theorem Tended.pending (h : Tended e accepted) : e.pending.receiver = e.owed.length := by
  have hperm : (accepted.filter (e.settles · = 0)).Perm e.owed := by
    have hn : accepted.Nodup := (List.nodup_append.1 h.books.apart).2.1
    refine (List.perm_ext_iff_of_nodup (hn.filter _) h.books.owedOnce).2 fun d => ?_
    rw [List.mem_filter, decide_eq_true_eq]
    refine ⟨fun ⟨hd, h0⟩ => (h.accounted d hd).resolve_left (by omega), fun hd => ?_⟩
    exact ⟨h.books.owedAccepted hd, h.books.unsettled d (List.mem_append_right _ hd)⟩
  rw [h.books.count, hperm.length_eq]
  rfl

end Events

section Forsaking

variable {e e' : Endpoint} {d x : DeliveryId}

theorem Endpoint.Forsaken.same (h : e.Forsaken d) (hs : SameLedger e e') : e'.Forsaken d :=
  ⟨hs.begun ▸ h.begun, fun hq => h.passed (hs.queue.subset hq),
    (hs.settles d).trans h.unsettled, hs.owed ▸ h.unowed⟩

/-- Another delivery is settled on the link. -/
theorem Endpoint.Forsaken.settle (h : e.Forsaken d) (hx : x ≠ d) {pending : Each Int}
    {calls : List Call} :
    ({ e with link := e.link.settle x, pending, calls } : Endpoint).Forsaken d :=
  ⟨(settled_begun e x).symm ▸ h.begun, h.passed,
    (settles_settled_ne (Ne.symm hx)).trans h.unsettled, h.unowed⟩

theorem Endpoint.Forsaken.settleOnHandler (h : e.Forsaken d) (hx : x ≠ d) :
    (ReceivingLink.settleOnHandler x).Ends e (fun _ e' => e'.Forsaken d)
      fun _ e' => e'.Forsaken d := by
  have hcounted : e.countedOff.Forsaken d := ⟨h.begun, h.passed, h.unsettled, h.unowed⟩
  have hsettled : ((e.settled x).noting (.settle x)).Forsaken d := h.settle hx
  refine settleOnHandler_steps (fun _ => h) (fun _ => hcounted) (fun _ _ => ?_) fun _ _ => ?_
  · exact ⟨h.begun, h.passed, h.unsettled, h.unowed⟩
  · exact (sameLedger_frame.replenish_within _ _).imp (fun _ _ => hsettled.same)
      fun _ _ hs => hsettled.same hs.1

theorem Endpoint.Forsaken.perform (h : e.Forsaken d) (hx : x ≠ d) (outcome : Option Outcome) :
    (Task.perform (.settle x outcome)).Ends e (fun _ e' => e'.Forsaken d)
      fun _ e' => e'.Forsaken d := by
  rcases outcome with _ | outcome
  · exact h.settleOnHandler hx
  refine Act.ends_bind.2 ((disposition_stays e x outcome).imp ?_ ?_)
  · rintro _ e₁ rfl
    have hbegun : { e.noting (.disposition x outcome) with
        link := e.link.dispose x outcome }.begun = e.begun := heeds_dispose.begun
    refine Endpoint.Forsaken.settleOnHandler ⟨hbegun ▸ h.begun, h.passed, ?_, h.unowed⟩ hx
    exact (Link.delivery_change _ (fun _ => by rfl) (fun _ => by rfl) d).trans h.unsettled
  · rintro _ _ rfl
    exact ⟨h.begun, h.passed, h.unsettled, h.unowed⟩

theorem forsaken_custody (d : DeliveryId) : Custody (fun e => e.Forsaken d) (fun _ x => x ≠ d)
    (fun _ x => x ≠ d) fun _ _ => True where
  beside := fun hb h => h.same hb.toSameLedger
  still := fun _ => id
  stays := fun _ => id
  opens := id
  keep := by
    intro e handoff h hx
    refine ⟨h.begun, h.passed, h.unsettled, fun hm => h.unowed ?_⟩
    simp only [Endpoint.owed, Endpoint.holding, List.map_append, List.mem_append] at hm ⊢
    simpa [Ne.symm hx] using hm
  release := by
    intro e i handoff h hheld _
    have hsub : (e.sink.held.eraseIdx i).map (·.delivery) ⊆ e.sink.held.map (·.delivery) :=
      ((List.eraseIdx_sublist ..).map _).subset
    refine ⟨⟨h.begun, h.passed, h.unsettled, fun hm => h.unowed ?_⟩, fun hx => h.unowed ?_⟩
    · exact (List.mem_append.1 hm).elim (fun hm => List.mem_append_left _ (hsub hm))
        fun hm => List.mem_append_right _ hm
    · exact List.mem_append_left _ (List.mem_map.2 ⟨handoff, List.mem_of_getElem? hheld, hx⟩)
  post := by
    intro e x outcome h hx
    refine ⟨h.begun, h.passed, h.unsettled, fun hm => h.unowed ?_⟩
    unfold Endpoint.posting Endpoint.owed Mailbox.post at hm
    split at hm
    · simpa [Endpoint.owed, Task.delivery?, Ne.symm hx] using hm
    · exact hm
  ask := fun h => h.same sameLedger_frame.asked
  perform := fun h hx => h.perform hx _

theorem Endpoint.Forsaken.took {task : Task} {rest : List Task} (h : e.Forsaken d)
    (htasks : e.mailbox.tasks = task :: rest) :
    task.perform.Ends (e.withTasks rest) (fun _ e' => e'.Forsaken d) fun _ e' => e'.Forsaken d := by
  have hd : d ∉ task.delivery?.toList ++ (e.withTasks rest).waiting := by
    rw [← waiting_withTasks htasks]
    exact fun hm => h.unowed (List.mem_append_right _ hm)
  rw [List.mem_append, not_or] at hd
  have h₁ : (e.withTasks rest).Forsaken d := by
    refine ⟨h.begun, h.passed, h.unsettled, fun hm => ?_⟩
    exact (List.mem_append.1 hm).elim (fun hm => h.unowed (List.mem_append_left _ hm)) hd.2
  rcases task with owner | ⟨x, outcome⟩
  · exact (sameLedger_frame.replenish_within owner _).imp (fun _ _ => h₁.same)
      fun _ _ hs => h₁.same hs.1
  · refine h₁.perform (fun hx => hd.1 ?_) outcome
    simp [Task.delivery?, hx]

/-- Another delivery is offered to routing, or given up. -/
theorem Endpoint.Forsaken.offer (h : e.Forsaken d) (hx : x ≠ d) :
    (Receiver.offer x).Ends e (Offered (fun e => e.Forsaken d) fun _ x => x ≠ d)
      (fun _ e' => e'.Forsaken d) fun _ e' => e'.Forsaken d := by
  have hsame {e₁ : Endpoint} (hs : SameHands e e₁) : e₁.Forsaken d := h.same hs.toSameLedger
  refine Receiver.offer_steps (fun _ => hsame) (fun _ => hsame) (fun e₁ hs _ => ?_)
    fun e₁ handoff hs _ hdelivery => ?_
  · have hforgone : (e₁.forgone x).Forsaken d := (hsame hs).settle hx
    have hgranting : ((e₁.forgone x).granting 1).Forsaken d :=
      (hforgone.same (sameLedger_frame.granting rfl)).same sameLedger_frame.flowed
    refine onAborted_steps (fun _ => ?_) (fun _ _ hb => hforgone.same hb.toSameLedger)
      (fun _ => hforgone.same (sameLedger_frame.granting rfl)) fun _ _ hb =>
      hgranting.same hb.toSameLedger
    exact ⟨(hsame hs).begun, (hsame hs).passed, (hsame hs).unsettled, (hsame hs).unowed⟩
  · have h₁ := hsame hs
    exact ⟨⟨h₁.begun, h₁.passed, h₁.unsettled, h₁.unowed⟩, hdelivery ▸ hx⟩

theorem Endpoint.Forsaken.after (h : e.Forsaken d) (hn : e.link.Numbered) (event : Event) :
    (e.after event).Forsaken d := by
  have C := forsaken_custody d
  have hreview {e : Endpoint} (h : e.Forsaken d) :
      (replenish (some .receiver)).Ends e (fun _ e' => e'.Forsaken d) fun _ e' => e'.Forsaken d :=
    (sameLedger_frame.replenish_within _ e).imp (fun _ _ => h.same) fun _ _ hs => h.same hs.1
  refine C.event h hreview (fun h => h.took) event (onUse_of_forall (fun _ _ => trivial) event) ?_
  cases event with
  | begin format remote =>
    refine ⟨?_, ?_, (Link.settles_beginWith _ _ _ d).trans h.unsettled, h.unowed⟩
    · show d ∈ (e.link.beginWith format remote).deliveries.map (·.id)
      rw [Link.beginWith_ids]
      exact List.mem_append_left _ h.begun
    · show d ∉ (e.link.beginWith format remote).queue
      rw [Link.beginWith_queue, List.mem_append, List.mem_singleton, not_or]
      refine ⟨h.passed, ?_⟩
      rintro rfl
      exact hn.fresh h.begun
  | message x =>
    have hentered : e.entered.Forsaken d := h.same (beside_entered e).toSameLedger
    have hne (hx : e.link.current = some x) : x ≠ d := by
      rintro rfl
      exact h.passed (List.mem_of_mem_head? hx)
    refine (C.message h (fun _ hx => hentered.offer (hne hx)) fun _ hx => ?_).state
    refine (hentered.offer (hne hx)).imp (fun offered e₁ h₁ handoff ho => ?_) (fun _ _ _ => trivial)
      fun _ _ _ => trivial
    obtain rfl : offered = some handoff := ho
    exact ⟨mayTake_of_forall (fun _ _ => trivial) handoff e₁, Attempt.ends_always
      (fun _ _ => trivial) (fun _ _ _ => h₁.2) fun _ _ _ => h₁.2⟩
  | _ => trivial

end Forsaking

section Runs

variable {e : Endpoint} {accepted : List DeliveryId} {d : DeliveryId}

theorem Tended.afterAll_forsaken : ∀ (run : List Event) {e : Endpoint} {accepted : List DeliveryId},
    Tended e accepted → e.Forsaken d → (e.afterAll run).Forsaken d
  | [], _, _, _, hd => hd
  | event :: run, _, _, h, hd =>
    (h.after event).afterAll_forsaken run (hd.after h.books.numbered event)

theorem Tended.accounted_iff : ∀ (run : List Event) {e : Endpoint} {accepted : List DeliveryId},
    Tended e accepted → (d ∈ e.begun → d ∉ e.link.queue → e.Accounted d) →
    d ∈ (e.afterAll run).begun → d ∉ (e.afterAll run).link.queue →
    ((e.afterAll run).Accounted d ↔ e.Throughout (fun e event => ¬ e.Forsakes d event) run)
  | [], _, _, _, hpast, hb, hq => iff_of_true (hpast hb hq) trivial
  | event :: run, e, _, h, hpast, hb, hq => by
    by_cases hf : e.Forsakes d event
    · have hforsaken : ((e.after event).afterAll run).Forsaken d :=
        (h.after event).afterAll_forsaken run (h.after_forsaken hf)
      refine iff_of_false (fun ha => ?_) fun hrun => hrun.1 hf
      exact ha.elim (Nat.ne_of_gt · hforsaken.unsettled) hforsaken.unowed
    · have hrest := (h.after event).accounted_iff run (h.after_accounted hf hpast) hb hq
      exact hrest.trans (and_iff_right hf).symm

/-- As long as the calls that settle do not panic and routing either accepts or refuses, the tracker
counts the deliveries that routing has still to settle, and every delivery that the link was moved
past was settled or is one of these, unless it was forsaken: the event moved the link past it,
though it was not given up, and passed nothing to routing. -/
theorem settled_or_owed_iff (h : e.Fresh) (hs : e.plan.Spares settlementPoints)
    (hk : e.plan.KeepsWord) (ha : e.mailbox.attended) (run : List Event) :
    let e' := e.afterAll run
    e'.pending.get .receiver = e'.owed.length ∧
      ∀ d ∈ e'.begun, d ∉ e'.link.queue →
        ((e'.settles d = 1 ∨ d ∈ e'.owed) ↔
          e.Throughout (fun e event => ¬ e.Forsakes d event) run) := by
  intro e'
  have hstart : Tended e [] := ⟨h.books hs hk, ha, nofun⟩
  have hend : Tended e' ([] ++ e.accepted run) := hstart.afterAll run
  refine ⟨hend.pending, fun d hd hq => ?_⟩
  have hbegun : d ∈ e.begun → d ∉ e.link.queue → e.Accounted d := by
    simp [Endpoint.begun, h.deliveries]
  have hsettled : e'.settles d = 1 ↔ 0 < e'.settles d := by
    have honce := hend.books.once d
    omega
  rw [hsettled]
  exact hstart.accounted_iff run hbegun hd hq

/-- Of three deliveries routing keeps the first, the second cannot be built, and the third is
refused. -/
theorem settled_or_owed_iff_three :
    let plan : Plan := fun n point =>
      if n = 6 ∧ point = .createMessage then some (.fails { text := "no memory" }) else none
    let e : Endpoint := { Endpoint.start {} "orders" 10 ⟨1⟩ .memory none with plan }
    let run : List Event := [.begin 0 none, .transfer [1] false, .message ⟨1⟩, .begin 0 none,
      .transfer [2] false, .message ⟨2⟩, .setMode .failRejected, .begin 0 none,
      .transfer [3] false, .message ⟨3⟩]
    (e.Fresh ∧ e.mailbox.attended ∧ (e.afterAll run).begun = [⟨1⟩, ⟨2⟩, ⟨3⟩] ∧
        (e.afterAll run).link.queue = []) ∧
      ((e.afterAll run).owed = [⟨1⟩] ∧
        (e.afterAll run).pending.get .receiver = (e.afterAll run).owed.length) ∧
      ((e.afterAll run).settles ⟨3⟩ = 1 ∧
        e.Throughout (fun e event => ¬ e.Forsakes ⟨3⟩ event) run) ∧
      (e.afterAll run).settles ⟨2⟩ = 0 ∧
        ¬ e.Throughout (fun e event => ¬ e.Forsakes ⟨2⟩ event) run := by
  intro plan e run
  have hfresh : e.Fresh := ⟨rfl, rfl, rfl, rfl, rfl, rfl, rfl, rfl, rfl, rfl, rfl⟩
  have ha : e.mailbox.attended := rfl
  have hs : plan.Spares settlementPoints := fun n point _ k => by
    simp only [plan]
    split <;> simp
  have hk : plan.KeepsWord := fun n => by simp [plan]
  have hbegun : (e.afterAll run).begun = [⟨1⟩, ⟨2⟩, ⟨3⟩] := by decide +kernel
  have hqueue : (e.afterAll run).link.queue = [] := by decide +kernel
  have howed : (e.afterAll run).owed = [⟨1⟩] := by decide +kernel
  have hthird : (e.afterAll run).settles ⟨3⟩ = 1 := by decide +kernel
  have hsecond : (e.afterAll run).settles ⟨2⟩ = 0 := by decide +kernel
  obtain ⟨hpending, hiff⟩ := settled_or_owed_iff hfresh hs hk ha run
  have hpassed (d : DeliveryId) : d ∉ (e.afterAll run).link.queue := by simp [hqueue]
  have hrefused := (hiff ⟨3⟩ (by simp [hbegun]) (hpassed _)).1 (.inl hthird)
  have hlost := mt (hiff ⟨2⟩ (by simp [hbegun]) (hpassed _)).2 (by simp [hsecond, howed])
  exact ⟨⟨hfresh, ha, hbegun, hqueue⟩, ⟨howed, hpending⟩, ⟨hthird, hrefused⟩, hsecond, hlost⟩

/-- The only delivery is complete, but its message cannot be built. The link is past it, and nobody
is left who will settle it. -/
theorem forsaken_of_failed_build :
    let plan : Plan := fun _ point =>
      if point = .createMessage then some (.fails { text := "no memory" }) else none
    let e : Endpoint := { Endpoint.start {} "orders" 10 ⟨1⟩ .memory none with plan }
    let e' := e.afterAll [.begin 0 none, .transfer [1] false, .message ⟨1⟩]
    e.Fresh ∧ (e'.begun = [⟨1⟩] ∧ e'.link.queue = []) ∧ e'.settles ⟨1⟩ = 0 ∧ e'.owed = [] ∧
      e'.pending.get .receiver = 0 ∧ e'.link.credit = 9 ∧ e'.lifecycle = .opened := by
  refine ⟨⟨rfl, rfl, rfl, rfl, rfl, rfl, rfl, rfl, rfl, rfl, rfl⟩, ?_⟩
  decide +kernel

end Runs

end ReceivingLink
