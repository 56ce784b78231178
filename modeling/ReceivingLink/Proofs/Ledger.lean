import ReceivingLink.Proofs.Custody

/-!
# The ledger of settlements

Every settling is asked for with a call, so the calls of an endpoint tell which deliveries were
settled, how often and in which order. `Ledger` says that each was settled once at most, that no
outcome was recorded after that, and that the tracker counts the deliveries passed to routing that
were not settled. It is kept as long as routing that does not take a delivery leaves it alone:
`settled_once_iff_honest`.
-/

namespace ReceivingLink

/-- After the settling of a delivery comes no other record of it. -/
def Call.Closes (c c' : Call) : Prop := ∀ d ∈ c.settled?, c'.recorded? ≠ some d

/-- The deliveries are settled in order. If the ledger is `tight`, nothing was recorded of a
delivery whose handle routing keeps. -/
structure Ledger (tight : Prop) (e : Endpoint) : Prop where
  numbered : e.link.Numbered
  known : e.link.queue ++ e.handed ++ e.recorded ⊆ e.begun
  apart : (e.link.queue ++ e.handed).Nodup
  unqueued : ∀ d ∈ e.recorded, d ∉ e.link.queue
  owedOnce : e.owed.Nodup
  owedHanded : e.owed ⊆ e.handed
  waiting : ∀ d ∈ e.waiting, d ∉ e.settlings
  held : tight → ∀ d ∈ e.owed, d ∉ e.recorded
  settles : ∀ d, e.settles d ≤ e.settlings.count d
  final : e.records.Pairwise Call.Closes
  count : e.pending.receiver = (e.handed.filter (· ∉ e.settlings)).length

namespace Endpoint

/-- A delivery that routing was given can be settled: it was not settled before, nor is it going to
be. With a tight ledger its handle is not kept. -/
structure Open (tight : Prop) (e : Endpoint) (d : DeliveryId) : Prop where
  handed : d ∈ e.handed
  waiting : d ∉ e.waiting
  unsettled : d ∉ e.settlings
  unheld : tight → d ∉ e.owed

/-- The handle of a delivery is neither kept nor used. -/
structure Free (tight : Prop) (e : Endpoint) (d : DeliveryId) : Prop where
  handed : d ∈ e.handed
  owed : d ∉ e.owed
  unsettled : d ∉ e.settlings
  unrecorded : tight → d ∉ e.recorded

/-- The link was moved past a delivery, and nothing was done about it yet. -/
structure Past (e : Endpoint) (d : DeliveryId) : Prop where
  begun : d ∈ e.begun
  unqueued : d ∉ e.link.queue
  unhanded : d ∉ e.handed
  unrecorded : d ∉ e.recorded

end Endpoint

section Entries

variable {tight : Prop} {e e' : Endpoint} {d : DeliveryId}

theorem settlings_subset_recorded (e : Endpoint) : e.settlings ⊆ e.recorded := by
  intro d hd
  obtain ⟨call, hcall, hd⟩ := List.mem_filterMap.1 hd
  refine List.mem_filterMap.2 ⟨call, hcall, ?_⟩
  cases call <;> first | exact hd | cases hd

theorem Endpoint.Past.unsettled (h : e.Past d) : d ∉ e.settlings :=
  fun hd => h.unrecorded (settlings_subset_recorded e hd)

theorem waiting_subset_owed (e : Endpoint) : e.waiting ⊆ e.owed := List.subset_append_right _ _

/-- Nothing is settled after it was settled. -/
theorem closes_of_notMem {call c : Call} (hd : call.recorded? = some d) (hs : d ∉ e.settlings)
    (hc : c ∈ e.records) : c.Closes call := by
  intro x hx hcall
  obtain rfl : d = x := Option.some.inj (hd.symm.trans hcall)
  exact hs (List.mem_filterMap.2 ⟨c, hc, hx⟩)

theorem Ledger.same (h : Ledger tight e) (hs : SameLedger e e') : Ledger tight e' where
  numbered := h.numbered.of_ids hs.begun
  known := by
    rw [hs.handed, hs.recorded, hs.begun]
    exact List.Subset.trans (((hs.queue.sublist.append_right _).append_right _).subset) h.known
  apart := by
    rw [hs.handed]
    exact h.apart.sublist (hs.queue.sublist.append_right _)
  unqueued := fun d hd hq => by
    rw [hs.recorded] at hd
    exact h.unqueued d hd (hs.queue.subset hq)
  owedOnce := by rw [hs.owed]; exact h.owedOnce
  owedHanded := by rw [hs.owed, hs.handed]; exact h.owedHanded
  waiting := by rw [hs.waiting, hs.settlings]; exact h.waiting
  held := by rw [hs.owed, hs.recorded]; exact h.held
  settles := fun d => by rw [hs.settles, hs.settlings]; exact h.settles d
  final := by rw [hs.records]; exact h.final
  count := by rw [hs.pending, hs.handed, hs.settlings]; exact h.count

theorem Endpoint.Open.same (h : e.Open tight d) (hs : SameLedger e e') : e'.Open tight d :=
  ⟨by rw [hs.handed]; exact h.handed, by rw [hs.waiting]; exact h.waiting,
    by rw [hs.settlings]; exact h.unsettled, by rw [hs.owed]; exact h.unheld⟩

theorem Endpoint.Free.same (h : e.Free tight d) (hs : SameLedger e e') : e'.Free tight d :=
  ⟨by rw [hs.handed]; exact h.handed, by rw [hs.owed]; exact h.owed,
    by rw [hs.settlings]; exact h.unsettled, by rw [hs.recorded]; exact h.unrecorded⟩

theorem Endpoint.Free.opens (h : e.Free tight d) : e.Open tight d :=
  ⟨h.handed, fun hw => h.owed (waiting_subset_owed e hw), h.unsettled, fun _ => h.owed⟩

/-- The delivery that the link was moved past. -/
theorem Ledger.past (h : Ledger tight e) (hs : SameLedger e e') (hd : e.link.current = some d)
    (hq : e'.link.queue = e.link.queue.tail) : e'.Past d := by
  obtain ⟨rest, hrest⟩ : ∃ rest, e.link.queue = d :: rest := List.head?_eq_some_iff.1 hd
  have hapart := h.apart
  rw [hrest, List.cons_append, List.nodup_cons, List.mem_append, not_or] at hapart
  refine ⟨?_, ?_, ?_, ?_⟩
  · rw [hs.begun]
    exact h.known (by simp [hrest])
  · rw [hq, hrest]
    exact hapart.1.1
  · rw [hs.handed]
    exact hapart.1.2
  · rw [hs.recorded]
    exact fun hset => h.unqueued d hset (by simp [hrest])

/-- Another state of what is owed. -/
theorem Ledger.owe (h : Ledger tight e) {sink : Sink} {mailbox : Mailbox Task}
    (hn : ({ e with sink, mailbox } : Endpoint).owed.Nodup)
    (hh : ({ e with sink, mailbox } : Endpoint).owed ⊆ e.handed)
    (hw : ∀ d ∈ ({ e with sink, mailbox } : Endpoint).waiting, d ∉ e.settlings)
    (ht : tight → ∀ d ∈ ({ e with sink, mailbox } : Endpoint).owed, d ∉ e.recorded) :
    Ledger tight { e with sink, mailbox } :=
  ⟨h.numbered, h.known, h.apart, h.unqueued, hn, hh, hw, ht, h.settles, h.final, h.count⟩

/-- One more settlement is owed, for a delivery whose handle is free. -/
theorem Ledger.owe_more (h : Ledger tight e) (hf : e.Free tight d) {sink : Sink}
    {mailbox : Mailbox Task}
    (hp : ({ e with sink, mailbox } : Endpoint).owed.Perm (d :: e.owed))
    (hw : ({ e with sink, mailbox } : Endpoint).waiting ⊆ d :: e.waiting) :
    Ledger tight { e with sink, mailbox } := by
  refine h.owe (hp.nodup_iff.2 (List.nodup_cons.2 ⟨hf.owed, h.owedOnce⟩)) (fun x hx => ?_)
    (fun x hx => ?_) fun ht x hx => ?_
  · rcases List.mem_cons.1 (hp.subset hx) with rfl | hx
    · exact hf.handed
    · exact h.owedHanded hx
  · rcases List.mem_cons.1 (hw hx) with rfl | hx
    · exact hf.unsettled
    · exact h.waiting x hx
  · rcases List.mem_cons.1 (hp.subset hx) with rfl | hx
    · exact hf.unrecorded ht
    · exact h.held ht x hx

/-- One settlement is owed no longer, and the handle is free if its delivery was not settled. -/
theorem Ledger.owe_less (h : Ledger tight e) {sink : Sink} {mailbox : Mailbox Task}
    (hp : (d :: ({ e with sink, mailbox } : Endpoint).owed).Perm e.owed)
    (hw : ({ e with sink, mailbox } : Endpoint).waiting ⊆ e.waiting) (hd : d ∉ e.settlings) :
    Ledger tight { e with sink, mailbox } ∧
      ({ e with sink, mailbox } : Endpoint).Free tight d := by
  obtain ⟨hno, hn⟩ := List.nodup_cons.1 (hp.nodup_iff.2 h.owedOnce)
  have hold {x : DeliveryId} (hx : x ∈ ({ e with sink, mailbox } : Endpoint).owed) : x ∈ e.owed :=
    hp.subset (List.mem_cons_of_mem _ hx)
  have howed : d ∈ e.owed := hp.subset (List.mem_cons_self ..)
  exact ⟨h.owe hn (fun x hx => h.owedHanded (hold hx)) (fun x hx => h.waiting x (hw hx))
    fun ht x hx => h.held ht x (hold hx), h.owedHanded howed, hno, hd, fun ht => h.held ht d howed⟩

/-- A delivery is recorded that is not queued, and that was not settled and is not going to be. -/
theorem Ledger.record (h : Ledger tight e) {call : Call} {pending : Each Int} {link : Link}
    (hcall : call.recorded? = some d) (hb : d ∈ e.begun) (hq : d ∉ e.link.queue)
    (hw : d ∉ e.waiting) (ho : tight → d ∉ e.owed) (hd : d ∉ e.settlings)
    (hids : link.deliveries.map (·.id) = e.link.deliveries.map (·.id))
    (hqueue : link.queue = e.link.queue)
    (hset : ∀ x, (link.delivery x).settles ≤ e.settles x + call.settled?.toList.count x)
    (hcount : pending.receiver =
      (e.handed.filter (· ∉ e.settlings ++ call.settled?.toList)).length) :
    Ledger tight ({ e with pending, link }.noting call) := by
  have hmine {x : DeliveryId} (hx : x ∈ call.settled?.toList) : x = d := by
    cases call <;> simp_all [Call.settled?, Call.recorded?]
  have hhanded : ({ e with pending, link }.noting call : Endpoint).handed = e.handed :=
    handed_noting (by cases call <;> first | rfl | cases hcall)
  have hrecords : ({ e with pending, link }.noting call : Endpoint).records = e.records ++ [call] :=
    records_append (by cases call <;> first | rfl | cases hcall)
  have hsettlings : ({ e with pending, link }.noting call : Endpoint).settlings =
      e.settlings ++ call.settled?.toList := settlings_noting _ call
  have hrecorded :
      ({ e with pending, link }.noting call : Endpoint).recorded = e.recorded ++ [d] := by
    rw [recorded_noting, hcall]
    rfl
  refine ⟨h.numbered.of_ids hids, ?_, ?_, ?_, h.owedOnce, ?_, ?_, ?_, ?_, ?_, ?_⟩
  · rw [hhanded, hrecorded]
    show link.queue ++ e.handed ++ (e.recorded ++ [d]) ⊆ link.deliveries.map (·.id)
    rw [hqueue, hids, ← List.append_assoc]
    exact List.append_subset.2 ⟨h.known, List.cons_subset.2 ⟨hb, List.nil_subset _⟩⟩
  · rw [hhanded]
    show (link.queue ++ e.handed).Nodup
    rw [hqueue]
    exact h.apart
  · rw [hrecorded]
    show ∀ x ∈ e.recorded ++ [d], x ∉ link.queue
    rw [hqueue]
    exact List.forall_mem_append.2 ⟨h.unqueued, List.forall_mem_singleton.2 hq⟩
  · rw [hhanded]
    exact h.owedHanded
  · rw [hsettlings]
    intro x hx hm
    rcases List.mem_append.1 hm with hm | hm
    · exact h.waiting x hx hm
    · exact hw (hmine hm ▸ hx)
  · rw [hrecorded]
    intro ht x hx hm
    rcases List.mem_append.1 hm with hm | hm
    · exact h.held ht x hx hm
    · exact ho ht (List.mem_singleton.1 hm ▸ hx)
  · intro x
    rw [hsettlings, List.count_append]
    exact Nat.le_trans (hset x) (Nat.add_le_add_right (h.settles x) _)
  · rw [hrecords]
    refine List.pairwise_append.2 ⟨h.final, List.pairwise_singleton _ _, fun c hc c' hc' => ?_⟩
    obtain rfl := List.mem_singleton.1 hc'
    exact closes_of_notMem hcall hd hc
  · rw [hhanded, hsettlings]
    exact hcount

theorem Ledger.unqueued_of_open (h : Ledger tight e) (ho : e.Open tight d) : d ∉ e.link.queue :=
  fun hq => (List.nodup_append.1 h.apart).2.2 d hq d ho.handed rfl

/-- A delivery that routing was given is settled, and counted off. -/
theorem Ledger.settle (h : Ledger tight e) (ho : e.Open tight d) {link : Link}
    (hids : link.deliveries.map (·.id) = e.link.deliveries.map (·.id))
    (hqueue : link.queue = e.link.queue)
    (hset : ∀ x, (link.delivery x).settles ≤ e.settles x + [d].count x) :
    Ledger tight ({ e.countedOff with link }.noting (.settle d)) := by
  have hn : e.handed.Nodup := (List.nodup_append.1 h.apart).2.1
  refine h.record rfl (h.known (by simp [ho.handed])) (h.unqueued_of_open ho) ho.waiting ho.unheld
    ho.unsettled hids hqueue hset ?_
  -- no delivery is passed to routing twice, so this takes one off the deliveries not settled
  have hf : e.handed.filter (· ∉ e.settlings ++ [d]) =
      (e.handed.filter (· ∉ e.settlings)).erase d := by
    rw [(hn.filter _).erase_eq_filter, List.filter_filter]
    refine List.filter_congr fun x _ => ?_
    by_cases hx : x = d <;> simp [hx]
  have hm : d ∈ e.handed.filter (· ∉ e.settlings) :=
    List.mem_filter.2 ⟨ho.handed, by simp [ho.unsettled]⟩
  have hlen := List.length_erase_of_mem hm
  have hpos := List.length_pos_of_mem hm
  show e.pending.receiver - 1 = ((e.handed.filter (· ∉ e.settlings ++ [d])).length : Int)
  rw [hf, h.count]
  omega

theorem Ledger.pending_nonneg (h : Ledger tight e) : 0 ≤ e.pending.receiver := by
  rw [h.count]
  exact Int.natCast_nonneg _

theorem Ledger.pending_pos (h : Ledger tight e) (ho : e.Open tight d) : 0 < e.pending.receiver := by
  have hm : d ∈ e.handed.filter (· ∉ e.settlings) :=
    List.mem_filter.2 ⟨ho.handed, by simp [ho.unsettled]⟩
  have hpos := List.length_pos_of_mem hm
  rw [h.count]
  omega

theorem settles_settle (l : Link) (d x : DeliveryId) :
    ((l.settle d).delivery x).settles ≤ (l.delivery x).settles + [d].count x := by
  rcases eq_or_ne x d with rfl | hx
  · by_cases hd : x ∈ l.deliveries.map (·.id)
    · rw [Link.settle, Link.delivery_change_self _ (fun _ => by rfl) hd]
      simp
    · have hd' : x ∉ (l.settle x).deliveries.map (·.id) := by
        rw [Link.settle, Link.map_change _ fun _ => by rfl]
        exact hd
      rw [Link.delivery_of_notMem _ hd']
      exact Nat.zero_le _
  · rw [Link.settle, Link.delivery_change_ne _ (fun _ => by rfl) hx]
    exact Nat.le_add_right _ _

theorem settle_ids (l : Link) (d : DeliveryId) :
    (l.settle d).deliveries.map (·.id) = l.deliveries.map (·.id) :=
  Link.map_change _ (fun _ => by rfl) d

/-- An open delivery is settled, whatever happens on the way. -/
theorem Ledger.settleOnHandler (h : Ledger tight e) (ho : e.Open tight d) :
    (ReceivingLink.settleOnHandler d).Ends e (fun _ => Ledger tight) fun _ => Ledger tight := by
  have hpos := h.pending_pos ho
  refine settleOnHandler_steps (fun _ => h) (fun hneg => by omega) (fun _ _ => ?_) fun _ _ => ?_
  · exact h.settle ho rfl rfl fun x => Nat.le_add_right _ _
  · have hsettled : Ledger tight ((e.settled d).noting (.settle d)) :=
      h.settle ho (settle_ids _ d) rfl (settles_settle _ d)
    exact (sameLedger_frame.replenish_within _ _).imp (fun _ _ => hsettled.same)
      fun _ _ hs => hsettled.same hs.1

/-- An outcome is recorded for an open delivery, which stays open. -/
theorem Ledger.dispose (h : Ledger tight e) (ho : e.Open tight d) (outcome : Outcome) :
    (Delivery.disposition d outcome).Ends e (fun _ e' => Ledger tight e' ∧ e'.Open tight d)
      fun _ => Ledger tight := by
  have hnoted : Ledger tight (e.noting (.disposition d outcome)) :=
    h.record rfl (h.known (by simp [ho.handed])) (h.unqueued_of_open ho) ho.waiting ho.unheld
      ho.unsettled rfl rfl (fun x => Nat.le_add_right _ _) (by simpa [Call.settled?] using h.count)
  have hopen : (e.noting (.disposition d outcome)).Open tight d := by
    refine ⟨?_, ho.waiting, ?_, ho.unheld⟩
    · rw [handed_noting rfl]
      exact ho.handed
    · rw [settlings_noting]
      simpa [Call.settled?] using ho.unsettled
  have hs {e : Endpoint} : SameHands e { e with link := e.link.dispose d outcome } :=
    .ofLink rfl (Link.map_change _ (fun _ => by rfl) d)
      (Link.delivery_change _ (fun _ => by rfl) fun _ => by rfl) List.suffix_rfl
  refine (disposition_stays e d outcome).imp ?_ ?_
  · rintro _ _ rfl
    exact ⟨hnoted.same hs.toSameLedger, hopen.same hs.toSameLedger⟩
  · rintro _ _ rfl
    exact hnoted

theorem Ledger.perform (h : Ledger tight e) (ho : e.Open tight d) (outcome : Option Outcome) :
    (Task.perform (.settle d outcome)).Ends e (fun _ => Ledger tight) fun _ => Ledger tight := by
  rcases outcome with _ | outcome
  · exact h.settleOnHandler ho
  · exact Act.ends_bind.2 ((h.dispose ho outcome).imp (fun _ _ h₁ => h₁.1.settleOnHandler h₁.2)
      fun _ _ => id)

/-- A delivery that its sender gave up is settled without being counted off. -/
theorem Ledger.onAborted (h : Ledger tight e) (hp : e.Past d) :
    (Receiver.onAborted d).Ends e (fun _ => Ledger tight) fun _ => Ledger tight := by
  have hcount : e.pending.receiver =
      (e.handed.filter (· ∉ e.settlings ++ (Call.settle d).settled?.toList)).length := by
    rw [h.count]
    refine congrArg (fun l : List DeliveryId => (l.length : Int)) (List.filter_congr fun x hx => ?_)
    have hne : x ≠ d := fun hd => hp.unhanded (hd ▸ hx)
    simp [Call.settled?, hne]
  have howed : d ∉ e.owed := fun ho => hp.unhanded (h.owedHanded ho)
  have hrecord {link : Link} (hids : link.deliveries.map (·.id) = e.link.deliveries.map (·.id))
      (hqueue : link.queue = e.link.queue)
      (hset : ∀ x, (link.delivery x).settles ≤ e.settles x + [d].count x) :
      Ledger tight ({ e with link }.noting (.settle d)) :=
    h.record rfl hp.begun hp.unqueued (fun hw => howed (waiting_subset_owed e hw)) (fun _ => howed)
      hp.unsettled hids hqueue hset hcount
  have hforgone : Ledger tight (e.forgone d) :=
    hrecord (settle_ids _ d) rfl (settles_settle _ d)
  have hgranting : Ledger tight ((e.forgone d).granting 1) :=
    (hforgone.same (sameLedger_frame.granting rfl)).same sameLedger_frame.flowed
  refine onAborted_steps (fun _ => ?_) (fun _ _ hs => hforgone.same hs.toSameLedger)
    (fun _ => hforgone.same (sameLedger_frame.granting rfl)) fun _ _ hs =>
    hgranting.same hs.toSameLedger
  exact hrecord rfl rfl fun x => Nat.le_add_right _ _

/-- Counted and given to routing, a delivery is free. -/
theorem Ledger.hand (h : Ledger tight e) {handoff : Handoff} (hp : e.Past handoff.delivery) :
    let e' := { e with pending := e.pending.set (e.pending.receiver + 1) .receiver }.noting
      (.deliver handoff)
    Ledger tight e' ∧ e'.Free tight handoff.delivery := by
  intro e'
  have hhanded : e'.handed = e.handed ++ [handoff.delivery] := by
    simp [e', Endpoint.handed, Endpoint.handoffs, Endpoint.noting, Call.handoff?]
  have hrecords : e'.records = e.records := records_noting rfl
  have hsettlings : e'.settlings = e.settlings := by
    unfold Endpoint.settlings
    rw [hrecords]
  have hrecorded : e'.recorded = e.recorded := by
    unfold Endpoint.recorded
    rw [hrecords]
  have howed : handoff.delivery ∉ e.owed := fun ho => hp.unhanded (h.owedHanded ho)
  refine ⟨⟨h.numbered, ?_, ?_, ?_, h.owedOnce, ?_, ?_, ?_, ?_, ?_, ?_⟩, ?_, howed, ?_, fun _ => ?_⟩
  · rw [hhanded, hrecorded]
    intro x hx
    simp only [List.mem_append, List.mem_singleton] at hx
    rcases hx with (hx | hx | rfl) | hx
    · exact h.known (by simp [show x ∈ e.link.queue from hx])
    · exact h.known (by simp [hx])
    · exact hp.begun
    · exact h.known (by simp [hx])
  · rw [hhanded, ← List.append_assoc]
    refine List.nodup_append.2 ⟨h.apart, List.nodup_singleton _, fun x hx y hy => ?_⟩
    obtain rfl := List.mem_singleton.1 hy
    rintro rfl
    exact (List.mem_append.1 hx).elim hp.unqueued hp.unhanded
  · rw [hrecorded]
    exact h.unqueued
  · rw [hhanded]
    exact List.subset_append_of_subset_left _ h.owedHanded
  · rw [hsettlings]
    exact h.waiting
  · rw [hrecorded]
    exact h.held
  · rw [hsettlings]
    exact h.settles
  · rw [hrecords]
    exact h.final
  · rw [hhanded, hsettlings, List.filter_append, List.length_append]
    show e.pending.receiver + 1 = _
    rw [h.count]
    simp [hp.unsettled]
  · rw [hhanded]
    simp
  · rw [hsettlings]
    exact hp.unsettled
  · rw [hrecorded]
    exact hp.unrecorded

end Entries

section Events

variable {tight : Prop} {e : Endpoint} {d : DeliveryId}

/-- Routing may use the handle of a delivery that was not settled. With a tight ledger it keeps no
others. -/
theorem ledger_custody (tight : Prop) : Custody (Ledger tight) (Endpoint.Free tight)
    (Endpoint.Open tight) fun e d => tight ∨ d ∉ e.settlings where
  beside := fun hs h => h.same hs.toSameLedger
  still := fun hs h => h.same hs.toSameLedger
  stays := fun hs h => h.same hs.toSameLedger
  opens := Endpoint.Free.opens
  keep := by
    intro e handoff h hf
    refine h.owe_more hf ?_ (List.subset_cons_self _ _)
    simp only [Endpoint.owed, List.map_append, List.map_cons, List.map_nil, List.append_assoc]
    exact List.perm_middle
  release := by
    intro e i handoff h hheld hu
    obtain ⟨hi, hget⟩ := List.getElem?_eq_some_iff.1 hheld
    have hp : (handoff.delivery :: (e.holding (e.sink.held.eraseIdx i)).owed).Perm e.owed := by
      have hperm := (List.getElem_cons_eraseIdx_perm hi).map (·.delivery)
      rw [hget] at hperm
      exact hperm.append_right _
    -- with a tight ledger nothing was recorded of a delivery whose handle is kept
    refine h.owe_less hp (List.Subset.refl _) (hu.elim (fun ht hs => ?_) id)
    exact h.held ht _ (hp.subset (List.mem_cons_self ..)) (settlings_subset_recorded e hs)
  post := by
    intro e d outcome h hf
    by_cases ha : e.mailbox.attended
    · refine h.owe_more hf ?_ ?_
      · simp only [Endpoint.owed, Mailbox.post, ha, if_true, List.filterMap_append]
        exact (List.Perm.append_left _ List.perm_append_comm).trans List.perm_middle
      · simp only [Endpoint.waiting, Mailbox.post, ha, if_true, List.filterMap_append]
        exact List.perm_append_comm.subset
    · rw [Endpoint.posting, Mailbox.post, if_neg ha]
      exact h
  ask := fun h => h.same sameLedger_frame.asked
  perform := fun h ho => h.perform ho _

theorem Ledger.review (h : Ledger tight e) (owner : Option Owner) :
    (replenish owner).Ends e (fun _ => Ledger tight) fun _ => Ledger tight :=
  (sameLedger_frame.replenish_within owner e).imp (fun _ _ => h.same) fun _ _ hs => h.same hs.1

theorem deliver_handed (e : Endpoint) (handoff : Handoff) :
    (Sink.deliver handoff).Ends e (fun _ e' => handoff.delivery ∈ e'.handed)
      (fun _ e' => handoff.delivery ∈ e'.handed) fun _ e' => handoff.delivery ∈ e'.handed := by
  have hhanded {e' : Endpoint} (hu : Untouched (e.noting (.deliver handoff)) e') :
      handoff.delivery ∈ e'.handed := by
    rw [Endpoint.handed, hu.handoffs]
    simp [Endpoint.handoffs, Endpoint.noting, Call.handoff?]
  exact (untouched_frame.deliver_ends e handoff).imp (fun _ _ => hhanded) (fun _ _ => hhanded)
    fun _ _ => hhanded

/-- A message is offered to routing once the link is past its delivery. -/
theorem Ledger.offer (h : Ledger tight e) (hd : e.link.current = some d) :
    (Receiver.offer d).Ends e (Offered (Ledger tight) (Endpoint.Free tight))
      (fun _ => Ledger tight) fun _ => Ledger tight := by
  have hpast {e₁ : Endpoint} (hs : SameHands e e₁) (hq : e₁.link.queue = e.link.queue.tail) :
      Ledger tight e₁ ∧ e₁.Past d := ⟨h.same hs.toSameLedger, h.past hs.toSameLedger hd hq⟩
  refine Receiver.offer_steps (fun _ hs => h.same hs.toSameLedger)
    (fun _ hs => h.same hs.toSameLedger) (fun e₁ hs hq => ?_) fun e₁ handoff hs hq hhandoff => ?_
  · exact (hpast hs hq).1.onAborted (hpast hs hq).2
  · subst hhandoff
    exact (hpast hs hq).1.hand (hpast hs hq).2

theorem Ledger.begin (h : Ledger tight e) (format : UInt32) (remote : Option RemoteState) :
    Ledger tight { e with link := e.link.beginWith format remote } := by
  have hknown := h.known
  have hfresh : ⟨e.link.deliveries.length + 1⟩ ∉ e.begun := h.numbered.fresh
  refine ⟨h.numbered.beginWith format remote, ?_, ?_, ?_, h.owedOnce, h.owedHanded, h.waiting,
    h.held, fun x => ?_, h.final, h.count⟩
  · intro x hx
    rw [Endpoint.begun, Link.beginWith_ids]
    simp only [Link.beginWith_queue, List.mem_append, List.mem_singleton] at hx ⊢
    rcases hx with ((hx | rfl) | hx) | hx
    · exact .inl (hknown (by simp [hx]))
    · exact .inr rfl
    · exact .inl (hknown (List.mem_append_left _ (List.mem_append_right _ hx)))
    · exact .inl (hknown (List.mem_append_right _ hx))
  · show ((e.link.beginWith format remote).queue ++ e.handed).Nodup
    rw [Link.beginWith_queue, List.append_assoc]
    refine List.nodup_middle.2 (List.nodup_cons.2 ⟨fun hm => hfresh (hknown ?_), h.apart⟩)
    exact List.mem_append_left _ hm
  · show ∀ x ∈ e.recorded, x ∉ (e.link.beginWith format remote).queue
    intro x hx hq
    rw [Link.beginWith_queue, List.mem_append, List.mem_singleton] at hq
    rcases hq with hq | rfl
    · exact h.unqueued x hx hq
    · exact hfresh (hknown (List.mem_append_right _ hx))
  · exact Nat.le_trans (Nat.le_of_eq (Link.settles_beginWith _ _ _ x)) (h.settles x)

/-- The delivery that the first of the tasks that wait is for is open once the task is taken. -/
theorem Ledger.taken {task : Task} {rest : List Task} (h : Ledger tight e)
    (htasks : e.mailbox.tasks = task :: rest) :
    Ledger tight (e.withTasks rest) ∧ ∀ d ∈ task.delivery?, (e.withTasks rest).Open tight d := by
  have hwaiting := waiting_withTasks htasks
  rcases task with owner | ⟨d, outcome⟩
  · have hs : SameLedger e (e.withTasks rest) :=
      ⟨rfl, rfl, rfl, rfl, hwaiting.symm, rfl, rfl, rfl, fun _ => rfl, List.suffix_rfl⟩
    exact ⟨h.same hs, nofun⟩
  · have hp : (d :: (e.withTasks rest).owed).Perm e.owed := by
      simp only [Endpoint.withTasks, Endpoint.owed, htasks]
      exact List.perm_middle.symm
    have hd : d ∉ e.settlings := h.waiting d (by simp [hwaiting, Task.delivery?])
    have hless : (e.withTasks rest).waiting ⊆ e.waiting := by
      rw [hwaiting]
      exact List.subset_append_right _ _
    obtain ⟨h₁, hf⟩ := h.owe_less hp hless hd
    exact ⟨h₁, fun x hx => Option.some.inj hx ▸ hf.opens⟩

theorem Ledger.took {task : Task} {rest : List Task} (h : Ledger tight e)
    (htasks : e.mailbox.tasks = task :: rest) :
    (task.perform).Ends (e.withTasks rest) (fun _ => Ledger tight) fun _ => Ledger tight := by
  obtain ⟨h₁, hopen⟩ := h.taken htasks
  rcases task with owner | ⟨d, outcome⟩
  · exact h₁.review owner
  · exact h₁.perform (hopen d rfl) outcome

/-- An event keeps the ledger if routing uses the handles of deliveries that were not settled and
leaves the handle of a delivery alone that it does not take. -/
theorem Ledger.after (h : Ledger tight e) {event : Event}
    (huse : e.OnUse (fun e d => tight ∨ d ∉ e.settlings) event)
    (hroute : e.OnOffer (fun handoff e' =>
      Sink.MayTake (fun e d => tight ∨ d ∉ e.settlings) handoff e' ∧
        e'.Returns (Ledger tight) (Endpoint.Open tight) handoff) event) :
    Ledger tight (e.after event) := by
  have C := ledger_custody tight
  refine C.event h (fun h => h.review _) (fun h => h.took) event huse ?_
  cases event with
  | begin format remote => exact h.begin format remote
  | message d =>
    have hentered : Ledger tight e.entered := h.same (beside_entered e).toSameLedger
    exact (C.message h (fun _ => hentered.offer) hroute).state
  | _ => trivial

theorem Endpoint.Fresh.ledger (h : e.Fresh) (tight : Prop) : Ledger tight e := by
  have howed : e.owed = [] := by simp [Endpoint.owed, h.held, h.tasks]
  have hhanded : e.handed = [] := by simp [Endpoint.handed, Endpoint.handoffs, h.calls]
  have hrecords : e.records = [] := by simp [Endpoint.records, h.calls]
  have hrecorded : e.recorded = [] := by simp [Endpoint.recorded, hrecords]
  refine ⟨?_, ?_, ?_, ?_, ?_, ?_, ?_, ?_, fun d => ?_, ?_, ?_⟩
  · simp [Link.Numbered, h.deliveries]
  · simp [h.queue, hhanded, hrecorded]
  · simp [h.queue, hhanded]
  · simp [hrecorded]
  · simp [howed]
  · simp [howed]
  · simp [Endpoint.waiting, h.tasks]
  · simp [howed]
  · simp [Endpoint.settles, Link.delivery, h.deliveries]
  · simp [hrecords]
  · rw [hhanded]
    exact h.uncounted

end Events

end ReceivingLink
