import ReceivingLink.Proofs.Review

/-!
# The order in which handoffs are settled

Handoffs that routing holds are settled on the handler or from elsewhere, and the handler's loop
runs now and then. Each settling counts one delivery off, records what it has to record of its own
delivery, and reviews credit. The first and the last do not depend on which delivery it is, and the
second does not look at the count or at credit. So it does not matter which delivery is settled
first: `balance_eq_of_perm`. But a review that was asked for before grants what is due when it runs,
so where one waits the order may make a difference to credit.
-/

namespace ReceivingLink

/-- The settling of a delivery, with an outcome if one is given. -/
abbrev Settling := DeliveryId × Option Outcome

namespace Settling

/-- What is recorded of the delivery that is settled. -/
def mark (outcome : Option Outcome) (x : Delivery) : Delivery :=
  { x with outcome := outcome.or x.outcome, settles := x.settles + 1 }

end Settling

/-- What settling changes: the link with its deliveries, its credit and its grants, the counts, and
how often the peer was sent what was written for it. -/
structure Balance where
  link : Link
  pending : Each Int
  flushes : Nat

namespace Balance

variable (policy : CreditPolicy) (b : Balance)

def countedOff : Balance := { b with pending := b.pending.set (b.pending.receiver - 1) .receiver }

def recorded (s : Settling) : Balance := { b with link := b.link.change s.1 (Settling.mark s.2) }

/-- What a review of credit grants. -/
def due : Option UInt32 :=
  policy.grant? b.link.credit (Endpoint.countWord b.pending.receiver)

/-- What is left after a review of credit. -/
def reviewed : Balance :=
  match b.due policy with
  | none => b
  | some amount => { b with link := b.link.flow amount, flushes := b.flushes + 1 }

/-- What is left after a settling. -/
def settled (s : Settling) : Balance := (b.countedOff.recorded s).reviewed policy

/-- What a review of credit leaves alone: the deliveries, with their outcomes and how often each was
settled, and the counts. -/
def entries : List Delivery × Each Int := (b.link.deliveries, b.pending)

end Balance

namespace Endpoint

def balance (e : Endpoint) : Balance := ⟨e.link, e.pending, e.mailbox.flushes⟩

/-- The endpoint with another balance. -/
def withBalance (e : Endpoint) (b : Balance) : Endpoint :=
  { e with link := b.link, pending := b.pending, mailbox := { e.mailbox with flushes := b.flushes } }

end Endpoint

section Link

variable (l : Link) {d d' : DeliveryId} {f g : Delivery → Delivery}

theorem Link.change_comm (hf : ∀ x, (f x).id = x.id) (hg : ∀ x, (g x).id = x.id) (h : d ≠ d') :
    (l.change d f).change d' g = (l.change d' g).change d f := by
  simp only [Link.change, List.map_map]
  congr 1
  refine List.map_congr_left fun x _ => ?_
  by_cases hd : x.id = d
  · simp [hd, hf, h]
  · by_cases hd' : x.id = d' <;> simp [hd, hd', hg, Ne.symm h]

theorem Link.settle_dispose (d : DeliveryId) (outcome : Outcome) :
    (l.dispose d outcome).settle d = l.change d (Settling.mark (some outcome)) := by
  simp only [Link.settle, Link.dispose, Link.change, List.map_map]
  congr 1
  refine List.map_congr_left fun x _ => ?_
  by_cases hd : x.id = d <;> simp [hd, Settling.mark]

end Link

namespace Balance

variable {policy : CreditPolicy} {b : Balance}

theorem reviewed_of_none (h : b.due policy = none) : b.reviewed policy = b := by
  simp only [reviewed, h]

theorem reviewed_of_some {amount : UInt32} (h : b.due policy = some amount) :
    b.reviewed policy = { b with link := b.link.flow amount, flushes := b.flushes + 1 } := by
  simp only [reviewed, h]

/-- After a review nothing is due. -/
theorem due_reviewed : (b.reviewed policy).due policy = none := by
  cases h : b.due policy with
  | none => rw [reviewed_of_none h, h]
  | some amount =>
    rw [reviewed_of_some h]
    exact CreditPolicy.grant?_add h

/-- A review does not look at what is recorded of the deliveries. -/
theorem reviewed_recorded (s : Settling) :
    (b.recorded s).reviewed policy = (b.reviewed policy).recorded s := by
  cases h : b.due policy with
  | none => rw [reviewed_of_none h, reviewed_of_none (b := b.recorded s) h]
  | some amount =>
    rw [reviewed_of_some h, reviewed_of_some (b := b.recorded s) h]
    rfl

theorem recorded_comm {s s' : Settling} (h : s.1 ≠ s'.1) :
    (b.recorded s).recorded s' = (b.recorded s').recorded s := by
  have hlink : ((b.recorded s).recorded s').link = ((b.recorded s').recorded s).link :=
    b.link.change_comm (fun _ => rfl) (fun _ => rfl) h
  exact congrArg (fun link => { b with link }) hlink

/-- Two deliveries may be settled in either order. -/
theorem settled_comm {s s' : Settling} (h : s.1 ≠ s'.1) :
    (b.settled policy s).settled policy s' = (b.settled policy s').settled policy s := by
  have htwice (s s' : Settling) : (b.settled policy s).settled policy s' =
      (((b.countedOff.reviewed policy).countedOff.recorded s).recorded s').reviewed policy := by
    unfold settled
    rw [reviewed_recorded (b := b.countedOff)]
    rfl
  rw [htwice, htwice, recorded_comm h]

theorem settled_dispose (d : DeliveryId) (outcome : Outcome) :
    ({ b with link := b.link.dispose d outcome } : Balance).settled policy (d, none) =
      b.settled policy (d, some outcome) :=
  congrArg (fun link => ({ b.countedOff with link } : Balance).reviewed policy)
    (b.link.settle_dispose d outcome)

theorem settled_receiver (s : Settling) :
    (b.settled policy s).pending.receiver = b.pending.receiver - 1 := by
  unfold settled reviewed
  split <;> rfl

theorem entries_reviewed : (b.reviewed policy).entries = b.entries := by
  unfold reviewed
  split <;> rfl

theorem deliveries_settled (s : Settling) : (b.settled policy s).link.deliveries =
    (b.link.change s.1 (Settling.mark s.2)).deliveries :=
  congrArg Prod.fst (entries_reviewed (b := b.countedOff.recorded s))

/-- A settling is recorded of its delivery, and a review of credit leaves the record alone. -/
theorem delivery_settled (s : Settling) (d : DeliveryId) : (b.settled policy s).link.delivery d =
    (b.link.change s.1 (Settling.mark s.2)).delivery d := by
  unfold Link.delivery
  rw [deliveries_settled]

theorem entries_settled {b' : Balance} (h : b.entries = b'.entries) (s : Settling) :
    (b.settled policy s).entries = (b'.settled policy s).entries := by
  simp only [entries, Prod.mk.injEq] at h
  rw [settled, settled, entries_reviewed, entries_reviewed]
  simp only [entries, recorded, countedOff, Link.change, h.1, h.2]

theorem entries_foldl : ∀ (done : List Settling) {b b' : Balance}, b.entries = b'.entries →
    (done.foldl (settled policy) b).entries = (done.foldl (settled policy) b').entries
  | [], _, _, h => h
  | s :: done, _, _, h => entries_foldl done (entries_settled h s)

/-- What is left after some settlings does not depend on their order, if no delivery is settled
twice. -/
theorem foldl_settled_perm {done done' : List Settling} (h : done.Perm done')
    (honce : (done.map Prod.fst).Nodup) :
    done.foldl (settled policy) b = done'.foldl (settled policy) b := by
  refine h.foldl_eq' (fun s hs s' hs' b => ?_) b
  by_cases hd : s.1 = s'.1
  · rw [List.inj_on_of_nodup_map honce hs hs' hd]
  · exact settled_comm hd

end Balance

/-- The settling that a task is. -/
def Task.settling? : Task → Option Settling
  | .settle d outcome => some (d, outcome)
  | .replenish _ => none

/-- The calls that settling makes to the link and its deliveries. -/
def Settling.points : List Point := [.disposition, .settle, .linkFlow]

/-- Handoffs are settled or the handler's loop runs. -/
def Event.isSettling : Event → Bool
  | .settle _ | .runPending => true
  | _ => false

namespace Endpoint

/-- The settlings that wait in the mailbox. -/
def unperformed (e : Endpoint) : List Settling := e.mailbox.tasks.filterMap Task.settling?

/-- What is asked for in an event: the settling of a handoff that routing holds. -/
def askedBy (e : Endpoint) : Event → List Settling
  | .settle use => (e.sink.held[use.index]?.map fun h => (h.delivery, use.outcome)).toList
  | _ => []

/-- What is asked for in a run, in order. -/
def asked (e : Endpoint) : List Event → List Settling
  | [] => []
  | event :: run => e.askedBy event ++ (e.after event).asked run

/-- The endpoint has come to a balance; the calls and what is told of them are all else that
changed. -/
def Brought (e : Endpoint) (b : Balance) (e' : Endpoint) : Prop :=
  ∃ calls notices counters, e' = { e.withBalance b with calls, notices, counters }

/-- Of the reviews of credit that wait none finds any due. -/
def Quiet (e : Endpoint) : Prop := ∀ owner, .replenish owner ∈ e.mailbox.tasks →
  owner = some .receiver ∧ e.due (some .receiver) = none

/-- These settlings were performed. Nothing else has granted credit if the reviews that waited find
none due. -/
structure Performed (e : Endpoint) (done : List Settling) (e' : Endpoint) : Prop where
  entries : e'.balance.entries =
    (done.foldl (Balance.settled e.config.policy) e.balance).entries
  quiet : e.Quiet → e'.Quiet ∧ e'.balance = done.foldl (Balance.settled e.config.policy) e.balance

/-- The count covers the settlings that are to come and `n` more. -/
structure Covered (n : Nat) (e : Endpoint) : Prop where
  spares : e.plan.Spares Settling.points
  attended : e.mailbox.attended
  enough : (e.owed.length : Int) + n ≤ e.pending.receiver

/-- What was asked for and what waited has been performed or waits, routing holds `held`, and there
is cover for `n` settlings more. -/
structure Onward (n : Nat) (e : Endpoint) (asked : List Settling) (held : List Handoff)
    (e' : Endpoint) : Prop extends Covered n e' where
  config : e'.config = e.config
  handler : e'.mailbox.handler = e.mailbox.handler
  onHandler : e'.onHandler = e.onHandler
  held : e'.sink.held = held
  performed : ∃ done, e.Performed done e' ∧ (done ++ e'.unperformed).Perm (e.unperformed ++ asked)

end Endpoint

section Steps

variable {e e₁ e₂ : Endpoint} {n : Nat} {asked asked' : List Settling} {held held' : List Handoff}
  {d : DeliveryId}

theorem Endpoint.waiting_eq (e : Endpoint) : e.waiting = e.unperformed.map Prod.fst := by
  unfold waiting unperformed
  rw [List.map_filterMap]
  refine List.filterMap_congr fun task _ => ?_
  cases task <;> rfl

theorem Endpoint.Performed.refl (e : Endpoint) : e.Performed [] e := ⟨rfl, fun hq => ⟨hq, rfl⟩⟩

theorem Endpoint.Performed.trans {done done' : List Settling} (h : e.Performed done e₁)
    (h' : e₁.Performed done' e₂) (hconfig : e₁.config = e.config) :
    e.Performed (done ++ done') e₂ := by
  obtain ⟨hentries, hquiet⟩ := h'
  rw [hconfig] at hentries hquiet
  refine ⟨?_, fun hq => ?_⟩
  · rw [hentries, List.foldl_append]
    exact Balance.entries_foldl done' h.entries
  · obtain ⟨hq₁, hbalance⟩ := h.quiet hq
    rw [List.foldl_append, ← hbalance]
    exact hquiet hq₁

theorem Endpoint.Covered.onward (h : e.Covered n) : e.Onward n [] e.sink.held e :=
  ⟨h, rfl, rfl, rfl, rfl, [], .refl e, by simp⟩

theorem Endpoint.Onward.trans {m : Nat} (h : e.Onward n asked held e₁)
    (h' : e₁.Onward m asked' held' e₂) : e.Onward m (asked ++ asked') held' e₂ := by
  obtain ⟨done, hdone, hperm⟩ := h.performed
  obtain ⟨done', hdone', hperm'⟩ := h'.performed
  refine ⟨h'.toCovered, h'.config.trans h.config, h'.handler.trans h.handler,
    h'.onHandler.trans h.onHandler, h'.held, done ++ done', hdone.trans hdone' h.config, ?_⟩
  calc ((done ++ done') ++ e₂.unperformed)
      = done ++ (done' ++ e₂.unperformed) := List.append_assoc ..
    List.Perm _ (done ++ (e₁.unperformed ++ asked')) := hperm'.append_left done
    _ = (done ++ e₁.unperformed) ++ asked' := (List.append_assoc ..).symm
    List.Perm _ ((e.unperformed ++ asked) ++ asked') := hperm.append_right asked'
    _ = e.unperformed ++ (asked ++ asked') := List.append_assoc ..

theorem Endpoint.Onward.isOnHandler (h : e.Onward n asked held e₁) (hon : e.isOnHandler) :
    e₁.isOnHandler := by
  unfold Endpoint.isOnHandler
  rw [h.handler, h.onHandler]
  exact hon

section Brought

variable {b : Balance} {e' : Endpoint}

theorem brought_undue (h : e.due (some .receiver) = none) :
    e.Brought (e.balance.reviewed e.config.policy) e := by
  have hnone : e.balance.due e.config.policy = none := h
  rw [Balance.reviewed_of_none hnone]
  exact ⟨e.calls, e.notices, e.counters, rfl⟩

theorem brought_due {amount : UInt32} (h : e.due (some .receiver) = some amount)
    {counters : Counters} {notices : List Notice} :
    e.Brought (e.balance.reviewed e.config.policy)
      { e.toppedUp amount with counters, notices } := by
  have hsome : e.balance.due e.config.policy = some amount := h
  rw [Balance.reviewed_of_some hsome]
  exact ⟨_, _, _, rfl⟩

/-- A review grants what is due, on a link that takes it. -/
theorem replenish_brings (hon : e.isOnHandler) (h : e.plan.Spares Settling.points) :
    (replenish (some .receiver)).Ends e
      (fun _ => e.Brought (e.balance.reviewed e.config.policy))
      fun _ => e.Brought (e.balance.reviewed e.config.policy) := by
  have hreview := replenish_due hon (some .receiver)
  cases hdue : e.due (some .receiver) with
  | none =>
    rw [hdue] at hreview
    refine hreview.imp ?_ fun _ _ ⟨_, h, _⟩ => nomatch h
    rintro _ _ rfl
    exact brought_undue hdue
  | some amount =>
    rw [hdue] at hreview
    refine hreview.imp ?_ ?_
    · rintro _ _ ⟨_, _, rfl⟩
      exact brought_due hdue
    · rintro _ _ ⟨_, heq, ⟨⟨n, k, -, hk⟩, -⟩ | ⟨-, rfl⟩⟩ <;> cases heq
      · exact absurd hk (h n _ (by simp [Settling.points]) k)
      · exact brought_due hdue

theorem settleOnHandler_brings (hon : e.isOnHandler) (h : e.plan.Spares Settling.points)
    (hpos : 0 < e.pending.receiver) :
    (settleOnHandler d).Ends e (fun _ => e.Brought (e.balance.settled e.config.policy (d, none)))
      fun _ => e.Brought (e.balance.settled e.config.policy (d, none)) := by
  refine settleOnHandler_steps (fun hoff => ?_) (fun hle => ?_) (fun _ hk => ?_) fun _ _ => ?_
  · exact absurd hon (by simp [hoff])
  · omega
  · obtain ⟨n, k, -, hk⟩ := hk
    exact absurd hk (h n _ (by simp [Settling.points]) k)
  · exact replenish_brings (by exact hon) h

theorem settle_brings (hon : e.isOnHandler) (h : e.plan.Spares Settling.points)
    (hpos : 0 < e.pending.receiver) (outcome : Option Outcome) :
    (Task.settle d outcome).perform.Ends e
      (fun _ => e.Brought (e.balance.settled e.config.policy (d, outcome)))
      fun _ => e.Brought (e.balance.settled e.config.policy (d, outcome)) := by
  cases outcome with
  | none => exact settleOnHandler_brings hon h hpos
  | some outcome =>
    refine Act.ends_bind.2 (Act.ends_bind.2 ((invoke_ends h (by simp [Call.point,
      Settling.points])).imp ?_ fun _ _ => False.elim))
    rintro _ _ rfl
    refine Act.ends_modify.2 ?_
    rw [← Balance.settled_dispose]
    exact settleOnHandler_brings (by exact hon) h hpos

end Brought

section Held

variable {i : Nat} {handoff : Handoff} {use : Sink.Use}

theorem Endpoint.askedBy_of_none (h : e.sink.held[use.index]? = none) :
    e.askedBy (.settle use) = [] := by
  simp [askedBy, h]

theorem Endpoint.askedBy_of_some (h : e.sink.held[use.index]? = some handoff) :
    e.askedBy (.settle use) = [(handoff.delivery, use.outcome)] := by
  simp [askedBy, h]

theorem held_perm (h : e.sink.held[i]? = some handoff) :
    (handoff.delivery :: (e.sink.held.eraseIdx i).map (·.delivery)).Perm
      (e.sink.held.map (·.delivery)) := by
  obtain ⟨hi, rfl⟩ := List.getElem?_eq_some_iff.1 h
  exact (List.getElem_cons_eraseIdx_perm hi).map (·.delivery)

theorem owed_perm (h : e.sink.held[i]? = some handoff) :
    (handoff.delivery :: (e.holding (e.sink.held.eraseIdx i)).owed).Perm e.owed :=
  (held_perm h).append_right _

end Held

section Performing

namespace Endpoint.Covered

theorem settle (h : e.Covered (n + 1)) (hon : e.isOnHandler) (s : Settling) :
    (Task.settle s.1 s.2).perform.Ends e (fun _ => e.Onward n [s] e.sink.held)
      fun _ => e.Onward n [s] e.sink.held := by
  have henough := h.enough
  have hbrought {e' : Endpoint} (h' : e.Brought (e.balance.settled e.config.policy s) e') :
      e.Onward n [s] e.sink.held e' := by
    obtain ⟨calls, notices, counters, rfl⟩ := h'
    refine ⟨⟨h.spares, h.attended, ?_⟩, rfl, rfl, rfl, rfl, [s], ⟨rfl, fun hq =>
      ⟨fun owner hmem => ⟨(hq owner hmem).1, ?_⟩, rfl⟩⟩, List.perm_append_comm⟩
    · have hcount : (e.balance.settled e.config.policy s).pending.receiver =
          e.pending.receiver - 1 := Balance.settled_receiver s
      change (e.owed.length : Int) + n ≤ (e.balance.settled _ s).pending.receiver
      omega
    · exact Balance.due_reviewed
  exact (settle_brings hon h.spares (by omega) s.2).imp (fun _ _ => hbrought) fun _ _ => hbrought

theorem perform {task : Task} {rest : List Task} (h : e.Covered n) (hon : e.isOnHandler)
    (htasks : e.mailbox.tasks = task :: rest) :
    task.perform.Ends (e.withTasks rest) (fun _ => e.Onward n [] e.sink.held)
      fun _ => e.Onward n [] e.sink.held := by
  have hrest (hq : e.Quiet) : (e.withTasks rest).Quiet := fun owner hmem =>
    hq owner (htasks ▸ List.mem_cons_of_mem task hmem)
  have hunperformed : e.unperformed =
      task.settling?.toList ++ (e.withTasks rest).unperformed := by
    rw [unperformed, htasks]
    cases task <;> rfl
  have howed : e.owed.length =
      (e.withTasks rest).owed.length + (task.settling?.toList).length := by
    rw [owed, htasks]
    cases task
    · rfl
    · simp [owed, withTasks, Task.settling?, Task.delivery?]
      omega
  have henough := h.enough
  cases task with
  | replenish owner =>
    have henough' : ((e.withTasks rest).owed.length : Int) + n ≤ e.pending.receiver := by
      rw [howed] at henough
      exact henough
    have hperm : ([] ++ (e.withTasks rest).unperformed).Perm (e.unperformed ++ []) := by
      rw [hunperformed]
      simp [Task.settling?]
    have hgranted {amount : UInt32} (hdue : (e.withTasks rest).due owner = some amount)
        {counters : Counters} {notices : List Notice} : e.Onward n [] e.sink.held
          { (e.withTasks rest).toppedUp amount with counters, notices } := by
      refine ⟨⟨h.spares, h.attended, henough'⟩, rfl, rfl, rfl, rfl, [], ⟨rfl, fun hq => ?_⟩, hperm⟩
      obtain ⟨rfl, hnone⟩ := hq owner (htasks ▸ List.mem_cons_self)
      cases hnone.symm.trans hdue
    have hreview := replenish_due (e := e.withTasks rest) (by exact hon) owner
    cases hdue : (e.withTasks rest).due owner with
    | none =>
      rw [hdue] at hreview
      refine hreview.imp ?_ ?_
      · rintro _ _ rfl
        exact ⟨⟨h.spares, h.attended, henough'⟩, rfl, rfl, rfl, rfl, [],
          ⟨rfl, fun hq => ⟨hrest hq, rfl⟩⟩, hperm⟩
      · rintro _ _ ⟨_, heq, -⟩
        cases heq
    | some amount =>
      rw [hdue] at hreview
      refine hreview.imp ?_ ?_
      · rintro _ _ ⟨_, _, rfl⟩
        exact hgranted hdue
      · rintro _ _ ⟨_, heq, ⟨⟨n, k, -, hk⟩, -⟩ | ⟨-, rfl⟩⟩ <;> cases heq
        · exact absurd hk (h.spares n _ (by simp [Settling.points]) k)
        · exact hgranted hdue
  | settle d outcome =>
    have hcovered : (e.withTasks rest).Covered (n + 1) := by
      refine ⟨h.spares, h.attended, ?_⟩
      change _ ≤ e.pending.receiver
      simp only [Task.settling?, Option.toList_some, List.length_singleton] at howed
      omega
    have hback {e' : Endpoint}
        (h' : (e.withTasks rest).Onward n [(d, outcome)] e.sink.held e') :
        e.Onward n [] e.sink.held e' := by
      obtain ⟨done, hdone, hperm⟩ := h'.performed
      refine ⟨h'.toCovered, h'.config, h'.handler, h'.onHandler, h'.held, done,
        ⟨hdone.entries, fun hq => hdone.quiet (hrest hq)⟩, ?_⟩
      rw [hunperformed, List.append_nil]
      exact hperm.trans List.perm_append_comm
    exact (hcovered.settle (by exact hon) (d, outcome)).imp (fun _ _ => hback) fun _ _ => hback

theorem drain (h : e.Covered n) (hon : e.isOnHandler) (limit : Nat) :
    (ReceivingLink.drain limit).Ends e (fun _ => e.Onward n [] e.sink.held)
      fun _ => e.Onward n [] e.sink.held := by
  refine (Custody.drain (I := fun e₁ => e.Onward n [] e.sink.held e₁) (fun h₁ htasks => ?_) limit
    h.onward)
  rw [← h₁.held]
  exact (h₁.toCovered.perform (h₁.isOnHandler hon) htasks).imp (fun _ _ => h₁.trans)
    fun _ _ => h₁.trans

theorem posting (h : e.Covered (n + 1)) (s : Settling) :
    e.Onward n [s] e.sink.held (e.posting (.settle s.1 s.2)) := by
  have hmailbox : (e.posting (.settle s.1 s.2)).mailbox =
      { e.mailbox with tasks := e.mailbox.tasks ++ [.settle s.1 s.2] } := if_pos h.attended
  have hbalance : (e.posting (.settle s.1 s.2)).balance = e.balance := by
    unfold balance
    rw [hmailbox]
    rfl
  have henough := h.enough
  have hquiet (hq : e.Quiet) : (e.posting (.settle s.1 s.2)).Quiet := fun owner hmem => by
    rw [hmailbox] at hmem
    exact hq owner (by simpa using hmem)
  refine ⟨⟨h.spares, by rw [hmailbox]; exact h.attended, ?_⟩, rfl, by rw [hmailbox], rfl, rfl, [],
    ⟨congrArg Balance.entries hbalance, fun hq => ⟨hquiet hq, hbalance⟩⟩, ?_⟩
  · have howed : (e.posting (.settle s.1 s.2)).owed = e.owed ++ [s.1] := by
      rw [owed, hmailbox]
      simp [owed, Task.delivery?, Endpoint.posting]
    rw [howed, List.length_append, List.length_singleton]
    change _ ≤ e.pending.receiver
    omega
  · have hunperformed : (e.posting (.settle s.1 s.2)).unperformed = e.unperformed ++ [s] := by
      rw [unperformed, hmailbox]
      simp [unperformed, Task.settling?]
    rw [hunperformed]
    rfl

theorem use (h : e.Covered 0) (use : Sink.Use) :
    use.perform.Ends e
      (fun _ => e.Onward 0 (e.askedBy (.settle use)) (e.sink.held.eraseIdx use.index))
      fun _ => e.Onward 0 (e.askedBy (.settle use)) (e.sink.held.eraseIdx use.index) := by
  refine Act.ends_bind.2 (Act.ends_get.2 ?_)
  cases hheld : e.sink.held[use.index]? with
  | none =>
    rw [askedBy_of_none hheld, List.eraseIdx_of_length_le (List.getElem?_eq_none_iff.1 hheld)]
    exact h.onward
  | some handoff =>
    rw [askedBy_of_some hheld]
    have hcovered {onHandler : Option HandlerId} :
        Covered 1 { e.holding (e.sink.held.eraseIdx use.index) with onHandler } := by
      have hlength := (owed_perm hheld).length_eq
      have henough := h.enough
      refine ⟨h.spares, h.attended, ?_⟩
      change ((e.holding (e.sink.held.eraseIdx use.index)).owed.length : Int) + 1 ≤
        e.pending.receiver
      rw [List.length_cons] at hlength
      omega
    have hback {e' : Endpoint} {onHandler : Option HandlerId}
        (h' : Onward 0 { e.holding (e.sink.held.eraseIdx use.index) with onHandler }
          [(handoff.delivery, use.outcome)] (e.sink.held.eraseIdx use.index) e') :
        e.Onward 0 [(handoff.delivery, use.outcome)] (e.sink.held.eraseIdx use.index)
          { e' with onHandler := e.onHandler } :=
      ⟨⟨h'.spares, h'.attended, h'.enough⟩, h'.config, h'.handler, rfl, h'.held,
        h'.performed.imp fun _ hdone => ⟨⟨hdone.1.entries, hdone.1.quiet⟩, hdone.2⟩⟩
    refine Act.ends_bind.2 (Act.ends_modify.2 (Act.ends_ite.2 ⟨fun _ => ?_, fun _ => ?_⟩))
    · unfold Act.Ends
      rw [runLater_posting (by exact h.attended)]
      exact hback (hcovered.posting (handoff.delivery, use.outcome))
    · have hon := isOnHandler_enter (e.holding (e.sink.held.eraseIdx use.index))
      refine ends_onHandler.2 (Act.ends_bind.2 (Act.ends_get.2 (Act.ends_ite.2
        ⟨fun _ => ?_, fun hn => absurd hon hn⟩)))
      exact (hcovered.settle hon (handoff.delivery, use.outcome)).imp (fun _ _ => hback)
        fun _ _ => hback

/-- Each event of a schedule goes on with the settling, and routing no longer holds what is settled
in it. -/
theorem after (h : e.Covered 0) {event : Event} (hevent : event.isSettling) :
    ∃ held, e.Onward 0 (e.askedBy event) held (e.after event) ∧
      ((e.askedBy event).map Prod.fst ++ held.map (·.delivery)).Perm
        (e.sink.held.map (·.delivery)) := by
  cases event with
  | settle use =>
    refine ⟨e.sink.held.eraseIdx use.index, Act.Ends.state (Q := e.Onward 0 _ _)
      (Act.ends_bind.2 ((h.use use).imp (fun _ _ => id) fun _ _ => id)), ?_⟩
    cases hheld : e.sink.held[use.index]? with
    | none =>
      rw [askedBy_of_none hheld, List.eraseIdx_of_length_le (List.getElem?_eq_none_iff.1 hheld)]
      rfl
    | some handoff =>
      rw [askedBy_of_some hheld]
      exact held_perm hheld
  | runPending =>
    have hentered : Covered 0 e.entered := ⟨h.spares, h.attended, h.enough⟩
    have hback {e' : Endpoint} (h' : e.entered.Onward 0 [] e.sink.held e') :
        e.Onward 0 [] e.sink.held { e' with onHandler := e.onHandler } :=
      ⟨⟨h'.spares, h'.attended, h'.enough⟩, h'.config, h'.handler, rfl, h'.held,
        h'.performed.imp fun _ hdone => ⟨⟨hdone.1.entries, hdone.1.quiet⟩, hdone.2⟩⟩
    refine ⟨e.sink.held, Act.Ends.state (Q := e.Onward 0 [] e.sink.held) ?_, .refl _⟩
    refine Act.ends_bind.2 (Act.ends_bind.2 (Act.ends_get.2 (ends_onHandler.2 ?_)))
    exact (hentered.drain (isOnHandler_enter e) _).imp (fun _ _ => hback) fun _ _ => hback
  | _ => exact nomatch hevent

theorem afterAll : ∀ {run : List Event} {e : Endpoint}, e.Covered 0 →
    (∀ event ∈ run, event.isSettling) →
    ∃ held, e.Onward 0 (e.asked run) held (e.afterAll run) ∧
      ((e.asked run).map Prod.fst ++ held.map (·.delivery)).Perm (e.sink.held.map (·.delivery))
  | [], e, h, _ => ⟨e.sink.held, h.onward, .refl _⟩
  | event :: run, e, h, hrun => by
    obtain ⟨hevent, hrest⟩ := List.forall_mem_cons.1 hrun
    obtain ⟨held, h₁, hheld⟩ := h.after hevent
    obtain ⟨held', h₂, hheld'⟩ := h₁.toCovered.afterAll hrest
    rw [h₁.held] at hheld'
    refine ⟨held', h₁.trans h₂, ?_⟩
    rw [asked, List.map_append, List.append_assoc]
    exact (hheld'.append_left _).trans hheld

end Endpoint.Covered

end Performing

end Steps

/-- While the books are in order, the count covers the settlings that are to come. -/
theorem Books.owed_le {accepted inHand : List DeliveryId} {e : Endpoint}
    (h : Books e accepted inHand) : (e.owed.length : Int) ≤ e.pending.receiver := by
  have hsub : e.owed ⊆ accepted.filter (e.settles · = 0) := fun d hd =>
    List.mem_filter.2 ⟨h.owedAccepted hd,
      by simpa using h.unsettled d (List.mem_append_right _ hd)⟩
  have hlength := (List.subperm_of_subset h.owedOnce hsub).length_le
  rw [h.count]
  omega

theorem runLater_balance (e : Endpoint) (task : Task) :
    (runLater task).Ends e (fun _ e' => e'.balance = e.balance)
      fun _ e' => e'.balance = e.balance := by
  have hpost : (e.posting task).balance = e.balance := by
    unfold Endpoint.balance Endpoint.posting Mailbox.post
    dsimp only
    split <;> rfl
  refine Act.ends_bind.2 (Act.ends_get.2 (Act.ends_bind.2 (Act.ends_modify.2 ?_)))
  exact Act.ends_ite.2 ⟨fun _ => hpost, fun _ => hpost⟩

theorem balance_elsewhere (e : Endpoint) {use : Sink.Use} (h : use.elsewhere) :
    (e.after (.settle use)).balance = e.balance := by
  refine Act.Ends.state (Q := fun e' : Endpoint => e'.balance = e.balance) ?_
  refine Act.ends_bind.2 (Act.ends_bind.2 (Act.ends_get.2 ?_))
  split
  · rfl
  · refine Act.ends_bind.2 (Act.ends_modify.2 (Act.ends_ite.2 ⟨fun _ => ?_, fun hn => absurd h hn⟩))
    exact (runLater_balance _ _).imp (fun _ _ => id) fun _ _ => id

/-- Two schedules that settle the same handoffs with the same outcomes, in any order, each on the
handler or from elsewhere, and with the handler's loop run at any points, end with the same
deliveries and counts once nothing waits any more. They end in the same balance if no review that
waits before finds credit due. Until its task has run, a settling from elsewhere changes nothing of
the balance. -/
theorem balance_eq_of_perm {e : Endpoint} (hspares : e.plan.Spares Settling.points)
    (ha : e.mailbox.attended) (honce : e.owed.Nodup)
    (henough : (e.owed.length : Int) ≤ e.pending.receiver)
    {run run' : List Event} (hrun : ∀ event ∈ run ++ run', event.isSettling)
    (hperm : (e.asked run).Perm (e.asked run'))
    (hdone : (e.afterAll run).mailbox.tasks = []) (hdone' : (e.afterAll run').mailbox.tasks = []) :
    (e.afterAll run).balance.entries = (e.afterAll run').balance.entries ∧
      (e.Quiet → (e.afterAll run).balance = (e.afterAll run').balance) ∧
      ∀ (e : Endpoint) (use : Sink.Use), use.elsewhere →
        (e.after (.settle use)).balance = e.balance := by
  have hcovered : e.Covered 0 := ⟨hspares, ha, by simpa using henough⟩
  have hperformed {run : List Event} (hrun : ∀ event ∈ run, event.isSettling)
      (hdone : (e.afterAll run).mailbox.tasks = []) :
      ∃ done, e.Performed done (e.afterAll run) ∧ done.Perm (e.unperformed ++ e.asked run) := by
    obtain ⟨_, h, -⟩ := hcovered.afterAll hrun
    obtain ⟨done, hperformed, hall⟩ := h.performed
    rw [Endpoint.unperformed, hdone, List.filterMap_nil, List.append_nil] at hall
    exact ⟨done, hperformed, hall⟩
  obtain ⟨done, hp, hall⟩ := hperformed (fun x hx => hrun x (by simp [hx])) hdone
  obtain ⟨done', hp', hall'⟩ := hperformed (fun x hx => hrun x (by simp [hx])) hdone'
  have hsame : done.foldl (Balance.settled e.config.policy) e.balance =
      done'.foldl (Balance.settled e.config.policy) e.balance := by
    refine Balance.foldl_settled_perm (hall.trans ((hperm.append_left _).trans hall'.symm)) ?_
    obtain ⟨held, -, hheld⟩ := hcovered.afterAll (show ∀ event ∈ run, event.isSettling from
      fun x hx => hrun x (by simp [hx]))
    have howed : ((e.unperformed ++ e.asked run).map Prod.fst ++ held.map (·.delivery)).Perm
        e.owed := by
      rw [List.map_append, ← e.waiting_eq, List.append_assoc]
      exact (hheld.append_left _).trans List.perm_append_comm
    exact (hall.map Prod.fst).nodup_iff.2
      ((howed.nodup_iff.2 honce).sublist (List.sublist_append_left ..))
  refine ⟨?_, fun hq => ?_, fun e _ => balance_elsewhere e⟩
  · rw [hp.entries, hp'.entries, hsame]
  · rw [(hp.quiet hq).2, (hp'.quiet hq).2, hsame]

/-- The order matters where a review waits that finds credit due, where the count does not cover what
routing holds, as after routing refused what it had settled, and where a call panics only once. -/
theorem settling_order_matters :
    let start (plan : Plan) : Endpoint :=
      { Endpoint.start {} "orders" 10 ⟨1⟩ .memory none with plan }
    let one : List Event := [.begin 0 none, .transfer [1] false, .message ⟨1⟩]
    let two : List Event := one ++ [.begin 0 none, .transfer [2] false, .message ⟨2⟩]
    let refused : List Event := [.setMode (.settleWith .accepted), .begin 0 none,
      .transfer [3] false, .message ⟨3⟩]
    let reviewed := (start .clear).afterAll (one ++ [.submit])
    let short := (start fun n point =>
      if n = 16 ∧ point = .delivered then some (.fails default) else none).afterAll (two ++ refused)
    let struck := (start fun n point =>
      if n = 8 ∧ point = .settle then some (.panics .other) else none).afterAll two
    let first : Event := .settle ⟨0, none, false⟩
    let second : Event := .settle ⟨1, none, false⟩
    (reviewed.asked [first, .runPending] = reviewed.asked [.runPending, first] ∧
        (reviewed.afterAll [first, .runPending]).link.grants = [991] ∧
        (reviewed.afterAll [.runPending, first]).link.grants = [990]) ∧
      ((short.asked [first, first]).Perm (short.asked [second, first]) ∧
        (short.afterAll [first, first]).settles ⟨1⟩ = 1 ∧
        (short.afterAll [second, first]).settles ⟨1⟩ = 0) ∧
      (struck.asked [first, first]).Perm (struck.asked [second, first]) ∧
        (struck.afterAll [first, first]).settles ⟨1⟩ = 0 ∧
        (struck.afterAll [second, first]).settles ⟨1⟩ = 1 := by
  refine ⟨⟨?_, ?_, ?_⟩, ⟨?_, ?_, ?_⟩, ?_, ?_, ?_⟩ <;> decide +kernel

/-- Of three handoffs one waits to be settled, and the others are settled in either order. -/
theorem balance_eq_of_perm_three :
    let fresh : Endpoint := .start {} "orders" 10 ⟨1⟩ .memory none
    let e := fresh.afterAll [.begin 0 none, .transfer [1] false, .message ⟨1⟩, .begin 0 none,
      .transfer [2] false, .message ⟨2⟩, .begin 0 none, .transfer [3] false, .message ⟨3⟩,
      .settle ⟨2, none, true⟩]
    let run : List Event := [.settle ⟨0, some .released, false⟩, .settle ⟨0, none, true⟩, .runPending]
    let run' : List Event := [.settle ⟨1, none, true⟩, .runPending,
      .settle ⟨0, some .released, false⟩]
    (e.afterAll run).balance = (e.afterAll run').balance ∧ (e.afterAll run).link.grants = [991] := by
  intro fresh e run run'
  have hclear : fresh.plan.Spares settlementPoints := fun _ _ _ _ => by
    simp [fresh, Endpoint.start, Plan.clear]
  have hbooks : Books e _ [] := ((Endpoint.start_fresh ..).books hclear fun _ => rfl).afterAll _
  have hspares : e.plan.Spares Settling.points := fun n point hpoint =>
    hbooks.spares n point ((by decide : Settling.points ⊆ settlementPoints) hpoint)
  have hquiet : e.Quiet := by
    have htasks : e.mailbox.tasks = [.settle ⟨3⟩ none] := by decide +kernel
    simp [Endpoint.Quiet, htasks]
  have hbalance := balance_eq_of_perm (e := e) hspares (by decide +kernel) hbooks.owedOnce
    hbooks.owed_le (show ∀ event ∈ run ++ run', event.isSettling by decide) (by decide +kernel)
    (by decide +kernel) (by decide +kernel)
  exact ⟨hbalance.2.1 hquiet, by decide +kernel⟩

end ReceivingLink
