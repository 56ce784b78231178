import ReceivingLink.Proofs.Agreement
import ReceivingLink.Proofs.Alike
import ReceivingLink.Proofs.Closed
import ReceivingLink.Proofs.Schedules

/-!
# Closing completes

A receiver is closed in two steps: its session forgets it, and the large message that is coming in
is discarded. Only the first can break off, and then the large message is kept for the next attempt.
Whatever the second comes to, the receiver is closed, and what was to be settled is settled as ever:
`close_completes`.
-/

namespace ReceivingLink

/-- The warnings among what was told. -/
def warningsIn (notices : List Notice) : List Notice := notices.filter (·.level = .warn)

namespace Endpoint

/-- Deleting a spool fails or panics if it is call number `n`. -/
def undeletable (e : Endpoint) (n : Nat) (spool : Spool) : Bool :=
  (e.plan n .spoolDelete).isSome || e.storage.faults.delete || (e.storage.record spool).poisoned

/-- The calls that discard the large message that is coming in. -/
def discarding (e : Endpoint) : List Call := (e.slot.map fun a => .spoolDelete a.spool).toList

/-- How many warnings are told when the large message that is coming in is discarded and call number
`n` is the next. -/
def discardWarnings (e : Endpoint) (n : Nat) : Nat :=
  if e.slot.any fun a => e.undeletable n a.spool then 1 else 0

/-- The large message that was coming in is gone, which was told. Only storage has changed
besides. -/
def Discards (e e' : Endpoint) : Prop :=
  ∃ storage told, e' = { e.withSlot none with
      storage, calls := e.calls ++ e.discarding, notices := e.notices ++ told } ∧
    (warningsIn told).length = e.discardWarnings e.calls.length

/-- The endpoint after a closing that broke off: the session may not have forgotten the receiver. -/
def halfClosed (e : Endpoint) : Endpoint :=
  { e.noting (.removeReceiver e.link.name) with lifecycle := .closing }

/-- The closing of a receiver comes to this. -/
structure Closes (e e' : Endpoint) : Prop where
  lifecycle : e'.lifecycle = .closed
  slot : e'.slot = none
  calls : e'.calls = e.calls ++ .removeReceiver e.link.name :: e.discarding
  link : e'.link = e.link
  pending : e'.pending = e.pending
  warned : ∃ told, e'.notices = e.notices ++ told ∧
    (warningsIn told).length = e.discardWarnings (e.calls.length + 1)

end Endpoint

section Discarding

variable {e : Endpoint}

/-- A spool is deleted unless that fails. -/
theorem delete_deletes (e : Endpoint) (spool : Spool) :
    let called := e.noting (.spoolDelete spool)
    spool.delete.Ends e
      (fun _ e' => e.undeletable e.calls.length spool = false ∧
        e' = { called with storage := e.storage.delete spool })
      (fun _ e' => e.undeletable e.calls.length spool ∧ e' = called)
      fun _ e' => e.undeletable e.calls.length spool ∧ e' = called := by
  intro called
  refine Attempt.ends_bind.2 (Attempt.ends_bind.2 (Attempt.ends_lift.2 (Act.ends_modifyGet.2 ?_)))
  dsimp only [Call.point]
  rcases hplan : e.plan e.calls.length .spoolDelete with _ | k | cause | cause
  · refine Attempt.ends_bind.2 (Attempt.ends_get.2 (Attempt.ends_ite.2 ⟨fun hf => ?_,
      fun hf => ?_⟩))
    · have hdelete : e.storage.faults.delete := hf
      exact Attempt.ends_bind.2 ⟨by simp [Endpoint.undeletable, hdelete], rfl⟩
    refine Attempt.ends_bind.2 (Attempt.ends_discard.2 (Attempt.ends_lift.2 (Act.ends_bind.2
      (Act.ends_get.2 (Act.ends_ite.2 ⟨fun hp => ?_, fun hp => ?_⟩)))))
    · have hpoisoned : (e.storage.record spool).poisoned := hp
      exact ⟨by simp [Endpoint.undeletable, hpoisoned], rfl⟩
    · have hdelete : e.storage.faults.delete = false := by simpa using hf
      have hpoisoned : (e.storage.record spool).poisoned = false := by simpa using hp
      exact ⟨by simp [Endpoint.undeletable, hplan, hdelete, hpoisoned], rfl⟩
  all_goals exact ⟨by simp [Endpoint.undeletable, hplan], rfl⟩

/-- The large message that is coming in is discarded, and what goes wrong with that is told. -/
theorem clearLarge_discards (e : Endpoint) :
    Receiver.clearLarge.Ends e (fun _ => e.Discards) fun _ _ => False := by
  refine Act.ends_bind.2 (Act.ends_contain.2 (Act.ends_bind.2 (ends_current.2 ?_)))
  rcases hs : (e.reassembler.get .receiver).slot with _ | a
  · have hslot : e.slot = none := hs
    have hsame : e.withSlot none = e := hslot ▸ (rfl : e.withSlot e.slot = e)
    refine ⟨e.storage, [], ?_, ?_⟩
    · simp [hsame, Endpoint.discarding, hslot]
    · simp [Endpoint.discardWarnings, hslot, warningsIn]
  have hslot : e.slot = some a := hs
  have htold {storage : Storage} {notice : Notice}
      (hn : (warningsIn [notice]).length = e.discardWarnings e.calls.length) :
      e.Discards { (e.withSlot none).noting (.spoolDelete a.spool) with
        storage, notices := e.notices ++ [notice] } :=
    ⟨storage, [notice], by rw [Endpoint.discarding, hslot]; rfl, hn⟩
  have hfails (hu : e.undeletable e.calls.length a.spool) :
      e.discardWarnings e.calls.length = 1 := by
    simp [Endpoint.discardWarnings, hslot, hu]
  refine Act.ends_bind.2 (Act.ends_modify.2 (Act.ends_bind.2 (Act.ends_bind.2 (Act.ends_run.2
    ((delete_deletes (e.withSlot none) a.spool).imp ?_ ?_ ?_)))))
  · rintro _ _ ⟨hd, rfl⟩
    have hdone : e.discardWarnings e.calls.length = 0 := by
      have hd : e.undeletable e.calls.length a.spool = false := hd
      simp [Endpoint.discardWarnings, hslot, hd]
    exact Act.ends_modify.2 (htold (by rw [hdone]; rfl))
  · rintro cause _ ⟨hu, rfl⟩
    exact Act.ends_modify.2 (htold (by rw [hfails hu]; rfl))
  · rintro k _ ⟨hu, rfl⟩
    exact Act.ends_bind.2 (Act.ends_get.2 (Act.ends_modify.2 (htold (by rw [hfails hu]; rfl))))

end Discarding

section Closing

variable {e : Endpoint}

/-- What the closing of a receiver has nothing to do with. -/
structure Endpoint.Retains (e e' : Endpoint) : Prop where
  config : e'.config = e.config
  plan : e'.plan = e.plan
  sink : e'.sink = e.sink
  mailbox : e'.mailbox = e.mailbox
  onHandler : e'.onHandler = e.onHandler

/-- A closing breaks off if the session panics, and only then. -/
theorem close_ends_or (ho : e.lifecycle ≠ .closed) (remoteInitiated : Bool) :
    let fault := e.plan e.calls.length .removeReceiver
    (Event.close remoteInitiated).perform.Ends e
      (fun r e' => (∀ k, fault ≠ some (.panics k)) ∧ r = .ok () ∧ e.Closes e' ∧ e.Retains e')
      fun k e' => fault = some (.panics k) ∧ e' = e.halfClosed := by
  intro fault
  refine Act.ends_bind.2 (ends_onHandler.2 (Act.ends_bind.2
    ((requireOnHandler_ends (isOnHandler_enter e)).imp ?_ fun _ _ => False.elim)))
  rintro _ _ rfl
  refine Act.ends_bind.2 (Act.ends_get.2 (Act.ends_ite.2 ⟨fun hc => absurd hc ho, fun _ => ?_⟩))
  refine Act.ends_bind.2 (Act.ends_modify.2 (Act.ends_bind.2 (Act.ends_bind.2 (Act.ends_get.2
    (Act.ends_bind.2 (Act.ends_bind.2 (Act.ends_modifyGet.2 ?_)))))))
  dsimp only [Call.point]
  split
  · rename_i k hk
    exact ⟨hk, rfl⟩
  rename_i hreturns
  refine Act.ends_modify.2 (Act.ends_bind.2 ((clearLarge_discards _).imp ?_ fun _ _ => False.elim))
  rintro _ _ ⟨storage, told, rfl, hwarned⟩
  refine Act.ends_bind.2 (Act.ends_modify.2 (Act.ends_bind.2 (Act.ends_get.2 (Act.ends_modify.2
    ⟨hreturns, rfl, ⟨rfl, rfl, ?_, rfl, rfl, ?_⟩, rfl, rfl, rfl, rfl, rfl⟩))))
  · exact List.append_assoc ..
  · refine ⟨told ++ [.receiverClosed e.link.name remoteInitiated], List.append_assoc .., ?_⟩
    have hnumber : (e.calls ++ [Call.removeReceiver e.link.name]).length = e.calls.length + 1 :=
      List.length_append
    rw [← hnumber, warningsIn, List.filter_append, List.length_append]
    exact hwarned

theorem close_returns (ho : e.lifecycle ≠ .closed) {remoteInitiated : Bool}
    (hreturns : ∀ k, e.plan e.calls.length .removeReceiver ≠ some (.panics k)) :
    let e' := e.after (.close remoteInitiated)
    (Event.close remoteInitiated).perform e = (.ok (.ok ()), e') ∧ e.Closes e' ∧ e.Retains e' := by
  obtain ⟨_, e₁, he, -, rfl, h⟩ := ((close_ends_or ho remoteInitiated).imp (fun _ _ => id)
    fun k _ h => hreturns k h.1).answers
  have hafter : e.after (.close remoteInitiated) = e₁ := by rw [Endpoint.after, he]
  rw [hafter]
  exact ⟨he, h⟩

theorem close_breaks (ho : e.lifecycle ≠ .closed) {remoteInitiated : Bool} {k : Panic}
    (hk : e.plan e.calls.length .removeReceiver = some (.panics k)) :
    (Event.close remoteInitiated).perform e = (.error k, e.halfClosed) := by
  have hends := close_ends_or ho remoteInitiated
  unfold Act.Ends at hends
  split at hends <;> rename_i he
  · exact absurd hk (hends.1 k)
  · obtain ⟨hk', rfl⟩ := hends
    cases hk.symm.trans hk'
    exact he

/-- A receiver that is being closed handles no delivery, and only says so. -/
theorem message_ignored (hn : e.lifecycle ≠ .opened) (d : DeliveryId) :
    (Event.message d).perform e =
      (.ok (.ok ()), { e with notices := e.notices ++ [.receiverNotOpen e.link.name d] }) := by
  have hends : (Event.message d).perform.Ends e (fun r e' => r = .ok () ∧
      e' = { e with notices := e.notices ++ [.receiverNotOpen e.link.name d] })
      fun _ _ => False := by
    refine ends_onHandler.2 (Act.ends_bind.2 ((requireOnHandler_ends (isOnHandler_enter e)).imp ?_
      fun _ _ => False.elim))
    rintro _ _ rfl
    exact Act.ends_bind.2 (Act.ends_get.2 (Act.ends_ite.2 ⟨fun _ => Act.ends_bind.2
      (Act.ends_modify.2 ⟨rfl, rfl⟩), fun ho => absurd (not_not.1 ho) hn⟩))
  obtain ⟨_, _, he, rfl, rfl⟩ := hends.answers
  exact he

/-- While nobody closes it, a receiver that is being closed stays so and keeps its large message. -/
theorem halfClosed_stays : ∀ {run : List Event} {e : Endpoint}, e.lifecycle = .closing →
    (∀ event ∈ run, event.isClosing = false) →
    (e.afterAll run).lifecycle = .closing ∧ (e.afterAll run).slot = e.slot
  | [], _, hc, _ => ⟨hc, rfl⟩
  | event :: run, e, hc, hrun => by
    obtain ⟨hevent, hrest⟩ := List.forall_mem_cons.1 hrun
    have hstep : (e.after event).lifecycle = .closing ∧ (e.after event).slot = e.slot := by
      have heffect (hm : ∀ d, event ≠ .message d) : Effect e event (e.after event) :=
        aside_effect hm
      have huntouched (h : Untouched e (e.after event)) :
          (e.after event).lifecycle = .closing ∧ (e.after event).slot = e.slot :=
        ⟨h.lifecycle.trans hc, h.slot⟩
      cases event with
      | begin | transfer | abort => exact ⟨hc, rfl⟩
      | message d =>
        rw [Endpoint.after, message_ignored (by simp [hc])]
        exact ⟨hc, rfl⟩
      | close | closeWithError => exact nomatch hevent
      | setDrain | flow | runPending | settle | submit | setMode =>
        exact huntouched (heffect nofun)
    obtain ⟨hc', hslot⟩ := halfClosed_stays hstep.1 hrest
    exact ⟨hc', hslot.trans hstep.2⟩

end Closing

section Settling

variable {e : Endpoint} {run : List Event} (policy : CreditPolicy)

theorem foldl_settled_counts : ∀ (done : List Settling) (b : Balance),
    (done.foldl (Balance.settled policy) b).pending.receiver = b.pending.receiver - done.length
  | [], b => by simp
  | s :: done, b => by
    rw [List.foldl_cons, foldl_settled_counts done, Balance.settled_receiver, List.length_cons]
    omega

/-- Each of the settlings is recorded of its delivery. -/
theorem foldl_settled_settles {d : DeliveryId} : ∀ (done : List Settling) {b : Balance},
    d ∈ b.link.deliveries.map (·.id) →
      ((done.foldl (Balance.settled policy) b).link.delivery d).settles =
        (b.link.delivery d).settles + (done.map Prod.fst).count d
  | [], b, _ => by simp
  | s :: done, b, hd => by
    have hid (x : Delivery) : (Settling.mark s.2 x).id = x.id := rfl
    have hbegun : d ∈ (b.settled policy s).link.deliveries.map (·.id) := by
      rw [Balance.deliveries_settled, Link.map_change _ hid]
      exact hd
    rw [List.foldl_cons, foldl_settled_settles done hbegun, Balance.delivery_settled, List.map_cons]
    by_cases h : s.1 = d
    · subst h
      rw [Link.delivery_change_self _ hid hd, List.count_cons_self]
      simp only [Settling.mark]
      omega
    · rw [Link.delivery_change_ne _ hid (Ne.symm h), List.count_cons_of_ne h]

/-- Once nothing waits any more, what waited and what was asked for has been settled. -/
theorem settled_all (h : e.Covered 0) (hrun : ∀ event ∈ run, event.isSettling)
    (hdone : (e.afterAll run).mailbox.tasks = []) :
    let done := e.unperformed ++ e.asked run
    (e.afterAll run).pending.receiver = e.pending.receiver - done.length ∧
      ∀ d ∈ e.begun, (e.afterAll run).settles d = e.settles d + (done.map Prod.fst).count d := by
  intro done
  obtain ⟨_, honward, -⟩ := h.afterAll hrun
  obtain ⟨performed, hperformed, hperm⟩ := honward.performed
  rw [Endpoint.unperformed, hdone, List.filterMap_nil, List.append_nil] at hperm
  have hentries := hperformed.entries
  simp only [Balance.entries, Prod.mk.injEq] at hentries
  obtain ⟨hdeliveries, hpending⟩ := hentries
  have hdelivery (d : DeliveryId) : (e.afterAll run).link.delivery d =
      (performed.foldl (Balance.settled e.config.policy) e.balance).link.delivery d := by
    unfold Link.delivery
    rw [← hdeliveries]
    rfl
  refine ⟨?_, fun d hd => ?_⟩
  · have hcounts := foldl_settled_counts e.config.policy performed e.balance
    rw [← hpending, hperm.length_eq] at hcounts
    exact hcounts
  · have hsettles := foldl_settled_settles e.config.policy performed (b := e.balance) hd
    rw [← hdelivery, (hperm.map Prod.fst).count_eq] at hsettles
    exact hsettles

theorem Endpoint.Covered.retained {n : Nat} {e' : Endpoint} (h : e.Covered n) (hr : e.Retains e')
    (hp : e'.pending = e.pending) : e'.Covered n where
  spares := by rw [hr.plan]; exact h.spares
  attended := by rw [hr.mailbox]; exact h.attended
  enough := by
    have howed : e'.owed = e.owed := by rw [Endpoint.owed, hr.sink, hr.mailbox]; rfl
    rw [howed, hp]
    exact h.enough

/-- To close a receiver that is not closed always completes, unless the session panics: then the
receiver is being closed, handles no delivery and keeps its large message, until it is closed again.
Once it is closed, the session has been told once and the large message was discarded, if there was
one, with a warning exactly if its spool could not be deleted; link and count are left alone.
Whatever then happens aside from the peer and the receiver ends as if the receiver were open, and
what waited or was held is counted off and settled. -/
theorem close_completes {e : Endpoint} (ho : e.lifecycle ≠ .closed) (remoteInitiated : Bool) :
    let closing := Event.close remoteInitiated
    let e' := e.after closing
    ((∀ k, e.plan e.calls.length .removeReceiver ≠ some (.panics k)) →
      closing.perform e = (.ok (.ok ()), e') ∧ e.Closes e' ∧
        (∀ run, (∀ event ∈ run, event.isAside) →
          let opened : Endpoint := { e' with lifecycle := .opened }
          (opened.afterAll run).Alike (e'.afterAll run) ∧
            ∀ event : Event, event.isAside →
              (event.perform (e'.afterAll run)).1 = (event.perform (opened.afterAll run)).1) ∧
        (e.Covered 0 → ∀ run, (∀ event ∈ run, event.isSettling) →
          (e'.afterAll run).mailbox.tasks = [] →
          let done := e.unperformed ++ e'.asked run
          (e'.afterAll run).pending.receiver = e.pending.receiver - done.length ∧
            ∀ d ∈ e.begun,
              (e'.afterAll run).settles d = e.settles d + (done.map Prod.fst).count d)) ∧
      ∀ k, e.plan e.calls.length .removeReceiver = some (.panics k) →
        closing.perform e = (.error k, e') ∧ e' = e.halfClosed ∧
          ∀ run, (∀ event ∈ run, event.isClosing = false) →
            let later := e'.afterAll run
            later.lifecycle = .closing ∧ later.slot = e.slot ∧
              ∀ d, (Event.message d).perform later = (.ok (.ok ()), { later with
                notices := later.notices ++ [.receiverNotOpen later.link.name d] }) := by
  intro closing e'
  refine ⟨fun hreturns => ?_, fun k hk => ?_⟩
  · obtain ⟨hperform, hcloses, hretains⟩ := close_returns ho hreturns
    refine ⟨hperform, hcloses, fun run hrun => ?_, fun hcovered run hrun hdone => ?_⟩
    · have halike : ({ e' with lifecycle := .opened } : Endpoint).Alike e' := ⟨_, _, _, rfl⟩
      have hruns := asides_alike halike hrun
      exact ⟨hruns, fun event hevent => (aside_alike hevent _ _ hruns).1⟩
    · have hsettled := settled_all (hcovered.retained hretains hcloses.pending) hrun hdone
      have hunperformed : e'.unperformed = e.unperformed := by
        rw [Endpoint.unperformed, hretains.mailbox]
        rfl
      rw [hunperformed, hcloses.pending] at hsettled
      refine hsettled.imp_right fun h d hd => ?_
      have hlink : e'.link = e.link := hcloses.link
      have hsame : e'.settles d = e.settles d ∧ e'.begun = e.begun := by
        simp only [Endpoint.settles, Endpoint.begun, hlink, and_self]
      rw [← hsame.1]
      exact h d (hsame.2 ▸ hd)
  · have hperform : closing.perform e = (.error k, e.halfClosed) := close_breaks ho hk
    have hafter : e' = e.halfClosed := by
      show (closing.perform e).2 = _
      rw [hperform]
    refine ⟨by rw [hafter]; exact hperform, hafter, fun run hrun => ?_⟩
    rw [hafter]
    obtain ⟨hclosing, hslot⟩ := halfClosed_stays (e := e.halfClosed) rfl hrun
    exact ⟨hclosing, hslot, message_ignored (by simp [hclosing])⟩

/-- The session panics when a receiver is closed and a large message is coming in. The next closing
completes, with a warning as the spool cannot be deleted, and then a delivery that waited and one
that was held are settled. -/
theorem close_completes_twice :
    let plan : Plan := fun n point =>
      if point = .spoolDelete ∨ n = 13 ∧ point = .removeReceiver then some (.panics .other)
      else none
    let fresh : Endpoint :=
      { Endpoint.start { minLargeMessageSize := 4 } "orders" 10 ⟨1⟩ .memory none with plan }
    let e := fresh.afterAll [.begin 0 none, .transfer [1] false, .message ⟨1⟩, .begin 0 none,
      .transfer [2] false, .message ⟨2⟩, .settle ⟨0, none, true⟩, .begin 0 none,
      .transfer [1, 2, 3, 4] true, .message ⟨3⟩]
    let half := e.after (.close false)
    let closed := half.after (.close true)
    let run : List Event := [.settle ⟨0, some .accepted, false⟩, .runPending]
    (e.lifecycle ≠ .closed ∧ half.lifecycle ≠ .closed) ∧
      ((Event.close false).perform e).1 = .error .other ∧ half.slot.isSome ∧
      ((Event.message ⟨3⟩).perform half).1 = .ok (.ok ()) ∧
      half.Closes closed ∧ half.discardWarnings (half.calls.length + 1) = 1 ∧
      (closed.afterAll run).pending.receiver = 0 ∧ (closed.afterAll run).settles ⟨1⟩ = 1 ∧
      (closed.afterAll run).settles ⟨2⟩ = 1 := by
  intro plan fresh e half closed run
  have hopened : e.lifecycle ≠ .closed := by decide +kernel
  have hhalf : half.lifecycle ≠ .closed := by decide +kernel
  have hplan : e.plan = plan := (afterAll_samePlan _ fresh).plan
  have hplan' : half.plan = plan := (after_samePlan (.close false) e).plan.trans hplan
  have hpanics : e.plan e.calls.length .removeReceiver = some (.panics .other) := by
    have hnumber : e.calls.length = 13 := by decide +kernel
    simp [hplan, hnumber, plan]
  have hreturns (k : Panic) : half.plan half.calls.length .removeReceiver ≠ some (.panics k) := by
    have hnumber : half.calls.length = 14 := by decide +kernel
    simp [hplan', hnumber, plan]
  have hspares : half.plan.Spares Settling.points := by
    rw [hplan']
    intro n point hpoint k
    have hneither : point ≠ .spoolDelete ∧ point ≠ .removeReceiver := by
      simp only [Settling.points, List.mem_cons, List.not_mem_nil, or_false] at hpoint
      rcases hpoint with rfl | rfl | rfl <;> decide
    simp [plan, hneither]
  have hcovered : half.Covered 0 := ⟨hspares, by decide +kernel, by decide +kernel⟩
  obtain ⟨hperform, -, hignored⟩ := (close_completes hopened false).2 .other hpanics
  obtain ⟨-, hcloses, -, hsettled⟩ := (close_completes hhalf true).1 hreturns
  obtain ⟨hpending, hsettles⟩ := hsettled hcovered run (by decide) (by decide +kernel)
  have hcount : half.pending.receiver = 2 := by decide +kernel
  have hdone : half.unperformed ++ closed.asked run = [(⟨1⟩, none), (⟨2⟩, some .accepted)] := by
    decide +kernel
  have hclosed : half.after (.close true) = closed := rfl
  rw [hdone, hclosed] at hpending hsettles
  refine ⟨⟨hopened, hhalf⟩, congrArg Prod.fst hperform, by decide +kernel, ?_, hcloses,
    by decide +kernel, ?_, ?_, ?_⟩
  · exact congrArg Prod.fst ((hignored [] (by simp)).2.2 ⟨3⟩)
  · rw [hpending, hcount]
    rfl
  · exact (hsettles ⟨1⟩ (by decide +kernel)).trans (by decide +kernel)
  · exact (hsettles ⟨2⟩ (by decide +kernel)).trans (by decide +kernel)

end Settling

end ReceivingLink
