import ReceivingLink.Proofs.Compensation
import ReceivingLink.Proofs.Protocol

/-!
# Why an event fails

An event fails if one of the calls failed that turn transfers into a message, or if the message
that it completes has a gap. The error names the first of these calls and passes on what it
reported. No event fails because a call that cleans up does, or because routing refuses its message,
as long as the message is counted while it is passed on. If it is not, the tracker panics, and the
event fails for a reason that none of its calls gave: `message_fails_iff` says exactly when.
-/

namespace ReceivingLink

/-- The event fails that has such a call fail. -/
def Call.isVital : Call → Bool
  | .generateId | .openSpool _ | .register .. | .spoolAppend .. | .spoolFinish _
  | .createMessage _ | .lookup .. => true
  | _ => false

namespace Reports

/-- What vital calls report, and nothing of the others. -/
def vital (r : Reports) : Reports := fun n call => if call.isVital then r n call else none

end Reports

namespace Endpoint

variable (e : Endpoint) (d : DeliveryId)

/-- The id of the large message that is coming in, or would be started. -/
def messageId : LargeMessageId := (e.slot.map (·.id)).getD (e.blank d).id

/-- The large message that is coming in has a gap, and there is no more to come. -/
def closesGap : Bool :=
  !(e.link.delivery d).isAborted && !(e.link.delivery d).isPartial && e.slot.any (·.incomplete)

/-- Why an event fails that makes these calls: the first of them that fails and is vital, or a
gap. -/
def reason? (made : List Call) : Option ReassemblyError :=
  match e.reports.vital.broken? e.calls.length made with
  | some (call, cause) => some (call.error (e.messageId d) cause)
  | none => if e.closesGap d then some (.incomplete (e.messageId d)) else none

end Endpoint

/-- Why the event fails. -/
def Turnout.error? (t : Turnout) : Option ReassemblyError :=
  match t.result with
  | .error error => some error
  | .ok _ => none

namespace Reports

variable {r : Reports} {n : Nat} {calls rest : List Call}

theorem broken?_made (r : Reports) : ∀ (n : Nat) (calls : List Call),
    r.broken? n (r.made n calls) = r.broken? n calls
  | _, [] => rfl
  | n, call :: calls => by
    rcases hr : r n call with _ | cause
    · rw [made_of_none hr, broken?_of_none hr, broken?_of_none hr, broken?_made r]
    · rw [made_of_some hr, broken?_of_some hr, broken?_of_some hr]

/-- It makes no difference whether calls are vital that cannot fail. -/
theorem vital_broken? : ∀ {calls : List Call} {n : Nat},
    (∀ call ∈ calls, call.isVital ∨ ∀ m, r m call = none) →
      r.vital.broken? n calls = r.broken? n calls
  | [], _, _ => rfl
  | call :: calls, n, h => by
    obtain ⟨hcall, hrest⟩ := List.forall_mem_cons.1 h
    have hvital : r.vital n call = r n call := by
      rcases hcall with hcall | hcall
      · exact if_pos hcall
      · rw [vital, hcall, ite_self]
    simp only [broken?, hvital, vital_broken? hrest]

theorem vital_append (h : ∀ call ∈ rest, call.isVital = false) :
    r.vital.broken? n (calls ++ rest) = r.vital.broken? n calls := by
  rcases hb : r.vital.broken? n calls with _ | ⟨call, cause⟩
  · rw [broken?_append_of_none _ hb]
    exact broken?_eq_none fun call hcall m _ => if_neg (by simp [h call hcall])
  · exact broken?_append_of_some _ hb

/-- A call fails of a list in which each is made exactly if one of them has something to report. -/
theorem broken?_isSome_iff : ∀ {calls : List Call} {n : Nat},
    (r.broken? n calls).isSome ↔ ∃ i call, calls[i]? = some call ∧ (r (n + i) call).isSome
  | [], _ => by simp [broken?]
  | call :: calls, n => by
    rcases hr : r n call with _ | cause
    · rw [broken?_of_none hr, broken?_isSome_iff]
      constructor
      · rintro ⟨i, c, hc, hs⟩
        exact ⟨i + 1, c, hc, by rwa [Nat.add_comm i, ← Nat.add_assoc]⟩
      · rintro ⟨_ | i, c, hc, hs⟩
        · cases hc
          simp [hr] at hs
        · exact ⟨i, c, hc, by rwa [Nat.add_assoc, Nat.add_comm 1]⟩
    · rw [broken?_of_some hr]
      exact iff_of_true rfl ⟨0, call, rfl, by simp [hr]⟩

end Reports

section Turnouts

variable {e : Endpoint} {d : DeliveryId} {a : Accumulator}

theorem vital_or_sure {call : Call} (h : call.isVital ∨ call.canFail = false) :
    call.isVital ∨ ∀ n, e.reports n call = none :=
  h.imp_right fun hf n => if_neg (by simp [hf])

theorem writes_vital (a : Accumulator) (bytes : Bytes) :
    ∀ call ∈ a.writes bytes, call.isVital ∨ call.canFail = false := by
  unfold Accumulator.writes
  split
  · simp
  · simp [Call.isVital]

theorem sealing_vital (a : Accumulator) (bytes : Bytes) :
    ∀ call ∈ a.sealing bytes, call.isVital ∨ call.canFail = false := by
  refine List.forall_mem_append.2 ⟨List.forall_mem_cons.2 ⟨.inr rfl, writes_vital a bytes⟩, ?_⟩
  split <;> simp [Call.isVital]

theorem opening_vital (e : Endpoint) (d : DeliveryId) :
    ∀ call ∈ e.opening d, call.isVital ∨ call.canFail = false := by
  refine List.forall_mem_append.2 ⟨?_, writes_vital _ _⟩
  simp [Call.isVital, Call.canFail]

theorem vital_opening (e : Endpoint) (d : DeliveryId) :
    e.reports.vital.broken? e.calls.length (e.opening d) =
      e.reports.broken? e.calls.length (e.opening d) :=
  Reports.vital_broken? fun call hcall => vital_or_sure (opening_vital e d call hcall)

/-- Behind the calls that seal a large message come the link's and one that cleans up. -/
theorem vital_sealed (e : Endpoint) (n : Nat) (a : Accumulator) (l : Link) :
    e.reports.vital.broken? n (e.reports.sealed n a l).calls =
      e.reports.broken? n (a.sealing l.buffer) := by
  rw [← e.reports.broken?_made]
  refine (Reports.vital_append (List.forall_mem_cons.2 ⟨rfl, ?_⟩)).trans
    (Reports.vital_broken? fun call hcall =>
      vital_or_sure (sealing_vital _ _ _ (Reports.mem_of_made hcall)))
  split <;> simp [Call.isVital]

theorem sealed_error? (r : Reports) (n : Nat) (a : Accumulator) (l : Link) :
    (r.sealed n a l).error? = r.sealError? n a l.buffer := by
  unfold Turnout.error? Reports.sealed
  rcases r.sealError? n a l.buffer with _ | error <;> rfl

theorem closesGap_of_none (hs : e.slot = none) : e.closesGap d = false := by
  simp [Endpoint.closesGap, hs]

theorem reason?_of_none {made : List Call}
    (hb : e.reports.vital.broken? e.calls.length made = none) (hgap : e.closesGap d = false) :
    e.reason? d made = none := by
  simp [Endpoint.reason?, hb, hgap]

/-- What is left of a large message that is complete is the reason for which it is not sealed. -/
theorem sealed_reason (hs : e.slot = some a) (hg : (e.link.delivery d).isAborted = false)
    (hp : (e.link.delivery d).isPartial = false) :
    let t := e.reports.sealed e.calls.length a e.link
    e.reason? d t.calls = t.error? := by
  intro t
  have hid : e.messageId d = a.id := by simp [Endpoint.messageId, hs]
  have hgap : e.closesGap d = a.incomplete := by simp [Endpoint.closesGap, hs, hg, hp]
  rw [sealed_error?, Endpoint.reason?, vital_sealed, hid, hgap]
  rfl

/-- A large message that is started by the event that completes it has no gap. -/
theorem behind_reason (hs : e.slot = none)
    (hb : e.reports.broken? e.calls.length (e.opening d) = none) :
    let t := e.reports.sealed (e.calls.length + (e.opening d).length)
      ((e.blank d).grown e.link.buffer) e.link.drained
    e.reason? d (t.behind (e.opening d)).calls = t.error? := by
  intro t
  have hid : e.messageId d = (e.blank d).id := by simp [Endpoint.messageId, hs]
  have hopened : e.reports.vital.broken? e.calls.length (e.opening d) = none :=
    (vital_opening e d).trans hb
  rw [sealed_error?, Endpoint.reason?, Turnout.behind, Reports.broken?_append_of_none _ hopened,
    vital_sealed, hid, closesGap_of_none hs]
  rfl

theorem unstarted_reason (hs : e.slot = none) {call : Call} {cause : Failure}
    (hb : e.reports.broken? e.calls.length (e.opening d) = some (call, cause)) :
    e.reason? d (e.unstarted d call cause).calls = (e.unstarted d call cause).error? := by
  have hid : e.messageId d = (e.blank d).id := by simp [Endpoint.messageId, hs]
  have hbroken : e.reports.vital.broken? e.calls.length (e.unstarted d call cause).calls =
      some (call, cause) := by
    refine (Reports.vital_append (by split <;> simp [Call.isVital])).trans ?_
    rw [Reports.vital_broken? fun call hcall =>
      vital_or_sure (opening_vital e d call (Reports.mem_of_made hcall)), Reports.broken?_made, hb]
  rw [Endpoint.reason?, hbroken, hid]
  rfl

theorem small_reason (hs : e.slot = none) :
    let t := e.reports.small e.calls.length e.link d
    e.reason? d t.calls = t.error? := by
  intro t
  have hbroken : e.reports.vital.broken? e.calls.length t.calls =
      e.reports.broken? (e.calls.length + 2) [.createMessage e.link.buffer] := rfl
  rw [Endpoint.reason?, hbroken, closesGap_of_none hs]
  rcases hr : e.reports (e.calls.length + 2) (.createMessage e.link.buffer) with _ | cause
  · rw [Reports.broken?_of_none hr]
    simp [t, Turnout.error?, Reports.small, hr, Reports.broken?]
  · rw [Reports.broken?_of_some hr]
    simp [t, Turnout.error?, Reports.small, hr, Call.error]

theorem received_reason (hs : e.slot = some a) (hp : (e.link.delivery d).isPartial) :
    let t := e.reports.received e.calls.length a e.link
    e.reason? d t.calls = t.error? := by
  intro t
  have hid : e.messageId d = a.id := by simp [Endpoint.messageId, hs]
  have hgap : e.closesGap d = false := by simp [Endpoint.closesGap, hp]
  have hbroken : e.reports.vital.broken? e.calls.length t.calls =
      e.reports.broken? (e.calls.length + 1) (a.writes e.link.buffer) :=
    (Reports.broken?_of_none rfl).trans
      (Reports.vital_broken? fun call hcall => vital_or_sure (writes_vital _ _ call hcall))
  rw [Endpoint.reason?, hbroken, hid, hgap]
  rcases hi : a.incomplete with _ | _
  · rcases Reports.written_or (r := e.reports) (n := e.calls.length + 1) hi e.link.buffer with
      ⟨hnone, hw⟩ | ⟨cause, hsome, hw⟩
    · rw [hnone]
      simp [t, Turnout.error?, Reports.received, hw, Except.map]
    · rw [hsome]
      simp [t, Turnout.error?, Reports.received, hw, Except.map, Call.error]
  · rw [writes_gap hi]
    simp [t, Turnout.error?, Reports.received, Reports.written_gap hi, Except.map, Reports.broken?]

/-- A turnout fails for the reason that its calls give. -/
theorem turnout_reason (e : Endpoint) (d : DeliveryId) :
    let t := e.turnout .receiver d
    e.reason? d t.calls = t.error? := by
  intro t
  rcases hg : (e.link.delivery d).isAborted with _ | _
  swap
  · rw [show t = _ from turnout_givenUp hg]
    refine reason?_of_none (Reports.broken?_eq_none fun call hcall m _ => if_neg ?_)
      (by simp [Endpoint.closesGap, hg])
    rcases List.mem_append.1 hcall with hcall | hcall
    · obtain ⟨a, -, rfl⟩ := Option.map_eq_some_iff.1 (Option.mem_toList.1 hcall)
      exact nofun
    · obtain rfl := List.mem_singleton.1 hcall
      exact nofun
  rcases hs : e.slot with _ | a
  · by_cases hdue : e.isDue .receiver d
    · rcases hb : e.reports.broken? e.calls.length (e.opening d) with _ | ⟨call, cause⟩
      · rcases hp : (e.link.delivery d).isPartial with _ | _
        · rw [show t = _ from turnout_behind hg hs hp hdue hb]
          exact behind_reason hs hb
        · rw [show t = _ from turnout_started hg hs hp hdue hb]
          exact reason?_of_none ((vital_opening e d).trans hb) (closesGap_of_none hs)
      · rw [show t = _ from turnout_unstarted hg hs hdue hb]
        exact unstarted_reason hs hb
    · rcases hp : (e.link.delivery d).isPartial with _ | _
      · rw [show t = _ from turnout_small hg hs hp (by simpa using hdue)]
        exact small_reason hs
      · rw [show t = _ from turnout_quiet hg hs hp (by simpa using hdue)]
        exact reason?_of_none rfl (closesGap_of_none hs)
  · rcases hp : (e.link.delivery d).isPartial with _ | _
    · rw [show t = _ from turnout_sealed hg hp hs]
      exact sealed_reason hs hg hp
    · rw [show t = _ from turnout_received hg hp hs]
      exact received_reason hs hp

end Turnouts

/-- The reply to an event that fails for the reason given, or does not fail. -/
def Receiver.reply : Option ReassemblyError → Except ReceiverError Unit
  | none => .ok ()
  | some reason => .error (.internal reason.failure)

/-- The reply is what the calls made since `e` give reason for. -/
def Endpoint.Justifies (e : Endpoint) (d : DeliveryId) (reply : Except ReceiverError Unit)
    (e' : Endpoint) : Prop :=
  ∃ made, e'.calls = e.calls ++ made ∧ reply = Receiver.reply (e.reason? d made)

section Behind

variable {e e' : Endpoint} {d : DeliveryId} {made rest : List Call}

theorem reason?_eq_none : e.reason? d made = none ↔
    e.reports.vital.broken? e.calls.length made = none ∧ e.closesGap d = false := by
  unfold Endpoint.reason?
  rcases e.reports.vital.broken? e.calls.length made with _ | ⟨call, cause⟩ <;> simp

/-- Calls that are not vital give no reason. -/
theorem reason?_append (h : ∀ call ∈ rest, call.isVital = false) :
    e.reason? d (made ++ rest) = e.reason? d made := by
  rw [Endpoint.reason?, Reports.vital_append h]
  rfl

theorem grants_unvital {call : Call} (h : call.grants ∨ call.settles) : call.isVital = false := by
  rcases h with h | h <;> cases call <;> first | rfl | exact nomatch h

/-- The look-up of a transaction is the reason if it fails. -/
theorem reason?_lookups (h : e.reason? d made = none) :
    e.reason? d (made ++ e.lookups d) =
      (e.reports.broken? (e.calls.length + made.length) (e.lookups d)).map (.transaction ·.2) := by
  obtain ⟨hnone, hgap⟩ := reason?_eq_none.1 h
  have hvital : ∀ call ∈ e.lookups d, call.isVital ∧ ∀ id cause,
      call.error id cause = .transaction cause := by
    intro call hcall
    obtain ⟨txn, -, rfl⟩ := List.mem_map.1 hcall
    exact ⟨rfl, fun _ _ => rfl⟩
  have hbroken := Reports.vital_broken? (r := e.reports) (n := e.calls.length + made.length)
    fun call hcall => .inl (hvital call hcall).1
  rw [Endpoint.reason?, Reports.broken?_append_of_none _ hnone, hbroken, hgap]
  rcases hb : e.reports.broken? (e.calls.length + made.length) (e.lookups d) with _ | ⟨call, cause⟩
  · rfl
  · exact congrArg some ((hvital call (Reports.mem_of_broken hb)).2 _ _)

/-- Passing a message on fails only if something panics. -/
theorem handOff_fails (e : Endpoint) (m : Message) (d : DeliveryId) (transaction : Option TxnId) :
    (Receiver.handOff m d transaction).Ends e (fun _ _ => True)
      (fun error _ => ∃ k, error = .ofPanic k) fun _ _ => True := by
  have hdone {act : Act Panic Endpoint Unit} {e : Endpoint} :
      act.Ends e (fun _ _ => True) fun _ _ => True :=
    Act.ends_always (fun _ _ => trivial) fun _ _ => trivial
  refine Attempt.ends_bind.2 (Attempt.ends_lift.2 (hdone.imp (fun _ e₁ _ => ?_) fun _ _ => id))
  refine Attempt.ends_bind.2 (Attempt.ends_get.2 (Attempt.ends_bind.2 (Attempt.ends_lift.2
    (Act.ends_contain.2 (Act.ends_always (fun r e₂ => ?_) fun k e₂ => ?_)))))
  · rcases r with error | _
    · exact Attempt.ends_bind.2 (Attempt.ends_lift.2 (Act.ends_modify.2
        (Attempt.ends_lift.2 hdone)))
    · exact Attempt.ends_lift.2 hdone
  · exact Attempt.ends_bind.2 (Attempt.ends_lift.2 (hdone.imp (fun _ _ _ => ⟨k, rfl⟩)
      fun _ _ => id))

/-- However an event for the delivery at the head ends, it fails for the reason that its calls give,
or something panicked. -/
theorem process_justified (hl : e.slot.isSome → e.isPersistent) (hon : e.isOnHandler)
    (d : DeliveryId) :
    (Receiver.process d).Ends e (fun _ => e.Justifies d (.ok ()))
      (fun error e' => (∃ k, error = .ofPanic k) ∨ e.Justifies d (.error error) e')
      fun _ _ => True := by
  let t := e.turnout .receiver d
  have hreason : e.reason? d t.calls = t.error? := turnout_reason e d
  have hcomes := (accept_comes hl d).and (sameTerms_frame.accept_within .receiver d e)
  refine Attempt.ends_bind.2 (Attempt.ends_adapt.2 (hcomes.imp (fun r e₁ h₁ => ?_)
    (fun error e₁ h₁ => ?_) fun _ _ _ => trivial))
  swap
  · obtain ⟨⟨hr, hm⟩, -⟩ := h₁
    have herror : t.error? = some error := by
      rw [Turnout.error?, show t.result = _ from hr]
    exact .inr ⟨t.calls, hm.calls, by rw [hreason, herror]; rfl⟩
  obtain ⟨⟨hr, hm⟩, hterms⟩ := h₁
  have hnone : e.reason? d t.calls = none := by
    rw [hreason, Turnout.error?, show t.result = _ from hr]
  rcases r with _ | _ | m
  · -- the delivery was given up, and is settled
    refine Attempt.ends_lift.2 ((trails_frame.onAborted_within d e₁).imp (fun _ e' h' => ?_)
      fun _ _ _ => trivial)
    obtain ⟨rest, hcalls, hrest⟩ := h'
    refine ⟨t.calls ++ rest, by rw [hcalls, hm.calls, List.append_assoc], ?_⟩
    rw [reason?_append fun call hcall => grants_unvital (hrest call hcall), hnone]
    rfl
  · exact ⟨t.calls, hm.calls, by rw [hnone]; rfl⟩
  have hlookups := reason?_lookups hnone
  refine Attempt.ends_bind.2 (Attempt.ends_adapt.2 ((hm.resolve_ends hterms d).imp
    (fun transaction e₂ h₂ => ?_) (fun error e₂ h₂ => ?_) fun _ _ _ => trivial))
  swap
  · obtain ⟨⟨call, cause, rfl, hsome⟩, hcalls⟩ := h₂
    refine .inr ⟨t.calls ++ e.lookups d, hcalls, ?_⟩
    rw [hlookups, hsome]
    rfl
  obtain ⟨hfound, -, he₂⟩ := h₂
  have hcalls₂ : e₂.calls = e.calls ++ (t.calls ++ e.lookups d) := by rw [he₂]
  have hon₂ : e₂.isOnHandler := by
    rw [he₂, Endpoint.isOnHandler, hterms.handler, hterms.onHandler]
    exact hon
  have hjustified {e' : Endpoint} {call : Call} (hcall : call.isVital = false)
      (h' : Trails (e₂.calls ++ if 0 ≤ e₂.pending.receiver then [call] else []) e') :
      e.Justifies d (.ok ()) e' := by
    obtain ⟨rest, hcalls, hrest⟩ := h'
    refine ⟨t.calls ++ e.lookups d ++
      ((if 0 ≤ e₂.pending.receiver then [call] else []) ++ rest), ?_, ?_⟩
    · rw [hcalls, hcalls₂]
      simp only [List.append_assoc]
    · have hunvital : ∀ c ∈ (if 0 ≤ e₂.pending.receiver then [call] else []) ++ rest,
          c.isVital = false := by
        refine List.forall_mem_append.2 ⟨?_, fun c hc => grants_unvital (hrest c hc)⟩
        split <;> simp [hcall]
      rw [reason?_append hunvital, hlookups, hfound]
      rfl
  exact ((handOff_trails hon₂ m d transaction).and (handOff_fails e₂ m d transaction)).imp
    (fun _ _ h' => hjustified rfl h'.1) (fun _ _ h' => .inl h'.2) fun _ _ _ => trivial

end Behind

/-- Routing does not panic, and if it refuses the handoff, its delivery is counted still. -/
def Endpoint.Counted (handoff : Handoff) (e : Endpoint) : Prop :=
  (Sink.deliver handoff).Ends e (fun _ _ => True) (fun _ e' => 0 < e'.pending.get .receiver)
    fun _ _ => False

instance (handoff : Handoff) (e : Endpoint) : Decidable (e.Counted handoff) :=
  inferInstanceAs (Decidable (Attempt.Ends ..))

/-- A message is to be passed on while the count of unsettled deliveries is below zero. -/
def Endpoint.Overdrawn (e : Endpoint) (d : DeliveryId) : Prop :=
  e.pending.get .receiver < 0 ∧ ∃ handoff, .deliver handoff ∈ e.script d

section Counting

variable {e : Endpoint} {d : DeliveryId}

theorem internal_ne_ofPanic (f : Failure) (k : Panic) :
    ReceiverError.internal f ≠ .ofPanic k := fun h => nomatch congrArg ReceiverError.cause h

section Offering

variable (h : e.Responsive .receiver) (hs : e.Spared settlementPoints)
  (hl : e.slot.isSome → e.isPersistent)

include h hs hl

/-- A message is offered, or there is a reason for which it is not. That panics exactly if there is
a message and the count is below zero. -/
theorem offer_counts :
    (Receiver.offer d).Ends e.entered (fun _ _ => ¬ e.Overdrawn d)
      (fun error _ => ¬ e.Overdrawn d ∧ ∀ k, error ≠ .ofPanic k) fun _ _ => e.Overdrawn d := by
  let t := e.turnout .receiver d
  have hentered : e.entered.Responsive .receiver :=
    ⟨⟨h.plan, h.appends⟩, h.table, h.sound, h.unfinished⟩
  have hcomes := (accept_comes (e := e.entered) hl d).and
    ((sameTerms_frame.accept_within .receiver d e.entered).and
      ((sameFooting_assembly.accept_within .receiver d e.entered).and
        (sameSetting_frame.accept_within .receiver d e.entered)))
  -- neither reassembly nor the look-up of a transaction passes anything on
  have hquiet {calls : List Call} (hscript : e.script d = calls)
      (hcalls : ∀ call ∈ calls, call.handoff? = none) : ¬ e.Overdrawn d := by
    rintro ⟨-, handoff, hmem⟩
    have hnone := hcalls _ (hscript ▸ hmem)
    cases hnone
  refine Attempt.ends_bind.2 (Attempt.ends_adapt.2 (hcomes.imp (fun r e₁ h₁ => ?_)
    (fun error e₁ h₁ => ?_) fun _ _ h₁ => (h₁.1 hentered).elim))
  swap
  · obtain ⟨⟨hr, hm⟩, -, -, hs₁⟩ := h₁
    have hr : t.result = .error error := hr
    have hscript : e.script d = t.calls := Endpoint.script_of_forms_none (by simp [t, hr])
    exact ⟨hquiet hscript (handoff?_of_handoffs hm.calls hs₁.handoffs), internal_ne_ofPanic _⟩
  obtain ⟨⟨hr, hm⟩, hterms, hfooting, hs₁⟩ := h₁
  have hr : t.result = .ok r := hr
  have hreassembled : ∀ call ∈ t.calls, call.handoff? = none :=
    handoff?_of_handoffs hm.calls hs₁.handoffs
  rcases r with _ | _ | m
  · have hnone : ¬ e.Overdrawn d :=
      hquiet (Endpoint.script_of_forms_none (by simp [t, hr])) hreassembled
    have hspared : e₁.Spared settlementPoints := hfooting.spared (by exact hs)
    exact Attempt.ends_bind.2 (Attempt.ends_lift.2 (hspared.onAborted_ends.imp
      (fun _ _ _ => hnone) fun _ _ => False.elim))
  · exact hquiet (Endpoint.script_of_forms_none (by simp [t, hr])) hreassembled
  have hscript : e.script d = t.calls ++ e.passing (e.calls.length + t.calls.length) d m :=
    Endpoint.script_of_forms hr
  refine Attempt.ends_bind.2 (Attempt.ends_adapt.2 ((hm.resolve_ends hterms d).imp
    (fun transaction e₂ h₂ => ?_) (fun error e₂ h₂ => ?_)
    fun _ _ hn => (hn hentered.toAnswering).elim))
  swap
  · obtain ⟨⟨call, cause, -, hsome⟩, -⟩ := h₂
    have hlookups : e.script d = t.calls ++ e.lookups d :=
      hscript.trans (congrArg (t.calls ++ ·) (Endpoint.passing_of_some hsome))
    exact ⟨hquiet hlookups (List.forall_mem_append.2 ⟨hreassembled, e.handoff?_lookups d⟩),
      internal_ne_ofPanic _⟩
  obtain ⟨hnone, -, he₂⟩ := h₂
  have hon : e₂.isOnHandler := by
    rw [he₂]
    exact hfooting.isOnHandler (isOnHandler_enter e)
  have hpending : e₂.pending = e.pending := by
    rw [he₂]
    exact hterms.pending
  by_cases hcount : e.pending.receiver < 0
  · have hpassing : e.passing (e.calls.length + t.calls.length) d m =
        e.lookups d ++ [.deliver (e.handoff d m)] := Endpoint.passing_of_none hnone
    have hdelivers : .deliver (e.handoff d m) ∈ e.script d := by
      rw [hscript, hpassing]
      simp
    exact Attempt.ends_bind.2 (Attempt.ends_lift.2 ((increment_panics (by rwa [hpending])).imp
      (fun _ _ => False.elim) fun _ _ _ => ⟨hcount, _, hdelivers⟩))
  · have hpos : 0 ≤ e₂.pending.receiver := by rwa [hpending, ← Int.not_lt]
    exact Attempt.ends_bind.2 (Attempt.ends_lift.2 ((increment_ends hon hpos).imp
      (fun _ _ _ hover => hcount hover.1) fun _ _ => False.elim))

/-- A message that cannot be counted is not passed on, and there is a panic. -/
theorem process_overdrawn (hover : e.Overdrawn d) :
    (Receiver.process d).Ends e.entered (fun _ _ => False)
      (fun error _ => ∃ k, error = .ofPanic k) fun _ _ => True := by
  rw [Receiver.process_eq]
  exact Attempt.ends_bind.2 ((offer_counts h hs hl).imp (fun _ _ hn => absurd hover hn)
    (fun _ _ hn => absurd hover hn.1) fun _ _ _ => trivial)

/-- Where the message is counted, the answer is no panic's. -/
theorem process_counted (hover : ¬ e.Overdrawn d) (hoffer : (Receiver.offer d).Ends e.entered
      (fun offered e' => ∀ handoff ∈ offered, e'.Counted handoff) (fun _ _ => True)
      fun _ _ => True) :
    (Receiver.process d).Ends e.entered (fun _ _ => True) (fun error _ => ∀ k, error ≠ .ofPanic k)
      fun _ _ => False := by
  rw [Receiver.process_eq]
  have hoffered := (offer_counts h hs hl (d := d)).and ((offer_footing d e.entered).and hoffer)
  refine Attempt.ends_bind.2 (hoffered.imp (fun offered e₁ h₁ => ?_) (fun _ _ h₁ => h₁.1.2)
    fun _ _ h₁ => hover h₁.1)
  obtain ⟨-, hfooting, hrouted⟩ := h₁
  rcases offered with _ | handoff
  · trivial
  have hdeliver := (hrouted handoff rfl).and (deliver_footing handoff e₁)
  refine Attempt.ends_bind.2 (Attempt.ends_get.2 (Attempt.ends_bind.2 (Attempt.ends_lift.2
    (Act.ends_contain.2 (Act.ends_run.2 (hdeliver.imp (fun _ _ _ => trivial)
      (fun error e₂ h₂ => ?_) fun _ _ h₂ => h₂.1.elim))))))
  obtain ⟨hcounted, hrouting⟩ := h₂
  have hfooting₂ : SameFooting e.entered e₂ := hfooting.trans hrouting
  have hspared : e₂.Spared settlementPoints := hfooting₂.spared (by exact hs)
  have hon : e₂.isOnHandler := hfooting₂.isOnHandler (isOnHandler_enter e)
  let told : Endpoint := { e₂ with
    notices := e₂.notices ++ [.routingFailed e₁.link.name handoff.delivery error] }
  have hsettle := Endpoint.Spared.settle_ends (e := told) (d := handoff.delivery) hspared hon
    hcounted (some (Receiver.failureOutcome e₁.config error))
  exact Attempt.ends_bind.2 (Attempt.ends_lift.2 (Act.ends_modify.2 (Attempt.ends_lift.2
    (settleFailed_performs (P := fun _ => True) id (hsettle.imp (fun _ _ _ => trivial)
      fun _ _ => id)))))

end Offering

/-- Nothing is settled that is not counted. -/
theorem settleFailed_panics (h : e.pending.receiver ≤ 0) (outcome : Outcome) :
    (Receiver.settleFailed d outcome).Ends e (fun _ _ => False) fun _ _ => True := by
  refine Act.ends_bind.2 ((disposition_stays e d outcome).imp ?_ fun _ _ _ => trivial)
  rintro _ e₁ rfl
  have hsettle : (settleOnHandler d).Ends
      { e.noting (.disposition d outcome) with link := e.link.dispose d outcome }
      (fun _ _ => False) fun _ _ => True :=
    settleOnHandler_steps (fun _ => trivial) (fun _ => trivial) (fun _ _ => trivial)
      fun _ hpos => absurd h (Int.not_le.2 hpos)
  exact Act.ends_bind.2 (hsettle.imp (fun _ _ => False.elim) fun _ _ => id)

/-- Where the delivery is not counted any more when routing refuses its message, the answer is a
panic's. -/
theorem passOn_uncounted {handoff : Handoff} (h : ¬ e.Counted handoff) :
    (Receiver.passOn handoff).Ends e (fun _ _ => False)
      (fun error _ => ∃ k, error = .ofPanic k) fun _ _ => True := by
  refine Attempt.ends_bind.2 (Attempt.ends_get.2 (Attempt.ends_bind.2 (Attempt.ends_lift.2
    (Act.ends_contain.2 (Act.ends_run.2 ((Attempt.ends_of_not h).imp (fun _ e₁ h₁ => ?_)
      (fun error e₁ h₁ => ?_) fun k e₁ _ => ?_))))))
  · exact absurd trivial h₁
  · refine Attempt.ends_bind.2 (Attempt.ends_lift.2 (Act.ends_modify.2 ?_))
    exact Attempt.ends_lift.2 ((settleFailed_panics (by exact Int.not_lt.1 h₁) _).imp
      (fun _ _ => False.elim) fun _ _ => id)
  · exact Attempt.ends_bind.2 (Attempt.ends_lift.2 (Act.ends_always (fun _ _ => ⟨k, rfl⟩)
      fun _ _ => trivial))

/-- Where the message is not counted, the answer is a panic's. -/
theorem process_uncounted (hoffer : ¬ (Receiver.offer d).Ends e.entered
      (fun offered e' => ∀ handoff ∈ offered, e'.Counted handoff) (fun _ _ => True)
      fun _ _ => True) :
    (Receiver.process d).Ends e.entered (fun _ _ => False)
      (fun error _ => ∃ k, error = .ofPanic k) fun _ _ => True :=
  Receiver.process_of_not_offer hoffer fun _ _ => passOn_uncounted

end Counting

/-- The reply is an error exactly if one of the calls made failed that turn transfers into a
message, or if the message is complete and had a gap before. The error names the first of these
calls, or else the gap. What the call reported is passed on as it was, and the peer may be told
why. -/
structure Endpoint.Explained (e : Endpoint) (d : DeliveryId) (made : List Call)
    (reply : Except ReceiverError Unit) : Prop where
  fails : reply ≠ .ok () ↔ (∃ i call, made[i]? = some call ∧ call.isVital ∧
    (e.reports (e.calls.length + i) call).isSome) ∨ e.closesGap d
  names : ∀ error, reply = .error error → ∃ reason, e.reason? d made = some reason ∧
    error.reason = reason.message ∧
    error.sources = reason.message :: (reason.cause.map Failure.chain).getD [] ∧
    error.condition = ⟨"amqp:internal-error", some reason.message⟩

section Fails

variable {e₀ : Endpoint} {d : DeliveryId}

theorem reply_ne_ok_iff {reason : Option ReassemblyError} :
    Receiver.reply reason ≠ .ok () ↔ reason.isSome := by
  cases reason <;> simp [Receiver.reply]

/-- There is a reason exactly if a vital call of the list fails or a message with a gap is
completed. -/
theorem reason?_isSome_iff {e : Endpoint} {made : List Call} :
    (e.reason? d made).isSome ↔
      (∃ i call, made[i]? = some call ∧ call.isVital ∧
        (e.reports (e.calls.length + i) call).isSome) ∨ e.closesGap d := by
  have hbroken : (e.reports.vital.broken? e.calls.length made).isSome ↔ ∃ i call,
      made[i]? = some call ∧ call.isVital ∧ (e.reports (e.calls.length + i) call).isSome := by
    rw [Reports.broken?_isSome_iff]
    refine exists_congr fun i => exists_congr fun call => and_congr_right fun _ => ?_
    unfold Reports.vital
    split <;> simp [*]
  rw [← hbroken, Endpoint.reason?]
  rcases e.reports.vital.broken? e.calls.length made with _ | ⟨call, cause⟩ <;> simp

theorem Endpoint.Justifies.explained {e e' : Endpoint} {reply : Except ReceiverError Unit}
    (h : e.Justifies d reply e') : e.Explained d (e'.calls.drop e.calls.length) reply := by
  obtain ⟨made, hmade, rfl⟩ := h
  rw [hmade, List.drop_left]
  refine ⟨reply_ne_ok_iff.trans reason?_isSome_iff, fun error herror => ?_⟩
  rcases hr : e.reason? d made with _ | reason <;> rw [hr] at herror
  · cases herror
  · cases herror
    exact ⟨reason, rfl, rfl, rfl, rfl⟩

/-- What is said of a panic names no call. -/
theorem not_explained_ofPanic {e : Endpoint} {made : List Call} {k : Panic} :
    ¬ e.Explained d made (.error (.ofPanic k)) := fun h => by
  obtain ⟨reason, -, -, hsources, -⟩ := h.names _ rfl
  exact List.cons_ne_nil _ _ hsources.symm

/-- If neither the calls to come nor storage panics, the reply to an event for the delivery at the
head of an open receiver is explained by the calls of the event exactly if its message, should there
be one, is counted while it is passed on: the count of unsettled deliveries is not below zero, and
routing does not settle so much inline that it panics, or that nothing is counted when it refuses
the message. Otherwise the reply is the error of a panic. -/
theorem message_fails_iff (h : e₀.Fresh) (run : List Event) :
    let e := e₀.afterAll run
    let e' := e.after (.message d)
    let made := e'.calls.drop e.calls.length
    e.lifecycle = .opened → e.link.current = some d →
    e.Responsive .receiver → e.Spared settlementPoints →
    ∃ reply, (Event.message d).perform e = (.ok reply, e') ∧
      (e.Explained d made reply ↔
        ¬ e.Overdrawn d ∧ e.OnOffer Endpoint.Counted (.message d)) ∧
      (e.Explained d made reply ∨ ∃ k, reply = .error (.ofPanic k)) := by
  intro e e' made ho hd hresponsive hspared
  have hl : e.slot.isSome → e.isPersistent := (h.poised.afterAll run h.inLine).lodged
  let Counts := ¬ e.Overdrawn d ∧ e.OnOffer Endpoint.Counted (.message d)
  let Q (reply : Except ReceiverError Unit) (e' : Endpoint) : Prop :=
    Counts ∧ e.Justifies d reply e' ∨ ¬ Counts ∧ ∃ k, reply = .error (.ofPanic k)
  have hanswers : (Event.message d).perform.Ends e Q fun _ _ => False := by
    refine message_answers (fun _ h' => h') (fun hn => absurd ⟨ho, hd⟩ hn) fun _ _ => ?_
    by_cases hcounts : Counts
    · have hjustified := process_justified (e := e.entered) hl (isOnHandler_enter e) d
      have hcounted := process_counted hresponsive hspared hl hcounts.1 (hcounts.2 ho hd)
      refine (hjustified.and hcounted).imp (fun _ _ h₁ => .inl ⟨hcounts, h₁.1⟩)
        (fun _ _ h₁ => .inl ⟨hcounts, ?_⟩) fun _ _ h₁ => h₁.2.elim
      exact h₁.1.resolve_left fun ⟨k, hk⟩ => h₁.2 k hk
    · have hpanics : (Receiver.process d).Ends e.entered (fun _ _ => False)
          (fun error _ => ∃ k, error = .ofPanic k) fun _ _ => True := by
        by_cases hover : e.Overdrawn d
        · exact process_overdrawn hresponsive hspared hl hover
        · exact process_uncounted fun hn => hcounts ⟨hover, fun _ _ => hn⟩
      exact hpanics.imp (fun _ _ => False.elim)
        (fun _ _ ⟨k, hk⟩ => .inr ⟨hcounts, k, congrArg _ hk⟩) fun k _ _ => .inr ⟨hcounts, k, rfl⟩
  obtain ⟨reply, e'', hperform, hreply⟩ := hanswers.answers
  obtain rfl : e' = e'' := congrArg Prod.snd hperform
  refine ⟨reply, hperform, ?_⟩
  rcases hreply with ⟨hcounts, hjustified⟩ | ⟨hcounts, k, rfl⟩
  · exact ⟨iff_of_true hjustified.explained hcounts, .inl hjustified.explained⟩
  · exact ⟨iff_of_false not_explained_ofPanic hcounts, .inr ⟨k, rfl⟩⟩

/-- A large message cannot be registered, and then its spool cannot be deleted. The error is about
what went wrong first. -/
theorem message_fails_iff_unregistered :
    let full : Failure := { text := "disk full", causes := ["no space left on device"] }
    let plan : Plan := fun _ point =>
      if point = .register then some (.fails full)
      else if point = .spoolDelete then some (.fails { text := "permission denied" }) else none
    let fresh : Endpoint :=
      { Endpoint.start { minLargeMessageSize := 4 } "orders" 10 ⟨1⟩ .memory none with plan }
    let e := fresh.afterAll [.begin 0 none, .transfer [1, 2, 3, 4] true]
    let e' := e.after (.message ⟨1⟩)
    let a := e.blank ⟨1⟩
    let made : List Call := [.generateId, .openSpool ⟨100⟩, .linkRecv [1, 2, 3, 4],
      .register ⟨100⟩ a, .spoolDelete a.spool]
    fresh.Fresh ∧ (e.lifecycle = .opened ∧ e.link.current = some ⟨1⟩) ∧
      (e.Responsive .receiver ∧ e.Spared settlementPoints) ∧
      (¬ e.Overdrawn ⟨1⟩ ∧ e.OnOffer Endpoint.Counted (.message ⟨1⟩)) ∧
      e'.calls.drop e.calls.length = made ∧
      e.reason? ⟨1⟩ made = some (.register ⟨100⟩ full) ∧
      ∃ error, (Event.message ⟨1⟩).perform e = (.ok (.error error), e') ∧
        error.reason = "failed to register large message 100: disk full" ∧
        error.sources = ["failed to register large message 100: disk full", "disk full",
          "no space left on device"] ∧
        error.condition = ⟨"amqp:internal-error",
          some "failed to register large message 100: disk full"⟩ := by
  intro full plan fresh e e' a made
  have hfresh : fresh.Fresh := (Endpoint.start_fresh ..).withPlan plan
  have hhead : e.lifecycle = .opened ∧ e.link.current = some ⟨1⟩ := by decide +kernel
  have hpanics (n : Nat) (point : Point) (k : Panic) : e.plan n point ≠ some (.panics k) := by
    rw [show e.plan = plan from (afterAll_samePlan _ fresh).plan]
    simp only [plan]
    split
    · nofun
    · split <;> nofun
  have hslot : e.slot = none := by decide +kernel
  have hresponsive : e.Responsive .receiver :=
    ⟨⟨fun n point _ k _ => hpanics n point k, by decide +kernel⟩, by decide +kernel,
      fun _ ha => (nomatch hslot.symm.trans ha), fun _ ha => nomatch hslot.symm.trans ha⟩
  have hspared : e.Spared settlementPoints := .of_spares fun n point _ k => hpanics n point k
  have hcounts : ¬ e.Overdrawn ⟨1⟩ ∧ e.OnOffer Endpoint.Counted (.message ⟨1⟩) := by
    have hcount : ¬ e.pending.get .receiver < 0 := by decide +kernel
    exact ⟨fun hover => hcount hover.1, by decide +kernel⟩
  have hcalls : e'.calls.drop e.calls.length = made := by decide +kernel
  have hreason : e.reason? ⟨1⟩ made = some (.register ⟨100⟩ full) := by decide +kernel
  obtain ⟨reply, hperform, hiff, -⟩ := message_fails_iff hfresh
    [.begin 0 none, .transfer [1, 2, 3, 4] true] hhead.1 hhead.2 hresponsive hspared
  have hexplained := hiff.2 hcounts
  rw [hcalls] at hexplained
  have hsome : (e.reason? ⟨1⟩ made).isSome := by rw [hreason]; rfl
  rcases reply with error | _
  swap
  · exact absurd rfl (hexplained.fails.2 (reason?_isSome_iff.1 hsome))
  obtain ⟨reason, hr, htext, hsources, hcondition⟩ := hexplained.names error rfl
  obtain rfl : .register ⟨100⟩ full = reason := Option.some.inj (hreason.symm.trans hr)
  exact ⟨hfresh, hhead, ⟨hresponsive, hspared⟩, hcounts, hcalls, hreason, error, hperform,
    htext.trans (by decide +kernel), hsources.trans (by decide +kernel),
    hcondition.trans (by decide +kernel)⟩

/-- Routing settles a delivery and then refuses it, so that nothing is counted when the receiver
settles it again. The event fails, though nothing else panics, no call fails of those that turn
transfers into a message, and there is no gap. -/
theorem fails_of_settled_refusal :
    let plan : Plan := fun n point =>
      if n = 8 ∧ point = .delivered then some (.fails { text := "queue full" }) else none
    let fresh : Endpoint := { Endpoint.start {} "orders" 10 ⟨1⟩ .memory none with plan }
    let e := fresh.afterAll [.setMode (.settleWith .accepted), .begin 0 none, .transfer [1] false]
    let made := (e.after (.message ⟨1⟩)).calls.drop e.calls.length
    (fresh.Fresh ∧ fresh.storage.Clean ∧ ∀ n point k, plan n point ≠ some (.panics k)) ∧
      (e.lifecycle = .opened ∧ e.link.current = some ⟨1⟩ ∧ e.Responsive .receiver) ∧
      (¬ ((∃ i call, made[i]? = some call ∧ call.isVital ∧
        (e.reports (e.calls.length + i) call).isSome) ∨ e.closesGap ⟨1⟩)) ∧
      ∃ error, ((Event.message ⟨1⟩).perform e).1 = .ok (.error error) ∧
        error.reason = "panic while processing delivery: settled more deliveries than were " ++
          "accepted for routing" ∧ error.sources = [] := by
  intro plan fresh e made
  have hpanics (n : Nat) (point : Point) (k : Panic) : plan n point ≠ some (.panics k) := by
    simp only [plan]
    split <;> simp
  have hplan : e.plan = plan := (afterAll_samePlan _ fresh).plan
  have hslot : e.slot = none := by decide +kernel
  have hresponsive : e.Responsive .receiver :=
    ⟨⟨fun n point _ k _ => by rw [hplan]; exact hpanics n point k, by decide +kernel⟩,
      by decide +kernel, fun _ ha => (nomatch hslot.symm.trans ha),
      fun _ ha => nomatch hslot.symm.trans ha⟩
  have hreason : e.reason? ⟨1⟩ made = none := by decide +kernel
  refine ⟨⟨(Endpoint.start_fresh ..).withPlan plan, .empty rfl rfl, hpanics⟩,
    ⟨by decide +kernel, by decide +kernel, hresponsive⟩, ?_, ?_⟩
  · rw [← reason?_isSome_iff, hreason]
    exact nofun
  · exact ⟨.ofPanic (.text "settled more deliveries than were accepted for routing"),
      by decide +kernel, by decide +kernel, rfl⟩

end Fails

end ReceivingLink
