import ReceivingLink.Proofs.Stale

/-!
# Credit granted and credit counted

Credit is granted to the sender in two ways. A review tops it up and counts what it granted; a
delivery that its sender gave up puts its unit back, and that is not counted. So over any run,
whatever goes wrong in it but the sending of a grant, what was granted is what was counted and one
unit for each delivery that was given up while its sender did not want its credit used up. The two
agree exactly if there was no such delivery: `counted_eq_granted_iff`.
-/

namespace ReceivingLink

/-- The delivery that a step of a run is an event for. -/
def Move.delivery? : Move → Option DeliveryId
  | .event (.message d) | .call (.message d) _ => some d
  | _ => none

namespace Endpoint

/-- The credit that was granted and not counted. -/
def uncounted (e : Endpoint) : Int := e.link.granted - e.counters.creditGranted

/-- In this step a delivery leaves that its sender gave up, while the sender does not want its credit
used up. The unit of credit that the delivery took is put back. -/
def Refunds (e : Endpoint) (move : Move) : Prop :=
  e.link.drain = false ∧ (move.perform e).2.counters.aborted ≠ e.counters.aborted

instance (e : Endpoint) (move : Move) : Decidable (e.Refunds move) :=
  inferInstanceAs (Decidable (_ ∧ _))

/-- The endpoint after a run. -/
def moveAll (e : Endpoint) (run : List Move) : Endpoint := (e.performAll (run.map Move.perform)).2

/-- The steps of a run that put a unit of credit back. -/
def refunds : Endpoint → List Move → Nat
  | _, [] => 0
  | e, move :: run => (if e.Refunds move then 1 else 0) + (move.perform e).2.refunds run

end Endpoint

/-- No delivery that its sender gave up has left, and what was granted was counted, if it was
sent. -/
structure Tallies (e e' : Endpoint) : Prop where
  plan : e'.plan = e.plan
  aborted : e'.counters.aborted = e.counters.aborted
  uncounted : e.plan.Spares [.flush] → e'.uncounted = e.uncounted

/-- The same, and whether the sender wants its credit used up has not changed. -/
structure Meters (e e' : Endpoint) : Prop extends Tallies e e' where
  drain : e'.link.drain = e.link.drain

/-- A delivery that its sender gave up has left, with its unit of credit put back unless the sender
wants its credit used up. -/
structure PutsBack (e e' : Endpoint) : Prop where
  plan : e'.plan = e.plan
  drain : e'.link.drain = e.link.drain
  aborted : e'.counters.aborted = e.counters.aborted + 1
  uncounted : e.plan.Spares [.flush] → e'.uncounted = e.uncounted + if e.link.drain then 0 else 1

section Step

variable {e e₁ e₂ : Endpoint}

namespace Meters

theorem aside (hplan : e₁.plan = e.plan) (hdrain : e₁.link.drain = e.link.drain)
    (hgrants : e₁.link.grants = e.link.grants)
    (hcounted : e₁.counters.creditGranted = e.counters.creditGranted)
    (haborted : e₁.counters.aborted = e.counters.aborted) : Meters e e₁ := by
  refine ⟨⟨hplan, haborted, fun _ => ?_⟩, hdrain⟩
  unfold Endpoint.uncounted Link.granted
  rw [hgrants, hcounted]

theorem refl (e : Endpoint) : Meters e e := ⟨⟨rfl, rfl, fun _ => rfl⟩, rfl⟩

theorem trans (h : Meters e e₁) (h' : Meters e₁ e₂) : Meters e e₂ where
  plan := h'.plan.trans h.plan
  drain := h'.drain.trans h.drain
  aborted := h'.aborted.trans h.aborted
  uncounted := fun hflush =>
    (h'.uncounted (by rw [h.plan]; exact hflush)).trans (h.uncounted hflush)

end Meters

namespace PutsBack

theorem before (h : PutsBack e₁ e₂) (h' : Meters e e₁) : PutsBack e e₂ where
  plan := h.plan.trans h'.plan
  drain := h.drain.trans h'.drain
  aborted := by rw [h.aborted, h'.aborted]
  uncounted := fun hflush => by
    rw [h.uncounted (by rw [h'.plan]; exact hflush), h'.uncounted hflush, h'.drain]

theorem after (h : PutsBack e e₁) (h' : Meters e₁ e₂) : PutsBack e e₂ where
  plan := h'.plan.trans h.plan
  drain := h'.drain.trans h.drain
  aborted := by rw [h'.aborted, h.aborted]
  uncounted := fun hflush => by
    rw [h'.uncounted (by rw [h.plan]; exact hflush), h.uncounted hflush]

end PutsBack

theorem meters_assembly : AssemblyFrame Meters fun _ _ => True where
  refl := .refl
  trans := .trans
  blame := fun _ _ => trivial
  noted := fun _ => .aside rfl rfl rfl rfl rfl
  told := fun _ => .aside rfl rfl rfl rfl rfl
  planned := fun _ => trivial
  stored := fun _ _ => .aside rfl rfl rfl rfl rfl
  filed := fun _ => .aside rfl rfl rfl rfl rfl
  deleting := .aside rfl rfl rfl rfl rfl
  taking := .aside rfl rfl rfl rfl rfl
  drained := .aside rfl (by simp [Link.drained]) (by simp [Link.drained]) rfl rfl
  own := fun _ => trivial
  slotted := .aside rfl rfl rfl rfl rfl
  counted := .aside rfl rfl rfl rfl rfl
  advanced := .aside rfl (by simp) (by simp) rfl rfl

/-- A review counts what it grants, unless the sending of it panics. -/
theorem replenish_meters (owner : Option Owner) :
    (replenish owner).Within Meters fun _ _ => True := by
  intro e
  cases hon : e.isOnHandler with
  | false =>
    refine Act.ends_bind.2 (Act.ends_get.2 (Act.ends_ite.2 ⟨fun _ => ?_, fun hn => ?_⟩))
    · exact meters_assembly.toTellFrame.runLater_within (.aside rfl rfl rfl rfl rfl) e
    · simp [hon] at hn
  | true =>
    refine (replenish_counts hon owner).imp (fun _ e' h => ?_) fun _ e' h => ⟨?_, trivial⟩
    · cases hdue : e.due owner with
      | none =>
        rw [hdue] at h
        exact h ▸ .refl e
      | some amount =>
        rw [hdue] at h
        obtain ⟨-, notices, rfl⟩ := h
        refine ⟨⟨rfl, rfl, fun _ => ?_⟩, rfl⟩
        simp only [Endpoint.uncounted, Endpoint.toppedUp, Endpoint.granting, Endpoint.noting,
          Link.granted_flow]
        omega
    · obtain ⟨amount, -, ⟨-, rfl⟩ | ⟨-, ⟨k, hpanic⟩, rfl⟩⟩ := h
      · exact .aside rfl rfl rfl rfl rfl
      · have hnot (hflush : e.plan.Spares [.flush]) : False :=
          hflush _ _ (List.mem_singleton_self _) k hpanic
        exact ⟨⟨rfl, rfl, fun hflush => (hnot hflush).elim⟩, rfl⟩

theorem meters_passing : PassFrame Meters where
  toTellFrame := meters_assembly.toTellFrame
  reviewed := replenish_meters
  departed := by
    intro e departure hn
    cases departure with
    | aborted => exact absurd rfl hn
    | routed | failed => exact .aside rfl rfl rfl rfl rfl
  settling := fun _ => .aside rfl rfl rfl rfl rfl
  disposed := .aside rfl rfl rfl rfl rfl
  settled := .aside rfl rfl rfl rfl rfl
  posted := .aside rfl rfl rfl rfl rfl
  taken := fun _ => .aside rfl rfl rfl rfl rfl
  tallied := .aside rfl rfl rfl rfl rfl
  routed := .aside rfl rfl rfl rfl rfl
  returned := fun h => ⟨⟨h.plan, h.aborted, h.uncounted⟩, h.drain⟩

theorem onAborted_putsBack (e : Endpoint) (d : DeliveryId) :
    (Receiver.onAborted d).Ends e (fun _ => PutsBack e) fun _ => Meters e := by
  refine onAborted_counts (fun _ => .aside rfl rfl rfl rfl rfl)
    (fun _ => .aside rfl rfl rfl rfl rfl) ?_
  have hsettled : (e.link.settle d).granted = e.link.granted := rfl
  cases hdrain : e.link.drain with
  | true =>
    refine ⟨rfl, rfl, rfl, fun _ => ?_⟩
    rw [if_pos hdrain]
    exact (Int.add_zero _).symm
  | false =>
    refine ⟨rfl, rfl, rfl, fun _ => ?_⟩
    simp only [Bool.false_eq_true, if_false, hdrain, Endpoint.uncounted, Endpoint.granting,
      Endpoint.forgone, Endpoint.noting, Link.granted_flow, hsettled, Counters.depart,
      UInt32.toNat_one]
    omega

/-- Everything granted was counted, or a unit of credit was put back for a delivery. It was at the
head of an open receiver, and its sender had given it up. -/
def Reckons (e : Endpoint) (d : DeliveryId) (e' : Endpoint) : Prop :=
  Meters e e' ∨
    (e.lifecycle = .opened ∧ e.link.current = some d ∧ (e.link.delivery d).isAborted) ∧
      PutsBack e e'

theorem Reckons.after {d : DeliveryId} (h : Reckons e d e₁) (h' : Meters e₁ e₂) :
    Reckons e d e₂ :=
  h.imp (·.trans h') (.imp_right (·.after h'))

theorem process_reckons {d : DeliveryId} (ho : e.lifecycle = .opened)
    (hd : e.link.current = some d) :
    (Receiver.process d).Ends e (fun _ => Reckons e d) (fun _ => Reckons e d)
      fun _ => Reckons e d := by
  have haccept := (meters_assembly.accept_within .receiver d e).and (accept_given .receiver d e)
  refine Attempt.ends_bind.2 (Attempt.ends_adapt.2 (haccept.imp (fun r e₁ h₁ => ?_)
    (fun _ _ h₁ => .inl h₁.1) fun _ _ h₁ => .inl h₁.1.1))
  obtain ⟨hmeters, hgiven⟩ := h₁
  have hkeeps {e₂ : Endpoint} (h₂ : Meters e₁ e₂) : Reckons e d e₂ := .inl (hmeters.trans h₂)
  rcases r with _ | _ | message
  · refine Attempt.ends_lift.2 ((onAborted_putsBack e₁ d).imp (fun _ e₂ h₂ => ?_) fun _ _ => hkeeps)
    exact .inr ⟨⟨ho, hd, hgiven.1 rfl⟩, h₂.before hmeters⟩
  · exact .inl hmeters
  · exact Attempt.Ends.imp (Attempt.Within.bind meters_passing.toFraming (.adapt
      (meters_assembly.resolveTransaction_within (.aside rfl rfl rfl rfl rfl) d)) (fun transaction =>
        handOff_within meters_passing (.aside rfl rfl rfl rfl rfl) message d transaction) e₁)
      (fun _ _ => hkeeps) (fun _ _ => hkeeps) fun _ _ h₂ => hkeeps h₂.1

theorem onMessage_reckons (e : Endpoint) (d : DeliveryId) :
    (Receiver.onMessage d).Ends e (fun _ => Reckons e d) fun _ => Reckons e d := by
  have hsame : Reckons e d e := .inl (.refl e)
  exact onMessage_answers (fun h => h.after (.aside rfl rfl rfl rfl rfl)) (fun _ _ => hsame)
    (fun _ => hsame) fun _ => process_reckons

/-- On the handler and back nothing is granted or counted besides. -/
theorem onHandler_reckons {d : DeliveryId} {act : Act Panic Endpoint (Except ReceiverError Unit)}
    (h : act.Ends e.entered (fun _ => Reckons e.entered d) fun _ => Reckons e.entered d) :
    (onHandler act).Ends e (fun _ => Reckons e d) fun _ => Reckons e d := by
  have hback {e' : Endpoint} (h' : Reckons e.entered d e') :
      Reckons e d { e' with onHandler := e.onHandler } :=
    h'.imp (fun h' => ⟨⟨h'.plan, h'.aborted, h'.uncounted⟩, h'.drain⟩)
      (.imp_right fun h' => ⟨h'.plan, h'.drain, h'.aborted, h'.uncounted⟩)
  exact ends_onHandler.2 (h.imp (fun _ _ => hback) fun _ _ => hback)

theorem close_meters (remoteInitiated : Bool) :
    (Receiver.close remoteInitiated).Within Meters fun _ _ => True :=
  close_within meters_assembly.toDiscardFrame (.aside rfl rfl rfl rfl rfl)
    (.aside rfl rfl rfl rfl rfl) remoteInitiated

theorem closeWithError_meters (condition : Condition) :
    (Receiver.closeWithError condition).Within Meters fun _ _ => True :=
  closeWithError_within meters_assembly.toDiscardFrame (.aside rfl rfl rfl rfl rfl)
    (.aside rfl rfl rfl rfl rfl) (.aside rfl rfl rfl rfl rfl)

theorem flushNow_meters : flushNow.Within Meters fun _ _ => True :=
  meters_passing.flushNow_within (.aside rfl rfl rfl rfl rfl) (.aside rfl rfl rfl rfl rfl)

end Step

section Moves

variable {e : Endpoint}

/-- A step that is no event for a delivery, and does not change whether the sender wants its credit
used up, counts what it grants. -/
theorem move_meters {move : Move} (hd : move.delivery? = none)
    (hdrain : ∀ drain, move ≠ .event (.setDrain drain)) (e : Endpoint) :
    Meters e (move.perform e).2 := by
  have F := meters_passing
  have hdone {act : Act Panic Endpoint Unit} (hact : act.Within Meters fun _ _ => True) :
      (act >>= fun _ => pure (Except.ok ()) :
        Act Panic Endpoint (Except ReceiverError Unit)).Within Meters fun _ _ => True :=
    .bind F.toFraming hact fun _ => .answer F.toFraming _
  cases move with
  | event ev =>
    cases ev with
    | begin => exact .aside rfl rfl rfl rfl rfl
    | abort | transfer =>
      exact .aside rfl (Link.changeCurrent_drain _ _) (Link.changeCurrent_grants _ _) rfl rfl
    | setDrain drain => exact absurd rfl (hdrain drain)
    | message d => exact nomatch hd
    | close remoteInitiated => exact (hdone (F.onHandler_within (close_meters _))).state e
    | closeWithError condition =>
      exact (hdone (F.onHandler_within (closeWithError_meters _))).state e
    | flow | runPending | settle | submit | setMode => exact F.after rfl e
  | call op elsewhere =>
    have hop : op.perform.Within Meters fun _ _ => True := by
      cases op with
      | message d => exact nomatch hd
      | close remoteInitiated => exact hdone (close_meters _)
      | closeWithError condition => exact hdone (closeWithError_meters _)
      | settle d => exact hdone (F.settleOnHandler_within d)
      | increment counter => exact hdone (F.increment_within counter)
      | decrement counter => exact hdone (F.decrement_within counter)
      | flush => exact hdone flushNow_meters
      | flow credits drain => exact hdone (F.onFlow_within (replenish_meters _) credits drain)
      | review owner => exact hdone (replenish_meters owner)
      | submit owner => exact hdone (F.runLater_within _)
      | settleByHandle d outcome => exact hdone (F.runNow_within _)
    cases elsewhere with
    | true => exact hop.state e
    | false => exact (F.onHandler_within hop).state e

/-- A step that is an event for a delivery counts what it grants, or it puts back a unit for the
delivery. -/
theorem message_reckons {move : Move} {d : DeliveryId} (hd : move.delivery? = some d)
    (e : Endpoint) : Reckons e d (move.perform e).2 := by
  have hends := onMessage_reckons e d
  have hentered := onHandler_reckons (onMessage_reckons e.entered d)
  cases move with
  | event ev =>
    cases ev with
    | message d' =>
      obtain rfl : d' = d := Option.some.inj hd
      exact hentered.state
    | _ => exact nomatch hd
  | call op elsewhere =>
    cases op with
    | message d' =>
      obtain rfl : d' = d := Option.some.inj hd
      cases elsewhere with
      | true => exact hends.state
      | false => exact hentered.state
    | _ => exact nomatch hd

/-- A step puts back the unit of a delivery that was given up, or it counts what it grants. -/
theorem move_tallies (e : Endpoint) (move : Move) :
    Tallies e (move.perform e).2 ∨
      (∃ d, move.delivery? = some d ∧ e.lifecycle = .opened ∧ e.link.current = some d ∧
        (e.link.delivery d).isAborted) ∧ PutsBack e (move.perform e).2 := by
  cases hd : move.delivery? with
  | some d => exact (message_reckons hd e).imp (·.toTallies) fun h => ⟨⟨d, rfl, h.1⟩, h.2⟩
  | none =>
    refine .inl ?_
    by_cases hdrain : ∃ drain, move = .event (.setDrain drain)
    · obtain ⟨drain, rfl⟩ := hdrain
      exact ⟨rfl, rfl, fun _ => rfl⟩
    · exact (move_meters hd (fun drain h => hdrain ⟨drain, h⟩) e).toTallies

/-- A unit of credit is put back only for the delivery at the head of an open receiver. -/
theorem Endpoint.Refunds.head {move : Move} (h : e.Refunds move) :
    ∃ d, move.delivery? = some d ∧ e.lifecycle = .opened ∧ e.link.current = some d ∧
      (e.link.delivery d).isAborted := by
  obtain hsame | ⟨hhead, -⟩ := move_tallies e move
  · exact absurd hsame.aborted h.2
  · exact hhead

theorem uncounted_move (hflush : e.plan.Spares [.flush]) (move : Move) :
    let e' := (move.perform e).2
    e'.plan = e.plan ∧ e'.uncounted = e.uncounted + if e.Refunds move then 1 else 0 := by
  obtain hsame | ⟨-, hback⟩ := move_tallies e move
  · refine ⟨hsame.plan, ?_⟩
    rw [if_neg fun h => h.2 hsame.aborted, hsame.uncounted hflush, Int.add_zero]
  · refine ⟨hback.plan, ?_⟩
    rw [hback.uncounted hflush]
    cases hdrain : e.link.drain with
    | true =>
      have hnot : ¬ e.Refunds move := fun h => Bool.false_ne_true (h.1.symm.trans hdrain)
      rw [if_pos rfl, if_neg hnot]
    | false =>
      have hrefunds : e.Refunds move := ⟨hdrain, by rw [hback.aborted]; exact Nat.succ_ne_self _⟩
      rw [if_pos hrefunds, if_neg Bool.false_ne_true]

end Moves

section Runs

theorem uncounted_moveAll : ∀ (run : List Move) {e : Endpoint}, e.plan.Spares [.flush] →
    (e.moveAll run).uncounted = e.uncounted + e.refunds run
  | [], e, _ => (Int.add_zero _).symm
  | move :: run, e, hflush => by
    obtain ⟨hplan, hstep⟩ := uncounted_move hflush move
    have hrest := uncounted_moveAll run (e := (move.perform e).2) (by rw [hplan]; exact hflush)
    show ((move.perform e).2.moveAll run).uncounted = _
    rw [hrest, hstep, Endpoint.refunds]
    split <;> omega

theorem refunds_eq_zero_iff : ∀ (run : List Move) {e : Endpoint}, e.refunds run = 0 ↔
    ∀ before move after, run = before ++ move :: after → ¬ (e.moveAll before).Refunds move
  | [], e => by
    refine iff_of_true rfl fun before move after h => ?_
    simp at h
  | first :: run, e => by
    have hrest := refunds_eq_zero_iff run (e := (first.perform e).2)
    have hsum : e.refunds (first :: run) = 0 ↔
        ¬ e.Refunds first ∧ (first.perform e).2.refunds run = 0 := by
      rw [Endpoint.refunds, Nat.add_eq_zero_iff]
      simp
    rw [hsum, hrest]
    constructor
    · rintro ⟨hfirst, hlater⟩ (_ | ⟨x, before⟩) move after h
      · obtain ⟨rfl, -⟩ := List.cons.inj h
        exact hfirst
      · obtain ⟨rfl, rfl⟩ := List.cons.inj h
        exact hlater before move after rfl
    · intro h
      exact ⟨h [] first run rfl, fun before move after hrun =>
        h (first :: before) move after (by rw [hrun]; rfl)⟩

end Runs

/-- Whatever happens in a run and wherever it is called from, if only the sending of grants does not
panic: what was granted on the link is what was counted as granted, and one unit of credit for each
delivery that its sender gave up while it did not want its credit used up. So the two are equal
exactly if no unit was put back. -/
theorem counted_eq_granted_iff {e : Endpoint} (hflush : e.plan.Spares [.flush])
    (heven : e.counters.creditGranted = e.link.granted) (run : List Move) :
    let e' := e.moveAll run
    e'.link.granted = e'.counters.creditGranted + e.refunds run ∧
      (e'.counters.creditGranted = e'.link.granted ↔
        ∀ before move after, run = before ++ move :: after →
          ¬ (e.moveAll before).Refunds move) ∧
      ∀ before move after, run = before ++ move :: after → (e.moveAll before).Refunds move →
        ∃ d, move.delivery? = some d ∧ (e.moveAll before).link.current = some d ∧
          ((e.moveAll before).link.delivery d).isAborted := by
  intro e'
  have hrun : e'.uncounted = e.uncounted + e.refunds run := uncounted_moveAll run hflush
  have hsum : e'.link.granted = e'.counters.creditGranted + e.refunds run := by
    unfold Endpoint.uncounted at hrun
    omega
  refine ⟨hsum, ?_, fun before move after _ hrefunds => ?_⟩
  · rw [← refunds_eq_zero_iff, hsum]
    omega
  · obtain ⟨d, hd, -, hhead⟩ := hrefunds.head
    exact ⟨d, hd, hhead⟩

/-- A delivery is begun and given up, and the unit of credit that it took is put back. -/
theorem granted_uncounted :
    let e : Endpoint := .start {} "orders" 10 ⟨1⟩ .memory none
    let e' := e.moveAll [.event (.begin 0 none), .event .abort, .event (.message ⟨1⟩)]
    e.plan.Spares [.linkFlow, .flush] ∧ e'.link.granted = 1 ∧ e'.counters.creditGranted = 0 :=
  ⟨fun _ _ _ _ => nofun, by decide +kernel⟩

/-- Credit is topped up, and then a delivery is given up twice, the second time while the sender
wants its credit used up. Without the first of these all is counted. -/
theorem counted_eq_granted_iff_two :
    let e : Endpoint := .start {} "orders" 10 ⟨1⟩ .memory none
    let topUp : Move := .call (.flow 10 false) false
    let givenUp (d : DeliveryId) : List Move :=
      [.event (.begin 0 none), .event .abort, .event (.message d)]
    let twice := topUp :: givenUp ⟨1⟩ ++ .event (.setDrain true) :: givenUp ⟨2⟩
    let once := topUp :: .event (.setDrain true) :: givenUp ⟨1⟩
    ((e.moveAll twice).counters.creditGranted = 990 ∧ (e.moveAll twice).link.granted = 991) ∧
      (e.moveAll once).counters.creditGranted = 990 ∧ (e.moveAll once).link.granted = 990 := by
  intro e topUp givenUp twice once
  have hflush : e.plan.Spares [.flush] := fun _ _ _ _ => nofun
  have htwice := (counted_eq_granted_iff hflush rfl twice).1
  have honce := (counted_eq_granted_iff hflush rfl once).1
  have hback : (e.moveAll twice).counters.creditGranted = 990 ∧ e.refunds twice = 1 := by
    decide +kernel
  have hnone : (e.moveAll once).counters.creditGranted = 990 ∧ e.refunds once = 0 := by
    decide +kernel
  rw [hback.1, hback.2] at htwice
  rw [hnone.1, hnone.2] at honce
  exact ⟨⟨hback.1, htwice⟩, hnone.1, honce⟩

end ReceivingLink
