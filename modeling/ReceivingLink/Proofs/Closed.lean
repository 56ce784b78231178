import ReceivingLink.Proofs.Review

/-!
# A receiver that is closed

A receiver that is closed stays closed, and nothing is done about a delivery that is reported to it.
Two things still reach its link: when a change of credit is reported credit is reviewed as ever, and
whoever closes the receiver with a condition sets that condition. So the link is left alone exactly
if no credit is due and no condition comes: `closed_rests_iff`.
-/

namespace ReceivingLink

namespace Event

/-- The receiver is closed in the event. -/
def isClosing : Event → Bool
  | .close _ | .closeWithError _ => true
  | _ => false

/-- The engine reports to the receiver on its handler, or the receiver is closed. -/
def isReport : Event → Bool
  | .message _ | .flow _ _ false | .close _ | .closeWithError _ => true
  | _ => false

end Event

/-- A receiver that is closed makes a call in the event: credit is due, or a condition is set. -/
def Endpoint.Stirs (e : Endpoint) : Event → Prop
  | .flow .. => (e.due (some .receiver)).isSome
  | .closeWithError _ => True
  | _ => False

instance (e : Endpoint) : DecidablePred e.Stirs
  | .flow .. => inferInstanceAs (Decidable (_ = true))
  | .closeWithError _ => isTrue trivial
  | .begin .. | .transfer .. | .abort | .setDrain _ | .message _ | .close _ | .runPending
  | .settle _ | .submit | .setMode _ => isFalse id

/-- The calls that a receiver still makes when it is closed. -/
def closedPoints : List Point := [.linkFlow, .flush, .linkSetCondition]

/-- The receiver is closed, and these calls are all that was made. -/
structure Rests (called : List Call) (e e' : Endpoint) : Prop where
  lifecycle : e'.lifecycle = .closed
  pending : e'.pending = e.pending
  calls : e'.calls = e.calls ++ called
  points : ∀ call ∈ called, call.point ∈ closedPoints
  link : called = [] → e'.link = e.link

section Rests

variable {called called' : List Call} {e e₁ e₂ : Endpoint}

theorem Rests.refl (h : e.lifecycle = .closed) : Rests [] e e :=
  ⟨h, rfl, (List.append_nil _).symm, by simp, fun _ => rfl⟩

theorem Rests.trans (h : Rests called e e₁) (h' : Rests called' e₁ e₂) :
    Rests (called ++ called') e e₂ where
  lifecycle := h'.lifecycle
  pending := h'.pending.trans h.pending
  calls := by rw [h'.calls, h.calls, List.append_assoc]
  points := fun call hc => (List.mem_append.1 hc).elim (h.points call) (h'.points call)
  link := fun hnil => by
    obtain ⟨hn, hn'⟩ := List.append_eq_nil_iff.1 hnil
    rw [h'.link hn', h.link hn]

theorem Rests.aside {onHandler : Option HandlerId} {notices : List Notice} {counters : Counters}
    (h : Rests called e e₁) : Rests called e { e₁ with onHandler, notices, counters } :=
  ⟨h.lifecycle, h.pending, h.calls, h.points, h.link⟩

end Rests

section Closed

variable {e : Endpoint}

theorem close_closes (remoteInitiated : Bool) :
    (Receiver.close remoteInitiated).Ends e (fun _ e' => e'.lifecycle = .closed)
      fun _ _ => True := by
  refine Act.ends_bind.2 ((requireOnHandler_stays e).imp ?_ fun _ _ _ => trivial)
  rintro _ e rfl
  refine Act.ends_bind.2 (Act.ends_get.2 (Act.ends_ite.2 ⟨id, fun _ => ?_⟩))
  refine Act.ends_bind.2 (Act.ends_modify.2 (Act.ends_bind.2 (Act.ends_always (fun _ e₁ => ?_)
    fun _ _ => trivial)))
  exact Act.ends_bind.2 (Act.ends_always (fun _ _ => rfl) fun _ _ => trivial)

theorem closed_of_returned {closing : Event} (hc : closing.isClosing)
    (hr : (closing.perform e).1 = .ok (.ok ())) : (e.after closing).lifecycle = .closed := by
  have hends : closing.perform.Ends e (fun _ e' => e'.lifecycle = .closed) fun _ _ => True := by
    cases closing with
    | close remoteInitiated => exact Act.ends_bind.2 (ends_onHandler.2 (close_closes remoteInitiated))
    | closeWithError condition =>
      refine Act.ends_bind.2 (ends_onHandler.2 (Act.ends_bind.2 (Act.ends_always (fun _ _ => ?_)
        fun _ _ => trivial)))
      exact close_closes false
    | _ => exact nomatch hc
  unfold Act.Ends at hends
  split at hends
  · rename_i heq
    exact (congrArg (fun r => (Prod.snd r).lifecycle) heq).trans hends
  · rename_i heq
    exact nomatch (congrArg Prod.fst heq).symm.trans hr

theorem close_rests (hc : e.lifecycle = .closed) (remoteInitiated : Bool) :
    (Receiver.close remoteInitiated).Ends e (fun _ e' => e' = e) fun _ e' => e' = e := by
  refine Act.ends_bind.2 ((requireOnHandler_stays e).imp ?_ fun _ _ => id)
  rintro _ e rfl
  exact Act.ends_bind.2 (Act.ends_get.2 (Act.ends_ite.2 ⟨fun _ => rfl, fun hn => absurd hc hn⟩))

theorem message_rests (hc : e.lifecycle = .closed) (d : DeliveryId) :
    Rests [] e (e.after (.message d)) := by
  refine Act.Ends.state (Q := Rests [] e) (message_ends (fun _ h => h.aside)
    (fun _ => .refl hc) fun ho _ => ?_)
  exact nomatch hc.symm.trans ho

/-- Where credit is due when a change of credit is reported, it is granted to a closed receiver. -/
theorem flow_rests (hc : e.lifecycle = .closed) (credits : UInt32) (drain : Bool) :
    ∃ called, Rests called e (e.after (.flow credits drain false)) ∧
      (called = [] ↔ e.due (some .receiver) = none) := by
  have hgranted (amount : UInt32) {onHandler : Option HandlerId} {notices : List Notice}
      {counters : Counters} : Rests [.linkFlow amount, .flush] e
        { e.toppedUp amount with onHandler, notices, counters } :=
    ⟨hc, rfl, List.append_assoc .., by simp [closedPoints, Call.point],
      fun hnil => absurd hnil (List.cons_ne_nil _ _)⟩
  refine Act.Ends.state (Q := fun e' => ∃ called, Rests called e e' ∧
    (called = [] ↔ e.due (some .receiver) = none)) ?_
  refine Act.ends_bind.2 (ends_onHandler.2 (Act.ends_bind.2 (Act.ends_get.2 (Act.ends_bind.2
    (Act.ends_modify.2 ?_)))))
  refine (replenish_due (by exact isOnHandler_enter e) (some .receiver)).imp (fun _ e₁ h₁ => ?_)
    fun _ e₁ h₁ => ?_
  · generalize hentered : Endpoint.due _ (some .receiver) = found at h₁
    have hdue : e.due (some .receiver) = found := hentered
    cases found with
    | none =>
      subst h₁
      exact ⟨[], (Rests.refl hc).aside, by simp [hdue]⟩
    | some amount =>
      obtain ⟨_, _, rfl⟩ := h₁
      exact ⟨[.linkFlow amount, .flush], hgranted amount, by simp [hdue]⟩
  · obtain ⟨amount, hdue, ⟨-, rfl⟩ | ⟨-, rfl⟩⟩ := h₁
    · refine ⟨[.linkFlow amount], ⟨hc, rfl, rfl, ?_, fun hnil => ?_⟩, ?_⟩
      · simp [closedPoints, Call.point]
      · exact absurd hnil (List.cons_ne_nil _ _)
      · simp [show e.due (some .receiver) = some amount from hdue]
    · refine ⟨[.linkFlow amount, .flush], hgranted amount, ?_⟩
      simp [show e.due (some .receiver) = some amount from hdue]

theorem closeWithError_rests (hc : e.lifecycle = .closed) (condition : Condition) :
    Rests [.linkSetCondition condition] e (e.after (.closeWithError condition)) := by
  have hset {link : Link} : Rests [.linkSetCondition condition] e
      { e.noting (.linkSetCondition condition) with link } :=
    ⟨hc, rfl, rfl, by simp [closedPoints, Call.point], nofun⟩
  refine Act.Ends.state (Q := Rests [.linkSetCondition condition] e) ?_
  refine Act.ends_bind.2 (ends_onHandler.2 (Act.ends_bind.2 (Act.ends_bind.2 (Act.ends_bind.2
    (Act.ends_modifyGet.2 ?_)))))
  dsimp only
  split
  · exact hset.aside
  refine Act.ends_modify.2 ((close_rests (by exact hc) false).imp ?_ ?_)
  all_goals
    rintro _ _ rfl
    exact hset.aside

/-- A report to a closed receiver leaves it at rest unless it stirs it. -/
theorem report_rests (hc : e.lifecycle = .closed) {event : Event} (hr : event.isReport) :
    ∃ called, Rests called e (e.after event) ∧ (called = [] ↔ ¬ e.Stirs event) := by
  cases event with
  | message d => exact ⟨[], message_rests hc d, by simp [Endpoint.Stirs]⟩
  | flow credits drain elsewhere =>
    cases elsewhere with
    | true => exact nomatch hr
    | false =>
      obtain ⟨called, hrests, hnil⟩ := flow_rests hc credits drain
      exact ⟨called, hrests, hnil.trans (by simp [Endpoint.Stirs])⟩
  | close remoteInitiated =>
    refine ⟨[], Act.Ends.state (Q := Rests [] e) ?_, by simp [Endpoint.Stirs]⟩
    refine Act.ends_bind.2 (ends_onHandler.2 ((close_rests (by exact hc) _).imp ?_ ?_))
    all_goals
      rintro _ _ rfl
      exact (Rests.refl hc).aside
  | closeWithError condition =>
    exact ⟨_, closeWithError_rests hc condition, by simp [Endpoint.Stirs]⟩
  | _ => exact nomatch hr

theorem reports_rest : ∀ {run : List Event} {e : Endpoint}, e.lifecycle = .closed →
    (∀ event ∈ run, event.isReport) → ∃ called, Rests called e (e.afterAll run) ∧
      (called = [] ↔ e.Throughout (fun e event => ¬ e.Stirs event) run)
  | [], e, hc, _ => ⟨[], .refl hc, by simp [Endpoint.Throughout]⟩
  | event :: run, e, hc, hrun => by
    obtain ⟨hevent, hrest⟩ := List.forall_mem_cons.1 hrun
    obtain ⟨called, hcalled, hnil⟩ := report_rests hc hevent
    obtain ⟨called', hcalled', hnil'⟩ := reports_rest hcalled.lifecycle hrest
    exact ⟨called ++ called', hcalled.trans hcalled',
      List.append_eq_nil_iff.trans (and_congr hnil hnil')⟩

end Closed

/-- Once the closing of a receiver has returned, whatever is reported to it, the receiver stays
closed and its count stays as it is; only credit is granted and sent, and conditions are set. The
calls and the link stay as they are exactly if no report finds credit due and none sets a
condition. -/
theorem closed_rests_iff {e : Endpoint} {closing : Event} {run : List Event}
    (hc : closing.isClosing) (hr : (closing.perform e).1 = .ok (.ok ()))
    (hrun : ∀ event ∈ run, event.isReport) :
    ((e.after closing).afterAll run).lifecycle = .closed ∧
      ((e.after closing).afterAll run).pending = (e.after closing).pending ∧
      (∃ called, ((e.after closing).afterAll run).calls = (e.after closing).calls ++ called ∧
        ∀ call ∈ called, call.point ∈ closedPoints) ∧
      (((e.after closing).afterAll run).calls = (e.after closing).calls ∧
          ((e.after closing).afterAll run).link = (e.after closing).link ↔
        (e.after closing).Throughout (fun e event => ¬ e.Stirs event) run) := by
  obtain ⟨called, hrests, hnil⟩ := reports_rest (closed_of_returned hc hr) hrun
  refine ⟨hrests.lifecycle, hrests.pending, ⟨called, hrests.calls, hrests.points⟩, ?_⟩
  rw [← hnil]
  constructor
  · rintro ⟨hcalls, -⟩
    simpa using hrests.calls.symm.trans hcalls
  · rintro rfl
    exact ⟨by simpa using hrests.calls, hrests.link rfl⟩

/-- Credit is granted to a receiver that is closed when a change of credit is reported. -/
theorem flow_grants_closed :
    let e : Endpoint := (Endpoint.start {} "orders" 10 ⟨1⟩ .memory none).after (.close false)
    e.lifecycle = .closed ∧
      ¬ ((e.after (.flow 5 false false)).calls = e.calls ∧
        (e.after (.flow 5 false false)).link.credit = e.link.credit) := by
  decide +kernel

/-- A closed receiver whose credit is full is left alone, and one whose credit is low is not. -/
theorem closed_rests_iff_full :
    let closed (credit : UInt32) : Endpoint :=
      (Endpoint.start {} "orders" credit ⟨1⟩ .memory none).after (.close true)
    let run : List Event := [.message ⟨1⟩, .flow 5 true false, .close false]
    (((closed 1000).afterAll run).calls = (closed 1000).calls ∧
        ((closed 1000).afterAll run).link = (closed 1000).link) ∧
      ¬ (((closed 10).afterAll run).calls = (closed 10).calls ∧
        ((closed 10).afterAll run).link = (closed 10).link) := by
  intro closed run
  have hrun : ∀ event ∈ run, event.isReport := by decide
  have hfull := closed_rests_iff (e := .start {} "orders" 1000 ⟨1⟩ .memory none)
    (show (Event.close true).isClosing from rfl) rfl hrun
  have hlow := closed_rests_iff (e := .start {} "orders" 10 ⟨1⟩ .memory none)
    (show (Event.close true).isClosing from rfl) rfl hrun
  exact ⟨hfull.2.2.2.2 (by decide +kernel), fun h => absurd (hlow.2.2.2.1 h) (by decide +kernel)⟩

end ReceivingLink
