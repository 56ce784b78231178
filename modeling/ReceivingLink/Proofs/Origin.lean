import ReceivingLink.Proofs.Traces
import ReceivingLink.Proofs.Traffic

/-!
# Where the bytes of a message come from

What is taken from the link while a delivery is current is taken for it, and a spool that is opened
then is opened for it. No event mixes what is there for one delivery with what is there for another,
whatever fails or panics. So what routing gets of a delivery is made of what was taken for it, in
order: `content_drawn`.
-/

namespace ReceivingLink

namespace Endpoint

/-- What an event takes from the link for a delivery. -/
def takes (e : Endpoint) (d : DeliveryId) (event : Event) : List Bytes :=
  if e.link.current = some d then (e.after event).taken.drop e.taken.length else []

/-- What a run takes from the link for a delivery, in order. -/
def takenFor (e : Endpoint) (d : DeliveryId) : List Event → List Bytes
  | [] => []
  | event :: run => e.takes d event ++ (e.after event).takenFor d run

/-- The delivery that is current when an event opens the spool at a place. -/
def opens (e : Endpoint) (place : Nat) (event : Event) : Option DeliveryId :=
  if e.storage.records.length ≤ place ∧ place < (e.after event).storage.records.length then
    e.link.current
  else none

/-- The delivery for which a run opens the spool at a place. -/
def openedFor (e : Endpoint) (place : Nat) : List Event → Option DeliveryId
  | [] => none
  | event :: run => (e.opens place event).or ((e.after event).openedFor place run)

end Endpoint

/-- What was taken and what was sent for each delivery, and the delivery that the spool at each
place was opened for. -/
structure Origins where
  taken : DeliveryId → List Bytes := fun _ => []
  opened : Nat → Option DeliveryId := fun _ => none
  sent : DeliveryId → Bytes := fun _ => []

namespace Origins

def after (o : Origins) (e : Endpoint) (event : Event) : Origins where
  taken d := o.taken d ++ e.takes d event
  opened place := (o.opened place).or (e.opens place event)
  sent d := o.sent d ++ e.sends d event

def afterAll (o : Origins) (e : Endpoint) (run : List Event) : Origins where
  taken d := o.taken d ++ e.takenFor d run
  opened place := (o.opened place).or (e.openedFor place run)
  sent d := o.sent d ++ e.sent d run

section Lemmas

variable (o : Origins) (e : Endpoint) (event : Event) (d : DeliveryId)

@[simp] theorem taken_after : (o.after e event).taken d = o.taken d ++ e.takes d event := rfl

@[simp] theorem opened_after (place : Nat) :
    (o.after e event).opened place = (o.opened place).or (e.opens place event) := rfl

@[simp] theorem sent_after : (o.after e event).sent d = o.sent d ++ e.sends d event := rfl

end Lemmas

/-- The message of a delivery is made of what was taken for it, or is in a spool opened for it. -/
def Has (o : Origins) (d : DeliveryId) : Message → Prop
  | .standard m => DrawnFrom (o.taken d) m.payload
  | .large m => o.opened m.spool.place = some d

theorem Has.after {o : Origins} {d : DeliveryId} {m : Message} (h : o.Has d m) (e : Endpoint)
    (event : Event) : (o.after e event).Has d m := by
  cases m with
  | standard m => exact DrawnFrom.mono h (List.sublist_append_left ..)
  | large m => exact Option.or_eq_some_iff.2 (.inl h)

theorem afterAll_nil (o : Origins) (e : Endpoint) : o.afterAll e [] = o := by
  simp [afterAll, Endpoint.takenFor, Endpoint.openedFor, Endpoint.sent]

theorem afterAll_cons (o : Origins) (e : Endpoint) (event : Event) (run : List Event) :
    o.afterAll e (event :: run) = (o.after e event).afterAll (e.after event) run := by
  simp [afterAll, after, Endpoint.takenFor, Endpoint.openedFor, Endpoint.sent, Option.or_assoc]

end Origins

/-- Nothing of one delivery is with another: not in the slot, in a spool or the link's buffer, and
not in what was passed to routing. -/
structure Unmixed (o : Origins) (e : Endpoint) : Prop where
  spares : e.plan.Spares [.linkRecv]
  known : ∀ place d, o.opened place = some d → place < e.storage.records.length
  slot : ∀ a, e.slot = some a → ∃ d, e.link.current = some d ∧ o.opened a.spool.place = some d
  spools : ∀ spool d, o.opened spool.place = some d →
    DrawnFrom (o.taken d) (e.storage.record spool).bytes
  handed : ∀ handoff ∈ e.handoffs, o.Has handoff.delivery handoff.message
  sent : ∀ d, ((o.taken d).flatten ++
    if e.link.current = some d then e.link.buffer else []).Sublist (o.sent d)
  idle : e.link.queue = [] → e.link.buffer = []

section Steps

variable {o : Origins} {e : Endpoint} {event : Event} {d : DeliveryId}

theorem takes_current {all : List Bytes} (ht : Traces all all e (e.after event))
    (hd : e.link.current = some d) : e.takes d event = all := by
  rw [Endpoint.takes, if_pos hd, ht.taken, List.drop_left]

theorem takes_other (hd : e.link.current ≠ some d) : e.takes d event = [] := if_neg hd

/-- A spool of a delivery was opened for it before the event or in it. -/
theorem Origins.opened_cases {place : Nat} (ho : (o.after e event).opened place = some d) :
    o.opened place = some d ∨ e.link.current = some d ∧ e.storage.records.length ≤ place ∧
      place < (e.after event).storage.records.length := by
  rcases Option.or_eq_some_iff.1 ho with ho | ⟨-, ho⟩
  · exact .inl ho
  · rw [Endpoint.opens] at ho
    split at ho
    · exact .inr ⟨ho, ‹_›⟩
    · cases ho

namespace Unmixed

theorem unopened (h : Unmixed o e) {place : Nat} (hp : e.storage.records.length ≤ place) :
    o.opened place = none := by
  cases ho : o.opened place with
  | none => rfl
  | some d => exact absurd (h.known place d ho) (Nat.not_lt.2 hp)

/-- A spool that may grow in an event is one of the current delivery. -/
theorem fills (h : Unmixed o e) (hd : e.link.current = some d) {place : Nat}
    (hf : e.Fills (e.after event) place) : (o.after e event).opened place = some d := by
  rcases hf with ⟨a, ha, rfl⟩ | hnew
  · obtain ⟨d', hd', ho⟩ := h.slot a ha
    rw [Origins.opened_after, ho, Option.some_or, ← hd', hd]
  · rw [Origins.opened_after, h.unopened hnew.1, Option.none_or, Endpoint.opens, if_pos hnew, hd]

section Tracing

variable {all : List Bytes} (h : Unmixed o e) (ht : Traces all all e (e.after event))

include h ht

theorem after_spools {spool : Spool} (ho : (o.after e event).opened spool.place = some d) :
    DrawnFrom ((o.after e event).taken d) ((e.after event).storage.record spool).bytes := by
  rcases Origins.opened_cases ho with ho | ⟨hd, hnew⟩
  · have hold := h.spools spool d ho
    rcases ht.written spool with hb | ⟨hf, more, hm, hb⟩ <;> rw [hb]
    · exact hold.mono (List.sublist_append_left ..)
    -- opened before the event, the spool is written to only as the one in the slot
    · rcases hf with ⟨a, ha, hplace⟩ | ⟨hle, -⟩
      · obtain ⟨d', hd', ho'⟩ := h.slot a ha
        rw [hplace, ho] at ho'
        cases ho'
        rw [Origins.taken_after, takes_current ht hd']
        exact hold.append hm
      · exact absurd (h.known _ d ho) (Nat.not_lt.2 hle)
  · rw [Origins.taken_after, takes_current ht hd]
    rcases ht.written spool with hb | ⟨-, more, hm, hb⟩ <;>
      rw [hb, e.storage.record_of_le hnew.1]
    · exact .nil
    · exact hm.mono (List.sublist_append_right ..)

theorem after_sent (d : DeliveryId) : (((o.after e event).taken d).flatten ++
    if (e.after event).link.current = some d then (e.after event).link.buffer else []).Sublist
      (o.sent d) := by
  have hsent := h.sent d
  rw [Origins.taken_after]
  by_cases hd : e.link.current = some d
  · rw [if_pos hd] at hsent
    rw [takes_current ht hd, List.flatten_append, List.append_assoc]
    refine List.Sublist.trans (List.Sublist.append_left (List.Sublist.trans ?_ ht.left) _) hsent
    refine List.Sublist.append_left ?_ _
    split
    · exact List.Sublist.refl _
    · exact List.nil_sublist _
  · rw [if_neg hd] at hsent
    -- if the event makes the delivery the current one, no bytes wait for it yet
    have hnone : (if (e.after event).link.current = some d then (e.after event).link.buffer
        else []) = [] := by
      rcases ht.place with hq | hm
      · rw [if_neg (by rw [Link.current, hq]; exact hd)]
      · rw [hm.buffer, ite_self]
    rwa [takes_other hd, List.append_nil, hnone]

theorem after_idle (hq : (e.after event).link.queue = []) : (e.after event).link.buffer = [] := by
  rcases ht.place with hsame | hm
  · have hleft := ht.left
    rw [h.idle (hsame.symm.trans hq), List.sublist_nil] at hleft
    exact (List.append_eq_nil_iff.1 hleft).2
  · exact hm.buffer

/-- What an event makes of the current delivery is had for it. -/
theorem has_sourced {m : Message} (hd : e.link.current = some d)
    (hm : Sourced all e (e.after event) m) : (o.after e event).Has d m := by
  cases m with
  | standard m =>
    rw [Origins.Has, Origins.taken_after, takes_current ht hd]
    exact DrawnFrom.mono hm (List.sublist_append_right ..)
  | large m => exact h.fills hd hm

/-- What an event takes for the current delivery is kept for it. -/
theorem step (hslot : ∀ a, (e.after event).slot = some a → ∃ d, e.link.current = some d)
    (hh : ∀ handoff ∈ (e.after event).handoffs, handoff ∈ e.handoffs ∨
      e.link.current = some handoff.delivery ∧ Sourced all e (e.after event) handoff.message)
    (hsends : ∀ d, e.sends d event = []) : Unmixed (o.after e event) (e.after event) where
  spares := by rw [ht.plan]; exact h.spares
  known := fun place d ho => (Origins.opened_cases ho).elim
    (fun ho => Nat.lt_of_lt_of_le (h.known place d ho) ht.opened) (·.2.2)
  slot := fun a ha => by
    obtain ⟨d, hd⟩ := hslot a ha
    refine ⟨d, ?_, h.fills hd (ht.slot a ha)⟩
    rcases ht.place with hq | hm
    · rw [Link.current, hq]
      exact hd
    · cases hm.slot.symm.trans ha
  spools := fun spool d ho => h.after_spools ht ho
  handed := fun handoff hmem => (hh handoff hmem).elim
    (fun hold => (h.handed handoff hold).after e event) fun hnew => h.has_sourced ht hnew.1 hnew.2
  sent := fun d => by
    rw [Origins.sent_after, hsends d, List.append_nil]
    exact h.after_sent ht d
  idle := h.after_idle ht

end Tracing

theorem files (h : Unmixed o e) (hf : Filed e (e.after event))
    (hsends : ∀ d, e.sends d event = []) : Unmixed (o.after e event) (e.after event) := by
  refine h.step hf.traces (fun a ha => ?_) (fun handoff hm => ?_) hsends
  · exact (h.slot a (hf.slot_some ha)).imp fun _ => And.left
  · exact .inl (hf.handoffs ▸ hm)

/-- The peer's events take nothing. -/
theorem peers (link : Link) (h : Unmixed o e) (he : e.after event = { e with link })
    (hcurrent : ∀ d, e.link.current = some d → link.current = some d)
    (hsent : ∀ d, ((o.taken d).flatten ++ if link.current = some d then link.buffer else []).Sublist
      (o.sent d ++ e.sends d event))
    (hidle : link.queue = [] → link.buffer = []) :
    Unmixed (o.after e event) (e.after event) := by
  have htakes (d : DeliveryId) : e.takes d event = [] := by
    rw [Endpoint.takes, he]
    simp [Endpoint.taken]
  have hopens (place : Nat) : e.opens place event = none := by
    rw [Endpoint.opens, he, if_neg fun h => Nat.not_lt.2 h.1 h.2]
  simp only [Origins.after, htakes, hopens, List.append_nil, Option.or_none]
  rw [he]
  exact ⟨h.spares, h.known, fun a ha => (h.slot a ha).imp fun d hd => ⟨hcurrent d hd.1, hd.2⟩,
    h.spools, h.handed, hsent, hidle⟩

theorem begin (h : Unmixed o e) (format : UInt32) (remote : Option RemoteState) :
    Unmixed (o.after e (.begin format remote)) (e.after (.begin format remote)) := by
  refine h.peers (e.link.beginWith format remote) rfl (fun d hd => ?_) (fun d => ?_) ?_
  · obtain ⟨rest, hq⟩ : ∃ rest, e.link.queue = d :: rest := List.head?_eq_some_iff.1 hd
    simp [Link.current, hq]
  · have hsent := h.sent d
    have hsends : e.sends d (.begin format remote) = [] := rfl
    rw [hsends, List.append_nil, Link.beginWith_buffer]
    split
    · rename_i hd
      rcases Link.beginWith_current hd with hd | ⟨hq, -⟩
      · rwa [if_pos hd] at hsent
      · rw [h.idle hq, ite_self] at hsent
        rwa [h.idle hq]
    · rw [List.append_nil]
      exact (List.sublist_append_left ..).trans hsent
  · simp

theorem transfer (h : Unmixed o e) (bytes : Bytes) (more : Bool) (hq : e.link.queue ≠ []) :
    Unmixed (o.after e (.transfer bytes more)) (e.after (.transfer bytes more)) := by
  have hcurrent : (e.link.transfer bytes more).current = e.link.current := by
    simp [Link.current, Link.transfer]
  have hbuffer : (e.link.transfer bytes more).buffer = e.link.buffer ++ bytes := by
    simp [Link.transfer]
  refine h.peers (e.link.transfer bytes more) rfl (fun d hd => hcurrent.trans hd)
    (fun d => ?_) fun hempty => absurd (by simpa [Link.transfer] using hempty) hq
  have hsent := h.sent d
  rw [Endpoint.sends, hcurrent, hbuffer]
  split
  · rename_i hd
    rw [if_pos hd] at hsent
    rw [← List.append_assoc]
    exact hsent.append_right bytes
  · rename_i hd
    rw [if_neg hd] at hsent
    rwa [List.append_nil (o.sent d)]

theorem abort (h : Unmixed o e) : Unmixed (o.after e .abort) (e.after .abort) := by
  have hcurrent : e.link.abort.current = e.link.current := by simp [Link.current, Link.abort]
  have hbuffer : e.link.abort.buffer = [] := by simp [Link.abort]
  refine h.peers e.link.abort rfl (fun d hd => hcurrent.trans hd) (fun d => ?_)
    fun _ => hbuffer
  have hsends : e.sends d .abort = [] := rfl
  rw [hsends, hbuffer, ite_self, List.append_nil, List.append_nil]
  exact (List.sublist_append_left ..).trans (h.sent d)

theorem message (h : Unmixed o e) (d : DeliveryId) :
    Unmixed (o.after e (.message d)) (e.after (.message d)) := by
  by_cases hd : e.lifecycle = .opened ∧ e.link.current = some d
  · obtain ⟨all, ht, hh⟩ := message_conveys h.spares hd.1 hd.2
    refine h.step ht (fun _ _ => ⟨d, hd.2⟩) (fun handoff hm => ?_) fun _ => rfl
    refine (hh handoff hm).imp id fun hnew => ⟨?_, hnew.2⟩
    rw [hnew.1]
    exact hd.2
  · have hu : Untouched e (e.after (.message d)) :=
      Act.Ends.state (Q := Untouched e) ((message_untouched hd).imp (fun _ _ => id)
        fun _ _ => False.elim)
    exact h.files hu.filed fun _ => rfl

/-- No event mixes what it takes for one delivery with what was taken for another. -/
theorem after (h : Unmixed o e) (ha : e.Admits event) :
    Unmixed (o.after e event) (e.after event) := by
  have heffect (hm : ∀ d, event ≠ .message d) : Effect e event (e.after event) := aside_effect hm
  cases event with
  | begin format remote => exact h.begin format remote
  | transfer bytes more => exact h.transfer bytes more ha
  | abort => exact h.abort
  | message d => exact h.message d
  | close remoteInitiated =>
    exact h.files (ends_files (close_files (isOnHandler_enter e) remoteInitiated)) fun _ => rfl
  | closeWithError condition =>
    exact h.files (ends_files (closeWithError_files (isOnHandler_enter e) condition)) fun _ => rfl
  | setDrain | flow | runPending | settle | submit | setMode =>
    exact h.files (Untouched.filed (heffect nofun)) fun _ => rfl

theorem afterAll : ∀ (run : List Event) {o : Origins} {e : Endpoint}, Unmixed o e →
    e.AdmitsAll run → Unmixed (o.afterAll e run) (e.afterAll run)
  | [], o, e, h, _ => by
    rw [Origins.afterAll_nil]
    exact h
  | event :: run, o, e, h, ha => by
    rw [Origins.afterAll_cons]
    exact afterAll run (h.after ha.1) ha.2

theorem content (h : Unmixed o e) {m : Message} (hm : o.Has d m) :
    DrawnFrom (o.taken d) (e.content m) := by
  cases m with
  | standard m => exact hm
  | large m => exact h.spools m.spool d hm

end Unmixed

end Steps

section Runs

variable {e : Endpoint}

theorem Endpoint.Fresh.unmixed (h : e.Fresh) (hs : e.plan.Spares [.linkRecv]) : Unmixed {} e where
  spares := hs
  known := nofun
  slot := fun a ha => nomatch h.slot.symm.trans ha
  spools := nofun
  handed := by simp [Endpoint.handoffs, h.calls]
  sent := fun d => by simp [h.buffer]
  idle := fun _ => h.buffer

/-- Over every run the large message that is coming in was started for the current delivery, and
what routing gets of a delivery is made of what was taken from the link for it, in order. What was
taken for a delivery was sent for it. -/
theorem content_drawn (h : e.Fresh) (hs : e.plan.Spares [.linkRecv]) {run : List Event}
    (ha : e.AdmitsAll run) :
    let e' := e.afterAll run
    (∀ a, e'.slot = some a →
      ∃ d, e'.link.current = some d ∧ e.openedFor a.spool.place run = some d) ∧
    (∀ handoff ∈ e'.handoffs,
      DrawnFrom (e.takenFor handoff.delivery run) (e'.content handoff.message)) ∧
    ∀ d, (e.takenFor d run).flatten.Sublist (e.sent d run) := by
  have hend := (h.unmixed hs).afterAll run ha
  refine ⟨hend.slot, fun handoff hm => hend.content (hend.handed handoff hm), fun d => ?_⟩
  exact (List.sublist_append_left ..).trans (hend.sent d)

/-- A write for the first delivery panics, and the sender gives the delivery up. The second one
arrives, and the third one is coming in. -/
theorem content_drawn_panic :
    let plan : Plan := fun n point =>
      if n = 6 ∧ point = .spoolAppend then some (.panics (.text "disk gone")) else none
    let e : Endpoint :=
      { Endpoint.start { minLargeMessageSize := 4 } "orders" 10 ⟨1⟩ .memory none with plan }
    let run : List Event := [.begin 0 none, .transfer [1, 2, 3, 4] true, .message ⟨1⟩,
      .transfer [5] true, .message ⟨1⟩, .begin 0 none, .abort, .message ⟨1⟩,
      .transfer [6, 7, 8, 9] true, .message ⟨2⟩, .transfer [10] false, .message ⟨2⟩,
      .begin 0 none, .transfer [11, 12, 13, 14] true, .message ⟨3⟩]
    let e' := e.afterAll run
    e.AdmitsAll run ∧
      (∃ a, e'.slot = some a ∧ e'.link.current = some ⟨3⟩ ∧
        e.openedFor a.spool.place run = some ⟨3⟩) ∧
      (∃ handoff ∈ e'.handoffs, e'.content handoff.message = [6, 7, 8, 9, 10] ∧
        DrawnFrom (e.takenFor handoff.delivery run) (e'.content handoff.message)) ∧
      (e.takenFor ⟨1⟩ run).flatten.Sublist (e.sent ⟨1⟩ run) := by
  intro plan e run e'
  have hadmits : e.AdmitsAll run := by decide +kernel
  have hspares : e.plan.Spares [.linkRecv] := by
    intro n point hp k
    obtain rfl : point = .linkRecv := List.mem_singleton.1 hp
    simp [e, plan]
  have hfresh : e.Fresh := ⟨rfl, rfl, rfl, rfl, rfl, rfl, rfl, rfl, rfl, rfl, rfl⟩
  have he' : e.afterAll run = e' := rfl
  obtain ⟨hslot, hhanded, hsent⟩ := content_drawn hfresh hspares hadmits
  rw [he'] at hslot hhanded
  let a : Accumulator := { id := ⟨102⟩, format := 0, size := 4, spool := ⟨⟨102⟩, 2⟩ }
  have ha : e'.slot = some a := by decide +kernel
  have hcurrent : e'.link.current = some ⟨3⟩ := by decide +kernel
  obtain ⟨d, hd, hopened⟩ := hslot a ha
  cases hcurrent.symm.trans hd
  have hcontent : ∃ handoff ∈ e'.handoffs, e'.content handoff.message = [6, 7, 8, 9, 10] := by
    decide +kernel
  obtain ⟨handoff, hmem, hbytes⟩ := hcontent
  exact ⟨hadmits, ⟨a, ha, hcurrent, hopened⟩, ⟨handoff, hmem, hbytes, hhanded handoff hmem⟩,
    hsent ⟨1⟩⟩

end Runs

end ReceivingLink
