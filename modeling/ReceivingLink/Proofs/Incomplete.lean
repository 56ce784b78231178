import ReceivingLink.Proofs.Gap
import ReceivingLink.Proofs.Protocol

/-!
# A write that fails

After a write failed, the large message that is coming in has a gap. What comes of it then is taken
from the link and dropped, whether or not its spool could be written to again. When it is complete
that is an error, and when it is given up that is as for any other. In both cases the reassembler is
as it was before the first delivery: `gap_stays`.
-/

namespace ReceivingLink

/-- The receiver stays open, and is told of a delivery only as long as more of it is to come. -/
def Endpoint.goesOn (e : Endpoint) (d : DeliveryId) : Event → Bool
  | .message x =>
    x ≠ d || ((e.link.delivery d).isPartial && !(e.link.delivery d).isAborted)
  | .close _ | .closeWithError _ => false
  | _ => true

/-- Since `e₀` more may have come of the current delivery and was taken, but nothing else has
happened to the large message that is coming in. -/
structure Stays (e₀ : Endpoint) (d : DeliveryId) (a : Accumulator) (e : Endpoint) : Prop where
  opened : e.lifecycle = .opened
  current : e.link.current = some d
  slot : e.slot = some a
  storage : e.storage = e₀.storage
  answering : e.Answering
  calls : ∃ rest, e.calls = e₀.calls ++ rest ∧
    ∀ call ∈ rest, call.taken?.isSome ∨ call.grants ∨ call.settles

/-- The reassembler of the receiver is as it was, and no bytes wait in the link. -/
structure Anew (e₀ e : Endpoint) : Prop where
  reassembler : e.reassembler.get .receiver = e₀.reassembler.get .receiver
  buffer : e.link.buffer = []

section Staying

variable {e₀ e e' : Endpoint} {d : DeliveryId} {a : Accumulator}

namespace Stays

theorem called (h : Stays e₀ d a e) {rest : List Call} (hcalls : e'.calls = e.calls ++ rest)
    (hrest : ∀ call ∈ rest, call.taken?.isSome ∨ call.grants ∨ call.settles) :
    ∃ rest, e'.calls = e₀.calls ++ rest ∧
      ∀ call ∈ rest, call.taken?.isSome ∨ call.grants ∨ call.settles := by
  obtain ⟨before, hbefore, hall⟩ := h.calls
  refine ⟨before ++ rest, by rw [hcalls, hbefore, List.append_assoc], fun call hc => ?_⟩
  exact (List.mem_append.1 hc).elim (hall call) (hrest call)

/-- What the peer does leaves the current delivery where it is. -/
theorem onLink (h : Stays e₀ d a e) {link : Link} (hq : link.current = e.link.current) :
    Stays e₀ d a { e with link } :=
  ⟨h.opened, hq.trans h.current, h.slot, h.storage, ⟨h.answering.plan, h.answering.appends⟩,
    h.calls⟩

theorem leave (h : Stays e₀ d a e) {onHandler : Option HandlerId} {notices : List Notice}
    {counters : Counters} : Stays e₀ d a { e with onHandler, notices, counters } :=
  ⟨h.opened, h.current, h.slot, h.storage, ⟨h.answering.plan, h.answering.appends⟩, h.calls⟩

theorem aside (h : Stays e₀ d a e) (hu : Untouched e e') (ht : Trails e.calls e') :
    Stays e₀ d a e' := by
  obtain ⟨rest, hcalls, hrest⟩ := ht
  exact ⟨hu.lifecycle.trans h.opened, by rw [Link.current, hu.queue]; exact h.current,
    hu.slot.trans h.slot, hu.storage.trans h.storage, hu.toContinued.answering h.answering,
    h.called hcalls fun call hc => .inr (hrest call hc)⟩

/-- More of the delivery is taken from the link and dropped. -/
theorem more_replies (h : Stays e₀ d a e) (hr : e.Regular) (hi : a.incomplete)
    (hg : (e.link.delivery d).isAborted = false) (hp : (e.link.delivery d).isPartial) :
    e.Replies d
      { calls := [.linkRecv e.link.buffer], link := e.link.drained, slot := some a
        result := .ok .pending } (.ok ()) := by
  refine message_replies hr.writable h.answering h.opened h.current ?_ rfl
  rw [turnout_received hg hp h.slot, Reports.received, writes_gap hi, Reports.written_gap hi]
  rfl

theorem taken (h : Stays e₀ d a e) (hm : Made .receiver e [.linkRecv e.link.buffer] e.link.drained
    (some a) e') : Stays e₀ d a e' where
  opened := hm.lifecycle.trans h.opened
  current := by
    rw [hm.link, drained_current]
    exact h.current
  slot := hm.slot
  storage := hm.storage.trans h.storage
  answering := hm.toContinued.answering h.answering
  calls := h.called hm.calls (by simp [Call.taken?])

theorem after {event : Event} (h : Stays e₀ d a e) (hr : e.Regular) (hi : a.incomplete)
    (hg : e.goesOn d event) : Stays e₀ d a (e.after event) := by
  have haside (ha : event.isAside) : Stays e₀ d a (e.after event) :=
    h.aside (untouched_frame.after ha e) (trails_frame.after ha e)
  cases event with
  | begin format remote =>
    refine h.onLink ?_
    obtain ⟨rest, hq⟩ : ∃ rest, e.link.queue = d :: rest := List.head?_eq_some_iff.1 h.current
    rw [Link.current, Link.current, Link.beginWith_queue, hq]
    rfl
  | transfer | abort => exact h.onLink (congrArg List.head? (Link.changeCurrent_queue _ _))
  | message x =>
    by_cases hx : x = d
    · subst hx
      simp only [Endpoint.goesOn, ne_eq, not_true_eq_false, decide_false, Bool.false_or,
        Bool.and_eq_true, Bool.not_eq_true'] at hg
      exact h.taken (h.more_replies hr hi hg.2 hg.1).made
    · have hne : e.link.current ≠ some x := by
        rw [h.current]
        exact fun heq => hx (Option.some.inj heq).symm
      exact Act.Ends.state (Q := Stays e₀ d a) (message_ends (fun _ h => h.leave) (fun _ => h)
        fun _ hc => absurd hc hne)
  | setDrain drain => exact h.onLink rfl
  | close | closeWithError => exact absurd hg Bool.false_ne_true
  | flow | runPending | settle | submit | setMode => exact haside rfl

end Stays

/-- The write of what has come fails, and the large message has a gap from then on. -/
theorem failed_replies (hr : e.Regular) (hw : e.Waits d a) (hp : (e.link.delivery d).isPartial)
    (ha : e.Answering) {cause : Failure}
    (hf : e.reports (e.calls.length + 1) (.spoolAppend a.spool e.link.buffer) = some cause) :
    e.Replies d
      { calls := [.linkRecv e.link.buffer, .spoolAppend a.spool e.link.buffer]
        link := e.link.drained
        slot := some { a with incomplete := true }
        result := .error (.append a.id cause) }
      (.error (.internal (ReassemblyError.append a.id cause).failure)) := by
  refine message_replies hr.writable ha hw.opened hw.current ?_ rfl
  rw [turnout_received hw.given hp hw.slot, Reports.received, writes_of_ne hw.whole hw.bytes,
    Reports.written_of_some hw.whole hw.bytes hf]
  rfl

theorem failed_stays (hw : e.Waits d a) (ha : e.Answering) {calls : List Call}
    (hm : Made .receiver e calls e.link.drained (some { a with incomplete := true }) e') :
    Stays e' d { a with incomplete := true } e' where
  opened := hm.lifecycle.trans hw.opened
  current := by
    rw [hm.link, drained_current]
    exact hw.current
  slot := hm.slot
  storage := rfl
  answering := hm.toContinued.answering ha
  calls := ⟨[], by simp, by simp⟩

/-- A message with a gap is not complete when its last bytes have come. -/
theorem incomplete_replies (h : Stays e₀ d a e) (hr : e.Regular) (hi : a.incomplete)
    (hg : (e.link.delivery d).isAborted = false) (hp : (e.link.delivery d).isPartial = false) :
    e.Replies d
      { calls := [.linkRecv e.link.buffer, .linkAdvance, .spoolDelete a.spool]
        link := e.link.drained.advance
        slot := none
        result := .error (.incomplete a.id) }
      (.error (.internal (ReassemblyError.incomplete a.id).failure)) := by
  refine message_replies hr.writable h.answering h.opened h.current ?_ rfl
  have hrecv : e.reports e.calls.length (.linkRecv e.link.buffer) = none := rfl
  obtain ⟨hmade, herror⟩ := Reports.sealing_gap hrecv hi
  rw [turnout_sealed hg hp h.slot, Reports.sealed, hmade, herror]
  rfl

/-- A message with a gap is given up as any other. -/
theorem aborted_answers (h : Stays e₀ d a e) (hr : e.Regular)
    (hg : (e.link.delivery d).isAborted) :
    let t : Turnout :=
      { calls := [.spoolDelete a.spool, .linkAdvance], link := e.link.advance, slot := none
        result := .ok .aborted }
    e.Answers .receiver d t ∧ ∃ e₁, Made .receiver e t.calls t.link none e₁ ∧
      Untouched e₁ (e.after (.message d)) ∧ Trails e₁.calls (e.after (.message d)) := by
  intro t
  have hslot : (e.reassembler.get .receiver).slot = some a := h.slot
  have hgivenUp : e.givenUp .receiver = t := by
    rw [Endpoint.givenUp, hslot]
    rfl
  have hanswers := accept_answers hr.writable h.answering d
  rw [turnout_givenUp hg, hgivenUp] at hanswers
  have haborts := message_aborts hr.writable h.answering h.opened h.current hg
  rw [hgivenUp] at haborts
  obtain ⟨_, e₂, hperform, h₂⟩ := haborts.answers
  refine ⟨hanswers, ?_⟩
  rw [Endpoint.after, hperform]
  exact h₂

theorem Endpoint.Fresh.anew (h : e₀.Fresh) (run : List Event) (hs : (e₀.afterAll run).slot = none)
    (hb : (e₀.afterAll run).link.buffer = []) : Anew e₀ (e₀.afterAll run) where
  reassembler := by
    have ht : ((e₀.afterAll run).reassembler.get .receiver).threshold =
        (e₀.reassembler.get .receiver).threshold := afterAll_threshold run e₀
    have hs : ((e₀.afterAll run).reassembler.get .receiver).slot =
        (e₀.reassembler.get .receiver).slot := hs.trans h.slot.symm
    exact (Reassembler.mk.injEq ..).mpr ⟨ht, hs⟩
  buffer := hb

/-- Once a write of a part failed, the large message has a gap, whatever else happens and whatever
fails then: more of it is taken from the link and dropped, and its spool is left alone. When it is
complete it is refused, and its spool is deleted instead of finished. When it is given up it is
discarded. The link is moved past it, and the reassembler is as it was in the beginning. -/
theorem gap_stays (h : e₀.Fresh) (hc : e₀.storage.Clean) (hs : e₀.plan.Spares [.linkAdvance])
    (before tail : List Event) {cause : Failure} :
    let e := e₀.afterAll before
    e.Waits d a → (e.link.delivery d).isPartial → e.Answering →
    e.reports (e.calls.length + 1) (.spoolAppend a.spool e.link.buffer) = some cause →
      let gapped := { a with incomplete := true }
      let e₁ := e.after (.message d)
      e₁.Throughout (fun e event => e.goesOn d event) tail →
      let e₂ := e₁.afterAll tail
      let delivery := e₂.link.delivery d
      e.Replies d
        { calls := [.linkRecv e.link.buffer, .spoolAppend a.spool e.link.buffer]
          link := e.link.drained, slot := some gapped, result := .error (.append a.id cause) }
        (.error (.internal (ReassemblyError.append a.id cause).failure)) ∧
      (e₂.slot = some gapped ∧ e₂.storage = e₁.storage ∧ ∃ rest, e₂.calls = e₁.calls ++ rest ∧
        ∀ call ∈ rest, call.taken?.isSome ∨ call.grants ∨ call.settles) ∧
      (delivery.isAborted = false → delivery.isPartial →
        e₂.Replies d
          { calls := [.linkRecv e₂.link.buffer], link := e₂.link.drained, slot := some gapped
            result := .ok .pending } (.ok ())) ∧
      (delivery.isAborted = false → delivery.isPartial = false →
        e₂.Replies d
          { calls := [.linkRecv e₂.link.buffer, .linkAdvance, .spoolDelete a.spool]
            link := e₂.link.drained.advance, slot := none, result := .error (.incomplete a.id) }
          (.error (.internal (ReassemblyError.incomplete a.id).failure)) ∧
        (e₂.after (.message d)).handoffs = e₂.handoffs ∧ Anew e₀ (e₂.after (.message d))) ∧
      (delivery.isAborted →
        e₂.Answers .receiver d
          { calls := [.spoolDelete a.spool, .linkAdvance], link := e₂.link.advance, slot := none
            result := .ok .aborted } ∧
        (∃ rest, (e₂.after (.message d)).calls =
            e₂.calls ++ [.spoolDelete a.spool, .linkAdvance] ++ rest ∧
          ∀ call ∈ rest, call.grants ∨ call.settles) ∧
        Anew e₀ (e₂.after (.message d))) := by
  intro e hw hp ha hf gapped e₁ htail e₂ delivery
  have hr : e.Regular := (h.regular hc hs).afterAll before
  have hr₁ : e₁.Regular := hr.after (.message d)
  have hfailed := failed_replies hr hw hp ha hf
  obtain ⟨hr₂, hstays⟩ : e₂.Regular ∧ Stays e₁ d gapped e₂ :=
    Endpoint.Throughout.afterAll (I := fun e => e.Regular ∧ Stays e₁ d gapped e)
      (fun h hg => ⟨h.1.after _, h.2.after h.1 rfl hg⟩) tail htail
      ⟨hr₁, failed_stays hw ha hfailed.made⟩
  have hrun : e₀.afterAll (before ++ .message d :: tail ++ [.message d]) =
      e₂.after (.message d) := by
    rw [Endpoint.afterAll_append, Endpoint.afterAll_append]
    rfl
  have hanew (hslot : (e₂.after (.message d)).slot = none)
      (hbuffer : (e₂.after (.message d)).link.buffer = []) : Anew e₀ (e₂.after (.message d)) := by
    rw [← hrun] at hslot hbuffer ⊢
    exact h.anew _ hslot hbuffer
  refine ⟨hfailed, ⟨hstays.slot, hstays.storage, hstays.calls⟩, hstays.more_replies hr₂ rfl,
    fun hg hp₂ => ?_, fun hg => ?_⟩
  · have hincomplete := incomplete_replies hstays hr₂ rfl hg hp₂
    refine ⟨hincomplete, ?_, hanew hincomplete.made.slot ?_⟩
    · rw [Endpoint.handoffs, hincomplete.made.calls, List.filterMap_append]
      exact List.append_nil _
    · exact (congrArg Link.buffer hincomplete.made.link).trans (Link.advance_buffer _)
  · obtain ⟨hanswers, e₃, hm, hu, rest, hcalls, hrest⟩ := aborted_answers hstays hr₂ hg
    refine ⟨hanswers, ⟨rest, hcalls.trans (congrArg (· ++ rest) hm.calls), hrest⟩, ?_⟩
    refine hanew (hu.slot.trans hm.slot) (hu.buffer.trans ?_)
    exact (congrArg Link.buffer hm.link).trans (Link.advance_buffer _)

/-- The second write fails, and the writes after it would not. The last transfer brings no bytes. -/
theorem gap_stays_empty_last :
    let plan : Plan := fun n point =>
      if n = 6 ∧ point = .spoolAppend then some (.fails { text := "disk full" }) else none
    let e₀ : Endpoint :=
      { Endpoint.start { minLargeMessageSize := 4 } "orders" 10 ⟨1⟩ .memory none with plan }
    let e := e₀.afterAll [.begin 0 none, .transfer [1, 2, 3, 4] true, .message ⟨1⟩,
      .transfer [5] true]
    let a : Accumulator := { id := ⟨100⟩, format := 0, size := 4, spool := ⟨⟨100⟩, 0⟩ }
    let tail : List Event := [.transfer [6] true, .message ⟨1⟩, .transfer [7] true, .begin 0 none,
      .message ⟨1⟩, .transfer [] false]
    let e₂ := (e.after (.message ⟨1⟩)).afterAll tail
    (e₀.Fresh ∧ e₀.storage.Clean ∧ e₀.plan.Spares [.linkAdvance]) ∧
      (e.Waits ⟨1⟩ a ∧ (e.link.delivery ⟨1⟩).isPartial ∧ e.Answering ∧
        e.reports (e.calls.length + 1) (.spoolAppend a.spool e.link.buffer) =
          some { text := "disk full" } ∧
        (e.after (.message ⟨1⟩)).Throughout (fun e event => e.goesOn ⟨1⟩ event) tail) ∧
      e₂.slot = some { a with incomplete := true } ∧
      e₂.Replies ⟨1⟩
        { calls := [.linkRecv e₂.link.buffer, .linkAdvance, .spoolDelete a.spool]
          link := e₂.link.drained.advance, slot := none, result := .error (.incomplete a.id) }
        (.error (.internal (ReassemblyError.incomplete a.id).failure)) ∧
      Anew e₀ (e₂.after (.message ⟨1⟩)) := by
  intro plan e₀ e a tail e₂
  have hfresh : e₀.Fresh := ⟨rfl, rfl, rfl, rfl, rfl, rfl, rfl, rfl, rfl, rfl, rfl⟩
  have hclean : e₀.storage.Clean := .empty rfl rfl
  have hpanics (n : Nat) (point : Point) (k : Panic) : plan n point ≠ some (.panics k) := by
    simp only [plan]
    split <;> simp
  have hspares : e₀.plan.Spares [.linkAdvance] := fun n point _ k => hpanics n point k
  have hanswering : e.Answering := ⟨fun n point _ k _ => hpanics n point k, by decide +kernel⟩
  have hwaits : e.Waits ⟨1⟩ a :=
    ⟨by decide +kernel, by decide +kernel, by decide +kernel, by decide +kernel, rfl,
      by decide +kernel, by decide +kernel⟩
  have hpartial : (e.link.delivery ⟨1⟩).isPartial := by decide +kernel
  have hfails : e.reports (e.calls.length + 1) (.spoolAppend a.spool e.link.buffer) =
      some { text := "disk full" } := by decide +kernel
  have htail : (e.after (.message ⟨1⟩)).Throughout (fun e event => e.goesOn ⟨1⟩ event) tail := by
    decide +kernel
  obtain ⟨-, ⟨hslot, -, -⟩, -, hcomplete, -⟩ := gap_stays hfresh hclean hspares
    [.begin 0 none, .transfer [1, 2, 3, 4] true, .message ⟨1⟩, .transfer [5] true] tail hwaits
    hpartial hanswering hfails htail
  obtain ⟨hincomplete, -, hanew⟩ := hcomplete (by decide +kernel) (by decide +kernel)
  exact ⟨⟨hfresh, hclean, hspares⟩, ⟨hwaits, hpartial, hanswering, hfails, htail⟩, hslot,
    hincomplete, hanew⟩

end Staying

end ReceivingLink
