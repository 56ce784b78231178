import ReceivingLink.Proofs.Reports

/-!
# What an event comes to

The calls that reassembly makes for the delivery at the head of the link follow from what they
report, and so do its answer, what is left in the slot and how far the link is: `Endpoint.turnout`.
As long as no call panics, an event comes to its turnout: `accept_comes`. This holds for each owner
of a reassembler.
-/

namespace ReceivingLink

namespace Call

/-- The call is made after the bytes for a large message were taken from the link. -/
def isLate : Call → Bool
  | register .. | spoolAppend .. => true
  | _ => false

/-- The error that names a failed call. -/
def error (id : LargeMessageId) (cause : Failure) : Call → ReassemblyError
  | generateId => .generateId cause
  | openSpool _ => .openSpool id cause
  | register .. => .register id cause
  | spoolAppend .. => .append id cause
  | spoolFinish _ => .finish id cause
  | createMessage _ => .createMessage cause
  | _ => .transaction cause

end Call

namespace Accumulator

/-- The calls that write bytes: none for no bytes, or behind a gap. -/
def writes (a : Accumulator) (bytes : Bytes) : List Call :=
  if bytes.isEmpty || a.incomplete then [] else [.spoolAppend a.spool bytes]

/-- The calls that take the last bytes and finish the spool, unless there is a gap. -/
def sealing (a : Accumulator) (bytes : Bytes) : List Call :=
  .linkRecv bytes :: a.writes bytes ++ if a.incomplete then [] else [.spoolFinish a.spool]

/-- The accumulator with bytes behind those that were written. -/
def grown (a : Accumulator) (bytes : Bytes) : Accumulator :=
  { a with size := a.size + bytes.length }

@[simp] theorem grown_spool (a : Accumulator) (bytes : Bytes) :
    (a.grown bytes).spool = a.spool := rfl

end Accumulator

/-- What an event for the delivery at the head comes to: the calls that are made, the link and the
slot that they leave, and the answer. -/
structure Turnout where
  calls : List Call
  link : Link
  slot : Option Accumulator
  result : Except ReassemblyError Reassembly

/-- The turnout of an event that made other calls before. -/
def Turnout.behind (t : Turnout) (calls : List Call) : Turnout :=
  { t with calls := calls ++ t.calls }

namespace Reports

variable (r : Reports) (n : Nat) (a : Accumulator) (l : Link)

/-- The accumulator after bytes were written, and whether they were. -/
def written (bytes : Bytes) : Accumulator × Except ReassemblyError Unit :=
  if bytes.isEmpty || a.incomplete then (a, .ok ())
  else
    match r n (.spoolAppend a.spool bytes) with
    | some cause => ({ a with incomplete := true }, .error (.append a.id cause))
    | none => (a.grown bytes, .ok ())

/-- More of a large message is written to its spool. -/
def received : Turnout where
  calls := .linkRecv l.buffer :: a.writes l.buffer
  link := l.drained
  slot := some (r.written (n + 1) a l.buffer).1
  result := (r.written (n + 1) a l.buffer).2.map fun _ => .pending

/-- Why a large message is not sealed: a call that failed, or a gap from before. -/
def sealError? (bytes : Bytes) : Option ReassemblyError :=
  match r.broken? n (a.sealing bytes) with
  | some (call, cause) => some (call.error a.id cause)
  | none => if a.incomplete then some (.incomplete a.id) else none

/-- A large message is complete. The link is moved past it in any case, and its spool is deleted if
it could not be sealed. -/
def sealed : Turnout where
  calls := r.made n (a.sealing l.buffer) ++ .linkAdvance ::
    if (r.sealError? n a l.buffer).isSome then [.spoolDelete a.spool] else []
  link := l.drained.advance
  slot := none
  result :=
    match r.sealError? n a l.buffer with
    | some error => .error error
    | none => .ok (.complete (.large (a.grown l.buffer).message))

/-- A message that was not spooled is complete. -/
def small (d : DeliveryId) : Turnout where
  calls := [.linkRecv l.buffer, .linkAdvance, .createMessage l.buffer]
  link := l.drained.advance
  slot := none
  result :=
    match r (n + 2) (.createMessage l.buffer) with
    | some cause => .error (.createMessage cause)
    | none => .ok (.complete (.standard { format := (l.delivery d).format, payload := l.buffer }))

end Reports

namespace Endpoint

variable (e : Endpoint)

/-- The large message that is coming in for an owner has a spool that can be written to. -/
structure Writable (o : Owner) : Prop where
  clean : e.storage.Clean
  opened : ∀ a, (e.reassembler.get o).slot = some a → a.spool.place < e.storage.records.length
  unfinished : ∀ a, (e.reassembler.get o).slot = some a →
    (e.storage.record a.spool).finished = false
  persistent : (e.reassembler.get o).slot.isSome → e.isPersistent

variable {e} in
theorem Writable.responsive {o : Owner} (h : e.Writable o) (ha : e.Answering) :
    e.Responsive o :=
  ⟨ha, h.clean.table, fun a _ => h.clean.records a.spool, h.unfinished⟩

/-- What has come for a delivery makes an owner start a large message. -/
def isDue (o : Owner) (d : DeliveryId) : Bool :=
  e.isPersistent && (e.reassembler.get o).threshold.any (· ≤ (e.link.delivery d).available)

/-- The accumulator that a large message is started with. Nothing is written yet, and the bytes
that wait tell if there is a header. -/
def blank (d : DeliveryId) : Accumulator :=
  { id := ⟨e.storage.nextId⟩, format := (e.link.delivery d).format,
    headerPresent := Header.isPresent e.link.buffer
    spool := e.storage.newSpool ⟨e.storage.nextId⟩ }

/-- The calls that start a large message. -/
def opening (d : DeliveryId) : List Call :=
  [.generateId, .openSpool (e.blank d).id, .linkRecv e.link.buffer,
    .register (e.blank d).id (e.blank d)] ++ (e.blank d).writes e.link.buffer

/-- A large message is started with all bytes that wait. -/
def started (d : DeliveryId) : Turnout where
  calls := e.opening d
  link := e.link.drained
  slot := some ((e.blank d).grown e.link.buffer)
  result := .ok .pending

/-- A large message is not started, because a call failed. After a late one the spool is deleted. -/
def unstarted (d : DeliveryId) (call : Call) (cause : Failure) : Turnout where
  calls := e.reports.made e.calls.length (e.opening d) ++
    if call.isLate then [.spoolDelete (e.blank d).spool] else []
  link := if call.isLate then e.link.drained else e.link
  slot := none
  result := .error (call.error (e.blank d).id cause)

/-- The delivery was given up. The large message that is coming in is discarded. -/
def givenUp (o : Owner) : Turnout where
  calls :=
    ((e.reassembler.get o).slot.map fun a => Call.spoolDelete a.spool).toList ++ [.linkAdvance]
  link := e.link.advance
  slot := none
  result := .ok .aborted

/-- What has come waits in the link. -/
def quiet : Turnout where
  calls := []
  link := e.link
  slot := none
  result := .ok .pending

/-- What an event for the delivery at the head comes to. -/
def turnout (o : Owner) (d : DeliveryId) : Turnout :=
  let delivery := e.link.delivery d
  let n := e.calls.length
  if delivery.isAborted then e.givenUp o
  else
    match (e.reassembler.get o).slot with
    | some a =>
      if delivery.isPartial then e.reports.received n a e.link else e.reports.sealed n a e.link
    | none =>
      if e.isDue o d then
        match e.reports.broken? n (e.opening d) with
        | some (call, cause) => e.unstarted d call cause
        | none =>
          if delivery.isPartial then e.started d
          else
            (e.reports.sealed (n + (e.opening d).length) ((e.blank d).grown e.link.buffer)
              e.link.drained).behind (e.opening d)
      else if delivery.isPartial then e.quiet
      else e.reports.small n e.link d

end Endpoint

/-! ## One large message -/

section Writing

variable {r : Reports} {n : Nat} {a : Accumulator} {bytes : Bytes}

theorem writes_gap (hi : a.incomplete) (bytes : Bytes) : a.writes bytes = [] := by
  simp [Accumulator.writes, hi]

theorem writes_nil (a : Accumulator) : a.writes [] = [] := rfl

theorem writes_of_ne (hi : a.incomplete = false) (hb : bytes ≠ []) :
    a.writes bytes = [.spoolAppend a.spool bytes] := by
  simp [Accumulator.writes, hi, hb]

namespace Reports

theorem written_gap (hi : a.incomplete) (bytes : Bytes) : r.written n a bytes = (a, .ok ()) := by
  simp [written, hi]

theorem written_nil : r.written n a [] = (a, .ok ()) := rfl

theorem written_spool : (r.written n a bytes).1.spool = a.spool := by
  unfold written
  split
  · rfl
  · split <;> rfl

theorem written_of_none (hi : a.incomplete = false) (hb : bytes ≠ [])
    (h : r n (.spoolAppend a.spool bytes) = none) :
    r.written n a bytes = (a.grown bytes, .ok ()) := by
  simp [written, hi, hb, h]

theorem written_of_some (hi : a.incomplete = false) (hb : bytes ≠ []) {cause : Failure}
    (h : r n (.spoolAppend a.spool bytes) = some cause) :
    r.written n a bytes = ({ a with incomplete := true }, .error (.append a.id cause)) := by
  simp [written, hi, hb, h]

/-- The calls that write are made whether they fail or not. -/
theorem made_writes (a : Accumulator) (bytes : Bytes) :
    r.made n (a.writes bytes) = a.writes bytes := by
  unfold Accumulator.writes
  split
  · rfl
  · simp [made]

/-- Bytes are written, or the call that should have written them has failed. -/
theorem written_or (hi : a.incomplete = false) (bytes : Bytes) :
    r.broken? n (a.writes bytes) = none ∧ r.written n a bytes = (a.grown bytes, .ok ()) ∨
      ∃ cause, r.broken? n (a.writes bytes) = some (.spoolAppend a.spool bytes, cause) ∧
        r.written n a bytes = ({ a with incomplete := true }, .error (.append a.id cause)) := by
  by_cases hb : bytes = []
  · subst hb
    exact .inl ⟨rfl, rfl⟩
  rw [writes_of_ne hi hb]
  rcases hc : r n (.spoolAppend a.spool bytes) with _ | cause
  · exact .inl ⟨broken?_of_none hc, written_of_none hi hb hc⟩
  · exact .inr ⟨cause, broken?_of_some hc, written_of_some hi hb hc⟩

/-- A gap keeps a large message from being sealed, and no call fails for it. -/
theorem sealing_gap (hr : r n (.linkRecv bytes) = none) (hi : a.incomplete) :
    r.made n (a.sealing bytes) = [.linkRecv bytes] ∧
      r.sealError? n a bytes = some (.incomplete a.id) := by
  have hsealing : a.sealing bytes = [.linkRecv bytes] := by
    simp [Accumulator.sealing, writes_gap hi, hi]
  rw [sealError?, hsealing, made_of_none hr, broken?_of_none hr, if_pos hi]
  exact ⟨rfl, rfl⟩

/-- A write that fails ends the sealing. -/
theorem sealing_of_error (hr : r n (.linkRecv bytes) = none) {error : ReassemblyError}
    (hw : (r.written (n + 1) a bytes).2 = .error error) :
    r.made n (a.sealing bytes) = .linkRecv bytes :: a.writes bytes ∧
      r.sealError? n a bytes = some error := by
  rcases hi : a.incomplete with _ | _
  swap
  · rw [written_gap hi] at hw
    cases hw
  by_cases hb : bytes = []
  · rw [hb, written_nil] at hw
    cases hw
  rcases hc : r (n + 1) (.spoolAppend a.spool bytes) with _ | cause
  · rw [written_of_none hi hb hc] at hw
    cases hw
  · rw [written_of_some hi hb hc] at hw
    rw [sealError?, Accumulator.sealing, writes_of_ne hi hb, List.cons_append, List.cons_append,
      made_of_none hr, made_of_some hc, broken?_of_none hr, broken?_of_some hc]
    cases hw
    exact ⟨rfl, rfl⟩

/-- After the last write the spool is finished, unless there is a gap. -/
theorem sealing_of_ok (hr : r n (.linkRecv bytes) = none) (hi : a.incomplete = false)
    (hw : (r.written (n + 1) a bytes).2 = .ok ()) :
    (r.written (n + 1) a bytes).1 = a.grown bytes ∧
      r.made n (a.sealing bytes) =
        .linkRecv bytes :: a.writes bytes ++ [.spoolFinish a.spool] ∧
      r.sealError? n a bytes =
        (r (n + 1 + (a.writes bytes).length) (.spoolFinish a.spool)).map (.finish a.id) := by
  have hfinish (m : Nat) : r.made m [.spoolFinish a.spool] = [.spoolFinish a.spool] := by
    simp [made]
  have hbroken (m : Nat) : (match r.broken? m [.spoolFinish a.spool] with
      | some (call, cause) => some (call.error a.id cause)
      | none => none) = (r m (.spoolFinish a.spool)).map (ReassemblyError.finish a.id) := by
    simp only [broken?]
    cases r m (.spoolFinish a.spool) <;> rfl
  rw [sealError?, Accumulator.sealing, hi]
  by_cases hb : bytes = []
  · subst hb
    rw [written_nil, writes_nil]
    exact ⟨rfl, by simp [made_of_none hr, hfinish], by simpa [broken?_of_none hr] using hbroken _⟩
  rcases hc : r (n + 1) (.spoolAppend a.spool bytes) with _ | cause
  · rw [written_of_none hi hb hc, writes_of_ne hi hb]
    exact ⟨rfl, by simp [made_of_none hr, made_of_none hc, hfinish],
      by simpa [broken?_of_none hr, broken?_of_none hc] using hbroken _⟩
  · rw [written_of_some hi hb hc] at hw
    cases hw

end Reports

end Writing

/-- Behind calls that were made before, a message is formed as the turnout says, unless a call
panics. -/
def Turnout.Forms {α : Type} (t : Turnout) (form : α → Message) (o : Owner) (e : Endpoint)
    (made : List Call) (e₁ : Endpoint) (x : Attempt ReassemblyError α) : Prop :=
  x.Ends e₁
    (fun a e₂ => t.result = .ok (.complete (form a)) ∧
      Made o e (made ++ t.calls) t.link t.slot e₂)
    (fun error e₂ => t.result = .error error ∧ Made o e (made ++ t.calls) t.link t.slot e₂)
    fun _ _ => ¬ e.Responsive o

section Large

variable {o : Owner} {e e₁ : Endpoint} {made : List Call} {link : Link}
  {slot : Option Accumulator} {a : Accumulator}

theorem Made.append_ends (h : Made o e made link slot e₁)
    (hp : e.Responsive o → (e.storage.record a.spool).poisoned = false)
    (hu : e.Responsive o → (e₁.storage.record a.spool).finished = false) (bytes : Bytes) :
    (a.append bytes).Ends e₁
      (fun r e₂ => r = e.reports.written (e.calls.length + made.length) a bytes ∧
        Made o e (made ++ a.writes bytes) link slot e₂)
      fun _ _ => ¬ e.Responsive o := by
  unfold Accumulator.append Accumulator.writes Reports.written
  refine Act.ends_ite.2 ⟨fun hb => ?_, fun hb => Act.ends_ite.2 ⟨fun hi => ?_, fun hi => ?_⟩⟩
  · exact ⟨by simp [hb], by simpa [hb] using h⟩
  · refine Act.ends_bind.2 (Act.ends_modify.2 ⟨by simp [hi], ?_⟩)
    simpa [hi] using h.told
  · have hwrites : ¬ (bytes.isEmpty || a.incomplete) := by simp [hb, hi]
    simp only [if_neg hwrites]
    refine Act.ends_bind.2 (Act.ends_run.2 ((h.spoolAppend_calls hp hu bytes).imp ?_ ?_
      fun _ _ => id))
    · rintro _ e₂ ⟨-, hr, h₂⟩
      rw [hr]
      exact ⟨rfl, h₂⟩
    · rintro cause e₂ ⟨hr, h₂⟩
      rw [hr]
      exact ⟨rfl, h₂⟩

theorem Made.receive_ends (h : Made o e made link slot e₁)
    (hp : e.Responsive o → (e.storage.record a.spool).poisoned = false)
    (hu : e.Responsive o → (e₁.storage.record a.spool).finished = false) :
    a.receive.Ends e₁
      (fun r e₂ => r = e.reports.written (e.calls.length + made.length + 1) a link.buffer ∧
        Made o e (made ++ .linkRecv link.buffer :: a.writes link.buffer) link.drained slot e₂)
      fun _ _ => ¬ e.Responsive o := by
  refine Act.ends_bind.2 (h.recv_ends.imp ?_ fun _ _ => id)
  rintro _ e₂ ⟨rfl, h₂⟩
  have hu₂ (hr : e.Responsive o) : (e₂.storage.record a.spool).finished = false := by
    rw [h₂.storage, Reports.replay_append, ← h.storage]
    exact hu hr
  refine (h₂.append_ends hp hu₂ _).imp (fun r e₃ h₃ => ?_) fun _ _ => id
  simpa [Nat.add_assoc] using h₃

theorem Made.finish_ends (h : Made o e made link slot e₁)
    (hp : e.Responsive o → (e.storage.record a.spool).poisoned = false)
    (hi : a.incomplete = false) :
    a.finish.Ends e₁
      (fun _ e₂ => e.reports (e.calls.length + made.length) (.spoolFinish a.spool) = none ∧
        Made o e (made ++ [.spoolFinish a.spool]) link slot e₂)
      (fun error e₂ => (e.reports (e.calls.length + made.length) (.spoolFinish a.spool)).map
          (.finish a.id) = some error ∧
        Made o e (made ++ [.spoolFinish a.spool]) link slot e₂)
      fun _ _ => ¬ e.Responsive o := by
  unfold Accumulator.finish
  refine Attempt.ends_ite.2 ⟨fun hgap => absurd (hi.symm.trans hgap) Bool.false_ne_true,
    fun _ => ?_⟩
  refine Attempt.ends_bind.2 (Attempt.ends_adapt.2 ((h.spoolFinish_calls hp).imp
    (fun _ e₂ h₂ => ?_) (fun cause e₂ h₂ => ?_) fun _ _ => id))
  · exact Attempt.ends_lift.2 (Act.ends_modify.2 ⟨h₂.2.1, h₂.2.2.told⟩)
  · exact ⟨by rw [h₂.1]; rfl, h₂.2⟩

/-- The link is moved past a large message, which leaves its slot. -/
theorem Made.release_ends (h : Made o e made link slot e₁)
    (hp : e.Responsive o → (e.storage.record a.spool).poisoned = false)
    (sealed : Except ReassemblyError Unit) :
    (Reassembler.release o a sealed).Ends e₁
      (fun large e₂ => sealed = .ok () ∧ large = a.message ∧
        Made o e (made ++ [.linkAdvance]) link.advance none e₂)
      (fun error e₂ => sealed = .error error ∧
        Made o e (made ++ [.linkAdvance, .spoolDelete a.spool]) link.advance none e₂)
      fun _ _ => ¬ e.Responsive o := by
  refine Attempt.ends_bind.2 (Attempt.ends_lift.2 (h.moveOn_ends.imp (fun _ e₂ h₂ => ?_)
    fun _ _ => id))
  refine Attempt.ends_bind.2 (Attempt.ends_lift.2 (Act.ends_modify.2 ?_))
  rcases sealed with error | _
  · refine Attempt.ends_bind.2 (Attempt.ends_lift.2 (((h₂.put none).drop_ends hp).imp
      (fun _ e₃ h₃ => ?_) fun _ _ => id))
    exact ⟨rfl, by simpa using h₃⟩
  · exact ⟨rfl, rfl, h₂.put none⟩

/-- What could not be sealed is dropped, under the name and in the spool that it had. -/
theorem Made.release_fails {written : Accumulator} {error : ReassemblyError}
    (h : Made o e (made ++ e.reports.made (e.calls.length + made.length) (a.sealing link.buffer))
      link.drained slot e₁)
    (hp : e.Responsive o → (e.storage.record a.spool).poisoned = false)
    (herror : e.reports.sealError? (e.calls.length + made.length) a link.buffer = some error)
    (hspool : written.spool = a.spool) :
    (e.reports.sealed (e.calls.length + made.length) a link).Forms .large o e made e₁
      (Reassembler.release o written (.error error)) := by
  have hpw : e.Responsive o → (e.storage.record written.spool).poisoned = false := hspool ▸ hp
  refine (h.release_ends hpw (.error error)).imp (fun _ _ h₁ => nomatch h₁.1) ?_ fun _ _ => id
  rintro _ e₂ ⟨⟨rfl⟩, h₁⟩
  refine ⟨by simp [Reports.sealed, herror], ?_⟩
  simpa [Reports.sealed, herror, hspool] using h₁

/-- What is sealed is a message of all bytes that were written. -/
theorem Made.release_seals
    (h : Made o e (made ++ e.reports.made (e.calls.length + made.length) (a.sealing link.buffer))
      link.drained slot e₁)
    (hp : e.Responsive o → (e.storage.record a.spool).poisoned = false)
    (hsealed : e.reports.sealError? (e.calls.length + made.length) a link.buffer = none) :
    (e.reports.sealed (e.calls.length + made.length) a link).Forms .large o e made e₁
      (Reassembler.release o (a.grown link.buffer) (.ok ())) := by
  refine (h.release_ends (a := a.grown link.buffer) hp (.ok ())).imp ?_
    (fun _ _ h₁ => nomatch h₁.1) fun _ _ => id
  rintro _ e₂ ⟨-, rfl, h₁⟩
  refine ⟨by simp [Reports.sealed, hsealed], ?_⟩
  simpa [Reports.sealed, hsealed] using h₁

/-- The last bytes of a large message are written and the message is sealed, or not. -/
theorem Made.sealLarge_forms (h : Made o e made link slot e₁)
    (hp : e.Responsive o → (e.storage.record a.spool).poisoned = false)
    (hu : e.Responsive o → (e₁.storage.record a.spool).finished = false) :
    (e.reports.sealed (e.calls.length + made.length) a link).Forms .large o e made e₁
      (Reassembler.sealLarge o a) := by
  have hrecv : e.reports (e.calls.length + made.length) (.linkRecv link.buffer) = none := rfl
  refine Attempt.ends_bind.2 (Attempt.ends_lift.2 ((h.receive_ends hp hu).imp ?_ fun _ _ => id))
  rintro ⟨written, result⟩ e₂ ⟨hr, h₂⟩
  have h₃ := h₂.put (some written)
  refine Attempt.ends_bind.2 (Attempt.ends_lift.2 (Act.ends_modify.2 ?_))
  have hw := congrArg Prod.snd hr
  have hwritten := congrArg Prod.fst hr
  dsimp only at hw hwritten
  have hspool : written.spool = a.spool := by rw [hwritten, Reports.written_spool]
  rcases result with error | _
  · obtain ⟨hmade, herror⟩ := Reports.sealing_of_error hrecv hw.symm
    rw [← hmade] at h₃
    exact h₃.release_fails hp herror hspool
  rcases hi : a.incomplete with _ | _
  · obtain ⟨hgrown, hmade, herror⟩ := Reports.sealing_of_ok hrecv hi hw.symm
    obtain rfl : written = a.grown link.buffer := hwritten.trans hgrown
    have hnumber : e.calls.length + (made ++ .linkRecv link.buffer :: a.writes link.buffer).length =
        e.calls.length + made.length + 1 + (a.writes link.buffer).length := by
      simp only [List.length_append, List.length_cons]
      omega
    have hfinish := h₃.finish_ends (a := a.grown link.buffer) hp hi
    rw [hnumber, List.append_assoc, show (a.grown link.buffer).spool = a.spool from rfl,
      ← hmade] at hfinish
    refine Attempt.ends_bind.2 (Attempt.ends_lift.2 (Act.ends_run.2 (hfinish.imp
      (fun _ e₃ h₄ => ?_) (fun error e₃ h₄ => ?_) fun _ _ => id)))
    · exact h₄.2.release_seals hp (by rw [herror, h₄.1]; rfl)
    · exact h₄.2.release_fails hp (herror.trans h₄.1) hspool
  · obtain ⟨hmade, herror⟩ := Reports.sealing_gap hrecv hi
    rw [writes_gap hi, ← hmade] at h₃
    obtain rfl : written = a := hwritten.trans (by rw [Reports.written_gap hi])
    refine Attempt.ends_bind.2 (Attempt.ends_lift.2 (Act.ends_run.2 (Attempt.ends_ite.2
      ⟨fun _ => ?_, fun hn => absurd hi hn⟩)))
    exact Attempt.ends_bind.2 (h₃.release_fails hp herror rfl)

end Large

section Starting

variable {o : Owner} {e e₁ : Endpoint} {d : DeliveryId}

/-- What a start calls once it has a spool. -/
theorem opening_made (hgenerate : e.reports e.calls.length .generateId = none)
    (hopen : e.reports (e.calls.length + 1) (.openSpool (e.blank d).id) = none) :
    let rest := .register (e.blank d).id (e.blank d) :: (e.blank d).writes e.link.buffer
    e.reports.made e.calls.length (e.opening d) = .generateId :: .openSpool (e.blank d).id ::
        .linkRecv e.link.buffer :: e.reports.made (e.calls.length + 3) rest ∧
      e.reports.broken? e.calls.length (e.opening d) =
        e.reports.broken? (e.calls.length + 3) rest := by
  have hrecv : e.reports (e.calls.length + 1 + 1) (.linkRecv e.link.buffer) = none := rfl
  constructor
  · exact (Reports.made_of_none hgenerate).trans (congrArg _ ((Reports.made_of_none hopen).trans
      (congrArg _ (Reports.made_of_none hrecv))))
  · exact (Reports.broken?_of_none hgenerate).trans ((Reports.broken?_of_none hopen).trans
      (Reports.broken?_of_none hrecv))

/-- A spool that was opened and registered is empty. -/
theorem Made.blank_empty {link : Link} {slot : Option Accumulator}
    (h : Made o e [.generateId, .openSpool (e.blank d).id, .linkRecv e.link.buffer,
      .register (e.blank d).id (e.blank d)] link slot e₁)
    (hgenerate : e.reports e.calls.length .generateId = none)
    (hopen : e.reports (e.calls.length + 1) (.openSpool (e.blank d).id) = none) :
    e₁.storage.record (e.blank d).spool = { id := (e.blank d).id } := by
  have hrecord := e.storage.issue.record_newSpool (e.blank d).id
  have hrecv : e.reports (e.calls.length + 1 + 1) (.linkRecv e.link.buffer) = none := rfl
  rw [h.storage]
  simp only [Reports.replay, hgenerate, hopen, hrecv, Option.isSome_none, Bool.false_eq_true,
    ↓reduceIte, Storage.perform]
  split
  · exact hrecord
  · rw [Storage.record, Storage.register_records]
    exact hrecord

/-- A large message that was started lies in a spool that was opened for it and can be written
to. -/
theorem Made.started_spool {link : Link} {slot : Option Accumulator}
    (h : Made o e (e.opening d) link slot e₁)
    (hb : e.reports.broken? e.calls.length (e.opening d) = none) :
    e₁.storage.records.length = e.storage.records.length + 1 ∧
      (e₁.storage.record (e.blank d).spool).finished = false := by
  let s := ((e.storage.issue.opened (e.blank d).id).register (e.blank d).id (e.blank d).format)
  have hlength : s.records.length = e.storage.records.length + 1 := by
    simp [s, Storage.opened, Storage.issue]
  have hrecord : (s.record (e.blank d).spool).finished = false := by
    rw [Storage.record, Storage.register_records]
    exact congrArg SpoolRecord.finished (e.storage.issue.record_newSpool (e.blank d).id)
  rw [h.storage, Reports.replay_of_none _ hb, Endpoint.opening, List.foldl_append]
  change ((List.foldl Storage.perform s _).records.length = _) ∧
    ((List.foldl Storage.perform s _).record _).finished = false
  by_cases hbuffer : e.link.buffer = []
  · rw [hbuffer, writes_nil]
    exact ⟨hlength, hrecord⟩
  · rw [writes_of_ne rfl hbuffer]
    have happended :
        ((s.append (e.blank d).spool e.link.buffer).record (e.blank d).spool).finished =
          (s.record (e.blank d).spool).finished := s.record_change (fun _ => by rfl) _
    refine ⟨?_, happended.trans hrecord⟩
    simpa [Storage.perform, Storage.append, Storage.change] using hlength

/-- No record is there yet of a spool that would be opened. -/
theorem blank_sound (e : Endpoint) (d : DeliveryId) :
    (e.storage.record (e.blank d).spool).poisoned = false := by
  rw [Storage.record_of_le _ (Nat.le_refl _)]

theorem start_comes (e : Endpoint) (o : Owner) (d : DeliveryId) :
    (Accumulator.start d).Ends e
      (fun a e' => e.reports.broken? e.calls.length (e.opening d) = none ∧
        a = (e.blank d).grown e.link.buffer ∧
        Made o e (e.started d).calls (e.started d).link (e.reassembler.get o).slot e')
      (fun error e' => ∃ call cause,
        e.reports.broken? e.calls.length (e.opening d) = some (call, cause) ∧
        error = call.error (e.blank d).id cause ∧
        Made o e (e.unstarted d call cause).calls (e.unstarted d call cause).link
          (e.reassembler.get o).slot e')
      fun _ _ => ¬ e.Responsive o := by
  have h := Made.refl o e
  have hp : e.Responsive o → (e.storage.record (e.blank d).spool).poisoned = false :=
    fun _ => blank_sound e d
  refine Attempt.ends_bind.2 (Attempt.ends_adapt.2 (h.generateId_calls.imp ?_ ?_ fun _ _ => id))
  swap
  · rintro cause e₁ ⟨hr : e.reports e.calls.length .generateId = some cause, h₁⟩
    refine ⟨_, cause, Reports.broken?_of_some hr, rfl, ?_⟩
    have hmade : e.reports.made e.calls.length (e.opening d) = [.generateId] :=
      Reports.made_of_some hr
    simpa [Endpoint.unstarted, hmade, Call.isLate] using h₁
  rintro _ e₁ ⟨rfl, hgenerate : e.reports e.calls.length .generateId = none, h₁⟩
  have hspool : e₁.storage.newSpool (e.blank d).id = (e.blank d).spool := by
    rw [h₁.storage]
    simp only [List.nil_append, Reports.replay, hgenerate]
    rfl
  refine Attempt.ends_bind.2 (Attempt.ends_adapt.2 ((h₁.openSpool_calls (e.blank d).id).imp ?_ ?_
    fun _ _ => id))
  swap
  · rintro cause e₂
      ⟨hr : e.reports (e.calls.length + 1) (.openSpool (e.blank d).id) = some cause, h₂⟩
    refine ⟨_, cause, (Reports.broken?_of_none hgenerate).trans (Reports.broken?_of_some hr), rfl,
      ?_⟩
    have hmade : e.reports.made e.calls.length (e.opening d) =
        [.generateId, .openSpool (e.blank d).id] :=
      (Reports.made_of_none hgenerate).trans (congrArg _ (Reports.made_of_some hr))
    simpa [Endpoint.unstarted, hmade, Call.isLate] using h₂
  rintro _ e₂ ⟨rfl, hopen : e.reports (e.calls.length + 1) (.openSpool (e.blank d).id) = none, h₂⟩
  rw [hspool]
  refine Attempt.ends_bind.2 (Attempt.ends_get.2 (Attempt.ends_bind.2 (Attempt.ends_lift.2
    (h₂.recv_ends.imp ?_ fun _ _ => id))))
  rintro _ e₃ ⟨rfl, h₃⟩
  rw [h₂.link]
  obtain ⟨hmade, hbroken⟩ := opening_made hgenerate hopen
  refine Attempt.ends_bind.2 (Attempt.ends_lift.2 (Act.ends_run.2
    ((h₃.register_calls (e.blank d).id (e.blank d)).imp ?_ ?_ fun _ _ => id)))
  swap
  · rintro cause e₄
      ⟨hr : e.reports (e.calls.length + 3) (.register (e.blank d).id (e.blank d)) = some cause, h₄⟩
    refine Attempt.ends_bind.2 (Attempt.ends_lift.2 ((h₄.drop_ends hp).imp
      (fun _ e₅ h₅ => ?_) fun _ _ => id))
    refine ⟨_, cause, hbroken.trans (Reports.broken?_of_some hr), rfl, ?_⟩
    rw [Reports.made_of_some hr] at hmade
    simpa [Endpoint.unstarted, hmade, Call.isLate] using h₅
  rintro _ e₄ ⟨-, hregister, h₄⟩
  have hregister : e.reports (e.calls.length + 3) (.register (e.blank d).id (e.blank d)) = none :=
    hregister
  rw [Reports.made_of_none hregister] at hmade
  rw [Reports.broken?_of_none hregister] at hbroken
  have hunfinished : (e₄.storage.record (e.blank d).spool).finished = false := by
    rw [h₄.blank_empty hgenerate hopen]
  refine Attempt.ends_bind.2 (Attempt.ends_lift.2 ((h₄.append_ends hp (fun _ => hunfinished)
    e.link.buffer).imp ?_ fun _ _ => id))
  rintro ⟨written, result⟩ e₅ ⟨hw : _ = e.reports.written (e.calls.length + 3 + 1) (e.blank d)
    e.link.buffer, h₅⟩
  have hall := Reports.made_writes (r := e.reports) (n := e.calls.length + 3 + 1) (e.blank d)
    e.link.buffer
  rw [hall] at hmade
  rcases Reports.written_or (r := e.reports) (n := e.calls.length + 3 + 1) (a := e.blank d) rfl
    e.link.buffer with ⟨hnone, hok⟩ | ⟨cause, hsome, herror⟩
  · cases hw.trans hok
    exact Attempt.ends_bind.2 (Attempt.ends_lift.2 (Act.ends_modify.2
      ⟨hbroken.trans hnone, rfl, h₅.told⟩))
  · cases hw.trans herror
    refine Attempt.ends_bind.2 (Attempt.ends_lift.2 ((h₅.drop_ends (by exact hp)).imp
      (fun _ e₆ h₆ => ?_) fun _ _ => id))
    refine ⟨_, cause, hbroken.trans hsome, rfl, ?_⟩
    simpa [Endpoint.unstarted, hmade, Call.isLate] using h₆

end Starting

/-! ## An event -/

section Turning

variable {e : Endpoint} {o : Owner} {d : DeliveryId} {a : Accumulator}

theorem turnout_givenUp (h : (e.link.delivery d).isAborted) : e.turnout o d = e.givenUp o := by
  simp [Endpoint.turnout, h]

section Given

variable (hg : (e.link.delivery d).isAborted = false)

include hg

theorem turnout_received (hp : (e.link.delivery d).isPartial)
    (hs : (e.reassembler.get o).slot = some a) :
    e.turnout o d = e.reports.received e.calls.length a e.link := by
  simp [Endpoint.turnout, hg, hp, hs]

theorem turnout_sealed (hp : (e.link.delivery d).isPartial = false)
    (hs : (e.reassembler.get o).slot = some a) :
    e.turnout o d = e.reports.sealed e.calls.length a e.link := by
  simp [Endpoint.turnout, hg, hp, hs]

variable (hs : (e.reassembler.get o).slot = none)

include hs

theorem turnout_quiet (hp : (e.link.delivery d).isPartial) (hn : e.isDue o d = false) :
    e.turnout o d = e.quiet := by
  simp [Endpoint.turnout, hg, hp, hs, hn]

theorem turnout_small (hp : (e.link.delivery d).isPartial = false) (hn : e.isDue o d = false) :
    e.turnout o d = e.reports.small e.calls.length e.link d := by
  simp [Endpoint.turnout, hg, hp, hs, hn]

theorem turnout_unstarted (hdue : e.isDue o d) {call : Call} {cause : Failure}
    (hb : e.reports.broken? e.calls.length (e.opening d) = some (call, cause)) :
    e.turnout o d = e.unstarted d call cause := by
  simp [Endpoint.turnout, hg, hs, hdue, hb]

theorem turnout_started (hp : (e.link.delivery d).isPartial) (hdue : e.isDue o d)
    (hb : e.reports.broken? e.calls.length (e.opening d) = none) : e.turnout o d = e.started d := by
  simp [Endpoint.turnout, hg, hp, hs, hdue, hb]

theorem turnout_behind (hp : (e.link.delivery d).isPartial = false) (hdue : e.isDue o d)
    (hb : e.reports.broken? e.calls.length (e.opening d) = none) :
    e.turnout o d = (e.reports.sealed (e.calls.length + (e.opening d).length)
      ((e.blank d).grown e.link.buffer) e.link.drained).behind (e.opening d) := by
  simp [Endpoint.turnout, hg, hp, hs, hdue, hb]

end Given

/-- The large message that is coming in is given up, if there is one. -/
theorem discard_comes (e : Endpoint) (o : Owner) :
    (Reassembler.discard o).Ends e
      (fun there e' => there = (e.reassembler.get o).slot.isSome ∧
        Made o e ((e.reassembler.get o).slot.map fun a => Call.spoolDelete a.spool).toList e.link
          none e')
      fun _ _ => ¬ e.Responsive o := by
  have h := Made.refl o e
  refine Act.ends_bind.2 (ends_current.2 ?_)
  rcases hslot : (e.reassembler.get o).slot with _ | a
  · rw [hslot] at h
    exact ⟨rfl, h⟩
  · have hp (hr : e.Responsive o) := hr.sound a hslot
    exact Act.ends_bind.2 (Act.ends_modify.2 (Act.ends_bind.2 (((h.put none).drop_ends hp).imp
      (fun _ e₁ h₁ => ⟨rfl, h₁⟩) fun _ _ => id)))

/-- A large message is started if enough has come. -/
theorem startIfLarge_comes (hslot : (e.reassembler.get o).slot = none)
    (hp : e.isPersistent) (d : DeliveryId) :
    (Reassembler.startIfLarge o d).Ends e
      (fun _ e' => e.isDue o d = false ∧ e' = e ∨ e.isDue o d ∧
        e.reports.broken? e.calls.length (e.opening d) = none ∧
        Made o e (e.started d).calls (e.started d).link (e.started d).slot e')
      (fun error e' => e.isDue o d ∧ ∃ call cause,
        e.reports.broken? e.calls.length (e.opening d) = some (call, cause) ∧
        error = call.error (e.blank d).id cause ∧
        Made o e (e.unstarted d call cause).calls (e.unstarted d call cause).link none e')
      fun _ _ => ¬ e.Responsive o := by
  refine Attempt.ends_bind.2 (Attempt.ends_get.2 ?_)
  split
  · rename_i hnone
    exact .inl ⟨by simp [Endpoint.isDue, hnone], rfl⟩
  rename_i threshold hsome
  refine Attempt.ends_ite.2 ⟨fun hle => ?_, fun hlt => .inl ⟨?_, rfl⟩⟩
  · have hdue : e.isDue o d := by simp [Endpoint.isDue, hp, hsome, hle]
    have hstart := start_comes e o d
    rw [hslot] at hstart
    refine Attempt.ends_bind.2 (hstart.imp (fun a e₁ h₁ => ?_) (fun _ e₁ h₁ => ⟨hdue, h₁⟩)
      fun _ _ => id)
    obtain ⟨hbroken, rfl, h₁⟩ := h₁
    exact .inr ⟨hdue, hbroken, h₁.put _⟩
  · simp [Endpoint.isDue, hsome, hlt]

/-- The attempt ends as its turnout says, unless a call panics. -/
def Turnout.Comes (t : Turnout) (o : Owner) (e : Endpoint)
    (x : Attempt ReassemblyError Reassembly) : Prop :=
  x.Ends e (fun r e' => t.result = .ok r ∧ Made o e t.calls t.link t.slot e')
    (fun error e' => t.result = .error error ∧ Made o e t.calls t.link t.slot e')
    fun _ _ => ¬ e.Responsive o

theorem complete_sealed {e₁ : Endpoint} {made : List Call} {link : Link}
    (h : Made o e made link (some a) e₁)
    (hp : e.Responsive o → (e.storage.record a.spool).poisoned = false)
    (hu : e.Responsive o → (e₁.storage.record a.spool).finished = false) (d : DeliveryId) :
    (e.reports.sealed (e.calls.length + made.length) a link).Forms id o e made e₁
      (Reassembler.complete o d) := by
  refine Attempt.ends_bind.2 (Attempt.ends_lift.2 (ends_current.2 ?_))
  rw [h.slot]
  refine Attempt.ends_bind.2 ((h.sealLarge_forms hp hu).imp (fun large e₂ h₂ => ?_) (fun _ _ => id)
    fun _ _ => id)
  exact Attempt.ends_bind.2 (Attempt.ends_lift.2 (Act.ends_modify.2 ⟨h₂.1, h₂.2.told⟩))

theorem complete_small (hslot : (e.reassembler.get o).slot = none) (d : DeliveryId) :
    (e.reports.small e.calls.length e.link d).Forms id o e [] e (Reassembler.complete o d) := by
  have h := Made.refl o e
  rw [hslot] at h
  refine Attempt.ends_bind.2 (Attempt.ends_lift.2 (ends_current.2 ?_))
  rw [hslot]
  refine Attempt.ends_bind.2 (Attempt.ends_lift.2 (h.recv_ends.imp ?_ fun _ _ => id))
  rintro _ e₁ ⟨rfl, h₁⟩
  refine Attempt.ends_bind.2 (Attempt.ends_lift.2 (h₁.moveOn_ends.imp (fun _ e₂ h₂ => ?_)
    fun _ _ => id))
  have hformat : (e.link.drained.advance.delivery d).format = (e.link.delivery d).format :=
    (congrArg _ (Link.advance_delivery _ d)).trans
      (Link.delivery_changeCurrent _ (fun _ => by rfl) (fun _ => by rfl) d)
  refine Attempt.ends_bind.2 (Attempt.ends_adapt.2 ((h₂.create_calls d e.link.buffer).imp ?_ ?_
    fun _ _ => id))
  · rintro m e₃ ⟨rfl, hr : e.reports (e.calls.length + 2) _ = none, h₃⟩
    refine ⟨?_, h₃⟩
    simp only [Reports.small, hr, hformat, id]
  · rintro cause e₃ ⟨hr : e.reports (e.calls.length + 2) _ = some cause, h₃⟩
    refine ⟨?_, h₃⟩
    simp only [Reports.small, hr]

section Accepting

variable (hl : (e.reassembler.get o).slot.isSome → e.isPersistent)
  (hg : (e.link.delivery d).isAborted = false)

include hl hg

theorem acceptPartial_comes (hp : (e.link.delivery d).isPartial) :
    let t := e.turnout o d
    (Reassembler.acceptPartial o d).Ends e
      (fun _ e' => t.result = .ok .pending ∧ Made o e t.calls t.link t.slot e')
      (fun error e' => t.result = .error error ∧ Made o e t.calls t.link t.slot e')
      fun _ _ => ¬ e.Responsive o := by
  intro t
  have hrefl := Made.refl o e
  refine Attempt.ends_bind.2 (Attempt.ends_get.2 (Attempt.ends_ite.2 ⟨fun hpers => ?_,
    fun hpers => ?_⟩))
  swap
  · -- without a place for it no large message is coming in, and none is started
    have hs : (e.reassembler.get o).slot = none :=
      Option.not_isSome_iff_eq_none.1 fun hsome => hpers (hl hsome)
    rw [hs] at hrefl
    have ht : t = e.quiet := turnout_quiet hg hs hp (by simp [Endpoint.isDue, hpers])
    rw [ht]
    exact ⟨rfl, hrefl⟩
  refine Attempt.ends_bind.2 (Attempt.ends_lift.2 (ends_current.2 ?_))
  rcases hs : (e.reassembler.get o).slot with _ | a
  · refine (startIfLarge_comes hs hpers d).imp (fun _ e₁ h₁ => ?_) (fun error e₁ h₁ => ?_)
      fun _ _ => id
    · rcases h₁ with ⟨hdue, rfl⟩ | ⟨hdue, hb, h₁⟩
      · rw [hs] at hrefl
        rw [show t = _ from turnout_quiet hg hs hp hdue]
        exact ⟨rfl, hrefl⟩
      · rw [show t = _ from turnout_started hg hs hp hdue hb]
        exact ⟨rfl, h₁⟩
    · obtain ⟨hdue, call, cause, hb, rfl, h₁⟩ := h₁
      rw [show t = _ from turnout_unstarted hg hs hdue hb]
      exact ⟨rfl, h₁⟩
  · have ht : t = e.reports.received e.calls.length a e.link := turnout_received hg hp hs
    refine Attempt.ends_bind.2 (Attempt.ends_lift.2 ((hrefl.receive_ends
      (fun hr => hr.sound a hs) fun hr => hr.unfinished a hs).imp ?_ fun _ _ => id))
    rintro ⟨written, result⟩ e₁ ⟨hr, h₁⟩
    refine Attempt.ends_bind.2 (Attempt.ends_lift.2 (Act.ends_modify.2
      (Attempt.ends_liftExcept.2 ?_)))
    have hw : e.reports.written (e.calls.length + 1) a e.link.buffer = (written, result) := hr.symm
    have hput := h₁.put (some written)
    simp only [ht, Reports.received, hw]
    rcases result with error | _ <;> exact ⟨rfl, hput⟩

theorem acceptComplete_comes (hp : (e.link.delivery d).isPartial = false) :
    (e.turnout o d).Forms id o e [] e (Reassembler.acceptComplete o d) := by
  refine Attempt.ends_bind.2 (Attempt.ends_lift.2 (ends_current.2 ?_))
  refine Attempt.ends_bind.2 (Attempt.ends_get.2 (Attempt.ends_ite.2 ⟨fun hc => ?_, fun hn => ?_⟩))
  · simp only [Bool.and_eq_true, Option.isNone_iff_eq_none] at hc
    obtain ⟨hs, hpers⟩ := hc
    refine Attempt.ends_bind.2 ((startIfLarge_comes hs hpers d).imp (fun _ e₁ h₁ => ?_)
      (fun error e₁ h₁ => ?_) fun _ _ => id)
    · rcases h₁ with ⟨hdue, rfl⟩ | ⟨hdue, hb, h₁⟩
      · rw [turnout_small hg hs hp hdue]
        exact complete_small hs d
      · rw [turnout_behind hg hs hp hdue hb]
        exact complete_sealed h₁ (fun _ => blank_sound e d) (fun _ => (h₁.started_spool hb).2) d
    · obtain ⟨hdue, call, cause, hb, rfl, h₁⟩ := h₁
      rw [turnout_unstarted hg hs hdue hb]
      exact ⟨rfl, h₁⟩
  · rcases hs : (e.reassembler.get o).slot with _ | a
    · have hdue : e.isDue o d = false := by
        rw [hs] at hn
        have hpers : e.isPersistent = false := by simpa using hn
        simp [Endpoint.isDue, hpers]
      rw [turnout_small hg hs hp hdue]
      exact complete_small hs d
    · have hrefl := Made.refl o e
      rw [hs] at hrefl
      rw [turnout_sealed hg hp hs]
      exact complete_sealed hrefl (fun hr => hr.sound a hs) (fun hr => hr.unfinished a hs) d

end Accepting

/-- However calls fail, an event for the delivery at the head comes to its turnout. -/
theorem accept_comes (hl : (e.reassembler.get o).slot.isSome → e.isPersistent) (d : DeliveryId) :
    (e.turnout o d).Comes o e (Reassembler.accept o d) := by
  refine Attempt.ends_bind.2 (Attempt.ends_get.2 (Attempt.ends_ite.2 ⟨fun ha => ?_, fun ha =>
    Attempt.ends_ite.2 ⟨fun hp => ?_, fun hp => ?_⟩⟩))
  · rw [turnout_givenUp ha]
    refine Attempt.ends_bind.2 (Attempt.ends_lift.2 ((discard_comes e o).imp
      (fun _ e₁ h₁ => ?_) fun _ _ => id))
    exact Attempt.ends_bind.2 (Attempt.ends_lift.2 (h₁.2.moveOn_ends.imp
      (fun _ e₂ h₂ => ⟨rfl, h₂⟩) fun _ _ => id))
  · have hg : (e.link.delivery d).isAborted = false := by simpa using ha
    exact Attempt.ends_bind.2 ((acceptPartial_comes hl hg hp).imp (fun _ _ => id) (fun _ _ => id)
      fun _ _ => id)
  · have hg : (e.link.delivery d).isAborted = false := by simpa using ha
    have hp : (e.link.delivery d).isPartial = false := by simpa using hp
    exact Attempt.ends_bind.2 ((acceptComplete_comes hl hg hp).imp (fun _ _ => id) (fun _ _ => id)
      fun _ _ => id)

/-- An event for the delivery at the head is answered, and comes to what is given. -/
def Endpoint.Answers (e : Endpoint) (o : Owner) (d : DeliveryId) (t : Turnout) : Prop :=
  ∃ e', Reassembler.accept o d e = (.ok t.result, e') ∧ Made o e t.calls t.link t.slot e'

theorem accept_answers (h : e.Writable o) (ha : e.Answering) (d : DeliveryId) :
    e.Answers o d (e.turnout o d) := by
  let t := e.turnout o d
  have hcomes : Act.Ends (Reassembler.accept o d).run e
      (fun r e' => r = t.result ∧ Made o e t.calls t.link t.slot e') fun _ _ => False := by
    refine Act.Ends.imp (accept_comes h.persistent d) (fun r e' h' => ?_)
      fun _ _ hn => hn (h.responsive ha)
    rcases r with _ | _ <;> exact ⟨h'.1.symm, h'.2⟩
  obtain ⟨r, e', hr, rfl, hm⟩ := hcomes.answers
  exact ⟨e', hr, hm⟩

end Turning

end ReceivingLink
