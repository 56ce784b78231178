import ReceivingLink.Proofs.Turns

/-!
# Spools and what is counted of them

An accumulator counts the bytes that it writes and notes a gap. Its spool has the bytes, and the
log has the calls with their numbers. The three change one after the other, and a call that breaks
off may come in between. `spools_agree` says that they agree after every event, and that a large
message passed to routing lies in a spool that was finished and not written to again, as long as
the link is moved on without a panic.
-/

namespace ReceivingLink

/-- The plan has an error for a call of this number at this point. -/
def Plan.Fails (plan : Plan) (n : Nat) (point : Point) : Prop :=
  ∃ cause, plan n point = some (.fails cause) ∨ plan n point = some (.failsForNow cause)

/-- Neither writes to a spool or finishes it, nor passes a message to routing. -/
def Call.isElsewhere : Call → Bool
  | spoolAppend .. | spoolFinish _ | deliver _ => false
  | _ => true

namespace Endpoint

variable (e : Endpoint) (spool : Spool)

/-- Writing to a spool answers an error, if it is the call of this number. -/
def AppendFails (n : Nat) : Prop :=
  e.plan.Fails n .spoolAppend ∨ e.plan n .spoolAppend = none ∧
    e.storage.faults.appendPanics = false ∧ e.storage.faults.append

/-- Finishing a spool returns, if it is the call of this number. -/
def FinishReturns (n : Nat) : Prop :=
  e.plan n .spoolFinish = none ∧ e.storage.faults.finish = false

/-- The call of this number was to write to the spool. -/
def AppendedAt (n : Nat) : Prop := ∃ bytes, e.calls[n]? = some (.spoolAppend spool bytes)

/-- The call of this number was to write to the spool and answered an error. -/
def FailedAt (n : Nat) : Prop := e.AppendedAt spool n ∧ e.AppendFails n

/-- The call of this number finished the spool. -/
def FinishedAt (n : Nat) : Prop := e.calls[n]? = some (.spoolFinish spool) ∧ e.FinishReturns n

/-- The spool of a large message was finished by the call of this number, is not deleted and has as
many bytes as were counted. -/
structure Sealed (large : LargeMessage) (m : Nat) : Prop where
  finished : e.FinishedAt large.spool m
  kept : (e.storage.record large.spool).deleted = false
  size : large.size = (e.storage.record large.spool).bytes.length

/-- The accumulator's spool can be written to and has as many bytes as were counted, and a gap is
noted exactly if a write failed. -/
structure Writing (a : Accumulator) : Prop where
  opened : a.spool.place < e.storage.records.length
  unfinished : (e.storage.record a.spool).finished = false
  kept : (e.storage.record a.spool).deleted = false
  size : a.size = (e.spooled a).length
  gap : a.incomplete ↔ ∃ n, e.FailedAt a.spool n

/-- What was called on spools and passed to routing agrees with the records of the spools. -/
structure Faithful : Prop where
  clean : e.storage.Clean
  advances : e.plan.Spares [.linkAdvance]
  opened : ∀ {spool n}, e.AppendedAt spool n → spool.place < e.storage.records.length
  finished : ∀ {spool m}, e.FinishedAt spool m → (e.storage.record spool).finished
  last : ∀ {spool m n}, e.FinishedAt spool m → e.AppendedAt spool n → n < m
  passed : ∀ {k handoff large}, e.calls[k]? = some (.deliver handoff) →
    handoff.message = .large large → ∃ m < k, e.Sealed large m

/-- So does the large message that is coming in. -/
structure Agrees : Prop extends Faithful e where
  coming : ∀ {a}, e.slot = some a → e.Writing a

/-- The call is in order as the next one. A spool that is written to is open, one that is finished
has a record of that, and a large message that is passed to routing was sealed. -/
def Fits : Call → Prop
  | .spoolAppend spool _ => spool.place < e.storage.records.length ∧
      (e.storage.record spool).finished = false
  | .spoolFinish spool => e.FinishReturns e.calls.length → (e.storage.record spool).finished
  | .deliver handoff => ∀ large, handoff.message = .large large → ∃ m, e.Sealed large m
  | _ => True

end Endpoint

section Noting

variable {e : Endpoint} {call call' : Call} {spool : Spool} {large : LargeMessage} {n m : Nat}

theorem number_lt (h : e.calls[n]? = some call) : n < e.calls.length :=
  (List.getElem?_eq_some_iff.1 h).1

theorem calls_noting : (e.noting call).calls[n]? = some call' ↔
    e.calls[n]? = some call' ∨ n = e.calls.length ∧ call' = call := by
  simp only [Endpoint.noting, List.getElem?_append]
  split
  · simp
    omega
  · rename_i hn
    simp only [List.getElem?_eq_none (Nat.le_of_not_lt hn), List.getElem?_singleton]
    grind

theorem appendedAt_noting : (e.noting call).AppendedAt spool n ↔
    e.AppendedAt spool n ∨ n = e.calls.length ∧ ∃ bytes, call = .spoolAppend spool bytes := by
  simp only [Endpoint.AppendedAt, calls_noting]
  grind

theorem finishedAt_noting : (e.noting call).FinishedAt spool m ↔
    e.FinishedAt spool m ∨
      m = e.calls.length ∧ call = .spoolFinish spool ∧ e.FinishReturns e.calls.length := by
  have hsame : (e.noting call).FinishReturns m ↔ e.FinishReturns m := Iff.rfl
  simp only [Endpoint.FinishedAt, calls_noting, hsame]
  grind

theorem failed_noting : (∃ n, (e.noting call).FailedAt spool n) ↔ (∃ n, e.FailedAt spool n) ∨
    (∃ bytes, call = .spoolAppend spool bytes) ∧ e.AppendFails e.calls.length := by
  have hsame {n : Nat} : (e.noting call).AppendFails n ↔ e.AppendFails n := Iff.rfl
  simp only [Endpoint.FailedAt, appendedAt_noting, hsame]
  grind

theorem Endpoint.Sealed.noting (h : e.Sealed large m) (call : Call) :
    (e.noting call).Sealed large m := ⟨finishedAt_noting.2 (.inl h.finished), h.kept, h.size⟩

theorem Endpoint.Faithful.noting (h : e.Faithful) (hfits : e.Fits call) :
    (e.noting call).Faithful where
  clean := h.clean
  advances := h.advances
  opened := fun ha => by
    rcases appendedAt_noting.1 ha with ha | ⟨-, bytes, rfl⟩
    · exact h.opened ha
    · exact hfits.1
  finished := fun hf => by
    rcases finishedAt_noting.1 hf with hf | ⟨-, rfl, hr⟩
    · exact h.finished hf
    · exact hfits hr
  last := fun hf ha => by
    rcases finishedAt_noting.1 hf with hf' | ⟨rfl, rfl, -⟩
    · rcases appendedAt_noting.1 ha with ha' | ⟨-, bytes, rfl⟩
      · exact h.last hf' ha'
      · -- a spool that was finished is not written to
        exact absurd ((h.finished hf').symm.trans hfits.2) nofun
    · rcases appendedAt_noting.1 ha with ha' | ⟨-, bytes, hcall⟩
      · exact ha'.elim fun _ => number_lt
      · cases hcall
  passed := fun hk hlarge => by
    rcases calls_noting.1 hk with hk | ⟨rfl, rfl⟩
    · obtain ⟨m, hm, hs⟩ := h.passed hk hlarge
      exact ⟨m, hm, hs.noting _⟩
    · obtain ⟨m, hs⟩ := hfits _ hlarge
      exact ⟨m, number_lt hs.finished.1, hs.noting _⟩

end Noting

section Storing

variable {e : Endpoint} {spool : Spool} {large : LargeMessage} {m : Nat}
  {f : SpoolRecord → SpoolRecord}

/-- The record of a spool that was not finished is no record of one that was. -/
theorem record_change_finished (h : e.Faithful) (hu : (e.storage.record spool).finished = false)
    {spool' : Spool} (hf : e.FinishedAt spool' m) :
    (e.storage.change spool f).record spool' = e.storage.record spool' := by
  refine e.storage.record_change_ne fun hplace => ?_
  have hfinished := h.finished hf
  simp only [Storage.record, hplace] at hfinished hu
  grind

theorem Endpoint.Sealed.change (hs : e.Sealed large m) (h : e.Faithful)
    (hu : (e.storage.record spool).finished = false) :
    { e with storage := e.storage.change spool f }.Sealed large m := by
  have hrecord := record_change_finished (f := f) h hu hs.finished
  refine ⟨hs.finished, ?_, ?_⟩
  · rw [hrecord]
    exact hs.kept
  · rw [hrecord]
    exact hs.size

/-- The record of a spool may be changed as long as the spool was not finished. -/
theorem Endpoint.Faithful.change (h : e.Faithful)
    (hu : (e.storage.record spool).finished = false) (hf : ∀ r, (f r).poisoned = r.poisoned) :
    { e with storage := e.storage.change spool f }.Faithful where
  clean := h.clean.change spool hf
  advances := h.advances
  opened := fun ha => by
    simpa [Storage.change] using h.opened ha
  finished := fun hm => by
    have hrecord := record_change_finished (f := f) h hu hm
    rw [hrecord]
    exact h.finished hm
  last := h.last
  passed := fun hk hlarge => (h.passed hk hlarge).imp fun _ hm => hm.imp_right (·.change h hu)

end Storing

/-- Nothing was written to a spool, finished or passed to routing, and no record of a spool has
changed. -/
structure KeepsSpools (e e' : Endpoint) : Prop where
  faithful : e.Faithful → e'.Faithful
  writing : ∀ {a}, e.Writing a → e'.Writing a
  sealed : ∀ {large m}, e.Sealed large m → e'.Sealed large m

/-- Nor has the slot. -/
structure Keeps (e e' : Endpoint) : Prop extends KeepsSpools e e' where
  slot : e'.slot = e.slot

section Keeping

variable {e e' e₁ e₂ e₃ : Endpoint} {a : Accumulator} {call : Call}

theorem KeepsSpools.aside {link : Link} {sink : Sink} {transactions : Transactions}
    {removed : List String} {mailbox : Mailbox Task} {onHandler : Option HandlerId}
    {lifecycle : Lifecycle} {reassembler : Each Reassembler} {pending : Each Int}
    {notices : List Notice} {counters : Counters} {nextId : Nat}
    {registered : List (LargeMessageId × UInt32)} :
    KeepsSpools e { e with
      link, sink, transactions, removed, mailbox, onHandler, lifecycle, reassembler, pending,
      notices, counters, storage := { e.storage with nextId, registered } } :=
  ⟨fun h => ⟨⟨h.1.1, h.1.2⟩, h.2, h.3, h.4, h.5, fun hk hlarge => (h.6 hk hlarge).imp
    fun _ hm => ⟨hm.1, hm.2.1, hm.2.2, hm.2.3⟩⟩, fun h => ⟨h.1, h.2, h.3, h.4, h.5⟩,
    fun h => ⟨h.1, h.2, h.3⟩⟩

theorem Keeps.refl (e : Endpoint) : Keeps e e := ⟨⟨id, id, id⟩, rfl⟩

theorem Keeps.trans (h : Keeps e₁ e₂) (h' : Keeps e₂ e₃) : Keeps e₁ e₃ :=
  ⟨⟨h'.faithful ∘ h.faithful, h'.writing ∘ h.writing, h'.sealed ∘ h.sealed⟩, h'.slot.trans h.slot⟩

theorem Keeps.agrees (h : Keeps e e') (ha : e.Agrees) : e'.Agrees :=
  ⟨h.faithful ha.toFaithful, fun hslot => h.writing (ha.coming (h.slot.symm.trans hslot))⟩

theorem Keeps.aside {link : Link} {sink : Sink} {transactions : Transactions}
    {removed : List String} {mailbox : Mailbox Task} {onHandler : Option HandlerId}
    {lifecycle : Lifecycle} {pending : Each Int} {notices : List Notice} {counters : Counters}
    {nextId : Nat} {registered : List (LargeMessageId × UInt32)} :
    Keeps e { e with
      link, sink, transactions, removed, mailbox, onHandler, lifecycle, pending, notices,
      counters, storage := { e.storage with nextId, registered } } := ⟨.aside, rfl⟩

theorem keeps_noting (hc : call.isElsewhere) : Keeps e (e.noting call) := by
  refine ⟨⟨fun h => h.noting ?_, fun h => ⟨h.opened, h.unfinished, h.kept, h.size, ?_⟩,
    (·.noting call)⟩, rfl⟩
  · cases call with
    | spoolAppend | spoolFinish | deliver => cases hc
    | _ => trivial
  · rw [h.gap, failed_noting]
    refine (or_iff_left ?_).symm
    rintro ⟨⟨bytes, rfl⟩, -⟩
    cases hc

theorem Call.isElsewhere_of (h : call.grants ∨ call.settles) : call.isElsewhere := by
  cases call with
  | spoolAppend | spoolFinish | deliver => rcases h with h | h <;> cases h
  | _ => rfl

theorem keeps_settling : SettleFrame Keeps where
  refl := .refl
  trans := .trans
  blame := fun _ _ => trivial
  told := fun _ => .aside
  planned := fun _ => trivial
  granting := fun hc => keeps_noting (Call.isElsewhere_of (.inl hc))
  flowed := .aside
  asked := .aside
  flushed := .aside
  counted := fun _ _ => .aside
  settling := fun hc => keeps_noting (Call.isElsewhere_of (.inr hc))
  disposed := .aside
  settled := .aside
  posted := .aside
  taken := fun _ => .aside
  tallied := .aside
  routed := .aside
  placed := .aside

theorem attempt_keeps (hc : call.isElsewhere) : (attempt call).Within Keeps fun _ _ => True :=
  fun _ => keeps_settling.attempt_noting (keeps_noting hc)

theorem recv_keeps : Link.recv.Within Keeps fun _ _ => True :=
  keeps_settling.recv_within (keeps_noting rfl) .aside

theorem moveOn_keeps : Link.moveOn.Within Keeps fun _ _ => True :=
  keeps_settling.moveOn_within (keeps_noting rfl) .aside

theorem registerLarge_keeps (id : LargeMessageId) (a : Accumulator) :
    (Storage.registerLarge id a).Within Keeps fun _ _ => True := by
  have F := keeps_settling.toFraming
  refine .bind F (attempt_keeps rfl) fun _ => .lift (.change fun e => ?_)
  unfold Storage.register
  dsimp only
  split
  · exact .aside
  · exact .refl e

end Keeping

/-- A large message is in hand and can be written to. The one in the slot is another or the same. -/
structure Tends (slot : Option Accumulator) (a : Accumulator) (e : Endpoint) : Prop where
  faithful : e.Faithful
  slot : e.slot = slot
  writing : e.Writing a

/-- No large message is coming in. -/
structure Idle (e : Endpoint) : Prop where
  faithful : e.Faithful
  slot : e.slot = none

section OneSpool

variable {e e' : Endpoint} {slot : Option Accumulator} {a : Accumulator} {spool : Spool}

theorem Idle.agrees (h : Idle e) : e.Agrees :=
  ⟨h.faithful, fun hslot => nomatch h.slot.symm.trans hslot⟩

theorem Tends.idle (h : Tends none a e) : Idle e := ⟨h.faithful, h.slot⟩

theorem Tends.agrees (h : Tends (some a) a e) : e.Agrees := by
  refine ⟨h.faithful, fun hslot => ?_⟩
  obtain rfl := Option.some.inj (h.slot.symm.trans hslot)
  exact h.writing

theorem Keeps.idle (hk : Keeps e e') (h : Idle e) : Idle e' :=
  ⟨hk.faithful h.faithful, hk.slot.trans h.slot⟩

theorem Keeps.tends (hk : Keeps e e') (h : Tends slot a e) : Tends slot a e' :=
  ⟨hk.faithful h.faithful, hk.slot.trans h.slot, hk.writing h.writing⟩

theorem attempt_planned (e : Endpoint) (call : Call) :
    (attempt call).Ends e
      (fun _ e' => e' = e.noting call ∧ e.plan e.calls.length call.point = none)
      (fun _ e' => e' = e.noting call ∧ e.plan.Fails e.calls.length call.point)
      fun k e' => e' = e.noting call ∧ e.plan e.calls.length call.point = some (.panics k) := by
  simp only [attempt, note, Attempt.ends_bind, Attempt.ends_lift, Act.ends_modifyGet]
  split
  · exact ⟨rfl, ‹_›⟩
  · exact ⟨rfl, _, .inl ‹_›⟩
  · exact ⟨rfl, _, .inr ‹_›⟩
  · exact ⟨rfl, ‹_›⟩

theorem spoolAppend_answers (hc : e.storage.Clean)
    (hu : (e.storage.record spool).finished = false) (bytes : Bytes) :
    (spool.append bytes).Ends e
      (fun _ e' => e' = { e.noting (.spoolAppend spool bytes) with
        storage := e.storage.append spool bytes } ∧ ¬ e.AppendFails e.calls.length)
      (fun _ e' => e' = e.noting (.spoolAppend spool bytes) ∧ e.AppendFails e.calls.length)
      fun _ e' => e' = e.noting (.spoolAppend spool bytes) ∧ ¬ e.AppendFails e.calls.length := by
  refine Attempt.ends_bind.2 ((attempt_planned e _).imp ?_ (fun _ _ h => h.imp_right .inl) ?_)
  · rintro _ _ ⟨rfl, hp⟩
    have hfails : e.AppendFails e.calls.length ↔
        e.storage.faults.appendPanics = false ∧ e.storage.faults.append := by
      simp [Endpoint.AppendFails, Plan.Fails, show e.plan e.calls.length .spoolAppend = none from hp]
    rw [hfails]
    refine Attempt.ends_bind.2 (Attempt.ends_get.2 (Attempt.ends_ite.2 ⟨fun hf => ?_, fun hf =>
      Attempt.ends_ite.2 ⟨fun hf' => ?_, fun hf' => ?_⟩⟩))
    · exact Attempt.ends_bind.2 ⟨rfl, fun h => absurd (hf.symm.trans h.1) nofun⟩
    · exact Attempt.ends_bind.2 ⟨rfl, Bool.eq_false_iff.2 hf, hf'⟩
    · refine Attempt.ends_bind.2 (Attempt.ends_lift.2 ((hold_ends (by exact hc) spool).imp ?_
        fun _ _ => False.elim))
      rintro _ _ ⟨rfl, rfl⟩
      refine Attempt.ends_ite.2 ⟨fun h => absurd (hu.symm.trans h) nofun, fun _ => ?_⟩
      exact ⟨rfl, fun h => hf' h.2⟩
  · rintro k _ ⟨rfl, hp⟩
    refine ⟨rfl, ?_⟩
    simp [Endpoint.AppendFails, Plan.Fails, show e.plan e.calls.length .spoolAppend = _ from hp]

theorem spoolFinish_answers (hc : e.storage.Clean) (spool : Spool) :
    spool.finish.Ends e
      (fun _ e' => e' = { e.noting (.spoolFinish spool) with storage := e.storage.finish spool } ∧
        e.FinishReturns e.calls.length)
      (fun _ e' => e' = e.noting (.spoolFinish spool) ∧ ¬ e.FinishReturns e.calls.length)
      fun _ e' => e' = e.noting (.spoolFinish spool) ∧ ¬ e.FinishReturns e.calls.length := by
  refine Attempt.ends_bind.2 ((attempt_planned e _).imp ?_ ?_ ?_)
  · rintro _ _ ⟨rfl, hp⟩
    refine Attempt.ends_bind.2 (Attempt.ends_get.2 (Attempt.ends_ite.2 ⟨fun hf => ?_, fun hf => ?_⟩))
    · exact Attempt.ends_bind.2 ⟨rfl, fun h => absurd (hf.symm.trans h.2) nofun⟩
    · refine Attempt.ends_bind.2 (Attempt.ends_discard.2 (Attempt.ends_lift.2
        ((hold_ends (by exact hc) spool).imp ?_ fun _ _ => False.elim)))
      rintro _ _ ⟨rfl, rfl⟩
      exact ⟨rfl, hp, Bool.eq_false_iff.2 hf⟩
  · rintro _ _ ⟨rfl, cause, hp⟩
    refine ⟨rfl, fun h => ?_⟩
    rcases hp with hp | hp <;> exact nomatch hp.symm.trans h.1
  · rintro _ _ ⟨rfl, hp⟩
    exact ⟨rfl, fun h => nomatch hp.symm.trans h.1⟩

theorem Tends.noting (h : Tends slot a e) (hok : ¬ e.AppendFails e.calls.length) (bytes : Bytes) :
    Tends slot a (e.noting (.spoolAppend a.spool bytes)) := by
  obtain ⟨hf, hs, hw⟩ := h
  refine ⟨hf.noting ⟨hw.opened, hw.unfinished⟩, hs, hw.opened, hw.unfinished, hw.kept, hw.size, ?_⟩
  rw [hw.gap, failed_noting]
  exact (or_iff_left fun h => hok h.2).symm

theorem Tends.spoiled (h : Tends slot a e) (hfails : e.AppendFails e.calls.length) (bytes : Bytes) :
    Tends slot { a with incomplete := true } (e.noting (.spoolAppend a.spool bytes)) := by
  obtain ⟨hf, hs, hw⟩ := h
  refine ⟨hf.noting ⟨hw.opened, hw.unfinished⟩, hs, hw.opened, hw.unfinished, hw.kept, hw.size, ?_⟩
  exact iff_of_true rfl (failed_noting.2 (.inr ⟨⟨bytes, rfl⟩, hfails⟩))

theorem Tends.store (h : Tends slot a e) (bytes : Bytes) :
    Tends slot { a with size := a.size + bytes.length }
      { e with storage := e.storage.append a.spool bytes } := by
  obtain ⟨hf, hs, hw⟩ := h
  have hrecord : (e.storage.append a.spool bytes).record a.spool = _ :=
    e.storage.record_change_self hw.opened
  refine ⟨hf.change hw.unfinished fun _ => rfl, hs, ?_, ?_, ?_, ?_, hw.gap⟩
  · simpa [Storage.append, Storage.change] using hw.opened
  · rw [hrecord]
    exact hw.unfinished
  · rw [hrecord]
    exact hw.kept
  · rw [Endpoint.spooled, hrecord, List.length_append, hw.size]
    rfl

/-- However a write ends, size and gap are as the spool and the log have them. -/
theorem append_tends (h : Tends slot a e) (bytes : Bytes) :
    (a.append bytes).Ends e (fun r e' => Tends slot r.1 e') fun _ e' => Tends slot a e' := by
  unfold Accumulator.append
  refine Act.ends_ite.2 ⟨fun _ => h, fun _ => Act.ends_ite.2 ⟨fun _ => Keeps.aside.tends h,
    fun _ => Act.ends_bind.2 (Act.ends_run.2 ?_)⟩⟩
  refine (spoolAppend_answers h.faithful.clean h.writing.unfinished bytes).imp ?_ ?_ ?_
  · rintro _ _ ⟨rfl, hok⟩
    exact (h.noting hok bytes).store bytes
  · rintro _ _ ⟨rfl, hfails⟩
    exact h.spoiled hfails bytes
  · rintro _ _ ⟨rfl, hok⟩
    exact h.noting hok bytes

theorem receive_tends (h : Tends slot a e) :
    a.receive.Ends e (fun r e' => Tends slot r.1 e') fun _ e' => Tends slot a e' :=
  Act.ends_bind.2 ((recv_keeps e).imp (fun bytes _ hk => append_tends (hk.tends h) bytes)
    fun _ _ hk => hk.1.tends h)

theorem Tends.unfinished (h : Tends slot a e) (hno : ¬ e.FinishReturns e.calls.length) :
    Tends slot a (e.noting (.spoolFinish a.spool)) := by
  obtain ⟨hf, hs, hw⟩ := h
  refine ⟨hf.noting fun hr => absurd hr hno, hs, hw.opened, hw.unfinished, hw.kept, hw.size, ?_⟩
  rw [hw.gap, failed_noting]
  exact (or_iff_left fun h => h.1.elim nofun).symm

theorem Tends.finished (h : Tends slot a e) (hr : e.FinishReturns e.calls.length) :
    let e' := { e.noting (.spoolFinish a.spool) with storage := e.storage.finish a.spool }
    e'.Faithful ∧ ∃ m, e'.Sealed a.message m := by
  obtain ⟨hf, -, hw⟩ := h
  have hrecord : (e.storage.finish a.spool).record a.spool = _ :=
    e.storage.record_change_self hw.opened
  have hchange : { e with storage := e.storage.finish a.spool }.Faithful :=
    hf.change hw.unfinished fun _ => rfl
  refine ⟨hchange.noting fun _ => ?_, e.calls.length, finishedAt_noting.2 (.inr ⟨rfl, rfl, hr⟩),
    ?_, ?_⟩
  · rw [hrecord]
  · exact (congrArg SpoolRecord.deleted hrecord).trans hw.kept
  · exact hw.size.trans (congrArg (·.bytes.length) hrecord).symm

theorem finish_seals (h : Tends slot a e) :
    a.finish.Ends e (fun _ e' => e'.Faithful ∧ ∃ m, e'.Sealed a.message m)
      (fun _ e' => Tends slot a e') fun _ e' => Tends slot a e' := by
  unfold Accumulator.finish
  refine Attempt.ends_ite.2 ⟨fun _ => Attempt.ends_bind.2 h, fun _ => ?_⟩
  refine Attempt.ends_bind.2 (Attempt.ends_adapt.2 ((spoolFinish_answers h.faithful.clean _).imp
    ?_ ?_ ?_))
  · rintro _ _ ⟨rfl, hr⟩
    obtain ⟨hf, m, hm⟩ := h.finished hr
    exact ⟨Keeps.aside.faithful hf, m, Keeps.aside.sealed hm⟩
  · rintro _ _ ⟨rfl, hno⟩
    exact h.unfinished hno
  · rintro _ _ ⟨rfl, hno⟩
    exact h.unfinished hno

/-- A spool is deleted before it was finished, or not at all. -/
theorem drop_idles (h : Tends none a e) : a.drop.Ends e (fun _ => Idle) fun _ => Idle := by
  refine Act.ends_bind.2 (Act.ends_run.2 (Attempt.ends_bind.2 ((attempt_keeps rfl e).imp ?_ ?_ ?_)))
  · intro _ e₁ hk
    have h₁ := hk.tends h
    refine Attempt.ends_bind.2 (Attempt.ends_get.2 (Attempt.ends_ite.2 ⟨fun _ => ?_, fun _ => ?_⟩))
    · exact Attempt.ends_bind.2 (Keeps.aside.idle h₁.idle)
    refine Attempt.ends_bind.2 (Attempt.ends_discard.2 (Attempt.ends_lift.2
      ((hold_ends h₁.faithful.clean a.spool).imp ?_ fun _ _ => False.elim)))
    rintro _ _ ⟨rfl, rfl⟩
    exact Keeps.aside.idle ⟨h₁.faithful.change h₁.writing.unfinished fun _ => rfl, h₁.slot⟩
  · exact fun _ _ hk => Keeps.aside.idle (hk.idle h.idle)
  · exact fun _ _ hk => hk.1.idle h.idle

theorem Endpoint.Faithful.opens (h : e.Faithful) (id : LargeMessageId) :
    { e with storage := e.storage.opened id }.Faithful := by
  have hrecord {spool : Spool} {m : Nat} (hm : e.FinishedAt spool m) :
      (e.storage.opened id).record spool = e.storage.record spool := by
    refine e.storage.record_opened (Nat.lt_of_not_le fun hle => ?_) id
    have hfinished := h.finished hm
    rw [e.storage.record_of_le hle] at hfinished
    cases hfinished
  refine ⟨h.clean.opened id, h.advances, fun ha => ?_, fun hm => ?_, h.last, fun hk hlarge =>
    (h.passed hk hlarge).imp fun _ hm => hm.imp_right fun hs => ⟨hs.finished, ?_, ?_⟩⟩
  · simpa [Storage.opened] using Nat.lt_succ_of_lt (h.opened ha)
  · rw [hrecord hm]
    exact h.finished hm
  · rw [hrecord hs.finished]
    exact hs.kept
  · rw [hrecord hs.finished]
    exact hs.size

theorem Endpoint.Faithful.writing_opened (h : e.Faithful) {id : LargeMessageId}
    (hspool : a.spool = e.storage.newSpool id) (hsize : a.size = 0) (hgap : a.incomplete = false) :
    { e with storage := e.storage.opened id }.Writing a := by
  have hrecord : (e.storage.opened id).record a.spool = { id } := by
    rw [hspool]
    exact e.storage.record_newSpool id
  refine ⟨?_, ?_, ?_, ?_, ?_⟩
  · simp [hspool, Storage.newSpool, Storage.opened]
  · rw [hrecord]
  · rw [hrecord]
  · rw [Endpoint.spooled, hrecord, hsize]
    rfl
  · rw [hgap]
    -- the place of the spool is behind all that were called on
    refine iff_of_false Bool.false_ne_true ?_
    rintro ⟨n, ha, -⟩
    have hlt : a.spool.place < e.storage.records.length := h.opened ha
    simp [hspool, Storage.newSpool] at hlt

theorem openSpool_tends (h : Idle e) (id : LargeMessageId) :
    (Storage.openSpool id).Ends e
      (fun spool e' => Idle e' ∧
        ∀ a : Accumulator, a.spool = spool → a.size = 0 → a.incomplete = false → e'.Writing a)
      (fun _ => Idle) fun _ => Idle := by
  refine Attempt.ends_bind.2 ((attempt_keeps rfl e).imp (fun _ e₁ hk => ?_) (fun _ _ hk => hk.idle h)
    fun _ _ hk => hk.1.idle h)
  have h₁ := hk.idle h
  refine Attempt.ends_bind.2 (Attempt.ends_get.2 (Attempt.ends_ite.2 ⟨fun _ =>
    Attempt.ends_bind.2 h₁, fun _ => ?_⟩))
  refine Attempt.ends_bind.2 (Attempt.ends_lift.2 ((holdTable_ends h₁.faithful.clean).imp ?_
    fun _ _ => False.elim))
  rintro _ _ rfl
  exact ⟨⟨h₁.faithful.opens id, h₁.slot⟩, fun _ => h₁.faithful.writing_opened⟩

theorem start_tends (h : Idle e) (d : DeliveryId) :
    (Accumulator.start d).Ends e (fun a e' => Tends none a e') (fun _ => Idle) fun _ => Idle := by
  refine Attempt.ends_bind.2 (Attempt.ends_adapt.2 ((keeps_settling.generateId_within (keeps_noting rfl) .aside e).imp
    (fun large e₁ hk₁ => ?_) (fun _ _ hk => hk.idle h) fun _ _ hk => hk.1.idle h))
  refine Attempt.ends_bind.2 (Attempt.ends_adapt.2 ((openSpool_tends (hk₁.idle h) large).imp
    (fun spool e₂ h₂ => ?_) (fun _ _ => id) fun _ _ => id))
  obtain ⟨h₂, hwriting⟩ := h₂
  refine Attempt.ends_bind.2 (Attempt.ends_get.2 (Attempt.ends_bind.2 (Attempt.ends_lift.2
    ((recv_keeps e₂).imp (fun initial e₃ hk₃ => ?_) fun _ _ hk => hk.1.idle h₂))))
  have hdrop {e₄ : Endpoint} {a : Accumulator} (h₄ : Tends none a e₄) (error : ReassemblyError) :
      Attempt.Ends (do
        a.drop
        throw error : Attempt ReassemblyError Accumulator) e₄
        (fun a e' => Tends none a e') (fun _ => Idle) fun _ => Idle :=
    Attempt.ends_bind.2 (Attempt.ends_lift.2 ((drop_idles h₄).imp (fun _ _ => id) fun _ _ => id))
  let empty : Accumulator :=
    { id := large, format := (e₂.link.delivery d).format,
      headerPresent := Header.isPresent initial, spool }
  have h₃ : Tends none empty e₃ :=
    hk₃.tends ⟨h₂.faithful, h₂.slot, hwriting empty rfl rfl rfl⟩
  refine Attempt.ends_bind.2 (Attempt.ends_lift.2 (Act.ends_run.2
    ((registerLarge_keeps large empty e₃).imp (fun _ e₄ hk₄ => ?_)
      (fun _ _ hk₄ => hdrop (hk₄.tends h₃) _) fun _ _ hk₄ => (hk₄.1.tends h₃).idle)))
  refine Attempt.ends_bind.2 (Attempt.ends_lift.2 ((append_tends (hk₄.tends h₃) initial).imp
    (fun r e₅ h₅ => ?_) fun _ _ => Tends.idle))
  obtain ⟨written, r⟩ := r
  rcases r with error | _
  · exact hdrop h₅ error
  · exact Attempt.ends_bind.2 (Attempt.ends_lift.2 (Act.ends_modify.2 (Keeps.aside.tends h₅)))

end OneSpool

/-! ## Reassembly -/

/-- A large message was sealed, and is in hand. -/
def InHand (large : LargeMessage) (e : Endpoint) : Prop := Idle e ∧ ∃ m, e.Sealed large m

/-- A message was made. A large one was sealed. -/
def Formed (message : Message) (e : Endpoint) : Prop :=
  Idle e ∧ ∀ large, message = .large large → ∃ m, e.Sealed large m

section Assembling

variable {e e' : Endpoint} {a : Accumulator} {d : DeliveryId}

theorem Tends.put {slot : Option Accumulator} (h : Tends slot a e) :
    Tends (some a) a (e.withSlot (some a)) :=
  ⟨KeepsSpools.aside.faithful h.faithful, rfl, KeepsSpools.aside.writing h.writing⟩

theorem Tends.take {slot : Option Accumulator} (h : Tends slot a e) :
    Tends none a (e.withSlot none) :=
  ⟨KeepsSpools.aside.faithful h.faithful, rfl, KeepsSpools.aside.writing h.writing⟩

theorem Endpoint.Agrees.tends (h : e.Agrees) (hslot : e.slot = some a) : Tends (some a) a e :=
  ⟨h.toFaithful, hslot, h.coming hslot⟩

theorem startIfLarge_agrees (h : Idle e) (d : DeliveryId) :
    (Reassembler.startIfLarge .receiver d).Ends e (fun _ => Endpoint.Agrees)
      (fun _ => Endpoint.Agrees) fun _ => Endpoint.Agrees := by
  refine Attempt.ends_bind.2 (Attempt.ends_get.2 ?_)
  split
  · exact h.agrees
  refine Attempt.ends_ite.2 ⟨fun _ => ?_, fun _ => h.agrees⟩
  refine Attempt.ends_bind.2 ((start_tends h d).imp (fun a e₁ h₁ => ?_) (fun _ _ => Idle.agrees)
    fun _ _ => Idle.agrees)
  exact Attempt.ends_lift.2 (ends_setCurrent.2 h₁.put.agrees)

theorem acceptPartial_agrees (h : e.Agrees) (d : DeliveryId) :
    (Reassembler.acceptPartial .receiver d).Ends e (fun _ => Endpoint.Agrees)
      (fun _ => Endpoint.Agrees) fun _ => Endpoint.Agrees := by
  refine Attempt.ends_bind.2 (Attempt.ends_get.2 (Attempt.ends_ite.2 ⟨fun _ => ?_, fun _ => h⟩))
  refine Attempt.ends_bind.2 (Attempt.ends_lift.2 (ends_current.2 ?_))
  rcases hslot : (e.reassembler.get .receiver).slot with _ | a
  · exact startIfLarge_agrees ⟨h.toFaithful, hslot⟩ d
  refine Attempt.ends_bind.2 (Attempt.ends_lift.2 ((receive_tends (h.tends hslot)).imp
    (fun r e₁ h₁ => ?_) fun _ _ => Tends.agrees))
  obtain ⟨written, r⟩ := r
  refine Attempt.ends_bind.2 (Attempt.ends_lift.2 (ends_setCurrent.2
    (Attempt.ends_liftExcept.2 ?_)))
  rcases r with _ | _ <;> exact h₁.put.agrees

theorem discard_idles (h : e.Agrees) :
    (Reassembler.discard .receiver).Ends e (fun _ => Idle) fun _ => Idle := by
  refine Act.ends_bind.2 (ends_current.2 ?_)
  rcases hslot : (e.reassembler.get .receiver).slot with _ | a
  · exact ⟨h.toFaithful, hslot⟩
  · exact Act.ends_bind.2 (ends_setCurrent.2 (Act.ends_bind.2
      ((drop_idles (h.tends hslot).take).imp (fun _ _ => id) fun _ _ => id)))

theorem release_drops (h : Tends (some a) a e) (error : ReassemblyError) :
    (Reassembler.release .receiver a (.error error)).Ends e (fun large => InHand large)
      (fun _ => Endpoint.Agrees) fun _ => Endpoint.Agrees := by
  refine Attempt.ends_bind.2 (Attempt.ends_lift.2 ((moveOn_keeps e).imp (fun _ e₁ hk => ?_)
    fun _ _ hk => (hk.1.tends h).agrees))
  refine Attempt.ends_bind.2 (Attempt.ends_lift.2 (ends_setCurrent.2 ?_))
  exact Attempt.ends_bind.2 (Attempt.ends_lift.2 ((drop_idles (hk.tends h).take).imp
    (fun _ _ => Idle.agrees) fun _ _ => Idle.agrees))

/-- A message that was sealed leaves its slot, because the link is moved on without a panic. -/
theorem release_seals (hf : e.Faithful) (hs : ∃ m, e.Sealed a.message m) :
    (Reassembler.release .receiver a (.ok ())).Ends e (fun large => InHand large)
      (fun _ => Endpoint.Agrees) fun _ => Endpoint.Agrees := by
  -- a panic here would leave a finished spool in the slot, to be written to again
  have hmove : Link.moveOn.Ends e (fun _ e' => Keeps e e') fun _ _ => False := by
    refine Act.ends_bind.2 ((invoke_ends hf.advances (by simp [Call.point])).imp ?_ fun _ _ => id)
    rintro _ _ rfl
    exact (keeps_noting rfl).trans .aside
  refine Attempt.ends_bind.2 (Attempt.ends_lift.2 (hmove.imp (fun _ e₁ hk => ?_)
    fun _ _ => False.elim))
  refine Attempt.ends_bind.2 (Attempt.ends_lift.2 (ends_setCurrent.2 ?_))
  exact ⟨⟨KeepsSpools.aside.faithful (hk.faithful hf), rfl⟩,
    hs.imp fun _ hm => KeepsSpools.aside.sealed (hk.sealed hm)⟩

theorem sealLarge_seals (h : Tends (some a) a e) :
    (Reassembler.sealLarge .receiver a).Ends e (fun large => InHand large)
      (fun _ => Endpoint.Agrees) fun _ => Endpoint.Agrees := by
  refine Attempt.ends_bind.2 (Attempt.ends_lift.2 ((receive_tends h).imp (fun r e₁ h₁ => ?_)
    fun _ _ => Tends.agrees))
  obtain ⟨written, r⟩ := r
  refine Attempt.ends_bind.2 (Attempt.ends_lift.2 (ends_setCurrent.2 ?_))
  rcases r with error | _
  · exact release_drops h₁.put error
  refine Attempt.ends_bind.2 (Attempt.ends_lift.2 (Act.ends_run.2 ((finish_seals h₁.put).imp
    (fun _ e₂ h₂ => ?_) (fun error e₂ h₂ => ?_) fun _ _ => Tends.agrees)))
  · exact release_seals h₂.1 h₂.2
  · exact release_drops h₂ error

theorem complete_forms (h : e.Agrees) (d : DeliveryId) :
    (Reassembler.complete .receiver d).Ends e (fun message => Formed message)
      (fun _ => Endpoint.Agrees) fun _ => Endpoint.Agrees := by
  refine Attempt.ends_bind.2 (Attempt.ends_lift.2 (ends_current.2 ?_))
  rcases hslot : (e.reassembler.get .receiver).slot with _ | a
  · have h : Idle e := ⟨h.toFaithful, hslot⟩
    refine Attempt.ends_bind.2 (Attempt.ends_lift.2 ((recv_keeps e).imp (fun payload e₁ hk₁ => ?_)
      fun _ _ hk => (hk.1.idle h).agrees))
    have h₁ := hk₁.idle h
    refine Attempt.ends_bind.2 (Attempt.ends_lift.2 ((moveOn_keeps e₁).imp (fun _ e₂ hk₂ => ?_)
      fun _ _ hk => (hk.1.idle h₁).agrees))
    have h₂ := hk₂.idle h₁
    exact Attempt.ends_bind.2 (Attempt.ends_adapt.2 ((keeps_settling.create_within (keeps_noting rfl) d e₂).imp
      (fun _ _ hk => ⟨hk.idle h₂, nofun⟩) (fun _ _ hk => (hk.idle h₂).agrees)
      fun _ _ hk => (hk.1.idle h₂).agrees))
  · refine Attempt.ends_bind.2 ((sealLarge_seals (h.tends hslot)).imp (fun large e₁ h₁ => ?_)
      (fun _ _ => id) fun _ _ => id)
    refine Attempt.ends_bind.2 (Attempt.ends_lift.2 (Act.ends_modify.2
      ⟨Keeps.aside.idle h₁.1, ?_⟩))
    rintro _ ⟨rfl⟩
    exact h₁.2.imp fun _ hm => Keeps.aside.sealed hm

theorem acceptComplete_forms (h : e.Agrees) (d : DeliveryId) :
    (Reassembler.acceptComplete .receiver d).Ends e (fun message => Formed message)
      (fun _ => Endpoint.Agrees) fun _ => Endpoint.Agrees := by
  refine Attempt.ends_bind.2 (Attempt.ends_lift.2 (ends_current.2 ?_))
  refine Attempt.ends_bind.2 (Attempt.ends_get.2 (Attempt.ends_ite.2 ⟨fun hc => ?_, fun _ =>
    complete_forms h d⟩))
  have hslot : e.slot = none := by
    simp only [Bool.and_eq_true, Option.isNone_iff_eq_none] at hc
    exact hc.1
  exact Attempt.ends_bind.2 ((startIfLarge_agrees ⟨h.toFaithful, hslot⟩ d).imp
    (fun _ _ h₁ => complete_forms h₁ d) (fun _ _ => id) fun _ _ => id)

theorem accept_forms (h : e.Agrees) (d : DeliveryId) :
    (Reassembler.accept .receiver d).Ends e
      (fun r e' => e'.Agrees ∧ ∀ message, r = .complete message → Formed message e')
      (fun _ => Endpoint.Agrees) fun _ => Endpoint.Agrees := by
  refine Attempt.ends_bind.2 (Attempt.ends_get.2 (Attempt.ends_ite.2 ⟨fun _ => ?_, fun _ =>
    Attempt.ends_ite.2 ⟨fun _ => ?_, fun _ => ?_⟩⟩))
  · refine Attempt.ends_bind.2 (Attempt.ends_lift.2 ((discard_idles h).imp (fun _ e₁ h₁ => ?_)
      fun _ _ => Idle.agrees))
    exact Attempt.ends_bind.2 (Attempt.ends_lift.2 ((moveOn_keeps e₁).imp
      (fun _ _ hk => ⟨(hk.idle h₁).agrees, nofun⟩) fun _ _ hk => (hk.1.idle h₁).agrees))
  · exact Attempt.ends_bind.2 ((acceptPartial_agrees h d).imp (fun _ _ h₁ => ⟨h₁, nofun⟩)
      (fun _ _ => id) fun _ _ => id)
  · refine Attempt.ends_bind.2 ((acceptComplete_forms h d).imp (fun message _ h₁ => ?_)
      (fun _ _ => id) fun _ _ => id)
    exact ⟨h₁.1.agrees, fun _ hm => by cases hm; exact h₁⟩

end Assembling

/-! ## Events -/

section Events

variable {e : Endpoint}

theorem process_agrees (h : e.Agrees) (d : DeliveryId) :
    (Receiver.process d).Ends e (fun _ => Endpoint.Agrees) (fun _ => Endpoint.Agrees)
      fun _ => Endpoint.Agrees := by
  have F := keeps_settling
  refine Attempt.ends_bind.2 (Attempt.ends_adapt.2 ((accept_forms h d).imp (fun r e₁ h₁ => ?_)
    (fun _ _ => id) fun _ _ => id))
  obtain ⟨h₁, hforms⟩ := h₁
  rcases r with _ | _ | message
  · exact Attempt.ends_lift.2 ((F.onAborted_within d e₁).imp (fun _ _ hk => hk.agrees h₁)
      fun _ _ hk => hk.1.agrees h₁)
  · exact h₁
  obtain ⟨hidle, hsealed⟩ := hforms message rfl
  refine Attempt.ends_bind.2 (Attempt.ends_adapt.2 ((F.resolveTransaction_within (keeps_noting rfl)
    .aside d e₁).imp (fun transaction e₂ hk₂ => ?_) (fun _ _ hk => hk.agrees h₁)
    fun _ _ hk => hk.1.agrees h₁))
  -- what was sealed when the message was made is still so when the handoff is noted
  have hpassed {e' : Endpoint} (hp : Passes Keeps e₂ message d e') : e'.Agrees := by
    obtain ⟨handoff, e₃, rfl, -, hk₃, hk'⟩ := hp
    have hk := hk₂.trans hk₃
    have hfits : e₃.Fits (.deliver handoff) := fun large hlarge =>
      (hsealed large hlarge).imp fun _ => hk.sealed
    have h₃ := hk.idle hidle
    exact (hk'.idle ⟨h₃.faithful.noting hfits, h₃.slot⟩).agrees
  have hcount := (F.increment_within .receiver e₂).imp (fun _ _ => id) fun _ _ => And.left
  exact (F.handOff_ends hcount message d transaction).imp (fun _ _ => hpassed)
    (fun _ _ => hpassed) fun _ _ h => h.elim hpassed fun hk => (hk₂.trans hk).agrees h₁

theorem close_agrees (h : e.Agrees) (remoteInitiated : Bool) :
    (Receiver.close remoteInitiated).Ends e (fun _ => Endpoint.Agrees)
      fun _ => Endpoint.Agrees := by
  have hremove : removeReceiver.Within Keeps fun _ _ => True :=
    keeps_settling.removeReceiver_within (keeps_noting rfl) .aside
  refine Act.ends_bind.2 ((keeps_settling.requireOnHandler_within e).imp (fun _ e₁ hk₁ => ?_)
    fun _ _ hk => hk.1.agrees h)
  have h₁ := hk₁.agrees h
  refine Act.ends_bind.2 (Act.ends_get.2 (Act.ends_ite.2 ⟨fun _ => h₁, fun _ => ?_⟩))
  refine Act.ends_bind.2 (Act.ends_modify.2 (Act.ends_bind.2 ((hremove _).imp (fun _ e₂ hk₂ => ?_)
    fun _ _ hk => (Keeps.aside.trans hk.1).agrees h₁)))
  have h₂ := (Keeps.aside.trans hk₂).agrees h₁
  have hclosed {e' : Endpoint} {notices : List Notice} (h' : Idle e') :
      { e' with lifecycle := .closed, notices }.Agrees := Keeps.aside.agrees h'.agrees
  exact Act.ends_bind.2 (Act.ends_bind.2 (Act.ends_contain.2 ((discard_idles h₂).imp
    (fun _ _ => hclosed) fun _ _ => hclosed)))

theorem closeWithError_agrees (h : e.Agrees) (condition : Condition) :
    (Receiver.closeWithError condition).Ends e (fun _ => Endpoint.Agrees)
      fun _ => Endpoint.Agrees := by
  have hcondition : (Link.setCondition condition).Within Keeps fun _ _ => True :=
    keeps_settling.setCondition_within (keeps_noting rfl) .aside
  exact Act.ends_bind.2 ((hcondition e).imp (fun _ _ hk => close_agrees (hk.agrees h) false)
    fun _ _ hk => hk.1.agrees h)

theorem after_agrees (h : e.Agrees) (event : Event) : (e.after event).Agrees := by
  have hentered : { e with onHandler := some e.mailbox.handler }.Agrees := Keeps.aside.agrees h
  cases event with
  | begin | transfer | abort | setDrain => exact Keeps.aside.agrees h
  | message d =>
    exact (message_ends (Q := Endpoint.Agrees) (fun _ => Keeps.aside.agrees) (fun _ => h)
      fun _ _ => process_agrees hentered d).state
  | close remoteInitiated =>
    exact Act.Ends.state (Act.ends_bind.2 (ends_onHandler.2 ((close_agrees hentered _).imp
      (fun _ _ => Keeps.aside.agrees) fun _ _ => Keeps.aside.agrees)))
  | closeWithError condition =>
    exact Act.Ends.state (Act.ends_bind.2 (ends_onHandler.2 ((closeWithError_agrees hentered _).imp
      (fun _ _ => Keeps.aside.agrees) fun _ _ => Keeps.aside.agrees)))
  | flow | runPending | settle | submit | setMode =>
    exact (keeps_settling.after rfl e).agrees h

end Events

section Planned

/-- The same calls go wrong. -/
structure SamePlan (e e' : Endpoint) : Prop where
  plan : e'.plan = e.plan
  faults : e'.storage.faults = e.storage.faults

theorem samePlan_assembly : AssemblyFrame SamePlan fun _ _ => True where
  refl := fun _ => ⟨rfl, rfl⟩
  trans := fun h h' => ⟨h'.plan.trans h.plan, h'.faults.trans h.faults⟩
  blame := fun _ _ => trivial
  noted := fun _ => ⟨rfl, rfl⟩
  told := fun _ => ⟨rfl, rfl⟩
  planned := fun _ => trivial
  stored := fun h _ => ⟨rfl, h.faults⟩
  filed := fun h => ⟨rfl, h.faults⟩
  deleting := ⟨rfl, rfl⟩
  taking := ⟨rfl, rfl⟩
  drained := ⟨rfl, rfl⟩
  own := fun _ => trivial
  slotted := ⟨rfl, rfl⟩
  counted := ⟨rfl, rfl⟩
  advanced := ⟨rfl, rfl⟩

theorem samePlan_settling : SettleFrame SamePlan where
  toTellFrame := samePlan_assembly.toTellFrame
  granting := fun _ => ⟨rfl, rfl⟩
  flowed := ⟨rfl, rfl⟩
  asked := ⟨rfl, rfl⟩
  flushed := ⟨rfl, rfl⟩
  counted := fun _ _ => ⟨rfl, rfl⟩
  settling := fun _ => ⟨rfl, rfl⟩
  disposed := ⟨rfl, rfl⟩
  settled := ⟨rfl, rfl⟩
  posted := ⟨rfl, rfl⟩
  taken := fun _ => ⟨rfl, rfl⟩
  tallied := ⟨rfl, rfl⟩
  routed := ⟨rfl, rfl⟩
  placed := ⟨rfl, rfl⟩

theorem after_samePlan (event : Event) (e : Endpoint) : SamePlan e (e.after event) :=
  after_within samePlan_assembly samePlan_settling ⟨rfl, rfl⟩ ⟨rfl, rfl⟩ event e

theorem afterAll_samePlan : ∀ (run : List Event) (e : Endpoint), SamePlan e (e.afterAll run)
  | [], e => samePlan_assembly.refl e
  | event :: run, e =>
    samePlan_assembly.trans (after_samePlan event e) (afterAll_samePlan run (e.after event))

end Planned

section Runs

variable {e : Endpoint}

theorem Endpoint.Fresh.agrees (h : e.Fresh) (hc : e.storage.Clean)
    (hs : e.plan.Spares [.linkAdvance]) : e.Agrees := by
  have hnone {n : Nat} {call : Call} : e.calls[n]? ≠ some call := by simp [h.calls]
  exact ⟨⟨hc, hs, fun ha => ha.elim fun _ hn => absurd hn hnone, fun hm => absurd hm.1 hnone,
    fun hm => absurd hm.1 hnone, fun hk => absurd hk hnone⟩,
    fun hslot => nomatch h.slot.symm.trans hslot⟩

theorem afterAll_agrees : ∀ (run : List Event) {e : Endpoint}, e.Agrees → (e.afterAll run).Agrees
  | [], _, h => h
  | event :: run, _, h => afterAll_agrees run (after_agrees h event)

/-- Whatever fails or panics in a run but the moving on of the link, and whenever: the large message
that is coming in has counted the bytes in its spool, and has a gap exactly if a write to it failed;
no spool is written to after it was finished; and a large message that was passed to routing lies in
a spool that was finished before, is not deleted and has as many bytes as it says. -/
theorem spools_agree (h : e.Fresh) (hc : e.storage.Clean) (hs : e.plan.Spares [.linkAdvance])
    (run : List Event) :
    let e' := e.afterAll run
    SamePlan e e' ∧
    (∀ a, e'.slot = some a →
      a.size = (e'.spooled a).length ∧ (a.incomplete ↔ ∃ n, e'.FailedAt a.spool n)) ∧
    (∀ spool m n, e'.FinishedAt spool m → e'.AppendedAt spool n → n < m) ∧
    ∀ k handoff large, e'.calls[k]? = some (.deliver handoff) → handoff.message = .large large →
      (∃ m < k, e'.FinishedAt large.spool m ∧ ∀ n, e'.AppendedAt large.spool n → n < m) ∧
        (e'.storage.record large.spool).deleted = false ∧
        large.size = (e'.storage.record large.spool).bytes.length := by
  intro e'
  have h' : e'.Agrees := afterAll_agrees run (h.agrees hc hs)
  refine ⟨afterAll_samePlan run e, fun a hslot => ?_, fun spool m n => h'.last,
    fun k handoff large hk hlarge => ?_⟩
  · have hwriting := h'.coming hslot
    exact ⟨hwriting.size, hwriting.gap⟩
  · obtain ⟨m, hm, hsealed⟩ := h'.passed hk hlarge
    exact ⟨⟨m, hm, hsealed.finished, fun n => h'.last hsealed.finished⟩, hsealed.kept, hsealed.size⟩

/-- The first message is finished when that is tried again after a panic, and the last bytes of the
second cannot be written. -/
theorem spools_agree_two :
    let plan : Plan := fun n point =>
      if n = 7 ∧ point = .spoolFinish then some (.panics (.text "disk gone"))
      else if n = 18 ∧ point = .spoolAppend then some (.fails { text := "disk full" })
      else none
    let e : Endpoint :=
      { Endpoint.start { minLargeMessageSize := 4 } "orders" 10 ⟨1⟩ .memory none with plan }
    let e' := e.afterAll [.begin 0 none, .transfer [1, 2, 3, 4] true, .message ⟨1⟩,
      .transfer [5, 6] false, .message ⟨1⟩, .message ⟨1⟩, .begin 0 none,
      .transfer [7, 8, 9, 10] true, .message ⟨2⟩, .transfer [11] true, .message ⟨2⟩]
    let large : LargeMessage :=
      { id := ⟨100⟩, format := 0, headerPresent := false, size := 6, spool := ⟨⟨100⟩, 0⟩ }
    let a : Accumulator :=
      { id := ⟨101⟩, format := 0, size := 4, incomplete := true, spool := ⟨⟨101⟩, 1⟩ }
    (e.Fresh ∧ e.storage.Clean ∧ e.plan.Spares [.linkAdvance]) ∧
      (e'.slot = some a ∧ (e'.spooled a).length = 4 ∧ ∃ n, e'.FailedAt a.spool n) ∧
      (e'.handoffs.map (·.message) = [.large large] ∧
        (e'.storage.record large.spool).bytes.length = 6 ∧
        ∃ m < 11, e'.FinishedAt large.spool m ∧ ∀ n, e'.AppendedAt large.spool n → n < m) := by
  intro plan e e' large a
  have hfresh : e.Fresh := ⟨rfl, rfl, rfl, rfl, rfl, rfl, rfl, rfl, rfl, rfl, rfl⟩
  have hclean : e.storage.Clean := .empty rfl rfl
  have hspares : e.plan.Spares [.linkAdvance] := by
    intro n point hp k
    obtain rfl : point = .linkAdvance := List.mem_singleton.1 hp
    simp [e, plan]
  obtain ⟨-, hcoming, -, hpassed⟩ := spools_agree hfresh hclean hspares
    [.begin 0 none, .transfer [1, 2, 3, 4] true, .message ⟨1⟩, .transfer [5, 6] false, .message ⟨1⟩,
      .message ⟨1⟩, .begin 0 none, .transfer [7, 8, 9, 10] true, .message ⟨2⟩, .transfer [11] true,
      .message ⟨2⟩]
  have hslot : e'.slot = some a := by decide +kernel
  have hhandoffs : e'.handoffs.map (·.message) = [.large large] := by decide +kernel
  have hdelivered : e'.calls[11]? = some (.deliver e'.handoffs.head!) := by decide +kernel
  have hmessage : e'.handoffs.head!.message = .large large := by decide +kernel
  obtain ⟨hsize, hgap⟩ := hcoming a hslot
  obtain ⟨hfinished, -, hbytes⟩ := hpassed 11 _ large hdelivered hmessage
  exact ⟨⟨hfresh, hclean, hspares⟩, ⟨hslot, hsize.symm, hgap.1 rfl⟩, hhandoffs, hbytes.symm,
    hfinished⟩

end Runs

end ReceivingLink
