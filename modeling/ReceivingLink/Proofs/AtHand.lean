import ReceivingLink.Proofs.Setting

/-!
# The bytes at hand

The bytes of a delivery that came in and were not passed on are those in the spool of the large
message that is coming in and, behind them, those in the link's buffer. Reassembly moves them from
the one place to the other. What a single call does to them, and what becomes of one large message,
is said here for every way in which the calls can end, as long as none of them panics while bytes
are moved.
-/

namespace ReceivingLink

/-- No record is poisoned, and the table of records is not. -/
structure Storage.Clean (s : Storage) : Prop where
  table : s.poisoned = false
  records : ∀ spool, (s.record spool).poisoned = false

/-- The accumulator's spool was opened and not finished, and has as many bytes as were counted. -/
structure Accumulator.Writes (a : Accumulator) (s : Storage) : Prop where
  opened : a.spool.place < s.records.length
  unfinished : (s.record a.spool).finished = false
  size : a.incomplete = false → a.size = (s.record a.spool).bytes.length

namespace Endpoint

/-- The large message that is coming in. -/
def slot (e : Endpoint) : Option Accumulator := (e.reassembler.get .receiver).slot

/-- What is in the spool of a large message. -/
def spooled (e : Endpoint) (a : Accumulator) : Bytes := (e.storage.record a.spool).bytes

/-- The bytes that came in for the current delivery and are still there. -/
def atHand (e : Endpoint) : Bytes := ((e.slot.map e.spooled).getD []) ++ e.link.buffer

/-- Bytes are missing from the large message that is coming in. -/
def Spoiled (e : Endpoint) : Prop := ∃ a, e.slot = some a ∧ a.incomplete

/-- The endpoint with another large message coming in, or with none. -/
def withSlot (e : Endpoint) (slot : Option Accumulator) : Endpoint :=
  { e with
    reassembler := e.reassembler.set { e.reassembler.get .receiver with slot } .receiver }

/-- The bytes of a message. -/
def content (e : Endpoint) : Message → Bytes
  | .standard m => m.payload
  | .large m => (e.storage.record m.spool).bytes

/-- What has come for a delivery is enough for a large message. -/
def Reaches (e : Endpoint) (d : DeliveryId) : Prop :=
  ∃ threshold, (e.reassembler.get .receiver).threshold = some threshold ∧
    threshold ≤ (e.link.delivery d).available

end Endpoint

/-- The error of a call that is made after the bytes were taken from the link. -/
def ReassemblyError.IsLate : ReassemblyError → Prop
  | .register .. | .append .. => True
  | _ => False

/-- Neither the link nor the large message that is coming in has changed. -/
structure SameFront (e e' : Endpoint) : Prop where
  link : e'.link = e.link
  reassembler : e'.reassembler = e.reassembler

namespace Storage.Clean

variable {s : Storage}

theorem empty (hp : s.poisoned = false) (hr : s.records = []) : s.Clean :=
  ⟨hp, fun spool => by simp [Storage.record, hr]⟩

theorem change (h : s.Clean) {f : SpoolRecord → SpoolRecord} (spool : Spool)
    (hf : ∀ r, (f r).poisoned = r.poisoned) : (s.change spool f).Clean :=
  ⟨h.table, fun x => (s.record_change hf x).trans (h.records x)⟩

theorem opened (h : s.Clean) (id : LargeMessageId) : (s.opened id).Clean := by
  refine ⟨h.table, fun spool => ?_⟩
  rcases s.record_opened_or id spool with hr | ⟨-, hr⟩ <;> rw [hr]
  exact h.records spool

theorem ofRecords (h : s.Clean) {s' : Storage} (hp : s'.poisoned = s.poisoned)
    (hr : s'.records = s.records) : s'.Clean := by
  refine ⟨hp.trans h.table, fun spool => ?_⟩
  rw [Storage.record, hr]
  exact h.records spool

end Storage.Clean

namespace Accumulator.Writes

variable {a : Accumulator} {s : Storage}

/-- An accumulator that is made for a spool just opened. -/
theorem ofOpened {id : LargeMessageId} (hplace : a.spool.place < s.records.length)
    (hrecord : s.record a.spool = { id }) (hsize : a.size = 0) : a.Writes s := by
  refine ⟨hplace, ?_, fun _ => ?_⟩
  · rw [hrecord]
  · rw [hrecord, hsize]
    rfl

theorem append (h : a.Writes s) (bytes : Bytes) :
    { a with size := a.size + bytes.length }.Writes (s.append a.spool bytes) := by
  have hrecord : (s.append a.spool bytes).record a.spool = _ := s.record_change_self h.opened
  refine ⟨?_, ?_, fun hi => ?_⟩
  · simpa [Storage.append, Storage.change] using h.opened
  · rw [hrecord]
    exact h.unfinished
  · rw [hrecord, List.length_append, ← h.size hi]

theorem spoil (h : a.Writes s) : { a with incomplete := true }.Writes s :=
  ⟨h.opened, h.unfinished, fun hi => by cases hi⟩

end Accumulator.Writes

namespace Endpoint

/-- The endpoint with a call noted. -/
def noting (e : Endpoint) (call : Call) : Endpoint := { e with calls := e.calls ++ [call] }

end Endpoint

section Calls

variable {e : Endpoint} {a : Accumulator}

/-- A call that fails or panics does so by the plan, and nothing but the call is noted. -/
theorem attempt_ends (e : Endpoint) (call : Call) (hp : call.point ∈ Endpoint.messagePoints) :
    (attempt call).Ends e (fun _ e' => e' = e.noting call)
      (fun _ e' => e' = e.noting call ∧ ¬ e.Reliable)
      fun _ e' => e' = e.noting call ∧ ¬ e.Reliable ∧
        (call.point ∈ Endpoint.movingPoints → ¬ e.Mild) := by
  have hfault {fault : Fault} (hf : e.plan e.calls.length call.point = some fault) : ¬ e.Reliable :=
    fun hc => by simp [hc.plan _ call.point hp (Nat.le_refl _)] at hf
  simp only [attempt, note, Attempt.ends_bind, Attempt.ends_lift, Act.ends_modifyGet]
  split
  · rename_i k hf
    exact ⟨rfl, hfault hf, fun hp hm => hm.plan _ _ hp k (Nat.le_refl _) hf⟩
  · exact ⟨rfl, hfault ‹_›⟩
  · exact ⟨rfl, hfault ‹_›⟩
  · exact rfl

theorem invoke_mild {call : Call} (hp : call.point ∈ Endpoint.movingPoints) :
    (invoke call).Ends e (fun _ e' => e' = e.noting call) fun _ _ => ¬ e.Mild := by
  simp only [invoke, note, Act.ends_bind, Act.ends_modifyGet]
  split
  · rename_i k hf
    exact fun hm => hm.plan _ _ hp k (Nat.le_refl _) hf
  · exact rfl

/-- A call that moves bytes panics only if it was not to be mild. -/
theorem moving_ends {call : Call} (hp : call.point ∈ Endpoint.movingPoints) :
    (attempt call).Ends e (fun _ e' => e' = e.noting call)
      (fun _ e' => e' = e.noting call ∧ ¬ e.Reliable) fun _ _ => ¬ e.Mild :=
  (attempt_ends e call (List.mem_append_left _ hp)).imp (fun _ _ => id) (fun _ _ => id)
    fun _ _ h => h.2.2 hp

/-- All bytes that wait are taken. -/
theorem recv_ends (e : Endpoint) :
    Link.recv.Ends e (fun bytes e' => bytes = e.link.buffer ∧
      e' = { e.noting (.linkRecv e.link.buffer) with link := e.link.drained })
      fun _ _ => ¬ e.Mild := by
  refine Act.ends_bind.2 (Act.ends_get.2 (Act.ends_bind.2 ((invoke_mild ?_).imp ?_ fun _ _ => id)))
  · simp [Call.point, Endpoint.movingPoints]
  · rintro _ _ rfl
    exact ⟨rfl, rfl⟩

theorem moveOn_ends (e : Endpoint) :
    Link.moveOn.Ends e
      (fun _ e' => e' = { e.noting .linkAdvance with link := e.link.advance })
      fun _ _ => ¬ e.Mild := by
  refine Act.ends_bind.2 ((invoke_mild ?_).imp ?_ fun _ _ => id)
  · simp [Call.point, Endpoint.movingPoints]
  · rintro _ _ rfl
    exact rfl

theorem hold_or (e : Endpoint) (spool : Spool) :
    spool.hold.Ends e (fun record e' => record = e.storage.record spool ∧ e' = e)
      fun _ _ => (e.storage.record spool).poisoned := by
  by_cases hp : (e.storage.record spool).poisoned <;> simp [Spool.hold, hp]

theorem holdTable_or (e : Endpoint) :
    Storage.holdTable.Ends e (fun _ e' => e' = e) fun _ _ => e.storage.poisoned := by
  by_cases hp : e.storage.poisoned <;> simp [Storage.holdTable, hp]

theorem hold_ends (h : e.storage.Clean) (spool : Spool) :
    spool.hold.Ends e (fun record e' => record = e.storage.record spool ∧ e' = e)
      fun _ _ => False := by
  simp [Spool.hold, h.records spool]

theorem holdTable_ends (h : e.storage.Clean) :
    Storage.holdTable.Ends e (fun _ e' => e' = e) fun _ _ => False := by
  simp [Storage.holdTable, h.table]

theorem spoolAppend_ends (hc : e.storage.Clean) {spool : Spool}
    (hu : (e.storage.record spool).finished = false) (bytes : Bytes) :
    (spool.append bytes).Ends e
      (fun _ e' => e' = { e.noting (.spoolAppend spool bytes) with
        storage := e.storage.append spool bytes })
      (fun _ e' => e' = e.noting (.spoolAppend spool bytes) ∧ ¬ e.Reliable)
      fun _ _ => ¬ e.Mild := by
  refine Attempt.ends_bind.2 ((moving_ends ?_).imp ?_ (fun _ _ => id) fun _ _ => id)
  · simp [Call.point, Endpoint.movingPoints]
  · rintro _ _ rfl
    refine Attempt.ends_bind.2 (Attempt.ends_get.2 (Attempt.ends_ite.2 ⟨fun hf => ?_, fun _ =>
      Attempt.ends_ite.2 ⟨fun hf => ?_, fun _ => ?_⟩⟩))
    · have hmild : ¬ e.Mild := fun hm => by simp [Endpoint.noting, hm.appends] at hf
      exact Attempt.ends_bind.2 hmild
    · have hfault : ¬ e.Reliable := fun hm => by simp [Endpoint.noting, hm.faults] at hf
      exact Attempt.ends_bind.2 ⟨rfl, hfault⟩
    · refine Attempt.ends_bind.2 (Attempt.ends_lift.2 ((hold_ends (by exact hc) spool).imp ?_
        fun _ _ => False.elim))
      rintro _ _ ⟨rfl, rfl⟩
      refine Attempt.ends_ite.2 ⟨fun hf => ?_, fun _ => ?_⟩
      · simp [Endpoint.noting, hu] at hf
      · exact rfl

end Calls

section Large

variable {e : Endpoint} {a : Accumulator} {d : DeliveryId}

theorem SameFront.refl (e : Endpoint) : SameFront e e := ⟨rfl, rfl⟩

theorem SameFront.trans {e₁ e₂ e₃ : Endpoint} (h : SameFront e₁ e₂) (h' : SameFront e₂ e₃) :
    SameFront e₁ e₃ := ⟨h'.link.trans h.link, h'.reassembler.trans h.reassembler⟩

/-- What a write makes of an accumulator: all bytes are in its spool, or it is incomplete. -/
structure Written (e : Endpoint) (a : Accumulator) (bytes : Bytes) (written : Accumulator)
    (e' : Endpoint) : Prop where
  front : SameFront e e'
  clean : e'.storage.Clean
  writes : written.Writes e'.storage
  format : written.format = a.format
  spooled : written.incomplete = false → e'.spooled written = e.spooled a ++ bytes
  sticky : a.incomplete → written.incomplete

/-- Bytes are written behind those in the spool. A write that fails leaves a gap that is noted. -/
theorem append_ends (hc : e.storage.Clean) (ha : a.Writes e.storage) (bytes : Bytes) :
    (a.append bytes).Ends e
      (fun r e' => Written e a bytes r.1 e' ∧ match r.2 with
        | .ok () => r.1.incomplete = a.incomplete
        | .error error => error.IsLate ∧ r.1.incomplete ∧ ¬ e.Reliable)
      fun _ _ => ¬ e.Mild := by
  unfold Accumulator.append
  refine Act.ends_ite.2 ⟨fun hb => ?_, fun _ => Act.ends_ite.2 ⟨fun hi => ?_, fun hi => ?_⟩⟩
  · have hnil : bytes = [] := by simpa using hb
    exact ⟨⟨.refl e, hc, ha, rfl, fun _ => by simp [hnil], id⟩, rfl⟩
  · refine ⟨⟨⟨rfl, rfl⟩, hc, ha, rfl, fun hn => ?_, id⟩, rfl⟩
    exact absurd (hn.symm.trans hi) Bool.false_ne_true
  · refine Act.ends_bind.2 (Act.ends_run.2 ((spoolAppend_ends hc ha.unfinished bytes).imp ?_ ?_
      fun _ _ => id))
    · rintro _ _ rfl
      refine ⟨⟨⟨rfl, rfl⟩, hc.change _ fun _ => rfl, ha.append bytes, rfl, fun _ => ?_, id⟩, rfl⟩
      exact congrArg SpoolRecord.bytes (e.storage.record_change_self ha.opened)
    · rintro _ _ ⟨rfl, hfault⟩
      exact ⟨⟨⟨rfl, rfl⟩, hc, ha.spoil, rfl, nofun, fun _ => rfl⟩, trivial, rfl, hfault⟩

/-- A spool is finished only if nothing is missing, and its bytes stay. -/
theorem finish_ends (hc : e.storage.Clean) (a : Accumulator) :
    a.finish.Ends e
      (fun _ e' => a.incomplete = false ∧ SameFront e e' ∧ e'.storage.Clean ∧
        e'.spooled a = e.spooled a)
      (fun _ e' => (a.incomplete ∨ ¬ e.Reliable) ∧ SameFront e e' ∧ e'.storage.Clean)
      fun _ _ => ¬ e.Mild := by
  unfold Accumulator.finish
  refine Attempt.ends_ite.2 ⟨fun hi => ?_, fun hi => ?_⟩
  · exact Attempt.ends_bind.2 ⟨.inl hi, .refl e, hc⟩
  have hi : a.incomplete = false := by simpa using hi
  refine Attempt.ends_bind.2 (Attempt.ends_adapt.2 (Attempt.ends_bind.2 ((moving_ends ?_).imp ?_ ?_
    fun _ _ => id)))
  · simp [Call.point, Endpoint.movingPoints]
  · rintro _ _ rfl
    refine Attempt.ends_bind.2 (Attempt.ends_get.2 (Attempt.ends_ite.2 ⟨fun hf => ?_, fun _ => ?_⟩))
    · have hfault : ¬ e.Reliable := fun hm => by simp [Endpoint.noting, hm.faults] at hf
      exact Attempt.ends_bind.2 ⟨.inr hfault, ⟨rfl, rfl⟩, hc⟩
    · refine Attempt.ends_bind.2 (Attempt.ends_discard.2 (Attempt.ends_lift.2
        ((hold_ends (by exact hc) a.spool).imp ?_ fun _ _ => False.elim)))
      rintro _ _ ⟨rfl, rfl⟩
      refine ⟨hi, ⟨rfl, rfl⟩, hc.change _ fun _ => rfl, ?_⟩
      exact e.storage.record_change (fun _ => by rfl) a.spool
  · rintro _ _ ⟨rfl, hfault⟩
    exact ⟨.inr hfault, ⟨rfl, rfl⟩, hc⟩

theorem drop_ends (hc : e.storage.Clean) (a : Accumulator) :
    a.drop.Ends e (fun _ e' => SameFront e e' ∧ e'.storage.Clean) fun _ _ => ¬ e.Mild := by
  refine Act.ends_bind.2 (Act.ends_run.2 (Attempt.ends_bind.2 ((moving_ends ?_).imp ?_ ?_
    fun _ _ => id)))
  · simp [Call.point, Endpoint.movingPoints]
  · rintro _ _ rfl
    refine Attempt.ends_bind.2 (Attempt.ends_get.2 (Attempt.ends_ite.2 ⟨fun _ => ?_, fun _ => ?_⟩))
    · exact Attempt.ends_bind.2 ⟨⟨rfl, rfl⟩, hc⟩
    · refine Attempt.ends_bind.2 (Attempt.ends_discard.2 (Attempt.ends_lift.2
        ((hold_ends (by exact hc) a.spool).imp ?_ fun _ _ => False.elim)))
      rintro _ _ ⟨rfl, rfl⟩
      exact ⟨⟨rfl, rfl⟩, hc.change _ fun _ => rfl⟩
  · rintro _ _ ⟨rfl, -⟩
    exact ⟨⟨rfl, rfl⟩, hc⟩

theorem generateId_ends (hc : e.storage.Clean) :
    Storage.generateId.Ends e (fun _ e' => SameFront e e' ∧ e'.storage.Clean)
      (fun _ e' => (SameFront e e' ∧ e'.storage.Clean) ∧ ¬ e.Reliable) fun _ _ => ¬ e.Mild := by
  refine Attempt.ends_bind.2 ((moving_ends ?_).imp ?_ ?_ fun _ _ => id)
  · simp [Call.point, Endpoint.movingPoints]
  · rintro _ _ rfl
    refine Attempt.ends_bind.2 (Attempt.ends_get.2 (Attempt.ends_ite.2 ⟨fun hf => ?_, fun _ => ?_⟩))
    · have hfault : ¬ e.Reliable := fun hm => by simp [Endpoint.noting, hm.faults] at hf
      exact Attempt.ends_bind.2 ⟨⟨⟨rfl, rfl⟩, hc⟩, hfault⟩
    · exact ⟨⟨rfl, rfl⟩, hc.ofRecords rfl rfl⟩
  · rintro _ _ ⟨rfl, hfault⟩
    exact ⟨⟨⟨rfl, rfl⟩, hc⟩, hfault⟩

/-- A spool that is opened is empty. -/
theorem openSpool_ends (hc : e.storage.Clean) (hp : e.isPersistent) (id : LargeMessageId) :
    (Storage.openSpool id).Ends e
      (fun spool e' => (SameFront e e' ∧ e'.storage.Clean) ∧
        spool.place < e'.storage.records.length ∧ e'.storage.record spool = { id })
      (fun _ e' => (SameFront e e' ∧ e'.storage.Clean) ∧ ¬ e.Reliable) fun _ _ => ¬ e.Mild := by
  refine Attempt.ends_bind.2 ((moving_ends ?_).imp ?_ ?_ fun _ _ h => h)
  · simp [Call.point, Endpoint.movingPoints]
  · rintro _ _ rfl
    refine Attempt.ends_bind.2 (Attempt.ends_get.2 (Attempt.ends_ite.2 ⟨fun hf => ?_, fun _ => ?_⟩))
    · have hfault : ¬ e.Reliable := fun hm => by simp [Endpoint.noting, hm.spools hp] at hf
      exact Attempt.ends_bind.2 ⟨⟨⟨rfl, rfl⟩, hc⟩, hfault⟩
    · refine Attempt.ends_bind.2 (Attempt.ends_lift.2 ((holdTable_ends (by exact hc)).imp ?_
        fun _ _ => False.elim))
      rintro _ _ rfl
      refine ⟨⟨⟨rfl, rfl⟩, hc.opened id⟩, ?_, e.storage.record_newSpool id⟩
      simp [Endpoint.noting, Storage.newSpool, Storage.opened]
  · rintro _ _ ⟨rfl, hfault⟩
    exact ⟨⟨⟨rfl, rfl⟩, hc⟩, hfault⟩

theorem registerLarge_ends (hc : e.storage.Clean) (id : LargeMessageId) (a : Accumulator) :
    (Storage.registerLarge id a).Ends e
      (fun _ e' => (SameFront e e' ∧ e'.storage.Clean) ∧ e'.storage.records = e.storage.records)
      (fun _ e' => (SameFront e e' ∧ e'.storage.Clean) ∧ ¬ e.Reliable) fun _ _ => ¬ e.Mild := by
  refine Attempt.ends_bind.2 ((moving_ends ?_).imp ?_ ?_ fun _ _ h => h)
  · simp [Call.point, Endpoint.movingPoints]
  · rintro _ _ rfl
    exact ⟨⟨⟨rfl, rfl⟩, hc.ofRecords (Storage.register_poisoned ..) (Storage.register_records ..)⟩,
      Storage.register_records ..⟩
  · rintro _ _ ⟨rfl, hfault⟩
    exact ⟨⟨⟨rfl, rfl⟩, hc⟩, hfault⟩

/-- A large message that was started with what waited in the link. -/
structure Started (e : Endpoint) (d : DeliveryId) (a : Accumulator) (e' : Endpoint) : Prop where
  link : e'.link = e.link.drained
  clean : e'.storage.Clean
  writes : a.Writes e'.storage
  whole : a.incomplete = false
  format : a.format = (e.link.delivery d).format
  spooled : e'.spooled a = e.link.buffer

/-- A large message is started with all bytes that wait, or not at all. If it is a late call that
failed, the bytes are gone. -/
theorem start_ends (hc : e.storage.Clean) (hp : e.isPersistent) (d : DeliveryId) :
    (Accumulator.start d).Ends e
      (fun a e' => e'.reassembler = e.reassembler ∧ Started e d a e')
      (fun error e' => e'.reassembler = e.reassembler ∧ e'.storage.Clean ∧ ¬ e.Reliable ∧
        (¬ error.IsLate ∧ e'.link = e.link ∨ error.IsLate ∧ e'.link = e.link.drained))
      fun _ _ => ¬ e.Mild := by
  have S := sameSetting_frame
  refine Attempt.ends_bind.2 (Attempt.ends_adapt.2 (((generateId_ends hc).and
    (S.generateId_within e)).imp (fun id e₁ h₁ => ?_) (fun _ e₁ h₁ => ?_) fun _ _ => And.left))
  swap
  · exact ⟨h₁.1.1.1.reassembler, h₁.1.1.2, h₁.1.2, .inl ⟨id, h₁.1.1.1.link⟩⟩
  obtain ⟨⟨hf₁, hc₁⟩, hs₁⟩ := h₁
  have hp₁ : e₁.isPersistent := by rw [hs₁.isPersistent]; exact hp
  refine Attempt.ends_bind.2 (Attempt.ends_adapt.2 (((openSpool_ends hc₁ hp₁ id).and
    (S.openSpool_within id e₁)).imp (fun spool e₂ h₂ => ?_) (fun _ e₂ h₂ => ?_) fun _ _ h₂ => ?_))
  rotate_left
  · obtain ⟨⟨⟨hf₂, hc₂⟩, hfault⟩, hs₂⟩ := h₂
    exact ⟨(hf₁.trans hf₂).reassembler, hc₂, fun hm => hfault (hs₁.reliable hm),
      .inl ⟨nofun, (hf₁.trans hf₂).link⟩⟩
  · exact fun hm => h₂.1 (hs₁.mild hm)
  obtain ⟨⟨⟨hf₂, hc₂⟩, hplace, hrecord⟩, hs₂⟩ := h₂
  have hf := hf₁.trans hf₂
  have hs := hs₁.trans hs₂
  refine Attempt.ends_bind.2 (Attempt.ends_get.2 (Attempt.ends_bind.2 (Attempt.ends_lift.2
    (((recv_ends e₂).and (S.recv_within e₂)).imp ?_ fun _ _ h₃ hm => h₃.1 (hs.mild hm)))))
  rintro initial e₃ ⟨⟨rfl, he₃⟩, hs₃⟩
  have hlink₃ : e₃.link = e.link.drained := by rw [he₃, ← hf.link]
  have hre₃ : e₃.reassembler = e.reassembler := by rw [he₃]; exact hf.reassembler
  have hst₃ : e₃.storage = e₂.storage := by rw [he₃]; rfl
  have hc₃ : e₃.storage.Clean := by rw [hst₃]; exact hc₂
  have hs₃ := hs.trans hs₃
  -- From here on a failure drops the spool, and the link has nothing left to give.
  have hlate {e₄ : Endpoint} (a : Accumulator) (error : ReassemblyError) (hl : error.IsLate)
      (hf₄ : SameFront e₃ e₄) (hc₄ : e₄.storage.Clean) (hs₄ : SameSetting e e₄)
      (hfault : ¬ e.Reliable) :
      Attempt.Ends (do
        a.drop
        throw error : Attempt ReassemblyError Accumulator) e₄
        (fun a e' => e'.reassembler = e.reassembler ∧ Started e d a e')
        (fun error e' => e'.reassembler = e.reassembler ∧ e'.storage.Clean ∧ ¬ e.Reliable ∧
          (¬ error.IsLate ∧ e'.link = e.link ∨ error.IsLate ∧ e'.link = e.link.drained))
        fun _ _ => ¬ e.Mild := by
    refine Attempt.ends_bind.2 (Attempt.ends_lift.2 ((drop_ends hc₄ a).imp (fun _ e₅ h₅ => ?_)
      fun _ _ h₅ hm => h₅ (hs₄.mild hm)))
    have hf₅ := hf₄.trans h₅.1
    exact ⟨hf₅.reassembler.trans hre₃, h₅.2, hfault, .inr ⟨hl, hf₅.link.trans hlink₃⟩⟩
  refine Attempt.ends_bind.2 (Attempt.ends_lift.2 (Act.ends_run.2 (((registerLarge_ends hc₃ id
    _).and (S.registerLarge_within id _ e₃)).imp (fun _ e₄ h₄ => ?_) (fun cause e₄ h₄ => ?_)
    fun _ _ h₄ hm => h₄.1 (hs₃.mild hm))))
  swap
  · exact hlate _ (.register id cause) trivial h₄.1.1.1 h₄.1.1.2 (hs₃.trans h₄.2)
      fun hm => h₄.1.2 (hs₃.reliable hm)
  obtain ⟨⟨⟨hf₄, hc₄⟩, hr₄⟩, hs₄⟩ := h₄
  have hs₄ := hs₃.trans hs₄
  let empty : Accumulator :=
    { id, format := (e₂.link.delivery d).format,
      headerPresent := Header.isPresent e₂.link.buffer, spool }
  have hrecord₄ : e₄.storage.record spool = { id } := by
    rw [Storage.record, hr₄, hst₃]
    exact hrecord
  have hplace₄ : spool.place < e₄.storage.records.length := by
    rw [hr₄, hst₃]
    exact hplace
  have hw : empty.Writes e₄.storage := .ofOpened hplace₄ hrecord₄ rfl
  refine Attempt.ends_bind.2 (Attempt.ends_lift.2 (((append_ends hc₄ hw e₂.link.buffer).and
    (S.append_within empty e₂.link.buffer e₄)).imp (fun r e₅ h₅ => ?_)
    fun _ _ h₅ hm => h₅.1 (hs₄.mild hm)))
  obtain ⟨written, r⟩ := r
  obtain ⟨⟨hwrit, hr⟩, hs₅⟩ := h₅
  rcases r with error | _
  · exact hlate written error hr.1 (hf₄.trans hwrit.front) hwrit.clean (hs₄.trans hs₅)
      fun hm => hr.2.2 (hs₄.reliable hm)
  · have hf₅ := hf₄.trans hwrit.front
    have hbytes : e₄.spooled empty = [] := congrArg SpoolRecord.bytes hrecord₄
    refine Attempt.ends_bind.2 (Attempt.ends_lift.2 ⟨hf₅.reassembler.trans hre₃,
      hf₅.link.trans hlink₃, hwrit.clean, hwrit.writes, hr, ?_, ?_⟩)
    · rw [hwrit.format, ← hf.link]
    · refine (hwrit.spooled hr).trans ?_
      rw [hbytes, List.nil_append, hf.link]

end Large

end ReceivingLink
