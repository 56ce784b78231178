import ReceivingLink.Proofs.Turns

/-!
# What becomes of the bytes that are taken

The large message that is coming in does not say which delivery it is for. It is for the current
one, because the link is moved past a delivery only when nothing of it is left in the slot. So an
event writes what it takes from the link to the spool in the slot or to one that it opened, and
passes on a message of such a spool or of such bytes: `message_conveys`. This holds whatever fails
or panics, as long as the link gives out its bytes.
-/

namespace ReceivingLink

/-- The bytes are some of the buffers, one behind the other in their order. -/
def DrawnFrom (buffers : List Bytes) (bytes : Bytes) : Prop :=
  ∃ kept : List Bytes, kept.Sublist buffers ∧ bytes = kept.flatten

namespace Endpoint

/-- What is in the spool at a place may grow on the way to another endpoint: the large message that
is coming in has it, or it is opened on the way. -/
def Fills (e e' : Endpoint) (place : Nat) : Prop :=
  (∃ a, e.slot = some a ∧ a.spool.place = place) ∨
    e.storage.records.length ≤ place ∧ place < e'.storage.records.length

end Endpoint

/-- Nothing was taken from the link, written to a spool or passed to routing. The large message that
is coming in may have been given up. -/
structure Filed (e e' : Endpoint) : Prop where
  plan : e'.plan = e.plan
  handoffs : e'.handoffs = e.handoffs
  taken : e'.taken = e.taken
  queue : e'.link.queue = e.link.queue
  buffer : e'.link.buffer = e.link.buffer
  slot : e'.slot = e.slot ∨ e'.slot = none
  opened : e.storage.records.length ≤ e'.storage.records.length
  bytes : ∀ spool, (e'.storage.record spool).bytes = (e.storage.record spool).bytes

/-- What was taken from the link, and what of it was kept in spools. The link is moved past its
delivery only with nothing left of it. -/
structure Traces (kept all : List Bytes) (e e' : Endpoint) : Prop where
  plan : e'.plan = e.plan
  taken : e'.taken = e.taken ++ all
  left : (all.flatten ++ e'.link.buffer).Sublist e.link.buffer
  place : e'.link.queue = e.link.queue ∨ Moved e e'
  slot : ∀ a, e'.slot = some a → e.Fills e' a.spool.place
  opened : e.storage.records.length ≤ e'.storage.records.length
  written : ∀ spool, (e'.storage.record spool).bytes = (e.storage.record spool).bytes ∨
    e.Fills e' spool.place ∧ ∃ more, DrawnFrom kept more ∧
      (e'.storage.record spool).bytes = (e.storage.record spool).bytes ++ more

/-- All that was kept was taken on the way. -/
def Gathers (e e' : Endpoint) : Prop := ∃ all, Traces all all e e'

/-- The message is made of what was taken, or of a spool that was filled on the way. -/
def Sourced (all : List Bytes) (e e' : Endpoint) : Message → Prop
  | .standard m => DrawnFrom all m.payload
  | .large m => e.Fills e' m.spool.place

namespace DrawnFrom

variable {buffers buffers' : List Bytes} {bytes bytes' : Bytes}

theorem nil : DrawnFrom buffers [] := ⟨[], List.nil_sublist _, rfl⟩

theorem self (bytes : Bytes) : DrawnFrom [bytes] bytes :=
  ⟨[bytes], List.Sublist.refl _, by simp⟩

theorem mono (h : DrawnFrom buffers bytes) (hb : buffers.Sublist buffers') :
    DrawnFrom buffers' bytes := h.imp fun _ h => ⟨h.1.trans hb, h.2⟩

theorem append (h : DrawnFrom buffers bytes) (h' : DrawnFrom buffers' bytes') :
    DrawnFrom (buffers ++ buffers') (bytes ++ bytes') := by
  obtain ⟨kept, hs, rfl⟩ := h
  obtain ⟨kept', hs', rfl⟩ := h'
  exact ⟨kept ++ kept', hs.append hs', by simp⟩

end DrawnFrom

section Filing

variable {e e₁ e₂ e' : Endpoint}

namespace Filed

theorem refl (e : Endpoint) : Filed e e :=
  ⟨rfl, rfl, rfl, rfl, rfl, .inl rfl, Nat.le_refl _, fun _ => rfl⟩

theorem trans (h : Filed e e₁) (h' : Filed e₁ e₂) : Filed e e₂ where
  plan := h'.plan.trans h.plan
  handoffs := h'.handoffs.trans h.handoffs
  taken := h'.taken.trans h.taken
  queue := h'.queue.trans h.queue
  buffer := h'.buffer.trans h.buffer
  slot := h'.slot.elim (fun hs => h.slot.imp hs.trans hs.trans) .inr
  opened := Nat.le_trans h.opened h'.opened
  bytes := fun spool => (h'.bytes spool).trans (h.bytes spool)

theorem slot_none (h : Filed e e') (hn : e.slot = none) : e'.slot = none :=
  h.slot.elim (·.trans hn) id

theorem slot_some (h : Filed e e') {a : Accumulator} (ha : e'.slot = some a) : e.slot = some a :=
  h.slot.elim (fun hs => hs.symm.trans ha) fun hn => nomatch hn.symm.trans ha

end Filed

theorem Untouched.filed (h : Untouched e e') : Filed e e' :=
  ⟨h.plan, h.handoffs, h.taken, h.queue, h.buffer, .inl h.slot, Nat.le_of_eq (by rw [h.storage]),
    fun _ => by rw [h.storage]⟩

theorem filed_frame : DiscardFrame Filed fun _ _ => True where
  refl := .refl
  trans := .trans
  blame := fun _ _ => trivial
  noted := fun h => (untouched_calls.noted h).filed
  told := fun h => (untouched_calls.told h).filed
  planned := fun _ => trivial
  filed := fun h => ⟨rfl, rfl, rfl, rfl, rfl, .inl rfl, h.opened, h.bytes⟩
  deleting := ⟨rfl, handoffs_noted rfl, taken_noted rfl, rfl, rfl, .inl rfl, Nat.le_refl _,
    fun _ => rfl⟩
  own := fun _ => trivial
  cleared := by
    intro e o
    refine ⟨rfl, rfl, rfl, rfl, rfl, ?_, Nat.le_refl _, fun _ => rfl⟩
    cases o
    · exact .inr rfl
    · exact .inl rfl

/-- A spool that is opened was not there before. -/
theorem openSpool_fills (e : Endpoint) (large : LargeMessageId) :
    (Storage.openSpool large).Ends e (fun spool e' => Filed e e' ∧ e.Fills e' spool.place)
      (fun _ e' => Filed e e') fun _ e' => Filed e e' := by
  have F := filed_frame
  refine (F.openSpool_ends large e).imp ?_ (fun _ _ h => h) fun _ _ => And.left
  rintro _ _ ⟨e₁, h₁, rfl, rfl⟩
  refine ⟨h₁.trans (F.filed (e₁.storage.sameBytes_opened large)), .inr ⟨h₁.opened, ?_⟩⟩
  simp [Storage.newSpool, Storage.opened]

/-- When it is given up, no large message is coming in any more. -/
theorem discard_clears (e : Endpoint) : (Reassembler.discard .receiver).Ends e
    (fun _ e' => Filed e e' ∧ e'.slot = none) fun _ e' => Filed e e' := by
  have F := filed_frame
  refine Act.ends_bind.2 (ends_current.2 ?_)
  rcases hslot : (e.reassembler.get .receiver).slot with _ | a
  · exact ⟨.refl e, hslot⟩
  · have h₁ : Filed e (e.withSlot none) := F.cleared
    refine Act.ends_bind.2 (ends_setCurrent.2 (Act.ends_bind.2 ((F.drop_within a _).imp
      (fun _ e₂ h₂ => ⟨h₁.trans h₂, h₂.slot_none rfl⟩) fun _ e₂ h₂ => h₁.trans h₂.1)))

end Filing

namespace Endpoint.Fills

variable {e e₁ e₂ : Endpoint} {place : Nat}

theorem mono (h : e.Fills e₁ place)
    (hl : e₁.storage.records.length ≤ e₂.storage.records.length) : e.Fills e₂ place :=
  h.imp_right fun h => ⟨h.1, Nat.lt_of_lt_of_le h.2 hl⟩

theorem held {a : Accumulator} (h : e.slot = some a) : e.Fills e₁ a.spool.place := .inl ⟨a, h, rfl⟩

end Endpoint.Fills

/-- Bytes are written only to records at the place of the spool. -/
theorem Storage.bytes_append (s : Storage) (spool : Spool) (bytes : Bytes) (spool' : Spool) :
    ((s.append spool bytes).record spool').bytes = (s.record spool').bytes ∨
      spool'.place = spool.place ∧
        ((s.append spool bytes).record spool').bytes = (s.record spool').bytes ++ bytes := by
  by_cases h : spool'.place = spool.place
  · simp only [append, change, record, h, List.getD_eq_getElem?_getD, List.getElem?_modify_eq]
    cases s.records[spool.place]? with
    | none => exact .inl rfl
    | some r => exact .inr ⟨trivial, rfl⟩
  · exact .inl (congrArg SpoolRecord.bytes (s.record_change_ne h))

namespace Traces

variable {kept kept' all all' : List Bytes} {e e₁ e₂ e' : Endpoint}

theorem refl (e : Endpoint) : Traces [] [] e e where
  plan := rfl
  taken := (List.append_nil _).symm
  left := List.Sublist.refl _
  place := .inl rfl
  slot := fun _ ha => .held ha
  opened := Nat.le_refl _
  written := fun _ => .inl rfl

theorem filed (h : Traces kept all e e₁) (hf : Filed e₁ e₂) : Traces kept all e e₂ where
  plan := hf.plan.trans h.plan
  taken := hf.taken.trans h.taken
  left := by rw [hf.buffer]; exact h.left
  place := h.place.imp hf.queue.trans fun hm =>
    ⟨hf.queue.trans hm.queue, hf.slot_none hm.slot, hf.buffer.trans hm.buffer⟩
  slot := fun a ha => (h.slot a (hf.slot_some ha)).mono hf.opened
  opened := Nat.le_trans h.opened hf.opened
  written := fun spool => by
    rw [hf.bytes]
    exact (h.written spool).imp_right fun hw => ⟨hw.1.mono hf.opened, hw.2⟩

theorem keepMore (h : Traces kept all e e') (hk : kept.Sublist kept') : Traces kept' all e e' :=
  { h with
    written := fun spool => (h.written spool).imp_right fun ⟨hf, more, hm, hb⟩ =>
      ⟨hf, more, hm.mono hk, hb⟩ }

theorem noting (h : Traces kept all e e') {call : Call} (hc : call.taken? = none) :
    Traces kept all e (e'.noting call) :=
  { h with
    taken := (taken_noted hc).trans h.taken
    place := h.place.imp id (·.noting call) }

/-- All bytes that wait are taken. -/
theorem recv (h : Traces kept all e e₁) : Traces kept (all ++ [e₁.link.buffer]) e
    { e₁.noting (.linkRecv e₁.link.buffer) with link := e₁.link.drained } where
  plan := h.plan
  taken := by
    simp only [Endpoint.taken, Endpoint.noting, List.filterMap_append, ← List.append_assoc]
    exact congrArg (· ++ _) h.taken
  left := by
    simpa [Link.drained] using h.left
  place := h.place.imp (fun hq => by simpa [Link.drained] using hq)
    fun hm => ⟨by simpa [Link.drained] using hm.queue, hm.slot, by simp [Link.drained]⟩
  slot := h.slot
  opened := h.opened
  written := h.written

/-- What was taken is written behind what is in a spool that may grow. -/
theorem write (h : Traces kept all e e₁) {spool : Spool} (hf : e.Fills e₁ spool.place)
    (bytes : Bytes) : Traces (kept ++ [bytes]) all e
      { e₁ with storage := e₁.storage.append spool bytes } where
  plan := h.plan
  taken := h.taken
  left := h.left
  place := h.place.imp id fun hm => ⟨hm.queue, hm.slot, hm.buffer⟩
  slot := fun a ha => (h.slot a ha).mono (by simp [Storage.append, Storage.change])
  opened := by simpa [Storage.append, Storage.change] using h.opened
  written := fun spool' => by
    have hfills {place : Nat} (hp : e.Fills e₁ place) :
        e.Fills { e₁ with storage := e₁.storage.append spool bytes } place :=
      hp.mono (by simp [Storage.append, Storage.change])
    rcases e₁.storage.bytes_append spool bytes spool' with hs | ⟨hplace, hs⟩ <;> rw [hs]
    · rcases h.written spool' with hb | ⟨hp, more, hm, hb⟩
      · exact .inl hb
      · exact .inr ⟨hfills hp, more, hm.mono (List.sublist_append_left ..), hb⟩
    · refine .inr ⟨hfills (by rw [hplace]; exact hf), ?_⟩
      -- this may be the second write to the spool, and goes behind the first
      rcases h.written spool' with hb | ⟨-, more, hm, hb⟩ <;> rw [hb]
      · exact ⟨bytes, (DrawnFrom.self bytes).mono (List.sublist_append_right ..), rfl⟩
      · exact ⟨more ++ bytes, hm.append (.self bytes), List.append_assoc ..⟩

/-- The large message that is coming in has a spool that may grow. -/
theorem putIn (h : Traces kept all e e₁) (hq : e₁.link.queue = e.link.queue) {a : Accumulator}
    (ha : e.Fills e₁ a.spool.place) : Traces kept all e (e₁.withSlot (some a)) where
  plan := h.plan
  taken := h.taken
  left := h.left
  place := .inl hq
  slot := fun a' ha' => by
    obtain rfl : a = a' := Option.some.inj ha'
    exact ha
  opened := h.opened
  written := h.written

/-- The link is moved past its delivery with nothing left of it. -/
theorem pass (h : Traces kept all e e₁) (hq : e₁.link.queue = e.link.queue) :
    Traces kept all e ({ e₁ with link := e₁.link.advance }.withSlot none) where
  plan := h.plan
  taken := h.taken
  left := by
    refine List.Sublist.trans ?_ h.left
    simp
  place := .inr ⟨by simp [hq], rfl, by simp⟩
  slot := nofun
  opened := h.opened
  written := h.written

theorem fills (h : Traces kept all e e₁) {place : Nat} (hp : e₁.Fills e₂ place)
    (hl : e₁.storage.records.length ≤ e₂.storage.records.length) : e.Fills e₂ place := by
  rcases hp with ⟨a, ha, rfl⟩ | ⟨hle, hlt⟩
  · exact (h.slot a ha).mono hl
  · exact .inr ⟨Nat.le_trans h.opened hle, hlt⟩

theorem trans (h : Traces kept all e e₁) (hq : e₁.link.queue = e.link.queue)
    (h' : Traces kept' all' e₁ e₂) : Traces (kept ++ kept') (all ++ all') e e₂ where
  plan := h'.plan.trans h.plan
  taken := by rw [h'.taken, h.taken, List.append_assoc]
  left := by
    rw [List.flatten_append, List.append_assoc]
    exact (h'.left.append_left _).trans h.left
  place := h'.place.imp (·.trans hq) (release_moves hq)
  slot := fun a ha => h.fills (h'.slot a ha) h'.opened
  opened := Nat.le_trans h.opened h'.opened
  written := fun spool => by
    rcases h'.written spool with hb' | ⟨hf', more', hm', hb'⟩ <;> rw [hb']
    · exact (h.written spool).imp_right fun ⟨hf, more, hm, hb⟩ =>
        ⟨hf.mono h'.opened, more, hm.mono (List.sublist_append_left ..), hb⟩
    · refine .inr ⟨h.fills hf' h'.opened, ?_⟩
      rcases h.written spool with hb | ⟨-, more, hm, hb⟩ <;> rw [hb]
      · exact ⟨more', hm'.mono (List.sublist_append_right ..), rfl⟩
      · exact ⟨more ++ more', hm.append hm', List.append_assoc ..⟩

end Traces

theorem Filed.traces {e e' : Endpoint} (h : Filed e e') : Traces [] [] e e' :=
  (Traces.refl e).filed h

theorem Filed.gathers {e e' : Endpoint} (h : Filed e e') : Gathers e e' := ⟨[], h.traces⟩

theorem Gathers.filed {e e₁ e₂ : Endpoint} (h : Gathers e e₁) (hf : Filed e₁ e₂) : Gathers e e₂ :=
  h.imp fun _ h => h.filed hf

theorem Gathers.trans {e e₁ e₂ : Endpoint} (h : Gathers e e₁) (hq : e₁.link.queue = e.link.queue)
    (h' : Gathers e₁ e₂) : Gathers e e₂ :=
  h.elim fun _ h => h'.elim fun _ h' => ⟨_, h.trans hq h'⟩

namespace Sourced

variable {all all' : List Bytes} {e e₁ e₂ : Endpoint} {m : Message}

theorem mono (h : Sourced all e e₁ m)
    (hl : e₁.storage.records.length ≤ e₂.storage.records.length) : Sourced all e e₂ m := by
  cases m with
  | standard m => exact h
  | large m => exact Endpoint.Fills.mono h hl

theorem before (h : Sourced all' e₁ e₂ m) (ht : Traces all all e e₁)
    (hl : e₁.storage.records.length ≤ e₂.storage.records.length) :
    Sourced (all ++ all') e e₂ m := by
  cases m with
  | standard m => exact DrawnFrom.mono h (List.sublist_append_right ..)
  | large m => exact ht.fills h hl

end Sourced

section Large

variable {kept all : List Bytes} {e e₁ : Endpoint} {a : Accumulator} {d : DeliveryId}

/-- The link gives out all bytes that wait. -/
theorem recv_takes (hs : e.plan.Spares [.linkRecv]) : Link.recv.Ends e
    (fun bytes e' => bytes = e.link.buffer ∧
      e' = { e.noting (.linkRecv e.link.buffer) with link := e.link.drained })
    fun _ _ => False := by
  refine Act.ends_bind.2 (Act.ends_get.2 (Act.ends_bind.2 ((invoke_ends hs ?_).imp ?_
    fun _ _ => id)))
  · simp [Call.point]
  · rintro _ _ rfl
    exact ⟨rfl, rfl⟩

theorem append_traces (h : Traces kept all e e₁) (hf : e.Fills e₁ a.spool.place) (bytes : Bytes) :
    (a.append bytes).Ends e₁
      (fun r e₂ => Traces (kept ++ [bytes]) all e e₂ ∧ e.Fills e₂ r.1.spool.place)
      fun _ e₂ => Traces (kept ++ [bytes]) all e e₂ := by
  have hfiled {e₂ : Endpoint} (h₂ : Filed e₁ e₂) :
      Traces (kept ++ [bytes]) all e e₂ ∧ e.Fills e₂ a.spool.place :=
    ⟨(h.filed h₂).keepMore (List.sublist_append_left ..), hf.mono h₂.opened⟩
  unfold Accumulator.append
  refine Act.ends_ite.2 ⟨fun _ => hfiled (.refl e₁), fun _ =>
    Act.ends_ite.2 ⟨fun _ => hfiled (filed_frame.told rfl), fun _ => ?_⟩⟩
  refine Act.ends_bind.2 (Act.ends_run.2 ((filed_frame.spoolAppend_ends a.spool bytes e₁).imp ?_
    (fun _ _ h₂ => hfiled h₂) fun _ _ h₂ => (hfiled h₂.1).1))
  rintro _ _ ⟨e₂, h₂, rfl⟩
  refine ⟨(h.filed h₂).write (hf.mono h₂.opened) bytes, (hf.mono h₂.opened).mono ?_⟩
  simp [Storage.append, Storage.change]

theorem receive_traces (hs : e.plan.Spares [.linkRecv]) (ha : e.slot = some a) :
    a.receive.Ends e (fun r e' => Gathers e e' ∧ e.Fills e' r.1.spool.place)
      fun _ e' => Gathers e e' := by
  refine Act.ends_bind.2 ((recv_takes hs).imp ?_ fun _ _ => False.elim)
  rintro _ _ ⟨rfl, rfl⟩
  exact (append_traces (Traces.refl e).recv (.held ha) _).imp (fun _ _ h => ⟨⟨_, h.1⟩, h.2⟩)
    fun _ _ h => ⟨_, h⟩

/-- A large message is started in a spool of its own. -/
theorem start_traces (hs : e.plan.Spares [.linkRecv]) (d : DeliveryId) :
    (Accumulator.start d).Ends e (fun a e' => Gathers e e' ∧ e.Fills e' a.spool.place)
      (fun _ e' => Gathers e e') fun _ e' => Gathers e e' := by
  have F := filed_frame
  refine Attempt.ends_bind.2 (Attempt.ends_adapt.2 ((F.generateId_within e).imp
    (fun large e₁ h₁ => ?_) (fun _ _ h₁ => h₁.gathers) fun _ _ h₁ => h₁.1.gathers))
  refine Attempt.ends_bind.2 (Attempt.ends_adapt.2 ((openSpool_fills e₁ large).imp
    (fun spool e₂ h₂ => ?_) (fun _ _ h₂ => (h₁.trans h₂).gathers)
    fun _ _ h₂ => (h₁.trans h₂).gathers))
  have hf₂ : e.Fills e₂ spool.place := h₁.traces.fills h₂.2 h₂.1.opened
  have h₂ := h₁.trans h₂.1
  refine Attempt.ends_bind.2 (Attempt.ends_get.2 (Attempt.ends_bind.2 (Attempt.ends_lift.2
    ((recv_takes (by rw [h₂.plan]; exact hs)).imp ?_ fun _ _ => False.elim))))
  rintro _ e₃ ⟨rfl, he₃⟩
  have h₃ : Traces [] [e₂.link.buffer] e e₃ := by
    rw [he₃]
    exact h₂.traces.recv
  have hf₃ : e.Fills e₃ spool.place := hf₂.mono (Nat.le_of_eq (by rw [he₃]; rfl))
  have hdrop {e₄ : Endpoint} (h₄ : Gathers e e₄) (a : Accumulator) (error : ReassemblyError) :
      Attempt.Ends (do
        a.drop
        throw error : Attempt ReassemblyError Accumulator) e₄
        (fun a e' => Gathers e e' ∧ e.Fills e' a.spool.place) (fun _ e' => Gathers e e')
        fun _ e' => Gathers e e' :=
    Attempt.ends_bind.2 (Attempt.ends_lift.2 ((F.drop_within a e₄).imp (fun _ _ => h₄.filed)
      fun _ _ h₅ => h₄.filed h₅.1))
  have hunwritten {e₄ : Endpoint} (h₄ : Filed e₃ e₄) : Gathers e e₄ :=
    ⟨_, (h₃.filed h₄).keepMore (List.nil_sublist _)⟩
  refine Attempt.ends_bind.2 (Attempt.ends_lift.2 (Act.ends_run.2
    ((F.registerLarge_within large _ e₃).imp (fun _ e₄ h₄ => ?_)
      (fun _ _ h₄ => hdrop (hunwritten h₄) _ _) fun _ _ h₄ => hunwritten h₄.1)))
  refine Attempt.ends_bind.2 (Attempt.ends_lift.2 ((append_traces (h₃.filed h₄)
    (hf₃.mono h₄.opened) e₂.link.buffer).imp (fun r e₅ h₅ => ?_) fun _ _ h₅ => ⟨_, h₅⟩))
  obtain ⟨written, r⟩ := r
  obtain ⟨h₅, hf₅⟩ := h₅
  rcases r with error | _
  · exact hdrop ⟨_, h₅⟩ written error
  · exact Attempt.ends_bind.2 (Attempt.ends_lift.2 ⟨⟨_, h₅.filed (F.told rfl)⟩, hf₅⟩)

end Large

section Assembling

variable {e e₁ : Endpoint} {a : Accumulator} {d : DeliveryId}

theorem startIfLarge_traces (hs : e.plan.Spares [.linkRecv]) (d : DeliveryId) :
    (Reassembler.startIfLarge .receiver d).Ends e (fun _ e' => Gathers e e')
      (fun _ e' => Gathers e e') fun _ e' => Gathers e e' := by
  have hstay : Gathers e e := (Filed.refl e).gathers
  refine Attempt.ends_bind.2 (Attempt.ends_get.2 ?_)
  split
  · exact hstay
  refine Attempt.ends_ite.2 ⟨fun _ => ?_, fun _ => hstay⟩
  refine Attempt.ends_bind.2 (((start_traces hs d).and (sameQueue_frame.start_within d e)).imp
    (fun a e₁ h₁ => ?_) (fun _ _ => And.left) fun _ _ => And.left)
  obtain ⟨⟨h₁, hf⟩, hq⟩ := h₁
  exact h₁.imp fun _ h₁ => h₁.putIn hq hf

theorem acceptPartial_traces (hs : e.plan.Spares [.linkRecv]) (d : DeliveryId) :
    (Reassembler.acceptPartial .receiver d).Ends e (fun _ e' => Gathers e e')
      (fun _ e' => Gathers e e') fun _ e' => Gathers e e' := by
  refine Attempt.ends_bind.2 (Attempt.ends_get.2 (Attempt.ends_ite.2 ⟨fun _ => ?_, fun _ =>
    (Filed.refl e).gathers⟩))
  refine Attempt.ends_bind.2 (Attempt.ends_lift.2 (ends_current.2 ?_))
  rcases hslot : (e.reassembler.get .receiver).slot with _ | a
  · exact startIfLarge_traces hs d
  refine Attempt.ends_bind.2 (Attempt.ends_lift.2 (((receive_traces hs hslot).and
    (sameQueue_frame.receive_within a e)).imp (fun r e₁ h₁ => ?_) fun _ _ => And.left))
  obtain ⟨written, r⟩ := r
  obtain ⟨⟨h₁, hf⟩, hq⟩ := h₁
  have h₂ : Gathers e (e₁.withSlot (some written)) := h₁.imp fun _ h₁ => h₁.putIn hq hf
  refine Attempt.ends_bind.2 (Attempt.ends_lift.2 (ends_setCurrent.2
    (Attempt.ends_liftExcept.2 ?_)))
  rcases r with _ | _ <;> exact h₂

theorem moveOn_passes {kept all : List Bytes} (h : Traces kept all e e₁)
    (hq : e₁.link.queue = e.link.queue) :
    Link.moveOn.Ends e₁
      (fun _ e' => Traces kept all e (e'.withSlot none) ∧ (e₁.slot = none → e'.slot = none) ∧
        e₁.storage.records.length ≤ e'.storage.records.length)
      fun _ e' => Traces kept all e e' := by
  refine Act.ends_bind.2 ((filed_frame.invoke_within rfl e₁).imp (fun _ e₂ h₂ => ?_)
    fun _ _ h₂ => h.filed h₂.1)
  exact Act.ends_bind.2 (Act.ends_get.2 (Act.ends_bind.2 (Act.ends_modify.2
    ⟨(h.filed h₂).pass (h₂.queue.trans hq), h₂.slot_none, h₂.opened⟩)))

/-- What is released leaves its slot with the link past it. -/
theorem release_traces {all : List Bytes} (h : Traces all all e e₁)
    (hq : e₁.link.queue = e.link.queue) (hf : e.Fills e₁ a.spool.place)
    (sealed : Except ReassemblyError Unit) :
    (Reassembler.release .receiver a sealed).Ends e₁
      (fun large e' => Traces all all e e' ∧ Sourced all e e' (.large large))
      (fun _ e' => Gathers e e') fun _ e' => Gathers e e' := by
  refine Attempt.ends_bind.2 (Attempt.ends_lift.2 ((moveOn_passes h hq).imp (fun _ e₂ h₂ => ?_)
    fun _ _ h₂ => ⟨_, h₂⟩))
  obtain ⟨h₂, -, hopened⟩ := h₂
  refine Attempt.ends_bind.2 (Attempt.ends_lift.2 (ends_setCurrent.2 ?_))
  rcases sealed with error | _
  · have h₂ : Gathers e (e₂.withSlot none) := ⟨_, h₂⟩
    exact Attempt.ends_bind.2 (Attempt.ends_lift.2 ((filed_frame.drop_within a _).imp
      (fun _ _ => h₂.filed) fun _ _ h₃ => h₂.filed h₃.1))
  · exact ⟨h₂, hf.mono hopened⟩

/-- What an attempt to make a message comes to. -/
def Makes (e : Endpoint) (m : Message) (e' : Endpoint) : Prop :=
  ∃ all, Traces all all e e' ∧ Sourced all e e' m

theorem sealLarge_traces (hs : e.plan.Spares [.linkRecv]) (ha : e.slot = some a) :
    (Reassembler.sealLarge .receiver a).Ends e (fun large e' => Makes e (.large large) e')
      (fun _ e' => Gathers e e') fun _ e' => Gathers e e' := by
  have S := sameQueue_frame
  refine Attempt.ends_bind.2 (Attempt.ends_lift.2 (((receive_traces hs ha).and
    (S.receive_within a e)).imp (fun r e₁ h₁ => ?_) fun _ _ => And.left))
  obtain ⟨written, r⟩ := r
  obtain ⟨⟨⟨all, h₁⟩, hf⟩, hq⟩ := h₁
  have h₂ : Traces all all e (e₁.withSlot (some written)) := h₁.putIn hq hf
  have hrelease {e₃ : Endpoint} (h₃ : Filed (e₁.withSlot (some written)) e₃)
      (sealed : Except ReassemblyError Unit) :
      (Reassembler.release .receiver written sealed).Ends e₃
        (fun large e' => Makes e (.large large) e') (fun _ e' => Gathers e e')
        fun _ e' => Gathers e e' :=
    (release_traces (h₂.filed h₃) (h₃.queue.trans hq) (hf.mono h₃.opened) sealed).imp
      (fun _ _ h => ⟨_, h⟩) (fun _ _ => id) fun _ _ => id
  refine Attempt.ends_bind.2 (Attempt.ends_lift.2 (ends_setCurrent.2 ?_))
  rcases r with error | _
  · exact hrelease (.refl _) _
  · exact Attempt.ends_bind.2 (Attempt.ends_lift.2 (Act.ends_run.2
      ((filed_frame.finish_within written _).imp (fun _ _ h₃ => hrelease h₃ _)
        (fun _ _ h₃ => hrelease h₃ _) fun _ _ h₃ => ⟨_, h₂.filed h₃.1⟩)))

theorem Makes.filed {m : Message} {e₂ : Endpoint} (h : Makes e m e₁) (hf : Filed e₁ e₂) :
    Makes e m e₂ := h.imp fun _ h => ⟨h.1.filed hf, h.2.mono hf.opened⟩

theorem Makes.before {m : Message} {e₂ : Endpoint} (ht : Gathers e e₁)
    (hq : e₁.link.queue = e.link.queue) (h : Makes e₁ m e₂) : Makes e m e₂ :=
  ht.elim fun _ ht => h.elim fun _ h => ⟨_, ht.trans hq h.1, h.2.before ht h.1.opened⟩

theorem withSlot_none (h : e.slot = none) : e.withSlot none = e := by
  rw [← h]
  rfl

theorem complete_traces (hs : e.plan.Spares [.linkRecv]) (d : DeliveryId) :
    (Reassembler.complete .receiver d).Ends e (fun m e' => Makes e m e')
      (fun _ e' => Gathers e e') fun _ e' => Gathers e e' := by
  refine Attempt.ends_bind.2 (Attempt.ends_lift.2 (ends_current.2 ?_))
  rcases hslot : (e.reassembler.get .receiver).slot with _ | a
  · refine Attempt.ends_bind.2 (Attempt.ends_lift.2 ((recv_takes hs).imp ?_ fun _ _ => False.elim))
    rintro _ e₁ ⟨rfl, he₁⟩
    have h₁ : Traces [e.link.buffer] [e.link.buffer] e e₁ := by
      rw [he₁]
      -- in a standard message all that was taken is kept, and none of it in a spool
      exact (Traces.refl e).recv.keepMore (List.nil_sublist _)
    have hq : e₁.link.queue = e.link.queue := by
      rw [he₁]
      simp [Link.drained]
    have hslot₁ : e₁.slot = none := by
      rw [he₁]
      exact hslot
    refine Attempt.ends_bind.2 (Attempt.ends_lift.2 ((moveOn_passes h₁ hq).imp (fun _ e₂ h₂ => ?_)
      fun _ _ h₂ => ⟨_, h₂⟩))
    obtain ⟨h₂, hslot₂, -⟩ := h₂
    rw [withSlot_none (hslot₂ hslot₁)] at h₂
    refine Attempt.ends_bind.2 (Attempt.ends_adapt.2 (((filed_frame.create_within d _ e₂).and
      (create_ends e₂ d e.link.buffer)).imp (fun m e₃ h₃ => ?_) (fun _ _ h₃ => ⟨_, h₂.filed h₃.1⟩)
      fun _ _ h₃ => ⟨_, h₂.filed h₃.1.1⟩))
    obtain ⟨h₃, rfl, -⟩ := h₃
    exact ⟨_, h₂.filed h₃, .self _⟩
  · refine Attempt.ends_bind.2 ((sealLarge_traces hs hslot).imp (fun large e₁ h₁ => ?_)
      (fun _ _ => id) fun _ _ => id)
    exact Attempt.ends_bind.2 (Attempt.ends_lift.2 (h₁.filed untouched_counted.filed))

theorem acceptComplete_traces (hs : e.plan.Spares [.linkRecv]) (d : DeliveryId) :
    (Reassembler.acceptComplete .receiver d).Ends e (fun m e' => Makes e m e')
      (fun _ e' => Gathers e e') fun _ e' => Gathers e e' := by
  refine Attempt.ends_bind.2 (Attempt.ends_lift.2 (ends_current.2 ?_))
  refine Attempt.ends_bind.2 (Attempt.ends_get.2 (Attempt.ends_ite.2 ⟨fun _ => ?_, fun _ =>
    complete_traces hs d⟩))
  refine Attempt.ends_bind.2 (((startIfLarge_traces hs d).and
    (sameQueue_frame.startIfLarge_within .receiver d e)).imp (fun _ e₁ h₁ => ?_)
    (fun _ _ => And.left) fun _ _ => And.left)
  obtain ⟨h₁, hq⟩ := h₁
  have hs₁ : e₁.plan.Spares [.linkRecv] := h₁.elim fun _ h₁ => by rw [h₁.plan]; exact hs
  exact (complete_traces hs₁ d).imp (fun _ _ => .before h₁ hq) (fun _ _ => h₁.trans hq)
    fun _ _ => h₁.trans hq

/-- However an event for the current delivery ends, what it takes is kept in spools of that delivery
only, or is in the message. -/
theorem accept_traces (hs : e.plan.Spares [.linkRecv]) (d : DeliveryId) :
    (Reassembler.accept .receiver d).Ends e
      (fun r e' => Gathers e e' ∧ ∀ m, r = .complete m → Makes e m e')
      (fun _ e' => Gathers e e') fun _ e' => Gathers e e' := by
  refine Attempt.ends_bind.2 (Attempt.ends_get.2 (Attempt.ends_ite.2 ⟨fun _ => ?_, fun _ =>
    Attempt.ends_ite.2 ⟨fun _ => ?_, fun _ => ?_⟩⟩))
  · refine Attempt.ends_bind.2 (Attempt.ends_lift.2 ((discard_clears e).imp (fun _ e₁ h₁ => ?_)
      fun _ _ h₁ => h₁.gathers))
    obtain ⟨h₁, hslot₁⟩ := h₁
    refine Attempt.ends_bind.2 (Attempt.ends_lift.2 ((moveOn_passes h₁.traces h₁.queue).imp
      (fun _ e₂ h₂ => ?_) fun _ _ h₂ => ⟨_, h₂⟩))
    obtain ⟨h₂, hslot₂, -⟩ := h₂
    rw [withSlot_none (hslot₂ hslot₁)] at h₂
    exact ⟨⟨_, h₂⟩, nofun⟩
  · exact Attempt.ends_bind.2 ((acceptPartial_traces hs d).imp (fun _ _ h => ⟨h, nofun⟩)
      (fun _ _ => id) fun _ _ => id)
  · refine Attempt.ends_bind.2 ((acceptComplete_traces hs d).imp (fun m e₁ h₁ => ?_)
      (fun _ _ => id) fun _ _ => id)
    refine ⟨h₁.imp fun _ => And.left, ?_⟩
    rintro _ ⟨⟩
    exact h₁

/-- What an event for a delivery comes to: what it takes is kept for that delivery only, and is what
it passes to routing. -/
def Conveys (e : Endpoint) (d : DeliveryId) (e' : Endpoint) : Prop :=
  ∃ all, Traces all all e e' ∧ ∀ handoff ∈ e'.handoffs,
    handoff ∈ e.handoffs ∨ handoff.delivery = d ∧ Sourced all e e' handoff.message

theorem Conveys.filed {e₂ : Endpoint} (h : Conveys e d e₁) (hf : Filed e₁ e₂) : Conveys e d e₂ :=
  h.imp fun _ h => ⟨h.1.filed hf, fun handoff hm =>
    (h.2 handoff (hf.handoffs ▸ hm)).imp_right (·.imp_right (·.mono hf.opened))⟩

theorem Gathers.conveys (h : Gathers e e₁) (hh : e₁.handoffs = e.handoffs) : Conveys e d e₁ :=
  h.imp fun _ h => ⟨h, fun _ hm => .inl (hh ▸ hm)⟩

/-- The message that was made is passed on. -/
theorem Makes.conveys {m : Message} {e₂ : Endpoint} (h : Makes e m e₁)
    (hh : e₁.handoffs = e.handoffs) (hd : Handed e₁ d m e₂) : Conveys e d e₂ := by
  obtain ⟨handoff, rfl, rfl, hu⟩ := hd
  obtain ⟨all, ht, hm⟩ := h
  have hnoted : Conveys e handoff.delivery (e₁.noting (.deliver handoff)) := by
    refine ⟨all, ht.noting rfl, fun h hmem => ?_⟩
    have hmem : h ∈ e.handoffs ++ [handoff] := by
      rw [← hh]
      simpa [Endpoint.handoffs, Endpoint.noting, Call.handoff?] using hmem
    rcases List.mem_append.1 hmem with hold | hnew
    · exact .inl hold
    · rw [List.mem_singleton.1 hnew]
      exact .inr ⟨rfl, hm.mono (Nat.le_refl _)⟩
  exact hnoted.filed hu.filed

theorem process_conveys (hs : e.plan.Spares [.linkRecv]) (d : DeliveryId) :
    (Receiver.process d).Ends e (fun _ e' => Conveys e d e') (fun _ e' => Conveys e d e')
      fun _ e' => Conveys e d e' := by
  refine Attempt.ends_bind.2 (Attempt.ends_adapt.2 (((accept_traces hs d).and
    (sameSetting_frame.accept_within .receiver d e)).imp (fun r e₁ h₁ => ?_)
    (fun _ _ h₁ => h₁.1.conveys h₁.2.handoffs) fun _ _ h₁ => h₁.1.conveys h₁.2.1.handoffs))
  obtain ⟨⟨ht, hmakes⟩, hs₁⟩ := h₁
  have h₁ : Conveys e d e₁ := ht.conveys hs₁.handoffs
  rcases r with _ | _ | m
  · exact Attempt.ends_lift.2 ((untouched_frame.onAborted_within d e₁).imp
      (fun _ _ h₂ => h₁.filed h₂.filed) fun _ _ h₂ => h₁.filed h₂.1.filed)
  · exact h₁
  · refine Attempt.ends_bind.2 (Attempt.ends_adapt.2 ((resolveTransaction_ends e₁ d).imp
      (fun transaction e₂ h₂ => ?_) (fun _ _ h₂ => h₁.filed h₂.1.filed)
      fun _ _ h₂ => h₁.filed h₂.1.filed))
    have hhanded {e₃ : Endpoint} (h₃ : Handed e₂ d m e₃) : Conveys e d e₃ :=
      ((hmakes m rfl).filed h₂.filed).conveys (h₂.handoffs.trans hs₁.handoffs) h₃
    exact (handOff_hands e₂ m d transaction).imp (fun _ _ => hhanded) (fun _ _ => hhanded)
      fun _ _ h₃ => h₃.elim hhanded fun h₃ => h₁.filed (h₂.filed.trans h₃.1.filed)

theorem Conveys.before {e' : Endpoint} (hf : Filed e e₁) (h : Conveys e₁ d e') :
    Conveys e d e' := by
  obtain ⟨all, ht, hh⟩ := h
  refine ⟨all, hf.traces.trans hf.queue ht, fun handoff hm => ?_⟩
  exact (hh handoff hm).imp (hf.handoffs ▸ ·) (·.imp_right (·.before hf.traces ht.opened))

end Assembling

section Events

variable {e : Endpoint}

theorem message_conveys {d : DeliveryId} (hs : e.plan.Spares [.linkRecv])
    (ho : e.lifecycle = .opened) (hd : e.link.current = some d) :
    Conveys e d (e.after (.message d)) := by
  have hentered {e' : Endpoint}
      (h : Conveys { e with onHandler := some e.mailbox.handler } d e') : Conveys e d e' :=
    h.before (enter_untouched e).filed
  refine (message_ends (Q := Conveys e d) (fun _ h => h.filed (Untouched.leave (.refl _)).filed)
    (fun hn => absurd ⟨ho, hd⟩ hn) fun _ _ => ?_).state
  exact (process_conveys (by exact hs) d).imp (fun _ _ => hentered) (fun _ _ => hentered)
    fun _ _ => hentered

/-- Closing the receiver takes nothing. -/
theorem close_files (hon : e.isOnHandler) (remoteInitiated : Bool) :
    (Receiver.close remoteInitiated).Ends e (fun _ e' => Filed e e') fun _ e' => Filed e e' := by
  refine (filed_frame.close_ends ?_ ?_ ?_ remoteInitiated).imp (fun _ _ => id) fun _ _ => And.left
  · exact ⟨rfl, rfl, rfl, rfl, rfl, .inl rfl, Nat.le_refl _, fun _ => rfl⟩
  · exact ⟨rfl, rfl, rfl, rfl, rfl, .inl rfl, Nat.le_refl _, fun _ => rfl⟩
  · refine (requireOnHandler_ends hon).imp ?_ fun _ _ => False.elim
    rintro _ _ rfl
    exact .refl _

theorem closeWithError_files (hon : e.isOnHandler) (condition : Condition) :
    (Receiver.closeWithError condition).Ends e (fun _ e' => Filed e e') fun _ e' => Filed e e' := by
  refine Act.ends_bind.2 (((setCondition_untouched condition e).and
    (setCondition_within condition e)).imp (fun _ e₁ h₁ => ?_) fun _ _ h₁ => h₁.1.1.filed)
  exact (close_files (h₁.2.isOnHandler hon) false).imp (fun _ _ => h₁.1.filed.trans)
    fun _ _ => h₁.1.filed.trans

theorem ends_files {act : Act Panic Endpoint Unit}
    (h : act.Ends { e with onHandler := some e.mailbox.handler }
      (fun _ e' => Filed { e with onHandler := some e.mailbox.handler } e')
      fun _ e' => Filed { e with onHandler := some e.mailbox.handler } e') :
    Filed e ((do
      onHandler act
      return .ok () : Act Panic Endpoint (Except ReceiverError Unit)) e).2 := by
  have hleave {e' : Endpoint} (h' : Filed { e with onHandler := some e.mailbox.handler } e') :
      Filed e { e' with onHandler := e.onHandler } :=
    ((enter_untouched e).filed.trans h').trans untouched_frame.placed.filed
  exact Act.Ends.state (Q := Filed e) (Act.ends_bind.2 (ends_onHandler.2 (h.imp (fun _ _ => hleave)
    fun _ _ => hleave)))

end Events

end ReceivingLink
