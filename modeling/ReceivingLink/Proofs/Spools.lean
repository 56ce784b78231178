import ReceivingLink.Proofs.Containment
import ReceivingLink.Proofs.Custody

/-!
# What becomes of spools

A spool belongs to the large message that is coming in until it is deleted or passed to routing. On
two stretches it is in no slot: while its message is started, and from when the message is sealed
until it is passed on. An event that ends on one of them leaves the spool behind: `Strands`. By
`released_iff` no spool is released twice, and once the receiver is closed all are released exactly
if no event left one behind.
-/

namespace ReceivingLink

/-- The place of the spool that a message lies in. -/
def Message.place? (m : Message) : Option Nat := m.spool?.map (·.place)

/-- The place of the spool that a call deletes. -/
def Call.deleted? : Call → Option Nat
  | .spoolDelete spool => some spool.place
  | _ => none

namespace Endpoint

/-- The places of the spools that were opened so far. -/
def opened (e : Endpoint) : List Nat := List.range e.storage.records.length

/-- The places of the spools that were to be deleted so far. -/
def deleted (e : Endpoint) : List Nat := e.calls.filterMap Call.deleted?

/-- The places of the spools that were passed to routing so far. -/
def passed (e : Endpoint) : List Nat := e.handoffs.filterMap (·.message.place?)

/-- The place of the spool of the large message that is coming in. -/
def coming (e : Endpoint) : List Nat := e.slot.toList.map (·.spool.place)

end Endpoint

/-- A spool was left behind. Nothing was passed to routing; and a large message was sealed, or else
a spool was opened, none was deleted, and none is in the slot. -/
structure Strands (e e' : Endpoint) : Prop where
  unrouted : e'.handoffs = e.handoffs
  left : e.counters.largeMessages < e'.counters.largeMessages ∨
    e.storage.records.length < e'.storage.records.length ∧ e'.slot = none ∧ e'.deleted = e.deleted

/-- No large message was sealed, and none was passed to routing. -/
structure Unsealed (e e' : Endpoint) : Prop where
  handoffs : e'.handoffs = e.handoffs
  sealed : e'.counters.largeMessages = e.counters.largeMessages
  lifecycle : e'.lifecycle = e.lifecycle
  plan : e'.plan = e.plan

/-- No spool was opened or deleted, and none has changed hands. -/
structure SameStock (e e' : Endpoint) : Prop extends Unsealed e e' where
  opened : e'.storage.records.length = e.storage.records.length
  deleted : e'.deleted = e.deleted
  slot : e'.slot = e.slot

/-- One spool was opened, and is in no slot. -/
structure Opens (e : Endpoint) (place : Nat) (e' : Endpoint) : Prop extends Unsealed e e' where
  place : place = e.storage.records.length
  opened : e'.storage.records.length = e.storage.records.length + 1
  deleted : e'.deleted = e.deleted
  slot : e'.slot = e.slot

/-- Every spool that was in hand or in the slot, or was opened on the way, is in hand or in the slot
afterwards or was deleted. -/
structure Moves (inHand : List Nat) (e : Endpoint) (inHand' : List Nat) (e' : Endpoint) : Prop
    extends Unsealed e e' where
  places : (inHand' ++ (e'.deleted ++ e'.coming) ++ e.opened).Perm
    (inHand ++ (e.deleted ++ e.coming) ++ e'.opened)

/-- A message was made. If it is a large one, it was sealed, and its spool is in hand. -/
def Seals (e : Endpoint) (m : Message) (e' : Endpoint) : Prop :=
  ∃ e₁, Moves [] e m.place?.toList e₁ ∧ e' = { e₁ with counters :=
    { e₁.counters with
      largeMessages := e₁.counters.largeMessages + m.place?.toList.length } }

section Steps

variable {e e' e₁ e₂ e₃ : Endpoint} {inHand inHand₁ inHand₂ : List Nat} {place : Nat}

theorem Unsealed.refl (e : Endpoint) : Unsealed e e := ⟨rfl, rfl, rfl, rfl⟩

theorem Unsealed.trans (h : Unsealed e₁ e₂) (h' : Unsealed e₂ e₃) : Unsealed e₁ e₃ :=
  ⟨h'.handoffs.trans h.handoffs, h'.sealed.trans h.sealed, h'.lifecycle.trans h.lifecycle,
    h'.plan.trans h.plan⟩

theorem SameStock.refl (e : Endpoint) : SameStock e e := ⟨.refl e, rfl, rfl, rfl⟩

theorem SameStock.trans (h : SameStock e₁ e₂) (h' : SameStock e₂ e₃) : SameStock e₁ e₃ :=
  ⟨h.toUnsealed.trans h'.toUnsealed, h'.opened.trans h.opened, h'.deleted.trans h.deleted,
    h'.slot.trans h.slot⟩

theorem Opens.before (h : SameStock e e₁) (h' : Opens e₁ place e₂) : Opens e place e₂ :=
  ⟨h.toUnsealed.trans h'.toUnsealed, h'.place.trans h.opened, h.opened ▸ h'.opened,
    h'.deleted.trans h.deleted, h'.slot.trans h.slot⟩

theorem Opens.after (h : Opens e place e₁) (h' : SameStock e₁ e₂) : Opens e place e₂ :=
  ⟨h.toUnsealed.trans h'.toUnsealed, h.place, h'.opened.trans h.opened,
    h'.deleted.trans h.deleted, h'.slot.trans h.slot⟩

theorem Moves.trans (h : Moves inHand e inHand₁ e₁) (h' : Moves inHand₁ e₁ inHand₂ e₂) :
    Moves inHand e inHand₂ e₂ := by
  refine ⟨h.toUnsealed.trans h'.toUnsealed, List.perm_iff_count.2 fun place => ?_⟩
  have h₁ := List.perm_iff_count.1 h.places place
  have h₂ := List.perm_iff_count.1 h'.places place
  simp only [List.count_append] at h₁ h₂ ⊢
  omega

theorem SameStock.coming (h : SameStock e e') : e'.coming = e.coming := by
  rw [Endpoint.coming, h.slot]
  rfl

theorem SameStock.moves (h : SameStock e e') : Moves inHand e inHand e' := by
  refine ⟨h.toUnsealed, ?_⟩
  rw [h.coming, h.deleted, Endpoint.opened, Endpoint.opened, h.opened]

theorem Opens.moves (h : Opens e place e') : Moves [] e [place] e' := by
  refine ⟨h.toUnsealed, List.perm_iff_count.2 fun x => ?_⟩
  rw [Endpoint.coming, h.slot, h.deleted, Endpoint.opened, Endpoint.opened, h.opened,
    List.range_succ, h.place]
  simp only [Endpoint.coming, List.count_append, List.count_nil]
  omega

theorem coming_none (hslot : e.slot = none) : e.coming = [] := by
  simp [Endpoint.coming, hslot]

theorem coming_some {a : Accumulator} (hslot : e.slot = some a) : e.coming = [a.spool.place] := by
  simp [Endpoint.coming, hslot]

/-- A spool is put into an empty slot. -/
theorem moves_keep (hslot : e.slot = none) (a : Accumulator) :
    Moves [a.spool.place] e [] (e.withSlot (some a)) := by
  refine ⟨⟨rfl, rfl, rfl, rfl⟩, ?_⟩
  rw [coming_none hslot, List.append_nil]
  show ((e.deleted ++ [a.spool.place]) ++ e.opened).Perm ([a.spool.place] ++ e.deleted ++ e.opened)
  exact List.perm_append_comm.append_right e.opened

/-- A spool is taken out of its slot. -/
theorem moves_take (hcoming : e.coming = [place]) : Moves [] e [place] (e.withSlot none) := by
  refine ⟨⟨rfl, rfl, rfl, rfl⟩, ?_⟩
  show ([place] ++ (e.deleted ++ []) ++ e.opened).Perm _
  rw [hcoming, List.append_nil]
  exact List.perm_append_comm.append_right e.opened

theorem moves_delete (spool : Spool) :
    Moves [spool.place] e [] (e.noting (.spoolDelete spool)) := by
  have hdeleted : (e.noting (.spoolDelete spool)).deleted = e.deleted ++ [spool.place] := by
    simp [Endpoint.deleted, Endpoint.noting, Call.deleted?]
  refine ⟨⟨handoffs_noted rfl, rfl, rfl, rfl⟩, ?_⟩
  rw [hdeleted, ← List.append_assoc [spool.place]]
  exact (List.perm_append_comm.append_right e.coming).append_right e.opened

theorem Seals.before {m : Message} (h : Moves [] e [] e₁) : Seals e₁ m e₂ → Seals e m e₂ :=
  Exists.imp fun _ => And.imp_left h.trans

end Steps

section Alone

variable {e : Endpoint}

theorem deleted?_eq_none {call : Call} (h : call.isPlain ∨ call.grants ∨ call.settles) :
    call.deleted? = none := by
  cases call with
  | spoolDelete spool => rcases h with h | h | h <;> cases h
  | _ => rfl

theorem sameStock_noted {call : Call} (hh : call.handoff? = none) (hd : call.deleted? = none) :
    SameStock e { e with calls := e.calls ++ [call] } :=
  ⟨⟨handoffs_noted hh, rfl, rfl, rfl⟩, rfl, by simp [Endpoint.deleted, hd], rfl⟩

theorem sameStock_calling {call : Call} (h : call.isPlain ∨ call.grants ∨ call.settles) :
    SameStock e { e with calls := e.calls ++ [call] } :=
  sameStock_noted (handoff?_eq_none h) (deleted?_eq_none h)

theorem sameStock_writing : WriteFrame SameStock fun _ _ => True where
  refl := .refl
  trans := .trans
  blame := fun _ _ => trivial
  noted := fun h => sameStock_calling (.inl h)
  told := fun _ => ⟨⟨rfl, rfl, rfl, rfl⟩, rfl, rfl, rfl⟩
  planned := fun _ => trivial
  stored := fun _ hc => ⟨⟨rfl, rfl, rfl, rfl⟩, hc, rfl, rfl⟩
  taking := sameStock_noted rfl rfl
  drained := ⟨⟨rfl, rfl, rfl, rfl⟩, rfl, rfl, rfl⟩
  own := fun _ => trivial

theorem sameStock_settling : SettleFrame SameStock where
  toTellFrame := sameStock_writing.toTellFrame
  granting := fun h => sameStock_calling (.inr (.inl h))
  flowed := ⟨⟨rfl, rfl, rfl, rfl⟩, rfl, rfl, rfl⟩
  asked := ⟨⟨rfl, rfl, rfl, rfl⟩, rfl, rfl, rfl⟩
  flushed := ⟨⟨rfl, rfl, rfl, rfl⟩, rfl, rfl, rfl⟩
  counted := fun _ hs => ⟨⟨rfl, hs, rfl, rfl⟩, rfl, rfl, rfl⟩
  settling := fun h => sameStock_calling (.inr (.inr h))
  disposed := ⟨⟨rfl, rfl, rfl, rfl⟩, rfl, rfl, rfl⟩
  settled := ⟨⟨rfl, rfl, rfl, rfl⟩, rfl, rfl, rfl⟩
  posted := ⟨⟨rfl, rfl, rfl, rfl⟩, rfl, rfl, rfl⟩
  taken := fun _ => ⟨⟨rfl, rfl, rfl, rfl⟩, rfl, rfl, rfl⟩
  tallied := ⟨⟨rfl, rfl, rfl, rfl⟩, rfl, rfl, rfl⟩
  routed := ⟨⟨rfl, rfl, rfl, rfl⟩, rfl, rfl, rfl⟩
  placed := ⟨⟨rfl, rfl, rfl, rfl⟩, rfl, rfl, rfl⟩

theorem moveOn_stays : Link.moveOn.Within SameStock fun _ _ => True :=
  sameStock_writing.moveOn_within ⟨⟨rfl, rfl, rfl, rfl⟩, rfl, rfl, rfl⟩

end Alone

section Large

variable {e : Endpoint} {a : Accumulator}

theorem append_keeps (a : Accumulator) (bytes : Bytes) (e : Endpoint) :
    (a.append bytes).Ends e (fun r e' => r.1.spool = a.spool ∧ SameStock e e')
      fun _ e' => SameStock e e' := by
  have hspool : (a.append bytes).Ends e (fun r _ => r.1.spool = a.spool) fun _ _ => True := by
    unfold Accumulator.append
    refine Act.ends_ite.2 ⟨fun _ => rfl, fun _ => Act.ends_ite.2 ⟨fun _ => rfl, fun _ => ?_⟩⟩
    exact Act.ends_bind.2 (Act.ends_run.2 (Attempt.ends_always (fun _ _ => rfl) (fun _ _ => rfl)
      fun _ _ => trivial))
  exact (hspool.and (sameStock_writing.append_within a bytes e)).imp (fun _ _ => id)
    fun _ _ h => h.2.1

theorem openSpool_opens (large : LargeMessageId) (e : Endpoint) :
    (Storage.openSpool large).Ends e (fun spool e' => Opens e spool.place e')
      (fun _ e' => SameStock e e') fun _ e' => SameStock e e' := by
  refine (sameStock_writing.openSpool_ends large e).imp ?_ (fun _ _ => id) fun _ _ => And.left
  rintro _ _ ⟨e₁, h₁, rfl, rfl⟩
  exact ⟨⟨h₁.handoffs, h₁.sealed, h₁.lifecycle, h₁.plan⟩, h₁.opened,
    by simp [Storage.opened, h₁.opened], h₁.deleted, h₁.slot⟩

theorem drop_moves (a : Accumulator) (e : Endpoint) :
    a.drop.Ends e (fun _ e' => Moves [a.spool.place] e [] e')
      fun _ e' => Moves [a.spool.place] e [] e' :=
  (sameStock_writing.drop_ends a e).imp (fun _ _ h => (moves_delete a.spool).trans h.moves)
    fun _ _ h => (moves_delete a.spool).trans h.1.moves

/-- Starting a large message opens a spool for it, or leaves none. Only a panic may end it with the
spool open and in nobody's hand. -/
theorem start_moves (d : DeliveryId) :
    (Accumulator.start d).Ends e (fun a e' => Opens e a.spool.place e')
      (fun _ e' => Moves [] e [] e') fun _ e' => Moves [] e [] e' ∨ ∃ place, Opens e place e' := by
  have F := sameStock_writing
  refine Attempt.ends_bind.2 (Attempt.ends_adapt.2 ((F.generateId_within e).imp
    (fun large e₁ h₁ => ?_) (fun _ _ h₁ => h₁.moves) fun _ _ h₁ => .inl h₁.1.moves))
  refine Attempt.ends_bind.2 (Attempt.ends_adapt.2 ((openSpool_opens large e₁).imp
    (fun spool e₂ h₂ => ?_) (fun _ _ h₂ => (h₁.trans h₂).moves)
    fun _ _ h₂ => .inl (h₁.trans h₂).moves))
  have h₂ := h₂.before h₁
  refine Attempt.ends_bind.2 (Attempt.ends_get.2 (Attempt.ends_bind.2 (Attempt.ends_lift.2
    ((F.recv_within e₂).imp (fun initial e₃ h₃ => ?_) fun _ _ h₃ => .inr ⟨_, h₂.after h₃.1⟩))))
  have h₃ := h₂.after h₃
  have hdrop {e₄ : Endpoint} (h₄ : Opens e spool.place e₄) {a : Accumulator}
      (ha : a.spool = spool) (error : ReassemblyError) :
      Attempt.Ends (do
        a.drop
        throw error : Attempt ReassemblyError Accumulator) e₄
        (fun a e' => Opens e a.spool.place e') (fun _ e' => Moves [] e [] e')
        fun _ e' => Moves [] e [] e' ∨ ∃ place, Opens e place e' := by
    have h₄ : Moves [] e [a.spool.place] e₄ := ha ▸ h₄.moves
    exact Attempt.ends_bind.2 (Attempt.ends_lift.2 ((drop_moves a e₄).imp (fun _ _ => h₄.trans)
      fun _ _ h₅ => .inl (h₄.trans h₅)))
  refine Attempt.ends_bind.2 (Attempt.ends_lift.2 (Act.ends_run.2
    ((F.registerLarge_within large _ e₃).imp (fun _ e₄ h₄ => ?_)
      (fun _ _ h₄ => hdrop (h₃.after h₄) rfl _) fun _ _ h₄ => .inr ⟨_, h₃.after h₄.1⟩)))
  have h₄ := h₃.after h₄
  refine Attempt.ends_bind.2 (Attempt.ends_lift.2 ((append_keeps _ initial e₄).imp
    (fun r e₅ h₅ => ?_) fun _ _ h₅ => .inr ⟨_, h₄.after h₅⟩))
  obtain ⟨written, r⟩ := r
  obtain ⟨rfl, h₅⟩ : written.spool = spool ∧ SameStock e₄ e₅ := h₅
  have h₅ := h₄.after h₅
  rcases r with error | _
  · exact hdrop h₅ rfl error
  · exact Attempt.ends_bind.2 (Attempt.ends_lift.2 (Act.ends_modify.2 (h₅.after (F.told rfl))))

end Large

section Assembling

variable {e e₁ e₂ : Endpoint} {a : Accumulator} {d : DeliveryId}

/-- A spool was opened, and what started its message broke off. -/
def Breaks (e e' : Endpoint) : Prop := e'.slot = none ∧ ∃ place, Opens e place e'

theorem startIfLarge_moves (hslot : e.slot = none) (d : DeliveryId) :
    (Reassembler.startIfLarge .receiver d).Ends e (fun _ e' => Moves [] e [] e')
      (fun _ e' => Moves [] e [] e') fun _ e' => Moves [] e [] e' ∨ Breaks e e' := by
  have hstay : Moves [] e [] e := (SameStock.refl e).moves
  refine Attempt.ends_bind.2 (Attempt.ends_get.2 ?_)
  split
  · exact hstay
  refine Attempt.ends_ite.2 ⟨fun _ => ?_, fun _ => hstay⟩
  refine Attempt.ends_bind.2 ((start_moves d).imp (fun a e₁ h₁ => ?_) (fun _ _ => id)
    fun _ _ h₁ => h₁.imp_right fun h₁ => ?_)
  · exact Attempt.ends_lift.2 (ends_setCurrent.2 (h₁.moves.trans
      (moves_keep (h₁.slot.trans hslot) a)))
  · exact h₁.elim fun place h₁ => ⟨h₁.slot.trans hslot, place, h₁⟩

theorem receive_keeps (a : Accumulator) (e : Endpoint) :
    a.receive.Ends e (fun r e' => r.1.spool = a.spool ∧ SameStock e e')
      fun _ e' => SameStock e e' := by
  refine Act.ends_bind.2 ((sameStock_writing.recv_within e).imp (fun bytes e₁ h₁ => ?_)
    fun _ _ => And.left)
  exact (append_keeps a bytes e₁).imp (fun _ _ h₂ => ⟨h₂.1, h₁.trans h₂.2⟩) fun _ _ => h₁.trans

/-- The slot is given the same spool again. -/
theorem moves_putBack (hslot : e.slot = some a) {written : Accumulator}
    (hw : written.spool = a.spool) : Moves [] e [] (e.withSlot (some written)) := by
  have hcoming : (e.withSlot (some written)).coming = e.coming := by
    rw [coming_some hslot, ← hw]
    rfl
  refine ⟨⟨rfl, rfl, rfl, rfl⟩, ?_⟩
  rw [hcoming]
  rfl

theorem acceptPartial_moves (d : DeliveryId) :
    (Reassembler.acceptPartial .receiver d).Ends e (fun _ e' => Moves [] e [] e')
      (fun _ e' => Moves [] e [] e') fun _ e' => Moves [] e [] e' ∨ Breaks e e' := by
  refine Attempt.ends_bind.2 (Attempt.ends_get.2 (Attempt.ends_ite.2 ⟨fun _ => ?_, fun _ =>
    (SameStock.refl e).moves⟩))
  refine Attempt.ends_bind.2 (Attempt.ends_lift.2 (ends_current.2 ?_))
  rcases hslot : (e.reassembler.get .receiver).slot with _ | a
  · exact startIfLarge_moves hslot d
  refine Attempt.ends_bind.2 (Attempt.ends_lift.2 ((receive_keeps a e).imp (fun r e₁ h₁ => ?_)
    fun _ _ h₁ => .inl h₁.moves))
  obtain ⟨written, r⟩ := r
  have h₂ : Moves [] e [] (e₁.withSlot (some written)) :=
    h₁.2.moves.trans (moves_putBack (h₁.2.slot.trans hslot) h₁.1)
  refine Attempt.ends_bind.2 (Attempt.ends_lift.2 (ends_setCurrent.2
    (Attempt.ends_liftExcept.2 ?_)))
  rcases r with _ | _ <;> exact h₂

theorem discard_moves (e : Endpoint) : (Reassembler.discard .receiver).Ends e
    (fun _ e' => Moves [] e [] e' ∧ e'.slot = none)
    fun _ e' => Moves [] e [] e' ∧ e'.slot = none := by
  refine Act.ends_bind.2 (ends_current.2 ?_)
  rcases hslot : (e.reassembler.get .receiver).slot with _ | a
  · exact ⟨(SameStock.refl e).moves, hslot⟩
  have h₁ : Moves [] e [a.spool.place] (e.withSlot none) := moves_take (coming_some hslot)
  have hdropped {e' : Endpoint}
      (h₂ : SameStock ((e.withSlot none).noting (.spoolDelete a.spool)) e') :
      Moves [] e [] e' ∧ e'.slot = none :=
    ⟨(h₁.trans (moves_delete a.spool)).trans h₂.moves, h₂.slot⟩
  exact Act.ends_bind.2 (ends_setCurrent.2 (Act.ends_bind.2
    ((sameStock_writing.drop_ends a _).imp (fun _ _ => hdropped) fun _ _ h₂ => hdropped h₂.1)))

/-- What is released leaves its slot. -/
theorem release_takes (h : Moves [] e [] e₁) (hcoming : e₁.coming = [a.spool.place])
    (sealed : Except ReassemblyError Unit) :
    (Reassembler.release .receiver a sealed).Ends e₁
      (fun large e' => Moves [] e [large.spool.place] e') (fun _ e' => Moves [] e [] e')
      fun _ e' => Moves [] e [] e' := by
  refine Attempt.ends_bind.2 (Attempt.ends_lift.2 ((moveOn_stays e₁).imp (fun _ e₂ h₂ => ?_)
    fun _ _ h₂ => h.trans h₂.1.moves))
  have h₃ : Moves [] e [a.spool.place] (e₂.withSlot none) :=
    (h.trans h₂.moves).trans (moves_take (h₂.coming.trans hcoming))
  refine Attempt.ends_bind.2 (Attempt.ends_lift.2 (ends_setCurrent.2 ?_))
  rcases sealed with error | _
  · exact Attempt.ends_bind.2 (Attempt.ends_lift.2 ((drop_moves a _).imp (fun _ _ => h₃.trans)
      fun _ _ => h₃.trans))
  · exact h₃

theorem sealLarge_moves (hslot : e.slot = some a) :
    (Reassembler.sealLarge .receiver a).Ends e
      (fun large e' => Moves [] e [large.spool.place] e') (fun _ e' => Moves [] e [] e')
      fun _ e' => Moves [] e [] e' := by
  refine Attempt.ends_bind.2 (Attempt.ends_lift.2 ((receive_keeps a e).imp (fun r e₁ h₁ => ?_)
    fun _ _ h₁ => h₁.moves))
  obtain ⟨written, r⟩ := r
  obtain ⟨hspool, h₁⟩ := h₁
  have h₂ : Moves [] e [] (e₁.withSlot (some written)) :=
    h₁.moves.trans (moves_putBack (h₁.slot.trans hslot) hspool)
  have hrelease {e₃ : Endpoint} (h₃ : SameStock (e₁.withSlot (some written)) e₃)
      (sealed : Except ReassemblyError Unit) :
      (Reassembler.release .receiver written sealed).Ends e₃
        (fun large e' => Moves [] e [large.spool.place] e') (fun _ e' => Moves [] e [] e')
        fun _ e' => Moves [] e [] e' :=
    release_takes (h₂.trans h₃.moves) h₃.coming sealed
  refine Attempt.ends_bind.2 (Attempt.ends_lift.2 (ends_setCurrent.2 ?_))
  rcases r with error | _
  · exact hrelease (.refl _) _
  · exact Attempt.ends_bind.2 (Attempt.ends_lift.2 (Act.ends_run.2
      ((sameStock_writing.finish_within written _).imp (fun _ _ h₃ => hrelease h₃ _)
        (fun _ _ h₃ => hrelease h₃ _) fun _ _ h₃ => h₂.trans h₃.1.moves)))

theorem complete_seals (d : DeliveryId) :
    (Reassembler.complete .receiver d).Ends e (fun m e' => Seals e m e')
      (fun _ e' => Moves [] e [] e') fun _ e' => Moves [] e [] e' := by
  have F := sameStock_writing
  refine Attempt.ends_bind.2 (Attempt.ends_lift.2 (ends_current.2 ?_))
  rcases hslot : (e.reassembler.get .receiver).slot with _ | a
  · refine Attempt.ends_bind.2 (Attempt.ends_lift.2 ((F.recv_within e).imp
      (fun payload e₁ h₁ => ?_) fun _ _ h₁ => h₁.1.moves))
    refine Attempt.ends_bind.2 (Attempt.ends_lift.2 ((moveOn_stays e₁).imp (fun _ e₂ h₂ => ?_)
      fun _ _ h₂ => (h₁.trans h₂.1).moves))
    have h₂ := h₁.trans h₂
    exact Attempt.ends_bind.2 (Attempt.ends_adapt.2 ((F.create_within d payload e₂).imp
      (fun _ e₃ h₃ => ⟨e₃, (h₂.trans h₃).moves, rfl⟩) (fun _ _ h₃ => (h₂.trans h₃).moves)
      fun _ _ h₃ => (h₂.trans h₃.1).moves))
  · refine Attempt.ends_bind.2 ((sealLarge_moves hslot).imp (fun large e₁ h₁ => ?_)
      (fun _ _ => id) fun _ _ => id)
    exact Attempt.ends_bind.2 (Attempt.ends_lift.2 (Act.ends_modify.2 ⟨e₁, h₁, rfl⟩))

theorem acceptComplete_seals (d : DeliveryId) :
    (Reassembler.acceptComplete .receiver d).Ends e (fun m e' => Seals e m e')
      (fun _ e' => Moves [] e [] e') fun _ e' => Moves [] e [] e' ∨ Breaks e e' := by
  have hcomplete {e : Endpoint} : (Reassembler.complete .receiver d).Ends e
      (fun m e' => Seals e m e') (fun _ e' => Moves [] e [] e')
      fun _ e' => Moves [] e [] e' ∨ Breaks e e' :=
    (complete_seals d).imp (fun _ _ => id) (fun _ _ => id) fun _ _ => .inl
  refine Attempt.ends_bind.2 (Attempt.ends_lift.2 (ends_current.2 ?_))
  refine Attempt.ends_bind.2 (Attempt.ends_get.2 (Attempt.ends_ite.2 ⟨fun hc => ?_, fun _ =>
    hcomplete⟩))
  have hslot : e.slot = none := by
    simp only [Bool.and_eq_true, Option.isNone_iff_eq_none] at hc
    exact hc.1
  refine Attempt.ends_bind.2 ((startIfLarge_moves hslot d).imp (fun _ e₁ h₁ => ?_)
    (fun _ _ => id) fun _ _ => id)
  exact (complete_seals d).imp (fun _ _ => .before h₁) (fun _ _ => h₁.trans)
    fun _ _ h₂ => .inl (h₁.trans h₂)

/-- What is in hand once an event has been turned into a message, or has not. -/
def Yields (e : Endpoint) : Reassembly → Endpoint → Prop
  | .complete m, e' => Seals e m e'
  | _, e' => Moves [] e [] e'

theorem accept_yields (d : DeliveryId) :
    (Reassembler.accept .receiver d).Ends e (fun r e' => Yields e r e')
      (fun _ e' => Moves [] e [] e') fun _ e' => Moves [] e [] e' ∨ Breaks e e' := by
  refine Attempt.ends_bind.2 (Attempt.ends_get.2 (Attempt.ends_ite.2 ⟨fun _ => ?_, fun _ =>
    Attempt.ends_ite.2 ⟨fun _ => ?_, fun _ => ?_⟩⟩))
  · refine Attempt.ends_bind.2 (Attempt.ends_lift.2 ((discard_moves e).imp (fun _ e₁ h₁ => ?_)
      fun _ _ h₁ => .inl h₁.1))
    exact Attempt.ends_bind.2 (Attempt.ends_lift.2 ((moveOn_stays e₁).imp
      (fun _ _ h₂ => h₁.1.trans h₂.moves) fun _ _ h₂ => .inl (h₁.1.trans h₂.1.moves)))
  · exact Attempt.ends_bind.2 ((acceptPartial_moves d).imp (fun _ _ => id) (fun _ _ => id)
      fun _ _ => id)
  · exact Attempt.ends_bind.2 ((acceptComplete_seals d).imp (fun _ _ => id) (fun _ _ => id)
      fun _ _ => id)

end Assembling

/-- Every spool opened before or on the way is lost, or else was deleted or passed to routing, or is
in the slot. -/
structure Spends (e : Endpoint) (lost : List Nat) (e' : Endpoint) : Prop where
  plan : e'.plan = e.plan
  places : (lost ++ (e'.deleted ++ e'.passed ++ e'.coming) ++ e.opened).Perm
    (e.deleted ++ e.passed ++ e.coming ++ e'.opened)

/-- A spool is lost exactly if one is left behind. -/
structure Loses (lost : List Nat) (e e' : Endpoint) : Prop extends Spends e lost e' where
  strands : lost = [] ↔ ¬ Strands e e'

def Leaves (e e' : Endpoint) : Prop := ∃ lost, Loses lost e e'

/-- A receiver that is closed has no large message coming in. -/
def Endpoint.Cleared (e : Endpoint) : Prop := e.lifecycle = .closed → e.slot = none

section Spending

variable {e e' e₁ e₂ : Endpoint} {lost lost' : List Nat} {m : Message} {d : DeliveryId}

theorem Spends.trans (h : Spends e lost e₁) (h' : Spends e₁ lost' e₂) :
    Spends e (lost ++ lost') e₂ := by
  refine ⟨h'.plan.trans h.plan, List.perm_iff_count.2 fun place => ?_⟩
  have h₁ := List.perm_iff_count.1 h.places place
  have h₂ := List.perm_iff_count.1 h'.places place
  simp only [List.count_append] at h₁ h₂ ⊢
  omega

theorem Moves.spends (h : Moves [] e lost e') : Spends e lost e' := by
  have hpassed : e'.passed = e.passed := congrArg (List.filterMap _) h.handoffs
  refine ⟨h.plan, List.perm_iff_count.2 fun place => ?_⟩
  have h₁ := List.perm_iff_count.1 h.places place
  rw [hpassed]
  simp only [List.count_append, List.count_nil] at h₁ ⊢
  omega

theorem Moves.loses (h : Moves [] e [] e') : Loses [] e e' := by
  refine ⟨h.spends, iff_of_true rfl ?_⟩
  rintro ⟨-, hsealed | ⟨hopened, hslot, hdeleted⟩⟩
  · exact absurd h.sealed (Nat.ne_of_gt hsealed)
  · have hlength := h.places.length_eq
    rw [coming_none hslot, hdeleted] at hlength
    simp only [List.length_append, List.length_nil, Endpoint.opened, List.length_range] at hlength
    omega

theorem Moves.leaves (h : Moves [] e [] e') : Leaves e e' := ⟨[], h.loses⟩

theorem Breaks.leaves (h : Breaks e e') : Leaves e e' := by
  obtain ⟨hslot, place, h⟩ := h
  refine ⟨[place], h.moves.spends, iff_of_false (by simp) (not_not.2 ⟨h.handoffs, .inr ?_⟩)⟩
  exact ⟨Nat.lt_of_lt_of_eq (Nat.lt_succ_self _) h.opened.symm, hslot, h.deleted⟩

/-- A message that was made is not passed on. -/
theorem Seals.leaves (h : Seals e m e₁) (hs : SameStock e₁ e') : Leaves e e' := by
  obtain ⟨e₂, h, rfl⟩ := h
  rcases hm : m.place? with _ | place <;> rw [hm] at h hs
  · have hmoves : Moves [] e₂ [] e' := hs.moves
    exact (h.trans hmoves).leaves
  have hspends : Spends e₂ [] e' := ⟨hs.plan, hs.moves.spends.places⟩
  refine ⟨[place], h.spends.trans hspends, iff_of_false (by simp) (not_not.2 ⟨?_, .inl ?_⟩)⟩
  · exact hs.handoffs.trans h.handoffs
  · have hsealed : e'.counters.largeMessages = e₂.counters.largeMessages + 1 := hs.sealed
    rw [hsealed, h.sealed]
    exact Nat.lt_succ_self _

/-- A message that was made is passed on, and its spool with it. -/
theorem Seals.passed (h : Seals e m e₁) (hp : Passes SameStock e₁ m d e') : Loses [] e e' := by
  obtain ⟨e₂, h, rfl⟩ := h
  obtain ⟨handoff, e₃, rfl, -, h₃, h₄⟩ := hp
  have hhandoffs : e'.handoffs = e.handoffs ++ [handoff] := by
    rw [h₄.handoffs, ← h.handoffs, ← show e₃.handoffs = e₂.handoffs from h₃.handoffs]
    simp [Endpoint.handoffs, Call.handoff?]
  have hpassed : e'.passed = e.passed ++ handoff.message.place?.toList := by
    rw [Endpoint.passed, hhandoffs, List.filterMap_append]
    rcases hplace : handoff.message.place? with _ | place <;> simp [Endpoint.passed, hplace]
  have hdeleted : e'.deleted = e₂.deleted := by
    rw [h₄.deleted, ← show e₃.deleted = e₂.deleted from h₃.deleted]
    simp [Endpoint.deleted, Call.deleted?]
  have hcoming : e'.coming = e₂.coming := h₄.coming.trans h₃.coming
  have hopened : e'.opened = e₂.opened := congrArg List.range (h₄.opened.trans h₃.opened)
  refine ⟨⟨h₄.plan.trans (h₃.plan.trans h.plan), List.perm_iff_count.2 fun place => ?_⟩,
    iff_of_true rfl fun hs => ?_⟩
  · have h₁ := List.perm_iff_count.1 h.places place
    rw [hpassed, hdeleted, hcoming, hopened]
    simp only [List.count_append, List.count_nil] at h₁ ⊢
    omega
  · have hunrouted := hs.unrouted
    rw [hhandoffs] at hunrouted
    simp at hunrouted

theorem Loses.aside {onHandler onHandler' : Option HandlerId} {lifecycle lifecycle' : Lifecycle}
    {notices : List Notice} {counters : Counters}
    (hc : counters.largeMessages = e'.counters.largeMessages)
    (h : Loses lost { e with onHandler, lifecycle } e') :
    Loses lost e
      { e' with onHandler := onHandler', lifecycle := lifecycle', notices, counters } := by
  refine ⟨⟨h.plan, h.places⟩, h.strands.trans (not_congr ⟨fun hs => ?_, fun hs => ?_⟩)⟩
  · exact ⟨hs.unrouted, hs.left.imp_left (Nat.lt_of_lt_of_eq · hc.symm)⟩
  · exact ⟨hs.unrouted, hs.left.imp_left (Nat.lt_of_lt_of_eq · hc)⟩

theorem Loses.before (h : SameStock e e₁) (h' : Loses lost e₁ e') : Loses lost e e' := by
  have hstrands : Strands e₁ e' ↔ Strands e e' := by
    refine ⟨fun hs => ⟨hs.unrouted.trans h.handoffs, ?_⟩,
      fun hs => ⟨hs.unrouted.trans h.handoffs.symm, ?_⟩⟩
    · rw [← h.sealed, ← h.opened, ← h.deleted]
      exact hs.left
    · rw [h.sealed, h.opened, h.deleted]
      exact hs.left
  exact ⟨h.moves.spends.trans h'.toSpends, h'.strands.trans (not_congr hstrands)⟩

theorem process_leaves (d : DeliveryId) :
    (Receiver.process d).Ends e (fun _ e' => Loses [] e e') (fun _ e' => Leaves e e')
      fun _ e' => Leaves e e' := by
  have F := sameStock_settling
  refine Attempt.ends_bind.2 (Attempt.ends_adapt.2 ((accept_yields d).imp (fun r e₁ h₁ => ?_)
    (fun _ _ h₁ => h₁.leaves) fun _ _ h₁ => h₁.elim (·.leaves) (·.leaves)))
  rcases r with _ | _ | m
  · have h₁ : Moves [] e [] e₁ := h₁
    exact Attempt.ends_lift.2 ((F.onAborted_within d e₁).imp
      (fun _ _ h₂ => (h₁.trans h₂.moves).loses) fun _ _ h₂ => (h₁.trans h₂.1.moves).leaves)
  · exact Moves.loses h₁
  have h₁ : Seals e m e₁ := h₁
  refine Attempt.ends_bind.2 (Attempt.ends_adapt.2 ((F.resolveTransaction_within (sameStock_calling (.inl rfl))
    ⟨⟨rfl, rfl, rfl, rfl⟩, rfl, rfl, rfl⟩ d e₁).imp (fun transaction e₂ h₂ => ?_)
    (fun _ _ h₂ => h₁.leaves h₂) fun _ _ h₂ => h₁.leaves h₂.1))
  have hcount := (F.increment_within .receiver e₂).imp (fun _ _ => id) fun _ _ => And.left
  have hpassed {e₃ : Endpoint} (h₃ : Passes SameStock e₂ m d e₃) : Loses [] e e₃ := by
    obtain ⟨handoff, e₄, hm, hd, h₄, h₅⟩ := h₃
    exact h₁.passed ⟨handoff, e₄, hm, hd, h₂.trans h₄, h₅⟩
  exact (F.handOff_ends hcount m d transaction).imp (fun _ _ => hpassed)
    (fun _ _ h₃ => ⟨[], hpassed h₃⟩)
    fun _ _ h₃ => h₃.elim (fun h₃ => ⟨[], hpassed h₃⟩) fun h₃ => h₁.leaves (h₂.trans h₃)

end Spending

section Events

variable {e : Endpoint}

theorem SameStock.cleared {e' : Endpoint} (h : SameStock e e') (hc : e.Cleared) : e'.Cleared :=
  fun hclosed => h.slot.trans (hc (h.lifecycle.symm.trans hclosed))

theorem close_loses (hs : e.plan.Spares [.removeReceiver]) (hon : e.isOnHandler)
    (hc : e.Cleared) (remoteInitiated : Bool) :
    (Receiver.close remoteInitiated).Ends e (fun _ e' => Loses [] e e' ∧ e'.slot = none)
      fun _ _ => False := by
  refine Act.ends_bind.2 ((requireOnHandler_ends hon).imp ?_ fun _ _ => id)
  rintro _ e rfl
  refine Act.ends_bind.2 (Act.ends_get.2 (Act.ends_ite.2 ⟨fun hclosed =>
    ⟨(SameStock.refl e).moves.loses, hc hclosed⟩, fun _ => ?_⟩))
  have hremoved {removed : List String} : SameStock { e with lifecycle := .closing }
      { e with
        lifecycle := .closing
        calls := e.calls ++ [.removeReceiver e.link.name]
        removed } := (sameStock_noted rfl rfl).trans ⟨⟨rfl, rfl, rfl, rfl⟩, rfl, rfl, rfl⟩
  have hcleared {e₁ : Endpoint} (e₂ : Endpoint) {notices : List Notice}
      (h₂ : Moves [] e₁ [] e₂ ∧ e₂.slot = none)
      (h₁ : SameStock { e with lifecycle := .closing } e₁) :
      let e' : Endpoint := { e₂ with lifecycle := .closed, notices }
      Loses [] e e' ∧ e'.slot = none :=
    ⟨(h₁.moves.trans h₂.1).loses.aside rfl, h₂.2⟩
  refine Act.ends_bind.2 (Act.ends_modify.2 (Act.ends_bind.2 (Act.ends_bind.2 (Act.ends_get.2
    (Act.ends_bind.2 ((invoke_ends (by exact hs) ?_).imp ?_ fun _ _ => id))))))
  · simp [Call.point]
  rintro _ _ rfl
  exact Act.ends_modify.2 (Act.ends_bind.2 (Act.ends_bind.2 (Act.ends_contain.2
    ((discard_moves _).imp (fun _ e₂ h₂ => hcleared e₂ h₂ hremoved)
      fun _ e₂ h₂ => hcleared e₂ h₂ hremoved))))

/-- Once the receiver is closed, no large message is coming in. -/
theorem after_close (hs : e.plan.Spares [.removeReceiver]) (hc : e.Cleared)
    (remoteInitiated : Bool) :
    Loses [] e (e.after (.close remoteInitiated)) ∧
      (e.after (.close remoteInitiated)).slot = none := by
  refine Act.Ends.state (Q := fun e' => Loses [] e e' ∧ e'.slot = none) (Act.ends_bind.2
    (ends_onHandler.2 ((close_loses (by exact hs) (isOnHandler_enter e) (by exact hc)
      remoteInitiated).imp (fun _ _ h => ⟨h.1.aside rfl, h.2⟩) fun _ _ => False.elim)))

theorem after_closeWithError (hs : e.plan.Spares [.removeReceiver]) (hc : e.Cleared)
    (condition : Condition) :
    Loses [] e (e.after (.closeWithError condition)) ∧
      (e.after (.closeWithError condition)).Cleared := by
  have F := sameStock_writing
  have hcondition : (Link.setCondition condition).Within SameStock fun _ _ => True :=
    F.setCondition_within (F.noted rfl) ⟨⟨rfl, rfl, rfl, rfl⟩, rfl, rfl, rfl⟩
  have hleave {e' : Endpoint} (h : Loses [] e.entered e' ∧ e'.Cleared) :
      Loses [] e { e' with onHandler := e.onHandler } ∧
        ({ e' with onHandler := e.onHandler } : Endpoint).Cleared := ⟨h.1.aside rfl, h.2⟩
  refine Act.Ends.state (Q := fun e' => Loses [] e e' ∧ e'.Cleared) (Act.ends_bind.2
    (ends_onHandler.2 (Act.ends_bind.2 (((hcondition e.entered).and
      (setCondition_within condition e.entered)).imp (fun _ e₁ h₁ => ?_) fun _ _ h₁ => ?_))))
  · have hon : e₁.isOnHandler := h₁.2.isOnHandler (isOnHandler_enter e)
    exact (close_loses (h₁.1.plan ▸ hs) hon (h₁.1.cleared (by exact hc)) false).imp
      (fun _ _ h₂ => hleave ⟨h₂.1.before h₁.1, fun _ => h₂.2⟩) fun _ _ => False.elim
  · exact hleave ⟨h₁.1.1.moves.loses, h₁.1.1.cleared (by exact hc)⟩

/-- Every event loses a spool only where it leaves one behind, and a receiver that is closed has no
large message coming in. -/
theorem after_leaves (hs : e.plan.Spares [.removeReceiver]) (hc : e.Cleared) (event : Event) :
    Leaves e (e.after event) ∧ (e.after event).Cleared := by
  have hsame {e' : Endpoint} (h : SameStock e e') : Leaves e e' ∧ e'.Cleared :=
    ⟨h.moves.leaves, h.cleared hc⟩
  cases event with
  | begin | transfer | abort | setDrain => exact hsame ⟨⟨rfl, rfl, rfl, rfl⟩, rfl, rfl, rfl⟩
  | message d =>
    refine (message_ends (Q := fun e' => Leaves e e' ∧ e'.Cleared)
      (fun hsealed h => ⟨h.1.imp fun _ => .aside hsealed, h.2⟩) (fun _ => hsame (.refl e))
      fun ho _ => ?_).state
    have hopened {e' : Endpoint} (h : Leaves e.entered e' ∧ Unfailed e.entered e') :
        Leaves e e' ∧ e'.Cleared :=
      ⟨h.1.imp fun _ => .aside rfl,
        fun hclosed => nomatch ho.symm.trans (h.2.lifecycle.symm.trans hclosed)⟩
    exact ((process_leaves d).and (process_unfailed d e.entered)).imp
      (fun _ _ h => hopened ⟨⟨[], h.1⟩, h.2⟩) (fun _ _ => hopened) fun _ _ h => hopened ⟨h.1, h.2.1⟩
  | close remoteInitiated =>
    obtain ⟨h, hslot⟩ := after_close hs hc remoteInitiated
    exact ⟨⟨[], h⟩, fun _ => hslot⟩
  | closeWithError condition =>
    exact (after_closeWithError hs hc condition).imp_left fun h => ⟨[], h⟩
  | flow | runPending | settle | submit | setMode => exact hsame (sameStock_settling.after rfl e)

end Events

/-- Only an event for a delivery that answers an error leaves a spool behind. -/
theorem Strands.fails (hs : e.plan.Spares [.removeReceiver]) (hc : e.Cleared) {event : Event}
    (h : Strands e (e.after event)) :
    ∃ d error, event = .message d ∧ (event.perform e).1 = .ok (.error error) := by
  have hnone {e' : Endpoint} (hl : Loses [] e e') : ¬ Strands e e' := hl.strands.1 rfl
  have hsame {e' : Endpoint} (h : SameStock e e') : ¬ Strands e e' := hnone h.moves.loses
  cases event with
  | begin | transfer | abort | setDrain =>
    exact absurd h (hsame ⟨⟨rfl, rfl, rfl, rfl⟩, rfl, rfl, rfl⟩)
  | message d =>
    have hanswers := message_answers (Q := fun result e' => result = .ok () → ¬ Strands e e')
      (fun hsealed hn hr hs => hn hr ⟨hs.unrouted, hs.left.imp_left (Nat.lt_of_lt_of_eq · hsealed)⟩)
      (fun _ _ => hsame (.refl e)) fun _ _ => (process_leaves d).imp
        (fun _ _ hl _ => hnone (hl.aside rfl)) (fun _ _ _ => nofun) fun _ _ _ => nofun
    obtain ⟨result, e', he, hn⟩ := hanswers.answers
    rcases result with error | _
    · exact ⟨d, error, rfl, congrArg Prod.fst he⟩
    · have hafter : e.after (.message d) = e' := congrArg Prod.snd he
      rw [hafter] at h
      exact absurd h (hn rfl)
  | close remoteInitiated => exact absurd h (hnone (after_close hs hc remoteInitiated).1)
  | closeWithError condition => exact absurd h (hnone (after_closeWithError hs hc condition).1)
  | flow | runPending | settle | submit | setMode =>
    exact absurd h (hsame (sameStock_settling.after rfl e))

section Runs

variable {e : Endpoint}

/-- A run loses a spool only if one of its events leaves one behind. -/
theorem afterAll_spends : ∀ (run : List Event) {e : Endpoint},
    e.plan.Spares [.removeReceiver] → e.Cleared → ∃ lost, Spends e lost (e.afterAll run) ∧
      (lost = [] ↔ e.Throughout (fun e event => ¬ Strands e (e.after event)) run) ∧
      (e.afterAll run).Cleared
  | [], e, _, hc => ⟨[], (SameStock.refl e).moves.spends, iff_of_true rfl trivial, hc⟩
  | event :: run, e, hs, hc => by
    obtain ⟨⟨lost, h⟩, hc₁⟩ := after_leaves hs hc event
    have hs₁ : (e.after event).plan.Spares [.removeReceiver] := h.plan ▸ hs
    obtain ⟨lost', hspends, hlost, hc'⟩ := afterAll_spends run hs₁ hc₁
    exact ⟨lost ++ lost', h.toSpends.trans hspends,
      List.append_eq_nil_iff.trans (and_congr h.strands hlost), hc'⟩

/-- As long as the session does not panic when it forgets the receiver, no spool is deleted or
passed to routing twice, or both. Every spool that was opened in a run is deleted or passed to
routing once the receiver is closed, exactly if no event left one behind: its message was sealed and
not passed on, or what started it broke off. -/
theorem released_iff (h : e.Fresh) (hs : e.plan.Spares [.removeReceiver]) (run : List Event)
    (remoteInitiated : Bool) :
    let e' := e.afterAll (run ++ [.close remoteInitiated])
    (e'.deleted ++ e'.passed).Nodup ∧
      ((∀ place ∈ e'.opened, place ∉ e.opened → place ∈ e'.deleted ++ e'.passed) ↔
        e.Throughout (fun e event => ¬ Strands e (e.after event)) run) := by
  intro e'
  have hc : e.Cleared := fun hclosed => nomatch h.opened.symm.trans hclosed
  obtain ⟨lost, hspends, hlost, hc₁⟩ := afterAll_spends run hs hc
  have hs₁ : (e.afterAll run).plan.Spares [.removeReceiver] := hspends.plan ▸ hs
  obtain ⟨hclose, hslot⟩ := after_close hs₁ hc₁ remoteInitiated
  have he' : (e.afterAll run).after (.close remoteInitiated) = e' :=
    (e.afterAll_append run [.close remoteInitiated]).symm
  rw [he'] at hclose hslot
  have hplaces : (lost ++ (e'.deleted ++ e'.passed) ++ e.opened).Perm e'.opened := by
    have hp := (hspends.trans hclose.toSpends).places
    simpa [coming_none hslot, coming_none h.slot, Endpoint.deleted, Endpoint.passed,
      Endpoint.handoffs, h.calls] using hp
  have hnodup : (lost ++ (e'.deleted ++ e'.passed) ++ e.opened).Nodup :=
    hplaces.nodup_iff.2 List.nodup_range
  obtain ⟨hhad, -, hold⟩ := List.nodup_append.1 hnodup
  obtain ⟨-, hreleased, hapart⟩ := List.nodup_append.1 hhad
  refine ⟨hreleased, Iff.trans ⟨fun hall => ?_, ?_⟩ hlost⟩
  · refine List.eq_nil_iff_forall_not_mem.2 fun place hp => ?_
    have hopened : place ∈ e'.opened := hplaces.subset (by simp [hp])
    have hnew : place ∉ e.opened := fun hm => hold place (List.mem_append_left _ hp) place hm rfl
    exact hapart place hp place (hall place hopened hnew) rfl
  · rintro rfl place hopened hnew
    exact (List.mem_append.1 (hplaces.symm.subset hopened)).resolve_right hnew

/-- The first message is passed to routing. The second is sealed, and its transaction cannot be
looked up; the third is started, and storage panics; when it is started again, it comes in until
the receiver is closed. -/
theorem released_iff_four :
    let plan : Plan := fun n point =>
      if point = .lookup then some (.fails { text := "not available" })
      else if n = 21 ∧ point = .register then some (.panics (.text "table gone"))
      else none
    let e : Endpoint :=
      { Endpoint.start { minLargeMessageSize := 4 } "orders" 10 ⟨1⟩ .memory none with plan }
    let first : List Event := [.begin 0 none, .transfer [1, 2, 3, 4] false, .message ⟨1⟩]
    let run : List Event := first ++ [.begin 0 (some (.transactional ⟨[7]⟩ none)),
      .transfer [5, 6, 7, 8] false, .message ⟨2⟩, .begin 0 none, .transfer [9, 10, 11, 12] true,
      .message ⟨3⟩, .transfer [13, 14, 15, 16] true, .message ⟨3⟩]
    (e.Fresh ∧ e.plan.Spares [.removeReceiver] ∧ e.opened = []) ∧
      ((e.afterAll (first ++ [.close false])).deleted = [] ∧
        (e.afterAll (first ++ [.close false])).passed = [0] ∧
        e.Throughout (fun e event => ¬ Strands e (e.after event)) first) ∧
      (e.afterAll (run ++ [.close false])).opened = [0, 1, 2, 3] ∧
        (e.afterAll (run ++ [.close false])).deleted = [3] ∧
        (e.afterAll (run ++ [.close false])).passed = [0] ∧
        ¬ e.Throughout (fun e event => ¬ Strands e (e.after event)) run := by
  intro plan e first run
  have hfresh : e.Fresh := ⟨rfl, rfl, rfl, rfl, rfl, rfl, rfl, rfl, rfl, rfl, rfl⟩
  have hspares : e.plan.Spares [.removeReceiver] := by
    intro n point hp k
    obtain rfl : point = .removeReceiver := List.mem_singleton.1 hp
    simp [e, plan]
  have hnone : e.opened = [] := rfl
  have hopened₁ : (e.afterAll (first ++ [.close false])).opened = [0] := by decide +kernel
  have hdeleted₁ : (e.afterAll (first ++ [.close false])).deleted = [] := by decide +kernel
  have hpassed₁ : (e.afterAll (first ++ [.close false])).passed = [0] := by decide +kernel
  have hopened : (e.afterAll (run ++ [.close false])).opened = [0, 1, 2, 3] := by decide +kernel
  have hdeleted : (e.afterAll (run ++ [.close false])).deleted = [3] := by decide +kernel
  have hpassed : (e.afterAll (run ++ [.close false])).passed = [0] := by decide +kernel
  have hkept := (released_iff hfresh hspares first false).2.1 fun place hp _ => by
    rw [hopened₁] at hp
    rw [hdeleted₁, hpassed₁]
    exact hp
  have hlost : ¬ e.Throughout (fun e event => ¬ Strands e (e.after event)) run := fun hrun => by
    have hall := (released_iff hfresh hspares run false).2.2 hrun
    rw [hopened, hdeleted, hpassed, hnone] at hall
    exact absurd (hall 1) (by decide)
  exact ⟨⟨hfresh, hspares, hnone⟩, ⟨hdeleted₁, hpassed₁, hkept⟩, hopened, hdeleted, hpassed, hlost⟩

/-- The only message is sealed, but its transaction cannot be looked up. After the receiver is
closed its spool is neither deleted nor passed to routing. -/
theorem stranded_of_failed_lookup :
    let plan : Plan := fun _ point =>
      if point = .lookup then some (.fails { text := "not available" }) else none
    let e : Endpoint :=
      { Endpoint.start { minLargeMessageSize := 4 } "orders" 10 ⟨1⟩ .memory none with plan }
    let e' := e.afterAll [.begin 0 (some (.transactional ⟨[170]⟩ none)),
      .transfer [1, 2, 3, 4] false, .message ⟨1⟩, .close false]
    (e.Fresh ∧ e.plan.Spares [.removeReceiver]) ∧ (e.opened = [] ∧ e'.opened = [0]) ∧
      e'.deleted = [] ∧ e'.passed = [] ∧ e'.coming = [] ∧ e'.lifecycle = .closed := by
  intro plan e e'
  refine ⟨⟨⟨rfl, rfl, rfl, rfl, rfl, rfl, rfl, rfl, rfl, rfl, rfl⟩, ?_⟩, ?_⟩
  · intro n point hp k
    obtain rfl : point = .removeReceiver := List.mem_singleton.1 hp
    simp [e, plan]
  · decide +kernel

end Runs

end ReceivingLink
