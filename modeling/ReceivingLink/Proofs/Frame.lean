import ReceivingLink.Proofs.Ends
import ReceivingLink.Proofs.Run

/-!
# What reassembly leaves alone

Turning transfers into a message changes storage, the link's buffer and queue and the slot of the
message that is coming in, and nothing else. This is said once, for every relation between
endpoints that such changes keep: `accept_within`. A panic on the way is one that a collaborator
raised.
-/

namespace ReceivingLink

/-- The panics that storage in memory raises of itself. -/
def Storage.ownPanics : List Panic :=
  [.text "spool write panicked", .text "append after finish", SpoolRecord.poisonedPanic,
    Storage.poisonedPanic]

/-- Storage of the same kind, with the same calls failing. -/
structure Storage.SameKind (s s' : Storage) : Prop where
  hasSpools : s'.hasSpools = s.hasSpools
  persistent : s'.persistent = s.persistent
  faults : s'.faults = s.faults

/-- Storage of the same kind in which every spool has the bytes that it had. Spools may have been
opened. -/
structure Storage.SameBytes (s s' : Storage) : Prop extends SameKind s s' where
  opened : s.records.length ≤ s'.records.length
  bytes : ∀ spool, (s'.record spool).bytes = (s.record spool).bytes

/-- Storage in which no spool was opened either. -/
structure Storage.SameSpools (s s' : Storage) : Prop extends SameBytes s s' where
  count : s'.records.length = s.records.length
  opened := Nat.le_of_eq count.symm

namespace Storage

variable (s : Storage)

theorem sameSpools_issue : s.SameSpools s.issue where
  toSameKind := ⟨rfl, rfl, rfl⟩
  bytes := fun _ => rfl
  count := rfl

theorem sameBytes_opened (id : LargeMessageId) : s.SameBytes (s.opened id) := by
  refine ⟨⟨rfl, rfl, rfl⟩, by simp [opened], fun spool => ?_⟩
  rcases s.record_opened_or id spool with hr | ⟨hle, hr⟩ <;> rw [hr]
  rw [s.record_of_le hle]

theorem sameSpools_register (id : LargeMessageId) (format : UInt32) :
    s.SameSpools (s.register id format) where
  toSameKind := by
    unfold register
    split <;> exact ⟨rfl, rfl, rfl⟩
  bytes := fun spool => by simp [record]
  count := by simp

theorem sameSpools_change (spool : Spool) {f : SpoolRecord → SpoolRecord}
    (hf : ∀ r, (f r).bytes = r.bytes) : s.SameSpools (s.change spool f) where
  toSameKind := ⟨rfl, rfl, rfl⟩
  bytes := s.record_change hf
  count := by simp [change]

end Storage

/-- The calls that grant credit and have it sent. -/
def Call.grants : Call → Bool
  | linkFlow _ | flush => true
  | _ => false

/-- The calls that settle deliveries. -/
def Call.settles : Call → Bool
  | disposition .. | settle _ => true
  | _ => false

/-- The calls that neither pass a message to routing, nor settle deliveries or grant credit, nor
take bytes from the link or delete a spool. -/
def Call.isPlain : Call → Bool
  | linkFlow _ | flush | disposition .. | settle _ | deliver _ | linkRecv _ | spoolDelete _ => false
  | _ => true

/-- The notices that do not say that an event failed. -/
def Notice.isRoutine : Notice → Bool
  | processingFailed .. => false
  | _ => true

/-- A relation kept by what is told, with the panics that the plan has for calls. -/
structure TellFrame (R : Endpoint → Endpoint → Prop) (B : Endpoint → Panic → Prop) : Prop
    extends Act.Framing R B where
  told : ∀ {e notice}, notice.isRoutine → R e { e with notices := e.notices ++ [notice] }
  planned : ∀ {e n point k}, e.plan n point = some (.panics k) → B e k

/-- A relation kept by plain calls to collaborators. -/
structure CallFrame (R : Endpoint → Endpoint → Prop) (B : Endpoint → Panic → Prop) : Prop
    extends TellFrame R B where
  noted : ∀ {e call}, call.isPlain → R e { e with calls := e.calls ++ [call] }

/-- A relation kept by what is done with storage as long as no spool is opened or deleted, and
nothing is written to one. -/
structure StoreFrame (R : Endpoint → Endpoint → Prop) (B : Endpoint → Panic → Prop) : Prop
    extends CallFrame R B where
  kept : ∀ {e storage}, Storage.SameSpools e.storage storage → R e { e with storage }
  own : ∀ {e k}, k ∈ Storage.ownPanics → B e k

/-- A relation kept by what is done with storage as long as nothing is written to a spool. -/
structure RecordFrame (R : Endpoint → Endpoint → Prop) (B : Endpoint → Panic → Prop) : Prop
    extends StoreFrame R B where
  filed : ∀ {e storage}, Storage.SameBytes e.storage storage → R e { e with storage }
  kept := fun h => filed h.toSameBytes
  deleting : ∀ {e spool}, R e { e with calls := e.calls ++ [.spoolDelete spool] }

/-- A relation kept by giving up the large message that is coming in. -/
structure DiscardFrame (R : Endpoint → Endpoint → Prop) (B : Endpoint → Panic → Prop) : Prop
    extends RecordFrame R B where
  cleared : ∀ {e o},
    R e { e with reassembler := e.reassembler.set { e.reassembler.get o with slot := none } o }

/-- A relation kept by moving bytes from the link to the spools that are there. -/
structure WriteFrame (R : Endpoint → Endpoint → Prop) (B : Endpoint → Panic → Prop) : Prop
    extends StoreFrame R B where
  stored : ∀ {e storage}, Storage.SameKind e.storage storage →
    storage.records.length = e.storage.records.length → R e { e with storage }
  kept := fun h => stored h.toSameKind h.count
  taking : ∀ {e}, R e { e with calls := e.calls ++ [.linkRecv e.link.buffer] }
  drained : ∀ {e}, R e { e with link := e.link.drained }

/-- A relation kept by what is done with storage and the bytes of the current delivery. -/
structure SpoolFrame (R : Endpoint → Endpoint → Prop) (B : Endpoint → Panic → Prop) : Prop
    extends DiscardFrame R B, WriteFrame R B

/-- A relation kept by reassembly as long as the link stays at its delivery. -/
structure SlotFrame (R : Endpoint → Endpoint → Prop) (B : Endpoint → Panic → Prop) : Prop
    extends SpoolFrame R B where
  slotted : ∀ {e o slot},
    R e { e with reassembler := e.reassembler.set { e.reassembler.get o with slot } o }
  cleared := slotted

/-- A relation kept by reassembly. -/
structure AssemblyFrame (R : Endpoint → Endpoint → Prop) (B : Endpoint → Panic → Prop) : Prop
    extends SlotFrame R B where
  counted : ∀ {e}, R e
    { e with counters := { e.counters with largeMessages := e.counters.largeMessages + 1 } }
  advanced : ∀ {e}, R e { e with link := e.link.advance }

@[simp] theorem ends_current {o : Owner} {e : Endpoint}
    {P : Option Accumulator → Endpoint → Prop} {K : Panic → Endpoint → Prop} :
    (Reassembler.current o).Ends e P K ↔ P (e.reassembler.get o).slot e := Iff.rfl

variable {R : Endpoint → Endpoint → Prop} {B : Endpoint → Panic → Prop}

namespace TellFrame

variable (F : TellFrame R B)

include F

theorem invoke_noting {e : Endpoint} {call : Call} (h : R e { e with calls := e.calls ++ [call] }) :
    (invoke call).Ends e (fun _ e' => R e e') fun k e' => R e e' ∧ B e k := by
  simp only [invoke, note, Act.ends_bind, Act.ends_modifyGet]
  split
  · exact ⟨h, F.planned ‹_›⟩
  · exact h

theorem attempt_noting {e : Endpoint} {call : Call}
    (h : R e { e with calls := e.calls ++ [call] }) :
    (attempt call).Ends e (fun _ e' => R e e') (fun _ e' => R e e') fun k e' => R e e' ∧ B e k := by
  simp only [attempt, note, Attempt.ends_bind, Attempt.ends_lift, Act.ends_modifyGet]
  split
  · exact ⟨h, F.planned ‹_›⟩
  · exact h
  · exact h
  · exact h

theorem report_within {notice : Notice} (h : notice.isRoutine) : (report notice).Within R B :=
  fun _ => F.told h

theorem recv_within
    (taking : ∀ {e}, R e { e with calls := e.calls ++ [.linkRecv e.link.buffer] })
    (drained : ∀ {e}, R e { e with link := e.link.drained }) : Link.recv.Within R B := by
  intro e
  refine Act.ends_bind.2 (Act.ends_get.2 (Act.ends_bind.2 ((F.invoke_noting taking).imp
    (fun _ e₁ h₁ => ?_) fun _ _ => id)))
  exact Act.ends_bind.2 (Act.ends_get.2 (Act.ends_bind.2 (F.trans h₁ drained)))

theorem moveOn_within (moving : ∀ {e}, R e { e with calls := e.calls ++ [.linkAdvance] })
    (advanced : ∀ {e}, R e { e with link := e.link.advance }) : Link.moveOn.Within R B := by
  refine .bind F.toFraming (fun _ => F.invoke_noting moving) fun _ => ?_
  refine .bind F.toFraming (.look F.toFraming) fun e => ?_
  exact .bind F.toFraming (.change fun _ => advanced) fun _ => .answer F.toFraming _

theorem setCondition_within {condition : Condition}
    (telling : ∀ {e}, R e { e with calls := e.calls ++ [.linkSetCondition condition] })
    (conditioned : ∀ {e : Endpoint}, R e
      { e with link := { e.link with condition := some condition } }) :
    (Link.setCondition condition).Within R B :=
  .bind F.toFraming (fun _ => F.invoke_noting telling) fun _ => .change fun _ => conditioned

theorem removeReceiver_within
    (removing : ∀ {e name}, R e { e with calls := e.calls ++ [.removeReceiver name] })
    (forgotten : ∀ {e removed}, R e { e with removed }) : removeReceiver.Within R B :=
  .bind F.toFraming (.look F.toFraming) fun _ =>
    .bind F.toFraming (fun _ => F.invoke_noting removing) fun _ => .change fun _ => forgotten

theorem generateId_within (asking : ∀ {e}, R e { e with calls := e.calls ++ [.generateId] })
    (issued : ∀ {e}, R e { e with storage := e.storage.issue }) :
    Storage.generateId.Within R B := by
  refine .bind F.toFraming (fun _ => F.attempt_noting asking) fun _ => ?_
  refine .bind F.toFraming (.look F.toFraming) fun e => .when F.toFraming (.fail F.toFraming _) ?_
  exact .bind F.toFraming (.lift (.change fun _ => issued)) fun _ => .answer F.toFraming _

theorem create_within {payload : Bytes}
    (building : ∀ {e}, R e { e with calls := e.calls ++ [.createMessage payload] })
    (d : DeliveryId) : (Message.create d payload).Within R B :=
  .bind F.toFraming (fun _ => F.attempt_noting building) fun _ =>
    .bind F.toFraming (.look F.toFraming) fun _ => .answer F.toFraming _

theorem resolveTransaction_within
    (looked : ∀ {e txn}, R e { e with calls := e.calls ++ [.lookup txn false] })
    (asked : ∀ {e txn create}, R e
      { e with transactions := (e.transactions.lookup txn create).2 }) (d : DeliveryId) :
    (Receiver.resolveTransaction d).Within R B := by
  refine .bind F.toFraming (.look F.toFraming) fun e => ?_
  split
  · exact .answer F.toFraming _
  · refine .adapt (.bind F.toFraming (fun _ => F.attempt_noting looked) fun _ => fun e₁ => ?_)
    refine Attempt.ends_bind.2 (Attempt.ends_get.2 (Attempt.ends_bind.2 (Attempt.ends_modify.2 ?_)))
    dsimp only
    split
    · exact asked
    · exact asked

end TellFrame

namespace CallFrame

variable (F : CallFrame R B)

include F

theorem invoke_within {call : Call} (h : call.isPlain) : (invoke call).Within R B :=
  fun _ => F.invoke_noting (F.noted h)

theorem attempt_within {call : Call} (h : call.isPlain) : (attempt call).Within R B :=
  fun _ => F.attempt_noting (F.noted h)

theorem create_within (d : DeliveryId) (payload : Bytes) : (Message.create d payload).Within R B :=
  .bind F.toFraming (F.attempt_within rfl) fun _ =>
    .bind F.toFraming (.look F.toFraming) fun _ => .answer F.toFraming _

theorem moveOn_within (advanced : ∀ {e}, R e { e with link := e.link.advance }) :
    Link.moveOn.Within R B := F.toTellFrame.moveOn_within (F.noted rfl) advanced

theorem resolveTransaction_within
    (asked : ∀ {e txn create}, R e
      { e with transactions := (e.transactions.lookup txn create).2 }) (d : DeliveryId) :
    (Receiver.resolveTransaction d).Within R B :=
  F.toTellFrame.resolveTransaction_within (F.noted rfl) asked d

end CallFrame

namespace StoreFrame

variable (F : StoreFrame R B)

include F

theorem onStorage_within {f : Storage → Storage} (h : ∀ s, Storage.SameSpools s (f s)) :
    (onStorage f).Within R B := fun _ => F.kept (h _)

theorem hold_within (spool : Spool) : spool.hold.Within R B := by
  refine .bind F.toFraming (.look F.toFraming) fun e => ?_
  simp only
  split
  · refine .bind F.toFraming (.breakOff F.toFraming fun _ => F.own ?_) fun _ =>
      .answer F.toFraming _
    simp [Storage.ownPanics]
  · exact .answer F.toFraming _

theorem generateId_within : Storage.generateId.Within R B :=
  F.toTellFrame.generateId_within (F.noted rfl) (F.kept (Storage.sameSpools_issue _))

theorem registerLarge_within (id : LargeMessageId) (a : Accumulator) :
    (Storage.registerLarge id a).Within R B :=
  .bind F.toFraming (F.attempt_within rfl) fun _ =>
    .lift (F.onStorage_within (·.sameSpools_register id a.format))

/-- Bytes are written to the end of a spool, or nothing is written. -/
theorem spoolAppend_ends (spool : Spool) (bytes : Bytes) (e : Endpoint) :
    (spool.append bytes).Ends e
      (fun _ e' => ∃ e₁, R e e₁ ∧ e' = { e₁ with storage := e₁.storage.append spool bytes })
      (fun _ e' => R e e') fun k e' => R e e' ∧ B e k := by
  refine Attempt.ends_bind.2 ((F.attempt_within rfl e).imp (fun _ e₁ h₁ => ?_) (fun _ _ => id)
    fun _ _ => id)
  have hown {message : String} (hm : .text message ∈ Storage.ownPanics) :
      R e e₁ ∧ B e (.text message) := ⟨h₁, F.own hm⟩
  refine Attempt.ends_bind.2 (Attempt.ends_get.2 (Attempt.ends_ite.2 ⟨fun _ => ?_, fun _ =>
    Attempt.ends_ite.2 ⟨fun _ => Attempt.ends_bind.2 h₁, fun _ => ?_⟩⟩))
  · exact Attempt.ends_bind.2 (hown (by simp [Storage.ownPanics]))
  refine Attempt.ends_bind.2 (Attempt.ends_lift.2 ((F.hold_within spool e₁).imp
    (fun _ e₂ h₂ => ?_) fun _ _ h₂ => ⟨F.trans h₁ h₂.1, F.blame h₁ h₂.2⟩))
  refine Attempt.ends_ite.2 ⟨fun _ => ?_, fun _ => ⟨e₂, F.trans h₁ h₂, rfl⟩⟩
  refine Attempt.ends_bind.2 (Attempt.ends_lift.2 (Act.ends_modify.2 (Attempt.ends_bind.2 ?_)))
  refine ⟨F.trans (F.trans h₁ h₂) (F.kept ?_), F.own (by simp [Storage.ownPanics])⟩
  exact e₂.storage.sameSpools_change spool fun _ => rfl

theorem spoolFinish_within (spool : Spool) : spool.finish.Within R B := by
  refine .bind F.toFraming (F.attempt_within rfl) fun _ => ?_
  refine .bind F.toFraming (.look F.toFraming) fun e => .when F.toFraming (.fail F.toFraming _) ?_
  exact .bind F.toFraming (.forget (.lift (F.hold_within spool))) fun _ =>
    .lift (F.onStorage_within fun s => s.sameSpools_change spool fun _ => rfl)

theorem finish_within (a : Accumulator) : a.finish.Within R B := by
  unfold Accumulator.finish
  refine .when F.toFraming (.fail F.toFraming _) ?_
  exact .bind F.toFraming (.adapt (F.spoolFinish_within _)) fun _ => .lift (F.report_within rfl)

/-- The spool that is answered is the one that was opened last. -/
theorem openSpool_ends (id : LargeMessageId) (e : Endpoint) :
    (Storage.openSpool id).Ends e
      (fun spool e' => ∃ e₁, R e e₁ ∧ spool = e₁.storage.newSpool id ∧
        e' = { e₁ with storage := e₁.storage.opened id })
      (fun _ e' => R e e') fun k e' => R e e' ∧ B e k := by
  refine Attempt.ends_bind.2 ((F.attempt_within rfl e).imp (fun _ e₁ h₁ => ?_) (fun _ _ h => h)
    fun _ _ h => h)
  refine Attempt.ends_bind.2 (Attempt.ends_get.2 (Attempt.ends_ite.2 ⟨fun _ =>
    Attempt.ends_bind.2 h₁, fun _ => ?_⟩))
  refine Attempt.ends_bind.2 (Attempt.ends_lift.2 (Act.ends_bind.2 (Act.ends_get.2
    (Act.ends_ite.2 ⟨fun _ => ⟨h₁, F.own ?_⟩, fun _ => ⟨e₁, h₁, rfl, rfl⟩⟩))))
  simp [Storage.ownPanics]

/-- Once the call is noted, deleting a spool keeps the relation. -/
theorem spoolDelete_ends (spool : Spool) (e : Endpoint) :
    spool.delete.Ends e (fun _ e' => R { e with calls := e.calls ++ [.spoolDelete spool] } e')
      (fun _ e' => R { e with calls := e.calls ++ [.spoolDelete spool] } e')
      fun k e' => R { e with calls := e.calls ++ [.spoolDelete spool] } e' ∧ B e k := by
  have hnoted := F.refl { e with calls := e.calls ++ [.spoolDelete spool] }
  refine Attempt.ends_bind.2 (Attempt.ends_bind.2 (Attempt.ends_lift.2 (Act.ends_modifyGet.2 ?_)))
  split
  · exact ⟨hnoted, F.planned ‹_›⟩
  · exact hnoted
  · exact hnoted
  refine Attempt.ends_bind.2 (Attempt.ends_get.2 (Attempt.ends_ite.2 ⟨fun _ =>
    Attempt.ends_bind.2 hnoted, fun _ => ?_⟩))
  refine Attempt.ends_bind.2 (Attempt.ends_discard.2 (Attempt.ends_lift.2 (Act.ends_bind.2
    (Act.ends_get.2 (Act.ends_ite.2 ⟨fun _ => ⟨hnoted, F.own ?_⟩, fun _ => ?_⟩)))))
  · simp [Storage.ownPanics]
  · exact F.kept (Storage.sameSpools_change _ spool fun _ => rfl)

theorem drop_ends (a : Accumulator) (e : Endpoint) :
    a.drop.Ends e (fun _ e' => R { e with calls := e.calls ++ [.spoolDelete a.spool] } e')
      fun k e' => R { e with calls := e.calls ++ [.spoolDelete a.spool] } e' ∧ B e k := by
  refine Act.ends_bind.2 (Act.ends_run.2 ((F.spoolDelete_ends a.spool e).imp
    (fun _ _ h₁ => F.trans h₁ (F.told rfl)) (fun _ _ h₁ => F.trans h₁ (F.told rfl))
    fun _ _ => id))

end StoreFrame

namespace RecordFrame

variable (F : RecordFrame R B)

include F

theorem openSpool_within (id : LargeMessageId) : (Storage.openSpool id).Within R B := by
  refine fun e => (F.openSpool_ends id e).imp ?_ (fun _ _ h => h) fun _ _ h => h
  rintro _ _ ⟨e₁, h₁, -, rfl⟩
  exact F.trans h₁ (F.filed (e₁.storage.sameBytes_opened id))

theorem drop_within (a : Accumulator) : a.drop.Within R B := fun e =>
  (F.drop_ends a e).imp (fun _ _ => F.trans F.deleting) fun _ _ h =>
    ⟨F.trans F.deleting h.1, h.2⟩

end RecordFrame

namespace DiscardFrame

variable (F : DiscardFrame R B)

include F

theorem current_within (o : Owner) : (Reassembler.current o).Within R B :=
  .bind F.toFraming (.look F.toFraming) fun _ => .answer F.toFraming _

theorem discard_within (o : Owner) : (Reassembler.discard o).Within R B := by
  refine .bind F.toFraming (F.current_within o) fun slot => ?_
  rcases slot with _ | a
  · exact .answer F.toFraming _
  · refine .bind F.toFraming (.change fun _ => F.cleared) fun _ => ?_
    exact .bind F.toFraming (F.drop_within a) fun _ => .answer F.toFraming _

theorem clearLarge_within : Receiver.clearLarge.Within R B := by
  refine .bind F.toFraming (.contain (F.discard_within .receiver)) fun r => ?_
  rcases r with _ | _
  · exact .bind F.toFraming (.look F.toFraming) fun _ => F.report_within rfl
  · exact .answer F.toFraming _

/-- Closing the receiver keeps the relation too, if it does not say whether the receiver is open and
what the session forgot. -/
theorem close_ends {e : Endpoint} (shut : ∀ {e lifecycle}, R e { e with lifecycle })
    (forgotten : ∀ {e removed}, R e { e with removed })
    (hon : requireOnHandler.Ends e (fun _ e' => R e e') fun k e' => R e e' ∧ B e k)
    (remoteInitiated : Bool) : (Receiver.close remoteInitiated).Ends e (fun _ e' => R e e')
      fun k e' => R e e' ∧ B e k := by
  have hrest : Act.Within R B (do
      modify fun e : Endpoint => { e with lifecycle := .closing }
      removeReceiver
      Receiver.clearLarge
      modify fun e : Endpoint => { e with lifecycle := .closed }
      report (.receiverClosed (← get).link.name remoteInitiated)) := by
    refine .bind F.toFraming (.change fun _ => shut) fun _ => ?_
    refine .bind F.toFraming (F.removeReceiver_within (F.noted rfl) forgotten) fun _ => ?_
    refine .bind F.toFraming F.clearLarge_within fun _ => ?_
    refine .bind F.toFraming (.change fun _ => shut) fun _ => ?_
    exact .bind F.toFraming (.look F.toFraming) fun _ => F.report_within rfl
  refine Act.ends_bind.2 (hon.imp (fun _ e₁ h₁ => ?_) fun _ _ => id)
  refine Act.ends_bind.2 (Act.ends_get.2 (Act.ends_ite.2 ⟨fun _ => h₁, fun _ => ?_⟩))
  exact (hrest e₁).imp (fun _ _ => F.trans h₁) fun _ _ h => ⟨F.trans h₁ h.1, F.blame h₁ h.2⟩

end DiscardFrame

namespace WriteFrame

variable (F : WriteFrame R B)

include F

theorem recv_within : Link.recv.Within R B := F.toTellFrame.recv_within F.taking F.drained

theorem spoolAppend_within (spool : Spool) (bytes : Bytes) : (spool.append bytes).Within R B := by
  refine fun e => (F.spoolAppend_ends spool bytes e).imp ?_ (fun _ _ => id) fun _ _ => id
  rintro _ _ ⟨e₁, h₁, rfl⟩
  exact F.trans h₁ (F.stored ⟨rfl, rfl, rfl⟩ (by simp [Storage.append, Storage.change]))

theorem append_within (a : Accumulator) (bytes : Bytes) : (a.append bytes).Within R B := by
  unfold Accumulator.append
  split
  · exact .answer F.toFraming _
  split
  · exact .bind F.toFraming (F.report_within rfl) fun _ => .answer F.toFraming _
  · refine .bind F.toFraming (.run (F.spoolAppend_within _ _)) fun r => ?_
    rcases r with _ | _ <;> exact .answer F.toFraming _

theorem receive_within (a : Accumulator) : a.receive.Within R B :=
  .bind F.toFraming F.recv_within fun bytes => F.append_within a bytes

end WriteFrame

namespace SpoolFrame

variable (F : SpoolFrame R B)

include F

theorem start_within (d : DeliveryId) : (Accumulator.start d).Within R B := by
  refine .bind F.toFraming (.adapt F.generateId_within) fun id => ?_
  refine .bind F.toFraming (.adapt (F.openSpool_within id)) fun spool => ?_
  refine .bind F.toFraming (.look F.toFraming) fun e => ?_
  refine .bind F.toFraming (.lift F.recv_within) fun initial => ?_
  refine .bind F.toFraming (.lift (.run (F.registerLarge_within _ _))) fun r => ?_
  rcases r with _ | _
  · exact .bind F.toFraming (.lift (F.drop_within _)) fun _ => .failThen F.toFraming
  · refine .bind F.toFraming (.lift (F.append_within _ _)) fun (written, r) => ?_
    rcases r with _ | _
    · exact .bind F.toFraming (.lift (F.drop_within _)) fun _ => .fail F.toFraming _
    · exact .bind F.toFraming (.lift (F.report_within rfl)) fun _ => .answer F.toFraming _

end SpoolFrame

namespace SlotFrame

variable (F : SlotFrame R B)

include F

theorem setCurrent_within (o : Owner) (slot : Option Accumulator) :
    (Reassembler.setCurrent o slot).Within R B := fun _ => F.slotted

theorem startIfLarge_within (o : Owner) (d : DeliveryId) :
    (Reassembler.startIfLarge o d).Within R B := by
  refine .bind F.toFraming (.look F.toFraming) fun e => ?_
  split
  · exact .answer F.toFraming _
  split
  · exact .bind F.toFraming (F.start_within d) fun _ => .lift (F.setCurrent_within _ _)
  · exact .answer F.toFraming _

theorem acceptPartial_within (o : Owner) (d : DeliveryId) :
    (Reassembler.acceptPartial o d).Within R B := by
  refine .bind F.toFraming (.look F.toFraming) fun e => ?_
  split
  · refine .bind F.toFraming (.lift (F.current_within o)) fun slot => ?_
    rcases slot with _ | a
    · exact F.startIfLarge_within o d
    · refine .bind F.toFraming (.lift (F.receive_within a)) fun _ => ?_
      exact .bind F.toFraming (.lift (F.setCurrent_within _ _)) fun _ => .ofExcept F.toFraming _
  · exact .answer F.toFraming _

end SlotFrame

namespace AssemblyFrame

variable (F : AssemblyFrame R B)

include F

theorem moveOn_within : Link.moveOn.Within R B := F.toCallFrame.moveOn_within F.advanced

theorem release_within (o : Owner) (a : Accumulator) (sealed : Except ReassemblyError Unit) :
    (Reassembler.release o a sealed).Within R B := by
  refine .bind F.toFraming (.lift F.moveOn_within) fun _ => ?_
  refine .bind F.toFraming (.lift (F.setCurrent_within _ _)) fun _ => ?_
  rcases sealed with _ | _
  · exact .bind F.toFraming (.lift (F.drop_within _)) fun _ => .fail F.toFraming _
  · exact .answer F.toFraming _

theorem sealLarge_within (o : Owner) (a : Accumulator) :
    (Reassembler.sealLarge o a).Within R B := by
  refine .bind F.toFraming (.lift (F.receive_within a)) fun (written, r) => ?_
  refine .bind F.toFraming (.lift (F.setCurrent_within _ _)) fun _ => ?_
  rcases r with _ | _
  · exact F.release_within o written _
  · exact .bind F.toFraming (.lift (.run (F.finish_within _))) fun r => F.release_within o written r

theorem complete_within (o : Owner) (d : DeliveryId) : (Reassembler.complete o d).Within R B := by
  refine .bind F.toFraming (.lift (F.current_within o)) fun slot => ?_
  rcases slot with _ | a
  · refine .bind F.toFraming (.lift F.recv_within) fun bytes => ?_
    refine .bind F.toFraming (.lift F.moveOn_within) fun _ => ?_
    exact .bind F.toFraming (.adapt (F.create_within d bytes)) fun _ => .answer F.toFraming _
  · refine .bind F.toFraming (F.sealLarge_within o a) fun large => ?_
    exact .bind F.toFraming (.lift (.change fun _ => F.counted)) fun _ => .answer F.toFraming _

theorem acceptComplete_within (o : Owner) (d : DeliveryId) :
    (Reassembler.acceptComplete o d).Within R B := by
  refine .bind F.toFraming (.lift (F.current_within o)) fun slot => ?_
  refine .bind F.toFraming (.look F.toFraming) fun e => ?_
  exact .when F.toFraming (F.startIfLarge_within o d) (F.complete_within o d)

/-- Handling an event for the delivery at the head keeps every relation that its calls and changes
keep. -/
theorem accept_within (o : Owner) (d : DeliveryId) : (Reassembler.accept o d).Within R B := by
  refine .bind F.toFraming (.look F.toFraming) fun e => ?_
  dsimp only
  split
  · refine .bind F.toFraming (.lift (F.discard_within o)) fun _ => ?_
    exact .bind F.toFraming (.lift F.moveOn_within) fun _ => .answer F.toFraming _
  split
  · exact .bind F.toFraming (F.acceptPartial_within o d) fun _ => .answer F.toFraming _
  · exact .bind F.toFraming (F.acceptComplete_within o d) fun _ => .answer F.toFraming _

end AssemblyFrame

/-- Reassembly gives up exactly the deliveries that their sender gave up. -/
theorem accept_given (o : Owner) (d : DeliveryId) (e : Endpoint) :
    (Reassembler.accept o d).Ends e
      (fun r _ => r = .aborted ↔ (e.link.delivery d).isAborted) (fun _ _ => True)
      fun _ _ => True := by
  have hkeeps {α : Type} {x : Attempt ReassemblyError α} {r : α → Reassembly}
      (hg : ¬ (e.link.delivery d).isAborted) (hr : ∀ a, r a ≠ .aborted) :
      Attempt.Ends (do return r (← x)) e
        (fun r _ => r = .aborted ↔ (e.link.delivery d).isAborted) (fun _ _ => True)
        fun _ _ => True :=
    Attempt.ends_bind.2 (Attempt.ends_always (fun a _ => iff_of_false (hr a) hg)
      (fun _ _ => trivial) fun _ _ => trivial)
  refine Attempt.ends_bind.2 (Attempt.ends_get.2 (Attempt.ends_ite.2 ⟨fun hg => ?_, fun hg =>
    Attempt.ends_ite.2 ⟨fun _ => hkeeps hg fun _ => nofun, fun _ => hkeeps hg fun _ => nofun⟩⟩))
  refine Attempt.ends_bind.2 (Attempt.ends_lift.2 (Act.ends_always (fun _ _ => ?_)
    fun _ _ => trivial))
  exact Attempt.ends_bind.2 (Attempt.ends_lift.2 (Act.ends_always (fun _ _ => iff_of_true rfl hg)
    fun _ _ => trivial))

/-! ## Where the link is moved on -/

theorem sameQueue_frame :
    SlotFrame (fun e e' => e'.link.queue = e.link.queue) fun _ _ => True where
  refl := fun _ => rfl
  trans := fun h h' => h'.trans h
  blame := fun _ _ => trivial
  noted := fun _ => rfl
  told := fun _ => rfl
  planned := fun _ => trivial
  stored := fun _ _ => rfl
  filed := fun _ => rfl
  deleting := rfl
  taking := rfl
  drained := by simp [Link.drained]
  own := fun _ => trivial
  slotted := rfl

/-- The queue is the same but for the delivery that was at its head. -/
def Advances (e e' : Endpoint) : Prop := e'.link.queue = e.link.queue.tail

/-- The queue is the same, but perhaps for the delivery that was at its head. -/
def Shifts (e e' : Endpoint) : Prop := e'.link.queue = e.link.queue ∨ Advances e e'

section Advancing

variable {e e₁ e₂ : Endpoint}

theorem Advances.before (hq : e₁.link.queue = e.link.queue) (h : Advances e₁ e₂) : Advances e e₂ :=
  h.trans (congrArg List.tail hq)

theorem Shifts.before (hq : e₁.link.queue = e.link.queue) (h : Shifts e₁ e₂) : Shifts e e₂ :=
  h.imp (·.trans hq) (·.before hq)

theorem moveOn_advances (e : Endpoint) :
    Link.moveOn.Ends e (fun _ => Advances e) fun _ e' => e'.link.queue = e.link.queue := by
  refine Act.ends_bind.2 ((sameQueue_frame.invoke_within rfl e).imp (fun _ e' h => ?_)
    fun _ _ => And.left)
  simp only [onLink, Act.ends_bind, Act.ends_get, Act.ends_modify, Act.ends_pure, Advances,
    Link.advance_queue, h]

theorem release_advances (e : Endpoint) (o : Owner) (a : Accumulator)
    (sealed : Except ReassemblyError Unit) :
    (Reassembler.release o a sealed).Ends e (fun _ => Advances e) (fun _ => Shifts e)
      fun _ => Shifts e := by
  refine Attempt.ends_bind.2 (Attempt.ends_lift.2 ((moveOn_advances e).imp (fun _ e₁ h₁ => ?_)
    fun _ _ => .inl))
  refine Attempt.ends_bind.2 (Attempt.ends_lift.2 (Act.ends_modify.2 ?_))
  rcases sealed with _ | _
  · exact Attempt.ends_bind.2 (Attempt.ends_lift.2 ((sameQueue_frame.drop_within a _).imp
      (fun _ _ h₂ => .inr (h₂.trans h₁)) fun _ _ h₂ => .inr (h₂.1.trans h₁)))
  · exact h₁

theorem sealLarge_advances (e : Endpoint) (o : Owner) (a : Accumulator) :
    (Reassembler.sealLarge o a).Ends e (fun _ => Advances e) (fun _ => Shifts e)
      fun _ => Shifts e := by
  have F := sameQueue_frame
  have hrelease {e' : Endpoint} (h : e'.link.queue = e.link.queue) (a : Accumulator)
      (sealed : Except ReassemblyError Unit) : (Reassembler.release o a sealed).Ends e'
      (fun _ => Advances e) (fun _ => Shifts e) fun _ => Shifts e :=
    (release_advances e' o a sealed).imp (fun _ _ => .before h) (fun _ _ => .before h)
      fun _ _ => .before h
  refine Attempt.ends_bind.2 (Attempt.ends_lift.2 ((F.receive_within a e).imp (fun r e₁ h₁ => ?_)
    fun _ _ h₁ => .inl h₁.1))
  obtain ⟨written, r⟩ := r
  refine Attempt.ends_bind.2 (Attempt.ends_lift.2 (Act.ends_modify.2 ?_))
  rcases r with error | _
  · exact hrelease (by exact h₁) written _
  · refine Attempt.ends_bind.2 (Attempt.ends_lift.2 (Act.ends_run.2 ?_))
    exact (F.finish_within written _).imp (fun _ _ h₂ => hrelease (h₂.trans h₁) written _)
      (fun _ _ h₂ => hrelease (h₂.trans h₁) written _) fun _ _ h₂ => .inl (h₂.1.trans h₁)

theorem complete_advances (e : Endpoint) (o : Owner) (d : DeliveryId) :
    (Reassembler.complete o d).Ends e (fun _ => Advances e) (fun _ => Shifts e)
      fun _ => Shifts e := by
  have F := sameQueue_frame
  refine Attempt.ends_bind.2 (Attempt.ends_lift.2 (ends_current.2 ?_))
  rcases (e.reassembler.get o).slot with _ | a
  · refine Attempt.ends_bind.2 (Attempt.ends_lift.2 ((F.recv_within e).imp (fun payload e₁ h₁ => ?_)
      fun _ _ h₁ => .inl h₁.1))
    refine Attempt.ends_bind.2 (Attempt.ends_lift.2 ((moveOn_advances e₁).imp (fun _ e₂ h₂ => ?_)
      fun _ _ h₂ => .inl (h₂.trans h₁)))
    have hadvances {e₃ : Endpoint} (h₃ : e₃.link.queue = e₂.link.queue) : Advances e e₃ :=
      h₃.trans (h₂.before h₁)
    exact Attempt.ends_bind.2 (Attempt.ends_adapt.2 ((F.create_within d payload e₂).imp
      (fun _ _ => hadvances) (fun _ _ h₃ => .inr (hadvances h₃)) fun _ _ h₃ =>
      .inr (hadvances h₃.1)))
  · refine Attempt.ends_bind.2 ((sealLarge_advances e o a).imp (fun large e₁ h₁ => ?_)
      (fun _ _ => id) fun _ _ => id)
    exact Attempt.ends_bind.2 (Attempt.ends_lift.2 h₁)

theorem acceptComplete_advances (e : Endpoint) (o : Owner) (d : DeliveryId) :
    (Reassembler.acceptComplete o d).Ends e (fun _ => Advances e) (fun _ => Shifts e)
      fun _ => Shifts e := by
  refine Attempt.ends_bind.2 (Attempt.ends_lift.2 (ends_current.2 ?_))
  refine Attempt.ends_bind.2 (Attempt.ends_get.2 ?_)
  refine Attempt.ends_ite.2 ⟨fun _ => ?_, fun _ => complete_advances e o d⟩
  refine Attempt.ends_bind.2 ((sameQueue_frame.startIfLarge_within o d e).imp (fun _ e₁ h₁ => ?_)
    (fun _ _ => .inl) fun _ _ h₁ => .inl h₁.1)
  exact (complete_advances e₁ o d).imp (fun _ _ => .before h₁) (fun _ _ => .before h₁)
    fun _ _ => .before h₁

/-- The link is moved past a delivery that was aborted or is complete, and past no other. -/
theorem accept_advances (e : Endpoint) (o : Owner) (d : DeliveryId) :
    (Reassembler.accept o d).Ends e
      (fun r e' => r matches .pending ∧ e'.link.queue = e.link.queue ∨ Advances e e')
      (fun _ => Shifts e) fun _ => Shifts e := by
  have F := sameQueue_frame
  refine Attempt.ends_bind.2 (Attempt.ends_get.2 ?_)
  refine Attempt.ends_ite.2 ⟨fun _ => ?_, fun _ => Attempt.ends_ite.2 ⟨fun _ => ?_, fun _ => ?_⟩⟩
  · refine Attempt.ends_bind.2 (Attempt.ends_lift.2 ((F.discard_within o e).imp (fun _ e₁ h₁ => ?_)
      fun _ _ h₁ => .inl h₁.1))
    refine Attempt.ends_bind.2 (Attempt.ends_lift.2 ((moveOn_advances e₁).imp (fun _ e₂ h₂ => ?_)
      fun _ _ h₂ => .inl (h₂.trans h₁)))
    exact .inr (h₂.before h₁)
  · exact Attempt.ends_bind.2 ((F.acceptPartial_within o d e).imp (fun _ _ h₁ => .inl ⟨rfl, h₁⟩)
      (fun _ _ => .inl) fun _ _ h₁ => .inl h₁.1)
  · exact Attempt.ends_bind.2 ((acceptComplete_advances e o d).imp (fun _ _ => .inr)
      (fun _ _ => id) fun _ _ => id)

end Advancing

theorem TellFrame.requireOnHandler_within (F : TellFrame R fun _ _ => True) :
    requireOnHandler.Within R fun _ _ => True := by
  refine .bind F.toFraming (.look F.toFraming) fun _ => ?_
  split
  · exact .breakOff F.toFraming fun _ => trivial
  · exact .answer F.toFraming _

section Closing

variable (F : DiscardFrame R fun _ _ => True)
  (shut : ∀ {e lifecycle}, R e { e with lifecycle })
  (forgotten : ∀ {e removed}, R e { e with removed })

include F shut forgotten

theorem close_within (remoteInitiated : Bool) :
    (Receiver.close remoteInitiated).Within R fun _ _ => True := fun e =>
  F.close_ends shut forgotten (F.toTellFrame.requireOnHandler_within e) remoteInitiated

theorem closeWithError_within {condition : Condition}
    (conditioned : ∀ {e : Endpoint}, R e
      { e with link := { e.link with condition := some condition } }) :
    (Receiver.closeWithError condition).Within R fun _ _ => True :=
  .bind F.toFraming (F.setCondition_within (F.noted rfl) conditioned) fun _ =>
    close_within F shut forgotten false

end Closing

theorem TellFrame.onFlow_within (F : TellFrame R fun _ _ => True)
    (reviewed : (replenish (some .receiver)).Within R fun _ _ => True) (credits : UInt32)
    (drain : Bool) : (Receiver.onFlow credits drain).Within R fun _ _ => True := by
  refine .bind F.toFraming (.look F.toFraming) fun _ => ?_
  exact .bind F.toFraming (F.report_within rfl) fun _ => reviewed

theorem TellFrame.runLater_within (F : TellFrame R fun _ _ => True) {task : Task}
    (posted : ∀ {e}, R e { e with mailbox := e.mailbox.post task }) :
    (runLater task).Within R fun _ _ => True := by
  refine .bind F.toFraming (.look F.toFraming) fun _ => ?_
  refine .bind F.toFraming (.change fun _ => posted) fun _ => ?_
  split
  · exact F.report_within rfl
  · exact .answer F.toFraming _

theorem TellFrame.flushNow_within (F : TellFrame R fun _ _ => True)
    (flushed : ∀ {e}, R e { e with mailbox := e.mailbox.flushed })
    (sending : ∀ {e}, R e { e with calls := e.calls ++ [.flush] }) :
    flushNow.Within R fun _ _ => True := by
  refine .bind F.toFraming F.requireOnHandler_within fun _ => ?_
  exact .bind F.toFraming (.change fun _ => flushed) fun _ _ => F.invoke_noting sending

/-- A relation kept by what is done to top up credit. -/
structure GrantFrame (R : Endpoint → Endpoint → Prop) : Prop
    extends TellFrame R fun _ _ => True where
  granting : ∀ {e call}, call.grants → R e { e with calls := e.calls ++ [call] }
  flowed : ∀ {e credits}, R e { e with link := e.link.flow credits }
  asked : ∀ {e owner}, R e { e with mailbox := e.mailbox.post (.replenish owner) }
  flushed : ∀ {e}, R e { e with mailbox := e.mailbox.flushed }
  counted : ∀ {e counters}, counters.errors = e.counters.errors →
    counters.largeMessages = e.counters.largeMessages → R e { e with counters }

namespace GrantFrame

variable (F : GrantFrame R)

include F

theorem ask_within (owner : Option Owner) :
    (runLater (.replenish owner)).Within R fun _ _ => True := F.toTellFrame.runLater_within F.asked

theorem flushNow_within : flushNow.Within R fun _ _ => True :=
  F.toTellFrame.flushNow_within F.flushed (F.granting rfl)

theorem grant_within (credits : UInt32) : (Link.grant credits).Within R fun _ _ => True :=
  .bind F.toFraming (fun _ => F.invoke_noting (F.granting rfl)) fun _ => .change fun _ => F.flowed

theorem replenish_within (owner : Option Owner) :
    (replenish owner).Within R fun _ _ => True := by
  refine .bind F.toFraming (.look F.toFraming) fun e => ?_
  dsimp only
  split
  · exact F.ask_within _
  split
  · exact .answer F.toFraming _
  refine .bind F.toFraming (F.grant_within _) fun _ => ?_
  refine .bind F.toFraming F.flushNow_within fun _ => ?_
  exact .bind F.toFraming (.change fun _ => F.counted rfl rfl) fun _ => F.report_within rfl

theorem onFlow_within (credits : UInt32) (drain : Bool) :
    (Receiver.onFlow credits drain).Within R fun _ _ => True :=
  F.toTellFrame.onFlow_within (F.replenish_within _) credits drain

theorem departed_any {e : Endpoint} {departure : Departure} :
    R e { e with counters := e.counters.depart departure } := by
  cases departure <;> exact F.counted rfl rfl

end GrantFrame

/-! ## Settling and routing -/

/-- A message is passed to routing between two steps that keep the relation. -/
def Passes (R : Endpoint → Endpoint → Prop) (e : Endpoint) (message : Message) (d : DeliveryId)
    (e' : Endpoint) : Prop :=
  ∃ (handoff : Handoff) (e₁ : Endpoint), handoff.message = message ∧ handoff.delivery = d ∧
    R e e₁ ∧ R { e₁ with calls := e₁.calls ++ [.deliver handoff] } e'

/-- A relation kept by every review of credit as a whole, and by what else is done to settle
deliveries and to route messages, on the handler and back. -/
structure PassFrame (R : Endpoint → Endpoint → Prop) : Prop
    extends TellFrame R fun _ _ => True where
  reviewed : ∀ owner, (replenish owner).Within R fun _ _ => True
  departed : ∀ {e departure}, departure ≠ .aborted →
    R e { e with counters := e.counters.depart departure }
  settling : ∀ {e call}, call.settles → R e { e with calls := e.calls ++ [call] }
  disposed : ∀ {e d outcome}, R e { e with link := e.link.dispose d outcome }
  settled : ∀ {e d}, R e { e with link := e.link.settle d }
  posted : ∀ {e task}, R e { e with mailbox := e.mailbox.post task }
  taken : ∀ {e task mailbox}, e.mailbox.take? = some (task, mailbox) → R e { e with mailbox }
  tallied : ∀ {e pending}, R e { e with pending }
  routed : ∀ {e sink}, R e { e with sink }
  returned : ∀ {e e'}, R { e with onHandler := some e.mailbox.handler } e' →
    R e { e' with onHandler := e.onHandler }

/-- A relation kept by each step of these. -/
structure RouteFrame (R : Endpoint → Endpoint → Prop) : Prop extends GrantFrame R, PassFrame R where
  reviewed := toGrantFrame.replenish_within
  departed := fun _ => toGrantFrame.departed_any

/-- A relation that is not about where the running code is. -/
structure SettleFrame (R : Endpoint → Endpoint → Prop) : Prop extends RouteFrame R where
  placed : ∀ {e at'}, R e { e with onHandler := at' }
  returned := fun h => trans (trans placed h) placed

namespace PassFrame

variable {α : Type} {act : Act Panic Endpoint α} (F : PassFrame R)

include F

theorem onHandler_within (h : act.Within R fun _ _ => True) :
    (onHandler act).Within R fun _ _ => True := fun _ =>
  Act.ends_bracket.2 ((h _).imp (fun _ _ h' => F.returned h')
    fun _ _ h' => ⟨F.returned h'.1, trivial⟩)

theorem runLater_within (task : Task) : (runLater task).Within R fun _ _ => True :=
  F.toTellFrame.runLater_within F.posted

theorem increment_within (o : Owner) : (Tracker.increment o).Within R fun _ _ => True := by
  have hrest : Act.Within R (fun _ _ => True) (do
      requireOnHandler
      modify fun e : Endpoint => { e with pending := e.pending.set (e.pending.get o + 1) o }) :=
    .bind F.toFraming F.requireOnHandler_within fun _ => .change fun _ => F.tallied
  refine .bind F.toFraming (.look F.toFraming) fun _ => ?_
  dsimp only
  split
  · exact .bind F.toFraming (.breakOff F.toFraming fun _ => trivial) fun _ => hrest
  · exact hrest

theorem decrement_within (o : Owner) : (Tracker.decrement o).Within R fun _ _ => True := by
  refine .bind F.toFraming F.requireOnHandler_within fun _ => ?_
  refine .bind F.toFraming (.change fun _ => F.tallied) fun _ => ?_
  refine .bind F.toFraming (.look F.toFraming) fun e => ?_
  split
  · exact .breakOff F.toFraming fun _ => trivial
  · exact .answer F.toFraming _

theorem disposition_within (d : DeliveryId) (outcome : Outcome) :
    (Delivery.disposition d outcome).Within R fun _ _ => True :=
  .bind F.toFraming (fun _ => F.invoke_noting (F.settling rfl)) fun _ =>
    .change fun _ => F.disposed

theorem settle_within (d : DeliveryId) : (Delivery.settle d).Within R fun _ _ => True :=
  .bind F.toFraming (fun _ => F.invoke_noting (F.settling rfl)) fun _ => .change fun _ => F.settled

theorem settleOnHandler_within (d : DeliveryId) :
    (settleOnHandler d).Within R fun _ _ => True := by
  refine .bind F.toFraming F.requireOnHandler_within fun _ => ?_
  refine .bind F.toFraming (F.decrement_within _) fun _ => ?_
  exact .bind F.toFraming (F.settle_within d) fun _ => F.reviewed _

theorem perform_within (task : Task) : task.perform.Within R fun _ _ => True := by
  rcases task with owner | ⟨d, _ | outcome⟩
  · exact F.reviewed owner
  · exact F.settleOnHandler_within d
  · exact .bind F.toFraming (F.disposition_within d outcome) fun _ => F.settleOnHandler_within d

theorem runNow_within (task : Task) : (runNow task).Within R fun _ _ => True := by
  refine .bind F.toFraming (.look F.toFraming) fun e => ?_
  split
  · exact F.perform_within task
  · exact F.runLater_within task

theorem drain_within : ∀ limit : Nat, (drain limit).Within R fun _ _ => True
  | 0 => .answer F.toFraming _
  | limit + 1 => by
    have htake : takeTask.Within R fun _ _ => True := fun e => by
      refine Act.ends_modifyGet.2 ?_
      split
      · exact F.refl e
      · exact F.taken ‹_›
    refine .bind F.toFraming htake fun task => ?_
    rcases task with _ | task
    · exact .answer F.toFraming _
    refine .bind F.toFraming (F.perform_within task) fun _ => ?_
    exact .bind F.toFraming (drain_within limit) fun _ => .answer F.toFraming _

theorem runPending_within : runPending.Within R fun _ _ => True :=
  .bind F.toFraming (.look F.toFraming) fun _ => F.onHandler_within (F.drain_within _)

theorem use_within (use : Sink.Use) : use.perform.Within R fun _ _ => True := by
  refine .bind F.toFraming (.look F.toFraming) fun _ => ?_
  split
  · exact .answer F.toFraming _
  refine .bind F.toFraming (.change fun _ => F.routed) fun _ => ?_
  split
  · exact F.runLater_within _
  · exact F.onHandler_within (F.runNow_within _)

theorem useAll_within : ∀ uses : List Sink.Use, (Sink.useAll uses).Within R fun _ _ => True
  | [] => .answer F.toFraming _
  | use :: uses => .bind F.toFraming (F.use_within use) fun _ => useAll_within uses

theorem take_within (handoff : Handoff) : (Sink.take handoff).Within R fun _ _ => True := by
  have hkeep : (Sink.keep handoff).Within R fun _ _ => True := .change fun _ => F.routed
  refine .bind F.toFraming (.lift (.change fun _ => F.routed)) fun _ => ?_
  refine .bind F.toFraming (.look F.toFraming) fun _ => ?_
  split
  · exact .lift hkeep
  · exact .lift (F.runNow_within _)
  · exact .fail F.toFraming _
  · exact .fail F.toFraming _
  · rename_i uses answer _
    rcases answer with _ | error | payload
    · refine .bind F.toFraming (.lift hkeep) fun _ => ?_
      exact .bind F.toFraming (.lift (F.useAll_within uses)) fun _ => .answer F.toFraming _
    · exact .bind F.toFraming (.lift (F.useAll_within uses)) fun _ => .fail F.toFraming _
    · exact .bind F.toFraming (.lift (F.useAll_within uses)) fun _ =>
        .panic F.toFraming fun _ => trivial

theorem settleFailed_within (d : DeliveryId) (outcome : Outcome) :
    (Receiver.settleFailed d outcome).Within R fun _ _ => True := by
  refine .bind F.toFraming (F.disposition_within d outcome) fun _ => ?_
  exact .bind F.toFraming (F.settleOnHandler_within d) fun _ =>
    .change fun _ => F.departed nofun

theorem raise_within (fault : Option Fault) : (Sink.raise fault).Within R fun _ _ => True := by
  rcases fault with _ | k | f | f
  · exact .answer F.toFraming _
  · exact .panic F.toFraming fun _ => trivial
  · exact .fail F.toFraming _
  · exact .fail F.toFraming _

/-- Once the call is noted, delivering a handoff to routing keeps the relation. -/
theorem deliver_ends (e : Endpoint) (handoff : Handoff) :
    (Sink.deliver handoff).Ends e
      (fun _ e' => R { e with calls := e.calls ++ [.deliver handoff] } e')
      (fun _ e' => R { e with calls := e.calls ++ [.deliver handoff] } e')
      fun _ e' => R { e with calls := e.calls ++ [.deliver handoff] } e' := by
  refine Attempt.ends_bind.2 (Attempt.ends_lift.2 (Act.ends_modifyGet.2 ?_))
  refine (Attempt.Within.bind F.toFraming (F.raise_within _) (fun _ => ?_) _).imp (fun _ _ => id)
    (fun _ _ => id) fun _ _ => And.left
  refine .bind F.toFraming (F.take_within handoff) fun _ => ?_
  exact .bind F.toFraming (.look F.toFraming) fun _ => F.raise_within _

/-- A message is passed to routing, or it was not even counted. -/
theorem handOff_ends {e : Endpoint} {K : Endpoint → Prop}
    (hcount : (Tracker.increment .receiver).Ends e (fun _ e' => R e e') fun _ e' => K e')
    (message : Message) (d : DeliveryId) (transaction : Option TxnId) :
    (Receiver.handOff message d transaction).Ends e (fun _ e' => Passes R e message d e')
      (fun _ e' => Passes R e message d e') fun _ e' => Passes R e message d e' ∨ K e' := by
  refine Attempt.ends_bind.2 (Attempt.ends_lift.2 (hcount.imp (fun _ e₁ h₁ => ?_)
    fun _ _ => .inr))
  refine Attempt.ends_bind.2 (Attempt.ends_get.2 ?_)
  have hpasses {handoff : Handoff} {e₂ e' : Endpoint} (hm : handoff.message = message)
      (hd : handoff.delivery = d) (h₂ : R { e₁ with calls := e₁.calls ++ [.deliver handoff] } e₂)
      (h : R e₂ e') : Passes R e message d e' := ⟨handoff, e₁, hm, hd, h₁, F.trans h₂ h⟩
  refine Attempt.ends_bind.2 (Attempt.ends_lift.2 (Act.ends_contain.2 (Act.ends_run.2
    ((F.deliver_ends e₁ _).imp (fun _ e₂ h₂ => ?_) (fun error e₂ h₂ => ?_) fun k e₂ h₂ => ?_))))
  · exact hpasses rfl rfl h₂ (F.departed nofun)
  · refine Attempt.ends_bind.2 (Attempt.ends_lift.2 (Act.ends_modify.2 ?_))
    exact Attempt.ends_lift.2 ((F.settleFailed_within d _ _).imp
      (fun _ _ h₃ => hpasses rfl rfl h₂ (F.trans (F.told rfl) h₃))
      fun _ _ h₃ => .inl (hpasses rfl rfl h₂ (F.trans (F.told rfl) h₃.1)))
  · exact Attempt.ends_bind.2 (Attempt.ends_lift.2 ((F.settleFailed_within d _ _).imp
      (fun _ _ => hpasses rfl rfl h₂) fun _ _ h₃ => .inl (hpasses rfl rfl h₂ h₃.1)))

/-- What is done in an event in which the receiver neither handles a delivery nor is closed, and the
peer does nothing, keeps the relation. -/
theorem after {event : Event} (h : event.isAside) (e : Endpoint) :
    R e (e.after event) := by
  have hdone {α : Type} {act : Act Panic Endpoint α} (hact : act.Within R fun _ _ => True) :
      R e ((act >>= fun _ => pure (Except.ok ()) :
        Act Panic Endpoint (Except ReceiverError Unit)) e).2 :=
    (Act.Within.bind F.toFraming hact fun _ => .answer F.toFraming _).state e
  cases event with
  | begin | transfer | abort | setDrain | message | close | closeWithError => exact nomatch h
  | flow credits drain elsewhere =>
    have hflow := F.toTellFrame.onFlow_within (F.reviewed _) credits drain
    cases elsewhere
    · exact hdone (F.onHandler_within hflow)
    · exact hdone hflow
  | runPending => exact hdone F.runPending_within
  | settle use => exact hdone (F.use_within use)
  | submit => exact hdone (F.runLater_within _)
  | setMode mode => exact F.routed

end PassFrame

theorem RouteFrame.onAborted_within (F : RouteFrame R) (d : DeliveryId) :
    (Receiver.onAborted d).Within R fun _ _ => True := by
  have hend : Act.Within R (fun _ _ => True) (do
      count (·.depart .aborted)
      report (.deliveryAborted (← get).link.name d)) := by
    refine .bind F.toFraming (.change fun _ => F.counted rfl rfl) fun _ => ?_
    exact .bind F.toFraming (.look F.toFraming) fun _ => F.report_within rfl
  refine .bind F.toFraming (F.settle_within d) fun _ => ?_
  refine .bind F.toFraming (.look F.toFraming) fun _ => ?_
  dsimp only
  split
  · exact .bind F.toFraming (F.grant_within 1) fun _ => hend
  · exact hend

theorem handOff_within (F : PassFrame R)
    (handing : ∀ {e handoff}, R e { e with calls := e.calls ++ [.deliver handoff] })
    (message : Message) (d : DeliveryId) (transaction : Option TxnId) :
    (Receiver.handOff message d transaction).Within R fun _ _ => True := by
  have hpasses {e e' : Endpoint} (h : Passes R e message d e') : R e e' := by
    obtain ⟨handoff, e₁, -, -, h₁, h₂⟩ := h
    exact F.trans h₁ (F.trans handing h₂)
  intro e
  have hcount := F.increment_within .receiver e
  exact (F.handOff_ends (hcount.imp (fun _ _ => id) fun _ _ => And.left) message d transaction).imp
    (fun _ _ => hpasses) (fun _ _ => hpasses) fun _ _ h => ⟨h.elim hpasses id, trivial⟩

/-- Handling an event for the delivery at the head keeps every relation that reassembly, settling
and routing keep. -/
theorem process_within (F : RouteFrame R)
    (handing : ∀ {e handoff}, R e { e with calls := e.calls ++ [.deliver handoff] })
    (A : AssemblyFrame R fun _ _ => True)
    (asked : ∀ {e txn create}, R e
      { e with transactions := (e.transactions.lookup txn create).2 }) (d : DeliveryId) :
    (Receiver.process d).Within R fun _ _ => True := by
  refine .bind F.toFraming (.adapt (A.accept_within _ d)) fun r => ?_
  rcases r with _ | _ | message
  · exact .lift (F.onAborted_within d)
  · exact .answer F.toFraming _
  · exact .bind F.toFraming (.adapt (A.resolveTransaction_within asked d)) fun transaction =>
      handOff_within F.toPassFrame handing message d transaction

end ReceivingLink
