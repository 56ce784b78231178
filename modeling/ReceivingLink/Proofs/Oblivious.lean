import ReceivingLink.Proofs.Elsewhere

/-!
# What is told is not looked at

Notices are for whoever reads them. No action looks at what was told before: from two endpoints
that differ in nothing else it ends in the same way, does the same and tells the same.
`Act.Oblivious` says so of an action. It goes through sequences of steps, so each function has one
lemma, up to what happens to an endpoint and what is called of it.
-/

namespace ReceivingLink

/-- The endpoint with more told before. -/
def Endpoint.preceded (e : Endpoint) (earlier : List Notice) : Endpoint :=
  { e with notices := earlier ++ e.notices }

namespace Act

variable {α β : Type}

/-- What was told before makes no difference to the action. -/
def Oblivious (act : Act Panic Endpoint α) : Prop :=
  ∀ earlier e, act (e.preceded earlier) = ((act e).1, (act e).2.preceded earlier)

namespace Oblivious

theorem answer (a : α) : (pure a : Act Panic Endpoint α).Oblivious := fun _ _ => rfl

theorem breakOff (k : Panic) : (throw k : Act Panic Endpoint α).Oblivious := fun _ _ => rfl

theorem change {f : Endpoint → Endpoint}
    (h : ∀ earlier e, f (e.preceded earlier) = (f e).preceded earlier) :
    (modify f : Act Panic Endpoint Unit).Oblivious := fun earlier e =>
  congrArg (Prod.mk (Except.ok ())) (h earlier e)

theorem exchange {f : Endpoint → α × Endpoint}
    (h : ∀ earlier e, f (e.preceded earlier) = ((f e).1, (f e).2.preceded earlier)) :
    (modifyGet f : Act Panic Endpoint α).Oblivious := by
  intro earlier e
  show (Except.ok (f (e.preceded earlier)).1, (f (e.preceded earlier)).2) = _
  rw [h earlier e]
  rfl

theorem bind {x : Act Panic Endpoint β} {f : β → Act Panic Endpoint α} (hx : x.Oblivious)
    (hf : ∀ b, (f b).Oblivious) : (x >>= f).Oblivious := by
  intro earlier e
  have h := hx earlier e
  simp only [Bind.bind, ExceptT.bind, ExceptT.mk, StateT.bind] at h ⊢
  rw [h]
  rcases x e with ⟨_ | b, e₁⟩
  · rfl
  · exact hf b earlier e₁

/-- What follows a look at the endpoint must not depend on what was told. -/
theorem look {f : Endpoint → Act Panic Endpoint α}
    (h : ∀ earlier e, f (e.preceded earlier) = f e) (hf : ∀ e, (f e).Oblivious) :
    ((get : Act Panic Endpoint Endpoint) >>= f).Oblivious := by
  intro earlier e
  show f (e.preceded earlier) (e.preceded earlier) = _
  rw [h earlier e]
  exact hf e earlier e

theorem contain {x : Act Panic Endpoint α} (hx : x.Oblivious) : x.contain.Oblivious := by
  intro earlier e
  unfold Act.contain
  rw [hx earlier e]
  rfl

theorem bracket {x : Act Panic Endpoint α} {enter : Endpoint → Endpoint}
    {leave : Endpoint → Endpoint → Endpoint} (hx : x.Oblivious)
    (henter : ∀ earlier e, enter (e.preceded earlier) = (enter e).preceded earlier)
    (hleave : ∀ earlier e e', leave (e.preceded earlier) (e'.preceded earlier) =
      (leave e e').preceded earlier) : (x.bracket enter leave).Oblivious := by
  intro earlier e
  unfold Act.bracket
  rw [henter, hx earlier (enter e)]
  exact congrArg (Prod.mk _) (hleave earlier e _)

end Oblivious

end Act

namespace Attempt

variable {ε ε' α β : Type}

/-- What was told before makes no difference to the attempt. -/
def Oblivious (x : Attempt ε α) : Prop := Act.Oblivious (ExceptT.run x)

namespace Oblivious

theorem answer (a : α) : Attempt.Oblivious (pure a : Attempt ε α) := fun _ _ => rfl

theorem fail (f : ε) : Attempt.Oblivious (throw f : Attempt ε α) := fun _ _ => rfl

theorem panic (k : Panic) : Attempt.Oblivious (throwThe Panic k : Attempt ε α) := fun _ _ => rfl

theorem bind {x : Attempt ε β} {f : β → Attempt ε α} (hx : x.Oblivious)
    (hf : ∀ b, Attempt.Oblivious (f b)) : Attempt.Oblivious (x >>= f) := by
  refine Act.Oblivious.bind (x := ExceptT.run x) hx fun r => ?_
  rcases r with error | b
  · exact Act.Oblivious.answer _
  · exact hf b

theorem failThen {f : ε} {x : β → Attempt ε α} :
    Attempt.Oblivious ((throw f : Attempt ε β) >>= x) := fun _ _ => rfl

theorem lift {x : Act Panic Endpoint α} (hx : x.Oblivious) :
    Attempt.Oblivious (liftM x : Attempt ε α) :=
  Act.Oblivious.bind hx fun _ => Act.Oblivious.answer _

/-- What follows a look at the endpoint must not depend on what was told. -/
theorem look {f : Endpoint → Attempt ε α} (h : ∀ earlier e, f (e.preceded earlier) = f e)
    (hf : ∀ e, Attempt.Oblivious (f e)) :
    Attempt.Oblivious ((get : Attempt ε Endpoint) >>= f) :=
  Act.Oblivious.look (f := fun e => ExceptT.run (f e)) h hf

theorem adapt {x : Attempt ε' α} {g : ε' → ε} (hx : x.Oblivious) :
    Attempt.Oblivious (x.adapt g) :=
  Act.Oblivious.bind (x := ExceptT.run x) hx fun _ => Act.Oblivious.answer _

theorem forget {x : Attempt ε α} (hx : x.Oblivious) : Attempt.Oblivious (discard x) :=
  bind hx fun _ => answer ()

theorem ofExcept (r : Except ε α) : Attempt.Oblivious (liftExcept r : Attempt ε α) := by
  cases r with
  | error f => exact fail f
  | ok a => exact answer a

end Oblivious

end Attempt

section Calls

theorem report_oblivious (notice : Notice) : (report notice).Oblivious :=
  .change fun earlier e => by simp [Endpoint.preceded]

theorem count_oblivious (f : Counters → Counters) : (count f).Oblivious := .change fun _ _ => rfl

theorem onLink_oblivious (f : Link → Link) : (onLink f).Oblivious := .change fun _ _ => rfl

theorem onStorage_oblivious (f : Storage → Storage) : (onStorage f).Oblivious :=
  .change fun _ _ => rfl

theorem note_oblivious (call : Call) : (note call).Oblivious := .exchange fun _ _ => rfl

theorem invoke_oblivious (call : Call) : (invoke call).Oblivious := by
  refine .bind (note_oblivious call) fun fault => ?_
  split
  · exact .breakOff _
  · exact .answer ()

theorem attempt_oblivious (call : Call) : (attempt call).Oblivious := by
  refine .bind (.lift (note_oblivious call)) fun fault => ?_
  split
  · exact .panic _
  · exact .fail _
  · exact .fail _
  · exact .answer ()

theorem grant_oblivious (credits : UInt32) : (Link.grant credits).Oblivious :=
  .bind (invoke_oblivious _) fun _ => onLink_oblivious _

theorem moveOn_oblivious : Link.moveOn.Oblivious := by
  refine .bind (invoke_oblivious _) fun _ => .look (fun _ _ => rfl) fun e => ?_
  exact .bind (onLink_oblivious _) fun _ => .answer _

theorem recv_oblivious : Link.recv.Oblivious := by
  refine .look (fun _ _ => rfl) fun e => .bind (invoke_oblivious _) fun _ => ?_
  refine .look (fun _ _ => rfl) fun e => ?_
  exact .bind (onLink_oblivious _) fun _ => .answer _

theorem setCondition_oblivious (condition : Condition) :
    (Link.setCondition condition).Oblivious :=
  .bind (invoke_oblivious _) fun _ => onLink_oblivious _

theorem disposition_oblivious (d : DeliveryId) (outcome : Outcome) :
    (Delivery.disposition d outcome).Oblivious :=
  .bind (invoke_oblivious _) fun _ => onLink_oblivious _

theorem deliverySettle_oblivious (d : DeliveryId) : (Delivery.settle d).Oblivious :=
  .bind (invoke_oblivious _) fun _ => onLink_oblivious _

theorem removeReceiver_oblivious : removeReceiver.Oblivious := by
  refine .look (fun _ _ => rfl) fun e => .bind (invoke_oblivious _) fun _ => ?_
  exact .change fun _ _ => rfl

theorem generateId_oblivious : Storage.generateId.Oblivious := by
  refine .bind (attempt_oblivious _) fun _ => .look (fun _ _ => rfl) fun e => ?_
  dsimp only
  split
  · exact .failThen
  · exact .bind (.lift (onStorage_oblivious _)) fun _ => .answer _

theorem holdTable_oblivious : Storage.holdTable.Oblivious := by
  refine .look (fun _ _ => rfl) fun e => ?_
  split
  · exact .breakOff _
  · exact .answer ()

theorem openSpool_oblivious (id : LargeMessageId) : (Storage.openSpool id).Oblivious := by
  refine .bind (attempt_oblivious _) fun _ => .look (fun _ _ => rfl) fun e => ?_
  dsimp only
  split
  · exact .failThen
  · refine .bind (.lift holdTable_oblivious) fun _ => ?_
    exact .bind (.lift (onStorage_oblivious _)) fun _ => .answer _

theorem registerLarge_oblivious (id : LargeMessageId) (a : Accumulator) :
    (Storage.registerLarge id a).Oblivious :=
  .bind (attempt_oblivious _) fun _ => .lift (onStorage_oblivious _)

theorem hold_oblivious (spool : Spool) : spool.hold.Oblivious := by
  refine .look (fun _ _ => rfl) fun e => ?_
  dsimp only
  split
  · exact .bind (.breakOff _) fun _ => .answer _
  · exact .answer _

theorem spoolAppend_oblivious (spool : Spool) (bytes : Bytes) :
    (spool.append bytes).Oblivious := by
  have hpanics {message : String} {rest : Unit → Attempt Failure Unit} :
      Attempt.Oblivious ((liftM (panicWith message : Act Panic Endpoint Unit) :
        Attempt Failure Unit) >>= rest) := fun _ _ => rfl
  refine .bind (attempt_oblivious _) fun _ => .look (fun _ _ => rfl) fun e => ?_
  dsimp only
  split
  · exact hpanics
  split
  · exact .failThen
  refine .bind (.lift (hold_oblivious spool)) fun record => ?_
  split
  · exact .bind (.lift (onStorage_oblivious _)) fun _ => hpanics
  · exact .lift (onStorage_oblivious _)

theorem spoolFinish_oblivious (spool : Spool) : spool.finish.Oblivious := by
  refine .bind (attempt_oblivious _) fun _ => .look (fun _ _ => rfl) fun e => ?_
  dsimp only
  split
  · exact .failThen
  · exact .bind (.forget (.lift (hold_oblivious spool))) fun _ => .lift (onStorage_oblivious _)

theorem spoolDelete_oblivious (spool : Spool) : spool.delete.Oblivious := by
  refine .bind (attempt_oblivious _) fun _ => .look (fun _ _ => rfl) fun e => ?_
  dsimp only
  split
  · exact .failThen
  · exact .bind (.forget (.lift (hold_oblivious spool))) fun _ => .lift (onStorage_oblivious _)

theorem create_oblivious (d : DeliveryId) (payload : Bytes) :
    (Message.create d payload).Oblivious :=
  .bind (attempt_oblivious _) fun _ => .look (fun _ _ => rfl) fun _ => .answer _

theorem find_oblivious (txn : TxnId) (create : Bool) :
    (Transactions.find txn create).Oblivious := by
  refine .bind (attempt_oblivious _) fun _ => .look (fun _ _ => rfl) fun e => ?_
  refine .bind (.lift (.change fun _ _ => rfl)) fun _ => ?_
  split
  · exact .answer _
  · exact .fail _

end Calls

section Assembling

theorem drop_oblivious (a : Accumulator) : a.drop.Oblivious := by
  refine .bind (spoolDelete_oblivious a.spool) fun r => ?_
  split
  · exact report_oblivious _
  · exact report_oblivious _

theorem append_oblivious (a : Accumulator) (bytes : Bytes) : (a.append bytes).Oblivious := by
  unfold Accumulator.append
  split
  · exact .answer _
  split
  · exact .bind (report_oblivious _) fun _ => .answer _
  · refine .bind (spoolAppend_oblivious a.spool bytes) fun r => ?_
    split
    · exact .answer _
    · exact .answer _

theorem receive_oblivious (a : Accumulator) : a.receive.Oblivious :=
  .bind recv_oblivious fun bytes => append_oblivious a bytes

theorem finish_oblivious (a : Accumulator) : a.finish.Oblivious := by
  unfold Accumulator.finish
  split
  · exact .failThen
  · exact .bind (.adapt (spoolFinish_oblivious _)) fun _ => .lift (report_oblivious _)

theorem start_oblivious (d : DeliveryId) : (Accumulator.start d).Oblivious := by
  refine .bind (.adapt generateId_oblivious) fun id => ?_
  refine .bind (.adapt (openSpool_oblivious id)) fun spool => ?_
  refine .look (fun _ _ => rfl) fun e => .bind (.lift recv_oblivious) fun initial => ?_
  refine .bind (.lift (registerLarge_oblivious id _)) fun r => ?_
  rcases r with _ | _
  · exact .bind (.lift (drop_oblivious _)) fun _ => .failThen
  refine .bind (.lift (append_oblivious _ _)) fun (written, r) => ?_
  rcases r with _ | _
  · exact .bind (.lift (drop_oblivious _)) fun _ => .fail _
  · exact .bind (.lift (report_oblivious _)) fun _ => .answer _

theorem current_oblivious (o : Owner) : (Reassembler.current o).Oblivious :=
  .look (fun _ _ => rfl) fun _ => .answer _

theorem setCurrent_oblivious (o : Owner) (slot : Option Accumulator) :
    (Reassembler.setCurrent o slot).Oblivious := .change fun _ _ => rfl

theorem discard_oblivious (o : Owner) : (Reassembler.discard o).Oblivious := by
  refine .bind (current_oblivious o) fun slot => ?_
  rcases slot with _ | a
  · exact .answer _
  · refine .bind (setCurrent_oblivious o none) fun _ => ?_
    exact .bind (drop_oblivious a) fun _ => .answer _

theorem startIfLarge_oblivious (o : Owner) (d : DeliveryId) :
    (Reassembler.startIfLarge o d).Oblivious := by
  refine .look (fun _ _ => rfl) fun e => ?_
  split
  · exact .answer ()
  split
  · exact .bind (start_oblivious d) fun _ => .lift (setCurrent_oblivious o _)
  · exact .answer ()

theorem acceptPartial_oblivious (o : Owner) (d : DeliveryId) :
    (Reassembler.acceptPartial o d).Oblivious := by
  refine .look (fun _ _ => rfl) fun e => ?_
  split
  · refine .bind (.lift (current_oblivious o)) fun slot => ?_
    rcases slot with _ | a
    · exact startIfLarge_oblivious o d
    · refine .bind (.lift (receive_oblivious a)) fun (written, r) => ?_
      exact .bind (.lift (setCurrent_oblivious o _)) fun _ => .ofExcept r
  · exact .answer ()

theorem release_oblivious (o : Owner) (a : Accumulator) (sealed : Except ReassemblyError Unit) :
    (Reassembler.release o a sealed).Oblivious := by
  refine .bind (.lift moveOn_oblivious) fun _ => ?_
  refine .bind (.lift (setCurrent_oblivious o none)) fun _ => ?_
  rcases sealed with _ | _
  · exact .bind (.lift (drop_oblivious a)) fun _ => .fail _
  · exact .answer _

theorem sealLarge_oblivious (o : Owner) (a : Accumulator) :
    (Reassembler.sealLarge o a).Oblivious := by
  refine .bind (.lift (receive_oblivious a)) fun (written, r) => ?_
  refine .bind (.lift (setCurrent_oblivious o _)) fun _ => ?_
  rcases r with _ | _
  · exact release_oblivious o written _
  · exact .bind (.lift (finish_oblivious written)) fun r => release_oblivious o written r

theorem complete_oblivious (o : Owner) (d : DeliveryId) : (Reassembler.complete o d).Oblivious := by
  refine .bind (.lift (current_oblivious o)) fun slot => ?_
  rcases slot with _ | a
  · refine .bind (.lift recv_oblivious) fun payload => ?_
    refine .bind (.lift moveOn_oblivious) fun _ => ?_
    exact .bind (.adapt (create_oblivious d payload)) fun _ => .answer _
  · refine .bind (sealLarge_oblivious o a) fun large => ?_
    exact .bind (.lift (count_oblivious _)) fun _ => .answer _

theorem acceptComplete_oblivious (o : Owner) (d : DeliveryId) :
    (Reassembler.acceptComplete o d).Oblivious := by
  refine .bind (.lift (current_oblivious o)) fun slot => .look (fun _ _ => rfl) fun e => ?_
  dsimp only
  split
  · exact .bind (startIfLarge_oblivious o d) fun _ => complete_oblivious o d
  · exact complete_oblivious o d

theorem accept_oblivious (o : Owner) (d : DeliveryId) : (Reassembler.accept o d).Oblivious := by
  refine .look (fun _ _ => rfl) fun e => ?_
  dsimp only
  split
  · refine .bind (.lift (discard_oblivious o)) fun _ => ?_
    exact .bind (.lift moveOn_oblivious) fun _ => .answer _
  split
  · exact .bind (acceptPartial_oblivious o d) fun _ => .answer _
  · exact .bind (acceptComplete_oblivious o d) fun _ => .answer _

end Assembling

section Settling

theorem requireOnHandler_oblivious : requireOnHandler.Oblivious := by
  refine .look (fun _ _ => rfl) fun e => ?_
  split
  · exact .breakOff _
  · exact .answer ()

theorem onHandler_oblivious {α : Type} {act : Act Panic Endpoint α} (h : act.Oblivious) :
    (onHandler act).Oblivious := .bracket h (fun _ _ => rfl) fun _ _ _ => rfl

theorem runLater_oblivious (task : Task) : (runLater task).Oblivious := by
  refine .look (fun _ _ => rfl) fun e => .bind (.change fun _ _ => rfl) fun _ => ?_
  split
  · exact report_oblivious _
  · exact .answer ()

theorem flushNow_oblivious : flushNow.Oblivious :=
  .bind requireOnHandler_oblivious fun _ => .bind (.change fun _ _ => rfl) fun _ =>
    invoke_oblivious _

theorem increment_oblivious (o : Owner) : (Tracker.increment o).Oblivious := by
  have hcount : Act.Oblivious (do
      requireOnHandler
      modify fun e : Endpoint => { e with pending := e.pending.set (e.pending.get o + 1) o }) :=
    .bind requireOnHandler_oblivious fun _ => .change fun _ _ => rfl
  refine .look (fun _ _ => rfl) fun e => ?_
  dsimp only
  split
  · exact .bind (.breakOff _) fun _ => hcount
  · exact hcount

theorem decrement_oblivious (o : Owner) : (Tracker.decrement o).Oblivious := by
  refine .bind requireOnHandler_oblivious fun _ => .bind (.change fun _ _ => rfl) fun _ => ?_
  refine .look (fun _ _ => rfl) fun e => ?_
  split
  · exact .breakOff _
  · exact .answer ()

theorem replenish_oblivious (owner : Option Owner) : (replenish owner).Oblivious := by
  refine .look (fun _ _ => rfl) fun e => ?_
  dsimp only
  split
  · exact runLater_oblivious _
  split
  · exact .answer ()
  refine .bind (grant_oblivious _) fun _ => .bind flushNow_oblivious fun _ => ?_
  exact .bind (count_oblivious _) fun _ => report_oblivious _

theorem settleOnHandler_oblivious (d : DeliveryId) : (settleOnHandler d).Oblivious := by
  refine .bind requireOnHandler_oblivious fun _ => .bind (decrement_oblivious _) fun _ => ?_
  exact .bind (deliverySettle_oblivious d) fun _ => replenish_oblivious _

theorem perform_oblivious (task : Task) : task.perform.Oblivious := by
  rcases task with owner | ⟨d, _ | outcome⟩
  · exact replenish_oblivious owner
  · exact settleOnHandler_oblivious d
  · exact .bind (disposition_oblivious d outcome) fun _ => settleOnHandler_oblivious d

theorem runNow_oblivious (task : Task) : (runNow task).Oblivious := by
  refine .look (fun _ _ => rfl) fun e => ?_
  split
  · exact perform_oblivious task
  · exact runLater_oblivious task

theorem drain_oblivious : ∀ limit : Nat, (drain limit).Oblivious
  | 0 => .answer _
  | limit + 1 => by
    have htake : takeTask.Oblivious := .exchange fun earlier e => by
      have hmailbox : (e.preceded earlier).mailbox = e.mailbox := rfl
      simp only [hmailbox]
      cases e.mailbox.take? <;> rfl
    refine .bind htake fun task => ?_
    rcases task with _ | task
    · exact .answer _
    · refine .bind (perform_oblivious task) fun _ => ?_
      exact .bind (drain_oblivious limit) fun _ => .answer _

theorem runPending_oblivious : runPending.Oblivious :=
  .look (fun _ _ => rfl) fun _ => onHandler_oblivious (drain_oblivious _)

theorem use_oblivious (use : Sink.Use) : use.perform.Oblivious := by
  refine .look (fun _ _ => rfl) fun e => ?_
  split
  · exact .answer ()
  refine .bind (.change fun _ _ => rfl) fun _ => ?_
  split
  · exact runLater_oblivious _
  · exact onHandler_oblivious (runNow_oblivious _)

theorem useAll_oblivious : ∀ uses : List Sink.Use, (Sink.useAll uses).Oblivious
  | [] => .answer ()
  | use :: uses => .bind (use_oblivious use) fun _ => useAll_oblivious uses

theorem take_oblivious (handoff : Handoff) : (Sink.take handoff).Oblivious := by
  have hkeep : (Sink.keep handoff).Oblivious := .change fun _ _ => rfl
  refine .bind (.lift (.change fun _ _ => rfl)) fun _ => .look (fun _ _ => rfl) fun e => ?_
  split
  · exact .lift hkeep
  · exact .lift (runNow_oblivious _)
  · exact .fail _
  · exact .fail _
  · rename_i uses answer _
    rcases answer with _ | error | payload
    · refine .bind (.lift hkeep) fun _ => ?_
      exact .bind (.lift (useAll_oblivious uses)) fun _ => .answer ()
    · exact .bind (.lift (useAll_oblivious uses)) fun _ => .fail _
    · exact .bind (.lift (useAll_oblivious uses)) fun _ => .panic _

theorem raise_oblivious (fault : Option Fault) : (Sink.raise fault).Oblivious := by
  rcases fault with _ | k | cause | cause
  · exact .answer ()
  · exact .panic _
  · exact .fail _
  · exact .fail _

theorem deliver_oblivious (handoff : Handoff) : (Sink.deliver handoff).Oblivious := by
  refine .bind (.lift (note_oblivious _)) fun fault => .bind (raise_oblivious fault) fun _ => ?_
  refine .bind (take_oblivious handoff) fun _ => .look (fun _ _ => rfl) fun e => ?_
  exact raise_oblivious _

end Settling

section Receiving

theorem settleFailed_oblivious (d : DeliveryId) (outcome : Outcome) :
    (Receiver.settleFailed d outcome).Oblivious := by
  refine .bind (disposition_oblivious d outcome) fun _ => ?_
  exact .bind (settleOnHandler_oblivious d) fun _ => count_oblivious _

theorem handOff_oblivious (message : Message) (d : DeliveryId) (transaction : Option TxnId) :
    (Receiver.handOff message d transaction).Oblivious := by
  refine .bind (.lift (increment_oblivious _)) fun _ => .look (fun _ _ => rfl) fun e => ?_
  refine .bind (.lift (.contain (deliver_oblivious _))) fun r => ?_
  rcases r with payload | error | _
  · exact .bind (.lift (settleFailed_oblivious d _)) fun _ => .fail _
  · exact .bind (.lift (report_oblivious _)) fun _ => .lift (settleFailed_oblivious d _)
  · exact .lift (count_oblivious _)

theorem resolveTransaction_oblivious (d : DeliveryId) :
    (Receiver.resolveTransaction d).Oblivious := by
  refine .look (fun _ _ => rfl) fun e => ?_
  split
  · exact .answer none
  · exact .adapt (find_oblivious _ _)

theorem onAborted_oblivious (d : DeliveryId) : (Receiver.onAborted d).Oblivious := by
  have hend : Act.Oblivious (do
      count (·.depart .aborted)
      report (.deliveryAborted (← get).link.name d)) :=
    .bind (count_oblivious _) fun _ => .look (fun _ _ => rfl) fun _ => report_oblivious _
  refine .bind (deliverySettle_oblivious d) fun _ => .look (fun _ _ => rfl) fun e => ?_
  dsimp only
  split
  · exact .bind (grant_oblivious 1) fun _ => hend
  · exact hend

theorem process_oblivious (d : DeliveryId) : (Receiver.process d).Oblivious := by
  refine .bind (.adapt (accept_oblivious _ d)) fun r => ?_
  rcases r with _ | _ | message
  · exact .lift (onAborted_oblivious d)
  · exact .answer ()
  · refine .bind (.adapt (resolveTransaction_oblivious d)) fun transaction => ?_
    exact handOff_oblivious message d transaction

theorem onMessage_oblivious (d : DeliveryId) : (Receiver.onMessage d).Oblivious := by
  refine .bind requireOnHandler_oblivious fun _ => .look (fun _ _ => rfl) fun e => ?_
  split
  · exact .bind (report_oblivious _) fun _ => .answer _
  split
  · exact .bind (report_oblivious _) fun _ => .answer _
  refine .bind (.contain (process_oblivious d)) fun r => ?_
  dsimp only
  split
  · exact .answer _
  · refine .bind (count_oblivious _) fun _ => ?_
    exact .bind (report_oblivious _) fun _ => .answer _

theorem onFlow_oblivious (credits : UInt32) (drain : Bool) :
    (Receiver.onFlow credits drain).Oblivious := by
  refine .look (fun _ _ => rfl) fun e => ?_
  exact .bind (report_oblivious _) fun _ => replenish_oblivious _

theorem clearLarge_oblivious : Receiver.clearLarge.Oblivious := by
  refine .bind (.contain (discard_oblivious .receiver)) fun r => ?_
  rcases r with _ | _
  · exact .look (fun _ _ => rfl) fun _ => report_oblivious _
  · exact .answer ()

theorem close_oblivious (remoteInitiated : Bool) : (Receiver.close remoteInitiated).Oblivious := by
  refine .bind requireOnHandler_oblivious fun _ => .look (fun _ _ => rfl) fun e => ?_
  split
  · exact .answer ()
  refine .bind (.change fun _ _ => rfl) fun _ => .bind removeReceiver_oblivious fun _ => ?_
  refine .bind clearLarge_oblivious fun _ => .bind (.change fun _ _ => rfl) fun _ => ?_
  exact .look (fun _ _ => rfl) fun _ => report_oblivious _

theorem closeWithError_oblivious (condition : Condition) :
    (Receiver.closeWithError condition).Oblivious :=
  .bind (setCondition_oblivious condition) fun _ => close_oblivious false

theorem done_oblivious {α : Type} {act : Act Panic Endpoint α} (h : act.Oblivious) :
    Act.Oblivious (do
      let _ ← act
      return .ok () : Act Panic Endpoint (Except ReceiverError Unit)) :=
  .bind h fun _ => .answer _

/-- What happens to an endpoint takes no notice of what was told before. -/
theorem event_oblivious (event : Event) : event.perform.Oblivious := by
  cases event with
  | begin format remote => exact done_oblivious (onLink_oblivious _)
  | transfer bytes more => exact done_oblivious (onLink_oblivious _)
  | abort => exact done_oblivious (onLink_oblivious _)
  | setDrain drain => exact done_oblivious (onLink_oblivious _)
  | message d => exact onHandler_oblivious (onMessage_oblivious d)
  | flow credits drain elsewhere =>
    cases elsewhere with
    | false => exact done_oblivious (onHandler_oblivious (onFlow_oblivious credits drain))
    | true => exact done_oblivious (onFlow_oblivious credits drain)
  | close remoteInitiated =>
    exact done_oblivious (onHandler_oblivious (close_oblivious remoteInitiated))
  | closeWithError condition =>
    exact done_oblivious (onHandler_oblivious (closeWithError_oblivious condition))
  | runPending => exact done_oblivious runPending_oblivious
  | settle use => exact done_oblivious (use_oblivious use)
  | submit => exact done_oblivious (runLater_oblivious _)
  | setMode mode => exact done_oblivious (.change fun _ _ => rfl)

/-- What is called of an endpoint takes no notice of what was told before. -/
theorem operation_oblivious (op : Operation) : op.perform.Oblivious := by
  cases op with
  | message d => exact onMessage_oblivious d
  | close remoteInitiated => exact done_oblivious (close_oblivious remoteInitiated)
  | closeWithError condition => exact done_oblivious (closeWithError_oblivious condition)
  | settle d => exact done_oblivious (settleOnHandler_oblivious d)
  | increment counter => exact done_oblivious (increment_oblivious counter)
  | decrement counter => exact done_oblivious (decrement_oblivious counter)
  | flush => exact done_oblivious flushNow_oblivious
  | flow credits drain => exact done_oblivious (onFlow_oblivious credits drain)
  | review owner => exact done_oblivious (replenish_oblivious owner)
  | submit owner => exact done_oblivious (runLater_oblivious _)
  | settleByHandle d outcome => exact done_oblivious (runNow_oblivious _)

end Receiving

end ReceivingLink
