import ReceivingLink.Proofs.AtHand

/-!
# What calls report

What each call reports, a failure or none, is laid down by its number before the call is made:
`Endpoint.reports`. Of a list of calls, each made only if those before it succeed, that decides how
many are made, which one fails and what storage does. `Made` says that calls were made from an
endpoint and what they have left; each call to a collaborator adds itself, as long as it does not
panic.
-/

namespace ReceivingLink

/-- The failure that a call reports, if it reports one, by the number of calls made before. -/
abbrev Reports := Nat → Call → Option Failure

/-- The call can report a failure. Those that take bytes from the link and move it on cannot. -/
def Call.canFail : Call → Bool
  | .linkRecv _ | .linkAdvance => false
  | _ => true

/-- Does what a call asks of storage. -/
def Storage.perform (s : Storage) : Call → Storage
  | .generateId => s.issue
  | .openSpool id => s.opened id
  | .register id a => s.register id a.format
  | .spoolAppend spool bytes => s.append spool bytes
  | .spoolFinish spool => s.finish spool
  | .spoolDelete spool => s.delete spool
  | _ => s

namespace Reports

variable (r : Reports)

/-- The calls of a list that are made, when each is made only if those before it succeed. -/
def made : Nat → List Call → List Call
  | _, [] => []
  | n, call :: rest => call :: if (r n call).isSome then [] else made (n + 1) rest

/-- The first of these calls that fails, with what it reports. -/
def broken? : Nat → List Call → Option (Call × Failure)
  | _, [] => none
  | n, call :: rest =>
    match r n call with
    | some cause => some (call, cause)
    | none => broken? (n + 1) rest

/-- What calls make of storage. A call that fails does nothing. -/
def replay : Nat → List Call → Storage → Storage
  | _, [], s => s
  | n, call :: rest, s => replay (n + 1) rest (if (r n call).isSome then s else s.perform call)

end Reports

namespace Endpoint

variable (e : Endpoint)

/-- The failure that a collaborator has to report of its own. -/
def ownFailure? : Call → Option Failure
  | .generateId =>
    if e.storage.hasSpools && e.storage.faults.generateId then
      some { text := "id sequence exhausted" }
    else none
  | .openSpool id =>
    if e.storage.hasSpools then none
    else some { text := s!"non-persistent storage cannot spool large message {id.text}" }
  | .spoolAppend .. => if e.storage.faults.append then some { text := "disk full" } else none
  | .spoolFinish _ => if e.storage.faults.finish then some { text := "fsync failed" } else none
  | .spoolDelete _ => if e.storage.faults.delete then some { text := "permission denied" } else none
  | .lookup .. =>
    if e.transactions.failing then some { text := "resource manager unavailable" } else none
  | _ => none

/-- What the calls to come report: what is planned, or else what their collaborators have to. -/
def reports : Reports := fun n call =>
  if call.canFail then
    match e.plan n call.point with
    | some (.fails cause) | some (.failsForNow cause) => some cause
    | some (.panics _) => none
    | none => e.ownFailure? call
  else none

/-- None of the calls that are still to come on the way to routing panics. -/
structure Answering : Prop where
  plan : ∀ n, ∀ point ∈ messagePoints, ∀ k, e.calls.length ≤ n → e.plan n point ≠ some (.panics k)
  appends : e.storage.faults.appendPanics = false

/-- Storage does not panic of itself either: its table can be used, and the spool of the large
message that is coming in can be written to. -/
structure Responsive (o : Owner) : Prop extends e.Answering where
  table : e.storage.poisoned = false
  sound : ∀ a, (e.reassembler.get o).slot = some a → (e.storage.record a.spool).poisoned = false
  unfinished : ∀ a, (e.reassembler.get o).slot = some a →
    (e.storage.record a.spool).finished = false

end Endpoint

/-- From `e` calls were made, which have left the link and the slot of `o` as they are given.
Storage has done what they asked of it. -/
structure Made (o : Owner) (e : Endpoint) (made : List Call) (link : Link)
    (slot : Option Accumulator) (e' : Endpoint) : Prop extends Continued e e' where
  calls : e'.calls = e.calls ++ made
  storage : e'.storage = e.reports.replay e.calls.length made e.storage
  link : e'.link = link
  slot : (e'.reassembler.get o).slot = slot

namespace Reports

variable {r : Reports} {n : Nat} {call : Call} {rest calls : List Call} {cause : Failure}

theorem made_of_none (h : r n call = none) :
    r.made n (call :: rest) = call :: r.made (n + 1) rest := by
  simp [made, h]

theorem made_of_some (h : r n call = some cause) : r.made n (call :: rest) = [call] := by
  simp [made, h]

theorem broken?_of_none (h : r n call = none) :
    r.broken? n (call :: rest) = r.broken? (n + 1) rest := by
  simp [broken?, h]

theorem broken?_of_some (h : r n call = some cause) :
    r.broken? n (call :: rest) = some (call, cause) := by
  simp [broken?, h]

/-- Behind calls none of which fails the next are made. -/
theorem made_append_of_none : ∀ {n : Nat} {calls : List Call} (rest : List Call),
    r.broken? n calls = none → r.made n (calls ++ rest) = calls ++ r.made (n + calls.length) rest
  | _, [], _, _ => rfl
  | n, call :: calls, rest, h => by
    rcases hr : r n call with _ | cause
    · rw [broken?_of_none hr] at h
      rw [List.cons_append, made_of_none hr, made_append_of_none rest h, List.length_cons,
        Nat.add_assoc, Nat.add_comm 1]
      rfl
    · rw [broken?_of_some hr] at h
      cases h

/-- Behind one that fails no more are made. -/
theorem made_append_of_some : ∀ {n : Nat} {calls : List Call} (rest : List Call),
    (r.broken? n calls).isSome → r.made n (calls ++ rest) = r.made n calls
  | _, [], _, h => nomatch h
  | n, call :: calls, rest, h => by
    rcases hr : r n call with _ | cause
    · rw [broken?_of_none hr] at h
      rw [List.cons_append, made_of_none hr, made_of_none hr, made_append_of_some rest h]
    · rw [List.cons_append, made_of_some hr, made_of_some hr]

theorem broken?_append_of_none : ∀ {n : Nat} {calls : List Call} (rest : List Call),
    r.broken? n calls = none → r.broken? n (calls ++ rest) = r.broken? (n + calls.length) rest
  | _, [], _, _ => rfl
  | n, call :: calls, rest, h => by
    rcases hr : r n call with _ | cause
    · rw [broken?_of_none hr] at h
      rw [List.cons_append, broken?_of_none hr, broken?_append_of_none rest h, List.length_cons,
        Nat.add_assoc, Nat.add_comm 1]
    · rw [broken?_of_some hr] at h
      cases h

theorem broken?_append_of_some : ∀ {n : Nat} {calls : List Call} (rest : List Call),
    r.broken? n calls = some (call, cause) → r.broken? n (calls ++ rest) = some (call, cause)
  | n, first :: calls, rest, h => by
    rcases hr : r n first with _ | cause'
    · rw [broken?_of_none hr] at h
      rw [List.cons_append, broken?_of_none hr, broken?_append_of_some rest h]
    · rw [broken?_of_some hr] at h
      rw [List.cons_append, broken?_of_some hr, h]

/-- No call fails of a list if none of them does, whatever its number. -/
theorem broken?_eq_none : ∀ {calls : List Call} {n : Nat},
    (∀ call ∈ calls, ∀ m, n ≤ m → r m call = none) → r.broken? n calls = none
  | [], _, _ => rfl
  | call :: calls, n, h => by
    rw [broken?_of_none (h call List.mem_cons_self n (Nat.le_refl n))]
    exact broken?_eq_none fun c hc m hm => h c (List.mem_cons_of_mem _ hc) m (Nat.le_of_succ_le hm)

theorem mem_of_made : ∀ {n : Nat} {calls : List Call} {call : Call},
    call ∈ r.made n calls → call ∈ calls
  | n, first :: rest, call, h => by
    rcases hr : r n first with _ | cause
    · rw [made_of_none hr] at h
      exact (List.mem_cons.1 h).elim (fun h => h ▸ List.mem_cons_self) fun h =>
        List.mem_cons_of_mem _ (mem_of_made h)
    · rw [made_of_some hr] at h
      exact List.mem_singleton.1 h ▸ List.mem_cons_self

theorem mem_of_broken : ∀ {n : Nat} {calls : List Call},
    r.broken? n calls = some (call, cause) → call ∈ calls
  | n, first :: rest, h => by
    rcases hr : r n first with _ | cause'
    · rw [broken?_of_none hr] at h
      exact List.mem_cons_of_mem _ (mem_of_broken h)
    · rw [broken?_of_some hr] at h
      cases h
      exact List.mem_cons_self

theorem replay_append (r : Reports) (n : Nat) (calls rest : List Call) (s : Storage) :
    r.replay n (calls ++ rest) s = r.replay (n + calls.length) rest (r.replay n calls s) := by
  induction calls generalizing n s with
  | nil => rfl
  | cons call calls ih =>
    rw [List.cons_append, replay, ih, replay, List.length_cons]
    congr 1
    omega

/-- Calls none of which fails do what they ask. -/
theorem replay_of_none : ∀ {calls : List Call} {n : Nat} (s : Storage), r.broken? n calls = none →
    r.replay n calls s = calls.foldl Storage.perform s
  | [], _, _, _ => rfl
  | call :: rest, n, s, h => by
    rcases hr : r n call with _ | cause
    · rw [broken?_of_none hr] at h
      rw [replay, hr, replay_of_none _ h]
      rfl
    · rw [broken?_of_some hr] at h
      cases h

end Reports

namespace Storage

variable {s : Storage}

theorem perform_sameKind (s : Storage) (call : Call) : s.SameKind (s.perform call) := by
  cases call with
  | register id a => exact (s.sameSpools_register id a.format).toSameKind
  | _ => exact ⟨rfl, rfl, rfl⟩

theorem perform_table (s : Storage) (call : Call) : (s.perform call).poisoned = s.poisoned := by
  cases call with
  | register id a => exact s.register_poisoned id a.format
  | _ => rfl

/-- No call leaves a record poisoned that was not. -/
theorem perform_sound {spool : Spool} (h : (s.record spool).poisoned = false) (call : Call) :
    ((s.perform call).record spool).poisoned = false := by
  cases call with
  | openSpool id =>
    rcases s.record_opened_or id spool with hr | ⟨-, hr⟩ <;> rw [perform, hr]
    exact h
  | spoolAppend | spoolFinish | spoolDelete =>
    exact (s.record_change (g := SpoolRecord.poisoned) (fun _ => by rfl) spool).trans h
  | register id a =>
    rw [perform, record, register_records]
    exact h
  | _ => exact h

theorem replay_table (r : Reports) : ∀ (calls : List Call) (n : Nat) (s : Storage),
    (r.replay n calls s).poisoned = s.poisoned
  | [], _, _ => rfl
  | call :: calls, n, s => by
    refine (replay_table r calls ..).trans ?_
    split
    · rfl
    · exact s.perform_table call

theorem replay_sound (r : Reports) {spool : Spool} : ∀ (calls : List Call) {n : Nat} {s : Storage},
    (s.record spool).poisoned = false → ((r.replay n calls s).record spool).poisoned = false
  | [], _, _, h => h
  | call :: calls, _, _, h => by
    refine replay_sound r calls ?_
    split
    · exact h
    · exact perform_sound h call

theorem Clean.replay (r : Reports) (calls : List Call) {n : Nat} (h : s.Clean) :
    (r.replay n calls s).Clean :=
  ⟨(replay_table r calls n s).trans h.table, fun spool => replay_sound r calls (h.records spool)⟩

end Storage

section Steps

variable {o : Owner} {e e₁ e₂ : Endpoint} {made : List Call} {link : Link}
  {slot : Option Accumulator} {call : Call}

theorem Continued.reports (h : Continued e e₁) : e₁.reports = e.reports := by
  funext n call
  have hown : e₁.ownFailure? call = e.ownFailure? call := by
    cases call <;> simp only [Endpoint.ownFailure?, h.kind.hasSpools, h.kind.faults, h.failing]
  rw [Endpoint.reports, Endpoint.reports, h.plan, hown]

theorem Continued.answering (h : Continued e e₁) (ha : e.Answering) : e₁.Answering where
  plan := fun n point hp k hn => by
    rw [h.plan]
    exact ha.plan n point hp k (Nat.le_trans h.noted hn)
  appends := by rw [h.kind.faults, ha.appends]

theorem Endpoint.Answering.mild (h : e.Answering) : e.Mild where
  plan := fun n point hp => h.plan n point (List.mem_append_left _ hp)
  appends := h.appends

namespace Made

theorem refl (o : Owner) (e : Endpoint) : Made o e [] e.link (e.reassembler.get o).slot e :=
  ⟨.refl e, by simp, rfl, rfl, rfl⟩

/-- The number of the next call. -/
theorem number (h : Made o e made link slot e₁) :
    e₁.calls.length = e.calls.length + made.length := by
  rw [h.calls, List.length_append]

theorem clean (h : Made o e made link slot e₁) (hc : e.storage.Clean) : e₁.storage.Clean := by
  rw [h.storage]
  exact hc.replay _ _

theorem table (h : Made o e made link slot e₁) : e₁.storage.poisoned = e.storage.poisoned := by
  rw [h.storage]
  exact Storage.replay_table _ _ _ _

theorem sound (h : Made o e made link slot e₁) {spool : Spool}
    (hp : (e.storage.record spool).poisoned = false) :
    (e₁.storage.record spool).poisoned = false := by
  rw [h.storage]
  exact Storage.replay_sound _ _ hp

/-- What is changed beside storage, the link and the slot. -/
theorem aside (h : Made o e made link slot e₁) (hc : Continued e₁ e₂) (hcalls : e₂.calls = e₁.calls)
    (hstorage : e₂.storage = e₁.storage) (hlink : e₂.link = e₁.link)
    (hreassembler : e₂.reassembler = e₁.reassembler) : Made o e made link slot e₂ where
  toContinued := h.toContinued.trans hc
  calls := hcalls.trans h.calls
  storage := hstorage.trans h.storage
  link := hlink.trans h.link
  slot := by rw [hreassembler, h.slot]

theorem told (h : Made o e made link slot e₁) {notices : List Notice} {counters : Counters} :
    Made o e made link slot { e₁ with notices, counters } :=
  h.aside ⟨rfl, rfl, rfl, ⟨rfl, rfl, rfl⟩, rfl, rfl, rfl, Nat.le_refl _⟩ rfl rfl rfl rfl

theorem onLink (h : Made o e made link slot e₁) (f : Link → Link) :
    Made o e made (f link) slot { e₁ with link := f e₁.link } where
  toContinued := h.toContinued.trans ⟨rfl, rfl, rfl, ⟨rfl, rfl, rfl⟩, rfl, rfl, rfl, Nat.le_refl _⟩
  calls := h.calls
  storage := h.storage
  link := congrArg f h.link
  slot := h.slot

theorem put (h : Made o e made link slot e₁) (slot' : Option Accumulator) :
    Made o e made link slot' { e₁ with
      reassembler := e₁.reassembler.set { e₁.reassembler.get o with slot := slot' } o } where
  toContinued := h.toContinued.trans
    ⟨rfl, rfl, rfl, ⟨rfl, rfl, rfl⟩, rfl, rfl, by cases o <;> rfl, Nat.le_refl _⟩
  calls := h.calls
  storage := h.storage
  link := h.link
  slot := by simp

/-- One more call is made, with what it does to storage. -/
theorem step (h : Made o e made link slot e₁) {storage : Storage} (call : Call)
    (hstorage : storage = if (e.reports (e.calls.length + made.length) call).isSome then e₁.storage
      else e₁.storage.perform call) :
    Made o e (made ++ [call]) link slot { e₁.noting call with storage } where
  toContinued := by
    refine h.toContinued.trans ⟨rfl, rfl, rfl, ?_, rfl, rfl, rfl, by simp [Endpoint.noting]⟩
    rw [hstorage]
    split
    · exact ⟨rfl, rfl, rfl⟩
    · exact e₁.storage.perform_sameKind call
  calls := by simp [Endpoint.noting, h.calls]
  storage := by
    rw [hstorage, Reports.replay_append, ← h.storage]
    rfl
  link := h.link
  slot := h.slot

theorem failed (h : Made o e made link slot e₁) {cause : Failure}
    (hr : e.reports (e.calls.length + made.length) call = some cause) :
    Made o e (made ++ [call]) link slot (e₁.noting call) := h.step call (by simp [hr])

theorem done (h : Made o e made link slot e₁)
    (hr : e.reports (e.calls.length + made.length) call = none) :
    Made o e (made ++ [call]) link slot
      { e₁.noting call with storage := e₁.storage.perform call } := h.step call (by simp [hr])

theorem answering (h : Made o e made link slot e₁) (hn : ¬ e₁.Answering) : ¬ e.Answering :=
  fun ha => hn (h.toContinued.answering ha)

theorem unresponsive (h : Made o e made link slot e₁) (hn : ¬ e₁.Answering) : ¬ e.Responsive o :=
  fun hr => h.answering hn hr.toAnswering

end Made

end Steps

section Collaborators

variable {o : Owner} {e e₁ : Endpoint} {made : List Call} {link : Link}
  {slot : Option Accumulator} {α : Type}

/-- A call reports what is planned for it, or leaves it to the collaborator. -/
theorem Made.attempt_ends (h : Made o e made link slot e₁) {call : Call}
    (hp : call.point ∈ Endpoint.messagePoints) (hf : call.canFail) :
    (attempt call).Ends e₁
      (fun _ e₂ => e.reports (e.calls.length + made.length) call = e₁.ownFailure? call ∧
        e₂ = e₁.noting call)
      (fun cause e₂ => e.reports (e.calls.length + made.length) call = some cause ∧
        e₂ = e₁.noting call)
      fun _ _ => ¬ e.Answering := by
  rw [← h.number, ← h.toContinued.reports]
  simp only [attempt, note, Attempt.ends_bind, Attempt.ends_lift, Act.ends_modifyGet]
  split <;> rename_i hplan
  · exact h.answering fun ha => ha.plan _ _ hp _ (Nat.le_refl _) hplan
  · exact ⟨by simp [Endpoint.reports, hf, hplan], rfl⟩
  · exact ⟨by simp [Endpoint.reports, hf, hplan], rfl⟩
  · exact ⟨by simp [Endpoint.reports, hf, hplan], rfl⟩

/-- A call to a collaborator answers with `value`, or reports the failure that it has to. -/
def Made.Calls (o : Owner) (e : Endpoint) (made : List Call) (link : Link)
    (slot : Option Accumulator) (e₁ : Endpoint) (call : Call) (x : Attempt Failure α) (value : α) :
    Prop :=
  x.Ends e₁
    (fun a e₂ => a = value ∧ e.reports (e.calls.length + made.length) call = none ∧
      Made o e (made ++ [call]) link slot e₂)
    (fun cause e₂ => e.reports (e.calls.length + made.length) call = some cause ∧
      Made o e (made ++ [call]) link slot e₂)
    fun _ _ => ¬ e.Responsive o

/-- It does so if what follows on the call does. -/
theorem Made.attempt_calls (h : Made o e made link slot e₁) {call : Call}
    (hp : call.point ∈ Endpoint.messagePoints) (hf : call.canFail) {k : Unit → Attempt Failure α}
    {value : α} (hk : Attempt.Ends (k ()) (e₁.noting call)
      (fun a e₂ => e₁.ownFailure? call = none ∧ a = value ∧
        e₂ = { e₁.noting call with storage := e₁.storage.perform call })
      (fun cause e₂ => e₁.ownFailure? call = some cause ∧ e₂ = e₁.noting call)
      fun _ _ => ¬ e.Responsive o) :
    Made.Calls o e made link slot e₁ call (attempt call >>= k) value := by
  refine Attempt.ends_bind.2 ((h.attempt_ends hp hf).imp ?_ ?_ fun _ _ => mt (·.toAnswering))
  · rintro _ _ ⟨hr, rfl⟩
    refine hk.imp ?_ ?_ fun _ _ => id
    · rintro _ _ ⟨hown, rfl, rfl⟩
      exact ⟨rfl, hr.trans hown, h.done (hr.trans hown)⟩
    · rintro _ _ ⟨hown, rfl⟩
      exact ⟨hr.trans hown, h.failed (hr.trans hown)⟩
  · rintro _ _ ⟨hr, rfl⟩
    exact ⟨hr, h.failed hr⟩

variable (h : Made o e made link slot e₁)

include h

theorem Made.generateId_calls : Made.Calls o e made link slot e₁ .generateId Storage.generateId
    ⟨e₁.storage.nextId⟩ := by
  refine h.attempt_calls (List.mem_append_left _ (by simp [Call.point, Endpoint.movingPoints]))
    rfl ?_
  refine Attempt.ends_bind.2 (Attempt.ends_get.2 (Attempt.ends_ite.2 ⟨fun hf => ?_, fun hf => ?_⟩))
  · exact Attempt.ends_bind.2 ⟨if_pos hf, rfl⟩
  · exact ⟨if_neg hf, rfl, rfl⟩

theorem Made.openSpool_calls (id : LargeMessageId) :
    Made.Calls o e made link slot e₁ (.openSpool id) (Storage.openSpool id)
      (e₁.storage.newSpool id) := by
  refine h.attempt_calls (List.mem_append_left _ (by simp [Call.point, Endpoint.movingPoints]))
    rfl ?_
  refine Attempt.ends_bind.2 (Attempt.ends_get.2 (Attempt.ends_ite.2 ⟨fun hf => ?_, fun hf => ?_⟩))
  · have hnone : e₁.storage.hasSpools = false := by simpa [Endpoint.noting] using hf
    exact Attempt.ends_bind.2 ⟨by simp [Endpoint.ownFailure?, hnone], rfl⟩
  · have hsome : e₁.storage.hasSpools := by simpa [Endpoint.noting] using hf
    refine Attempt.ends_bind.2 (Attempt.ends_lift.2 ((holdTable_or _).imp ?_ fun _ _ hp hr => ?_))
    · rintro _ _ rfl
      exact ⟨if_pos hsome, rfl, rfl⟩
    · exact Bool.false_ne_true ((h.table.trans hr.table).symm.trans hp)

theorem Made.register_calls (id : LargeMessageId) (a : Accumulator) :
    Made.Calls o e made link slot e₁ (.register id a) (Storage.registerLarge id a) () := by
  refine h.attempt_calls (List.mem_append_left _ (by simp [Call.point, Endpoint.movingPoints]))
    rfl ?_
  exact ⟨rfl, rfl, rfl⟩

theorem Made.spoolAppend_calls {spool : Spool}
    (hp : e.Responsive o → (e.storage.record spool).poisoned = false)
    (hu : e.Responsive o → (e₁.storage.record spool).finished = false) (bytes : Bytes) :
    Made.Calls o e made link slot e₁ (.spoolAppend spool bytes) (spool.append bytes) () := by
  refine h.attempt_calls (List.mem_append_left _ (by simp [Call.point, Endpoint.movingPoints]))
    rfl ?_
  refine Attempt.ends_bind.2 (Attempt.ends_get.2 (Attempt.ends_ite.2 ⟨fun hf => ?_, fun _ =>
    Attempt.ends_ite.2 ⟨fun hf => ?_, fun hf => ?_⟩⟩))
  · refine Attempt.ends_bind.2 (h.unresponsive fun ha => ?_)
    exact Bool.false_ne_true (ha.appends.symm.trans hf)
  · exact Attempt.ends_bind.2 ⟨if_pos hf, rfl⟩
  · refine Attempt.ends_bind.2 (Attempt.ends_lift.2 ((hold_or _ spool).imp ?_ fun _ _ hx hr => ?_))
    · rintro _ _ ⟨rfl, rfl⟩
      refine Attempt.ends_ite.2 ⟨fun hfinished hr => ?_, fun _ => ⟨if_neg hf, rfl, rfl⟩⟩
      exact Bool.false_ne_true ((hu hr).symm.trans hfinished)
    · exact Bool.false_ne_true ((h.sound (hp hr)).symm.trans hx)

theorem Made.spoolFinish_calls {spool : Spool}
    (hp : e.Responsive o → (e.storage.record spool).poisoned = false) :
    Made.Calls o e made link slot e₁ (.spoolFinish spool) spool.finish () := by
  refine h.attempt_calls (List.mem_append_left _ (by simp [Call.point, Endpoint.movingPoints]))
    rfl ?_
  refine Attempt.ends_bind.2 (Attempt.ends_get.2 (Attempt.ends_ite.2 ⟨fun hf => ?_, fun hf => ?_⟩))
  · exact Attempt.ends_bind.2 ⟨if_pos hf, rfl⟩
  · refine Attempt.ends_bind.2 (Attempt.ends_discard.2 (Attempt.ends_lift.2
      ((hold_or _ spool).imp ?_ fun _ _ hx hr => ?_)))
    · rintro _ _ ⟨rfl, rfl⟩
      exact ⟨if_neg hf, rfl, rfl⟩
    · exact Bool.false_ne_true ((h.sound (hp hr)).symm.trans hx)

theorem Made.spoolDelete_calls {spool : Spool}
    (hp : e.Responsive o → (e.storage.record spool).poisoned = false) :
    Made.Calls o e made link slot e₁ (.spoolDelete spool) spool.delete () := by
  refine h.attempt_calls (List.mem_append_left _ (by simp [Call.point, Endpoint.movingPoints]))
    rfl ?_
  refine Attempt.ends_bind.2 (Attempt.ends_get.2 (Attempt.ends_ite.2 ⟨fun hf => ?_, fun hf => ?_⟩))
  · exact Attempt.ends_bind.2 ⟨if_pos hf, rfl⟩
  · refine Attempt.ends_bind.2 (Attempt.ends_discard.2 (Attempt.ends_lift.2
      ((hold_or _ spool).imp ?_ fun _ _ hx hr => ?_)))
    · rintro _ _ ⟨rfl, rfl⟩
      exact ⟨if_neg hf, rfl, rfl⟩
    · exact Bool.false_ne_true ((h.sound (hp hr)).symm.trans hx)

theorem Made.create_calls (d : DeliveryId) (payload : Bytes) :
    Made.Calls o e made link slot e₁ (.createMessage payload) (Message.create d payload)
      { format := (link.delivery d).format, payload } := by
  refine h.attempt_calls (by simp [Call.point, Endpoint.messagePoints]) rfl ?_
  refine Attempt.ends_bind.2 (Attempt.ends_get.2 ⟨rfl, ?_, rfl⟩)
  rw [← h.link]
  rfl

/-- All bytes that wait are taken. -/
theorem Made.recv_ends : Link.recv.Ends e₁ (fun bytes e₂ => bytes = link.buffer ∧
    Made o e (made ++ [.linkRecv link.buffer]) link.drained slot e₂)
      fun _ _ => ¬ e.Responsive o := by
  refine (ReceivingLink.recv_ends e₁).imp ?_ fun _ _ hm => h.unresponsive fun ha => hm ha.mild
  obtain rfl : e₁.link = link := h.link
  rintro _ _ ⟨rfl, rfl⟩
  have hnoted : Made o e (made ++ [.linkRecv e₁.link.buffer]) e₁.link slot
      (e₁.noting (.linkRecv e₁.link.buffer)) := h.done rfl
  exact ⟨rfl, hnoted.onLink Link.drained⟩

theorem Made.moveOn_ends : Link.moveOn.Ends e₁ (fun _ e₂ =>
    Made o e (made ++ [.linkAdvance]) link.advance slot e₂) fun _ _ => ¬ e.Responsive o := by
  refine (ReceivingLink.moveOn_ends e₁).imp ?_ fun _ _ hm => h.unresponsive fun ha => hm ha.mild
  rintro _ _ rfl
  have hnoted : Made o e (made ++ [.linkAdvance]) link slot (e₁.noting .linkAdvance) := h.done rfl
  exact hnoted.onLink Link.advance

/-- The spool of an accumulator is deleted. What becomes of that is only told. -/
theorem Made.drop_ends {a : Accumulator}
    (hp : e.Responsive o → (e.storage.record a.spool).poisoned = false) :
    a.drop.Ends e₁ (fun _ e₂ => Made o e (made ++ [.spoolDelete a.spool]) link slot e₂)
      fun _ _ => ¬ e.Responsive o := by
  refine Act.ends_bind.2 (Act.ends_run.2 ((h.spoolDelete_calls hp).imp (fun _ e₂ h₂ => ?_)
    (fun _ e₂ h₂ => ?_) fun _ _ => id))
  · exact h₂.2.2.told
  · exact h₂.2.told

end Collaborators

end ReceivingLink
