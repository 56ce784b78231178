import ReceivingLink.Proofs.Turnout

/-!
# What becomes of every spool

A reassembler opens spools, writes to one at a time, and lets go of each by deleting it or by
returning a large message that lies in it. `Shelf.Next` says what may happen to spools and when,
and every move of a reassembler goes by it, whichever of its calls fail: `Reassembler.Move.goes`. So
of the spools that were opened one at most is in use, and each other was deleted once or returned
once: `spools_conserved`.
-/

namespace ReceivingLink

/-- What happens in a reassembler: a call, or the return of a large message. -/
inductive Occurrence where
  | call (call : Call)
  | returned (large : LargeMessage)
  deriving DecidableEq

namespace Occurrence

/-- The place of the spool that is written to or finished. -/
def written? : Occurrence → Option Nat
  | call (.spoolAppend spool _) | call (.spoolFinish spool) => some spool.place
  | _ => none

def deleted? : Occurrence → Option Nat
  | call (.spoolDelete spool) => some spool.place
  | _ => none

def returned? : Occurrence → Option Nat
  | returned large => some large.spool.place
  | _ => none

/-- The spool at this place is let go. -/
def Releases (x : Occurrence) (place : Nat) : Prop :=
  x.deleted? = some place ∨ x.returned? = some place

end Occurrence

/-- The number of spools, and the place of the one in use. -/
structure Shelf where
  spools : Nat
  inUse : Option Nat

/-- What may happen to spools. One is opened only when none is in use, or is not opened because
that fails. Only the one in use is written to, finished, deleted and returned, and it is not in use
after the last two. -/
inductive Shelf.Next : Shelf → Occurrence → Shelf → Prop
  | opens {n : Nat} {id : LargeMessageId} :
      Next ⟨n, none⟩ (.call (.openSpool id)) ⟨n + 1, some n⟩
  | opensNot {n : Nat} {id : LargeMessageId} : Next ⟨n, none⟩ (.call (.openSpool id)) ⟨n, none⟩
  | writes {n p : Nat} {call : Call} (h : (Occurrence.call call).written? = some p) :
      Next ⟨n, some p⟩ (.call call) ⟨n, some p⟩
  | deletes {n : Nat} {spool : Spool} :
      Next ⟨n, some spool.place⟩ (.call (.spoolDelete spool)) ⟨n, none⟩
  | returns {n : Nat} {large : LargeMessage} :
      Next ⟨n, some large.spool.place⟩ (.returned large) ⟨n, none⟩
  | aside {s : Shelf} {call : Call} (h : (Occurrence.call call).written? = none)
      (hd : (Occurrence.call call).deleted? = none) (ho : ∀ id, call ≠ .openSpool id) :
      Next s (.call call) s

/-- Occurrences one after another. -/
inductive Shelf.Follows : Shelf → List Occurrence → Shelf → Prop
  | nil {s : Shelf} : Follows s [] s
  | cons {s s₁ s' : Shelf} {x : Occurrence} {rest : List Occurrence} (h : s.Next x s₁)
      (hr : Follows s₁ rest s') : Follows s (x :: rest) s'

/-- What may be done with a reassembler. In between the link may change in any way. -/
inductive Reassembler.Move where
  | accept (d : DeliveryId)
  | discard
  | link (change : Link → Link)

def Reassembly.large? : Reassembly → Option LargeMessage
  | complete (.large large) => some large
  | _ => none

/-- The large message that is returned. -/
def Turnout.large? (t : Turnout) : Option LargeMessage := t.result.toOption.bind Reassembly.large?

/-- Performs a move. The answer is the large message that is returned with it, if there is one. -/
def Reassembler.Move.perform (o : Owner) :
    Reassembler.Move → Act Panic Endpoint (Option LargeMessage)
  | accept d => return (← (Reassembler.accept o d).run).toOption.bind Reassembly.large?
  | discard => do
    let _ ← Reassembler.discard o
    return none
  | link change => do
    modify fun e => { e with link := change e.link }
    return none

namespace Endpoint

variable (o : Owner)

/-- The endpoint after a move. -/
def moved (e : Endpoint) (move : Reassembler.Move) : Endpoint := (move.perform o e).2

/-- The endpoint after moves in sequence. -/
def movedAll (e : Endpoint) (moves : List Reassembler.Move) : Endpoint := moves.foldl (moved o) e

/-- What happens in a move. -/
def occurring (e : Endpoint) (move : Reassembler.Move) : List Occurrence :=
  ((e.moved o move).calls.drop e.calls.length).map .call ++
    ((move.perform o e).1.toOption.join.map Occurrence.returned).toList

/-- What happens in moves in sequence. -/
def history : Endpoint → List Reassembler.Move → List Occurrence
  | _, [] => []
  | e, move :: moves => e.occurring o move ++ history (e.moved o move) moves

/-- The spools of storage, and the one of the large message that is coming in. -/
def shelf (e : Endpoint) : Shelf :=
  ⟨e.storage.records.length, (e.reassembler.get o).slot.map (·.spool.place)⟩

/-- The places of the spools that were opened since another state. -/
def openedSince (e' e : Endpoint) : List Nat :=
  (List.range e'.storage.records.length).drop e.storage.records.length

end Endpoint

namespace Shelf

variable {s s₁ s' : Shelf} {x : Occurrence} {h h' : List Occurrence} {n p : Nat}

theorem Follows.append (hf : s.Follows h s₁) (hf' : s₁.Follows h' s') :
    s.Follows (h ++ h') s' := by
  induction hf with
  | nil => exact hf'
  | cons hn _ ih => exact .cons hn (ih hf')

theorem Follows.single (hn : s.Next x s') : s.Follows [x] s' := .cons hn .nil

theorem deleted?_of_written {call : Call} (hw : (Occurrence.call call).written? = some p) :
    (Occurrence.call call).deleted? = none := by
  cases call <;> first | rfl | cases hw

theorem Next.partition (hn : s.Next x s₁) : s.spools ≤ s₁.spools ∧
    (s₁.inUse.toList ++ [x].filterMap Occurrence.returned? ++
        [x].filterMap Occurrence.deleted?).Perm
      (s.inUse.toList ++ List.range' s.spools (s₁.spools - s.spools)) := by
  have hreturned (call : Call) : (Occurrence.call call).returned? = none := rfl
  cases hn with
  | opens => simp [hreturned, Occurrence.deleted?]
  | opensNot => simp [hreturned, Occurrence.deleted?]
  | writes hw => simp [hreturned, deleted?_of_written hw]
  | deletes => simp [hreturned, Occurrence.deleted?]
  | returns => simp [Occurrence.returned?, Occurrence.deleted?]
  | aside _ hd => simp [hreturned, hd]

/-- What was on the shelf or has been opened since is in use, was returned or was deleted. -/
theorem Follows.partition (hf : s.Follows h s') : s.spools ≤ s'.spools ∧
    (s'.inUse.toList ++ h.filterMap Occurrence.returned? ++ h.filterMap Occurrence.deleted?).Perm
      (s.inUse.toList ++ List.range' s.spools (s'.spools - s.spools)) := by
  induction hf with
  | nil => simp
  | @cons s s₁ s' x rest hn _ ih =>
    obtain ⟨hle, hp⟩ := hn.partition
    obtain ⟨hle', hp'⟩ := ih
    refine ⟨Nat.le_trans hle hle', List.perm_iff_count.2 fun p => ?_⟩
    have hplaces : List.range' s.spools (s'.spools - s.spools) =
        List.range' s.spools (s₁.spools - s.spools) ++
          List.range' s₁.spools (s'.spools - s₁.spools) := by
      rw [← Nat.add_sub_cancel' hle, Nat.add_sub_cancel_left, List.range'_append_1]
      congr 1
      omega
    have hcount := hp.count_eq p
    have hcount' := hp'.count_eq p
    rw [hplaces, ← List.singleton_append, List.filterMap_append, List.filterMap_append]
    simp only [List.count_append] at hcount hcount' ⊢
    omega

/-- A spool that is not in use is not written to, and is not used again. -/
theorem Next.retired (hn : s.Next x s₁) (hp : p < s.spools) (hu : s.inUse ≠ some p) :
    p < s₁.spools ∧ s₁.inUse ≠ some p ∧ x.written? ≠ some p := by
  cases hn with
  | opens => exact ⟨Nat.lt_succ_of_lt hp, fun h => Nat.ne_of_gt hp (Option.some.inj h), nofun⟩
  | opensNot => exact ⟨hp, nofun, nofun⟩
  | writes hw => exact ⟨hp, hu, fun h => hu (hw.symm.trans h)⟩
  | deletes => exact ⟨hp, nofun, nofun⟩
  | returns => exact ⟨hp, nofun, nofun⟩
  | aside hw => exact ⟨hp, hu, fun h => nomatch hw.symm.trans h⟩

theorem Follows.retired (hf : s.Follows h s') (hp : p < s.spools) (hu : s.inUse ≠ some p) :
    ∀ x ∈ h, x.written? ≠ some p := by
  induction hf with
  | nil => exact fun _ hx => nomatch hx
  | cons hn _ ih =>
    obtain ⟨hp₁, hu₁, hx⟩ := hn.retired hp hu
    exact List.forall_mem_cons.2 ⟨hx, ih hp₁ hu₁⟩

/-- A spool that is let go was in use. -/
theorem Next.released (hn : s.Next x s₁) (hr : x.Releases p) :
    s.inUse = some p ∧ s₁ = ⟨s.spools, none⟩ := by
  cases hn with
  | opens => exact hr.elim nofun nofun
  | opensNot => exact hr.elim nofun nofun
  | writes hw =>
    exact hr.elim (fun h => nomatch (deleted?_of_written hw).symm.trans h) nofun
  | deletes => exact ⟨hr.elim id nofun, rfl⟩
  | returns => exact ⟨hr.elim nofun id, rfl⟩
  | aside _ hd => exact hr.elim (fun h => nomatch hd.symm.trans h) nofun

/-- The spool in use is one of those that there are. -/
theorem Next.inUse_lt (hn : s.Next x s₁) (hs : ∀ p, s.inUse = some p → p < s.spools) :
    ∀ p, s₁.inUse = some p → p < s₁.spools := by
  cases hn with
  | opens => exact fun p hp => Option.some.inj hp ▸ Nat.lt_succ_self _
  | opensNot | deletes | returns => exact nofun
  | writes | aside => exact hs

/-- A spool that was let go is not written to. -/
theorem Follows.pairwise (hf : s.Follows h s') (hs : ∀ p, s.inUse = some p → p < s.spools) :
    h.Pairwise fun x y => ∀ p, x.Releases p → y.written? ≠ some p := by
  induction hf with
  | nil => exact .nil
  | cons hn hf ih =>
    refine .cons (fun y hy p hr => ?_) (ih (hn.inUse_lt hs))
    obtain ⟨hu, rfl⟩ := hn.released hr
    exact hf.retired (hs p hu) nofun y hy

end Shelf

/-- The call is made on the spool at this place or on none. -/
structure Call.KeepsTo (p : Nat) (call : Call) : Prop where
  opened : ∀ id, call ≠ .openSpool id
  deleted : (Occurrence.call call).deleted? = none
  written : ∀ q, (Occurrence.call call).written? = some q → q = p

section Calls

variable {r : Reports} {n k p : Nat} {calls : List Call} {a : Accumulator} {bytes : Bytes}

theorem Shelf.Follows.writing : ∀ {calls : List Call}, (∀ call ∈ calls, call.KeepsTo p) →
    Shelf.Follows ⟨k, some p⟩ (calls.map .call) ⟨k, some p⟩
  | [], _ => .nil
  | call :: calls, h => by
    have hcall := h call List.mem_cons_self
    refine .cons ?_ (Follows.writing fun c hc => h c (List.mem_cons_of_mem _ hc))
    rcases hw : (Occurrence.call call).written? with _ | q
    · exact .aside hw hcall.deleted hcall.opened
    · exact .writes (hcall.written q hw ▸ hw)

/-- Only a call that opens a spool adds a record. -/
theorem Reports.replay_length (r : Reports) : ∀ {calls : List Call} {n : Nat} {s : Storage},
    (∀ call ∈ calls, ∀ id, call ≠ .openSpool id) →
      (r.replay n calls s).records.length = s.records.length
  | [], _, _, _ => rfl
  | call :: calls, n, s, h => by
    rw [replay, replay_length r fun c hc => h c (List.mem_cons_of_mem _ hc)]
    split
    · rfl
    cases call with
    | openSpool id => exact absurd rfl (h _ List.mem_cons_self id)
    | register id a => rw [Storage.perform, Storage.register_records]
    | spoolAppend | spoolFinish | spoolDelete => exact List.length_modify ..
    | _ => rfl

/-- A spool that is opened adds a record, and one that is refused does not. -/
theorem replay_refused {id : LargeMessageId} {s : Storage}
    (h : (r (n + 1) (.openSpool id)).isSome) :
    (r.replay n [.generateId, .openSpool id] s).records.length = s.records.length := by
  simp only [Reports.replay, h, if_true]
  split <;> rfl

theorem replay_opened {id : LargeMessageId} {s : Storage} (h : r (n + 1) (.openSpool id) = none)
    (hc : ∀ call ∈ calls, ∀ id, call ≠ .openSpool id) :
    (r.replay n (.generateId :: .openSpool id :: calls) s).records.length =
      s.records.length + 1 := by
  rw [Reports.replay, Reports.replay, r.replay_length hc, h]
  rcases r n .generateId with _ | _ <;> simp [Storage.perform, Storage.opened, Storage.issue]

/-- A spool that is not finished by any of these calls is not finished after them. -/
theorem Reports.replay_unfinished (r : Reports) (spool : Spool) : ∀ {calls : List Call} {n : Nat}
    {s : Storage}, (∀ call ∈ calls, ∀ id, call ≠ .openSpool id) →
      (∀ call ∈ calls, ∀ spool, call ≠ .spoolFinish spool) →
        ((r.replay n calls s).record spool).finished = (s.record spool).finished
  | [], _, _, _, _ => rfl
  | call :: calls, n, s, ho, hf => by
    rw [replay, replay_unfinished r spool (fun c hc => ho c (List.mem_cons_of_mem _ hc))
      fun c hc => hf c (List.mem_cons_of_mem _ hc)]
    split
    · rfl
    cases call with
    | openSpool id => exact absurd rfl (ho _ List.mem_cons_self id)
    | spoolFinish spool' => exact absurd rfl (hf _ List.mem_cons_self spool')
    | register id a =>
      rw [Storage.perform, Storage.record, Storage.register_records, Storage.record]
    | spoolAppend | spoolDelete => exact s.record_change (fun _ => by rfl) _
    | _ => rfl

theorem keepsTo_writes : ∀ call ∈ a.writes bytes, call.KeepsTo a.spool.place := by
  intro call hc
  unfold Accumulator.writes at hc
  split at hc
  · cases hc
  · obtain rfl := List.mem_singleton.1 hc
    exact ⟨nofun, rfl, fun q hq => (Option.some.inj hq).symm⟩

theorem finishes_none_of_writes : ∀ call ∈ a.writes bytes, ∀ spool, call ≠ .spoolFinish spool := by
  intro call hc
  unfold Accumulator.writes at hc
  split at hc
  · cases hc
  · obtain rfl := List.mem_singleton.1 hc
    exact nofun

theorem keepsTo_sealing : ∀ call ∈ a.sealing bytes, call.KeepsTo a.spool.place := by
  intro call hc
  rcases List.mem_append.1 hc with hc | hc
  · rcases List.mem_cons.1 hc with rfl | hc
    · exact ⟨nofun, rfl, nofun⟩
    · exact keepsTo_writes call hc
  · split at hc
    · cases hc
    · obtain rfl := List.mem_singleton.1 hc
      exact ⟨nofun, rfl, fun q hq => (Option.some.inj hq).symm⟩

/-- What happens in an event. -/
def Turnout.occurring (t : Turnout) : List Occurrence :=
  t.calls.map .call ++ (t.large?.map Occurrence.returned).toList

/-- A large message that is complete is returned, or its spool is deleted. -/
theorem sealed_follows (r : Reports) (n : Nat) (a : Accumulator) (l : Link) :
    Shelf.Follows ⟨k, some a.spool.place⟩ (r.sealed n a l).occurring ⟨k, none⟩ := by
  have hmade : Shelf.Follows ⟨k, some a.spool.place⟩
      ((r.made n (a.sealing l.buffer)).map .call) ⟨k, some a.spool.place⟩ :=
    .writing fun call hc => keepsTo_sealing call (Reports.mem_of_made hc)
  have hadvance {s : Shelf} : s.Next (.call .linkAdvance) s := .aside rfl rfl nofun
  rcases he : r.sealError? n a l.buffer with _ | error
  · have hoccurring : (r.sealed n a l).occurring = (r.made n (a.sealing l.buffer)).map .call ++
        [.call .linkAdvance, .returned (a.grown l.buffer).message] := by
      simp [Turnout.occurring, Turnout.large?, Reports.sealed, he, Except.toOption,
        Reassembly.large?]
    rw [hoccurring]
    have hreturns : Shelf.Next ⟨k, some (a.grown l.buffer).message.spool.place⟩
        (.returned (a.grown l.buffer).message) ⟨k, none⟩ := .returns
    exact hmade.append (.cons hadvance (.single hreturns))
  · have hoccurring : (r.sealed n a l).occurring = (r.made n (a.sealing l.buffer)).map .call ++
        [.call .linkAdvance, .call (.spoolDelete a.spool)] := by
      simp [Turnout.occurring, Turnout.large?, Reports.sealed, he, Except.toOption]
    rw [hoccurring]
    exact hmade.append (.cons hadvance (.single .deletes))

theorem sealed_opens_none (r : Reports) (n : Nat) (a : Accumulator) (l : Link) :
    ∀ call ∈ (r.sealed n a l).calls, ∀ id, call ≠ .openSpool id := by
  intro call hc
  rcases List.mem_append.1 hc with hc | hc
  · exact (keepsTo_sealing call (Reports.mem_of_made hc)).opened
  · rcases List.mem_cons.1 hc with rfl | hc
    · exact nofun
    · split at hc
      · obtain rfl := List.mem_singleton.1 hc
        exact nofun
      · cases hc

end Calls

section Accepting

variable {o : Owner} {e e' : Endpoint} {d : DeliveryId} {calls : List Call} {link : Link}
  {slot : Option Accumulator}

theorem Made.shelf (h : Made o e calls link slot e') :
    e'.shelf o = ⟨e'.storage.records.length, slot.map (·.spool.place)⟩ := by
  rw [Endpoint.shelf, h.slot]

theorem Made.shelf_closed (h : Made o e calls link slot e')
    (hc : ∀ call ∈ calls, ∀ id, call ≠ .openSpool id) :
    e'.shelf o = ⟨e.storage.records.length, slot.map (·.spool.place)⟩ := by
  rw [h.shelf, h.storage, e.reports.replay_length hc]

/-- Without a large message there is nothing that must be written to. -/
theorem Made.writable_empty (h : Made o e calls link none e') (hc : e.storage.Clean) :
    e'.Writable o := by
  have hnone {a : Accumulator} (hs : (e'.reassembler.get o).slot = some a) : False :=
    nomatch h.slot.symm.trans hs
  exact ⟨h.clean hc, fun _ hs => (hnone hs).elim, fun _ hs => (hnone hs).elim, fun hs => by
    rw [h.slot] at hs
    cases hs⟩

/-- An event opens a spool only if none is in use, goes by the shelf, and leaves a spool that can be
written to in use or none. -/
structure Conserves (o : Owner) (e : Endpoint) (t : Turnout) (e' : Endpoint) : Prop where
  follows : (e.shelf o).Follows t.occurring (e'.shelf o)
  writable : e'.Writable o
  opens : ∀ id, .openSpool id ∈ t.calls → (e.reassembler.get o).slot = none

/-- So does one that opens none. -/
theorem Conserves.ofClosed {t : Turnout} (hc : e.storage.Clean)
    (hm : Made o e t.calls t.link none e') (hopens : ∀ call ∈ t.calls, ∀ id, call ≠ .openSpool id)
    (hf : (e.shelf o).Follows t.occurring ⟨e.storage.records.length, none⟩) :
    Conserves o e t e' where
  follows := by
    rw [hm.shelf_closed hopens]
    exact hf
  writable := hm.writable_empty hc
  opens := fun id hid => absurd rfl (hopens _ hid id)

theorem givenUp_conserves (hc : e.storage.Clean)
    (hm : Made o e (e.givenUp o).calls (e.givenUp o).link none e') :
    Conserves o e (e.givenUp o) e' := by
  have hadvance {s : Shelf} : s.Next (.call .linkAdvance) s := .aside rfl rfl nofun
  rcases hs : (e.reassembler.get o).slot with _ | a
  · have hcalls : (e.givenUp o).calls = [.linkAdvance] := by simp [Endpoint.givenUp, hs]
    refine .ofClosed hc hm (by simp [hcalls]) ?_
    rw [Turnout.occurring, hcalls, Endpoint.shelf, hs]
    exact .single hadvance
  · have hcalls : (e.givenUp o).calls = [.spoolDelete a.spool, .linkAdvance] := by
      simp [Endpoint.givenUp, hs]
    refine .ofClosed hc hm (by simp [hcalls]) ?_
    rw [Turnout.occurring, hcalls, Endpoint.shelf, hs]
    exact .cons .deletes (.single hadvance)

theorem received_conserves (h : e.Writable o) {a : Accumulator}
    (hs : (e.reassembler.get o).slot = some a) {r : Reports} {n : Nat}
    (hm : Made o e (r.received n a e.link).calls link (r.received n a e.link).slot e') :
    Conserves o e (r.received n a e.link) e' := by
  have hkeeps : ∀ call ∈ (r.received n a e.link).calls, call.KeepsTo a.spool.place :=
    List.forall_mem_cons.2 ⟨⟨nofun, rfl, nofun⟩, keepsTo_writes⟩
  have hspool : (r.written (n + 1) a e.link.buffer).1.spool = a.spool := Reports.written_spool
  have hslot : (e'.reassembler.get o).slot = some (r.written (n + 1) a e.link.buffer).1 := hm.slot
  have hclosed : ∀ call ∈ (r.received n a e.link).calls, ∀ id, call ≠ .openSpool id :=
    fun call hc => (hkeeps call hc).opened
  have hshelf := hm.shelf_closed hclosed
  have hplace : (r.received n a e.link).slot.map (·.spool.place) = some a.spool.place :=
    congrArg (fun spool : Spool => some spool.place) hspool
  have hunfinished :
      ∀ call ∈ (r.received n a e.link).calls, ∀ spool, call ≠ .spoolFinish spool :=
    List.forall_mem_cons.2 ⟨nofun, finishes_none_of_writes⟩
  have hlarge : (r.received n a e.link).large? = none := by
    unfold Turnout.large? Reports.received
    rcases (r.written (n + 1) a e.link.buffer).2 with _ | _ <;> rfl
  refine ⟨?_, ⟨hm.clean h.clean, fun b hb => ?_, fun b hb => ?_, fun _ => ?_⟩, fun id hid =>
    absurd rfl (hclosed _ hid id)⟩
  · rw [hshelf, hplace, Endpoint.shelf, hs, Turnout.occurring, hlarge]
    simpa using Shelf.Follows.writing hkeeps
  · obtain rfl := Option.some.inj (hslot.symm.trans hb)
    have hlength := congrArg Shelf.spools hshelf
    rw [hspool, show e'.storage.records.length = e.storage.records.length from hlength]
    exact h.opened a hs
  · obtain rfl := Option.some.inj (hslot.symm.trans hb)
    rw [hspool, hm.storage, Reports.replay_unfinished _ _ hclosed hunfinished]
    exact h.unfinished a hs
  · rw [hm.toContinued.isPersistent]
    exact h.persistent (by simp [hs])

theorem sealed_conserves (hc : e.storage.Clean) {a : Accumulator}
    (hs : (e.reassembler.get o).slot = some a) {r : Reports} {n : Nat}
    (hm : Made o e (r.sealed n a e.link).calls (r.sealed n a e.link).link none e') :
    Conserves o e (r.sealed n a e.link) e' := by
  refine .ofClosed hc hm (sealed_opens_none r n a e.link) ?_
  rw [Endpoint.shelf, hs]
  exact sealed_follows r n a e.link

section Empty

variable (hc : e.storage.Clean) (hs : (e.reassembler.get o).slot = none)

include hc hs

theorem quiet_conserves (hm : Made o e e.quiet.calls e.quiet.link none e') :
    Conserves o e e.quiet e' := by
  refine .ofClosed hc hm (fun _ hx => nomatch hx) ?_
  rw [Endpoint.shelf, hs]
  exact .nil

theorem small_conserves {r : Reports} {n : Nat}
    (hm : Made o e (r.small n e.link d).calls (r.small n e.link d).link none e') :
    Conserves o e (r.small n e.link d) e' := by
  have hlarge : (r.small n e.link d).large? = none := by
    unfold Turnout.large? Reports.small
    rcases r (n + 2) (.createMessage e.link.buffer) with _ | _ <;> rfl
  refine .ofClosed hc hm (by simp [Reports.small]) ?_
  rw [Turnout.occurring, hlarge, Endpoint.shelf, hs]
  exact .cons (.aside rfl rfl (by simp)) (.cons (.aside rfl rfl (by simp))
    (.single (.aside rfl rfl (by simp))))

omit hc hs in
/-- The calls that start a large message, as far as they are made. -/
theorem opened_follows {rest : List Call}
    (hrest : ∀ call ∈ rest, call ∈ (e.opening d).drop 2) :
    Shelf.Follows ⟨e.storage.records.length, none⟩
      ((.generateId :: .openSpool (e.blank d).id :: rest).map .call)
      ⟨e.storage.records.length + 1, some (e.blank d).spool.place⟩ := by
  refine .cons (.aside rfl rfl nofun) (.cons .opens (.writing fun call hc => ?_))
  rcases List.mem_cons.1 (hrest call hc) with rfl | hc
  · exact ⟨nofun, rfl, nofun⟩
  rcases List.mem_cons.1 hc with rfl | hc
  · exact ⟨nofun, rfl, nofun⟩
  · exact keepsTo_writes call hc

omit hc hs in
theorem opening_closed : ∀ call ∈ (e.opening d).drop 2, ∀ id, call ≠ .openSpool id := by
  refine List.forall_mem_cons.2 ⟨nofun, List.forall_mem_cons.2 ⟨nofun, fun call hcall => ?_⟩⟩
  exact (keepsTo_writes call hcall).opened

omit hc hs in
/-- What is called for a large message that is not started: no spool is opened, or else the one that
is opened is deleted in the end. -/
theorem unstarted_calls {call : Call} {cause : Failure}
    (hb : e.reports.broken? e.calls.length (e.opening d) = some (call, cause)) :
    (e.unstarted d call cause).calls = [.generateId] ∨
    (e.reports (e.calls.length + 1) (.openSpool (e.blank d).id)).isSome ∧
      (e.unstarted d call cause).calls = [.generateId, .openSpool (e.blank d).id] ∨
    e.reports (e.calls.length + 1) (.openSpool (e.blank d).id) = none ∧
      ∃ rest, (∀ call ∈ rest, call ∈ (e.opening d).drop 2) ∧ (e.unstarted d call cause).calls =
        .generateId :: .openSpool (e.blank d).id :: rest ++ [.spoolDelete (e.blank d).spool] := by
  rcases hgenerate : e.reports e.calls.length .generateId with _ | cause'
  swap
  · left
    have hmade : e.reports.made e.calls.length (e.opening d) = [.generateId] :=
      Reports.made_of_some hgenerate
    cases (Reports.broken?_of_some hgenerate).symm.trans hb
    rw [Endpoint.unstarted, hmade]
    rfl
  rcases hopen : e.reports (e.calls.length + 1) (.openSpool (e.blank d).id) with _ | cause'
  swap
  · refine .inr (.inl ⟨rfl, ?_⟩)
    have hmade : e.reports.made e.calls.length (e.opening d) =
        [.generateId, .openSpool (e.blank d).id] :=
      (Reports.made_of_none hgenerate).trans (congrArg _ (Reports.made_of_some hopen))
    cases ((Reports.broken?_of_none hgenerate).trans (Reports.broken?_of_some hopen)).symm.trans hb
    rw [Endpoint.unstarted, hmade]
    rfl
  · obtain ⟨hmade, hbroken⟩ := opening_made hgenerate hopen
    have hlate : call.isLate := by
      rcases List.mem_cons.1 (Reports.mem_of_broken (hbroken.symm.trans hb)) with rfl | hc
      · rfl
      · unfold Accumulator.writes at hc
        split at hc
        · cases hc
        · rw [List.mem_singleton.1 hc]
          rfl
    refine .inr (.inr ⟨rfl, .linkRecv e.link.buffer :: e.reports.made (e.calls.length + 3)
      (.register (e.blank d).id (e.blank d) :: (e.blank d).writes e.link.buffer),
      List.forall_mem_cons.2 ⟨List.mem_cons_self, fun _ hc =>
        List.mem_cons_of_mem _ (Reports.mem_of_made hc)⟩, ?_⟩)
    rw [Endpoint.unstarted, hmade, if_pos hlate]

theorem unstarted_conserves {call : Call} {cause : Failure}
    (hb : e.reports.broken? e.calls.length (e.opening d) = some (call, cause))
    (hm : Made o e (e.unstarted d call cause).calls (e.unstarted d call cause).link none e') :
    Conserves o e (e.unstarted d call cause) e' := by
  have hlarge : (e.unstarted d call cause).large? = none := rfl
  have hshelf : e.shelf o = ⟨e.storage.records.length, none⟩ := by rw [Endpoint.shelf, hs]; rfl
  refine ⟨?_, hm.writable_empty hc, fun _ _ => hs⟩
  rw [hm.shelf, hm.storage, Turnout.occurring, hlarge, hshelf]
  obtain hcalls | ⟨hopen, hcalls⟩ | ⟨hopen, rest, hrest, hcalls⟩ := unstarted_calls hb
  · rw [hcalls, e.reports.replay_length (by simp)]
    exact .single (.aside rfl rfl nofun)
  · rw [hcalls, replay_refused hopen]
    exact .cons (.aside rfl rfl nofun) (.single .opensNot)
  · have hclosed :
        ∀ call ∈ rest ++ [.spoolDelete (e.blank d).spool], ∀ id, call ≠ .openSpool id := by
      refine List.forall_mem_append.2 ⟨fun c hc => opening_closed c (hrest c hc), ?_⟩
      simp
    rw [hcalls, List.cons_append, List.cons_append, replay_opened hopen hclosed]
    have hopened := opened_follows hrest
    simpa using hopened.append (.single .deletes)

omit hc hs in
theorem opening_opens (hb : e.reports.broken? e.calls.length (e.opening d) = none) :
    e.reports (e.calls.length + 1) (.openSpool (e.blank d).id) = none := by
  rcases hgenerate : e.reports e.calls.length .generateId with _ | cause
  · rcases hopen : e.reports (e.calls.length + 1) (.openSpool (e.blank d).id) with _ | cause
    · rfl
    · have hbroken : e.reports.broken? e.calls.length (e.opening d) = some (_, cause) :=
        (Reports.broken?_of_none hgenerate).trans (Reports.broken?_of_some hopen)
      cases hbroken.symm.trans hb
  · cases (Reports.broken?_of_some hgenerate).symm.trans hb

theorem started_conserves (hp : e.isPersistent)
    (hb : e.reports.broken? e.calls.length (e.opening d) = none)
    (hm : Made o e (e.started d).calls (e.started d).link (e.started d).slot e') :
    Conserves o e (e.started d) e' := by
  have hslot : (e'.reassembler.get o).slot = some ((e.blank d).grown e.link.buffer) := hm.slot
  obtain ⟨hlength, hunfinished⟩ := hm.started_spool hb
  refine ⟨?_, ⟨hm.clean hc, fun a ha => ?_, fun a ha => ?_, fun _ => ?_⟩, fun _ _ => hs⟩
  · rw [hm.shelf, hlength, Endpoint.shelf, hs]
    have hopened := opened_follows (e := e) (d := d) fun _ => id
    simpa [Turnout.occurring, Turnout.large?, Endpoint.started, Except.toOption, Reassembly.large?,
      Endpoint.opening] using hopened
  · obtain rfl := Option.some.inj (hslot.symm.trans ha)
    rw [hlength]
    exact Nat.lt_succ_self _
  · obtain rfl := Option.some.inj (hslot.symm.trans ha)
    exact hunfinished
  · rw [hm.toContinued.isPersistent]
    exact hp

theorem behind_conserves (hb : e.reports.broken? e.calls.length (e.opening d) = none)
    {t : Turnout} (ht : t = e.reports.sealed (e.calls.length + (e.opening d).length)
      ((e.blank d).grown e.link.buffer) e.link.drained)
    (hm : Made o e (t.behind (e.opening d)).calls (t.behind (e.opening d)).link none e') :
    Conserves o e (t.behind (e.opening d)) e' := by
  have hoccurring :
      (t.behind (e.opening d)).occurring = (e.opening d).map .call ++ t.occurring := by
    simp [Turnout.occurring, Turnout.behind, Turnout.large?]
  refine ⟨?_, hm.writable_empty hc, fun _ _ => hs⟩
  have hlength : e'.storage.records.length = e.storage.records.length + 1 := by
    have hclosed : ∀ call ∈ (e.opening d).drop 2 ++ t.calls, ∀ id, call ≠ .openSpool id := by
      rw [ht]
      exact List.forall_mem_append.2 ⟨opening_closed, sealed_opens_none _ _ _ _⟩
    rw [hm.storage]
    exact replay_opened (opening_opens hb) hclosed
  rw [hm.shelf, hlength, hoccurring, Endpoint.shelf, hs]
  have hopened := opened_follows (e := e) (d := d) fun _ => id
  have hsealed := sealed_follows (k := e.storage.records.length + 1) e.reports
    (e.calls.length + (e.opening d).length) ((e.blank d).grown e.link.buffer) e.link.drained
  rw [← ht] at hsealed
  exact hopened.append hsealed

end Empty

/-- However calls fail, an event goes by the shelf. -/
theorem turnout_conserves (h : e.Writable o)
    (hm : Made o e (e.turnout o d).calls (e.turnout o d).link (e.turnout o d).slot e') :
    Conserves o e (e.turnout o d) e' := by
  by_cases hg : (e.link.delivery d).isAborted
  · rw [turnout_givenUp hg] at hm ⊢
    exact givenUp_conserves h.clean hm
  have hg : (e.link.delivery d).isAborted = false := by simpa using hg
  rcases hs : (e.reassembler.get o).slot with _ | a
  · rcases hdue : e.isDue o d with _ | _
    · rcases hp : (e.link.delivery d).isPartial with _ | _
      · rw [turnout_small hg hs hp hdue] at hm ⊢
        exact small_conserves h.clean hs hm
      · rw [turnout_quiet hg hs hp hdue] at hm ⊢
        exact quiet_conserves h.clean hs hm
    rcases hb : e.reports.broken? e.calls.length (e.opening d) with _ | ⟨call, cause⟩
    · rcases hp : (e.link.delivery d).isPartial with _ | _
      · rw [turnout_behind hg hs hp hdue hb] at hm ⊢
        exact behind_conserves h.clean hs hb rfl hm
      · rw [turnout_started hg hs hp hdue hb] at hm ⊢
        simp only [Endpoint.isDue, Bool.and_eq_true] at hdue
        exact started_conserves h.clean hs hdue.1 hb hm
    · rw [turnout_unstarted hg hs hdue hb] at hm ⊢
      exact unstarted_conserves h.clean hs hb hm
  · rcases hp : (e.link.delivery d).isPartial with _ | _
    · rw [turnout_sealed hg hp hs] at hm ⊢
      exact sealed_conserves h.clean hs hm
    · rw [turnout_received hg hp hs] at hm ⊢
      exact received_conserves h hs hm

end Accepting

section Moving

variable {o : Owner} {e e' : Endpoint}

theorem discard_answers (h : e.Responsive o) :
    ∃ e', Reassembler.discard o e = (.ok (e.reassembler.get o).slot.isSome, e') ∧
      Made o e ((e.reassembler.get o).slot.map fun a => Call.spoolDelete a.spool).toList e.link
        none e' := by
  obtain ⟨_, e', hr, rfl, hm⟩ :=
    ((discard_comes e o).imp (fun _ _ => id) fun _ _ hn => hn h).answers
  exact ⟨e', hr, hm⟩

theorem perform_bind {α β : Type} {act : Act Panic Endpoint α} {a : α} {f : α → β}
    (h : act e = (.ok a, e')) :
    (act >>= fun a => pure (f a) : Act Panic Endpoint β) e = (.ok (f a), e') := by
  simp only [bind, ExceptT.bind, ExceptT.mk, StateT.bind, h]
  rfl

/-- A move goes by the shelf, and leaves a reassembler that the next can go on with. -/
structure Goes (o : Owner) (e : Endpoint) (occurring : List Occurrence) (e' : Endpoint) : Prop where
  follows : (e.shelf o).Follows occurring (e'.shelf o)
  writable : e'.Writable o
  answering : e'.Answering

theorem Goes.trans {e₁ : Endpoint} {h h' : List Occurrence} (hg : Goes o e h e₁)
    (hg' : Goes o e₁ h' e') : Goes o e (h ++ h') e' :=
  ⟨hg.follows.append hg'.follows, hg'.writable, hg'.answering⟩

theorem Reassembler.Move.goes (h : e.Writable o) (ha : e.Answering) (move : Reassembler.Move) :
    Goes o e (e.occurring o move) (e.moved o move) := by
  cases move with
  | accept d =>
    obtain ⟨e', hr, hm⟩ := accept_answers h ha d
    have hperform : (Reassembler.Move.accept d).perform o e = (.ok (e.turnout o d).large?, e') :=
      perform_bind hr
    have hoccurring : e.occurring o (.accept d) = (e.turnout o d).occurring := by
      rw [Endpoint.occurring, Endpoint.moved, hperform, hm.calls, List.drop_left]
      rfl
    have hc := turnout_conserves h hm
    rw [hoccurring, Endpoint.moved, hperform]
    exact ⟨hc.follows, hc.writable, hm.toContinued.answering ha⟩
  | discard =>
    obtain ⟨e', hr, hm⟩ := discard_answers (h.responsive ha)
    have hperform : Reassembler.Move.discard.perform o e = (.ok none, e') := perform_bind hr
    have hoccurring : e.occurring o .discard =
        ((e.reassembler.get o).slot.map fun a => Call.spoolDelete a.spool).toList.map .call := by
      rw [Endpoint.occurring, Endpoint.moved, hperform, hm.calls, List.drop_left]
      exact List.append_nil _
    have hclosed :
        ∀ call ∈ ((e.reassembler.get o).slot.map fun a => Call.spoolDelete a.spool).toList,
          ∀ id, call ≠ .openSpool id := by
      intro call hc
      obtain ⟨a, -, rfl⟩ := Option.map_eq_some_iff.1 (Option.mem_toList.1 hc)
      exact nofun
    rw [hoccurring, Endpoint.moved, hperform]
    refine ⟨?_, hm.writable_empty h.clean, hm.toContinued.answering ha⟩
    rw [hm.shelf_closed hclosed, Endpoint.shelf]
    rcases (e.reassembler.get o).slot with _ | a
    · exact .nil
    · exact .single .deletes
  | link change =>
    have hoccurring : e.occurring o (.link change) = [] := by
      have hcalls : (e.moved o (.link change)).calls = e.calls := rfl
      rw [Endpoint.occurring, hcalls, List.drop_length]
      rfl
    rw [hoccurring]
    exact ⟨.nil, ⟨h.clean, h.opened, h.unfinished, h.persistent⟩, ⟨ha.plan, ha.appends⟩⟩

theorem movedAll_goes (moves : List Reassembler.Move) : ∀ {e : Endpoint}, e.Writable o →
    e.Answering → Goes o e (e.history o moves) (e.movedAll o moves) := by
  induction moves with
  | nil => exact fun h ha => ⟨.nil, h, ha⟩
  | cons move moves ih =>
    intro e h ha
    have hgoes := Reassembler.Move.goes h ha move
    exact hgoes.trans (ih hgoes.writable hgoes.answering)

/-- Whatever is done with a reassembler that starts empty, and whichever of its calls fail: of the
spools that were opened since, one is in use at most, and each other was returned in a large message
or deleted, and that once. None is written to or finished after that. From there every event is
answered, and opens a spool only if none is in use. A large message that is coming in can be given
up, and only then does the answer say that there was one. -/
theorem spools_conserved (hc : e.storage.Clean) (hs : (e.reassembler.get o).slot = none)
    (ha : e.Answering) (moves : List Reassembler.Move) :
    let e' := e.movedAll o moves
    let history := e.history o moves
    let slot := (e'.reassembler.get o).slot
    ((slot.map (·.spool.place)).toList ++ history.filterMap Occurrence.returned? ++
        history.filterMap Occurrence.deleted?).Perm
      (e'.openedSince e) ∧
    (history.Pairwise fun x y => ∀ p, x.Releases p → y.written? ≠ some p) ∧
    (∀ d, ∃ r e'', Reassembler.accept o d e' = (.ok r, e'') ∧
      ∀ id, .openSpool id ∈ e''.calls.drop e'.calls.length → slot = none) ∧
    ∃ e'', Reassembler.discard o e' = (.ok slot.isSome, e'') ∧
      (e''.reassembler.get o).slot = none := by
  intro e' history slot
  have hstart : e.shelf o = ⟨e.storage.records.length, none⟩ := by rw [Endpoint.shelf, hs]; rfl
  have hwritable : e.Writable o := by
    have hnone {a : Accumulator} (h : (e.reassembler.get o).slot = some a) : False :=
      nomatch hs.symm.trans h
    exact ⟨hc, fun _ h => (hnone h).elim, fun _ h => (hnone h).elim, fun h => by
      rw [hs] at h
      cases h⟩
  have hgoes : Goes o e history e' := movedAll_goes moves hwritable ha
  have hpartition := hgoes.follows.partition.2
  have hplaces : e'.openedSince e = List.range' e.storage.records.length
        (e'.storage.records.length - e.storage.records.length) := by
    rw [Endpoint.openedSince, List.range_eq_range', List.drop_range']
    simp
  rw [hstart] at hpartition
  rw [hplaces]
  refine ⟨hpartition, hgoes.follows.pairwise fun p hp => ?_, fun d => ?_, ?_⟩
  · rw [hstart] at hp
    cases hp
  · obtain ⟨e'', hr, hm⟩ := accept_answers hgoes.writable hgoes.answering d
    refine ⟨_, e'', hr, fun id hid => ?_⟩
    rw [hm.calls, List.drop_left] at hid
    exact (turnout_conserves hgoes.writable hm).opens id hid
  · obtain ⟨e'', hr, hm⟩ := discard_answers (hgoes.writable.responsive hgoes.answering)
    exact ⟨e'', hr, hm.slot⟩

/-- The first spool is deleted because it cannot be registered, the second is returned, and the
third is still in use. -/
theorem spools_conserved_three :
    let plan : Plan := fun n point =>
      if n = 3 ∧ point = .register then some (.fails { text := "disk full" }) else none
    let e : Endpoint :=
      { Endpoint.start { minLargeMessageSize := 4 } "orders" 10 ⟨1⟩ .memory none with plan }
    let moves : List Reassembler.Move := [
      .link fun l => (l.beginWith 0 none).transfer [1, 2, 3, 4] true, .accept ⟨1⟩,
      .link fun l => l.transfer [5, 6, 7, 8] true, .accept ⟨1⟩,
      .link fun l => l.transfer [9] false, .accept ⟨1⟩,
      .link fun l => (l.beginWith 0 none).transfer [1, 2, 3, 4] true, .accept ⟨2⟩]
    let e' := e.movedAll .receiver moves
    let history := e.history .receiver moves
    let slot := (e'.reassembler.get .receiver).slot
    (e.storage.Clean ∧ (e.reassembler.get .receiver).slot = none ∧ e.Answering) ∧
      (slot.map (·.spool.place) = some 2 ∧ history.filterMap Occurrence.returned? = [1] ∧
        history.filterMap Occurrence.deleted? = [0]) ∧
      ([2] ++ [1] ++ [0]).Perm [0, 1, 2] ∧
      (history.Pairwise fun x y => ∀ p, x.Releases p → y.written? ≠ some p) ∧
      ∃ e'', Reassembler.discard .receiver e' = (.ok true, e'') ∧
        (e''.reassembler.get .receiver).slot = none := by
  intro plan e moves e' history slot
  have hclean : e.storage.Clean := .empty rfl rfl
  have hempty : (e.reassembler.get .receiver).slot = none := rfl
  have hanswering : e.Answering := by
    refine ⟨fun n point _ k _ => ?_, rfl⟩
    simp only [e, plan]
    split <;> simp
  have hslot : slot.map (·.spool.place) = some 2 := by decide +kernel
  have hreturned : history.filterMap Occurrence.returned? = [1] := by decide +kernel
  have hdeleted : history.filterMap Occurrence.deleted? = [0] := by decide +kernel
  have hopened : e'.openedSince e = [0, 1, 2] := by decide +kernel
  have hsome : slot.isSome := by decide +kernel
  obtain ⟨hpartition, hpairwise, -, hdiscard⟩ := spools_conserved hclean hempty hanswering moves
  rw [hslot, hreturned, hdeleted, hopened] at hpartition
  rw [hsome] at hdiscard
  exact ⟨⟨hclean, hempty, hanswering⟩, ⟨hslot, hreturned, hdeleted⟩, hpartition, hpairwise,
    hdiscard⟩

end Moving

end ReceivingLink
