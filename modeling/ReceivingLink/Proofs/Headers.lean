import ReceivingLink.Proofs.Fragments
import ReceivingLink.Proofs.Refusal

/-!
# The header section of a large message

A large message says of itself if it begins with a header section. That is told from the bytes it
is started with: what had been sent for its delivery when the receiver first was told of it with
enough for a large message, or all of it. These bytes may end within the descriptor, and then the
message denies a header section that it has; it never claims one that it has not:
`headers_iff_openings`. With a threshold of ten bytes or more it is right:
`headers_right_of_ten_le`.
-/

namespace ReceivingLink

/-- What a message says about a header section. One that is held in memory says nothing. -/
def Message.header? : Message → Option Bool
  | standard _ => none
  | large m => some m.headerPresent

/-- A peer, with a look at what the receiver starts large messages with. -/
structure Watch extends Peer where
  /-- What had been sent when a large message was started for the delivery that waits first. -/
  opening : Option Bytes := none
  /-- The parcels done, each with what a large message of it is started with. -/
  filed : List (Parcel × Bytes) := []

namespace Watch

variable (spools : Nat → Bool)

/-- What a large message is started with, if it is one by the end of an event. -/
def opens (w : Watch) : Event → Option Bytes
  | .message d =>
    if w.waiting.head?.map (·.1) = some d then
      if w.ended then none
      else w.opening.or (if spools w.body.length then some w.body else none)
    else w.opening
  | _ => w.opening

/-- The parcel that an event is the last one for. -/
def files (w : Watch) : Event → List (Parcel × Bytes)
  | .message d =>
    (w.waiting.head?.filter fun x => d = x.1 ∧ w.ended).toList.map fun x =>
      (⟨x.1, x.2, w.body⟩, w.opening.getD w.body)
  | _ => []

def step (w : Watch) (event : Event) : Option Watch :=
  (w.toPeer.step event).map fun p =>
    { toPeer := p, opening := w.opens spools event, filed := w.filed ++ w.files event }

def follow (w : Watch) : List Event → Option Watch
  | [] => some w
  | event :: run => (w.step spools event).bind (·.follow run)

/-- What a large message is started with begins the parcel, and it is enough for a large message if
the parcel is. -/
structure Sound (w : Watch) : Prop where
  opening : ∀ bytes, w.opening = some bytes → bytes <+: w.body ∧ spools bytes.length
  filed : ∀ x ∈ w.filed, x.2 <+: x.1.body ∧ (spools x.1.body.length → spools x.2.length)
  done : w.filed.map (·.1) = w.done

end Watch

section Watching

variable {spools : Nat → Bool} {w w' : Watch} {d : DeliveryId} {x : DeliveryId × UInt32}
  {rest : List (DeliveryId × UInt32)}

namespace Watch

/-- Every run of a peer can be looked at. -/
theorem follow_toPeer : ∀ (run : List Event) (w : Watch),
    (w.follow spools run).map (·.toPeer) = w.toPeer.follow run
  | [], _ => rfl
  | event :: run, w => by
    rw [follow, Peer.follow, step]
    cases w.toPeer.step event with
    | none => rfl
    | some p => exact follow_toPeer run _

/-- The receiver is told of the delivery that waits first, which is ended or not, or of another. -/
theorem told_cases (spools : Nat → Bool) (w : Watch) (d : DeliveryId) :
    (∃ format rest, w.waiting = (d, format) :: rest ∧ w.ended ∧
      w.toPeer.told d = { w.toPeer with
        waiting := rest, body := [], ended := false, done := w.done ++ [⟨d, format, w.body⟩] } ∧
      w.opens spools (.message d) = none ∧
      w.files (.message d) = [(⟨d, format, w.body⟩, w.opening.getD w.body)]) ∨
    (∃ format rest, w.waiting = (d, format) :: rest ∧ w.ended = false ∧
      w.toPeer.told d = w.toPeer ∧
      w.opens spools (.message d) =
        w.opening.or (if spools w.body.length then some w.body else none) ∧
      w.files (.message d) = []) ∨
    ((∀ x, w.waiting.head? = some x → x.1 ≠ d) ∧ w.toPeer.told d = w.toPeer ∧
      w.opens spools (.message d) = w.opening ∧ w.files (.message d) = []) := by
  rcases hw : w.waiting with _ | ⟨⟨first, format⟩, rest⟩
  · exact .inr (.inr ⟨nofun, by simp [Peer.told, hw], by simp [opens, hw], by simp [files, hw]⟩)
  by_cases hd : first = d
  · subst hd
    cases hended : w.ended with
    | true =>
      refine .inl ⟨format, rest, rfl, rfl, ?_, ?_, ?_⟩
      · simp [Peer.told, hw, hended]
      · simp [opens, hw, hended]
      · simp [files, hw, hended]
    | false =>
      refine .inr (.inl ⟨format, rest, rfl, rfl, told_open hended first, ?_, ?_⟩)
      · simp [opens, hw, hended]
      · simp [files, hw, hended]
  · refine .inr (.inr ⟨?_, ?_, ?_, ?_⟩)
    · rintro _ ⟨rfl⟩
      exact hd
    · simp [Peer.told, hw, Ne.symm hd]
    · simp [opens, hw, hd]
    · simp [files, hw, Ne.symm hd]

namespace Sound

theorem told (h : w.Sound spools) (d : DeliveryId) : Sound spools
    ⟨w.toPeer.told d, w.opens spools (.message d), w.filed ++ w.files (.message d)⟩ := by
  obtain ⟨format, rest, -, -, htold, hopens, hfiles⟩ | ⟨format, rest, -, -, htold, hopens, hfiles⟩ |
    ⟨-, htold, hopens, hfiles⟩ := told_cases spools w d <;> rw [htold, hopens, hfiles]
  · refine ⟨nofun, List.forall_mem_append.2 ⟨h.filed, List.forall_mem_singleton.2 ?_⟩, ?_⟩
    · cases hopening : w.opening with
      | none => exact ⟨List.prefix_rfl, id⟩
      | some bytes => exact ⟨(h.opening bytes hopening).1, fun _ => (h.opening bytes hopening).2⟩
    · rw [List.map_append, h.done]
      rfl
  · rw [List.append_nil]
    refine ⟨fun bytes hbytes => ?_, h.filed, h.done⟩
    obtain hbytes | ⟨-, hbytes⟩ := Option.or_eq_some_iff.1 hbytes
    · exact h.opening bytes hbytes
    · obtain ⟨henough, hbody⟩ := Option.ite_none_right_eq_some.1 hbytes
      cases hbody
      exact ⟨List.prefix_rfl, henough⟩
  · rw [List.append_nil]
    exact h

theorem step {event : Event} (h : w.Sound spools) (hw : w.step spools event = some w') :
    w'.Sound spools := by
  obtain ⟨p, hp, rfl⟩ := Option.map_eq_some_iff.1 hw
  cases event with
  | message d =>
    cases hp
    exact h.told d
  | transfer bytes more =>
    simp only [Peer.step] at hp
    split at hp
    · cases hp
    · cases hp
      refine ⟨fun opening ho => ?_, by simpa [files] using h.filed, by simpa [files] using h.done⟩
      obtain ⟨hbegins, henough⟩ := h.opening opening ho
      exact ⟨hbegins.trans (List.prefix_append ..), henough⟩
  | abort | close | closeWithError => cases hp
  | begin | setDrain | flow | runPending | settle | submit | setMode =>
    cases hp
    exact ⟨h.opening, by simpa [files] using h.filed, by simpa [files] using h.done⟩

theorem follow : ∀ (run : List Event) {w : Watch}, w.Sound spools →
    w.follow spools run = some w' → w'.Sound spools
  | [], _, h, hw => by
    cases hw
    exact h
  | event :: run, w, h, hw => by
    obtain ⟨w₁, hstep, hrest⟩ := Option.bind_eq_some_iff.1 hw
    exact (h.step hstep).follow run hrest

theorem start : Sound spools {} := ⟨nofun, nofun, rfl⟩

end Sound

end Watch

end Watching

/-- A delivery and what its message says about a header section. -/
def Handoff.label (h : Handoff) : DeliveryId × Option Bool := (h.delivery, h.message.header?)

namespace Endpoint

/-- What is to be said of a parcel if its header section is looked for in these bytes. -/
def label (e : Endpoint) (p : Parcel) (bytes : Bytes) : DeliveryId × Option Bool :=
  (p.delivery, if e.spools p.body.length then some (Header.isPresent bytes) else none)

end Endpoint

/-- The receiver has started a large message with what the peer was seen to have sent by then. -/
structure Headed (w : Watch) (e : Endpoint) : Prop where
  carries : Carries w.toPeer e
  regular : e.Regular
  opening : e.slot.map (·.headerPresent) = w.opening.map Header.isPresent
  labels : e.handoffs.map (·.label) = w.filed.map fun x => e.label x.1 x.2

section Calm

variable {e : Endpoint} {d : DeliveryId}

namespace Endpoint.Calm

theorem answering (h : e.Calm) : e.Answering where
  plan := fun n point _ k hn hpanic => by rw [h.plan n point hn] at hpanic; cases hpanic
  appends := by rw [h.faults]

theorem reports_none (h : e.Calm) {n : Nat} (hn : e.calls.length ≤ n) {call : Call}
    (hown : e.ownFailure? call = none) : e.reports n call = none := by
  simp [Endpoint.reports, h.plan n call.point hn, hown]

theorem onlyRefuses (h : e.Calm) : e.OnlyRefuses := fun n call hn hpoint => by
  refine h.reports_none hn ?_
  have hfaults := h.faults
  have hlookups := h.lookups
  cases call <;> simp_all [Endpoint.ownFailure?, Call.point, savingPoints]

/-- There is a place for a large message that is due. -/
theorem allocates (h : e.Calm) (hdue : e.isDue .receiver d) :
    e.reports.broken? e.calls.length (e.allocation d) = none := by
  have hspools : e.storage.hasSpools := h.spools (by
    simp only [Endpoint.isDue, Bool.and_eq_true] at hdue
    exact hdue.1)
  have hgenerate : e.reports e.calls.length .generateId = none :=
    h.reports_none (Nat.le_refl _) (by simp [Endpoint.ownFailure?, h.faults])
  have hopen : e.reports (e.calls.length + 1) (.openSpool (e.blank d).id) = none :=
    h.reports_none (Nat.le_succ _) (by simp [Endpoint.ownFailure?, hspools])
  rw [Endpoint.allocation, Reports.broken?_of_none hgenerate, Reports.broken?_of_none hopen]
  rfl

end Endpoint.Calm

end Calm

section Receiver

variable {w w' : Watch} {e : Endpoint} {d : DeliveryId} {format : UInt32}
  {rest : List (DeliveryId × UInt32)}

theorem Reports.written_header {r : Reports} {n : Nat} {a : Accumulator} {bytes : Bytes} :
    (r.written n a bytes).1.headerPresent = a.headerPresent := by
  unfold written
  split
  · rfl
  · split <;> rfl

theorem Carries.buffer_eq {p : Peer} (h : Carries p e) (hslot : e.slot = none) :
    e.link.buffer = p.body := by
  rw [← h.atHand, atHand_none hslot]

theorem Carries.isDue_eq {p : Peer} (h : Carries p e) (hd : e.link.current = some d)
    (hslot : e.slot = none) : e.isDue .receiver d = e.spools p.body.length := by
  have hlen : (e.link.delivery d).available = p.body.length := by
    rw [h.steady.sound.measured d hd, h.buffer_eq hslot]
  rw [Endpoint.isDue, h.threshold, hlen]
  rfl

theorem label_continued {e' : Endpoint} (h : Continued e e') : e'.label = e.label := by
  funext p bytes
  rw [Endpoint.label, h.spools]
  rfl

namespace Headed

theorem refusing (h : Headed w e) : e.Refusing where
  toRegular := h.regular
  toOrderly := h.carries.steady.toOrderly
  answering := h.carries.steady.calm.answering
  refuses := h.carries.steady.calm.onlyRefuses
  whole := h.carries.whole

theorem opening_none (h : Headed w e) (hslot : e.slot = none) : w.opening = none := by
  have hopening := h.opening
  rw [hslot] at hopening
  exact Option.map_eq_none_iff.1 hopening.symm

theorem opening_some (h : Headed w e) {a : Accumulator} (hslot : e.slot = some a) :
    ∃ bytes, w.opening = some bytes ∧ Header.isPresent bytes = a.headerPresent := by
  have hopening := h.opening
  rw [hslot] at hopening
  exact Option.map_eq_some_iff.1 hopening.symm

/-- A message says of a header section what the bytes say that it is started with. -/
theorem completes (h : Headed w e) (hw : w.waiting = (d, format) :: rest) (hended : w.ended) :
    ∃ m, (e.turnout .receiver d).result = .ok (.complete m) ∧ m.header? =
      if e.spools w.body.length then some (Header.isPresent (w.opening.getD w.body)) else none := by
  have hd := h.carries.current hw
  have hfirst := h.carries.first (d, format) (by rw [hw]; rfl)
  simp only [Delivery.sender, hended, Prod.mk.injEq] at hfirst
  have hseals {n : Nat} (hn : e.calls.length ≤ n) {a : Accumulator} (hi : a.incomplete = false)
      (l : Link) := h.refusing.refuses.sealed_complete hn hi l
  rcases hslot : e.slot with _ | a
  · have hopening := h.opening_none hslot
    cases hspools : e.spools w.body.length with
    | true =>
      have hdue : e.isDue .receiver d := (h.carries.isDue_eq hd hslot).trans hspools
      have hstarts := h.refusing.refuses.opening_unbroken (h.carries.steady.calm.allocates hdue)
      rw [turnout_behind hfirst.2.2 hslot hfirst.2.1 hdue hstarts]
      refine ⟨_, hseals (Nat.le_add_right _ _) rfl _, ?_⟩
      rw [hopening]
      exact congrArg (some ∘ Header.isPresent) (h.carries.buffer_eq hslot)
    | false =>
      have hdue : e.isDue .receiver d = false := (h.carries.isDue_eq hd hslot).trans hspools
      have hcreate := h.refusing.refuses (e.calls.length + 2) (.createMessage e.link.buffer)
        (Nat.le_add_right _ _) (by simp [Call.point, savingPoints])
      rw [turnout_small hfirst.2.2 hslot hfirst.2.1 hdue, Reports.small, hcreate]
      exact ⟨_, rfl, rfl⟩
  · have hspools : e.spools w.body.length := h.carries.large (by rw [hslot]; rfl)
    obtain ⟨bytes, hbytes, hheader⟩ := h.opening_some hslot
    have hi : a.incomplete = false := by simpa [spoiled_some hslot] using h.carries.whole
    rw [turnout_sealed hfirst.2.2 hfirst.2.1 hslot]
    refine ⟨_, hseals (Nat.le_refl _) hi _, ?_⟩
    rw [if_pos hspools, hbytes]
    exact congrArg some hheader.symm

/-- What a large message was started with is what had come by then. -/
theorem opens (h : Headed w e) (hw : w.waiting = (d, format) :: rest) (hopen : w.ended = false) :
    (e.turnout .receiver d).slot.map (·.headerPresent) =
      (w.opening.or (if e.spools w.body.length then some w.body else none)).map
        Header.isPresent := by
  have hd := h.carries.current hw
  have hfirst := h.carries.first (d, format) (by rw [hw]; rfl)
  simp only [Delivery.sender, hopen, Prod.mk.injEq] at hfirst
  rcases hslot : e.slot with _ | a
  · rw [h.opening_none hslot, Option.none_or]
    cases hspools : e.spools w.body.length with
    | true =>
      have hdue : e.isDue .receiver d := (h.carries.isDue_eq hd hslot).trans hspools
      have hstarts := h.refusing.refuses.opening_unbroken (h.carries.steady.calm.allocates hdue)
      rw [turnout_started hfirst.2.2 hslot hfirst.2.1 hdue hstarts]
      exact congrArg (some ∘ Header.isPresent) (h.carries.buffer_eq hslot)
    | false =>
      have hdue : e.isDue .receiver d = false := (h.carries.isDue_eq hd hslot).trans hspools
      rw [turnout_quiet hfirst.2.2 hslot hfirst.2.1 hdue]
      rfl
  · obtain ⟨bytes, hbytes, hheader⟩ := h.opening_some hslot
    rw [turnout_received hfirst.2.2 hfirst.2.1 hslot, hbytes, Option.some_or, Option.map_some,
      hheader]
    exact congrArg some Reports.written_header

theorem message (h : Headed w e) (d : DeliveryId) : Headed
    ⟨w.toPeer.told d, w.opens e.spools (.message d), w.filed ++ w.files (.message d)⟩
    (e.after (.message d)) := by
  obtain ⟨hcarries, -⟩ := h.carries.message d
  have hregular := h.regular.after (.message d)
  have heffect := after_effect (fun _ => h.carries.steady.tidy) (.message d)
  rw [Effect] at heffect
  have hopen := h.carries.steady.opened
  have hlabel : (e.after (.message d)).label = e.label := label_continued
    (after_continued (fun _ => h.carries.steady.tidy) hcarries.steady.opened)
  -- nothing is passed on
  have hkept (hh : (e.after (.message d)).handoffs = e.handoffs) :
      (e.after (.message d)).handoffs.map (·.label) =
        (w.filed ++ []).map fun x : Parcel × Bytes => (e.after (.message d)).label x.1 x.2 := by
    rw [hh, hlabel, List.append_nil]
    exact h.labels
  obtain ⟨format, rest, hw, hended, -, hopens, hfiles⟩ |
    ⟨format, rest, hw, hended, -, hopens, hfiles⟩ | ⟨hstray, -, hopens, hfiles⟩ :=
    w.told_cases e.spools d
  · have hd := h.carries.current hw
    have hfirst := h.carries.first (d, format) (by rw [hw]; rfl)
    simp only [Delivery.sender, hended, Prod.mk.injEq] at hfirst
    have hhealthy := h.carries.steady.healthy h.carries.whole hfirst.2.2
    rw [if_pos ⟨hopen, hd⟩] at heffect
    obtain ⟨handoff, hhands⟩ := heffect.hands hhealthy hfirst.2.1
    obtain ⟨m, hm, hheader⟩ := h.completes hw hended
    obtain ⟨passed, hpassed, hmem⟩ := h.refusing.passes hhealthy.counted hopen hd hm
    have hhandoffs : (e.after (.message d)).handoffs = e.handoffs ++ [handoff] := by
      rw [hhands.setting.handoffs]
      simp [Endpoint.handoffs, Endpoint.noting, Call.handoff?]
    obtain rfl := List.append_cancel_left (hpassed.symm.trans hhandoffs)
    obtain rfl := List.mem_singleton.1 hmem
    rw [hopens, hfiles]
    refine ⟨hcarries, hregular, ?_, ?_⟩
    · rw [show (e.after (.message d)).slot = none from hhands.moved.slot]
      rfl
    · rw [hhandoffs, List.map_append, List.map_append, h.labels, hlabel]
      exact congrArg (_ ++ [·]) (Prod.ext rfl hheader)
  · have hd := h.carries.current hw
    have hfirst := h.carries.first (d, format) (by rw [hw]; rfl)
    simp only [Delivery.sender, hended, Prod.mk.injEq] at hfirst
    rw [if_pos ⟨hopen, hd⟩] at heffect
    have hlands := message_lands h.regular.writable h.refusing.answering hopen hd
    rw [hopens, hfiles]
    refine ⟨hcarries, hregular, ?_, hkept (heffect.silent hfirst.2.1).setting.handoffs⟩
    rw [hlands.slot]
    exact h.opens hw hended
  · have hd : e.link.current ≠ some d := by
      intro hd
      rw [Link.current, h.carries.queue, List.head?_map] at hd
      obtain ⟨x, hx, hxd⟩ := Option.map_eq_some_iff.1 hd
      exact hstray x hx hxd
    rw [if_neg fun hn => hd hn.2] at heffect
    rw [hopens, hfiles]
    exact ⟨hcarries, hregular, (congrArg _ heffect.slot_eq).trans h.opening, hkept heffect.handoffs⟩

theorem step {event : Event} (h : Headed w e) (hw : w.step e.spools event = some w') :
    Headed w' (e.after event) := by
  obtain ⟨p, hp, rfl⟩ := Option.map_eq_some_iff.1 hw
  obtain ⟨hcarries, -⟩ := h.carries.after hp
  have hregular := h.regular.after event
  have heffect := after_effect (fun _ => h.carries.steady.tidy) event
  have hkept (hfiles : w.files event = []) (hh : (e.after event).handoffs = e.handoffs)
      (hslot : (e.after event).slot = e.slot) (hopens : w.opens e.spools event = w.opening)
      (hlabel : (e.after event).label = e.label) :
      Headed ⟨p, w.opens e.spools event, w.filed ++ w.files event⟩ (e.after event) := by
    refine ⟨hcarries, hregular, ?_, ?_⟩
    · rw [hslot, hopens]
      exact h.opening
    · rw [hh, hfiles, List.append_nil, hlabel]
      exact h.labels
  cases event with
  | message d =>
    cases hp
    exact h.message d
  | begin | transfer => exact hkept rfl rfl rfl rfl rfl
  | abort | close | closeWithError => cases hp
  | setDrain | flow | runPending | settle | submit | setMode =>
    have hu : Untouched e (e.after _) := heffect
    exact hkept rfl hu.handoffs hu.slot_eq rfl (label_continued hu.toContinued)

theorem follow : ∀ (run : List Event) {w : Watch} {e : Endpoint}, Headed w e →
    w.follow e.spools run = some w' →
    Headed w' (e.afterAll run) ∧ (e.afterAll run).label = e.label
  | [], _, _, h, hw => by
    cases hw
    exact ⟨h, rfl⟩
  | event :: run, w, e, h, hw => by
    obtain ⟨w₁, hstep, hrest⟩ := Option.bind_eq_some_iff.1 hw
    have h₁ := h.step hstep
    have hcontinued := after_continued (fun _ => h.carries.steady.tidy) h₁.carries.steady.opened
    rw [← hcontinued.spools] at hrest
    obtain ⟨hend, hlabel⟩ := h₁.follow run hrest
    exact ⟨hend, hlabel.trans (label_continued hcontinued)⟩

theorem fresh (h : e.Fresh) (hs : e.storage.Clean) (hc : e.Calm) : Headed {} e where
  carries := .fresh h hs hc
  regular := h.regular hs fun n point _ k => by simp [hc.plan n point (by simp [h.calls])]
  opening := by
    rw [show e.slot = none from h.slot]
    rfl
  labels := by
    rw [Endpoint.handoffs, h.calls]
    rfl

end Headed

theorem Header.isPresent_iff {bytes : Bytes} :
    Header.isPresent bytes ↔ shortDescriptor <+: bytes ∨ longDescriptor <+: bytes := by
  simp [isPresent]

theorem Header.isPresent_mono {bytes bytes' : Bytes} (h : bytes <+: bytes')
    (hheader : isPresent bytes) : isPresent bytes' :=
  isPresent_iff.2 ((isPresent_iff.1 hheader).imp (·.trans h) (·.trans h))

/-- Ten bytes are enough to see a header section. -/
theorem Header.isPresent_of_ten_le {bytes bytes' : Bytes} (h : bytes <+: bytes')
    (hlen : 10 ≤ bytes.length) (hheader : isPresent bytes') : isPresent bytes := by
  refine isPresent_iff.2 ((isPresent_iff.1 hheader).imp (fun hshort => ?_) fun hlong => ?_)
  · exact List.prefix_of_prefix_length_le hshort h (Nat.le_trans (by decide) hlen)
  · exact List.prefix_of_prefix_length_le hlong h hlen

theorem label_eq_iff {p : Parcel} {bytes : Bytes} (h : bytes <+: p.body) :
    e.label p bytes = e.label p p.body ↔
      (e.spools p.body.length → Header.isPresent p.body → Header.isPresent bytes) := by
  have hmono := Header.isPresent_mono h
  unfold Endpoint.label
  cases e.spools p.body.length with
  | false => simp
  | true =>
    simp only [if_true, Prod.mk.injEq, true_and, Option.some.injEq, forall_const]
    exact ⟨fun heq hheader => heq ▸ hheader, fun hback => Bool.eq_iff_iff.2 ⟨hmono, hback⟩⟩

theorem labels_eq (h : e.Fresh) (hs : e.storage.Clean) (hc : e.Calm) (run : List Event)
    (hw : Watch.follow e.spools {} run = some w) :
    (e.afterAll run).handoffs.map (·.label) = w.filed.map fun x => e.label x.1 x.2 := by
  obtain ⟨hend, hlabel⟩ := (Headed.fresh h hs hc).follow run hw
  rw [← hlabel]
  exact hend.labels

/-- However deliveries are cut into transfers and whenever the receiver is told of them, a message
that was spooled says of a header section what the bytes say that it was started with. What it says
holds of all that was spooled if and only if the descriptor of a header section is within these
bytes. -/
theorem headers_iff_openings (h : e.Fresh) (hs : e.storage.Clean) (hc : e.Calm) (run : List Event)
    (hw : Watch.follow e.spools {} run = some w) :
    let told := (e.afterAll run).handoffs.map (·.label)
    e.routed run = w.filed.map (fun x => e.expects x.1) ∧
      told = w.filed.map (fun x => e.label x.1 x.2) ∧
      (∀ x ∈ w.filed, x.2 <+: x.1.body ∧ (e.spools x.1.body.length → e.spools x.2.length)) ∧
      (told = w.filed.map (fun x => e.label x.1 x.1.body) ↔ ∀ x ∈ w.filed,
        e.spools x.1.body.length → Header.isPresent x.1.body → Header.isPresent x.2) := by
  intro told
  have hsound : w.Sound e.spools := Watch.Sound.start.follow run hw
  have hpeer : Peer.follow {} run = some w.toPeer := by
    rw [← Watch.follow_toPeer run {}, hw]
    rfl
  have hrouted : e.routed run = w.filed.map fun x => e.expects x.1 := by
    rw [(routed_eq_done h hs hc run hpeer).1, ← hsound.done, List.map_map]
    rfl
  have htold : told = w.filed.map fun x => e.label x.1 x.2 := labels_eq h hs hc run hw
  refine ⟨hrouted, htold, hsound.filed, ?_⟩
  rw [htold, List.map_inj_left]
  exact forall₂_congr fun x hx => label_eq_iff (hsound.filed x hx).1

/-- With a threshold of ten bytes or more a message that was spooled is right about its header
section. -/
theorem headers_right_of_ten_le (h : e.Fresh) (hs : e.storage.Clean) (hc : e.Calm)
    (hten : ∀ threshold, e.config.largeMessageThreshold = some threshold → 10 ≤ threshold)
    (run : List Event) (hw : Watch.follow e.spools {} run = some w) :
    (e.afterAll run).handoffs.map (·.label) = w.filed.map fun x => e.label x.1 x.1.body := by
  have hsound : w.Sound e.spools := Watch.Sound.start.follow run hw
  rw [labels_eq h hs hc run hw]
  refine List.map_congr_left fun x hx => ?_
  obtain ⟨hbegins, henough⟩ := hsound.filed x hx
  refine (label_eq_iff hbegins).2 fun hspools hheader => ?_
  have hspools := henough hspools
  simp only [Endpoint.spools, Bool.and_eq_true, Option.any_eq_true, decide_eq_true_eq] at hspools
  obtain ⟨-, threshold, hthreshold, hle⟩ := hspools
  exact Header.isPresent_of_ten_le hbegins (Nat.le_trans (hten threshold hthreshold) hle) hheader

/-- Two deliveries with a header section. The first is spooled from the middle of the descriptor on,
and its message denies it; the second is not. -/
theorem headers_iff_openings_two :
    let e : Endpoint := .start { minLargeMessageSize := 4 } "orders" 10 ⟨1⟩ .memory none
    let long : Bytes := [0x00, 0x80, 0, 0, 0, 0, 0, 0, 0, 0x70]
    let short : Bytes := [0x00, 0x53, 0x70, 0xc0]
    let run : List Event := [.begin 0 none, .transfer (long.take 4) true, .message ⟨1⟩,
      .transfer (long.drop 4) false, .message ⟨1⟩, .begin 0 none, .transfer (short.take 3) true,
      .message ⟨2⟩, .transfer (short.drop 3) false, .message ⟨2⟩]
    (e.afterAll run).handoffs.map (·.label) = [(⟨1⟩, some false), (⟨2⟩, some true)] ∧
      Header.isPresent long ∧ Header.isPresent short := by
  intro e long short run
  have hfresh : e.Fresh := Endpoint.start_fresh ..
  have hs : e.storage.Clean := .empty rfl rfl
  have hc : e.Calm := ⟨fun _ _ _ => rfl, rfl, fun _ => rfl, rfl⟩
  have hw : Watch.follow e.spools {} run = some
      { begun := 2, done := [⟨⟨1⟩, 0, long⟩, ⟨⟨2⟩, 0, short⟩],
        filed := [(⟨⟨1⟩, 0, long⟩, long.take 4), (⟨⟨2⟩, 0, short⟩, short)] } := rfl
  exact ⟨(headers_iff_openings hfresh hs hc run hw).2.1, rfl, rfl⟩

/-- A message of which one byte comes first denies the header section that it begins with. -/
theorem header_missed_of_first_byte :
    let e : Endpoint := .start { minLargeMessageSize := 1 } "orders" 10 ⟨1⟩ .memory none
    let run : List Event := [.begin 0 none, .transfer [0x00] true, .message ⟨1⟩,
      .transfer [0x53, 0x70, 0xc0, 0x02, 0x01, 0x41] false, .message ⟨1⟩]
    (e.afterAll run).handoffs.map (·.label) = [(⟨1⟩, some false)] ∧
      (e.routed run).map (fun x => (x.isLarge, Header.isPresent x.content)) = [(true, true)] := by
  decide +kernel

end Receiver

end ReceivingLink
