import ReceivingLink.Proofs.Turns

/-!
# What is sent and what arrives

The bytes that a peer sends for a delivery are those of the transfers it makes while the delivery is
current. What routing gets of a delivery is a message with its content, as it is right after the
event that passed it on. In an open receiver every event of a run leaves the large message that is
coming in, and the link, in order: `Orderly.after`.
-/

namespace ReceivingLink

/-- What routing sees of a message. -/
structure Arrival where
  delivery : DeliveryId
  format : UInt32
  size : Nat
  isLarge : Bool
  content : Bytes
  deriving DecidableEq

namespace Endpoint

/-- What routing sees of a handoff. -/
def arrival (e : Endpoint) (h : Handoff) : Arrival where
  delivery := h.delivery
  format := h.message.format
  size := h.message.size
  isLarge := h.message.isLarge
  content := e.content h.message

/-- What routing gets in an event. -/
def arrivals (e : Endpoint) (event : Event) : List Arrival :=
  ((e.after event).handoffs.drop e.handoffs.length).map (e.after event).arrival

/-- What routing gets in a run, in order. -/
def routed (e : Endpoint) : List Event → List Arrival
  | [] => []
  | event :: run => e.arrivals event ++ (e.after event).routed run

/-- The bytes that an event sends for a delivery. -/
def sends (e : Endpoint) (d : DeliveryId) : Event → Bytes
  | .transfer bytes _ => if e.link.current = some d then bytes else []
  | _ => []

/-- The bytes that a run sends for a delivery. -/
def sent (e : Endpoint) (d : DeliveryId) : List Event → Bytes
  | [] => []
  | event :: run => e.sends d event ++ (e.after event).sent d run

/-- A transfer is one for a delivery. -/
def Admits (e : Endpoint) : Event → Prop
  | .transfer _ _ => e.link.queue ≠ []
  | _ => True

/-- Every transfer of a run is one for a delivery. -/
def AdmitsAll (e : Endpoint) : List Event → Prop
  | [] => True
  | event :: run => e.Admits event ∧ (e.after event).AdmitsAll run

instance (e : Endpoint) : DecidablePred e.Admits
  | .transfer _ _ => inferInstanceAs (Decidable (_ ≠ _))
  | .begin .. | .abort | .setDrain _ | .message _ | .flow .. | .close _ | .closeWithError _
  | .runPending | .settle _ | .submit | .setMode _ => isTrue trivial

instance decidableAdmitsAll : ∀ (e : Endpoint) (run : List Event), Decidable (e.AdmitsAll run)
  | _, [] => isTrue trivial
  | e, event :: run =>
    have := decidableAdmitsAll (e.after event) run
    inferInstanceAs (Decidable (_ ∧ _))

/-- The link and the large message that is coming in are in order, and will not be put out of it by
a panic. -/
structure Orderly (e : Endpoint) : Prop where
  tidy : e.Tidy
  sound : e.link.Sound
  mild : e.Mild

/-- An open receiver in which nothing will go wrong. -/
structure Steady (e : Endpoint) : Prop extends Orderly e where
  opened : e.lifecycle = .opened
  calm : e.Calm
  counted : ∃ accepted, Books e accepted []

end Endpoint

section Runs

variable {e : Endpoint}

theorem arrivals_nil {event : Event} (h : (e.after event).handoffs = e.handoffs) :
    e.arrivals event = [] := by
  rw [Endpoint.arrivals, h]
  simp

theorem arrivals_hands {event : Event} {d : DeliveryId} {handoff : Handoff}
    (h : Hands e d handoff (e.after event)) :
    e.arrivals event = [(e.after event).arrival handoff] := by
  have hhandoffs : (e.after event).handoffs = e.handoffs ++ [handoff] := by
    rw [h.setting.handoffs]
    simp [Endpoint.handoffs, Endpoint.noting, Call.handoff?]
  rw [Endpoint.arrivals, hhandoffs]
  simp

end Runs

section Peer

variable {e : Endpoint} {d : DeliveryId}

theorem Link.Sound.transfer_current {l : Link} (h : l.Sound) (hd : l.current = some d)
    (bytes : Bytes) (more : Bool) : (l.transfer bytes more).delivery d =
      { l.delivery d with available := (l.buffer ++ bytes).length, isPartial := more } := by
  refine Link.delivery_changeCurrent_self _ (fun _ => ?_) hd (h.known (List.mem_of_mem_head? hd))
  rfl

theorem Link.Sound.abort_current {l : Link} (h : l.Sound) (hd : l.current = some d) :
    (l.abort.delivery d).isAborted := by
  have hdelivery := Link.delivery_changeCurrent_self { l with buffer := [] }
    (f := fun x => { x with isAborted := true, isPartial := false, available := 0 }) (fun _ => rfl)
    hd (h.known (List.mem_of_mem_head? hd))
  exact congrArg Delivery.isAborted hdelivery

theorem transfer_ne {l : Link} (hd : l.current ≠ some d) (bytes : Bytes) (more : Bool) :
    (l.transfer bytes more).delivery d = l.delivery d := by
  refine Link.delivery_changeCurrent_ne _ (fun _ => ?_) hd
  rfl

/-- A delivery that waits behind another, or was not begun, is not the current one. -/
theorem current_ne_of_waiting (hs : e.link.Sound) (h : d ∈ e.link.queue.tail ∨ d ∉ e.begun) :
    e.link.current ≠ some d := by
  intro hd
  obtain ⟨rest, hq⟩ : ∃ rest, e.link.queue = d :: rest := List.head?_eq_some_iff.1 hd
  rcases h with h | h
  · have hnodup := hs.nodup
    rw [hq, List.nodup_cons] at hnodup
    exact hnodup.1 (by simpa [hq] using h)
  · exact h (hs.known (by simp [hq]))

theorem atHand_transfer (e : Endpoint) (bytes : Bytes) (more : Bool) :
    ({ e with link := e.link.transfer bytes more } : Endpoint).atHand = e.atHand ++ bytes := by
  have hbuffer : (e.link.transfer bytes more).buffer = e.link.buffer ++ bytes := by
    simp [Link.transfer]
  unfold Endpoint.atHand
  rw [hbuffer, ← List.append_assoc]
  rfl

namespace Endpoint.Tidy

theorem changeLink (h : e.Tidy) {link : Link} (hq : link.queue = e.link.queue)
    (hf : ∀ d, (link.delivery d).format = (e.link.delivery d).format) :
    ({ e with link } : Endpoint).Tidy where
  clean := h.clean
  writes := h.writes
  format := fun a d ha hd => by
    rw [hf]
    refine h.format a d ha ?_
    rw [Link.current, ← hq]
    exact hd
  headed := by
    rw [hq]
    exact h.headed

theorem transfer (h : e.Tidy) (bytes : Bytes) (more : Bool) :
    ({ e with link := e.link.transfer bytes more } : Endpoint).Tidy :=
  h.changeLink (by simp [Link.transfer])
    (Link.delivery_changeCurrent _ (fun _ => by rfl) fun _ => by rfl)

theorem abort (h : e.Tidy) : ({ e with link := e.link.abort } : Endpoint).Tidy :=
  h.changeLink (by simp [Link.abort])
    (Link.delivery_changeCurrent _ (fun _ => by rfl) fun _ => by rfl)

theorem begin (h : e.Tidy) (hn : e.link.Numbered) (hk : e.link.queue ⊆ e.begun) (format : UInt32)
    (remote : Option RemoteState) :
    ({ e with link := e.link.beginWith format remote } : Endpoint).Tidy := by
  rcases hslot : e.slot with _ | a
  · exact tidy_none h.clean hslot
  · obtain ⟨d, hd⟩ : ∃ d, e.link.current = some d := by
      rcases hq : e.link.queue with _ | ⟨d, rest⟩
      · exact absurd (hslot.symm.trans (h.headed hq)) (by simp)
      · exact ⟨d, by simp [Link.current, hq]⟩
    have hd' : (e.link.beginWith format remote).current = some d := by
      rw [Link.current, Link.beginWith_queue, List.head?_append]
      exact congrArg (Option.or · _) hd
    refine tidy_some h.clean hslot hd' (h.writes a hslot) ?_
    rw [hn.delivery_beginWith format remote (hk (List.mem_of_mem_head? hd))]
    exact h.format a d hslot hd

end Endpoint.Tidy

end Peer

section Order

variable {e : Endpoint}

theorem continued_noting (e : Endpoint) (call : Call) : Continued e (e.noting call) :=
  ⟨rfl, rfl, rfl, ⟨rfl, rfl, rfl⟩, rfl, rfl, rfl, by simp [Endpoint.noting]⟩

theorem Handles.continued {e' : Endpoint} {d : DeliveryId} (h : Handles e d e') : Continued e e' :=
  h.elim (fun ⟨_, h⟩ => (continued_noting e _).trans h.setting.toContinued)
    fun h => h.setting.toContinued

theorem continued_link (e : Endpoint) (link : Link) : Continued e { e with link } :=
  ⟨rfl, rfl, rfl, ⟨rfl, rfl, rfl⟩, rfl, rfl, rfl, Nat.le_refl _⟩

theorem after_continued {event : Event} (ht : e.lifecycle = .opened → e.Tidy)
    (ho : (e.after event).lifecycle = .opened) : Continued e (e.after event) := by
  have heffect := after_effect ht event
  cases event with
  | begin | transfer | abort => exact continued_link e _
  | message d =>
    rw [Effect] at heffect
    split at heffect
    · exact heffect.continued
    · exact heffect.toContinued
  | close | closeWithError => exact heffect.elim (·.toContinued) fun h => absurd ho h.1
  | setDrain | flow | runPending | settle | submit | setMode =>
    exact (Untouched.toSameSetting heffect).toContinued

/-- A receiver that was closed is not opened again. -/
theorem opened_of_after {event : Event} (ho : (e.after event).lifecycle = .opened) :
    e.lifecycle = .opened := by
  by_contra hn
  exact hn ((after_continued (fun h => absurd h hn) ho).lifecycle.symm.trans ho)

/-- Something arrives only in an event that passes on the message of the current delivery. -/
theorem hands_of_arrival {event : Event} {arrival : Arrival} (ht : e.lifecycle = .opened → e.Tidy)
    (h : arrival ∈ e.arrivals event) : ∃ d handoff, event = .message d ∧ e.lifecycle = .opened ∧
      e.link.current = some d ∧ Hands e d handoff (e.after event) ∧
      arrival = (e.after event).arrival handoff := by
  have hnone (hn : (e.after event).handoffs = e.handoffs) : False := by
    rw [arrivals_nil hn] at h
    cases h
  have heffect := after_effect ht event
  cases event with
  | begin | transfer | abort => exact (hnone rfl).elim
  | message d =>
    rw [Effect] at heffect
    split at heffect
    · rename_i hd
      rcases heffect with ⟨handoff, hhands⟩ | hsilent
      · rw [arrivals_hands hhands] at h
        exact ⟨d, handoff, rfl, hd.1, hd.2, hhands, List.mem_singleton.1 h⟩
      · exact (hnone hsilent.setting.handoffs).elim
    · exact (hnone heffect.handoffs).elim
  | close | closeWithError => exact (hnone (heffect.elim (·.handoffs) (·.2))).elim
  | setDrain | flow | runPending | settle | submit | setMode =>
    exact (hnone (SameSetting.handoffs (Untouched.toSameSetting heffect))).elim

/-- As long as the receiver is open, no event puts the large message that is coming in out of
order. -/
theorem Endpoint.Tidy.after {event : Event} (h : e.Tidy) (hn : e.link.Numbered)
    (hk : e.link.queue ⊆ e.begun) (hm : e.Mild) (ho : (e.after event).lifecycle = .opened) :
    (e.after event).Tidy := by
  have heffect := after_effect (fun _ => h) event
  cases event with
  | begin format remote => exact h.begin hn hk format remote
  | transfer bytes more => exact h.transfer bytes more
  | abort => exact h.abort
  | message d =>
    rw [Effect] at heffect
    split at heffect
    · rcases heffect with ⟨_, h'⟩ | h'
      · exact h'.tidy
      · exact (h'.turn hm).1
    · exact heffect.tidy h
  | close | closeWithError => exact heffect.elim (·.tidy h) fun h' => absurd ho h'.1
  | setDrain | flow | runPending | settle | submit | setMode => exact Untouched.tidy heffect h

/-- As long as the receiver is open, an event leaves it in order. -/
theorem Endpoint.Orderly.after {event : Event} (h : e.Orderly) (ha : e.Admits event)
    (ho : (e.after event).lifecycle = .opened) : (e.after event).Orderly := by
  have heffect := after_effect (fun _ => h.tidy) event
  refine ⟨h.tidy.after h.sound.numbered h.sound.known h.mild ho, ?_,
    (after_continued (fun _ => h.tidy) ho).mild h.mild⟩
  cases event with
  | begin format remote => exact h.sound.begin format remote
  | transfer bytes more => exact h.sound.transfer bytes more ha
  | abort => exact h.sound.abort
  | message d =>
    rw [Effect] at heffect
    split at heffect
    · rcases heffect with ⟨_, h'⟩ | h'
      · exact h'.setting.sound h.sound
      · exact h'.setting.sound h.sound
    · exact heffect.sound h.sound
  | close | closeWithError => exact heffect.elim (·.sound h.sound) fun h' => absurd ho h'.1
  | setDrain | flow | runPending | settle | submit | setMode =>
    exact SameSetting.sound (Untouched.toSameSetting heffect) h.sound

theorem opened_of_afterAll : ∀ (run : List Event) {e : Endpoint},
    (e.afterAll run).lifecycle = .opened → e.lifecycle = .opened
  | [], _, ho => ho
  | _ :: run, _, ho => opened_of_after (opened_of_afterAll run ho)

theorem Endpoint.Orderly.afterAll : ∀ (run : List Event) {e : Endpoint}, e.Orderly →
    e.AdmitsAll run → (e.afterAll run).lifecycle = .opened → (e.afterAll run).Orderly
  | [], _, h, _, _ => h
  | _ :: run, _, h, ha, ho => (h.after ha.1 (opened_of_afterAll run ho)).afterAll run ha.2 ho

namespace Endpoint.Steady

theorem after {event : Event} (h : e.Steady) (ha : e.Admits event)
    (ho : (e.after event).lifecycle = .opened) : (e.after event).Steady where
  toOrderly := h.toOrderly.after ha ho
  opened := ho
  calm := (after_continued (fun _ => h.tidy) ho).calm h.calm
  counted := h.counted.imp' _ fun _ hb => hb.after event

theorem afterAll : ∀ (run : List Event) {e : Endpoint}, e.Steady → e.AdmitsAll run →
    (e.afterAll run).lifecycle = .opened → (e.afterAll run).Steady
  | [], _, h, _, _ => h
  | _ :: run, _, h, ha, ho => (h.after ha.1 (opened_of_afterAll run ho)).afterAll run ha.2 ho

theorem healthy (h : e.Steady) {d : DeliveryId} (hw : ¬ e.Spoiled)
    (hd : (e.link.delivery d).isAborted = false) : e.Healthy d :=
  ⟨h.calm, hw, h.counted.elim fun _ hb => hb.pending_nonneg, hd⟩

end Endpoint.Steady

namespace Endpoint.Fresh

theorem orderly (h : e.Fresh) (hc : e.storage.Clean) (hm : e.Mild) : e.Orderly where
  tidy := tidy_none hc h.slot
  sound := by
    have hnone (d : DeliveryId) : e.link.current ≠ some d := by simp [Link.current, h.queue]
    refine ⟨by simp [Link.Numbered, h.deliveries], by simp [h.queue], by simp [h.queue],
      fun d hd => absurd hd (hnone d), by simp [h.queue], fun _ => h.buffer⟩
  mild := hm

theorem steady (h : e.Fresh) (hs : e.storage.Clean) (hc : e.Calm) : e.Steady := by
  have hplan (n : Nat) (point : Point) : e.plan n point = none :=
    hc.plan n point (by simp [h.calls])
  exact ⟨h.orderly hs hc.mild, h.opened, hc, [],
    h.books (fun n point _ k => by simp [hplan]) fun n => hplan n .delivered⟩

end Endpoint.Fresh

end Order

end ReceivingLink
