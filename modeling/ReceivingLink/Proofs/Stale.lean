import ReceivingLink.Proofs.Oblivious

/-!
# Events that come too late or too early

An event for a delivery that is not at the head of the link is disregarded, and so is every event
once the receiver is being closed. Whatever such events come in between, the rest of a run answers
the same, calls the same and leaves the same; only that they were disregarded is told:
`strays_unseen`.
-/

namespace ReceivingLink

/-- One step of a run: something happens to the endpoint, or something is called of it, on the
handler or elsewhere. -/
inductive Move where
  | event (event : Event)
  | call (op : Operation) (elsewhere : Bool)

def Move.perform : Move → Act Panic Endpoint (Except ReceiverError Unit)
  | .event ev => ev.perform
  | .call op elsewhere => if elsewhere then op.perform else onHandler op.perform

@[simp] theorem Move.perform_event (ev : Event) : (Move.event ev).perform = ev.perform := rfl

/-- A step of a run, or an event for a delivery that strayed into it. -/
inductive Entry where
  | own (move : Move)
  | stray (d : DeliveryId)

namespace Entry

def move : Entry → Move
  | own move => move
  | stray d => .event (.message d)

def own? : Entry → Option Move
  | own move => some move
  | stray _ => none

@[simp] theorem move_own (m : Move) : (own m).move = m := rfl

@[simp] theorem move_stray (d : DeliveryId) : (stray d).move = .event (.message d) := rfl

end Entry

/-- The answers of a run, with strays answered in between. -/
def weave : List Entry → List (Except Panic (Except ReceiverError Unit)) →
    List (Except Panic (Except ReceiverError Unit))
  | .own _ :: entries, answer :: answers => answer :: weave entries answers
  | .stray _ :: entries, answers => .ok (.ok ()) :: weave entries answers
  | _, _ => []

namespace Endpoint

/-- An event for the delivery has nothing to say: the delivery is not at the head of the link, or
the receiver is being closed. -/
def Disregards (e : Endpoint) (d : DeliveryId) : Prop :=
  e.lifecycle ≠ .opened ∨ e.link.current ≠ some d

instance (e : Endpoint) (d : DeliveryId) : Decidable (e.Disregards d) :=
  inferInstanceAs (Decidable (_ ∨ _))

/-- Every stray has nothing to say when it comes. -/
def Shrugs : Endpoint → List Entry → Prop
  | _, [] => True
  | e, .own move :: entries => (move.perform e).2.Shrugs entries
  | e, .stray d :: entries => e.Disregards d ∧ (e.after (.message d)).Shrugs entries

instance decidableShrugs : ∀ (e : Endpoint) (entries : List Entry), Decidable (e.Shrugs entries)
  | _, [] => isTrue trivial
  | e, .own move :: entries => decidableShrugs (move.perform e).2 entries
  | e, .stray d :: entries =>
    have := decidableShrugs (e.after (.message d)) entries
    inferInstanceAs (Decidable (_ ∧ _))

/-- The endpoint is the same, but for notices of no weight that were told besides. -/
structure Echoes (e e' : Endpoint) : Prop where
  same : e' = { e with notices := e'.notices }
  told : e.notices.Sublist e'.notices
  warnings : e'.notices.filter (·.level = .warn) = e.notices.filter (·.level = .warn)

end Endpoint

section Stale

variable {e e' : Endpoint}

theorem Endpoint.Echoes.refl (e : Endpoint) : e.Echoes e := ⟨rfl, List.Sublist.refl _, rfl⟩

/-- One more notice of no weight. -/
theorem Endpoint.Echoes.tell (h : e.Echoes e') {notice : Notice} (hn : notice.level = .debug) :
    e.Echoes { e' with notices := e'.notices ++ [notice] } where
  same := by
    rw [h.same]
  told := h.told.trans (List.sublist_append_left _ _)
  warnings := by
    rw [List.filter_append, h.warnings]
    simp [hn]

/-- Where nothing but notices differs, an action that takes no notice of them does the same. -/
theorem Endpoint.Echoes.act {α : Type} {act : Act Panic Endpoint α} (ha : act.Oblivious)
    (h : e.Echoes e') : (act e').1 = (act e).1 ∧ (act e).2.Echoes (act e').2 := by
  -- both endpoints are one to which nothing was told, with different things told before
  have hbare (e : Endpoint) : e = Endpoint.preceded { e with notices := [] } e.notices := by
    simp [Endpoint.preceded]
  have hsame : ({ e' with notices := [] } : Endpoint) = { e with notices := [] } := by
    rw [h.same]
  have hold := ha e.notices { e with notices := [] }
  have hnew := ha e'.notices { e with notices := [] }
  rw [← hbare e] at hold
  rw [← hsame, ← hbare e', hsame] at hnew
  rw [hold, hnew]
  refine ⟨rfl, rfl, h.told.append (List.Sublist.refl _), ?_⟩
  simp only [Endpoint.preceded, List.filter_append, h.warnings]

theorem move_oblivious (move : Move) : move.perform.Oblivious := by
  cases move with
  | event ev => exact event_oblivious ev
  | call op elsewhere =>
    cases elsewhere with
    | false => exact onHandler_oblivious (operation_oblivious op)
    | true => exact operation_oblivious op

/-- What has nothing to say is answered, and no more is done than to tell that it came. -/
theorem stray_told {d : DeliveryId} (h : e.Disregards d) :
    ∃ notice : Notice, notice.level = .debug ∧ (Event.message d).perform e =
      (.ok (.ok ()), { e with notices := e.notices ++ [notice] }) := by
  have hends : (Event.message d).perform.Ends e (fun r e' => r = .ok () ∧
      ∃ notice : Notice, notice.level = .debug ∧ e' = { e with notices := e.notices ++ [notice] })
      fun _ _ => False := by
    refine ends_onHandler.2 (Act.ends_bind.2 ((requireOnHandler_ends (isOnHandler_enter e)).imp
      ?_ fun _ _ => id))
    rintro _ _ rfl
    refine Act.ends_bind.2 (Act.ends_get.2 (Act.ends_ite.2 ⟨fun _ => ?_, fun ho => ?_⟩))
    · exact Act.ends_bind.2 (Act.ends_modify.2 ⟨rfl, _, rfl, rfl⟩)
    refine Act.ends_ite.2 ⟨fun _ => ?_, fun hc => ?_⟩
    · exact Act.ends_bind.2 (Act.ends_modify.2 ⟨rfl, _, rfl, rfl⟩)
    · exact (h.elim ho hc).elim
  obtain ⟨_, _, hact, rfl, notice, hlevel, rfl⟩ := hends.answers
  exact ⟨notice, hlevel, hact⟩

theorem performAll_strays : ∀ {entries : List Entry} {e e' : Endpoint}, e.Echoes e' →
    e'.Shrugs entries →
    (e'.performAll (entries.map (·.move.perform))).1 =
        weave entries (e.performAll ((entries.filterMap Entry.own?).map Move.perform)).1 ∧
      (e.performAll ((entries.filterMap Entry.own?).map Move.perform)).2.Echoes
        (e'.performAll (entries.map (·.move.perform))).2
  | [], _, _, h, _ => ⟨rfl, h⟩
  | .own move :: entries, e, e', h, hs => by
    obtain ⟨hanswer, hnext⟩ := h.act (move_oblivious move)
    obtain ⟨hanswers, hrest⟩ := performAll_strays hnext hs
    refine ⟨?_, hrest⟩
    simp only [List.map_cons, List.filterMap_cons, Entry.own?, Endpoint.performAll, weave,
      Entry.move_own]
    rw [hanswer, hanswers]
  | .stray d :: entries, e, e', h, hs => by
    obtain ⟨hd, hs⟩ := hs
    obtain ⟨notice, hlevel, hact⟩ := stray_told hd
    have hafter : e'.after (.message d) = { e' with notices := e'.notices ++ [notice] } :=
      congrArg Prod.snd hact
    rw [hafter] at hs
    obtain ⟨hanswers, hrest⟩ := performAll_strays (h.tell hlevel) hs
    simp only [List.map_cons, List.filterMap_cons, Entry.own?, Endpoint.performAll, weave,
      Entry.move_stray, Move.perform_event, hact]
    exact ⟨by rw [hanswers], hrest⟩

end Stale

/-- Events that have nothing to say when they come are answered, wherever they come in a run, and
make no difference to it: the rest answers the same, the endpoint is the same in the end, with the
same calls and counters, and only notices of no weight were told besides. -/
theorem strays_unseen {e : Endpoint} {entries : List Entry} (h : e.Shrugs entries) :
    let run := e.performAll ((entries.filterMap Entry.own?).map Move.perform)
    let full := e.performAll (entries.map (·.move.perform))
    full.1 = weave entries run.1 ∧ full.2 = { run.2 with notices := full.2.notices } ∧
      run.2.notices.Sublist full.2.notices ∧
      full.2.notices.filter (·.level = .warn) = run.2.notices.filter (·.level = .warn) := by
  intro run full
  obtain ⟨hanswers, hechoes⟩ := performAll_strays (.refl e) h
  exact ⟨hanswers, hechoes.same, hechoes.told, hechoes.warnings⟩

/-- Events come again for a delivery that was handled, early for one that waits behind another, and
after the receiver was closed in the middle of a large message. -/
theorem strays_unseen_four :
    let e : Endpoint := .start { minLargeMessageSize := 4 } "orders" 10 ⟨1⟩ .memory none
    let entries : List Entry := [.stray ⟨1⟩, .own (.event (.begin 0 none)),
      .own (.event (.begin 0 none)), .stray ⟨2⟩, .own (.event (.transfer [1] false)),
      .own (.event (.message ⟨1⟩)), .stray ⟨1⟩, .own (.event (.transfer [1, 2, 3, 4] true)),
      .own (.event (.message ⟨2⟩)), .own (.call (.close true) false), .stray ⟨2⟩]
    let run := e.performAll ((entries.filterMap Entry.own?).map Move.perform)
    let full := e.performAll (entries.map (·.move.perform))
    e.Shrugs entries ∧ full.2.notices.length = run.2.notices.length + 4 ∧
      full.2 = { run.2 with notices := full.2.notices } := by
  intro e entries run full
  have hshrugs : e.Shrugs entries := by decide +kernel
  have htold : full.2.notices.length = run.2.notices.length + 4 := by decide +kernel
  exact ⟨hshrugs, htold, (strays_unseen hshrugs).2.1⟩

end ReceivingLink
