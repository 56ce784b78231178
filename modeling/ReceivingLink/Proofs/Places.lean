import ReceivingLink.Proofs.Queue

/-!
# Places

Code goes to a handler, to another thread or into a loop, and comes back from there: however it
ends, it is where it was before, and no handler has got another number (`perform_stays`).

A relation between the states before and after is steady if it holds across each small change that
operations are made of. Then it holds across every operation that nests no others
(`Steady.perform_leaf`), and what is left to show is that it holds across those that do.
-/

namespace ReceivingLink.Program

/-- The operation performs others, or tasks. -/
def Op.nests : Op → Bool
  | .runNow .. | .enter .. | .onThread _ | .attempt _ | .run _ | .poll _ => true
  | _ => false

/-- A nested operation completed. -/
def Event.isAnswer : Event → Bool
  | .done .. => true
  | .task _ | .chain .. | .hook _ => false

/-- However the action ends, the states before and after it are in relation. -/
def Keeps {α : Type} (R : State → State → Prop) (act : Run α) : Prop := ∀ s, R s (act s).2

theorem Keeps.choice {α : Type} {R : State → State → Prop} {c : Prop} [Decidable c] {x y : Run α}
    (hx : Keeps R x) (hy : Keeps R y) : Keeps R (if c then x else y) := by
  split
  · exact hx
  · exact hy

/-- The relation holds across each small change. -/
structure Steady (R : State → State → Prop) : Prop where
  refl : ∀ s, R s s
  trans : ∀ {s s' s''}, R s s' → R s' s'' → R s s''
  change : ∀ (s : State) (h : Nat) {f : Station → Station},
    (∀ x, (f x).mailbox.handler = x.mailbox.handler) → R s (s.change h f)
  create : ∀ s hook, R s (createStation hook s).2
  report : ∀ s notice, R s (report notice s).2
  record : ∀ s {event : Event}, event.isAnswer = false → R s (record event s).2

namespace Steady

variable {α β : Type} {R : State → State → Prop} (hR : Steady R)

include hR

theorem answer (a : α) : Keeps R (pure a) := hR.refl

theorem breakOff (stop : Stop) : Keeps R (throw stop : Run α) := hR.refl

theorem changes (h : Nat) {f : Station → Station}
    (hf : ∀ x, (f x).mailbox.handler = x.mailbox.handler) : Keeps R (Program.change h f) :=
  fun s => hR.change s h hf

theorem bind {x : Run β} {f : β → Run α} (hx : Keeps R x) (hf : ∀ b, Keeps R (f b)) :
    Keeps R (x >>= f) := by
  intro s
  have hfirst := hx s
  rcases hr : x s with ⟨_ | b, s'⟩ <;> rw [hr] at hfirst
  · rw [Act.bind_of_error hr]
    exact hfirst
  · rw [Act.bind_of_ok hr]
    exact hR.trans hfirst (hf b s')

theorem bracket {act : Run α} {enter : State → State} {leave : State → State → State}
    (hact : Keeps R act) (henter : ∀ s, R s (enter s)) (hleave : ∀ s s', R s' (leave s s')) :
    Keeps R (act.bracket enter leave) :=
  fun s => hR.trans (hR.trans (henter s) (hact _)) (hleave s _)

theorem holds {h : Nat} {act : Run α} (hact : Keeps R act) : Keeps R (holding h act) :=
  hR.bracket hact (fun s => hR.change s h fun _ => rfl) fun _ s' => hR.change s' h fun _ => rfl

theorem lends {h : Nat} {act : Run α} (hact : Keeps R act) : Keeps R (lending h act) :=
  hR.bracket hact (fun s => hR.change s h fun _ => rfl) fun _ s' => hR.change s' h fun _ => rfl

theorem runs {h : Nat} {act : Run α} (hact : Keeps R act) : Keeps R (running h act) :=
  hR.bracket hact (fun s => hR.change s h fun _ => rfl) fun _ s' => hR.change s' h fun _ => rfl

theorem locates (id : HandlerId) : Keeps R (isOn id) := hR.refl

theorem finds {h : Nat} {f : Option Station → Run α} (hf : ∀ x, Keeps R (f x)) :
    Keeps R (station? h >>= f) := hR.bind hR.refl hf

theorem asks {h : Nat} {f : Station → Run Reply} (hf : ∀ x, Keeps R (f x)) :
    Keeps R (do
      let some x ← executor? h | return .noExecutor
      f x) := by
  refine hR.bind hR.refl fun found => ?_
  cases found with
  | none => exact hR.answer _
  | some x => exact hf x

theorem posts (h : Nat) (x : Station) (job : Job) : Keeps R (post h x job) :=
  hR.bind (hR.changes h fun _ => Mailbox.post_handler _ _) fun _ =>
    .choice (fun s => hR.report s _) (hR.answer _)

theorem takes (h : Nat) : Keeps R (takeJob h) := by
  intro s
  rcases hwaiting : s.waiting h with _ | ⟨job, rest⟩
  · rw [takeJob_nil hwaiting]
    exact hR.refl s
  · rw [takeJob_cons hwaiting]
    exact hR.change s h fun _ => rfl

theorem receives (h : Nat) : Keeps R (receive h) := by
  refine hR.bind (hR.takes h) fun job => ?_
  cases job with
  | none => exact hR.finds fun x => hR.answer _
  | some job => exact hR.answer _

theorem requires (id : HandlerId) : Keeps R (requireOn id) :=
  hR.bind (hR.locates id) fun _ => .choice (hR.breakOff _) (hR.answer _)

theorem flushes (h : Nat) (x : Station) : Keeps R (flushOn h x) := by
  refine hR.bind (hR.requires _) fun _ => hR.bind (hR.changes h fun _ => rfl) fun _ => ?_
  split
  · exact hR.answer _
  · exact hR.breakOff _
  · exact fun s => hR.record s rfl

theorem abandons (h : Nat) : Keeps R (abandon h) := hR.changes h fun _ => rfl

/-- What an operation does that nests no others. -/
theorem perform_leaf {op : Op} (hop : op.nests = false) : ∀ fuel, Keeps R (perform fuel op)
  | 0 => hR.breakOff _
  | fuel + 1 => by
    cases op with
    | runNow _ _ _ | enter _ _ | onThread _ | attempt _ | run _ | poll _ => cases hop
    | create hook => exact hR.bind (fun s => hR.create s hook) fun _ => hR.answer _
    | panic message => exact hR.breakOff _
    | isHandler h => exact hR.asks fun x => hR.bind (hR.locates _) fun _ => hR.answer _
    | runLater h tag ops | entrust h tag ops =>
      exact hR.asks fun x => hR.bind (hR.posts _ _ _) fun _ => hR.answer _
    | chain h n => exact hR.asks fun x => hR.bind (hR.posts _ _ _) fun _ => hR.answer _
    | require h => exact hR.asks fun x => hR.bind (hR.requires _) fun _ => hR.answer _
    | flush h => exact hR.asks fun x => hR.bind (hR.flushes _ _) fun _ => hR.answer _
    | flushes h | identity h => exact hR.asks fun x => hR.answer _
    | same h other => exact hR.asks fun x => hR.asks fun y => hR.answer _
    | copyExecutor h =>
      exact hR.asks fun x => hR.bind (hR.changes h fun _ => rfl) fun _ => hR.answer _
    | dropExecutor h =>
      exact hR.finds fun x => hR.bind (hR.changes h fun _ => rfl) fun _ => hR.answer _
    | dropLoop h =>
      refine hR.finds fun x => ?_
      cases x with
      | none => exact hR.answer _
      | some x => exact .choice (hR.bind (hR.abandons h) fun _ => hR.answer _) (hR.answer _)

end Steady

/-- The code is at another place. -/
def State.moved (s : State) (place : Option HandlerId) : State := { s with onHandler := place }

/-- Handlers are numbered in the order in which they were created. -/
def State.Numbered (s : State) : Prop :=
  ∀ (k : Nat) (x : Station), s.stations[k]? = some x → x.mailbox.handler = ⟨k + 1⟩

theorem State.Numbered.create {s : State} (hs : s.Numbered) (hook : Hook) :
    (createStation hook s).2.Numbered := by
  intro k x hx
  have hstations : (s.stations ++ [{ mailbox := { handler := ⟨s.stations.length + 1⟩ }, hook }])[k]?
      = some x := hx
  rw [List.getElem?_append] at hstations
  split at hstations
  · exact hs k x hstations
  · rw [List.getElem?_singleton] at hstations
    split at hstations
    · obtain rfl : k = s.stations.length := by omega
      cases hstations
      rfl
    · cases hstations

theorem State.Numbered.change {s : State} (hs : s.Numbered) (h : Nat) {f : Station → Station}
    (hf : ∀ x, (f x).mailbox.handler = x.mailbox.handler) : (s.change h f).Numbered := by
  intro k x hx
  rw [State.change, List.getElem?_modify] at hx
  obtain ⟨y, hy, rfl⟩ := Option.map_eq_some_iff.1 hx
  split
  · exact (hf y).trans (hs k y hy)
  · exact hs k y hy

/-- The code is where it was, and handlers have the numbers that they had. -/
structure SamePlace (s s' : State) : Prop where
  place : s'.onHandler = s.onHandler
  numbered : s.Numbered → s'.Numbered

theorem samePlace_steady : Steady SamePlace where
  refl _ := ⟨rfl, id⟩
  trans h h' := ⟨h'.place.trans h.place, h'.numbered ∘ h.numbered⟩
  change _ h _ hf := ⟨rfl, fun hs => hs.change h hf⟩
  create _ hook := ⟨rfl, fun hs => hs.create hook⟩
  report _ _ := ⟨rfl, fun hs => hs⟩
  record _ _ _ := ⟨rfl, fun hs => hs⟩

/-- However the action ends, the code is where it was. -/
abbrev Stays {α : Type} (act : Run α) : Prop := Keeps SamePlace act

namespace Keeps

variable {α : Type}

theorem records (event : Event) : Stays (record event) := fun _ => ⟨rfl, fun hs => hs⟩

/-- Whatever is done at a place, the code is back afterwards. -/
theorem at_handler (place : Option HandlerId) {act : Run α} (hact : Stays act) :
    Stays (withHandler place act) :=
  fun s => ⟨rfl, (hact (s.moved place)).numbered⟩

end Keeps

mutual

theorem perform_stays : ∀ (fuel : Nat) (op : Op), Stays (perform fuel op)
  | 0, _ => samePlace_steady.breakOff _
  | fuel + 1, op => by
    have hR := samePlace_steady
    cases op with
    | onThread ops =>
      exact hR.bind (.at_handler _ (performAll_stays fuel ops)) fun _ => hR.answer _
    | attempt ops =>
      have hcaught : Stays (performAll fuel ops).contain := performAll_stays fuel ops
      refine hR.bind hcaught fun ended => ?_
      split
      · exact hR.answer _
      · exact hR.answer _
      · exact hR.breakOff _
    | runNow h tag ops =>
      exact hR.asks fun x => hR.bind (hR.locates _) fun on => .choice
        (hR.bind (hR.holds (doJob_stays fuel h _)) fun _ => hR.answer _)
        (hR.bind (hR.posts _ _ _) fun _ => hR.answer _)
    | enter h ops =>
      exact hR.asks fun x => hR.bind (hR.holds (.at_handler _ (performAll_stays fuel ops)))
        fun _ => hR.answer _
    | run h =>
      refine hR.finds fun x => ?_
      cases x with
      | none => exact hR.answer _
      | some x =>
        refine .choice (hR.answer _) (.choice (hR.bind (hR.abandons h) fun _ => hR.answer _) ?_)
        exact hR.bind (hR.runs (.at_handler _ (drain_stays fuel h))) fun _ => hR.answer _
    | poll h =>
      refine hR.finds fun x => ?_
      cases x with
      | none => exact hR.answer _
      | some x =>
        have hserved : Stays (running h (serve fuel h x.mailbox.handler)).contain :=
          hR.runs (serve_stays fuel h _)
        refine .choice (hR.answer _) (hR.bind hserved fun ended => ?_)
        split
        · exact hR.bind (hR.abandons h) fun _ => hR.breakOff _
        · exact hR.bind (hR.changes h fun _ => rfl) fun _ => hR.answer _
        · exact hR.bind (hR.abandons h) fun _ => hR.bind (fun s => hR.report s _)
            fun _ => hR.answer _
    | _ => exact hR.perform_leaf rfl _

theorem performAll_stays : ∀ (fuel : Nat) (ops : List Op), Stays (performAll fuel ops)
  | 0, _ => samePlace_steady.breakOff _
  | _ + 1, [] => samePlace_steady.answer _
  | fuel + 1, op :: ops => samePlace_steady.bind (perform_stays fuel op) fun _ =>
    samePlace_steady.bind (.records _) fun _ => performAll_stays fuel ops

theorem doJob_stays : ∀ (fuel h : Nat) (job : Job), Stays (doJob fuel h job)
  | 0, _, _ => samePlace_steady.breakOff _
  | fuel + 1, h, .ops own tag body => samePlace_steady.bind (.records _) fun _ =>
    .choice (samePlace_steady.lends (performAll_stays fuel body)) (performAll_stays fuel body)
  | fuel + 1, h, .link n => by
    have hR := samePlace_steady
    refine hR.finds fun x => ?_
    cases x with
    | none => exact hR.answer _
    | some x =>
      refine hR.bind (hR.locates _) fun _ => hR.bind (.records _) fun _ => ?_
      exact .choice (hR.posts _ _ _) (hR.answer _)

theorem drain_stays : ∀ (fuel h : Nat), Stays (drain fuel h)
  | 0, _ => samePlace_steady.breakOff _
  | fuel + 1, h => by
    have hR := samePlace_steady
    refine hR.bind (hR.takes h) fun job => ?_
    cases job with
    | none => exact hR.answer _
    | some job =>
      exact hR.bind (doJob_stays fuel h job) fun _ => hR.bind (drain_stays fuel h) fun _ =>
        hR.answer _

theorem serve_stays : ∀ (fuel h : Nat) (id : HandlerId), Stays (serve fuel h id)
  | 0, _, _ => samePlace_steady.breakOff _
  | fuel + 1, h, id => by
    have hR := samePlace_steady
    refine hR.bind (hR.receives h) fun receipt => ?_
    cases receipt with
    | closed => exact hR.answer _
    | nothing => exact hR.answer _
    | job job =>
      exact hR.bind (.at_handler _ (doJob_stays fuel h job)) fun _ => serve_stays fuel h id

end

end ReceivingLink.Program
