import Mathlib.Logic.Relation
import ReceivingLink.Proofs.Polling

/-!
# Scopes

A scope of a handler is open around the operations that `enter` is given, around all tasks that one
call of the handler's loop does, and around each task that the loop does when it is polled. Scopes
nest in any order, those of one handler hide those of another, and a panic closes all up to where it
is caught. Another thread has none of them.

A moment of a program is an operation or other code that is performed next, with the state and with
the scopes that are open there. `Moment.Into` leads from a moment to those inside it and says which
of the steps open a scope; an invariant ties the place in the state to the innermost scope
(`Moment.Into.within`). So a handler's executor tells at every moment whether the innermost scope is
its handler's, and does accordingly with a task that is to run now: `identity_follows_scopes`.
-/

namespace ReceivingLink.Program

/-- What is performed. -/
inductive Code where
  | op (op : Op)
  | all (ops : List Op)
  | job (h : Nat) (job : Job)
  | drain (h : Nat)
  | serve (h : Nat) (id : HandlerId)

/-- Code that is performed next. -/
structure Moment where
  fuel : Nat
  /-- The handlers whose scopes are open on the thread, by their places, the innermost first. -/
  scopes : List Nat
  code : Code
  state : State

namespace State

/-- The running code finds an executor of the handler. -/
def Finds (s : State) (h : Nat) (x : Station) : Prop :=
  s.stations[h]? = some x ∧ x.isReachable

/-- The state with which `holding` begins. -/
def withUse (s : State) (h : Nat) : State := s.change h fun x => { x with inUse := x.inUse + 1 }

/-- The state with which `lending` begins. -/
def withLoan (s : State) (h : Nat) : State := s.change h fun x => { x with lent := x.lent + 1 }

/-- The state with which `running` begins. -/
def withLoop (s : State) (h : Nat) : State := s.change h fun x => { x with busy := true }

/-- An event was recorded. -/
def recorded (s : State) (event : Event) : State := { s with events := s.events ++ [event] }

end State

namespace Moment

/-- The state when the code has ended, by an answer or by a panic. -/
def after (p : Moment) : State :=
  match p.code with
  | .op op => (perform p.fuel op p.state).2
  | .all ops => (performAll p.fuel ops p.state).2
  | .job h job => (doJob p.fuel h job p.state).2
  | .drain h => (drain p.fuel h p.state).2
  | .serve h id => (serve p.fuel h id p.state).2

/-- Performing the code at the one moment, the program comes to the other, which is inside. -/
inductive Into : Moment → Moment → Prop where
  | first {fuel scopes op ops s} :
    Into ⟨fuel + 1, scopes, .all (op :: ops), s⟩ ⟨fuel, scopes, .op op, s⟩
  | rest {fuel scopes op ops s s' reply} (hop : perform fuel op s = (.ok reply, s')) :
    Into ⟨fuel + 1, scopes, .all (op :: ops), s⟩
      ⟨fuel, scopes, .all ops, s'.recorded (.done op.word reply)⟩
  | attempt {fuel scopes ops s} :
    Into ⟨fuel + 1, scopes, .op (.attempt ops), s⟩ ⟨fuel, scopes, .all ops, s⟩
  | now {fuel scopes h tag ops s x} (hx : s.Finds h x)
    (hon : s.onHandler = some x.mailbox.handler) :
    Into ⟨fuel + 1, scopes, .op (.runNow h tag ops), s⟩
      ⟨fuel, scopes, .job h (.ops false tag ops), s.withUse h⟩
  | poll {fuel scopes h s x} (hx : s.stations[h]? = some x) (hbusy : x.busy = false)
    (hloop : x.loop ≠ .gone) :
    Into ⟨fuel + 1, scopes, .op (.poll h), s⟩
      ⟨fuel, scopes, .serve h x.mailbox.handler, s.withLoop h⟩
  | task {fuel scopes h tag body s} :
    Into ⟨fuel + 1, scopes, .job h (.ops false tag body), s⟩
      ⟨fuel, scopes, .all body, s.recorded (.task tag)⟩
  | owner {fuel scopes h tag body s} :
    Into ⟨fuel + 1, scopes, .job h (.ops true tag body), s⟩
      ⟨fuel, scopes, .all body, (s.recorded (.task tag)).withLoan h⟩
  | drainFirst {fuel scopes h s job jobs} (hwaiting : s.waiting h = job :: jobs) :
    Into ⟨fuel + 1, scopes, .drain h, s⟩ ⟨fuel, scopes, .job h job, s.change h (·.leaving jobs)⟩
  | drainRest {fuel scopes h s s' job jobs} (hwaiting : s.waiting h = job :: jobs)
    (hjob : doJob fuel h job (s.change h (·.leaving jobs)) = (.ok (), s')) :
    Into ⟨fuel + 1, scopes, .drain h, s⟩ ⟨fuel, scopes, .drain h, s'⟩
  | serveRest {fuel scopes h id s s' job jobs} (hwaiting : s.waiting h = job :: jobs)
    (hjob : withHandler (some id) (doJob fuel h job) (s.change h (·.leaving jobs)) = (.ok (), s')) :
    Into ⟨fuel + 1, scopes, .serve h id, s⟩ ⟨fuel, scopes, .serve h id, s'⟩
  /-- Entering a handler opens a scope. -/
  | enter {fuel scopes h ops s x} (hx : s.Finds h x) :
    Into ⟨fuel + 1, scopes, .op (.enter h ops), s⟩
      ⟨fuel, h :: scopes, .all ops, (s.withUse h).moved (some x.mailbox.handler)⟩
  /-- A call of a loop opens a scope. -/
  | run {fuel scopes h s x} (hx : s.stations[h]? = some x) (hbusy : x.busy = false)
    (hloop : x.loop = .fresh) :
    Into ⟨fuel + 1, scopes, .op (.run h), s⟩
      ⟨fuel, h :: scopes, .drain h, (s.withLoop h).moved (some x.mailbox.handler)⟩
  /-- A loop that is polled opens a scope for each task. -/
  | serveFirst {fuel scopes h id s job jobs} (hwaiting : s.waiting h = job :: jobs) :
    Into ⟨fuel + 1, scopes, .serve h id, s⟩
      ⟨fuel, h :: scopes, .job h job, (s.change h (·.leaving jobs)).moved (some id)⟩
  /-- Another thread has no scope. -/
  | thread {fuel scopes ops s} :
    Into ⟨fuel + 1, scopes, .op (.onThread ops), s⟩ ⟨fuel, [], .all ops, s.moved none⟩

/-- From the one moment on, the program comes to the other. -/
abbrev Reaches : Moment → Moment → Prop := Relation.ReflTransGen Into

end Moment

/-- The state in which the next operation of a program is performed, when others were performed. -/
def following (fuel : Nat) : List Op → State → State
  | [], s => { s with events := [], notices := [] }
  | op :: ops, s => following fuel ops (perform fuel op { s with events := [], notices := [] }).2

/-- A program has performed operations, and is to perform the next. -/
def Moment.start (fuel : Nat) (past : List Op) (op : Op) : Moment :=
  ⟨fuel, [], .op op, following fuel past {}⟩

namespace State

/-- The code is on the handler of the innermost scope, or on none if no scope is open. -/
structure Within (s : State) (scopes : List Nat) : Prop where
  numbered : s.Numbered
  place : s.onHandler = scopes.head?.map fun h => ⟨h + 1⟩

namespace Within

variable {s s' : State} {scopes : List Nat} {h : Nat} {x : Station}

theorem of_samePlace (hs : s.Within scopes) (h : SamePlace s s') : s'.Within scopes :=
  ⟨h.numbered hs.numbered, h.place.trans hs.place⟩

theorem changed (hs : s.Within scopes) (h : Nat) {f : Station → Station}
    (hf : ∀ x, (f x).mailbox.handler = x.mailbox.handler) : (s.change h f).Within scopes :=
  hs.of_samePlace (samePlace_steady.change s h hf)

theorem recorded (hs : s.Within scopes) (event : Event) : (s.recorded event).Within scopes :=
  hs.of_samePlace (Keeps.records event s)

theorem opened (hs : s.Within scopes) (h : Nat) :
    (s.moved (some ⟨h + 1⟩)).Within (h :: scopes) := ⟨hs.numbered, rfl⟩

theorem away (hs : s.Within scopes) : (s.moved none).Within [] := ⟨hs.numbered, rfl⟩

/-- Different handlers have different numbers. -/
theorem onHandler_iff (hs : s.Within scopes) (hx : s.stations[h]? = some x) :
    s.onHandler = some x.mailbox.handler ↔ scopes.head? = some h := by
  rw [hs.place, hs.numbered h x hx]
  cases scopes.head? with
  | none => simp
  | some k => simp

end Within

end State

/-- The code is on the handler of the innermost scope, and a loop that is polled is the loop of the
handler that it does tasks as. -/
structure Moment.Within (p : Moment) : Prop where
  state : p.state.Within p.scopes
  serves : ∀ {h id}, p.code = .serve h id → id = ⟨h + 1⟩

namespace Moment

variable {p q : Moment}

/-- A step into the code keeps the place with the innermost scope. -/
theorem Into.within (hstep : Into p q) (hp : p.Within) : q.Within := by
  have hs := hp.state
  cases hstep with
  | first => exact ⟨hs, nofun⟩
  | attempt => exact ⟨hs, nofun⟩
  | task => exact ⟨hs.recorded _, nofun⟩
  | owner => exact ⟨(hs.recorded _).changed _ fun _ => rfl, nofun⟩
  | now hx hon => exact ⟨hs.changed _ fun _ => rfl, nofun⟩
  | drainFirst hwaiting => exact ⟨hs.changed _ fun _ => rfl, nofun⟩
  | @rest fuel scopes op ops s s' reply hop =>
    have hstays := perform_stays fuel op s
    rw [hop] at hstays
    exact ⟨(hs.of_samePlace hstays).recorded _, nofun⟩
  | @drainRest fuel scopes h s s' job jobs hwaiting hjob =>
    have htaken := hs.changed h (f := (·.leaving jobs)) fun _ => rfl
    have hstays := doJob_stays fuel h job (s.change h (·.leaving jobs))
    rw [hjob] at hstays
    exact ⟨htaken.of_samePlace hstays, nofun⟩
  | @serveRest fuel scopes h id s s' job jobs hwaiting hjob =>
    have htaken := hs.changed h (f := (·.leaving jobs)) fun _ => rfl
    have hstays := Keeps.at_handler (some id) (doJob_stays fuel h job)
      (s.change h (·.leaving jobs))
    rw [hjob] at hstays
    exact ⟨htaken.of_samePlace hstays, hp.serves⟩
  | @poll fuel scopes h s x hx hbusy hloop =>
    refine ⟨hs.changed _ fun _ => rfl, fun hcode => ?_⟩
    cases hcode
    exact hs.numbered h x hx
  | @enter fuel scopes h ops s x hx =>
    have hheld : (s.withUse h).Within scopes := hs.changed h fun _ => rfl
    rw [hs.numbered h x hx.1]
    exact ⟨hheld.opened h, nofun⟩
  | @run fuel scopes h s x hx hbusy hloop =>
    have hrun : (s.withLoop h).Within scopes := hs.changed h fun _ => rfl
    rw [hs.numbered h x hx]
    exact ⟨hrun.opened h, nofun⟩
  | @serveFirst fuel scopes h id s job jobs hwaiting =>
    have htaken := hs.changed h (f := (·.leaving jobs)) fun _ => rfl
    rw [hp.serves rfl]
    exact ⟨htaken.opened h, nofun⟩
  | thread => exact ⟨hs.away, nofun⟩

theorem Reaches.within (hreach : Reaches p q) (hp : p.Within) : q.Within := by
  induction hreach with
  | refl => exact hp
  | tail _ hstep ih => exact hstep.within ih

/-- Whatever the code is, it leaves its place to what comes after. -/
theorem after_samePlace (p : Moment) : SamePlace p.state p.after := by
  unfold after
  split
  · exact perform_stays _ _ _
  · exact performAll_stays _ _ _
  · exact doJob_stays _ _ _ _
  · exact drain_stays _ _ _
  · exact serve_stays _ _ _ _

end Moment

theorem following_within (fuel : Nat) : ∀ (past : List Op) {s : State}, s.Within [] →
    (following fuel past s).Within []
  | [], _, hs => ⟨hs.numbered, hs.place⟩
  | op :: past, s, hs => by
    have hcleared : { s with events := [], notices := [] }.Within [] := ⟨hs.numbered, hs.place⟩
    exact following_within fuel past (hcleared.of_samePlace (perform_stays fuel op _))

theorem Moment.start_within (fuel : Nat) (past : List Op) (op : Op) :
    (Moment.start fuel past op).Within :=
  ⟨following_within fuel past ⟨nofun, rfl⟩, nofun⟩

section Asking

variable {fuel h : Nat} {s : State} {x : Station}

theorem executor?_of_finds (hx : s.Finds h x) : executor? h s = (.ok (some x), s) := by
  rw [executor?_eq hx.1, if_pos hx.2]

theorem executor?_of_none (hnone : ∀ x, ¬ s.Finds h x) : executor? h s = (.ok none, s) := by
  have hfilter : s.stations[h]?.filter (·.isReachable) = none := by
    rw [Option.filter_eq_none_iff]
    exact fun x hx hreach => hnone x ⟨hx, hreach⟩
  rw [← hfilter]
  rfl

theorem perform_isHandler (hx : s.Finds h x) :
    perform (fuel + 1) (.isHandler h) s =
      (.ok (.flag (decide (s.onHandler = some x.mailbox.handler))), s) := by
  rw [perform, Act.bind_of_ok (executor?_of_finds hx)]
  rfl

/-- On the handler, a task that is to run now runs at once. -/
theorem perform_runNow_on (hx : s.Finds h x) (hon : s.onHandler = some x.mailbox.handler)
    (tag : String) (ops : List Op) :
    perform (fuel + 1) (.runNow h tag ops) s = (do
      holding h (doJob fuel h (.ops false tag ops))
      return Reply.ok : Run Reply) s := by
  have hyes : isOn x.mailbox.handler s = (.ok true, s) := by
    rw [← decide_eq_true hon]
    rfl
  rw [perform, Act.bind_of_ok (executor?_of_finds hx)]
  dsimp only
  rw [Act.bind_of_ok hyes]
  rfl

/-- Elsewhere it is put into the mailbox. -/
theorem perform_runNow_off (hx : s.Finds h x) (hoff : s.onHandler ≠ some x.mailbox.handler)
    (tag : String) (ops : List Op) :
    perform (fuel + 1) (.runNow h tag ops) s = (do
      post h x (.ops false tag ops)
      return Reply.ok : Run Reply) s := by
  have hno : isOn x.mailbox.handler s = (.ok false, s) := by
    rw [← decide_eq_false hoff]
    rfl
  rw [perform, Act.bind_of_ok (executor?_of_finds hx)]
  dsimp only
  rw [Act.bind_of_ok hno]
  rfl

theorem station?_eq (h : Nat) (s : State) : station? h s = (.ok s.stations[h]?, s) := rfl

/-- What is put into a mailbox is one task more behind those that wait, or is dropped if the loop
is gone. -/
theorem post_eq (hx : s.stations[h]? = some x) (job : Job) :
    post h x job s = (.ok (), if x.mailbox.attended then s.change h (·.taking [job])
      else { s with notices := s.notices ++ [.taskDropped x.mailbox.handler] }) := by
  let f : Station → Station := fun y => { y with mailbox := y.mailbox.post job }
  have hpost : post h x job s =
      (if !x.mailbox.attended then report (.taskDropped x.mailbox.handler) else pure ())
        (s.change h f) := rfl
  rw [hpost]
  cases hattended : x.mailbox.attended with
  | true =>
    have htaken : s.change h f = s.change h (·.taking [job]) :=
      State.change_congr hx (by simp [f, Mailbox.post, hattended, Station.taking])
    rw [htaken]
    rfl
  | false =>
    have hsame : s.change h f = s :=
      (State.change_congr hx (g := id) (by simp [f, Mailbox.post, hattended])).trans
        (State.change_self fun _ => rfl)
    rw [hsame]
    rfl

end Asking

/-- In the state, executors answer by the innermost of the scopes. An executor tells that the code
is on its handler if and only if the scope is the handler's. If it is, a task that is to run now
runs at once; if not, one task is put behind those that wait for the handler, or is dropped if the
handler's loop is gone. -/
structure State.Heeds (s : State) (scopes : List Nat) : Prop where
  tells : ∀ {h x}, s.Finds h x → ∀ fuel,
    perform (fuel + 1) (.isHandler h) s = (.ok (.flag (decide (scopes.head? = some h))), s)
  runs : ∀ {h x}, s.Finds h x → scopes.head? = some h → ∀ fuel tag ops,
    perform (fuel + 1) (.runNow h tag ops) s = (do
      holding h (doJob fuel h (.ops false tag ops))
      return Reply.ok : Run Reply) s
  queues : ∀ {h x}, s.Finds h x → scopes.head? ≠ some h → ∀ fuel tag ops,
    perform (fuel + 1) (.runNow h tag ops) s =
      (.ok .ok, if x.mailbox.attended then s.change h (·.taking [.ops false tag ops])
        else { s with notices := s.notices ++ [.taskDropped x.mailbox.handler] })

theorem State.Within.heeds {s : State} {scopes : List Nat} (hs : s.Within scopes) :
    s.Heeds scopes where
  tells hx fuel := by
    rw [perform_isHandler hx, decide_eq_decide.2 (hs.onHandler_iff hx.1)]
  runs hx hhead fuel tag ops := perform_runNow_on hx ((hs.onHandler_iff hx.1).2 hhead) tag ops
  queues hx hhead fuel tag ops := by
    rw [perform_runNow_off hx (mt (hs.onHandler_iff hx.1).1 hhead),
      Act.bind_of_ok (post_eq hx.1 _)]
    rfl

/-- Events that satisfy `p` were recorded. -/
def Adds (p : Event → Prop) (s s' : State) : Prop :=
  ∃ new, s'.events = s.events ++ new ∧ ∀ event ∈ new, p event

namespace Adds

variable {p q : Event → Prop} {s s' s'' : State}

theorem nothing (hsame : s'.events = s.events) : Adds p s s' := ⟨[], by simp [hsame], by simp⟩

theorem one {event : Event} (hp : p event) : Adds p s (s.recorded event) :=
  ⟨[event], rfl, by simpa using hp⟩

theorem trans (h : Adds p s s') (h' : Adds p s' s'') : Adds p s s'' := by
  obtain ⟨new, hnew, hp⟩ := h
  obtain ⟨new', hnew', hp'⟩ := h'
  refine ⟨new ++ new', by rw [hnew', hnew, List.append_assoc], fun event hevent => ?_⟩
  exact (List.mem_append.1 hevent).elim (hp event) (hp' event)

theorem of_events {t t' : State} (h : Adds p s s') (hbefore : t.events = s.events)
    (hafter : t'.events = s'.events) : Adds p t t' := by
  unfold Adds
  rw [hbefore, hafter]
  exact h

theorem mono (h : Adds p s s') (hpq : ∀ event, p event → q event) : Adds q s s' := by
  obtain ⟨new, hnew, hp⟩ := h
  exact ⟨new, hnew, fun event hevent => hpq event (hp event hevent)⟩

theorem steady (hp : ∀ event, event.isAnswer = false → p event) : Steady (Adds p) where
  refl _ := nothing rfl
  trans := trans
  change _ _ _ _ := nothing rfl
  create _ _ := nothing rfl
  report _ _ := nothing rfl
  record _ _ hevent := one (hp _ hevent)

end Adds

namespace Moment

variable {p q : Moment}

/-- If the event is an answer, it was given at a moment inside. -/
def Covers (p : Moment) (event : Event) : Prop :=
  ∀ word reply, event = .done word reply → ∃ q op, Reaches p q ∧ q.code = .op op ∧
    op.word = word ∧ (perform q.fuel op q.state).1 = .ok reply

theorem covers_of_not_answer (event : Event) (hevent : event.isAnswer = false) :
    p.Covers event := by
  rintro word reply rfl
  cases hevent

theorem Into.covers (hstep : Into p q) (event : Event) (hevent : q.Covers event) :
    p.Covers event := by
  intro word reply hdone
  obtain ⟨r, op, hreach, hcode⟩ := hevent word reply hdone
  exact ⟨r, op, .head hstep hreach, hcode⟩

theorem Into.adds (hstep : Into p q) {s s' : State} (h : Adds q.Covers s s') :
    Adds p.Covers s s' := h.mono fun event => hstep.covers event

theorem covers_steady (p : Moment) : Steady (Adds p.Covers) :=
  Adds.steady covers_of_not_answer

end Moment

/-- An answer that is made of another changes nothing. -/
theorem snd_answering {α β : Type} (x : Run β) (f : β → α) (s : State) :
    ((do return f (← x) : Run α) s).2 = (x s).2 := by
  rcases hx : x s with ⟨stop | b, s'⟩
  · rw [Act.bind_of_error hx]
  · rw [Act.bind_of_ok hx]
    rfl

section Covering

open Moment

mutual

theorem perform_adds : ∀ (fuel : Nat) (scopes : List Nat) (op : Op) (s : State),
    Adds (Covers ⟨fuel, scopes, .op op, s⟩) s (perform fuel op s).2
  | 0, _, _, _ => .nothing rfl
  | fuel + 1, scopes, op, s => by
    cases op with
    | onThread ops =>
      have hops : Adds (Covers ⟨fuel + 1, scopes, .op (.onThread ops), s⟩) (s.moved none)
          (performAll fuel ops (s.moved none)).2 :=
        Into.thread.adds (performAll_adds fuel [] ops (s.moved none))
      rw [perform, snd_answering]
      exact hops.of_events rfl rfl
    | attempt ops =>
      have hops := Into.attempt.adds (performAll_adds fuel scopes ops s)
      rcases hended : performAll fuel ops s with ⟨ended, s'⟩
      rw [hended] at hops
      rw [perform, Act.bind_of_ok (Act.contain_of_eq hended)]
      rcases ended with (_ | _) | _ <;> exact hops
    | runNow h tag ops =>
      by_cases hfound : ∃ x, s.Finds h x
      · obtain ⟨x, hx⟩ := hfound
        by_cases hon : s.onHandler = some x.mailbox.handler
        · have hjob := (Into.now hx hon).adds
            (doJob_adds fuel scopes h (.ops false tag ops) (s.withUse h))
          rw [perform_runNow_on hx hon, snd_answering]
          exact hjob.of_events rfl rfl
        · rw [perform_runNow_off hx hon, snd_answering]
          exact (covers_steady _).posts h x _ s
      · rw [perform, Act.bind_of_ok (executor?_of_none (not_exists.1 hfound))]
        exact .nothing rfl
    | enter h ops =>
      by_cases hfound : ∃ x, s.Finds h x
      · obtain ⟨x, hx⟩ := hfound
        have hops := (Into.enter hx).adds (performAll_adds fuel (h :: scopes) ops
          ((s.withUse h).moved (some x.mailbox.handler)))
        rw [perform, Act.bind_of_ok (executor?_of_finds hx)]
        dsimp only
        rw [snd_answering]
        exact hops.of_events rfl rfl
      · rw [perform, Act.bind_of_ok (executor?_of_none (not_exists.1 hfound))]
        exact .nothing rfl
    | run h =>
      rw [perform, Act.bind_of_ok (station?_eq h s)]
      rcases hx : s.stations[h]? with _ | x
      · exact .nothing rfl
      · dsimp only
        cases hbusy : x.busy with
        | true => exact .nothing rfl
        | false =>
          by_cases hloop : x.loop = .fresh
          · have htasks := (Into.run hx hbusy hloop).adds (drain_adds fuel (h :: scopes) h
              ((s.withLoop h).moved (some x.mailbox.handler)))
            simp only [hloop, Bool.false_eq_true, if_false, ne_eq, not_true]
            rw [snd_answering]
            exact htasks.of_events rfl rfl
          · simp only [hloop, Bool.false_eq_true, if_false, ne_eq, not_false_eq_true, if_true]
            exact .nothing rfl
    | poll h =>
      rw [perform, Act.bind_of_ok (station?_eq h s)]
      rcases hx : s.stations[h]? with _ | x
      · exact .nothing rfl
      · dsimp only
        by_cases hfree : x.busy || decide (x.loop = .gone)
        · rw [if_pos hfree]
          exact .nothing rfl
        · rw [if_neg hfree]
          have hfree' : x.busy = false ∧ x.loop ≠ .gone := by simpa using hfree
          have htasks := (Into.poll hx hfree'.1 hfree'.2).adds
            (serve_adds fuel scopes h x.mailbox.handler (s.withLoop h))
          have hdone : Adds (Covers ⟨fuel + 1, scopes, .op (.poll h), s⟩) s
              (running h (serve fuel h x.mailbox.handler) s).2 := htasks.of_events rfl rfl
          rcases hserved : running h (serve fuel h x.mailbox.handler) s with ⟨ended, s'⟩
          rw [hserved] at hdone
          rw [Act.bind_of_ok (Act.contain_of_eq hserved)]
          rcases ended with _ | _ | _ <;> exact hdone.of_events rfl rfl
    | _ => exact (covers_steady _).perform_leaf rfl _ s

theorem performAll_adds : ∀ (fuel : Nat) (scopes : List Nat) (ops : List Op) (s : State),
    Adds (Covers ⟨fuel, scopes, .all ops, s⟩) s (performAll fuel ops s).2
  | 0, _, _, _ => .nothing rfl
  | _ + 1, _, [], _ => .nothing rfl
  | fuel + 1, scopes, op :: ops, s => by
    have hfirst : Adds (Covers ⟨fuel + 1, scopes, .all (op :: ops), s⟩) s (perform fuel op s).2 :=
      Into.first.adds (perform_adds fuel scopes op s)
    rcases hop : perform fuel op s with ⟨stop | reply, s'⟩ <;> rw [hop] at hfirst
    · rw [performAll, Act.bind_of_error hop]
      exact hfirst
    · have hanswer : Covers ⟨fuel + 1, scopes, .all (op :: ops), s⟩ (.done op.word reply) := by
        rintro word reply' ⟨rfl, rfl⟩
        exact ⟨⟨fuel, scopes, .op op, s⟩, op, .single .first, rfl, rfl, by rw [hop]⟩
      have hrest := (Into.rest hop).adds
        (performAll_adds fuel scopes ops (s'.recorded (.done op.word reply)))
      rw [performAll, Act.bind_of_ok hop]
      exact (hfirst.trans (.one hanswer)).trans hrest

theorem doJob_adds : ∀ (fuel : Nat) (scopes : List Nat) (h : Nat) (job : Job) (s : State),
    Adds (Covers ⟨fuel, scopes, .job h job, s⟩) s (doJob fuel h job s).2
  | 0, _, _, _, _ => .nothing rfl
  | fuel + 1, scopes, h, .ops false tag body, s => by
    have hops := (Into.task (h := h)).adds (performAll_adds fuel scopes body (s.recorded (.task tag)))
    exact .trans ((covers_steady _).record s rfl) hops
  | fuel + 1, scopes, h, .ops true tag body, s => by
    have hops := Into.owner.adds
      (performAll_adds fuel scopes body ((s.recorded (.task tag)).withLoan h))
    exact .trans ((covers_steady _).record s rfl) (hops.of_events rfl rfl)
  | fuel + 1, scopes, h, .link n, s => by
    have hR := covers_steady ⟨fuel + 1, scopes, .job h (.link n), s⟩
    rw [doJob, Act.bind_of_ok (station?_eq h s)]
    cases s.stations[h]? with
    | none => exact .nothing rfl
    | some x =>
      exact hR.bind (hR.locates _) (fun _ => hR.bind (fun s => hR.record s rfl) fun _ =>
        .choice (hR.posts _ _ _) (hR.answer _)) s

theorem drain_adds : ∀ (fuel : Nat) (scopes : List Nat) (h : Nat) (s : State),
    Adds (Covers ⟨fuel, scopes, .drain h, s⟩) s (drain fuel h s).2
  | 0, _, _, _ => .nothing rfl
  | fuel + 1, scopes, h, s => by
    rcases hwaiting : s.waiting h with _ | ⟨job, jobs⟩
    · rw [drain, Act.bind_of_ok (takeJob_nil hwaiting)]
      exact .nothing rfl
    · have hfirst := (Into.drainFirst hwaiting).adds
        (doJob_adds fuel scopes h job (s.change h (·.leaving jobs)))
      rw [drain, Act.bind_of_ok (takeJob_cons hwaiting)]
      dsimp only
      rcases hjob : doJob fuel h job (s.change h (·.leaving jobs)) with ⟨stop | _, s'⟩ <;>
        rw [hjob] at hfirst
      · rw [Act.bind_of_error hjob]
        exact hfirst.of_events rfl rfl
      · rw [Act.bind_of_ok hjob, snd_answering]
        exact (hfirst.of_events rfl rfl).trans
          ((Into.drainRest hwaiting hjob).adds (drain_adds fuel scopes h s'))

theorem serve_adds : ∀ (fuel : Nat) (scopes : List Nat) (h : Nat) (id : HandlerId) (s : State),
    Adds (Covers ⟨fuel, scopes, .serve h id, s⟩) s (serve fuel h id s).2
  | 0, _, _, _, _ => .nothing rfl
  | fuel + 1, scopes, h, id, s => by
    rcases hwaiting : s.waiting h with _ | ⟨job, jobs⟩
    · rw [serve, Act.bind_of_ok (receive_nil hwaiting)]
      cases s.holds h <;> exact .nothing rfl
    · let taken := s.change h (·.leaving jobs)
      have hfirst := (Into.serveFirst hwaiting).adds
        (doJob_adds fuel (h :: scopes) h job (taken.moved (some id)))
      have hdone : Adds (Covers ⟨fuel + 1, scopes, .serve h id, s⟩) s
          (withHandler (some id) (doJob fuel h job) taken).2 := hfirst.of_events rfl rfl
      rw [serve, Act.bind_of_ok (receive_cons hwaiting)]
      dsimp only
      rcases hjob : withHandler (some id) (doJob fuel h job) taken with ⟨stop | _, s'⟩ <;>
        rw [hjob] at hdone
      · rw [Act.bind_of_error hjob]
        exact hdone
      · rw [Act.bind_of_ok hjob]
        exact hdone.trans ((Into.serveRest hwaiting hjob).adds (serve_adds fuel scopes h id s'))

end

theorem Moment.after_adds (p : Moment) : Adds p.Covers p.state p.after := by
  obtain ⟨fuel, scopes, code, s⟩ := p
  cases code with
  | op op => exact perform_adds fuel scopes op s
  | all ops => exact performAll_adds fuel scopes ops s
  | job h job => exact doJob_adds fuel scopes h job s
  | drain h => exact drain_adds fuel scopes h s
  | serve h id => exact serve_adds fuel scopes h id s

end Covering

/-- The report of each operation of a program is of a moment at which it starts. -/
theorem reports_following (fuel : Nat) (op : Op) (later : List Op) : ∀ (past : List Op) (s : State),
    reports fuel (past ++ op :: later) s =
      let ended := perform fuel op (following fuel past s)
      reports fuel past s ++ ⟨ended.1, ended.2.events, ended.2.notices⟩ ::
        reports fuel later ended.2
  | [], _ => rfl
  | _ :: past, _ => congrArg (_ :: ·) (reports_following fuel op later past _)

/-- At every moment of a program executors answer by the innermost scope that is open there, and
none tells that the code is on its handler if no scope is open. When the code at the moment has
ended, by an answer or by a panic, and all scopes that were opened in it are left, executors answer
by the same scope again. No answer is left out: what completes in the code does so at a moment that
is reached. -/
theorem identity_follows_scopes {fuel : Nat} {past : List Op} {op : Op} {p : Moment}
    (hp : (Moment.start fuel past op).Reaches p) :
    p.state.Heeds p.scopes ∧ p.after.Heeds p.scopes ∧
      (∀ {h x x'}, p.state.Finds h x → p.after.Finds h x' → ∀ fuel,
        (perform (fuel + 1) (.isHandler h) p.after).1 =
          (perform (fuel + 1) (.isHandler h) p.state).1) ∧
      Adds p.Covers p.state p.after := by
  have hbefore : p.state.Within p.scopes := (hp.within (Moment.start_within fuel past op)).state
  have hafter : p.after.Within p.scopes := hbefore.of_samePlace p.after_samePlace
  refine ⟨hbefore.heeds, hafter.heeds, fun hx hx' fuel => ?_, p.after_adds⟩
  rw [hafter.heeds.tells hx', hbefore.heeds.tells hx]

/-- A handler's loop is called while the code is on another handler. Its task goes back there and
panics, and catches that: then it is on its own handler, and not on the other. -/
theorem identity_follows_scopes_caught :
    let past : List Op := [.create .silent, .create .silent,
      .runLater 1 "a" [.attempt [.enter 0 [.panic "x"]], .isHandler 1, .isHandler 0]]
    ∃ p, (Moment.start 16 past (.enter 0 [.run 1, .isHandler 0])).Reaches p ∧ p.scopes = [1, 0] ∧
      p.code = .all [.isHandler 1, .isHandler 0] ∧
      (perform 1 (.isHandler 1) p.state).1 = .ok (.flag true) ∧
      (perform 1 (.isHandler 0) p.state).1 = .ok (.flag false) := by
  intro past
  obtain ⟨p, hreach, hscopes, hcode, ⟨x, hx⟩, y, hy⟩ :
      ∃ p, (Moment.start 16 past (.enter 0 [.run 1, .isHandler 0])).Reaches p ∧
        p.scopes = [1, 0] ∧ p.code = .all [.isHandler 1, .isHandler 0] ∧
        (∃ x, p.state.Finds 1 x) ∧ ∃ y, p.state.Finds 0 y := by
    refine ⟨_, .head (.enter ⟨rfl, rfl⟩) (.head .first (.head (.run rfl rfl rfl)
      (.head (.drainFirst rfl) (.head .task (.single (.rest rfl)))))), ?_⟩
    exact ⟨rfl, rfl, ⟨_, rfl, rfl⟩, ⟨_, rfl, rfl⟩⟩
  obtain ⟨hheeds, -⟩ := identity_follows_scopes hreach
  refine ⟨p, hreach, hscopes, hcode, ?_, ?_⟩
  · rw [hheeds.tells hx, hscopes]
    rfl
  · rw [hheeds.tells hy, hscopes]
    rfl

/-- A panic in a poll ended the handler's loop. A task that is to run now is not run, since the
code is on no handler, and it is not put into the mailbox either. -/
theorem task_dropped_of_panic :
    let past : List Op := [.create .silent, .runLater 0 "a" [.panic "x"], .poll 0]
    let p := Moment.start 16 past (.runNow 0 "b" [])
    (∃ x, p.state.Finds 0 x) ∧ p.scopes = [] ∧ (p.state.waiting 0).length = 0 ∧
      (p.after.waiting 0).length = 0 ∧ p.after.events = [] ∧
      p.after.notices = [.taskDropped ⟨1⟩] :=
  ⟨⟨_, rfl, rfl⟩, rfl, rfl, rfl, rfl, rfl⟩

end ReceivingLink.Program
