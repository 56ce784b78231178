import Mathlib.Algebra.Ring.Nat
import ReceivingLink.Proofs.Ends
import ReceivingLink.Program.Run

/-!
# What tasks do

Code that keeps to one handler queues tasks for it, runs some at once, enters it, goes to another
thread and may panic. All that such code does can be told beforehand, without a mailbox and without
a state: what it records, which tasks it queues, in which order, and whether it panics. That is its
effect, a function of where the code is and of whether it finds an executor. Performing the code
has its effect and no other: `performAll_does` and `doJob_does`.
-/

namespace ReceivingLink

namespace Act

variable {ε σ α β : Type} {x : Act ε σ β} {f : β → Act ε σ α} {s s' : σ}

theorem bind_of_ok {b : β} (hx : x s = (.ok b, s')) : (x >>= f) s = f b s' := by
  simp only [Bind.bind, ExceptT.bind, ExceptT.mk, StateT.bind, hx]
  rfl

theorem bind_of_error {k : ε} (hx : x s = (.error k, s')) : (x >>= f) s = (.error k, s') := by
  simp only [Bind.bind, ExceptT.bind, ExceptT.mk, StateT.bind, hx]
  rfl

theorem contain_of_eq {r : Except ε β} (hx : x s = (r, s')) : x.contain s = (.ok r, s') := by
  unfold contain
  rw [hx]

end Act

namespace Program

mutual

/-- The operation is as `p` says, and so is all that is nested in it. -/
def Op.everywhere (p : Op → Bool) : Op → Bool
  | op@(.runNow _ _ ops) | op@(.runLater _ _ ops) | op@(.entrust _ _ ops) | op@(.enter _ ops)
  | op@(.onThread ops) | op@(.attempt ops) => p op && everywhereIn p ops
  | op => p op

def everywhereIn (p : Op → Bool) : List Op → Bool
  | [] => true
  | op :: ops => op.everywhere p && everywhereIn p ops

end

/-- The task's operations are as `p` says. -/
def Job.everywhere (p : Op → Bool) : Job → Bool
  | .ops _ _ body => everywhereIn p body
  | .link _ => true

/-- What code may do that keeps to a handler. -/
def Op.isFor (h : Nat) (mayPanic : Bool) : Op → Bool
  | .runNow k .. | .runLater k .. | .entrust k .. | .enter k _ | .chain k _ | .isHandler k => h = k
  | .onThread _ => true
  | .panic _ => mayPanic
  | _ => false

/-- What code does: it records events and queues tasks, and then it may panic. -/
structure Effect where
  events : List Event := []
  queued : List Job := []
  panic : Option String := none

namespace Effect

/-- A panic ends the code. -/
def andThen (a b : Effect) : Effect :=
  match a.panic with
  | some _ => a
  | none => ⟨a.events ++ b.events, a.queued ++ b.queued, b.panic⟩

/-- What code with this effect ends with if it has `a` to answer. -/
def outcome {α : Type} (e : Effect) (a : α) : Except Stop α :=
  match e.panic with
  | some message => .error (.panicked (.text message))
  | none => .ok a

end Effect

/-- What an operation answers when it does not panic. -/
def Op.reply (found on : Bool) : Op → Reply
  | .onThread _ => .joined
  | .enter .. => if found then .left else .noExecutor
  | .isHandler _ => if found then .flag on else .noExecutor
  | _ => if found then .ok else .noExecutor

mutual

/-- The effect of an operation that keeps to a handler. The code finds an executor or not, and it is
on the handler or not. -/
def Op.effect (found on : Bool) : Op → Effect
  | .runNow _ tag ops =>
    if found then
      if on then Effect.andThen { events := [.task tag] } (effectOf found on ops)
      else { queued := [.ops false tag ops] }
    else {}
  | .runLater _ tag ops => if found then { queued := [.ops false tag ops] } else {}
  | .entrust _ tag ops => if found then { queued := [.ops true tag ops] } else {}
  | .chain _ n => if found then { queued := [.link n] } else {}
  | .enter _ ops => if found then effectOf found true ops else {}
  | .onThread ops => effectOf found false ops
  | .panic message => { panic := some message }
  | _ => {}

/-- The effect of operations one after the other. Each that completes is recorded. -/
def effectOf (found on : Bool) : List Op → Effect
  | [] => {}
  | op :: ops => (op.effect found on).andThen
      (Effect.andThen { events := [.done op.word (op.reply found on)] } (effectOf found on ops))

end

/-- The effect of a task that the handler's loop runs. -/
def Job.effect (found : Bool) : Job → Effect
  | .ops own tag body =>
    Effect.andThen { events := [.task tag] } (effectOf (own || found) true body)
  | .link n => { events := [.chain n true], queued := if 0 < n then [.link (n - 1)] else [] }

namespace Effect

variable {e e' : Effect}

theorem andThen_of_none (h : e.panic = none) (e' : Effect) :
    e.andThen e' = ⟨e.events ++ e'.events, e.queued ++ e'.queued, e'.panic⟩ := by
  simp [andThen, h]

theorem andThen_of_some {message : String} (h : e.panic = some message) (e' : Effect) :
    e.andThen e' = e := by
  simp [andThen, h]

@[simp] theorem andThen_nil (e : Effect) : e.andThen {} = e := by
  rcases h : e.panic with _ | message
  · rw [andThen_of_none h]
    simp [← h]
  · exact andThen_of_some h _

end Effect

theorem Op.weight_pos (op : Op) : 0 < op.weight := by
  cases op <;> simp [Op.weight]

theorem Job.weight_pos (job : Job) : 0 < job.weight := by
  cases job <;> simp [Job.weight]

/-- How much tasks can set going. -/
def load (jobs : List Job) : Nat := (jobs.map Job.weight).sum

@[simp] theorem load_nil : load [] = 0 := rfl

@[simp] theorem load_cons (job : Job) (jobs : List Job) :
    load (job :: jobs) = job.weight + load jobs := rfl

@[simp] theorem load_append (jobs jobs' : List Job) :
    load (jobs ++ jobs') = load jobs + load jobs' := by
  simp [load]

/-- An effect of code that is as `p` says and can set `n` going: so are the tasks that it queues,
and it panics only if `p` lets it. -/
structure Effect.Of (p : Op → Bool) (n : Nat) (e : Effect) : Prop where
  jobs : ∀ job ∈ e.queued, job.everywhere p
  load_le : load e.queued ≤ n
  calm : (∀ message, p (.panic message) = false) → e.panic = none

namespace Effect.Of

variable {p : Op → Bool} {m n : Nat} {a b : Effect}

theorem events (events : List Event) : Effect.Of p n { events } :=
  ⟨by simp, by simp, fun _ => rfl⟩

theorem queues {job : Job} (hp : job.everywhere p) (hn : job.weight ≤ n) :
    Effect.Of p n { queued := [job] } :=
  ⟨by simpa using hp, by simpa using hn, fun _ => rfl⟩

theorem mono (h : a.Of p m) (hn : m ≤ n) : a.Of p n :=
  ⟨h.jobs, Nat.le_trans h.load_le hn, h.calm⟩

theorem andThen (ha : a.Of p m) (hb : b.Of p n) : (a.andThen b).Of p (m + n) := by
  rcases hpanic : a.panic with _ | message
  · rw [andThen_of_none hpanic]
    refine ⟨fun job hjob => ?_, ?_, hb.calm⟩
    · exact (List.mem_append.1 hjob).elim (ha.jobs job) (hb.jobs job)
    · have := ha.load_le
      have := hb.load_le
      simp only [load_append]
      omega
  · rw [andThen_of_some hpanic]
    exact ha.mono (Nat.le_add_right m n)

theorem recorded (event : Event) (hb : b.Of p n) :
    (Effect.andThen { events := [event] } b).Of p n :=
  ((events [event]).andThen hb).mono (Nat.le_of_eq (Nat.zero_add n))

theorem found {found : Bool} (h : a.Of p n) : (if found then a else {}).Of p n := by
  split
  · exact h
  · exact .events []

end Effect.Of

mutual

theorem Op.effect_of {p : Op → Bool} : ∀ {op : Op} {found on : Bool}, op.everywhere p →
    (op.effect found on).Of p op.weight
  | .runNow _ _ ops, found, on, hp => by
    obtain ⟨-, hops⟩ := Bool.and_eq_true_iff.1 hp
    refine .found ?_
    split
    · exact .recorded _ ((effectOf_of hops).mono (Nat.le_succ _))
    · exact .queues hops (Nat.le_refl _)
  | .runLater .., _, _, hp | .entrust .., _, _, hp =>
    .found (.queues (Bool.and_eq_true_iff.1 hp).2 (Nat.le_refl _))
  | .enter _ _, _, _, hp =>
    .found ((effectOf_of (Bool.and_eq_true_iff.1 hp).2).mono (Nat.le_succ _))
  | .onThread _, _, _, hp => (effectOf_of (Bool.and_eq_true_iff.1 hp).2).mono (Nat.le_succ _)
  | .chain _ _, _, _, _ => .found (.queues rfl (Nat.le_succ _))
  | .panic message, _, _, hp => by
    refine ⟨by simp [Op.effect], by simp [Op.effect], fun hcalm => ?_⟩
    have hpanics : p (.panic message) := hp
    rw [hcalm] at hpanics
    cases hpanics
  | .create _, _, _, _ | .attempt _, _, _, _ | .isHandler _, _, _, _ | .require _, _, _, _
  | .flush _, _, _, _
  | .flushes _, _, _, _ | .identity _, _, _, _ | .same .., _, _, _ | .copyExecutor _, _, _, _
  | .dropExecutor _, _, _, _ | .dropLoop _, _, _, _ | .run _, _, _, _ | .poll _, _, _, _ =>
    .events []

theorem effectOf_of {p : Op → Bool} : ∀ {ops : List Op} {found on : Bool}, everywhereIn p ops →
    (effectOf found on ops).Of p (weights ops)
  | [], _, _, _ => .events []
  | op :: ops, found, on, hp => by
    obtain ⟨hop, hops⟩ := Bool.and_eq_true_iff.1 hp
    exact (Op.effect_of hop).andThen (.recorded _ (effectOf_of hops))

end

/-- What a task queues is less than the task. -/
theorem Job.effect_of {p : Op → Bool} {found : Bool} : ∀ {job : Job}, job.everywhere p →
    (job.effect found).Of p (job.weight - 1)
  | .ops _ _ _, hp => .recorded _ (effectOf_of hp)
  | .link n, _ => by
    by_cases hn : 0 < n
    · refine ⟨by simp [Job.effect, Job.everywhere], ?_, fun _ => rfl⟩
      simp only [Job.effect, hn, if_pos, load_cons, load_nil, Job.weight]
      omega
    · exact ⟨by simp [Job.effect, hn], by simp [Job.effect, hn], fun _ => rfl⟩

theorem Effect.outcome_then {α β : Type} {x : Run β} {s s' : State} {e : Effect} {b : β}
    (hx : x s = (e.outcome b, s')) (f : β → α) :
    (x >>= fun b => pure (f b)) s = (e.outcome (f b), s') := by
  unfold Effect.outcome at hx ⊢
  rcases he : e.panic with _ | message <;> rw [he] at hx
  · exact Act.bind_of_ok hx
  · exact Act.bind_of_error hx

/-- Tasks went into the mailbox. -/
def Station.taking (x : Station) (jobs : List Job) : Station :=
  { x with mailbox := { x.mailbox with tasks := x.mailbox.tasks ++ jobs } }

namespace State

variable {s : State} {h : Nat} {f g : Station → Station}

theorem getElem?_change : (s.change h f).stations[h]? = s.stations[h]?.map f := by
  simp [change]

theorem change_self (hf : ∀ x, f x = x) : s.change h f = s := by
  have hid : f = id := funext hf
  simp [change, hid]

theorem change_congr {x : Station} (hx : s.stations[h]? = some x) (hfg : f x = g x) :
    s.change h f = s.change h g := by
  have hsame : s.stations.modify h f = s.stations.modify h g := by
    refine List.ext_getElem? fun k => ?_
    rw [List.getElem?_modify, List.getElem?_modify]
    split
    · rename_i hk
      subst hk
      rw [hx]
      exact congrArg some hfg
    · rfl
  simp [change, hsame]

/-- Code with an effect was performed. -/
def after (s : State) (h : Nat) (e : Effect) : State :=
  { s.change h (·.taking e.queued) with events := s.events ++ e.events }

theorem after_nil : s.after h {} = s := by
  unfold after
  rw [change_self fun x => by simp [Station.taking]]
  simp

theorem after_after {e : Effect} (he : e.panic = none) (e' : Effect) :
    (s.after h e).after h e' = s.after h (e.andThen e') := by
  rw [Effect.andThen_of_none he]
  simp [after, change, Station.taking, List.modify_modify_eq, Function.comp_def]

/-- What running code can tell of a handler: a loop is there for it, and the code finds an executor
of it, or not, and is on it, or not. -/
structure Sees (s : State) (h : Nat) (id : HandlerId) (found on : Bool) : Prop where
  station : ∃ x, s.stations[h]? = some x ∧ x.mailbox.handler = id ∧ x.mailbox.attended ∧
    x.isReachable = found
  place : decide (s.onHandler = some id) = on

variable {id : HandlerId} {found found' on : Bool}

theorem Sees.change (hs : s.Sees h id found on)
    (hf : ∀ x, (f x).mailbox.handler = x.mailbox.handler ∧
      (f x).mailbox.attended = x.mailbox.attended)
    (hr : ∀ x, x.isReachable = found → (f x).isReachable = found') :
    (s.change h f).Sees h id found' on := by
  obtain ⟨⟨x, hx, hid, ha, hfound⟩, hplace⟩ := hs
  refine ⟨⟨f x, ?_, (hf x).1.trans hid, (hf x).2.trans ha, hr x hfound⟩, hplace⟩
  rw [getElem?_change, hx]
  rfl

theorem Sees.after (hs : s.Sees h id found on) (e : Effect) : (s.after h e).Sees h id found on := by
  have htaken : (s.change h (·.taking e.queued)).Sees h id found on :=
    hs.change (fun _ => ⟨rfl, rfl⟩) fun _ hx => hx
  exact ⟨htaken.station, htaken.place⟩

theorem Sees.entered (hs : s.Sees h id found on) :
    { s with onHandler := some id }.Sees h id found true :=
  ⟨hs.station, by simp⟩

theorem Sees.left (hs : s.Sees h id found on) :
    { s with onHandler := none }.Sees h id found false :=
  ⟨hs.station, rfl⟩

theorem Sees.held (hs : s.Sees h id found on) :
    (s.change h fun x => { x with inUse := x.inUse + 1 }).Sees h id found on :=
  hs.change (fun _ => ⟨rfl, rfl⟩) fun _ hx => hx

/-- A task's own executor is found. -/
theorem Sees.lent (hs : s.Sees h id found on) :
    (s.change h fun x => { x with lent := x.lent + 1 }).Sees h id true on :=
  hs.change (fun _ => ⟨rfl, rfl⟩) fun _ _ => by simp [Station.isReachable]

end State

theorem executor?_eq {h : Nat} {s : State} {x : Station} (hx : s.stations[h]? = some x) :
    executor? h s = (.ok (if x.isReachable then some x else none), s) := by
  have hfilter : s.stations[h]?.filter (·.isReachable) =
      if x.isReachable then some x else none := by
    rw [hx]
    rfl
  rw [← hfilter]
  rfl

/-- From `s` the action has the effect `e` on a handler's mailbox and on what is recorded, and no
other. -/
def Does {α : Type} (h : Nat) (act : Run α) (s : State) (e : Effect) (a : α) : Prop :=
  act s = (e.outcome a, s.after h e)

namespace Does

variable {α β : Type} {h : Nat} {s : State} {e e' : Effect} {a : α} {b : β}

theorem answer (a : α) : Does h (pure a) s {} a := by
  unfold Does
  rw [State.after_nil]
  rfl

theorem panics (message : String) : Does h (panicWith message) s { panic := some message } a := by
  have hsame : s.after h { panic := some message } = s := State.after_nil
  unfold Does
  rw [hsame]
  rfl

theorem records (event : Event) : Does h (record event) s { events := [event] } () := by
  unfold Does State.after
  rw [State.change_self fun x => by simp [Station.taking]]
  rfl

theorem bind {x : Run β} {f : β → Run α} (hx : Does h x s e b)
    (hf : e.panic = none → Does h (f b) (s.after h e) e' a) :
    Does h (x >>= f) s (e.andThen e') a := by
  unfold Does at hx hf ⊢
  rcases he : e.panic with _ | message
  · have hok : x s = (.ok b, s.after h e) := by rw [hx, Effect.outcome, he]
    rw [Act.bind_of_ok hok, hf he, State.after_after he, Effect.andThen_of_none he]
    rfl
  · have herror : x s = (.error (.panicked (.text message)), s.after h e) := by
      rw [hx, Effect.outcome, he]
    rw [Act.bind_of_error herror, Effect.andThen_of_some he, Effect.outcome, he]

/-- An answer that follows is no effect. -/
theorem answering {x : Run β} (hx : Does h x s e b) (a : α) :
    Does h (x >>= fun _ => pure a) s e a :=
  Effect.outcome_then hx fun _ => a

theorem bracket {act : Run α} {enter : State → State} {leave : State → State → State}
    (hx : Does h act (enter s) e a) (hback : leave s ((enter s).after h e) = s.after h e) :
    Does h (act.bracket enter leave) s e a := by
  unfold Does Act.bracket at *
  rw [hx, ← hback]

theorem at_handler {act : Run α} {place : Option HandlerId}
    (hx : Does h act { s with onHandler := place } e a) : Does h (withHandler place act) s e a :=
  bracket hx rfl

theorem holds {act : Run α}
    (hx : Does h act (s.change h fun x => { x with inUse := x.inUse + 1 }) e a) :
    Does h (holding h act) s e a := by
  refine bracket hx ?_
  simp [State.after, State.change, Station.taking, List.modify_modify_eq, Function.comp_def]

theorem lends {act : Run α}
    (hx : Does h act (s.change h fun x => { x with lent := x.lent + 1 }) e a) :
    Does h (lending h act) s e a := by
  refine bracket hx ?_
  simp [State.after, State.change, Station.taking, List.modify_modify_eq, Function.comp_def]

theorem posts {x : Station} {id : HandlerId} {found on : Bool} (ha : x.mailbox.attended)
    (hs : s.Sees h id found on) (job : Job) :
    Does h (post h x job) s { queued := [job] } () := by
  obtain ⟨y, hy, -, hattended, -⟩ := hs.station
  have htaken : s.change h (fun y => { y with mailbox := y.mailbox.post job }) =
      s.change h (·.taking [job]) :=
    State.change_congr hy (by simp [Mailbox.post, hattended, Station.taking])
  have hafter : s.after h { queued := [job] } = s.change h (·.taking [job]) := by
    simp only [State.after, List.append_nil]
    rfl
  unfold Does post
  rw [hafter, ← htaken]
  simp only [ha]
  rfl

theorem finds {f : Option Station → Run α} {x : Station} (hx : s.stations[h]? = some x)
    (hf : Does h (f (some x)) s e a) : Does h (station? h >>= f) s e a := by
  rw [← hx] at hf
  exact hf

/-- The code asks where it is. -/
theorem locates {f : Bool → Run α} {id : HandlerId} {found on : Bool} (hs : s.Sees h id found on)
    (hf : Does h (f on) s e a) : Does h (isOn id >>= f) s e a := by
  obtain ⟨-, rfl⟩ := hs
  exact hf

/-- The code finds an executor, and so the action on it is performed, or it finds none. -/
theorem asks {f : Station → Run Reply} {id : HandlerId} {found on : Bool} {reply : Reply}
    (hs : s.Sees h id found on)
    (hf : ∀ x, found → s.stations[h]? = some x → x.mailbox.handler = id → x.mailbox.attended →
      Does h (f x) s e reply) :
    Does h (do
      let some x ← executor? h | return .noExecutor
      f x) s (if found then e else {}) (if found then reply else .noExecutor) := by
  obtain ⟨⟨x, hx, hid, ha, rfl⟩, -⟩ := hs
  unfold Does
  rw [Act.bind_of_ok (executor?_eq hx)]
  cases hfound : x.isReachable with
  | true => exact hf x hfound hx hid ha
  | false => exact answer _

end Does

section Performing

variable {h : Nat} {id : HandlerId} {mayPanic : Bool}

mutual

theorem perform_does : ∀ {fuel : Nat} {op : Op} {s : State} {found on : Bool},
    op.everywhere (Op.isFor h mayPanic) → 3 * op.weight ≤ fuel → s.Sees h id found on →
    Does h (perform fuel op) s (op.effect found on) (op.reply found on)
  | 0, op, _, _, _, _, hfuel, _ => by
    have := op.weight_pos
    omega
  | fuel + 1, op, s, found, on, hfor, hfuel, hs => by
    cases op with
    | runNow k tag ops =>
      obtain ⟨rfl, hops⟩ : h = k ∧ everywhereIn (Op.isFor h mayPanic) ops := by
        simpa [Op.everywhere, Op.isFor] using hfor
      simp only [Op.weight] at hfuel
      refine .asks hs fun x _ _ hid ha => ?_
      rw [hid]
      refine .locates hs ?_
      cases on with
      | true =>
        have hjob : (Job.ops false tag ops).everywhere (Op.isFor h mayPanic) := hops
        have hweight : 3 * (Job.ops false tag ops).weight ≤ fuel + 1 := hfuel
        exact .answering (.holds (doJob_does hjob hweight hs.held)) _
      | false => exact .answering (.posts ha hs _) _
    | runLater k tag ops =>
      obtain ⟨rfl, -⟩ : h = k ∧ everywhereIn (Op.isFor h mayPanic) ops := by
        simpa [Op.everywhere, Op.isFor] using hfor
      exact .asks hs fun x _ _ _ ha => .answering (.posts ha hs _) _
    | entrust k tag ops =>
      obtain ⟨rfl, -⟩ : h = k ∧ everywhereIn (Op.isFor h mayPanic) ops := by
        simpa [Op.everywhere, Op.isFor] using hfor
      exact .asks hs fun x _ _ _ ha => .answering (.posts ha hs _) _
    | enter k ops =>
      obtain ⟨rfl, hops⟩ : h = k ∧ everywhereIn (Op.isFor h mayPanic) ops := by
        simpa [Op.everywhere, Op.isFor] using hfor
      simp only [Op.weight] at hfuel
      refine .asks hs fun x _ _ hid _ => .answering (b := ()) (.holds (.at_handler ?_)) _
      rw [hid]
      exact performAll_does hops (by omega) hs.held.entered
    | onThread ops =>
      have hops : everywhereIn (Op.isFor h mayPanic) ops := by
        simpa [Op.everywhere, Op.isFor] using hfor
      simp only [Op.weight] at hfuel
      exact .answering (.at_handler (performAll_does hops (by omega) hs.left)) _
    | chain k n =>
      obtain rfl : h = k := by simpa [Op.everywhere, Op.isFor] using hfor
      exact .asks hs fun x _ _ _ ha => .answering (.posts ha hs _) _
    | isHandler k =>
      obtain rfl : h = k := by simpa [Op.everywhere, Op.isFor] using hfor
      have hnothing : Op.effect found on (.isHandler h) = if found then {} else {} :=
        (ite_self _).symm
      rw [hnothing]
      refine .asks hs fun x _ _ hid _ => ?_
      rw [hid]
      exact .locates hs (.answer _)
    | panic message => exact .panics message
    | _ => simp [Op.everywhere, Op.isFor] at hfor

theorem performAll_does : ∀ {fuel : Nat} {ops : List Op} {s : State} {found on : Bool},
    everywhereIn (Op.isFor h mayPanic) ops → 3 * weights ops + 1 ≤ fuel → s.Sees h id found on →
    Does h (performAll fuel ops) s (effectOf found on ops) ()
  | 0, _, _, _, _, _, hfuel, _ => by omega
  | fuel + 1, [], s, _, _, _, _, _ => .answer ()
  | fuel + 1, op :: ops, s, found, on, hfor, hfuel, hs => by
    obtain ⟨hop, hops⟩ : op.everywhere (Op.isFor h mayPanic) ∧
        everywhereIn (Op.isFor h mayPanic) ops := by
      simpa [everywhereIn] using hfor
    have hpos := op.weight_pos
    simp only [weights] at hfuel
    refine (perform_does hop (by omega) hs).bind fun _ => (Does.records _).bind fun _ => ?_
    exact performAll_does hops (by omega) ((hs.after _).after _)

theorem doJob_does : ∀ {fuel : Nat} {job : Job} {s : State} {found : Bool},
    job.everywhere (Op.isFor h mayPanic) → 3 * job.weight ≤ fuel + 1 → s.Sees h id found true →
    Does h (doJob fuel h job) s (job.effect found) ()
  | 0, job, s, _, _, hfuel, _ => by
    cases job <;> simp only [Job.weight] at hfuel <;> omega
  | fuel + 1, .ops own tag body, s, found, hfor, hfuel, hs => by
    simp only [Job.weight] at hfuel
    refine (Does.records _).bind fun _ => ?_
    cases own with
    | true => exact .lends (performAll_does hfor (by omega) (hs.after _).lent)
    | false => exact performAll_does hfor (by omega) (hs.after _)
  | fuel + 1, .link n, s, found, hfor, hfuel, hs => by
    obtain ⟨x, hx, hid, ha, -⟩ := hs.station
    refine .finds hx (.locates (hid ▸ hs) ?_)
    let next : Unit → Run Unit := fun _ => if 0 < n then post h x (.link (n - 1)) else pure ()
    have hnext : Does h (next ()) (s.after h { events := [.chain n true] })
        { queued := if 0 < n then [.link (n - 1)] else [] } () := by
      unfold next
      split
      · exact .posts ha (hs.after _) _
      · exact .answer ()
    exact (Does.records (.chain n true)).bind (f := next) fun _ => hnext

end

end Performing

end Program

end ReceivingLink
