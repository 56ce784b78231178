import ReceivingLink.Proofs.Tasks

/-!
# Serving a mailbox

What is queued for a handler goes behind all that waits, and its loop does what has waited longest.
A task may queue more tasks while the loop is at it, and may break the loop off with a panic: then
it is done all the same, and whoever called the loop calls it again. Over all of these calls every
task is done once and in the order in which it was queued: `served_in_order`. The calls come to an
end because what a task queues is less than the task.

The mailbox alone is `Leaves`, which knows nothing of panics. One call of a loop is `Serves`, and an
operation of a program with the report of it is a `Turn`.
-/

namespace ReceivingLink.Program

/-- Something that ran: a task out of the mailbox, or the program's own code. -/
structure Step where
  task : Option Job
  effect : Effect

/-- With `waiting` in the mailbox the steps ran, and left `left` there. A task that was done is the
one that had waited longest, and what a step queued went behind all that waited. -/
def Leaves (left : List Job) : (waiting : List Job) → List Step → Prop
  | waiting, [] => waiting = left
  | waiting, ⟨none, e⟩ :: steps => Leaves left (waiting ++ e.queued) steps
  | waiting, ⟨some job, e⟩ :: steps =>
    ∃ rest, waiting = job :: rest ∧ Leaves left (rest ++ e.queued) steps

theorem Leaves.append {mid left waiting : List Job} {steps steps' : List Step}
    (h : Leaves mid waiting steps) (h' : Leaves left mid steps') :
    Leaves left waiting (steps ++ steps') := by
  induction steps generalizing waiting with
  | nil =>
    obtain rfl : waiting = mid := h
    exact h'
  | cons step steps ih =>
    obtain ⟨_ | job, e⟩ := step
    · exact ih h
    · obtain ⟨rest, hwaiting, h⟩ := h
      exact ⟨rest, hwaiting, ih h⟩

/-- The tasks that were done, and those left, are those that waited and those that were queued, in
the order in which they came into the mailbox. -/
theorem Leaves.fifo {left waiting : List Job} {steps : List Step} (h : Leaves left waiting steps) :
    steps.filterMap (·.task) ++ left = waiting ++ steps.flatMap (·.effect.queued) := by
  induction steps generalizing waiting with
  | nil =>
    obtain rfl : waiting = left := h
    simp
  | cons step steps ih =>
    obtain ⟨_ | job, e⟩ := step
    · simpa using ih h
    · obtain ⟨rest, rfl, h⟩ := h
      simpa using ih h

/-- What steps do one after the other. -/
def total (steps : List Step) : Effect := steps.foldr (fun step e => step.effect.andThen e) {}

/-- A task runs, in a program that has an executor or not. -/
def taskStep (found : Bool) (job : Job) : Step := ⟨some job, job.effect found⟩

/-- A loop does tasks: in order, none behind one that panics, and all if none does. -/
structure Serves (found : Bool) (waiting tasks left : List Job) : Prop where
  leaves : Leaves left waiting (tasks.map (taskStep found))
  unbroken : ∀ job ∈ tasks.dropLast, (job.effect found).panic = none
  empty : (total (tasks.map (taskStep found))).panic = none → left = []

namespace Serves

variable {found : Bool} {job : Job} {rest tasks left : List Job}

theorem nothing : Serves found [] [] [] := ⟨rfl, by simp, fun _ => rfl⟩

/-- A task that does not panic is done, and the loop goes on with what then waits. -/
theorem next (hpanic : (job.effect found).panic = none)
    (h : Serves found (rest ++ (job.effect found).queued) tasks left) :
    Serves found (job :: rest) (job :: tasks) left := by
  refine ⟨⟨rest, rfl, h.leaves⟩, fun done hdone => ?_, fun hnone => h.empty ?_⟩
  · rcases tasks with _ | ⟨first, later⟩
    · cases hdone
    · rw [List.dropLast_cons_cons] at hdone
      rcases List.mem_cons.1 hdone with rfl | hdone
      · exact hpanic
      · exact h.unbroken done hdone
  · have htotal := Effect.andThen_of_none hpanic (total (tasks.map (taskStep found)))
    exact (congrArg Effect.panic htotal).symm.trans hnone

/-- A task that panics is done, and the rest is left with what it queued before. -/
theorem breaksOff {message : String} (hpanic : (job.effect found).panic = some message) :
    Serves found (job :: rest) [job] (rest ++ (job.effect found).queued) := by
  refine ⟨⟨rest, rfl, rfl⟩, by simp, fun hnone => ?_⟩
  have htotal : total [taskStep found job] = job.effect found := Effect.andThen_nil _
  rw [List.map_singleton, htotal, hpanic] at hnone
  cases hnone

/-- The tasks done and those left are as the first were, and what is left is as much less as tasks
were done. -/
theorem bounds {p : Op → Bool} : ∀ {tasks waiting : List Job},
    Leaves left waiting (tasks.map (taskStep found)) → (∀ job ∈ waiting, job.everywhere p) →
    (∀ job ∈ tasks, job.everywhere p) ∧ (∀ job ∈ left, job.everywhere p) ∧
      load left + tasks.length ≤ load waiting
  | [], waiting, h, hp => by
    obtain rfl : waiting = left := h
    exact ⟨by simp, hp, Nat.le_refl _⟩
  | job :: tasks, _, ⟨rest, rfl, h⟩, hp => by
    have hjob := hp job List.mem_cons_self
    have hof : (job.effect found).Of p (job.weight - 1) := Job.effect_of hjob
    have hrest : ∀ later ∈ rest ++ (job.effect found).queued, later.everywhere p :=
      fun later hlater => (List.mem_append.1 hlater).elim
        (fun hmem => hp later (List.mem_cons_of_mem _ hmem)) (hof.jobs later)
    have hlater : Leaves left (rest ++ (job.effect found).queued) (tasks.map (taskStep found)) := h
    obtain ⟨htasks, hleft, hload⟩ := bounds hlater hrest
    have hpos := job.weight_pos
    have hqueued := hof.load_le
    refine ⟨?_, hleft, ?_⟩
    · simpa [hjob] using htasks
    · rw [load_append] at hload
      rw [load_cons, List.length_cons]
      omega

end Serves

/-- What waits was replaced. -/
def Station.leaving (x : Station) (jobs : List Job) : Station :=
  { x with mailbox := { x.mailbox with tasks := jobs } }

/-- The tasks that wait for a handler. -/
def State.waiting (s : State) (h : Nat) : List Job :=
  s.stations[h]?.elim [] (·.mailbox.tasks)

/-- A loop did tasks. -/
def State.reach (s : State) (h : Nat) (left : List Job) (events : List Event) : State :=
  { s.change h (·.leaving left) with events := s.events ++ events }

namespace State

variable {s : State} {h : Nat} {rest left : List Job} {e : Effect}

theorem after_leaving :
    (s.change h (·.leaving rest)).after h e = s.reach h (rest ++ e.queued) e.events := by
  simp [after, reach, change, Station.taking, Station.leaving, List.modify_modify_eq,
    Function.comp_def]

theorem reach_after {events : List Event} :
    ((s.change h (·.leaving rest)).after h e).reach h left events =
      s.reach h left (e.events ++ events) := by
  simp [after, reach, change, Station.taking, Station.leaving, List.modify_modify_eq,
    Function.comp_def]

theorem waiting_eq {x : Station} (hx : s.stations[h]? = some x) :
    s.waiting h = x.mailbox.tasks := by
  unfold waiting
  rw [hx]
  rfl

theorem reach_self {x : Station} (hx : s.stations[h]? = some x) :
    s.reach h (s.waiting h) [] = s := by
  have hsame : s.change h (·.leaving x.mailbox.tasks) = s := by
    rw [change_congr hx (g := fun x => x) rfl, change_self fun _ => rfl]
  rw [waiting_eq hx]
  unfold reach
  rw [hsame]
  simp

end State

/-- The loop has the handler to itself and runs to the end of the mailbox. -/
def runPending (fuel h : Nat) (id : HandlerId) : Run Nat :=
  running h (withHandler (some id) (drain fuel h))

section Loop

variable {h : Nat} {s : State}

theorem takeJob_eq : takeJob h s =
    match s.stations[h]?.bind (·.mailbox.take?) with
    | none => (.ok none, s)
    | some (job, mailbox) => (.ok (some job), s.change h fun x => { x with mailbox }) := by
  have htake : takeJob h s =
      (match s.stations[h]?.bind (·.mailbox.take?) with
      | none => pure none
      | some (job, mailbox) => do
        change h fun x => { x with mailbox }
        return some job : Run (Option Job)) s := rfl
  rw [htake]
  cases s.stations[h]?.bind (·.mailbox.take?) with
  | none => rfl
  | some taken => rfl

theorem takeJob_nil (hnil : s.waiting h = []) : takeJob h s = (.ok none, s) := by
  unfold State.waiting at hnil
  rcases hx : s.stations[h]? with _ | x <;> rw [hx] at hnil
  · rw [takeJob_eq, hx]
    rfl
  · have htasks : x.mailbox.tasks = [] := hnil
    have hnone : s.stations[h]?.bind (·.mailbox.take?) = none := by
      simp [hx, Mailbox.take?, htasks]
    rw [takeJob_eq, hnone]

theorem takeJob_cons {job : Job} {rest : List Job} (hcons : s.waiting h = job :: rest) :
    takeJob h s = (.ok (some job), s.change h (·.leaving rest)) := by
  unfold State.waiting at hcons
  rcases hx : s.stations[h]? with _ | x <;> rw [hx] at hcons
  · cases hcons
  have htasks : x.mailbox.tasks = job :: rest := hcons
  have hsome : s.stations[h]?.bind (·.mailbox.take?) =
      some (job, { x.mailbox with tasks := rest }) := by
    simp [hx, Mailbox.take?, htasks]
  have htaken : s.change h (fun y => { y with mailbox := { x.mailbox with tasks := rest } }) =
      s.change h (·.leaving rest) := State.change_congr hx rfl
  rw [takeJob_eq, hsome, ← htaken]

variable {id : HandlerId} {found mayPanic : Bool}

/-- A loop that is run does tasks as it should, and the effects of those tasks are all that comes of
it. -/
theorem drain_serves : ∀ (fuel : Nat) {s : State} {waiting : List Job},
    s.Sees h id found true → s.waiting h = waiting →
    (∀ job ∈ waiting, job.everywhere (Op.isFor h mayPanic)) → 3 * load waiting + 1 ≤ fuel →
    ∃ tasks left, Serves found waiting tasks left ∧
      drain fuel h s = ((total (tasks.map (taskStep found))).outcome tasks.length,
        s.reach h left (total (tasks.map (taskStep found))).events)
  | 0, _, _, _, _, _, hfuel => by omega
  | fuel + 1, s, [], hs, hwaiting, _, _ => by
    obtain ⟨x, hx, -⟩ := hs.station
    refine ⟨[], [], .nothing, ?_⟩
    have hsame : s.reach h [] [] = s := hwaiting ▸ State.reach_self hx
    show drain (fuel + 1) h s = (Except.ok 0, s.reach h [] [])
    rw [hsame, drain, Act.bind_of_ok (takeJob_nil hwaiting)]
    rfl
  | fuel + 1, s, job :: rest, hs, hwaiting, hfor, hfuel => by
    obtain ⟨x, hx, -⟩ := hs.station
    have hjob := hfor job List.mem_cons_self
    have hof : (job.effect found).Of (Op.isFor h mayPanic) (job.weight - 1) := Job.effect_of hjob
    have hpos := job.weight_pos
    rw [load_cons] at hfuel
    -- The task that has waited longest is taken out and done
    let taken := s.change h (·.leaving rest)
    let done := taken.after h (job.effect found)
    have htaken : taken.Sees h id found true := hs.change (fun _ => ⟨rfl, rfl⟩) fun _ hx => hx
    have hdoes : Does h (doJob fuel h job) taken (job.effect found) () :=
      doJob_does hjob (by omega) htaken
    have hdone : done.waiting h = rest ++ (job.effect found).queued := by
      simp [done, taken, State.waiting, State.after, State.change, Station.taking,
        Station.leaving, hx]
    rw [drain, Act.bind_of_ok (takeJob_cons hwaiting)]
    dsimp only
    rcases hpanic : (job.effect found).panic with _ | message
    · have hfor' : ∀ later ∈ rest ++ (job.effect found).queued,
          later.everywhere (Op.isFor h mayPanic) :=
        fun later hlater => (List.mem_append.1 hlater).elim
          (fun hrest => hfor later (List.mem_cons_of_mem _ hrest)) (hof.jobs later)
      have hfuel' : 3 * load (rest ++ (job.effect found).queued) + 1 ≤ fuel := by
        have := hof.load_le
        rw [load_append]
        omega
      obtain ⟨tasks, left, hserves, hdrain⟩ :=
        drain_serves fuel (htaken.after _) hdone hfor' hfuel'
      refine ⟨job :: tasks, left, hserves.next hpanic, ?_⟩
      have htotal : total ((job :: tasks).map (taskStep found)) =
          (job.effect found).andThen (total (tasks.map (taskStep found))) := rfl
      have hok : doJob fuel h job taken = (.ok (), done) := by
        rw [hdoes, Effect.outcome, hpanic]
      rw [Act.bind_of_ok hok, htotal, Effect.andThen_of_none hpanic, ← State.reach_after]
      exact Effect.outcome_then hdrain (· + 1)
    · refine ⟨[job], rest ++ (job.effect found).queued, .breaksOff hpanic, ?_⟩
      have htotal : total ([job].map (taskStep found)) = job.effect found := Effect.andThen_nil _
      rw [htotal]
      have herror : doJob fuel h job taken = (.error (.panicked (.text message)), done) := by
        rw [hdoes, Effect.outcome, hpanic]
      rw [Act.bind_of_error herror, Effect.outcome, hpanic, ← State.after_leaving]

end Loop

/-- No code runs, and there is a handler whose loop is there and is not being run. -/
structure State.Idle (s : State) (h : Nat) (x : Station) : Prop where
  here : s.stations[h]? = some x
  nowhere : s.onHandler = none
  attended : x.mailbox.attended
  resting : x.busy = false
  inUse : x.inUse = 0
  lent : x.lent = 0

/-- The program has an executor of the handler. -/
def Station.hasExecutor (x : Station) : Bool := 0 < x.executors

namespace State.Idle

variable {s : State} {h fuel : Nat} {x : Station} {mayPanic : Bool}

theorem sees (hs : s.Idle h x) : s.Sees h x.mailbox.handler x.hasExecutor false := by
  refine ⟨⟨x, hs.here, rfl, hs.attended, ?_⟩, ?_⟩
  · simp [Station.isReachable, Station.hasExecutor, hs.lent]
  · simp [hs.nowhere]

/-- What is recorded and reported is looked at and put away between operations. -/
theorem cleared (hs : s.Idle h x) : { s with events := [], notices := [] }.Idle h x :=
  ⟨hs.here, hs.nowhere, hs.attended, hs.resting, hs.inUse, hs.lent⟩

/-- Only the handler's own station changed, and its loop is there still and is not being run. -/
theorem changed (hs : s.Idle h x) (f : Station → Station) {events : List Event}
    {notices : List Notice} (hattended : (f x).mailbox.attended = x.mailbox.attended)
    (hresting : (f x).busy = x.busy) (hinUse : (f x).inUse = x.inUse)
    (hlent : (f x).lent = x.lent) :
    { s.change h f with events, notices }.Idle h (f x) := by
  refine ⟨?_, hs.nowhere, hattended.trans hs.attended, hresting.trans hs.resting,
    hinUse.trans hs.inUse, hlent.trans hs.lent⟩
  exact (State.getElem?_change (s := s)).trans (by rw [hs.here]; rfl)

theorem after (hs : s.Idle h x) (e : Effect) : (s.after h e).Idle h (x.taking e.queued) :=
  hs.changed (·.taking e.queued) rfl rfl rfl rfl

theorem reach (hs : s.Idle h x) (left : List Job) (events : List Event) :
    (s.reach h left events).Idle h (x.leaving left) :=
  hs.changed (·.leaving left) rfl rfl rfl rfl

/-- A handler's loop is run, to the end of its mailbox or to a panic. -/
theorem running_serves (hs : s.Idle h x)
    (hfor : ∀ job ∈ x.mailbox.tasks, job.everywhere (Op.isFor h mayPanic))
    (hfuel : 3 * load x.mailbox.tasks + 1 ≤ fuel) :
    ∃ tasks left, Serves x.hasExecutor x.mailbox.tasks tasks left ∧
      runPending fuel h x.mailbox.handler s =
        ((total (tasks.map (taskStep x.hasExecutor))).outcome tasks.length,
          s.reach h left (total (tasks.map (taskStep x.hasExecutor))).events) := by
  let begun : State := { s.change h (fun x => { x with busy := true }) with
    onHandler := some x.mailbox.handler }
  have hbusy : (s.change h fun x => { x with busy := true }).Sees h x.mailbox.handler
      x.hasExecutor false := hs.sees.change (fun _ => ⟨rfl, rfl⟩) fun _ hx => hx
  have hbegun : begun.Sees h x.mailbox.handler x.hasExecutor true := hbusy.entered
  have hwaiting : begun.waiting h = x.mailbox.tasks := by
    simp [begun, State.waiting, State.change, hs.here]
  obtain ⟨tasks, left, hserves, hdrain⟩ := drain_serves fuel hbegun hwaiting hfor hfuel
  refine ⟨tasks, left, hserves, ?_⟩
  have hstations : ((s.stations.modify h fun y => { y with busy := true }).modify h
      (·.leaving left)).modify h (fun y => { y with busy := false }) =
      s.stations.modify h (·.leaving left) := by
    rw [List.modify_modify_eq, List.modify_modify_eq]
    refine congrArg State.stations (State.change_congr (s := s) hs.here ?_)
    simp [Station.leaving, hs.resting]
  have hended (events : List Event) :
      State.change { begun.reach h left events with onHandler := s.onHandler } h
        (fun y => { y with busy := false }) = s.reach h left events :=
    congrArg (fun stations => { s with stations, events := s.events ++ events }) hstations
  unfold runPending running withHandler Act.bracket
  dsimp only
  rw [hdrain, ← hended]
  rfl

end State.Idle

theorem perform_run {fuel h : Nat} {s : State} {x : Station} (hx : s.stations[h]? = some x)
    (hbusy : x.busy = false) (hloop : x.loop = .fresh) :
    perform (fuel + 1) (.run h) s = (do
      return Reply.count (← runPending fuel h x.mailbox.handler)) s := by
  have hfound : station? h s = (.ok (some x), s) := by
    rw [← hx]
    rfl
  rw [perform, Act.bind_of_ok hfound]
  simp only [hbusy, hloop]
  rfl

/-- One operation of a program; if it is a call of a loop, with the tasks that the loop did. -/
structure Turn where
  op : Op
  /-- The program had an executor. -/
  found : Bool
  tasks : List Job := []

namespace Turn

def steps (turn : Turn) : List Step :=
  match turn.op with
  | .run _ | .poll _ => turn.tasks.map (taskStep turn.found)
  | op => [⟨none, op.effect turn.found false⟩]

/-- Nothing ran behind a panic. -/
def Unbroken (turn : Turn) : Prop := ∀ step ∈ turn.steps.dropLast, step.effect.panic = none

/-- What an operation answers that does not panic. A loop that is polled is finished when the
program has no executor left. -/
def reply (turn : Turn) : Reply :=
  match turn.op with
  | .run _ => .count turn.tasks.length
  | .poll _ => if turn.found then .waiting else .finished
  | .dropExecutor _ => .flag turn.found
  | op => op.reply turn.found false

def notices (id : HandlerId) (turn : Turn) : List Notice :=
  match turn.op with
  | .poll _ => if turn.found then [] else [.loopFinished id]
  | _ => []

/-- What becomes of the operation. -/
def report (id : HandlerId) (turn : Turn) : Report where
  result := (total turn.steps).outcome turn.reply
  events := (total turn.steps).events
  notices := turn.notices id

section Code

variable {h : Nat} {mayPanic found : Bool} {op : Op}

theorem steps_code (hop : op.everywhere (Op.isFor h mayPanic)) :
    (⟨op, found, []⟩ : Turn).steps = [⟨none, op.effect found false⟩] := by
  cases op with
  | run _ | poll _ => simp [Op.everywhere, Op.isFor] at hop
  | _ => rfl

theorem report_code (hop : op.everywhere (Op.isFor h mayPanic)) (id : HandlerId) :
    (⟨op, found, []⟩ : Turn).report id =
      ⟨(op.effect found false).outcome (op.reply found false), (op.effect found false).events,
        []⟩ := by
  have htotal : total [⟨none, op.effect found false⟩] = op.effect found false :=
    Effect.andThen_nil _
  have hreply : (⟨op, found, []⟩ : Turn).reply = op.reply found false := by
    cases op with
    | run _ | poll _ | dropExecutor _ => simp [Op.everywhere, Op.isFor] at hop
    | _ => rfl
  have hnotices : (⟨op, found, []⟩ : Turn).notices id = [] := by
    cases op with
    | poll _ => simp [Op.everywhere, Op.isFor] at hop
    | _ => rfl
  rw [report, steps_code hop, htotal, hreply, hnotices]

end Code

end Turn

/-- From `s` to `s'` the program made the turns, and the handler's station was `x` and is `x'`. -/
structure History (fuel h : Nat) (s : State) (x : Station) (turns : List Turn) (s' : State)
    (x' : Station) : Prop where
  reports_append : ∀ ops, reports fuel (turns.map (·.op) ++ ops) s =
    turns.map (·.report x.mailbox.handler) ++ reports fuel ops s'
  leaves : Leaves x'.mailbox.tasks x.mailbox.tasks (turns.flatMap (·.steps))
  unbroken : ∀ turn ∈ turns, turn.Unbroken
  idle : s'.Idle h x'
  handler : x'.mailbox.handler = x.mailbox.handler

namespace History

variable {fuel h : Nat} {s s' s'' : State} {x x' x'' : Station} {turns turns' : List Turn}
  {mayPanic : Bool}

theorem refl (hs : s.Idle h x) : History fuel h s x [] s x :=
  ⟨fun _ => rfl, rfl, by simp, hs, rfl⟩

theorem append (hfirst : History fuel h s x turns s' x')
    (hlater : History fuel h s' x' turns' s'' x'') :
    History fuel h s x (turns ++ turns') s'' x'' := by
  refine ⟨fun ops => ?_, ?_, fun turn hturn => ?_, hlater.idle, ?_⟩
  · rw [List.map_append, List.append_assoc, hfirst.reports_append, hlater.reports_append,
      hfirst.handler, List.map_append, List.append_assoc]
  · rw [List.flatMap_append]
    exact hfirst.leaves.append hlater.leaves
  · exact (List.mem_append.1 hturn).elim (hfirst.unbroken turn) (hlater.unbroken turn)
  · exact hlater.handler.trans hfirst.handler

theorem reports_cons {op : Op} {result : Except Stop Reply}
    (hperform : perform fuel op { s with events := [], notices := [] } = (result, s'))
    (ops : List Op) :
    reports fuel (op :: ops) s = ⟨result, s'.events, s'.notices⟩ :: reports fuel ops s' := by
  have hrun : (perform fuel op).run.run { s with events := [], notices := [] } = (result, s') :=
    hperform
  rw [reports, hrun]

/-- A single turn. -/
theorem one {turn : Turn} {result : Except Stop Reply}
    (hperform : perform fuel turn.op { s with events := [], notices := [] } = (result, s'))
    (hreport : turn.report x.mailbox.handler = ⟨result, s'.events, s'.notices⟩)
    (hleaves : Leaves x'.mailbox.tasks x.mailbox.tasks turn.steps) (hunbroken : turn.Unbroken)
    (hidle : s'.Idle h x') (hhandler : x'.mailbox.handler = x.mailbox.handler) :
    History fuel h s x [turn] s' x' := by
  refine ⟨fun ops => ?_, ?_, by simpa using hunbroken, hidle, hhandler⟩
  · rw [List.map_singleton, List.map_singleton, hreport]
    exact reports_cons hperform ops
  · simpa using hleaves

/-- Code that keeps to the handler. -/
theorem code (hs : s.Idle h x) {op : Op} (hop : op.everywhere (Op.isFor h mayPanic))
    (hfuel : 3 * op.weight ≤ fuel) :
    ∃ s', History fuel h s x [⟨op, x.hasExecutor, []⟩] s'
      (x.taking (op.effect x.hasExecutor false).queued) := by
  have hdoes := perform_does hop hfuel hs.cleared.sees
  refine ⟨_, .one hdoes (Turn.report_code hop _) ?_ ?_ (hs.cleared.after _) rfl⟩
  · rw [Turn.steps_code hop]
    rfl
  · unfold Turn.Unbroken
    rw [Turn.steps_code hop]
    simp

/-- A call of the loop. -/
theorem run (hs : s.Idle h x) (hloop : x.loop = .fresh)
    (hfor : ∀ job ∈ x.mailbox.tasks, job.everywhere (Op.isFor h mayPanic))
    (hfuel : 3 * load x.mailbox.tasks + 2 ≤ fuel) :
    ∃ tasks left s', Serves x.hasExecutor x.mailbox.tasks tasks left ∧
      History fuel h s x [⟨.run h, x.hasExecutor, tasks⟩] s' (x.leaving left) := by
  obtain ⟨fuel, rfl⟩ : ∃ n, fuel = n + 1 := ⟨fuel - 1, by omega⟩
  have hfuel' : 3 * load x.mailbox.tasks + 1 ≤ fuel := by omega
  obtain ⟨tasks, left, hserves, hrun⟩ := hs.cleared.running_serves hfor hfuel'
  have hperform := (perform_run hs.cleared.here hs.resting hloop).trans
    (Effect.outcome_then hrun Reply.count)
  refine ⟨tasks, left, _, hserves, .one hperform rfl hserves.leaves ?_ (hs.cleared.reach _ _) rfl⟩
  intro step hstep
  have hmem : step ∈ (tasks.dropLast).map (taskStep x.hasExecutor) := by
    rw [List.map_dropLast]
    exact hstep
  obtain ⟨job, hjob, rfl⟩ := List.mem_map.1 hmem
  exact hserves.unbroken job hjob

/-- Calls of the loop, as long as one finds something to do, and then the one that does not. -/
theorem runs : ∀ (limit : Nat) {s : State} {x : Station}, load x.mailbox.tasks ≤ limit →
    s.Idle h x → x.loop = .fresh → (∀ job ∈ x.mailbox.tasks, job.everywhere (Op.isFor h mayPanic)) →
    3 * load x.mailbox.tasks + 2 ≤ fuel →
    ∃ calls s', (∀ call ∈ calls, call.op = .run h ∧ call.found = x.hasExecutor ∧ call.tasks ≠ []) ∧
      History fuel h s x (calls ++ [⟨.run h, x.hasExecutor, []⟩]) s' (x.leaving [])
  | limit, s, x, hlimit, hs, hloop, hfor, hfuel => by
    obtain ⟨tasks, left, s₁, hserves, hrun⟩ := run hs hloop hfor hfuel
    obtain ⟨-, hleft, hload⟩ := Serves.bounds hserves.leaves hfor
    rcases tasks with _ | ⟨job, tasks⟩
    · obtain rfl : left = [] := hserves.empty rfl
      exact ⟨[], s₁, by simp, hrun⟩
    · rw [List.length_cons] at hload
      obtain ⟨limit, rfl⟩ : ∃ n, limit = n + 1 := ⟨limit - 1, by omega⟩
      have hlimit' : load (x.leaving left).mailbox.tasks ≤ limit := by
        show load left ≤ limit
        omega
      have hfuel' : 3 * load (x.leaving left).mailbox.tasks + 2 ≤ fuel := by
        show 3 * load left + 2 ≤ fuel
        omega
      obtain ⟨calls, s₂, hcalls, hlater⟩ := runs limit hlimit' hrun.idle hloop hleft hfuel'
      refine ⟨⟨.run h, x.hasExecutor, job :: tasks⟩ :: calls, s₂, ?_, hrun.append hlater⟩
      intro call hcall
      rcases List.mem_cons.1 hcall with rfl | hcall
      · exact ⟨rfl, rfl, by simp⟩
      · exact hcalls call hcall

/-- Code that keeps to the handler, or a call of its loop. -/
theorem turn (hs : s.Idle h x) (hloop : x.loop = .fresh)
    (hfor : ∀ job ∈ x.mailbox.tasks, job.everywhere (Op.isFor h mayPanic)) {op : Op}
    (hop : op = .run h ∨ op.everywhere (Op.isFor h mayPanic))
    (hfuel : 3 * (op.weight + load x.mailbox.tasks) ≤ fuel) :
    ∃ turn left s', turn.op = op ∧ turn.found = x.hasExecutor ∧
      (∀ job ∈ left, job.everywhere (Op.isFor h mayPanic)) ∧
      load left ≤ op.weight + load x.mailbox.tasks ∧
      History fuel h s x [turn] s' (x.leaving left) := by
  rcases hop with rfl | hop
  · have hweight : (Op.run h).weight = 1 := rfl
    have hfuel' : 3 * load x.mailbox.tasks + 2 ≤ fuel := by omega
    obtain ⟨tasks, left, s', hserves, hrun⟩ := run hs hloop hfor hfuel'
    obtain ⟨-, hleft, hload⟩ := Serves.bounds hserves.leaves hfor
    exact ⟨_, left, s', rfl, rfl, hleft, by omega, hrun⟩
  · have hfuel' : 3 * op.weight ≤ fuel := by omega
    obtain ⟨s', hcode⟩ := code hs hop hfuel'
    have hof : (op.effect x.hasExecutor false).Of (Op.isFor h mayPanic) op.weight :=
      Op.effect_of hop
    refine ⟨_, _, s', rfl, rfl, fun job hjob => ?_, ?_, hcode⟩
    · exact (List.mem_append.1 hjob).elim (hfor job) (hof.jobs job)
    · have := hof.load_le
      rw [load_append]
      omega

/-- A program of code that keeps to the handler and of calls of its loop. -/
theorem operations : ∀ {ops : List Op} {s : State} {x : Station}, s.Idle h x → x.loop = .fresh →
    (∀ job ∈ x.mailbox.tasks, job.everywhere (Op.isFor h mayPanic)) →
    (∀ op ∈ ops, op = .run h ∨ op.everywhere (Op.isFor h mayPanic)) →
    3 * (weights ops + load x.mailbox.tasks) ≤ fuel →
    ∃ turns left s', turns.map (·.op) = ops ∧ (∀ turn ∈ turns, turn.found = x.hasExecutor) ∧
      (∀ job ∈ left, job.everywhere (Op.isFor h mayPanic)) ∧
      load left ≤ weights ops + load x.mailbox.tasks ∧
      History fuel h s x turns s' (x.leaving left)
  | [], s, x, hs, _, hfor, _, _ =>
    ⟨[], x.mailbox.tasks, s, rfl, by simp, hfor, by simp, .refl hs⟩
  | op :: ops, s, x, hs, hloop, hfor, hops, hfuel => by
    rw [weights] at hfuel ⊢
    have hfuel₁ : 3 * (op.weight + load x.mailbox.tasks) ≤ fuel := by omega
    obtain ⟨turn, left₁, s₁, hop, hfound, hleft₁, hload₁, hturn⟩ :=
      History.turn hs hloop hfor (hops op List.mem_cons_self) hfuel₁
    have hfuel₂ : 3 * (weights ops + load left₁) ≤ fuel := by omega
    obtain ⟨turns, left₂, s₂, hturns, hfounds, hleft₂, hload₂, hrest⟩ :=
      operations hturn.idle hloop hleft₁ (fun op hop => hops op (List.mem_cons_of_mem _ hop)) hfuel₂
    have hload : load left₂ ≤ weights ops + load left₁ := hload₂
    refine ⟨turn :: turns, left₂, s₂, by rw [List.map_cons, hop, hturns], ?_, hleft₂, by omega,
      hturn.append hrest⟩
    intro later hlater
    rcases List.mem_cons.1 hlater with rfl | hlater
    · exact hfound
    · exact hfounds later hlater

end History

/-- A program queues tasks for a handler, from any thread, and calls its loop. After that the loop
is called for as long as a call finds a task, panics or not, and once more: so only the last call
answers that there was none. Every report is then the one of its turn: what ran in it, each task on
the handler, until one panicked, and if none did the number of tasks. Over all turns each task that
waited or was queued was done once, first come, first served. -/
theorem served_in_order {h fuel : Nat} {s : State} {x : Station} {ops : List Op} (hs : s.Idle h x)
    (hloop : x.loop = .fresh) (hjobs : ∀ job ∈ x.mailbox.tasks, job.everywhere (Op.isFor h true))
    (hops : ∀ op ∈ ops, op = .run h ∨ op.everywhere (Op.isFor h true))
    (hfuel : fuelFor (weights ops + load x.mailbox.tasks) ≤ fuel) :
    ∃ turns calls : List Turn,
      let all := turns ++ calls ++ [⟨.run h, x.hasExecutor, []⟩]
      let steps := all.flatMap (·.steps)
      turns.map (·.op) = ops ∧ (∀ call ∈ calls, call.op = .run h ∧ call.tasks ≠ []) ∧
        reports fuel (all.map (·.op)) s = all.map (·.report x.mailbox.handler) ∧
        (∀ turn ∈ all, turn.found = x.hasExecutor ∧ turn.Unbroken) ∧
        Leaves [] x.mailbox.tasks steps ∧
        steps.filterMap (·.task) = x.mailbox.tasks ++ steps.flatMap (·.effect.queued) := by
  unfold fuelFor at hfuel
  have hfuel₁ : 3 * (weights ops + load x.mailbox.tasks) ≤ fuel := by omega
  obtain ⟨turns, left, s₁, hturns, hfounds, hleft, hload, hprogram⟩ :=
    History.operations hs hloop hjobs hops hfuel₁
  have hfuel₂ : 3 * load left + 2 ≤ fuel := by omega
  obtain ⟨calls, s₂, hcalls, hdrained⟩ :=
    History.runs (load left) (Nat.le_refl _) hprogram.idle hloop hleft hfuel₂
  have hall : History fuel h s x (turns ++ calls ++ [⟨.run h, x.hasExecutor, []⟩]) s₂
      (x.leaving []) := by
    rw [List.append_assoc]
    exact hprogram.append hdrained
  refine ⟨turns, calls, hturns, fun call hcall => ⟨(hcalls call hcall).1, (hcalls call hcall).2.2⟩,
    ?_, fun turn hturn => ⟨?_, hall.unbroken turn hturn⟩, hall.leaves, ?_⟩
  · have hreports := hall.reports_append []
    rw [List.append_nil] at hreports
    exact hreports.trans (List.append_nil _)
  · rcases List.mem_append.1 hturn with hturn | hturn
    · rcases List.mem_append.1 hturn with hturn | hturn
      · exact hfounds turn hturn
      · exact (hcalls turn hturn).2.1
    · rw [List.mem_singleton.1 hturn]
  · exact (List.append_nil _).symm.trans hall.leaves.fifo

/-- A task that was queued on another thread queues two more and panics before it queues a third;
one of the two panics as well. Two more calls do the rest and find nothing. -/
theorem served_in_order_panics :
    let x : Station := { mailbox := { handler := ⟨1⟩ }, hook := .silent }
    let ops : List Op := [.onThread [.runLater 0 "a" [.runLater 0 "d" [],
        .onThread [.runNow 0 "e" [.panic "late"]], .panic "early", .runLater 0 "never" []]],
      .runNow 0 "b" [.runNow 0 "c" [.isHandler 0]], .run 0]
    let fuel := fuelFor (weights ops)
    (∃ turns calls : List Turn,
      let all := turns ++ calls ++ [⟨.run 0, true, []⟩]
      turns.map (·.op) = ops ∧ (∀ call ∈ calls, call.op = .run 0 ∧ call.tasks ≠ []) ∧
        reports fuel (all.map (·.op)) { stations := [x] } = all.map (·.report ⟨1⟩) ∧
        Leaves [] [] (all.flatMap (·.steps))) ∧
      (reports fuel (ops ++ [.run 0, .run 0]) { stations := [x] }).map (·.result) =
        [.ok .joined, .ok .ok, .error (.panicked (.text "early")),
          .error (.panicked (.text "late")), .ok (.count 0)] := by
  intro x ops fuel
  have hs : State.Idle { stations := [x] } 0 x := ⟨rfl, rfl, rfl, rfl, rfl, rfl⟩
  have hops : ∀ op ∈ ops, op = .run 0 ∨ op.everywhere (Op.isFor 0 true) := by
    simp only [ops, List.forall_mem_cons]
    exact ⟨.inr (by decide), .inr (by decide), .inl trivial, by simp⟩
  obtain ⟨turns, calls, hturns, hcalls, hreports, -, hleaves, -⟩ :=
    served_in_order hs rfl (by simp [x]) hops (Nat.le_refl _)
  exact ⟨⟨turns, calls, hturns, hcalls, hreports, hleaves⟩, rfl⟩

end ReceivingLink.Program
