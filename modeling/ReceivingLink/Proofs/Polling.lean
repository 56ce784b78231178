import ReceivingLink.Proofs.Places

/-!
# Polling a loop

A loop that is polled does one task at a time, each as the handler, and looks each time if somebody
has an executor left. It does what a call of the loop does, which has the handler from the first
task to the last: `serve_eq`. For this it matters that code leaves the place as it finds it, so that
between two tasks it makes no difference whether the loop is still on the handler.

Executors are counted where they are: the program has some, code around the running code uses some,
and tasks have their own, those that wait and those that are being done. When nothing waits and no
code runs, only those of the program are left, and without one the loop has finished:
`polls_serve_all`.
-/

namespace ReceivingLink.Program

namespace State

/-- Somebody has an executor of the handler. -/
def holds (s : State) (h : Nat) : Bool := s.stations[h]?.any (·.isHeld)

/-- The loop waits to be polled again. -/
def polled (s : State) (h : Nat) : State := s.change h fun x => { x with loop := .polled }

/-- The loop ended. -/
def abandoned (s : State) (h : Nat) : State :=
  s.change h fun x => { x with mailbox := x.mailbox.abandon, loop := .gone }

/-- The loop ended because nobody had an executor left, and says so. -/
def finished (s : State) (h : Nat) (id : HandlerId) : State :=
  { s.abandoned h with notices := s.notices ++ [.loopFinished id] }

theorem holds_change {s : State} {h : Nat} {f : Station → Station}
    (hf : ∀ x, (f x).isHeld = x.isHeld) : (s.change h f).holds h = s.holds h := by
  unfold holds
  rw [getElem?_change]
  cases s.stations[h]? with
  | none => rfl
  | some x => exact hf x

end State

section Poll

variable {h : Nat} {s : State}

theorem receive_nil (hnil : s.waiting h = []) :
    receive h s = (.ok (if s.holds h then .nothing else .closed), s) := by
  unfold receive
  rw [Act.bind_of_ok (takeJob_nil hnil)]
  rfl

theorem receive_cons {job : Job} {rest : List Job} (hcons : s.waiting h = job :: rest) :
    receive h s = (.ok (.job job), s.change h (·.leaving rest)) := by
  unfold receive
  rw [Act.bind_of_ok (takeJob_cons hcons)]
  rfl

/-- A loop that is polled does the tasks that a call of it does, to the same end, each at the place
where the call does all of them; and it tells besides if anybody has an executor left. -/
theorem serve_eq (id : HandlerId) : ∀ (fuel : Nat) (s : State),
    serve fuel h id s =
      let drained := drain fuel h (s.moved (some id))
      (drained.1.map fun _ => !drained.2.holds h, drained.2.moved s.onHandler)
  | 0, s => rfl
  | fuel + 1, s => by
    rcases hwaiting : s.waiting h with _ | ⟨job, rest⟩
    · have hdrain : drain (fuel + 1) h (s.moved (some id)) = (.ok 0, s.moved (some id)) := by
        have hnil : (s.moved (some id)).waiting h = [] := hwaiting
        rw [drain, Act.bind_of_ok (takeJob_nil hnil)]
        rfl
      rw [serve, Act.bind_of_ok (receive_nil hwaiting), hdrain]
      show _ = ((.ok (!s.holds h), s) : Except Stop Bool × State)
      cases s.holds h <;> rfl
    · let taken := s.change h (·.leaving rest)
      have hstart : drain (fuel + 1) h (s.moved (some id)) =
          (do
            doJob fuel h job
            return (← drain fuel h) + 1 : Run Nat) (taken.moved (some id)) := by
        have hcons : (s.moved (some id)).waiting h = job :: rest := hwaiting
        rw [drain, Act.bind_of_ok (takeJob_cons hcons)]
        rfl
      rw [serve, Act.bind_of_ok (receive_cons hwaiting), hstart]
      dsimp only
      -- The task is done in the same state, but the call of the loop stays where it is
      rcases hjob : doJob fuel h job (taken.moved (some id)) with ⟨result, done⟩
      have hplace : done.onHandler = some id := by
        have hstays := doJob_stays fuel h job (taken.moved (some id))
        rw [hjob] at hstays
        exact hstays.place
      have hscoped : withHandler (some id) (doJob fuel h job) taken =
          (result, done.moved s.onHandler) := by
        have hentered : doJob fuel h job { taken with onHandler := some id } = (result, done) :=
          hjob
        unfold withHandler Act.bracket
        rw [hentered]
        rfl
      cases result with
      | error stop =>
        rw [Act.bind_of_error hscoped, Act.bind_of_error hjob]
        rfl
      | ok _ =>
        have hback : (done.moved s.onHandler).moved (some id) = done := by
          rw [← hplace]
          rfl
        rw [Act.bind_of_ok hscoped, Act.bind_of_ok hjob, serve_eq id fuel, hback]
        rcases hdrain : drain fuel h done with ⟨stop | n, ended⟩
        · rw [Act.bind_of_error hdrain]
          rfl
        · rw [Act.bind_of_ok hdrain]
          rfl

theorem running_serve_eq (fuel : Nat) (id : HandlerId) :
    running h (serve fuel h id) s =
      let ran := runPending fuel h id s
      (ran.1.map fun _ => !ran.2.holds h, ran.2) := by
  let begun := s.change h fun x => { x with busy := true }
  rcases hdrain : drain fuel h (begun.moved (some id)) with ⟨result, drained⟩
  let ended := (drained.moved s.onHandler).change h fun x => { x with busy := false }
  have hserve : serve fuel h id begun =
      (result.map fun _ => !drained.holds h, drained.moved s.onHandler) := by
    rw [serve_eq, hdrain]
    rfl
  have hran : runPending fuel h id s = (result, ended) := by
    have hentered : drain fuel h { begun with onHandler := some id } = (result, drained) := hdrain
    unfold runPending running withHandler Act.bracket
    dsimp only
    rw [hentered]
    rfl
  have hheld : ended.holds h = drained.holds h := State.holds_change fun _ => rfl
  rw [hran]
  dsimp only
  rw [hheld]
  unfold running Act.bracket
  dsimp only
  rw [hserve]

/-- A poll is a call of the loop; then the loop waits if somebody has an executor, and has finished
if nobody has. -/
theorem perform_poll (fuel : Nat) {x : Station} (hx : s.stations[h]? = some x)
    (hbusy : x.busy = false) (hloop : x.loop ≠ .gone) :
    perform (fuel + 1) (.poll h) s =
      match runPending fuel h x.mailbox.handler s with
      | (.error stop, s') => (.error stop, s'.abandoned h)
      | (.ok _, s') =>
        if s'.holds h then (.ok .waiting, s'.polled h)
        else (.ok .finished, s'.finished h x.mailbox.handler) := by
  have hfound : station? h s = (.ok (some x), s) := by
    rw [← hx]
    rfl
  have hfree : (x.busy || decide (x.loop = .gone)) = false := by simp [hbusy, hloop]
  rw [perform, Act.bind_of_ok hfound]
  dsimp only
  rw [hfree]
  have hserved := running_serve_eq (h := h) (s := s) fuel x.mailbox.handler
  rcases hran : runPending fuel h x.mailbox.handler s with ⟨stop | n, s'⟩ <;> rw [hran] at hserved
  · refine (Act.bind_of_ok (Act.contain_of_eq hserved)).trans ?_
    rfl
  · refine (Act.bind_of_ok (Act.contain_of_eq hserved)).trans ?_
    dsimp only [Except.map]
    cases s'.holds h <;> rfl

end Poll

/-- How many executors a program has after one of its operations. -/
def Op.recount (n : Nat) : Op → Nat
  | .copyExecutor _ => if 0 < n then n + 1 else n
  | .dropExecutor _ => n - 1
  | _ => n

/-- A poll of the loop, an executor made or dropped, or code that keeps to the handler and does not
panic. -/
def Op.IsMove (h : Nat) (op : Op) : Prop :=
  op = .poll h ∨ op = .copyExecutor h ∨ op = .dropExecutor h ∨ op.everywhere (Op.isFor h false)

theorem total_calm : ∀ {steps : List Step}, (∀ step ∈ steps, step.effect.panic = none) →
    (total steps).panic = none
  | [], _ => rfl
  | step :: steps, h => by
    obtain ⟨hstep, hsteps⟩ := List.forall_mem_cons.1 h
    have htotal := Effect.andThen_of_none hstep (total steps)
    exact (congrArg Effect.panic htotal).trans (total_calm hsteps)

namespace State.Idle

variable {fuel h : Nat} {s : State} {x : Station}

/-- With nothing waiting, an executor that is left is one of the program. -/
theorem holds_eq (hs : s.Idle h x) (hnil : x.mailbox.tasks = []) : s.holds h = x.hasExecutor := by
  unfold State.holds
  rw [hs.here]
  simp [Station.isHeld, Station.isReachable, Station.hasExecutor, hs.lent, hs.inUse, hnil]

/-- Tasks that do not panic are all done by one call of the loop. -/
theorem runPending_calm (hs : s.Idle h x)
    (hfor : ∀ job ∈ x.mailbox.tasks, job.everywhere (Op.isFor h false))
    (hfuel : 3 * load x.mailbox.tasks + 1 ≤ fuel) :
    ∃ tasks : List Job, let steps := tasks.map (taskStep x.hasExecutor)
      Leaves [] x.mailbox.tasks steps ∧ (∀ step ∈ steps, step.effect.panic = none) ∧
        runPending fuel h x.mailbox.handler s =
          (.ok tasks.length, s.reach h [] (total steps).events) := by
  obtain ⟨tasks, left, hserves, hrun⟩ := hs.running_serves hfor hfuel
  obtain ⟨htasks, -, -⟩ := Serves.bounds hserves.leaves hfor
  have hcalm : ∀ step ∈ tasks.map (taskStep x.hasExecutor), step.effect.panic = none := by
    intro step hstep
    obtain ⟨job, hjob, rfl⟩ := List.mem_map.1 hstep
    exact (Job.effect_of (htasks job hjob)).calm fun _ => rfl
  obtain rfl : left = [] := hserves.empty (total_calm hcalm)
  rw [Effect.outcome, total_calm hcalm] at hrun
  exact ⟨tasks, hserves.leaves, hcalm, hrun⟩

end State.Idle

namespace History

variable {fuel h : Nat} {s : State} {x : Station}

/-- An operation that only makes or drops an executor. -/
theorem recounts (hs : s.Idle h x) {op : Op} {reply : Reply}
    (hsteps : (⟨op, x.hasExecutor, []⟩ : Turn).steps = [⟨none, {}⟩])
    (hreport : (⟨op, x.hasExecutor, []⟩ : Turn).report x.mailbox.handler = ⟨.ok reply, [], []⟩)
    (hperform : perform fuel op { s with events := [], notices := [] } =
      (.ok reply, State.change { s with events := [], notices := [] } h fun y =>
        { y with executors := op.recount y.executors })) :
    ∃ s', History fuel h s x [⟨op, x.hasExecutor, []⟩] s'
      { x with executors := op.recount x.executors } := by
  refine ⟨_, .one hperform hreport ?_ ?_ ?_ rfl⟩
  · rw [hsteps]
    exact (List.append_nil _)
  · unfold Turn.Unbroken
    rw [hsteps]
    simp
  · exact hs.cleared.changed (fun y => { y with executors := op.recount y.executors })
      rfl rfl rfl rfl

theorem copy (hs : s.Idle h x) :
    ∃ s', History (fuel + 1) h s x [⟨.copyExecutor h, x.hasExecutor, []⟩] s'
      { x with executors := (Op.copyExecutor h).recount x.executors } := by
  have hreach : x.isReachable = x.hasExecutor := by
    simp [Station.isReachable, Station.hasExecutor, hs.lent]
  refine recounts hs rfl rfl ?_
  rw [perform, Act.bind_of_ok (executor?_eq hs.cleared.here), hreach]
  cases hfound : x.hasExecutor with
  | true =>
    have hsome : 0 < x.executors := by simpa [Station.hasExecutor] using hfound
    have hmore : ∀ t : State, t.stations[h]? = some x →
        t.change h (fun y => { y with executors := y.executors + 1 }) =
          t.change h fun y => { y with executors := (Op.copyExecutor h).recount y.executors } :=
      fun t ht => State.change_congr ht (by simp [Op.recount, hsome])
    rw [← hmore _ hs.cleared.here]
    rfl
  | false =>
    have hnone : (Op.copyExecutor h).recount x.executors = x.executors :=
      if_neg (by simpa [Station.hasExecutor] using hfound)
    have hsame : ∀ t : State, t.stations[h]? = some x →
        t.change h (fun y => { y with executors := (Op.copyExecutor h).recount y.executors }) = t :=
      fun t ht => (State.change_congr (g := id) ht (by rw [hnone]; rfl)).trans
        (State.change_self fun _ => rfl)
    rw [hsame _ hs.cleared.here]
    rfl

theorem drop (hs : s.Idle h x) :
    ∃ s', History (fuel + 1) h s x [⟨.dropExecutor h, x.hasExecutor, []⟩] s'
      { x with executors := (Op.dropExecutor h).recount x.executors } := by
  refine recounts hs rfl rfl ?_
  have hfound : station? h { s with events := [], notices := [] } =
      (.ok (some x), { s with events := [], notices := [] }) := by
    rw [← hs.cleared.here]
    rfl
  rw [perform, Act.bind_of_ok hfound]
  rfl

/-- The loop is polled. Whether it then waits or has finished, all that came into the mailbox is
done. -/
theorem poll (hs : s.Idle h x) (hloop : x.loop ≠ .gone)
    (hfor : ∀ job ∈ x.mailbox.tasks, job.everywhere (Op.isFor h false))
    (hfuel : 3 * load x.mailbox.tasks + 2 ≤ fuel) :
    ∃ tasks,
      let turn : Turn := ⟨.poll h, x.hasExecutor, tasks⟩
      Leaves [] x.mailbox.tasks turn.steps ∧ (∀ step ∈ turn.steps, step.effect.panic = none) ∧
        reports fuel [.poll h] s = [turn.report x.mailbox.handler] ∧
        (x.hasExecutor →
          ∃ s', History fuel h s x [turn] s' { x.leaving [] with loop := .polled }) := by
  obtain ⟨fuel, rfl⟩ : ∃ n, fuel = n + 1 := ⟨fuel - 1, by omega⟩
  have hfuel' : 3 * load x.mailbox.tasks + 1 ≤ fuel := by omega
  obtain ⟨tasks, hleaves, hcalm, hrun⟩ := hs.cleared.runPending_calm hfor hfuel'
  let ended : State := State.reach { s with events := [], notices := [] } h []
    (total (tasks.map (taskStep x.hasExecutor))).events
  have hidle : ended.Idle h (x.leaving []) := hs.cleared.reach _ _
  have hperform : perform (fuel + 1) (.poll h) { s with events := [], notices := [] } =
      if x.hasExecutor then (.ok .waiting, ended.polled h)
      else (.ok .finished, ended.finished h x.mailbox.handler) := by
    have hholds : ended.holds h = x.hasExecutor := hidle.holds_eq rfl
    rw [← hholds, perform_poll fuel hs.cleared.here hs.resting hloop, hrun]
  have hreport : (⟨.poll h, x.hasExecutor, tasks⟩ : Turn).report x.mailbox.handler =
      ⟨.ok (if x.hasExecutor then .waiting else .finished), ended.events,
        if x.hasExecutor then [] else [.loopFinished x.mailbox.handler]⟩ := by
    have hresult : (total (tasks.map (taskStep x.hasExecutor))).outcome
        (if x.hasExecutor then Reply.waiting else .finished) =
        .ok (if x.hasExecutor then .waiting else .finished) := by
      rw [Effect.outcome, total_calm hcalm]
    rw [← hresult]
    rfl
  refine ⟨tasks, hleaves, hcalm, ?_, fun hfound => ?_⟩
  · rw [hreport]
    cases hfound : x.hasExecutor with
    | true =>
      rw [hfound, if_pos rfl] at hperform
      exact reports_cons hperform []
    | false =>
      rw [hfound, if_neg Bool.false_ne_true] at hperform
      exact reports_cons hperform []
  · rw [if_pos hfound] at hperform
    refine ⟨_, .one hperform ?_ hleaves ?_ ?_ rfl⟩
    · rw [hreport, hfound]
      rfl
    · exact fun step hstep => hcalm step ((List.dropLast_sublist _).subset hstep)
    · exact hidle.changed (fun y => { y with loop := .polled }) rfl rfl rfl rfl

end History

/-- The program made a turn in which nothing panicked, and the loop is there still. -/
structure GoesOn (fuel h : Nat) (s : State) (x : Station) (turn : Turn) (s' : State)
    (x' : Station) : Prop where
  history : History fuel h s x [turn] s' x'
  found : turn.found = x.hasExecutor
  calm : ∀ step ∈ turn.steps, step.effect.panic = none
  executors : x'.executors = turn.op.recount x.executors
  loop : x'.loop ≠ .gone
  jobs : ∀ job ∈ x'.mailbox.tasks, job.everywhere (Op.isFor h false)
  load_le : load x'.mailbox.tasks ≤ turn.op.weight + load x.mailbox.tasks

section Moves

variable {fuel h : Nat} {s : State} {x : Station}

/-- An operation that does not end the loop. -/
theorem move_goesOn (hs : s.Idle h x) (hloop : x.loop ≠ .gone)
    (hfor : ∀ job ∈ x.mailbox.tasks, job.everywhere (Op.isFor h false)) {op : Op}
    (hop : op.IsMove h) (hfuel : 3 * (op.weight + load x.mailbox.tasks) ≤ fuel)
    (hon : ∀ report ∈ reports fuel [op] s, report.result ≠ .ok .finished) :
    ∃ turn s' x', turn.op = op ∧ GoesOn fuel h s x turn s' x' := by
  obtain ⟨fuel, rfl⟩ : ∃ n, fuel = n + 1 := ⟨fuel - 1, by have := op.weight_pos; omega⟩
  have hcode {turn : Turn} (hsteps : turn.steps = [⟨none, {}⟩]) :
      ∀ step ∈ turn.steps, step.effect.panic = none := by
    rw [hsteps]
    simp
  rcases hop with rfl | rfl | rfl | hop
  · have hweight : (Op.poll h).weight = 1 := rfl
    have hfuel' : 3 * load x.mailbox.tasks + 2 ≤ fuel + 1 := by omega
    obtain ⟨tasks, -, hcalm, hreport, hnext⟩ := History.poll hs hloop hfor hfuel'
    have hfound : x.hasExecutor := by
      cases hfound : x.hasExecutor with
      | true => rfl
      | false =>
        refine absurd ?_ (hon _ (by rw [hreport]; exact List.mem_singleton_self _))
        unfold Turn.report
        dsimp only
        rw [Effect.outcome, total_calm hcalm]
        simp [Turn.reply, hfound]
    obtain ⟨s', hpolled⟩ := hnext hfound
    exact ⟨_, s', _, rfl, hpolled, rfl, hcalm, rfl, by simp, by simp [Station.leaving],
      by simp [Station.leaving]⟩
  · obtain ⟨s', hcopy⟩ := History.copy hs
    exact ⟨_, s', _, rfl, hcopy, rfl, hcode rfl, rfl, hloop, hfor, Nat.le_add_left _ _⟩
  · obtain ⟨s', hdrop⟩ := History.drop hs
    exact ⟨_, s', _, rfl, hdrop, rfl, hcode rfl, rfl, hloop, hfor, Nat.le_add_left _ _⟩
  · have hfuel' : 3 * op.weight ≤ fuel + 1 := by omega
    obtain ⟨s', hran⟩ := History.code hs hop hfuel'
    have hof : (op.effect x.hasExecutor false).Of (Op.isFor h false) op.weight := Op.effect_of hop
    have hsame : op.recount x.executors = x.executors := by
      cases op with
      | copyExecutor _ | dropExecutor _ => simp [Op.everywhere, Op.isFor] at hop
      | _ => rfl
    refine ⟨_, s', _, rfl, hran, rfl, ?_, hsame.symm, hloop, fun job hjob => ?_, ?_⟩
    · rw [Turn.steps_code hop]
      simpa using hof.calm fun _ => rfl
    · exact (List.mem_append.1 hjob).elim (hfor job) (hof.jobs job)
    · have := hof.load_le
      show load (x.mailbox.tasks ++ _) ≤ op.weight + _
      rw [load_append]
      omega

/-- Operations none of which ends the loop. -/
theorem moves_goOn : ∀ {ops : List Op} {s : State} {x : Station}, s.Idle h x → x.loop ≠ .gone →
    (∀ job ∈ x.mailbox.tasks, job.everywhere (Op.isFor h false)) → (∀ op ∈ ops, op.IsMove h) →
    3 * (weights ops + load x.mailbox.tasks) ≤ fuel →
    (∀ report ∈ reports fuel ops s, report.result ≠ .ok .finished) →
    ∃ turns s' x', turns.map (·.op) = ops ∧
      turns.map (·.found) ++ [x'.hasExecutor] =
        (ops.scanl Op.recount x.executors).map (fun n => decide (0 < n)) ∧
      (∀ step ∈ turns.flatMap (·.steps), step.effect.panic = none) ∧ x'.loop ≠ .gone ∧
      (∀ job ∈ x'.mailbox.tasks, job.everywhere (Op.isFor h false)) ∧
      load x'.mailbox.tasks ≤ weights ops + load x.mailbox.tasks ∧ History fuel h s x turns s' x'
  | [], s, x, hs, hloop, hfor, _, _, _ =>
    ⟨[], s, x, rfl, rfl, by simp, hloop, hfor, by simp, .refl hs⟩
  | op :: ops, s, x, hs, hloop, hfor, hops, hfuel, hon => by
    rw [weights] at hfuel ⊢
    have hfuel₁ : 3 * (op.weight + load x.mailbox.tasks) ≤ fuel := by omega
    have hon₁ : ∀ report ∈ reports fuel [op] s, report.result ≠ .ok .finished := by
      intro report hreport
      have hfirst : reports fuel [op] s = (reports fuel (op :: ops) s).take 1 := rfl
      rw [hfirst] at hreport
      exact hon report (List.mem_of_mem_take hreport)
    obtain ⟨turn, s₁, x₁, rfl, hturn⟩ :=
      move_goesOn hs hloop hfor (hops op List.mem_cons_self) hfuel₁ hon₁
    have hon₂ : ∀ report ∈ reports fuel ops s₁, report.result ≠ .ok .finished := by
      intro report hreport
      have happend : reports fuel (turn.op :: ops) s =
          turn.report x.mailbox.handler :: reports fuel ops s₁ := hturn.history.reports_append ops
      exact hon report (by rw [happend]; exact List.mem_cons_of_mem _ hreport)
    have hload := hturn.load_le
    obtain ⟨turns, s₂, x₂, rfl, hfound, hcalm, hloop₂, hjobs, hload₂, hrest⟩ :=
      moves_goOn hturn.history.idle hturn.loop hturn.jobs
        (fun op hop => hops op (List.mem_cons_of_mem _ hop)) (by omega) hon₂
    refine ⟨turn :: turns, s₂, x₂, rfl, ?_, ?_, hloop₂, hjobs, by omega,
      hturn.history.append hrest⟩
    · rw [List.map_cons, List.cons_append, hfound, hturn.executors, hturn.found, List.scanl_cons]
      rfl
    · rw [List.flatMap_cons]
      intro step hstep
      exact (List.mem_append.1 hstep).elim (hturn.calm step) (hcalm step)

end Moves

/-- A poll of a loop does what a call of it does in the same state, and nothing waits then. The loop
waits to be polled again if somebody has an executor left, and has finished if nobody has.

So a program may poll the loop, queue tasks that do not panic, with executors of their own or
without, and make and drop executors, in any order. When the loop is polled next, all that waited or
was queued has been done once, in order, whether the loop has finished or not. What was queued, and
whether the loop has finished, depends on the executors that the program had at each turn. -/
theorem polls_serve_all {h fuel : Nat} {s : State} {x : Station} {ops : List Op} (hs : s.Idle h x)
    (hloop : x.loop ≠ .gone)
    (hjobs : ∀ job ∈ x.mailbox.tasks, job.everywhere (Op.isFor h false))
    (hops : ∀ op ∈ ops, op.IsMove h) (hfuel : fuelFor (weights ops + load x.mailbox.tasks) ≤ fuel)
    (hon : ∀ report ∈ reports fuel ops s, report.result ≠ .ok .finished) :
    (∃ n s', runPending fuel h x.mailbox.handler s = (.ok n, s') ∧ s'.waiting h = [] ∧
      s'.holds h = x.hasExecutor ∧
      (x.loop = .fresh → perform (fuel + 1) (.run h) s = (.ok (.count n), s')) ∧
      perform (fuel + 1) (.poll h) s =
        if s'.holds h then (.ok .waiting, s'.polled h)
        else (.ok .finished, s'.finished h x.mailbox.handler)) ∧
    ∃ turns : List Turn,
      let steps := turns.flatMap (·.steps)
      turns.map (·.op) = ops ++ [.poll h] ∧
        turns.map (·.found) = (ops.scanl Op.recount x.executors).map (fun n => decide (0 < n)) ∧
        reports fuel (ops ++ [.poll h]) s = turns.map (·.report x.mailbox.handler) ∧
        (∀ step ∈ steps, step.effect.panic = none) ∧ Leaves [] x.mailbox.tasks steps ∧
        steps.filterMap (·.task) = x.mailbox.tasks ++ steps.flatMap (·.effect.queued) := by
  unfold fuelFor at hfuel
  constructor
  · have hfuel₁ : 3 * load x.mailbox.tasks + 1 ≤ fuel := by omega
    obtain ⟨tasks, -, -, hrun⟩ := hs.runPending_calm hjobs hfuel₁
    have hidle := hs.reach [] (total (tasks.map (taskStep x.hasExecutor))).events
    refine ⟨_, _, hrun, State.waiting_eq hidle.here, hidle.holds_eq rfl, fun hfresh => ?_, ?_⟩
    · rw [perform_run hs.here hs.resting hfresh, Act.bind_of_ok hrun]
      rfl
    · rw [perform_poll fuel hs.here hs.resting hloop, hrun]
  · have hfuel₁ : 3 * (weights ops + load x.mailbox.tasks) ≤ fuel := by omega
    obtain ⟨turns, s', x', rfl, hfound, hcalm, hloop', hjobs', hload, hhistory⟩ :=
      moves_goOn hs hloop hjobs hops hfuel₁ hon
    have hfuel₂ : 3 * load x'.mailbox.tasks + 2 ≤ fuel := by omega
    obtain ⟨tasks, hleaves, hcalm', hreport, -⟩ :=
      History.poll hhistory.idle hloop' hjobs' hfuel₂
    let last : Turn := ⟨.poll h, x'.hasExecutor, tasks⟩
    have hall : Leaves [] x.mailbox.tasks ((turns ++ [last]).flatMap (·.steps)) := by
      rw [List.flatMap_append, List.flatMap_singleton]
      exact hhistory.leaves.append hleaves
    refine ⟨turns ++ [last], List.map_append, ?_, ?_, ?_, hall, ?_⟩
    · rw [List.map_append]
      exact hfound
    · rw [hhistory.reports_append, hreport, hhistory.handler, List.map_append]
      rfl
    · rw [List.flatMap_append, List.flatMap_singleton]
      intro step hstep
      exact (List.mem_append.1 hstep).elim (hcalm step) (hcalm' step)
    · exact (List.append_nil _).symm.trans hall.fifo

/-- A program drops its last executor while a task waits that has one, and that task queues another
that has one, which starts a chain. The loop is polled before and after. -/
theorem polls_serve_all_owners :
    let x : Station := { mailbox := { handler := ⟨1⟩ }, hook := .silent }
    let ops : List Op := [.runLater 0 "a" [.runLater 0 "b" []], .poll 0, .copyExecutor 0,
      .onThread [.entrust 0 "c" [.isHandler 0, .entrust 0 "d" [.chain 0 1]]],
      .dropExecutor 0, .dropExecutor 0]
    let fuel := fuelFor (weights ops)
    ∃ turns : List Turn, turns.map (·.op) = ops ++ [.poll 0] ∧
      turns.map (·.found) = [true, true, true, true, true, true, false] ∧
      reports fuel (ops ++ [.poll 0]) { stations := [x] } = turns.map (·.report ⟨1⟩) ∧
      Leaves [] [] (turns.flatMap (·.steps)) := by
  intro x ops fuel
  have hs : State.Idle { stations := [x] } 0 x := ⟨rfl, rfl, rfl, rfl, rfl, rfl⟩
  have hops : ∀ op ∈ ops, op.IsMove 0 := by
    simp only [ops, List.forall_mem_cons]
    exact ⟨.inr (.inr (.inr (by decide))), .inl rfl, .inr (.inl rfl),
      .inr (.inr (.inr (by decide))), .inr (.inr (.inl rfl)), .inr (.inr (.inl rfl)), by simp⟩
  have hunfinished : (reports fuel ops { stations := [x] }).all (fun report =>
      match report.result with
      | .ok reply => reply != .finished
      | .error _ => true) = true := by decide +kernel
  have hon : ∀ report ∈ reports fuel ops { stations := [x] }, report.result ≠ .ok .finished := by
    intro report hreport hfinished
    have hall := List.all_eq_true.1 hunfinished report hreport
    rw [hfinished] at hall
    exact absurd hall (by decide)
  obtain ⟨-, turns, hturns, hfound, hreports, -, hleaves, -⟩ :=
    polls_serve_all hs (by decide) (by simp [x]) hops (Nat.le_refl _) hon
  exact ⟨turns, hturns, hfound, hreports, hleaves⟩

end ReceivingLink.Program
