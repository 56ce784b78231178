import Mathlib.Algebra.Ring.Int.Defs
import ReceivingLink.Proofs.Window

/-!
# Settling more than was accepted

A settlement too many is refused, but it has been counted by then. As long as no more is settled
than was accepted, every call returns and the count is the difference. After the first settlement
too many the count is negative, and it never recovers: from there on every call is refused, each
further settlement lowers the count, and it reads as zero. So the count survives refusals exactly
when there are none: `counts_iff_covered`.
-/

namespace ReceivingLink

namespace Tracker

/-- A call that counts: a delivery was accepted for routing, or one was settled. -/
inductive Step where
  | accept
  | settle
  deriving DecidableEq

namespace Step

def perform (o : Owner) : Step → Act Panic Endpoint Unit
  | accept => increment o
  | settle => decrement o

def amount : Step → Int
  | accept => 1
  | settle => -1

/-- What a call answers at a count of `n`. -/
def reply (n : Int) : Step → Except Panic Unit
  | accept =>
    if n < 0 then .error (.text "pending settlements must never be negative") else .ok ()
  | settle =>
    if n ≤ 0 then .error (.text "settled more deliveries than were accepted for routing")
    else .ok ()

/-- The count after a call. A settlement is counted off even if it is refused. -/
def next (n : Int) : Step → Int
  | accept => if n < 0 then n else n + 1
  | settle => n - 1

end Step

/-- The deliveries accepted less those settled. -/
def balance (run : List Step) : Int := (run.map Step.amount).sum

/-- With `n` deliveries at first, there always is one to settle. -/
def Covered (n : Int) (run : List Step) : Prop := ∀ before, before <+: run → 0 ≤ n + balance before

/-- What the calls of a run answer from a count of `n`. -/
def replies (n : Int) : List Step → List (Except Panic Unit)
  | [] => []
  | step :: run => step.reply n :: replies (step.next n) run

end Tracker

namespace Endpoint

def withCount (e : Endpoint) (o : Owner) (n : Int) : Endpoint :=
  { e with pending := e.pending.set n o }

/-- The endpoint after a call that counts, and what it panics with is caught. -/
def stepped (o : Owner) (e : Endpoint) (step : Tracker.Step) : Endpoint := (step.perform o e).2

def steppedAll (o : Owner) (e : Endpoint) (run : List Tracker.Step) : Endpoint :=
  run.foldl (stepped o) e

/-- What the calls of a run answer, each from the endpoint that those before it left. -/
def replies (o : Owner) (e : Endpoint) : List Tracker.Step → List (Except Panic Unit)
  | [] => []
  | step :: run => (step.perform o e).1 :: replies o (e.stepped o step) run

/-- The settlements of a run that were not refused. -/
def settlements (o : Owner) (e : Endpoint) (run : List Tracker.Step) : Nat :=
  (run.zip (e.replies o run)).countP fun x => x.1 = .settle && x.2.toBool

/-- A count that refused settlements do not damage. -/
structure Counts (o : Owner) (e : Endpoint) (run : List Tracker.Step) : Prop where
  nonneg : ∀ before, before <+: run → 0 ≤ (e.steppedAll o before).pending.get o
  keeps : ∀ before, before ++ [.settle] <+: run →
    (Tracker.decrement o (e.steppedAll o before)).1 ≠ .ok () →
    (e.steppedAll o (before ++ [.settle])).pending.get o = (e.steppedAll o before).pending.get o
  accepts : ∀ before, before ++ [.accept] <+: run →
    (Tracker.increment o (e.steppedAll o before)).1 = .ok ()
  reads : ∀ n : Int, n = e.pending.get o + run.count .accept - e.settlements o run →
    n < UInt32.size → ((e.steppedAll o run).unsettled o).toNat = n

end Endpoint

section Step

variable {e : Endpoint} {o : Owner}

theorem Endpoint.withCount_self (e : Endpoint) (o : Owner) : e.withCount o (e.pending.get o) = e := by
  cases o <;> rfl

@[simp] theorem Endpoint.withCount_get (e : Endpoint) (o : Owner) (n : Int) :
    (e.withCount o n).pending.get o = n := Each.get_set _ _ _

@[simp] theorem Endpoint.withCount_withCount (e : Endpoint) (o : Owner) (n m : Int) :
    (e.withCount o n).withCount o m = e.withCount o m := by
  cases o <;> rfl

namespace Tracker

theorem Step.perform_ends (hon : e.isOnHandler) (step : Step) :
    let n := e.pending.get o
    (step.perform o).Ends e (fun _ e' => .ok () = step.reply n ∧ e' = e.withCount o (step.next n))
      fun k e' => .error k = step.reply n ∧ e' = e.withCount o (step.next n) := by
  intro n
  cases step with
  | accept =>
    refine Act.ends_bind.2 (Act.ends_get.2 (Act.ends_ite.2 ⟨fun hneg => ?_, fun hpos => ?_⟩)) <;>
      unfold reply next
    · rw [if_pos hneg, if_pos hneg]
      exact ⟨rfl, (e.withCount_self o).symm⟩
    · rw [if_neg hpos, if_neg hpos]
      refine Act.ends_bind.2 ((requireOnHandler_ends hon).imp ?_ fun _ _ => False.elim)
      rintro _ _ rfl
      exact ⟨rfl, rfl⟩
  | settle =>
    refine Act.ends_bind.2 ((requireOnHandler_ends hon).imp ?_ fun _ _ => False.elim)
    rintro _ _ rfl
    refine Act.ends_bind.2 (Act.ends_modify.2 (Act.ends_bind.2 (Act.ends_get.2 ?_)))
    rw [Each.get_set]
    refine Act.ends_ite.2 ⟨fun hneg => ?_, fun hpos => ?_⟩
    · exact ⟨(if_pos (Int.sub_one_lt_iff.1 hneg)).symm, rfl⟩
    · exact ⟨(if_neg fun hle => hpos (Int.sub_one_lt_iff.2 hle)).symm, rfl⟩

/-- A call answers and counts as the count that it finds says, and does nothing else. -/
theorem Step.perform_eq (hon : e.isOnHandler) (step : Step) :
    step.perform o e =
      (step.reply (e.pending.get o), e.withCount o (step.next (e.pending.get o))) := by
  obtain ⟨hreply, hstate⟩ := Act.Ends.result
    (Q := fun r e' => r = step.reply (e.pending.get o) ∧
      e' = e.withCount o (step.next (e.pending.get o))) (Step.perform_ends hon step)
  exact Prod.ext hreply hstate

end Tracker

end Step

section Runs

variable {e : Endpoint} {o : Owner} {n : Int} {step : Tracker.Step}
  {run before after : List Tracker.Step}

/-- A run of calls does to the count what the calls do one after the other, and nothing else. -/
theorem Endpoint.steppedAll_eq (hon : e.isOnHandler) (run : List Tracker.Step) :
    e.steppedAll o run = e.withCount o (run.foldl Tracker.Step.next (e.pending.get o)) ∧
      e.replies o run = Tracker.replies (e.pending.get o) run := by
  induction run generalizing e with
  | nil => exact ⟨(e.withCount_self o).symm, rfl⟩
  | cons step run ih =>
    have hstep := Tracker.Step.perform_eq (o := o) hon step
    have hstepped : e.stepped o step = e.withCount o (step.next (e.pending.get o)) := by
      unfold stepped
      rw [hstep]
    obtain ⟨hstate, hreplies⟩ := ih (e := e.stepped o step) (by rw [hstepped]; exact hon)
    rw [hstepped] at hstate hreplies
    rw [withCount_get] at hstate hreplies
    constructor
    · show (e.stepped o step).steppedAll o run = _
      rw [hstepped, hstate, withCount_withCount]
      rfl
    · show (step.perform o e).1 :: (e.stepped o step).replies o run = _
      rw [hstepped, hreplies, hstep]
      rfl

namespace Tracker

theorem balance_cons (step : Step) (run : List Step) :
    balance (step :: run) = step.amount + balance run := List.sum_cons

theorem covered_cons : Covered n (step :: run) ↔ 0 ≤ n ∧ Covered (n + step.amount) run := by
  constructor
  · refine fun h => ⟨?_, fun before hbegins => ?_⟩
    · simpa [balance] using h [] (List.nil_prefix)
    · have hbalance := h (step :: before) ((List.prefix_cons_inj step).2 hbegins)
      rw [balance_cons] at hbalance
      omega
  · rintro ⟨hn, h⟩ (_ | ⟨first, before⟩) hbegins
    · simpa [balance] using hn
    · obtain ⟨rfl, hrest⟩ := List.cons_prefix_cons.1 hbegins
      have hbalance := h before hrest
      rw [balance_cons]
      omega

theorem Covered.nonneg (h : Covered n run) : 0 ≤ n := by
  simpa [balance] using h [] List.nil_prefix

theorem Covered.of_prefix (h : Covered n run) (hbegins : before <+: run) : Covered n before :=
  fun _ hbefore => h _ (hbefore.trans hbegins)

theorem Step.next_of_nonneg (hn : 0 ≤ n) (step : Step) : step.next n = n + step.amount := by
  cases step with
  | accept => exact if_neg (by omega)
  | settle => rfl

theorem Step.next_of_neg (hn : n < 0) (step : Step) : step.next n = n - [step].count .settle := by
  cases step with
  | accept => exact (if_pos hn).trans (Int.sub_zero n).symm
  | settle => rfl

theorem Step.reply_of_nonneg (hn : 0 ≤ n) (hnext : 0 ≤ n + step.amount) :
    step.reply n = .ok () := by
  cases step with
  | accept => exact if_neg (by omega)
  | settle => exact if_neg (by simp only [amount] at hnext; omega)

theorem Step.reply_of_neg (hn : n < 0) (step : Step) : step.reply n ≠ .ok () := by
  cases step with
  | accept => exact fun h => nomatch (if_pos hn).symm.trans h
  | settle => exact fun h => nomatch (if_pos (Int.le_of_lt hn)).symm.trans h

/-- While there is a delivery for every settlement, each call returns and the count is what was
accepted less what was settled. -/
theorem Covered.counts (h : Covered n run) :
    run.foldl Step.next n = n + balance run ∧ ∀ r ∈ replies n run, r = .ok () := by
  induction run generalizing n with
  | nil => exact ⟨(Int.add_zero n).symm, nofun⟩
  | cons step run ih =>
    obtain ⟨hn, h⟩ := covered_cons.1 h
    obtain ⟨hcount, hreplies⟩ := ih h
    rw [List.foldl_cons, replies, Step.next_of_nonneg hn, balance_cons, hcount]
    refine ⟨by omega, List.forall_mem_cons.2 ⟨Step.reply_of_nonneg hn h.nonneg, hreplies⟩⟩

/-- Once the count is negative, every call is refused and only settlements are counted. -/
theorem counts_of_neg (hn : n < 0) (run : List Step) :
    run.foldl Step.next n = n - run.count .settle ∧ ∀ r ∈ replies n run, r ≠ .ok () := by
  induction run generalizing n with
  | nil => exact ⟨(Int.sub_zero n).symm, nofun⟩
  | cons step run ih =>
    obtain ⟨hcount, hreplies⟩ := ih (n := step.next n) (by rw [Step.next_of_neg hn]; omega)
    refine ⟨?_, List.forall_mem_cons.2 ⟨Step.reply_of_neg hn step, hreplies⟩⟩
    rw [List.foldl_cons, hcount, Step.next_of_neg hn]
    simp only [List.count_cons, List.count_nil]
    omega

/-- The first settlement too many is refused, and so is every call after it. -/
theorem counts_of_zero (after : List Step) :
    (Step.settle :: after).foldl Step.next 0 = -1 - after.count .settle ∧
      ∀ r ∈ replies 0 (.settle :: after), r ≠ .ok () := by
  obtain ⟨hcount, hrefused⟩ := counts_of_neg (show Step.settle.next 0 < 0 by decide) after
  exact ⟨hcount, List.forall_mem_cons.2 ⟨by simp [Step.reply], hrefused⟩⟩

/-- A run in which the count is never negative has a delivery for every settlement. -/
theorem covered_of_nonneg (h : ∀ before, before <+: run → 0 ≤ before.foldl Step.next n) :
    Covered n run := by
  induction run generalizing n with
  | nil =>
    intro before hbegins
    obtain rfl := List.prefix_nil.1 hbegins
    simpa [balance] using h [] List.nil_prefix
  | cons step run ih =>
    have hn : 0 ≤ n := h [] List.nil_prefix
    refine covered_cons.2 ⟨hn, ih fun before hbegins => ?_⟩
    rw [← Step.next_of_nonneg hn]
    exact h (step :: before) ((List.prefix_cons_inj step).2 hbegins)

theorem balance_eq (run : List Step) : balance run = run.count .accept - run.count .settle := by
  induction run with
  | nil => rfl
  | cons step run ih =>
    rw [balance_cons, ih, List.count_cons, List.count_cons]
    cases step <;> simp only [Step.amount] <;> simp <;> omega

/-- A run has a delivery for every settlement, or it comes to a first settlement too many. -/
theorem covered_or_overdrawn (hn : 0 ≤ n) (run : List Step) :
    Covered n run ∨ ∃ before after, run = before ++ .settle :: after ∧ Covered n before ∧
      n + balance before = 0 := by
  induction run generalizing n with
  | nil =>
    refine .inl fun before hbegins => ?_
    obtain rfl := List.prefix_nil.1 hbegins
    simpa [balance] using hn
  | cons step run ih =>
    by_cases hnext : 0 ≤ n + step.amount
    · obtain h | ⟨before, after, rfl, h, hzero⟩ := ih hnext
      · exact .inl (covered_cons.2 ⟨hn, h⟩)
      · refine .inr ⟨step :: before, after, rfl, covered_cons.2 ⟨hn, h⟩, ?_⟩
        rw [balance_cons]
        omega
    · cases step with
      | accept => exact absurd (by simp only [Step.amount]; omega) hnext
      | settle =>
        simp only [Step.amount] at hnext
        refine .inr ⟨[], run, rfl, fun before hbegins => ?_, ?_⟩
        · obtain rfl := List.prefix_nil.1 hbegins
          simpa [balance] using hn
        · simp only [balance, List.map_nil, List.sum_nil]
          omega

theorem Covered.reply (h : Covered n run) (hbegins : before ++ [step] <+: run) :
    step.reply (before.foldl Step.next n) = .ok () := by
  have hbefore : before <+: run := (List.prefix_append before [step]).trans hbegins
  have hbalance := h _ hbegins
  rw [balance, List.map_append, List.sum_append] at hbalance
  rw [(h.of_prefix hbefore).counts.1]
  refine Step.reply_of_nonneg (h before hbefore) ?_
  simpa [balance, Int.add_assoc] using hbalance

end Tracker

namespace Endpoint

/-- If every call returns, the settlements that were not refused are all of them. -/
theorem settlements_eq (h : ∀ r ∈ e.replies o run, r = .ok ()) :
    e.settlements o run = run.count .settle := by
  unfold settlements
  induction run generalizing e with
  | nil => rfl
  | cons step run ih =>
    obtain ⟨hreply, hrest⟩ := List.forall_mem_cons.1 h
    rw [replies, List.zip_cons_cons, List.countP_cons, List.count_cons, ih hrest, hreply]
    simp [Except.toBool]

theorem Counts.covered (hon : e.isOnHandler) (h : e.Counts o run) :
    Tracker.Covered (e.pending.get o) run := by
  refine Tracker.covered_of_nonneg fun before hbegins => ?_
  have hcount := h.nonneg before hbegins
  rwa [(steppedAll_eq hon before).1, withCount_get] at hcount

theorem perform_returns (hon : e.isOnHandler) (h : Tracker.Covered (e.pending.get o) run)
    (hbegins : before ++ [step] <+: run) : (step.perform o (e.steppedAll o before)).1 = .ok () := by
  have hthere : (e.withCount o (before.foldl Tracker.Step.next (e.pending.get o))).isOnHandler := hon
  rw [(steppedAll_eq hon before).1, Tracker.Step.perform_eq hthere, withCount_get]
  exact h.reply hbegins

theorem Counts.ofCovered (hon : e.isOnHandler) (h : Tracker.Covered (e.pending.get o) run) :
    e.Counts o run where
  nonneg := by
    intro before hbegins
    rw [(steppedAll_eq hon before).1, withCount_get, (h.of_prefix hbegins).counts.1]
    exact h before hbegins
  keeps := fun before hbegins hrefused => absurd (perform_returns hon h hbegins) hrefused
  accepts := fun before hbegins => perform_returns hon h hbegins
  reads := by
    intro n hn hword
    obtain ⟨hcount, hreplies⟩ := h.counts
    obtain ⟨hstate, hanswers⟩ := steppedAll_eq (o := o) hon run
    rw [settlements_eq (by rw [hanswers]; exact hreplies)] at hn
    have hbalance := Tracker.balance_eq run
    have hpositive := h run (List.prefix_refl run)
    unfold unsettled
    rw [hstate, withCount_get, hcount, toNat_countWord (by omega)]
    omega

end Endpoint

/-- Refused settlements do not damage a count exactly when there are none: as long as there is a
delivery for every settlement, each call returns and the count is the difference. With the first
settlement too many the count goes below zero, from then on every call is refused, settlements go
on lowering the count, and it reads as zero. -/
theorem counts_iff_covered (hon : e.isOnHandler) (hn : 0 ≤ e.pending.get o)
    (run : List Tracker.Step) :
    let n := e.pending.get o
    (e.Counts o run ↔ Tracker.Covered n run) ∧
      (Tracker.Covered n run → e.steppedAll o run = e.withCount o (n + Tracker.balance run) ∧
        ∀ r ∈ e.replies o run, r = .ok ()) ∧
      (¬ Tracker.Covered n run → ∃ before after, run = before ++ .settle :: after ∧
        Tracker.Covered n before ∧ n + Tracker.balance before = 0 ∧
        (∀ r ∈ (e.steppedAll o before).replies o (.settle :: after), r ≠ .ok ()) ∧
        e.steppedAll o run = e.withCount o (-1 - after.count .settle) ∧
        (e.steppedAll o run).unsettled o = 0) := by
  intro n
  refine ⟨⟨Endpoint.Counts.covered hon, .ofCovered hon⟩, fun h => ?_, fun hnot => ?_⟩
  · obtain ⟨hstate, hanswers⟩ := e.steppedAll_eq (o := o) hon run
    rw [hstate, hanswers, h.counts.1]
    exact ⟨rfl, h.counts.2⟩
  · obtain h | ⟨before, after, rfl, h, hzero⟩ := Tracker.covered_or_overdrawn hn run
    · exact absurd h hnot
    have hbefore : e.steppedAll o before = e.withCount o 0 := by
      rw [(Endpoint.steppedAll_eq hon before).1, h.counts.1]
      exact congrArg (e.withCount o) hzero
    have hthere : (e.withCount o 0).isOnHandler := hon
    have hrest := Endpoint.steppedAll_eq (o := o) hthere (.settle :: after)
    rw [Endpoint.withCount_get] at hrest
    obtain ⟨hcount, hrefused⟩ := Tracker.counts_of_zero after
    have hend : e.steppedAll o (before ++ .settle :: after) =
        e.withCount o (-1 - after.count .settle) := by
      unfold Endpoint.steppedAll at hbefore hrest ⊢
      rw [List.foldl_append, hbefore, hrest.1, hcount, Endpoint.withCount_withCount]
    refine ⟨before, after, rfl, h, hzero, ?_, hend, ?_⟩
    · rw [hbefore, hrest.2]
      exact hrefused
    · unfold Endpoint.unsettled Endpoint.countWord
      rw [hend, Endpoint.withCount_get, if_neg (by omega)]

/-- A delivery settled twice leaves the count negative, and a delivery accepted later is not
counted. -/
theorem counts_iff_covered_five :
    let e : Endpoint :=
      { Endpoint.start {} "orders" 10 ⟨1⟩ .memory none with onHandler := some ⟨1⟩ }
    let run : List Tracker.Step := [.accept, .settle, .settle, .accept, .settle]
    (e.isOnHandler ∧ 0 ≤ e.pending.get .receiver) ∧
      (e.steppedAll .receiver run).pending.get .receiver = -2 ∧
      (e.Counts .receiver run ↔ Tracker.Covered 0 run) := by
  intro e run
  have hon : e.isOnHandler := rfl
  have hn : 0 ≤ e.pending.get .receiver := Int.le_refl 0
  exact ⟨⟨hon, hn⟩, by decide +kernel, (counts_iff_covered hon hn run).1⟩

/-- A refused settlement leaves the count below zero, and a delivery accepted later is refused. -/
theorem accept_refused_of_overdraft :
    let e : Endpoint :=
      { Endpoint.start {} "orders" 10 ⟨1⟩ .memory none with onHandler := some ⟨1⟩ }
    let run : List Tracker.Step := [.settle, .accept]
    e.replies .receiver run =
        [.error (.text "settled more deliveries than were accepted for routing"),
          .error (.text "pending settlements must never be negative")] ∧
      (e.steppedAll .receiver run).pending.get .receiver = -1 ∧ ¬ e.Counts .receiver run := by
  intro e run
  have hreplies : e.replies .receiver run = _ := rfl
  have hcount : (e.steppedAll .receiver run).pending.get .receiver = -1 := rfl
  refine ⟨hreplies, hcount, fun h => ?_⟩
  have hnonneg := h.nonneg run (List.prefix_refl run)
  omega

end Runs

end ReceivingLink
