import Mathlib.Algebra.Ring.Int.Defs
import ReceivingLink.Proofs.Review

/-!
# Top-ups at every magnitude

A review on the handler grants something exactly if credit and unsettled deliveries together are
at or below the threshold and below the refill, and then it grants what the two are short of the
refill: `replenish_exact`. The sums are of integers and there is no bound on the words, so neither
the order of threshold and refill nor the saturating of the link matters. The program computes in
signed words of 64 bits; `CreditPolicy.wordGrant?` does so, and its differences never overflow.
-/

namespace ReceivingLink

namespace Credit

/-- A credit as a signed word of 64 bits. -/
def wide (n : UInt32) : Int64 := .ofInt n.toNat

/-- The difference of two signed words, unless it overflows. -/
def sub? (x y : Int64) : Option Int64 :=
  if x.toBitVec.ssubOverflow y.toBitVec then none else some (x - y)

/-- `isLow` in signed words. -/
def wordIsLow? (credit pending threshold : UInt32) : Option Bool := do
  return wide credit ≤ (← sub? (wide threshold) (wide pending))

/-- `topUp` in signed words. -/
def wordTopUp? (refill credit pending : UInt32) : Option Int64 := do
  sub? (← sub? (wide refill) (wide credit)) (wide pending)

end Credit

/-- `grant?` in signed words: none if a difference overflows. -/
def CreditPolicy.wordGrant? (policy : CreditPolicy) (credit pending : UInt32) :
    Option (Option UInt32) := do
  if ← Credit.wordIsLow? credit pending policy.threshold then
    return Credit.positive? (← Credit.wordTopUp? policy.refill credit pending).toInt
  else return none

section Words

variable {x y : Int64}

namespace Credit

theorem toInt_wide (n : UInt32) : (wide n).toInt = n.toNat := by
  have hn : n.toNat < UInt32.size := n.toNat_lt
  simp only [UInt32.size] at hn
  exact Int64.toInt_ofInt_of_le (by omega) (by omega)

/-- A difference that a signed word holds is computed as it is. -/
theorem sub?_eq (hlow : -2 ^ 63 ≤ x.toInt - y.toInt) (hhigh : x.toInt - y.toInt < 2 ^ 63) :
    ∃ z, sub? x y = some z ∧ z.toInt = x.toInt - y.toInt := by
  have hfits : ¬ x.toBitVec.ssubOverflow y.toBitVec := by
    simp only [BitVec.ssubOverflow, Int64.toInt_toBitVec, Bool.or_eq_true, decide_eq_true_eq]
    omega
  refine ⟨x - y, if_neg hfits, ?_⟩
  rw [← Int64.toInt_toBitVec, Int64.toBitVec_sub, BitVec.toInt_sub_of_not_ssubOverflow hfits]
  rfl

theorem wordIsLow?_eq (credit pending threshold : UInt32) :
    wordIsLow? credit pending threshold = some (isLow credit pending threshold) := by
  have hthreshold : threshold.toNat < UInt32.size := threshold.toNat_lt
  have hpending : pending.toNat < UInt32.size := pending.toNat_lt
  simp only [UInt32.size] at hthreshold hpending
  obtain ⟨room, hroom, hvalue⟩ := sub?_eq (x := wide threshold) (y := wide pending)
    (by rw [toInt_wide, toInt_wide]; omega) (by rw [toInt_wide, toInt_wide]; omega)
  unfold wordIsLow? isLow
  rw [hroom]
  simp only [Option.bind_eq_bind, Option.bind_some, Int64.le_iff_toInt_le, hvalue, toInt_wide]
  rfl

theorem wordTopUp?_eq (refill credit pending : UInt32) :
    ∃ z, wordTopUp? refill credit pending = some z ∧ z.toInt = topUp refill credit pending := by
  have hrefill : refill.toNat < UInt32.size := refill.toNat_lt
  have hcredit : credit.toNat < UInt32.size := credit.toNat_lt
  have hpending : pending.toNat < UInt32.size := pending.toNat_lt
  simp only [UInt32.size] at hrefill hcredit hpending
  obtain ⟨short, hshort, hvalue⟩ := sub?_eq (x := wide refill) (y := wide credit)
    (by rw [toInt_wide, toInt_wide]; omega) (by rw [toInt_wide, toInt_wide]; omega)
  rw [toInt_wide, toInt_wide] at hvalue
  obtain ⟨z, hz, hdifference⟩ := sub?_eq (x := short) (y := wide pending)
    (by rw [hvalue, toInt_wide]; omega) (by rw [hvalue, toInt_wide]; omega)
  refine ⟨z, ?_, by rw [hdifference, hvalue, toInt_wide]; rfl⟩
  unfold wordTopUp?
  rw [hshort]
  exact hz

end Credit

/-- No difference overflows, and the decision is the one that integers give. -/
theorem CreditPolicy.wordGrant?_eq (policy : CreditPolicy) (credit pending : UInt32) :
    policy.wordGrant? credit pending = some (policy.grant? credit pending) := by
  obtain ⟨z, hz, hvalue⟩ := Credit.wordTopUp?_eq policy.refill credit pending
  unfold wordGrant? grant?
  rw [Credit.wordIsLow?_eq, hz]
  simp only [Option.bind_eq_bind, Option.bind_some, hvalue]
  split <;> rfl

end Words

section Arithmetic

variable {policy : CreditPolicy} {credit pending amount : UInt32}

theorem CreditPolicy.isLow_of_grant (h : policy.grant? credit pending = some amount) :
    credit.toNat + pending.toNat ≤ policy.threshold.toNat := by
  unfold grant? at h
  split_ifs at h with hlow
  exact Credit.isLow_iff.1 hlow

theorem CreditPolicy.grant_pos (h : policy.grant? credit pending = some amount) :
    0 < amount.toNat := by
  have hfull := toNat_grant h
  unfold grant? Credit.positive? Credit.topUp at h
  split_ifs at h with _ hpositive
  omega

end Arithmetic

namespace Endpoint

/-- The credit of the sender and the deliveries that an owner counts as unsettled. -/
def outstanding (e : Endpoint) (o : Owner) : Int := e.link.credit.toNat + e.pending.get o

/-- What is outstanding is at or below the threshold, and below the refill. -/
structure Short (e : Endpoint) (o : Owner) : Prop where
  low : e.outstanding o ≤ e.config.policy.threshold.toNat
  below : e.outstanding o < e.config.policy.refill.toNat

instance (e : Endpoint) (o : Owner) : Decidable (e.Short o) :=
  decidable_of_iff (_ ∧ _) ⟨fun h => ⟨h.1, h.2⟩, fun h => ⟨h.low, h.below⟩⟩

/-- The link was granted once what it was short of, and this was sent. -/
structure Filled (e : Endpoint) (o : Owner) (grant : UInt32) (e' : Endpoint) : Prop where
  exact : (grant.toNat : Int) = e.config.policy.refill.toNat - e.outstanding o
  positive : 1 ≤ grant.toNat
  link : e'.link = e.link.flow grant
  credit : e'.link.credit.toNat = e.link.credit.toNat + grant.toNat
  full : e'.outstanding o = e.config.policy.refill.toNat
  calls : e'.calls = e.calls ++ [.linkFlow grant, .flush]
  flushes : e'.mailbox.flushes = e.mailbox.flushes + 1

variable {e e' : Endpoint} {o : Owner} {amount : UInt32}

theorem toNat_unsettled (hcount : 0 ≤ e.pending.get o) (hword : e.pending.get o < UInt32.size) :
    ((e.unsettled o).toNat : Int) = e.pending.get o := by
  unfold unsettled
  rw [toNat_countWord hword]
  exact Int.toNat_of_nonneg hcount

theorem due_eq_grant? (e : Endpoint) (o : Owner) :
    e.due (some o) = e.config.policy.grant? e.link.credit (e.unsettled o) := rfl

/-- A grant is due exactly when the endpoint is short of credit. -/
theorem due_eq_none_iff (hcount : 0 ≤ e.pending.get o) (hword : e.pending.get o < UInt32.size) :
    e.due (some o) = none ↔ ¬ e.Short o := by
  have hunsettled := toNat_unsettled hcount hword
  constructor
  · rintro hdue ⟨hlow, hbelow⟩
    have henough := CreditPolicy.enough ((due_eq_grant? e o).symm.trans hdue)
    unfold outstanding at hlow hbelow
    omega
  · intro hshort
    cases hdue : e.due (some o) with
    | none => rfl
    | some amount =>
      rw [due_eq_grant?] at hdue
      have hlow := CreditPolicy.isLow_of_grant hdue
      have hfull := CreditPolicy.toNat_grant hdue
      have hpositive := CreditPolicy.grant_pos hdue
      refine absurd ⟨?_, ?_⟩ hshort <;> unfold outstanding <;> omega

/-- What is granted fills credit up to the refill. -/
theorem Filled.ofDue (hcount : 0 ≤ e.pending.get o) (hword : e.pending.get o < UInt32.size)
    (hdue : e.due (some o) = some amount) (hlink : e'.link = e.link.flow amount)
    (hpending : e'.pending = e.pending) (hcalls : e'.calls = e.calls ++ [.linkFlow amount, .flush])
    (hflushes : e'.mailbox.flushes = e.mailbox.flushes + 1) : e.Filled o amount e' := by
  have hunsettled := toNat_unsettled hcount hword
  rw [due_eq_grant?] at hdue
  have hfull := CreditPolicy.toNat_grant hdue
  have hcredit : e'.link.credit.toNat = e.link.credit.toNat + amount.toNat := by
    rw [hlink]
    exact CreditPolicy.toNat_add_grant hdue
  refine ⟨?_, CreditPolicy.grant_pos hdue, hlink, hcredit, ?_, hcalls, hflushes⟩ <;>
    unfold outstanding
  · omega
  · rw [hpending, hcredit]
    omega

end Endpoint

/-- On the handler a review of credit grants something exactly if credit and unsettled deliveries
are short of threshold and refill, and then what fills them up, and it has this sent once. Otherwise
it leaves all as it is. Only the sending may break it off, and its arithmetic does not overflow. -/
theorem replenish_exact {e : Endpoint} {o : Owner} (hon : e.isOnHandler)
    (hcount : 0 ≤ e.pending.get o) (hword : e.pending.get o < UInt32.size)
    (hlink : e.plan.Spares [.linkFlow]) :
    (replenish (some o)).Ends e
        (fun _ e' => if e.Short o then ∃ grant, e.Filled o grant e' else e' = e)
        (fun _ e' => ¬ e.plan.Spares [.flush] ∧ e.Short o ∧ ∃ grant, e.Filled o grant e') ∧
      e.config.policy.wordGrant? e.link.credit (e.unsettled o) = some (e.due (some o)) := by
  have hshort {amount : UInt32} (hdue : e.due (some o) = some amount) : e.Short o := by
    by_contra hfull
    rw [(Endpoint.due_eq_none_iff hcount hword).2 hfull] at hdue
    cases hdue
  refine ⟨(replenish_due hon (some o)).imp (fun _ e' h => ?_) fun _ e' h => ?_,
    CreditPolicy.wordGrant?_eq _ _ _⟩
  · cases hdue : e.due (some o) with
    | none =>
      rw [hdue] at h
      rwa [if_neg ((Endpoint.due_eq_none_iff hcount hword).1 hdue)]
    | some amount =>
      rw [hdue] at h
      obtain ⟨counters, notices, rfl⟩ := h
      rw [if_pos (hshort hdue)]
      exact ⟨amount, .ofDue hcount hword hdue rfl rfl (List.append_assoc _ _ _) rfl⟩
  · obtain ⟨amount, hdue, ⟨⟨n, k, -, hpanic⟩, -⟩ | ⟨⟨n, k, -, hpanic⟩, rfl⟩⟩ := h
    · exact absurd hpanic (hlink n _ (List.mem_singleton_self _) k)
    · refine ⟨fun hflush => hflush n _ (List.mem_singleton_self _) k hpanic, hshort hdue, amount, ?_⟩
      exact .ofDue hcount hword hdue rfl rfl (List.append_assoc _ _ _) rfl

/-- At the end of the range, with a threshold above the refill, a single credit is granted. -/
theorem replenish_exact_extreme :
    let policy : CreditPolicy := { threshold := 4294967295, refill := 4294967294 }
    let e : Endpoint :=
      { Endpoint.start { policy } "orders" 2 ⟨1⟩ .memory none with
        pending := ⟨4294967291, 0⟩, onHandler := some ⟨1⟩ }
    e.Short .receiver ∧ e.due (some .receiver) = some 1 ∧
      ∃ e', replenish (some .receiver) e = (.ok (), e') ∧
        ∃ grant, e.Filled .receiver grant e' := by
  intro policy e
  have hon : e.isOnHandler := rfl
  have hclear (points : List Point) : e.plan.Spares points := fun _ _ _ _ => nofun
  have hcount : 0 ≤ e.pending.get .receiver ∧ e.pending.get .receiver < UInt32.size := by
    decide +kernel
  have hshort : e.Short .receiver := by decide +kernel
  have hdue : e.due (some .receiver) = some 1 := by decide +kernel
  -- from here on the numbers are only in the way
  clear_value e
  obtain ⟨hends, -⟩ := replenish_exact hon hcount.1 hcount.2 (hclear _)
  obtain ⟨_, e', he, hfilled⟩ := (hends.imp (fun _ _ h => h) fun _ _ h => h.1 (hclear _)).answers
  rw [if_pos hshort] at hfilled
  exact ⟨hshort, hdue, e', he, hfilled⟩

end ReceivingLink
