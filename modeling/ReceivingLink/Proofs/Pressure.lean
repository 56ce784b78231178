import ReceivingLink.Proofs.Overdraft
import ReceivingLink.Proofs.TopUp

/-!
# What unsettled deliveries hold back

A review releases what credit and unsettled deliveries together are short of the refill, so the more
deliveries are unsettled, the less it releases. This is so as long as a word holds their count. One
that no word holds reads as zero, and the review releases as much as if everything had been settled.
So more unsettled deliveries release more credit exactly if the sender is short of credit, some were
unsettled before and the count has left the words: `released_le_iff`.
-/

namespace ReceivingLink

namespace CreditPolicy

/-- What a review releases when this much is outstanding. -/
def shortfall (policy : CreditPolicy) (outstanding : Nat) : Nat :=
  if outstanding ≤ policy.threshold.toNat then policy.refill.toNat - outstanding else 0

variable {policy : CreditPolicy} {m n : Nat}

theorem shortfall_anti (h : m ≤ n) : policy.shortfall n ≤ policy.shortfall m := by
  unfold shortfall
  split_ifs <;> omega

/-- With more outstanding less is released, if anything was. -/
theorem shortfall_lt_iff : policy.shortfall (n + m) < policy.shortfall n ↔
    0 < m ∧ n ≤ policy.threshold.toNat ∧ n < policy.refill.toNat := by
  unfold shortfall
  split_ifs <;> omega

theorem toNat_grant? (policy : CreditPolicy) (credit pending : UInt32) :
    ((policy.grant? credit pending).map UInt32.toNat).getD 0 =
      policy.shortfall (credit.toNat + pending.toNat) := by
  unfold shortfall
  cases hgrant : policy.grant? credit pending with
  | none =>
    have henough := enough hgrant
    show 0 = _
    split_ifs <;> omega
  | some amount =>
    have hfull := toNat_grant hgrant
    rw [if_pos (isLow_of_grant hgrant)]
    show amount.toNat = _
    omega

end CreditPolicy

/-- The credit that a review releases to the sender. -/
def Endpoint.released (e : Endpoint) (o : Owner) : Nat :=
  (replenish (some o) e).2.link.granted - e.link.granted

section Review

variable {e : Endpoint}

/-- On the handler a review grants what is due, whether or not it is sent, or nothing if the link
does not take it. -/
theorem replenish_granted (hon : e.isOnHandler) (o : Owner) :
    let granted := (replenish (some o) e).2.link.granted
    (e.TakesGrant → granted = e.link.granted + ((e.due (some o)).map UInt32.toNat).getD 0) ∧
      (¬ e.TakesGrant → granted = e.link.granted) := by
  refine Act.Ends.state (Q := fun e' => (e.TakesGrant → e'.link.granted = _) ∧
    (¬ e.TakesGrant → e'.link.granted = _)) ((replenish_counts hon (some o)).imp
      (fun _ e' h => ?_) fun _ e' h => ?_)
  · cases hdue : e.due (some o) with
    | none =>
      rw [hdue] at h
      rw [h]
      exact ⟨fun _ => rfl, fun _ => rfl⟩
    | some amount =>
      rw [hdue] at h
      obtain ⟨htakes, notices, rfl⟩ := h
      exact ⟨fun _ => e.link.granted_flow amount, fun hbreaks => absurd htakes hbreaks⟩
  · obtain ⟨amount, hdue, ⟨hbreaks, rfl⟩ | ⟨htakes, -, rfl⟩⟩ := h
    · exact ⟨fun htakes => absurd htakes hbreaks, fun _ => rfl⟩
    · rw [hdue]
      exact ⟨fun _ => e.link.granted_flow amount, fun hbreaks => absurd htakes hbreaks⟩

/-- A review releases what is short, if the link takes it. -/
theorem released_eq (hon : e.isOnHandler) (htakes : e.TakesGrant) (o : Owner) :
    e.released o = e.config.policy.shortfall (e.link.credit.toNat + (e.unsettled o).toNat) := by
  rw [Endpoint.released, (replenish_granted hon o).1 htakes, Nat.add_sub_cancel_left,
    Endpoint.due_eq_grant?, CreditPolicy.toNat_grant?]

theorem released_eq_zero (hon : e.isOnHandler) (hbreaks : ¬ e.TakesGrant) (o : Owner) :
    e.released o = 0 := by
  rw [Endpoint.released, (replenish_granted hon o).2 hbreaks, Nat.sub_self]

/-- A count reads as it is if a word holds it, and else as zero. -/
theorem released_withCount (hon : e.isOnHandler) (htakes : e.TakesGrant) (o : Owner) (n : Nat) :
    (e.withCount o n).released o =
      e.config.policy.shortfall (e.link.credit.toNat + if n < UInt32.size then n else 0) := by
  have hcount : ((e.withCount o n).unsettled o).toNat = if n < UInt32.size then n else 0 := by
    unfold Endpoint.unsettled
    rw [Endpoint.withCount_get]
    split_ifs with hword
    · rw [toNat_countWord (by omega), Int.toNat_natCast]
    · rw [Endpoint.countWord, if_neg (by omega)]
      rfl
  have hreleased := released_eq (e := e.withCount o n) hon htakes o
  rw [hcount] at hreleased
  exact hreleased

end Review

section Counting

variable {e : Endpoint} {o : Owner}

/-- Deliveries that are accepted one after the other are counted. -/
theorem times_increment (hon : e.isOnHandler) (hcount : 0 ≤ e.pending.get o) (n : Nat) :
    Act.times n (Tracker.increment o) e = (.ok (), e.withCount o (e.pending.get o + n)) := by
  induction n generalizing e with
  | zero =>
    rw [Nat.cast_zero, Int.add_zero, e.withCount_self]
    rfl
  | succ n ih =>
    have hfirst : Tracker.increment o e = (.ok (), e.withCount o (e.pending.get o + 1)) := by
      have hstep := Tracker.Step.perform_eq (o := o) hon .accept
      rwa [Tracker.Step.reply_of_nonneg hcount (by simp only [Tracker.Step.amount]; omega),
        Tracker.Step.next_of_nonneg hcount] at hstep
    have hrest := ih (e := e.withCount o (e.pending.get o + 1)) hon
      (by rw [Endpoint.withCount_get]; omega)
    rw [Endpoint.withCount_withCount, Endpoint.withCount_get] at hrest
    have hends : (Act.times (n + 1) (Tracker.increment o)).Ends e
        (fun _ e' => e' = e.withCount o (e.pending.get o + (n + 1 : Nat))) fun _ _ => False := by
      refine Act.ends_bind.2 ((Act.ends_of_eq hfirst).2 ((Act.ends_of_eq hrest).2 ?_))
      congr 1
      omega
    obtain ⟨_, _, he, rfl⟩ := hends.answers
    exact he

theorem short_iff_of_none (hnone : e.pending.get o = 0) :
    e.Short o ↔ e.link.credit.toNat ≤ e.config.policy.threshold.toNat ∧
      e.link.credit.toNat < e.config.policy.refill.toNat := by
  have houtstanding : e.outstanding o = e.link.credit.toNat := by
    rw [Endpoint.outstanding, hnone, Int.add_zero]
  constructor
  · rintro ⟨hlow, hbelow⟩
    omega
  · rintro ⟨hlow, hbelow⟩
    exact ⟨by omega, by omega⟩

theorem times_increment_none (hon : e.isOnHandler) (hnone : e.pending.get o = 0) (n : Nat) :
    Act.times n (Tracker.increment o) e = (.ok (), e.withCount o n) := by
  have htimes := times_increment hon (Int.le_of_eq hnone.symm) n
  rwa [hnone, Int.zero_add] at htimes

/-- A delivery is counted only on the handler, and only as long as no more were settled than were
accepted. -/
theorem increment_answers (e : Endpoint) (o : Owner) :
    (Tracker.increment o).Ends e
      (fun _ e' => e'.isOnHandler ∧ 0 ≤ e'.pending.get o) fun _ _ => True := by
  refine Act.ends_bind.2 (Act.ends_get.2 (Act.ends_ite.2 ⟨fun _ => trivial, fun hcount => ?_⟩))
  refine Act.ends_bind.2 (Act.ends_bind.2 (Act.ends_get.2 (Act.ends_ite.2 ⟨fun _ => trivial,
    fun hoff => ?_⟩)))
  have hon : e.isOnHandler := by simpa using hoff
  refine Act.ends_modify.2 ⟨hon, ?_⟩
  rw [Each.get_set]
  omega

/-- To count many at once is to count one after the other. -/
theorem incrementBy_eq_times (o : Owner) (n : Nat) :
    Tracker.incrementBy o n = Act.times n (Tracker.increment o) := by
  cases n with
  | zero => rfl
  | succ n =>
    funext e
    refine Act.bind_congr ((increment_answers e o).imp (fun _ e₁ h₁ => ?_) fun _ _ => id)
    rw [times_increment h₁.1 h₁.2]
    rfl

end Counting

/-- More unsettled deliveries, counted one after the other from none, never release more credit, but
where a word holds the fewer of them and not the more, and the sender is short of credit that the
link takes. -/
theorem released_le_iff {e : Endpoint} {o : Owner} (hon : e.isOnHandler)
    (hnone : e.pending.get o = 0) {m n : Nat} (hle : m ≤ n) :
    let counted k := Act.times k (Tracker.increment o) e
    (∀ k, counted k = (.ok (), e.withCount o k)) ∧
      ((counted n).2.released o ≤ (counted m).2.released o ↔
        ¬ (e.Short o ∧ e.TakesGrant ∧ 0 < m ∧ m < UInt32.size ∧ UInt32.size ≤ n)) := by
  intro counted
  have hcounted (k : Nat) : counted k = (.ok (), e.withCount o k) :=
    times_increment_none hon hnone k
  refine ⟨hcounted, ?_⟩
  rw [hcounted n, hcounted m]
  by_cases htakes : e.TakesGrant
  · rw [released_withCount hon htakes, released_withCount hon htakes,
      short_iff_of_none hnone]
    by_cases hn : n < UInt32.size
    · rw [if_pos hn, if_pos (by omega)]
      exact iff_of_true (CreditPolicy.shortfall_anti (by omega)) (by omega)
    · rw [if_neg hn, Nat.add_zero]
      by_cases hm : m < UInt32.size
      · rw [if_pos hm, ← not_lt, CreditPolicy.shortfall_lt_iff]
        exact not_congr ⟨fun h => ⟨h.2, htakes, h.1, hm, by omega⟩, fun h => ⟨h.2.2.1, h.1⟩⟩
      · rw [if_neg hm, Nat.add_zero]
        exact iff_of_true (Nat.le_refl _) (by omega)
  · rw [released_eq_zero (e := e.withCount o n) hon htakes]
    exact iff_of_true (Nat.zero_le _) fun h => htakes h.2.1

/-- With 300 unsettled deliveries nothing is released, and with as many that no word holds them the
whole of what credit is short of the refill. -/
theorem released_of_overflow :
    let e : Endpoint :=
      { Endpoint.start {} "orders" 10 ⟨1⟩ .memory none with onHandler := some ⟨1⟩ }
    let counted k := (Act.times k (Tracker.increment .standalone) e).2
    (counted 300).released .standalone = 0 ∧ (counted 4294967296).released .standalone = 990 := by
  intro e counted
  have hon : e.isOnHandler := by decide +kernel
  have htakes : e.TakesGrant := fun _ => nofun
  have hreleased (k : Nat) : (counted k).released .standalone =
      e.config.policy.shortfall (10 + if k < UInt32.size then k else 0) := by
    show (Act.times k (Tracker.increment .standalone) e).2.released .standalone = _
    rw [times_increment_none hon rfl]
    exact released_withCount hon htakes .standalone k
  rw [hreleased, hreleased]
  decide +kernel

/-- The largest count that a word holds releases no more than a single delivery does, and one more
releases more. -/
theorem released_le_iff_word :
    let e : Endpoint :=
      { Endpoint.start {} "orders" 10 ⟨1⟩ .memory none with onHandler := some ⟨1⟩ }
    let counted k := (Act.times k (Tracker.increment .standalone) e).2
    (counted 4294967295).released .standalone ≤ (counted 1).released .standalone ∧
      (counted 1).released .standalone < (counted 4294967296).released .standalone := by
  intro e counted
  have hon : e.isOnHandler := by decide +kernel
  have hnone : e.pending.get .standalone = 0 := rfl
  have hshort : e.Short .standalone := by decide +kernel
  have htakes : e.TakesGrant := fun _ => nofun
  -- from here on the numbers are only in the way
  clear_value e
  constructor
  · exact (released_le_iff hon hnone (by decide)).2.2 fun h => absurd h.2.2.2.2 (by decide)
  · refine Nat.lt_of_not_le fun h => ?_
    have hword := (released_le_iff hon hnone (by decide)).2.1 h
    exact hword ⟨hshort, htakes, by decide, by decide, by decide⟩

end ReceivingLink
