import ReceivingLink.Collaborators

/-!
# How actions end

`Act.Ends` says of an action what holds when it answers and what holds when it breaks off, and
`Attempt.Ends` says besides what holds when it fails. An action ends in exactly one way, so both
are read off step by step: each rule below takes one form of step.

`Act.Within` says that however an action ends, the state is in a relation to the one before, and
that a panic is one that the relation allows for. Such relations go through a sequence of steps,
so what an action leaves alone is shown piece by piece.
-/

namespace ReceivingLink

namespace Act

variable {ε σ α β : Type}

/-- From `s` the action answers with `P`, or breaks off with `K`. -/
def Ends (act : Act ε σ α) (s : σ) (P : α → σ → Prop) (K : ε → σ → Prop) : Prop :=
  match act s with
  | (.ok a, s') => P a s'
  | (.error k, s') => K k s'

section Rules

variable {s : σ} {P P' : α → σ → Prop} {K K' : ε → σ → Prop}

instance decidableEnds [∀ a s', Decidable (P a s')] [∀ k s', Decidable (K k s')]
    (act : Act ε σ α) : Decidable (act.Ends s P K) :=
  match h : act s with
  | (.ok a, s') => decidable_of_iff (P a s') (by unfold Ends; rw [h])
  | (.error k, s') => decidable_of_iff (K k s') (by unfold Ends; rw [h])

theorem Ends.imp {act : Act ε σ α} (h : act.Ends s P K) (hP : ∀ a s', P a s' → P' a s')
    (hK : ∀ k s', K k s' → K' k s') : act.Ends s P' K' := by
  unfold Ends at h ⊢
  split at h
  · exact hP _ _ h
  · exact hK _ _ h

theorem Ends.and {act : Act ε σ α} (h : act.Ends s P K) (h' : act.Ends s P' K') :
    act.Ends s (fun a s' => P a s' ∧ P' a s') (fun k s' => K k s' ∧ K' k s') := by
  unfold Ends at h h' ⊢
  rcases hr : act s with ⟨_ | _, s'⟩ <;> rw [hr] at h h' <;> exact ⟨h, h'⟩

theorem ends_always {act : Act ε σ α} (hP : ∀ a s', P a s') (hK : ∀ k s', K k s') :
    act.Ends s P K := by
  unfold Ends
  split
  · exact hP _ _
  · exact hK _ _

theorem ends_of_not {act : Act ε σ α} (h : ¬ act.Ends s P K) :
    act.Ends s (fun a s' => ¬ P a s') fun k s' => ¬ K k s' := by
  unfold Ends at h ⊢
  split <;> rename_i heq <;> rw [heq] at h <;> exact h

theorem Ends.state {act : Act ε σ α} {Q : σ → Prop} (h : act.Ends s (fun _ => Q) fun _ => Q) :
    Q (act s).2 := by
  unfold Ends at h
  split at h <;> rename_i heq <;> rw [heq] <;> exact h

theorem Ends.result {act : Act ε σ α} {Q : Except ε α → σ → Prop}
    (h : act.Ends s (fun a => Q (.ok a)) fun k => Q (.error k)) : Q (act s).1 (act s).2 := by
  unfold Ends at h
  split at h <;> rename_i heq <;> rw [heq] <;> exact h

theorem Ends.answers {act : Act ε σ α} (h : act.Ends s P fun _ _ => False) :
    ∃ a s', act s = (.ok a, s') ∧ P a s' := by
  unfold Ends at h
  split at h
  · exact ⟨_, _, ‹_›, h⟩
  · exact h.elim

theorem ends_of_eq {act : Act ε σ α} {s' : σ} {a : α} (h : act s = (.ok a, s')) :
    act.Ends s P K ↔ P a s' := by
  unfold Ends
  rw [h]

theorem ends_of_error {act : Act ε σ α} {s' : σ} {k : ε} (h : act s = (.error k, s')) :
    act.Ends s P K ↔ K k s' := by
  unfold Ends
  rw [h]

@[simp] theorem ends_pure {a : α} : (pure a : Act ε σ α).Ends s P K ↔ P a s := Iff.rfl

@[simp] theorem ends_throw {k : ε} : (throw k : Act ε σ α).Ends s P K ↔ K k s := Iff.rfl

@[simp] theorem ends_get {P : σ → σ → Prop} : (get : Act ε σ σ).Ends s P K ↔ P s s := Iff.rfl

@[simp] theorem ends_modify {f : σ → σ} {P : Unit → σ → Prop} :
    (modify f : Act ε σ Unit).Ends s P K ↔ P () (f s) := Iff.rfl

@[simp] theorem ends_modifyGet {f : σ → α × σ} :
    (modifyGet f : Act ε σ α).Ends s P K ↔ P (f s).1 (f s).2 := Iff.rfl

@[simp] theorem ends_bind {x : Act ε σ β} {f : β → Act ε σ α} :
    (x >>= f).Ends s P K ↔ x.Ends s (fun b s' => (f b).Ends s' P K) K := by
  simp only [Ends, bind, ExceptT.bind, ExceptT.mk, StateT.bind]
  rcases x s with ⟨_ | _, _⟩ <;> rfl

/-- What is done next matters only where an action answers. -/
theorem bind_congr {x : Act ε σ β} {f g : β → Act ε σ α}
    (h : x.Ends s (fun b s' => f b s' = g b s') fun _ _ => True) : (x >>= f) s = (x >>= g) s := by
  simp only [Ends, bind, ExceptT.bind, ExceptT.mk, StateT.bind] at h ⊢
  rcases hr : x s with ⟨_ | _, s'⟩ <;> rw [hr] at h
  · rfl
  · exact h

@[simp] theorem ends_contain {x : Act ε σ β} {P : Except ε β → σ → Prop} :
    x.contain.Ends s P K ↔ x.Ends s (fun b => P (.ok b)) fun k => P (.error k) := by
  simp only [Ends, contain]
  rcases x s with ⟨_ | _, _⟩ <;> rfl

@[simp] theorem ends_bracket {x : Act ε σ α} {enter : σ → σ} {leave : σ → σ → σ} :
    (x.bracket enter leave).Ends s P K ↔
      x.Ends (enter s) (fun a s' => P a (leave s s')) fun k s' => K k (leave s s') := by
  simp only [Ends, bracket]
  rcases x (enter s) with ⟨_ | _, _⟩ <;> rfl

@[simp] theorem ends_ite {c : Prop} [Decidable c] {x y : Act ε σ α} :
    (if c then x else y).Ends s P K ↔ (c → x.Ends s P K) ∧ (¬ c → y.Ends s P K) := by
  split <;> simp [*]

end Rules

end Act

namespace Attempt

variable {ε ε' α β : Type}

/-- From `e` the attempt answers with `P`, fails with `F`, or panics with `K`. -/
def Ends (x : Attempt ε α) (e : Endpoint) (P : α → Endpoint → Prop) (F : ε → Endpoint → Prop)
    (K : Panic → Endpoint → Prop) : Prop :=
  Act.Ends x.run e (fun | .ok a => P a | .error f => F f) K

section Rules

variable {e : Endpoint} {P P' : α → Endpoint → Prop} {F F' : ε → Endpoint → Prop}
  {K K' : Panic → Endpoint → Prop}

instance decidableEnds [∀ a e', Decidable (P a e')] [∀ f e', Decidable (F f e')]
    [∀ k e', Decidable (K k e')] (x : Attempt ε α) : Decidable (x.Ends e P F K) :=
  have : ∀ (r : Except ε α) e', Decidable ((fun | .ok a => P a | .error f => F f :
      Except ε α → Endpoint → Prop) r e')
    | .ok a, e' => inferInstanceAs (Decidable (P a e'))
    | .error f, e' => inferInstanceAs (Decidable (F f e'))
  inferInstanceAs (Decidable (Act.Ends x.run e _ K))

theorem Ends.imp {x : Attempt ε α} (h : x.Ends e P F K) (hP : ∀ a e', P a e' → P' a e')
    (hF : ∀ f e', F f e' → F' f e') (hK : ∀ k e', K k e' → K' k e') : x.Ends e P' F' K' :=
  Act.Ends.imp h (fun | .ok a => hP a | .error f => hF f) hK

theorem Ends.and {x : Attempt ε α} (h : x.Ends e P F K) (h' : x.Ends e P' F' K') :
    x.Ends e (fun a e' => P a e' ∧ P' a e') (fun f e' => F f e' ∧ F' f e')
      fun k e' => K k e' ∧ K' k e' :=
  Act.Ends.imp (Act.Ends.and h h') (fun | .ok _, _ => id | .error _, _ => id) fun _ _ => id

theorem ends_always {x : Attempt ε α} (hP : ∀ a e', P a e') (hF : ∀ f e', F f e')
    (hK : ∀ k e', K k e') : x.Ends e P F K :=
  Act.ends_always (fun | .ok a => hP a | .error f => hF f) hK

theorem ends_of_not {x : Attempt ε α} (h : ¬ x.Ends e P F K) :
    x.Ends e (fun a e' => ¬ P a e') (fun f e' => ¬ F f e') fun k e' => ¬ K k e' :=
  Act.Ends.imp (Act.ends_of_not h) (fun | .ok _, _ => id | .error _, _ => id) fun _ _ => id

@[simp] theorem ends_pure {a : α} : Attempt.Ends (pure a : Attempt ε α) e P F K ↔ P a e := Iff.rfl

@[simp] theorem ends_throw {f : ε} : Attempt.Ends (throw f : Attempt ε α) e P F K ↔ F f e := Iff.rfl

@[simp] theorem ends_throwThe {k : Panic} :
    Attempt.Ends (throwThe Panic k : Attempt ε α) e P F K ↔ K k e := Iff.rfl

@[simp] theorem ends_get {P : Endpoint → Endpoint → Prop} :
    Attempt.Ends (get : Attempt ε Endpoint) e P F K ↔ P e e := Iff.rfl

@[simp] theorem ends_modify {f : Endpoint → Endpoint} {P : Unit → Endpoint → Prop} :
    Attempt.Ends (modify f : Attempt ε Unit) e P F K ↔ P () (f e) := Iff.rfl

@[simp] theorem ends_bind {x : Attempt ε β} {f : β → Attempt ε α} :
    Attempt.Ends (x >>= f) e P F K ↔
      x.Ends e (fun b e' => Attempt.Ends (f b) e' P F K) F K := by
  have h : ExceptT.run (x >>= f) = ExceptT.run x >>= fun
      | .ok b => ExceptT.run (f b)
      | .error err => pure (.error err) := rfl
  unfold Ends
  rw [h, Act.ends_bind]
  constructor <;> refine fun h => h.imp (fun r s' hr => ?_) fun _ _ => id <;> cases r <;> exact hr

@[simp] theorem ends_lift {x : Act Panic Endpoint α} :
    Attempt.Ends (liftM x : Attempt ε α) e P F K ↔ x.Ends e P K := by
  simp only [Ends, Act.Ends, liftM, monadLift, MonadLift.monadLift, ExceptT.lift, ExceptT.mk,
    ExceptT.run, Functor.map, ExceptT.map, StateT.bind, bind]
  rcases x e with ⟨_ | _, _⟩ <;> rfl

@[simp] theorem ends_adapt {x : Attempt ε' α} {g : ε' → ε} :
    Attempt.Ends (x.adapt g) e P F K ↔ x.Ends e P (fun f => F (g f)) K := by
  have h : ExceptT.run (x.adapt g) = ExceptT.run x >>= fun r => pure (r.mapError g) := rfl
  unfold Ends
  rw [h, Act.ends_bind]
  constructor <;> refine fun h => h.imp (fun r s' hr => ?_) fun _ _ => id <;> cases r <;> exact hr

@[simp] theorem ends_discard {x : Attempt ε α} {P : Unit → Endpoint → Prop} :
    Attempt.Ends (discard x) e P F K ↔ x.Ends e (fun _ => P ()) F K := by
  have h : ExceptT.run (discard x) = ExceptT.run x >>= fun
      | .ok _ => pure (.ok ())
      | .error err => pure (.error err) := rfl
  unfold Ends
  rw [h, Act.ends_bind]
  constructor <;> refine fun h => h.imp (fun r s' hr => ?_) fun _ _ => id <;> cases r <;> exact hr

@[simp] theorem ends_liftExcept {r : Except ε α} :
    Attempt.Ends (liftExcept r : Attempt ε α) e P F K ↔
      match r with
      | .ok a => P a e
      | .error f => F f e := by
  cases r <;> rfl

@[simp] theorem ends_ite {c : Prop} [Decidable c] {x y : Attempt ε α} :
    Attempt.Ends (if c then x else y) e P F K ↔
      (c → Attempt.Ends x e P F K) ∧ (¬ c → Attempt.Ends y e P F K) := by
  split <;> simp [*]

end Rules

end Attempt

namespace Act

variable {ε α : Type}

@[simp] theorem ends_run {x : Attempt ε α} {e : Endpoint} {P : Except ε α → Endpoint → Prop}
    {K : Panic → Endpoint → Prop} :
    Act.Ends (ExceptT.run x) e P K ↔ x.Ends e (fun a => P (.ok a)) (fun f => P (.error f)) K := by
  unfold Attempt.Ends
  constructor <;> refine fun h => h.imp (fun r s' hr => ?_) fun _ _ => id <;> cases r <;> exact hr

end Act

namespace Act

variable {ε σ α β : Type}

/-- The relation `R` between states goes through sequences of steps, and the panics that `B`
allows after a step it allows before. -/
structure Framing (R : σ → σ → Prop) (B : σ → ε → Prop) : Prop where
  refl : ∀ s, R s s
  trans : ∀ {s₁ s₂ s₃}, R s₁ s₂ → R s₂ s₃ → R s₁ s₃
  blame : ∀ {s₁ s₂ k}, R s₁ s₂ → B s₂ k → B s₁ k

/-- However the action ends, it leaves a state related to the one before, and what it breaks off
with is allowed. -/
def Within (R : σ → σ → Prop) (B : σ → ε → Prop) (act : Act ε σ α) : Prop :=
  ∀ s, act.Ends s (fun _ s' => R s s') fun k s' => R s s' ∧ B s k

namespace Within

variable {R : σ → σ → Prop} {B : σ → ε → Prop} (F : Framing R B)

include F

theorem answer (a : α) : (pure a : Act ε σ α).Within R B := fun s => F.refl s

theorem look : (get : Act ε σ σ).Within R B := fun s => F.refl s

omit F in
theorem change {f : σ → σ} (h : ∀ s, R s (f s)) : (modify f : Act ε σ Unit).Within R B := h

theorem breakOff {k : ε} (h : ∀ s, B s k) : (throw k : Act ε σ α).Within R B :=
  fun s => ⟨F.refl s, h s⟩

theorem bind {x : Act ε σ β} {f : β → Act ε σ α} (hx : x.Within R B)
    (hf : ∀ b, (f b).Within R B) : (x >>= f).Within R B := fun s => by
  refine ends_bind.2 ((hx s).imp (fun b s' h => ?_) fun _ _ => id)
  exact (hf b s').imp (fun _ _ => F.trans h) fun _ _ h' => ⟨F.trans h h'.1, F.blame h h'.2⟩

omit F in
theorem contain {x : Act ε σ β} (hx : x.Within R B) : x.contain.Within R B := fun s =>
  ends_contain.2 ((hx s).imp (fun _ _ => id) fun _ _ => And.left)

omit F in
theorem state {x : Act ε σ α} (hx : x.Within R B) (s : σ) : R s (x s).2 :=
  Ends.state (Q := R s) ((hx s).imp (fun _ _ => id) fun _ _ => And.left)

end Within

end Act

namespace Attempt

variable {ε ε' α β : Type}

/-- However the attempt ends, it leaves an endpoint related to the one before, and its panics are
allowed. -/
def Within (R : Endpoint → Endpoint → Prop) (B : Endpoint → Panic → Prop) (x : Attempt ε α) :
    Prop :=
  ∀ e, x.Ends e (fun _ e' => R e e') (fun _ e' => R e e') fun k e' => R e e' ∧ B e k

namespace Within

variable {R : Endpoint → Endpoint → Prop} {B : Endpoint → Panic → Prop} (F : Act.Framing R B)

include F

theorem answer (a : α) : Attempt.Within R B (pure a : Attempt ε α) := fun e => F.refl e

theorem look : Attempt.Within R B (get : Attempt ε Endpoint) := fun e => F.refl e

theorem fail (f : ε) : Attempt.Within R B (throw f : Attempt ε α) := fun e => F.refl e

theorem panic {k : Panic} (h : ∀ e, B e k) :
    Attempt.Within R B (throwThe Panic k : Attempt ε α) := fun e => ⟨F.refl e, h e⟩

theorem bind {x : Attempt ε β} {f : β → Attempt ε α} (hx : x.Within R B)
    (hf : ∀ b, Attempt.Within R B (f b)) : Attempt.Within R B (x >>= f) := fun e => by
  refine ends_bind.2 ((hx e).imp (fun b e' h => ?_) (fun _ _ => id) fun _ _ => id)
  exact (hf b e').imp (fun _ _ => F.trans h) (fun _ _ => F.trans h)
    fun _ _ h' => ⟨F.trans h h'.1, F.blame h h'.2⟩

theorem failThen {f : ε} {x : β → Attempt ε α} :
    Attempt.Within R B ((throw f : Attempt ε β) >>= x) :=
  fun e => ends_bind.2 (ends_throw.2 (F.refl e))

/-- A step that is left out unless `c`. -/
theorem when {c : Prop} [Decidable c] {x : Attempt ε Unit} {f : Unit → Attempt ε α}
    (hx : x.Within R B) (hf : Attempt.Within R B (f ())) :
    Attempt.Within R B (if c then x >>= f else f ()) := by
  split
  · exact bind F hx fun _ => hf
  · exact hf

omit F in
theorem lift {x : Act Panic Endpoint α} (hx : x.Within R B) :
    Attempt.Within R B (liftM x : Attempt ε α) := fun e => ends_lift.2 (hx e)

omit F in
theorem forget {x : Attempt ε α} (hx : x.Within R B) : Attempt.Within R B (discard x) :=
  fun e => ends_discard.2 (hx e)

theorem ofExcept (r : Except ε α) : Attempt.Within R B (liftExcept r : Attempt ε α) :=
  fun e => ends_liftExcept.2 (by cases r <;> exact F.refl e)

omit F in
theorem adapt {x : Attempt ε' α} {g : ε' → ε} (hx : x.Within R B) :
    Attempt.Within R B (x.adapt g) := fun e => ends_adapt.2 (hx e)

end Within

end Attempt

theorem Act.Within.run {ε α : Type} {R : Endpoint → Endpoint → Prop} {B : Endpoint → Panic → Prop}
    {x : Attempt ε α} (hx : x.Within R B) : Act.Within R B (ExceptT.run x) :=
  fun e => Act.ends_run.2 (hx e)

end ReceivingLink
