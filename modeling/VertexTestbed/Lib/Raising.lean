import Mathlib

/-!
# Computations that raise and keep their state

A computation over a state that may raise: the state it has reached when it raises is the state it
leaves. `exec` runs one, and the equations of `exec` follow the constructors.

A **specification** `Spec P x Q R` says of every start in `P` that a return of `x` is in `Q` and a
raise of `x` leaves a state in `R`. Its rules follow the shape of the program. `Spec.bind_fact` is
the one for a chain of steps each of which can raise: what a step's return establishes about the
world is handed to the rest of the chain, so that a raise is met with everything that went well
before it.
-/

/-- A computation over `σ` that may raise an `ε`. -/
abbrev Raising (σ ε : Type) := ExceptT ε (StateM σ)

namespace Raising

variable {σ ε α β : Type}

/-- The outcome of a computation and the state it leaves. -/
def exec (x : Raising σ ε α) (s : σ) : Except ε α × σ :=
  (ExceptT.run x).run s

/-- A computation from its outcome and the state it leaves. -/
def ofRun (f : σ → Except ε α × σ) : Raising σ ε α :=
  ExceptT.mk fun s ↦ f s

/-- `if p: raise e`. -/
def throwIf (p : Prop) [Decidable p] (e : ε) : Raising σ ε Unit :=
  if p then throw e else pure ()

/-- `if` a test of the state, without an `else`. -/
def whenState (p : σ → Bool) (x : Raising σ ε Unit) : Raising σ ε Unit := do
  if p (← get) then x else pure ()

/-! ### Running -/

@[simp]
theorem exec_ofRun (f : σ → Except ε α × σ) (s : σ) : (ofRun f).exec s = f s :=
  rfl

/-- Returning changes nothing. -/
@[simp]
theorem exec_pure (a : α) (s : σ) : exec (pure a : Raising σ ε α) s = (.ok a, s) :=
  rfl

/-- Raising changes nothing. -/
@[simp]
theorem exec_throw (e : ε) (s : σ) : exec (throw e : Raising σ ε α) s = (.error e, s) :=
  rfl

/-- Reading the state changes nothing. -/
@[simp]
theorem exec_get (s : σ) : exec (get : Raising σ ε σ) s = (.ok s, s) :=
  rfl

/-- Writing the state raises nothing. -/
@[simp]
theorem exec_modify (f : σ → σ) (s : σ) :
    exec (modify f : Raising σ ε Unit) s = (.ok (), f s) :=
  rfl

/-- Behind a step that returns comes the next one. -/
theorem exec_bind_of_ok {x : Raising σ ε α} {f : α → Raising σ ε β} {s s' : σ} {a : α}
    (h : x.exec s = (.ok a, s')) : (x >>= f).exec s = (f a).exec s' := by
  have hrun : StateT.run (ExceptT.run x) s = pure (.ok a, s') := h
  simp only [exec, ExceptT.run_bind, StateT.run_bind, hrun, pure_bind]

/-- Behind a step that raises comes nothing. -/
theorem exec_bind_of_error {x : Raising σ ε α} {f : α → Raising σ ε β} {s s' : σ} {e : ε}
    (h : x.exec s = (.error e, s')) : (x >>= f).exec s = (.error e, s') := by
  have hrun : StateT.run (ExceptT.run x) s = pure (.error e, s') := h
  simp only [exec, ExceptT.run_bind, StateT.run_bind, hrun, pure_bind]
  rfl

/-- A handler is left out when nothing is raised. -/
theorem exec_tryCatch_of_ok {x : Raising σ ε α} {f : ε → Raising σ ε α} {s s' : σ} {a : α}
    (h : x.exec s = (.ok a, s')) : (tryCatch x f).exec s = (.ok a, s') := by
  have hrun : StateT.run x s = (pure (.ok a, s') : Id (Except ε α × σ)) := h
  simp only [exec, tryCatch, tryCatchThe, MonadExceptOf.tryCatch, ExceptT.tryCatch, ExceptT.run_mk,
    StateT.run_bind, hrun, pure_bind]
  rfl

/-- A handler goes on from the state where it was raised. -/
theorem exec_tryCatch_of_error {x : Raising σ ε α} {f : ε → Raising σ ε α} {s s' : σ} {e : ε}
    (h : x.exec s = (.error e, s')) : (tryCatch x f).exec s = (f e).exec s' := by
  have hrun : StateT.run x s = (pure (.error e, s') : Id (Except ε α × σ)) := h
  simp only [exec, tryCatch, tryCatchThe, MonadExceptOf.tryCatch, ExceptT.tryCatch, ExceptT.run_mk,
    StateT.run_bind, hrun, pure_bind]
  rfl

/-! ### Specifications -/

/-- From a state in `P`, a return is in `Q` and a raise is in `R`. -/
structure Spec (P : σ → Prop) (x : Raising σ ε α) (Q : α → σ → Prop) (R : ε → σ → Prop) :
    Prop where
  /-- The states it returns in. -/
  returns : ∀ s a s', P s → x.exec s = (.ok a, s') → Q a s'
  /-- The states it raises in. -/
  raises : ∀ s e s', P s → x.exec s = (.error e, s') → R e s'

variable {P P' : σ → Prop} {R R' : ε → σ → Prop} {x : Raising σ ε α} {Q Q' : α → σ → Prop}

/-- The rule of consequence. -/
theorem Spec.weaken (h : Spec P x Q R) (hP : ∀ s, P' s → P s) (hQ : ∀ a s, Q a s → Q' a s)
    (hR : ∀ e s, R e s → R' e s) : Spec P' x Q' R' where
  returns := fun s a s' hs hx ↦ hQ a s' (h.returns s a s' (hP s hs) hx)
  raises := fun s e s' hs hx ↦ hR e s' (h.raises s e s' (hP s hs) hx)

/-- It holds from fewer states. -/
theorem Spec.pre (h : Spec P x Q R) (hP : ∀ s, P' s → P s) : Spec P' x Q R :=
  h.weaken hP (fun _ _ hs ↦ hs) fun _ _ hs ↦ hs

/-- It comes to less. -/
theorem Spec.post (h : Spec P x Q R) (hQ : ∀ a s, Q a s → Q' a s) : Spec P x Q' R :=
  h.weaken (fun _ hs ↦ hs) hQ fun _ _ hs ↦ hs

/-- Where no state is reached anything holds. -/
theorem Spec.unreached (h : ∀ s, ¬P s) : Spec P x Q R where
  returns := fun s _ _ hs _ ↦ absurd hs (h s)
  raises := fun s _ _ hs _ ↦ absurd hs (h s)

/-- The rule of a value. -/
theorem Spec.pure {a : α} (h : ∀ s, P s → Q a s) : Spec P (Pure.pure a : Raising σ ε α) Q R where
  returns := by
    intro s a' s' hs hx
    cases hx
    exact h s hs
  raises := by
    intro s e s' _ hx
    cases hx

/-- The rule of a raise. -/
theorem Spec.throw {e : ε} (h : ∀ s, P s → R e s) : Spec P (throw e : Raising σ ε α) Q R where
  returns := by
    intro s a s' _ hx
    cases hx
  raises := by
    intro s e' s' hs hx
    cases hx
    exact h s hs

/-- The rule of an assignment. -/
theorem Spec.modify {f : σ → σ} {Q : Unit → σ → Prop} (h : ∀ s, P s → Q () (f s)) :
    Spec P (modify f : Raising σ ε Unit) Q R where
  returns := by
    intro s a s' hs hx
    cases hx
    exact h s hs
  raises := by
    intro s e s' _ hx
    cases hx

/-- The rule of a check: behind it, its condition is false. -/
theorem Spec.throwIf {p : Prop} [Decidable p] {e : ε} (h : p → ∀ s, P s → R e s) :
    Spec P (Raising.throwIf p e) (fun _ s ↦ ¬p ∧ P s) R := by
  rw [Raising.throwIf]
  split_ifs with hp
  · exact Spec.throw (h hp)
  · exact Spec.pure fun s hs ↦ ⟨hp, hs⟩

/-- **A chain**: where the first part returns, the second takes over. -/
theorem Spec.bind {f : α → Raising σ ε β} {M : α → σ → Prop} {Q : β → σ → Prop}
    (hx : Spec P x M R) (hf : ∀ a, Spec (M a) (f a) Q R) : Spec P (x >>= f) Q R where
  returns := by
    intro s b s'' hs h
    rcases hrun : x.exec s with ⟨r, s'⟩
    cases r with
    | ok a =>
      rw [exec_bind_of_ok hrun] at h
      exact (hf a).returns s' b s'' (hx.returns s a s' hs hrun) h
    | error e =>
      rw [exec_bind_of_error hrun] at h
      cases h
  raises := by
    intro s e s'' hs h
    rcases hrun : x.exec s with ⟨r, s'⟩
    cases r with
    | ok a =>
      rw [exec_bind_of_ok hrun] at h
      exact (hf a).raises s' e s'' (hx.returns s a s' hs hrun) h
    | error e' =>
      rw [exec_bind_of_error hrun] at h
      cases h
      exact hx.raises s _ _ hs hrun

/-- **A chain of steps that can each raise**: what a return establishes of the world is at hand in
the rest of the chain. -/
theorem Spec.bind_fact {f : α → Raising σ ε β} {F : α → Prop} {M : σ → Prop} {Q : β → σ → Prop}
    (hx : Spec P x (fun a s ↦ F a ∧ M s) R) (hf : ∀ a, F a → Spec M (f a) Q R) :
    Spec P (x >>= f) Q R :=
  hx.bind fun a ↦
    ⟨fun s b s' hs h ↦ (hf a hs.1).returns s b s' hs.2 h,
      fun s e s' hs h ↦ (hf a hs.1).raises s e s' hs.2 h⟩

/-- A program that looks at the state. -/
theorem Spec.get_bind {f : σ → Raising σ ε β} {Q : β → σ → Prop}
    (h : ∀ s, P s → Spec (· = s) (f s) Q R) : Spec P (get >>= f) Q R where
  returns := by
    intro s b s' hs hx
    rw [exec_bind_of_ok (exec_get s)] at hx
    exact (h s hs).returns s b s' rfl hx
  raises := by
    intro s e s' hs hx
    rw [exec_bind_of_ok (exec_get s)] at hx
    exact (h s hs).raises s e s' rfl hx

/-- The rule of a conditional on the state. -/
theorem Spec.whenState {p : σ → Bool} {x : Raising σ ε Unit} {Q : Unit → σ → Prop}
    (hyes : Spec (fun s ↦ P s ∧ p s = true) x Q R) (hno : ∀ s, P s → p s = false → Q () s) :
    Spec P (Raising.whenState p x) Q R := by
  refine Spec.get_bind fun s hs ↦ ?_
  by_cases hp : p s = true
  · rw [if_pos hp]
    exact hyes.pre (by rintro _ rfl; exact ⟨hs, hp⟩)
  · rw [if_neg hp]
    exact Spec.pure (by rintro _ rfl; exact hno _ hs (Bool.eq_false_of_not_eq_true hp))

/-- A handler starts where its program raised. -/
theorem Spec.tryCatch {S : ε → σ → Prop} {f : ε → Raising σ ε α} (hx : Spec P x Q S)
    (hf : ∀ e, Spec (S e) (f e) Q R) : Spec P (tryCatch x f) Q R where
  returns := by
    intro s a s'' hs h
    rcases hrun : x.exec s with ⟨r, s'⟩
    cases r with
    | ok b =>
      rw [exec_tryCatch_of_ok hrun] at h
      cases h
      exact hx.returns s _ _ hs hrun
    | error e =>
      rw [exec_tryCatch_of_error hrun] at h
      exact (hf e).returns s' a s'' (hx.raises s e s' hs hrun) h
  raises := by
    intro s e s'' hs h
    rcases hrun : x.exec s with ⟨r, s'⟩
    cases r with
    | ok b =>
      rw [exec_tryCatch_of_ok hrun] at h
      cases h
    | error e' =>
      rw [exec_tryCatch_of_error hrun] at h
      exact (hf e').raises s' e s'' (hx.raises s e' s' hs hrun) h

/-- A run ends in the return or in the raise that the specification allows. -/
theorem Spec.cases (h : Spec P x Q R) {s : σ} (hs : P s) :
    (∃ a, (x.exec s).1 = .ok a ∧ Q a (x.exec s).2) ∨
      ∃ e, (x.exec s).1 = .error e ∧ R e (x.exec s).2 := by
  rcases hrun : x.exec s with ⟨r, s'⟩
  cases r with
  | ok a => exact Or.inl ⟨a, rfl, h.returns s a s' hs hrun⟩
  | error e => exact Or.inr ⟨e, rfl, h.raises s e s' hs hrun⟩

end Raising
