import Mathlib

/-!
# Runs of an input-driven machine

A machine is a total transition `step : σ → ι → σ`; its runs are the folds of `step` over input
lists. Nondeterminism lives in the input list: an input names the party that moves and what the
environment does to it, so "for every interleaving" is "for every list".

`Guarded step ok s xs` says that every input of the run meets `ok` in the state it is applied to.
The rules used throughout are

* `Guarded.invariant`: what a guarded step preserves, a guarded run preserves;
* `Guarded.invariant_prefix`: and it holds in every state the run passes through;
* `guarded_iff_forall_take`: a guard that is exactly what one step needs is exactly what a run
needs;
* `run_related`: two machines driven by the same inputs stay related when their steps do;
* `exists_moves_of_steps`: a machine whose steps are moves of another follows a run of the other.

The unguarded rules are the case `ok = fun _ _ ↦ True`, stated as `run_invariant`.
-/

namespace Runs

variable {σ τ ι : Type*}

/-- The state a machine reaches from `s` on the inputs `xs`. -/
def run (step : σ → ι → σ) (s : σ) (xs : List ι) : σ :=
  xs.foldl step s

section Run

variable (step : σ → ι → σ)

/-- No moves, no change. -/
@[simp]
theorem run_nil (s : σ) : run step s [] = s := rfl

/-- The first move, and then the rest. -/
@[simp]
theorem run_cons (s : σ) (x : ι) (xs : List ι) :
    run step s (x :: xs) = run step (step s x) xs := rfl

/-- A run in two parts. -/
theorem run_append (s : σ) (xs ys : List ι) :
    run step s (xs ++ ys) = run step (run step s xs) ys := by
  rw [run, List.foldl_append]
  rfl

/-- A run and one move more. -/
theorem run_concat (s : σ) (xs : List ι) (x : ι) :
    run step s (xs ++ [x]) = step (run step s xs) x := by
  rw [run_append, run_cons, run_nil]

/-- What every step preserves, every run preserves. -/
theorem run_invariant {P : σ → Prop} (hstep : ∀ s x, P s → P (step s x)) {s : σ}
    (hs : P s) (xs : List ι) : P (run step s xs) := by
  induction xs generalizing s with
  | nil => exact hs
  | cons x xs ih => exact ih (hstep s x hs)

end Run

/-! ### What a run shows -/

/-- The states a machine passes through behind `s`. -/
def trail (step : σ → ι → σ) : σ → List ι → List σ
  | _, [] => []
  | s, x :: xs => step s x :: trail step (step s x) xs

/-- What every step of a run puts out. -/
def outputs {ω : Type*} (step : σ → ι → σ) (out : σ → ι → ω) : σ → List ι → List ω
  | _, [] => []
  | s, x :: xs => out s x :: outputs step out (step s x) xs

/-! ### Guarded runs -/

/-- Every input of `xs` meets `ok` in the state it is applied to. -/
def Guarded (step : σ → ι → σ) (ok : σ → ι → Prop) : σ → List ι → Prop
  | _, [] => True
  | s, x :: xs => ok s x ∧ Guarded step ok (step s x) xs

section Guarded

variable {step : σ → ι → σ} {ok : σ → ι → Prop}

/-- No moves meet any guard. -/
@[simp]
theorem guarded_nil (s : σ) : Guarded step ok s [] := trivial

/-- The first move meets the guard, and the rest do behind it. -/
@[simp]
theorem guarded_cons {s : σ} {x : ι} {xs : List ι} :
    Guarded step ok s (x :: xs) ↔ ok s x ∧ Guarded step ok (step s x) xs :=
  Iff.rfl

instance decidableGuarded [∀ s x, Decidable (ok s x)] :
    ∀ (s : σ) (xs : List ι), Decidable (Guarded step ok s xs)
  | _, [] => .isTrue trivial
  | s, x :: xs =>
    have := decidableGuarded (step s x) xs
    inferInstanceAs (Decidable (ok s x ∧ Guarded step ok (step s x) xs))

/-- Both parts of a run meet the guard. -/
theorem guarded_append {s : σ} {xs ys : List ι} :
    Guarded step ok s (xs ++ ys) ↔
      Guarded step ok s xs ∧ Guarded step ok (run step s xs) ys := by
  induction xs generalizing s with
  | nil => simp
  | cons x xs ih => rw [List.cons_append, guarded_cons, guarded_cons, ih, run_cons, and_assoc]

/-- The moves a guarded run begins with are guarded. -/
theorem Guarded.take {s : σ} {xs : List ι} (h : Guarded step ok s xs) (n : ℕ) :
    Guarded step ok s (xs.take n) := by
  rw [← List.take_append_drop n xs, guarded_append] at h
  exact h.1

/-- A guard that looks at the inputs alone. -/
theorem guarded_of_forall {good : ι → Prop} {s : σ} {xs : List ι} (h : ∀ x ∈ xs, good x) :
    Guarded step (fun _ x ↦ good x) s xs := by
  induction xs generalizing s with
  | nil => trivial
  | cons x xs ih =>
    rw [List.forall_mem_cons] at h
    exact ⟨h.1, ih h.2⟩

/-- What every guarded step preserves, every guarded run preserves. -/
theorem Guarded.invariant {P : σ → Prop}
    (hstep : ∀ s x, P s → ok s x → P (step s x)) {s : σ} (hs : P s) {xs : List ι}
    (h : Guarded step ok s xs) : P (run step s xs) := by
  induction xs generalizing s with
  | nil => exact hs
  | cons x xs ih => exact ih (hstep s x hs h.1) h.2

/-- The invariant holds in every state a guarded run passes through. -/
theorem Guarded.invariant_prefix {P : σ → Prop}
    (hstep : ∀ s x, P s → ok s x → P (step s x)) {s : σ} (hs : P s) {xs : List ι}
    (h : Guarded step ok s xs) (n : ℕ) : P (run step s (xs.take n)) :=
  (h.take n).invariant hstep hs

/-- When a step keeps `P` exactly if its input meets `ok`, the guarded runs are exactly the runs
that keep `P` throughout. `J n` is what every step keeps, whatever its input, as long as `n` more
steps are allowed. -/
theorem guarded_iff_forall_take {J : ℕ → σ → Prop} {P : σ → Prop}
    (hJ : ∀ n s x, J (n + 1) s → J n (step s x))
    (hP : ∀ n s x, J (n + 1) s → P s → (ok s x ↔ P (step s x))) {s : σ} {xs : List ι}
    (hs : J xs.length s) (hp : P s) :
    Guarded step ok s xs ↔ ∀ n, P (run step s (xs.take n)) := by
  induction xs generalizing s with
  | nil => simpa using hp
  | cons x xs ih =>
    rw [guarded_cons]
    constructor
    · rintro ⟨hok, hrest⟩ n
      have hnext : P (step s x) := (hP _ s x hs hp).1 hok
      cases n with
      | zero => exact hp
      | succ n => exact (ih (hJ _ s x hs) hnext).1 hrest n
    · intro hall
      have hnext : P (step s x) := by simpa using hall 1
      exact ⟨(hP _ s x hs hp).2 hnext,
        (ih (hJ _ s x hs) hnext).2 fun n ↦ by simpa using hall (n + 1)⟩

/-- Two guards that agree on inputs of `good`, in the states that such inputs lead to, hold of the
same runs. -/
theorem guarded_congr {ok' : σ → ι → Prop} {good : ι → Prop} {J : σ → Prop}
    (hJ : ∀ s x, good x → J s → J (step s x))
    (hiff : ∀ s x, good x → J s → (ok s x ↔ ok' s x)) {s : σ} {xs : List ι}
    (hxs : ∀ x ∈ xs, good x) (hs : J s) :
    Guarded step ok s xs ↔ Guarded step ok' s xs := by
  induction xs generalizing s with
  | nil => exact Iff.rfl
  | cons x xs ih =>
    have hgood := hxs x List.mem_cons_self
    rw [guarded_cons, guarded_cons, hiff s x hgood hs,
      ih (fun y hy ↦ hxs y (List.mem_cons_of_mem _ hy)) (hJ s x hgood hs)]

end Guarded

/-! ### Two machines on one input list -/

/-- A relation that the two steps preserve relates the two runs. -/
theorem run_related {f : σ → ι → σ} {g : τ → ι → τ} {R : σ → τ → Prop}
    (hstep : ∀ s t x, R s t → R (f s x) (g t x)) {s : σ} {t : τ} (h : R s t) (xs : List ι) :
    R (run f s xs) (run g t xs) := by
  induction xs generalizing s t with
  | nil => exact h
  | cons x xs ih => exact ih (hstep s t x h)

/-- **Refinement.** Where every step is some moves of a more abstract machine, in every state that
the invariant holds in, a run is a run of that machine, all along: behind every first part of the
inputs the abstract machine has made the moves for that part, which later ones only extend. -/
theorem exists_moves_of_steps {κ : Type*} {f : σ → ι → σ} {g : τ → κ → τ} {abs : σ → τ}
    {P : σ → Prop} (hinv : ∀ s x, P s → P (f s x))
    (hstep : ∀ s x, P s → ∃ ys, abs (f s x) = run g (abs s) ys) {s : σ} (hs : P s)
    (xs : List ι) :
    ∃ moves : List (List κ), moves.length = xs.length ∧
      ∀ k, abs (run f s (xs.take k)) = run g (abs s) (moves.take k).flatten := by
  induction xs generalizing s with
  | nil => exact ⟨[], rfl, fun k ↦ by rw [List.take_nil, List.take_nil]; rfl⟩
  | cons x xs ih =>
    obtain ⟨first, hfirst⟩ := hstep s x hs
    obtain ⟨rest, hlength, hrest⟩ := ih (hinv s x hs)
    refine ⟨first :: rest, by rw [List.length_cons, hlength, List.length_cons], ?_⟩
    rintro (_ | k)
    · rfl
    · rw [List.take_succ_cons, List.take_succ_cons, run_cons, hrest k, hfirst, List.flatten_cons,
        run_append]

/-- Two machines side by side, on one input list. -/
def both (f : σ → ι → σ) (g : τ → ι → τ) (p : σ × τ) (x : ι) : σ × τ :=
  (f p.1 x, g p.2 x)

end Runs
