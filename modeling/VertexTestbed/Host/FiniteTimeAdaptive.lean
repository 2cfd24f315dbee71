import VertexTestbed.Lib.Runs
import VertexTestbed.Numeric

/-!
# The scalar controller

`controllers/disturbance.py` and `controllers/finite_time_adaptive.py`. A disturbance draws from a
stream of uniform numbers, either the generator a seed starts or a callable it is handed; both are
functions of the number of draws made so far, which is the only state they have. The generators
behind the seeds belong to a library and are a parameter, `rng`.

The attributes that `_load` copies out of `params` always equal the fields copied, and are read off
`params` here. `active`, which is constantly zero, and `sigma`, `grad` and `gi`, which only `step`
reads, are not attributes here.

`set_params` rebuilds the disturbance. `set_params_invisible_iff` says what that costs a seeded one.
-/

namespace VertexTestbed.Host

open Runs

variable {K : Type*} [Field K]

/-! ### The disturbance -/

/-- `DisturbanceParams`. A manifest validates that the cycle is not empty. -/
structure DisturbanceParameters (K : Type*) where
  enabled : Bool
  noise_amplitude : K
  noise_offset : K
  beta : K
  sine_amplitude : K
  sine_frequency_hz : K
  sine_phase_s : K
  period_samples : ℤ
  period_pos : 0 < period_samples

/-- What a disturbance draws from: exactly one of `seed` and `uniform`. -/
inductive UniformSource (K : Type*) where
  | seed (seed : ℤ)
  | uniform (draws : ℕ → K)

/-- The stream of a source: `default_rng(seed).random`, or the callable's own. -/
def UniformSource.stream (rng : ℤ → ℕ → K) : UniformSource K → ℕ → K
  | .seed s => rng s
  | .uniform draws => draws

/-- `Disturbance`, with the number of draws made from its source. -/
structure Disturbance (K : Type*) where
  params : DisturbanceParameters K
  source : UniformSource K
  drawn : ℕ

/-- `Disturbance(params, …)`. -/
def Disturbance.init (params : DisturbanceParameters K) (source : UniformSource K) :
    Disturbance K :=
  ⟨params, source, 0⟩

/-- `Disturbance.__call__`: the value at `t_s`, and the disturbance behind it. -/
def Disturbance.call (lib : Libm K) (rng : ℤ → ℕ → K) (d : Disturbance K) (t_s : K) :
    K × Disturbance K :=
  if !d.params.enabled then (0, d)
  else
    let noise := d.params.noise_amplitude *
      (d.source.stream rng d.drawn - d.params.noise_offset)
    let sinusoid := d.params.sine_amplitude *
      lib.sin (2 * lib.pi * d.params.sine_frequency_hz * (t_s - d.params.sine_phase_s))
    (noise + d.params.beta + sinusoid, { d with drawn := d.drawn + 1 })

/-- The disturbance `set_params` builds: a seeded one starts its generator again, the other keeps
its callable, which stands where it stood. -/
def Disturbance.rebuilt (d : Disturbance K) (params : DisturbanceParameters K) : Disturbance K :=
  match d.source with
  | .seed s => .init params (.seed s)
  | .uniform draws => ⟨params, .uniform draws, d.drawn⟩

section Call

variable (lib : Libm K) (rng : ℤ → ℕ → K) (d : Disturbance K) (t_s : K)

@[simp]
theorem Disturbance.call_params : (d.call lib rng t_s).2.params = d.params := by
  rw [Disturbance.call]
  split_ifs <;> rfl

@[simp]
theorem Disturbance.call_source : (d.call lib rng t_s).2.source = d.source := by
  rw [Disturbance.call]
  split_ifs <;> rfl

/-- An active disturbance draws once a call, an inactive one never. -/
@[simp]
theorem Disturbance.call_drawn :
    (d.call lib rng t_s).2.drawn = d.drawn + if d.params.enabled then 1 else 0 := by
  rw [Disturbance.call]
  rcases d.params.enabled with _ | _ <;> rfl

end Call

/-- **Two disturbances that no call tells apart**: the same parameters, and streams that go on alike
from where each stands, unless nothing of the stream is heard. -/
structure Disturbance.Alike (rng : ℤ → ℕ → K) (d d' : Disturbance K) : Prop where
  params : d.params = d'.params
  stream : d.params.enabled = false ∨ d.params.noise_amplitude = 0 ∨
    ∀ n, d.source.stream rng (d.drawn + n) = d'.source.stream rng (d'.drawn + n)

theorem Disturbance.Alike.call {rng : ℤ → ℕ → K} {d d' : Disturbance K} (h : d.Alike rng d')
    (lib : Libm K) (t_s : K) :
    (d.call lib rng t_s).1 = (d'.call lib rng t_s).1 ∧
      (d.call lib rng t_s).2.Alike rng (d'.call lib rng t_s).2 := by
  obtain ⟨hparams, hstream⟩ := h
  rw [Disturbance.call, Disturbance.call, ← hparams]
  by_cases hen : d.params.enabled = true
  · rw [if_neg (by simp [hen]), if_neg (by simp [hen])]
    obtain hoff | hzero | hsame := hstream
    · rw [hen] at hoff
      cases hoff
    · refine ⟨?_, rfl, .inr (.inl hzero)⟩
      simp only [hzero, zero_mul]
    · refine ⟨?_, rfl, .inr (.inr fun n ↦ ?_)⟩
      · have hnow := hsame 0
        rw [Nat.add_zero, Nat.add_zero] at hnow
        simp only [hnow]
      · show d.source.stream rng (d.drawn + 1 + n) = d'.source.stream rng (d'.drawn + 1 + n)
        rw [Nat.add_assoc, Nat.add_assoc]
        exact hsame (1 + n)
  · rw [if_pos (by simp [hen]), if_pos (by simp [hen])]
    exact ⟨rfl, hparams, hstream⟩

/-! ### The controller -/

variable [LinearOrder K]

/-- `ControllerParams`, the part the scalar law reads. -/
structure ScalarParams (K : Type*) [Field K] [LinearOrder K] where
  dt_s : K
  state : K
  vstate : K
  vartheta : K
  eta : K
  gain_ij : K
  alpha : K
  delta : K
  disturbance : DisturbanceParameters K
  dt_pos : 0 < dt_s

/-- `sign`, with `sign(0) = 0`. -/
def signum (x : K) : K :=
  if 0 < x then 1 else if x < 0 then -1 else x

/-- `FiniteTimeAdaptiveController`. -/
structure FiniteTimeAdaptiveController (K : Type*) [Field K] [LinearOrder K] where
  params : ScalarParams K
  disturbance : Disturbance K
  state : K
  vstate : K
  vartheta : K
  step_count : ℤ

/-- `ControllerOutput` of the scalar law. -/
structure ScalarOutput (K : Type*) where
  state : K
  vstate : K
  vartheta : K

namespace FiniteTimeAdaptiveController

/-- `reset`. -/
def reset (c : FiniteTimeAdaptiveController K) : FiniteTimeAdaptiveController K :=
  { c with
    state := c.params.state
    vstate := c.params.vstate
    vartheta := c.params.vartheta
    step_count := 0 }

/-- `__init__`. -/
def init (p : ScalarParams K) (source : UniformSource K) : FiniteTimeAdaptiveController K :=
  reset ⟨p, .init p.disturbance source, p.state, p.vstate, p.vartheta, 0⟩

/-- `set_params`: the integrators and the step count stay. -/
def set_params (c : FiniteTimeAdaptiveController K) (p : ScalarParams K) :
    FiniteTimeAdaptiveController K :=
  { c with
    params := p
    disturbance := c.disturbance.rebuilt p.disturbance }

/-- `_sanitize` of one integrator. -/
def sanitize (v : K) : K := if isfinite v then v else 0

/-- `_consensus_term`: the coupling over the neighbours whose flag is set, in the order of the
list. A value without a flag is skipped. -/
def consensus_term (lib : Libm K) (c : FiniteTimeAdaptiveController K) (vs : List ℤ)
    (en : List Bool) : K :=
  (List.range vs.length).foldl
    (fun total j ↦
      if en.getD j false then
        let diff := c.vstate - (vs.getD j 0 : K) * invScaleFactor
        if isfinite diff then total + -signum diff * lib.pow |diff| c.params.alpha else total
      else total) 0

variable (lib : Libm K) (rng : ℤ → ℕ → K)

/-- The disturbance of this tick, and the disturbance behind it. -/
def nu (c : FiniteTimeAdaptiveController K) : K × Disturbance K :=
  c.disturbance.call lib rng (c.step_count * c.params.dt_s)

/-- `step`, up to the output: Euler, with the period explicit. -/
def tick (c : FiniteTimeAdaptiveController K) (vs : List ℤ) (en : List Bool) :
    FiniteTimeAdaptiveController K :=
  let x := sanitize c.state
  let z := sanitize c.vstate
  let vartheta := sanitize c.vartheta
  let nu := c.nu lib rng
  let gi := c.params.gain_ij * c.consensus_term lib vs en
  let sigma := x - z
  let grad := signum sigma
  let u := gi - vartheta * grad
  let dvtheta : K := if c.params.delta < |sigma| then 1 else 0
  { c with
    disturbance := nu.2
    state := sanitize (x + c.params.dt_s * (u + nu.1))
    vstate := sanitize (z + c.params.dt_s * gi)
    vartheta := sanitize (vartheta + c.params.dt_s * c.params.eta * dvtheta)
    step_count := (c.step_count + 1) % c.params.disturbance.period_samples }

/-- `_emit`. -/
def emit (c : FiniteTimeAdaptiveController K) : ScalarOutput K :=
  ⟨sanitize c.state, sanitize c.vstate, sanitize c.vartheta⟩

/-- `step`. -/
def step (c : FiniteTimeAdaptiveController K) (vs : List ℤ) (en : List Bool) :
    FiniteTimeAdaptiveController K × ScalarOutput K :=
  let c' := c.tick lib rng vs en
  (c', c'.emit)

/-! ### What reaches a controller -/

/-- What a running agent does to its controller. -/
inductive Use (K : Type*) [Field K] [LinearOrder K] where
  | step (vs : List ℤ) (en : List Bool)
  | set_params (p : ScalarParams K)
  | reset

/-- One use. -/
def apply (c : FiniteTimeAdaptiveController K) : Use K → FiniteTimeAdaptiveController K
  | .step vs en => (c.step lib rng vs en).1
  | .set_params p => c.set_params p
  | .reset => c.reset

/-- The disturbance draws from a seed and follows the parameters in force. -/
structure Seeded (s : ℤ) (c : FiniteTimeAdaptiveController K) : Prop where
  source : c.disturbance.source = .seed s
  params : c.disturbance.params = c.params.disturbance

theorem Seeded.tick {s : ℤ} {c : FiniteTimeAdaptiveController K} (h : c.Seeded s) (vs : List ℤ)
    (en : List Bool) : (c.tick lib rng vs en).Seeded s :=
  ⟨(Disturbance.call_source lib rng _ _).trans h.source,
    (Disturbance.call_params lib rng _ _).trans h.params⟩

theorem Seeded.set_params {s : ℤ} {c : FiniteTimeAdaptiveController K} (h : c.Seeded s)
    (p : ScalarParams K) : (c.set_params p).Seeded s := by
  constructor
  · show (c.disturbance.rebuilt p.disturbance).source = .seed s
    rw [Disturbance.rebuilt, h.source]
    rfl
  · show (c.disturbance.rebuilt p.disturbance).params = p.disturbance
    rw [Disturbance.rebuilt, h.source]
    rfl

/-- Every use of a seeded controller leaves it seeded. -/
theorem seeded_run (p : ScalarParams K) (s : ℤ) (uses : List (Use K)) :
    (run (apply lib rng) (init p (.seed s)) uses).Seeded s := by
  refine run_invariant _ (fun c x h ↦ ?_) ⟨rfl, rfl⟩ uses
  cases x with
  | step vs en => exact h.tick lib rng vs en
  | set_params p => exact h.set_params p
  | reset => exact ⟨h.source, h.params⟩

/-! ### Re-sending the parameters in force -/

/-- A control period with its inputs in one value. -/
def advance (c : FiniteTimeAdaptiveController K) (x : List ℤ × List Bool) :
    FiniteTimeAdaptiveController K :=
  (c.step lib rng x.1 x.2).1

/-- **Two controllers no continuation tells apart**: whatever the neighbours say and for however
many periods, they put out the same and their next disturbance is the same. -/
def SameFuture (c c' : FiniteTimeAdaptiveController K) : Prop :=
  ∀ xs : List (List ℤ × List Bool),
    (run (advance lib rng) c xs).emit = (run (advance lib rng) c' xs).emit ∧
      ((run (advance lib rng) c xs).nu lib rng).1 = ((run (advance lib rng) c' xs).nu lib rng).1

/-- Controllers in the same state, with disturbances alike. -/
structure Alike (c c' : FiniteTimeAdaptiveController K) : Prop where
  params : c.params = c'.params
  state : c.state = c'.state
  vstate : c.vstate = c'.vstate
  vartheta : c.vartheta = c'.vartheta
  step_count : c.step_count = c'.step_count
  disturbance : c.disturbance.Alike rng c'.disturbance

variable {lib rng}

theorem Alike.nu (lib : Libm K) {c c' : FiniteTimeAdaptiveController K} (h : Alike rng c c') :
    (c.nu lib rng).1 = (c'.nu lib rng).1 ∧ (c.nu lib rng).2.Alike rng (c'.nu lib rng).2 := by
  have hcall := h.disturbance.call lib (c.step_count * c.params.dt_s)
  rw [FiniteTimeAdaptiveController.nu, FiniteTimeAdaptiveController.nu, ← h.step_count, ← h.params]
  exact hcall

theorem Alike.advance {c c' : FiniteTimeAdaptiveController K} (h : Alike rng c c')
    (x : List ℤ × List Bool) : Alike rng (c.advance lib rng x) (c'.advance lib rng x) := by
  obtain ⟨hvalue, hrest⟩ := h.nu lib
  have hterm : c.consensus_term lib x.1 x.2 = c'.consensus_term lib x.1 x.2 := by
    rw [consensus_term, consensus_term, h.vstate, h.params]
  constructor
  · exact h.params
  · simp only [FiniteTimeAdaptiveController.advance, step, tick, h.state, h.vstate, h.vartheta,
      h.params, hterm, hvalue]
  · simp only [FiniteTimeAdaptiveController.advance, step, tick, h.vstate, h.params, hterm]
  · simp only [FiniteTimeAdaptiveController.advance, step, tick, h.state, h.vstate, h.vartheta,
      h.params]
  · simp only [FiniteTimeAdaptiveController.advance, step, tick, h.step_count, h.params]
  · exact hrest

theorem Alike.sameFuture {c c' : FiniteTimeAdaptiveController K} (h : Alike rng c c') :
    SameFuture lib rng c c' := by
  intro xs
  have hend : Alike rng (run (FiniteTimeAdaptiveController.advance lib rng) c xs)
      (run (FiniteTimeAdaptiveController.advance lib rng) c' xs) :=
    run_related (fun _ _ x hR ↦ hR.advance x) h xs
  refine ⟨?_, (hend.nu lib).1⟩
  rw [emit, emit, hend.state, hend.vstate, hend.vartheta]

/-- Where a run of periods stands, the integrators apart. -/
structure StandsAt (c : FiniteTimeAdaptiveController K) (p : ScalarParams K) (count : ℤ)
    (d : Disturbance K) : Prop where
  params : c.params = p
  step_count : c.step_count = count
  disturbance : c.disturbance = d

/-- With the disturbance on, `n` periods draw `n` numbers, and where they lead does not depend on
the integrators. -/
theorem standsAt_run (lib : Libm K) (rng : ℤ → ℕ → K) {c : FiniteTimeAdaptiveController K}
    (hon : c.disturbance.params.enabled = true) (xs : List (List ℤ × List Bool)) :
    (run (advance lib rng) c xs).StandsAt c.params
      (run (fun k _ ↦ (k + 1) % c.params.disturbance.period_samples) c.step_count xs)
      { c.disturbance with drawn := c.disturbance.drawn + xs.length } := by
  induction xs using List.reverseRecOn with
  | nil => exact ⟨rfl, rfl, rfl⟩
  | append_singleton xs x ih =>
    obtain ⟨hparams, hcount, hdist⟩ := ih
    rw [run_concat, run_concat]
    constructor
    · exact hparams
    · show ((run (advance lib rng) c xs).step_count + 1) %
          (run (advance lib rng) c xs).params.disturbance.period_samples = _
      rw [hcount, hparams]
    · show ((run (advance lib rng) c xs).disturbance.call lib rng _).2 = _
      rw [hdist, Disturbance.call, if_neg (by simp [hon]), List.length_append]
      rfl

/-- The disturbance of the period behind `xs`, spelled out. -/
theorem nu_run_of_on {c : FiniteTimeAdaptiveController K}
    (hon : c.disturbance.params.enabled = true) (xs : List (List ℤ × List Bool)) :
    ((run (advance lib rng) c xs).nu lib rng).1 =
      c.disturbance.params.noise_amplitude *
          (c.disturbance.source.stream rng (c.disturbance.drawn + xs.length) -
            c.disturbance.params.noise_offset) +
        c.disturbance.params.beta +
        c.disturbance.params.sine_amplitude *
          lib.sin (2 * lib.pi * c.disturbance.params.sine_frequency_hz *
            (run (fun (k : ℤ) _ ↦ (k + 1) % c.params.disturbance.period_samples) c.step_count xs *
              c.params.dt_s - c.disturbance.params.sine_phase_s)) := by
  obtain ⟨hparams, hcount, hdist⟩ := standsAt_run lib rng hon xs
  rw [nu, hparams, hcount, hdist, Disturbance.call, if_neg (by simp [hon])]

/-- **Two futures are the same exactly when no call tells the disturbances apart.** -/
theorem sameFuture_set_params_iff {s : ℤ} {c : FiniteTimeAdaptiveController K} (h : c.Seeded s) :
    SameFuture lib rng c (c.set_params c.params) ↔
      c.params.disturbance.enabled = false ∨ c.params.disturbance.noise_amplitude = 0 ∨
        ∀ n, rng s n = rng s (c.disturbance.drawn + n) := by
  have hrebuilt : (c.set_params c.params).disturbance = .init c.params.disturbance (.seed s) := by
    show c.disturbance.rebuilt c.params.disturbance = _
    rw [Disturbance.rebuilt, h.source]
  constructor
  · intro hsame
    by_cases hoff : c.params.disturbance.enabled = false
    · exact .inl hoff
    by_cases hzero : c.params.disturbance.noise_amplitude = 0
    · exact .inr (.inl hzero)
    have hon : c.disturbance.params.enabled = true := by
      rw [h.params]
      simpa using hoff
    have hon' : (c.set_params c.params).disturbance.params.enabled = true := by
      rw [hrebuilt, ← hon, h.params]
      rfl
    refine .inr (.inr fun n ↦ ?_)
    -- the disturbance after `n` periods shows the `n`-th draw of either stream
    have hnu := (hsame (List.replicate n ([], []))).2
    rw [nu_run_of_on hon, nu_run_of_on hon', hrebuilt, h.params, h.source,
      List.length_replicate] at hnu
    have hdraws : c.params.disturbance.noise_amplitude *
          (rng s (c.disturbance.drawn + n) - c.params.disturbance.noise_offset) =
        c.params.disturbance.noise_amplitude *
          (rng s (0 + n) - c.params.disturbance.noise_offset) :=
      add_right_cancel (add_right_cancel hnu)
    rw [Nat.zero_add] at hdraws
    exact (sub_left_inj.1 (mul_left_cancel₀ hzero hdraws)).symm
  · intro hcond
    refine Alike.sameFuture ⟨rfl, rfl, rfl, rfl, rfl, ?_⟩
    rw [hrebuilt]
    refine ⟨h.params, ?_⟩
    rw [h.params, h.source]
    refine hcond.imp_right (Or.imp_right fun hstream n ↦ ?_)
    show rng s (c.disturbance.drawn + n) = rng s (0 + n)
    rw [Nat.zero_add]
    exact (hstream n).symm

variable (lib rng)

/-- **Re-sending the parameters in force is invisible exactly when no noise is heard or the
generator's stream, from where it stands, is its stream from the start**: for every way a seeded
controller was used, since `set_params` starts the generator again. -/
theorem set_params_invisible_iff (p : ScalarParams K) (s : ℤ) (uses : List (Use K)) :
    let c := run (apply lib rng) (init p (.seed s)) uses
    SameFuture lib rng c (c.set_params c.params) ↔
      c.params.disturbance.enabled = false ∨ c.params.disturbance.noise_amplitude = 0 ∨
        ∀ n, rng s n = rng s (c.disturbance.drawn + n) :=
  sameFuture_set_params_iff (seeded_run lib rng p s uses)

/-- The first draws of the library's generator, seeded with `0`, in units of `2^-53`. -/
def sampleDraws (_ : ℤ) (n : ℕ) : ℚ :=
  [5737240835340368, 2430022687152954, 369056694262205].getD n 0 / 2 ^ 53

/-- A node with noise of amplitude 0.1. -/
def sampleNoisy : ScalarParams ℚ where
  dt_s := 1 / 5
  state := 22
  vstate := 22
  vartheta := 0
  eta := 1 / 20000
  gain_ij := 1 / 10
  alpha := 1 / 2
  delta := 1 / 100
  disturbance := ⟨true, 1 / 10, 1 / 2, 0, 0, 0, 0, 1000, by decide⟩
  dt_pos := by norm_num

/-- **One period into a run, the same parameters again replay the noise from its start.** -/
theorem set_params_restarts_noise :
    let c := run (apply .atZero sampleDraws) (init sampleNoisy (.seed 0)) [.step [] []]
    ¬SameFuture .atZero sampleDraws c (c.set_params c.params) := by
  intro c hsame
  have hnu := (hsame []).2
  revert hnu
  decide +kernel

end FiniteTimeAdaptiveController

end VertexTestbed.Host
