import VertexTestbed.Conformance.Laws
import VertexTestbed.Host.FiniteTimeAdaptive

/-!
# Board and host run the same scalar law

`discrete_step` under the scalar law and `FiniteTimeAdaptiveController.step` side by side, on the
same neighbour values and the same participating neighbours. The host draws from the stream that the
board's generator produces (`boardDraws`), as the reference comparison of the source does.

`SameLaw` says that the board's parameters, read back in engineering units, are the host's, and
`InStep` that the integrators, the counter and the position in the stream agree; `InStep.tick` is
one control period, `scalar_laws_agree` a run out of a configure.
-/

namespace VertexTestbed.Conformance

open Firmware Host Runs

variable {K : Type*} [Field K] [LinearOrder K]

/-! ### The stream of the board's generator -/

/-- The generator `n` draws later. -/
def pcgAfter (n : ℕ) (g : Pcg) : Pcg :=
  (fun g ↦ (prngU32 g).2)^[n] g

/-- The uniform numbers the generator `g` is about to draw. -/
def boardDraws (g : Pcg) (n : ℕ) : K :=
  (prngUniform (pcgAfter n g)).1

theorem pcgAfter_succ (n : ℕ) (g : Pcg) : pcgAfter (n + 1) g = (prngU32 (pcgAfter n g)).2 := by
  rw [pcgAfter, Function.iterate_succ_apply']
  rfl

/-! ### The correspondence -/

/-- The configuration on the two sides. -/
structure SameLaw (p : AgentParams) (q : ScalarParams K) : Prop where
  law : p.law = .finiteTimeAdaptive
  dt : ms p.dt = q.dt_s
  gain_ij : u p.gain_ij = q.gain_ij
  alpha : u p.alpha = q.alpha
  delta : u p.delta = q.delta
  eta : u p.eta = q.eta
  active : p.disturbance.active = q.disturbance.enabled
  noise_amplitude : u p.disturbance.noiseAmplitude = q.disturbance.noise_amplitude
  noise_offset : u p.disturbance.noiseOffset = q.disturbance.noise_offset
  beta : u p.disturbance.beta = q.disturbance.beta
  sine_amplitude : u p.disturbance.sineAmplitude = q.disturbance.sine_amplitude
  frequency : u p.disturbance.frequency = q.disturbance.sine_frequency_hz
  phase : u p.disturbance.phase = q.disturbance.sine_phase_s
  samples : p.disturbance.samples = q.disturbance.period_samples
  samples_fit : FitsI32 p.disturbance.samples

/-- What one control period is given: a value and a participation flag for each neighbour. -/
structure Heard where
  value : ℕ → ℤ
  participates : ℕ → Bool

/-- The board holding these values, with these neighbours enabled. -/
def withHeard (b : Board K) (x : Heard) : Board K :=
  { b with
    agent :=
      { params := { b.agent.params with neighborsEnabled := fun j ↦ x.participates j.val }
        vars := { b.agent.vars with neighborVstates := fun j ↦ x.value j.val } } }

/-- Which neighbours participate is no part of the law. -/
theorem SameLaw.withHeard {b : Board K} {q : ScalarParams K}
    (h : SameLaw b.agent.params q) (x : Heard) : SameLaw (withHeard b x).agent.params q :=
  { h with }

/-- One control period of the board, with the number of draws it made so far. -/
def boardPeriod [IsStrictOrderedRing K] [FloorRing K] (lib : Libm K) (s : Board K × ℕ)
    (x : Heard) : Board K × ℕ :=
  (discreteStep lib (withHeard s.1 x), s.2 + if s.1.agent.params.disturbance.active then 1 else 0)

/-- One control period of a host agent with `n` neighbours. -/
def hostPeriod (lib : Libm K) (rng : ℤ → ℕ → K) (n : ℕ) (c : FiniteTimeAdaptiveController K)
    (x : Heard) : FiniteTimeAdaptiveController K :=
  (c.step lib rng ((List.range n).map x.value) ((List.range n).map x.participates)).1

/-- **Board and host are in step**: the same law in the same state, `n` neighbours on either side,
and the generator of the board as far along the stream `g` starts as the host is. -/
structure InStep (g : Pcg) (n : ℕ) (s : Board K × ℕ) (c : FiniteTimeAdaptiveController K) :
    Prop where
  law : SameLaw s.1.agent.params c.params
  neighbors : s.1.agent.params.nNeighbors.val = n
  state : s.1.agent.vars.stateF = c.state
  vstate : s.1.agent.vars.vstateF = c.vstate
  vartheta : s.1.agent.vars.varthetaF = c.vartheta
  counter : s.1.agent.vars.counter = c.step_count
  counter_nonneg : 0 ≤ c.step_count
  counter_lt : c.step_count < c.params.disturbance.period_samples
  disturbance : c.disturbance.params = c.params.disturbance
  source : c.disturbance.source = .uniform (boardDraws g)
  drawn : s.2 = c.disturbance.drawn
  prng : s.1.prng = pcgAfter c.disturbance.drawn g

/-! ### One control period -/

theorem sign_eq_signum (x : K) : sign x = signum x := by
  rw [sign, signum]
  split_ifs with hpos hneg
  · rfl
  · rfl
  · exact (le_antisymm (not_lt.1 hpos) (not_lt.1 hneg)).symm

/-- The counter wraps the same way: C's remainder and Python's agree on it. -/
theorem counter_wraps {k samples : ℤ} (hk : 0 ≤ k) (hlt : k < samples) (hfit : FitsI32 samples) :
    (wrapI32 (k + 1)).tmod samples = (k + 1) % samples := by
  have hfits : FitsI32 (k + 1) := ⟨by omega, by have := hfit.2; omega⟩
  rw [wrapI32_of_fits hfits, Int.tmod_eq_emod_of_nonneg (by omega)]

section Period

variable {lib : Libm K} {rng : ℤ → ℕ → K} {g : Pcg} {n : ℕ} {s : Board K × ℕ}
  {c : FiniteTimeAdaptiveController K}

/-- The coupling term on the two sides: a fold over the slots in use is a fold over the list. -/
theorem InStep.coupling (lib : Libm K) (h : InStep g n s c) (x : Heard) :
    v_i lib (withHeard s.1 x).agent =
      c.consensus_term lib ((List.range n).map x.value) ((List.range n).map x.participates) := by
  have hslots : ∀ F : K → ℕ → K, s.1.agent.params.slots.foldl (fun t j ↦ F t j.val) 0 =
      (List.range n).foldl F 0 := by
    intro F
    rw [← h.neighbors, ← slots_map_val, List.foldl_map]
  rw [FiniteTimeAdaptiveController.consensus_term, List.length_map, List.length_range]
  refine (hslots fun t j ↦ if x.participates j then
    t + -1 * sign (s.1.agent.vars.vstateF - (x.value j : K) * invScaleFactor) *
      lib.pow |s.1.agent.vars.vstateF - (x.value j : K) * invScaleFactor|
        ((s.1.agent.params.alpha : K) * invScaleFactor) else t).trans ?_
  refine List.foldl_ext _ _ _ fun t j hj ↦ ?_
  have hj' : j < n := List.mem_range.1 hj
  have hvalue : ((List.range n).map x.value).getD j 0 = x.value j := by
    simp [List.getD_eq_getElem?_getD, hj']
  have hflag : ((List.range n).map x.participates).getD j false = x.participates j := by
    simp [List.getD_eq_getElem?_getD, hj']
  have halpha : (s.1.agent.params.alpha : K) * invScaleFactor = c.params.alpha := h.law.alpha
  rw [hvalue, hflag, h.vstate, halpha, sign_eq_signum]
  simp only [isfinite_eq_true, if_true, neg_one_mul]

/-- The disturbance on the two sides, and the generator behind it. -/
theorem InStep.nu (lib : Libm K) (rng : ℤ → ℕ → K) (h : InStep g n s c) (x : Heard) :
    Firmware.disturbance lib (withHeard s.1 x) =
      ((c.nu lib rng).1, pcgAfter (c.nu lib rng).2.drawn g) := by
  have hactive : (withHeard s.1 x).agent.params.disturbance.active =
      c.disturbance.params.enabled := by
    rw [h.disturbance]
    exact h.law.active
  rw [Firmware.disturbance, FiniteTimeAdaptiveController.nu, Disturbance.call, hactive]
  -- A disturbance that is off draws nothing.
  rcases hen : c.disturbance.params.enabled with _ | _
  · show ((0 : K), s.1.prng) = (0, pcgAfter c.disturbance.drawn g)
    rw [h.prng]
  · have hamp := h.law.noise_amplitude
    have hoff := h.law.noise_offset
    have hbeta := h.law.beta
    have hsine := h.law.sine_amplitude
    have hfreq := h.law.frequency
    have hphase := h.law.phase
    have hdt : (s.1.agent.params.dt : K) * (1 / 1000) = c.params.dt_s := h.law.dt
    have hcounter : ((withHeard s.1 x).agent.vars.counter : K) = (c.step_count : K) :=
      congrArg Int.cast h.counter
    have hprng : (withHeard s.1 x).prng = pcgAfter c.disturbance.drawn g := h.prng
    rw [u] at hamp hoff hbeta hsine hfreq hphase
    rw [h.disturbance, h.source, hprng, hcounter, mul_assoc (c.step_count : K)]
    show (_ * (_ - (s.1.agent.params.disturbance.noiseOffset : K) * invScaleFactor) +
      (s.1.agent.params.disturbance.beta : K) * invScaleFactor + _, _) = _
    rw [hoff, hbeta]
    refine Prod.ext ?_ ?_
    · show (s.1.agent.params.disturbance.noiseAmplitude : K) * invScaleFactor * _ + _ +
        (s.1.agent.params.disturbance.sineAmplitude : K) * invScaleFactor * lib.sin
          (2 * lib.pi * ((s.1.agent.params.disturbance.frequency : K) * invScaleFactor) *
            (_ * ((s.1.agent.params.dt : K) * (1 / 1000)) -
              (s.1.agent.params.disturbance.phase : K) * invScaleFactor)) = _
      rw [hamp, hsine, hfreq, hdt, hphase]
      rfl
    · exact (pcgAfter_succ _ g).symm

variable [IsStrictOrderedRing K] [FloorRing K]

/-- **One control period keeps board and host in step.** -/
theorem InStep.tick (h : InStep g n s c) (x : Heard) :
    InStep g n (boardPeriod lib s x) (hostPeriod lib rng n c x) := by
  have hscalar : discreteStep lib (withHeard s.1 x) = scalarStep lib (withHeard s.1 x) :=
    discreteStep_of_scalar lib _ h.law.law
  have hcoupling := h.coupling lib x
  have hnu := h.nu lib rng x
  have hdt : ((withHeard s.1 x).agent.params.dt : K) * (1 / 1000) = c.params.dt_s := h.law.dt
  have hgain : ((withHeard s.1 x).agent.params.gain_ij : K) * invScaleFactor = c.params.gain_ij :=
    h.law.gain_ij
  have heta : ((withHeard s.1 x).agent.params.eta : K) * invScaleFactor = c.params.eta :=
    h.law.eta
  have hdelta : ((withHeard s.1 x).agent.params.delta : K) * invScaleFactor = c.params.delta :=
    h.law.delta
  -- With the constants and the integrators in the same words both laws are one expression.
  have hx : (withHeard s.1 x).agent.vars.stateF = c.state := h.state
  have hz : (withHeard s.1 x).agent.vars.vstateF = c.vstate := h.vstate
  have hvartheta : (withHeard s.1 x).agent.vars.varthetaF = c.vartheta := h.vartheta
  have hlaw : SameLaw (discreteStep lib (withHeard s.1 x)).agent.params c.params := by
    rw [discreteStep_params]
    exact h.law.withHeard x
  constructor
  · exact hlaw
  · show (discreteStep lib (withHeard s.1 x)).agent.params.nNeighbors.val = n
    rw [discreteStep_params]
    exact h.neighbors
  · show (discreteStep lib (withHeard s.1 x)).agent.vars.stateF = _
    rw [hscalar, scalarStep, hcoupling, hnu, hx, hz, hvartheta, hdt, hgain, sign_eq_signum]
    rfl
  · show (discreteStep lib (withHeard s.1 x)).agent.vars.vstateF = _
    rw [hscalar, scalarStep, hcoupling, hz, hdt, hgain]
    rfl
  · show (discreteStep lib (withHeard s.1 x)).agent.vars.varthetaF = _
    rw [hscalar, scalarStep, hx, hz, hvartheta, hdt, heta, hdelta]
    rfl
  · show (discreteStep lib (withHeard s.1 x)).agent.vars.counter =
      (c.step_count + 1) % c.params.disturbance.period_samples
    have hlt : c.step_count < s.1.agent.params.disturbance.samples := by
      rw [h.law.samples]
      exact h.counter_lt
    -- The board compares and clears its counter where the host takes a remainder.
    have hwrap := counter_wraps h.counter_nonneg hlt h.law.samples_fit
    rw [hscalar, ← h.law.samples, ← hwrap, ← h.counter]
    rfl
  · exact Int.emod_nonneg _ c.params.disturbance.period_pos.ne'
  · exact Int.emod_lt_of_pos _ c.params.disturbance.period_pos
  · exact (Disturbance.call_params lib rng _ _).trans h.disturbance
  · exact (Disturbance.call_source lib rng _ _).trans h.source
  · have hactive : s.1.agent.params.disturbance.active = c.disturbance.params.enabled := by
      rw [h.disturbance]
      exact h.law.active
    show s.2 + (if s.1.agent.params.disturbance.active then 1 else 0) = (c.nu lib rng).2.drawn
    rw [FiniteTimeAdaptiveController.nu, Disturbance.call_drawn, h.drawn, hactive]
  · show (discreteStep lib (withHeard s.1 x)).prng = pcgAfter (c.nu lib rng).2.drawn g
    rw [hscalar, scalarStep, hnu]

theorem InStep.run (lib : Libm K) (rng : ℤ → ℕ → K) (h : InStep g n s c) (xs : List Heard) :
    InStep g n (run (boardPeriod lib) s xs) (run (hostPeriod lib rng n) c xs) :=
  run_related (fun _ _ x hR ↦ hR.tick x) h xs

end Period

/-! ### Out of a configure -/

section Start

variable [IsStrictOrderedRing K] [FloorRing K]

/-- The scalar half of `to_controller_params`, with the defaults of the `d.get` calls; `none` where
`ControllerParams` raises, or where the cycle is empty. -/
def scalarParams (a : AgentAssignment K) : Option (ScalarParams K) :=
  let d := a.disturbance
  if h : 0 < a.dt_s ∧ 0 < d.period_samples.getD 1000 then
    some
      { dt_s := a.dt_s
        state := a.state
        vstate := a.vstate
        vartheta := a.vartheta
        eta := a.eta
        gain_ij := a.gain_ij
        alpha := a.alpha
        delta := a.delta
        disturbance :=
          { enabled := d.enabled.getD false
            noise_amplitude := d.noise_amplitude.getD 0
            noise_offset := d.noise_offset.getD (1 / 2)
            beta := d.beta.getD 0
            sine_amplitude := d.sine_amplitude.getD 0
            sine_frequency_hz := d.sine_frequency_hz.getD 0
            sine_phase_s := d.sine_phase_s.getD 0
            period_samples := d.period_samples.getD 1000
            period_pos := h.2 }
        dt_pos := h.1 }
  else none

/-- Every value of the parameter set is a whole number of micro-units, and the period of
milliseconds. -/
structure ScalarOnWire (q : ScalarParams K) : Prop where
  dt_s : OnGrid 1000 q.dt_s
  state : OnGrid 1000000 q.state
  vstate : OnGrid 1000000 q.vstate
  vartheta : OnGrid 1000000 q.vartheta
  eta : OnGrid 1000000 q.eta
  gain_ij : OnGrid 1000000 q.gain_ij
  alpha : OnGrid 1000000 q.alpha
  delta : OnGrid 1000000 q.delta
  noise_amplitude : OnGrid 1000000 q.disturbance.noise_amplitude
  noise_offset : OnGrid 1000000 q.disturbance.noise_offset
  beta : OnGrid 1000000 q.disturbance.beta
  sine_amplitude : OnGrid 1000000 q.disturbance.sine_amplitude
  sine_frequency_hz : OnGrid 1000000 q.disturbance.sine_frequency_hz
  sine_phase_s : OnGrid 1000000 q.disturbance.sine_phase_s

variable {a : AgentAssignment K} {q : ScalarParams K}

/-- What an assignment configures a board with is what it builds a host controller from. -/
theorem sameLaw_configured (h : scalarParams a = some q) (hwire : ScalarOnWire q)
    (hscalar : a.microgrid = none) (hn : a.neighbors.length ≤ agentMaxNeighbors) (epoch_us : ℤ)
    (T_c : MicrogridDict K → ℤ)
    (hfit : FitsI32 (configuredParams a hn epoch_us T_c).disturbance.samples) :
    SameLaw (configuredParams a hn epoch_us T_c) q := by
  rw [scalarParams] at h
  split_ifs at h
  obtain rfl := Option.some.inj h
  constructor
  · show selectedLaw a = .finiteTimeAdaptive
    rw [selectedLaw, hscalar]
  · exact ms_roundMs hwire.dt_s
  · exact u_quantize hwire.gain_ij
  · exact u_quantize hwire.alpha
  · exact u_quantize hwire.delta
  · exact u_quantize hwire.eta
  · rfl
  · exact u_quantize hwire.noise_amplitude
  · exact u_quantize hwire.noise_offset
  · exact u_quantize hwire.beta
  · exact u_quantize hwire.sine_amplitude
  · exact u_quantize hwire.sine_frequency_hz
  · exact u_quantize hwire.sine_phase_s
  · rfl
  · exact hfit

/-- What the encoder packs into four bytes fits them. -/
theorem fitsI32_of_packInts {vs : List ℤ} {row : Bytes} (h : packInts 4 vs = some row) :
    ∀ v ∈ vs, FitsI32 v := by
  induction vs generalizing row with
  | nil => exact fun v hv ↦ absurd hv List.not_mem_nil
  | cons w vs ih =>
    simp only [packInts, Option.bind_eq_bind, Option.bind_eq_some_iff, Option.pure_def,
      Option.some.injEq] at h
    obtain ⟨b, hb, rest, hrest, rfl⟩ := h
    intro v hv
    obtain rfl | hv := List.mem_cons.1 hv
    · rw [packInt] at hb
      split_ifs at hb with hfits
      exact ⟨by omega, by omega⟩
    · exact ih hrest v hv

omit [IsStrictOrderedRing K] in
theorem samples_fit {epoch_us : ℤ} {frames : List OutFrame}
    (hf : assignmentToFrames a (some true) epoch_us = .ok frames) :
    FitsI32 (configuredDisturbance a.disturbance).samples := by
  obtain ⟨network, algorithm, disturbance, microgrid, control, -, -, hdisturbance, -, -, -⟩ :=
    assignmentToFrames_eq_ok hf
  obtain ⟨-, row, -, hrow⟩ := encodeDisturbance_eq_ok hdisturbance
  exact fitsI32_of_packInts hrow _ (by simp [disturbanceFields, configuredDisturbance])

/-- **A triggered board and a freshly built controller start in step**, whatever the board held
before its configure. -/
theorem inStep_start (h : scalarParams a = some q) (hwire : ScalarOnWire q)
    (hscalar : a.microgrid = none) {epoch_us : ℤ} {frames : List OutFrame}
    (hf : assignmentToFrames a (some true) epoch_us = .ok frames)
    {timed : List (OutFrame × ℤ)} (ht : timed.map Prod.fst = frames) {b b' : Board K}
    (hb : applyFrames b timed = some b') :
    InStep b'.prng a.neighbors.length (b', 0)
      (.init q (.uniform (boardDraws b'.prng))) := by
  have hn := neighbors_le_of_applied hf ht hb
  obtain ⟨b'', happly, hview⟩ := applyFrames_view hf hn ht b
  obtain rfl := Option.some.inj (hb.symm.trans happly)
  have hlawSent : (sentBoard a hn epoch_us (triggeredAt timed) : Board K).agent.params.law =
      .finiteTimeAdaptive := by
    rw [sentBoard, triggeredBoard_params]
    show selectedLaw a = .finiteTimeAdaptive
    rw [selectedLaw, hscalar]
  have hlaw : b'.agent.params.law = .finiteTimeAdaptive := by
    rw [← b'.view_law, hview, hlawSent]
  -- the view of a scalar board is the board without its microgrid part
  have hsent : b'.agent.scalarView = ⟨configuredParams a hn epoch_us fun m ↦ (mgIfaceFields m).T_c,
      triggeredVars (configuredParams a hn epoch_us fun m ↦ (mgIfaceFields m).T_c)
        (triggeredAt timed)⟩ := by
    have hagent := congrArg Board.agent hview
    have hlawParams : (configuredParams a hn epoch_us fun m ↦ (mgIfaceFields m).T_c).law =
        .finiteTimeAdaptive := by
      rwa [sentBoard, triggeredBoard_params] at hlawSent
    rw [Board.view_of_scalar hlaw, sentBoard, triggeredBoard,
      if_neg (not_not.2 hlawParams)] at hagent
    exact hagent
  have hparams : SameLaw b'.agent.scalarView.params q := by
    rw [hsent]
    exact sameLaw_configured h hwire hscalar hn epoch_us _ (samples_fit hf)
  have hvars : b'.agent.scalarView.vars =
      triggeredVars (configuredParams a hn epoch_us fun m ↦ (mgIfaceFields m).T_c)
        (triggeredAt timed) := by
    rw [hsent]
  obtain ⟨hstate, hvstate, hvartheta⟩ :
      q.state = a.state ∧ q.vstate = a.vstate ∧ q.vartheta = a.vartheta := by
    rw [scalarParams] at h
    split_ifs at h
    rw [← Option.some.inj h]
    exact ⟨rfl, rfl, rfl⟩
  constructor
  · exact { hparams with }
  · show b'.agent.scalarView.params.nNeighbors.val = a.neighbors.length
    rw [hsent]
    rfl
  · refine (congrArg AgentVars.stateF hvars).trans ?_
    show u (quantize a.state) = q.state
    rw [← hstate, u_quantize hwire.state]
  · refine (congrArg AgentVars.vstateF hvars).trans ?_
    show u (quantize a.vstate) = q.vstate
    rw [← hvstate, u_quantize hwire.vstate]
  · refine (congrArg AgentVars.varthetaF hvars).trans ?_
    show u (quantize a.vartheta) = q.vartheta
    rw [← hvartheta, u_quantize hwire.vartheta]
  · exact congrArg AgentVars.counter hvars
  · exact le_rfl
  · exact q.disturbance.period_pos
  · rfl
  · rfl
  · rfl
  · rfl

end Start

/-! ### The two laws -/

/-- **Board and host run the same scalar law.** A parameter set on the wire grid: whatever state the
board was in before the configure, whatever neighbour values and participating neighbours the two
sides are then given, and for any number of periods, they hold the same integrators and the same
counter, and have drawn the same number of times from the same stream. -/
theorem scalar_laws_agree [IsStrictOrderedRing K] [FloorRing K] (lib : Libm K) (rng : ℤ → ℕ → K)
    {a : AgentAssignment K} {q : ScalarParams K} (hq : scalarParams a = some q)
    (hwire : ScalarOnWire q) (hscalar : a.microgrid = none) {epoch_us : ℤ} {frames : List OutFrame}
    (hf : assignmentToFrames a (some true) epoch_us = .ok frames) {timed : List (OutFrame × ℤ)}
    (ht : timed.map Prod.fst = frames) {b b' : Board K} (hb : applyFrames b timed = some b')
    (xs : List Heard) :
    let board := run (boardPeriod lib) (b', 0) xs
    let host := run (hostPeriod lib rng a.neighbors.length)
      (.init q (.uniform (boardDraws b'.prng))) xs
    board.1.agent.vars.stateF = host.state ∧ board.1.agent.vars.vstateF = host.vstate ∧
      board.1.agent.vars.varthetaF = host.vartheta ∧
      board.1.agent.vars.counter = host.step_count ∧ board.2 = host.disturbance.drawn ∧
      board.1.prng = pcgAfter host.disturbance.drawn b'.prng := by
  intro board host
  have hend := (inStep_start hq hwire hscalar hf ht hb).run lib rng xs
  exact ⟨hend.state, hend.vstate, hend.vartheta, hend.counter, hend.drawn, hend.prng⟩

/-! ### A sample node -/

/-- A node of a scalar fleet with two neighbours, its disturbance on. -/
def sampleScalar : AgentAssignment ℚ :=
  { sampleAssignment "adaptive" sampleAdaptiveDict with
    dt_s := 1 / 5
    publish_period_s := 1
    state := 223 / 10
    vstate := 223 / 10
    disturbance := ⟨some true, some (1 / 2), some 2, some (1 / 4), some (1 / 10), some (1 / 2),
      some (1 / 50), some 1000⟩
    microgrid := none }

/-- The parameter set of the sample node. -/
def sampleScalarParams : ScalarParams ℚ where
  dt_s := 1 / 5
  state := 223 / 10
  vstate := 223 / 10
  vartheta := 0
  eta := 1 / 20000
  gain_ij := 1 / 10
  alpha := 1 / 2
  delta := 1 / 100
  disturbance := ⟨true, 1 / 10, 1 / 2, 1 / 50, 1 / 2, 2, 1 / 4, 1000, thousand_pos⟩
  dt_pos := one_fifth_pos

theorem sampleScalar_params : scalarParams sampleScalar = some sampleScalarParams := by
  rw [scalarParams, dif_pos ⟨by norm_num [sampleScalar], by decide⟩]
  rfl

theorem sampleScalar_onWire : ScalarOnWire sampleScalarParams where
  dt_s := ⟨200, by norm_num [sampleScalarParams]⟩
  state := ⟨22300000, by norm_num [sampleScalarParams]⟩
  vstate := ⟨22300000, by norm_num [sampleScalarParams]⟩
  vartheta := onGrid_zero _
  eta := ⟨50, by norm_num [sampleScalarParams]⟩
  gain_ij := ⟨100000, by norm_num [sampleScalarParams]⟩
  alpha := ⟨500000, by norm_num [sampleScalarParams]⟩
  delta := ⟨10000, by norm_num [sampleScalarParams]⟩
  noise_amplitude := ⟨100000, by norm_num [sampleScalarParams]⟩
  noise_offset := ⟨500000, by norm_num [sampleScalarParams]⟩
  beta := ⟨20000, by norm_num [sampleScalarParams]⟩
  sine_amplitude := ⟨500000, by norm_num [sampleScalarParams]⟩
  sine_frequency_hz := ⟨2000000, by norm_num [sampleScalarParams]⟩
  sine_phase_s := ⟨250000, by norm_num [sampleScalarParams]⟩

theorem sampleScalar_encodes :
    ∃ frames, assignmentToFrames sampleScalar (some true) 0 = .ok frames := by
  have hok : (assignmentToFrames sampleScalar (some true) 0).isOk := by
    decide +kernel
  rcases h : assignmentToFrames sampleScalar (some true) 0 with e | frames
  · rw [h] at hok
    cases hok
  · exact ⟨frames, rfl⟩

/-- The sample node, configured out of the reset state, after two periods with both neighbours and
one with the first of them. -/
theorem scalar_laws_agree_sample :
    ∃ frames b', assignmentToFrames sampleScalar (some true) 0 = .ok frames ∧
      applyFrames (boardInit ℚ) (allAt 0 frames) = some b' ∧
      let xs : List Heard := [⟨fun _ ↦ 21000000, fun _ ↦ true⟩, ⟨fun _ ↦ 21000000, fun _ ↦ true⟩,
        ⟨fun _ ↦ 23000000, fun j ↦ j == 0⟩]
      let host := run (hostPeriod .atZero (fun _ _ ↦ 0) 2)
        (.init sampleScalarParams (.uniform (boardDraws b'.prng))) xs
      (run (boardPeriod .atZero) (b', 0) xs).1.agent.vars.stateF = host.state := by
  obtain ⟨frames, hf⟩ := sampleScalar_encodes
  have ht := map_fst_allAt 0 frames
  obtain ⟨b', hb, -⟩ := applyFrames_view hf (by decide) ht (boardInit ℚ)
  refine ⟨frames, b', hf, hb, ?_⟩
  exact (scalar_laws_agree .atZero (fun _ _ ↦ 0) sampleScalar_params sampleScalar_onWire rfl hf ht
    hb _).1

end VertexTestbed.Conformance
