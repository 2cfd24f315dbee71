import VertexTestbed.Firmware.AgentState

/-!
# The microgrid law on the board

`microgrid_task.c`. `microgridStep` is cut along the comment headings of the source — hold, virtual
candidate, interface, saturate, emulator, commit, watchdog — so that each piece can be compared with
the host's class for the same part. Every division of the source is a named function of its own
(`mgRemainder`, `mgDen`, `lcRemainder`), and `microgridDivisors` lists the values a reset and a step
divide by at a given state.

A local variable of the source that is assigned twice is shadowed here.
-/

namespace VertexTestbed.Firmware

variable {K : Type*} [Field K] [LinearOrder K]

/-! ### Conversions and limits -/

/-- `u`: a scaled integer in engineering units. -/
def u (v : ℤ) : K := v * invScaleFactor

/-- `ms`: a number of milliseconds in seconds. -/
def ms (v : ℤ) : K := v * (1 / 1000)

/-- `MG_X_WATCH`. -/
def mgXWatch : K := 5000

/-- `MG_VARTHETA_WATCH`. -/
def mgVarthetaWatch : K := 5000

/-- `MG_SAT_PERSIST`. -/
def mgSatPersist : ℕ := 5

/-- `sat_f`: clip `v` to `[-lim, lim]`. -/
def satF (v lim : K) : K :=
  if lim < v then lim else if v < -lim then -lim else v

/-- `mg_a_zeta`: the known time profile of the regressor. -/
def mgAZeta (lib : Libm K) (profile : UInt8) (t : K) : K :=
  if profile = 0 then 1 / 1000 * lib.exp (-5 * t)
  else 1 / 1000 * (3 / 4 + 1 / 4 * lib.sin (1 / 10 * t))

/-- `mg_smooth_saturation`: the rating limiter. -/
def mgSmoothSaturation (lib : Libm K) (p q p_max q_max : K) : K × K :=
  (p_max * lib.tanh (p / p_max), q_max * lib.tanh (q / q_max))

/-! ### Reset -/

/-- `microgrid_reset`, on the integrators. -/
def microgridResetVars (m : MicrogridParams) : MicrogridVars K :=
  let kappa : K := u m.kappa
  { xP := u m.X0_P / kappa
    xQ := u m.X0_Q / kappa
    zP := u m.z0_P
    zQ := u m.z0_Q
    c := u m.c_0
    wP := u m.b * u m.rP
    wQ := u m.b * u m.rQ
    vartheta := u m.vartheta_0
    S1_hat := 0
    S2_hat := 0
    updates := 0
    watchdog := .none
    satRun := 0 }

/-- The published mirror: the five lines that end both `microgrid_reset` and `microgrid_step`. -/
def microgridPublish [IsStrictOrderedRing K] [FloorRing K] (a : Agent K) : Agent K :=
  let v := a.vars.mg
  { a with
    vars :=
      { a.vars with
        state := lrintI32 (v.xP * scaleFactor)
        vstate := lrintI32 (v.zP * scaleFactor)
        vartheta := lrintI32 (v.vartheta * scaleFactor)
        stateQ := lrintI32 (v.xQ * scaleFactor)
        vstateQ := lrintI32 (v.zQ * scaleFactor) } }

/-- `microgrid_reset`: every integrator, the law's clock and the mirrors. -/
def microgridReset [IsStrictOrderedRing K] [FloorRing K] (a : Agent K) : Agent K :=
  microgridPublish
    { a with vars := { a.vars with mg := microgridResetVars a.params.microgrid, counter := 0 } }

/-! ### The virtual layer -/

/-- The ramp remainder `max(T_o - t, delta_o)`, as `mg_alpha` computes it. -/
def mgRemainder (m : MicrogridParams) (t : K) : K :=
  let d_o : K := ms m.delta_o
  let rem : K := ms m.T_o - t
  if rem < d_o then d_o else rem

/-- `mg_alpha`: `alpha_0 T_o / max(T_o - t, delta_o)`, continued past `T_o`. -/
def mgAlpha (m : MicrogridParams) (t : K) : K :=
  u m.alpha_0 * ms m.T_o / mgRemainder m t

/-- `mg_hold`: the held neighbour sums, frozen for the tick. -/
def mgHold (a : Agent K) : K × K :=
  let m := a.params.microgrid
  let sP := a.params.slots.foldl
    (fun s j ↦ s + (a.vars.neighborVstates j : K) * invScaleFactor) 0
  let sQ := a.params.slots.foldl
    (fun s j ↦ s + (a.vars.neighborVstatesQ j : K) * invScaleFactor) 0
  (sP + u m.b * u m.rP, sQ + u m.b * u m.rQ)

/-- `D_i = sum_j a_ij + b_i`. -/
def mgD (m : MicrogridParams) : K := m.degree + u m.b

/-- The denominator of the semi-implicit update, `1 + h a_o D`. -/
def mgDen (m : MicrogridParams) (c h t : K) : K :=
  1 + h * (c * (mgAlpha m t + u m.kappa_o)) * mgD m

/-- The virtual candidate and the effective slope. -/
structure MgCandidate (K : Type*) where
  gP : K
  gQ : K
  zP : K
  zQ : K
  c : K

/-- Step 2 of `microgrid_step`: computed on the held sums, not committed. -/
def mgCandidate (m : MicrogridParams) (v : MicrogridVars K) (wP wQ h t : K) : MgCandidate K :=
  let D : K := mgD m
  let f_o := mgAlpha m t + u m.kappa_o
  let rho_o := 2 * mgAlpha m t
  let a_o := v.c * f_o
  let den := mgDen m v.c h t
  let etaP := D * v.zP - wP
  let etaQ := D * v.zQ - wQ
  let k := -a_o / den
  let gP := k * etaP
  let gQ := k * etaQ
  { gP := gP
    gQ := gQ
    zP := v.zP + h * gP
    zQ := v.zQ + h * gQ
    c := v.c + h * rho_o * u m.xi * f_o * f_o * (etaP * etaP + etaQ * etaQ) }

/-! ### The interface -/

/-- What one interface evaluation produces: the applied command, whether it was clipped, and the
adaptive states after it. -/
structure MgCommand (K : Type*) where
  muP : K
  muQ : K
  saturated : Bool
  vartheta : K
  S1_hat : K
  S2_hat : K
  updates : ℕ

/-- The LC width in force: `2h` when the frame carries none. -/
def lcWidth (m : MicrogridParams) (h : K) : K :=
  let d_c : K := ms m.delta_c
  if d_c ≤ 0 then 2 * h else d_c

/-- The LC remainder `max(T_c - t, delta_c)`. -/
def lcRemainder (m : MicrogridParams) (h t : K) : K :=
  let d_c := lcWidth m h
  let rem : K := ms m.T_c - t
  if rem < d_c then d_c else rem

/-- Whether the source's terminal policy is in force at `t`. -/
def lcTerminal (m : MicrogridParams) (t : K) : Bool :=
  decide (m.terminal ≠ 0) && decide (ms m.T_c ≤ t)

/-- Step 3 under `LAW_MICROGRID_LC`, on the old states. -/
def mgInterfaceLC (lib : Libm K) (m : MicrogridParams) (v : MicrogridVars K) (gP gQ h t : K) :
    MgCommand K :=
  let kappa : K := u m.kappa
  let mu_max : K := u m.mu_max
  let sP := v.xP - v.zP
  let sQ := v.xQ - v.zQ
  let trig := |sP| + |sQ|
  let s := mgSmoothSaturation lib (kappa * v.xP) (kappa * v.xQ) (u m.p_max) (u m.q_max)
  let A := mgAZeta lib m.profile t / kappa
  let terminal := lcTerminal m t
  let lam := u m.beta_c / lcRemainder m h t
  let muP := if terminal then 0 else gP - lam * sP - A * (s.1 * v.S1_hat + s.2 * v.S2_hat)
  let muQ := if terminal then 0 else gQ - lam * sQ - A * (s.2 * v.S1_hat - s.1 * v.S2_hat)
  let adaptNow :=
    if terminal then false
    else if 0 ≤ m.adapt_band ∧ u m.adapt_band < trig then false else true
  let aP := satF muP mu_max
  let aQ := satF muQ mu_max
  let step := h * u m.Phi * kappa * kappa * A
  { muP := aP
    muQ := aQ
    saturated := decide (aP ≠ muP) || decide (aQ ≠ muQ)
    vartheta := v.vartheta
    S1_hat := if adaptNow then v.S1_hat + step * (s.1 * sP + s.2 * sQ) else v.S1_hat
    S2_hat := if adaptNow then v.S2_hat + step * (s.2 * sP - s.1 * sQ) else v.S2_hat
    updates := if adaptNow then (v.updates + 1) % 2 ^ 32 else v.updates }

/-- The clipped correction of one coordinate, `sgn(s) min(lim, |s| / h)`. -/
def mgCorrection (lim s h : K) : K :=
  if s = 0 then 0 else (if 0 < s then 1 else -1) * min lim (|s| / h)

/-- Step 3 under `LAW_MICROGRID_ADAPTIVE`, on the old states. -/
def mgInterfaceAdaptive (m : MicrogridParams) (v : MicrogridVars K) (gP gQ h : K) :
    MgCommand K :=
  let mu_max : K := u m.mu_max
  let sP := v.xP - v.zP
  let sQ := v.xQ - v.zQ
  let trig := |sP| + |sQ|
  let muP := gP - mgCorrection v.vartheta sP h
  let muQ := gQ - mgCorrection v.vartheta sQ h
  let aP := satF muP mu_max
  let aQ := satF muQ mu_max
  let fired := decide (u m.eps < trig)
  { muP := aP
    muQ := aQ
    saturated := decide (aP ≠ muP) || decide (aQ ≠ muQ)
    vartheta := if fired then v.vartheta + u m.gamma else v.vartheta
    S1_hat := v.S1_hat
    S2_hat := v.S2_hat
    updates := if fired then (v.updates + 1) % 2 ^ 32 else v.updates }

/-! ### The emulator and the watchdog -/

/-- Step 5: the matched uncertainty at the current state. -/
def mgZeta (lib : Libm K) (m : MicrogridParams) (xP xQ t : K) : K × K :=
  let kappa : K := u m.kappa
  let s := mgSmoothSaturation lib (kappa * xP) (kappa * xQ) (u m.p_max) (u m.q_max)
  let az := mgAZeta lib m.profile t / kappa
  (az * (s.1 * u m.S1 + s.2 * u m.S2), az * (s.2 * u m.S1 - s.1 * u m.S2))

/-- The latching watchdog, on the committed states. The saturation branch arms at `T_c`. -/
def mgWatchdog (m : MicrogridParams) (v : MicrogridVars K) (t : K) : WatchdogCause :=
  if v.watchdog ≠ .none then v.watchdog
  else if !isfinite v.xP || !isfinite v.xQ || decide (mgXWatch < |v.xP|) ||
      decide (mgXWatch < |v.xQ|) then .state
  else if !isfinite v.zP || !isfinite v.zQ then .virtual
  else if mgVarthetaWatch < v.vartheta then .vartheta
  else if ms m.T_c ≤ t ∧ mgSatPersist < v.satRun then .saturation
  else .none

/-! ### One control period -/

/-- `h`, the control period in seconds. -/
def mgPeriod (a : Agent K) : K := ms a.params.dt

/-- `t`, the law's clock in seconds. -/
def mgTime (a : Agent K) : K := (a.vars.counter : K) * mgPeriod a

/-- The virtual candidate of this tick, on this tick's hold. -/
def microgridCandidate (a : Agent K) : MgCandidate K :=
  let w := mgHold a
  mgCandidate a.params.microgrid a.vars.mg w.1 w.2 (mgPeriod a) (mgTime a)

/-- The command of this tick: the interface the law selects, evaluated on the old states. -/
def microgridCommand (lib : Libm K) (a : Agent K) : MgCommand K :=
  let g := microgridCandidate a
  if a.params.law = .microgridLC then
    mgInterfaceLC lib a.params.microgrid a.vars.mg g.gP g.gQ (mgPeriod a) (mgTime a)
  else mgInterfaceAdaptive a.params.microgrid a.vars.mg g.gP g.gQ (mgPeriod a)

/-- The integrators after one control period, before the watchdog looks at them. -/
def microgridAdvance (lib : Libm K) (a : Agent K) : MicrogridVars K :=
  let v := a.vars.mg
  let h := mgPeriod a
  let w := mgHold a
  let g := microgridCandidate a
  let cmd := microgridCommand lib a
  let zeta := mgZeta lib a.params.microgrid v.xP v.xQ (mgTime a)
  { xP := v.xP + h * (cmd.muP + zeta.1)
    xQ := v.xQ + h * (cmd.muQ + zeta.2)
    zP := g.zP
    zQ := g.zQ
    c := g.c
    wP := w.1
    wQ := w.2
    vartheta := cmd.vartheta
    S1_hat := cmd.S1_hat
    S2_hat := cmd.S2_hat
    updates := cmd.updates
    watchdog := v.watchdog
    satRun := if cmd.saturated then (v.satRun + 1) % 2 ^ 16 else 0 }

/-- `microgrid_step`. -/
def microgridStep [IsStrictOrderedRing K] [FloorRing K] (lib : Libm K) (a : Agent K) : Agent K :=
  let v := microgridAdvance lib a
  let v' := { v with watchdog := mgWatchdog a.params.microgrid v (mgTime a) }
  microgridPublish
    { a with vars := { a.vars with mg := v', counter := wrapI32 (a.vars.counter + 1) } }

/-! ### Frame facts -/

section Frame

variable [IsStrictOrderedRing K] [FloorRing K] (lib : Libm K) (a : Agent K)

@[simp]
theorem microgridPublish_params : (microgridPublish a).params = a.params := rfl

@[simp]
theorem microgridPublish_mg : (microgridPublish a).vars.mg = a.vars.mg := rfl

@[simp]
theorem microgridReset_params : (microgridReset a).params = a.params := rfl

@[simp]
theorem microgridReset_mg :
    (microgridReset a).vars.mg = microgridResetVars a.params.microgrid := rfl

@[simp]
theorem microgridReset_counter : (microgridReset a).vars.counter = 0 := rfl

@[simp]
theorem microgridStep_params : (microgridStep lib a).params = a.params := rfl

@[simp]
theorem microgridStep_counter :
    (microgridStep lib a).vars.counter = wrapI32 (a.vars.counter + 1) := rfl

end Frame

end VertexTestbed.Firmware
