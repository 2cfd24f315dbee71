import VertexTestbed.Firmware.MicrogridTask

/-!
# The scalar coordination law on the board

`coordination_task.c`: the finite-time adaptive law, and `discreteStep`, the one entry point of the
control loop, which hands the tick to the microgrid family whenever `law` selects it.
-/

namespace VertexTestbed.Firmware

variable {K : Type*} [Field K] [LinearOrder K]

/-- `disturbance`: the generator advances only while the disturbance is active. -/
def disturbance (lib : Libm K) (b : Board K) : K × Pcg :=
  let d := b.agent.params.disturbance
  if !d.active then (0, b.prng)
  else
    let amp := (d.noiseAmplitude : K) * invScaleFactor
    let off := (d.noiseOffset : K) * invScaleFactor
    let beta := (d.beta : K) * invScaleFactor
    let A := (d.sineAmplitude : K) * invScaleFactor
    let f := (d.frequency : K) * invScaleFactor
    let phi_s := (d.phase : K) * invScaleFactor
    let t := (b.agent.vars.counter : K) * b.agent.params.dt * (1 / 1000)
    let draw := prngUniform (K := K) b.prng
    let noise := amp * (draw.1 - off)
    let sinusoidal := A * lib.sin (2 * lib.pi * f * (t - phi_s))
    (noise + beta + sinusoidal, draw.2)

/-- `sign`, with `sign(0) = 0`. -/
def sign (x : K) : K :=
  if 0 < x then 1 else if x < 0 then -1 else 0

/-- `v_i`: the coupling term, over the enabled neighbours. -/
def v_i (lib : Libm K) (a : Agent K) : K :=
  let z := a.vars.vstateF
  let alpha := (a.params.alpha : K) * invScaleFactor
  a.params.slots.foldl
    (fun vi j ↦
      if a.params.neighborsEnabled j then
        let diff := z - (a.vars.neighborVstates j : K) * invScaleFactor
        vi + -1 * sign diff * lib.pow |diff| alpha
      else vi) 0

/-- `sanitize_f`. -/
def sanitizeF (v : K) : K := if isfinite v then v else 0

/-- `quantize_f`: half-up, saturating at the `int32_t` bounds. -/
def quantizeF [FloorRing K] (v : K) : ℤ :=
  if !isfinite v then 0
  else
    let scaled := v * scaleFactor
    if 2147483520 ≤ scaled then 2147483647
    else if scaled ≤ -2147483520 then -2147483648
    else roundHalfUp scaled

/-- The scalar branch of `discrete_step`. The counter wraps modulo `samples`, in C's truncated
remainder. -/
def scalarStep [FloorRing K] (lib : Libm K) (b : Board K) : Board K :=
  let a := b.agent
  let dt := (a.params.dt : K) * (1 / 1000)
  let x := sanitizeF a.vars.stateF
  let z := sanitizeF a.vars.vstateF
  let vartheta := sanitizeF a.vars.varthetaF
  let eta := (a.params.eta : K) * invScaleFactor
  let gain := (a.params.gain_ij : K) * invScaleFactor
  let delta := (a.params.delta : K) * invScaleFactor
  let nu := disturbance lib b
  let sigma := x - z
  let grad := sign sigma
  let gi := gain * v_i lib a
  let u := gi - vartheta * grad
  let dvtheta : K := if delta < |sigma| then 1 else 0
  let stateF := sanitizeF (x + dt * (u + nu.1))
  let vstateF := sanitizeF (z + dt * gi)
  let varthetaF := sanitizeF (vartheta + dt * eta * dvtheta)
  { agent :=
      { a with
        vars :=
          { a.vars with
            stateF := stateF
            vstateF := vstateF
            varthetaF := varthetaF
            state := quantizeF stateF
            vstate := quantizeF vstateF
            vartheta := quantizeF varthetaF
            -- C's remainder, of the counter behind its own wrap.
            counter := (wrapI32 (a.vars.counter + 1)).tmod a.params.disturbance.samples } }
    prng := nu.2 }

/-- `discrete_step`: one control period of whichever law is selected. -/
def discreteStep [IsStrictOrderedRing K] [FloorRing K] (lib : Libm K) (b : Board K) : Board K :=
  if b.agent.params.law ≠ .finiteTimeAdaptive then { b with agent := microgridStep lib b.agent }
  else scalarStep lib b

section Frame

variable [IsStrictOrderedRing K] [FloorRing K] (lib : Libm K) (b : Board K)

omit [IsStrictOrderedRing K] in
@[simp]
theorem scalarStep_params : (scalarStep lib b).agent.params = b.agent.params := rfl

omit [IsStrictOrderedRing K] in
@[simp]
theorem scalarStep_mg : (scalarStep lib b).agent.vars.mg = b.agent.vars.mg := rfl

/-- A control period never changes the configuration. -/
@[simp]
theorem discreteStep_params : (discreteStep lib b).agent.params = b.agent.params := by
  rw [discreteStep]
  split_ifs <;> rfl

theorem discreteStep_of_microgrid (h : b.agent.params.law ≠ .finiteTimeAdaptive) :
    discreteStep lib b = { b with agent := microgridStep lib b.agent } :=
  if_pos h

theorem discreteStep_of_scalar (h : b.agent.params.law = .finiteTimeAdaptive) :
    discreteStep lib b = scalarStep lib b :=
  if_neg (by simp [h])

end Frame

end VertexTestbed.Firmware
