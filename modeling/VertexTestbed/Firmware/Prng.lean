import VertexTestbed.Numeric

/-!
# The board's random generator

`prng.c`: a PCG32 stream, whose state is a pair of file-scope words and not part of `struct agent`.
-/

namespace VertexTestbed.Firmware

/-- `pcg_state` and `pcg_inc`. -/
structure Pcg where
  state : UInt64
  inc : UInt64
  deriving DecidableEq

/-- The generator at power-up. -/
def pcgInit : Pcg := ⟨0, 1⟩

/-- `prng_u32`: the output of the old state, and the advanced generator. -/
def prngU32 (g : Pcg) : UInt32 × Pcg :=
  let old := g.state
  let xorshifted := (((old >>> 18) ^^^ old) >>> 27).toUInt32
  let rot := (old >>> 59).toUInt32
  ((xorshifted >>> rot) ||| (xorshifted <<< ((32 - rot) &&& 31)),
    { g with state := old * 6364136223846793005 + g.inc })

/-- `prng_seed`: the result does not depend on the generator it replaces. -/
def prngSeed (state sequence : UInt64) : Pcg :=
  let g₀ : Pcg := ⟨0, (sequence <<< 1) ||| 1⟩
  let g₁ := (prngU32 g₀).2
  (prngU32 { g₁ with state := g₁.state + state }).2

/-- `prng_uniform`: the top 24 bits of a draw, as a fraction. -/
def prngUniform {K : Type*} [Field K] (g : Pcg) : K × Pcg :=
  let (w, g') := prngU32 g
  (((w >>> 8).toNat : K) * (1 / 16777216), g')

end VertexTestbed.Firmware
