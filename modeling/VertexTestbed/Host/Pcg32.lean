import Mathlib

/-!
# The host's random generator

`vertex/pcg32.py`: the PCG32 stream over Python's unbounded integers, cut to 64 and 32 bits by masks
where C's words wrap. Seeds and sequence selectors are the nonnegative ones. `uniform` is a quotient
of an integer below `2 ^ 24` by `2 ^ 24`, which a float holds exactly.
-/

namespace VertexTestbed.Host

/-- `Pcg32`. -/
structure Pcg32 where
  state : ℕ
  inc : ℕ

namespace Pcg32

/-- `_MULT`. -/
def MULT : ℕ := 6364136223846793005

/-- `_MASK64`. -/
def MASK64 : ℕ := (1 <<< 64) - 1

/-- `_MASK32`. -/
def MASK32 : ℕ := (1 <<< 32) - 1

/-- `u32`: the output of the old state, and the advanced generator. -/
def u32 (g : Pcg32) : ℕ × Pcg32 :=
  let old := g.state
  let xorshifted := (((old >>> 18) ^^^ old) >>> 27) &&& MASK32
  let rot := (old >>> 59) &&& 31
  (((xorshifted >>> rot) ||| (xorshifted <<< ((32 - rot) &&& 31))) &&& MASK32,
    { g with state := (old * MULT + g.inc) &&& MASK64 })

/-- `__init__`. -/
def init (state sequence : ℕ) : Pcg32 :=
  let g : Pcg32 := ⟨0, ((sequence <<< 1) ||| 1) &&& MASK64⟩
  let g := g.u32.2
  let g := { g with state := (g.state + (state &&& MASK64)) &&& MASK64 }
  g.u32.2

/-- `uniform`. -/
def uniform (g : Pcg32) : ℚ × Pcg32 :=
  ((g.u32.1 >>> 8 : ℕ) / 16777216, g.u32.2)

end Pcg32

end VertexTestbed.Host
