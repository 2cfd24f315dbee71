import VertexTestbed.Lib.Rounding
import VertexTestbed.Lib.LittleEndian

/-!
# Numeric conventions shared by host and board

The host half is `vertex/numeric.py`; the board half is the handful of conversions that
`microgrid_task.c` and `coordination_task.c` share. Every scaled quantity is a signed 32-bit
integer in units of `1e-6`, every duration an integer number of milliseconds.

Floating point is read as exact arithmetic over an ordered field `K`, so there is no NaN, no
infinity and no signed zero: the branches of the source that test for them stay in the model and are
decided by `isfinite`, which is constantly true. The transcendental functions are a parameter `Libm`
and are never interpreted; host and board are given the same one.
-/

namespace VertexTestbed

/-- The functions both platforms take from their math library. -/
structure Libm (K : Type*) where
  /-- `tanh` / `tanhf`. -/
  tanh : K → K
  /-- `exp` / `expf`. -/
  exp : K → K
  /-- `sin` / `sinf`. -/
  sin : K → K
  /-- `pow` / `powf`. -/
  pow : K → K → K
  /-- `math.pi` / `M_PI`. -/
  pi : K

/-- A library that agrees with the real one at `0` (and, for `pow`, at the base `0`), for evaluating
the model on inputs that only look there. -/
def Libm.atZero : Libm ℚ :=
  ⟨fun _ ↦ 0, fun _ ↦ 1, fun _ ↦ 0, fun _ _ ↦ 0, 0⟩

/-- `isfinite`, decided once and for all by exact arithmetic. -/
def isfinite {K : Type*} (_ : K) : Bool := true

/-- Every number of the field is finite. -/
@[simp]
theorem isfinite_eq_true {K : Type*} (x : K) : isfinite x = true := rfl

/-! ### Numerals

The numerals of the source that stand for field elements, each with the fact that it is at least
two under a name. -/

instance atLeastTwo_two : Nat.AtLeastTwo 2 := ⟨le_refl 2⟩
instance atLeastTwo_three : Nat.AtLeastTwo 3 := ⟨by decide⟩
instance atLeastTwo_four : Nat.AtLeastTwo 4 := ⟨by decide⟩
instance atLeastTwo_five : Nat.AtLeastTwo 5 := ⟨by decide⟩
instance atLeastTwo_eight : Nat.AtLeastTwo 8 := ⟨by decide⟩
instance atLeastTwo_ten : Nat.AtLeastTwo 10 := ⟨by decide⟩
instance atLeastTwo_twelve : Nat.AtLeastTwo 12 := ⟨by decide⟩
instance atLeastTwo_twenty : Nat.AtLeastTwo 20 := ⟨by decide⟩
instance atLeastTwo_thirty : Nat.AtLeastTwo 30 := ⟨by decide⟩
instance atLeastTwo_forty : Nat.AtLeastTwo 40 := ⟨by decide⟩
instance atLeastTwo_hundred : Nat.AtLeastTwo 100 := ⟨by decide⟩
instance atLeastTwo_hundredEight : Nat.AtLeastTwo 108 := ⟨by decide⟩
instance atLeastTwo_fourHundred : Nat.AtLeastTwo 400 := ⟨by decide⟩
instance atLeastTwo_thousand : Nat.AtLeastTwo 1000 := ⟨by decide⟩
instance atLeastTwo_fiveThousand : Nat.AtLeastTwo 5000 := ⟨by decide⟩
instance atLeastTwo_tenThousandTwoForty : Nat.AtLeastTwo 10240 := ⟨by decide⟩
instance atLeastTwo_hundredThousand : Nat.AtLeastTwo 100000 := ⟨by decide⟩
instance atLeastTwo_million : Nat.AtLeastTwo 1000000 := ⟨by decide⟩

section Field

variable {K : Type*} [Field K]

/-- `SCALE_FACTOR`. -/
def scaleFactor : K := 1000000

/-- `INV_SCALE_FACTOR`. -/
def invScaleFactor : K := 1 / 1000000

end Field

variable {K : Type*} [Field K] [LinearOrder K] [IsStrictOrderedRing K] [FloorRing K]

/-- `quantize`: engineering units to the scaled integer, ties toward `+∞`. -/
def quantize (v : K) : ℤ :=
  roundHalfUp (v * scaleFactor)

/-- Python's `int(round(v * 1000))`: seconds to milliseconds, ties to even. -/
def roundMs (v : K) : ℤ :=
  roundHalfEven (v * 1000)

/-- C's conversion to `int32_t`, two's complement. -/
def wrapI32 (n : ℤ) : ℤ :=
  n.bmod (2 ^ 32)

/-- `(int32_t)lrintf(x)`: the current rounding mode is nearest-even. -/
def lrintI32 (x : K) : ℤ :=
  wrapI32 (roundHalfEven x)

/-- Membership in the range of `int32_t`. -/
def FitsI32 (n : ℤ) : Prop :=
  -2 ^ 31 ≤ n ∧ n < 2 ^ 31

instance (n : ℤ) : Decidable (FitsI32 n) :=
  inferInstanceAs (Decidable (_ ∧ _))

/-- A value that fits is not wrapped. -/
theorem wrapI32_of_fits {n : ℤ} (h : FitsI32 n) : wrapI32 n = n := by
  obtain ⟨hlo, hhi⟩ := h
  exact Int.bmod_eq_of_le_mul_two (by norm_num; omega) (by norm_num; omega)

/-! ### Values on the wire grid

A parameter of a manifest is "on the wire grid" when it is a whole number of micro-units, or, for a
duration, a whole number of milliseconds. Quantizing such a value loses nothing. -/

/-- A value on the grid of millionths is read back. -/
theorem quantize_mul_invScale {v : K} (h : OnGrid 1000000 v) :
    (quantize v : K) * invScaleFactor = v := by
  have hq : (quantize v : K) = v * 1000000 := by
    simpa [quantize, scaleFactor] using roundHalfUp_mul_of_onGrid h
  rw [hq, invScaleFactor]
  field_simp

/-- A time on the grid of milliseconds is read back. -/
theorem roundMs_div {v : K} (h : OnGrid 1000 v) : (roundMs v : K) * (1 / 1000) = v := by
  have hq : (roundMs v : K) = v * 1000 := by
    simpa [roundMs] using roundHalfEven_mul_of_onGrid h
  rw [hq]
  field_simp

/-- Quantizing is monotone. -/
theorem quantize_mono {v w : K} (h : v ≤ w) : quantize v ≤ quantize w := by
  refine roundHalfUp_mono (mul_le_mul_of_nonneg_right h ?_)
  norm_num [scaleFactor]

/-- A grid bound on a value is a bound on its quantized form, read back. -/
theorem quantize_mem_Icc {v lo hi : K} (hlo : OnGrid 1000000 lo) (hhi : OnGrid 1000000 hi)
    (h : lo ≤ v ∧ v ≤ hi) :
    lo ≤ (quantize v : K) * invScaleFactor ∧ (quantize v : K) * invScaleFactor ≤ hi := by
  have hpos : (0 : K) ≤ invScaleFactor := by norm_num [invScaleFactor]
  constructor
  · rw [← quantize_mul_invScale hlo]
    exact mul_le_mul_of_nonneg_right (Int.cast_le.2 (quantize_mono h.1)) hpos
  · rw [← quantize_mul_invScale hhi]
    exact mul_le_mul_of_nonneg_right (Int.cast_le.2 (quantize_mono h.2)) hpos

/-! ### Values of the sample configurations -/

theorem one_fifth_pos : (0 : ℚ) < 1 / 5 := by norm_num

theorem one_eighth_pos : (0 : ℚ) < 1 / 8 := by norm_num

theorem one_fortieth_pos : (0 : ℚ) < 1 / 40 := by norm_num

theorem one_hundredth_nonneg : (0 : ℚ) ≤ 1 / 100 := by norm_num

theorem one_fourHundredth_nonneg : (0 : ℚ) ≤ 1 / 400 := by norm_num

theorem unit_pos : (0 : ℚ) < 1 := one_pos

theorem thirty_pos : (0 : ℚ) < 30 := by norm_num

theorem thousand_pos : (0 : ℤ) < 1000 := by decide

end VertexTestbed
