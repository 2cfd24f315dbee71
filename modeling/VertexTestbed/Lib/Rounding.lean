import Mathlib

/-!
# Rounding to an integer grid

Two rounding rules over an ordered field with a floor, and the facts a fixed-point format needs
about them: both fix the integers, and the half-up rule is monotone, so it never carries a value
past a bound that is itself on the grid. Against the ceiling the half-even rule is exact or one
below it, and `roundHalfEven_eq_ceil_iff` says when.

A **grid** of pitch `1 / scale` is the set of the quotients `n / scale`. `OnGrid` names membership;
`roundHalfUp_mul_of_onGrid` and `roundHalfEven_mul_of_onGrid` say that quantizing a grid value
and reading it back loses nothing, which is the whole of what an exact-arithmetic comparison of a
sender and a receiver asks of a quantizer.
-/

variable {K : Type*} [Field K] [LinearOrder K] [IsStrictOrderedRing K] [FloorRing K]

/-- Nearest integer, ties toward `+∞`, by comparing the fractional part. -/
def roundHalfUp (x : K) : ℤ :=
  if 1 / 2 ≤ x - ⌊x⌋ then ⌊x⌋ + 1 else ⌊x⌋

/-- Nearest integer, ties to the even neighbour. -/
def roundHalfEven (x : K) : ℤ :=
  if x - ⌊x⌋ < 1 / 2 then ⌊x⌋
  else if 1 / 2 < x - ⌊x⌋ then ⌊x⌋ + 1
  else if ⌊x⌋ % 2 = 0 then ⌊x⌋ else ⌊x⌋ + 1

/-! ### Integers are fixed -/

@[simp]
theorem roundHalfUp_intCast (n : ℤ) : roundHalfUp (n : K) = n := by
  simp [roundHalfUp]

@[simp]
theorem roundHalfEven_intCast (n : ℤ) : roundHalfEven (n : K) = n := by
  simp [roundHalfEven]

/-! ### Monotonicity -/

/-- The half-up rule is the floor of the shifted value. -/
theorem roundHalfUp_eq_floor (x : K) : roundHalfUp x = ⌊x + 1 / 2⌋ := by
  rw [roundHalfUp]
  symm
  split_ifs with h
  · rw [Int.floor_eq_iff]
    have hlt := Int.lt_floor_add_one x
    push_cast
    constructor <;> linarith
  · rw [Int.floor_eq_iff]
    have hle := Int.floor_le x
    constructor <;> linarith

theorem roundHalfUp_mono {x y : K} (h : x ≤ y) : roundHalfUp x ≤ roundHalfUp y := by
  rw [roundHalfUp_eq_floor, roundHalfUp_eq_floor]
  exact Int.floor_mono (by linarith)

/-! ### Against the ceiling -/

theorem ceil_eq_floor_add_one {x : K} (h : x ≠ ⌊x⌋) : ⌈x⌉ = ⌊x⌋ + 1 := by
  rw [Int.ceil_eq_iff]
  push_cast
  have hlt := Int.lt_floor_add_one x
  have hgt : (⌊x⌋ : K) < x := lt_of_le_of_ne (Int.floor_le x) h.symm
  constructor <;> linarith

/-- The half-even rule misses the ceiling by at most one, and never above. -/
theorem roundHalfEven_eq_ceil_or (x : K) :
    roundHalfEven x = ⌈x⌉ ∨ roundHalfEven x = ⌈x⌉ - 1 := by
  by_cases h : x = ⌊x⌋
  · left
    rw [h, roundHalfEven_intCast, Int.ceil_intCast]
  · rw [ceil_eq_floor_add_one h, roundHalfEven]
    split_ifs <;> omega

/-- **When rounding half to even rounds up**: at an integer, past the half, or at a half whose
lower neighbour is odd. -/
theorem roundHalfEven_eq_ceil_iff (x : K) :
    roundHalfEven x = ⌈x⌉ ↔
      x = ⌊x⌋ ∨ 1 / 2 < x - ⌊x⌋ ∨ (x - ⌊x⌋ = 1 / 2 ∧ ⌊x⌋ % 2 = 1) := by
  by_cases h : x = ⌊x⌋
  · refine iff_of_true ?_ (Or.inl h)
    rw [h, roundHalfEven_intCast, Int.ceil_intCast]
  · rw [ceil_eq_floor_add_one h, or_iff_right h, roundHalfEven]
    obtain hlt | heq | hgt := lt_trichotomy (x - ⌊x⌋) (1 / 2 : K)
    · rw [if_pos hlt]
      refine iff_of_false (by omega) ?_
      rintro (hgt | ⟨heq, -⟩) <;> linarith
    · rw [if_neg heq.not_lt, if_neg heq.not_gt]
      -- At the half the parity of the lower neighbour decides.
      split_ifs with hparity
      · refine iff_of_false (by omega) ?_
        rintro (hgt | ⟨-, hodd⟩)
        · exact heq.not_gt hgt
        · omega
      · exact iff_of_true rfl (Or.inr ⟨heq, by omega⟩)
    · rw [if_neg hgt.not_gt, if_pos hgt]
      exact iff_of_true rfl (Or.inl hgt)

/-! ### Grid values -/

/-- `x` is a multiple of `1 / scale`. -/
def OnGrid (scale : ℕ) (x : K) : Prop :=
  ∃ n : ℤ, x * scale = n

omit [LinearOrder K] [IsStrictOrderedRing K] [FloorRing K] in
theorem onGrid_zero (scale : ℕ) : OnGrid scale (0 : K) :=
  ⟨0, by simp⟩

/-- Quantizing a grid value half-up is exact. -/
theorem roundHalfUp_mul_of_onGrid {scale : ℕ} {x : K} (h : OnGrid scale x) :
    (roundHalfUp (x * scale) : K) = x * scale := by
  obtain ⟨n, hn⟩ := h
  rw [hn, roundHalfUp_intCast]

/-- Quantizing a grid value half-even is exact. -/
theorem roundHalfEven_mul_of_onGrid {scale : ℕ} {x : K} (h : OnGrid scale x) :
    (roundHalfEven (x * scale) : K) = x * scale := by
  obtain ⟨n, hn⟩ := h
  rw [hn, roundHalfEven_intCast]

example : roundHalfUp (5 / 2 : ℚ) = 3 ∧ roundHalfEven (5 / 2 : ℚ) = 2 := by decide +kernel
