import VertexTestbed.Firmware.Prng
import VertexTestbed.Host.Pcg32

/-!
# The two random generators

`SameGenerator` relates the board's words to the host's integers. A draw keeps it and puts out the
same word (`u32_agrees`), and seeding establishes it (`init_agrees`), so the two streams agree at
every draw.

The board's words wrap by themselves; the host's masks stand exactly where they do. The rotation is
by the top five bits of a 64-bit state, so the board's subtraction does not wrap, and where it is by
nothing both shift to the left by nothing.
-/

namespace VertexTestbed.Conformance

open Firmware Host

/-- The two generators hold the same state and increment. -/
structure SameGenerator (b : Pcg) (h : Pcg32) : Prop where
  state : b.state.toNat = h.state
  inc : b.inc.toNat = h.inc

theorem and_mask64 (n : ℕ) : n &&& Pcg32.MASK64 = n % 2 ^ 64 :=
  Nat.and_two_pow_sub_one_eq_mod n 64

theorem and_mask32 (n : ℕ) : n &&& Pcg32.MASK32 = n % 2 ^ 32 :=
  Nat.and_two_pow_sub_one_eq_mod n 32

theorem toNat_multiplier : (6364136223846793005 : UInt64).toNat = Pcg32.MULT := by
  decide

/-- The rotation count on the board. -/
theorem toNat_rot (old : UInt64) :
    (old >>> 59).toUInt32.toNat = (old.toNat >>> 59) &&& 31 := by
  have hlt : old.toNat >>> 59 < 32 := by
    rw [Nat.shiftRight_eq_div_pow]
    have := old.toNat_lt
    omega
  rw [UInt64.toNat_toUInt32, UInt64.toNat_shiftRight]
  show (old.toNat >>> 59) % 2 ^ 32 = _
  rw [Nat.and_two_pow_sub_one_eq_mod _ 5, Nat.mod_eq_of_lt hlt, Nat.mod_eq_of_lt (by omega)]

/-- The other count of the rotation. -/
theorem toNat_complement {rot : UInt32} (h : rot.toNat < 32) :
    ((32 - rot) &&& 31).toNat = (32 - rot.toNat) &&& 31 := by
  have hle : rot ≤ 32 := UInt32.le_iff_toNat_le.mpr h.le
  rw [UInt32.toNat_and, UInt32.toNat_sub_of_le _ _ hle]
  rfl

/-- The word that is rotated. -/
theorem toNat_xorshifted (old : UInt64) :
    (((old >>> 18) ^^^ old) >>> 27).toUInt32.toNat =
      (((old.toNat >>> 18) ^^^ old.toNat) >>> 27) &&& Pcg32.MASK32 := by
  rw [and_mask32, UInt64.toNat_toUInt32, UInt64.toNat_shiftRight, UInt64.toNat_xor,
    UInt64.toNat_shiftRight]
  rfl

/-- **A rotation of 32 bits**, in words and under a mask. -/
theorem toNat_rotate (x : UInt32) {rot : UInt32} (h : rot.toNat < 32) :
    ((x >>> rot) ||| (x <<< ((32 - rot) &&& 31))).toNat =
      ((x.toNat >>> rot.toNat) ||| (x.toNat <<< ((32 - rot.toNat) &&& 31))) &&& Pcg32.MASK32 := by
  have hcomplement : (32 - rot.toNat) &&& 31 < 32 := lt_of_le_of_lt Nat.and_le_right (by decide)
  have hright : x.toNat >>> rot.toNat < 2 ^ 32 :=
    lt_of_le_of_lt (Nat.shiftRight_le _ _) x.toNat_lt
  rw [and_mask32, UInt32.toNat_or, UInt32.toNat_shiftRight, UInt32.toNat_shiftLeft,
    toNat_complement h, Nat.mod_eq_of_lt h, Nat.mod_eq_of_lt hcomplement, Nat.or_mod_two_pow,
    Nat.mod_eq_of_lt hright]

/-- **One draw**: the same word, and the generators stay the same. -/
theorem u32_agrees {b : Pcg} {h : Pcg32} (hsame : SameGenerator b h) :
    (prngU32 b).1.toNat = h.u32.1 ∧ SameGenerator (prngU32 b).2 h.u32.2 := by
  obtain ⟨old, inc⟩ := b
  obtain ⟨old', inc'⟩ := h
  obtain ⟨rfl, rfl⟩ : old.toNat = old' ∧ inc.toNat = inc' := ⟨hsame.state, hsame.inc⟩
  have hrot := toNat_rot old
  have hlt : (old >>> 59).toUInt32.toNat < 32 := by
    rw [hrot]
    exact lt_of_le_of_lt Nat.and_le_right (by decide)
  refine ⟨?_, ?_, rfl⟩
  · simp only [prngU32, Pcg32.u32]
    rw [toNat_rotate _ hlt, toNat_xorshifted, hrot]
  · simp only [prngU32, Pcg32.u32]
    rw [and_mask64, UInt64.toNat_add, UInt64.toNat_mul, toNat_multiplier, Nat.mod_add_mod]

/-- **Seeding**, with any two words. -/
theorem init_agrees (seed sequence : UInt64) :
    SameGenerator (prngSeed seed sequence) (Pcg32.init seed.toNat sequence.toNat) := by
  have hinc : ((sequence <<< 1) ||| 1).toNat =
      ((sequence.toNat <<< 1) ||| 1) &&& Pcg32.MASK64 := by
    rw [and_mask64, UInt64.toNat_or, UInt64.toNat_shiftLeft, Nat.or_mod_two_pow]
    rfl
  obtain ⟨-, hfirst⟩ := u32_agrees (b := ⟨0, (sequence <<< 1) ||| 1⟩)
    (h := ⟨0, ((sequence.toNat <<< 1) ||| 1) &&& Pcg32.MASK64⟩) ⟨UInt64.toNat_zero, hinc⟩
  rw [prngSeed, Pcg32.init]
  -- What the first draw leaves does not matter, only that both have it.
  generalize (prngU32 ⟨0, (sequence <<< 1) ||| 1⟩).2 = b at hfirst ⊢
  generalize (Pcg32.u32 ⟨0, ((sequence.toNat <<< 1) ||| 1) &&& Pcg32.MASK64⟩).2 = h at hfirst ⊢
  have hstate : (b.state + seed).toNat =
      (h.state + (seed.toNat &&& Pcg32.MASK64)) &&& Pcg32.MASK64 := by
    rw [UInt64.toNat_add, hfirst.state, and_mask64, and_mask64, Nat.mod_eq_of_lt seed.toNat_lt]
  exact (u32_agrees (b := ⟨b.state + seed, b.inc⟩) (h := ⟨_, h.inc⟩) ⟨hstate, hfirst.inc⟩).2

/-! ### The streams -/

/-- The board's generator behind `n` draws. -/
def boardSeeded (seed sequence : UInt64) (n : ℕ) : Pcg :=
  (fun g ↦ (prngU32 g).2)^[n] (prngSeed seed sequence)

/-- The host's generator behind `n` draws. -/
def hostSeeded (seed sequence n : ℕ) : Pcg32 :=
  (fun g : Pcg32 ↦ g.u32.2)^[n] (Pcg32.init seed sequence)

theorem draws_agree (seed sequence : UInt64) (n : ℕ) :
    SameGenerator (boardSeeded seed sequence n) (hostSeeded seed.toNat sequence.toNat n) := by
  induction n with
  | zero => exact init_agrees seed sequence
  | succ n ih =>
    rw [boardSeeded, hostSeeded, Function.iterate_succ_apply', Function.iterate_succ_apply']
    exact (u32_agrees ih).2

/-- **The two random generators agree**: behind any number of draws they hold the same state, draw
the same word, and make the same fraction in `[0, 1)` of it. -/
theorem generators_agree (seed sequence : UInt64) (n : ℕ) :
    (boardSeeded seed sequence n).state.toNat = (hostSeeded seed.toNat sequence.toNat n).state ∧
      (boardSeeded seed sequence n).inc.toNat = (hostSeeded seed.toNat sequence.toNat n).inc ∧
      (prngU32 (boardSeeded seed sequence n)).1.toNat =
        (hostSeeded seed.toNat sequence.toNat n).u32.1 ∧
      (prngUniform (boardSeeded seed sequence n)).1 =
        (hostSeeded seed.toNat sequence.toNat n).uniform.1 ∧
      0 ≤ (hostSeeded seed.toNat sequence.toNat n).uniform.1 ∧
      (hostSeeded seed.toNat sequence.toNat n).uniform.1 < 1 := by
  obtain ⟨hstate, hinc⟩ := draws_agree seed sequence n
  obtain ⟨hword, -⟩ := u32_agrees (draws_agree seed sequence n)
  set b := boardSeeded seed sequence n
  set h := hostSeeded seed.toNat sequence.toNat n
  have hlt : h.u32.1 >>> 8 < 16777216 := by
    rw [← hword, Nat.shiftRight_eq_div_pow]
    have := (prngU32 b).1.toNat_lt
    omega
  refine ⟨hstate, hinc, hword, ?_, by rw [Pcg32.uniform]; positivity, ?_⟩
  · have hshift : ((prngU32 b).1 >>> 8).toNat = h.u32.1 >>> 8 := by
      rw [← hword, UInt32.toNat_shiftRight]
      rfl
    show (((prngU32 b).1 >>> 8).toNat : ℚ) * (1 / 16777216) = _
    rw [hshift, mul_one_div]
    rfl
  · rw [Pcg32.uniform, div_lt_one (by norm_num)]
    exact_mod_cast hlt

end VertexTestbed.Conformance
