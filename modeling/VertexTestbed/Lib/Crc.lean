import Mathlib

/-!
# Cyclic redundancy checks

A shift register of width `w` over a generator polynomial, fed a byte at a time through its top
bits. Nothing here fixes the width, the polynomial or the initial remainder.

The register is linear over exclusive or (`shift_xor`), so the remainders of two messages differ by
the remainder of their difference, from zero (`digest_xor`), and detecting a corruption is a
statement about its difference alone. Two kinds of difference are never missed:

* **an odd number of bits** (`digest_ne_of_odd_flips`), when the feedback taps are odd in number:
  the register then keeps the parity of what it holds (`weight_shift`);
* **anything within two neighbouring bytes** (`digest_ne_of_withinTwo`), when the register is at
  least 16 bits wide and its polynomial has a constant term: shifting is then injective
  (`shift_eq_zero_iff`), and two bytes are two disjoint fields of one remainder (`absorb_two_ne`).
-/

namespace Crc

variable {w : ℕ}

/-- One shift of the remainder. -/
def shift (poly r : BitVec w) : BitVec w :=
  if r.msb then r <<< 1 ^^^ poly else r <<< 1

/-- A byte in the top bits of the register. -/
def top (w : ℕ) (byte : UInt8) : BitVec w :=
  byte.toBitVec.setWidth w <<< (w - 8)

/-- One byte. -/
def absorb (poly r : BitVec w) (byte : UInt8) : BitVec w :=
  (shift poly)^[8] (r ^^^ top w byte)

/-- The remainder behind a message. -/
def digest (poly r : BitVec w) (data : List UInt8) : BitVec w :=
  data.foldl (absorb poly) r

variable (poly : BitVec w)

/-! ### Linearity -/

theorem shift_zero : shift poly 0#w = 0#w := by
  rw [shift, BitVec.msb_zero, if_neg Bool.false_ne_true, BitVec.zero_shiftLeft]

theorem xor_xor_cancel (a b c : BitVec w) : a ^^^ c ^^^ (b ^^^ c) = a ^^^ b := by
  rw [BitVec.xor_assoc, BitVec.xor_comm b c, ← BitVec.xor_assoc c, BitVec.xor_self,
    BitVec.zero_xor]

/-- **Shifting is linear.** -/
theorem shift_xor (a b : BitVec w) : shift poly (a ^^^ b) = shift poly a ^^^ shift poly b := by
  simp only [shift, BitVec.msb_xor, BitVec.shiftLeft_xor_distrib]
  cases a.msb <;> cases b.msb <;>
    simp only [Bool.xor_false, Bool.xor_true, Bool.not_false, Bool.not_true, Bool.false_eq_true,
      if_true, if_false]
  · rw [BitVec.xor_assoc]
  · rw [BitVec.xor_assoc, BitVec.xor_assoc, BitVec.xor_comm poly]
  · rw [xor_xor_cancel]

/-- A clear register stays clear. -/
theorem iterate_shift_zero (k : ℕ) : (shift poly)^[k] 0#w = 0#w :=
  Function.iterate_fixed (shift_zero poly) k

/-- Shifting is linear, any number of times. -/
theorem iterate_shift_xor (k : ℕ) (a b : BitVec w) :
    (shift poly)^[k] (a ^^^ b) = (shift poly)^[k] a ^^^ (shift poly)^[k] b := by
  induction k generalizing a b with
  | zero => rfl
  | succ k ih => rw [Function.iterate_succ_apply, shift_xor, ih]; rfl

/-- Loading a byte is linear. -/
theorem top_xor (x y : UInt8) : top w (x ^^^ y) = top w x ^^^ top w y := by
  rw [top, UInt8.toBitVec_xor, BitVec.setWidth_xor, BitVec.shiftLeft_xor_distrib]
  rfl

theorem top_zero : top w 0 = 0#w := by
  rw [top, UInt8.toBitVec_zero, BitVec.setWidth_zero, BitVec.zero_shiftLeft]

/-- Absorbing a byte is linear. -/
theorem absorb_xor (a b : BitVec w) (x y : UInt8) :
    absorb poly (a ^^^ b) (x ^^^ y) = absorb poly a x ^^^ absorb poly b y := by
  have hswap : a ^^^ b ^^^ (top w x ^^^ top w y) = a ^^^ top w x ^^^ (b ^^^ top w y) := by
    rw [BitVec.xor_assoc, BitVec.xor_assoc, ← BitVec.xor_assoc b, BitVec.xor_comm b,
      BitVec.xor_assoc (top w x)]
  rw [absorb, top_xor, hswap, iterate_shift_xor]
  rfl

/-- The bytes in which two messages differ, as what turns one into the other. -/
def difference (xs ys : List UInt8) : List UInt8 :=
  List.zipWith (· ^^^ ·) xs ys

/-- **The remainders of two messages differ by the remainder of their difference.** -/
theorem digest_xor (a b : BitVec w) {xs ys : List UInt8} (h : xs.length = ys.length) :
    digest poly (a ^^^ b) (difference xs ys) = digest poly a xs ^^^ digest poly b ys := by
  induction xs generalizing a b ys with
  | nil =>
    cases ys with
    | nil => rfl
    | cons y ys => cases h
  | cons x xs ih =>
    cases ys with
    | nil => cases h
    | cons y ys =>
      have hrest := ih (absorb poly a x) (absorb poly b y) (Nat.succ.inj h)
      rw [← absorb_xor] at hrest
      exact hrest

/-- A message is absorbed byte by byte. -/
theorem digest_append (r : BitVec w) (xs ys : List UInt8) :
    digest poly r (xs ++ ys) = digest poly (digest poly r xs) ys :=
  List.foldl_append

/-- Two messages with a common beginning have the same remainder exactly when their difference has
none. -/
theorem digest_append_eq_iff (r : BitVec w) (head : List UInt8) {xs ys : List UInt8}
    (h : xs.length = ys.length) :
    digest poly r (head ++ xs) = digest poly r (head ++ ys) ↔
      digest poly 0#w (difference xs ys) = 0#w := by
  have hdiff := digest_xor poly (digest poly r head) (digest poly r head) h
  rw [BitVec.xor_self] at hdiff
  rw [digest_append, digest_append, hdiff, BitVec.xor_eq_zero_iff]

/-! ### Parity -/

/-- How many bits are set. -/
def weight (r : BitVec w) : ℕ :=
  ∑ i ∈ Finset.range w, (r.getLsbD i).toNat

/-- In how many bits two messages differ. -/
def flips (xs ys : List UInt8) : ℕ :=
  ((difference xs ys).map fun byte ↦ weight byte.toBitVec).sum

theorem weight_zero : weight 0#w = 0 :=
  Finset.sum_eq_zero fun i _ ↦ by rw [BitVec.getLsbD_zero]; rfl

/-- Exclusive or is addition modulo two. -/
theorem cast_toNat_xor (a b : Bool) :
    (((a ^^ b).toNat : ℕ) : ZMod 2) = (a.toNat : ZMod 2) + (b.toNat : ZMod 2) := by
  cases a <;> cases b <;> rfl

/-- Modulo two the weight is additive. -/
theorem weight_xor (a b : BitVec w) :
    (weight (a ^^^ b) : ZMod 2) = (weight a : ZMod 2) + (weight b : ZMod 2) := by
  simp only [weight, Nat.cast_sum, BitVec.getLsbD_xor, cast_toNat_xor]
  exact Finset.sum_add_distrib

/-- A shift to the left loses the top bit. -/
theorem weight_eq_shiftLeft_add (r : BitVec w) :
    weight r = weight (r <<< 1) + r.msb.toNat := by
  cases w with
  | zero => rw [BitVec.of_length_zero (x := r)]; rfl
  | succ n =>
    have hbit : ∀ i ∈ Finset.range n, ((r <<< 1).getLsbD (i + 1)).toNat = (r.getLsbD i).toNat := by
      intro i hi
      have hlt : i + 1 < n + 1 := Nat.succ_lt_succ (Finset.mem_range.mp hi)
      rw [BitVec.getLsbD_shiftLeft]
      simp [hlt]
    have hlow : ((r <<< 1).getLsbD 0).toNat = 0 := by
      rw [BitVec.getLsbD_shiftLeft]
      simp
    rw [weight, weight, Finset.sum_range_succ, Finset.sum_range_succ', Finset.sum_congr rfl hbit,
      hlow, BitVec.msb_eq_getLsbD_last]
    rfl

/-- **The register keeps the parity of what it holds**, if its feedback taps are odd in number. -/
theorem weight_shift {poly : BitVec w} (hodd : Odd (weight poly)) (r : BitVec w) :
    (weight (shift poly r) : ZMod 2) = (weight r : ZMod 2) := by
  rw [weight_eq_shiftLeft_add r, shift]
  cases r.msb with
  | false => simp
  | true =>
    have hpoly : (weight poly : ZMod 2) = 1 := ZMod.natCast_eq_one_iff_odd.mpr hodd
    rw [if_pos rfl, weight_xor, hpoly, Nat.cast_add]
    rfl

/-- **Shifting keeps the parity of the weight**, where the polynomial has an odd number of taps. -/
theorem weight_iterate_shift {poly : BitVec w} (hodd : Odd (weight poly)) (k : ℕ) (r : BitVec w) :
    (weight ((shift poly)^[k] r) : ZMod 2) = (weight r : ZMod 2) := by
  induction k generalizing r with
  | zero => rfl
  | succ k ih => rw [Function.iterate_succ_apply, ih, weight_shift hodd]

/-- A byte keeps its bits on its way to the top. -/
theorem weight_top (hw : 8 ≤ w) (byte : UInt8) : weight (top w byte) = weight byte.toBitVec := by
  obtain ⟨n, rfl⟩ := Nat.exists_eq_add_of_le' hw
  have hlow : ∀ i ∈ Finset.range n, ((top (n + 8) byte).getLsbD i).toNat = 0 := by
    intro i hi
    have hlt := Finset.mem_range.mp hi
    simp [top, hlt]
  have hhigh : ∀ i ∈ Finset.range 8,
      ((top (n + 8) byte).getLsbD (n + i)).toNat = (byte.toBitVec.getLsbD i).toNat := by
    intro i hi
    have hlt := Finset.mem_range.mp hi
    simp [top, hlt]
  rw [weight, Finset.sum_range_add, Finset.sum_eq_zero hlow, Finset.sum_congr rfl hhigh, zero_add]
  rfl

/-- So the parity of the digest is that of the message and the start value. -/
theorem weight_digest {poly : BitVec w} (hodd : Odd (weight poly)) (hw : 8 ≤ w) (r : BitVec w)
    (data : List UInt8) :
    (weight (digest poly r data) : ZMod 2) =
      (weight r : ZMod 2) + ((data.map fun byte ↦ weight byte.toBitVec).sum : ℕ) := by
  induction data generalizing r with
  | nil => simp [digest]
  | cons byte data ih =>
    have hrest := ih (absorb poly r byte)
    rw [absorb, weight_iterate_shift hodd, weight_xor, weight_top hw] at hrest
    rw [List.map_cons, List.sum_cons, Nat.cast_add, ← add_assoc]
    exact hrest

/-- **An odd number of flipped bits is detected.** -/
theorem digest_ne_of_odd_flips {poly : BitVec w} (hodd : Odd (weight poly)) (hw : 8 ≤ w)
    (r : BitVec w) (head : List UInt8) {xs ys : List UInt8} (hlen : xs.length = ys.length)
    (h : Odd (flips xs ys)) : digest poly r (head ++ xs) ≠ digest poly r (head ++ ys) := by
  intro heq
  have hzero := (digest_append_eq_iff poly r head hlen).mp heq
  have hparity := weight_digest hodd hw 0#w (difference xs ys)
  rw [hzero, weight_zero, Nat.cast_zero, zero_add] at hparity
  have hone : ((flips xs ys : ℕ) : ZMod 2) = 1 := ZMod.natCast_eq_one_iff_odd.mpr h
  exact zero_ne_one (hparity.trans hone)

/-! ### Two neighbouring bytes -/

/-- The messages agree but for two neighbouring bytes. -/
def WithinTwo (xs ys : List UInt8) : Prop :=
  ∃ i, ∀ j, j ≠ i → j ≠ i + 1 → xs[j]? = ys[j]?

/-- **Shifting loses nothing** if the polynomial has a constant term: a remainder that a shift
clears was clear before. -/
theorem shift_eq_zero_iff {poly : BitVec w} (hconst : poly.getLsbD 0 = true) (r : BitVec w) :
    shift poly r = 0#w ↔ r = 0#w := by
  refine ⟨fun h ↦ ?_, fun h ↦ by rw [h, shift_zero]⟩
  have hmsb : r.msb = false := by
    -- A shift that feeds back sets the lowest bit.
    by_contra htop
    rw [shift, if_pos (Bool.eq_true_of_not_eq_false htop)] at h
    have hbit := congrArg (BitVec.getLsbD · 0) h
    simp [hconst] at hbit
  rw [shift, hmsb, if_neg Bool.false_ne_true] at h
  refine BitVec.eq_of_getLsbD_eq fun i hi ↦ ?_
  rw [BitVec.getLsbD_zero]
  by_cases hlast : i + 1 < w
  · have hbit := congrArg (BitVec.getLsbD · (i + 1)) h
    simpa [hlast, BitVec.getLsbD_eq_getElem hi] using hbit
  · have hi' : i = w - 1 := by omega
    rw [hi', ← BitVec.msb_eq_getLsbD_last, hmsb]

/-- Shifting clears no remainder, any number of times. -/
theorem iterate_shift_eq_zero_iff {poly : BitVec w} (hconst : poly.getLsbD 0 = true) (k : ℕ)
    (r : BitVec w) : (shift poly)^[k] r = 0#w ↔ r = 0#w := by
  induction k generalizing r with
  | zero => exact Iff.rfl
  | succ k ih => rw [Function.iterate_succ_apply, ih, shift_eq_zero_iff hconst]

/-- While it has not reached the top, a byte moves up unchanged. -/
theorem iterate_shift_byte (byte : UInt8) {m k : ℕ} (h : m + k + 8 ≤ w) :
    (shift poly)^[k] (byte.toBitVec.setWidth w <<< m) = byte.toBitVec.setWidth w <<< (m + k) := by
  induction k with
  | zero => rfl
  | succ k ih =>
    have hmsb : (byte.toBitVec.setWidth w <<< (m + k)).msb = false := by
      have hhigh : 8 ≤ w - 1 - (m + k) := by omega
      rw [BitVec.msb_eq_getLsbD_last, BitVec.getLsbD_shiftLeft, BitVec.getLsbD_setWidth,
        BitVec.getLsbD_of_ge _ _ hhigh]
      simp
    rw [Function.iterate_succ_apply', ih (by omega), shift, hmsb, if_neg Bool.false_ne_true,
      ← BitVec.shiftLeft_add, add_assoc]

/-- **Two bytes are two fields of one remainder**: absorbed one after the other into a clear
register of 16 bits or more, they leave it clear only if both are zero. -/
theorem absorb_two_ne {poly : BitVec w} (hconst : poly.getLsbD 0 = true) (hw : 16 ≤ w)
    {x y : UInt8} (h : absorb poly (absorb poly 0#w x) y = 0#w) : x = 0 ∧ y = 0 := by
  -- Eight shifts ago the second byte was where the first one ends.
  have hy : top w y = (shift poly)^[8] (y.toBitVec.setWidth w <<< (w - 16)) := by
    rw [iterate_shift_byte poly y (by omega), top]
    congr 1
    omega
  rw [absorb, absorb, BitVec.zero_xor, hy, ← iterate_shift_xor,
    iterate_shift_eq_zero_iff hconst, iterate_shift_eq_zero_iff hconst,
    BitVec.xor_eq_zero_iff] at h
  have hx0 : x = 0 := by
    refine UInt8.toBitVec_inj.mp (BitVec.eq_of_getLsbD_eq fun i hi ↦ ?_)
    have hbit := congrArg (BitVec.getLsbD · (w - 8 + i)) h
    have hin : w - 8 + i < w := by omega
    have hbeyond : 8 ≤ w - 8 + i - (w - 16) := by omega
    simpa [top, hin, BitVec.getLsbD_of_ge _ _ hbeyond] using hbit
  refine ⟨hx0, UInt8.toBitVec_inj.mp (BitVec.eq_of_getLsbD_eq fun i hi ↦ ?_)⟩
  rw [hx0, top_zero] at h
  have hbit := congrArg (BitVec.getLsbD · (w - 16 + i)) h
  have hin : w - 16 + i < w := by omega
  have hin' : i < w := by omega
  simpa [hin, hin'] using hbit.symm

/-- Zeros only shift. -/
theorem digest_zeros (r : BitVec w) {data : List UInt8} (h : ∀ byte ∈ data, byte = 0) :
    digest poly r data = (shift poly)^[8 * data.length] r := by
  induction data generalizing r with
  | nil => rfl
  | cons byte data ih =>
    have hfirst : absorb poly r byte = (shift poly)^[8] r := by
      rw [h byte List.mem_cons_self, absorb, top_zero, BitVec.xor_zero]
    have hrest := ih (absorb poly r byte) fun b hb ↦ h b (List.mem_cons_of_mem _ hb)
    rw [hfirst, ← Function.iterate_add_apply] at hrest
    rw [List.length_cons, Nat.mul_succ, ← hrest, ← hfirst]
    rfl

/-- A message that is zero behind its first two bytes and leaves nothing in a clear register is zero
in these two as well. -/
theorem eq_zero_of_digest {poly : BitVec w} (hconst : poly.getLsbD 0 = true) (hw : 16 ≤ w)
    {data : List UInt8} (htail : ∀ byte ∈ data.drop 2, byte = 0)
    (h : digest poly 0#w data = 0#w) : ∀ byte ∈ data, byte = 0 := by
  cases data with
  | nil => exact fun byte hbyte ↦ absurd hbyte List.not_mem_nil
  | cons x data =>
    cases data with
    | nil =>
      have hclear : absorb poly 0#w 0 = 0#w := by
        rw [absorb, top_zero, BitVec.xor_zero, iterate_shift_zero]
      have htwo : absorb poly (absorb poly 0#w 0) x = 0#w := by
        rw [hclear]
        exact h
      simpa using (absorb_two_ne hconst hw htwo).2
    | cons y rest =>
      have hrest : ∀ byte ∈ rest, byte = 0 := htail
      have hshift : (shift poly)^[8 * rest.length] (absorb poly (absorb poly 0#w x) y) = 0#w := by
        rw [← digest_zeros poly _ hrest]
        exact h
      rw [iterate_shift_eq_zero_iff hconst] at hshift
      obtain ⟨rfl, rfl⟩ := absorb_two_ne hconst hw hshift
      simpa using hrest

/-- Messages that differ nowhere are the same. -/
theorem eq_of_difference_zero {xs ys : List UInt8} (hlen : xs.length = ys.length)
    (h : ∀ byte ∈ difference xs ys, byte = 0) : xs = ys := by
  induction xs generalizing ys with
  | nil => exact (List.length_eq_zero_iff.mp hlen.symm).symm
  | cons x xs ih =>
    cases ys with
    | nil => cases hlen
    | cons y ys =>
      have hxy : x = y := UInt8.xor_eq_zero_iff.mp (h _ List.mem_cons_self)
      rw [hxy, ih (Nat.succ.inj hlen) fun b hb ↦ h b (List.mem_cons_of_mem _ hb)]

/-- Where two messages agree, their difference is zero. -/
theorem difference_eq_zero {xs ys : List UInt8} {j : ℕ} {byte : UInt8} (h : xs[j]? = ys[j]?)
    (hbyte : (difference xs ys)[j]? = some byte) : byte = 0 := by
  obtain ⟨x, y, hx, hy, rfl⟩ := List.getElem?_zipWith_eq_some.mp hbyte
  rw [h, hy] at hx
  rw [Option.some.inj hx]
  exact UInt8.xor_self

/-- **Any corruption within two neighbouring bytes is detected.** -/
theorem digest_ne_of_withinTwo {poly : BitVec w} (hconst : poly.getLsbD 0 = true) (hw : 16 ≤ w)
    (r : BitVec w) (head : List UInt8) {xs ys : List UInt8} (hlen : xs.length = ys.length)
    (hne : xs ≠ ys) (h : WithinTwo xs ys) :
    digest poly r (head ++ xs) ≠ digest poly r (head ++ ys) := by
  intro heq
  have hzero := (digest_append_eq_iff poly r head hlen).mp heq
  obtain ⟨i, hi⟩ := h
  have hlead : ∀ byte ∈ (difference xs ys).take i, byte = 0 := by
    intro byte hbyte
    obtain ⟨j, hj⟩ := List.mem_iff_getElem?.mp hbyte
    rw [List.getElem?_take] at hj
    split_ifs at hj with hji
    exact difference_eq_zero (hi j (by omega) (by omega)) hj
  have htail : ∀ byte ∈ ((difference xs ys).drop i).drop 2, byte = 0 := by
    intro byte hbyte
    obtain ⟨j, hj⟩ := List.mem_iff_getElem?.mp hbyte
    rw [List.getElem?_drop, List.getElem?_drop] at hj
    exact difference_eq_zero (hi _ (by omega) (by omega)) hj
  have hmiddle : ∀ byte ∈ (difference xs ys).drop i, byte = 0 := by
    refine eq_zero_of_digest hconst hw htail ?_
    rw [← List.take_append_drop i (difference xs ys), digest_append, digest_zeros poly _ hlead,
      iterate_shift_zero] at hzero
    exact hzero
  refine hne (eq_of_difference_zero hlen fun byte hbyte ↦ ?_)
  rw [← List.take_append_drop i (difference xs ys), List.mem_append] at hbyte
  exact hbyte.elim (hlead byte) (hmiddle byte)

end Crc
