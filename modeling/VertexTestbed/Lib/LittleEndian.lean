import Mathlib

/-!
# Little-endian integer fields

Byte strings are lists of `UInt8`. `leNat` reads a byte string as a little-endian natural number
and `leBytes n v` writes the low `n` bytes of `v`; they are inverse to each other
(`leNat_leBytes`, `leBytes_leNat`). A signed field of `n` bytes is the balanced residue of the
unsigned one, and `packInt` refuses a value that does not fit, the way a checked serializer does.

`fieldAt d i n` is the `n`-byte field at offset `i` of a payload `d`. The lemmas
`fieldAt_append_left` and `fieldAt_append_right` locate a field in a concatenation, which is how an
encoder written as a concatenation is compared with a decoder written as offsets; `fieldAt_flatMap`
does so for a list of records.
-/

/-- A byte string. -/
abbrev Bytes := List UInt8

/-! ### Unsigned fields -/

/-- The little-endian value of a byte string. -/
def leNat : Bytes → ℕ
  | [] => 0
  | b :: bs => b.toNat + 256 * leNat bs

/-- The low `n` bytes of `v`, least significant first. -/
def leBytes : ℕ → ℕ → Bytes
  | 0, _ => []
  | n + 1, v => UInt8.ofNat (v % 256) :: leBytes n (v / 256)

@[simp]
theorem leNat_nil : leNat [] = 0 := rfl

@[simp]
theorem leNat_cons (b : UInt8) (bs : Bytes) : leNat (b :: bs) = b.toNat + 256 * leNat bs :=
  rfl

/-- A field has as many bytes as it is asked for. -/
@[simp]
theorem leBytes_length (n v : ℕ) : (leBytes n v).length = n := by
  induction n generalizing v with
  | zero => rfl
  | succ n ih => simp [leBytes, ih]

/-- What is read fits the bytes it was read from. -/
theorem leNat_lt (bs : Bytes) : leNat bs < 256 ^ bs.length := by
  induction bs with
  | nil => simp
  | cons b bs ih =>
    have hb := b.toNat_lt
    rw [leNat_cons, List.length_cons, pow_succ]
    omega

/-- Reading back a written field gives the value modulo the field's width. -/
theorem leNat_leBytes (n v : ℕ) : leNat (leBytes n v) = v % 256 ^ n := by
  induction n generalizing v with
  | zero => simp [leBytes, Nat.mod_one]
  | succ n ih =>
    have hdigit : (UInt8.ofNat (v % 256)).toNat = v % 256 := by
      rw [UInt8.toNat_ofNat']
      exact Nat.mod_mod_of_dvd _ (dvd_refl _)
    rw [leBytes, leNat_cons, hdigit, ih, pow_succ, Nat.mul_comm (256 ^ n) 256, Nat.mod_mul]

/-- **What fits is read back.** -/
theorem leNat_leBytes_of_lt {n v : ℕ} (h : v < 256 ^ n) : leNat (leBytes n v) = v := by
  rw [leNat_leBytes, Nat.mod_eq_of_lt h]

/-- Writing the value of a byte string gives the byte string back. -/
theorem leBytes_leNat (bs : Bytes) : leBytes bs.length (leNat bs) = bs := by
  induction bs with
  | nil => rfl
  | cons b bs ih =>
    have hb := b.toNat_lt
    have hmod : (b.toNat + 256 * leNat bs) % 256 = b.toNat := by omega
    have hdiv : (b.toNat + 256 * leNat bs) / 256 = leNat bs := by omega
    rw [List.length_cons, leBytes, leNat_cons, hmod, hdiv, ih, UInt8.ofNat_toNat]

/-! ### Signed fields -/

/-- The two's-complement value of an `n`-byte field. -/
def leInt (bs : Bytes) : ℤ :=
  (leNat bs : ℤ).bmod (256 ^ bs.length)

/-- A signed integer that fits `n` bytes, written out; `none` when it does not fit. -/
def packInt (n : ℕ) (v : ℤ) : Option Bytes :=
  if -(256 ^ n : ℤ) ≤ 2 * v ∧ 2 * v < 256 ^ n then
    some (leBytes n (v % 256 ^ n).toNat)
  else none

/-- A signed field has as many bytes as it is asked for. -/
theorem packInt_length {n : ℕ} {v : ℤ} {bs : Bytes} (h : packInt n v = some bs) :
    bs.length = n := by
  rw [packInt] at h
  split_ifs at h
  rw [← Option.some.inj h, leBytes_length]

/-- A packed integer is read back as itself. -/
theorem leInt_of_packInt {n : ℕ} {v : ℤ} {bs : Bytes} (h : packInt n v = some bs) :
    leInt bs = v := by
  have hlen := packInt_length h
  rw [packInt] at h
  split_ifs at h with hfits
  obtain ⟨hlo, hhi⟩ := hfits
  have hpos : (0 : ℤ) < 256 ^ n := by positivity
  have hnonneg := Int.emod_nonneg v hpos.ne'
  have hlt := Int.emod_lt_of_pos v hpos
  have hnat : (v % 256 ^ n).toNat < 256 ^ n := by
    zify
    rw [Int.toNat_of_nonneg hnonneg]
    exact hlt
  rw [leInt, hlen, ← Option.some.inj h, leNat_leBytes_of_lt hnat, Int.toNat_of_nonneg hnonneg,
    show (256 ^ n : ℤ) = ((256 ^ n : ℕ) : ℤ) by push_cast; rfl, Int.emod_bmod]
  refine Int.bmod_eq_of_le_mul_two ?_ ?_
  · push_cast; omega
  · push_cast; omega

/-! ### Fields of a payload -/

/-- The byte at offset `i`, zero past the end. -/
def byteAt (d : Bytes) (i : ℕ) : UInt8 :=
  d.getD i 0

/-- The `n`-byte field at offset `i`. -/
def fieldAt (d : Bytes) (i n : ℕ) : Bytes :=
  (d.drop i).take n

@[simp]
theorem byteAt_cons_zero (b : UInt8) (d : Bytes) : byteAt (b :: d) 0 = b := rfl

@[simp]
theorem byteAt_cons_succ (b : UInt8) (d : Bytes) (i : ℕ) :
    byteAt (b :: d) (i + 1) = byteAt d i := by
  simp [byteAt]

/-- A field that starts where the second part does. -/
theorem fieldAt_append_right {a b : Bytes} {i n : ℕ} (hi : a.length ≤ i) :
    fieldAt (a ++ b) i n = fieldAt b (i - a.length) n := by
  rw [fieldAt, fieldAt, List.drop_append, List.drop_eq_nil_of_le hi, List.nil_append]

/-- A field that is the whole first part. -/
theorem fieldAt_append_left {a b : Bytes} {n : ℕ} (hn : a.length = n) :
    fieldAt (a ++ b) 0 n = a := by
  rw [fieldAt, List.drop_zero, List.take_append_of_le_length hn.ge, List.take_of_length_le hn.le]

/-- A field inside the first part. -/
theorem fieldAt_append_of_le {a b : Bytes} {i n : ℕ} (h : i + n ≤ a.length) :
    fieldAt (a ++ b) i n = fieldAt a i n := by
  rw [fieldAt, fieldAt, List.drop_append_of_le_length (by omega),
    List.take_append_of_le_length (by simp; omega)]

/-- A field inside one of a list of records of one width. -/
theorem fieldAt_flatMap {α : Type*} {f : α → Bytes} {w : ℕ} {l : List α}
    (hwidth : ∀ a ∈ l, (f a).length = w) {k : ℕ} {a : α} (hk : l[k]? = some a) {j n : ℕ}
    (hj : j + n ≤ w) : fieldAt (l.flatMap f) (k * w + j) n = fieldAt (f a) j n := by
  induction l generalizing k with
  | nil => cases hk
  | cons b l ih =>
    have hb := hwidth b List.mem_cons_self
    rw [List.flatMap_cons]
    cases k with
    | zero =>
      obtain rfl := Option.some.inj hk
      rw [Nat.zero_mul, Nat.zero_add, fieldAt_append_of_le (by omega)]
    | succ k =>
      have hshift : (k + 1) * w + j - (f b).length = k * w + j := by
        rw [hb, Nat.succ_mul]
        omega
      rw [fieldAt_append_right (by rw [hb, Nat.succ_mul]; omega), hshift]
      exact ih (fun a ha ↦ hwidth a (List.mem_cons_of_mem _ ha)) hk

/-- Two fields side by side are one. -/
theorem fieldAt_add (d : Bytes) (i m n : ℕ) :
    fieldAt d i (m + n) = fieldAt d i m ++ fieldAt d (i + m) n := by
  rw [fieldAt, fieldAt, fieldAt, List.take_add, List.drop_drop]

/-- All of it is a field. -/
theorem fieldAt_all (d : Bytes) : fieldAt d 0 d.length = d := by
  rw [fieldAt, List.drop_zero, List.take_length]

/-- A field within the data has its length. -/
theorem fieldAt_length {d : Bytes} {i n : ℕ} (h : i + n ≤ d.length) :
    (fieldAt d i n).length = n := by
  rw [fieldAt, List.length_take, List.length_drop]
  omega

/-- A field of one byte. -/
theorem fieldAt_one {d : Bytes} {i : ℕ} (h : i < d.length) : fieldAt d i 1 = [byteAt d i] := by
  rw [fieldAt, byteAt, List.getD_eq_getElem _ _ h, List.drop_eq_getElem_cons h]
  rfl

/-- The field behind a part of a known length. -/
theorem fieldAt_behind {a b : Bytes} {i n : ℕ} (ha : a.length = i) (j : ℕ) :
    fieldAt (a ++ b) (i + j) n = fieldAt b j n := by
  rw [fieldAt_append_right (by omega), ha, Nat.add_sub_cancel_left]

/-- The last field, behind a part of a known length. -/
theorem fieldAt_last {a b : Bytes} {i n : ℕ} (ha : a.length = i) (hb : b.length = n) :
    fieldAt (a ++ b) i n = b := by
  rw [← Nat.add_zero i, fieldAt_behind ha, ← hb, fieldAt_all]

/-- The byte behind a part of a known length. -/
theorem byteAt_behind {a b : Bytes} {i : ℕ} (ha : a.length = i) (j : ℕ) :
    byteAt (a ++ b) (i + j) = byteAt b j := by
  rw [byteAt, byteAt, ← ha, List.getD_append_right _ _ _ _ (Nat.le_add_right _ _),
    Nat.add_sub_cancel_left]

/-- A byte before a cut. -/
theorem byteAt_take {d : Bytes} {i n : ℕ} (h : i < n) : byteAt (d.take n) i = byteAt d i := by
  rw [byteAt, byteAt, List.getD_eq_getElem?_getD, List.getD_eq_getElem?_getD,
    List.getElem?_take_of_lt h]

/-- A field before a cut. -/
theorem fieldAt_take {d : Bytes} {i k n : ℕ} (h : i + k ≤ n) :
    fieldAt (d.take n) i k = fieldAt d i k := by
  rw [fieldAt, fieldAt, List.drop_take, List.take_take, min_eq_left (by omega)]

/-- A field reads as a number that fits it. -/
theorem leNat_fieldAt_lt (d : Bytes) (i n : ℕ) : leNat (fieldAt d i n) < 256 ^ n := by
  have hlen : (fieldAt d i n).length ≤ n := by
    rw [fieldAt, List.length_take]
    exact min_le_left _ _
  calc leNat (fieldAt d i n) < 256 ^ (fieldAt d i n).length := leNat_lt _
    _ ≤ 256 ^ n := Nat.pow_le_pow_right (by norm_num) hlen

/-! ### Rows of signed fields -/

/-- A row of signed `n`-byte fields, `none` when one of them does not fit. -/
def packInts (n : ℕ) : List ℤ → Option Bytes
  | [] => some []
  | v :: vs => do
    let b ← packInt n v
    let bs ← packInts n vs
    return b ++ bs

/-- A row is written when every value fits. -/
theorem packInts_isSome {n : ℕ} {vs : List ℤ} :
    (∃ bs, packInts n vs = some bs) ↔ ∀ v ∈ vs, -(256 ^ n : ℤ) ≤ 2 * v ∧ 2 * v < 256 ^ n := by
  induction vs with
  | nil => exact ⟨fun _ v hv ↦ absurd hv List.not_mem_nil, fun _ ↦ ⟨_, rfl⟩⟩
  | cons w vs ih =>
    rw [List.forall_mem_cons, ← ih]
    simp only [packInts, Option.bind_eq_bind, Option.bind_eq_some_iff, Option.pure_def,
      Option.some.injEq]
    constructor
    · rintro ⟨_, b, hb, rest, hrest, -⟩
      rw [packInt] at hb
      split_ifs at hb with hfits
      exact ⟨hfits, rest, hrest⟩
    · rintro ⟨hfits, rest, hrest⟩
      exact ⟨_, _, if_pos hfits, rest, hrest, rfl⟩

/-- Signed fields one after another have the lengths together. -/
theorem packInts_length {n : ℕ} {vs : List ℤ} {bs : Bytes} (h : packInts n vs = some bs) :
    bs.length = n * vs.length := by
  induction vs generalizing bs with
  | nil =>
    cases h
    simp
  | cons v vs ih =>
    simp only [packInts, Option.bind_eq_bind, Option.bind_eq_some_iff, Option.pure_def,
      Option.some.injEq] at h
    obtain ⟨b, hb, rest, hrest, rfl⟩ := h
    rw [List.length_append, packInt_length hb, ih hrest, List.length_cons]
    ring

/-- The `k`-th field of a packed row, behind a header, is the `k`-th value. -/
theorem leInt_fieldAt_packInts {n : ℕ} {head : Bytes} {vs : List ℤ} {bs : Bytes}
    (h : packInts n vs = some bs) {k : ℕ} (hk : k < vs.length) :
    leInt (fieldAt (head ++ bs) (head.length + n * k) n) = vs[k] := by
  rw [fieldAt_append_right (Nat.le_add_right _ _), Nat.add_sub_cancel_left]
  induction vs generalizing bs k with
  | nil => simp at hk
  | cons v vs ih =>
    simp only [packInts, Option.bind_eq_bind, Option.bind_eq_some_iff, Option.pure_def,
      Option.some.injEq] at h
    obtain ⟨b, hb, rest, hrest, rfl⟩ := h
    have hlen := packInt_length hb
    cases k with
    | zero =>
      rw [Nat.mul_zero, fieldAt_append_left hlen, leInt_of_packInt hb]
      rfl
    | succ k =>
      rw [fieldAt_append_right (by rw [hlen, Nat.mul_add]; omega), hlen,
        show n * (k + 1) - n = n * k by rw [Nat.mul_add]; omega, ih hrest (by simpa using hk)]
      rfl
