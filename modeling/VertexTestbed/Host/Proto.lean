import VertexTestbed.Lib.LittleEndian
import VertexTestbed.Lib.ExceptMonad

/-!
# The framed protocol, host side: frame types and outbound payloads

The configuration half of `serial/proto.py`. An encoder either returns a payload or raises, so it is
an `Except`; `ProtoError` carries the text the source raises with, and the two other constructors
are the errors of the standard library that reach the caller from `bytes` and `struct.pack`. The
parser and the frame builder are in `Host.FrameParser`.

The source's keyword arguments arrive as a record; `_mg_block`, which checks that the keywords are
exactly the expected ones, has nothing left to check.
-/

namespace VertexTestbed.Host

/-! ### Frame types -/

/-- `FrameType`. -/
inductive FrameType where
  | network
  | algorithm
  | disturbance
  | control
  | advTx
  | radio
  | ping
  | statsReq
  | mgPlant
  | mgVirtual
  | mgIface
  | txat
  | advReport
  | state
  | ack
  | err
  | pong
  | stats
  deriving DecidableEq

/-- The byte of a frame type. -/
def FrameType.value : FrameType → UInt8
  | .network => 0x4E
  | .algorithm => 0x41
  | .disturbance => 0x44
  | .control => 0x53
  | .advTx => 0x54
  | .radio => 0x52
  | .ping => 0x50
  | .statsReq => 0x51
  | .mgPlant => 0x47
  | .mgVirtual => 0x56
  | .mgIface => 0x49
  | .txat => 0x74
  | .advReport => 0x72
  | .state => 0x78
  | .ack => 0x6B
  | .err => 0x65
  | .pong => 0x70
  | .stats => 0x71

/-- `MAX_NEIGHBORS`, the longest neighbour list a NETWORK frame carries. -/
def maxNeighbors : ℕ := 16

/-! ### Errors -/

/-- What an encoder raises. -/
inductive EncodeError where
  /-- `ProtoError`, with its text. -/
  | proto (message : String)
  /-- `ValueError` of `bytes`: an element outside `range(0, 256)`. -/
  | byteRange
  /-- `struct.error`: a value the format does not hold. -/
  | structRange
  deriving DecidableEq

/-- `raise` behind a test. -/
def raiseIf (p : Prop) [Decidable p] (e : EncodeError) : Except EncodeError Unit :=
  if p then .error e else .ok ()

/-- One element of `bytes([...])`. -/
def byteOf (v : ℤ) : Except EncodeError UInt8 :=
  if 0 ≤ v ∧ v < 256 then .ok (UInt8.ofNat v.toNat) else .error .byteRange

/-- `struct.pack("<{n}i", ...)`. -/
def packI32s (vs : List ℤ) : Except EncodeError Bytes :=
  match packInts 4 vs with
  | some bs => .ok bs
  | none => .error .structRange

/-- `1 if flag else 0`. -/
def flagByte (flag : Bool) : UInt8 :=
  if flag then 1 else 0

/-! ### The encoders -/

/-- `encode_network`. -/
def encodeNetwork (enabled : Bool) (node_id : ℤ) (neighbors : List ℤ) :
    Except EncodeError Bytes := do
  raiseIf (¬(1 ≤ node_id ∧ node_id ≤ 255))
    (.proto ("node_id must be 1..255, got " ++ toString node_id))
  raiseIf (maxNeighbors < neighbors.length)
    (.proto (toString neighbors.length ++ " neighbours exceeds " ++ toString maxNeighbors))
  let node ← byteOf node_id
  let ids ← neighbors.mapM byteOf
  return flagByte enabled :: node :: ids

/-- The keywords of `encode_algorithm`. -/
structure AlgorithmFields where
  dt_ms : ℤ
  clock_ms : ℤ
  state0 : ℤ
  vstate0 : ℤ
  vartheta0 : ℤ
  counter0 : ℤ
  gain_ij : ℤ
  delta : ℤ
  eta : ℤ
  alpha : ℤ

/-- `encode_algorithm`: ten int32s. -/
def encodeAlgorithm (f : AlgorithmFields) : Except EncodeError Bytes := do
  raiseIf (f.dt_ms ≤ 0 ∨ f.clock_ms ≤ 0)
    (.proto "dt_ms and clock_ms must be > 0; the peer rejects zero")
  raiseIf (f.alpha ≤ 0)
    (.proto ("alpha must be > 0; a zero exponent makes every " ++
      "nonzero disagreement contribute the same amount"))
  packI32s [f.dt_ms, f.clock_ms, f.state0, f.vstate0, f.vartheta0, f.counter0, f.gain_ij, f.delta,
    f.eta, f.alpha]

/-- The keywords of `encode_microgrid_plant`, `MG_PLANT_FIELDS` behind the profile. -/
structure MgPlantFields where
  profile : UInt8
  kappa : ℤ
  S1 : ℤ
  S2 : ℤ
  p_max : ℤ
  q_max : ℤ
  X0_P : ℤ
  X0_Q : ℤ

/-- `encode_microgrid_plant`. -/
def encodeMicrogridPlant (f : MgPlantFields) : Except EncodeError Bytes := do
  raiseIf (f.kappa ≤ 0) (.proto "kappa must be > 0; the node divides by it")
  raiseIf (f.p_max ≤ 0 ∨ f.q_max ≤ 0)
    (.proto "p_max and q_max must be > 0; they size the limiter")
  let row ← packI32s [f.kappa, f.S1, f.S2, f.p_max, f.q_max, f.X0_P, f.X0_Q]
  return f.profile :: row

/-- The keywords of `encode_microgrid_virtual`, `MG_VIRTUAL_FIELDS`. -/
structure MgVirtualFields where
  T_o : ℤ
  alpha_0 : ℤ
  delta_o : ℤ
  kappa_o : ℤ
  xi : ℤ
  c_0 : ℤ
  b : ℤ
  rP : ℤ
  rQ : ℤ
  degree : ℤ
  z0_P : ℤ
  z0_Q : ℤ

/-- `encode_microgrid_virtual`. -/
def encodeMicrogridVirtual (f : MgVirtualFields) : Except EncodeError Bytes := do
  raiseIf (f.b = 0 ∧ (f.rP ≠ 0 ∨ f.rQ ≠ 0))
    (.proto ("an unpinned node was given the reference; b = 0 means the node " ++
      "does not know it and must reach it through the graph"))
  packI32s [f.T_o, f.alpha_0, f.delta_o, f.kappa_o, f.xi, f.c_0, f.b, f.rP, f.rQ, f.degree,
    f.z0_P, f.z0_Q]

/-- `LAW_MICROGRID_ADAPTIVE`. -/
def lawMicrogridAdaptive : UInt8 := 1

/-- `LAW_MICROGRID_LC`. -/
def lawMicrogridLC : UInt8 := 2

/-- The keywords of `encode_microgrid_iface`, `MG_IFACE_FIELDS` behind the law and the policy. -/
structure MgIfaceFields where
  law : UInt8
  terminal : Bool
  mu_max : ℤ
  gamma : ℤ
  eps : ℤ
  vartheta_0 : ℤ
  T_c : ℤ
  beta_c : ℤ
  Phi : ℤ
  delta_c : ℤ
  adapt_band : ℤ

/-- `encode_microgrid_iface`. -/
def encodeMicrogridIface (f : MgIfaceFields) : Except EncodeError Bytes := do
  raiseIf (f.law ≠ lawMicrogridAdaptive ∧ f.law ≠ lawMicrogridLC)
    (.proto ("law must select a microgrid family, got " ++ toString f.law.toNat ++
      "; the scalar law is what a board runs when these frames never arrive"))
  let row ← packI32s [f.mu_max, f.gamma, f.eps, f.vartheta_0, f.T_c, f.beta_c, f.Phi, f.delta_c,
    f.adapt_band]
  return f.law :: flagByte f.terminal :: row

/-- The keywords of `encode_disturbance`. -/
structure DisturbanceFields where
  active : Bool
  sine_amplitude : ℤ
  frequency : ℤ
  phase : ℤ
  noise_amplitude : ℤ
  noise_offset : ℤ
  beta : ℤ
  samples : ℤ

/-- `encode_disturbance`. -/
def encodeDisturbance (f : DisturbanceFields) : Except EncodeError Bytes := do
  raiseIf (f.samples ≤ 0) (.proto "samples must be > 0; the counter wraps modulo it")
  let row ← packI32s [f.sine_amplitude, f.frequency, f.phase, f.noise_amplitude, f.noise_offset,
    f.beta, f.samples]
  return flagByte f.active :: row

/-- `encode_control`. -/
def encodeControl (trigger : Bool) (seed epoch_us : ℤ) : Except EncodeError Bytes := do
  raiseIf (¬(0 ≤ seed ∧ seed ≤ 0xFFFFFFFF))
    (.proto ("seed must fit in uint32, got " ++ toString seed))
  raiseIf (¬(0 ≤ epoch_us ∧ epoch_us ≤ 2 ^ 48 - 1))
    (.proto ("epoch_us must fit in uint48, got " ++ toString epoch_us))
  return flagByte trigger :: (leBytes 4 seed.toNat ++ leBytes 6 epoch_us.toNat)

/-! ### What a returned payload says

One inversion lemma for each encoder: the tests that passed and the shape of the payload. -/

/-- A check that does not raise leaves the rest. -/
theorem raiseIf_bind_eq_ok {α : Type} {p : Prop} [Decidable p] {e : EncodeError}
    {f : Unit → Except EncodeError α} {r : α} :
    (raiseIf p e >>= f) = .ok r ↔ ¬p ∧ f () = .ok r := by
  rw [raiseIf]
  split_ifs with h
  · simp [h, bind, Except.bind]
  · simp [h, bind, Except.bind]

/-- A test that a computed value passes, with the value. -/
theorem exists_ok_of_any {ε α : Type} {x : Except ε α} {p : α → Bool}
    (h : x.toOption.any p = true) : ∃ a, x = .ok a ∧ p a = true := by
  cases x with
  | error e => cases h
  | ok a => exact ⟨a, rfl, h⟩

/-- A byte that is built is the value. -/
theorem byteOf_eq_ok {v : ℤ} {b : UInt8} (h : byteOf v = .ok b) : (b.toNat : ℤ) = v := by
  rw [byteOf] at h
  split_ifs at h with hv
  obtain ⟨h0, h1⟩ := hv
  cases h
  rw [UInt8.toNat_ofNat', Nat.mod_eq_of_lt (by omega), Int.toNat_of_nonneg h0]

/-- So are the bytes of a list. -/
theorem mapM_byteOf_eq_ok {vs : List ℤ} {ids : Bytes} (h : vs.mapM byteOf = .ok ids) :
    ids.map (fun b ↦ (b.toNat : ℤ)) = vs := by
  induction vs generalizing ids with
  | nil =>
    cases h
    rfl
  | cons v vs ih =>
    rw [List.mapM_cons, except_bind_eq_ok] at h
    obtain ⟨b, hb, h⟩ := h
    rw [except_bind_eq_ok] at h
    obtain ⟨rest, hrest, h⟩ := h
    cases h
    rw [List.map_cons, byteOf_eq_ok hb, ih hrest]

/-- Integers are packed exactly when each of them fits. -/
theorem packI32s_eq_ok {vs : List ℤ} {bs : Bytes} :
    packI32s vs = .ok bs ↔ packInts 4 vs = some bs := by
  rw [packI32s]
  cases packInts 4 vs with
  | none => simp
  | some row => simp

/-- The bytes of a NETWORK that is built: a positive node id, and one byte for each neighbour. -/
theorem encodeNetwork_eq_ok {enabled : Bool} {node_id : ℤ} {neighbors : List ℤ} {d : Bytes}
    (h : encodeNetwork enabled node_id neighbors = .ok d) :
    ∃ (node : UInt8) (ids : Bytes), d = flagByte enabled :: node :: ids ∧
      (node.toNat : ℤ) = node_id ∧ 1 ≤ node_id ∧
      ids.map (fun b ↦ (b.toNat : ℤ)) = neighbors := by
  rw [encodeNetwork, raiseIf_bind_eq_ok, raiseIf_bind_eq_ok, except_bind_eq_ok] at h
  obtain ⟨hrange, -, node, hnode, h⟩ := h
  rw [except_bind_eq_ok] at h
  obtain ⟨ids, hids, h⟩ := h
  cases h
  exact ⟨node, ids, rfl, byteOf_eq_ok hnode, (not_not.1 hrange).1, mapM_byteOf_eq_ok hids⟩

/-- The bytes of an ALGORITHM that is built, whose periods are positive. -/
theorem encodeAlgorithm_eq_ok {f : AlgorithmFields} {d : Bytes} (h : encodeAlgorithm f = .ok d) :
    0 < f.dt_ms ∧ 0 < f.clock_ms ∧
      packInts 4 [f.dt_ms, f.clock_ms, f.state0, f.vstate0, f.vartheta0, f.counter0, f.gain_ij,
        f.delta, f.eta, f.alpha] = some d := by
  rw [encodeAlgorithm, raiseIf_bind_eq_ok, raiseIf_bind_eq_ok, packI32s_eq_ok] at h
  obtain ⟨hpos, -, h⟩ := h
  push Not at hpos
  exact ⟨hpos.1, hpos.2, h⟩

/-- The bytes of an MG_PLANT that is built, whose `kappa` and ratings are positive. -/
theorem encodeMicrogridPlant_eq_ok {f : MgPlantFields} {d : Bytes}
    (h : encodeMicrogridPlant f = .ok d) :
    0 < f.kappa ∧ 0 < f.p_max ∧ 0 < f.q_max ∧ ∃ row : Bytes, d = f.profile :: row ∧
      packInts 4 [f.kappa, f.S1, f.S2, f.p_max, f.q_max, f.X0_P, f.X0_Q] = some row := by
  rw [encodeMicrogridPlant, raiseIf_bind_eq_ok, raiseIf_bind_eq_ok, except_bind_eq_ok] at h
  obtain ⟨hkappa, hmax, row, hrow, h⟩ := h
  push Not at hkappa hmax
  cases h
  exact ⟨hkappa, hmax.1, hmax.2, row, rfl, packI32s_eq_ok.1 hrow⟩

/-- The bytes of an MG_VIRTUAL that is built, which names a reference only with a pin. -/
theorem encodeMicrogridVirtual_eq_ok {f : MgVirtualFields} {d : Bytes}
    (h : encodeMicrogridVirtual f = .ok d) :
    ¬(f.b = 0 ∧ (f.rP ≠ 0 ∨ f.rQ ≠ 0)) ∧
      packInts 4 [f.T_o, f.alpha_0, f.delta_o, f.kappa_o, f.xi, f.c_0, f.b, f.rP, f.rQ, f.degree,
        f.z0_P, f.z0_Q] = some d := by
  rwa [encodeMicrogridVirtual, raiseIf_bind_eq_ok, packI32s_eq_ok] at h

/-- The bytes of an MG_IFACE that is built. -/
theorem encodeMicrogridIface_eq_ok {f : MgIfaceFields} {d : Bytes}
    (h : encodeMicrogridIface f = .ok d) :
    ∃ row : Bytes, d = f.law :: flagByte f.terminal :: row ∧
      packInts 4 [f.mu_max, f.gamma, f.eps, f.vartheta_0, f.T_c, f.beta_c, f.Phi, f.delta_c,
        f.adapt_band] = some row := by
  rw [encodeMicrogridIface, raiseIf_bind_eq_ok, except_bind_eq_ok] at h
  obtain ⟨-, row, hrow, h⟩ := h
  cases h
  exact ⟨row, rfl, packI32s_eq_ok.1 hrow⟩

/-- The bytes of a DISTURBANCE that is built, which takes a positive number of samples. -/
theorem encodeDisturbance_eq_ok {f : DisturbanceFields} {d : Bytes}
    (h : encodeDisturbance f = .ok d) :
    0 < f.samples ∧ ∃ row : Bytes, d = flagByte f.active :: row ∧
      packInts 4 [f.sine_amplitude, f.frequency, f.phase, f.noise_amplitude, f.noise_offset,
        f.beta, f.samples] = some row := by
  rw [encodeDisturbance, raiseIf_bind_eq_ok, except_bind_eq_ok] at h
  obtain ⟨hpos, row, hrow, h⟩ := h
  cases h
  exact ⟨not_le.1 hpos, row, rfl, packI32s_eq_ok.1 hrow⟩

/-- The bytes of a CONTROL that is built, whose seed and epoch fit their fields. -/
theorem encodeControl_eq_ok {trigger : Bool} {seed epoch_us : ℤ} {d : Bytes}
    (h : encodeControl trigger seed epoch_us = .ok d) :
    (0 ≤ seed ∧ seed < 2 ^ 32) ∧ (0 ≤ epoch_us ∧ epoch_us < 2 ^ 48) ∧
      d = flagByte trigger :: (leBytes 4 seed.toNat ++ leBytes 6 epoch_us.toNat) := by
  rw [encodeControl, raiseIf_bind_eq_ok, raiseIf_bind_eq_ok] at h
  obtain ⟨hseed, hepoch, h⟩ := h
  obtain ⟨hseed₀, hseed₁⟩ := not_not.1 hseed
  obtain ⟨hepoch₀, hepoch₁⟩ := not_not.1 hepoch
  cases h
  exact ⟨⟨hseed₀, by omega⟩, ⟨hepoch₀, by omega⟩, rfl⟩

end VertexTestbed.Host
