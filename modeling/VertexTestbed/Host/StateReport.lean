import VertexTestbed.Host.Proto

/-!
# STATE reports, host side

`StateReport`, `encode_state` and `decode_state` of `serial/proto.py`. The layouts of the three laws
differ in what follows the neighbour records, and the decoder tells them apart by length. The sizes
are what `struct` computes from the formats.
-/

namespace VertexTestbed.Host

/-- `STATE_HEADER.size`. -/
abbrev stateHeaderSize : ℕ := 25

/-- `STATE_NEIGHBOUR.size`. -/
abbrev stateNeighbourSize : ℕ := 8

/-- `STATE_TAIL.size`. -/
abbrev stateTailSize : ℕ := 8

/-- `STATE_TAIL_LC.size`. -/
abbrev stateTailLCSize : ℕ := 16

/-- `StateReport`. -/
structure StateReport where
  t_us : ℤ
  state : ℤ
  vstate : ℤ
  vartheta : ℤ
  counter : ℤ
  neighbor_vstates : List ℤ
  neighbor_enabled : List Bool
  neighbor_fresh : List Bool
  neighbor_seq : List ℤ
  neighbor_rssi : List ℤ
  state_Q : Option ℤ
  vstate_Q : Option ℤ
  S1_hat : Option ℤ
  S2_hat : Option ℤ
  deriving DecidableEq

/-- The part of a neighbour record that starts `j` bytes into it. -/
def stateField (payload : Bytes) (i j n : ℕ) : Bytes :=
  fieldAt payload (stateHeaderSize + (i * stateNeighbourSize + j)) n

/-- The flags of a neighbour record. -/
def stateFlags (payload : Bytes) (i : ℕ) : UInt8 :=
  UInt8.ofNat (leNat (stateField payload i 7 1))

/-- `decode_state`; what it raises is a `ProtoError` with this text. -/
def decodeState (payload : Bytes) : Except String StateReport :=
  if payload.length < stateHeaderSize then
    .error ("STATE payload of " ++ toString payload.length ++ " bytes is truncated")
  else
    let n := leNat (fieldAt payload 24 1)
    let want := stateHeaderSize + n * stateNeighbourSize
    let tail := (payload.length : ℤ) - want
    if tail ≠ 0 ∧ tail ≠ stateTailSize ∧ tail ≠ stateTailLCSize then
      .error ("STATE declares " ++ toString n ++ " neighbour(s) so should be " ++ toString want ++
        " bytes, " ++ toString (want + stateTailSize) ++ " with the microgrid tail, or " ++
        toString (want + stateTailLCSize) ++ " with the LC one; got " ++ toString payload.length)
    else if maxNeighbors < n then
      .error ("STATE declares " ++ toString n ++ " neighbours, limit is " ++
        toString maxNeighbors)
    else
      let tailField (j : ℕ) := leInt (fieldAt payload (want + j) 4)
      .ok
        { t_us := leNat (fieldAt payload 0 8)
          state := leInt (fieldAt payload 8 4)
          vstate := leInt (fieldAt payload 12 4)
          vartheta := leInt (fieldAt payload 16 4)
          counter := leInt (fieldAt payload 20 4)
          neighbor_vstates := (List.range n).map fun i ↦ leInt (stateField payload i 0 4)
          neighbor_enabled := (List.range n).map fun i ↦ stateFlags payload i &&& 0x01 != 0
          neighbor_fresh := (List.range n).map fun i ↦ stateFlags payload i &&& 0x02 != 0
          neighbor_seq := (List.range n).map fun i ↦ leNat (stateField payload i 4 2)
          neighbor_rssi := (List.range n).map fun i ↦ leInt (stateField payload i 6 1)
          state_Q := if tail = 0 then none else some (tailField 0)
          vstate_Q := if tail = 0 then none else some (tailField 4)
          S1_hat := if tail = stateTailLCSize then some (tailField 8) else none
          S2_hat := if tail = stateTailLCSize then some (tailField 12) else none }

/-! ### The encoder -/

/-- What `encode_state` raises. -/
inductive StateEncodeError where
  /-- `struct.error`: a field its format does not hold. -/
  | structRange
  /-- `IndexError`: a tuple that ends before the neighbours do. -/
  | index
  deriving DecidableEq

/-- An unsigned field of a `struct` format. -/
def packU (n : ℕ) (v : ℤ) : Except StateEncodeError Bytes :=
  if 0 ≤ v ∧ v < 256 ^ n then .ok (leBytes n v.toNat) else .error .structRange

/-- A row of signed fields of a `struct` format. -/
def packIs (n : ℕ) (vs : List ℤ) : Except StateEncodeError Bytes :=
  match packInts n vs with
  | some bs => .ok bs
  | none => .error .structRange

/-- `xs[i]`. -/
def indexed {α : Type*} (xs : List α) (i : ℕ) : Except StateEncodeError α :=
  match xs[i]? with
  | some x => .ok x
  | none => .error .index

/-- `STATE_HEADER.pack`. -/
def packStateHeader (r : StateReport) : Except StateEncodeError Bytes := do
  let t ← packU 8 r.t_us
  let values ← packIs 4 [r.state, r.vstate, r.vartheta, r.counter]
  let n ← packU 1 r.neighbor_vstates.length
  return t ++ values ++ n

/-- One round of the loop over the neighbours. -/
def packStateNeighbour (r : StateReport) (i : ℕ) : Except StateEncodeError Bytes := do
  let enabled ← indexed r.neighbor_enabled i
  let fresh ← indexed r.neighbor_fresh i
  let v ← indexed r.neighbor_vstates i
  let value ← packIs 4 [v]
  let seq ← packU 2 (r.neighbor_seq.getD i 0)
  let rssi ← packIs 1 [r.neighbor_rssi.getD i 0]
  return value ++ (seq ++ (rssi ++
    [(if enabled then 0x01 else 0) ||| (if fresh then 0x02 else 0)]))

/-- The tail: the longer one as soon as one half of the estimate is there. -/
def packStateTail (r : StateReport) : Except StateEncodeError Bytes :=
  if r.S1_hat.isSome || r.S2_hat.isSome then
    packIs 4 [r.state_Q.getD 0, r.vstate_Q.getD 0, r.S1_hat.getD 0, r.S2_hat.getD 0]
  else if r.state_Q.isSome || r.vstate_Q.isSome then
    packIs 4 [r.state_Q.getD 0, r.vstate_Q.getD 0]
  else .ok []

/-- `encode_state`. -/
def encodeState (r : StateReport) : Except StateEncodeError Bytes := do
  let header ← packStateHeader r
  let records ← (List.range r.neighbor_vstates.length).mapM (packStateNeighbour r)
  let tail ← packStateTail r
  return header ++ (records.flatten ++ tail)

end VertexTestbed.Host
