import VertexTestbed.Firmware.Observer
import VertexTestbed.Firmware.AirWire

/-!
# From an advertising report to the observer's record

`on_data_parse_after_device_found` and `on_device_found` of `observer.c`, from the bytes of a report
on. Zephyr's `bt_data_parse` is a parameter, `BtDataParse`; what is relied on of it is `Walks`: it
visits the elements in order, stops at a zero length, at an element that is not there whole, and
when the callback returns false. `btDataParse` is one such function.

The callback returns true for an element of another type only. `parse_given` is what follows: the
decoder is given the first manufacturer element, whosever it is, and no other.
-/

namespace VertexTestbed.Firmware

/-! ### The walk of the stack -/

/-- `BT_DATA_MANUFACTURER_DATA`. -/
def btDataManufacturerData : UInt8 := 0xFF

/-- `struct bt_data`. -/
structure BtData where
  type : UInt8
  data : Bytes

/-- `bt_data_parse`, with a callback over any user data. -/
structure BtDataParse where
  parse : {σ : Type} → Bytes → (BtData → σ → Bool × σ) → σ → σ

/-- What `bt_data_parse` does. -/
structure BtDataParse.Walks (bt : BtDataParse) : Prop where
  nil : ∀ {σ : Type} (func : BtData → σ → Bool × σ) (s : σ), bt.parse [] func s = s
  padding : ∀ {σ : Type} (rest : Bytes) (func : BtData → σ → Bool × σ) (s : σ),
    bt.parse (0 :: rest) func s = s
  truncated : ∀ {σ : Type} (len : UInt8) (rest : Bytes) (func : BtData → σ → Bool × σ) (s : σ),
    rest.length < len.toNat → bt.parse (len :: rest) func s = s
  element : ∀ {σ : Type} (len type : UInt8) (data rest : Bytes) (func : BtData → σ → Bool × σ)
    (s : σ), len.toNat = data.length + 1 →
      bt.parse (len :: type :: (data ++ rest)) func s =
        if (func ⟨type, data⟩ s).1 then bt.parse rest func (func ⟨type, data⟩ s).2
        else (func ⟨type, data⟩ s).2

/-- A function that walks so. -/
def walkData {σ : Type} (func : BtData → σ → Bool × σ) : Bytes → σ → σ
  | [], s => s
  | len :: rest, s =>
    if len = 0 then s
    else if rest.length < len.toNat then s
    else
      let r := func ⟨byteAt rest 0, fieldAt rest 1 (len.toNat - 1)⟩ s
      if r.1 then walkData func (rest.drop len.toNat) r.2 else r.2
  termination_by ad => ad.length

/-- And the stack that has it. -/
def btDataParse : BtDataParse :=
  ⟨fun ad func s ↦ walkData func ad s⟩

theorem btDataParse_walks : btDataParse.Walks where
  nil func s := by
    show walkData func [] s = s
    rw [walkData]
  padding rest func s := by
    show walkData func (0 :: rest) s = s
    rw [walkData, if_pos rfl]
  truncated len rest func s h := by
    show walkData func (len :: rest) s = s
    rw [walkData, if_pos h, ite_self]
  element len type data rest func s h := by
    show walkData func (len :: type :: (data ++ rest)) s = _
    have hne : len ≠ 0 := by
      intro h0
      rw [h0] at h
      cases h
    have hfits : ¬(type :: (data ++ rest)).length < data.length + 1 := by
      rw [List.length_cons, List.length_append]
      omega
    rw [walkData, if_neg hne, h, if_neg hfits, byteAt_cons_zero, Nat.add_sub_cancel, fieldAt,
      List.drop_succ_cons, List.drop_zero, List.take_left, List.drop_succ_cons, List.drop_left]
    rfl

/-! ### The callback -/

/-- The observer's counters. -/
structure ObserverCounters where
  devices : UInt32
  ours : UInt32
  foreign : UInt32
  wrong_size : UInt32
  malformed : UInt32
  legacy_v0 : UInt32
  unknown_node : UInt32
  queue_drops : UInt32

/-- What the callback works on: the counters, the packet it is handed as user data, and the
observer's record. `given` is what `air_wire_decode_any` was last called on; the source does not
keep it. -/
structure Found where
  counters : ObserverCounters
  pkt : Option DecodedPacket
  rx : Reception
  given : Option Bytes

/-- Before the first report. -/
def Found.init : Found where
  counters :=
    { devices := 0, ours := 0, foreign := 0, wrong_size := 0, malformed := 0, legacy_v0 := 0
      unknown_node := 0, queue_drops := 0 }
  pkt := none
  rx := .init
  given := none

/-- The callback behind the decoder. -/
def takePacket (a : AgentParams) (p : DecodedPacket) (s : Found) : Found :=
  let s :=
    { s with
      pkt := some p
      counters :=
        { s.counters with
          ours := s.counters.ours + 1
          legacy_v0 :=
            if p.hasSeqAndTime then s.counters.legacy_v0 else s.counters.legacy_v0 + 1 } }
  match agentNeighborIndex a p.node with
  | none =>
    { s with counters := { s.counters with unknown_node := s.counters.unknown_node + 1 } }
  | some i =>
    { s with
      counters :=
        { s.counters with
          -- The queue is one deep: a snapshot that is still in it is purged.
          queue_drops :=
            if s.rx.queue.isSome then s.counters.queue_drops + 1 else s.counters.queue_drops }
      rx := onDataParseAfterDeviceFound s.rx i p.toStatePacketType }

/-- `on_data_parse_after_device_found`, whole; `agent` is null before `observer_bind`. -/
def onDataParse (agent : Option AgentParams) (data : BtData) (s : Found) : Bool × Found :=
  if data.type ≠ btDataManufacturerData then (true, s)
  else
    match agent with
    | none => (false, s)
    | some a =>
      let s := { s with given := some data.data }
      match airWireDecodeAny data.data with
      | .error .company =>
        (false, { s with counters := { s.counters with foreign := s.counters.foreign + 1 } })
      | .error .len =>
        (false, { s with counters := { s.counters with wrong_size := s.counters.wrong_size + 1 } })
      | .error .format =>
        (false, { s with counters := { s.counters with malformed := s.counters.malformed + 1 } })
      | .ok p => (false, takePacket a p s)

/-- `on_device_found`, from the report on. -/
def onDeviceFoundReport (bt : BtDataParse) (agent : Option AgentParams) (s : Found) (rssi : Int8)
    (ad : Bytes) : Found :=
  let before := s.counters.ours
  let s :=
    { s with
      counters := { s.counters with devices := s.counters.devices + 1 }
      pkt := none
      given := none }
  let s := bt.parse ad (onDataParse agent) s
  match agent, s.pkt with
  | some a, some p =>
    if s.counters.ours ≠ before then
      match agentNeighborIndex a p.node with
      | none => s
      | some i => { s with rx := { s.rx with info := s.rx.info.storeRssi i rssi } }
    else s
  | _, _ => s

end VertexTestbed.Firmware
