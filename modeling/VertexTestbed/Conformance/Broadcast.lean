import VertexTestbed.Conformance.AirRoundTrip
import VertexTestbed.Conformance.ObserverTotals
import VertexTestbed.Host.BlePump

/-!
# From a broadcast to the receivers

What a `bridge` agent advertises (`BleTransport._ad`) and what a board advertises (`build_ad` of
`broadcaster.c`) are the same bytes, `adOf`. This module follows them to both receivers: through the
controller's events and the pump of another `bridge` agent, and through the stack and the observer
of a board.

The air carries other traffic as well. `broadcast_received` is about any sequence of advertisements,
of this fleet or not, batched into events in any way and with the answers to commands in between:
the callback is called with the packets of the other nodes, each once, in order, with its strength,
and the board's record is what the same packets make of it.
-/

namespace VertexTestbed.Conformance

open Firmware Host Runs

/-! ### What is advertised -/

/-- `BleTransport._ad`; `none` where `to_bytes` or a builder raises. -/
def packetAd (company_id : ℕ) (packet : AirPacket) : Option Bytes :=
  if 65535 < company_id then none
  else do
    let el ← element AD_MANUFACTURER (leBytes 2 company_id ++ packet.encode)
    build_ad [el] MAX_AD_LEN

/-- `AIR_WIRE_AD_VALUE_MAX`. -/
def airWireAdValueMax : ℕ := airWireV2AdValueSize

/-- `build_ad` of `broadcaster.c`, as the stack lays its one element out. -/
def buildAd (pkt : StatePacketType) : Option Bytes := do
  let value ← (airWireEncode pkt airWireAdValueMax).toOption
  element btDataManufacturerData value

/-- The advertising data of a packet. -/
def adOf (p : AirPacket) : Bytes :=
  Element.encoded ⟨AD_MANUFACTURER, encode_manufacturer_data p⟩

theorem encode_length_le (p : AirPacket) : (encode_manufacturer_data p).length ≤ 21 := by
  rw [encode_manufacturer_data, List.length_append, leBytes_length]
  rcases vstate_cases p with ⟨x, -, h⟩ | ⟨x, y, -, -, h⟩
  · rw [encode_v1 h]
    simp
  · rw [encode_v2 h]
    simp

theorem element_packet (p : AirPacket) :
    element AD_MANUFACTURER (encode_manufacturer_data p) = some (adOf p) :=
  element_eq_some_iff.2 ⟨(encode_length_le p).trans (by norm_num), rfl⟩

/-- A `bridge` agent's data. -/
theorem packetAd_eq (p : AirPacket) : packetAd COMPANY_ID p = some (adOf p) := by
  have hlength : (adOf p).length ≤ MAX_AD_LEN := by
    have hle := encode_length_le p
    show (encode_manufacturer_data p).length + 1 + 1 ≤ 31
    omega
  have hel : element AD_MANUFACTURER (leBytes 2 COMPANY_ID ++ p.encode) = some (adOf p) :=
    element_packet p
  rw [packetAd, if_neg (by decide), hel]
  simp only [bind, Option.bind, build_ad, List.flatten_singleton, if_neg (not_lt.2 hlength)]

/-- A board's data. -/
theorem buildAd_eq {q : StatePacketType} {p : AirPacket} (h : SamePacket ⟨q, true⟩ p) :
    buildAd q = some (adOf p) := by
  have hencode : airWireEncode q airWireAdValueMax = .ok (encode_manufacturer_data p) :=
    airWireEncode_eq h (encode_length_le p)
  rw [buildAd, hencode]
  exact element_packet p

/-! ### What is found in it -/

theorem decode_any_encode (p : AirPacket) : decode_any p.encode = .ok p := by
  rcases vstate_cases p with ⟨x, hx, h⟩ | ⟨x, y, hx, hy, h⟩
  · have hlen : p.encode.length = PAYLOAD_SIZE := by
      rw [encode_v1 h]
      simp [PAYLOAD_SIZE]
    have htag : byteAt p.encode 0 = VERSION := by
      rw [encode_v1 h]
      rfl
    have hdecode := decode_encode p
    rw [decode, if_neg (by rw [hlen]; exact fun hand ↦ absurd hand.1 (by decide)),
      if_neg (not_not.2 hlen)] at hdecode
    rw [decode_any_of_v1 htag hlen, hdecode]
  · have hlen : p.encode.length = V2_PAYLOAD_SIZE := by
      rw [encode_v2 h]
      simp [V2_PAYLOAD_SIZE]
    have htag : byteAt p.encode 0 = V2_VERSION := by
      rw [encode_v2 h]
      rfl
    have htake : p.encode.take 1 = [V2_VERSION] := by
      rw [encode_v2 h]
      rfl
    have hdecode := decode_encode p
    rw [decode, if_pos ⟨hlen, htake⟩] at hdecode
    rw [decode_any_of_v2 htag hlen, hdecode]

theorem strip_company_encode (p : AirPacket) :
    strip_company COMPANY_ID (encode_manufacturer_data p) = some p.encode := by
  have hcompany : leNat (fieldAt (encode_manufacturer_data p) 0 2) = COMPANY_ID := by
    rw [encode_manufacturer_data, fieldAt_append_left (leBytes_length 2 _)]
    rfl
  have hlen : 2 ≤ (encode_manufacturer_data p).length := by
    rw [encode_manufacturer_data, List.length_append, leBytes_length]
    omega
  rw [strip_company, if_pos ⟨hlen, hcompany⟩]
  rfl

/-- **A host hears the packet.** -/
theorem heard_adOf {l : BleListener} (hl : l.company_id = COMPANY_ID) {r : AdvReport}
    {p : AirPacket}
    (hdata : r.data = adOf p) :
    l.heard r = if p.node_id = l.node_id then .own else .packet p := by
  rw [BleListener.heard, hdata, hl, find_manufacturer_element COMPANY_ID (element_packet p),
    strip_company_encode]
  simp only [decode_any_encode]

/-- **A board finds the packet.** -/
theorem manufacturerValues_adOf (p : AirPacket) :
    manufacturerValues (adOf p) = [encode_manufacturer_data p] := by
  rw [manufacturerValues, parse_ad_element (element_packet p),
    List.filterMap_cons_some (manufacturerOf_of_type rfl)]
  rfl

/-! ### Events of the controller -/

/-- Advertising data on the air: of this fleet, or of somebody else. -/
inductive Aired where
  | packet (p : AirPacket)
  | foreign (data : Bytes)

/-- The advertising data of what is on the air. -/
def Aired.data : Aired → Bytes
  | packet p => adOf p
  | foreign data => data

/-- What a controller receives: at most 31 bytes. Foreign data has no element of this company. -/
def Aired.Fits : Aired → Prop
  | packet _ => True
  | foreign data => data.length ≤ 31 ∧ find_manufacturer data COMPANY_ID = none

/-- One advertisement, as it is received. -/
structure Airing where
  event_type : UInt8
  addr_type : UInt8
  addr : Bytes
  rssi : Int8
  what : Aired

/-- What a controller reports of an advertisement. -/
def Airing.report (a : Airing) : AdvReport :=
  ⟨a.event_type, a.addr_type, a.addr, a.what.data, a.rssi⟩

/-- An event of the controller. -/
inductive RadioEvent where
  | advertised (batch : List Airing)
  | completed (num : UInt8) (opcode : ℕ) (status : UInt8) (params : Bytes)
  | refused (num : UInt8) (opcode : ℕ) (status : UInt8)

namespace RadioEvent

/-- As it is on the socket, without its header. -/
def event : RadioEvent → HciEvent
  | advertised batch => ⟨EVT_LE_META, adv_report_params (batch.map Airing.report)⟩
  | completed num opcode status params =>
    ⟨EVT_COMMAND_COMPLETE, num :: (leBytes 2 opcode ++ status :: params)⟩
  | refused num opcode status => ⟨EVT_COMMAND_STATUS, status :: num :: leBytes 2 opcode⟩

/-- With it. -/
def packet (e : RadioEvent) : Bytes :=
  HCI_EVENT_PKT :: e.event.code :: UInt8.ofNat e.event.params.length :: e.event.params

/-- An event has a byte for its length. -/
def Fits (e : RadioEvent) : Prop :=
  e.event.params.length ≤ 255 ∧
    match e with
    | advertised batch => ∀ a ∈ batch, a.addr.length = 6 ∧ a.what.Fits
    | completed _ opcode _ _ => opcode < 2 ^ 16
    | refused _ opcode _ => opcode < 2 ^ 16

/-- The advertisements that an event brings. -/
def airings : RadioEvent → List Airing
  | advertised batch => batch
  | _ => []

/-- What it says of a command. -/
def answer : RadioEvent → Option (ℕ × Bool)
  | completed _ opcode status _ => some (opcode, decide (status = 0))
  | refused _ opcode status => if status = 0 then none else some (opcode, false)
  | advertised _ => none

theorem parse_event_packet {e : RadioEvent} (h : e.Fits) : parse_event e.packet = some e.event := by
  have hlen : (UInt8.ofNat e.event.params.length).toNat = e.event.params.length := by
    have hle := h.1
    rw [UInt8.toNat_ofNat']
    omega
  have hparams : fieldAt e.packet 3 e.event.params.length = e.event.params := by
    simp [packet, fieldAt]
  have hcount : byteAt e.packet 2 = UInt8.ofNat e.event.params.length := rfl
  rw [parse_event, if_neg (by simp [packet]), if_neg (by simp [packet, byteAt])]
  simp only [hcount, hlen, hparams, ne_eq, not_true_eq_false, if_false]
  rfl

theorem length_le_of_advertised (batch : List Airing) :
    batch.length ≤ (advertised batch).event.params.length := by
  have hpos (reports : List AdvReport) :
      reports.length ≤ (reports.flatMap AdvReport.encoded).length := by
    induction reports with
    | nil => exact le_rfl
    | cons r reports ih =>
      simp only [List.flatMap_cons, List.length_append, List.length_cons, AdvReport.encoded] at ih ⊢
      omega
  have hle := hpos (batch.map Airing.report)
  rw [List.length_map] at hle
  show _ ≤ (_ :: _ :: List.flatMap _ _).length
  rw [List.length_cons, List.length_cons]
  omega

theorem data_length_le {w : Aired} (h : w.Fits) : w.data.length ≤ 31 := by
  cases w with
  | packet p =>
    have hle := encode_length_le p
    show (encode_manufacturer_data p).length + 1 + 1 ≤ 31
    omega
  | foreign data => exact h.1

theorem reportsOf_packet {e : RadioEvent} (h : e.Fits) :
    reportsOf (some e.packet) = e.airings.map Airing.report := by
  have hparse := parse_event_packet h
  rw [reportsOf, Option.bind_some, hparse]
  cases e with
  | completed num opcode status params => exact if_neg (by simp [event]; decide)
  | refused num opcode status => exact if_neg (by simp [event]; decide)
  | advertised batch =>
    obtain ⟨hlen, hfits⟩ := h
    have hcount := (length_le_of_advertised batch).trans hlen
    refine (if_pos rfl).trans (parse_adv_reports_params (by rwa [List.length_map]) ?_)
    intro r hr
    obtain ⟨a, ha, rfl⟩ := List.mem_map.1 hr
    obtain ⟨haddr, hwhat⟩ := hfits a ha
    exact ⟨haddr, (data_length_le hwhat).trans (by norm_num)⟩

theorem answerOf_packet {e : RadioEvent} (h : e.Fits) : answerOf (some e.packet) = e.answer := by
  have hparse := parse_event_packet h
  rw [answerOf, Option.bind_some, hparse]
  cases e with
  | advertised batch =>
    have hmeta : (advertised batch).event.code = EVT_LE_META := rfl
    simp only [hmeta]
    rfl
  | completed num opcode status params =>
    have hop : leNat (fieldAt (num :: (leBytes 2 opcode ++ status :: params)) 1 2) = opcode := by
      have hone : [num].length = 1 := rfl
      rw [← List.singleton_append, ← Nat.add_zero 1, fieldAt_behind hone,
        fieldAt_append_left (leBytes_length 2 _), leNat_leBytes_of_lt h.2]
    have hstatus : byteAt (num :: (leBytes 2 opcode ++ status :: params)) 3 = status := by
      have hthree : (num :: leBytes 2 opcode).length = 3 := by simp
      rw [← List.cons_append, ← Nat.add_zero 3, byteAt_behind hthree, byteAt_cons_zero]
    have hlong : ¬(num :: (leBytes 2 opcode ++ status :: params)).length < 4 := by
      simp
      omega
    dsimp only [event]
    rw [if_pos rfl, parse_command_complete, if_neg hlong, hop, hstatus]
    rfl
  | refused num opcode status =>
    have hop : leNat (fieldAt (status :: num :: leBytes 2 opcode) 2 2) = opcode := by
      have htwo : [status, num].length = 2 := rfl
      have hsplit :
          status :: num :: leBytes 2 opcode = [status, num] ++ (leBytes 2 opcode ++ []) := by
        simp
      rw [hsplit, ← Nat.add_zero 2, fieldAt_behind htwo, fieldAt_append_left (leBytes_length 2 _),
        leNat_leBytes_of_lt h.2]
    have hlong : ¬(status :: num :: leBytes 2 opcode).length < 4 := by simp
    dsimp only [event]
    rw [if_neg (by decide), if_pos rfl, parse_command_status, if_neg hlong, hop, byteAt_cons_zero,
      answer]
    by_cases hok : status = 0
    · simp [hok]
    · simp [hok, Option.filter]

theorem isOther_packet {e : RadioEvent} (h : e.Fits) : isOther (some e.packet) = false := by
  have hparse := parse_event_packet h
  rw [isOther]
  simp only [hparse]
  cases e <;> rfl

end RadioEvent

/-! ### At the receivers -/

/-- The advertisements of some events, each with the time its event is read at. -/
def airingsOf (events : List (ℤ × RadioEvent)) : List (ℤ × Airing) :=
  events.flatMap fun e ↦ e.2.airings.map (Prod.mk e.1)

/-- The packet that a listener is to be given. -/
def forListener (node_id : ℕ) (a : ℤ × Airing) : Option AirReception :=
  match a.2.what with
  | .packet p => if p.node_id = node_id then none else some ⟨p, a.1, some a.2.rssi.toInt⟩
  | .foreign _ => none

/-- The packet of this fleet, as a board has it, with its strength. -/
def forBoard (a : Airing) : Option (StatePacketType × Int8) :=
  match a.what with
  | .packet p =>
    some (⟨UInt8.ofNat p.node_id, p.enabled, p.disturbance_on, UInt16.ofNat p.seq,
      p.vstate.getD 0 0, p.vstate.getD 1 0, p.vstate.length, p.tx_time_us⟩, a.rssi)
  | .foreign _ => none

/-- It is nobody's packet of this testbed. -/
def Aired.isForeign : Aired → Bool
  | foreign _ => true
  | packet _ => false

/-- It is a packet of the given node. -/
def Aired.isFrom (node_id : ℕ) : Aired → Bool
  | packet p => p.node_id = node_id
  | foreign _ => false

/-- What was aired, as the pump sees it. -/
theorem allReports_events {events : List (ℤ × RadioEvent)} (h : ∀ e ∈ events, e.2.Fits) :
    allReports (events.map fun e ↦ (e.1, some e.2.packet)) =
      (airingsOf events).map fun a ↦ (a.1, a.2.report) := by
  induction events with
  | nil => rfl
  | cons e events ih =>
    rw [List.forall_mem_cons] at h
    have hhead := RadioEvent.reportsOf_packet h.1
    have htail := ih h.2
    simp only [allReports, airingsOf] at htail ⊢
    simp [hhead, htail]

theorem fits_of_mem {events : List (ℤ × RadioEvent)} (h : ∀ e ∈ events, e.2.Fits) {a : ℤ × Airing}
    (ha : a ∈ airingsOf events) : a.2.what.Fits := by
  obtain ⟨e, he, hmem⟩ := List.mem_flatMap.1 ha
  obtain ⟨airing, hairing, rfl⟩ := List.mem_map.1 hmem
  have hfits := h e he
  rcases hevent : e.2 with batch | ⟨num, opcode, status, params⟩ | ⟨num, opcode, status⟩
  · rw [hevent] at hfits hairing
    exact (hfits.2 airing hairing).2
  · rw [hevent] at hairing
    exact absurd hairing List.not_mem_nil
  · rw [hevent] at hairing
    exact absurd hairing List.not_mem_nil

/-- What a listener hears of one advertisement. -/
theorem heard_airing {l : BleListener} (hl : l.company_id = COMPANY_ID) {a : Airing}
    (h : a.what.Fits) :
    l.heard a.report = match a.what with
      | .packet p => if p.node_id = l.node_id then .own else .packet p
      | .foreign _ => .foreign := by
  obtain ⟨event_type, addr_type, addr, rssi, what⟩ := a
  cases what with
  | packet p => exact heard_adOf hl rfl
  | foreign data =>
    have hnone : find_manufacturer data l.company_id = none := hl ▸ h.2
    rw [BleListener.heard]
    simp only [Airing.report, Aired.data, hnone]

/-- **What a listener does about one advertisement.** -/
theorem listener_airing {l : BleListener} (hl : l.company_id = COMPANY_ID)
    {cb : AirReception → Bool} (hcb : l.on_receive = some cb) {a : ℤ × Airing}
    (h : a.2.what.Fits) :
    l.reception (a.1, a.2.report) = forListener l.node_id a ∧
      l.isForeign (a.1, a.2.report) = a.2.what.isForeign ∧
      l.isOwn (a.1, a.2.report) = a.2.what.isFrom l.node_id ∧
      l.isUndecodable (a.1, a.2.report) = false := by
  have hheard := heard_airing hl h
  rw [BleListener.reception, BleListener.isForeign, BleListener.isOwn, BleListener.isUndecodable,
    forListener, hheard, hcb]
  cases a.2.what with
  | foreign data => exact ⟨rfl, rfl, rfl, rfl⟩
  | packet p =>
    by_cases hown : p.node_id = l.node_id
    · simp [hown, Aired.isForeign, Aired.isFrom]
    · simp [hown, Aired.isForeign, Aired.isFrom, Airing.report]

/-- What a board records of one advertisement. -/
theorem onRecord_airing {a : Airing} (h : a.what.Fits) :
    (ScanEvent.report a.rssi a.what.data).onRecord =
      (forBoard a).map fun x ↦ .found x.1 x.2 := by
  obtain ⟨event_type, addr_type, addr, rssi, what⟩ := a
  cases what with
  | packet p =>
    have hsame : SamePacket ⟨⟨UInt8.ofNat p.node_id, p.enabled, p.disturbance_on,
        UInt16.ofNat p.seq, p.vstate.getD 0 0, p.vstate.getD 1 0, p.vstate.length, p.tx_time_us⟩,
        true⟩ p := by
      have hnode := p.node_le
      have hseq := p.seq_le
      refine ⟨?_, rfl, rfl, ?_, rfl, rfl, rfl, rfl⟩
      · show p.node_id = (UInt8.ofNat p.node_id).toNat
        rw [UInt8.toNat_ofNat', Nat.mod_eq_of_lt (by omega)]
      · show p.seq = (UInt16.ofNat p.seq).toNat
        rw [UInt16.toNat_ofNat', Nat.mod_eq_of_lt (by omega)]
    simp only [ScanEvent.onRecord, Aired.data, manufacturerValues_adOf, List.head?_cons,
      Option.bind_some, airWireDecodeAny_encode hsame]
    rfl
  | foreign data =>
    have hnone : find_manufacturer data COMPANY_ID = none := h.2
    rw [find_manufacturer_eq, List.findSome?_eq_none_iff] at hnone
    simp only [ScanEvent.onRecord, Aired.data, forBoard, Option.map_none, Option.map_eq_none_iff]
    cases hvalues : manufacturerValues data with
    | nil => rfl
    | cons v rest =>
      have hv := hnone v (by rw [hvalues]; exact List.mem_cons_self)
      have hforeign : ¬(2 ≤ v.length ∧ leNat (fieldAt v 0 2) = manufacturerId) := by
        intro hours
        have hsome : strip_company COMPANY_ID v = some (v.drop 2) := if_pos hours
        rw [hsome] at hv
        cases hv
      have hrefused := airWireDecodeAny_foreign hforeign
      rw [List.head?_cons, Option.bind_some]
      cases hdecode : airWireDecodeAny v with
      | error e => rfl
      | ok p =>
        rw [hdecode] at hrefused
        cases hrefused

/-- Packets filed one after another. -/
theorem run_found (agent : AgentParams) (rx : Reception) (xs : List (StatePacketType × Int8)) :
    run recordStep (some agent, rx) (xs.map fun x ↦ .found x.1 x.2) =
      (some agent, xs.foldl (fun rx x ↦ onDeviceFound rx agent x.1 x.2) rx) := by
  induction xs generalizing rx with
  | nil => rfl
  | cons x xs ih => exact ih _

/-- **From the air to the receivers.** Host and board advertise a packet as the same bytes. Over any
sequence of advertisements, batched into events in any way and mixed with answers to commands, a
host's callback is called with the packets of the other nodes, each once and in order; every counter
says how many there were of what it counts, the answers reach `_settle` in order, and no packet
counts as undecodable. And the same advertisements leave a board's record as the packets in them
do. -/
theorem broadcast_received {l : BleListener} (hl : l.company_id = COMPANY_ID)
    {cb : AirReception → Bool} (hcb : l.on_receive = some cb) {bt : BtDataParse} (hbt : bt.Walks)
    (agent : AgentParams) (events : List (ℤ × RadioEvent)) (hevents : ∀ e ∈ events, e.2.Fits) :
    let s := l.pumpAll .init (events.map fun e ↦ (e.1, some e.2.packet))
    let b := run (Scan.step bt) .init
      (.bind agent :: (airingsOf events).map fun a ↦ .report a.2.rssi a.2.what.data)
    (∀ p, packetAd COMPANY_ID p = some (adOf p)) ∧
    (∀ q p, SamePacket ⟨q, true⟩ p → buildAd q = some (adOf p)) ∧
    s.received = (airingsOf events).filterMap (forListener l.node_id) ∧
    s.settled = events.filterMap (fun e ↦ e.2.answer) ∧
    s.stats =
      { events := events.length
        reports := (airingsOf events).length
        foreign := (airingsOf events).countP fun a ↦ a.2.what.isForeign
        self_filtered := (airingsOf events).countP fun a ↦ a.2.what.isFrom l.node_id
        undecodable := 0
        delivered := s.received.countP cb
        other_events := 0 } ∧
    b.found.rx = ((airingsOf events).filterMap fun a ↦ forBoard a.2).foldl
      (fun rx x ↦ onDeviceFound rx agent x.1 x.2) .init := by
  intro s b
  obtain ⟨hcount, hother, hheard, hsettled⟩ :=
    BleListener.pump_run l (events.map fun e ↦ (e.1, some e.2.packet))
  obtain ⟨hreports, hforeign, hundecodable, hown, hreceived, hdelivered⟩ := hheard
  have hall := allReports_events hevents
  -- What the listener makes of one advertisement; the counters are sums over them.
  have hone (a : ℤ × Airing) (ha : a ∈ airingsOf events) :=
    listener_airing hl hcb (fits_of_mem hevents ha)
  refine ⟨packetAd_eq, fun q p ↦ buildAd_eq, ?_, ?_, ?_, ?_⟩
  · show (l.pumpAll .init _).received = _
    rw [hreceived, hall, List.filterMap_map]
    exact List.filterMap_congr fun a ha ↦ (hone a ha).1
  · show (l.pumpAll .init _).settled = _
    rw [hsettled, List.filterMap_map]
    exact List.filterMap_congr fun e he ↦ RadioEvent.answerOf_packet (hevents e he)
  · rw [hall, List.countP_map] at hforeign hundecodable hown
    rw [hall, List.length_map] at hreports
    rw [List.countP_map] at hcount hother
    have hnever : (airingsOf events).countP (l.isUndecodable ∘ fun a ↦ (a.1, a.2.report)) = 0 :=
      List.countP_eq_zero.2 fun a ha ↦ by simp [(hone a ha).2.2.2]
    have hnone : events.countP ((fun p : ℤ × Option Bytes ↦ isOther p.2) ∘
        fun e ↦ (e.1, some e.2.packet)) = 0 :=
      List.countP_eq_zero.2 fun e he ↦ by simp [RadioEvent.isOther_packet (hevents e he)]
    refine BleStats.ext ?_ ?_ ?_ ?_ ?_ ?_ ?_
    · exact hcount.trans (List.countP_eq_length.2 fun e _ ↦ rfl)
    · exact hreports
    · exact hforeign.trans (List.countP_congr fun a ha ↦ by simp [(hone a ha).2.1])
    · exact hown.trans (List.countP_congr fun a ha ↦ by simp [(hone a ha).2.2.1])
    · exact hundecodable.trans hnever
    · exact hdelivered cb hcb
    · exact hother.trans hnone
  · have hrun := run_record hbt .init
      (.bind agent :: (airingsOf events).map fun a ↦ .report a.2.rssi a.2.what.data)
    -- On the board a run over reports is a run over the packets that they decode to.
    have hrecords : ((airingsOf events).map fun a ↦
      ScanEvent.report a.2.rssi a.2.what.data).filterMap
        ScanEvent.onRecord =
        ((airingsOf events).filterMap fun a ↦ forBoard a.2).map fun x ↦ .found x.1 x.2 := by
      rw [List.filterMap_map, List.map_filterMap]
      exact List.filterMap_congr fun a ha ↦ onRecord_airing (fits_of_mem hevents ha)
    have hbind : (ScanEvent.bind agent).onRecord = some (.bind agent) := rfl
    rw [List.filterMap_cons_some hbind, run_cons, hrecords] at hrun
    exact congrArg Prod.snd (hrun.trans (run_found agent .init _))

/-- A packet of node 3 and advertising data without elements, in one event, behind an answer to
`LE Set Adv Data`. -/
def mixedEvents : List (ℤ × RadioEvent) :=
  [(100, .completed 1 0x2008 0 []),
    (200, .advertised
      [⟨3, 0, [1, 2, 3, 4, 5, 6], -60, .packet sampleAirPacket⟩,
        ⟨3, 1, [6, 5, 4, 3, 2, 1], -80, .foreign []⟩])]

theorem mixedEvents_fit : ∀ e ∈ mixedEvents, e.2.Fits := by
  have hnone : find_manufacturer [] COMPANY_ID = none := by
    rw [find_manufacturer, parse_ad]
    rfl
  simp only [mixedEvents, List.forall_mem_cons, List.not_mem_nil, IsEmpty.forall_iff, implies_true,
    and_true]
  refine ⟨⟨by decide, by decide⟩, by decide, ?_⟩
  simp only [List.forall_mem_cons, List.not_mem_nil, IsEmpty.forall_iff, implies_true, and_true]
  exact ⟨⟨rfl, trivial⟩, rfl, by decide, hnone⟩

theorem broadcast_received_mixed :
    (BleListener.pumpAll ⟨1, COMPANY_ID, some fun _ ↦ true⟩ .init
      (mixedEvents.map fun e ↦ (e.1, some e.2.packet))).received =
        [⟨sampleAirPacket, 200, some (-60)⟩] :=
  (broadcast_received (l := ⟨1, COMPANY_ID, some fun _ ↦ true⟩) rfl rfl btDataParse_walks
    twoNeighborBoard.params mixedEvents mixedEvents_fit).2.2.1

end VertexTestbed.Conformance
