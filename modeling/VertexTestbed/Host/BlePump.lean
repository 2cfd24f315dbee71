import VertexTestbed.Host.Codec
import VertexTestbed.Host.HciReports

/-!
# The pump of the BLE transport

The receive side of `transports/ble.py` over the event parsers of `radio/hci.py`. Once a run has
started there is one reader of the socket, `_pump`: advertising reports go to the callback, command
completions to whoever waits for their opcode.

`heard` says what one report comes to. `pump_run` says what a run of the pump comes to, over any
packets whatever: the reports of all advertising events, in order, each heard once, and the answers
of all other events, in order. Nothing that is counted is counted twice, and nothing is left out.
-/

namespace VertexTestbed.Host

/-! ### Events -/

/-- `HCI_EVENT_PKT`. -/
def HCI_EVENT_PKT : UInt8 := 0x04

/-- `EVT_COMMAND_COMPLETE`. -/
def EVT_COMMAND_COMPLETE : UInt8 := 0x0E

/-- `EVT_COMMAND_STATUS`. -/
def EVT_COMMAND_STATUS : UInt8 := 0x0F

/-- `EVT_LE_META`. -/
def EVT_LE_META : UInt8 := 0x3E

/-- `Event`. -/
structure HciEvent where
  code : UInt8
  params : Bytes
  deriving DecidableEq

/-- `parse_event`; `none` where it raises `HciError`. -/
def parse_event (packet : Bytes) : Option HciEvent :=
  if packet.length < 3 then none
  else if byteAt packet 0 ≠ HCI_EVENT_PKT then none
  else
    let plen := (byteAt packet 2).toNat
    let params := fieldAt packet 3 plen
    if params.length ≠ plen then none else some ⟨byteAt packet 1, params⟩

/-- `CommandComplete`. -/
structure CommandComplete where
  opcode : ℕ
  status : UInt8
  params : Bytes

/-- `CommandStatus`. -/
structure CommandStatus where
  opcode : ℕ
  status : UInt8

/-- `parse_command_complete`. -/
def parse_command_complete (params : Bytes) : Option CommandComplete :=
  if params.length < 4 then none
  else some ⟨leNat (fieldAt params 1 2), byteAt params 3, params.drop 4⟩

/-- `parse_command_status`. -/
def parse_command_status (params : Bytes) : Option CommandStatus :=
  if params.length < 4 then none
  else some ⟨leNat (fieldAt params 2 2), byteAt params 0⟩

/-! ### What a packet brings -/

/-- The reports of a packet. -/
def reportsOf (packet : Option Bytes) : List AdvReport :=
  match packet.bind parse_event with
  | none => []
  | some event => if event.code = EVT_LE_META then parse_adv_reports event.params else []

/-- The answer of a packet to a command. -/
def answerOf (packet : Option Bytes) : Option (ℕ × Bool) :=
  match packet.bind parse_event with
  | none => none
  | some event =>
    if event.code = EVT_COMMAND_COMPLETE then
      (parse_command_complete event.params).map fun cc ↦ (cc.opcode, decide (cc.status = 0))
    else if event.code = EVT_COMMAND_STATUS then
      ((parse_command_status event.params).filter fun cs ↦ cs.status ≠ 0).map
        fun cs ↦ (cs.opcode, false)
    else none

/-- A packet that was read and is none of the pump's. -/
def isOther (packet : Option Bytes) : Bool :=
  match packet with
  | none => false
  | some packet =>
    match parse_event packet with
    | none => true
    | some event =>
      event.code ≠ EVT_LE_META ∧ event.code ≠ EVT_COMMAND_COMPLETE ∧ event.code ≠ EVT_COMMAND_STATUS

/-- The reports of many packets, each with the time its packet was read at. -/
def allReports (packets : List (ℤ × Option Bytes)) : List (ℤ × AdvReport) :=
  packets.flatMap fun p ↦ (reportsOf p.2).map (Prod.mk p.1)

/-! ### The pump -/

/-- `Reception`, of a packet with every field of the wire. -/
structure AirReception where
  packet : AirPacket
  rx_time_us : ℤ
  rssi : Option ℤ

/-- The receive side of `BleStats`. -/
@[ext]
structure BleStats where
  events : ℕ
  reports : ℕ
  foreign : ℕ
  self_filtered : ℕ
  undecodable : ℕ
  delivered : ℕ
  other_events : ℕ
  deriving DecidableEq

/-- What the pump has done: its counters, the receptions it called the callback with, and the calls
it made to `_settle`, each with whether the command succeeded. -/
structure BlePump where
  stats : BleStats
  received : List AirReception
  settled : List (ℕ × Bool)

/-- Before the first packet. -/
def BlePump.init : BlePump := ⟨⟨0, 0, 0, 0, 0, 0, 0⟩, [], []⟩

/-- Who listens: the transport's own id and company, and its callback, as whether it returns. -/
structure BleListener where
  node_id : ℕ
  company_id : ℕ
  on_receive : Option (AirReception → Bool)

/-- What a report comes to. -/
inductive ReportKind where
  | foreign
  | undecodable
  | own
  | packet (p : AirPacket)

namespace BleListener

variable (l : BleListener)

/-- The tests of `_consume_reports` on one report. -/
def heard (report : AdvReport) : ReportKind :=
  match find_manufacturer report.data l.company_id with
  | none => .foreign
  | some payload =>
    match decode_any payload with
    | .error _ => .undecodable
    | .ok packet => if packet.node_id = l.node_id then .own else .packet packet

/-- `cb(Reception(…))`, when there is a callback. -/
def receive (s : BlePump) (rec : AirReception) : BlePump :=
  match l.on_receive with
  | none => s
  | some cb =>
    { s with
      stats :=
        { s.stats with
          delivered := if cb rec then s.stats.delivered + 1 else s.stats.delivered }
      received := s.received ++ [rec] }

/-- One turn of the loop of `_consume_reports`. -/
def consumeReport (rx_time_us : ℤ) (s : BlePump) (report : AdvReport) : BlePump :=
  let s := { s with stats := { s.stats with reports := s.stats.reports + 1 } }
  match l.heard report with
  | .foreign => { s with stats := { s.stats with foreign := s.stats.foreign + 1 } }
  | .undecodable => { s with stats := { s.stats with undecodable := s.stats.undecodable + 1 } }
  | .own => { s with stats := { s.stats with self_filtered := s.stats.self_filtered + 1 } }
  | .packet p => l.receive s ⟨p, rx_time_us, some report.rssi.toInt⟩

/-- `_consume_reports`. -/
def consume_reports (rx_time_us : ℤ) (s : BlePump) (params : Bytes) : BlePump :=
  (parse_adv_reports params).foldl (l.consumeReport rx_time_us) s

/-- `_pump`, at a time; `none` where `recv` raises. -/
def pump (s : BlePump) (now_us : ℤ) (packet : Option Bytes) : BlePump :=
  match packet with
  | none => s
  | some packet =>
    let s := { s with stats := { s.stats with events := s.stats.events + 1 } }
    match parse_event packet with
    | none => { s with stats := { s.stats with other_events := s.stats.other_events + 1 } }
    | some event =>
      if event.code = EVT_LE_META then l.consume_reports now_us s event.params
      else if event.code = EVT_COMMAND_COMPLETE then
        match parse_command_complete event.params with
        | none => s
        | some cc => { s with settled := s.settled ++ [(cc.opcode, decide (cc.status = 0))] }
      else if event.code = EVT_COMMAND_STATUS then
        match parse_command_status event.params with
        | none => s
        | some cs =>
          -- a Command Status without an error is not the end of its command
          if cs.status = 0 then s else { s with settled := s.settled ++ [(cs.opcode, false)] }
      else { s with stats := { s.stats with other_events := s.stats.other_events + 1 } }

/-- The pump over packets, each with the time it was read at. -/
def pumpAll (s : BlePump) (packets : List (ℤ × Option Bytes)) : BlePump :=
  packets.foldl (fun s p ↦ l.pump s p.1 p.2) s

/-! ### What a run comes to -/

/-- What the callback is called with for a report. -/
def reception (report : ℤ × AdvReport) : Option AirReception :=
  match l.on_receive, l.heard report.2 with
  | some _, .packet p => some ⟨p, report.1, some report.2.rssi.toInt⟩
  | _, _ => none

/-- A report without a manufacturer element of this company. -/
def isForeign (report : ℤ × AdvReport) : Bool :=
  match l.heard report.2 with
  | .foreign => true
  | _ => false

/-- A report whose payload is no packet. -/
def isUndecodable (report : ℤ × AdvReport) : Bool :=
  match l.heard report.2 with
  | .undecodable => true
  | _ => false

/-- A report of this node's own packet. -/
def isOwn (report : ℤ × AdvReport) : Bool :=
  match l.heard report.2 with
  | .own => true
  | _ => false

/-- Some reports were heard, each once. -/
structure HeardAll (rs : List (ℤ × AdvReport)) (s : BlePump) : Prop where
  reports : s.stats.reports = rs.length
  foreign : s.stats.foreign = rs.countP l.isForeign
  undecodable : s.stats.undecodable = rs.countP l.isUndecodable
  self_filtered : s.stats.self_filtered = rs.countP l.isOwn
  received : s.received = rs.filterMap l.reception
  delivered : ∀ cb ∈ l.on_receive, s.stats.delivered = s.received.countP cb

variable {l}

theorem HeardAll.concat {rs : List (ℤ × AdvReport)} {s : BlePump} (h : l.HeardAll rs s)
    (rx_time_us : ℤ) (report : AdvReport) :
    l.HeardAll (rs ++ [(rx_time_us, report)]) (l.consumeReport rx_time_us s report) := by
  obtain ⟨hreports, hforeign, hundecodable, hown, hreceived, hdelivered⟩ := h
  cases hheard : l.heard report with
  | foreign | undecodable | own =>
    refine ⟨?_, ?_, ?_, ?_, ?_, fun cb hcb ↦ ?_⟩
    all_goals simp [consumeReport, hheard, isForeign, isUndecodable, isOwn, reception, hreports,
      hforeign, hundecodable, hown, ← hreceived]
    exact hdelivered cb hcb
  | packet p =>
    cases hon : l.on_receive with
    | none =>
      refine ⟨?_, ?_, ?_, ?_, ?_, fun cb hcb ↦ ?_⟩
      · simp [consumeReport, receive, hon, hheard, hreports]
      · simp [consumeReport, receive, hon, hheard, hforeign, isForeign]
      · simp [consumeReport, receive, hon, hheard, hundecodable, isUndecodable]
      · simp [consumeReport, receive, hon, hheard, hown, isOwn]
      · simp [consumeReport, receive, hon, hheard, hreceived, reception]
      · rw [hon] at hcb
        cases hcb
    | some cb =>
      have hcount := hdelivered cb hon
      refine ⟨?_, ?_, ?_, ?_, ?_, fun cb' hcb ↦ ?_⟩
      · simp [consumeReport, receive, hon, hheard, hreports]
      · simp [consumeReport, receive, hon, hheard, hforeign, isForeign]
      · simp [consumeReport, receive, hon, hheard, hundecodable, isUndecodable]
      · simp [consumeReport, receive, hon, hheard, hown, isOwn]
      · simp [consumeReport, receive, hon, hheard, hreceived, reception]
      · obtain rfl : cb = cb' := Option.some.inj (hon.symm.trans hcb)
        simp only [consumeReport, receive, hon, hheard, List.countP_append, List.countP_singleton]
        split
        · rw [hcount]
        · rw [hcount, Nat.add_zero]

/-- **Every report is counted once**, or handed over. -/
theorem HeardAll.accounted {rs : List (ℤ × AdvReport)} {s : BlePump} (h : l.HeardAll rs s)
    {cb : AirReception → Bool} (hcb : l.on_receive = some cb) :
    s.stats.reports =
      s.stats.foreign + s.stats.undecodable + s.stats.self_filtered + s.received.length := by
  rw [h.reports, h.foreign, h.undecodable, h.self_filtered, h.received]
  clear h
  induction rs with
  | nil => rfl
  | cons r rs ih =>
    cases hheard : l.heard r.2 <;>
      simp [isForeign, isUndecodable, isOwn, reception, hheard, hcb, ih] <;> omega

/-- What a run of the pump comes to. -/
structure Told (l : BleListener) (packets : List (ℤ × Option Bytes)) (s : BlePump) : Prop where
  events : s.stats.events = packets.countP fun p ↦ p.2.isSome
  other_events : s.stats.other_events = packets.countP fun p ↦ isOther p.2
  heard : l.HeardAll (allReports packets) s
  settled : s.settled = packets.filterMap fun p ↦ answerOf p.2

/-- Reports leave what is not theirs. -/
theorem consume_reports_spec {rs : List (ℤ × AdvReport)} {s : BlePump} (h : l.HeardAll rs s)
    (rx_time_us : ℤ) (reports : List AdvReport) :
    let s' := reports.foldl (l.consumeReport rx_time_us) s
    l.HeardAll (rs ++ reports.map (Prod.mk rx_time_us)) s' ∧ s'.stats.events = s.stats.events ∧
      s'.stats.other_events = s.stats.other_events ∧ s'.settled = s.settled := by
  induction reports generalizing rs s with
  | nil => exact ⟨by simpa using h, rfl, rfl, rfl⟩
  | cons report reports ih =>
    obtain ⟨hheard, hevents, hother, hsettled⟩ := ih (h.concat rx_time_us report)
    have hsame : (l.consumeReport rx_time_us s report).stats.events = s.stats.events ∧
        (l.consumeReport rx_time_us s report).stats.other_events = s.stats.other_events ∧
        (l.consumeReport rx_time_us s report).settled = s.settled := by
      rw [consumeReport]
      dsimp only
      split
      · exact ⟨rfl, rfl, rfl⟩
      · exact ⟨rfl, rfl, rfl⟩
      · exact ⟨rfl, rfl, rfl⟩
      · rw [receive]
        split <;> exact ⟨rfl, rfl, rfl⟩
    rw [List.append_assoc] at hheard
    exact ⟨hheard, hevents.trans hsame.1, hother.trans hsame.2.1, hsettled.trans hsame.2.2⟩

/-- What has been heard does not depend on the other counters. -/
theorem HeardAll.of_events {rs : List (ℤ × AdvReport)} {s s' : BlePump} (h : l.HeardAll rs s)
    {e o : ℕ} (hstats : s'.stats = { s.stats with events := e, other_events := o })
    (hreceived : s'.received = s.received) : l.HeardAll rs s' := by
  obtain ⟨hreports, hforeign, hundecodable, hown, hrec, hdelivered⟩ := h
  refine ⟨?_, ?_, ?_, ?_, ?_, fun cb hcb ↦ ?_⟩
  · rw [hstats]
    exact hreports
  · rw [hstats]
    exact hforeign
  · rw [hstats]
    exact hundecodable
  · rw [hstats]
    exact hown
  · rw [hreceived]
    exact hrec
  · rw [hstats, hreceived]
    exact hdelivered cb hcb

/-- A packet without reports. -/
theorem Told.of_no_reports {packets : List (ℤ × Option Bytes)} {s s' : BlePump}
    (h : Told l packets s) (now_us : ℤ) {packet : Option Bytes} (hno : reportsOf packet = [])
    (hstats : s'.stats =
      { s.stats with
        events := s.stats.events + if packet.isSome then 1 else 0
        other_events := s.stats.other_events + if isOther packet then 1 else 0 })
    (hreceived : s'.received = s.received)
    (hsettled : s'.settled = s.settled ++ (answerOf packet).toList) :
    Told l (packets ++ [(now_us, packet)]) s' where
  events := by
    rw [hstats, List.countP_append, ← h.events, List.countP_singleton]
  other_events := by
    rw [hstats, List.countP_append, ← h.other_events, List.countP_singleton]
  heard := by
    have hall : allReports (packets ++ [(now_us, packet)]) = allReports packets := by
      simp [allReports, hno]
    rw [hall]
    exact h.heard.of_events hstats hreceived
  settled := by
    rw [hsettled, h.settled, List.filterMap_append]
    cases hanswer : answerOf packet <;> simp [hanswer]

/-- **One packet.** -/
theorem Told.concat {packets : List (ℤ × Option Bytes)} {s : BlePump} (h : Told l packets s)
    (now_us : ℤ) (packet : Option Bytes) :
    Told l (packets ++ [(now_us, packet)]) (l.pump s now_us packet) := by
  cases packet with
  | none => exact h.of_no_reports now_us rfl rfl rfl (List.append_nil _).symm
  | some packet =>
    rw [pump]
    dsimp only
    cases hevent : parse_event packet with
    | none =>
      refine h.of_no_reports now_us ?_ ?_ rfl ?_
      · simp [reportsOf, hevent]
      · simp [isOther, hevent]
      · simp [answerOf, hevent]
    | some event =>
      dsimp only
      by_cases hmeta : event.code = EVT_LE_META
      · -- the reports of an advertising event, one after another
        rw [if_pos hmeta, consume_reports]
        have hheard : l.HeardAll (allReports packets)
            { s with stats := { s.stats with events := s.stats.events + 1 } } :=
          h.heard.of_events rfl rfl
        obtain ⟨hall, hevents, hother, hsettled⟩ :=
          consume_reports_spec hheard now_us (parse_adv_reports event.params)
        have hreports : reportsOf (some packet) = parse_adv_reports event.params := by
          simp [reportsOf, hevent, hmeta]
        have hans : answerOf (some packet) = none := by
          simp [answerOf, hevent, hmeta, EVT_LE_META, EVT_COMMAND_COMPLETE, EVT_COMMAND_STATUS]
        refine ⟨?_, ?_, ?_, ?_⟩
        · rw [hevents, List.countP_append, ← h.events]
          rfl
        · rw [hother, List.countP_append, ← h.other_events, List.countP_singleton]
          simp [isOther, hevent, hmeta]
        · have hsplit : allReports (packets ++ [(now_us, some packet)]) =
              allReports packets ++ (parse_adv_reports event.params).map (Prod.mk now_us) := by
            simp [allReports, hreports]
          rw [hsplit]
          exact hall
        · rw [hsettled, List.filterMap_append, h.settled]
          simp [hans]
      · have hno : reportsOf (some packet) = [] := by
          simp [reportsOf, hevent, hmeta]
        rw [if_neg hmeta]
        -- No other event carries reports; what is left is whether it settles a command.
        by_cases hcomplete : event.code = EVT_COMMAND_COMPLETE
        · rw [if_pos hcomplete]
          cases hcc : parse_command_complete event.params with
          | none =>
            refine h.of_no_reports now_us hno ?_ rfl ?_
            · simp [isOther, hevent, hcomplete]
            · simp [answerOf, hevent, hcomplete, hcc]
          | some cc =>
            refine h.of_no_reports now_us hno ?_ rfl ?_
            · simp [isOther, hevent, hcomplete]
            · simp [answerOf, hevent, hcomplete, hcc]
        · rw [if_neg hcomplete]
          have hne : EVT_COMMAND_STATUS ≠ EVT_COMMAND_COMPLETE := by decide
          by_cases hstatus : event.code = EVT_COMMAND_STATUS
          · rw [if_pos hstatus]
            cases hcs : parse_command_status event.params with
            | none =>
              refine h.of_no_reports now_us hno ?_ rfl ?_
              · simp [isOther, hevent, hstatus]
              · simp [answerOf, hevent, hstatus, hne, hcs]
            | some cs =>
              dsimp only
              by_cases hok : cs.status = 0
              · rw [if_pos hok]
                refine h.of_no_reports now_us hno ?_ rfl ?_
                · simp [isOther, hevent, hstatus]
                · simp [answerOf, hevent, hstatus, hne, hcs, hok]
              · rw [if_neg hok]
                refine h.of_no_reports now_us hno ?_ rfl ?_
                · simp [isOther, hevent, hstatus]
                · simp [answerOf, hevent, hstatus, hne, hcs, hok, Option.filter]
          · rw [if_neg hstatus]
            refine h.of_no_reports now_us hno ?_ rfl ?_
            · simp [isOther, hevent, hmeta, hcomplete, hstatus]
            · simp [answerOf, hevent, hcomplete, hstatus]

/-- **A run of the pump**, over any packets. -/
theorem pump_run (l : BleListener) (packets : List (ℤ × Option Bytes)) :
    Told l packets (l.pumpAll .init packets) := by
  induction packets using List.reverseRecOn with
  | nil => exact ⟨rfl, rfl, ⟨rfl, rfl, rfl, rfl, rfl, fun _ _ ↦ rfl⟩, rfl⟩
  | append_singleton packets p ih =>
    rw [pumpAll, List.foldl_concat]
    exact ih.concat p.1 p.2

/-- **The pump accounts for everything it reads**, whatever the bytes. Every packet is an
advertising event, an answer or counted as neither; every report is counted by what it was refused
for, or handed to the callback; and no report settles a command, nor does an answer reach the
callback. -/
theorem pump_accounts (l : BleListener) {cb : AirReception → Bool} (hcb : l.on_receive = some cb)
    (packets : List (ℤ × Option Bytes)) :
    let s := l.pumpAll .init packets
    s.stats.events = packets.countP (fun p ↦ p.2.isSome) ∧
    s.stats.other_events = packets.countP (fun p ↦ isOther p.2) ∧
    s.stats.reports = (allReports packets).length ∧
    s.stats.reports =
      s.stats.foreign + s.stats.undecodable + s.stats.self_filtered + s.received.length ∧
    s.stats.delivered = s.received.countP cb ∧
    s.received = (allReports packets).filterMap l.reception ∧
    (∀ rec ∈ s.received, rec.packet.node_id ≠ l.node_id) ∧
    s.settled = packets.filterMap fun p ↦ answerOf p.2 := by
  intro s
  obtain ⟨hevents, hother, hheard, hsettled⟩ := pump_run l packets
  refine ⟨hevents, hother, hheard.reports, hheard.accounted hcb, hheard.delivered cb hcb,
    hheard.received, ?_, hsettled⟩
  show ∀ rec ∈ (l.pumpAll .init packets).received, _
  rw [hheard.received]
  intro rec hrec
  obtain ⟨r, -, hr⟩ := List.mem_filterMap.1 hrec
  rw [reception, hcb] at hr
  cases hheard : l.heard r.2 with
  | foreign | undecodable | own =>
    rw [hheard] at hr
    cases hr
  | packet p =>
    rw [hheard] at hr
    obtain rfl := Option.some.inj hr
    -- a packet of its own would have been heard as such
    rw [heard] at hheard
    split at hheard
    · cases hheard
    · split at hheard
      · cases hheard
      · split at hheard
        · cases hheard
        · cases hheard
          assumption

/-- The advertising data of a node in state `7`, under a company id whose second byte is zero. -/
def sampleData (company id : UInt8) : Bytes :=
  [19, 0xFF, company, 0, 1, 3, id, 0, 0, 0, 7, 0, 0, 0, 0, 0, 0, 0, 0, 0]

/-- The report of that advertisement, at -60 dBm. -/
def sampleReport (company id : UInt8) : AdvReport :=
  ⟨0, 1, [1, 2, 3, 4, 5, 6], sampleData company id, -60⟩

/-- A packet with three reports: another company's, this node's own, and a neighbour's. -/
def sampleReports : Bytes :=
  [HCI_EVENT_PKT, EVT_LE_META, 92] ++
    adv_report_params [sampleReport 0x4C 3, sampleReport 0x59 1, sampleReport 0x59 2]

/-- Something that is no event, the reports, an answer, and a read that fails. -/
def samplePackets : List (ℤ × Option Bytes) :=
  [(0, some [1, 2]), (1, some sampleReports), (2, some [4, 14, 4, 1, 8, 32, 0]), (3, none)]

theorem pump_accounts_answer :
    let s := BleListener.pumpAll ⟨1, COMPANY_ID, some fun _ ↦ true⟩ .init samplePackets
    s.stats.events = 3 ∧ s.stats.other_events = 1 ∧ s.stats.reports = 3 ∧ s.stats.delivered = 1 ∧
      (s.received.map fun rec ↦ (rec.packet.node_id, rec.packet.vstate, rec.rx_time_us, rec.rssi)) =
        [(2, [7], 1, some (-60))] ∧
      s.settled = [(8200, true)] := by
  obtain ⟨hevents, hother, hreports, -, hdelivered, hreceived, -, hsettled⟩ :=
    pump_accounts ⟨1, COMPANY_ID, some fun _ ↦ true⟩ rfl samplePackets
  have hneighbour : ((allReports samplePackets).filterMap (BleListener.reception
      ⟨1, COMPANY_ID, some fun _ ↦ true⟩)).map
        (fun rec ↦ (rec.packet.node_id, rec.packet.vstate, rec.rx_time_us, rec.rssi)) =
      [(2, [7], 1, some (-60))] := by
    decide +kernel
  rw [← hreceived] at hneighbour
  refine ⟨hevents.trans (by decide), hother.trans (by decide), hreports.trans (by decide), ?_,
    hneighbour, hsettled.trans (by decide)⟩
  have hone := congrArg List.length hneighbour
  rw [List.length_map] at hone
  rw [hdelivered, List.countP_eq_length.mpr fun _ _ ↦ rfl]
  exact hone

end BleListener
end VertexTestbed.Host
