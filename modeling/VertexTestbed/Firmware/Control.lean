import VertexTestbed.Firmware.Agent
import VertexTestbed.Firmware.Parser

/-!
# The serial frame dispatcher

`control_on_frame` of `control.c`: every inbound frame is answered by exactly one frame, an ACK or
an ERR for a configuration frame, a PONG or a STATS dump for the two queries. What the dispatcher
touches is the board and the radio settings that `broadcaster.c` and `observer.c` keep; `ControlEnv`
is what it reads of the kernel, the Bluetooth stack and the drivers' counters. The trigger hook,
called behind an accepted CONTROL frame, wakes the network loop and nothing else.
-/

namespace VertexTestbed.Firmware

/-! ### Radio settings -/

/-- `-EINVAL`. -/
def einval : ℤ := -22

/-- `struct radio_params`. -/
structure RadioParams where
  adv_min : ℕ
  adv_max : ℕ
  scan_interval : ℕ
  scan_window : ℕ
  active_scan : Bool
  advertising : Bool

/-- `agent_parse_radio`: the return code, and the parameters it writes. -/
def agentParseRadio (d : Bytes) : ℤ × Option RadioParams :=
  if d.length ≠ protoRadioLen then (agentErrLen, none)
  else
    let adv_min := protoLdU16 d 0
    let adv_max := protoLdU16 d 2
    let scan_int := protoLdU16 d 4
    let scan_win := protoLdU16 d 6
    let flags := byteAt d 8
    if scan_int = 0 ∨ scan_int < scan_win then (agentErrRange, none)
    else if adv_min = 0 ∨ adv_max < adv_min then (agentErrRange, none)
    else
      (agentOk,
        some
          { adv_min := adv_min
            adv_max := adv_max
            scan_interval := scan_int
            scan_window := scan_win
            active_scan := flags &&& 1 ≠ 0
            advertising := flags &&& 2 ≠ 0 })

/-- The settings that the broadcaster and the observer keep. -/
structure RadioState where
  adv_interval_min : ℕ
  adv_interval_max : ℕ
  scan_interval : ℕ
  scan_window : ℕ
  scan_active : Bool
  scanning : Bool

/-- What a frame handler reads of its surroundings: the uptime, what `bt_le_scan_stop` and
`bt_le_scan_start` return if they are called, the counters, and the granted power. -/
structure ControlEnv where
  nowUs : ℤ
  scanStop : ℤ
  scanStart : ℤ
  observerCounters : List UInt32
  uartCounters : List UInt32
  protoStats : ProtoStats
  granted_tx_power : UInt8

/-- `broadcaster_set_adv_params`. -/
def broadcasterSetAdvParams (r : RadioState) (interval_min interval_max : ℕ) : ℤ × RadioState :=
  if interval_min = 0 ∨ interval_max < interval_min then (einval, r)
  else (0, { r with adv_interval_min := interval_min, adv_interval_max := interval_max })

/-- `observer_set_scan_params`, with the `observer_init` behind a restart. -/
def observerSetScanParams (e : ControlEnv) (r : RadioState) (interval window : ℕ) (active : Bool) :
    ℤ × RadioState :=
  if interval = 0 ∨ interval < window then (einval, r)
  else
    let r' := { r with scan_interval := interval, scan_window := window, scan_active := active }
    if r.scanning = false then (0, r')
    else if e.scanStop ≠ 0 then (e.scanStop, r')
    else if e.scanStart ≠ 0 then (e.scanStart, { r' with scanning := false })
    else (0, r')

/-- `apply_radio`. -/
def applyRadio (e : ControlEnv) (r : RadioState) (d : Bytes) : ℤ × RadioState :=
  match agentParseRadio d with
  | (rc, none) => (rc, r)
  | (_, some p) =>
    let adv := broadcasterSetAdvParams r p.adv_min p.adv_max
    if adv.1 ≠ 0 then (agentErrRange, adv.2)
    else
      let scan := observerSetScanParams e adv.2 p.scan_interval p.scan_window p.active_scan
      if scan.1 ≠ 0 then (agentErrRange, scan.2) else (agentOk, scan.2)

/-! ### The dispatcher -/

/-- `(uint8_t)(int8_t)status`. -/
def statusByte (status : ℤ) : UInt8 :=
  UInt8.ofNat (status % 256).toNat

/-- `send_ack`. -/
def sendAck (type : UInt8) (status : ℤ) : UInt8 × Bytes :=
  (protoTAck, [type, statusByte status])

/-- `send_err`. -/
def sendErr (type : UInt8) (code : ℤ) : UInt8 × Bytes :=
  (protoTErr, [type, statusByte code])

/-- The STATS payload, version 1. -/
def statsPayload (e : ControlEnv) (r : RadioState) : Bytes :=
  let s := e.protoStats
  let counters :=
    e.observerCounters ++ e.uartCounters ++
      [s.frames_ok, s.crc_errors, s.len_errors, s.resyncs, s.timeouts]
  1 :: (counters.flatMap (fun c ↦ leBytes 4 c.toNat) ++ leBytes 2 r.adv_interval_min ++
    leBytes 2 r.adv_interval_max ++ leBytes 2 r.scan_interval ++ leBytes 2 r.scan_window ++
    [e.granted_tx_power, if r.scan_active then 1 else 0])

/-- What the dispatcher works on. -/
structure ControlPlane (K : Type) where
  board : Board K
  radio : RadioState

/-- The types that `control_on_frame` hands to `agent_apply_frame`. -/
def agentFrameTypes : List UInt8 :=
  [protoTNetwork, protoTAlgorithm, protoTDisturbance, protoTControl, protoTMgPlant, protoTMgVirtual,
    protoTMgIface]

section Field

variable {K : Type} [Field K] [LinearOrder K] [IsStrictOrderedRing K] [FloorRing K]

/-- What answers a configuration frame: an ACK with status 0, or an ERR with the code. -/
def ackOrErr (type : UInt8) (rc : ℤ) : UInt8 × Bytes :=
  if rc = agentOk then sendAck type 0 else sendErr type rc

/-- `control_on_frame`: what it leaves behind and the one frame it answers with. -/
def controlOnFrame (e : ControlEnv) (c : ControlPlane K) (type : UInt8) (payload : Bytes) :
    ControlPlane K × (UInt8 × Bytes) :=
  if type ∈ agentFrameTypes then
    let r := agentApplyFrame c.board type payload e.nowUs
    ({ c with board := r.2 }, ackOrErr type r.1)
  else if type = protoTRadio then
    let r := applyRadio e c.radio payload
    ({ c with radio := r.2 }, ackOrErr type r.1)
  else if type = protoTPing then (c, (protoTPong, leBytes 8 e.nowUs.toNat))
  else if type = protoTStatsReq then (c, (protoTStats, statsPayload e c.radio))
  else (c, sendErr type agentErrType)

/-- **A configuration frame is refused or acknowledged with status 0.** -/
theorem controlOnFrame_ack {e : ControlEnv} {c : ControlPlane K} {type : UInt8} {payload : Bytes}
    (htype : type ∈ agentFrameTypes ∨ type = protoTRadio)
    (hreply : (controlOnFrame e c type payload).2.1 ≠ protoTErr) :
    (controlOnFrame e c type payload).2 = sendAck type 0 := by
  have hack : ∀ rc : ℤ, (ackOrErr type rc).1 ≠ protoTErr → ackOrErr type rc = sendAck type 0 := by
    intro rc hrc
    rw [ackOrErr] at hrc ⊢
    by_cases hok : rc = agentOk
    · rw [if_pos hok]
    · rw [if_neg hok] at hrc
      exact absurd rfl hrc
  rw [controlOnFrame] at hreply ⊢
  by_cases hagent : type ∈ agentFrameTypes
  · rw [if_pos hagent] at hreply ⊢
    exact hack _ hreply
  · have hradio : type = protoTRadio := htype.resolve_left hagent
    rw [if_neg hagent, if_pos hradio] at hreply ⊢
    exact hack _ hreply

end Field

end VertexTestbed.Firmware
