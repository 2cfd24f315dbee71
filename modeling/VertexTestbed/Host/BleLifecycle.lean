import VertexTestbed.Host.AdvertisingData
import VertexTestbed.Host.Codec
import VertexTestbed.Lib.Raising
import VertexTestbed.Lib.Rounding

/-!
# Starting and stopping the BLE transport

`BleTransport.start` and `stop` (`transports/ble.py`) over `HciSocket.command` (`radio/hci.py`). A
start is a dozen commands to the controller, each of which it may refuse, or answer too late; the
radio advertises from the first `LE Set Adv Enable` on and scans from the last command on. A stop
takes the reader out of the event loop, asks the controller to end both, and closes the socket if
the transport opened it.

`BleWorld` is what the rest of the world does at each of these calls, one answer a call, so a start
and the stop behind it are covered for every way in which they can go. The state has the transport's
own flags beside what they are about: the radio, and the reader in the event loop.

A command that raises may still have been carried out, when only its completion was lost. So where
a failed start leaves the radio is a matter of whether the controller has taken the enabling
command: `start_spec` says so for every configuration and every world, and `stop_quiet_iff` says
when the stop of a running transport silences it. Publishes, and the futures they leave pending, are
the subject of `BleCommands`.
-/

namespace VertexTestbed.Host

open Raising

/-! ### The controller -/

/-- `HciStatus.SUCCESS`. -/
def SUCCESS : ℕ := 0x00

/-- `HciStatus.COMMAND_DISALLOWED`. -/
def COMMAND_DISALLOWED : ℕ := 0x0C

/-- The commands of a start and a stop, by their builders, with the values they carry. -/
inductive HciCommand where
  | reset
  | le_read_adv_tx_power
  | le_set_adv_parameters (interval_min interval_max : ℤ) (channel_map : ℕ)
  | le_set_adv_data (ad : Bytes)
  | le_set_adv_enable (enable : Bool)
  | le_set_scan_parameters (interval window : ℤ) (scan_type : ℕ)
  | le_set_scan_enable (enable filter_duplicates : Bool)

/-- What the controller holds and does. -/
structure Radio where
  advertising : Bool
  scanning : Bool
  adv_data : Bytes
  adv_parameters : Option (ℤ × ℤ × ℕ)
  scan_parameters : Option (ℤ × ℤ × ℕ)
  filter_duplicates : Bool

/-- A command that the controller carries out. -/
def HciCommand.carryOut (r : Radio) : HciCommand → Radio
  | reset => { r with advertising := false, scanning := false }
  | le_read_adv_tx_power => r
  | le_set_adv_parameters lo hi map => { r with adv_parameters := some (lo, hi, map) }
  | le_set_adv_data ad => { r with adv_data := ad }
  | le_set_adv_enable enable => { r with advertising := enable }
  | le_set_scan_parameters interval window type =>
    { r with scan_parameters := some (interval, window, type) }
  | le_set_scan_enable enable dup => { r with scanning := enable, filter_duplicates := dup }

/-- The commands that switch something on. -/
def HciCommand.Enables : HciCommand → Prop
  | .le_set_adv_enable enable => enable = true
  | .le_set_scan_enable enable _ => enable = true
  | _ => False

/-- The commands that are about scanning only. -/
def HciCommand.Scans : HciCommand → Prop
  | .le_set_scan_parameters .. => True
  | .le_set_scan_enable .. => True
  | _ => False

/-- How a command ends: with a status, or with no answer in time, carried out or not. -/
inductive Answer where
  | status (status : ℕ)
  | no_response (carriedOut : Bool)
  deriving DecidableEq

/-- The controller carries a command out when it says so, and it may without saying. -/
def Answer.carriedOut : Answer → Bool
  | status st => st = SUCCESS
  | no_response b => b

/-- `HciSocket.command` returns. -/
def Answer.Accepted (tolerate : List ℕ) : Answer → Prop
  | status st => st = SUCCESS ∨ st ∈ tolerate
  | no_response _ => False

instance (tolerate : List ℕ) : ∀ a : Answer, Decidable (a.Accepted tolerate)
  | .status st => inferInstanceAs (Decidable (st = SUCCESS ∨ st ∈ tolerate))
  | .no_response _ => .isFalse id

/-- What is not tolerated is carried out if it is accepted. -/
theorem Answer.carriedOut_of_accepted {a : Answer} (h : a.Accepted []) : a.carriedOut = true := by
  cases a with
  | status st => simpa [Accepted, carriedOut] using h
  | no_response b => exact h.elim

/-! ### Errors -/

/-- What `start` and `stop` of a transport raise, by where it is raised. `cancelled` is the
cancellation of the task, which no `except Exception` catches. -/
inductive TransportError where
  | scan_window (scan_window_ms scan_interval_ms : ℚ)
  | open_socket
  | command (answer : Answer)
  | ms_to_units (ms : ℚ) (units : ℤ)
  | adv_interval (interval_min interval_max : ℤ)
  | channel_map (channel_map : ℕ)
  | adv_data
  | scan_interval (interval window : ℤ)
  | add_reader
  | remove_reader
  | close_socket
  | socket
  | endpoint
  | attached
  | cancelled
  deriving DecidableEq

/-- `isinstance(exc, Exception)`. -/
def TransportError.isException (e : TransportError) : Bool :=
  e ≠ cancelled

/-- `try: … except Exception: pass`. -/
def swallow {σ : Type} (x : Raising σ TransportError Unit) : Raising σ TransportError Unit :=
  tryCatch x fun e ↦ if e.isException then pure () else throw e

/-! ### The transport -/

/-- The arguments of the constructor; `sock` says that a socket was injected. -/
structure BleConfig where
  node_id : ℕ
  sock : Bool
  adv_interval_ms : ℚ := 100
  adv_interval_max_ms : Option ℚ := none
  scan_interval_ms : ℚ := 100
  scan_window_ms : ℚ := 100
  channel_map : ℕ := 0x07
  passive_scan : Bool := true
  filter_duplicates : Bool := false
  company_id : ℕ := COMPANY_ID

/-- `_ad(_idle_packet())`; `none` where a constructor or a builder raises. -/
def BleConfig.idle_ad (c : BleConfig) : Option Bytes := do
  let packet ← (AirPacket.new c.node_id [0] 0 0 false false).toOption
  if 65535 < c.company_id then none
  else
    let el ← element AD_MANUFACTURER (leBytes 2 c.company_id ++ packet.encode)
    build_ad [el] MAX_AD_LEN

/-- The calls that a start and a stop make to `command`. -/
inductive BleCall where
  | reset
  | read_tx_power
  | adv_off
  | adv_parameters
  | adv_data
  | adv_on
  | scan_off
  | scan_parameters
  | scan_on
  | stop_scan
  | stop_adv

/-- `remove_reader`: it removes, it raises what `stop` ignores, or it raises something else. -/
inductive ReaderRemoval where
  | removed
  | ignored
  | raised
  deriving DecidableEq

/-- What the world does at each call. `close_silences`: the controller falls silent when the socket
is closed. -/
structure BleWorld where
  opens : Bool
  answer : BleCall → Answer
  tx_power : Option UInt8
  adds_reader : Bool
  remove_reader : ReaderRemoval
  close_raises : Bool
  close_silences : Bool

/-- A transport: its own fields, and the radio and the event loop's reader they are about. -/
structure BleTransport where
  sock : Bool
  owns_sock : Bool
  on_receive : Bool
  pumping : Bool
  advertising : Bool
  scanning : Bool
  adv_tx_power_dbm : Option ℤ
  radio : Radio
  reader : Bool

namespace BleTransport

/-- A transport as constructed, over a radio that is off: nothing that the controller was left with
advertises or scans before the first start. A start does not end a scan that somebody else began
until it comes to `scan_off`, and what it finds on the air is not its own doing. -/
def new (c : BleConfig) (left : Radio) : BleTransport where
  sock := c.sock
  owns_sock := false
  on_receive := false
  pumping := false
  advertising := false
  scanning := false
  adv_tx_power_dbm := none
  radio := { left with advertising := false, scanning := false }
  reader := false

variable (c : BleConfig) (w : BleWorld)

/-- `HciSocket.command`. -/
def command (call : BleCall) (cmd : HciCommand) (tolerate : List ℕ) :
    Raising BleTransport TransportError Unit := do
  let a := w.answer call
  modify fun s ↦ { s with radio := if a.carriedOut then cmd.carryOut s.radio else s.radio }
  throwIf (¬a.Accepted tolerate) (.command a)

/-- `ms_to_units`. -/
def units (ms : ℚ) : ℤ :=
  roundHalfEven (ms * 1000 / 625)

/-- The range that `ms_to_units` accepts. -/
def UnitsInRange (ms : ℚ) : Prop :=
  0x0004 ≤ units ms ∧ units ms ≤ 0x4000

instance (ms : ℚ) : Decidable (UnitsInRange ms) :=
  inferInstanceAs (Decidable (_ ∧ _))

/-- `ms_to_units`, which raises out of range. -/
def ms_to_units (ms : ℚ) : Raising BleTransport TransportError ℤ := do
  throwIf (¬UnitsInRange ms) (.ms_to_units ms (units ms))
  pure (units ms)

/-- A socket of its own, when none was injected. -/
def open_socket : Raising BleTransport TransportError Unit := do
  if (← get).sock then pure ()
  else
    throwIf (w.opens = false) .open_socket
    modify fun s ↦ { s with sock := true, owns_sock := true }
    -- Only on a socket we opened: an injected one may already be configured.
    command w .reset .reset []

/-- Recording what the controller radiates, or that it refuses to say. -/
def read_tx_power : Raising BleTransport TransportError Unit :=
  tryCatch
    (do
      command w .read_tx_power .le_read_adv_tx_power []
      modify fun s ↦
        { s with
          adv_tx_power_dbm :=
            match w.tx_power with
            | none => s.adv_tx_power_dbm
            | some v => some (if 127 < v.toNat then v.toNat - 256 else v.toNat) })
    fun e ↦
      if e.isException then modify fun s ↦ { s with adv_tx_power_dbm := none } else throw e

/-- `start`, up to the advertising data. -/
def set_up : Raising BleTransport TransportError Unit := do
  throwIf (c.scan_interval_ms < c.scan_window_ms)
    (.scan_window c.scan_window_ms c.scan_interval_ms)
  modify fun s ↦ { s with on_receive := true }
  open_socket w
  read_tx_power w
  let adv_units ← ms_to_units c.adv_interval_ms
  command w .adv_off (.le_set_adv_enable false) [COMMAND_DISALLOWED]
  let adv_units_max ← ms_to_units (c.adv_interval_max_ms.getD c.adv_interval_ms)
  throwIf (adv_units_max < adv_units) (.adv_interval adv_units adv_units_max)
  throwIf (¬(0x01 ≤ c.channel_map ∧ c.channel_map ≤ 0x07)) (.channel_map c.channel_map)
  command w .adv_parameters (.le_set_adv_parameters adv_units adv_units_max c.channel_map) []
  throwIf (c.idle_ad = none) .adv_data
  command w .adv_data (.le_set_adv_data (c.idle_ad.getD [])) []

/-- `start`, behind the advertising. -/
def listen : Raising BleTransport TransportError Unit := do
  command w .scan_off (.le_set_scan_enable false false) [COMMAND_DISALLOWED]
  let interval ← ms_to_units c.scan_interval_ms
  let window ← ms_to_units c.scan_window_ms
  throwIf (interval < window) (.scan_interval interval window)
  command w .scan_parameters
    (.le_set_scan_parameters interval window (if c.passive_scan then 0x00 else 0x01)) []
  -- Reader first, then scanning.
  throwIf (w.adds_reader = false) .add_reader
  modify fun s ↦ { s with reader := true, pumping := true }
  command w .scan_on (.le_set_scan_enable true c.filter_duplicates) []
  modify fun s ↦ { s with scanning := true }

/-- `start`. -/
def start : Raising BleTransport TransportError Unit := do
  if (← get).pumping then pure ()
  else
    set_up c w
    command w .adv_on (.le_set_adv_enable true) []
    modify fun s ↦ { s with advertising := true }
    listen c w

/-- `remove_reader`, with what `stop` ignores of it. -/
def remove_reader : Raising BleTransport TransportError Unit :=
  match w.remove_reader with
  | .removed => modify fun s ↦ { s with reader := false }
  | .ignored => pure ()
  | .raised => throw .remove_reader

/-- `HciSocket.close`. -/
def close : Raising BleTransport TransportError Unit := do
  modify fun s ↦
    if w.close_silences then
      { s with radio := { s.radio with advertising := false, scanning := false } }
    else s
  throwIf (w.close_raises = true) .close_socket

/-- `stop`. -/
def stop : Raising BleTransport TransportError Unit := do
  whenState (fun s ↦ s.pumping && s.sock) do
    remove_reader w
    modify fun s ↦ { s with pumping := false }
  whenState (·.sock) do
    whenState (·.scanning) <|
      swallow (command w .stop_scan (.le_set_scan_enable false false) [COMMAND_DISALLOWED])
    whenState (·.advertising) <|
      swallow (command w .stop_adv (.le_set_adv_enable false) [COMMAND_DISALLOWED])
    modify fun s ↦ { s with scanning := false, advertising := false }
    whenState (·.owns_sock) do
      close w
      modify fun s ↦ { s with sock := false, owns_sock := false }
  modify fun s ↦ { s with on_receive := false }

/-! ### What a start does -/

/-- Nothing is on: neither the radio, nor the reader, nor a flag of the transport. -/
structure Off (s : BleTransport) : Prop where
  radio_advertising : s.radio.advertising = false
  radio_scanning : s.radio.scanning = false
  reader : s.reader = false
  pumping : s.pumping = false
  advertising : s.advertising = false
  scanning : s.scanning = false

/-- The socket is there, and it is the transport's own exactly if none was injected. -/
structure HasSocket (s : BleTransport) : Prop where
  sock : s.sock = true
  owns_sock : s.owns_sock = !c.sock

/-- The radio is on the air, with the idle packet. -/
structure OnAir (s : BleTransport) : Prop where
  radio_advertising : s.radio.advertising = true
  idle : c.idle_ad = some s.radio.adv_data

/-- A transport that has been started. -/
structure Running (s : BleTransport) : Prop extends OnAir c s, HasSocket c s where
  radio_scanning : s.radio.scanning = true
  reader : s.reader = true
  pumping : s.pumping = true
  advertising : s.advertising = true
  scanning : s.scanning = true

/-- Everything up to the advertising data goes well. -/
structure SetsUp : Prop where
  window : c.scan_window_ms ≤ c.scan_interval_ms
  opens : c.sock = false → w.opens = true ∧ (w.answer .reset).Accepted []
  adv_units : UnitsInRange c.adv_interval_ms
  adv_off : (w.answer .adv_off).Accepted [COMMAND_DISALLOWED]
  adv_units_max : UnitsInRange (c.adv_interval_max_ms.getD c.adv_interval_ms)
  adv_interval : units c.adv_interval_ms ≤ units (c.adv_interval_max_ms.getD c.adv_interval_ms)
  channel_map : 0x01 ≤ c.channel_map ∧ c.channel_map ≤ 0x07
  adv_parameters : (w.answer .adv_parameters).Accepted []
  ad : c.idle_ad ≠ none
  adv_data : (w.answer .adv_data).Accepted []

/-- Everything behind the advertising goes well. -/
structure Listens : Prop where
  scan_off : (w.answer .scan_off).Accepted [COMMAND_DISALLOWED]
  scan_units : UnitsInRange c.scan_interval_ms
  scan_window : UnitsInRange c.scan_window_ms
  scan_interval : units c.scan_window_ms ≤ units c.scan_interval_ms
  scan_parameters : (w.answer .scan_parameters).Accepted []
  adds_reader : w.adds_reader = true
  scan_on : (w.answer .scan_on).Accepted []

/-- **The radio is put on the air**: the start gets as far as `LE Set Adv Enable`, and the
controller carries it out. -/
structure Airs : Prop extends SetsUp c w where
  carriedOut : (w.answer .adv_on).carriedOut = true

/-- The start goes through. -/
structure Starts : Prop extends SetsUp c w, Listens c w where
  adv_on : (w.answer .adv_on).Accepted []

/-- The state behind a command, which the controller may have carried out. -/
def issued (call : BleCall) (cmd : HciCommand) (s : BleTransport) : BleTransport :=
  { s with radio := if (w.answer call).carriedOut then cmd.carryOut s.radio else s.radio }

variable {c w}

/-- A command returns if its answer is accepted, and whatever it does to the radio it has done. -/
theorem command_spec {call : BleCall} {cmd : HciCommand} {tolerate : List ℕ}
    {P M : BleTransport → Prop} {R : TransportError → BleTransport → Prop}
    (hM : (w.answer call).Accepted tolerate → ∀ s, P s → M (issued w call cmd s))
    (hR : ¬(w.answer call).Accepted tolerate → ∀ s, P s →
      R (.command (w.answer call)) (issued w call cmd s)) :
    Spec P (command w call cmd tolerate)
      (fun _ s ↦ (w.answer call).Accepted tolerate ∧ M s) R := by
  refine Spec.bind (M := fun _ s ↦ ∃ s₀, P s₀ ∧ s = issued w call cmd s₀)
    (Spec.modify fun s hs ↦ ⟨s, hs, rfl⟩) fun _ ↦ ?_
  refine (Spec.throwIf (R := R) ?_).weaken (fun _ hs ↦ hs) ?_ fun _ _ hs ↦ hs
  · rintro hrefused s ⟨s₀, hs, rfl⟩
    exact hR hrefused s₀ hs
  · rintro - s ⟨haccepted, s₀, hs, rfl⟩
    exact ⟨not_not.mp haccepted, hM (not_not.mp haccepted) s₀ hs⟩

theorem ms_to_units_spec {ms : ℚ} {P : BleTransport → Prop}
    {R : TransportError → BleTransport → Prop}
    (hR : ¬UnitsInRange ms → ∀ s, P s → R (.ms_to_units ms (units ms)) s) :
    Spec P (ms_to_units ms) (fun u s ↦ (u = units ms ∧ UnitsInRange ms) ∧ P s) R :=
  (Spec.throwIf hR).bind_fact fun _ hrange ↦ Spec.pure fun _ hs ↦ ⟨⟨rfl, not_not.mp hrange⟩, hs⟩

theorem Off.issued {s : BleTransport} (h : Off s) {call : BleCall} {cmd : HciCommand}
    (hcmd : ¬cmd.Enables) : Off (issued w call cmd s) := by
  rw [BleTransport.issued]
  split_ifs
  · -- The command was carried out, and it is one of those that switch nothing on.
    cases cmd with
    | le_set_adv_enable enable =>
      exact { h with radio_advertising := Bool.eq_false_of_not_eq_true hcmd }
    | le_set_scan_enable enable dup =>
      exact { h with radio_scanning := Bool.eq_false_of_not_eq_true hcmd }
    | reset => exact { h with radio_advertising := rfl, radio_scanning := rfl }
    | le_read_adv_tx_power => exact { h with }
    | le_set_adv_parameters lo hi map => exact { h with }
    | le_set_adv_data ad => exact { h with }
    | le_set_scan_parameters interval window type => exact { h with }
  · exact { h with }

/-- A transport that is off, with its socket. -/
structure Ready (c : BleConfig) (s : BleTransport) : Prop extends Off s, HasSocket c s

theorem Ready.issued {s : BleTransport} (h : Ready c s) {call : BleCall} {cmd : HciCommand}
    (hcmd : ¬cmd.Enables) : Ready c (issued w call cmd s) :=
  { h.toOff.issued hcmd with sock := h.sock, owns_sock := h.owns_sock }

/-- A command that switches nothing on, from a transport that is off. -/
theorem command_ready {call : BleCall} {cmd : HciCommand} {tolerate : List ℕ}
    {R : TransportError → BleTransport → Prop} (hcmd : ¬cmd.Enables)
    (hR : ¬(w.answer call).Accepted tolerate → ∀ s, Off s → R (.command (w.answer call)) s) :
    Spec (Ready c) (command w call cmd tolerate)
      (fun _ s ↦ (w.answer call).Accepted tolerate ∧ Ready c s) R :=
  command_spec (fun _ _ hs ↦ hs.issued hcmd) fun hrefused _ hs ↦
    hR hrefused _ (hs.issued hcmd).toOff

theorem open_socket_spec {R : TransportError → BleTransport → Prop}
    (hR : ¬(c.sock = false → w.opens = true ∧ (w.answer .reset).Accepted []) →
      ∀ e s, e.isException = true → Off s → R e s) :
    Spec (fun s ↦ Off s ∧ s.sock = c.sock ∧ s.owns_sock = false) (open_socket w)
      (fun _ s ↦ (c.sock = false → w.opens = true ∧ (w.answer .reset).Accepted []) ∧ Ready c s)
      R := by
  refine Spec.get_bind fun s₀ ⟨hoff, hsock, howns⟩ ↦ ?_
  by_cases hinjected : s₀.sock = true
  · rw [if_pos hinjected]
    refine Spec.pure ?_
    rintro _ rfl
    rw [hinjected] at hsock
    exact ⟨fun h ↦ absurd (hsock.trans h) (by decide),
      { hoff with sock := hinjected, owns_sock := by rw [howns, ← hsock]; rfl }⟩
  · rw [if_neg hinjected]
    have hnone : c.sock = false := by rw [← hsock]; exact Bool.eq_false_of_not_eq_true hinjected
    refine Spec.pre (P := Off) ?_ (by rintro _ rfl; exact hoff)
    refine Spec.bind_fact (Spec.throwIf fun hopen s hs ↦ hR ?_ _ s rfl hs) fun _ hopen ↦ ?_
    · exact fun h ↦ absurd (h hnone).1 (by rw [hopen]; decide)
    refine Spec.bind (M := fun _ ↦ Ready c)
      (Spec.modify fun s hs ↦ { hs with sock := rfl, owns_sock := by rw [hnone]; rfl }) fun _ ↦ ?_
    refine (command_ready id fun hreset s hs ↦
      hR (fun h ↦ hreset (h hnone).2) _ s rfl hs).post ?_
    exact fun _ s hs ↦ ⟨fun _ ↦ ⟨Bool.eq_true_of_not_eq_false hopen, hs.1⟩, hs.2⟩

theorem read_tx_power_spec {R : TransportError → BleTransport → Prop} :
    Spec (Ready c) (read_tx_power w) (fun _ ↦ Ready c) R := by
  refine Spec.tryCatch (S := fun e s ↦ e.isException = true ∧ Ready c s) ?_ fun e ↦ ?_
  · refine Spec.bind_fact (command_spec (M := Ready c) (fun _ s hs ↦ hs.issued id)
      fun _ s hs ↦ ⟨rfl, hs.issued id⟩) fun _ _ ↦ ?_
    exact Spec.modify fun s hs ↦ { hs with }
  · by_cases he : e.isException = true
    · rw [if_pos he]
      exact Spec.modify fun s hs ↦ { hs.2 with }
    · rw [if_neg he]
      exact Spec.throw fun s hs ↦ absurd hs.1 he

/-- A transport that is off and about to advertise the idle packet. -/
structure Primed (c : BleConfig) (s : BleTransport) : Prop extends Ready c s where
  idle : c.idle_ad = some s.radio.adv_data

/-- **The set-up leaves the radio off**, and it raises exactly if something in it goes wrong. -/
theorem set_up_spec :
    Spec (fun s ↦ Off s ∧ s.sock = c.sock ∧ s.owns_sock = false) (set_up c w)
      (fun _ s ↦ SetsUp c w ∧ Primed c s)
      (fun e s ↦ e.isException = true ∧ ¬SetsUp c w ∧ Off s) := by
  refine Spec.bind_fact (Spec.throwIf fun hwindow s hs ↦
    ⟨rfl, fun h ↦ absurd h.window (not_le.mpr hwindow), hs.1⟩) fun _ hwindow ↦ ?_
  refine Spec.bind (M := fun _ s ↦ Off s ∧ s.sock = c.sock ∧ s.owns_sock = false)
    (Spec.modify fun s hs ↦ ⟨{ hs.1 with }, hs.2⟩) fun _ ↦ ?_
  refine Spec.bind_fact (open_socket_spec fun hopens _ s he hs ↦
    ⟨he, fun h ↦ hopens h.opens, hs⟩) fun _ hopens ↦ ?_
  refine Spec.bind read_tx_power_spec fun _ ↦ ?_
  refine Spec.bind_fact (ms_to_units_spec fun hunits s hs ↦
    ⟨rfl, fun h ↦ hunits h.adv_units, hs.toOff⟩) fun _ ⟨hu, hunits⟩ ↦ ?_
  refine Spec.bind_fact (command_ready Bool.false_ne_true fun hoff s hs ↦
    ⟨rfl, fun h ↦ hoff h.adv_off, hs⟩) fun _ hoff ↦ ?_
  refine Spec.bind_fact (ms_to_units_spec fun hmax s hs ↦
    ⟨rfl, fun h ↦ hmax h.adv_units_max, hs.toOff⟩) fun _ ⟨hm, hmax⟩ ↦ ?_
  subst hu hm
  refine Spec.bind_fact (Spec.throwIf fun horder s hs ↦
    ⟨rfl, fun h ↦ absurd h.adv_interval (not_le.mpr horder), hs.toOff⟩) fun _ horder ↦ ?_
  refine Spec.bind_fact (Spec.throwIf fun hmap s hs ↦
    ⟨rfl, fun h ↦ hmap h.channel_map, hs.toOff⟩) fun _ hmap ↦ ?_
  refine Spec.bind_fact (command_ready id fun hparams s hs ↦
    ⟨rfl, fun h ↦ hparams h.adv_parameters, hs⟩) fun _ hparams ↦ ?_
  refine Spec.bind_fact (Spec.throwIf fun had s hs ↦
    ⟨rfl, fun h ↦ h.ad had, hs.toOff⟩) fun _ had ↦ ?_
  -- The controller says that it has the idle packet only if it has taken it.
  have hprimed : (w.answer .adv_data).Accepted [] → ∀ s, Ready c s →
      Primed c (issued w .adv_data (.le_set_adv_data (c.idle_ad.getD [])) s) := by
    intro hdata s hs
    refine { hs.issued id with idle := ?_ }
    obtain ⟨ad, had⟩ := Option.ne_none_iff_exists'.mp had
    rw [issued, if_pos (Answer.carriedOut_of_accepted hdata), had]
    rfl
  refine (command_spec hprimed fun hdata s hs ↦
    ⟨rfl, fun h ↦ hdata h.adv_data, (hs.issued id).toOff⟩).post ?_
  exact fun _ s hs ↦ ⟨⟨not_lt.mp hwindow, hopens, hunits, hoff, hmax, not_lt.mp horder,
    not_not.mp hmap, hparams, had, hs.1⟩, hs.2⟩

/-- A transport that knows it is on the air. -/
structure Airing (c : BleConfig) (s : BleTransport) : Prop extends OnAir c s, HasSocket c s where
  advertising : s.advertising = true

theorem Airing.issued {s : BleTransport} (h : Airing c s) {call : BleCall} {cmd : HciCommand}
    (hcmd : cmd.Scans) : Airing c (issued w call cmd s) := by
  rw [BleTransport.issued]
  split_ifs
  · cases cmd with
    | le_set_scan_parameters interval window type => exact { h with }
    | le_set_scan_enable enable dup => exact { h with }
    | reset => exact hcmd.elim
    | le_read_adv_tx_power => exact hcmd.elim
    | le_set_adv_parameters lo hi map => exact hcmd.elim
    | le_set_adv_data ad => exact hcmd.elim
    | le_set_adv_enable enable => exact hcmd.elim
  · exact { h with }

/-- A command about scanning, from a transport on the air. -/
theorem command_airing {call : BleCall} {cmd : HciCommand} {tolerate : List ℕ}
    {R : TransportError → BleTransport → Prop} (hcmd : cmd.Scans)
    (hR : ¬(w.answer call).Accepted tolerate → ∀ s, OnAir c s → R (.command (w.answer call)) s) :
    Spec (Airing c) (command w call cmd tolerate)
      (fun _ s ↦ (w.answer call).Accepted tolerate ∧ Airing c s) R :=
  command_spec (fun _ _ hs ↦ hs.issued hcmd) fun hrefused _ hs ↦
    hR hrefused _ (hs.issued hcmd).toOnAir

/-- **Nothing behind the advertising takes the radio off the air**, and it raises exactly if
something there goes wrong. -/
theorem listen_spec :
    Spec (Airing c) (listen c w) (fun _ s ↦ Listens c w ∧ Running c s)
      (fun e s ↦ e.isException = true ∧ ¬Listens c w ∧ OnAir c s) := by
  refine Spec.bind_fact (command_airing trivial fun hoff s hs ↦
    ⟨rfl, fun h ↦ hoff h.scan_off, hs⟩) fun _ hoff ↦ ?_
  refine Spec.bind_fact (ms_to_units_spec fun hunits s hs ↦
    ⟨rfl, fun h ↦ hunits h.scan_units, hs.toOnAir⟩) fun _ ⟨hu, hunits⟩ ↦ ?_
  refine Spec.bind_fact (ms_to_units_spec fun hwindow s hs ↦
    ⟨rfl, fun h ↦ hwindow h.scan_window, hs.toOnAir⟩) fun _ ⟨hv, hwindow⟩ ↦ ?_
  subst hu hv
  refine Spec.bind_fact (Spec.throwIf fun horder s hs ↦
    ⟨rfl, fun h ↦ absurd h.scan_interval (not_le.mpr horder), hs.toOnAir⟩) fun _ horder ↦ ?_
  refine Spec.bind_fact (command_airing trivial fun hparams s hs ↦
    ⟨rfl, fun h ↦ hparams h.scan_parameters, hs⟩) fun _ hparams ↦ ?_
  refine Spec.bind_fact (Spec.throwIf fun hreader s hs ↦
    ⟨rfl, fun h ↦ Bool.false_ne_true (hreader.symm.trans h.adds_reader), hs.toOnAir⟩)
    fun _ hreader ↦ ?_
  refine Spec.bind (M := fun _ s ↦ Airing c s ∧ s.reader = true ∧ s.pumping = true)
    (Spec.modify fun s hs ↦ ⟨{ hs with }, rfl, rfl⟩) fun _ ↦ ?_
  refine Spec.bind_fact (command_spec (M := fun s ↦
      (Airing c s ∧ s.reader = true ∧ s.pumping = true) ∧ s.radio.scanning = true)
    (fun hon s hs ↦ ⟨⟨hs.1.issued trivial, hs.2⟩, ?_⟩)
    fun hon s hs ↦ ⟨rfl, fun h ↦ hon h.scan_on, ?_⟩) fun _ hon ↦ ?_
  · rw [issued, if_pos (Answer.carriedOut_of_accepted hon)]
    rfl
  · have hkeep : Airing c (issued w .scan_on (.le_set_scan_enable true c.filter_duplicates) s) :=
      hs.1.issued trivial
    exact hkeep.toOnAir
  · refine Spec.modify fun s hs ↦ ⟨⟨hoff, hunits, hwindow, not_lt.mp horder, hparams,
      Bool.eq_true_of_not_eq_false hreader, hon⟩, ?_⟩
    exact { hs.1.1 with
      radio_scanning := hs.2
      reader := hs.1.2.1
      pumping := hs.1.2.2
      scanning := rfl }

/-- **What a start leaves.** It returns exactly if everything goes well, with the transport running;
where it raises, the radio has been put on the air, and is left there, or nothing is on. -/
theorem start_spec (left : Radio) :
    Spec (· = new c left) (start c w) (fun _ s ↦ Starts c w ∧ Running c s)
      (fun e s ↦ e.isException = true ∧
        ¬Starts c w ∧ (Airs c w → OnAir c s) ∧ (¬Airs c w → Off s)) := by
  refine Spec.get_bind fun s hs ↦ ?_
  subst hs
  rw [if_neg (show ¬(new c left).pumping = true from Bool.false_ne_true)]
  refine Spec.bind_fact (set_up_spec.weaken ?_ (fun _ _ h ↦ h) ?_) fun _ hset ↦ ?_
  · rintro _ rfl
    exact ⟨⟨rfl, rfl, rfl, rfl, rfl, rfl⟩, rfl, rfl⟩
  · exact fun _ s h ↦ ⟨h.1, fun hst ↦ h.2.1 hst.toSetsUp, fun hair ↦ absurd hair.toSetsUp h.2.1,
      fun _ ↦ h.2.2⟩
  have hair : (w.answer .adv_on).carriedOut = true → ∀ s, Primed c s →
      OnAir c (issued w .adv_on (.le_set_adv_enable true) s) := by
    intro hcarried s hs
    rw [issued, if_pos hcarried]
    exact ⟨rfl, hs.idle⟩
  refine Spec.bind_fact (command_spec (M := fun s ↦ OnAir c s ∧ HasSocket c s)
    (fun hon s hs ↦
      ⟨hair (Answer.carriedOut_of_accepted hon) s hs, hs.sock, hs.owns_sock⟩)
    fun hon s hs ↦ ⟨rfl, fun h ↦ hon h.adv_on, fun h ↦ hair h.carriedOut s hs, fun hnot ↦ ?_⟩)
    fun _ hon ↦ ?_
  · -- The command was not carried out, so the radio is as the set-up left it.
    have hcarried : ¬(w.answer .adv_on).carriedOut = true :=
      fun h ↦ hnot { hset with carriedOut := h }
    rw [issued, if_neg hcarried]
    exact { hs.toOff with }
  refine Spec.bind (M := fun _ ↦ Airing c)
    (Spec.modify fun s hs ↦ { hs.1, hs.2 with advertising := rfl }) fun _ ↦ ?_
  refine listen_spec.weaken (fun _ h ↦ h) (fun _ s h ↦ ⟨{ hset, h.1 with adv_on := hon }, h.2⟩) ?_
  exact fun _ s h ↦ ⟨h.1, fun hst ↦ h.2.1 hst.toListens, fun _ ↦ h.2.2, fun hnot ↦
    absurd { hset with carriedOut := Answer.carriedOut_of_accepted hon } hnot⟩

/-! ### What a stop does -/

/-- Nothing of the transport is left behind: the radio is silent and no reader is installed. -/
structure Quiet (s : BleTransport) : Prop where
  radio_advertising : s.radio.advertising = false
  radio_scanning : s.radio.scanning = false
  reader : s.reader = false

theorem Off.quiet {s : BleTransport} (h : Off s) : Quiet s :=
  ⟨h.radio_advertising, h.radio_scanning, h.reader⟩

/-- What the stop of a running transport asks for is done: the reader is removed, and the controller
carries out both of the commands, or falls silent with its socket. -/
structure Releases (c : BleConfig) (w : BleWorld) : Prop where
  reader : w.remove_reader = .removed
  radio : ((w.answer .stop_scan).carriedOut = true ∧ (w.answer .stop_adv).carriedOut = true) ∨
    (c.sock = false ∧ w.close_silences = true)

theorem swallow_command_spec {call : BleCall} {cmd : HciCommand} {tolerate : List ℕ}
    {P M : BleTransport → Prop} {R : TransportError → BleTransport → Prop}
    (hM : ∀ s, P s → M (issued w call cmd s)) :
    Spec P (swallow (command w call cmd tolerate)) (fun _ ↦ M) R := by
  refine Spec.tryCatch (S := fun e s ↦ e.isException = true ∧ M s)
    ((command_spec (fun _ ↦ hM) fun _ s hs ↦ ⟨rfl, hM s hs⟩).post fun _ _ hs ↦ hs.2) fun e ↦ ?_
  by_cases he : e.isException = true
  · rw [if_pos he]
    exact Spec.pure fun s hs ↦ hs.2
  · rw [if_neg he]
    exact Spec.throw fun s hs ↦ absurd hs.1 he

/-- What is on of the reader and the radio in the course of a stop. -/
structure Stopping (reader adv scan : Bool) (s : BleTransport) : Prop where
  reader : s.reader = reader
  radio_advertising : s.radio.advertising = adv
  radio_scanning : s.radio.scanning = scan

/-- A transport in the middle of its stop that still knows what it has started. -/
structure Winding (c : BleConfig) (reader adv scan : Bool) (s : BleTransport) : Prop
    extends HasSocket c s, Stopping reader adv scan s where
  advertising : s.advertising = true
  scanning : s.scanning = true

theorem close_spec {reader adv scan : Bool} {R : TransportError → BleTransport → Prop}
    (hR : ∀ s, Stopping reader (adv && !w.close_silences) (scan && !w.close_silences) s →
      R .close_socket s) :
    Spec (Stopping reader adv scan) (close w)
      (fun _ ↦ Stopping reader (adv && !w.close_silences) (scan && !w.close_silences)) R := by
  refine Spec.bind (M := fun _ ↦ Stopping reader (adv && !w.close_silences)
    (scan && !w.close_silences)) (Spec.modify fun s hs ↦ ?_) fun _ ↦
      (Spec.throwIf fun _ s hs ↦ hR s hs).post fun _ _ hs ↦ hs.2
  by_cases hsilent : w.close_silences = true
  · rw [if_pos hsilent, hsilent]
    exact ⟨hs.reader, (Bool.and_false _).symm, (Bool.and_false _).symm⟩
  · rw [if_neg hsilent, Bool.eq_false_of_not_eq_true hsilent]
    exact ⟨hs.reader, by simpa using hs.radio_advertising, by simpa using hs.radio_scanning⟩

/-- The reader is out of the loop, still in it, or `stop` ends here. -/
theorem stop_reader_spec :
    Spec (Running c)
      (whenState (fun s ↦ s.pumping && s.sock) do
        remove_reader w
        modify fun s ↦ { s with pumping := false })
      (fun _ s ↦ w.remove_reader ≠ .raised ∧
        Winding c (decide (w.remove_reader = .ignored)) true true s)
      (fun e s ↦ w.remove_reader = .raised ∧ e.isException = true ∧ s.reader = true) := by
  refine Spec.whenState ?_ fun s hs hskip ↦ ?_
  · refine Spec.bind (M := fun _ s ↦ w.remove_reader ≠ .raised ∧
      Winding c (decide (w.remove_reader = .ignored)) true true s) ?_ fun _ ↦
        Spec.modify fun s hs ↦ ⟨hs.1, { hs.2 with }⟩
    rw [remove_reader]
    cases w.remove_reader with
    | removed =>
      exact Spec.modify fun s hs ↦ ⟨nofun, { hs.1 with reader := rfl }⟩
    | ignored =>
      exact Spec.pure fun s hs ↦ ⟨nofun, { hs.1 with }⟩
    | raised => exact Spec.throw fun s hs ↦ ⟨rfl, rfl, hs.1.reader⟩
  · rw [hs.pumping, hs.sock] at hskip
    cases hskip

/-- The two commands, and the socket. `adv` and `scan` say what the commands have left on, and the
close of a socket of its own can still end it. -/
theorem stop_radio_spec {reader : Bool} :
    Spec (Winding c reader true true)
      (whenState (·.sock) do
        whenState (·.scanning) <|
          swallow (command w .stop_scan (.le_set_scan_enable false false) [COMMAND_DISALLOWED])
        whenState (·.advertising) <|
          swallow (command w .stop_adv (.le_set_adv_enable false) [COMMAND_DISALLOWED])
        modify fun s ↦ { s with scanning := false, advertising := false }
        whenState (·.owns_sock) do
          close w
          modify fun s ↦ { s with sock := false, owns_sock := false })
      (fun _ ↦ Stopping reader
        (!(w.answer .stop_adv).carriedOut && !(!c.sock && w.close_silences))
        (!(w.answer .stop_scan).carriedOut && !(!c.sock && w.close_silences)))
      (fun e s ↦ e.isException = true ∧ Stopping reader
        (!(w.answer .stop_adv).carriedOut && !(!c.sock && w.close_silences))
        (!(w.answer .stop_scan).carriedOut && !(!c.sock && w.close_silences)) s) := by
  refine Spec.whenState (Spec.pre ?_ fun s hs ↦ hs.1) fun s hs hnone ↦
    absurd (hs.sock.symm.trans hnone) (by decide)
  -- A disabling command that is not carried out leaves its half of the radio on, and is swallowed.
  refine Spec.bind (M := fun _ ↦ Winding c reader true (!(w.answer .stop_scan).carriedOut)) ?_
    fun _ ↦ ?_
  · refine Spec.whenState (swallow_command_spec fun s hs ↦ ?_) fun s hs hidle ↦
      absurd (hs.scanning.symm.trans hidle) (by decide)
    rw [issued]
    cases (w.answer .stop_scan).carriedOut with
    | true => exact { hs.1 with radio_scanning := rfl }
    | false => exact { hs.1 with }
  refine Spec.bind (M := fun _ ↦ Winding c reader (!(w.answer .stop_adv).carriedOut)
    (!(w.answer .stop_scan).carriedOut)) ?_ fun _ ↦ ?_
  · refine Spec.whenState (swallow_command_spec fun s hs ↦ ?_) fun s hs hidle ↦
      absurd (hs.advertising.symm.trans hidle) (by decide)
    rw [issued]
    cases (w.answer .stop_adv).carriedOut with
    | true => exact { hs.1 with radio_advertising := rfl }
    | false => exact { hs.1 with }
  refine Spec.bind (M := fun _ s ↦ s.owns_sock = !c.sock ∧ Stopping reader
    (!(w.answer .stop_adv).carriedOut) (!(w.answer .stop_scan).carriedOut) s)
    (Spec.modify fun s hs ↦ ⟨hs.owns_sock, { hs with }⟩) fun _ ↦ ?_
  -- Only a socket of the transport's own is closed, which may silence what was left on.
  refine Spec.whenState ?_ fun s hs howns ↦ ?_
  · cases hsock : c.sock with
    | true => exact Spec.unreached fun s hs ↦ absurd (hs.1.1.symm.trans hs.2) (by decide)
    | false =>
      refine Spec.bind (M := fun _ ↦ Stopping reader
        (!(w.answer .stop_adv).carriedOut && !w.close_silences)
        (!(w.answer .stop_scan).carriedOut && !w.close_silences))
        ((close_spec fun s hs ↦ ⟨rfl, ?_⟩).pre fun s hs ↦ hs.1.2) fun _ ↦
          Spec.modify fun s hs ↦ ?_
      · simpa using ({ hs with } : Stopping reader _ _ { s with sock := false, owns_sock := false })
      · simpa using hs
  · have hinjected : (!c.sock) = false := hs.1.symm.trans howns
    rw [hinjected]
    simpa using hs.2

/-- Whether the transport is quiet, from what is still on. -/
theorem Stopping.quiet_iff {reader adv scan : Bool} {s : BleTransport}
    (h : Stopping reader adv scan s) :
    Quiet s ↔ adv = false ∧ scan = false ∧ reader = false := by
  rw [← h.reader, ← h.radio_advertising, ← h.radio_scanning]
  exact ⟨fun hq ↦ ⟨hq.radio_advertising, hq.radio_scanning, hq.reader⟩,
    fun hq ↦ ⟨hq.1, hq.2.1, hq.2.2⟩⟩

/-- What the stop leaves on is nothing exactly if what it asks for is done. -/
theorem quiet_iff_releases {s : BleTransport} (hraised : w.remove_reader ≠ .raised)
    (h : Stopping (decide (w.remove_reader = .ignored))
      (!(w.answer .stop_adv).carriedOut && !(!c.sock && w.close_silences))
      (!(w.answer .stop_scan).carriedOut && !(!c.sock && w.close_silences)) s) :
    Quiet s ↔ Releases c w := by
  have hreader : w.remove_reader = .removed ↔ w.remove_reader ≠ .ignored := by
    cases hcase : w.remove_reader with
    | removed => decide
    | ignored => decide
    | raised => exact absurd hcase hraised
  rw [h.quiet_iff]
  constructor
  · rintro ⟨hadv, hscan, hr⟩
    refine ⟨hreader.mpr (of_decide_eq_false hr), ?_⟩
    by_cases hdown : c.sock = false ∧ w.close_silences = true
    · exact Or.inr hdown
    · have hup : (!c.sock && w.close_silences) = false := by
        simpa using hdown
      rw [hup] at hadv hscan
      exact Or.inl ⟨by simpa using hscan, by simpa using hadv⟩
  · rintro ⟨hr, hradio⟩
    refine ⟨?_, ?_, decide_eq_false (hreader.mp hr)⟩
    · obtain ⟨-, hadv⟩ | ⟨hown, hdown⟩ := hradio
      · rw [hadv]; rfl
      · rw [hown, hdown]; simp
    · obtain ⟨hscan, -⟩ | ⟨hown, hdown⟩ := hradio
      · rw [hscan]; rfl
      · rw [hown, hdown]; simp

/-- **What the stop of a running transport leaves**: nothing exactly if what it asks for is done,
whether it raises or not, and what it raises is an exception. -/
theorem stop_spec :
    Spec (Running c) (stop w) (fun _ s ↦ Quiet s ↔ Releases c w)
      (fun e s ↦ e.isException = true ∧ (Quiet s ↔ Releases c w)) := by
  refine Spec.bind_fact (stop_reader_spec.weaken (fun _ h ↦ h) (fun _ _ h ↦ h) ?_)
    fun _ hraised ↦ ?_
  · rintro e s ⟨hraised, he, hreader⟩
    refine ⟨he, iff_of_false (fun hq ↦ ?_) fun hr ↦ ?_⟩
    · exact Bool.false_ne_true (hq.reader.symm.trans hreader)
    · exact absurd (hr.reader.symm.trans hraised) (by decide)
  · refine Spec.bind (stop_radio_spec.weaken (fun _ h ↦ h) (fun _ _ h ↦ h) fun e s h ↦
      ⟨h.1, quiet_iff_releases hraised h.2⟩) fun _ ↦ ?_
    exact Spec.modify fun s hs ↦ quiet_iff_releases hraised { hs with }

end BleTransport

end VertexTestbed.Host
