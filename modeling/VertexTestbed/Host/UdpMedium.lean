import VertexTestbed.Host.LoopbackBus
import VertexTestbed.Host.MultiTransport

/-!
# Agents on a UDP broadcast address

`transports/udp.py`: `publish`, `_handle` and `_decode` of `UdpTransport`, between its `start` and
its `stop` (`Host.MultiTransport`), for any number of agents that share a port.

A run is any order of starts, stops, publications, errors that the socket reports and datagrams that
a socket receives. Which datagrams a socket receives is left open: they may be lost, doubled, late
and out of order, a node hears its own, and a stranger may send anything. What a callback does is
left to it, and it may raise.

Beside its lifecycle and its counters an agent carries a record that no step reads: what `sendto`
took and what it raised for, what `_handle` was called with and when, and what callbacks were called
with. A counter that agrees with the record is a counter that is right, so `UdpNode.Ledger` is an
equation for each counter. It is an invariant of one agent; that the agents share a medium does not
enter into it, and `ledger_run` holds whatever arrives.

The medium enters with the second half. `Closed` says of a step that an agent publishes under its
own id and that a datagram which is received was sent by some agent, any number of times and in any
order. It is a condition on the network, not on the code: a stranger on the port breaks it. The
socket's options, the port that was bound, and errors of `sendto` other than `OSError` are left out;
a fault is recorded by where it was caught and not by its text.

* `udp_decode_eq_ok_iff`: a datagram is read as a prefixed frame or as a bare one, and no datagram
  is both.
* `udp_accounted`: the counters of every agent are exact, and its callback was called with what its
  arrivals say and nothing else. The invariant is `UdpNode.Ledger`, kept node by node.
* `udp_medium_faithful`: where the datagrams are the agents' own, every reception is a packet that
  another agent has sent.
-/

namespace VertexTestbed.Host

open Runs Conformance Raising

/-! ### The framing -/

/-- `UdpTransport._decode`. -/
def udp_decode (data : Bytes) : Except String AirPacket :=
  if 2 ≤ data.length ∧ leNat (fieldAt data 0 2) = COMPANY_ID then decode_manufacturer_data data
  else decode_any data

/-- The first two bytes are the company id exactly when the rest is behind it. -/
theorem prefixed_iff (data : Bytes) :
    (2 ≤ data.length ∧ leNat (fieldAt data 0 2) = COMPANY_ID) ↔
      ∃ payload, data = leBytes 2 COMPANY_ID ++ payload := by
  constructor
  · rintro ⟨hlen, hcompany⟩
    have hread : leBytes 2 (leNat (fieldAt data 0 2)) = fieldAt data 0 2 :=
      leBytes_leNat_fieldAt (by omega)
    rw [hcompany] at hread
    exact ⟨data.drop 2, by rw [hread]; exact (List.take_append_drop 2 data).symm⟩
  · rintro ⟨payload, rfl⟩
    rw [fieldAt_append_left (leBytes_length 2 _)]
    exact ⟨by simp, rfl⟩

/-- The company id is no tag of a payload. -/
theorem decode_any_prefixed (payload : Bytes) :
    ¬(decode_any (leBytes 2 COMPANY_ID ++ payload)).isOk := by
  have htag : byteAt (leBytes 2 COMPANY_ID ++ payload) 0 = 0x59 := rfl
  have hne (b : UInt8) (hb : b ≠ 0x59) : byteAt (leBytes 2 COMPANY_ID ++ payload) 0 ≠ b :=
    htag ▸ hb.symm
  rw [decode_any_otherwise (fun h ↦ hne _ (by decide) h.1) fun h ↦ hne _ (by decide) h.1,
    decode_v0_isOk]
  exact fun h ↦ h.2.1.elim (hne _ (by decide)) (hne _ (by decide))

/-- **A datagram is read** as a frame behind the company id, which is v1 or v2, or else as a bare
payload of any version. -/
theorem udp_decode_eq_ok_iff (data : Bytes) (p : AirPacket) :
    udp_decode data = .ok p ↔
      (∃ payload, data = leBytes 2 COMPANY_ID ++ payload ∧ decode payload = .ok p) ∨
        decode_any data = .ok p := by
  rw [udp_decode]
  split_ifs with hpre
  · obtain ⟨payload, rfl⟩ := (prefixed_iff data).1 hpre
    rw [decode_manufacturer_append]
    refine ⟨fun h ↦ Or.inl ⟨payload, rfl, h⟩, ?_⟩
    rintro (⟨payload', heq, h⟩ | h)
    · rwa [List.append_cancel_left heq]
    · exact absurd (by rw [h]; rfl) (decode_any_prefixed payload)
  · refine ⟨Or.inr, ?_⟩
    rintro (⟨payload, rfl, -⟩ | h)
    · exact absurd ((prefixed_iff _).2 ⟨payload, rfl⟩) hpre
    · exact h

/-- What an agent publishes comes back as it was. -/
theorem udp_decode_encode (p : AirPacket) : udp_decode (encode_manufacturer_data p) = .ok p :=
  (udp_decode_eq_ok_iff _ _).2 (Or.inl ⟨p.encode, rfl, decode_encode p⟩)

/-! ### One agent's transport -/

/-- What `last_error` is the text of. -/
inductive UdpFault where
  | send
  | socket
  | callback
  deriving DecidableEq

/-- `UdpStats`. -/
structure UdpStats where
  sent : ℕ
  send_errors : ℕ
  received : ℕ
  self_filtered : ℕ
  undecodable : ℕ
  delivered : ℕ
  last_error : Option UdpFault
  deriving DecidableEq

/-- A datagram that `_handle` is called with, when, and `_on_receive` at that time. -/
structure Datagram where
  data : Bytes
  rx_time_us : ℤ
  on_receive : Option ReceiveCallback

/-- `UdpTransport`, by its lifecycle and its counters. `accepted`, `refused`, `arrivals`, `calls`
and `faults` are the record: the packets that `sendto` took and those it raised for, what `_handle`
was called with, what callbacks were called with, and what was noted in `last_error`. -/
structure UdpNode where
  life : UdpTransport
  on_receive : Option ReceiveCallback
  stats : UdpStats
  accepted : List AirPacket
  refused : List AirPacket
  arrivals : List Datagram
  calls : List (ReceiveCallback × AirReception)
  faults : List UdpFault

namespace UdpNode

/-- As constructed. -/
def new : UdpNode :=
  ⟨.new, none, ⟨0, 0, 0, 0, 0, 0, none⟩, [], [], [], [], []⟩

/-- `last_error` is set. -/
def note (s : UdpNode) (fault : UdpFault) : UdpNode :=
  { s with stats := { s.stats with last_error := some fault }, faults := s.faults ++ [fault] }

/-- `start`. A transport that is up keeps the callback that it has. -/
def start (s : UdpNode) (w : UdpWorld) (on_receive : ReceiveCallback) : UdpNode :=
  { s with
    life := ((UdpTransport.start w).exec s.life).2
    on_receive := if s.life.transport then s.on_receive else some on_receive }

/-- `stop`. -/
def stop (s : UdpNode) (w : UdpWorld) : UdpNode :=
  let life := ((UdpTransport.stop w).exec s.life).2
  { s with life := life, on_receive := if life.on_receive then s.on_receive else none }

/-- `publish`; `raises` says that `sendto` raises an `OSError`. -/
def publish (s : UdpNode) (packet : AirPacket) (raises : Bool) : UdpNode :=
  if s.life.transport = false then s
  else if raises then
    { s with
      stats := { s.stats with send_errors := s.stats.send_errors + 1 }
      refused := s.refused ++ [packet] }.note .send
  else
    { s with
      stats := { s.stats with sent := s.stats.sent + 1 }
      accepted := s.accepted ++ [packet] }

/-- The callback is called. -/
def call (s : UdpNode) (cb : ReceiveCallback) (reception : AirReception) : UdpNode :=
  let s := { s with calls := s.calls ++ [(cb, reception)] }
  if cb reception then { s with stats := { s.stats with delivered := s.stats.delivered + 1 } }
  else s.note .callback

/-- `_handle`. -/
def handle (node_id : ℕ) (s : UdpNode) (data : Bytes) (now_us : ℤ) : UdpNode :=
  let s :=
    { s with
      stats := { s.stats with received := s.stats.received + 1 }
      arrivals := s.arrivals ++ [Datagram.mk data now_us s.on_receive] }
  match udp_decode data with
  | .error _ => { s with stats := { s.stats with undecodable := s.stats.undecodable + 1 } }
  | .ok packet =>
    if packet.node_id = node_id then
      { s with stats := { s.stats with self_filtered := s.stats.self_filtered + 1 } }
    else
      match s.on_receive with
      | none => s
      | some cb => s.call cb ⟨packet, now_us, none⟩

end UdpNode

/-! ### What an arrival says -/

namespace Datagram

/-- It is no frame. -/
def undecodable (x : Datagram) : Bool := !(udp_decode x.data).isOk

/-- It is the node's own frame. -/
def own (node_id : ℕ) (x : Datagram) : Bool :=
  (udp_decode x.data).toOption.any fun p ↦ p.node_id = node_id

/-- The frame of another node. -/
def foreign (node_id : ℕ) (x : Datagram) : Option AirPacket :=
  (udp_decode x.data).toOption.filter fun p ↦ p.node_id ≠ node_id

/-- The call that it leads to. -/
def heard (node_id : ℕ) (x : Datagram) : Option (ReceiveCallback × AirReception) :=
  x.on_receive.bind fun cb ↦ (x.foreign node_id).map fun packet ↦
    (cb, ⟨packet, x.rx_time_us, none⟩)

/-- Another node's frame that finds no callback. -/
def unheard (node_id : ℕ) (x : Datagram) : Bool :=
  x.on_receive.isNone && (x.foreign node_id).isSome

variable {node_id : ℕ} {x : Datagram} {packet : AirPacket}

variable (node_id) in
/-- A datagram that does not decode is counted as such, and is nothing else. -/
theorem of_error {text : String} (h : udp_decode x.data = .error text) :
    x.undecodable = true ∧ x.own node_id = false ∧ x.unheard node_id = false ∧
      x.heard node_id = none := by
  have hnone : x.foreign node_id = none := by
    rw [foreign, h]
    rfl
  refine ⟨?_, ?_, ?_, ?_⟩
  · rw [undecodable, h]
    rfl
  · rw [own, h]
    rfl
  · rw [unheard, hnone]
    exact Bool.and_false _
  · rw [heard, hnone]
    cases x.on_receive <;> rfl

/-- A datagram of the node's own is counted as such, and is nothing else. -/
theorem of_own (h : udp_decode x.data = .ok packet) (hown : packet.node_id = node_id) :
    x.undecodable = false ∧ x.own node_id = true ∧ x.unheard node_id = false ∧
      x.heard node_id = none := by
  have hnone : x.foreign node_id = none := by
    rw [foreign, h]
    exact Option.filter_some_neg (by simpa using hown)
  refine ⟨?_, ?_, ?_, ?_⟩
  · rw [undecodable, h]
    rfl
  · rw [own, h]
    exact decide_eq_true hown
  · rw [unheard, hnone]
    exact Bool.and_false _
  · rw [heard, hnone]
    cases x.on_receive <;> rfl

/-- Another node's is heard, if there is a callback. -/
theorem of_other (h : udp_decode x.data = .ok packet) (hother : packet.node_id ≠ node_id) :
    x.undecodable = false ∧ x.own node_id = false ∧ x.unheard node_id = x.on_receive.isNone ∧
      x.heard node_id = x.on_receive.map fun cb ↦ (cb, ⟨packet, x.rx_time_us, none⟩) := by
  have hsome : x.foreign node_id = some packet := by
    rw [foreign, h]
    exact Option.filter_some_pos (by simpa using hother)
  refine ⟨?_, ?_, ?_, ?_⟩
  · rw [undecodable, h]
    rfl
  · rw [own, h]
    exact decide_eq_false hother
  · rw [unheard, hsome]
    exact Bool.and_true _
  · rw [heard, hsome]
    cases x.on_receive <;> rfl

end Datagram

/-- **The books of an agent's transport.** -/
structure UdpNode.Ledger (node_id : ℕ) (s : UdpNode) : Prop where
  sent : s.stats.sent = s.accepted.length
  send_errors : s.stats.send_errors = s.refused.length
  received : s.stats.received = s.arrivals.length
  undecodable : s.stats.undecodable = s.arrivals.countP Datagram.undecodable
  self_filtered : s.stats.self_filtered = s.arrivals.countP (Datagram.own node_id)
  calls : s.calls = s.arrivals.filterMap (Datagram.heard node_id)
  delivered : s.stats.delivered = s.calls.countP fun x ↦ x.1 x.2
  last_error : s.stats.last_error = s.faults.getLast?
  sorted : s.stats.received = s.stats.undecodable + s.stats.self_filtered + s.calls.length +
    s.arrivals.countP (Datagram.unheard node_id)
  attached : s.on_receive.isSome = s.life.on_receive

namespace UdpNode

/-- A transport as constructed. -/
theorem ledger_new (node_id : ℕ) : new.Ledger node_id where
  sent := rfl
  send_errors := rfl
  received := rfl
  undecodable := rfl
  self_filtered := rfl
  calls := rfl
  delivered := rfl
  last_error := rfl
  sorted := rfl
  attached := rfl

/-- A start that finds the transport down takes its callback, also if it fails. -/
theorem start_life (w : UdpWorld) (life : UdpTransport) :
    ((UdpTransport.start w).exec life).2.on_receive = (life.on_receive || !life.transport) := by
  obtain ⟨transport, on_receive, reader⟩ := life
  obtain ⟨socket, setup, endpoint, raises, releases⟩ := w
  cases transport <;> cases on_receive <;> cases socket <;> cases setup <;> cases endpoint <;> rfl

/-- A stop never sets a callback. -/
theorem stop_life (w : UdpWorld) (life : UdpTransport)
    (h : ((UdpTransport.stop w).exec life).2.on_receive = true) : life.on_receive = true := by
  obtain ⟨transport, on_receive, reader⟩ := life
  obtain ⟨socket, setup, endpoint, raises, releases⟩ := w
  cases on_receive with
  | true => rfl
  | false => cases transport <;> cases raises <;> exact h

variable {node_id : ℕ} {s : UdpNode}

/-- A start keeps the ledger, however it ends. -/
theorem Ledger.start (h : s.Ledger node_id) (w : UdpWorld) (on_receive : ReceiveCallback) :
    (s.start w on_receive).Ledger node_id := by
  refine ⟨h.sent, h.send_errors, h.received, h.undecodable, h.self_filtered, h.calls, h.delivered,
    h.last_error, h.sorted, ?_⟩
  rw [UdpNode.start, start_life]
  cases htransport : s.life.transport with
  | true => exact h.attached.trans (Bool.or_false _).symm
  | false => exact (Bool.or_true _).symm

/-- So does a stop. -/
theorem Ledger.stop (h : s.Ledger node_id) (w : UdpWorld) : (s.stop w).Ledger node_id := by
  refine ⟨h.sent, h.send_errors, h.received, h.undecodable, h.self_filtered, h.calls, h.delivered,
    h.last_error, h.sorted, ?_⟩
  rw [UdpNode.stop]
  dsimp only
  split_ifs with hkept
  · rw [hkept, h.attached]
    exact stop_life w s.life hkept
  · exact (Bool.eq_false_of_not_eq_true hkept).symm

/-- And a publication, whether or not its send raises. -/
theorem Ledger.publish (h : s.Ledger node_id) (packet : AirPacket) (raises : Bool) :
    (s.publish packet raises).Ledger node_id := by
  rw [UdpNode.publish]
  split_ifs
  · exact h
  · refine ⟨h.sent, ?_, h.received, h.undecodable, h.self_filtered, h.calls, h.delivered,
      List.getLast?_concat.symm, h.sorted, h.attached⟩
    show s.stats.send_errors + 1 = (s.refused ++ [packet]).length
    rw [List.length_append, h.send_errors]
    rfl
  · refine ⟨?_, h.send_errors, h.received, h.undecodable, h.self_filtered, h.calls, h.delivered,
      h.last_error, h.sorted, h.attached⟩
    show s.stats.sent + 1 = (s.accepted ++ [packet]).length
    rw [List.length_append, h.sent]
    rfl

/-- An error that the socket reports. -/
theorem Ledger.note (h : s.Ledger node_id) (fault : UdpFault) : (s.note fault).Ledger node_id :=
  ⟨h.sent, h.send_errors, h.received, h.undecodable, h.self_filtered, h.calls, h.delivered,
    List.getLast?_concat.symm, h.sorted, h.attached⟩

variable (node_id) in
/-- The record of one arrival more, by what it is. -/
theorem arrivals_concat (arrivals : List Datagram) (x : Datagram) :
    (arrivals ++ [x]).countP Datagram.undecodable =
        arrivals.countP Datagram.undecodable + (if x.undecodable then 1 else 0) ∧
      (arrivals ++ [x]).countP (Datagram.own node_id) =
        arrivals.countP (Datagram.own node_id) + (if x.own node_id then 1 else 0) ∧
      (arrivals ++ [x]).countP (Datagram.unheard node_id) =
        arrivals.countP (Datagram.unheard node_id) + (if x.unheard node_id then 1 else 0) ∧
      (arrivals ++ [x]).filterMap (Datagram.heard node_id) =
        arrivals.filterMap (Datagram.heard node_id) ++ (x.heard node_id).toList := by
  refine ⟨?_, ?_, ?_, ?_⟩
  · rw [List.countP_append, List.countP_singleton]
  · rw [List.countP_append, List.countP_singleton]
  · rw [List.countP_append, List.countP_singleton]
  · rw [List.filterMap_append]
    cases hheard : x.heard node_id with
    | none => simp [hheard]
    | some call => simp [hheard]

/-- An arrival that no callback is called with. -/
theorem Ledger.silent (h : s.Ledger node_id) {x : Datagram} (hheard : x.heard node_id = none)
    {undecodable self_filtered : ℕ}
    (hundecodable : undecodable = s.stats.undecodable + if x.undecodable then 1 else 0)
    (hown : self_filtered = s.stats.self_filtered + if x.own node_id then 1 else 0)
    (hone : (if x.undecodable then 1 else 0) + (if x.own node_id then 1 else 0) +
      (if x.unheard node_id then 1 else 0) = 1) :
    UdpNode.Ledger node_id
      { s with
        stats :=
          { s.stats with
            received := s.stats.received + 1
            undecodable := undecodable
            self_filtered := self_filtered }
        arrivals := s.arrivals ++ [x] } := by
  obtain ⟨hbad, hmine, hlost, hcalls⟩ := arrivals_concat node_id s.arrivals x
  have hsorted := h.sorted
  refine ⟨h.sent, h.send_errors, ?_, ?_, ?_, ?_, h.delivered, h.last_error, ?_, h.attached⟩
  · show s.stats.received + 1 = (s.arrivals ++ [x]).length
    rw [List.length_append, h.received]
    rfl
  · show undecodable = (s.arrivals ++ [x]).countP _
    rw [hbad, ← h.undecodable, hundecodable]
  · show self_filtered = (s.arrivals ++ [x]).countP _
    rw [hmine, ← h.self_filtered, hown]
  · show s.calls = (s.arrivals ++ [x]).filterMap _
    rw [hcalls, hheard, h.calls]
    exact (List.append_nil _).symm
  · show s.stats.received + 1 = undecodable + self_filtered + s.calls.length +
      (s.arrivals ++ [x]).countP _
    rw [hlost]
    omega

/-- An arrival that the callback is called with, whether it returns or not. -/
theorem Ledger.call (h : s.Ledger node_id) {x : Datagram} {cb : ReceiveCallback}
    {reception : AirReception} (hheard : x.heard node_id = some (cb, reception))
    (hbad : x.undecodable = false) (hmine : x.own node_id = false)
    (hlost : x.unheard node_id = false) :
    UdpNode.Ledger node_id
      (UdpNode.call
        { s with
          stats := { s.stats with received := s.stats.received + 1 }
          arrivals := s.arrivals ++ [x] } cb reception) := by
  obtain ⟨hbads, hmines, hlosts, hcalls⟩ := arrivals_concat node_id s.arrivals x
  rw [hbad, if_neg Bool.false_ne_true, Nat.add_zero] at hbads
  rw [hmine, if_neg Bool.false_ne_true, Nat.add_zero] at hmines
  rw [hlost, if_neg Bool.false_ne_true, Nat.add_zero] at hlosts
  have hreceived : s.stats.received + 1 = (s.arrivals ++ [x]).length := by
    rw [List.length_append, h.received]
    rfl
  have hundecodable := h.undecodable.trans hbads.symm
  have hself := h.self_filtered.trans hmines.symm
  have hcalled : s.calls ++ [(cb, reception)] =
      (s.arrivals ++ [x]).filterMap (Datagram.heard node_id) := by
    rw [hcalls, hheard, h.calls]
    rfl
  have hsorted : s.stats.received + 1 = s.stats.undecodable + s.stats.self_filtered +
      (s.calls ++ [(cb, reception)]).length +
        (s.arrivals ++ [x]).countP (Datagram.unheard node_id) := by
    have hbefore := h.sorted
    rw [hlosts, List.length_append, List.length_singleton]
    omega
  have hreturned : (s.calls ++ [(cb, reception)]).countP (fun x ↦ x.1 x.2) =
      s.stats.delivered + if cb reception then 1 else 0 := by
    rw [List.countP_append, List.countP_singleton, h.delivered]
  rw [UdpNode.call]
  dsimp only
  split_ifs with hcb
  · rw [if_pos hcb] at hreturned
    exact ⟨h.sent, h.send_errors, hreceived, hundecodable, hself, hcalled, hreturned.symm,
      h.last_error, hsorted, h.attached⟩
  · rw [if_neg hcb, Nat.add_zero] at hreturned
    exact ⟨h.sent, h.send_errors, hreceived, hundecodable, hself, hcalled, hreturned.symm,
      List.getLast?_concat.symm, hsorted, h.attached⟩

/-- **A datagram** is undecodable, the node's own, without a callback or a call. -/
theorem Ledger.handle (h : s.Ledger node_id) (data : Bytes) (now_us : ℤ) :
    (s.handle node_id data now_us).Ledger node_id := by
  set x : Datagram := ⟨data, now_us, s.on_receive⟩
  rw [UdpNode.handle]
  dsimp only
  cases hdecode : udp_decode data with
  | error text =>
    obtain ⟨hbad, hmine, hlost, hheard⟩ := Datagram.of_error node_id (x := x) hdecode
    exact h.silent hheard (by rw [hbad]; rfl) (by rw [hmine]; rfl) (by rw [hbad, hmine, hlost]; rfl)
  | ok packet =>
    dsimp only
    split_ifs with hown
    · obtain ⟨hbad, hmine, hlost, hheard⟩ := Datagram.of_own (x := x) hdecode hown
      exact h.silent hheard (by rw [hbad]; rfl) (by rw [hmine]; rfl)
        (by rw [hbad, hmine, hlost]; rfl)
    · obtain ⟨hbad, hmine, hlost, hheard⟩ := Datagram.of_other (x := x) hdecode hown
      split
      · next hnone =>
        have hoff : x.on_receive = none := hnone
        rw [hoff] at hlost hheard
        exact h.silent hheard (by rw [hbad]; rfl) (by rw [hmine]; rfl)
          (by rw [hbad, hmine, hlost]; rfl)
      · next cb hsome =>
        have hon : x.on_receive = some cb := hsome
        rw [hon] at hlost hheard
        exact h.call hheard hbad hmine hlost

end UdpNode

/-! ### The medium -/

/-- The agents, by their transports, with what `sendto` took from each. -/
structure UdpMedium (P : Type) where
  nodes : P → UdpNode
  air : List (P × AirPacket)

/-- What can happen on the medium. -/
inductive UdpEvent (P : Type) where
  | start (p : P) (w : UdpWorld) (on_receive : ReceiveCallback)
  | stop (p : P) (w : UdpWorld)
  /-- `sendto` raises an `OSError`, or takes the datagram. -/
  | publish (p : P) (packet : AirPacket) (raises : Bool)
  /-- The socket of an agent receives a datagram. -/
  | receive (p : P) (data : Bytes) (now_us : ℤ)
  /-- The socket of an agent reports an error. -/
  | error (p : P)

namespace UdpMedium

variable {P : Type}

/-- Before anything is started. -/
def init : UdpMedium P := ⟨fun _ ↦ .new, []⟩

variable [DecidableEq P]

/-- One agent's transport changes. -/
def setNode (s : UdpMedium P) (p : P) (t : UdpNode) : UdpMedium P :=
  { s with nodes := Function.update s.nodes p t }

/-- The node that is written. -/
@[simp]
theorem setNode_self (s : UdpMedium P) (p : P) (t : UdpNode) : (s.setNode p t).nodes p = t :=
  Function.update_self _ _ _

/-- The others are not. -/
theorem setNode_of_ne (s : UdpMedium P) {p q : P} (h : q ≠ p) (t : UdpNode) :
    (s.setNode p t).nodes q = s.nodes q :=
  Function.update_of_ne h _ _

/-- One event, on transports with these node ids. Nothing is received without a reader. -/
def step (node : P → ℕ) (s : UdpMedium P) : UdpEvent P → UdpMedium P
  | .start p w on_receive => s.setNode p ((s.nodes p).start w on_receive)
  | .stop p w => s.setNode p ((s.nodes p).stop w)
  | .publish p packet raises =>
    let s' := s.setNode p ((s.nodes p).publish packet raises)
    if (s.nodes p).life.transport = true ∧ raises = false then
      { s' with air := s.air ++ [(p, packet)] }
    else s'
  | .receive p data now_us =>
    if (s.nodes p).life.reader then s.setNode p ((s.nodes p).handle (node p) data now_us) else s
  | .error p =>
    if (s.nodes p).life.reader then s.setNode p ((s.nodes p).note .socket) else s

/-! ### Every agent's books -/

/-- What an agent's transport keeps, on the medium. -/
theorem ledger_setNode {node : P → ℕ} {s : UdpMedium P} (h : ∀ p, (s.nodes p).Ledger (node p))
    {p : P} {t : UdpNode} (ht : t.Ledger (node p)) (q : P) :
    ((s.setNode p t).nodes q).Ledger (node q) := by
  obtain rfl | hne := eq_or_ne q p
  · rw [setNode_self]
    exact ht
  · rw [setNode_of_ne s hne]
    exact h q

/-- Every step keeps the ledger of every node. -/
theorem ledger_step {node : P → ℕ} {s : UdpMedium P} (h : ∀ p, (s.nodes p).Ledger (node p))
    (ev : UdpEvent P) (q : P) : ((s.step node ev).nodes q).Ledger (node q) := by
  cases ev with
  | start p w on_receive => exact ledger_setNode h ((h p).start w on_receive) q
  | stop p w => exact ledger_setNode h ((h p).stop w) q
  | publish p packet raises =>
    rw [step]
    split_ifs
    · exact ledger_setNode h ((h p).publish packet raises) q
    · exact ledger_setNode h ((h p).publish packet raises) q
  | receive p data now_us =>
    rw [step]
    split_ifs
    · exact ledger_setNode h ((h p).handle data now_us) q
    · exact h q
  | error p =>
    rw [step]
    split_ifs
    · exact ledger_setNode h ((h p).note .socket) q
    · exact h q

/-- **The ledger of every node, in every run.** -/
theorem ledger_run (node : P → ℕ) (evs : List (UdpEvent P)) (p : P) :
    ((run (step node) init evs).nodes p).Ledger (node p) :=
  run_invariant (P := fun s : UdpMedium P ↦ ∀ p, (s.nodes p).Ledger (node p)) (step node)
    (fun _ ev h ↦ ledger_step h ev) (fun p ↦ UdpNode.ledger_new (node p)) evs p

/-- **Every datagram is accounted for.** In any run, at every agent: what `sendto` took and what it
raised for is counted; every datagram that was received is undecodable, the agent's own, one that
found no callback or one that the callback was called with; the calls are the other agents' frames,
in the order of their arrival and with their time; `delivered` counts the calls that returned; and
`last_error` is the last fault. -/
theorem udp_accounted (node : P → ℕ) (evs : List (UdpEvent P)) (p : P) :
    let t := (run (step node) init evs).nodes p
    (t.stats.sent = t.accepted.length ∧ t.stats.send_errors = t.refused.length) ∧
      (t.stats.received = t.arrivals.length ∧
        t.stats.received = t.stats.undecodable + t.stats.self_filtered + t.calls.length +
          t.arrivals.countP (Datagram.unheard (node p))) ∧
      (t.stats.undecodable = t.arrivals.countP Datagram.undecodable ∧
        t.stats.self_filtered = t.arrivals.countP (Datagram.own (node p))) ∧
      (t.calls = t.arrivals.filterMap (Datagram.heard (node p)) ∧
        t.stats.delivered = t.calls.countP fun x ↦ x.1 x.2) ∧
      t.stats.last_error = t.faults.getLast? := by
  intro t
  have h : t.Ledger (node p) := ledger_run node evs p
  exact ⟨⟨h.sent, h.send_errors⟩, ⟨h.received, h.sorted⟩, ⟨h.undecodable, h.self_filtered⟩,
    ⟨h.calls, h.delivered⟩, h.last_error⟩

/-! ### A medium of agents alone -/

/-- Agents publish under their own ids, and what is received was sent. -/
def Closed (node : P → ℕ) (s : UdpMedium P) : UdpEvent P → Prop
  | .publish p packet _ => packet.node_id = node p
  | .receive _ data _ => ∃ x ∈ s.air, data = encode_manufacturer_data x.2
  | _ => True

/-- What has arrived was sent, and by whom it says. -/
structure Carried (node : P → ℕ) (s : UdpMedium P) : Prop where
  named : ∀ x ∈ s.air, x.2.node_id = node x.1
  sent : ∀ p, ∀ d ∈ (s.nodes p).arrivals, ∃ x ∈ s.air, d.data = encode_manufacturer_data x.2

omit [DecidableEq P] in
/-- Only `_handle` records an arrival. -/
theorem handle_arrivals (node_id : ℕ) (t : UdpNode) (data : Bytes) (now_us : ℤ) :
    (t.handle node_id data now_us).arrivals = t.arrivals ++ [⟨data, now_us, t.on_receive⟩] := by
  rw [UdpNode.handle]
  dsimp only
  split
  · rfl
  · split_ifs
    · rfl
    · split
      · rfl
      · rw [UdpNode.call]
        split_ifs <;> rfl

omit [DecidableEq P] in
/-- What is sent does not arrive by being sent. -/
theorem publish_arrivals (t : UdpNode) (packet : AirPacket) (raises : Bool) :
    (t.publish packet raises).arrivals = t.arrivals := by
  rw [UdpNode.publish]
  split_ifs <;> rfl

omit [DecidableEq P] in
/-- An event that records no arrival, on an air that has only grown. -/
theorem Carried.of_arrivals {node : P → ℕ} {s s' : UdpMedium P} (h : Carried node s)
    (hair : s.air <+: s'.air) (hnamed : ∀ x ∈ s'.air, x.2.node_id = node x.1)
    (harrivals : ∀ p, (s'.nodes p).arrivals = (s.nodes p).arrivals) : Carried node s' := by
  refine ⟨hnamed, fun p d hd ↦ ?_⟩
  rw [harrivals] at hd
  obtain ⟨x, hx, hdata⟩ := h.sent p d hd
  exact ⟨x, hair.mem hx, hdata⟩

/-- A step that leaves the arrivals of its node leaves everybody's. -/
theorem arrivals_setNode {s : UdpMedium P} {p : P} {t : UdpNode}
    (ht : t.arrivals = (s.nodes p).arrivals) (q : P) :
    ((s.setNode p t).nodes q).arrivals = (s.nodes q).arrivals := by
  obtain rfl | hne := eq_or_ne q p
  · rw [setNode_self]
    exact ht
  · rw [setNode_of_ne s hne]

/-- On a closed medium whatever arrives was sent. -/
theorem Carried.step {node : P → ℕ} {s : UdpMedium P} {ev : UdpEvent P} (h : Carried node s)
    (hev : Closed node s ev) : Carried node (s.step node ev) := by
  -- Only a publication adds to the air, and only a reception to what has arrived.
  cases ev with
  | start p w on_receive =>
    exact h.of_arrivals List.prefix_rfl h.named (arrivals_setNode rfl)
  | stop p w => exact h.of_arrivals List.prefix_rfl h.named (arrivals_setNode rfl)
  | publish p packet raises =>
    have harrivals := arrivals_setNode (publish_arrivals (s.nodes p) packet raises)
    rw [UdpMedium.step]
    split_ifs
    · refine h.of_arrivals (List.prefix_append _ _) (fun x hx ↦ ?_) harrivals
      obtain hx | hx := List.mem_append.1 hx
      · exact h.named x hx
      · rw [List.mem_singleton.1 hx]
        exact hev
    · exact h.of_arrivals List.prefix_rfl h.named harrivals
  | receive p data now_us =>
    rw [UdpMedium.step]
    split_ifs
    · refine ⟨h.named, fun q d hd ↦ ?_⟩
      obtain rfl | hne := eq_or_ne q p
      · rw [setNode_self, handle_arrivals] at hd
        obtain hd | hd := List.mem_append.1 hd
        · exact h.sent q d hd
        · rw [List.mem_singleton.1 hd]
          exact hev
      · rw [setNode_of_ne s hne] at hd
        exact h.sent q d hd
    · exact h
  | error p =>
    rw [UdpMedium.step]
    split_ifs
    · exact h.of_arrivals List.prefix_rfl h.named (arrivals_setNode rfl)
    · exact h

omit [DecidableEq P] in
/-- The packets that have arrived. -/
theorem exists_carried {ds : List Datagram} {air : List (P × AirPacket)}
    (h : ∀ d ∈ ds, ∃ x ∈ air, d.data = encode_manufacturer_data x.2) :
    ∃ l : List (P × AirPacket), (∀ x ∈ l, x ∈ air) ∧
      List.Forall₂ (fun d x ↦ d.data = encode_manufacturer_data x.2) ds l := by
  induction ds with
  | nil => exact ⟨[], fun x hx ↦ absurd hx List.not_mem_nil, .nil⟩
  | cons d ds ih =>
    obtain ⟨x, hx, hdata⟩ := h d List.mem_cons_self
    obtain ⟨l, hl, hrest⟩ := ih fun d hd ↦ h d (List.mem_cons_of_mem _ hd)
    exact ⟨x :: l, List.forall_mem_cons.2 ⟨hx, hl⟩, .cons hdata hrest⟩

omit [DecidableEq P] in
/-- What agents' packets are counted and handed over as. -/
theorem heard_of_carried {node : P → ℕ} {ds : List Datagram} {l : List (P × AirPacket)}
    (h : List.Forall₂ (fun d x ↦ d.data = encode_manufacturer_data x.2) ds l)
    (hnamed : ∀ x ∈ l, x.2.node_id = node x.1) (n : ℕ) :
    let others := (l.filter fun x ↦ node x.1 ≠ n).map Prod.snd
    let heard := (ds.filterMap (Datagram.heard n)).map fun c ↦ c.2.packet
    ds.countP Datagram.undecodable = 0 ∧
      ds.countP (Datagram.own n) = l.countP (fun x ↦ node x.1 = n) ∧ heard.Sublist others ∧
      ((∀ d ∈ ds, d.on_receive.isSome = true) → heard = others) := by
  induction h with
  | nil => exact ⟨rfl, rfl, .slnil, fun _ ↦ rfl⟩
  | @cons d x ds l hdata _ ih =>
    obtain ⟨hbad, hown, hsome, hall⟩ := ih fun x hx ↦ hnamed x (List.mem_cons_of_mem _ hx)
    -- A frame of an agent decodes, so the two ways it can go are its own id and another's.
    have hdecode : udp_decode d.data = .ok x.2 := by
      rw [hdata]
      exact udp_decode_encode x.2
    have hnode : x.2.node_id = node x.1 := hnamed x List.mem_cons_self
    dsimp only
    by_cases hself : node x.1 = n
    · obtain ⟨hbad', hown', -, hheard⟩ := Datagram.of_own hdecode (hnode.trans hself)
      rw [List.countP_cons_of_neg (by simp [hbad']), List.countP_cons_of_pos hown',
        List.countP_cons_of_pos (by simp [hself]), List.filter_cons_of_neg (by simp [hself]),
        List.filterMap_cons_none hheard]
      exact ⟨hbad, congrArg (· + 1) hown, hsome,
        fun hon ↦ hall fun d hd ↦ hon d (List.mem_cons_of_mem _ hd)⟩
    · obtain ⟨hbad', hown', -, hheard⟩ :=
        Datagram.of_other hdecode (fun h ↦ hself (hnode.symm.trans h))
      rw [List.countP_cons_of_neg (by simp [hbad']), List.countP_cons_of_neg (by simp [hown']),
        List.countP_cons_of_neg (by simp [hself]), List.filter_cons_of_pos (by simp [hself]),
        List.map_cons]
      refine ⟨hbad, hown, ?_, fun hon ↦ ?_⟩
      · cases hcb : d.on_receive with
        | none =>
          rw [hcb] at hheard
          rw [List.filterMap_cons_none hheard]
          exact hsome.cons _
        | some cb =>
          rw [hcb] at hheard
          rw [List.filterMap_cons_some hheard, List.map_cons]
          exact hsome.cons_cons _
      · obtain ⟨cb, hcb⟩ := Option.isSome_iff_exists.1 (hon d List.mem_cons_self)
        rw [hcb] at hheard
        rw [List.filterMap_cons_some hheard, List.map_cons,
          hall fun d hd ↦ hon d (List.mem_cons_of_mem _ hd)]

/-- **The medium forges nothing.** Where agents publish under their own ids and every datagram that
is received was sent by one of them, whatever is lost, doubled or late: at every agent the arrivals
are packets that were sent, none is undecodable, those under the agent's own id are counted as its
own, and the callback has been called with the others alone, as they were sent and in the order of
their arrival, with all of them if it was there for all. -/
theorem udp_medium_faithful {node : P → ℕ} {evs : List (UdpEvent P)}
    (hevs : Guarded (step node) (Closed node) init evs) (p : P) :
    let s := run (step node) init evs
    let t := s.nodes p
    ∃ l : List (P × AirPacket), (∀ x ∈ l, x ∈ s.air ∧ x.2.node_id = node x.1) ∧
      t.arrivals.map Datagram.data = l.map (fun x ↦ encode_manufacturer_data x.2) ∧
      t.stats.undecodable = 0 ∧ t.stats.self_filtered = l.countP (fun x ↦ node x.1 = node p) ∧
      (t.calls.map fun c ↦ c.2.packet).Sublist
        ((l.filter fun x ↦ node x.1 ≠ node p).map Prod.snd) ∧
      ((∀ d ∈ t.arrivals, d.on_receive.isSome = true) →
        t.calls.map (fun c ↦ c.2.packet) = (l.filter fun x ↦ node x.1 ≠ node p).map Prod.snd) := by
  intro s t
  have hbooks : t.Ledger (node p) := ledger_run node evs p
  have hcarried : Carried node s := hevs.invariant (fun _ _ h hev ↦ h.step hev)
    ⟨fun x hx ↦ absurd hx List.not_mem_nil, fun _ d hd ↦ absurd hd List.not_mem_nil⟩
  obtain ⟨l, hair, hdata⟩ := exists_carried (hcarried.sent p)
  have hnamed : ∀ x ∈ l, x.2.node_id = node x.1 := fun x hx ↦ hcarried.named x (hair x hx)
  obtain ⟨hbad, hown, hsome, hall⟩ := heard_of_carried hdata hnamed (node p)
  rw [hbooks.undecodable, hbooks.self_filtered, hbooks.calls]
  refine ⟨l, fun x hx ↦ ⟨hair x hx, hnamed x hx⟩, ?_, hbad, hown, hsome, hall⟩
  exact List.forall₂_eq_eq_eq ▸ List.forall₂_map_left_iff.2 (List.forall₂_map_right_iff.2 hdata)

/-- Node `3` and node `4`. -/
def pairIds (b : Bool) : ℕ := if b then 4 else 3

/-- A socket with which nothing goes wrong. -/
def fineSocket : UdpWorld := ⟨true, true, .created, false, true⟩

/-- A packet of node `3`, which node `4` receives twice and node `3` once. -/
def doubledRun : List (UdpEvent Bool) :=
  let data := encode_manufacturer_data sampleAirPacket
  [.start false fineSocket (fun _ ↦ true), .start true fineSocket (fun _ ↦ true),
    .publish false sampleAirPacket false, .receive true data 10, .receive false data 11,
    .receive true data 12]

/-- Node `4` has heard the packet twice, and nothing else. -/
theorem udp_medium_faithful_doubled :
    let t := (run (step pairIds) init doubledRun).nodes true
    t.stats.undecodable = 0 ∧
      t.calls.map (fun c ↦ c.2.packet) = [sampleAirPacket, sampleAirPacket] := by
  have hevs : Guarded (step pairIds) (Closed pairIds) init doubledRun := by
    have hsent : (false, sampleAirPacket) ∈ [(false, sampleAirPacket)] := List.mem_singleton_self _
    exact ⟨trivial, trivial, rfl, ⟨_, hsent, rfl⟩, ⟨_, hsent, rfl⟩, ⟨_, hsent, rfl⟩, trivial⟩
  obtain ⟨l, hair, hdata, hbad, -, -, hall⟩ := udp_medium_faithful hevs true
  have hlength := congrArg List.length hdata
  rw [List.length_map, List.length_map] at hlength
  have hl : l = List.replicate 2 (false, sampleAirPacket) :=
    List.eq_replicate_iff.2 ⟨hlength.symm, fun x hx ↦ List.mem_singleton.1 (hair x hx).1⟩
  refine ⟨hbad, ?_⟩
  rw [hall (by decide +kernel), hl]
  rfl

end UdpMedium

end VertexTestbed.Host
