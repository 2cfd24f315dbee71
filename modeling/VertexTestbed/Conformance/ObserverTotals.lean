import VertexTestbed.Conformance.ElementWalk

/-!
# The observer's totals

The observer of a board (`observer.c`) over its lifetime: advertising reports of any bytes, in any
order with the dynamics loop taking snapshots, `observer_stop`, and changes of the agent's neighbour
list. The counters are never reset, and they wrap.

Two things hold over every such order. The counters leave nothing out (`Accounted`): a report is of
this fleet, or is counted by what is wrong with it, or had no manufacturer element to look at; and a
snapshot that was put in the queue is read, dropped and counted, purged by a stop, or still there.
And what the record holds is what `onDeviceFound` makes of the packets that decode, so that the
model of the record (`Firmware.Observer`) is what the bytes come to (`observer_accounted`).
-/

namespace VertexTestbed.Conformance

open Firmware Host Runs

/-! ### The observer's lifetime -/

/-- What happens to the observer, in bytes. -/
inductive ScanEvent where
  /-- `observer_bind`, or a new list in the agent it is bound to. -/
  | bind (a : AgentParams)
  | report (rssi : Int8) (ad : Bytes)
  /-- The dynamics loop takes the snapshot. -/
  | take
  /-- `observer_stop`, where scanning stops. -/
  | stop

/-- The observer. `plain`, `taken` and `purged` are ghosts: the reports that were not looked at, the
snapshots that were read, and those that a stop threw away. -/
structure Scan where
  agent : Option AgentParams
  found : Found
  plain : UInt32
  taken : UInt32
  purged : UInt32

/-- Before `observer_bind`. -/
def Scan.init : Scan := ⟨none, .init, 0, 0, 0⟩

/-- One when a snapshot is in the queue. -/
def queued (rx : Reception) : UInt32 :=
  if rx.queue.isSome then 1 else 0

variable (bt : BtDataParse)

/-- The next step. -/
def Scan.step (s : Scan) : ScanEvent → Scan
  | .bind a => { s with agent := some a }
  | .report rssi ad =>
    { s with
      found := onDeviceFoundReport bt s.agent s.found rssi ad
      plain := if s.agent = none ∨ manufacturerValues ad = [] then s.plain + 1 else s.plain }
  | .take =>
    { s with
      found := { s.found with rx := { s.found.rx with queue := none } }
      taken := s.taken + queued s.found.rx }
  | .stop =>
    { s with
      found := { s.found with rx := s.found.rx.forget }
      purged := s.purged + queued s.found.rx }

/-! ### On the record -/

/-- What happens to it, in packets that were decoded. -/
inductive RecordEvent where
  | bind (a : AgentParams)
  | found (p : StatePacketType) (rssi : Int8)
  | take
  | stop

/-- What an event is to the record: a report is the packet that its first manufacturer element
decodes to, if it decodes. -/
def ScanEvent.onRecord : ScanEvent → Option RecordEvent
  | bind a => some (.bind a)
  | report rssi ad =>
    ((manufacturerValues ad).head?.bind fun v ↦ (airWireDecodeAny v).toOption).map
      fun p ↦ .found p.toStatePacketType rssi
  | take => some .take
  | stop => some .stop

/-- The record and the agent it is filed for. -/
def recordStep (s : Option AgentParams × Reception) : RecordEvent → Option AgentParams × Reception
  | .bind a => (some a, s.2)
  | .found p rssi =>
    match s.1 with
    | none => s
    | some a => (s.1, onDeviceFound s.2 a p rssi)
  | .take => (s.1, { s.2 with queue := none })
  | .stop => (s.1, s.2.forget)

/-! ### One report -/

variable {bt}

/-- Without an agent nothing is looked at. -/
theorem visit_unbound (els : List Element) (s : Found) : visit (onDataParse none) els s = s := by
  induction els with
  | nil => rfl
  | cons el els ih =>
    rw [visit, onDataParse]
    split
    · exact ih
    · rfl

/-- What a report does to the counters and the record, and whether it was not looked at. -/
structure ReportDone (a : Option AgentParams) (before after : Found) (plain : UInt32)
    (p : Option (DecodedPacket × Int8)) : Prop where
  devices : after.counters.devices = before.counters.devices + 1
  /-- It is counted once. -/
  once : after.counters.ours + after.counters.foreign + after.counters.wrong_size +
      after.counters.malformed + plain =
    before.counters.ours + before.counters.foreign + before.counters.wrong_size +
      before.counters.malformed + 1
  /-- A packet of this fleet is of a node nobody asked for, or put in the queue. -/
  puts : after.counters.unknown_node + after.counters.queue_drops + queued after.rx -
      after.counters.ours =
    before.counters.unknown_node + before.counters.queue_drops + queued before.rx -
      before.counters.ours
  record : after.rx = match a, p with
    | some a, some (p, rssi) => onDeviceFound before.rx a p.toStatePacketType rssi
    | _, _ => before.rx

/-- Nothing to look at. -/
theorem ReportDone.of_plain {a : Option AgentParams} {p : Option (DecodedPacket × Int8)}
    (h : a = none ∨ p = none) (s : Found) :
    ReportDone a s
      { s with
        counters := { s.counters with devices := s.counters.devices + 1 }
        pkt := none
        given := none } 1 p where
  devices := rfl
  once := rfl
  puts := rfl
  record := by
    rcases h with rfl | rfl
    · rfl
    · cases a <;> rfl

/-- A value that does not decode. -/
theorem onDataParse_error {a : AgentParams} {v : Bytes} {e : AirWireError}
    (h : airWireDecodeAny v = .error e) (s : Found) :
    let s' := (onDataParse (some a) ⟨btDataManufacturerData, v⟩ s).2
    s'.rx = s.rx ∧ s'.pkt = s.pkt ∧ s'.counters.devices = s.counters.devices ∧
      s'.counters.ours = s.counters.ours ∧ s'.counters.unknown_node = s.counters.unknown_node ∧
      s'.counters.queue_drops = s.counters.queue_drops ∧
      s'.counters.foreign + s'.counters.wrong_size + s'.counters.malformed =
        s.counters.foreign + s.counters.wrong_size + s.counters.malformed + 1 := by
  rw [onDataParse, if_neg (not_not.mpr rfl)]
  dsimp only
  rw [h]
  cases e with
  | len => exact ⟨rfl, rfl, rfl, rfl, rfl, rfl, by grind⟩
  | company => exact ⟨rfl, rfl, rfl, rfl, rfl, rfl, by grind⟩
  | format => exact ⟨rfl, rfl, rfl, rfl, rfl, rfl, by grind⟩

/-- A value that decodes. -/
theorem onDataParse_ok {a : AgentParams} {v : Bytes} {p : DecodedPacket}
    (h : airWireDecodeAny v = .ok p) (s : Found) :
    (onDataParse (some a) ⟨btDataManufacturerData, v⟩ s).2 =
      takePacket a p { s with given := some v } := by
  rw [onDataParse, if_neg (not_not.mpr rfl)]
  dsimp only
  rw [h]

/-- What a packet of this fleet does to the counters. -/
theorem takePacket_counters (a : AgentParams) (p : DecodedPacket) (s : Found) :
    let s' := takePacket a p s
    s'.counters.devices = s.counters.devices ∧ s'.counters.ours = s.counters.ours + 1 ∧
      s'.counters.foreign = s.counters.foreign ∧
      s'.counters.wrong_size = s.counters.wrong_size ∧
      s'.counters.malformed = s.counters.malformed ∧
      s'.counters.unknown_node + s'.counters.queue_drops + queued s'.rx =
        s.counters.unknown_node + s.counters.queue_drops + queued s.rx + 1 := by
  rw [takePacket]
  dsimp only
  cases agentNeighborIndex a p.node with
  | none => exact ⟨rfl, rfl, rfl, rfl, rfl, by grind⟩
  | some i =>
    refine ⟨rfl, rfl, rfl, rfl, rfl, ?_⟩
    have hput (info : NeighborInfo) (fresh : Slot → Bool) : queued ⟨info, some info, fresh⟩ = 1 :=
      rfl
    simp only [onDataParseAfterDeviceFound, hput]
    cases hqueue : s.rx.queue.isSome with
    | false => simp [queued, hqueue]
    | true =>
      simp only [queued, hqueue, if_true]
      grind

/-- What the callback works on at a report. -/
def begun (s : Found) : Found :=
  { s with
    counters := { s.counters with devices := s.counters.devices + 1 }
    pkt := none
    given := none }

/-- A report that brings no packet is what its walk comes to. -/
theorem report_of_no_packet (hbt : bt.Walks) (a : Option AgentParams) (s : Found) (rssi : Int8)
    (ad : Bytes) (h : (visit (onDataParse a) (parse_ad ad) (begun s)).pkt = none) :
    onDeviceFoundReport bt a s rssi ad = visit (onDataParse a) (parse_ad ad) (begun s) := by
  have hwalk := parse_eq_visit hbt (onDataParse a) ad (begun s)
  rw [begun] at h hwalk ⊢
  simp only [onDeviceFoundReport, hwalk]
  rw [h]
  cases a <;> rfl

/-- The strength is stored behind the counting. -/
theorem report_counters (hbt : bt.Walks) (a : AgentParams) (s : Found) (rssi : Int8) (ad : Bytes) :
    (onDeviceFoundReport bt (some a) s rssi ad).counters =
        (visit (onDataParse (some a)) (parse_ad ad) (begun s)).counters ∧
      (onDeviceFoundReport bt (some a) s rssi ad).rx.queue =
        (visit (onDataParse (some a)) (parse_ad ad) (begun s)).rx.queue := by
  have hwalk := parse_eq_visit hbt (onDataParse (some a)) ad (begun s)
  rw [begun] at hwalk ⊢
  simp only [onDeviceFoundReport, hwalk]
  split
  · split
    · split <;> exact ⟨rfl, rfl⟩
    · exact ⟨rfl, rfl⟩
  · exact ⟨rfl, rfl⟩

/-- **One report**: it is counted once, and the record takes in the packet it decodes to. -/
theorem reportDone (hbt : bt.Walks) (a : Option AgentParams) (s : Found) (rssi : Int8)
    (ad : Bytes) :
    ReportDone a s (onDeviceFoundReport bt a s rssi ad)
      (if a = none ∨ manufacturerValues ad = [] then 1 else 0)
      (((manufacturerValues ad).head?.bind fun v ↦ (airWireDecodeAny v).toOption).map
        fun p ↦ (p, rssi)) := by
  -- The ends of a report: no agent, no manufacturer element, a first one that fails to decode, a
  -- packet.
  cases a with
  | none =>
    have hwalk := visit_unbound (parse_ad ad) (begun s)
    rw [if_pos (.inl rfl), report_of_no_packet hbt none s rssi ad (by rw [hwalk]; rfl), hwalk]
    exact .of_plain (.inl rfl) s
  | some a =>
    cases hvalues : manufacturerValues ad with
    | nil =>
      have hwalk := visit_of_no_values hvalues a (begun s)
      rw [if_pos (.inr rfl), report_of_no_packet hbt (some a) s rssi ad (by rw [hwalk]; rfl), hwalk]
      exact .of_plain (.inr rfl) s
    | cons v rest =>
      have hwalk := visit_of_values hvalues a (begun s)
      rw [if_neg (by simp)]
      cases hp : airWireDecodeAny v with
      | error e =>
        obtain ⟨hrx, hpkt, hdevices, hours, hunknown, hdrops, hwrong⟩ :=
          onDataParse_error hp (begun s)
        rw [report_of_no_packet hbt (some a) s rssi ad (by rw [hwalk, hpkt]; rfl), hwalk]
        refine ⟨hdevices, ?_, ?_, ?_⟩
        · rw [hours, add_zero, add_assoc, add_assoc, ← add_assoc _ _ (Found.counters _).malformed,
            hwrong]
          simp only [begun]
          grind
        · rw [hunknown, hdrops, hours, hrx]
          rfl
        · rw [hrx]
          simp [hp, Except.toOption, begun]
      | ok p =>
        obtain ⟨hcounters, hqueue⟩ := report_counters hbt a s rssi ad
        rw [hwalk, onDataParse_ok hp] at hcounters hqueue
        obtain ⟨hdevices, hours, hforeign, hwrong, hmalformed, hputs⟩ :=
          takePacket_counters a p { begun s with given := some v }
        have hqueued : queued (onDeviceFoundReport bt (some a) s rssi ad).rx =
            queued (takePacket a p { begun s with given := some v }).rx := by
          rw [queued, queued, hqueue]
        refine ⟨?_, ?_, ?_, ?_⟩
        · rw [hcounters, hdevices]
          rfl
        · rw [hcounters, hours, hforeign, hwrong, hmalformed]
          simp only [begun]
          grind
        · rw [hcounters, hqueued, hputs, hours]
          simp only [begun]
          grind
        · rw [onDeviceFoundReport_of_ok hbt a s rssi hvalues hp]
          simp [hp, Except.toOption]

/-! ### A lifetime -/

/-- **The counters leave nothing out**, up to their wrapping. -/
structure Accounted (s : Scan) : Prop where
  /-- A report is of this fleet, or counted by what is wrong with it, or was not looked at. -/
  reports : s.found.counters.devices =
    s.found.counters.ours + s.found.counters.foreign + s.found.counters.wrong_size +
      s.found.counters.malformed + s.plain
  /-- A packet of this fleet is of a node nobody asked for; or the snapshot it made was read,
  dropped, purged, or is still in the queue. -/
  snapshots : s.found.counters.ours =
    s.found.counters.unknown_node + s.found.counters.queue_drops + s.taken + s.purged +
      queued s.found.rx

theorem accounted_init : Accounted .init where
  reports := rfl
  snapshots := rfl

theorem Accounted.step (hbt : bt.Walks) {s : Scan} (h : Accounted s) (e : ScanEvent) :
    Accounted (s.step bt e) := by
  obtain ⟨hreports, hsnapshots⟩ := h
  cases e with
  | bind a => exact ⟨hreports, hsnapshots⟩
  | take =>
    refine ⟨hreports, ?_⟩
    have hnone (rx : Reception) : queued { rx with queue := none } = 0 := rfl
    simp only [Scan.step, hnone]
    grind
  | stop =>
    refine ⟨hreports, ?_⟩
    have hnone (rx : Reception) : queued rx.forget = 0 := rfl
    simp only [Scan.step, hnone]
    grind
  | report rssi ad =>
    obtain ⟨hdevices, honce, hputs, -⟩ := reportDone hbt s.agent s.found rssi ad
    refine ⟨?_, ?_⟩
    · simp only [Scan.step]
      split at honce
      · rename_i hplain
        rw [if_pos hplain]
        grind
      · rename_i hplain
        rw [if_neg hplain]
        grind
    · simp only [Scan.step]
      grind

/-- **The record follows the packets.** -/
theorem step_record (hbt : bt.Walks) (s : Scan) (e : ScanEvent) :
    ((s.step bt e).agent, (s.step bt e).found.rx) =
      (e.onRecord.elim (s.agent, s.found.rx) (recordStep (s.agent, s.found.rx))) := by
  cases e with
  | bind a => rfl
  | take => rfl
  | stop => rfl
  | report rssi ad =>
    obtain ⟨-, -, -, hrecord⟩ := reportDone hbt s.agent s.found rssi ad
    simp only [Scan.step, hrecord, ScanEvent.onRecord]
    cases (manufacturerValues ad).head?.bind fun v ↦ (airWireDecodeAny v).toOption with
    | none => cases s.agent <;> rfl
    | some p => cases s.agent <;> rfl

theorem run_record (hbt : bt.Walks) (s : Scan) (es : List ScanEvent) :
    ((run (Scan.step bt) s es).agent, (run (Scan.step bt) s es).found.rx) =
      run recordStep (s.agent, s.found.rx) (es.filterMap ScanEvent.onRecord) := by
  induction es using List.reverseRecOn with
  | nil => rfl
  | append_singleton es e ih =>
    rw [run_concat, step_record hbt, List.filterMap_append, run_append, ← ih]
    cases hrecord : e.onRecord <;> simp [hrecord]

/-- An advertising report. -/
def ScanEvent.isReport : ScanEvent → Bool
  | report _ _ => true
  | _ => false

theorem step_devices (hbt : bt.Walks) (s : Scan) (e : ScanEvent) :
    (s.step bt e).found.counters.devices =
      s.found.counters.devices + if e.isReport then 1 else 0 := by
  cases e with
  | report rssi ad => exact (reportDone hbt s.agent s.found rssi ad).devices
  | bind a | take | stop => exact (add_zero _).symm

/-- **The observer's totals, over its lifetime.** Every report is counted, and by one counter of
what it came to; every snapshot is accounted for; and the record and its queue are what the packets
make of them that the reports decode to. -/
theorem observer_accounted (hbt : bt.Walks) (es : List ScanEvent) :
    let s := run (Scan.step bt) .init es
    s.found.counters.devices = UInt32.ofNat (es.countP ScanEvent.isReport) ∧ Accounted s ∧
      (s.agent, s.found.rx) = run recordStep (none, .init) (es.filterMap ScanEvent.onRecord) := by
  intro s
  refine ⟨?_, run_invariant _ (fun _ e h ↦ h.step hbt e) accounted_init es, run_record hbt .init es⟩
  show (run (Scan.step bt) .init es).found.counters.devices = _
  induction es using List.reverseRecOn with
  | nil => rfl
  | append_singleton es e ih =>
    rw [run_concat, step_devices hbt, ih, List.countP_append, List.countP_singleton]
    cases e.isReport <;> simp [UInt32.ofNat_add]

/-- A packet of the fleet and one that another company shadows; the first is read, and a second is
still in the queue. -/
theorem observer_accounted_fleet :
    let s := run (Scan.step btDataParse) .init
      [.bind twoNeighborBoard.params, .report (-60) fleetAd, .take, .report (-70) mixedAd,
        .report (-65) fleetAd]
    s.found.counters.devices = 3 ∧ Accounted s ∧
      (s.agent, s.found.rx) = run recordStep (none, .init)
        ([.bind twoNeighborBoard.params, .report (-60) fleetAd, .take, .report (-70) mixedAd,
          .report (-65) fleetAd].filterMap ScanEvent.onRecord) :=
  observer_accounted btDataParse_walks _

end VertexTestbed.Conformance
