import VertexTestbed.Conformance.Participation
import VertexTestbed.Firmware.AirWire
import VertexTestbed.Firmware.Mailbox
import VertexTestbed.Host.Codec
import VertexTestbed.Host.RunLog

/-!
# Control families on one medium

A packet carries one virtual coordinate or two, and a law couples over one or two. Both decoders can
tell, and neither receive path asks: `NeighborTable` stores whatever a declared neighbour's id is on
and fits it to the law's dimension when the snapshot is taken, by dropping or by zeros; the observer
stores both coordinates. So a packet of the other family is used wherever it bears the id of a
neighbour.

`family_mixed_iff` says that this is the only way: which values a law couples over is decided by the
last packets of its neighbours, on the host (`mixes_iff`) and on the board (`mixes_of_sameFamily`,
`sameFamily_iff`).
-/

namespace VertexTestbed.Conformance

open Firmware Host Runs

/-! ### The host agent -/

/-- `holds_stale_neighbours`. -/
def holdsStale : RegisteredController → Bool
  | .finiteTimeAdaptive => false
  | .microgridAdaptive => true
  | .microgridLC => true

/-- An advertising report, as the radio hands it over. -/
structure Advert where
  data : Bytes
  rssi : Option ℤ
  rx_time_us : ℤ

/-- `_consume_reports` up to the callback: the packet of a report, unless it is foreign, unreadable
or the node's own. -/
def deliveredPacket (node_id : ℕ) (x : Advert) : Option AirPacket :=
  match find_manufacturer x.data COMPANY_ID with
  | none => none
  | some payload =>
    match decode_any payload with
    | .error _ => none
    | .ok p => if p.node_id = node_id then none else some p

/-- A report reaches the neighbour table. -/
def consumeReport (node_id : ℕ) (t : ReceiveTable ℕ) (x : Advert) : ReceiveTable ℕ :=
  match deliveredPacket node_id x with
  | none => t
  | some p => t.observe ⟨p.toWirePacket, x.rx_time_us, x.rssi⟩

/-- The table of an agent that runs a law. -/
def lawTable (c : RegisteredController) (neighbor_ids : List ℕ) (max_age_us reorder_window : ℤ) :
    ReceiveTable ℕ :=
  .init neighbor_ids max_age_us c.dim (holdsStale c) reorder_window

/-- **A foreign value in the coupling**: a control instant that takes its snapshot now couples over
a neighbour whose packet carries another number of coordinates than the law. The scalar law couples
over the neighbours whose flag is set, the microgrid laws over all. -/
def MixesOnHost (c : RegisteredController) (t : ReceiveTable ℕ) (now_us : ℤ) : Prop :=
  ∃ (k nid : ℕ) (r : HeardRecord), t.neighbor_ids[k]? = some nid ∧ t.records nid = some r ∧
    (c = .finiteTimeAdaptive → (t.table.snapshot now_us).2[k]? = some true) ∧
    r.vstate.length ≠ c.dim

/-- A neighbour's flag in a snapshot. -/
theorem snapshot_flag {t : ReceiveTable ℕ} {k nid : ℕ} {r : HeardRecord}
    (hk : t.neighbor_ids[k]? = some nid) (hr : t.records nid = some r) (now_us : ℤ) :
    (t.table.snapshot now_us).2[k]? =
      some (r.sender_enabled && (t.hold || decide (now_us - r.rx_time_us ≤ t.max_age_us))) := by
  have hids : t.table.neighbor_ids[k]? = some nid := hk
  have hrecord : t.table.records nid = some r.toNeighborRecord := by
    show (t.records nid).map HeardRecord.toNeighborRecord = _
    rw [hr, Option.map_some]
  rw [NeighborTable.snapshot, List.getElem?_map, hids, Option.map_some, hrecord]
  rfl

section Host

variable {c : RegisteredController}

/-- A packet that the law may couple over carries as many coordinates as the law. -/
def OfFamily (c : RegisteredController) (enabled : Bool) (vstate : List ℤ) : Prop :=
  (c = .finiteTimeAdaptive → enabled = true) → vstate.length = c.dim

/-- A report of the law's own family, or none that its agent couples over. -/
def SameFamilyAdvert (c : RegisteredController) (neighbor_ids : List ℕ) (node_id : ℕ)
    (x : Advert) : Prop :=
  ∀ p, deliveredPacket node_id x = some p → p.node_id ∈ neighbor_ids →
    OfFamily c p.enabled p.vstate

/-- The records of an agent whose reports were all of its family. -/
structure PureTable (c : RegisteredController) (t : ReceiveTable ℕ) : Prop where
  records : ∀ nid r, t.records nid = some r → OfFamily c r.sender_enabled r.vstate

/-- A table of one family stays so when it takes an advert of that family. -/
theorem PureTable.consume {node_id : ℕ} {t : ReceiveTable ℕ} (h : PureTable c t) {x : Advert}
    (hx : SameFamilyAdvert c t.neighbor_ids node_id x) :
    PureTable c (consumeReport node_id t x) := by
  rw [consumeReport]
  rcases hp : deliveredPacket node_id x with _ | p
  · exact h
  · dsimp only
    rw [ReceiveTable.observe]
    dsimp only
    split_ifs with hdeclared
    · refine ⟨fun nid r hr ↦ ?_⟩
      dsimp only at hr
      by_cases hnid : nid = p.node_id
      · subst hnid
        rw [Function.update_self] at hr
        rw [← Option.some.inj hr]
        exact hx p hp hdeclared
      · rw [Function.update_of_ne hnid] at hr
        exact h.records nid r hr
    · exact ⟨h.records⟩

/-- Receiving leaves an agent's settings alone. -/
theorem consumeReport_settings (node_id : ℕ) (t : ReceiveTable ℕ) (x : Advert) :
    (consumeReport node_id t x).neighbor_ids = t.neighbor_ids ∧
      (consumeReport node_id t x).hold = t.hold ∧
      (consumeReport node_id t x).max_age_us = t.max_age_us := by
  rw [consumeReport]
  split
  · exact ⟨rfl, rfl, rfl⟩
  · rw [ReceiveTable.observe]
    dsimp only
    split_ifs
    · exact ⟨rfl, rfl, rfl⟩
    · exact ⟨rfl, rfl, rfl⟩

/-- Receptions leave the settings of the table alone. -/
theorem run_settings (node_id : ℕ) (t : ReceiveTable ℕ) (adverts : List Advert) :
    (run (consumeReport node_id) t adverts).neighbor_ids = t.neighbor_ids ∧
      (run (consumeReport node_id) t adverts).hold = t.hold ∧
      (run (consumeReport node_id) t adverts).max_age_us = t.max_age_us :=
  run_invariant (consumeReport node_id)
    (P := fun t' ↦ t'.neighbor_ids = t.neighbor_ids ∧ t'.hold = t.hold ∧
      t'.max_age_us = t.max_age_us)
    (fun t' x ht' ↦ by
      obtain ⟨hids, hhold, hage⟩ := consumeReport_settings node_id t' x
      exact ⟨hids.trans ht'.1, hhold.trans ht'.2.1, hage.trans ht'.2.2⟩)
    ⟨rfl, rfl, rfl⟩ adverts

/-- A table of pure records lets nothing foreign into the coupling. -/
theorem PureTable.not_mixes {t : ReceiveTable ℕ} (h : PureTable c t) (now_us : ℤ) :
    ¬MixesOnHost c t now_us := by
  rintro ⟨k, nid, r, hk, hr, hcoupled, hforeign⟩
  refine hforeign (h.records nid r hr fun hscalar ↦ ?_)
  have hflag := hcoupled hscalar
  rw [snapshot_flag hk hr, Option.some.injEq, Bool.and_eq_true] at hflag
  exact hflag.1

/-- A foreign report is coupled over at the instant it arrives. -/
theorem mixes_of_foreign {node_id : ℕ} {t : ReceiveTable ℕ} (hage : 0 ≤ t.max_age_us) {x : Advert}
    (hx : ¬SameFamilyAdvert c t.neighbor_ids node_id x) :
    MixesOnHost c (consumeReport node_id t x) x.rx_time_us := by
  rw [SameFamilyAdvert] at hx
  push Not at hx
  obtain ⟨p, hp, hdeclared, hforeign⟩ := hx
  rw [OfFamily, Classical.not_imp] at hforeign
  obtain ⟨k, hk, hget⟩ := List.mem_iff_getElem.1 hdeclared
  obtain ⟨hids, hhold, hlimit⟩ := consumeReport_settings node_id t x
  have hposition : (consumeReport node_id t x).neighbor_ids[k]? = some p.node_id := by
    rw [hids, List.getElem?_eq_getElem hk, hget]
  have hrecord : ∃ r, (consumeReport node_id t x).records p.node_id = some r ∧
      r.sender_enabled = p.enabled ∧ r.vstate = p.vstate ∧ r.rx_time_us = x.rx_time_us := by
    rw [consumeReport, hp]
    dsimp only
    rw [ReceiveTable.observe]
    dsimp only
    rw [if_pos hdeclared]
    exact ⟨_, Function.update_self .., rfl, rfl, rfl⟩
  obtain ⟨r, hr, henabled, hvstate, htime⟩ := hrecord
  refine ⟨k, p.node_id, r, hposition, hr, fun hscalar ↦ ?_, ?_⟩
  · have hfresh : decide (x.rx_time_us - r.rx_time_us ≤
        (consumeReport node_id t x).max_age_us) = true := by
      rw [htime, sub_self, hlimit]
      exact decide_eq_true hage
    rw [snapshot_flag hposition hr, henabled, hforeign.1 hscalar, hfresh, Bool.or_true]
    rfl
  · rw [hvstate]
    exact hforeign.2

/-- **The families do not mix on a host agent exactly if every report is of its family**, whenever
its control instants come. -/
theorem mixes_iff (neighbor_ids : List ℕ) (node_id : ℕ) {max_age_us : ℤ} (hage : 0 ≤ max_age_us)
    (reorder_window : ℤ) (adverts : List Advert) :
    (∀ n now_us, ¬MixesOnHost c (run (consumeReport node_id)
        (lawTable c neighbor_ids max_age_us reorder_window) (adverts.take n)) now_us) ↔
      ∀ x ∈ adverts, SameFamilyAdvert c neighbor_ids node_id x := by
  constructor
  · intro hpure x hx
    by_contra hforeign
    obtain ⟨n, hn, rfl⟩ := List.mem_iff_getElem.1 hx
    obtain ⟨hids, -, hlimit⟩ := run_settings node_id
      (lawTable c neighbor_ids max_age_us reorder_window) (adverts.take n)
    refine hpure (n + 1) (adverts[n]).rx_time_us ?_
    rw [List.take_succ_eq_append_getElem hn, run_concat]
    refine mixes_of_foreign (by rw [hlimit]; exact hage) ?_
    rw [hids]
    exact hforeign
  · intro hfamily n now_us
    have hpure : PureTable c (run (consumeReport node_id)
        (lawTable c neighbor_ids max_age_us reorder_window) (adverts.take n)) ∧
        (run (consumeReport node_id) (lawTable c neighbor_ids max_age_us reorder_window)
          (adverts.take n)).neighbor_ids = neighbor_ids := by
      have hguarded : Guarded (consumeReport node_id)
          (fun _ x ↦ SameFamilyAdvert c neighbor_ids node_id x)
          (lawTable c neighbor_ids max_age_us reorder_window) (adverts.take n) :=
        guarded_of_forall fun x hx ↦ hfamily x (List.mem_of_mem_take hx)
      exact hguarded.invariant
        (P := fun t ↦ PureTable c t ∧ t.neighbor_ids = neighbor_ids)
        (fun t x ht hx ↦ ⟨ht.1.consume (by rw [ht.2]; exact hx),
          (consumeReport_settings node_id t x).1.trans ht.2⟩)
        ⟨⟨fun _ _ hr ↦ by cases hr⟩, rfl⟩
    exact hpure.1.not_mixes now_us

end Host

/-! ### The board -/

/-- How many coordinates a law couples over. -/
def lawCoords : ControlLaw → ℕ
  | .finiteTimeAdaptive => 1
  | .microgridAdaptive => 2
  | .microgridLC => 2

/-- A packet that the law may couple over carries as many coordinates as the law. -/
def OfLaw (law : ControlLaw) (p : StatePacketType) : Prop :=
  (law = .finiteTimeAdaptive → p.enabled = true) → p.coords = lawCoords law

instance (law : ControlLaw) (p : StatePacketType) : Decidable (OfLaw law p) :=
  inferInstanceAs (Decidable ((_ → _) → _))

/-- The last packet of every slot is of the law. -/
def PureList (law : ControlLaw) (hs : List Heard) : Prop :=
  ∀ i, ∀ h ∈ lastIn hs i, OfLaw law h.packet

instance (law : ControlLaw) (hs : List Heard) : Decidable (PureList law hs) :=
  inferInstanceAs (Decidable (∀ i, ∀ h ∈ lastIn hs i, OfLaw law h.packet))

theorem pureList_nil (law : ControlLaw) : PureList law [] :=
  fun _ _ h ↦ by cases h

/-- A list of one family stays so when an entry of that family is added. -/
theorem PureList.concat {law : ControlLaw} {hs : List Heard} (hpure : PureList law hs) {x : Heard}
    (hx : OfLaw law x.packet) : PureList law (hs ++ [x]) := by
  intro i h hlast
  rw [lastIn_concat] at hlast
  split_ifs at hlast
  · obtain rfl := Option.some.inj hlast
    exact hx
  · exact hpure i h hlast

section Board

variable {K : Type}

/-- **A foreign value in the coupling**: the control step that is about to be taken couples over a
slot whose packet carries another number of coordinates than the law. -/
def MixesOnBoard (m : Mailbox K) : Prop :=
  ∃ freshData, m.loops.dynamics = .got freshData ∧ m.loops.agent.params.running = true ∧
    m.loops.agent.params.enabled = true ∧ ∃ i ∈ m.loops.agent.params.slots,
      ∃ h, lastIn (if freshData then m.fetched else m.absorbed) i = some h ∧
        (m.loops.agent.params.law = .finiteTimeAdaptive →
          (m.loops.stepped freshData).params.neighborsEnabled i = true) ∧
        h.packet.coords ≠ lawCoords m.loops.agent.params.law

/-- Everything that can still be coupled over is of the law in force. -/
structure PureBox (m : Mailbox K) : Prop where
  filed : PureList m.loops.agent.params.law m.filed
  fetched : m.loops.dynamics = .got true → PureList m.loops.agent.params.law m.fetched
  absorbed : PureList m.loops.agent.params.law m.absorbed

/-- The flag that a control step reads is that of the slot's last packet. -/
theorem stepped_flag {m : Mailbox K} (h : m.Faithful) {freshData : Bool}
    (hgot : m.loops.dynamics = .got freshData) (henabled : m.loops.agent.params.enabled = true)
    (i : Slot) : (m.loops.stepped freshData).params.neighborsEnabled i =
      (packetValues (lastIn (if freshData then m.fetched else m.absorbed) i)).2.2.1 := by
  rw [RunLoops.stepped]
  cases freshData with
  | false =>
    rw [if_neg Bool.false_ne_true, if_neg Bool.false_ne_true, ← h.agent i]
    rfl
  | true =>
    rw [if_pos rfl, if_pos rfl, ← (h.fetched hgot).values i, absorbNeighbors,
      if_neg (by rw [henabled]; exact Bool.false_ne_true)]
    rfl

/-- **A board that has heard one family only mixes nothing.** -/
theorem PureBox.not_mixes {m : Mailbox K} (h : PureBox m) (hfaithful : m.Faithful) :
    ¬MixesOnBoard m := by
  rintro ⟨freshData, hgot, -, henabled, i, -, x, hlast, hcoupled, hforeign⟩
  have hpure : PureList m.loops.agent.params.law
      (if freshData then m.fetched else m.absorbed) := by
    cases freshData with
    | false => exact h.absorbed
    | true => exact h.fetched hgot
  refine hforeign (hpure i x hlast fun hscalar ↦ ?_)
  have hflag := hcoupled hscalar
  rw [stepped_flag hfaithful hgot henabled, hlast] at hflag
  exact hflag

variable [Field K] [LinearOrder K] [IsStrictOrderedRing K] [FloorRing K] {lib : Libm K}

/-- **A step that brings nothing foreign in**: a packet that is filed is of the law in force, and a
frame that selects another law finds only packets of that law. -/
def SameFamily (m : Mailbox K) : BoardEvent → Prop
  | .receive p rssi => ∀ h ∈ m.loops.filing p rssi, OfLaw m.loops.agent.params.law h.packet
  | .frame e type d =>
    let law := (m.loops.frame e type d).agent.params.law
    law ≠ m.loops.agent.params.law → PureList law m.filed ∧
      (m.loops.dynamics = .got true → PureList law m.fetched) ∧
      (isStart type d = false → PureList law m.absorbed)
  | _ => True

instance (m : Mailbox K) : (ev : BoardEvent) → Decidable (SameFamily m ev)
  | .receive _ _ => inferInstanceAs (Decidable (∀ h ∈ m.loops.filing _ _, OfLaw _ h.packet))
  | .frame _ _ _ => inferInstanceAs (Decidable (_ → _ ∧ (_ → _) ∧ (_ → _)))
  | .dynamics | .network _ _ => .isTrue trivial

omit [LinearOrder K] [IsStrictOrderedRing K] [FloorRing K] in
/-- The threads leave the law alone, and the switches that a control step asks for. -/
theorem networkStep_law [LinearOrder K] [FloorRing K] (s : RunLoops K) (uptimeUs scanErr : ℤ) :
    (s.networkStep uptimeUs scanErr).agent.params.law = s.agent.params.law := by
  rw [RunLoops.networkStep]
  split
  · rfl
  · dsimp only
    split_ifs
    · rfl
    · rfl
  · rfl
  · rfl
  · split
    · rfl
    · rfl
  · dsimp only
    split_ifs
    · rfl
    · rfl
    · rfl

omit [Field K] [LinearOrder K] [IsStrictOrderedRing K] [FloorRing K] in
/-- A step of the law keeps the law. -/
theorem stepped_law (s : RunLoops K) (freshData : Bool) :
    (s.stepped freshData).params.law = s.agent.params.law := by
  rw [RunLoops.stepped]
  split_ifs
  · rw [absorbNeighbors]
    split_ifs
    · rfl
    · rfl
  · rfl

/-- So does the whole dynamics step. -/
theorem dynamicsStep_law (s : RunLoops K) (freshData : Bool) :
    (s.dynamicsStep lib freshData).agent.params.law = s.agent.params.law := by
  rw [RunLoops.dynamicsStep]
  split_ifs
  · show (discreteStep lib _).agent.params.law = _
    rw [discreteStep_params]
    exact stepped_law s freshData
  · rfl

/-- The lists of a mailbox behind a reception that is of the law. -/
theorem PureBox.receive {m : Mailbox K} (h : PureBox m) {p : StatePacketType} {rssi : Int8}
    (hfamily : SameFamily m (.receive p rssi)) : PureBox (m.step lib (.receive p rssi)) := by
  obtain ⟨hfetched, habsorbed, hfiled, -⟩ := Mailbox.step_receive lib m p rssi
  obtain ⟨hphase, -, hagent⟩ := Mailbox.receive_rest m.loops p rssi
  have hloops : (m.step lib (.receive p rssi)).loops = m.loops.receive p rssi :=
    Mailbox.step_loops lib m _
  refine ⟨?_, ?_, ?_⟩
  · rw [hloops, hagent, hfiled]
    obtain ⟨hnone, -⟩ | ⟨x, hnew, -⟩ := Mailbox.receive_rx m.loops p rssi
    · rw [hnone, List.append_nil]
      exact h.filed
    · rw [hnew]
      exact h.filed.concat (hfamily x (by rw [hnew]; exact List.mem_singleton_self x))
  · rw [hloops, hagent, hphase, hfetched]
    exact h.fetched
  · rw [hloops, hagent, habsorbed]
    exact h.absorbed

theorem PureBox.dynamics {m : Mailbox K} (h : PureBox m) (hfaithful : m.Faithful) :
    PureBox (m.step lib .dynamics) := by
  rcases hphase : m.loops.dynamics with _ | freshData
  · rw [Mailbox.step_get hphase]
    refine ⟨?_, fun hgot ↦ ?_, ?_⟩
    · -- The get takes what was queued, and that was filed.
      show PureList m.loops.dynamicsGet.agent.params.law m.filed
      rw [dynamicsGet_agent]
      exact h.filed
    · show PureList m.loops.dynamicsGet.agent.params.law
        (if m.loops.rx.queue.isSome then m.queued else m.fetched)
      rw [dynamicsGet_agent]
      have hgot : m.loops.dynamicsGet.dynamics = .got true := hgot
      rcases hq : m.loops.rx.queue with _ | n
      · rw [RunLoops.dynamicsGet, hq] at hgot
        cases hgot
      · rw [Option.isSome_some, if_pos rfl, (hfaithful.queue n hq).1]
        exact h.filed
    · show PureList m.loops.dynamicsGet.agent.params.law m.absorbed
      rw [dynamicsGet_agent]
      exact h.absorbed
  · rw [Mailbox.step_tick hphase]
    have hidle : (m.loops.dynamicsStep lib freshData).dynamics = .idle :=
      (Mailbox.tick_rest m.loops freshData).1
    refine ⟨?_, fun hgot ↦ ?_, ?_⟩
    · show PureList (m.loops.dynamicsStep lib freshData).agent.params.law m.filed
      rw [dynamicsStep_law]
      exact h.filed
    · cases hidle.symm.trans hgot
    · show PureList (m.loops.dynamicsStep lib freshData).agent.params.law _
      rw [dynamicsStep_law]
      dsimp only
      split_ifs with habsorbs
      · rw [Bool.and_eq_true] at habsorbs
        exact h.fetched (by rw [hphase, habsorbs.2])
      · exact h.absorbed

theorem PureBox.network {m : Mailbox K} (h : PureBox m) (uptimeUs scanErr : ℤ) :
    PureBox (m.step lib (.network uptimeUs scanErr)) := by
  have hlaw := networkStep_law m.loops uptimeUs scanErr
  have hphase := (Mailbox.networkStep_rx m.loops uptimeUs scanErr).2.2.1
  have hpure : ∀ m' : Mailbox K, m'.loops = m.loops.networkStep uptimeUs scanErr →
      (m'.filed = m.filed ∨ m'.filed = []) → m'.fetched = m.fetched → m'.absorbed = m.absorbed →
        PureBox m' := by
    intro m' hloops hfiled hfetched habsorbed
    refine ⟨?_, ?_, ?_⟩
    · rw [hloops, hlaw]
      obtain hsame | hnone := hfiled
      · rw [hsame]
        exact h.filed
      · rw [hnone]
        exact pureList_nil _
    · rw [hloops, hlaw, hphase, hfetched]
      exact h.fetched
    · rw [hloops, hlaw, habsorbed]
      exact h.absorbed
  rw [Mailbox.step]
  dsimp only
  split_ifs
  · exact hpure _ rfl (Or.inr rfl) rfl rfl
  · exact hpure _ rfl (Or.inl rfl) rfl rfl

theorem PureBox.frame {m : Mailbox K} (h : PureBox m) {e : ControlEnv} {type : UInt8} {d : Bytes}
    (hfamily : SameFamily m (.frame e type d)) : PureBox (m.step lib (.frame e type d)) := by
  -- Under the new law as under the old.
  have hlists : PureList (m.loops.frame e type d).agent.params.law m.filed ∧
      (m.loops.dynamics = .got true →
        PureList (m.loops.frame e type d).agent.params.law m.fetched) ∧
      (isStart type d = false →
        PureList (m.loops.frame e type d).agent.params.law m.absorbed) := by
    by_cases hlaw : (m.loops.frame e type d).agent.params.law = m.loops.agent.params.law
    · rw [hlaw]
      exact ⟨h.filed, h.fetched, fun _ ↦ h.absorbed⟩
    · exact hfamily hlaw
  obtain ⟨hfiled, hfetched, habsorbed⟩ := hlists
  rw [Mailbox.step]
  dsimp only
  split_ifs with hstart
  · exact ⟨hfiled, hfetched, pureList_nil _⟩
  · exact ⟨hfiled, hfetched, habsorbed (Bool.eq_false_iff.2 hstart)⟩

theorem PureBox.step {m : Mailbox K} (h : PureBox m) (hfaithful : m.Faithful) {ev : BoardEvent}
    (hfamily : SameFamily m ev) : PureBox (m.step lib ev) := by
  cases ev with
  | frame e type d => exact h.frame hfamily
  | receive p rssi => exact h.receive hfamily
  | dynamics => exact h.dynamics hfaithful
  | network uptimeUs scanErr => exact h.network uptimeUs scanErr

theorem pureBox_run {radio : RadioState} {events : List BoardEvent}
    (hfamily : Guarded (Mailbox.step lib) SameFamily (.init radio) events) :
    PureBox (run (Mailbox.step lib) (.init radio) events) := by
  have hboth := hfamily.invariant (P := fun m ↦ m.Faithful ∧ PureBox m)
    (fun _ _ hm hok ↦ ⟨hm.1.step _, hm.2.step hm.1 hok⟩)
    ⟨Mailbox.faithful_init radio, ⟨pureList_nil _, fun hgot ↦ (by cases hgot), pureList_nil _⟩⟩
  exact hboth.2

/-- A foreign packet is coupled over in the next control step. -/
theorem mixes_of_not_sameFamily {m : Mailbox K} (hfaithful : m.Faithful)
    (hidle : m.loops.dynamics = .idle) (hrunning : m.loops.agent.params.running = true)
    (henabled : m.loops.agent.params.enabled = true) {p : StatePacketType} {rssi : Int8}
    (hforeign : ¬SameFamily m (.receive p rssi)) :
    MixesOnBoard ((m.step lib (.receive p rssi)).step lib .dynamics) := by
  obtain ⟨hnone, -⟩ | ⟨x, hnew, -, hslot, hput, -⟩ := Mailbox.receive_rx m.loops p rssi
  · refine absurd (fun h hh ↦ ?_) hforeign
    rw [hnone] at hh
    cases hh
  have hx : ¬OfLaw m.loops.agent.params.law x.packet := by
    refine fun hx ↦ hforeign fun h hh ↦ ?_
    rw [hnew, List.mem_singleton] at hh
    rwa [hh]
  rw [OfLaw, Classical.not_imp] at hx
  obtain ⟨-, -, -, hqueued⟩ := Mailbox.step_receive lib m p rssi
  obtain ⟨hphase, -, hagent⟩ := Mailbox.receive_rest m.loops p rssi
  have hloops : (m.step lib (.receive p rssi)).loops = m.loops.receive p rssi :=
    Mailbox.step_loops lib m _
  -- The next section of the dynamics loop takes the snapshot with the foreign packet in it.
  have hidle' : (m.step lib (.receive p rssi)).loops.dynamics = .idle := by
    rw [hloops, hphase, hidle]
  have hfull : (m.step lib (.receive p rssi)).loops.rx.queue.isSome = true := by
    rw [hloops, hput]
    rfl
  have hgotten : (m.step lib (.receive p rssi)).loops.dynamicsGet.dynamics = .got true := by
    rw [RunLoops.dynamicsGet, hloops, hput]
  have hafter : ((m.step lib (.receive p rssi)).step lib .dynamics).Faithful :=
    (hfaithful.receive p rssi).step .dynamics
  have hparams : ((m.step lib (.receive p rssi)).step lib .dynamics).loops.agent =
      m.loops.agent := by
    rw [Mailbox.step_get hidle']
    show (m.step lib (.receive p rssi)).loops.dynamicsGet.agent = _
    rw [dynamicsGet_agent, hloops, hagent]
  have hgot : ((m.step lib (.receive p rssi)).step lib .dynamics).loops.dynamics = .got true := by
    rw [Mailbox.step_get hidle']
    exact hgotten
  have hlist : ((m.step lib (.receive p rssi)).step lib .dynamics).fetched = m.filed ++ [x] := by
    rw [Mailbox.step_get hidle']
    show (if _ then _ else _) = _
    rw [if_pos hfull, hqueued, hnew, if_neg (List.cons_ne_nil _ _)]
  have hlast : lastIn (if true = true then
      ((m.step lib (.receive p rssi)).step lib .dynamics).fetched
        else ((m.step lib (.receive p rssi)).step lib .dynamics).absorbed) x.slot = some x := by
    rw [if_pos rfl, hlist, lastIn_concat, if_pos rfl]
  refine ⟨true, hgot, by rw [hparams, hrunning], by rw [hparams, henabled], x.slot, ?_, x, hlast,
    fun hscalar ↦ ?_, ?_⟩
  · rw [hparams]
    exact List.mem_of_find?_eq_some hslot
  · rw [stepped_flag hafter hgot (by rw [hparams, henabled]), hlast]
    rw [hparams] at hscalar
    exact hx.1 hscalar
  · rw [hparams]
    exact hx.2

/-- **In a pure mailbox, a reception is of the family exactly if the control step behind it mixes
nothing.** -/
theorem sameFamily_iff {m : Mailbox K} (hfaithful : m.Faithful) (hpure : PureBox m)
    (hidle : m.loops.dynamics = .idle) (hrunning : m.loops.agent.params.running = true)
    (henabled : m.loops.agent.params.enabled = true) (p : StatePacketType) (rssi : Int8) :
    SameFamily m (.receive p rssi) ↔
      ¬MixesOnBoard ((m.step lib (.receive p rssi)).step lib .dynamics) := by
  constructor
  · intro hfamily
    have hreceived : (m.step lib (.receive p rssi)).Faithful := hfaithful.receive p rssi
    exact ((hpure.receive hfamily).dynamics hreceived).not_mixes (hreceived.step .dynamics)
  · intro hnone
    by_contra hforeign
    exact hnone (mixes_of_not_sameFamily hfaithful hidle hrunning henabled hforeign)

end Board

/-! ### Both platforms -/

/-- **When control families mix.** On a host agent they do not, at whatever instants it takes its
snapshots, exactly if every report that it couples over is of its family; on a board they do not in
any run whose steps bring nothing foreign in, and the next reception from a neighbour mixes them
exactly if it is foreign. -/
theorem family_mixed_iff {K : Type} [Field K] [LinearOrder K] [IsStrictOrderedRing K] [FloorRing K]
    (lib : Libm K) :
    (∀ (c : RegisteredController) (neighbor_ids : List ℕ) (node_id : ℕ)
      (max_age_us reorder_window : ℤ) (adverts : List Advert), 0 ≤ max_age_us →
        ((∀ n now_us, ¬MixesOnHost c (run (consumeReport node_id)
            (lawTable c neighbor_ids max_age_us reorder_window) (adverts.take n)) now_us) ↔
          ∀ x ∈ adverts, SameFamilyAdvert c neighbor_ids node_id x)) ∧
    ∀ (radio : RadioState) (events : List BoardEvent),
      Guarded (Mailbox.step lib) SameFamily (.init radio) events →
        let m := run (Mailbox.step lib) (.init radio) events
        (∀ n, ¬MixesOnBoard (run (Mailbox.step lib) (.init radio) (events.take n))) ∧
          (m.loops.dynamics = .idle → m.loops.agent.params.running = true →
            m.loops.agent.params.enabled = true → ∀ p rssi,
              (SameFamily m (.receive p rssi) ↔
                ¬MixesOnBoard ((m.step lib (.receive p rssi)).step lib .dynamics))) := by
  refine ⟨fun c neighbor_ids node_id max_age_us reorder_window adverts hage ↦
    mixes_iff neighbor_ids node_id hage reorder_window adverts, fun radio events hfamily ↦ ?_⟩
  refine ⟨fun n ↦ ?_, fun hidle hrunning henabled p rssi ↦ ?_⟩
  · exact (pureBox_run (hfamily.take n)).not_mixes (Mailbox.faithful_run radio _)
  · exact sameFamily_iff (Mailbox.faithful_run radio events) (pureBox_run hfamily) hidle hrunning
      henabled p rssi

/-- The value of a manufacturer element with a two-coordinate packet of a node: `7` and `-3`. -/
def twoCoordinates (node : UInt8) : Bytes :=
  [0x59, 0x00, 2, 1, node, 5, 0, 0xC0, 0xCF, 0x6A, 0x00, 0x40, 0x39, 0xD2, 0xFF, 0, 0, 0, 0, 0, 0]

/-- The same node's one-coordinate packet. -/
def oneCoordinate (node : UInt8) : Bytes :=
  [0x59, 0x00, 1, 1, node, 0, 5, 0, 0xC0, 0xCF, 0x6A, 0x00, 0, 0, 0, 0, 0, 0]

/-- An advertising report of a single manufacturer element. -/
def reportOf (value : Bytes) : Advert :=
  ⟨UInt8.ofNat (value.length + 1) :: AD_MANUFACTURER :: value, some (-60), 1000⟩

/-- What a host delivers of a report of one element: its packet, unless it fails to decode or is not
of the node. -/
theorem deliveredPacket_reportOf (node_id : ℕ) {value : Bytes} (hlen : value.length ≤ 254) :
    deliveredPacket node_id (reportOf value) =
      match decode_element value with
      | .error _ => none
      | .ok p => if p.node_id = node_id then none else some p := by
  have helement : element AD_MANUFACTURER value = some (reportOf value).data := by
    rw [element, if_neg (not_lt.2 hlen)]
    rfl
  rw [deliveredPacket, find_manufacturer_element COMPANY_ID helement, decode_element]
  cases strip_company COMPANY_ID value <;> rfl

/-- The packet of the two reports, on the host. -/
theorem deliveredPacket_two : ∃ p, deliveredPacket 1 (reportOf (twoCoordinates 2)) = some p ∧
    p.fields = (2, [7000000, -3000000], 5, 0, true, false) := by
  have htag : byteAt ((twoCoordinates 2).drop 2) 0 = V2_VERSION := rfl
  obtain ⟨p, hp, hfields⟩ := decode_v2_of_tag htag (by decide)
  have helement : decode_element (twoCoordinates 2) = .ok p := by
    rw [← hp, ← decode_any_of_v2 rfl rfl]
    rfl
  have hfields' : p.fields = (2, [7000000, -3000000], 5, 0, true, false) := by
    rw [hfields]
    decide
  have hnode : ¬p.node_id = 1 := by
    rw [show p.node_id = 2 from congrArg Prod.fst hfields']
    decide
  refine ⟨p, ?_, hfields'⟩
  rw [deliveredPacket_reportOf 1 (by decide), helement]
  exact if_neg hnode

theorem deliveredPacket_one : ∃ p, deliveredPacket 1 (reportOf (oneCoordinate 2)) = some p ∧
    p.fields = (2, [7000000], 5, 0, true, false) := by
  have htag : byteAt ((oneCoordinate 2).drop 2) 0 = VERSION := rfl
  obtain ⟨p, hp, hfields⟩ := decode_v1_of_tag htag rfl (by decide)
  have helement : decode_element (oneCoordinate 2) = .ok p := by
    rw [← hp, ← decode_any_of_v1 rfl rfl]
    rfl
  have hfields' : p.fields = (2, [7000000], 5, 0, true, false) := by
    rw [hfields]
    decide
  have hnode : ¬p.node_id = 1 := by
    rw [show p.node_id = 2 from congrArg Prod.fst hfields']
    decide
  refine ⟨p, ?_, hfields'⟩
  rw [deliveredPacket_reportOf 1 (by decide), helement]
  exact if_neg hnode

/-- The same on the board, from node 1. -/
def boardPacket (value : Bytes) : StatePacketType :=
  match airWireDecodeAny value with
  | .ok p => p.toStatePacketType
  | .error _ => samplePacket 0 0

/-- A scalar board with neighbour 1 hears a packet and fetches it. -/
def heardRun (value : Bytes) : List BoardEvent :=
  startedRun [1] ++ [.receive (boardPacket value) (-40), .dynamics]

/-- One coordinate for the scalar law: nothing is mixed. -/
theorem family_mixed_iff_sample :
    (∀ n now_us, ¬MixesOnHost .finiteTimeAdaptive (run (consumeReport 1)
      (lawTable .finiteTimeAdaptive [2] 300000 32)
      ([reportOf (oneCoordinate 2)].take n)) now_us) ∧
    ¬MixesOnBoard (run (Mailbox.step (.atZero : Libm ℚ)) (.init quietRadio)
      ((heardRun (oneCoordinate 1)).take 6)) := by
  obtain ⟨hhost, hboard⟩ := family_mixed_iff (.atZero : Libm ℚ)
  constructor
  · refine (hhost .finiteTimeAdaptive [2] 1 300000 32 _ (by decide)).2 fun x hx p hp _ _ ↦ ?_
    obtain rfl := List.mem_singleton.1 hx
    obtain ⟨q, hq, hfields⟩ := deliveredPacket_one
    obtain rfl := Option.some.inj (hp.symm.trans hq)
    have hvstate : p.vstate = [7000000] := congrArg (fun f ↦ f.2.1) hfields
    rw [hvstate]
    rfl
  · exact (hboard quietRadio (heardRun (oneCoordinate 1)) (by decide +kernel)).1 6

/-- **A microgrid packet that bears a neighbour's id is coupled over under the scalar law**: its
first coordinate, on the host and on the board. -/
theorem foreign_packet_coupled :
    MixesOnHost .finiteTimeAdaptive (run (consumeReport 1)
        (lawTable .finiteTimeAdaptive [2] 300000 32) [reportOf (twoCoordinates 2)]) 1000 ∧
      ((run (consumeReport 1) (lawTable .finiteTimeAdaptive [2] 300000 32)
        [reportOf (twoCoordinates 2)]).table.snapshot 1000) = ([7000000], [true]) ∧
      airWireDecodeAny (twoCoordinates 1) = .ok ⟨boardPacket (twoCoordinates 1), true⟩ ∧
      MixesOnBoard (run (Mailbox.step (.atZero : Libm ℚ)) (.init quietRadio)
        (heardRun (twoCoordinates 1))) := by
  obtain ⟨p, hp, hfields⟩ := deliveredPacket_two
  have hnode : p.node_id = 2 := congrArg Prod.fst hfields
  have hvstate : p.vstate = [7000000, -3000000] := congrArg (fun f ↦ f.2.1) hfields
  have henabled : p.enabled = true := congrArg (fun f ↦ f.2.2.2.2.1) hfields
  refine ⟨?_, ?_, by decide +kernel, ?_⟩
  · refine mixes_of_foreign (t := lawTable .finiteTimeAdaptive [2] 300000 32) (by decide)
      fun hfamily ↦ ?_
    have hlen := hfamily p hp (by rw [hnode]; exact List.mem_singleton_self 2) fun _ ↦ henabled
    rw [hvstate] at hlen
    cases hlen
  · rw [run_cons, run_nil, consumeReport, hp]
    dsimp only
    rw [ReceiveTable.observe_table, NeighborTable.observe]
    dsimp only
    rw [hnode, hvstate, henabled]
    rfl
  · refine ⟨true, by decide +kernel, by decide +kernel, by decide +kernel, 0, by decide +kernel,
      ⟨1, 0, boardPacket (twoCoordinates 1), -40⟩, by decide +kernel, fun _ ↦ by decide +kernel,
      by decide +kernel⟩

end VertexTestbed.Conformance
