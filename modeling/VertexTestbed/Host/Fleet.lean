import VertexTestbed.Lib.Averaging
import VertexTestbed.Lib.Runs
import VertexTestbed.Host.Microgrid
import VertexTestbed.Host.Neighbors

/-!
# A fleet of agents over an adversarial radio

The nodes of a graph, each with its controller and its neighbour table, and every packet that was
ever transmitted. An event is a tick of one node, a transmission by one node, or the reception by
one node of **any** packet ever transmitted: a loss is a packet that is never received, a duplicate
one that is received twice, a delay or a reordering a late reception, and a stale holding a table
entry that is not overwritten.

`fleet_convex` says that an interval on the quantization grid that contains every initial value, the
references and zero contains every value held or transmitted ever after. Per node it is the convex
form of the update (`VirtualLayer.candidate_zP_eq`); across the radio it is that the half-up
quantizer does not leave an interval with ends on the grid (`quantize_mem_Icc`).
-/

namespace VertexTestbed.Host

variable {ι : Type*} [DecidableEq ι]
variable {K : Type*} [Field K] [LinearOrder K]

/-- One agent: its controller, its neighbour table, and whether it takes part. -/
structure FleetNode (ι K : Type*) [Field K] [LinearOrder K] where
  ctrl : MicrogridController K
  table : NeighborTable ι
  enabled : Bool

/-- The agents and everything ever transmitted. -/
structure Fleet (ι K : Type*) [Field K] [LinearOrder K] where
  node : ι → FleetNode ι K
  sent : List (StatePacket ι)

/-- How a fleet is set up. Links have unit weight and an agent reads exactly its neighbours. -/
structure FleetConfig (ι K : Type*) [Field K] [LinearOrder K] where
  params : ι → ControllerParams K
  neighbors : ι → List ι
  enabled : ι → Bool
  max_age_us : ι → ℤ
  degree_eq : ∀ i, (params i).degree = (neighbors i).length

/-- The fleet before its first event: nobody has heard anybody. -/
def FleetConfig.init (cfg : FleetConfig ι K) : Fleet ι K where
  node i :=
    { ctrl := .init (cfg.params i)
      table := ⟨cfg.neighbors i, cfg.max_age_us i, 2, true, fun _ ↦ none⟩
      enabled := cfg.enabled i }
  sent := []

/-- One event. -/
inductive FleetEvent (ι : Type*) where
  | tick (i : ι) (now_us : ℤ)
  | publish (i : ι)
  | deliver (i : ι) (k : ℕ) (rx_time_us : ℤ)

/-- Replace one node. -/
def Fleet.setNode (f : Fleet ι K) (i : ι) (n : FleetNode ι K) : Fleet ι K :=
  { f with node := fun j ↦ if j = i then n else f.node j }

variable [IsStrictOrderedRing K] [FloorRing K]

/-- A control step of an enabled agent, on the held values. -/
def FleetNode.tick (lib : Libm K) (n : FleetNode ι K) (now_us : ℤ) : FleetNode ι K :=
  if n.enabled then { n with ctrl := n.ctrl.tick lib (n.table.snapshot now_us).1 } else n

/-- The packet an agent would transmit now. -/
def FleetNode.packet (i : ι) (n : FleetNode ι K) : Option (StatePacket ι) :=
  StatePacket.fromState i [n.ctrl.virtual.packet.1, n.ctrl.virtual.packet.2] n.enabled

/-- One event on a fleet. -/
def Fleet.step (lib : Libm K) (f : Fleet ι K) : FleetEvent ι → Fleet ι K
  | .tick i now_us => f.setNode i ((f.node i).tick lib now_us)
  | .publish i =>
    match (f.node i).packet i with
    | none => f
    | some pkt => { f with sent := f.sent ++ [pkt] }
  | .deliver i k rx_time_us =>
    match f.sent[k]? with
    | none => f
    | some pkt =>
      f.setNode i { f.node i with table := (f.node i).table.observe pkt rx_time_us }

/-! ### The interval -/

/-- The dequantized value lies in `[lo, hi]`. -/
def InInterval (lo hi : K) (v : ℤ) : Prop :=
  (v : K) * invScaleFactor ∈ Set.Icc lo hi

/-- A configuration the interval suits: it contains every initial coordinate, every reference and
zero, and the gains have the signs of the benchmark. -/
structure FleetConfig.Suits (cfg : FleetConfig ι K) (lo hi : K) : Prop where
  lo_onGrid : OnGrid 1000000 lo
  hi_onGrid : OnGrid 1000000 hi
  zero_mem : (0 : K) ∈ Set.Icc lo hi
  vstate0_P : ∀ i, (cfg.params i).vstate0_P ∈ Set.Icc lo hi
  vstate0_Q : ∀ i, (cfg.params i).vstate0_Q ∈ Set.Icc lo hi
  rP : ∀ i, (cfg.params i).virtual.rP ∈ Set.Icc lo hi
  rQ : ∀ i, (cfg.params i).virtual.rQ ∈ Set.Icc lo hi
  c_0 : ∀ i, 0 ≤ (cfg.params i).virtual.c_0
  alpha_0 : ∀ i, 0 ≤ (cfg.params i).virtual.alpha_0
  kappa_o : ∀ i, 0 ≤ (cfg.params i).virtual.kappa_o
  xi : ∀ i, 0 ≤ (cfg.params i).virtual.xi

/-- What holds of one node: its virtual state and everything it holds lie in the interval. -/
structure NodeInv (lo hi : K) (n : FleetNode ι K) : Prop where
  zP : n.ctrl.virtual.zP ∈ Set.Icc lo hi
  zQ : n.ctrl.virtual.zQ ∈ Set.Icc lo hi
  rP : n.ctrl.virtual.p.rP ∈ Set.Icc lo hi
  rQ : n.ctrl.virtual.p.rQ ∈ Set.Icc lo hi
  gains : n.ctrl.virtual.Nonneg
  holds : n.table.Holds (InInterval lo hi)

/-- What holds of the fleet. -/
structure FleetInv (lo hi : K) (f : Fleet ι K) : Prop where
  node : ∀ i, NodeInv lo hi (f.node i)
  sent : ∀ pkt ∈ f.sent, ∀ v ∈ pkt.vstate, InInterval lo hi v

section Interval

variable {lo hi : K} {n : FleetNode ι K}

omit [IsStrictOrderedRing K] [FloorRing K] [DecidableEq ι] in
/-- Every value a controller reads off a snapshot lies in the interval. -/
theorem snapshot_mem {vs : List ℤ} (hvs : ∀ v ∈ vs, InInterval lo hi v)
    (h₀ : (0 : K) ∈ Set.Icc lo hi) (degree : ℕ) :
    ∀ z ∈ (snapshot degree vs : List (K × K)), z.1 ∈ Set.Icc lo hi ∧ z.2 ∈ Set.Icc lo hi := by
  have hget : ∀ k, (vs.getD k 0 : K) * invScaleFactor ∈ Set.Icc lo hi := by
    intro k
    rcases lt_or_ge k vs.length with hk | hk
    · rw [List.getD_eq_getElem _ _ hk]
      exact hvs _ (List.getElem_mem hk)
    · rw [List.getD_eq_default _ _ hk, Int.cast_zero, zero_mul]
      exact h₀
  intro z hz
  obtain ⟨j, -, rfl⟩ := List.mem_map.1 hz
  exact ⟨hget _, hget _⟩

omit [FloorRing K] [DecidableEq ι] in
/-- **One control step keeps the virtual state in the interval.** -/
theorem NodeInv.tick (hn : NodeInv lo hi n) (h₀ : (0 : K) ∈ Set.Icc lo hi) (lib : Libm K)
    (now_us : ℤ) : NodeInv lo hi (n.tick lib now_us) := by
  rw [FleetNode.tick]
  split_ifs
  swap
  · exact hn
  have hzero : InInterval lo hi 0 := by
    rw [InInterval, Int.cast_zero, zero_mul]
    exact h₀
  -- What is heard is in the interval, so are the averages of it, and the new value lies between.
  set vs := (n.table.snapshot now_us).1 with hvs
  have hmem := snapshot_mem (hn.holds.snapshot hzero now_us) h₀ n.ctrl.virtual.degree
  rw [← hvs] at hmem
  have hh : 0 ≤ n.ctrl.params.dt_s := n.ctrl.params.dt_pos.le
  have hheld : (n.ctrl.held vs).Nonneg := ⟨hn.gains.c, hn.gains.alpha_0, hn.gains.kappa_o,
    hn.gains.xi⟩
  obtain ⟨hθ₀, hθ₁⟩ := VirtualLayer.theta_mem hheld hh n.ctrl.t_s
  have hb := n.ctrl.virtual.p.b_nonneg
  have hD := n.ctrl.virtual.D_pos
  have hlen := snapshot_length (K := K) n.ctrl.virtual.degree vs
  have havgP : (n.ctrl.held vs).wP / (n.ctrl.held vs).D ∈ Set.Icc lo hi := by
    have havg := pinned_average_mem_Icc (fun z hz ↦ (hmem z hz).1) hb hn.rP
      (by rw [hlen]; exact hD)
    rwa [hlen] at havg
  have havgQ : (n.ctrl.held vs).wQ / (n.ctrl.held vs).D ∈ Set.Icc lo hi := by
    have havg := pinned_average_mem_Icc (fun z hz ↦ (hmem z hz).2) hb hn.rQ
      (by rw [hlen]; exact hD)
    rwa [hlen] at havg
  refine ⟨?_, ?_, hn.rP, hn.rQ, ?_, hn.holds⟩
  · show (n.ctrl.candidate vs).zP ∈ _
    rw [MicrogridController.candidate, VirtualLayer.candidate_zP_eq hheld hh]
    exact convex_mem_Icc hn.zP havgP hθ₀ hθ₁.le
  · show (n.ctrl.candidate vs).zQ ∈ _
    rw [MicrogridController.candidate, VirtualLayer.candidate_zQ_eq hheld hh]
    exact convex_mem_Icc hn.zQ havgQ hθ₀ hθ₁.le
  · refine ⟨?_, hn.gains.alpha_0, hn.gains.kappa_o, hn.gains.xi⟩
    exact hn.gains.c.trans (VirtualLayer.le_candidate_c hheld hh n.ctrl.t_s)

omit [DecidableEq ι] in
/-- **The quantizer does not push a transmitted value out of the interval.** -/
theorem NodeInv.packet (hn : NodeInv lo hi n) (hlo : OnGrid 1000000 lo) (hhi : OnGrid 1000000 hi)
    {i : ι} {pkt : StatePacket ι} (hpkt : n.packet i = some pkt) :
    ∀ v ∈ pkt.vstate, InInterval lo hi v := by
  rw [FleetNode.packet] at hpkt
  rw [StatePacket.vstate_of_fromState hpkt]
  intro v hv
  obtain ⟨z, hz, rfl⟩ := List.mem_map.1 hv
  refine quantize_mem_Icc hlo hhi ?_
  rcases List.mem_pair.1 hz with rfl | rfl
  · exact hn.zP
  · exact hn.zQ

omit [IsStrictOrderedRing K] [FloorRing K] in
/-- Replacing a node by one that keeps the interval. -/
theorem FleetInv.setNode {f : Fleet ι K} (hf : FleetInv lo hi f) {i : ι} {n : FleetNode ι K}
    (hn : NodeInv lo hi n) : FleetInv lo hi (f.setNode i n) := by
  refine ⟨fun j ↦ ?_, hf.sent⟩
  show NodeInv lo hi (if j = i then n else f.node j)
  split_ifs
  · exact hn
  · exact hf.node j

/-- **One event.** -/
theorem FleetInv.step {f : Fleet ι K} (hf : FleetInv lo hi f) (hlo : OnGrid 1000000 lo)
    (hhi : OnGrid 1000000 hi) (h₀ : (0 : K) ∈ Set.Icc lo hi) (lib : Libm K)
    (e : FleetEvent ι) : FleetInv lo hi (f.step lib e) := by
  cases e with
  | tick i now_us => exact hf.setNode ((hf.node i).tick h₀ lib now_us)
  | publish i =>
    rw [Fleet.step]
    rcases hpkt : (f.node i).packet i with - | pkt
    · exact hf
    · refine ⟨hf.node, fun pkt' hmem ↦ ?_⟩
      rcases List.mem_append.1 hmem with hmem | hmem
      · exact hf.sent pkt' hmem
      · rw [List.mem_singleton.1 hmem]
        exact (hf.node i).packet hlo hhi hpkt
  | deliver i k rx_time_us =>
    rw [Fleet.step]
    rcases hpkt : f.sent[k]? with - | pkt
    · exact hf
    · have hn := hf.node i
      have hmem := hf.sent pkt (List.mem_of_getElem? hpkt)
      exact hf.setNode ⟨hn.zP, hn.zQ, hn.rP, hn.rQ, hn.gains, hn.holds.observe hmem rx_time_us⟩

omit [IsStrictOrderedRing K] [FloorRing K] [DecidableEq ι] in
theorem FleetInv.init {cfg : FleetConfig ι K} (h : cfg.Suits lo hi) :
    FleetInv lo hi cfg.init where
  node i :=
    { zP := h.vstate0_P i
      zQ := h.vstate0_Q i
      rP := h.rP i
      rQ := h.rQ i
      gains := ⟨h.c_0 i, h.alpha_0 i, h.kappa_o i, h.xi i⟩
      holds := fun _ _ hr ↦ absurd hr (by simp [FleetConfig.init]) }
  sent := by simp [FleetConfig.init]

omit [FloorRing K] [DecidableEq ι] in
/-- A control step does not decrease the gain. -/
theorem NodeInv.c_le_tick (hn : NodeInv lo hi n) (lib : Libm K) (now_us : ℤ) :
    n.ctrl.virtual.c ≤ (n.tick lib now_us).ctrl.virtual.c := by
  rw [FleetNode.tick]
  split_ifs
  · have hheld : (n.ctrl.held (n.table.snapshot now_us).1).Nonneg :=
      ⟨hn.gains.c, hn.gains.alpha_0, hn.gains.kappa_o, hn.gains.xi⟩
    exact VirtualLayer.le_candidate_c hheld n.ctrl.params.dt_pos.le n.ctrl.t_s
  · exact le_rfl

/-- No event decreases a gain. -/
theorem FleetInv.c_le_step {f : Fleet ι K} (hf : FleetInv lo hi f) (lib : Libm K)
    (e : FleetEvent ι) (i : ι) :
    (f.node i).ctrl.virtual.c ≤ ((f.step lib e).node i).ctrl.virtual.c := by
  cases e with
  | tick j now_us =>
    show _ ≤ (if i = j then (f.node j).tick lib now_us else f.node i).ctrl.virtual.c
    split_ifs with hij
    · subst hij
      exact (hf.node i).c_le_tick lib now_us
    · exact le_rfl
  | publish j =>
    rw [Fleet.step]
    rcases (f.node j).packet j with - | pkt
    · exact le_rfl
    · exact le_rfl
  | deliver j k rx_time_us =>
    rw [Fleet.step]
    rcases f.sent[k]? with - | pkt
    · exact le_rfl
    · show _ ≤ (if i = j then _ else f.node i).ctrl.virtual.c
      split_ifs with hij
      · subst hij
        exact le_rfl
      · exact le_rfl

end Interval

/-- **Fleet convexity.** From a configuration the interval suits, after any events: every virtual
coordinate and every transmitted value lies in the interval, the convex weight of the next step of
every node lies in `[0, 1)`, and no further event decreases a gain. -/
theorem fleet_convex (lib : Libm K) {cfg : FleetConfig ι K} {lo hi : K} (h : cfg.Suits lo hi)
    (events : List (FleetEvent ι)) :
    let f := Runs.run (Fleet.step lib) cfg.init events
    (∀ i, (f.node i).ctrl.virtual.zP ∈ Set.Icc lo hi ∧
        (f.node i).ctrl.virtual.zQ ∈ Set.Icc lo hi) ∧
      (∀ pkt ∈ f.sent, ∀ v ∈ pkt.vstate, InInterval lo hi v) ∧
      (∀ i, 0 ≤ (f.node i).ctrl.virtual.theta (f.node i).ctrl.t_s (f.node i).ctrl.params.dt_s ∧
        (f.node i).ctrl.virtual.theta (f.node i).ctrl.t_s (f.node i).ctrl.params.dt_s < 1) ∧
      ∀ e i, (f.node i).ctrl.virtual.c ≤ ((f.step lib e).node i).ctrl.virtual.c := by
  have hinv : FleetInv lo hi (Runs.run (Fleet.step lib) cfg.init events) :=
    Runs.run_invariant _ (fun _ e hf ↦ hf.step h.lo_onGrid h.hi_onGrid h.zero_mem lib e)
      (.init h) events
  refine ⟨fun i ↦ ⟨(hinv.node i).zP, (hinv.node i).zQ⟩, hinv.sent, fun i ↦ ?_, fun e i ↦ ?_⟩
  · exact VirtualLayer.theta_mem (hinv.node i).gains (ControllerParams.dt_pos _).le _
  · exact hinv.c_le_step lib e i

/-- Two sample nodes that hear each other. -/
def samplePair : FleetConfig Bool ℚ where
  params _ := sampleParams (.adaptive sampleAdaptive)
  neighbors i := [!i]
  enabled _ := true
  max_age_us _ := 100000
  degree_eq _ := rfl

theorem samplePair_suits : samplePair.Suits 0 1 where
  lo_onGrid := onGrid_zero _
  hi_onGrid := ⟨1000000, by norm_num⟩
  zero_mem := by norm_num
  vstate0_P _ := by norm_num [samplePair, sampleParams]
  vstate0_Q _ := by norm_num [samplePair, sampleParams]
  rP _ := by norm_num [samplePair, sampleParams]
  rQ _ := by norm_num [samplePair, sampleParams]
  c_0 _ := by norm_num [samplePair, sampleParams]
  alpha_0 _ := by norm_num [samplePair, sampleParams]
  kappa_o _ := by norm_num [samplePair, sampleParams]
  xi _ := by norm_num [samplePair, sampleParams]

/-- A tick, a transmission and two receptions of it. -/
theorem fleet_convex_samplePair :
    let f := Runs.run (Fleet.step .atZero) samplePair.init
      [.tick true 0, .publish true, .deliver false 0 1, .deliver false 0 2]
    (∀ i, (f.node i).ctrl.virtual.zP ∈ Set.Icc 0 1 ∧ (f.node i).ctrl.virtual.zQ ∈ Set.Icc 0 1) ∧
      (∀ pkt ∈ f.sent, ∀ v ∈ pkt.vstate, InInterval (0 : ℚ) 1 v) ∧
      (∀ i, 0 ≤ (f.node i).ctrl.virtual.theta (f.node i).ctrl.t_s (f.node i).ctrl.params.dt_s ∧
        (f.node i).ctrl.virtual.theta (f.node i).ctrl.t_s (f.node i).ctrl.params.dt_s < 1) ∧
      ∀ e i, (f.node i).ctrl.virtual.c ≤ ((f.step .atZero e).node i).ctrl.virtual.c :=
  fleet_convex .atZero samplePair_suits _

end VertexTestbed.Host
