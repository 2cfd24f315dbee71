import VertexTestbed.Manifest.Assignment
import VertexTestbed.Lib.Reachability

/-!
# The preconditions of a run

`topology/validate.py`: the graph of information flow of a manifest, and what `check` finds wrong
with it. Errors block a run, warnings are for the operator.

The reference of a manifest enters at the pinned nodes and spreads along the edges, and
`check_reference` searches the graph for nodes it does not come to. The graph it searches is the
declared one. A disabled node is in it, and passes nothing on: `propagates_iff` says when the search
is right nevertheless.

networkx is a parameter, `Networkx`, of which only the search is relied on (`Searches`).
-/

namespace VertexTestbed.Manifest

open Relation Reachability

variable {K : Type} [Field K] [LinearOrder K]

/-! ### Graphs -/

/-- `nx.DiGraph`. -/
structure DiGraph where
  nodes : Finset ℤ
  edges : Finset (ℤ × ℤ)
  edges_mem : ∀ e ∈ edges, e.1 ∈ nodes ∧ e.2 ∈ nodes

namespace DiGraph

/-- `in_degree`. -/
def in_degree (g : DiGraph) (i : ℤ) : ℕ := (g.edges.filter fun e ↦ e.2 = i).card

/-- `out_degree`. -/
def out_degree (g : DiGraph) (i : ℤ) : ℕ := (g.edges.filter fun e ↦ e.1 = i).card

/-- There is a path. -/
def Reaches (g : DiGraph) : ℤ → ℤ → Prop := ReflTransGen fun u v ↦ (u, v) ∈ g.edges

end DiGraph

/-- What the validator takes from networkx. -/
structure Networkx where
  descendants : DiGraph → ℤ → Finset ℤ
  weakly_connected_components : DiGraph → List (Finset ℤ)
  is_weakly_connected : DiGraph → Bool
  is_strongly_connected : DiGraph → Bool

/-- `descendants` is "all nodes reachable from source", the source itself left out. -/
def Networkx.Searches (nx : Networkx) : Prop :=
  ∀ (g : DiGraph), ∀ p ∈ g.nodes, ∀ v, v ∈ nx.descendants g p ↔ v ≠ p ∧ g.Reaches p v

/-- The ids `build_graph` keeps. -/
def keep (manifest : ExperimentManifest K) (enabled_only : Bool) : Finset ℤ :=
  ((manifest.1.nodes.filter fun n ↦ n.1.enabled || !enabled_only).map (·.1.id)).toFinset

/-- The edges of `build_graph`: `j → i` when `i` reads the state of `j`. -/
def links (manifest : ExperimentManifest K) (enabled_only : Bool) : List (ℤ × ℤ) :=
  manifest.1.nodes.flatMap fun n ↦
    if n.1.id ∈ keep manifest enabled_only then
      (n.1.neighbors.filter (· ∈ keep manifest enabled_only)).map fun j ↦ (j, n.1.id)
    else []

/-- The nodes of the graph, or of its enabled part. -/
theorem mem_keep {manifest : ExperimentManifest K} {enabled_only : Bool} {i : ℤ} :
    i ∈ keep manifest enabled_only ↔
      ∃ n ∈ manifest.1.nodes, n.1.id = i ∧ (n.1.enabled = true ∨ enabled_only = false) := by
  simp only [keep, List.mem_toFinset, List.mem_map, List.mem_filter, Bool.or_eq_true,
    Bool.not_eq_true', and_assoc]
  constructor
  · rintro ⟨n, hn, hkeep, hid⟩
    exact ⟨n, hn, hid, hkeep⟩
  · rintro ⟨n, hn, hid, hkeep⟩
    exact ⟨n, hn, hkeep, hid⟩

/-- Its links: a neighbour of a node points to that node. -/
theorem mem_links {manifest : ExperimentManifest K} {enabled_only : Bool} {u v : ℤ} :
    (u, v) ∈ links manifest enabled_only ↔
      u ∈ keep manifest enabled_only ∧ v ∈ keep manifest enabled_only ∧
        ∃ n ∈ manifest.1.nodes, n.1.id = v ∧ u ∈ n.1.neighbors := by
  simp only [links, List.mem_flatMap, List.mem_ite_nil_right, List.mem_map, List.mem_filter,
    decide_eq_true_eq, Prod.mk.injEq]
  constructor
  · rintro ⟨n, hn, hkeep, j, ⟨hread, hj⟩, rfl, rfl⟩
    exact ⟨hj, hkeep, n, hn, rfl, hread⟩
  · rintro ⟨hu, hv, n, hn, rfl, hread⟩
    exact ⟨n, hn, hv, u, ⟨hread, hu⟩, rfl, rfl⟩

/-- A link joins nodes of the graph. -/
theorem links_mem (manifest : ExperimentManifest K) (enabled_only : Bool) :
    ∀ e ∈ (links manifest enabled_only).toFinset,
      e.1 ∈ keep manifest enabled_only ∧ e.2 ∈ keep manifest enabled_only := by
  rintro ⟨u, v⟩ he
  obtain ⟨hu, hv, -⟩ := mem_links.1 (List.mem_toFinset.1 he)
  exact ⟨hu, hv⟩

/-- `build_graph`. -/
def build_graph (manifest : ExperimentManifest K) (enabled_only : Bool) : DiGraph where
  nodes := keep manifest enabled_only
  edges := (links manifest enabled_only).toFinset
  edges_mem := links_mem manifest enabled_only

/-! ### The report -/

/-- What blocks a run. -/
inductive CheckError where
  /-- `pinned ids {ids} are not declared nodes` -/
  | unknownPins (ids : List ℤ)
  /-- `a reference is declared but no agent is pinned, so no agent knows it; …` -/
  | noPin
  /-- `pinned agents {ids} are disabled, so the reference cannot enter the fleet` -/
  | disabledPins (ids : List ℤ)
  /-- `no path from a pinned agent reaches {ids}; those agents can never learn the reference` -/
  | unreachable (ids : List ℤ)
  /-- `nodes {ids} have no links at all` -/
  | isolated (ids : List ℤ)
  /-- `graph is disconnected into {len(components)} components {components}; …` -/
  | disconnected (components : List (List ℤ))
  /-- `graph is not strongly connected; sources={…}; sinks={…} -- information cannot reach …` -/
  | notStrong (sources sinks : List ℤ)
  /-- `{len(links)} link(s) join agents with no medium in common: {links}. …` -/
  | noMedium (links : List (ℤ × ℤ))
  /-- `agents {over} run their control law on the microcontroller, whose firmware holds at most …`
  -/
  | tooManyNeighbors (counts : List (ℤ × ℕ))
  deriving DecidableEq

/-- What the operator is told. -/
inductive CheckWarning (K : Type) where
  /-- `{n} agents are pinned; the benchmark pins exactly one, …` -/
  | severalPins (n : ℕ)
  /-- `graph is not strongly connected; sources={…}; sinks={…}` -/
  | notStrong (sources sinks : List ℤ)
  /-- `graph is not weight-balanced (in!=out for {offenders}); …` -/
  | unbalanced (offenders : List (ℤ × ℕ × ℕ))
  /-- `eta={eta} is not much smaller than gain_ij={gain_ij}; …` -/
  | etaNotBelow (eta gain_ij : K)
  /-- `{len(links)} link(s) are between agents on the same host {links}; …` -/
  | sameHost (links : List (ℤ × ℤ))
  /-- `node {id} is disabled but is still read by its neighbours; …` -/
  | disabledRead (id : ℤ)
  /-- `disabling {disabled} splits the graph into {len(components)} components {components}; …` -/
  | fragmented (disabled : List ℤ) (components : List (List ℤ))
  /-- `heterogeneous publish periods {periods} s` -/
  | heterogeneous (periods : List K)
  /-- `node {id}: publish period {publish_period_s} s is shorter than the control period dt={dt_s}
  …` -/
  | shorterThanStep (id : ℤ) (publish_period_s dt_s : K)
  /-- `node {id}: publish period {publish_period_s} s is shorter than the advertising interval …` -/
  | shorterThanAdvertising (id : ℤ) (publish_period_s adv_interval_ms : K)

/-- `GraphReport`. -/
structure GraphReport (K : Type) where
  n_nodes : ℕ
  n_edges : ℕ
  is_weakly_connected : Bool
  is_strongly_connected : Bool
  is_balanced : Bool
  is_symmetric : Bool
  isolated : List ℤ
  sources : List ℤ
  sinks : List ℤ
  disabled : List ℤ
  /-- The graph with disabled agents removed: the one that runs. -/
  effective_strongly_connected : Bool
  effective_components : List (List ℤ)
  pinned : List ℤ
  unreachable_from_pin : List ℤ
  errors : List CheckError
  warnings : List (CheckWarning K)

/-- `ok`. -/
def GraphReport.ok (rep : GraphReport K) : Bool := rep.errors.isEmpty

/-- `fragmented_by_disabling`. -/
def GraphReport.fragmented_by_disabling (rep : GraphReport K) : Bool :=
  1 < rep.effective_components.length

theorem le_isTrans {T : Type} [LinearOrder T] : IsTrans T (· ≤ ·) := inferInstance

theorem le_antisymmetric {T : Type} [LinearOrder T] : Std.Antisymm (α := T) (· ≤ ·) := inferInstance

/-- `sorted`. -/
def sorted {T : Type} [LinearOrder T] (s : Finset T) : List T :=
  @Finset.sort T s (· ≤ ·) _ le_isTrans le_antisymmetric _

/-- `if p: found.append(e)`. -/
def findingIf {E : Type} (p : Prop) [Decidable p] (e : E) : List E := if p then [e] else []

/-- There is no finding exactly where there is nothing to find. -/
theorem findingIf_eq_nil {E : Type} {p : Prop} [Decidable p] {e : E} : findingIf p e = [] ↔ ¬p := by
  rw [findingIf]
  split_ifs with h
  · simpa using h
  · simpa using h

/-! ### The reference -/

/-- `by_id`. -/
def by_id (manifest : ExperimentManifest K) (i : ℤ) : Option (NodeSpec K) :=
  manifest.1.nodes.find? fun n ↦ n.1.id = i

/-- The pinned ids of a manifest. -/
def pins (coord : CoordinationSpec K) : Finset ℤ := (coord.1.pinned.1.map Prod.fst).toFinset

/-- The pinned ids that are declared. -/
def knownPins (manifest : ExperimentManifest K) (coord : CoordinationSpec K) : Finset ℤ :=
  pins coord \ (pins coord \ manifest.1.ids.toFinset)

/-- The declared pins that are disabled. -/
def disabledPins (manifest : ExperimentManifest K) (coord : CoordinationSpec K) : Finset ℤ :=
  (knownPins manifest coord).filter fun p ↦ ((by_id manifest p).any (·.1.enabled)) = false

/-- The pins the reference enters at. -/
def live (manifest : ExperimentManifest K) (coord : CoordinationSpec K) : Finset ℤ :=
  knownPins manifest coord \ disabledPins manifest coord

/-- The nodes the search does not find. -/
def missed (nx : Networkx) (manifest : ExperimentManifest K) (coord : CoordinationSpec K)
    (g : DiGraph) : Finset ℤ :=
  if live manifest coord = ∅ then ∅
  else g.nodes \ (live manifest coord ∪ (live manifest coord).biUnion (nx.descendants g))

/-- `_check_reference`. -/
def check_reference (nx : Networkx) (manifest : ExperimentManifest K) (g : DiGraph)
    (rep : GraphReport K) : GraphReport K :=
  match manifest.1.coordination with
  | none => rep
  | some coord =>
    let unknown := pins coord \ manifest.1.ids.toFinset
    let pinned := sorted (pins coord)
    let errors := rep.errors ++ findingIf (unknown ≠ ∅) (.unknownPins (sorted unknown))
    if knownPins manifest coord = ∅ then
      { rep with
        pinned := pinned
        errors := errors ++ [.noPin] }
    else
      { rep with
        pinned := pinned
        unreachable_from_pin := sorted (missed nx manifest coord g)
        errors := errors ++
          findingIf (disabledPins manifest coord ≠ ∅)
            (.disabledPins (sorted (disabledPins manifest coord))) ++
          findingIf (missed nx manifest coord g ≠ ∅)
            (.unreachable (sorted (missed nx manifest coord g)))
        warnings := rep.warnings ++
          findingIf (1 < (knownPins manifest coord).card)
            (.severalPins (knownPins manifest coord).card) }

/-! ### The graph -/

/-- The media of a packet. -/
inductive Medium where
  | ble
  | udp
  deriving DecidableEq

/-- `AGENT_MEDIA`. -/
def AGENT_MEDIA : AgentType → Finset Medium
  | .ble => {.ble}
  | .wifi => {.udp}
  | .bridge => {.ble, .udp}

/-- `N_MAX_NEIGHBORS_FIRMWARE`. -/
def N_MAX_NEIGHBORS_FIRMWARE : ℕ := 4

/-- The pairs of a node and one of its declared neighbours that meet a condition. -/
def linksWhere (manifest : ExperimentManifest K) (p : NodeSpec K → NodeSpec K → Bool) :
    List (ℤ × ℤ) :=
  manifest.1.nodes.flatMap fun n ↦
    (n.1.neighbors.filter fun j ↦ (by_id manifest j).any (p n)).map fun j ↦ (n.1.id, j)

/-- The links of agents without a medium in common. -/
def unreachableLinks (manifest : ExperimentManifest K) : List (ℤ × ℤ) :=
  linksWhere manifest fun n other ↦ AGENT_MEDIA n.1.type ∩ AGENT_MEDIA other.1.type = ∅

/-- The links of agents on one host. -/
def sameHost (manifest : ExperimentManifest K) : List (ℤ × ℤ) :=
  linksWhere manifest fun n other ↦ other.1.ip = n.1.ip

/-- The agents on the board with more neighbours than it holds. -/
def overfull (manifest : ExperimentManifest K) : List (ℤ × ℕ) :=
  (manifest.1.nodes.filter fun n ↦
    n.1.type = .ble ∧ N_MAX_NEIGHBORS_FIRMWARE < n.1.neighbors.length).map fun n ↦
      (n.1.id, n.1.neighbors.length)

/-- `eta_well_below_gain`. -/
def eta_well_below_gain (c : ControllerFields K) : Bool := |c.eta| * 100 ≤ |c.gain_ij|

/-- The report `check` starts from. -/
def emptyReport (nx : Networkx) (manifest : ExperimentManifest K) : GraphReport K :=
  let g := build_graph manifest false
  let eff := build_graph manifest true
  { n_nodes := g.nodes.card
    n_edges := g.edges.card
    is_weakly_connected := g.nodes.card ≠ 0 && nx.is_weakly_connected g
    is_strongly_connected := g.nodes.card ≠ 0 && nx.is_strongly_connected g
    is_balanced := ∀ i ∈ g.nodes, g.in_degree i = g.out_degree i
    is_symmetric := ∀ e ∈ g.edges, (e.2, e.1) ∈ g.edges
    isolated := sorted (g.nodes.filter fun i ↦ g.in_degree i = 0 ∧ g.out_degree i = 0)
    sources := sorted (g.nodes.filter fun i ↦ g.in_degree i = 0 ∧ 0 < g.out_degree i)
    sinks := sorted (g.nodes.filter fun i ↦ g.out_degree i = 0 ∧ 0 < g.in_degree i)
    disabled := (((manifest.1.nodes.filter fun n ↦ !n.1.enabled).map (·.1.id)).mergeSort (· ≤ ·))
    effective_strongly_connected := eff.nodes.card ≠ 0 && nx.is_strongly_connected eff
    effective_components := (nx.weakly_connected_components eff).map sorted
    pinned := []
    unreachable_from_pin := []
    errors := []
    warnings := [] }

/-- What `check` finds wrong with the graph. -/
def graphErrors (nx : Networkx) (manifest : ExperimentManifest K) (require_strong : Bool)
    (rep : GraphReport K) : List CheckError :=
  List.flatten [
    findingIf (rep.isolated ≠ []) (.isolated rep.isolated),
    findingIf (rep.is_weakly_connected = false)
      (.disconnected ((nx.weakly_connected_components (build_graph manifest false)).map
        sorted)),
    findingIf (rep.is_strongly_connected = false ∧ require_strong = true)
      (.notStrong rep.sources rep.sinks),
    findingIf (unreachableLinks manifest ≠ []) (.noMedium (unreachableLinks manifest)),
    findingIf (overfull manifest ≠ []) (.tooManyNeighbors (overfull manifest))]

/-- What `check` tells the operator of the graph and of the nodes. -/
def graphWarnings (manifest : ExperimentManifest K) (require_strong : Bool) (rep : GraphReport K) :
    List (CheckWarning K) :=
  let g := build_graph manifest false
  let c := manifest.1.controller.1
  let periods := (manifest.1.nodes.map (·.1.publish_period_s)).toFinset
  let adv_s := manifest.1.radio.1.adv_interval_ms / 1000
  List.flatten [
    findingIf (rep.is_strongly_connected = false ∧ require_strong = false)
      (.notStrong rep.sources rep.sinks),
    findingIf (rep.is_balanced = false)
      (.unbalanced ((sorted (g.nodes.filter fun i ↦ g.in_degree i ≠ g.out_degree i)).map
        fun i ↦ (i, g.in_degree i, g.out_degree i))),
    findingIf (eta_well_below_gain c = false) (.etaNotBelow c.eta c.gain_ij),
    findingIf (sameHost manifest ≠ []) (.sameHost (sameHost manifest)),
    manifest.1.nodes.flatMap fun n ↦
      findingIf (n.1.enabled = false ∧ n.1.neighbors ≠ []) (.disabledRead n.1.id),
    findingIf (rep.fragmented_by_disabling = true)
      (.fragmented rep.disabled rep.effective_components),
    findingIf (1 < periods.card) (.heterogeneous (sorted periods)),
    manifest.1.nodes.flatMap fun n ↦
      findingIf (n.1.publish_period_s < c.dt_s)
        (.shorterThanStep n.1.id n.1.publish_period_s c.dt_s),
    manifest.1.nodes.flatMap fun n ↦
      findingIf (n.1.type ≠ .wifi ∧ n.1.publish_period_s < adv_s)
        (.shorterThanAdvertising n.1.id n.1.publish_period_s manifest.1.radio.1.adv_interval_ms)]

/-- `check`. -/
def check (nx : Networkx) (manifest : ExperimentManifest K) (require_strong : Option Bool) :
    GraphReport K :=
  let strong := require_strong.getD false
  let rep := check_reference nx manifest (build_graph manifest false) (emptyReport nx manifest)
  { rep with
    errors := rep.errors ++ graphErrors nx manifest strong rep
    warnings := rep.warnings ++ graphWarnings manifest strong rep }

/-! ### What the search finds -/

section Reference

variable {nx : Networkx} {manifest : ExperimentManifest K} {coord : CoordinationSpec K}

/-- A manifest that passes has no error about its reference. -/
theorem ok_reference {require_strong : Option Bool}
    (h : (check nx manifest require_strong).ok = true) :
    (check_reference nx manifest (build_graph manifest false)
      (emptyReport nx manifest)).errors = [] :=
  (List.append_eq_nil_iff.1 (List.isEmpty_iff.1 h)).1

/-- A reference without errors is pinned, its pins are enabled nodes, and the search misses none. -/
theorem reference_sound (hcoord : manifest.1.coordination = some coord) {g : DiGraph}
    (h : (check_reference nx manifest g (emptyReport nx manifest)).errors = []) :
    pins coord \ manifest.1.ids.toFinset = ∅ ∧ knownPins manifest coord ≠ ∅ ∧
      disabledPins manifest coord = ∅ ∧ missed nx manifest coord g = ∅ := by
  simp only [check_reference, hcoord, emptyReport] at h
  split_ifs at h with hnone
  · simp at h
  · simp only [List.nil_append, List.append_eq_nil_iff, findingIf_eq_nil, not_not] at h
    exact ⟨h.1.1, hnone, h.1.2, h.2⟩

/-- An enabled node. -/
def Enabled (manifest : ExperimentManifest K) (i : ℤ) : Prop :=
  ∃ n ∈ manifest.1.nodes, n.1.id = i ∧ n.1.enabled = true

/-- A node is enabled exactly when it is in the enabled part. -/
theorem enabled_iff {i : ℤ} : Enabled manifest i ↔ i ∈ keep manifest true := by
  rw [mem_keep, Enabled]
  simp

/-- The node `v` reads the state of the node `u`. -/
def Reads (manifest : ExperimentManifest K) (u v : ℤ) : Prop :=
  ∃ n ∈ manifest.1.nodes, n.1.id = v ∧ u ∈ n.1.neighbors

/-- A manifest reads nodes of its own only. -/
theorem reads_iff {u v : ℤ} : Reads manifest u v ↔ (u, v) ∈ (build_graph manifest false).edges := by
  rw [build_graph, List.mem_toFinset, mem_links, mem_keep, mem_keep, Reads]
  constructor
  · rintro ⟨n, hn, rfl, hread⟩
    obtain ⟨m, hm, hid⟩ := List.mem_map.1 (manifest.2.2.2.1 n hn u hread)
    exact ⟨⟨m, hm, hid, .inr rfl⟩, ⟨n, hn, rfl, .inr rfl⟩, n, hn, rfl, hread⟩
  · rintro ⟨-, -, h⟩
    exact h

/-- The reference passes from `u` to `v`: both are enabled, and `v` reads `u`. -/
def Carries (manifest : ExperimentManifest K) (u v : ℤ) : Prop :=
  Enabled manifest u ∧ Enabled manifest v ∧ Reads manifest u v

/-- It passes along the edges of the graph that runs. -/
theorem carries_iff {u v : ℤ} :
    Carries manifest u v ↔ (u, v) ∈ (build_graph manifest true).edges := by
  rw [Carries, enabled_iff, enabled_iff, build_graph, List.mem_toFinset, mem_links, Reads]

/-- **The reference comes to every enabled node**, by a path of enabled nodes from an enabled pin.
-/
def Propagates (manifest : ExperimentManifest K) (coord : CoordinationSpec K) : Prop :=
  ∀ i, Enabled manifest i →
    ∃ p ∈ pins coord, Enabled manifest p ∧ ReflTransGen (Carries manifest) p i

/-- Enabled nodes without a pin that hear the rest of the fleet through disabled nodes only. -/
def ShutOff (manifest : ExperimentManifest K) (coord : CoordinationSpec K) (s : Set ℤ) : Prop :=
  (∀ v ∈ s, Enabled manifest v ∧ v ∉ pins coord) ∧ (∃ u ∉ s, ∃ v ∈ s, Reads manifest u v) ∧
    ∀ u ∉ s, ∀ v ∈ s, Reads manifest u v → ¬Enabled manifest u

/-- What `check` accepts has enabled pins. -/
theorem pins_enabled (hdeclared : pins coord \ manifest.1.ids.toFinset = ∅)
    (henabled : disabledPins manifest coord = ∅) {p : ℤ} (hp : p ∈ pins coord) :
    Enabled manifest p ∧ p ∈ live manifest coord := by
  have hknown : p ∈ knownPins manifest coord := by
    rw [knownPins, hdeclared, Finset.sdiff_empty]
    exact hp
  refine ⟨?_, ?_⟩
  · have hlookup : p ∉ disabledPins manifest coord := by
      rw [henabled]
      exact Finset.notMem_empty p
    rw [disabledPins, Finset.mem_filter, not_and, Bool.not_eq_false, Option.any_eq_true] at hlookup
    obtain ⟨n, hn, hon⟩ := hlookup hknown
    exact ⟨n, List.mem_of_find?_eq_some hn, by simpa using List.find?_some hn, hon⟩
  · rw [live, henabled, Finset.sdiff_empty]
    exact hknown

/-- What `check` accepts is reached from a pin along the declared edges. -/
theorem declared_reached (hnx : nx.Searches) (hdeclared : pins coord \ manifest.1.ids.toFinset = ∅)
    (hpinned : knownPins manifest coord ≠ ∅) (henabled : disabledPins manifest coord = ∅)
    (hmissed : missed nx manifest coord (build_graph manifest false) = ∅) {v : ℤ}
    (hv : v ∈ keep manifest false) :
    ∃ p ∈ pins coord, (build_graph manifest false).Reaches p v := by
  have hlive : live manifest coord = knownPins manifest coord := by
    rw [live, henabled, Finset.sdiff_empty]
  rw [missed, if_neg (hlive ▸ hpinned), Finset.sdiff_eq_empty_iff_subset] at hmissed
  have hpins : ∀ p ∈ live manifest coord, p ∈ pins coord := fun p hp ↦
    (Finset.mem_sdiff.1 (hlive ▸ hp)).1
  obtain hpin | hfound := Finset.mem_union.1 (hmissed hv)
  · exact ⟨v, hpins v hpin, .refl⟩
  · obtain ⟨p, hp, hdescends⟩ := Finset.mem_biUnion.1 hfound
    have hnode : p ∈ (build_graph manifest false).nodes := by
      obtain ⟨n, hn, hid, -⟩ := (pins_enabled hdeclared henabled (hpins p hp)).1
      exact mem_keep.2 ⟨n, hn, hid, .inr rfl⟩
    exact ⟨p, hpins p hp, ((hnx _ p hnode v).1 hdescends).2⟩

/-- **The reference of an accepted manifest comes to every enabled node exactly when no nodes are
shut off by disabled ones.** -/
theorem propagates_iff (hnx : nx.Searches) {require_strong : Option Bool}
    (hok : (check nx manifest require_strong).ok = true)
    (hcoord : manifest.1.coordination = some coord) :
    Propagates manifest coord ↔ ∀ s, ¬ShutOff manifest coord s := by
  obtain ⟨hdeclared, hpinned, henabled, hmissed⟩ := reference_sound hcoord (ok_reference hok)
  constructor
  · rintro hprop s ⟨hs, ⟨u, hu, v, hv, -⟩, hdisabled⟩
    obtain ⟨p, hp, -, hpath⟩ := hprop v (hs v hv).1
    obtain ⟨x, hx, y, hy, hon, -, hread⟩ := exists_entering hpath (fun hmem ↦ (hs p hmem).2 hp) hv
    exact hdisabled x hx y hy hread hon
  · intro hshut
    have hall : ∀ i ∈ {i | Enabled manifest i}, ∃ p ∈ {p | p ∈ pins coord ∧ Enabled manifest p},
        ReflTransGen (Carries manifest) p i := by
      rw [reaches_iff_entered fun _ _ h ↦ h.1]
      rintro s hs ⟨v, hv⟩ hdisjoint
      have hunpinned : ∀ w ∈ s, w ∉ pins coord := fun w hw hp ↦
        Set.disjoint_left.1 hdisjoint hw ⟨hp, hs hw⟩
      have hnode : v ∈ keep manifest false := by
        obtain ⟨n, hn, hid, -⟩ := hs hv
        exact mem_keep.2 ⟨n, hn, hid, .inr rfl⟩
      -- the declared path enters the set, so the set is shut off unless an enabled node enters it
      obtain ⟨p, hp, hpath⟩ := declared_reached hnx hdeclared hpinned henabled hmissed hnode
      obtain ⟨x, hx, y, hy, hxy⟩ := exists_entering hpath (fun hmem ↦ hunpinned p hmem hp) hv
      by_contra hentered
      push Not at hentered
      exact hshut s ⟨fun w hw ↦ ⟨hs hw, hunpinned w hw⟩, ⟨x, hx, y, hy, reads_iff.2 hxy⟩,
        fun u hu w hw hread hon ↦ hentered u hu w hw ⟨hon, hs hw, hread⟩⟩
    intro i hi
    obtain ⟨p, ⟨hp, hon⟩, hpath⟩ := hall i hi
    exact ⟨p, hp, hon, hpath⟩

end Reference

/-! ### A search -/

/-- The edges of a graph. -/
def DiGraph.edge (g : DiGraph) (u v : ℤ) : Prop := (u, v) ∈ g.edges

instance (g : DiGraph) : DecidableRel g.edge := fun u v ↦
  inferInstanceAs (Decidable ((u, v) ∈ g.edges))

/-- The edges of a graph, both ways. -/
def DiGraph.link (g : DiGraph) (u v : ℤ) : Prop := (u, v) ∈ g.edges ∨ (v, u) ∈ g.edges

instance (g : DiGraph) : DecidableRel g.link := fun u v ↦
  inferInstanceAs (Decidable ((u, v) ∈ g.edges ∨ (v, u) ∈ g.edges))

/-- networkx by breadth-first search. -/
def bfs : Networkx where
  descendants g p := (closure g.nodes g.edge {p}).erase p
  weakly_connected_components g :=
    ((sorted g.nodes).map fun i ↦ closure g.nodes g.link {i}).dedup
  is_weakly_connected g := ∀ i ∈ g.nodes, g.nodes ⊆ closure g.nodes g.link {i}
  is_strongly_connected g := ∀ i ∈ g.nodes, g.nodes ⊆ closure g.nodes g.edge {i}

/-- A breadth-first search finds what is reachable. -/
theorem bfs_searches : bfs.Searches := by
  intro g p hp v
  have hstep : ∀ x y, (g.edge x y ∧ y ∈ g.nodes) ↔ (x, y) ∈ g.edges := fun x y ↦
    ⟨fun h ↦ h.1, fun h ↦ ⟨h, (g.edges_mem _ h).2⟩⟩
  rw [bfs, Finset.mem_erase, mem_closure (Finset.singleton_subset_iff.2 hp)]
  simp only [hstep, Finset.mem_singleton, exists_eq_left, DiGraph.Reaches]

/-! ### A detour and a chain -/

/-- The node in the middle. -/
def middleNode : NodeFields ℚ :=
  { pairNode 2 "10.6.5.2" .ble 1 1 with
    enabled := false
    neighbors := [1, 3] }

theorem middleNode_valid : middleNode.Valid := by decide +kernel

/-- The nodes at the ends, next to the one in the middle. -/
def startNode : NodeFields ℚ := pairNode 1 "10.6.5.5" .bridge 2 0

/-- The last node of the line, which hears the middle one. -/
def endNode : NodeFields ℚ := pairNode 3 "10.6.5.3" .bridge 2 0

theorem startNode_valid : startNode.Valid := by decide +kernel

theorem endNode_valid : endNode.Valid := by decide +kernel

/-- The pinned node of the ring. -/
def detourStart : NodeFields ℚ := { startNode with neighbors := [2, 3] }

/-- The last node, which hears the first one too. -/
def detourEnd : NodeFields ℚ := { endNode with neighbors := [1, 2] }

theorem detourStart_valid : detourStart.Valid := by decide +kernel

theorem detourEnd_valid : detourEnd.Valid := by decide +kernel

/-- Three nodes in a ring: the first is pinned, the second is disabled. -/
def detourFields : ManifestFields ℚ :=
  { pairFields (0, 0) with
    nodes := [⟨detourStart, detourStart_valid⟩, ⟨middleNode, middleNode_valid⟩,
      ⟨detourEnd, detourEnd_valid⟩] }

theorem detourFields_valid : detourFields.Valid := by decide +kernel

/-- The line with its detour, as a manifest. -/
def detour : ExperimentManifest ℚ := ⟨detourFields, detourFields_valid⟩

/-- The reference comes to the third node past the disabled one, and so no nodes are shut off. -/
theorem propagates_iff_detour :
    Propagates detour ⟨pairCoordination (0, 0), pairCoordination_valid (0, 0)⟩ ∧
      ¬∃ s, ShutOff detour ⟨pairCoordination (0, 0), pairCoordination_valid (0, 0)⟩ s := by
  have hkeep : keep detour true = {1, 3} := by decide +kernel
  have hpin : 1 ∈ pins (⟨pairCoordination (0, 0), pairCoordination_valid (0, 0)⟩ :
      CoordinationSpec ℚ) := by
    decide +kernel
  have hon : Enabled detour 1 := enabled_iff.2 (by decide +kernel)
  have hprop : Propagates detour ⟨pairCoordination (0, 0), pairCoordination_valid (0, 0)⟩ := by
    intro i hi
    rw [enabled_iff, hkeep, Finset.mem_insert, Finset.mem_singleton] at hi
    rcases hi with rfl | rfl
    · exact ⟨1, hpin, hon, .refl⟩
    · exact ⟨1, hpin, hon, .single (carries_iff.2 (by decide +kernel))⟩
  have hshut := (propagates_iff bfs_searches
    (show (check bfs detour none).ok = true by decide +kernel) rfl).1 hprop
  exact ⟨hprop, fun ⟨s, hs⟩ ↦ hshut s hs⟩

/-- Three nodes in a row: the first is pinned, the one in the middle is disabled. -/
def chainFields : ManifestFields ℚ :=
  { pairFields (0, 0) with
    nodes := [⟨startNode, startNode_valid⟩, ⟨middleNode, middleNode_valid⟩,
      ⟨endNode, endNode_valid⟩] }

theorem chainFields_valid : chainFields.Valid := by decide +kernel

/-- The line, as a manifest. -/
def chain : ExperimentManifest ℚ := ⟨chainFields, chainFields_valid⟩

/-- `check` accepts the chain, and the reference does not come to its end. -/
theorem chain_accepted_unreached :
    (check bfs chain none).ok = true ∧
      ¬Propagates chain ⟨pairCoordination (0, 0), pairCoordination_valid (0, 0)⟩ := by
  refine ⟨by decide +kernel, fun hprop ↦ ?_⟩
  have hend : Enabled chain 3 := enabled_iff.2 (by decide +kernel)
  have hedges : (build_graph chain true).edges = ∅ := by decide +kernel
  have hpins : 3 ∉ pins (⟨pairCoordination (0, 0), pairCoordination_valid (0, 0)⟩ :
      CoordinationSpec ℚ) := by
    decide +kernel
  obtain ⟨p, hp, -, hpath⟩ := hprop 3 hend
  obtain ⟨x, -, y, -, hxy⟩ := exists_entering (s := {3}) hpath
    (fun hmem ↦ hpins (Set.mem_singleton_iff.1 hmem ▸ hp)) rfl
  rw [carries_iff, hedges] at hxy
  exact Finset.notMem_empty _ hxy

end VertexTestbed.Manifest
