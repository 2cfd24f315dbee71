import VertexTestbed.Lib.Circulant
import VertexTestbed.Lib.Reachability

/-!
# Graph-structure generators

`ring`, `complete`, `star` and `clusters` of `topology/generators.py`. A generator returns a dict
from a node to the nodes it reads, here an association list in the order of insertion. `ring` and
`complete` are given distinct ids and write each key once, so their dicts are maps over the ids;
`clusters` goes through `setdefault` and `append` (`extend_at`).

A ring is a circulant graph on the seats of its ids (`seated_entry`). `clusters` puts generated
groups side by side and adds the bridges both ways (`reads_clusters`), so that its groups are the
connected parts of `Reachability.reaches_iff_parts`.
-/

namespace VertexTestbed.Manifest

open Relation

/-- What a generator returns: each node with the nodes it reads. -/
abbrev Topology := List (ℤ × List ℤ)

namespace Topology

/-- The keys of the dict. -/
def nodes (g : Topology) : List ℤ :=
  g.map Prod.fst

/-- The node `i` reads the node `j`. -/
def Reads (g : Topology) (i j : ℤ) : Prop :=
  ∃ ns, (i, ns) ∈ g ∧ j ∈ ns

/-- There is a path between any two nodes. -/
def StronglyConnected (g : Topology) : Prop :=
  ∀ i ∈ g.nodes, ∀ j ∈ g.nodes, ReflTransGen g.Reads i j

end Topology

/-- The `ValueError`s, by what they quote, and the `IndexError` of `order[0]`. -/
inductive GeneratorError where
  | duplicates
  | n
  | k
  | k_too_large (k : ℤ) (m : ℕ)
  | directed_ring
  | order_empty
  | hub (hub : ℤ) (order : List ℤ)
  | intra (intra : String)
  | bridge (bridge : ℤ × ℤ) (missing : List ℤ)

/-! ### The generators -/

/-- `_ids`. -/
def ids_of (n : ℤ) (ids : Option (List ℤ)) : Except GeneratorError (List ℤ) :=
  match ids with
  | some out => if out.Nodup then .ok out else .error .duplicates
  | none => if n < 1 then .error .n else .ok ((List.range n.toNat).map fun i : ℕ ↦ (i : ℤ) + 1)

/-- `order[x % m]`. -/
def entry (order : List ℤ) (x : ℤ) : ℤ :=
  order.getD (x % order.length).toNat 0

/-- `offs`. -/
def ring_offs (k : ℤ) : List ℤ :=
  ((List.range k.toNat).map fun i : ℕ ↦ -(k - i)) ++
    (List.range k.toNat).map fun i : ℕ ↦ (i : ℤ) + 1

/-- `ring`. -/
def ring (n : Option ℤ) (k : ℤ) (directed : Bool) (ids : Option (List ℤ)) :
    Except GeneratorError Topology := do
  let order ← ids_of (n.getD 0) ids
  let m := order.length
  if k < 1 then .error .k
  else if !directed ∧ (m : ℤ) ≤ 2 * k then .error (.k_too_large k m)
  else if directed ∧ m < 2 then .error .directed_ring
  else
    .ok (order.zipIdx.map fun x ↦
      (x.1, if directed then [entry order (x.2 - 1)]
        else (ring_offs k).map fun o ↦ entry order (x.2 + o)))

/-- `complete`. -/
def complete (n : Option ℤ) (ids : Option (List ℤ)) : Except GeneratorError Topology := do
  let order ← ids_of (n.getD 0) ids
  return order.map fun node ↦ (node, order.filter (· ≠ node))

/-- `star`. -/
def star (n hub : Option ℤ) (ids : Option (List ℤ)) : Except GeneratorError Topology := do
  let order ← ids_of (n.getD 0) ids
  match hub.or order.head? with
  | none => .error .order_empty
  | some h =>
    let leaves := order.filter (· ≠ h)
    if h ∉ order then .error (.hub h order)
    else .ok ((h, leaves) :: leaves.map fun leaf ↦ (leaf, [h]))

/-- `out.setdefault(k, []).extend(v)`. -/
def extend_at : Topology → ℤ → List ℤ → Topology
  | [], k, v => [(k, v)]
  | e :: out, k, v => if e.1 = k then (k, e.2 ++ v) :: out else e :: extend_at out k v

/-- The graph `clusters` makes of one group. -/
def intra_graph (intra : String) (grp : List ℤ) : Except GeneratorError Topology :=
  if intra = "complete" then complete none (some grp)
  else if intra = "ring" then
    if 2 < grp.length then ring none 1 false (some grp) else complete none (some grp)
  else .error (.intra intra)

/-- The loop of `clusters` over the groups. -/
def add_group (intra : String) (out : Topology) (grp : List ℤ) :
    Except GeneratorError Topology := do
  let sub ← intra_graph intra grp
  return sub.foldl (fun out e ↦ extend_at out e.1 e.2) out

/-- The loop of `clusters` over the bridges. -/
def add_bridge (known : List ℤ) (out : Topology) (bridge : ℤ × ℤ) :
    Except GeneratorError Topology :=
  let missing := ([bridge.1, bridge.2].dedup.filter (· ∉ known)).mergeSort (· ≤ ·)
  if missing ≠ [] then .error (.bridge bridge missing)
  else .ok (extend_at (extend_at out bridge.1 [bridge.2]) bridge.2 [bridge.1])

/-- `clusters`. -/
def clusters (groups : List (List ℤ)) (bridges : List (ℤ × ℤ)) (intra : String) :
    Except GeneratorError Topology := do
  let out ← groups.foldlM (add_group intra) []
  let out ← bridges.foldlM (add_bridge out.nodes) out
  return out.map fun e ↦ (e.1, e.2.dedup.mergeSort (· ≤ ·))

/-! ### What a graph has to be -/

/-- A graph over `ids`, in which no node lists a node twice, an unknown one or itself. -/
structure Topology.Simple (ids : List ℤ) (g : Topology) : Prop where
  nodes_eq : g.nodes = ids
  known : ∀ i j, g.Reads i j → j ∈ ids
  nodup : ∀ e ∈ g, e.2.Nodup
  loopless : ∀ i, ¬g.Reads i i

/-- And in which links go both ways. -/
structure Topology.Undirected (ids : List ℤ) (g : Topology) : Prop extends Simple ids g where
  symm : ∀ i j, g.Reads i j → g.Reads j i

/-- Only a declared node reads another. -/
theorem Topology.reads_mem {g : Topology} {i j : ℤ} (h : g.Reads i j) : i ∈ g.nodes := by
  obtain ⟨ns, hmem, -⟩ := h
  exact List.mem_map_of_mem hmem

/-! ### Rings -/

/-- An index within the list is not wrapped. -/
theorem entry_natCast {order : List ℤ} {i : ℕ} (hi : i < order.length) :
    entry order i = order[i] := by
  rw [entry, Int.emod_eq_of_lt (Int.natCast_nonneg i) (Int.ofNat_lt.mpr hi), Int.toNat_natCast,
    List.getD_eq_getElem _ _ hi]

/-- A seat is the seat of an index. -/
theorem entry_eq_getElem {order : List ℤ} (hpos : 0 < order.length) (x : ℤ) :
    ∃ h : (x % order.length).toNat < order.length,
      entry order x = order[(x % order.length).toNat] := by
  have hlt := Int.emod_lt_of_pos x (Int.natCast_pos.mpr hpos)
  have h : (x % order.length).toNat < order.length := by omega
  exact ⟨h, List.getD_eq_getElem _ _ h⟩

/-- **Distinct ids sit around a ring.** -/
theorem seated_entry {order : List ℤ} (hnodup : order.Nodup) (hpos : 0 < order.length) :
    Circulant.Seated (entry order) order.length := by
  intro x y
  obtain ⟨hx, hex⟩ := entry_eq_getElem hpos x
  obtain ⟨hy, hey⟩ := entry_eq_getElem hpos y
  have hne : (order.length : ℤ) ≠ 0 := by omega
  rw [hex, hey, hnodup.getElem_inj_iff, Int.ModEq]
  refine ⟨fun h ↦ ?_, fun h ↦ by rw [h]⟩
  rw [← Int.toNat_of_nonneg (Int.emod_nonneg x hne), h, Int.toNat_of_nonneg (Int.emod_nonneg y hne)]

/-- Each id with those at the offsets from its seat. -/
def circle (order : List ℤ) (offs : List ℤ) : Topology :=
  order.zipIdx.map fun x ↦ (x.1, Circulant.around (entry order) offs x.2)

/-- A circle has the nodes of its list, in order. -/
theorem nodes_circle (order offs : List ℤ) : (circle order offs).nodes = order := by
  rw [circle, Topology.nodes, List.map_map]
  exact List.zipIdx_map_fst 0 order

/-- An entry of a circle is a position with the nodes around it. -/
theorem mem_circle {order offs : List ℤ} {e : ℤ × List ℤ} :
    e ∈ circle order offs ↔
      ∃ x : ℕ, x < order.length ∧
        e = (entry order x, Circulant.around (entry order) offs x) := by
  rw [circle, List.mem_map]
  constructor
  · rintro ⟨⟨node, x⟩, hx, rfl⟩
    obtain ⟨hlt, rfl⟩ := List.getElem?_eq_some_iff.mp (List.mk_mem_zipIdx_iff_getElem?.mp hx)
    exact ⟨x, hlt, by rw [entry_natCast hlt]⟩
  · rintro ⟨x, hlt, rfl⟩
    refine ⟨(order[x], x), List.mk_mem_zipIdx_iff_getElem?.mpr (List.getElem?_eq_getElem hlt), ?_⟩
    rw [entry_natCast hlt]

/-- **A circle is a circulant graph.** -/
theorem reads_circle {order offs : List ℤ} (hnodup : order.Nodup) (hpos : 0 < order.length)
    (i j : ℤ) :
    (circle order offs).Reads i j ↔ Circulant.Edge (entry order) offs i j := by
  constructor
  · rintro ⟨ns, hmem, hj⟩
    obtain ⟨x, -, heq⟩ := mem_circle.mp hmem
    rw [Prod.mk.injEq] at heq
    exact ⟨x, heq.1, heq.2 ▸ hj⟩
  · intro hedge
    obtain ⟨x, rfl, -⟩ := id hedge
    obtain ⟨hx, hentry⟩ := entry_eq_getElem hpos x
    -- The key is written at the index of the seat.
    have hseat : entry order x = entry order ((x % order.length).toNat : ℕ) := by
      rw [hentry, entry_natCast hx]
    rw [hseat] at hedge ⊢
    exact ⟨_, mem_circle.mpr ⟨_, hx, rfl⟩,
      Circulant.mem_around_of_edge (seated_entry hnodup hpos) hedge⟩

/-- **What the offsets have to be**: distinct around the ring, and none of them a whole turn. -/
theorem simple_circle {order offs : List ℤ} (hnodup : order.Nodup) (hpos : 0 < order.length)
    (hoffs : offs.Pairwise fun a b ↦ ¬a ≡ b [ZMOD order.length])
    (hzero : ∀ o ∈ offs, ¬o ≡ 0 [ZMOD order.length]) : (circle order offs).Simple order where
  nodes_eq := nodes_circle order offs
  known i j h := by
    obtain ⟨x, -, hj⟩ := (reads_circle hnodup hpos i j).mp h
    obtain ⟨o, -, rfl⟩ := Circulant.mem_around.mp hj
    obtain ⟨hx, hentry⟩ := entry_eq_getElem hpos (x + o)
    rw [hentry]
    exact List.getElem_mem hx
  nodup e he := by
    obtain ⟨x, -, rfl⟩ := mem_circle.mp he
    exact Circulant.nodup_around (seated_entry hnodup hpos) hoffs x
  loopless i h := by
    have hedge := (reads_circle hnodup hpos i i).mp h
    obtain ⟨x, rfl, hx⟩ := hedge
    exact Circulant.not_mem_around (seated_entry hnodup hpos) hzero x hx

/-- A step to one side connects it. -/
theorem connected_circle {order offs : List ℤ} (hnodup : order.Nodup) (hpos : 0 < order.length)
    {o : ℤ} (ho : o ∈ offs) (hunit : o * o = 1) : (circle order offs).StronglyConnected := by
  intro i hi j hj
  rw [nodes_circle] at hi hj
  obtain ⟨x, hx, rfl⟩ := List.getElem_of_mem hi
  obtain ⟨y, hy, rfl⟩ := List.getElem_of_mem hj
  have hpath := Circulant.reaches (seated_entry hnodup hpos) (Int.natCast_pos.mpr hpos) ho hunit x y
  rw [entry_natCast hx, entry_natCast hy] at hpath
  exact ReflTransGen.mono (fun a b ↦ (reads_circle hnodup hpos a b).mpr) _ _ hpath

/-! ### The offsets of a ring -/

/-- The offsets of a ring reach `k` places to either side, and not to the node itself. -/
theorem mem_ring_offs {k o : ℤ} : o ∈ ring_offs k ↔ o ≠ 0 ∧ -k ≤ o ∧ o ≤ k := by
  simp only [ring_offs, List.mem_append, List.mem_map, List.mem_range]
  constructor
  · rintro (⟨i, hi, rfl⟩ | ⟨i, hi, rfl⟩)
    · omega
    · omega
  · rintro ⟨hne, hlow, hhigh⟩
    obtain hneg | hpos := lt_or_gt_of_ne hne
    · exact .inl ⟨(k + o).toNat, by omega, by omega⟩
    · exact .inr ⟨(o - 1).toNat, by omega, by omega⟩

/-- There are `2k` of them. -/
theorem length_ring_offs (k : ℤ) : (ring_offs k).length = 2 * k.toNat := by
  simp only [ring_offs, List.length_append, List.length_map, List.length_range]
  omega

/-- Each of them is there once. -/
theorem nodup_ring_offs (k : ℤ) : (ring_offs k).Nodup := by
  refine List.nodup_append.mpr ⟨?_, ?_, ?_⟩
  · refine List.nodup_range.map fun a b h ↦ ?_
    have h' : -(k - (a : ℤ)) = -(k - b) := h
    omega
  · refine List.nodup_range.map fun a b h ↦ ?_
    have h' : (a : ℤ) + 1 = b + 1 := h
    omega
  · intro a ha b hb
    obtain ⟨i, hi, rfl⟩ := List.mem_map.mp ha
    obtain ⟨j, hj, rfl⟩ := List.mem_map.mp hb
    rw [List.mem_range] at hi
    omega

/-- Numbers closer than a turn are congruent only if they are equal. -/
theorem eq_of_modEq {a b m : ℤ} (h : a ≡ b [ZMOD m]) (hclose : |b - a| < m) : a = b := by
  have hzero := Int.eq_zero_of_abs_lt_dvd (Int.modEq_iff_dvd.mp h) hclose
  omega

/-- **The offsets of a ring are distinct around it**, as long as its two sides do not meet. -/
theorem pairwise_ring_offs {k : ℤ} {m : ℕ} (hk : 2 * k < m) :
    (ring_offs k).Pairwise fun a b ↦ ¬a ≡ b [ZMOD m] := by
  refine (nodup_ring_offs k).imp_of_mem fun {a b} ha hb hne h ↦ hne (eq_of_modEq h ?_)
  obtain ⟨-, ha1, ha2⟩ := mem_ring_offs.mp ha
  obtain ⟨-, hb1, hb2⟩ := mem_ring_offs.mp hb
  exact abs_lt.mpr ⟨by omega, by omega⟩

/-- With more than `2k` nodes none of them goes all the way round. -/
theorem ring_offs_ne_zero {k : ℤ} {m : ℕ} (hk : 2 * k < m) :
    ∀ o ∈ ring_offs k, ¬o ≡ 0 [ZMOD m] := by
  intro o ho h
  obtain ⟨hne, hlow, hhigh⟩ := mem_ring_offs.mp ho
  exact hne (eq_of_modEq h (abs_lt.mpr ⟨by omega, by omega⟩))

/-! ### The two rings -/

/-- Distinct ids are taken as they are. -/
theorem ids_of_some {ids : List ℤ} (h : ids.Nodup) (n : ℤ) : ids_of n (some ids) = .ok ids :=
  if_pos h

/-- The undirected ring is a circle over the offsets to both sides. -/
theorem ring_undirected {ids : List ℤ} (hnodup : ids.Nodup) {k : ℤ} (hk : 1 ≤ k)
    (hroom : 2 * k < ids.length) :
    ring none k false (some ids) = .ok (circle ids (ring_offs k)) := by
  rw [ring, ids_of_some hnodup]
  show (if k < 1 then _ else if (!false) = true ∧ (ids.length : ℤ) ≤ 2 * k then _ else _) = _
  rw [if_neg (not_lt.mpr hk), if_neg fun h ↦ absurd h.2 (not_le.mpr hroom)]
  rfl

/-- The directed ring is a circle over the predecessor. -/
theorem ring_directed {ids : List ℤ} (hnodup : ids.Nodup) {k : ℤ} (hk : 1 ≤ k)
    (htwo : 2 ≤ ids.length) : ring none k true (some ids) = .ok (circle ids [-1]) := by
  rw [ring, ids_of_some hnodup]
  show (if k < 1 then _ else if (!true) = true ∧ (ids.length : ℤ) ≤ 2 * k then _
    else if true = true ∧ ids.length < 2 then _ else _) = _
  rw [if_neg (not_lt.mpr hk), if_neg fun h ↦ absurd h.1 (by decide),
    if_neg fun h ↦ absurd h.2 (not_lt.mpr htwo)]
  rfl

/-- A ring of no neighbours is refused. -/
theorem ring_refused {ids : List ℤ} (hnodup : ids.Nodup) {k : ℤ} (hk : k < 1) (directed : Bool) :
    ring none k directed (some ids) = .error .k := by
  rw [ring, ids_of_some hnodup]
  exact if_pos hk

/-- **The undirected ring**: `2k` neighbours each, links both ways, and all connected. -/
theorem undirected_ring {ids : List ℤ} (hnodup : ids.Nodup) {k : ℤ} (hk : 1 ≤ k)
    (hroom : 2 * k < ids.length) :
    (circle ids (ring_offs k)).Undirected ids ∧
      (∀ e ∈ circle ids (ring_offs k), e.2.length = 2 * k) ∧
      (circle ids (ring_offs k)).StronglyConnected := by
  have hpos : 0 < ids.length := by omega
  refine ⟨⟨simple_circle hnodup hpos (pairwise_ring_offs hroom) (ring_offs_ne_zero hroom), ?_⟩,
    fun e he ↦ ?_, connected_circle hnodup hpos (o := 1) ?_ (by decide)⟩
  · intro i j h
    rw [reads_circle hnodup hpos] at h ⊢
    refine h.symm fun o ho ↦ ?_
    obtain ⟨hne, hlow, hhigh⟩ := mem_ring_offs.mp ho
    exact mem_ring_offs.mpr ⟨by omega, by omega, by omega⟩
  · obtain ⟨x, -, rfl⟩ := mem_circle.mp he
    rw [Circulant.around, List.length_map, length_ring_offs, Nat.cast_mul,
      Int.toNat_of_nonneg (by omega)]
    rfl
  · exact mem_ring_offs.mpr ⟨by decide, by omega, hk⟩

/-- A graph over `ids` that is a single cycle: each node reads one other, is read by one, and all
are connected. -/
structure Topology.SingleCycle (ids : List ℤ) (g : Topology) : Prop extends Simple ids g where
  reads_one : ∀ e ∈ g, e.2.length = 1
  read_by_one : ∀ j ∈ ids, ∃! i, g.Reads i j
  connected : g.StronglyConnected

/-- **The directed ring is a single cycle.** -/
theorem singleCycle_ring {ids : List ℤ} (hnodup : ids.Nodup) (htwo : 2 ≤ ids.length) :
    (circle ids [-1]).SingleCycle ids := by
  have hpos : 0 < ids.length := by omega
  have hseated := seated_entry hnodup hpos
  have hzero : ∀ o ∈ [(-1 : ℤ)], ¬o ≡ 0 [ZMOD ids.length] := by
    intro o ho h
    obtain rfl := List.mem_singleton.mp ho
    have hminus := eq_of_modEq h (abs_lt.mpr ⟨by omega, by omega⟩)
    cases hminus
  refine ⟨simple_circle hnodup hpos (List.pairwise_singleton _ _) hzero, ?_, ?_,
    connected_circle hnodup hpos (List.mem_singleton_self _) (by decide)⟩
  · intro e he
    obtain ⟨x, -, rfl⟩ := mem_circle.mp he
    rfl
  · intro j hj
    obtain ⟨y, hy, rfl⟩ := List.getElem_of_mem hj
    -- What reads a node sits behind it.
    refine ⟨entry ids (y + 1), ?_, fun i hi ↦ ?_⟩
    · refine (reads_circle hnodup hpos _ _).mpr ⟨y + 1, rfl, Circulant.mem_around.mpr
        ⟨-1, List.mem_singleton_self _, ?_⟩⟩
      rw [← entry_natCast hy]
      exact congrArg _ (by ring)
    · obtain ⟨x, rfl, hx⟩ := (reads_circle hnodup hpos _ _).mp hi
      obtain ⟨o, ho, heq⟩ := Circulant.mem_around.mp hx
      obtain rfl := List.mem_singleton.mp ho
      rw [← entry_natCast hy] at heq
      have hmod := ((hseated _ _).mp heq).add_right 1
      rw [neg_add_cancel_right] at hmod
      exact (hseated _ _).mpr hmod

/-! ### Complete graphs and stars -/

/-- Everyone reads everyone else. -/
def all_pairs (order : List ℤ) : Topology :=
  order.map fun node ↦ (node, order.filter (· ≠ node))

/-- The complete graph is all pairs. -/
theorem complete_eq {ids : List ℤ} (hnodup : ids.Nodup) :
    complete none (some ids) = .ok (all_pairs ids) := by
  rw [complete, ids_of_some hnodup]
  rfl

/-- In it every node reads every other one. -/
theorem reads_all_pairs {order : List ℤ} {i j : ℤ} :
    (all_pairs order).Reads i j ↔ i ∈ order ∧ j ∈ order ∧ j ≠ i := by
  constructor
  · rintro ⟨ns, hmem, hj⟩
    obtain ⟨node, hnode, heq⟩ := List.mem_map.mp hmem
    rw [Prod.mk.injEq] at heq
    obtain ⟨rfl, rfl⟩ := heq
    rw [List.mem_filter, decide_eq_true_eq] at hj
    exact ⟨hnode, hj⟩
  · rintro ⟨hi, hj, hne⟩
    exact ⟨_, List.mem_map_of_mem hi, List.mem_filter.mpr ⟨hj, decide_eq_true hne⟩⟩

/-- Its links go both ways. -/
theorem undirected_all_pairs {ids : List ℤ} (hnodup : ids.Nodup) :
    (all_pairs ids).Undirected ids where
  nodes_eq := by
    rw [all_pairs, Topology.nodes, List.map_map]
    exact List.map_id ids
  known i j h := (reads_all_pairs.mp h).2.1
  nodup e he := by
    obtain ⟨node, -, rfl⟩ := List.mem_map.mp he
    exact hnodup.filter _
  loopless i h := (reads_all_pairs.mp h).2.2 rfl
  symm i j h := by
    obtain ⟨hi, hj, hne⟩ := reads_all_pairs.mp h
    exact reads_all_pairs.mpr ⟨hj, hi, hne.symm⟩

/-- It is connected by single links. -/
theorem connected_all_pairs {ids : List ℤ} (hnodup : ids.Nodup) :
    (all_pairs ids).StronglyConnected := by
  intro i hi j hj
  rw [(undirected_all_pairs hnodup).nodes_eq] at hi hj
  obtain rfl | hne := eq_or_ne j i
  · exact .refl
  · exact .single (reads_all_pairs.mpr ⟨hi, hj, hne⟩)

/-- A hub that reads everyone else and is read by them. -/
def spokes (order : List ℤ) (h : ℤ) : Topology :=
  (h, order.filter (· ≠ h)) :: (order.filter (· ≠ h)).map fun leaf ↦ (leaf, [h])

/-- The star is the spokes of its hub. -/
theorem star_eq {ids : List ℤ} (hnodup : ids.Nodup) {h : ℤ} (hh : h ∈ ids) :
    star none (some h) (some ids) = .ok (spokes ids h) := by
  rw [star, ids_of_some hnodup]
  exact if_neg (not_not.mpr hh)

/-- A link of the star has the hub at one end and a leaf at the other. -/
theorem reads_spokes {order : List ℤ} {h i j : ℤ} :
    (spokes order h).Reads i j ↔
      i = h ∧ j ∈ order.filter (· ≠ h) ∨ i ∈ order.filter (· ≠ h) ∧ j = h := by
  constructor
  · rintro ⟨ns, hmem, hj⟩
    obtain heq | hmem := List.mem_cons.mp hmem
    · rw [Prod.mk.injEq] at heq
      exact .inl ⟨heq.1, heq.2 ▸ hj⟩
    · obtain ⟨leaf, hleaf, heq⟩ := List.mem_map.mp hmem
      rw [Prod.mk.injEq] at heq
      obtain ⟨rfl, rfl⟩ := heq
      exact .inr ⟨hleaf, List.mem_singleton.mp hj⟩
  · rintro (⟨rfl, hj⟩ | ⟨hi, rfl⟩)
    · exact ⟨_, List.mem_cons_self, hj⟩
    · exact ⟨_, List.mem_cons_of_mem _ (List.mem_map_of_mem hi), List.mem_singleton_self _⟩

/-- **The star**: links both ways, all through the hub. -/
theorem undirected_spokes {ids : List ℤ} (hnodup : ids.Nodup) (h : ℤ) :
    (spokes ids h).Undirected (h :: ids.filter (· ≠ h)) ∧ (spokes ids h).StronglyConnected := by
  have hleaf : h ∉ ids.filter (· ≠ h) := by simp
  have hnodes : (spokes ids h).nodes = h :: ids.filter (· ≠ h) := by
    rw [spokes, Topology.nodes, List.map_cons, List.map_map]
    exact congrArg _ (List.map_id _)
  refine ⟨⟨⟨hnodes, fun i j hij ↦ ?_, fun e he ↦ ?_, fun i hii ↦ ?_⟩, fun i j hij ↦ ?_⟩,
    fun i hi j hj ↦ ?_⟩
  · obtain ⟨-, hj⟩ | ⟨-, rfl⟩ := reads_spokes.mp hij
    · exact List.mem_cons_of_mem _ hj
    · exact List.mem_cons_self
  · obtain rfl | he := List.mem_cons.mp he
    · exact hnodup.filter _
    · obtain ⟨leaf, -, rfl⟩ := List.mem_map.mp he
      exact List.nodup_singleton h
  · obtain ⟨rfl, hi⟩ | ⟨hi, rfl⟩ := reads_spokes.mp hii
    · exact hleaf hi
    · exact hleaf hi
  · obtain ⟨hi, hj⟩ | ⟨hi, hj⟩ := reads_spokes.mp hij
    · exact reads_spokes.mpr (.inr ⟨hj, hi⟩)
    · exact reads_spokes.mpr (.inl ⟨hj, hi⟩)
  · have htoHub : ReflTransGen (spokes ids h).Reads i h := by
      rw [hnodes] at hi
      obtain rfl | hi := List.mem_cons.mp hi
      · exact .refl
      · exact .single (reads_spokes.mpr (.inr ⟨hi, rfl⟩))
    rw [hnodes] at hj
    obtain rfl | hj := List.mem_cons.mp hj
    · exact htoHub
    · exact htoHub.tail (reads_spokes.mpr (.inl ⟨rfl, hj⟩))

/-! ### One entry more -/

/-- No node reads another in the empty graph. -/
theorem reads_nil {i j : ℤ} : ¬Topology.Reads [] i j :=
  fun ⟨_, hmem, _⟩ ↦ absurd hmem List.not_mem_nil

/-- A link is in the first entry or in a later one. -/
theorem reads_cons {e : ℤ × List ℤ} {g : Topology} {i j : ℤ} :
    Topology.Reads (e :: g) i j ↔ i = e.1 ∧ j ∈ e.2 ∨ g.Reads i j := by
  constructor
  · rintro ⟨ns, hmem, hj⟩
    obtain rfl | hmem := List.mem_cons.mp hmem
    · exact .inl ⟨rfl, hj⟩
    · exact .inr ⟨ns, hmem, hj⟩
  · rintro (⟨rfl, hj⟩ | ⟨ns, hmem, hj⟩)
    · exact ⟨e.2, List.mem_cons_self, hj⟩
    · exact ⟨ns, List.mem_cons_of_mem _ hmem, hj⟩

/-- **What `extend` adds.** -/
theorem reads_extend_at {g : Topology} {k : ℤ} {v : List ℤ} {i j : ℤ} :
    (extend_at g k v).Reads i j ↔ g.Reads i j ∨ i = k ∧ j ∈ v := by
  induction g with
  | nil =>
    rw [extend_at, reads_cons]
    exact or_comm
  | cons e g ih =>
    rw [extend_at]
    split_ifs with hkey
    · rw [reads_cons, reads_cons, hkey, List.mem_append]
      tauto
    · rw [reads_cons, reads_cons, ih, or_assoc]

/-- Extending an entry adds its node, if the graph did not have it. -/
theorem nodes_extend_at (g : Topology) (k : ℤ) (v : List ℤ) :
    (extend_at g k v).nodes = if k ∈ g.nodes then g.nodes else g.nodes ++ [k] := by
  induction g with
  | nil => rfl
  | cons e g ih =>
    have hnodes : Topology.nodes (e :: g) = e.1 :: Topology.nodes g := rfl
    rw [extend_at, hnodes]
    by_cases hkey : e.1 = k
    · rw [if_pos hkey, hkey, if_pos List.mem_cons_self]
      rfl
    · have hmem : k ∈ e.1 :: Topology.nodes g ↔ k ∈ Topology.nodes g :=
        List.mem_cons.trans (or_iff_right fun h ↦ hkey h.symm)
      rw [if_neg hkey]
      show e.1 :: (extend_at g k v).nodes = _
      rw [ih, apply_ite (e.1 :: ·)]
      exact if_congr hmem.symm rfl rfl

/-! ### The groups -/

/-- The graph of a group, in either pattern. -/
theorem intra_graph_spec {intra : String} (hintra : intra = "complete" ∨ intra = "ring")
    {grp : List ℤ} (hnodup : grp.Nodup) :
    ∃ sub, intra_graph intra grp = .ok sub ∧ sub.Undirected grp ∧ sub.StronglyConnected := by
  have hcomplete : ∃ sub, complete none (some grp) = .ok sub ∧ sub.Undirected grp ∧
      sub.StronglyConnected :=
    ⟨_, complete_eq hnodup, undirected_all_pairs hnodup, connected_all_pairs hnodup⟩
  obtain rfl | rfl := hintra
  · rwa [intra_graph, if_pos rfl]
  · rw [intra_graph, if_neg (by decide), if_pos rfl]
    by_cases hlong : 2 < grp.length
    · have hroom : 2 * (1 : ℤ) < grp.length := by omega
      obtain ⟨hundirected, -, hconnected⟩ := undirected_ring hnodup le_rfl hroom
      rw [if_pos hlong]
      exact ⟨_, ring_undirected hnodup le_rfl hroom, hundirected, hconnected⟩
    · rwa [if_neg hlong]

/-- The links of a group. -/
def Inside (intra : String) (grp : List ℤ) (i j : ℤ) : Prop :=
  ∃ sub, intra_graph intra grp = .ok sub ∧ sub.Reads i j

/-- The links of a group are those of its graph. -/
theorem inside_iff {intra : String} {grp : List ℤ} {sub : Topology}
    (h : intra_graph intra grp = .ok sub) {i j : ℤ} : Inside intra grp i j ↔ sub.Reads i j := by
  refine ⟨fun ⟨sub', h', hreads⟩ ↦ ?_, fun hreads ↦ ⟨sub, h, hreads⟩⟩
  rwa [Except.ok.inj (h.symm.trans h')]

/-- Adding a graph entry by entry adds its links. -/
theorem reads_foldl_extend (sub out : Topology) (i j : ℤ) :
    Topology.Reads (sub.foldl (fun out e ↦ extend_at out e.1 e.2) out) i j ↔
      out.Reads i j ∨ sub.Reads i j := by
  induction sub generalizing out with
  | nil => exact (or_iff_left reads_nil).symm
  | cons e sub ih => rw [List.foldl_cons, ih, reads_extend_at, reads_cons, or_assoc]

/-- And its nodes, behind those that were there. -/
theorem nodes_foldl_extend {sub out : Topology} (h : (out.nodes ++ sub.nodes).Nodup) :
    Topology.nodes (sub.foldl (fun out e ↦ extend_at out e.1 e.2) out) =
      out.nodes ++ sub.nodes := by
  induction sub generalizing out with
  | nil => exact (List.append_nil _).symm
  | cons e sub ih =>
    have hnodes : Topology.nodes (e :: sub) = e.1 :: Topology.nodes sub := rfl
    rw [hnodes] at h ⊢
    have hnew : e.1 ∉ out.nodes := fun hmem ↦
      List.disjoint_of_nodup_append h hmem List.mem_cons_self
    have hkeys : (extend_at out e.1 e.2).nodes = out.nodes ++ [e.1] := by
      rw [nodes_extend_at, if_neg hnew]
    rw [List.foldl_cons, ih, hkeys, List.append_assoc, List.singleton_append]
    rw [hkeys, List.append_assoc, List.singleton_append]
    exact h

/-- **The groups side by side.** -/
theorem foldlM_add_group {intra : String} (hintra : intra = "complete" ∨ intra = "ring")
    {groups : List (List ℤ)} {out : Topology} (h : (out.nodes ++ groups.flatten).Nodup) :
    ∃ g, groups.foldlM (add_group intra) out = .ok g ∧ g.nodes = out.nodes ++ groups.flatten ∧
      ∀ i j, g.Reads i j ↔ out.Reads i j ∨ ∃ grp ∈ groups, Inside intra grp i j := by
  induction groups generalizing out with
  | nil => exact ⟨out, rfl, (List.append_nil _).symm, fun i j ↦ by simp⟩
  | cons grp groups ih =>
    rw [List.flatten_cons, ← List.append_assoc] at h
    have hgrp : (out.nodes ++ grp).Nodup := (List.nodup_append.mp h).1
    obtain ⟨sub, hsub, hundirected, -⟩ := intra_graph_spec hintra (List.nodup_append.mp hgrp).2.1
    rw [← hundirected.nodes_eq] at hgrp
    have hnodes := nodes_foldl_extend hgrp
    rw [hundirected.nodes_eq] at hnodes
    rw [← hnodes] at h
    obtain ⟨g, hg, hkeys, hreads⟩ := ih h
    refine ⟨g, ?_, ?_, fun i j ↦ ?_⟩
    · rw [List.foldlM_cons, add_group, hsub]
      exact hg
    · rw [hkeys, hnodes, List.flatten_cons, List.append_assoc]
    · rw [hreads, reads_foldl_extend, List.exists_mem_cons_iff, inside_iff hsub, or_assoc]

/-! ### The bridges -/

/-- A bridge between known nodes is a link each way. -/
theorem add_bridge_of_known {known : List ℤ} {bridge : ℤ × ℤ} (h1 : bridge.1 ∈ known)
    (h2 : bridge.2 ∈ known) (out : Topology) :
    add_bridge known out bridge =
      .ok (extend_at (extend_at out bridge.1 [bridge.2]) bridge.2 [bridge.1]) := by
  have hmissing : [bridge.1, bridge.2].dedup.filter (· ∉ known) = [] := by
    refine List.filter_eq_nil_iff.mpr fun x hx ↦ ?_
    rw [List.mem_dedup] at hx
    simp only [List.mem_cons, List.not_mem_nil, or_false] at hx
    obtain rfl | rfl := hx
    · simp [h1]
    · simp [h2]
  rw [add_bridge, hmissing, List.mergeSort_nil]
  rfl

/-- **The bridges, both ways.** -/
theorem foldlM_add_bridge {known : List ℤ} {bridges : List (ℤ × ℤ)} {out : Topology}
    (hout : out.nodes = known) (h : ∀ e ∈ bridges, e.1 ∈ known ∧ e.2 ∈ known) :
    ∃ g, bridges.foldlM (add_bridge known) out = .ok g ∧ g.nodes = known ∧
      ∀ i j, g.Reads i j ↔ out.Reads i j ∨ (i, j) ∈ bridges ∨ (j, i) ∈ bridges := by
  induction bridges generalizing out with
  | nil => exact ⟨out, rfl, hout, fun i j ↦ by simp⟩
  | cons e bridges ih =>
    obtain ⟨h1, h2⟩ := h e List.mem_cons_self
    set out' := extend_at (extend_at out e.1 [e.2]) e.2 [e.1] with hout'
    have hkeys : out'.nodes = known := by
      rw [hout', nodes_extend_at, nodes_extend_at, hout, if_pos h1, if_pos h2]
    obtain ⟨g, hg, hnodes, hreads⟩ := ih hkeys fun e' he' ↦ h e' (List.mem_cons_of_mem _ he')
    refine ⟨g, ?_, hnodes, fun i j ↦ ?_⟩
    · rw [List.foldlM_cons, add_bridge_of_known h1 h2]
      exact hg
    · have hcons : ∀ a b : ℤ, (a, b) ∈ e :: bridges ↔ (a = e.1 ∧ b = e.2) ∨ (a, b) ∈ bridges :=
        fun a b ↦ List.mem_cons.trans (or_congr_left Prod.ext_iff)
      rw [hreads, hout', reads_extend_at, reads_extend_at, List.mem_singleton, List.mem_singleton,
        hcons, hcons]
      tauto

/-! ### Clusters -/

/-- A bridge between two groups, in either direction. -/
def Linked (groups : List (List ℤ)) (bridges : List (ℤ × ℤ)) (p q : List ℤ) : Prop :=
  p ∈ groups ∧ q ∈ groups ∧ ∃ e ∈ bridges, e.1 ∈ p ∧ e.2 ∈ q ∨ e.2 ∈ p ∧ e.1 ∈ q

/-- The bridges connect the groups. -/
def BridgesConnect (groups : List (List ℤ)) (bridges : List (ℤ × ℤ)) : Prop :=
  ∀ p ∈ groups, ∀ q ∈ groups, ReflTransGen (Linked groups bridges) p q

/-- What is asked of the arguments of `clusters`: disjoint nonempty groups of distinct ids, bridges
between distinct nodes of the groups, and a pattern that there is. -/
structure ClusterArgs (groups : List (List ℤ)) (bridges : List (ℤ × ℤ)) (intra : String) :
    Prop where
  distinct : ∀ grp ∈ groups, grp.Nodup
  nonempty : ∀ grp ∈ groups, grp ≠ []
  disjoint : groups.Pairwise List.Disjoint
  bridged : ∀ e ∈ bridges, e.1 ≠ e.2 ∧ e.1 ∈ groups.flatten ∧ e.2 ∈ groups.flatten
  pattern : intra = "complete" ∨ intra = "ring"

section Clusters

variable {groups : List (List ℤ)} {bridges : List (ℤ × ℤ)} {intra : String}

/-- The groups have no node in common. -/
theorem ClusterArgs.nodup (h : ClusterArgs groups bridges intra) : groups.flatten.Nodup :=
  List.nodup_flatten.mpr ⟨h.distinct, h.disjoint⟩

/-- A node is in one group. -/
theorem ClusterArgs.group_unique (h : ClusterArgs groups bridges intra) {a : ℤ} {p q : List ℤ}
    (hp : p ∈ groups) (ha : a ∈ p) (hq : q ∈ groups) (ha' : a ∈ q) : p = q := by
  by_contra hne
  have hsymm : Std.Symm (List.Disjoint (α := ℤ)) := ⟨fun _ _ hxy ↦ hxy.symm⟩
  exact h.disjoint.forall hp hq hne ha ha'

/-- **What `clusters` returns**: the links of the groups and the bridges, both ways. -/
theorem reads_clusters (h : ClusterArgs groups bridges intra) :
    ∃ g, clusters groups bridges intra = .ok g ∧ g.nodes = groups.flatten ∧
      (∀ e ∈ g, e.2.Nodup) ∧
      ∀ i j, g.Reads i j ↔
        (∃ grp ∈ groups, Inside intra grp i j) ∨ (i, j) ∈ bridges ∨ (j, i) ∈ bridges := by
  have hfresh : (Topology.nodes [] ++ groups.flatten).Nodup := h.nodup
  obtain ⟨out, hout, hkeys, hreads⟩ := foldlM_add_group h.pattern hfresh
  have hkeys' : out.nodes = groups.flatten := hkeys
  obtain ⟨out', hout', hkeys'', hreads'⟩ := foldlM_add_bridge rfl fun e he ↦
    (hkeys'.symm ▸ (h.bridged e he).2 : e.1 ∈ out.nodes ∧ e.2 ∈ out.nodes)
  refine ⟨out'.map fun e ↦ (e.1, e.2.dedup.mergeSort (· ≤ ·)), ?_, ?_, fun e he ↦ ?_, fun i j ↦ ?_⟩
  · rw [clusters, hout]
    show (bridges.foldlM (add_bridge out.nodes) out >>= _) = _
    rw [hout']
    rfl
  · rw [Topology.nodes, List.map_map, ← hkeys', ← hkeys'']
    rfl
  · obtain ⟨e', -, rfl⟩ := List.mem_map.mp he
    exact (List.mergeSort_perm _ _).nodup_iff.mpr (List.nodup_dedup _)
  · have hsorted : Topology.Reads (out'.map fun e ↦ (e.1, e.2.dedup.mergeSort (· ≤ ·))) i j ↔
        out'.Reads i j := by
      constructor
      · rintro ⟨ns, hmem, hj⟩
        obtain ⟨e, he, heq⟩ := List.mem_map.mp hmem
        rw [Prod.mk.injEq] at heq
        obtain ⟨rfl, rfl⟩ := heq
        rw [List.mem_mergeSort, List.mem_dedup] at hj
        exact ⟨e.2, he, hj⟩
      · rintro ⟨ns, hmem, hj⟩
        refine ⟨ns.dedup.mergeSort (· ≤ ·), List.mem_map.mpr ⟨(i, ns), hmem, rfl⟩, ?_⟩
        rwa [List.mem_mergeSort, List.mem_dedup]
    rw [hsorted, hreads', hreads, or_iff_right reads_nil]

/-- A link of a group is within it, goes both ways and is no loop. -/
theorem ClusterArgs.inside (h : ClusterArgs groups bridges intra) {grp : List ℤ}
    (hgrp : grp ∈ groups) {i j : ℤ} (hij : Inside intra grp i j) :
    i ∈ grp ∧ j ∈ grp ∧ i ≠ j ∧ Inside intra grp j i := by
  obtain ⟨sub, hsub, hundirected, -⟩ := intra_graph_spec h.pattern (h.distinct grp hgrp)
  have hreads := (inside_iff hsub).mp hij
  have hi := Topology.reads_mem hreads
  rw [hundirected.nodes_eq] at hi
  refine ⟨hi, hundirected.known i j hreads, fun heq ↦ ?_,
    (inside_iff hsub).mpr (hundirected.symm i j hreads)⟩
  rw [heq] at hreads
  exact hundirected.loopless j hreads

/-- The nodes of a group are connected by its links. -/
theorem ClusterArgs.connected (h : ClusterArgs groups bridges intra) {grp : List ℤ}
    (hgrp : grp ∈ groups) {a b : ℤ} (ha : a ∈ grp) (hb : b ∈ grp) :
    ReflTransGen (Inside intra grp) a b := by
  obtain ⟨sub, hsub, hundirected, hconnected⟩ :=
    intra_graph_spec h.pattern (h.distinct grp hgrp)
  rw [← hundirected.nodes_eq] at ha hb
  exact ReflTransGen.mono (fun _ _ ↦ (inside_iff hsub).mpr) _ _ (hconnected a ha b hb)

/-- **`clusters`**: links both ways, no loops or duplicates, and connected exactly when the bridges
connect the groups. -/
theorem clusters_spec (h : ClusterArgs groups bridges intra) :
    ∃ g, clusters groups bridges intra = .ok g ∧ g.Undirected groups.flatten ∧
      (g.StronglyConnected ↔ BridgesConnect groups bridges) := by
  obtain ⟨g, hg, hnodes, hnodup, hreads⟩ := reads_clusters h
  refine ⟨g, hg, ⟨⟨hnodes, fun i j hij ↦ ?_, hnodup, fun i hii ↦ ?_⟩, fun i j hij ↦ ?_⟩, ?_⟩
  · obtain ⟨grp, hgrp, hin⟩ | hmem | hmem := (hreads i j).mp hij
    · exact List.mem_flatten.mpr ⟨grp, hgrp, (h.inside hgrp hin).2.1⟩
    · exact (h.bridged _ hmem).2.2
    · exact (h.bridged _ hmem).2.1
  · obtain ⟨grp, hgrp, hin⟩ | hmem | hmem := (hreads i i).mp hii
    · exact (h.inside hgrp hin).2.2.1 rfl
    · exact (h.bridged _ hmem).1 rfl
    · exact (h.bridged _ hmem).1 rfl
  · rw [hreads]
    obtain ⟨grp, hgrp, hin⟩ | hmem | hmem := (hreads i j).mp hij
    · exact .inl ⟨grp, hgrp, (h.inside hgrp hin).2.2.2⟩
    · exact .inr (.inr hmem)
    · exact .inr (.inl hmem)
  · -- The groups are the connected parts, and the bridges link them.
    have hparts : ∀ p ∈ groups, ∀ q ∈ groups, ∀ a ∈ p, ∀ b ∈ q,
        (ReflTransGen g.Reads a b ↔ ReflTransGen (Linked groups bridges) p q) := by
      intro p hp q hq a ha b hb
      refine Reachability.reaches_iff_parts (fun a p ↦ p ∈ groups ∧ a ∈ p) ?_ ?_ ?_ ?_
        ⟨hp, ha⟩ ⟨hq, hb⟩
      · rintro r c d ⟨hr, hc⟩ ⟨-, hd⟩
        refine ReflTransGen.mono (fun x y hxy ↦ ?_) _ _ (h.connected hr hc hd)
        exact (hreads x y).mpr (.inl ⟨r, hr, hxy⟩)
      · exact fun c r r' hr hr' ↦ h.group_unique hr.1 hr.2 hr'.1 hr'.2
      · rintro c d r hcd ⟨hr, hc⟩
        have hbridge : ∀ x, d ∈ x → x ∈ groups →
            (c, d) ∈ bridges ∨ (d, c) ∈ bridges → Linked groups bridges r x := by
          rintro x hx hxg (hmem | hmem)
          · exact ⟨hr, hxg, _, hmem, .inl ⟨hc, hx⟩⟩
          · exact ⟨hr, hxg, _, hmem, .inr ⟨hc, hx⟩⟩
        obtain ⟨grp, hgrp, hin⟩ | hmem := (hreads c d).mp hcd
        · obtain ⟨hc', hd', -⟩ := h.inside hgrp hin
          exact ⟨grp, ⟨hgrp, hd'⟩, .inl (h.group_unique hr hc hgrp hc')⟩
        · have hd : d ∈ groups.flatten := by
            obtain hmem | hmem := hmem
            · exact (h.bridged _ hmem).2.2
            · exact (h.bridged _ hmem).2.1
          obtain ⟨x, hxg, hx⟩ := List.mem_flatten.mp hd
          exact ⟨x, ⟨hxg, hx⟩, .inr (hbridge x hx hxg hmem)⟩
      · rintro r r' ⟨hr, hr', e, he, ⟨h1, h2⟩ | ⟨h1, h2⟩⟩
        · exact ⟨e.1, e.2, ⟨hr, h1⟩, ⟨hr', h2⟩, (hreads _ _).mpr (.inr (.inl he))⟩
        · exact ⟨e.2, e.1, ⟨hr, h1⟩, ⟨hr', h2⟩, (hreads _ _).mpr (.inr (.inr he))⟩
    constructor
    · intro hconnected p hp q hq
      obtain ⟨a, ha⟩ := List.exists_mem_of_ne_nil p (h.nonempty p hp)
      obtain ⟨b, hb⟩ := List.exists_mem_of_ne_nil q (h.nonempty q hq)
      refine (hparts p hp q hq a ha b hb).mp (hconnected a ?_ b ?_)
      · rw [hnodes]
        exact List.mem_flatten.mpr ⟨p, hp, ha⟩
      · rw [hnodes]
        exact List.mem_flatten.mpr ⟨q, hq, hb⟩
    · intro hconnect a ha b hb
      rw [hnodes] at ha hb
      obtain ⟨p, hp, ha⟩ := List.mem_flatten.mp ha
      obtain ⟨q, hq, hb⟩ := List.mem_flatten.mp hb
      exact (hparts p hp q hq a ha b hb).mpr (hconnect p hp q hq)

end Clusters

/-! ### The generators -/

/-- **The generators produce what they claim, at every size**: the undirected ring for every number
of neighbours that there is a ring of, the directed ring, the complete graph, the star, and clusters
in both patterns. -/
theorem generators_produce_what_they_claim :
    (∀ (ids : List ℤ) (k : ℤ), ids.Nodup → 2 * k < ids.length →
        k < 1 ∧ ring none k false (some ids) = .error .k ∨
          ∃ g, ring none k false (some ids) = .ok g ∧ g.Undirected ids ∧
            (∀ e ∈ g, e.2.length = 2 * k) ∧ g.StronglyConnected) ∧
      (∀ (ids : List ℤ) (k : ℤ), ids.Nodup → 1 ≤ k → 2 ≤ ids.length →
        ∃ g, ring none k true (some ids) = .ok g ∧ g.SingleCycle ids) ∧
      (∀ ids : List ℤ, ids.Nodup →
        ∃ g, complete none (some ids) = .ok g ∧ g.Undirected ids ∧ g.StronglyConnected) ∧
      (∀ (ids : List ℤ) (hub : ℤ), ids.Nodup → hub ∈ ids →
        ∃ g, star none (some hub) (some ids) = .ok g ∧
          g.Undirected (hub :: ids.filter (· ≠ hub)) ∧ g.StronglyConnected) ∧
      ∀ (groups : List (List ℤ)) (bridges : List (ℤ × ℤ)) (intra : String),
        ClusterArgs groups bridges intra →
          ∃ g, clusters groups bridges intra = .ok g ∧ g.Undirected groups.flatten ∧
            (g.StronglyConnected ↔ BridgesConnect groups bridges) := by
  refine ⟨fun ids k hnodup hroom ↦ ?_, fun ids k hnodup hk htwo ↦ ?_, fun ids hnodup ↦ ?_,
    fun ids hub hnodup hhub ↦ ?_, fun groups bridges intra ↦ clusters_spec⟩
  · obtain hk | hk := lt_or_ge k 1
    · exact .inl ⟨hk, ring_refused hnodup hk false⟩
    · exact .inr ⟨_, ring_undirected hnodup hk hroom, undirected_ring hnodup hk hroom⟩
  · exact ⟨_, ring_directed hnodup hk htwo, singleCycle_ring hnodup htwo⟩
  · exact ⟨_, complete_eq hnodup, undirected_all_pairs hnodup, connected_all_pairs hnodup⟩
  · exact ⟨_, star_eq hnodup hhub, undirected_spokes hnodup hub⟩

end VertexTestbed.Manifest
