import Mathlib

/-!
# Searching a finite graph

`closure` is a breadth-first search over finitely many nodes: as many rounds of `spread` as there
are nodes. It finds exactly what the edges reach (`mem_closure`), since a round that adds nothing is
followed by none that does (`spread_closure`).

Reachability is a matter of cuts: everything is reached from the sources exactly when every set of
nodes without a source is entered by an edge from outside it (`reaches_iff_entered`). And a graph
that falls into connected parts is connected as its parts are (`reaches_iff_parts`).
-/

namespace Reachability

open Relation

variable {α : Type*}

/-! ### Cuts -/

section Cuts

variable {r : α → α → Prop}

/-- A path into a set enters it. -/
theorem exists_entering {s : Set α} {u v : α} (h : ReflTransGen r u v) (hu : u ∉ s) (hv : v ∈ s) :
    ∃ x ∉ s, ∃ y ∈ s, r x y := by
  induction h with
  | refl => exact absurd hv hu
  | @tail x y _ hxy ih =>
    by_cases hx : x ∈ s
    · exact ih hx
    · exact ⟨x, hx, y, hv, hxy⟩

/-- **Everything is reached from the sources exactly when every set without a source is entered.**
-/
theorem reaches_iff_entered {sources targets : Set α} (hr : ∀ x y, r x y → x ∈ targets) :
    (∀ v ∈ targets, ∃ u ∈ sources, ReflTransGen r u v) ↔
      ∀ s ⊆ targets, s.Nonempty → Disjoint s sources → ∃ x ∉ s, ∃ y ∈ s, r x y := by
  constructor
  · rintro hreach s hs ⟨v, hv⟩ hdisjoint
    obtain ⟨u, hu, hpath⟩ := hreach v (hs hv)
    exact exists_entering hpath (fun hmem ↦ Set.disjoint_left.1 hdisjoint hmem hu) hv
  · intro hcut
    by_contra hmissed
    push Not at hmissed
    obtain ⟨w, hw, hnone⟩ := hmissed
    -- what no source reaches is entered by no edge
    obtain ⟨x, hx, y, ⟨-, hy⟩, hxy⟩ := hcut
      {v | v ∈ targets ∧ ∀ u ∈ sources, ¬ReflTransGen r u v} (fun v hv ↦ hv.1) ⟨w, hw, hnone⟩
      (Set.disjoint_left.2 fun v hv hsource ↦ hv.2 v hsource .refl)
    have hreached : ∃ u ∈ sources, ReflTransGen r u x := by
      by_contra hnot
      push Not at hnot
      exact hx ⟨hr x y hxy, hnot⟩
    obtain ⟨u, hu, hpath⟩ := hreached
    exact hy u hu (hpath.tail hxy)

end Cuts

/-! ### Parts -/

section Parts

variable {β : Type*} {r : α → α → Prop} {link : β → β → Prop} (mem : α → β → Prop)

/-- **A graph of connected parts** is connected as its parts are linked. Every vertex of a path is
in a part, an edge stays in a part or follows a link, and every link has an edge. -/
theorem reaches_iff_parts (hinside : ∀ p a b, mem a p → mem b p → ReflTransGen r a b)
    (hunique : ∀ a p q, mem a p → mem a q → p = q)
    (hedge : ∀ a b p, r a b → mem a p → ∃ q, mem b q ∧ (p = q ∨ link p q))
    (hlink : ∀ p q, link p q → ∃ a b, mem a p ∧ mem b q ∧ r a b) {a b : α} {p q : β}
    (ha : mem a p) (hb : mem b q) : ReflTransGen r a b ↔ ReflTransGen link p q := by
  constructor
  · intro hpath
    have hparts : ∀ c, ReflTransGen r a c → ∃ s, mem c s ∧ ReflTransGen link p s := by
      intro c hc
      induction hc with
      | refl => exact ⟨p, ha, .refl⟩
      | tail _ hstep ih =>
        obtain ⟨s, hs, hps⟩ := ih
        obtain ⟨t, ht, rfl | hst⟩ := hedge _ _ s hstep hs
        · exact ⟨s, ht, hps⟩
        · exact ⟨t, ht, hps.tail hst⟩
    obtain ⟨s, hs, hps⟩ := hparts b hpath
    rwa [hunique b q s hb hs]
  · intro hlinks
    induction hlinks generalizing b with
    | refl => exact hinside p a b ha hb
    | tail _ hst ih =>
      obtain ⟨c, d, hc, hd, hcd⟩ := hlink _ _ hst
      exact ((ih hc).tail hcd).trans (hinside _ d b hd hb)

end Parts

/-! ### The search -/

section Search

variable [DecidableEq α] (nodes : Finset α) (edge : α → α → Prop) [DecidableRel edge]

/-- One round: the nodes that an edge leads to from `s`. -/
def spread (s : Finset α) : Finset α :=
  s ∪ nodes.filter fun v ↦ ∃ u ∈ s, edge u v

/-- A breadth-first search from `s`. -/
def closure (s : Finset α) : Finset α :=
  (spread nodes edge)^[nodes.card] s

variable {nodes edge}

theorem mem_spread {s : Finset α} {v : α} :
    v ∈ spread nodes edge s ↔ v ∈ s ∨ v ∈ nodes ∧ ∃ u ∈ s, edge u v := by
  rw [spread, Finset.mem_union, Finset.mem_filter]

theorem subset_spread (s : Finset α) : s ⊆ spread nodes edge s := Finset.subset_union_left

theorem iterate_subset {s : Finset α} (hs : s ⊆ nodes) (n : ℕ) :
    (spread nodes edge)^[n] s ⊆ nodes := by
  induction n with
  | zero => exact hs
  | succ n ih =>
    rw [Function.iterate_succ_apply']
    exact Finset.union_subset ih (Finset.filter_subset _ _)

/-- A search that has not stopped has a new node for every round. -/
theorem le_card_iterate {s : Finset α} {n : ℕ}
    (h : ∀ k < n, spread nodes edge ((spread nodes edge)^[k] s) ≠ (spread nodes edge)^[k] s) :
    n ≤ ((spread nodes edge)^[n] s).card := by
  induction n with
  | zero => exact Nat.zero_le _
  | succ n ih =>
    have hgrows : (spread nodes edge)^[n] s ⊂ spread nodes edge ((spread nodes edge)^[n] s) :=
      (subset_spread _).ssubset_of_ne (h n n.lt_succ_self).symm
    rw [Function.iterate_succ_apply']
    exact (ih fun k hk ↦ h k (Nat.lt_succ_of_lt hk)).trans_lt (Finset.card_lt_card hgrows)

/-- **The search has stopped.** -/
theorem spread_closure {s : Finset α} (hs : s ⊆ nodes) :
    spread nodes edge (closure nodes edge s) = closure nodes edge s := by
  have hstop : ∃ k ≤ nodes.card,
      spread nodes edge ((spread nodes edge)^[k] s) = (spread nodes edge)^[k] s := by
    by_contra hgrows
    push Not at hgrows
    have hcard := le_card_iterate (n := nodes.card + 1) fun k hk ↦ hgrows k (Nat.lt_succ_iff.1 hk)
    exact absurd (Finset.card_le_card (iterate_subset hs _)) (not_le.2 hcard)
  obtain ⟨k, hk, hfixed⟩ := hstop
  have hclosure : closure nodes edge s = (spread nodes edge)^[k] s := by
    rw [closure, ← Nat.sub_add_cancel hk, Function.iterate_add_apply]
    exact Function.iterate_fixed hfixed _
  rw [hclosure, hfixed]

/-- **The search finds what the edges reach.** -/
theorem mem_closure {s : Finset α} (hs : s ⊆ nodes) {v : α} :
    v ∈ closure nodes edge s ↔ ∃ u ∈ s, ReflTransGen (fun x y ↦ edge x y ∧ y ∈ nodes) u v := by
  constructor
  · suffices hsound : ∀ n, ∀ v ∈ (spread nodes edge)^[n] s,
        ∃ u ∈ s, ReflTransGen (fun x y ↦ edge x y ∧ y ∈ nodes) u v from hsound _ v
    intro n
    induction n with
    | zero => exact fun v hv ↦ ⟨v, hv, .refl⟩
    | succ n ih =>
      intro v hv
      rw [Function.iterate_succ_apply', mem_spread] at hv
      obtain hv | ⟨hnode, x, hx, hedge⟩ := hv
      · exact ih v hv
      · obtain ⟨u, hu, hpath⟩ := ih x hx
        exact ⟨u, hu, hpath.tail ⟨hedge, hnode⟩⟩
  · rintro ⟨u, hu, hpath⟩
    induction hpath with
    | refl =>
      exact Function.id_le_iterate_of_id_le subset_spread nodes.card s hu
    | tail _ hstep ih =>
      rw [← spread_closure hs, mem_spread]
      exact .inr ⟨hstep.2, _, ih, hstep.1⟩

end Search

end Reachability
