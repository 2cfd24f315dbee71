import Mathlib

/-!
# Graphs on a ring of seats

Vertices sit around a ring of `n` seats, counted by the integers modulo `n`: `Seated v n` says that
`v` gives two seats the same vertex exactly when they differ by whole turns. A list of offsets makes
a graph of it, in which every vertex has the vertices at these offsets from its own seat
(`around`).

What the offsets are decides what the graph is, and each of the results below needs one property of
them: distinct neighbours (`nodup_around`), no loops (`not_mem_around`), symmetry (`Edge.symm`), and
strong connection, for which one step to either side is enough (`reaches`).
-/

namespace Circulant

open Relation

variable {α : Type*} {v : ℤ → α} {n : ℤ} {offs : List ℤ}

/-- The vertices sit on a ring of `n` seats. -/
def Seated (v : ℤ → α) (n : ℤ) : Prop :=
  ∀ x y, v x = v y ↔ x ≡ y [ZMOD n]

/-- The vertices at the offsets from a seat. -/
def around (v : ℤ → α) (offs : List ℤ) (x : ℤ) : List α :=
  offs.map fun o ↦ v (x + o)

/-- `b` sits at an offset from `a`. -/
def Edge (v : ℤ → α) (offs : List ℤ) (a b : α) : Prop :=
  ∃ x, a = v x ∧ b ∈ around v offs x

theorem mem_around {b : α} {x : ℤ} : b ∈ around v offs x ↔ ∃ o ∈ offs, v (x + o) = b :=
  List.mem_map

theorem nodup_around (hv : Seated v n) (hoffs : offs.Pairwise fun a b ↦ ¬a ≡ b [ZMOD n]) (x : ℤ) :
    (around v offs x).Nodup := by
  refine List.pairwise_map.mpr (hoffs.imp fun {a b} hab heq ↦ hab ?_)
  exact Int.ModEq.add_left_cancel' x ((hv _ _).mp heq)

theorem not_mem_around (hv : Seated v n) (hoffs : ∀ o ∈ offs, ¬o ≡ 0 [ZMOD n]) (x : ℤ) :
    v x ∉ around v offs x := by
  intro hmem
  obtain ⟨o, ho, heq⟩ := mem_around.mp hmem
  have hmod := (hv _ _).mp heq
  rw [← Int.add_zero x, add_assoc, zero_add] at hmod
  exact hoffs o ho (Int.ModEq.add_left_cancel' x hmod)

/-- What sits around one seat of a vertex sits around all of them. -/
theorem mem_around_of_edge (hv : Seated v n) {x : ℤ} {b : α} (h : Edge v offs (v x) b) :
    b ∈ around v offs x := by
  obtain ⟨y, hxy, hb⟩ := h
  obtain ⟨o, ho, rfl⟩ := mem_around.mp hb
  exact mem_around.mpr ⟨o, ho, (hv _ _).mpr (((hv _ _).mp hxy).add_right o)⟩

theorem Edge.symm (hneg : ∀ o ∈ offs, -o ∈ offs) {a b : α} (h : Edge v offs a b) :
    Edge v offs b a := by
  obtain ⟨x, rfl, hb⟩ := h
  obtain ⟨o, ho, rfl⟩ := mem_around.mp hb
  exact ⟨x + o, rfl, mem_around.mpr ⟨-o, hneg o ho, congrArg v (by ring)⟩⟩

/-- `k` steps of one offset. -/
theorem reaches_mul {o : ℤ} (ho : o ∈ offs) (x : ℤ) (k : ℕ) :
    ReflTransGen (Edge v offs) (v x) (v (x + k * o)) := by
  induction k with
  | zero =>
    rw [Nat.cast_zero, zero_mul, add_zero]
  | succ k ih =>
    refine ih.tail ⟨x + k * o, rfl, mem_around.mpr ⟨o, ho, congrArg v ?_⟩⟩
    push_cast
    ring

/-- **A step to one side leads everywhere.** -/
theorem reaches (hv : Seated v n) (hn : 0 < n) {o : ℤ} (ho : o ∈ offs) (hunit : o * o = 1)
    (x y : ℤ) : ReflTransGen (Edge v offs) (v x) (v y) := by
  have hpath := reaches_mul (v := v) ho x (((y - x) * o) % n).toNat
  have hseat : v (x + (((y - x) * o) % n).toNat * o) = v y := by
    refine (hv _ _).mpr ?_
    rw [Int.toNat_of_nonneg (Int.emod_nonneg _ hn.ne')]
    calc x + (y - x) * o % n * o ≡ x + (y - x) * o * o [ZMOD n] :=
          ((Int.mod_modEq _ _).mul_right o).add_left x
      _ = y := by rw [mul_assoc, hunit]; ring
  rwa [hseat] at hpath

end Circulant
