import Mathlib

/-!
# Averages stay in an interval

Three facts that carry an interval through a network of averaging nodes: a sum of `n` values of
`[lo, hi]` lies in `[n lo, n hi]`, a weighted sum divided by its total weight lies in `[lo, hi]`,
and so does a convex combination of two values. Nothing is assumed of how stale the values are or
how often one of them is used.
-/

variable {K : Type*} [Field K] [LinearOrder K] [IsStrictOrderedRing K] {lo hi : K}

/-- A sum of values of an interval. -/
theorem foldl_add_mem_Icc {α : Type*} {f : α → K} {l : List α} (h : ∀ x ∈ l, f x ∈ Set.Icc lo hi)
    {s : K} {n : K} (hs : s ∈ Set.Icc (n * lo) (n * hi)) :
    l.foldl (fun s x ↦ s + f x) s ∈ Set.Icc ((n + l.length) * lo) ((n + l.length) * hi) := by
  induction l generalizing s n with
  | nil => simpa using hs
  | cons x l ih =>
    have hx := h x List.mem_cons_self
    have hnext : s + f x ∈ Set.Icc ((n + 1) * lo) ((n + 1) * hi) := by
      rw [add_mul, add_mul, one_mul, one_mul]
      exact ⟨add_le_add hs.1 hx.1, add_le_add hs.2 hx.2⟩
    have htail := ih (fun y hy ↦ h y (List.mem_cons_of_mem x hy)) hnext
    rw [List.foldl_cons, List.length_cons]
    push_cast
    rwa [add_comm (l.length : K) 1, ← add_assoc]

/-- **A pinned average of interval values is an interval value.** `b` weighs one more value `r`. -/
theorem pinned_average_mem_Icc {α : Type*} {f : α → K} {l : List α} {b r : K}
    (h : ∀ x ∈ l, f x ∈ Set.Icc lo hi) (hb : 0 ≤ b) (hr : r ∈ Set.Icc lo hi)
    (hD : 0 < (l.length : K) + b) :
    (l.foldl (fun s x ↦ s + f x) 0 + b * r) / ((l.length : K) + b) ∈ Set.Icc lo hi := by
  have hsum := foldl_add_mem_Icc (s := 0) (n := 0) h (by simp)
  rw [zero_add] at hsum
  have hlo := mul_le_mul_of_nonneg_left hr.1 hb
  have hhi := mul_le_mul_of_nonneg_left hr.2 hb
  rw [Set.mem_Icc, le_div_iff₀ hD, div_le_iff₀ hD]
  constructor
  · linarith [hsum.1]
  · linarith [hsum.2]

/-- **A convex combination of interval values is an interval value.** -/
theorem convex_mem_Icc {x y θ : K} (hx : x ∈ Set.Icc lo hi) (hy : y ∈ Set.Icc lo hi) (h₀ : 0 ≤ θ)
    (h₁ : θ ≤ 1) : (1 - θ) * x + θ * y ∈ Set.Icc lo hi := by
  have hconvex := convex_Icc lo hi hx hy (sub_nonneg.2 h₁) h₀ (sub_add_cancel 1 θ)
  simpa only [smul_eq_mul] using hconvex
