import Mathlib

/-!
# Order statistics of a list

Over any linear order, the **`k`-th smallest** element of a list, repetitions counted, is named
without sorting anything: it is a member with at least `k` entries at or below it, and the least
such member (`IsRank`). For `k` between one and the length it exists, it is unique, and it is what
stands at position `k - 1` once the list is sorted (`isRank_iff_getElem`).

Everything rests on one fact about a sorted list, `getElem_iff_lt_countP`: the entries satisfying a
predicate that is inherited downward form an initial segment, so the entry at a position satisfies
it exactly when more entries than the position's index do.
-/

namespace OrderStatistics

variable {α : Type*} [LinearOrder α]

/-! ### Counting in a sorted list -/

/-- **A downward predicate holds on an initial segment**, whose length is its count. -/
theorem getElem_iff_lt_countP {P : α → Bool} (hP : ∀ x y, x ≤ y → P y → P x) {xs : List α}
    (hxs : xs.Pairwise (· ≤ ·)) (i : ℕ) (hi : i < xs.length) : P xs[i] ↔ i < xs.countP P := by
  induction xs generalizing i with
  | nil => simp at hi
  | cons x xs ih =>
    obtain ⟨hx, hxs⟩ := List.pairwise_cons.mp hxs
    by_cases h : P x
    · rw [List.countP_cons_of_pos h]
      cases i with
      | zero => simpa using h
      | succ i =>
        rw [List.getElem_cons_succ, ih hxs i (by simpa using hi)]
        omega
    · -- The least entry fails, so every entry does and the count is zero.
      have hnone : ∀ y ∈ x :: xs, ¬P y := by
        intro y hy hPy
        obtain rfl | hy := List.mem_cons.mp hy
        · exact h hPy
        · exact h (hP x y (hx y hy) hPy)
      have hzero : (x :: xs).countP P = 0 := List.countP_eq_zero.mpr hnone
      have hfails := hnone _ (List.getElem_mem hi)
      simp only [hzero, Nat.not_lt_zero, iff_false]
      exact hfails

theorem getElem_le_iff {xs : List α} (hxs : xs.Pairwise (· ≤ ·)) (i : ℕ) (hi : i < xs.length)
    (v : α) : xs[i] ≤ v ↔ i < xs.countP (· ≤ v) := by
  have h := getElem_iff_lt_countP (P := fun x ↦ decide (x ≤ v))
    (fun x y hxy hy ↦ by simpa using hxy.trans (by simpa using hy)) hxs i hi
  simpa using h

theorem getElem_lt_iff {xs : List α} (hxs : xs.Pairwise (· ≤ ·)) (i : ℕ) (hi : i < xs.length)
    (v : α) : xs[i] < v ↔ i < xs.countP (· < v) := by
  have h := getElem_iff_lt_countP (P := fun x ↦ decide (x < v))
    (fun x y hxy hy ↦ by simpa using hxy.trans_lt (by simpa using hy)) hxs i hi
  simpa using h

/-! ### The `k`-th smallest -/

/-- `v` is the least member of `l` with at least `k` entries of `l` at or below it. -/
structure IsRank (l : List α) (k : ℕ) (v : α) : Prop where
  /-- It is one of the entries. -/
  mem : v ∈ l
  /-- Enough entries are at or below it. -/
  enough : k ≤ l.countP (· ≤ v)
  /-- No smaller entry has as many. -/
  least : ∀ w ∈ l, k ≤ l.countP (· ≤ w) → v ≤ w

theorem IsRank.unique {l : List α} {k : ℕ} {v w : α} (hv : IsRank l k v) (hw : IsRank l k w) :
    v = w :=
  le_antisymm (hv.least w hw.mem hw.enough) (hw.least v hv.mem hv.enough)

/-- The order of the list does not matter. -/
theorem IsRank.perm {l l' : List α} (h : l.Perm l') {k : ℕ} {v : α} (hv : IsRank l k v) :
    IsRank l' k v where
  mem := h.mem_iff.mp hv.mem
  enough := by simpa only [h.countP_eq] using hv.enough
  least := fun w hw hk ↦ hv.least w (h.mem_iff.mpr hw) (by simpa only [h.countP_eq] using hk)

/-- **The entry at position `k - 1` of a sorted list is its `k`-th smallest.** -/
theorem isRank_getElem {xs : List α} (hxs : xs.Pairwise (· ≤ ·)) (i : ℕ) (hi : i < xs.length) :
    IsRank xs (i + 1) xs[i] where
  mem := List.getElem_mem hi
  enough := (getElem_le_iff hxs i hi _).mp le_rfl
  least := fun w _ hk ↦ (getElem_le_iff hxs i hi w).mpr hk

theorem isRank_iff_getElem {xs l : List α} (hperm : xs.Perm l) (hxs : xs.Pairwise (· ≤ ·))
    (i : ℕ) (hi : i < xs.length) (v : α) : IsRank l (i + 1) v ↔ v = xs[i] := by
  have hrank : IsRank l (i + 1) xs[i] := (isRank_getElem hxs i hi).perm hperm
  constructor
  · exact fun hv ↦ hv.unique hrank
  · rintro rfl
    exact hrank

/-! ### Neighbouring ranks -/

/-- The entries of rank `k - 1` and `k` are equal: some entry has at most `k - 2` entries strictly
below it and at least `k` at or below it. -/
def TiedAt (l : List α) (k : ℕ) : Prop :=
  ∃ v ∈ l, l.countP (· < v) + 2 ≤ k ∧ k ≤ l.countP (· ≤ v)

instance (l : List α) (k : ℕ) : Decidable (TiedAt l k) :=
  inferInstanceAs (Decidable (∃ v ∈ l, _))

theorem tiedAt_iff_getElem {xs l : List α} (hperm : xs.Perm l) (hxs : xs.Pairwise (· ≤ ·))
    (i : ℕ) (hi : i + 1 < xs.length) : TiedAt l (i + 2) ↔ xs[i] = xs[i + 1] := by
  simp only [TiedAt, ← hperm.countP_eq]
  constructor
  · rintro ⟨v, -, hbelow, hupto⟩
    have hlow : v ≤ xs[i] := by
      rw [← not_lt, getElem_lt_iff hxs i (by omega)]
      omega
    have hhigh : xs[i + 1] ≤ v := by
      rw [getElem_le_iff hxs (i + 1) hi]
      omega
    have hsorted : xs[i] ≤ xs[i + 1] :=
      List.pairwise_iff_getElem.mp hxs i (i + 1) (by omega) hi (by omega)
    exact le_antisymm hsorted (hhigh.trans hlow)
  · intro h
    refine ⟨xs[i], hperm.mem_iff.mp (List.getElem_mem (by omega)), ?_, ?_⟩
    · have hbelow := (getElem_lt_iff hxs i (by omega) xs[i]).not.mp (lt_irrefl _)
      omega
    · have hupto := (getElem_le_iff hxs (i + 1) hi xs[i]).mp h.ge
      omega

end OrderStatistics
