import VertexTestbed.Lib.OrderStatistics
import VertexTestbed.Lib.Rounding

/-!
# The delay percentiles of the agent service

`_percentiles` of `agent/service.py`, which summarizes the one-way delays of a link for the run's
status: the samples are sorted, and the percentile `p` of `n` of them is read at the rank
`round(p / 100 * n)`, ties to even, clamped into the list.

The documentation calls the result **nearest-rank**, and the nearest-rank percentile is read at the
*ceiling* of `p / 100 * n`. The two ranks agree when the product rounds up or is an integer, and a
product of at most one is clamped to the first sample either way; where it rounds down past that,
the code reads one rank too low, and the result is right only if the two samples there are equal.
`percentile_nearestRank_iff` is the exact condition.

The dictionary is an association list keyed by the number that the source formats into its key.
-/

namespace VertexTestbed

namespace Host

open OrderStatistics

/-! ### The source -/

/-- `sorted(values)`. -/
def sortedValues (values : List ℤ) : List ℤ :=
  values.mergeSort (· ≤ ·)

/-- `min(len(xs) - 1, max(0, round(p / 100 * len(xs)) - 1))`. -/
def rankIndex (n : ℕ) (p : ℚ) : ℤ :=
  min (n - 1) (max 0 (roundHalfEven (p / 100 * n) - 1))

theorem sortedValues_perm (values : List ℤ) : (sortedValues values).Perm values :=
  values.mergeSort_perm _

theorem sortedValues_pairwise (values : List ℤ) : (sortedValues values).Pairwise (· ≤ ·) := by
  have h : (values.mergeSort fun x y ↦ decide (x ≤ y)).Pairwise fun x y ↦ decide (x ≤ y) :=
    List.pairwise_mergeSort (by simpa using fun a b c ↦ le_trans) (by simpa using le_total) values
  simpa only [decide_eq_true_eq, sortedValues] using h

theorem length_sortedValues (values : List ℤ) : (sortedValues values).length = values.length :=
  (sortedValues_perm values).length_eq

/-- The clamped rank is an index of the list, so the lookup cannot fail. -/
theorem rankIndex_lt {values : List ℤ} (h : values ≠ []) (p : ℚ) :
    (rankIndex (sortedValues values).length p).toNat < (sortedValues values).length := by
  have hlen : 0 < (sortedValues values).length := by
    rw [length_sortedValues]
    exact List.length_pos_of_ne_nil h
  rw [rankIndex]
  omega

/-- `_percentiles`: empty in, empty out. -/
def percentiles (values : List ℤ) (pct : List ℚ) : List (ℚ × ℤ) :=
  if h : values = [] then []
  else
    pct.map fun p ↦
      (p, (sortedValues values).get
        ⟨(rankIndex (sortedValues values).length p).toNat, rankIndex_lt h p⟩)

/-- The default of `pct`. -/
def defaultPct : List ℚ :=
  [10, 25, 50, 75, 90, 99]

/-! ### What is read -/

/-- A requested percentile is reported, and its value is the sample at the clamped rank. -/
theorem lookup_percentiles {values : List ℤ} (h : values ≠ []) {pct : List ℚ} {p : ℚ}
    (hp : p ∈ pct) :
    (percentiles values pct).lookup p =
      some ((sortedValues values).get
        ⟨(rankIndex (sortedValues values).length p).toNat, rankIndex_lt h p⟩) := by
  simp only [percentiles, dif_neg h]
  induction pct with
  | nil => simp at hp
  | cons q pct ih =>
    by_cases hq : p = q
    · subst hq
      simp
    · have hne : (p == q) = false := by simpa using hq
      simp only [List.map_cons, List.lookup_cons, hne]
      exact ih ((List.mem_cons.mp hp).resolve_left hq)

theorem lookup_percentiles_eq {values : List ℤ} (h : values ≠ []) {pct : List ℚ} {p : ℚ}
    (hp : p ∈ pct) :
    (percentiles values pct).lookup p =
      (sortedValues values)[(rankIndex (sortedValues values).length p).toNat]? := by
  rw [lookup_percentiles h hp, List.get_eq_getElem, List.getElem?_eq_getElem (rankIndex_lt h p)]

/-! ### Nearest rank -/

/-- **The nearest-rank percentile**: a sample that at least `p` percent of the samples do not
exceed, and the smallest such sample. -/
structure NearestRank (values : List ℤ) (p : ℚ) (v : ℤ) : Prop where
  /-- It is one of the samples. -/
  mem : v ∈ values
  /-- At least `p` percent of the samples are at or below it. -/
  enough : p / 100 * values.length ≤ (values.countP (· ≤ v) : ℚ)
  /-- No smaller sample has that many. -/
  least : ∀ w ∈ values, p / 100 * values.length ≤ (values.countP (· ≤ w) : ℚ) → v ≤ w

/-- The nearest-rank percentile is the order statistic at the ceiling of the product. -/
theorem nearestRank_iff_isRank (values : List ℤ) (p : ℚ) (v : ℤ) :
    NearestRank values p v ↔ IsRank values ⌈p / 100 * values.length⌉₊ v := by
  constructor
  · intro h
    exact ⟨h.mem, Nat.ceil_le.mpr h.enough, fun w hw hk ↦ h.least w hw (Nat.ceil_le.mp hk)⟩
  · intro h
    exact ⟨h.mem, Nat.ceil_le.mp h.enough, fun w hw hk ↦ h.least w hw (Nat.ceil_le.mpr hk)⟩

/-! ### Rounding against the ceiling -/

/-- Rounding `s` half to even reaches its ceiling, or falls on the first rank, which the clamp
gives to both. -/
def RoundsToCeil (s : ℚ) : Prop :=
  s ≤ 1 ∨ s = ⌊s⌋ ∨ 1 / 2 < s - ⌊s⌋ ∨ (s - ⌊s⌋ = 1 / 2 ∧ ⌊s⌋ % 2 = 1)

/-- Where it does, the clamped index is one below the ceiling. -/
theorem clamped_eq_of_roundsToCeil {n : ℕ} {s : ℚ} (hpos : 0 < s) (hle : s ≤ n)
    (h : RoundsToCeil s) : min (n - 1 : ℤ) (max 0 (roundHalfEven s - 1)) = ⌈s⌉₊ - 1 := by
  have hcast : (⌈s⌉₊ : ℤ) = ⌈s⌉ := Int.natCast_ceil_eq_ceil hpos.le
  have hone : 1 ≤ ⌈s⌉₊ := Nat.one_le_ceil_iff.mpr hpos
  have hn : ⌈s⌉₊ ≤ n := Nat.ceil_le.mpr hle
  obtain hfirst | hup := h
  · have hceil : ⌈s⌉₊ ≤ 1 := Nat.ceil_le.mpr (by simpa using hfirst)
    obtain hr | hr := roundHalfEven_eq_ceil_or s <;> omega
  · have hr := (roundHalfEven_eq_ceil_iff s).mpr hup
    omega

/-- Where it does not, the ceiling is at least two and the clamped index is two below it. -/
theorem clamped_eq_of_not_roundsToCeil {n : ℕ} {s : ℚ} (hpos : 0 < s) (hle : s ≤ n)
    (h : ¬RoundsToCeil s) :
    2 ≤ ⌈s⌉₊ ∧ min (n - 1 : ℤ) (max 0 (roundHalfEven s - 1)) = ⌈s⌉₊ - 2 := by
  obtain ⟨hbig, hdown⟩ := not_or.mp h
  have hcast : (⌈s⌉₊ : ℤ) = ⌈s⌉ := Int.natCast_ceil_eq_ceil hpos.le
  have htwo : 1 < ⌈s⌉₊ := Nat.lt_ceil.mpr (by simpa using hbig)
  have hn : ⌈s⌉₊ ≤ n := Nat.ceil_le.mpr hle
  have hr := (roundHalfEven_eq_ceil_or s).resolve_left
    fun hup ↦ hdown ((roundHalfEven_eq_ceil_iff s).mp hup)
  omega

/-! ### When the reported percentile is the nearest rank -/

/-- The value at a position of the sorted samples is the nearest-rank percentile when the position
is one below the ceiling. -/
theorem nearestRank_get {values : List ℤ} {p : ℚ} (i : Fin (sortedValues values).length)
    (hi : i.val + 1 = ⌈p / 100 * values.length⌉₊) (v : ℤ) :
    NearestRank values p v ↔ v = (sortedValues values).get i := by
  rw [nearestRank_iff_isRank, ← hi]
  exact isRank_iff_getElem (sortedValues_perm values) (sortedValues_pairwise values) i i.isLt v

/-- **The reported percentile is the nearest-rank one exactly when** the product rounds to its
ceiling, or the two samples around the rank are equal. -/
theorem percentile_nearestRank_iff (values : List ℤ) (pct : List ℚ) (p : ℚ)
    (hne : values ≠ []) (hp : p ∈ pct) (hpos : 0 < p) (hle : p ≤ 100) :
    (∃ v, (percentiles values pct).lookup p = some v ∧ NearestRank values p v) ↔
      RoundsToCeil (p / 100 * values.length) ∨
        TiedAt values ⌈p / 100 * values.length⌉₊ := by
  have hlen := length_sortedValues values
  have hn : 0 < values.length := List.length_pos_of_ne_nil hne
  have hspos : 0 < p / 100 * values.length := by positivity
  have hsle : p / 100 * values.length ≤ values.length :=
    mul_le_of_le_one_left (Nat.cast_nonneg _) (by linarith)
  have hceil : ⌈p / 100 * values.length⌉₊ ≤ values.length := Nat.ceil_le.mpr hsle
  have hone : 1 ≤ ⌈p / 100 * values.length⌉₊ := Nat.one_le_ceil_iff.mpr hspos
  -- What is reported is the sample at the clamped index, so only that sample is in question.
  have hlookup : (∃ v, (percentiles values pct).lookup p = some v ∧ NearestRank values p v) ↔
      NearestRank values p ((sortedValues values).get
        ⟨(rankIndex (sortedValues values).length p).toNat, rankIndex_lt hne p⟩) := by
    simp only [lookup_percentiles hne hp, Option.some.injEq, exists_eq_left']
  rw [hlookup]
  by_cases h : RoundsToCeil (p / 100 * values.length)
  · refine iff_of_true ?_ (Or.inl h)
    have hidx : rankIndex (sortedValues values).length p = ⌈p / 100 * values.length⌉₊ - 1 := by
      rw [rankIndex, hlen]
      exact clamped_eq_of_roundsToCeil hspos hsle h
    exact (nearestRank_get _ (by simp only [hidx]; omega) _).mpr rfl
  · obtain ⟨htwo, hidx⟩ := clamped_eq_of_not_roundsToCeil (n := values.length) hspos hsle h
    rw [or_iff_right h]
    obtain ⟨k, hk⟩ := Nat.exists_eq_add_of_le' htwo
    have hindex : (rankIndex (sortedValues values).length p).toNat = k := by
      rw [rankIndex, hlen]
      omega
    have hnext : k + 1 < (sortedValues values).length := by omega
    -- The sample read has rank one too low, so it has to equal the sample behind it.
    rw [nearestRank_get ⟨k + 1, hnext⟩ (by simpa using hk.symm), hk,
      tiedAt_iff_getElem (sortedValues_perm values) (sortedValues_pairwise values) k hnext]
    simp only [List.get_eq_getElem, hindex]

/-! ### Five delays -/

/-- Five samples, in microseconds, in the order they came. -/
def fiveDelays : List ℤ :=
  [100, 200, 300, 400, 500]

theorem sortedValues_fiveDelays : sortedValues fiveDelays = fiveDelays :=
  List.mergeSort_of_pairwise (by decide)

/-- The upper quartile of the five is the nearest-rank one: `3.75` rounds up. -/
theorem percentile_nearestRank_fiveDelays :
    ∃ v, (percentiles fiveDelays defaultPct).lookup 75 = some v ∧ NearestRank fiveDelays 75 v :=
  (percentile_nearestRank_iff fiveDelays defaultPct 75 (by decide) (by simp [defaultPct])
    (by norm_num) (by norm_num)).mpr
    (Or.inl (Or.inr (Or.inr (Or.inl (by decide +kernel)))))

/-- **Half of five delays.** `2.5` rounds down to the even neighbour, so the median of the five is
reported as the second of them, which only two of the five do not exceed. -/
theorem median_of_fiveDelays :
    (percentiles fiveDelays defaultPct).lookup 50 = some 200 ∧
      ¬NearestRank fiveDelays 50 200 := by
  constructor
  · rw [lookup_percentiles_eq (by decide) (by simp [defaultPct]), sortedValues_fiveDelays]
    decide +kernel
  · intro h
    have henough := h.enough
    rw [show fiveDelays.countP (· ≤ 200) = 2 by decide] at henough
    norm_num [fiveDelays] at henough

end Host

end VertexTestbed
