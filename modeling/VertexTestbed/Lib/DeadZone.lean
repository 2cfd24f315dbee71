import Mathlib

/-!
# Adaptation behind a dead zone

A quantity `s` (the size of an error) and a counter `u` (the number of increments of an adaptive
gain) move together: the counter moves only while `s` is outside the dead zone `[0, eps]`. A
disturbance adds at most `δ` to `s` in a step. Once the counter has reached `N`, the gain is large
enough that a firing step loses at least `d` and that the dead zone is not left again.

`DeadZoneStep` says this of one step, and `deadZoneBound` bounds the counter over every run of such
steps, by a quantity that depends on the constants and the first value of `s` alone
(`DeadZoneInv.le_bound`). The invariant has two phases. Before `N`, `s` has grown by at most one
`δ` an increment. From `N` on, `d` times the increments plus `s` does not grow while firing; the
last increment may overshoot into the dead zone, which is the extra `d` of the second clause.

The soft threshold `max (|x| - lim) 0` is what a correction clipped at `lim` leaves of `x`; the two
lemmas about pairs are the per-coordinate argument for why a step outside the zone loses `eps / 2`.
-/

variable {K : Type*} [Field K] [LinearOrder K] [IsStrictOrderedRing K]

/-! ### The counter -/

/-- One step of the error size `s` and the increment counter `u`. -/
structure DeadZoneStep (eps δ d : K) (N : ℕ) (s : K) (u : ℕ) (s' : K) (u' : ℕ) : Prop where
  quiet : s ≤ eps → u' = u ∧ s' ≤ eps + δ ∧ (N ≤ u → s' ≤ eps)
  fired : eps < s → u' = u + 1 ∧ s' ≤ s + δ ∧ (N ≤ u → s' ≤ s - d)

/-- The size `s` may have when the counter reaches `N`. -/
def deadZonePeak (eps δ : K) (N : ℕ) (s₀ : K) : K :=
  max s₀ (eps + δ) + δ * N

/-- The bound on the counter. -/
def deadZoneBound [FloorRing K] (eps δ d : K) (N : ℕ) (s₀ : K) : ℕ :=
  N + ⌊(deadZonePeak eps δ N s₀ + d - eps) / d⌋₊

/-- What a run of dead-zone steps keeps. -/
structure DeadZoneInv (eps δ d : K) (N : ℕ) (s₀ s : K) (u : ℕ) : Prop where
  early : u ≤ N → s ≤ max s₀ (eps + δ) + δ * u
  late_size : N ≤ u → eps < s → d * (u - N) + s ≤ deadZonePeak eps δ N s₀
  late_count : N ≤ u → d * (u - N) + eps ≤ deadZonePeak eps δ N s₀ + d

section Counter

variable {eps δ d : K} {N : ℕ} {s₀ s s' : K} {u u' : ℕ}

/-- On reaching `N` the late clauses follow from the early one. -/
theorem DeadZoneInv.of_early (hδ : 0 ≤ δ) (hd : 0 ≤ d) (h : u ≤ N)
    (hs : s ≤ max s₀ (eps + δ) + δ * u) : DeadZoneInv eps δ d N s₀ s u := by
  refine ⟨fun _ ↦ hs, fun hN _ ↦ ?_, fun hN ↦ ?_⟩
  · obtain rfl : u = N := le_antisymm h hN
    rw [sub_self, mul_zero, zero_add]
    exact hs
  · obtain rfl : u = N := le_antisymm h hN
    have hmax : eps + δ ≤ max s₀ (eps + δ) := le_max_right _ _
    have hgrow : 0 ≤ δ * (u : K) := mul_nonneg hδ (Nat.cast_nonneg u)
    rw [sub_self, mul_zero, zero_add, deadZonePeak]
    linarith

theorem DeadZoneInv.init (hδ : 0 ≤ δ) (hd : 0 ≤ d) : DeadZoneInv eps δ d N s₀ s₀ 0 :=
  .of_early hδ hd (Nat.zero_le N) (by simp)

/-- **One step.** -/
theorem DeadZoneInv.step (hδ : 0 ≤ δ) (hd : 0 ≤ d) (hinv : DeadZoneInv eps δ d N s₀ s u)
    (hstep : DeadZoneStep eps δ d N s u s' u') : DeadZoneInv eps δ d N s₀ s' u' := by
  have hmax : eps + δ ≤ max s₀ (eps + δ) := le_max_right _ _
  rcases le_or_gt s eps with hquiet | hfired
  · obtain ⟨rfl, hs', hlate⟩ := hstep.quiet hquiet
    rcases lt_or_ge u' N with hlt | hge
    · refine .of_early hδ hd hlt.le ?_
      have hgrow : 0 ≤ δ * (u' : K) := mul_nonneg hδ (Nat.cast_nonneg u')
      linarith
    · refine ⟨fun h ↦ ?_, fun _ hbig ↦ absurd (hlate hge) (not_le.2 hbig), hinv.late_count⟩
      have hgrow : 0 ≤ δ * (u' : K) := mul_nonneg hδ (Nat.cast_nonneg u')
      linarith
  · obtain ⟨rfl, hs', hlate⟩ := hstep.fired hfired
    rcases lt_or_ge u N with hlt | hge
    · refine .of_early hδ hd hlt ?_
      have hearly := hinv.early hlt.le
      push_cast
      linarith
    · have hpot := hinv.late_size hge hfired
      have hdrop := hlate hge
      refine ⟨fun h ↦ absurd h (by omega), fun _ _ ↦ ?_, fun _ ↦ ?_⟩
      · push_cast
        linarith
      · push_cast
        linarith

/-- **The counter is bounded by a quantity fixed by the constants and the first size.** -/
theorem DeadZoneInv.le_bound [FloorRing K] (hd : 0 < d)
    (hinv : DeadZoneInv eps δ d N s₀ s u) : u ≤ deadZoneBound eps δ d N s₀ := by
  rcases le_or_gt u N with h | h
  · exact h.trans (Nat.le_add_right _ _)
  · have hcount := hinv.late_count h.le
    have hle : ((u - N : ℕ) : K) ≤ (deadZonePeak eps δ N s₀ + d - eps) / d := by
      rw [le_div_iff₀ hd, Nat.cast_sub h.le]
      linarith
    have hfloor := Nat.le_floor hle
    rw [deadZoneBound]
    omega

end Counter

/-- A bounded monotone sequence of counts is eventually constant. -/
theorem exists_eventually_eq_of_monotone {c : ℕ → ℕ} (hmono : Monotone c) {B : ℕ}
    (hB : ∀ n, c n ≤ B) : ∃ n₀, ∀ n, n₀ ≤ n → c n = c n₀ := by
  obtain ⟨_, ⟨n₀, rfl⟩, hmin⟩ :=
    wellFounded_lt.has_min (Set.range fun n ↦ B - c n) ⟨_, 0, rfl⟩
  refine ⟨n₀, fun n hn ↦ ?_⟩
  have hle : ¬ B - c n < B - c n₀ := hmin _ ⟨n, rfl⟩
  have hup := hmono hn
  have hbound := hB n
  omega

/-! ### The soft threshold -/

/-- What a correction clipped at `lim` leaves of `x`. -/
def softThreshold (lim x : K) : K :=
  max (|x| - lim) 0

section Soft

variable {lim eps x y : K}

theorem softThreshold_le_abs (hlim : 0 ≤ lim) (x : K) : softThreshold lim x ≤ |x| :=
  max_le (by linarith) (abs_nonneg x)

/-- A coordinate above half the zone loses at least half the zone. -/
theorem softThreshold_le_sub (h : eps / 2 ≤ lim) (hx : eps / 2 ≤ |x|) :
    softThreshold lim x ≤ |x| - eps / 2 :=
  max_le (by linarith) (by linarith)

/-- Inside the zone, at most half the zone is left. -/
theorem softThreshold_add_le_of_quiet (h : eps / 2 ≤ lim) (heps : 0 ≤ eps)
    (hxy : |x| + |y| ≤ eps) : softThreshold lim x + softThreshold lim y ≤ eps / 2 := by
  have hx := abs_nonneg x
  have hy := abs_nonneg y
  rw [softThreshold, softThreshold]
  rcases le_total (|x| - lim) 0 with hx' | hx' <;> rcases le_total (|y| - lim) 0 with hy' | hy'
  · rw [max_eq_right hx', max_eq_right hy']
    linarith
  · rw [max_eq_right hx', max_eq_left hy']
    linarith
  · rw [max_eq_left hx', max_eq_right hy']
    linarith
  · rw [max_eq_left hx', max_eq_left hy']
    linarith

/-- Outside the zone, at least half the zone is lost. -/
theorem softThreshold_add_le_of_fired (h : eps / 2 ≤ lim) (heps : 0 ≤ eps)
    (hxy : eps < |x| + |y|) :
    softThreshold lim x + softThreshold lim y ≤ |x| + |y| - eps / 2 := by
  have hlim : 0 ≤ lim := by linarith
  rcases le_total (eps / 2) |x| with hx | hx
  · have hleft := softThreshold_le_sub h hx
    have hright := softThreshold_le_abs hlim y
    linarith
  · have hy : eps / 2 ≤ |y| := by linarith
    have hleft := softThreshold_le_abs hlim x
    have hright := softThreshold_le_sub h hy
    linarith

end Soft
