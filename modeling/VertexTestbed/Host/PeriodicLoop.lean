import VertexTestbed.Numeric
import VertexTestbed.Lib.Runs

/-!
# A periodic loop

`Agent._run_periodic` (`agent/agent.py`), on which the control loop and the publish loop run. A lap
sleeps until its deadline, but at least a tenth of the period, and runs the body; the next deadline
is one period further, or further still when that instant has passed.

What the clock and the body do to a lap is its lateness and its duration, both free. The record of
the lateness and the count of the laps are left out: `n` iterations are the first `n` laps.
-/

namespace VertexTestbed.Host

open Runs

variable {K : Type*} [Field K] [LinearOrder K]

/-! ### The loop -/

/-- What one lap is given: how much later than asked its sleep ends, and how long its body runs. -/
structure Lap (K : Type*) [Field K] [LinearOrder K] where
  late : K
  duration : K
  late_nonneg : 0 ≤ late
  duration_nonneg : 0 ≤ duration

/-- The loop between two laps. -/
structure PeriodicLoop (K : Type*) where
  now : K
  next_deadline : K
  deriving DecidableEq

/-- A lap as it is seen from outside: the deadline it slept for, the instant its body started and
the deadline it left behind. -/
structure Beat (K : Type*) where
  deadline : K
  start : K
  next : K
  deriving DecidableEq

namespace PeriodicLoop

variable (period : K)

/-- The loop when it is entered. -/
def init (now : K) : PeriodicLoop K := ⟨now, now + period⟩

/-- When the sleep of a lap ends. -/
def wakeup (s : PeriodicLoop K) (l : Lap K) : K :=
  s.now + max (1 / 10 * period) (s.next_deadline - s.now) + l.late

variable [FloorRing K]

/-- The deadline behind a body that started at `now`: skipped ahead if that is past already. -/
def following (deadline now : K) : K :=
  let next_deadline := deadline + period
  if next_deadline < now then
    let missed := ⌊(now - next_deadline) / period⌋ + 1
    next_deadline + missed * period
  else next_deadline

/-- One lap. -/
def beat (s : PeriodicLoop K) (l : Lap K) : Beat K :=
  let now := s.wakeup period l
  ⟨s.next_deadline, now, following period s.next_deadline now⟩

/-- The loop behind a lap. -/
def step (s : PeriodicLoop K) (l : Lap K) : PeriodicLoop K :=
  ⟨(s.beat period l).start + l.duration, (s.beat period l).next⟩

/-- The laps of a loop. -/
def beats (now : K) (laps : List (Lap K)) : List (Beat K) :=
  outputs (step period) (beat period) (init period now) laps

/-! ### One lap -/

variable [IsStrictOrderedRing K] {period}

omit [FloorRing K] in
/-- No body starts before its deadline, and none within a tenth of the period of the lap before. -/
theorem le_wakeup (s : PeriodicLoop K) (l : Lap K) :
    s.next_deadline ≤ s.wakeup period l ∧ s.now + 1 / 10 * period ≤ s.wakeup period l := by
  have hlate := l.late_nonneg
  have hfloor := le_max_left (1 / 10 * period) (s.next_deadline - s.now)
  have hdelay := le_max_right (1 / 10 * period) (s.next_deadline - s.now)
  rw [wakeup]
  constructor
  · linarith
  · linarith

/-- The next deadline is a later point of the grid. -/
theorem following_grid (hp : 0 < period) (deadline now : K) :
    ∃ k : ℕ, following period deadline now = deadline + (k + 1) * period := by
  rw [following]
  dsimp only
  split_ifs with hpast
  · have hmissed : 0 ≤ ⌊(now - (deadline + period)) / period⌋ :=
      Int.floor_nonneg.2 (div_nonneg (by linarith) hp.le)
    obtain ⟨k, hk⟩ := Int.eq_ofNat_of_zero_le hmissed
    refine ⟨k + 1, ?_⟩
    rw [hk]
    push_cast
    ring
  · exact ⟨0, by push_cast; ring⟩

/-- It lies between the start of the body and one period after it, whether the body's start is on
time, late, or exactly on a deadline that was missed. -/
theorem following_mem (hp : 0 < period) {deadline now : K} (hle : deadline ≤ now) :
    now ≤ following period deadline now ∧ following period deadline now ≤ now + period := by
  rw [following]
  dsimp only
  split_ifs with hpast
  · have hlow := Int.sub_floor_div_mul_nonneg (now - (deadline + period)) hp
    have hhigh := Int.sub_floor_div_mul_lt (now - (deadline + period)) hp
    push_cast
    constructor
    · linarith
    · linarith
  · exact ⟨not_lt.1 hpast, by linarith⟩

/-! ### A whole loop -/

/-- What holds of a lap of a loop that was entered at `now`. -/
structure OnSchedule (period now : K) (b : Beat K) : Prop where
  grid : ∃ k : ℤ, b.deadline = now + k * period
  next_grid : ∃ k : ℤ, b.next = now + k * period
  not_early : b.deadline ≤ b.start
  later : b.deadline < b.next
  next_mem : b.start ≤ b.next ∧ b.next ≤ b.start + period

/-- What holds of two laps that follow each other. -/
structure Follows (period : K) (b c : Beat K) : Prop where
  deadline : c.deadline = b.next
  spaced : b.start + 1 / 10 * period ≤ c.start

theorem onSchedule_beat (hp : 0 < period) {now : K} {s : PeriodicLoop K}
    (hgrid : ∃ k : ℤ, s.next_deadline = now + k * period) (l : Lap K) :
    OnSchedule period now (s.beat period l) := by
  obtain ⟨j, hj⟩ := following_grid hp s.next_deadline (s.wakeup period l)
  have hnext : (s.beat period l).next = s.next_deadline + (j + 1) * period := hj
  have hwake : s.next_deadline ≤ wakeup period s l := (le_wakeup s l).1
  constructor
  · exact hgrid
  · obtain ⟨k, hk⟩ := hgrid
    refine ⟨k + j + 1, ?_⟩
    rw [hnext, hk]
    push_cast
    ring
  · exact hwake
  · rw [hnext]
    have hpos : 0 < ((j : K) + 1) * period := mul_pos (Nat.cast_add_one_pos j) hp
    show s.next_deadline < _
    linarith
  · exact following_mem hp hwake

/-- From any point of the grid on, every lap is on schedule and follows the one before it. -/
theorem outputs_onSchedule (hp : 0 < period) {now : K} {s : PeriodicLoop K}
    (hgrid : ∃ k : ℤ, s.next_deadline = now + k * period) (laps : List (Lap K)) :
    (∀ b ∈ outputs (step period) (beat period) s laps, OnSchedule period now b) ∧
      (∀ b ∈ (outputs (step period) (beat period) s laps).head?,
        b.deadline = s.next_deadline ∧ s.now + 1 / 10 * period ≤ b.start) ∧
      (outputs (step period) (beat period) s laps).IsChain (Follows period) := by
  induction laps generalizing s with
  | nil =>
    refine ⟨fun b hb ↦ ?_, fun b hb ↦ ?_, List.isChain_nil⟩
    · cases hb
    · cases hb
  | cons l laps ih =>
    have hbeat := onSchedule_beat hp hgrid l
    obtain ⟨hall, hhead, hchain⟩ := ih (s := s.step period l) hbeat.next_grid
    rw [outputs]
    refine ⟨List.forall_mem_cons.2 ⟨hbeat, hall⟩, ?_, ?_⟩
    · intro b hb
      cases Option.some.inj hb
      exact ⟨rfl, (le_wakeup s l).2⟩
    · refine List.isChain_cons.2 ⟨fun c hc ↦ ?_, hchain⟩
      obtain ⟨hdeadline, hstart⟩ := hhead c hc
      have hduration := l.duration_nonneg
      have hnow : (s.step period l).now = (s.beat period l).start + l.duration := rfl
      exact ⟨hdeadline, by linarith⟩

/-- **A periodic loop neither drifts nor bursts.** For every period, every instant it is entered at,
every lateness of its wakeups and every duration of its bodies: the deadlines increase strictly and
stay on the grid of the first one, no body starts before its deadline, the next deadline lies
between the start of a body and one period after it, and two bodies in a row start at least a tenth
of the period apart. -/
theorem periodic_no_drift (hp : 0 < period) (now : K) (laps : List (Lap K)) :
    ((beats period now laps).map Beat.deadline).Pairwise (· < ·) ∧
      (∀ b ∈ beats period now laps, OnSchedule period now b) ∧
      (beats period now laps).IsChain (Follows period) := by
  have hgrid : ∃ k : ℤ, (init period now).next_deadline = now + k * period :=
    ⟨1, by rw [init]; push_cast; ring⟩
  obtain ⟨hall, -, hchain⟩ := outputs_onSchedule hp hgrid laps
  refine ⟨?_, hall, hchain⟩
  have hincreasing : ((beats period now laps).map Beat.deadline).IsChain (· < ·) := by
    rw [List.isChain_map]
    refine hchain.imp_of_mem_imp fun b c hb _ hfollows ↦ ?_
    rw [hfollows.deadline]
    exact (hall b hb).later
  exact List.isChain_iff_pairwise.1 hincreasing

/-- A lap of a rational loop. -/
def sampleLap (late duration : ℚ) (h : 0 ≤ late ∧ 0 ≤ duration) : Lap ℚ :=
  ⟨late, duration, h.1, h.2⟩

/-- A period of 1 from 0 on: a lap on time, one whose body runs until exactly the deadline after the
next, and the lap behind it, which starts a tenth of a period late. -/
theorem periodic_no_drift_overrun :
    ((beats (1 : ℚ) 0 [sampleLap 0 2 (by norm_num), sampleLap 0 0 (by norm_num)]).map
        Beat.deadline).Pairwise (· < ·) ∧
      beats (1 : ℚ) 0 [sampleLap 0 2 (by norm_num), sampleLap 0 0 (by norm_num)] =
        [⟨1, 1, 2⟩, ⟨2, 31 / 10, 4⟩] :=
  ⟨(periodic_no_drift one_pos 0 _).1, by decide +kernel⟩

end PeriodicLoop

end VertexTestbed.Host
