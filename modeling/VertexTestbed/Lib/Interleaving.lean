import Mathlib.Data.List.Basic

/-!
# Interleaved tasks, one batch after another

A program that fans out runs a batch of tasks concurrently, waits for all of them, and goes on to
the next batch. What it emits is, batch by batch, some interleaving of what the tasks of the batch
emit: `Interleaved` for one batch, `Staged` for a list of batches.

Every ordering that holds whatever the scheduler does comes from the order of the batches. The rules
are `Staged.append_iff`, which cuts a trace where a batch ends, `Staged.mem_prefix`: what one list
of batches emits comes before what none of them does, and `Staged.last_before`, which says as well
what can come between the two.
-/

namespace Interleaving

variable {ε : Type*}

/-! ### One batch -/

/-- The traces of tasks that run concurrently: each step takes the next element of some task. -/
inductive Interleaved : List (List ε) → List ε → Prop
  | done {tasks} (h : ∀ t ∈ tasks, t = []) : Interleaved tasks []
  | step {before after : List (List ε)} {e : ε} {rest trace : List ε}
      (h : Interleaved (before ++ rest :: after) trace) :
      Interleaved (before ++ (e :: rest) :: after) (e :: trace)

/-- A trace of a batch holds what the tasks of the batch emit, and nothing else. -/
theorem Interleaved.mem_iff {tasks : List (List ε)} {trace : List ε}
    (h : Interleaved tasks trace) {e : ε} : e ∈ trace ↔ ∃ t ∈ tasks, e ∈ t := by
  induction h with
  | done h =>
    constructor
    · intro he
      exact absurd he List.not_mem_nil
    · rintro ⟨t, ht, he⟩
      rw [h t ht] at he
      exact he
  | @step before after x rest trace _ ih =>
    simp only [List.mem_append, List.mem_cons, or_and_right, exists_or, exists_eq_left] at ih ⊢
    rw [ih, or_left_comm, or_assoc]

/-- The scheduler that runs each task to its end before it takes up the next. -/
theorem interleaved_flatten (tasks : List (List ε)) : Interleaved tasks tasks.flatten := by
  induction tasks with
  | nil => exact .done (by simp)
  | cons t tasks ih =>
    induction t with
    | nil =>
      -- a task that has nothing left stands in no one's way
      have skip : ∀ {ts : List (List ε)} {trace : List ε},
          Interleaved ts trace → Interleaved ([] :: ts) trace := by
        intro ts trace h
        induction h with
        | done h => exact .done (by simpa using h)
        | @step before after e rest trace _ ih =>
          show Interleaved (([] :: before) ++ (e :: rest) :: after) (e :: trace)
          exact .step ih
      simpa using skip ih
    | cons e t iht =>
      show Interleaved ([] ++ (e :: t) :: tasks) (e :: (t ++ tasks.flatten))
      exact .step iht

/-! ### Batches in sequence -/

/-- The traces of batches of tasks run one after another, each to its end. -/
inductive Staged : List (List (List ε)) → List ε → Prop
  | nil : Staged [] []
  | cons {batch batches trace rest} (h : Interleaved batch trace) (hs : Staged batches rest) :
      Staged (batch :: batches) (trace ++ rest)

/-- A trace of a list of batches is cut where the first of them end. -/
theorem Staged.append_iff {first second : List (List (List ε))} {trace : List ε} :
    Staged (first ++ second) trace ↔
      ∃ t₁ t₂, Staged first t₁ ∧ Staged second t₂ ∧ trace = t₁ ++ t₂ := by
  induction first generalizing trace with
  | nil =>
    constructor
    · intro h
      exact ⟨[], trace, .nil, h, rfl⟩
    · rintro ⟨t₁, t₂, h₁, h₂, rfl⟩
      cases h₁
      exact h₂
  | cons batch first ih =>
    constructor
    · intro h
      obtain _ | ⟨hb, hs⟩ := h
      obtain ⟨t₁, t₂, h₁, h₂, rfl⟩ := ih.mp hs
      exact ⟨_, t₂, .cons hb h₁, h₂, (List.append_assoc _ _ _).symm⟩
    · rintro ⟨t₁, t₂, h₁, h₂, rfl⟩
      obtain _ | ⟨hb, hs⟩ := h₁
      rw [List.append_assoc]
      exact .cons hb (ih.mpr ⟨_, _, hs, h₂, rfl⟩)

/-- A trace of a list of batches holds what their tasks emit, and nothing else. -/
theorem Staged.mem_iff {batches : List (List (List ε))} {trace : List ε}
    (h : Staged batches trace) {e : ε} : e ∈ trace ↔ ∃ b ∈ batches, ∃ t ∈ b, e ∈ t := by
  induction h with
  | nil => simp
  | cons hb _ ih => simp [hb.mem_iff, ih]

/-- A list without `q` ends before a cut at `q`. -/
theorem cut_after {t₁ t₂ pre suf : List ε} {q : ε} (hq : q ∉ t₁)
    (hcut : t₁ ++ t₂ = pre ++ q :: suf) : ∃ rest, pre = t₁ ++ rest ∧ t₂ = rest ++ q :: suf := by
  obtain ⟨rest, hpre, ht₂⟩ | ⟨rest, rfl, hrest⟩ := List.append_eq_append_iff.mp hcut
  · exact ⟨rest, hpre, ht₂⟩
  · cases rest with
    | nil => exact ⟨[], by simp, by simpa using hrest.symm⟩
    | cons x rest =>
      -- the list would run on past `q`
      obtain ⟨rfl, -⟩ := List.cons_eq_cons.mp hrest
      exact absurd (List.mem_append_right pre List.mem_cons_self) hq

/-- Every list of batches has a trace. -/
theorem staged_flatten (batches : List (List (List ε))) :
    Staged batches (batches.map List.flatten).flatten := by
  induction batches with
  | nil => exact .nil
  | cons b batches ih => exact .cons (interleaved_flatten b) ih

/-- What a list of batches emits comes before what only later batches emit. -/
theorem Staged.mem_prefix {first second : List (List (List ε))} {trace : List ε} {p q : ε}
    (h : Staged (first ++ second) trace) (hp : ∃ b ∈ first, ∃ t ∈ b, p ∈ t)
    (hq : ∀ b ∈ first, ∀ t ∈ b, q ∉ t) {pre suf : List ε} (hcut : trace = pre ++ q :: suf) :
    p ∈ pre := by
  obtain ⟨t₁, t₂, h₁, -, rfl⟩ := Staged.append_iff.mp h
  have hq₁ : q ∉ t₁ := by
    intro hmem
    obtain ⟨b, hb, t, ht, hqt⟩ := h₁.mem_iff.mp hmem
    exact hq b hb t ht hqt
  obtain ⟨rest, rfl, -⟩ := cut_after hq₁ hcut
  exact List.mem_append_left _ (h₁.mem_iff.mpr hp)

/-- **Nothing but the last batches comes between**: if `p` is emitted by the batches `mid` and `q`
by none up to them, then `p` comes before `q`, and after `p` only `mid` and what follows it emit. -/
theorem Staged.last_before {first mid last : List (List (List ε))} {trace : List ε} {p q : ε}
    (h : Staged (first ++ (mid ++ last)) trace) (hp : ∃ b ∈ mid, ∃ t ∈ b, p ∈ t)
    (hq : ∀ b ∈ first ++ mid, ∀ t ∈ b, q ∉ t) {pre suf : List ε}
    (hcut : trace = pre ++ q :: suf) :
    ∃ pre₁ pre₂, pre = pre₁ ++ p :: pre₂ ∧
      ∀ x ∈ pre₂, ∃ b ∈ mid ++ last, ∃ t ∈ b, x ∈ t := by
  obtain ⟨t₁, t₂, h₁, h₂, rfl⟩ := Staged.append_iff.mp h
  have hq₁ : q ∉ t₁ := by
    intro hmem
    obtain ⟨b, hb, t, ht, hqt⟩ := h₁.mem_iff.mp hmem
    exact hq b (List.mem_append_left _ hb) t ht hqt
  -- `q` comes after all of `first`, and what is left of the trace is one of `mid ++ last`
  obtain ⟨rest, rfl, hrest⟩ := cut_after hq₁ hcut
  have hmem : p ∈ rest := h₂.mem_prefix hp (fun b hb ↦ hq b (List.mem_append_right _ hb)) hrest
  obtain ⟨r₁, r₂, rfl⟩ := List.append_of_mem hmem
  refine ⟨t₁ ++ r₁, r₂, (List.append_assoc _ _ _).symm, fun x hx ↦ h₂.mem_iff.mp ?_⟩
  rw [hrest]
  exact List.mem_append_left _ (List.mem_append_right _ (List.mem_cons_of_mem _ hx))

end Interleaving
